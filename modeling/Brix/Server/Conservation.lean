import Brix.Server.Ledger

/-!
# Conservation of money

Money enters the ledger by registrations and leaves it by removals; a transfer
moves it.  `Ledger.money` is the exact sum of the balances, as a natural number.
One operation keeps

  `money + paid out = money before + issued`

as long as `money before` fits in the 64 bits of one balance (`money_apply`), which
is what makes the receiver's credit exact: the two parties together never hold
more than all of it.  `money_applyAll` is the same over a sequence of calls.

### What is load-bearing

Conservation is about natural numbers and the balances are machine words, so there are two things
to prove, and the second one is the harder.  That the sum of two balances is kept is true of the
words modulo 2⁶⁴ without any condition.  That it is the sum which is meant needs a bound, and the
bound has to be known before the transfer in order to exclude the wrap in it.  The bound is not on
single balances but on all the money there is, because that is what an operation keeps: the
receiver's balance after a transfer is a part of the money before it (`exactTransfer_of_fits`).
-/

namespace Brix

open Finmap (total)

/-- The sum of all balances in a record table. -/
def sumOfBalances (records : Records) : ℕ :=
  total (fun record : ClientRecord => record.balance.toNat) records

/-- What one finished call brought into the ledger. -/
def issued : DbCall × Outcome → ℕ
  | (.registerClient _, .returned response) => if response.success then 1 else 0
  | _ => 0

/-- What one finished call paid out.

`remove_client` returns the record that it has erased, and that is what the client takes away. -/
def paidOut : DbCall × Outcome → ℕ
  | (.removeClient _, .returned response) =>
      if response.success then response.record.balance.toNat else 0
  | _ => 0

/-- The number of successful registrations. -/
def registrations (log : List (DbCall × Outcome)) : ℕ := (log.map issued).sum

/-- The balances returned by successful removals. -/
def removedBalances (log : List (DbCall × Outcome)) : ℕ := (log.map paidOut).sum

/-- If the call gets to move money, `balance -= amount` does not underflow and
`balance += amount` does not wrap. -/
def ExactTransfer (db : DbManager) : DbCall → Prop
  | .makeTransaction senderIp receiverIp amount =>
      ∀ sender receiver, db.databaseRecords.lookup senderIp = some sender →
        db.databaseRecords.lookup receiverIp = some receiver → senderIp ≠ receiverIp →
        ¬ sender.balance < amount →
        (sender.balance - amount).toNat + amount.toNat = sender.balance.toNat ∧
          (receiver.balance + amount).toNat = receiver.balance.toNat + amount.toNat
  | _ => True

/-- While all balances together fit in one balance, every transfer is exact. -/
theorem exactTransfer_of_fits (db : DbManager)
    (hfits : sumOfBalances db.databaseRecords < 2 ^ 64) (call : DbCall) :
    ExactTransfer db call := by
  cases call with
  | registerClient ip => exact trivial
  | removeClient ip => exact trivial
  | makeTransaction senderIp receiverIp amount =>
      intro sender receiver hsender hreceiver hself hcovered
      have hboth : sender.balance.toNat + receiver.balance.toNat
          ≤ sumOfBalances db.databaseRecords :=
        Finmap.add_le_total (fun record : ClientRecord => record.balance.toNat) hself hsender
          hreceiver
      have hamount : amount ≤ sender.balance := UInt64.not_lt.mp hcovered
      have hle : amount.toNat ≤ sender.balance.toNat := UInt64.le_iff_toNat_le.mp hamount
      refine ⟨?_, ?_⟩
      · rw [UInt64.toNat_sub_of_le _ _ hamount]
        omega
      · rw [UInt64.toNat_add, Nat.mod_eq_of_lt (by omega)]

namespace Ledger

/-- The money in a ledger. -/
def money (ledger : Ledger) : ℕ := sumOfBalances ledger.records

/-- The same for a ledger. -/
theorem exactTransfer (ledger : Ledger) (hfits : ledger.money < 2 ^ 64) (call : DbCall) :
    ExactTransfer ledger.toDbManager call :=
  exactTransfer_of_fits ledger.toDbManager hfits call

/-- The totals are no money. -/
@[simp] theorem money_withTotals (ledger : Ledger) (f : DbMetadata → DbMetadata) :
    (ledger.withTotals f).money = ledger.money := rfl

/-- A new record brings its balance. -/
theorem money_store_of_notMem (ledger : Ledger) (record : ClientRecord)
    (h : record.ip ∉ ledger.records) :
    (ledger.store record).money = record.balance.toNat + ledger.money :=
  Finmap.total_insert_of_notMem (fun record : ClientRecord => record.balance.toNat) h record

/-- A stored record whose balance is the old one moves no money. -/
theorem money_store_of_balance_eq (ledger : Ledger) (record old : ClientRecord)
    (h : ledger.records.lookup record.ip = some old) (hbalance : record.balance = old.balance) :
    (ledger.store record).money = ledger.money := by
  have := Finmap.total_insert_add (fun record : ClientRecord => record.balance.toNat) h record
  simp only [hbalance] at this
  exact Nat.add_right_cancel this

/-- A transfer moves money and keeps its sum. -/
theorem money_transfer (ledger : Ledger) (senderIp receiverIp : InAddr) (amount : UInt64)
    (hfits : ledger.money < 2 ^ 64) :
    (ledger.transfer senderIp receiverIp amount).2.money = ledger.money := by
  rcases ledger.transfer_cases senderIp receiverIp amount with ⟨-, -, -, hsame⟩ |
    ⟨-, sender, _, hsender, -, -, -, heq⟩ |
    ⟨-, sender, receiver, hsender, hreceiver, hself, hcovered, heq⟩
  · rw [hsame]
  · have hip : sender.ip = senderIp := ledger.keyed _ _ hsender
    rw [heq]
    exact money_store_of_balance_eq _ _ sender (by rw [← hip] at hsender; exact hsender) rfl
  · have hip : sender.ip = senderIp := ledger.keyed _ _ hsender
    have hip' : receiver.ip = receiverIp := ledger.keyed _ _ hreceiver
    obtain ⟨hdebit, hcredit⟩ := ledger.exactTransfer hfits
      (.makeTransaction senderIp receiverIp amount) sender receiver hsender hreceiver hself
      (UInt64.not_lt.mpr hcovered)
    rw [heq]
    subst hip hip'
    exact Finmap.total_move (fun record : ClientRecord => record.balance.toNat)
      hself hsender hreceiver hdebit hcredit

/-- **One operation.**  What is in the ledger afterwards, together with what was
paid out, is what was in it before and what was issued. -/
theorem money_apply (ledger : Ledger) (call : DbCall) (hfits : ledger.money < 2 ^ 64) :
    (ledger.apply call).2.money + paidOut (call, .returned (ledger.apply call).1)
      = ledger.money + STARTING_BALANCE.toNat
          * issued (call, .returned (ledger.apply call).1) := by
  cases call with
  | makeTransaction senderIp receiverIp amount =>
      simp only [paidOut, issued, Nat.mul_zero, Nat.add_zero]
      exact ledger.money_transfer senderIp receiverIp amount hfits
  | registerClient ip =>
      by_cases hip : ip ∈ ledger.records
      · simp [apply, register, hip, paidOut, issued]
      · have hstore := ledger.money_store_of_notMem (newClient ip) hip
        have hbalance : (newClient ip).balance = STARTING_BALANCE := rfl
        rw [hbalance] at hstore
        have hregister : ledger.apply (.registerClient ip) = ledger.register ip := rfl
        rw [hregister, register, if_neg hip]
        simp only [paidOut, issued, if_true, Nat.mul_one, Nat.add_zero, money_withTotals]
        rw [hstore, Nat.add_comm]
  | removeClient ip =>
      cases hrecord : ledger.records.lookup ip with
      | none => simp [apply, remove_notFound hrecord, paidOut, issued]
      | some record =>
          simp only [apply, remove_success hrecord, paidOut, issued, if_true, Nat.mul_zero,
            Nat.add_zero]
          exact Finmap.total_erase_add (fun record : ClientRecord => record.balance.toNat) hrecord

/-- **A sequence of operations.** -/
theorem money_applyAll (ledger : Ledger) (calls : List DbCall)
    (hfits : ledger.money
      + STARTING_BALANCE.toNat * registrations (outcomes (ledger.applyAll calls).1) < 2 ^ 64) :
    (ledger.applyAll calls).2.money + removedBalances (outcomes (ledger.applyAll calls).1)
      = ledger.money
          + STARTING_BALANCE.toNat * registrations (outcomes (ledger.applyAll calls).1) := by
  induction calls generalizing ledger with
  | nil => simp [outcomes, registrations, removedBalances]
  | cons call rest ih =>
      have hcons : ∀ tail : List (DbCall × DbRecordResponse),
          outcomes ((call, (ledger.apply call).1) :: tail)
            = (call, .returned (ledger.apply call).1) :: outcomes tail := fun _ => rfl
      simp only [applyAll_cons, hcons, registrations, removedBalances, List.map_cons,
        List.sum_cons, Nat.mul_add] at hfits ⊢
      have hone := ledger.money_apply call (by omega)
      have hrest := ih (ledger.apply call).2 (by
        simp only [registrations]
        omega)
      simp only [registrations, removedBalances] at hrest
      omega

/-- Registrations add up. -/
theorem registrations_append (log log' : List (DbCall × Outcome)) :
    registrations (log ++ log') = registrations log + registrations log' := by
  rw [registrations, List.map_append, List.sum_append]
  rfl

/-- A state on the way holds no more than all the money issued in the end. -/
theorem money_before_lt (before after : List DbCall)
    (hfits : STARTING_BALANCE.toNat
      * registrations (outcomes (empty.applyAll (before ++ after)).1) < 2 ^ 64) :
    (empty.applyAll before).2.money < 2 ^ 64 := by
  rw [applyAll_append, outcomes, List.map_append, registrations_append, Nat.mul_add] at hfits
  have hempty : empty.money = 0 := rfl
  have hstarts := empty.money_applyAll before (by
    rw [hempty, outcomes]
    omega)
  rw [hempty, outcomes] at hstarts
  omega

end Ledger

/-- **Conservation of money.**  Any sequence of calls, one at a time from the empty
ledger, runs to its end.  If everything issued fits in 64 bits, what is in the
ledger and what removals returned add up to it exactly, and no transfer on the
way underflowed a balance or wrapped one.

The bound is on what has been issued, which is a number of the log; that no balance wraps around on
the way is a consequence. -/
theorem conservation_of_money (calls : List DbCall) :
    ∃ log db, DbManager.empty.callAll calls = some (log, db) ∧
      (STARTING_BALANCE.toNat * registrations log < 2 ^ 64 →
        sumOfBalances db.databaseRecords + removedBalances log
            = STARTING_BALANCE.toNat * registrations log ∧
          ∀ before call after, calls = before ++ call :: after →
            ∃ log' mid, DbManager.empty.callAll before = some (log', mid) ∧
              ExactTransfer mid call) := by
  refine ⟨_, _, Ledger.callAll_toDbManager Ledger.empty calls, fun hfits => ⟨?_, ?_⟩⟩
  · have hempty : Ledger.empty.money = 0 := rfl
    have hrun := Ledger.empty.money_applyAll calls (by rwa [hempty, Nat.zero_add])
    rw [hempty, Nat.zero_add] at hrun
    exact hrun
  · rintro before call after rfl
    refine ⟨_, _, Ledger.callAll_toDbManager Ledger.empty before, ?_⟩
    exact Ledger.exactTransfer _ (Ledger.money_before_lt before (call :: after) hfits) call

end Brix
