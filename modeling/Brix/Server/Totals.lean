import Brix.Server.TornSnapshots

/-!
# What the totals are worth

`num_transactions` and `total_balance` are `int`s and `total_transferred` is an `unsigned int`,
while amounts and balances are `unsigned long`s.  Over any sequence of calls the totals stand for
what was really transferred and what is really there, to the width of their fields
(`Ledger.Counts`); one operation keeps that, even if a credit wraps the receiver's balance.
They are exact as long as the sums fit the fields, and not beyond (`totals_exact_iff`).

### What is load-bearing

The fields are of three different widths, none of which is that of an amount, and all of them
wrap.  So what they stand for is stated in the ring of integers modulo 2³², in which every
narrowing and every wrap is a homomorphism, and the question of exactness is separated from it: a
field is exact if what it stands for is in its range.
-/

namespace Brix

/-- Whether a finished call is a transfer that was carried out. -/
def carriedOut : DbCall × Outcome → ℕ
  | (.makeTransaction .., .returned response) => if response.statusCode = .success then 1 else 0
  | _ => 0

/-- The amount a finished call has transferred. -/
def transferred : DbCall × Outcome → ℕ
  | (.makeTransaction _ _ amount, .returned response) =>
      if response.statusCode = .success then amount.toNat else 0
  | _ => 0

/-- The number of `SUCCESS` transfers. -/
def successes (log : List (DbCall × Outcome)) : ℕ := (log.map carriedOut).sum

/-- The sum of the amounts of the `SUCCESS` transfers. -/
def transferredAmounts (log : List (DbCall × Outcome)) : ℕ := (log.map transferred).sum

/-- A registration of each of the first `n` addresses. -/
def registrationsOf (n : ℕ) : List DbCall :=
  ((List.range n).map UInt32.ofNat).map .registerClient

/-- An `unsigned int` that is `n` to its width is `n` if `n` fits. -/
theorem toNat_eq_iff_lt {x : UInt32} {n : ℕ} (h : (x.toNat : ZMod (2 ^ 32)) = n) :
    x.toNat = n ↔ n < 2 ^ 32 := by
  rw [ZMod.natCast_eq_natCast_iff] at h
  have hmod : x.toNat % 2 ^ 32 = n % 2 ^ 32 := h
  have hhigh := x.toNat_lt
  constructor
  · intro heq
    omega
  · intro hfits
    omega

/-- The sum of two words, modulo 2³². -/
theorem cast_toNat_add (a b : UInt32) :
    ((a + b).toNat : ZMod (2 ^ 32)) = (a.toNat : ZMod (2 ^ 32)) + b.toNat := by
  rw [UInt32.toNat_add, ZMod.natCast_mod, Nat.cast_add]

/-- A narrowed amount is the amount, modulo 2³². -/
theorem cast_toUInt32 (amount : UInt64) :
    (amount.toUInt32.toNat : ZMod (2 ^ 32)) = (amount.toNat : ZMod (2 ^ 32)) := by
  rw [UInt64.toNat_toUInt32, ZMod.natCast_mod]

namespace Ledger

/-- To the width of their fields the totals say that `number` transfers have moved `amounts`,
and how much money there is. -/
structure Counts (ledger : Ledger) (number amounts : ℕ) : Prop where
  numTransactions : (ledger.totals.numTransactions.toInt : ZMod (2 ^ 32)) = number
  totalTransferred : (ledger.totals.totalTransferred.toNat : ZMod (2 ^ 32)) = amounts
  totalBalance : (ledger.totals.totalBalance.toInt : ZMod (2 ^ 32)) = ledger.money

variable {ledger : Ledger} {number amounts : ℕ}

/-- Nothing has been transferred and nothing is there. -/
theorem counts_empty : empty.Counts 0 0 where
  numTransactions := by simp [empty]
  totalTransferred := by simp [empty]
  totalBalance := by
    have hmoney : empty.money = 0 := rfl
    rw [hmoney]
    simp [empty]

/-- An operation that is no transfer only has to keep `total_balance` right. -/
theorem Counts.keep {ledger' : Ledger} (h : ledger.Counts number amounts)
    (hnumber : ledger'.totals.numTransactions = ledger.totals.numTransactions)
    (htransferred : ledger'.totals.totalTransferred = ledger.totals.totalTransferred)
    (hbalance : (ledger'.totals.totalBalance.toInt : ZMod (2 ^ 32)) = ledger'.money) :
    ledger'.Counts number amounts where
  numTransactions := by rw [hnumber, h.numTransactions]
  totalTransferred := by rw [htransferred, h.totalTransferred]
  totalBalance := hbalance

/-- Overwriting a record changes the money by the difference of the balances. -/
theorem cast_money_store {record old : ClientRecord}
    (h : ledger.records.lookup record.ip = some old) :
    ((ledger.store record).money : ZMod (2 ^ 32))
      = ledger.money - old.balance.toNat + record.balance.toNat := by
  have hsum : (ledger.store record).money + old.balance.toNat
      = ledger.money + record.balance.toNat :=
    Finmap.total_insert_add (fun record : ClientRecord => record.balance.toNat) h record
  rw [sub_add_eq_add_sub, eq_sub_iff_add_eq, ← Nat.cast_add, ← Nat.cast_add, hsum]

/-- A transfer takes from one balance, to the width of the total, what it adds to the other. -/
theorem cast_money_settled {senderIp receiverIp : InAddr} {amount : UInt64}
    {sender receiver : ClientRecord} (hsender : ledger.records.lookup senderIp = some sender)
    (hreceiver : ledger.records.lookup receiverIp = some receiver) (hself : senderIp ≠ receiverIp)
    (hcovered : amount ≤ sender.balance) :
    ((ledger.settled sender receiver amount).money : ZMod (2 ^ 32)) = ledger.money := by
  have hkey : sender.ip = senderIp := ledger.keyed _ _ hsender
  have hkey' : receiver.ip = receiverIp := ledger.keyed _ _ hreceiver
  subst hkey hkey'
  have hother : (ledger.store (sender.count.debit amount)).records.lookup receiver.ip
      = some receiver := by
    rw [store_records]
    exact (Finmap.lookup_insert_of_ne _ hself.symm).trans hreceiver
  have hcredit : (((ledger.store (sender.count.debit amount)).store (receiver.credit amount)).money
      : ZMod (2 ^ 32)) = (ledger.store (sender.count.debit amount)).money
        - receiver.balance.toNat + (receiver.balance + amount).toNat :=
    cast_money_store hother
  have hdebit : ((ledger.store (sender.count.debit amount)).money : ZMod (2 ^ 32))
      = ledger.money - sender.balance.toNat + (sender.balance - amount).toNat :=
    cast_money_store hsender
  rw [settled, money_withTotals, hcredit, hdebit, cast_sub_amount hcovered, cast_add_amount]
  ring

/-- Registering a client issues its starting balance. -/
theorem Counts.register (h : ledger.Counts number amounts) (ip : InAddr) :
    (ledger.register ip).2.Counts number amounts := by
  by_cases hip : ip ∈ ledger.records
  · rwa [Ledger.register, if_pos hip]
  · rw [Ledger.register, if_neg hip]
    -- the new balance is a constant of the fixed-width types: keep it folded
    generalize hissued : STARTING_BALANCE.toUInt32.toInt32 = issued
    refine h.keep (by rw [withTotals_totals, store_totals])
      (by rw [withTotals_totals, store_totals]) ?_
    have hbalance : (newClient ip).balance = STARTING_BALANCE := rfl
    have hmoney := ledger.money_store_of_notMem (newClient ip) hip
    rw [hbalance] at hmoney
    rw [money_withTotals, hmoney, withTotals_totals, store_totals, cast_toInt_add, ← hissued,
      cast_toInt32, h.totalBalance, Nat.cast_add, add_comm]

/-- Removing a client takes its balance along. -/
theorem Counts.remove (h : ledger.Counts number amounts) (ip : InAddr) :
    (ledger.remove ip).2.Counts number amounts := by
  cases hrecord : ledger.records.lookup ip with
  | none => rwa [remove_notFound hrecord]
  | some record =>
      rw [remove_success hrecord]
      refine h.keep rfl rfl ?_
      have hmoney : (ledger.forget ip).money + record.balance.toNat = ledger.money :=
        Finmap.total_erase_add (fun record : ClientRecord => record.balance.toNat) hrecord
      rw [money_withTotals, withTotals_totals, forget_totals, cast_toInt_sub, cast_toInt32,
        h.totalBalance, ← hmoney, Nat.cast_add, add_sub_cancel_right]

/-- A transfer is counted if it is carried out, and not otherwise. -/
theorem Counts.transfer (h : ledger.Counts number amounts) (senderIp receiverIp : InAddr)
    (amount : UInt64) {finished : DbCall × Outcome}
    (hfinished : finished = (.makeTransaction senderIp receiverIp amount,
      .returned (ledger.transfer senderIp receiverIp amount).1)) :
    (ledger.transfer senderIp receiverIp amount).2.Counts
      (number + carriedOut finished) (amounts + transferred finished) := by
  subst hfinished
  rcases ledger.transfer_cases senderIp receiverIp amount with ⟨-, hstatus, -, hsame⟩ |
    ⟨-, sender, _, hsender, -, -, -, heq⟩ |
    ⟨-, sender, receiver, hsender, hreceiver, hself, hcovered, heq⟩
  · rw [carriedOut, transferred, if_neg hstatus, if_neg hstatus, hsame]
    exact h
  · have hkey : sender.ip = senderIp := ledger.keyed _ _ hsender
    rw [heq]
    refine h.keep rfl rfl ?_
    rw [ledger.money_store_of_balance_eq sender.count sender (by rwa [← hkey] at hsender) rfl]
    exact h.totalBalance
  · rw [heq]
    refine ⟨?_, ?_, ?_⟩
    · show ((ledger.totals.numTransactions + 1).toInt : ZMod (2 ^ 32)) = (number + 1 : ℕ)
      rw [cast_toInt_add, h.numTransactions, Nat.cast_add]
      rfl
    · show ((ledger.totals.totalTransferred + amount.toUInt32).toNat : ZMod (2 ^ 32))
        = (amounts + amount.toNat : ℕ)
      rw [cast_toNat_add, cast_toUInt32, h.totalTransferred, Nat.cast_add]
    · rw [cast_money_settled hsender hreceiver hself hcovered]
      exact h.totalBalance

/-- **One operation.** -/
theorem Counts.apply (h : ledger.Counts number amounts) (call : DbCall) :
    (ledger.apply call).2.Counts
      (number + carriedOut (call, .returned (ledger.apply call).1))
      (amounts + transferred (call, .returned (ledger.apply call).1)) := by
  cases call with
  | registerClient ip => exact h.register ip
  | makeTransaction senderIp receiverIp amount => exact h.transfer senderIp receiverIp amount rfl
  | removeClient ip => exact h.remove ip

/-- **A sequence of operations.** -/
theorem Counts.applyAll (h : ledger.Counts number amounts) (calls : List DbCall) :
    (ledger.applyAll calls).2.Counts
      (number + successes (outcomes (ledger.applyAll calls).1))
      (amounts + transferredAmounts (outcomes (ledger.applyAll calls).1)) := by
  induction calls generalizing ledger number amounts with
  | nil => exact h
  | cons call rest ih =>
      have hrest := ih (h.apply call)
      rw [Nat.add_assoc, Nat.add_assoc] at hrest
      exact hrest

/-! ### Registrations only -/

/-- Registering clients that are all new issues one starting balance for each. -/
theorem money_registerAll (ledger : Ledger) (ips : List InAddr) (hnodup : ips.Nodup)
    (hnew : ∀ ip ∈ ips, ip ∉ ledger.records) :
    (ledger.applyAll (ips.map .registerClient)).2.money
      = ledger.money + STARTING_BALANCE.toNat * ips.length := by
  induction ips generalizing ledger with
  | nil => rfl
  | cons ip rest ih =>
      obtain ⟨hip, hrest⟩ := List.nodup_cons.mp hnodup
      have hregister : (ledger.register ip).2.money = STARTING_BALANCE.toNat + ledger.money := by
        rw [register, if_neg (hnew ip List.mem_cons_self), money_withTotals]
        exact ledger.money_store_of_notMem _ (hnew ip List.mem_cons_self)
      have hlater : ∀ ip' ∈ rest, ip' ∉ (ledger.register ip).2.records := by
        intro ip' hmem hold
        rcases mem_register.mp hold with heq | hold
        · exact hip (heq ▸ hmem)
        · exact hnew ip' (List.mem_cons_of_mem _ hmem) hold
      show ((ledger.register ip).2.applyAll (rest.map .registerClient)).2.money = _
      rw [ih _ hrest hlater, hregister, List.length_cons, Nat.mul_succ]
      omega

/-- So many clients have so much money. -/
theorem money_registrationsOf {n : ℕ} (hn : n ≤ 2 ^ 32) :
    (empty.applyAll (registrationsOf n)).2.money = 100000 * n := by
  have hnodup : ((List.range n).map UInt32.ofNat).Nodup := by
    refine List.Nodup.map_on (fun a ha b hb heq => ?_) List.nodup_range
    have ha := List.mem_range.mp ha
    have hb := List.mem_range.mp hb
    have hnat := congrArg UInt32.toNat heq
    rw [UInt32.toNat_ofNat', UInt32.toNat_ofNat'] at hnat
    omega
  have hmoney := empty.money_registerAll _ hnodup fun ip _ => Finmap.notMem_empty
  rw [List.length_map, List.length_range] at hmoney
  exact hmoney.trans (Nat.zero_add _)

/-- With more money than an `int` can hold the total balance is wrong. -/
theorem totalBalance_registrationsOf {n : ℕ} (hn : n ≤ 2 ^ 32) (hlarge : 2 ^ 31 ≤ 100000 * n) :
    ∃ log db, DbManager.empty.callAll (registrationsOf n) = some (log, db) ∧
      sumOfBalances db.databaseRecords = 100000 * n ∧
      db.getDbMetadata.totalBalance.toInt ≠ sumOfBalances db.databaseRecords := by
  refine ⟨_, _, callAll_toDbManager empty (registrationsOf n), money_registrationsOf hn, ?_⟩
  intro heq
  have hmoney : sumOfBalances (empty.applyAll (registrationsOf n)).2.toDbManager.databaseRecords
      = 100000 * n := money_registrationsOf hn
  have hhigh :=
    (empty.applyAll (registrationsOf n)).2.toDbManager.getDbMetadata.totalBalance.toInt_lt
  omega

end Ledger

/-- **When the totals are exact.**  After any sequence of calls, one at a time from the empty
ledger.

Each of the three is a residue (`Ledger.Counts`), and a residue is the number exactly if the number
is small enough.  The bound is not a hypothesis but one of the two sides, so nothing is said about
sequences that reach it but that the totals are wrong then. -/
theorem totals_exact_iff (calls : List DbCall) :
    ∃ log db, DbManager.empty.callAll calls = some (log, db) ∧
      ((db.getDbMetadata.numTransactions.toInt = successes log ∧
          db.getDbMetadata.totalTransferred.toNat = transferredAmounts log ∧
          db.getDbMetadata.totalBalance.toInt = sumOfBalances db.databaseRecords) ↔
        successes log < 2 ^ 31 ∧ transferredAmounts log < 2 ^ 32 ∧
          sumOfBalances db.databaseRecords < 2 ^ 31) := by
  refine ⟨_, _, Ledger.callAll_toDbManager Ledger.empty calls, ?_⟩
  have hcounts := Ledger.counts_empty.applyAll calls
  rw [Nat.zero_add, Nat.zero_add] at hcounts
  exact and_congr (toInt_eq_iff_lt hcounts.numTransactions)
    (and_congr (toNat_eq_iff_lt hcounts.totalTransferred) (toInt_eq_iff_lt hcounts.totalBalance))

/-- **Too many clients.**  The balances of 21475 of them make more than an `int`. -/
theorem total_balance_of_many_registrations :
    ∃ log db, DbManager.empty.callAll (registrationsOf 21475) = some (log, db) ∧
      sumOfBalances db.databaseRecords = 100000 * 21475 ∧
      db.getDbMetadata.totalBalance.toInt ≠ sumOfBalances db.databaseRecords :=
  Ledger.totalBalance_registrationsOf (by norm_num) (by norm_num)

end Brix
