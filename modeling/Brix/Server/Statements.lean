import Brix.Server.Conservation

/-!
# A client's statement

The calls that a server has finished and their answers say all that there is to know about a
client's record.  `Statement` is what they come to for one client since its registration: what it
has been paid, what it has paid, and how many of its requests have been counted.

* `Ledger.Reflects` — every record is its statement's, to the width of its fields
* `Ledger.Balanced` — no statement has more debited than it ever had
* `statements_exact` — both, for any sequence of calls from the empty ledger

`Reflects` needs no bound on anything: the fields are residues, and each operation does to them
what it does to the statement.  `Balanced` is what turns the residues into numbers, and it is here
that all money issued has to fit in one balance, since a credit that wraps around could not be
told from a debit.

### What is load-bearing

A statement is kept for one client and read off the log alone: `enter` looks at the call, the
client and the status code, and at no record.  So `Reflects` compares two things that have been
computed apart, the table and the log.  What makes it an invariant is that the status code of a
transfer tells exactly which of the two records it has changed, and how; for five of the seven
codes the answer is neither.
-/

namespace Brix

/-- What a client has been paid and has paid since its registration, and how many of its requests
have been counted. -/
structure Statement where
  credited : ℕ
  debited : ℕ
  counted : ℕ
  deriving DecidableEq

namespace Statement

/-- Nothing has happened since the registration. -/
def opened : Statement := ⟨0, 0, 0⟩

/-- The record of a client with that statement. -/
def record (ip : InAddr) (s : Statement) : ClientRecord :=
  ⟨ip, STARTING_BALANCE + UInt64.ofNat s.credited - UInt64.ofNat s.debited,
    UInt32.ofNat s.counted⟩

/-- What a transfer with that answer means for its sender. -/
def paying (amount : UInt64) (statusCode : Description) (s : Statement) : Statement :=
  match statusCode with
  | .success => { s with debited := s.debited + amount.toNat, counted := s.counted + 1 }
  | .insufficientBalance => { s with counted := s.counted + 1 }
  | _ => s

/-- And for its receiver. -/
def paid (amount : UInt64) (statusCode : Description) (s : Statement) : Statement :=
  if statusCode = .success then { s with credited := s.credited + amount.toNat } else s

/-- One finished call. -/
def enter (ip : InAddr) (s : Option Statement) : DbCall × Outcome → Option Statement
  | (.registerClient ip', .returned response) =>
      if ip' = ip ∧ response.statusCode = .success then some opened else s
  | (.removeClient ip', .returned response) =>
      if ip' = ip ∧ response.statusCode = .success then none else s
  | (.makeTransaction senderIp receiverIp amount, .returned response) =>
      if ip = senderIp then s.map (paying amount response.statusCode)
      else if ip = receiverIp then s.map (paid amount response.statusCode)
      else s
  | _ => s

/-- All statements, after one finished call. -/
def after (statements : InAddr → Option Statement) (entry : DbCall × Outcome) (ip : InAddr) :
    Option Statement :=
  enter ip (statements ip) entry

end Statement

/-- The statement of a client, if it is registered. -/
def statement (ip : InAddr) (log : List (DbCall × Outcome)) : Option Statement :=
  log.foldl (Statement.enter ip) none

namespace Ledger

variable {ledger : Ledger} {statements : InAddr → Option Statement} {ip : InAddr}

/-- Every client's record is the one of its statement. -/
def Reflects (ledger : Ledger) (statements : InAddr → Option Statement) : Prop :=
  ∀ ip, ledger.records.lookup ip = (statements ip).map (Statement.record ip)

/-- What a client has been paid in all is what it has paid and what it has. -/
def Balanced (statements : InAddr → Option Statement) : Prop :=
  ∀ ip s, statements ip = some s →
    (s.record ip).balance.toNat + s.debited = STARTING_BALANCE.toNat + s.credited

/-! ## One operation -/

/-- The record goes with the statement when a request is counted, -/
theorem record_counted (s : Statement) :
    ({ s with counted := s.counted + 1 } : Statement).record ip = (s.record ip).count := by
  simp only [Statement.record, ClientRecord.count, UInt32.ofNat_add]
  rfl

/-- when the client pays, -/
theorem record_debited (s : Statement) (amount : UInt64) :
    ({ s with debited := s.debited + amount.toNat, counted := s.counted + 1 } : Statement).record ip
      = (s.record ip).count.debit amount := by
  simp only [Statement.record, ClientRecord.count, ClientRecord.debit, UInt32.ofNat_add,
    UInt64.ofNat_add, UInt64.ofNat_toNat, ClientRecord.mk.injEq, true_and]
  exact ⟨by grind, rfl⟩

/-- and when it is paid. -/
theorem record_credited (s : Statement) (amount : UInt64) :
    ({ s with credited := s.credited + amount.toNat } : Statement).record ip
      = (s.record ip).credit amount := by
  simp only [Statement.record, ClientRecord.credit, UInt64.ofNat_add, UInt64.ofNat_toNat,
    ClientRecord.mk.injEq, true_and, and_true]
  grind

/-- A transfer that is neither made nor counted is in no statement. -/
theorem enter_idle {senderIp receiverIp : InAddr} {amount : UInt64} {response : DbRecordResponse}
    (hsuccess : response.statusCode ≠ .success)
    (hinsufficient : response.statusCode ≠ .insufficientBalance) (s : Option Statement) :
    Statement.enter ip s (.makeTransaction senderIp receiverIp amount, .returned response) = s := by
  have hpaying : ∀ s, Statement.paying amount response.statusCode s = s := by
    intro s
    cases hstatus : response.statusCode with
    | success => exact absurd hstatus hsuccess
    | insufficientBalance => exact absurd hstatus hinsufficient
    | balanceCheck | unknownSender | unknownReceiver | duplicateIp | notFound => rfl
  have hpaid : ∀ s, Statement.paid amount response.statusCode s = s := fun s => if_neg hsuccess
  simp only [Statement.enter]
  cases s with
  | none => simp
  | some s => simp [hpaying, hpaid]

/-- A transfer. -/
theorem Reflects.transfer (h : ledger.Reflects statements) (senderIp receiverIp : InAddr)
    (amount : UInt64) :
    (ledger.transfer senderIp receiverIp amount).2.Reflects (Statement.after statements
      (.makeTransaction senderIp receiverIp amount,
        .returned (ledger.transfer senderIp receiverIp amount).1)) := by
  intro ip
  rw [Statement.after]
  rcases ledger.transfer_cases senderIp receiverIp amount with
    ⟨-, hsuccess, hinsufficient, hsame⟩ | ⟨-, sender, _, hsender, -, -, -, heq⟩ |
    ⟨-, sender, receiver, hsender, hreceiver, hself, -, heq⟩
  · rw [enter_idle hsuccess hinsufficient, hsame]
    exact h ip
  · -- counted but short of money: only the sender's record changes
    rw [heq, lookup_counted hsender]
    by_cases hip : ip = senderIp
    · subst hip
      obtain ⟨s, hs, rfl⟩ := Option.map_eq_some_iff.mp ((h ip).symm.trans hsender)
      rw [if_pos rfl, hs]
      simp only [Statement.enter, Statement.paying, if_true, Option.map_some]
      rw [record_counted]
    · rw [if_neg hip, h ip]
      simp only [Statement.enter, if_neg hip]
      have hpaid : Statement.paid amount .insufficientBalance = id := rfl
      rw [hpaid, Option.map_id, id, ite_self]
  · -- carried out: the receiver, the sender, anybody else
    rw [heq, lookup_settled hsender hreceiver]
    by_cases hip : ip = receiverIp
    · subst hip
      obtain ⟨s, hs, rfl⟩ := Option.map_eq_some_iff.mp ((h ip).symm.trans hreceiver)
      rw [if_pos rfl, hs]
      simp only [Statement.enter, Statement.paid, if_neg hself.symm, if_true, Option.map_some]
      rw [record_credited]
    · rw [if_neg hip]
      by_cases hip' : ip = senderIp
      · subst hip'
        obtain ⟨s, hs, rfl⟩ := Option.map_eq_some_iff.mp ((h ip).symm.trans hsender)
        rw [if_pos rfl, hs]
        simp only [Statement.enter, Statement.paying, if_true, Option.map_some]
        rw [record_debited]
      · rw [if_neg hip', h ip]
        simp only [Statement.enter, if_neg hip, if_neg hip']

/-- **One operation.** -/
theorem Reflects.apply (h : ledger.Reflects statements) (call : DbCall) :
    (ledger.apply call).2.Reflects
      (Statement.after statements (call, .returned (ledger.apply call).1)) := by
  cases call with
  | makeTransaction senderIp receiverIp amount => exact h.transfer senderIp receiverIp amount
  | registerClient ip' =>
      intro ip
      show (ledger.register ip').2.records.lookup ip = (Statement.enter ip (statements ip)
        (.registerClient ip', .returned (ledger.register ip').1)).map _
      by_cases hmem : ip' ∈ ledger.records
      · rw [register, if_pos hmem]
        simp [Statement.enter, h ip]
      · rw [register, if_neg hmem]
        by_cases hip : ip' = ip
        · subst hip
          simp only [Statement.enter, true_and, if_true, Option.map_some, withTotals_records,
            store_records]
          exact Finmap.lookup_insert _
        · simp only [Statement.enter, hip, false_and, if_false, withTotals_records, store_records]
          exact (Finmap.lookup_insert_of_ne _ (Ne.symm hip)).trans (h ip)
  | removeClient ip' =>
      intro ip
      show (ledger.remove ip').2.records.lookup ip = (Statement.enter ip (statements ip)
        (.removeClient ip', .returned (ledger.remove ip').1)).map _
      cases hrecord : ledger.records.lookup ip' with
      | none =>
          rw [remove_notFound hrecord]
          simp [Statement.enter, h ip]
      | some record =>
          rw [remove_success hrecord]
          by_cases hip : ip' = ip
          · subst hip
            simp only [Statement.enter, true_and, if_true, Option.map_none, withTotals_records,
              forget_records]
            exact Finmap.lookup_erase ..
          · simp only [Statement.enter, hip, false_and, if_false, withTotals_records,
              forget_records]
            exact (Finmap.lookup_erase_ne (Ne.symm hip)).trans (h ip)

/-- A transfer keeps the statements exact while all money fits in one balance. -/
theorem Balanced.transfer (h : Balanced statements) (hreflects : ledger.Reflects statements)
    (hfits : ledger.money < 2 ^ 64) (senderIp receiverIp : InAddr) (amount : UInt64) :
    Balanced (Statement.after statements (.makeTransaction senderIp receiverIp amount,
      .returned (ledger.transfer senderIp receiverIp amount).1)) := by
  intro ip s' hs'
  rw [Statement.after] at hs'
  rcases ledger.transfer_cases senderIp receiverIp amount with
    ⟨-, hsuccess, hinsufficient, -⟩ | ⟨-, sender, _, -, -, -, -, heq⟩ |
    ⟨-, sender, receiver, hsender, hreceiver, hself, hcovered, heq⟩
  · -- nothing was counted
    rw [enter_idle hsuccess hinsufficient] at hs'
    exact h ip s' hs'
  · -- counted but short of money: the statement moves, its sums do not
    rw [heq] at hs'
    simp only [Statement.enter] at hs'
    split at hs'
    · obtain ⟨s, hs, rfl⟩ := Option.map_eq_some_iff.mp hs'
      exact h ip s hs
    split at hs'
    · obtain ⟨s, hs, rfl⟩ := Option.map_eq_some_iff.mp hs'
      exact h ip s hs
    · exact h ip s' hs'
  · -- carried out: neither the debit nor the credit wraps around
    obtain ⟨hdebit, hcredit⟩ := ledger.exactTransfer hfits
      (.makeTransaction senderIp receiverIp amount) sender receiver hsender hreceiver hself
      (UInt64.not_lt.mpr hcovered)
    rw [heq] at hs'
    simp only [Statement.enter] at hs'
    split at hs'
    · rename_i hip
      subst hip
      obtain ⟨s, hs, rfl⟩ := Option.map_eq_some_iff.mp hs'
      obtain rfl : s.record ip = sender := by
        have hrecord := hreflects ip
        rw [hs, hsender] at hrecord
        exact (Option.some.inj hrecord).symm
      have hbefore := h ip s hs
      have hafter : ((s.record ip).count.debit amount).balance.toNat + amount.toNat
          = (s.record ip).balance.toNat := hdebit
      simp only [Statement.paying, record_debited]
      omega
    split at hs'
    · rename_i hip
      subst hip
      obtain ⟨s, hs, rfl⟩ := Option.map_eq_some_iff.mp hs'
      obtain rfl : s.record ip = receiver := by
        have hrecord := hreflects ip
        rw [hs, hreceiver] at hrecord
        exact (Option.some.inj hrecord).symm
      have hbefore := h ip s hs
      have hafter : ((s.record ip).credit amount).balance.toNat
          = (s.record ip).balance.toNat + amount.toNat := hcredit
      simp only [Statement.paid, if_true, record_credited]
      omega
    · exact h ip s' hs'

/-- A registration opens a statement that is balanced, and a removal closes one. -/
theorem Balanced.apply (h : Balanced statements) (hreflects : ledger.Reflects statements)
    (hfits : ledger.money < 2 ^ 64) (call : DbCall) :
    Balanced (Statement.after statements (call, .returned (ledger.apply call).1)) := by
  cases call with
  | makeTransaction senderIp receiverIp amount =>
      exact h.transfer hreflects hfits senderIp receiverIp amount
  | registerClient ip' =>
      intro ip s hs
      simp only [Statement.after, Statement.enter] at hs
      split at hs
      · cases hs
        rfl
      · exact h ip s hs
  | removeClient ip' =>
      intro ip s hs
      simp only [Statement.after, Statement.enter] at hs
      split at hs
      · cases hs
      · exact h ip s hs

/-! ## A sequence of operations -/

/-- The induction is on the calls. -/
theorem Reflects.applyAll (h : ledger.Reflects statements) (calls : List DbCall) :
    (ledger.applyAll calls).2.Reflects
      ((outcomes (ledger.applyAll calls).1).foldl Statement.after statements) := by
  induction calls generalizing ledger statements with
  | nil => exact h
  | cons call rest ih => exact ih (h.apply call)

/-- All money that is issued on the way has to fit. -/
theorem Balanced.applyAll (h : Balanced statements) (hreflects : ledger.Reflects statements)
    (calls : List DbCall) (hfits : ledger.money
      + STARTING_BALANCE.toNat * registrations (outcomes (ledger.applyAll calls).1) < 2 ^ 64) :
    Balanced ((outcomes (ledger.applyAll calls).1).foldl Statement.after statements) := by
  induction calls generalizing ledger statements with
  | nil => exact h
  | cons call rest ih =>
      have hcons : outcomes (ledger.applyAll (call :: rest)).1
          = (call, .returned (ledger.apply call).1)
            :: outcomes ((ledger.apply call).2.applyAll rest).1 := rfl
      rw [hcons, registrations, List.map_cons, List.sum_cons, Nat.mul_add] at hfits
      have hone := ledger.money_apply call (by omega)
      have hrest := ih (h.apply hreflects (by omega) call) (hreflects.apply call) (by
        rw [registrations]
        omega)
      exact hrest

/-- Each client's statement is kept for itself. -/
theorem foldl_after (log : List (DbCall × Outcome)) (statements : InAddr → Option Statement)
    (ip : InAddr) :
    log.foldl Statement.after statements ip = log.foldl (Statement.enter ip) (statements ip) := by
  induction log generalizing statements with
  | nil => rfl
  | cons entry rest ih =>
      rw [List.foldl_cons, ih]
      rfl

end Ledger

/-- **The log says it all.**  Any sequence of calls, one at a time from the empty ledger: every
record is the one of the client's statement, that is, what it got at its registration and has
been paid since less what it has paid, modulo 2⁶⁴, and the number of its requests that were
carried out or not covered, modulo 2³².  If everything issued fits in 64 bits, the balance is
exactly that. -/
theorem statements_exact (calls : List DbCall) :
    ∃ log db, DbManager.empty.callAll calls = some (log, db) ∧
      (∀ ip, db.databaseRecords.lookup ip = (statement ip log).map (Statement.record ip)) ∧
      (STARTING_BALANCE.toNat * registrations log < 2 ^ 64 →
        ∀ ip s, statement ip log = some s →
          (s.record ip).balance.toNat + s.debited = STARTING_BALANCE.toNat + s.credited) := by
  have hreflects : Ledger.empty.Reflects fun _ => none := fun _ => rfl
  have hbalanced : Ledger.Balanced fun _ => none :=
    fun ip s hs => absurd hs (Option.some_ne_none s).symm
  refine ⟨_, _, Ledger.callAll_toDbManager Ledger.empty calls, fun ip => ?_,
    fun hfits ip s hs => ?_⟩
  · rw [statement, ← Ledger.foldl_after _ fun _ => none]
    exact hreflects.applyAll calls ip
  · have hempty : Ledger.empty.money = 0 := rfl
    refine hbalanced.applyAll hreflects calls ?_ ip s ?_
    · rwa [hempty, Nat.zero_add]
    · rw [Ledger.foldl_after]
      exact hs

end Brix
