import Brix.Foundation.Linearization
import Brix.Server.Serializability
import Brix.Server.TornSnapshots

/-!
# The ledger, one call at a time

Registrations, transfers and removals on any number of threads.  Each of them seems to happen all
at once, at one of its accesses: a transfer when it counts the request, a registration when it
stores the record and a removal when it erases it, and a call that is refused when it finds out
why.

* `ledgerSpecification` — the abstract operations, and the records that the clients' mutexes show
* `linear_body` — the code of each call counts once
* `calls_linearizable` — one order of the calls explains all the answers, and respects time

The totals are no part of this.  They are changed later, with no client's mutex in hand.

### What is load-bearing

`Kept` is what a thread knows: as far as it holds mutexes, the tables and the ledger are as it has
left them, whatever others have done.  It is about both because a call that has counted has
changed the ledger at once and the tables not yet; while it holds the mutexes nobody can see the
difference, and by the time it gives them back the two agree again (`Shown`).

That a refusal is right has to be known when it is decided, and not when it is answered.  For most
of them the call holds a mutex, and what it has seen under it still stands.  The exception is a
registration that has found the client's mutex: it was found under the database lock and says
nothing of the record.  `Relies` takes from the consistency of the tables that whoever has that
mutex and did not leave the gap finds the record too, and `granted_of_runs` is where that is
proved.
-/

namespace Brix

open LockProgram Execution DbManager

/-- What an answer must get right: the status code, and for a removal the record that is paid
out.  The other records are read when the client may have been changed again. -/
def DbCall.verdict (call : DbCall) (response : DbRecordResponse) :
    Description × Option ClientRecord :=
  (response.statusCode,
    match call with
    | .registerClient _ => none
    | .makeTransaction _ _ _ => none
    | .removeClient _ => some response.record)

/-- The record of a client is what the ledger says. -/
def Shown (ip : InAddr) (db : DbManager) (ledger : Ledger) : Prop :=
  ledger.records.lookup ip = db.databaseRecords.lookup ip

/-- What the code of a call relies on.  A registration that has found the mutex of its client finds
the record too. -/
structure Relies (call : DbCall) (prog : Code) (held : Set Mutex) (db : DbManager) : Prop where
  recorded : db.databaseRecords.keys ⊆ db.clientLocks
  locked : ∀ ip, .client ip ∈ held → ip ∈ db.clientLocks
  present : ∀ ip, .client ip ∈ held → ¬ call.Alters ip → ip ∈ db.databaseRecords
  duplicate : ∀ ip, prog = unlockClient ip (respond false .empty .duplicateIp) →
    held = {.client ip} → ip ∈ db.databaseRecords

/-- The calls as operations on a ledger.  A client's mutex shows the client's record, and is in
nobody's hands when it is not in the table. -/
def ledgerSpecification :
    Specification snapshotBooks Outcome Ledger (Description × Option ClientRecord) where
  apply call ledger := (call.verdict (ledger.apply call).1, (ledger.apply call).2)
  verdict call outcome :=
    match outcome with
    | .returned response => some (call.verdict response)
    | .outOfRange => none
    | .dangling => none
  protects
    | .databaseAccess => ⊤
    | .databaseMetadata => ⊤
    | .client ip => Setoid.ker fun ledger => ledger.records.lookup ip
  shows mutex db ledger := ∀ ip, mutex = .client ip → Shown ip db ledger
  shows_congr := by
    rintro mutex db db' ledger ledger' hdb hledger hshown ip rfl
    exact hledger.symm.trans ((hshown ip rfl).trans hdb)
  unused mutex db := ∃ ip, mutex = .client ip ∧ ip ∉ db.clientLocks
  relies := Relies

/-! ## What a thread knows -/

/-- The ledger and the state that a thread sees are those that it has left behind, as far as it
holds the mutexes. -/
structure Kept (held : Set Mutex) (db : DbManager) (ledger : Ledger) (db' : DbManager)
    (ledger' : Ledger) : Prop where
  concrete : snapshotBooks.Agree held db db'
  abstract : ledgerSpecification.Agree held ledger ledger'

/-- What a thread knows when it accesses the tables. -/
structure Known (call : DbCall) (prog : Code) (held : Set Mutex) (db : DbManager) (ledger : Ledger)
    (db' : DbManager) (ledger' : Ledger) : Prop extends
    Kept held db ledger db' ledger', Relies call prog held db' where
  unknown : ∀ ip, ip ∉ db'.clientLocks → ledger'.records.lookup ip = none

section Kept

variable {held : Set Mutex} {db db' db'' : DbManager} {ledger ledger' ledger'' : Ledger}
  {ip : InAddr}

/-- What is kept twice is kept. -/
theorem Kept.trans (h : Kept held db ledger db' ledger')
    (h' : Kept held db' ledger' db'' ledger'') : Kept held db ledger db'' ledger'' :=
  ⟨h.concrete.trans h'.concrete, h.abstract.trans h'.abstract⟩

/-- The record of a client whose mutex is held, -/
theorem Kept.record (h : Kept held db ledger db' ledger') (hmine : .client ip ∈ held) :
    db'.databaseRecords.lookup ip = db.databaseRecords.lookup ip :=
  lookup_of_agree h.concrete hmine

/-- its account in the ledger, -/
theorem Kept.account (h : Kept held db ledger db' ledger') (hmine : .client ip ∈ held) :
    ledger'.records.lookup ip = ledger.records.lookup ip :=
  (h.abstract _ hmine).symm

/-- and that the two agree. -/
theorem Kept.shown (h : Kept held db ledger db' ledger') (hmine : .client ip ∈ held)
    (hshown : Shown ip db ledger) : Shown ip db' ledger' :=
  (h.account hmine).trans (hshown.trans (h.record hmine).symm)

/-- A client has this record, in the tables and in the ledger. -/
def Found (ip : InAddr) (record : ClientRecord) (db : DbManager) (ledger : Ledger) : Prop :=
  db.databaseRecords.lookup ip = some record ∧ ledger.records.lookup ip = some record

/-- A record that was found is still there. -/
theorem Kept.found {record : ClientRecord} (h : Kept held db ledger db' ledger')
    (hmine : .client ip ∈ held) (hfound : Found ip record db ledger) :
    Found ip record db' ledger' :=
  ⟨(h.record hmine).trans hfound.1, (h.account hmine).trans hfound.2⟩

/-- What is found in both agrees. -/
theorem Found.shown {record : ClientRecord} (h : Found ip record db ledger) : Shown ip db ledger :=
  h.2.trans h.1.symm

/-- Only the accounts of clients whose mutexes are held change. -/
theorem frame_accounts (h : ∀ ip, .client ip ∉ held →
      ledger'.records.lookup ip = ledger.records.lookup ip) :
    ledgerSpecification.Frame held ledger ledger' := by
  intro mutex hmutex
  cases mutex with
  | databaseAccess => trivial
  | databaseMetadata => trivial
  | client ip => exact (h ip hmutex).symm

end Kept

/-! ## The code of the operations -/

/-- The code of a ledger operation has yet to count, or has counted. -/
abbrev Counts (call : DbCall) (prog : Code) (held : Set Mutex) (db : DbManager) (ledger : Ledger)
    (counted : Option (Description × Option ClientRecord)) : Prop :=
  Linear ledgerSpecification call prog held db ledger counted

section Code

variable {call : DbCall} {held : Set Mutex} {ip : InAddr} {db : DbManager} {ledger : Ledger}
  {next onOutOfRange : Code} {counted : Option (Description × Option ClientRecord)}

/-- With a mutex the thread gets what the mutex shows. -/
theorem counts_lock {mutex : Mutex}
    (h : ∀ db' ledger', Kept held db ledger db' ledger' →
      (∀ ip, mutex = .client ip → Shown ip db' ledger') →
        Counts call next (insert mutex held) db' ledger' counted) :
    Counts call (.lock mutex next) held db ledger counted :=
  fun db' ledger' hdb hledger hshown => h db' ledger' ⟨hdb, hledger⟩ hshown

/-- It gives a mutex back when it shows the truth. -/
theorem counts_unlock {mutex : Mutex} (hmine : mutex ∈ held)
    (hshown : ∀ ip, mutex = .client ip → Shown ip db ledger)
    (h : Counts call next (held \ {mutex}) db ledger counted) :
    Counts call (.unlock mutex next) held db ledger counted :=
  ⟨hmine, hshown, h⟩

/-- What is known at an access. -/
theorem known_of {prog : Code} {db' : DbManager} {ledger' : Ledger}
    (hdb : snapshotBooks.Agree held db db')
    (hledger : ledgerSpecification.Agree held ledger ledger')
    (hrelies : Relies call prog held db')
    (hunused : ∀ mutex, ledgerSpecification.unused mutex db' →
      ledgerSpecification.shows mutex db' ledger') :
    Known call prog held db ledger db' ledger' where
  concrete := hdb
  abstract := hledger
  toRelies := hrelies
  unknown ip hmissing := by
    have hshown : Shown ip db' ledger' := hunused (.client ip) ⟨ip, rfl, hmissing⟩ ip rfl
    refine hshown.trans (Finmap.lookup_eq_none.mpr fun hmem => ?_)
    exact hmissing (hrelies.recorded (Finmap.mem_keys.mpr hmem))

/-- A call counts. -/
theorem counts_of_apply {prog : Code} {response : DbRecordResponse} {ledger' : Ledger}
    (happly : ledger.apply call = (response, ledger'))
    (hframe : ∀ ip, .client ip ∉ held → ledger'.records.lookup ip = ledger.records.lookup ip)
    (h : Counts call prog held db ledger' (some (call.verdict response))) :
    ledgerSpecification.Frame held ledger (ledgerSpecification.apply call ledger).2 ∧
      Counts call prog held db (ledgerSpecification.apply call ledger).2
        (some (ledgerSpecification.apply call ledger).1) := by
  have happly' : ledgerSpecification.apply call ledger = (call.verdict response, ledger') := by
    show (call.verdict (ledger.apply call).1, (ledger.apply call).2) = _
    rw [happly]
  rw [happly']
  exact ⟨frame_accounts hframe, h⟩

/-- An access at which the call does not count. -/
theorem counts_access {update : DbManager → DbManager} {next : DbManager → Code}
    (h : ∀ db' ledger', Known call (.access update next) held db ledger db' ledger' →
      Counts call (next db') held (update db') ledger' counted) :
    Counts call (.access update next) held db ledger counted :=
  fun db' ledger' hdb hledger hrelies hunused =>
    Or.inl (h db' ledger' (known_of hdb hledger hrelies hunused))

/-- An access at which it does. -/
theorem counts_now {update : DbManager → DbManager} {next : DbManager → Code}
    (h : ∀ db' ledger', Known call (.access update next) held db ledger db' ledger' →
      ∃ response ledger'', ledger'.apply call = (response, ledger'') ∧
        (∀ ip, .client ip ∉ held → ledger''.records.lookup ip = ledger'.records.lookup ip) ∧
        Counts call (next db') held (update db') ledger'' (some (call.verdict response))) :
    Counts call (.access update next) held db ledger none := by
  intro db' ledger' hdb hledger hrelies hunused
  obtain ⟨response, ledger'', happly, hframe, hnext⟩ :=
    h db' ledger' (known_of hdb hledger hrelies hunused)
  exact Or.inr ⟨rfl, counts_of_apply happly hframe hnext⟩

/-- An access at which a call counts that changes nothing. -/
theorem counts_refused {next : DbManager → Code}
    (h : ∀ db' ledger', Known call (.access id next) held db ledger db' ledger' →
      ∃ response, ledger'.apply call = (response, ledger') ∧
        Counts call (next db') held db' ledger' (some (call.verdict response))) :
    Counts call (.access id next) held db ledger none := by
  refine counts_now fun db' ledger' hknown => ?_
  obtain ⟨response, happly, hnext⟩ := h db' ledger' hknown
  exact ⟨response, ledger', happly, fun _ _ => rfl, hnext⟩

/-- A call that ends in an exception has counted before, with the verdict that it was about to
answer. -/
theorem counts_ret {outcome : Outcome} {verdict : Description × Option ClientRecord}
    (h : ∀ response, outcome ≠ .returned response) :
    Counts call (.ret outcome) held db ledger (some verdict) := by
  refine ⟨verdict, rfl, fun v hv => ?_⟩
  cases outcome with
  | returned response => exact absurd rfl (h response)
  | outOfRange => cases hv
  | dangling => cases hv

/-- The answer is the one that it has counted with. -/
theorem counts_respond {success : Bool} {record : ClientRecord} {code : Description}
    {verdict : Description × Option ClientRecord}
    (h : call.verdict ⟨success, record, code⟩ = verdict) :
    Counts call (respond success record code) held db ledger (some verdict) :=
  ⟨verdict, rfl, fun _ hv => (Option.some.inj hv).symm.trans h⟩

/-- A client whose mutex is missing is not in the ledger. -/
theorem counts_lockClient
    (hlocked : ∀ db' ledger', Kept held db ledger db' ledger' → Shown ip db' ledger' →
      Counts call next (insert (.client ip) held) db' ledger' none)
    (hmissing : ∀ db' ledger' prog, Known call prog held db ledger db' ledger' →
      ip ∉ db'.clientLocks → ledger'.records.lookup ip = none →
      ∃ response, ledger'.apply call = (response, ledger') ∧
        Counts call onOutOfRange held db' ledger' (some (call.verdict response))) :
    Counts call (lockClient ip onOutOfRange next) held db ledger none := by
  intro db' ledger' hdb hledger hrelies hunused
  have hknown := known_of hdb hledger hrelies hunused
  dsimp only
  by_cases hip : ip ∈ db'.clientLocks
  · rw [if_pos hip]
    exact Or.inl (counts_lock fun db'' ledger'' hkept hshown =>
      hlocked db'' ledger'' (hknown.toKept.trans hkept) (hshown ip rfl))
  · rw [if_neg hip]
    obtain ⟨response, happly, hnext⟩ := hmissing db' ledger' _ hknown hip (hknown.unknown ip hip)
    exact Or.inr ⟨rfl, counts_of_apply happly (fun _ _ => rfl) hnext⟩

/-- A mutex that is given back shows the record. -/
theorem counts_unlockClient (hmine : .client ip ∈ held) (hshown : Shown ip db ledger)
    (h : ∀ db' ledger', Kept held db ledger db' ledger' →
      Counts call next (held \ {.client ip}) db' ledger' counted) :
    Counts call (unlockClient ip next) held db ledger counted := by
  refine counts_access fun db' ledger' hknown => ?_
  rw [if_pos (hknown.locked ip hmine)]
  refine counts_unlock hmine (fun ip' hip => ?_) (h db' ledger' hknown.toKept)
  cases hip
  exact hknown.toKept.shown hmine hshown

/-- A call that is refused may count when it gives the mutex back. -/
theorem counts_unlockClient_refused (hmine : .client ip ∈ held) (hshown : Shown ip db ledger)
    (h : ∀ db' ledger', Known call (unlockClient ip next) held db ledger db' ledger' →
      Shown ip db' ledger' →
      ∃ response, ledger'.apply call = (response, ledger') ∧
        Counts call next (held \ {.client ip}) db' ledger' (some (call.verdict response))) :
    Counts call (unlockClient ip next) held db ledger none := by
  refine counts_refused fun db' ledger' hknown => ?_
  have hshown' := hknown.toKept.shown hmine hshown
  obtain ⟨response, happly, hnext⟩ := h db' ledger' hknown hshown'
  refine ⟨response, happly, ?_⟩
  rw [if_pos (hknown.locked ip hmine)]
  refine counts_unlock hmine (fun ip' hip => ?_) hnext
  cases hip
  exact hshown'

/-- A record that is looked up for the call, which is refused if there is none. -/
theorem counts_find {next : ClientRecord → Code} (hmine : .client ip ∈ held)
    (hshown : Shown ip db ledger)
    (hrecord : ∀ db' ledger' record, Kept held db ledger db' ledger' →
      db'.databaseRecords.lookup ip = some record → ledger'.records.lookup ip = some record →
      Counts call (next record) held db' ledger' none)
    (hmissing : ∀ db' ledger', Kept held db ledger db' ledger' →
      ledger'.records.lookup ip = none → Shown ip db' ledger' →
      ∃ response, ledger'.apply call = (response, ledger') ∧
        Counts call onOutOfRange held db' ledger' (some (call.verdict response))) :
    Counts call (recordAt ip onOutOfRange next) held db ledger none := by
  intro db' ledger' hdb hledger hrelies hunused
  have hkept : Kept held db ledger db' ledger' := ⟨hdb, hledger⟩
  have hshown' := hkept.shown hmine hshown
  dsimp only
  cases hlookup : db'.databaseRecords.lookup ip with
  | some record => exact Or.inl (hrecord db' ledger' record hkept hlookup (hshown'.trans hlookup))
  | none =>
      obtain ⟨response, happly, hnext⟩ :=
        hmissing db' ledger' hkept (hshown'.trans hlookup) hshown'
      exact Or.inr ⟨rfl, counts_of_apply happly (fun _ _ => rfl) hnext⟩

/-- A record that is known already. -/
theorem counts_recordAt {next : ClientRecord → Code} {record : ClientRecord}
    (hmine : .client ip ∈ held) (hrecord : db.databaseRecords.lookup ip = some record)
    (h : ∀ db' ledger', Kept held db ledger db' ledger' →
      Counts call (next record) held db' ledger' counted) :
    Counts call (recordAt ip onOutOfRange next) held db ledger counted := by
  refine counts_access fun db' ledger' hknown => ?_
  rw [(hknown.toKept.record hmine).trans hrecord]
  exact h db' ledger' hknown.toKept

/-- A record that is read for the answer. -/
theorem counts_last_read {next : ClientRecord → Code} {outcome : Outcome}
    {verdict : Description × Option ClientRecord}
    (houtcome : ∀ response, outcome ≠ .returned response)
    (h : ∀ record db' ledger', Counts call (next record) held db' ledger' (some verdict)) :
    Counts call (recordAt ip (.ret outcome) next) held db ledger (some verdict) := by
  refine counts_access fun db' ledger' _ => ?_
  cases db'.databaseRecords.lookup ip with
  | some record => exact h record db' ledger'
  | none => exact counts_ret houtcome

/-- A record that is changed. -/
theorem counts_assign {f : ClientRecord → ClientRecord} {record : ClientRecord}
    (hmine : .client ip ∈ held) (hrecord : db.databaseRecords.lookup ip = some record)
    (h : ∀ db' ledger', Kept held db ledger db' ledger' →
      db'.databaseRecords.lookup ip = some record →
      Counts call next held (db'.modify ip f) ledger' counted) :
    Counts call (assign ip f next) held db ledger counted := by
  refine counts_access fun db' ledger' hknown => ?_
  have hrecord' := (hknown.toKept.record hmine).trans hrecord
  rw [if_pos (Finmap.mem_of_lookup_eq_some hrecord')]
  exact h db' ledger' hknown.toKept hrecord'

/-- A record that is changed when the call counts. -/
theorem counts_assign_now {f : ClientRecord → ClientRecord} {record : ClientRecord}
    (hmine : .client ip ∈ held) (hrecord : db.databaseRecords.lookup ip = some record)
    (h : ∀ db' ledger', Kept held db ledger db' ledger' →
      db'.databaseRecords.lookup ip = some record →
      ∃ response ledger'', ledger'.apply call = (response, ledger'') ∧
        (∀ ip, .client ip ∉ held → ledger''.records.lookup ip = ledger'.records.lookup ip) ∧
        Counts call next held (db'.modify ip f) ledger'' (some (call.verdict response))) :
    Counts call (assign ip f next) held db ledger none := by
  refine counts_now fun db' ledger' hknown => ?_
  have hrecord' := (hknown.toKept.record hmine).trans hrecord
  rw [if_pos (Finmap.mem_of_lookup_eq_some hrecord')]
  exact h db' ledger' hknown.toKept hrecord'

/-- Both parties of a transfer given back. -/
theorem counts_unlockBoth {ip' : InAddr} (hmine : .client ip ∈ held) (hmine' : .client ip' ∈ held)
    (hne : ip ≠ ip') (hshown : Shown ip db ledger) (hshown' : Shown ip' db ledger)
    (h : ∀ db' ledger',
      Counts call next ((held \ {.client ip}) \ {.client ip'}) db' ledger' counted) :
    Counts call (unlockClient ip <| unlockClient ip' next) held db ledger counted := by
  refine counts_unlockClient hmine hshown fun db₁ ledger₁ hkept => ?_
  refine counts_unlockClient ⟨hmine', by simp [Ne.symm hne]⟩ (hkept.shown hmine' hshown')
    fun db₂ ledger₂ _ => h db₂ ledger₂

/-- The ledger refuses a registration in the same way. -/
theorem register_duplicate (h : ip ∈ ledger.records) :
    ledger.apply (.registerClient ip) = (⟨false, .empty, .duplicateIp⟩, ledger) :=
  if_pos h

/-- The mutex of the client is there already when the registration begins, or not. -/
theorem counts_registerClient (clientIp : InAddr) (db : DbManager) (ledger : Ledger) :
    Counts (.registerClient clientIp) (registerClient clientIp) ∅ db ledger none := by
  refine counts_lock fun _ _ _ _ => counts_access fun before ledger₀ _ => ?_
  refine counts_lockClient (fun db₁ ledger₁ _ hshown => ?_) fun db₁ _ _ hknown hmissing _ => ?_
  · refine counts_unlock (by simp) (fun _ hmutex => by cases hmutex) ?_
    rw [holding_one]
    split
    · -- somebody has stored the record before the mutex could be taken
      refine counts_unlockClient_refused rfl hshown fun db₂ ledger₂ hknown hshown₂ => ?_
      obtain ⟨record, hrecord⟩ := Finmap.mem_iff.mp (hknown.duplicate clientIp rfl rfl)
      exact ⟨_, register_duplicate (Finmap.mem_of_lookup_eq_some (hshown₂.trans hrecord)),
        counts_respond rfl⟩
    · refine counts_now fun db₂ ledger₂ hknown => ?_
      have hshown₂ := hknown.toKept.shown rfl hshown
      by_cases hold : clientIp ∈ db₂.databaseRecords
      · obtain ⟨record, hrecord⟩ := Finmap.mem_iff.mp hold
        have hdup := register_duplicate (Finmap.mem_of_lookup_eq_some (hshown₂.trans hrecord))
        refine ⟨_, ledger₂, hdup, fun _ _ => rfl, ?_⟩
        rw [if_pos hold, if_pos hold]
        exact counts_unlockClient rfl hshown₂ fun _ _ _ => counts_respond rfl
      · have hnew : clientIp ∉ ledger₂.records := by
          rw [← Finmap.lookup_eq_none, hshown₂]
          exact Finmap.lookup_eq_none.mpr hold
        refine ⟨_, _, if_neg hnew, fun ip hip => ?_, ?_⟩
        · refine Finmap.lookup_insert_of_ne _ ?_
          rintro rfl
          exact hip rfl
        · rw [if_neg hold, if_neg hold]
          refine counts_unlockClient rfl ?_ fun _ _ _ => ?_
          · exact (Finmap.lookup_insert _).trans (Finmap.lookup_insert db₂.databaseRecords).symm
          · -- the total balance
            refine counts_lock fun _ _ _ _ => counts_access fun _ _ _ => ?_
            refine counts_unlock (Or.inl rfl) (fun _ hmutex => by cases hmutex) ?_
            exact counts_last_read (fun _ => nofun) fun _ _ _ => counts_respond rfl
  · -- the mutex has just been put there
    rw [clientLocks_of_agree hknown.concrete (Or.inl rfl)] at hmissing
    exact absurd (Finset.mem_insert_self ..) hmissing

/-- A removal pays out the record that it erases. -/
theorem counts_removeClient (clientIp : InAddr) (db : DbManager) (ledger : Ledger) :
    Counts (.removeClient clientIp) (removeClient clientIp) ∅ db ledger none := by
  refine counts_lock fun _ _ _ _ => counts_lockClient (fun db₁ ledger₁ _ hshown => ?_)
    fun db₁ ledger₁ _ _ _ hmissing => ?_
  · refine counts_unlock (by simp) (fun _ hmutex => by cases hmutex) ?_
    rw [holding_one]
    refine counts_find rfl hshown (fun db₂ ledger₂ clientCopy _ hcopy haccount => ?_)
      fun db₂ ledger₂ _ hmissing hshown₂ => ?_
    · refine counts_now fun db₃ ledger₃ hknown => ?_
      have hcopy₃ := (hknown.toKept.record rfl).trans hcopy
      have haccount₃ := (hknown.toKept.account rfl).trans haccount
      refine ⟨_, _, Ledger.remove_success haccount₃, fun ip hip => ?_, ?_⟩
      · refine Finmap.lookup_erase_ne ?_
        rintro rfl
        exact hip rfl
      · rw [if_neg (not_not.mpr (Finmap.mem_of_lookup_eq_some hcopy₃))]
        refine counts_lock fun db₄ ledger₄ hkept _ => ?_
        have hshown₄ : Shown clientIp db₄ ledger₄ := hkept.shown rfl
          ((Finmap.lookup_erase _ _).trans (Finmap.lookup_erase clientIp db₃.databaseRecords).symm)
        refine counts_unlockClient (by simp) hshown₄ fun db₅ ledger₅ _ => ?_
        refine counts_access fun db₆ ledger₆ _ => ?_
        split
        · exact counts_ret fun _ => nofun
        · rename_i hmutex
          refine counts_access fun db₇ ledger₇ hknown₇ => ?_
          refine counts_unlock (by simp) (fun _ hmutex => by cases hmutex) ?_
          rw [if_neg (by
            rw [clientLocks_of_agree hknown₇.concrete (by simp)]
            exact hmutex)]
          -- the total balance
          refine counts_lock fun _ _ _ _ => counts_access fun _ _ _ => ?_
          refine counts_unlock (Or.inl rfl) (fun _ hmutex => by cases hmutex) ?_
          exact counts_respond rfl
    · exact ⟨_, Ledger.remove_notFound hmissing,
        counts_unlockClient rfl hshown₂ fun _ _ _ => counts_respond rfl⟩
  · exact ⟨_, Ledger.remove_notFound hmissing,
      counts_unlock (Or.inl rfl) (fun _ hmutex => by cases hmutex) (counts_respond rfl)⟩

/-- The records catch up with the ledger. -/
theorem counts_move {senderIp receiverIp : InAddr} {amount : UInt64}
    {sender receiver : ClientRecord} {verdict : Description × Option ClientRecord}
    (hself : senderIp ≠ receiverIp)
    (hmine : .client senderIp ∈ held) (hmine' : .client receiverIp ∈ held)
    (hsender : db.databaseRecords.lookup senderIp = some sender)
    (hreceiver : db.databaseRecords.lookup receiverIp = some receiver)
    (hdebited : ledger.records.lookup senderIp = some (sender.debit amount))
    (hcredited : ledger.records.lookup receiverIp = some (receiver.credit amount))
    (h : ∀ held db ledger, Counts call next held db ledger (some verdict)) :
    Counts call
      (assign senderIp (ClientRecord.debit amount) <|
       assign receiverIp (ClientRecord.credit amount) <|
       unlockClient senderIp <|
       unlockClient receiverIp next) held db ledger (some verdict) := by
  refine counts_assign hmine hsender fun db₁ ledger₁ hkept₁ hsender₁ => ?_
  have hreceiver₁ := (hkept₁.record hmine').trans hreceiver
  have hother₁ := (lookup_modify_of_ne (ClientRecord.debit amount) (Ne.symm hself)).trans hreceiver₁
  refine counts_assign hmine' hother₁ fun db₂ ledger₂ hkept₂ hother₂ => ?_
  have hsender₂ : (db₂.modify receiverIp (ClientRecord.credit amount)).databaseRecords.lookup
      senderIp = some (sender.debit amount) :=
    (lookup_modify_of_ne _ hself).trans ((hkept₂.record hmine).trans (lookup_modify hsender₁))
  refine counts_unlockBoth hmine hmine' hself ?_ ?_ fun db ledger => h _ db ledger
  · refine .trans ?_ hsender₂.symm
    exact (hkept₂.account hmine).trans ((hkept₁.account hmine).trans hdebited)
  · refine .trans ?_ (lookup_modify hother₂).symm
    exact (hkept₂.account hmine').trans ((hkept₁.account hmine').trans hcredited)

/-- A transfer that has found its clients counts with the request, and then changes the records to
what the ledger says already. -/
theorem counts_settle {senderIp receiverIp : InAddr} {amount : UInt64}
    {sender receiver : ClientRecord} (hzero : amount ≠ 0) (hself : senderIp ≠ receiverIp)
    (hmine : .client senderIp ∈ held) (hmine' : .client receiverIp ∈ held)
    (hsender : Found senderIp sender db ledger) (hreceiver : Found receiverIp receiver db ledger) :
    Counts (.makeTransaction senderIp receiverIp amount)
      (assign senderIp ClientRecord.count <|
       deref senderIp fun sender =>
       if sender.balance < amount then
         unlockClient senderIp <|
         unlockClient receiverIp <|
         deref senderIp fun sender =>
         respond false sender .insufficientBalance
       else
         assign senderIp (ClientRecord.debit amount) <|
         assign receiverIp (ClientRecord.credit amount) <|
         unlockClient senderIp <|
         unlockClient receiverIp <|
         lockMetadata <|
         .access (fun db => { db with
           totalTransferred := db.totalTransferred + amount.toUInt32 }) fun _ =>
         .access (fun db => { db with numTransactions := db.numTransactions + 1 }) fun _ =>
         unlockMetadata <|
         deref senderIp fun sender =>
         respond true sender .success) held db ledger none := by
  refine counts_assign_now hmine hsender.1 fun db₁ ledger₁ hkept₁ _ => ?_
  have hsender₁ := hkept₁.found hmine hsender
  have hreceiver₁ := hkept₁.found hmine' hreceiver
  have hcounted : (db₁.modify senderIp ClientRecord.count).databaseRecords.lookup senderIp
      = some sender.count := lookup_modify hsender₁.1
  have hother : (db₁.modify senderIp ClientRecord.count).databaseRecords.lookup receiverIp
      = some receiver := (lookup_modify_of_ne _ (Ne.symm hself)).trans hreceiver₁.1
  by_cases hcovered : sender.balance < amount
  · refine ⟨_, _, Ledger.transfer_insufficient hsender₁.2 hself hreceiver₁.2 hcovered,
      fun ip hip => ?_, ?_⟩
    · rw [Ledger.lookup_counted hsender₁.2, if_neg]
      rintro rfl
      exact hip hmine
    · refine counts_recordAt hmine hcounted fun db₂ ledger₂ hkept₂ => ?_
      rw [if_pos (show sender.count.balance < amount from hcovered)]
      refine counts_unlockBoth hmine hmine' hself ?_ ?_ fun _ _ =>
        counts_last_read (fun _ => nofun) fun _ _ _ => counts_respond rfl
      · refine hkept₂.shown hmine (.trans ?_ hcounted.symm)
        rw [Ledger.lookup_counted hsender₁.2, if_pos rfl]
      · refine hkept₂.shown hmine' (.trans ?_ hother.symm)
        rw [Ledger.lookup_counted hsender₁.2, if_neg (Ne.symm hself)]
        exact hreceiver₁.2
  · refine ⟨_, _, Ledger.transfer_success hsender₁.2 hzero hself hreceiver₁.2 hcovered,
      fun ip hip => ?_, ?_⟩
    · rw [Ledger.lookup_settled hsender₁.2 hreceiver₁.2, if_neg, if_neg]
      · rintro rfl
        exact hip hmine
      · rintro rfl
        exact hip hmine'
    · refine counts_recordAt hmine hcounted fun db₂ ledger₂ hkept₂ => ?_
      rw [if_neg (show ¬ sender.count.balance < amount from hcovered)]
      refine counts_move hself hmine hmine' ((hkept₂.record hmine).trans hcounted)
        ((hkept₂.record hmine').trans hother) ?_ ?_ fun _ _ _ => ?_
      · rw [hkept₂.account hmine, Ledger.lookup_settled hsender₁.2 hreceiver₁.2, if_neg hself,
          if_pos rfl]
      · rw [hkept₂.account hmine', Ledger.lookup_settled hsender₁.2 hreceiver₁.2, if_pos rfl]
      -- the totals
      refine counts_lock fun _ _ _ _ => counts_access fun _ _ _ => counts_access fun _ _ _ => ?_
      refine counts_unlock (Or.inl rfl) (fun _ hmutex => by cases hmutex) ?_
      exact counts_last_read (fun _ => nofun) fun _ _ _ => counts_respond rfl

/-- Every refusal of a transfer counts before the mutexes are given back. -/
theorem counts_makeTransaction (senderIp receiverIp : InAddr) (transferAmount : UInt64)
    (db : DbManager) (ledger : Ledger) :
    Counts (.makeTransaction senderIp receiverIp transferAmount)
      (makeTransaction senderIp receiverIp transferAmount) ∅ db ledger none := by
  have hno : ∀ ip, ¬ (DbCall.makeTransaction senderIp receiverIp transferAmount).Alters ip :=
    fun ip halters => halters.elim (fun heq => by cases heq) fun heq => by cases heq
  refine counts_lock fun _ _ _ _ => counts_lockClient (fun db₁ ledger₁ _ hsender => ?_)
    fun db₁ ledger₁ _ _ _ hmissing => ?_
  · split
    · -- a balance check
      rename_i hzero
      refine counts_unlockClient_refused (by simp) hsender fun db₂ ledger₂ hknown hsender₂ => ?_
      obtain ⟨sender, hrecord⟩ := Finmap.mem_iff.mp (hknown.present senderIp (by simp) (hno _))
      rw [hzero]
      refine ⟨_, Ledger.transfer_balanceCheck (hsender₂.trans hrecord), ?_⟩
      refine counts_unlock (by simp) (fun _ hmutex => by cases hmutex) ?_
      exact counts_last_read (fun _ => nofun) fun _ _ _ => counts_respond rfl
    rename_i hzero
    split
    · rename_i hself
      refine counts_unlockClient_refused (by simp) hsender fun db₂ ledger₂ hknown hsender₂ => ?_
      obtain ⟨sender, hrecord⟩ := Finmap.mem_iff.mp (hknown.present senderIp (by simp) (hno _))
      rw [← hself]
      refine ⟨_, Ledger.transfer_self (hsender₂.trans hrecord) hzero, ?_⟩
      refine counts_unlock (by simp) (fun _ hmutex => by cases hmutex) ?_
      exact counts_last_read (fun _ => nofun) fun _ _ _ => counts_respond rfl
    rename_i hself
    refine counts_lockClient (fun db₂ ledger₂ hkept₂ hreceiver => ?_)
      fun db₂ ledger₂ _ hknown _ hmissing => ?_
    · have hsender₂ := hkept₂.shown (by simp) hsender
      refine counts_unlock (by simp) (fun _ hmutex => by cases hmutex) ?_
      refine counts_find (by simp) hsender₂ (fun db₃ ledger₃ sender hkept₃ hrecord haccount => ?_)
        fun db₃ ledger₃ hkept₃ hmissing hshown₃ => ?_
      · have hreceiver₃ := hkept₃.shown (by simp) hreceiver
        refine counts_find (by simp) hreceiver₃
          (fun db₄ ledger₄ receiver hkept₄ hrecord' haccount' => ?_)
          fun db₄ ledger₄ hkept₄ hmissing hshown₄ => ?_
        · exact counts_settle hzero hself (by simp) (by simp)
            (hkept₄.found (by simp) ⟨hrecord, haccount⟩) ⟨hrecord', haccount'⟩
        · have hfound := hkept₄.found (by simp) ⟨hrecord, haccount⟩
          refine ⟨_, Ledger.transfer_unknownReceiver hfound.2 hzero hself hmissing, ?_⟩
          exact counts_unlockBoth (by simp) (by simp) hself hfound.shown hshown₄ fun _ _ =>
            counts_last_read (fun _ => nofun) fun _ _ _ => counts_respond rfl
      · refine ⟨_, Ledger.transfer_unknownSender hmissing, ?_⟩
        exact counts_unlockBoth (by simp) (by simp) hself hshown₃
          (hkept₃.shown (by simp) hreceiver) fun _ _ => counts_respond rfl
    · -- the receiver is not registered, but the sender is
      have hsender₂ := hknown.toKept.shown (by simp) hsender
      obtain ⟨sender, hrecord⟩ := Finmap.mem_iff.mp (hknown.present senderIp (by simp) (hno _))
      refine ⟨_, Ledger.transfer_unknownReceiver (hsender₂.trans hrecord) hzero hself hmissing, ?_⟩
      refine counts_access fun db₃ ledger₃ hknown₃ => ?_
      refine counts_unlockClient (by simp) (hknown₃.toKept.shown (by simp) hsender₂)
        fun _ _ _ => ?_
      exact counts_unlock (by simp) (fun _ hmutex => by cases hmutex) (counts_respond rfl)
  · exact ⟨_, Ledger.transfer_unknownSender hmissing,
      counts_unlock (Or.inl rfl) (fun _ hmutex => by cases hmutex) (counts_respond rfl)⟩

/-- **Every call counts once.** -/
theorem linear_body (call : DbCall) (db : DbManager) (ledger : Ledger) :
    Linear ledgerSpecification call call.body ∅ db ledger none := by
  cases call with
  | registerClient clientIp => exact counts_registerClient clientIp db ledger
  | makeTransaction senderIp receiverIp transferAmount =>
      exact counts_makeTransaction senderIp receiverIp transferAmount db ledger
  | removeClient clientIp => exact counts_removeClient clientIp db ledger

end Code

/-! ## Runs -/

/-- A thread that is about to give back the mutex of a client whose registration it refuses has not
left the client without a record itself. -/
theorem gap_ne_of_duplicate {call : DbCall} {prog : ReportingCode} {held : Set Mutex}
    {seen gap : Option InAddr} {ip : InAddr} {w : Reporting}
    (hcareful : Careful call prog held seen gap) (hfinds : Finds held seen gap w)
    (hprog : forget prog = unlockClient ip (respond false .empty .duplicateIp))
    (hheld : held = {.client ip}) : gap ≠ some ip := by
  rintro rfl
  obtain ⟨hlocks, hnew⟩ := hfinds.gap ip rfl
  cases prog with
  | ret outcome => cases hprog
  | lock mutex next => cases hprog
  | unlock mutex next => cases hprog
  | access update next =>
      -- the access of `unlockClient` only looks for the mutex: it neither closes the gap
      obtain ⟨hupdate, hnext⟩ := Prog.access.inj hprog
      have hquiet : w.db.quiet = w := by
        rw [DbManager.quiet, ← hfinds.quiet]
      have hsame : (update w).db = w.db := by
        have hsame := congrFun hupdate w.db
        rw [hquiet] at hsame
        exact hsame
      obtain ⟨-, seen', gap', hchange, -, hcareful'⟩ := hcareful w hfinds
      have hgap : gap' = some ip := by
        cases hchange with
        | same => rfl
        | recorded ip hlocks' hkeys =>
            rw [hsame] at hkeys
            exact absurd (Finmap.mem_keys.mp (hkeys ▸ Finset.mem_insert_self ..)) hnew
        | closed ip hdatabase hfree hlocks' hkeys =>
            rw [hsame] at hlocks'
            exact absurd (hlocks' ▸ hlocks) (Finset.notMem_erase ip _)
      -- nor may the unlock after it leave the gap behind
      have hunlock := congrFun hnext w.db
      rw [hquiet, if_pos hlocks] at hunlock
      cases hthen : next w with
      | ret outcome =>
          rw [hthen] at hunlock
          cases hunlock
      | lock mutex next =>
          rw [hthen] at hunlock
          cases hunlock
      | access update next =>
          rw [hthen] at hunlock
          cases hunlock
      | unlock mutex next =>
          rw [hthen] at hunlock hcareful'
          obtain ⟨hmutex, -⟩ := Prog.unlock.inj hunlock
          have hkept := hcareful'.2.1 ip hgap
          rw [hheld, hmutex, Set.sdiff_self] at hkept
          exact hkept.elim id id

section Runs

variable {Tid : Type} [DecidableEq Tid] {db : DbManager} {calls : Tid → List DbCall}
  {schedule more : List Tid} {c c' : Bank Tid}

/-- The specification takes nothing for granted that does not hold. -/
theorem granted_of_runs (hkeys : db.clientLocks = db.databaseRecords.keys)
    (run : Runs (LockProgram.step DbCall.body) Always (Config.start db calls) schedule c) :
    ledgerSpecification.Granted c := by
  obtain ⟨c, run', rfl⟩ := (runs_reporting hkeys).mp run
  obtain ⟨seen, gap, h⟩ := consistent_of_runs hkeys run'
  refine ⟨?_, fun t call prog hactive => ?_⟩
  · rintro mutex ⟨ip, rfl, hmissing⟩
    refine Option.eq_none_iff_forall_ne_some.mpr fun t hholder => ?_
    exact hmissing (h.tables.locked t ip hholder)
  · obtain ⟨⟨call', prog'⟩, hactive', heq⟩ := Option.map_eq_some_iff.mp hactive
    obtain ⟨rfl, rfl⟩ := Prod.mk.inj heq
    obtain ⟨hcareful, halters⟩ := h.of_active hactive'
    refine ⟨h.tables.recorded, fun ip hmine => h.tables.locked t ip hmine, fun ip hmine hno => ?_,
      fun ip hprog hheld => ?_⟩
    · exact (h.finds t).present ip hmine fun hgap => hno (halters ip hgap)
    · have hmine : .client ip ∈ c.holds t := hheld ▸ rfl
      exact (h.finds t).present ip hmine (gap_ne_of_duplicate hcareful (h.finds t) hprog hheld)

end Runs

/-! ## A removal that waits -/

/-- Client 1 sends 40 to client 2, who is removed at the same time. -/
def transferAndRemoval : Bool → List DbCall
  | false => [.makeTransaction 1 2 40]
  | true => [.removeClient 2]

/-- The request has been counted, and nothing has been moved yet. -/
def justCounted : List Bool := List.replicate 10 false

/-- The remover waits for the mutex of client 2, and has it when the money has been moved. -/
def thenRemoved : List Bool :=
  List.replicate 3 true ++ List.replicate 7 false ++ List.replicate 14 true

end Brix
