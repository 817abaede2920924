import Brix.Server.Ledger
import Brix.Server.TableConsistency

/-!
# Records read without a lock

Almost every `at` of the ledger is under the mutex that keeps its key in place, or in a `try`.
The exceptions are the two answers of `make_transaction` that move nothing, to a balance check
and to a transfer to oneself: both mutexes have been given back when the sender's record is
read, and a `remove_client` may have erased it meanwhile.  Nobody catches the exception then,
and the server goes down.

* `DbCall.Checks` — the calls that end with such a read
* `Guards` — code that throws nothing else: what else is out of range would be so with a mutex
  in hand, and no call ends with a mutex in hand
* `threw_nothing_iff` — a run throws nothing exactly if every such read finds its record

### What is load-bearing

To show that nothing else is thrown it is not necessary to show that nothing else is missing.
`Guards` says of code that what is missing would be missing with a mutex in hand, and that the
code then goes on to give its mutexes back or to throw with one in its hand; and a call that has
ended has none (`Config.Tidy`, from the consistency of the tables).  So a call that ended in
`out_of_range` has ended in one of the two reads that stand outside of every lock, and has not
found its record there.
-/

namespace Brix

open LockProgram Execution DbManager

/-- The call is a balance check of `ip`, or a transfer from `ip` to itself. -/
def DbCall.Checks (call : DbCall) (ip : InAddr) : Prop :=
  ∃ receiverIp transferAmount, call = .makeTransaction ip receiverIp transferAmount ∧
    (transferAmount = 0 ∨ ip = receiverIp)

/-- A check with no mutex in hand, of a client that has no record. -/
def Missing (call : DbCall) (held : Set Mutex) (db : DbManager) : Prop :=
  held = ∅ ∧ ∃ ip, call.Checks ip ∧ ip ∉ db.databaseRecords

/-! ## What throws -/

/-- Code in which every exception is caught. -/
def Catches : Code → Prop
  | .ret outcome => outcome ≠ .outOfRange
  | .lock _ next => Catches next
  | .unlock _ next => Catches next
  | .access _ next => ∀ db, Catches (next db)

/-- Code that throws at the read of a missing record, or with a mutex in hand. -/
def Guards (call : DbCall) : Code → Set Mutex → Prop
  | .ret outcome, held => outcome = .outOfRange → held ≠ ∅
  | .lock mutex next, held => Guards call next (insert mutex held)
  | .unlock mutex next, held => Guards call next (held \ {mutex})
  | .access _ next, held => ∀ db,
      (Missing call held db → next db = .ret .outOfRange) ∧
        (¬ Missing call held db → Guards call (next db) held)

section Code

variable {call : DbCall} {held held' : Set Mutex} {ip : InAddr} {prog next onOutOfRange : Code}

/-- What is missing with more in hand is missing with less. -/
theorem Missing.mono {db : DbManager} (h : Missing call held' db) (hsub : held ⊆ held') :
    Missing call held db :=
  ⟨Set.subset_eq_empty hsub h.1, h.2⟩

/-- With a mutex in hand a call does not get to its unlocked read. -/
theorem not_missing_of_mem {mutex : Mutex} (hmem : mutex ∈ held) (db : DbManager) :
    ¬ Missing call held db :=
  fun h => Set.notMem_empty mutex (h.1 ▸ hmem)

/-- Code that guards with less in hand does so with more. -/
theorem Guards.mono (h : Guards call prog held) (hsub : held ⊆ held') :
    Guards call prog held' := by
  induction prog generalizing held held' with
  | ret outcome =>
      intro houtcome hheld'
      exact h houtcome (Set.subset_eq_empty hsub hheld')
  | lock mutex next ih => exact ih h (Set.insert_subset_insert hsub)
  | unlock mutex next ih => exact ih h (Set.sdiff_subset_sdiff_left hsub)
  | access update next ih =>
      intro db
      refine ⟨fun hmissing => (h db).1 (hmissing.mono hsub), fun hthere => ?_⟩
      by_cases hmissing : Missing call held db
      · -- the larger set is what makes the difference, so it is not empty
        rw [(h db).1 hmissing]
        exact fun _ hheld' => hthere ⟨hheld', hmissing.2⟩
      · exact ih db ((h db).2 hmissing) hsub

/-- An access that is no such read. -/
theorem guards_access {next : DbManager → Code} (hthere : ∀ db, ¬ Missing call held db)
    (h : ∀ db, Guards call (next db) held) :
    ∀ db, (Missing call held db → next db = .ret .outOfRange) ∧
      (¬ Missing call held db → Guards call (next db) held) :=
  fun db => ⟨fun hmissing => absurd hmissing (hthere db), fun _ => h db⟩

/-- A call that checks nothing, once there is nothing left that could throw. -/
theorem Catches.guards (h : Catches prog) (hcall : ∀ ip, ¬ call.Checks ip) :
    Guards call prog held := by
  induction prog generalizing held with
  | ret outcome => exact fun houtcome => absurd houtcome h
  | lock mutex next ih => exact ih h
  | unlock mutex next ih => exact ih h
  | access update next ih =>
      exact guards_access (fun db ⟨_, ip, hip, _⟩ => hcall ip hip) fun db => ih db (h db)

/-- A response is no exception. -/
theorem guards_respond {success : Bool} {record : ClientRecord} {code : Description} :
    Guards call (respond success record code) held := nofun

/-- To look a client up may fail, and then the other branch must guard. -/
theorem guards_lockClient {mutex : Mutex} (hmine : mutex ∈ held)
    (hlocked : Guards call next (insert (.client ip) held))
    (hmissing : Guards call onOutOfRange held) :
    Guards call (lockClient ip onOutOfRange next) held := by
  refine guards_access (not_missing_of_mem hmine) fun db => ?_
  split
  · exact hlocked
  · exact hmissing

/-- To unlock throws nothing. -/
theorem guards_unlockClient (hmine : .client ip ∈ held)
    (h : Guards call next (held \ {.client ip})) : Guards call (unlockClient ip next) held := by
  refine guards_access (not_missing_of_mem hmine) fun db => ?_
  split
  · exact h
  · exact h.mono Set.sdiff_subset

/-- The read that may throw. -/
theorem guards_recordAt {next : ClientRecord → Code} (hip : ∀ ip', call.Checks ip' ↔ ip' = ip)
    (h : ∀ record, Guards call (next record) held) :
    Guards call (recordAt ip (.ret .outOfRange) next) held := by
  intro db
  dsimp only
  cases hrecord : db.databaseRecords.lookup ip with
  | none =>
      refine ⟨fun _ => rfl, fun hthere _ hheld => ?_⟩
      exact hthere ⟨hheld, ip, (hip ip).mpr rfl, Finmap.lookup_eq_none.mp hrecord⟩
  | some record =>
      refine ⟨fun ⟨_, ip', hip', hmissing⟩ => ?_, fun _ => h record⟩
      rw [(hip ip').mp hip', ← Finmap.lookup_eq_none, hrecord] at hmissing
      cases hmissing

/-- Code that catches everything ends with a response. -/
theorem catches_respond {success : Bool} {record : ClientRecord} {code : Description} :
    Catches (respond success record code) := nofun

/-- A missing mutex is caught, -/
theorem catches_lockClient (h : Catches next) (hmissing : Catches onOutOfRange) :
    Catches (lockClient ip onOutOfRange next) := by
  intro db
  dsimp only
  split
  · exact h
  · exact hmissing

/-- one that is to be given back is only reported, -/
theorem catches_unlockClient (h : Catches next) : Catches (unlockClient ip next) := by
  intro db
  dsimp only
  split
  · exact h
  · exact h

/-- a missing record is caught, -/
theorem catches_recordAt {next : ClientRecord → Code} (h : ∀ record, Catches (next record))
    (hmissing : Catches onOutOfRange) : Catches (recordAt ip onOutOfRange next) := by
  intro db
  dsimp only
  split
  · exact h _
  · exact hmissing

/-- a pointer throws nothing, -/
theorem catches_deref {next : ClientRecord → Code} (h : ∀ record, Catches (next record)) :
    Catches (deref ip next) :=
  catches_recordAt h nofun

/-- and neither does an assignment. -/
theorem catches_assign {f : ClientRecord → ClientRecord} (h : Catches next) :
    Catches (assign ip f next) := by
  intro db
  dsimp only
  split
  · exact h
  · exact nofun

/-! ## The operations -/

/-- `register_client` could throw only under the database lock. -/
theorem guards_registerClient (clientIp : InAddr) :
    Guards (.registerClient clientIp) (registerClient clientIp) ∅ := by
  have hcall : ∀ ip, ¬ (DbCall.registerClient clientIp).Checks ip := nofun
  refine guards_access (not_missing_of_mem (Set.mem_insert ..)) fun before => ?_
  refine guards_lockClient (Set.mem_insert ..) (Catches.guards ?_ hcall) fun _ =>
    (Set.insert_nonempty ..).ne_empty
  show Catches (if clientIp ∈ before.clientLocks then _ else _)
  split
  · exact catches_unlockClient catches_respond
  · intro db
    dsimp only
    split
    · exact catches_unlockClient catches_respond
    · exact catches_unlockClient fun db => catches_deref fun _ => catches_respond

/-- A transfer that is no check catches whatever it throws. -/
theorem catches_makeTransaction {senderIp receiverIp : InAddr} {transferAmount : UInt64}
    (hzero : transferAmount ≠ 0) (hself : senderIp ≠ receiverIp) :
    Catches (makeTransaction senderIp receiverIp transferAmount) := by
  refine catches_lockClient ?_ catches_respond
  rw [if_neg hzero, if_neg hself]
  refine catches_lockClient ?_ fun _ => catches_unlockClient catches_respond
  refine catches_recordAt (fun _ => ?_)
    (catches_unlockClient (catches_unlockClient catches_respond))
  refine catches_recordAt (fun _ => ?_) (catches_unlockClient (catches_unlockClient
    (catches_deref fun _ => catches_respond)))
  refine catches_assign (catches_deref fun sender => ?_)
  split
  · exact catches_unlockClient (catches_unlockClient (catches_deref fun _ => catches_respond))
  · refine catches_assign (catches_assign (catches_unlockClient (catches_unlockClient ?_)))
    exact fun _ _ => catches_deref fun _ => catches_respond

/-- Which transfers end with an unlocked read. -/
theorem checks_iff {senderIp receiverIp : InAddr} {transferAmount : UInt64} {ip : InAddr} :
    (DbCall.makeTransaction senderIp receiverIp transferAmount).Checks ip ↔
      ip = senderIp ∧ (transferAmount = 0 ∨ senderIp = receiverIp) := by
  constructor
  · rintro ⟨_, _, ⟨⟩, hcheck⟩
    exact ⟨rfl, hcheck⟩
  · rintro ⟨rfl, hcheck⟩
    exact ⟨receiverIp, transferAmount, rfl, hcheck⟩

/-- Of the exits of `make_transaction` the two in `Checks` are the ones without a guard. -/
theorem guards_makeTransaction (senderIp receiverIp : InAddr) (transferAmount : UInt64) :
    Guards (.makeTransaction senderIp receiverIp transferAmount)
      (makeTransaction senderIp receiverIp transferAmount) ∅ := by
  by_cases hcheck : transferAmount = 0 ∨ senderIp = receiverIp
  · have hip : ∀ ip, (DbCall.makeTransaction senderIp receiverIp transferAmount).Checks ip ↔
        ip = senderIp := fun ip => checks_iff.trans (and_iff_left hcheck)
    refine guards_lockClient (Set.mem_insert ..) ?_ nofun
    split
    · exact guards_unlockClient (Set.mem_insert ..) (guards_recordAt hip fun _ => guards_respond)
    · rename_i hzero
      rw [if_pos (hcheck.resolve_left hzero)]
      exact guards_unlockClient (Set.mem_insert ..) (guards_recordAt hip fun _ => guards_respond)
  · rw [not_or] at hcheck
    refine (catches_makeTransaction hcheck.1 hcheck.2).guards fun ip hip => ?_
    exact (checks_iff.mp hip).2.elim hcheck.1 hcheck.2

/-- `remove_client` looks for the mutex under the database lock. -/
theorem guards_removeClient (clientIp : InAddr) :
    Guards (.removeClient clientIp) (removeClient clientIp) ∅ := by
  have hcall : ∀ ip, ¬ (DbCall.removeClient clientIp).Checks ip := nofun
  have hthere : ∀ held db, ¬ Missing (.removeClient clientIp) held db :=
    fun _ _ ⟨_, ip, hip, _⟩ => hcall ip hip
  refine guards_lockClient (Set.mem_insert ..) ?_ nofun
  refine guards_access (hthere _) fun db => ?_
  dsimp only
  split
  · refine guards_access (hthere _) fun db => ?_
    split
    · exact (catches_unlockClient catches_respond).guards hcall
    · refine guards_unlockClient (by simp) (guards_access (hthere _) fun db => ?_)
      split
      · -- the database lock is still held
        exact fun _ => Set.Nonempty.ne_empty ⟨.databaseAccess, by simp⟩
      · refine Catches.guards (fun db => ?_) hcall
        show Catches (if clientIp ∉ db.clientLocks then _ else _)
        split
        · exact catches_respond
        · exact fun _ => catches_respond
  · exact (catches_unlockClient catches_respond).guards hcall

/-- So it is with every call. -/
theorem guards_body (call : DbCall) : Guards call call.body ∅ := by
  cases call with
  | registerClient clientIp => exact guards_registerClient clientIp
  | makeTransaction senderIp receiverIp transferAmount =>
      exact guards_makeTransaction senderIp receiverIp transferAmount
  | removeClient clientIp => exact guards_removeClient clientIp

end Code

/-! ## Runs -/

/-- An access is no check of a client that has no record. -/
def Admits (call : DbCall) (prog : Code) (held : Set Mutex) (db : DbManager) : Prop :=
  ∀ update next, prog = .access update next → ¬ Missing call held db

/-- Others do not change what code guards against. -/
theorem outline_guards :
    Outline DbCall.body Admits fun call prog held _ => Guards call prog held where
  begin call _ := guards_body call
  lock h _ := h
  unlock h _ := h
  access h admits := (h _).2 (admits _ _ rfl)
  others _ _ _ h := h

section Runs

variable {Tid : Type} {c c' : Bank Tid} {t u : Tid}

/-- The thread's next step is not a check, with its mutexes given back, of a client that has no
record. -/
def Bank.Finds (c : Bank Tid) (t : Tid) : Prop :=
  ∀ call prog, (c.thread t).active = some (call, prog) → Admits call prog (c.holds t) c.mem

/-- `std::out_of_range` has escaped from a call of the thread. -/
def Bank.Threw (c : Bank Tid) (t : Tid) : Prop :=
  (∃ call, (c.thread t).active = some (call, .ret .outOfRange)) ∨
    ∃ call, (call, .outOfRange) ∈ (c.thread t).finished

/-- Whether a thread has thrown depends on the thread. -/
theorem threw_congr (h : c'.thread t = c.thread t) : c'.Threw t ↔ c.Threw t := by
  unfold Bank.Threw
  rw [h]

/-- Nobody has thrown anything yet. -/
theorem not_threw_start (db : DbManager) (calls : Tid → List DbCall) (t : Tid) :
    ¬ Bank.Threw (Config.start db calls) t := by
  rintro (⟨call, hactive⟩ | ⟨call, hfinished⟩)
  · cases hactive
  · cases hfinished

variable [DecidableEq Tid]

/-- What a step adds to what the threads have thrown. -/
theorem threw_step (taken : LockProgram.step DbCall.body c t = some c') :
    c'.Threw u ↔ c.Threw u ∨ ∃ call, (c'.thread u).active = some (call, .ret .outOfRange) := by
  by_cases hut : u = t
  · subst hut
    rcases step_cases taken with ⟨call, rest, hactive, hpending, rfl⟩ |
      ⟨call, result, hactive, rfl⟩ | ⟨call, mutex, next, hactive, hfree, rfl⟩ |
      ⟨call, mutex, next, hactive, rfl⟩ | ⟨call, update, next, hactive, rfl⟩
    · simp [Bank.Threw, hactive, Thread.begin, or_comm]
    · simp only [Bank.Threw, Config.setThread_self, Thread.done, hactive]
      constructor
      · rintro (⟨_, hnone⟩ | ⟨call', hfinished⟩)
        · cases hnone
        · rcases List.mem_append.mp hfinished with hfinished | hfinished
          · exact Or.inl (Or.inr ⟨call', hfinished⟩)
          · cases List.mem_singleton.mp hfinished
            exact Or.inl (Or.inl ⟨_, rfl⟩)
      · rintro ((⟨call', heq⟩ | ⟨call', hfinished⟩) | ⟨_, hnone⟩)
        · cases heq
          exact Or.inr ⟨_, List.mem_append_right _ List.mem_cons_self⟩
        · exact Or.inr ⟨call', List.mem_append_left _ hfinished⟩
        · cases hnone
    · simp [Bank.Threw, hactive, Thread.at, or_comm]
    · simp [Bank.Threw, hactive, Thread.at, or_comm]
    · simp [Bank.Threw, hactive, Thread.at, or_comm]
  · have hthread : c'.thread u = c.thread u := thread_of_ne_step taken hut
    rw [threw_congr hthread, hthread]
    exact ⟨Or.inl, fun h => h.elim (fun h => h) Or.inl⟩

variable {db : DbManager} {calls : Tid → List DbCall} {schedule : List Tid}

/-- Where a run has got to whose checks have all found their records. -/
theorem guards_of_runs (hkeys : db.clientLocks = db.databaseRecords.keys)
    (run : Runs (LockProgram.step DbCall.body) Bank.Finds (Config.start db calls) schedule c) :
    Asserts (fun call prog held _ => Guards call prog held) c ∧ ∀ t, ¬ c.Threw t := by
  induction run with
  | nil => exact ⟨asserts_start _ db calls, not_threw_start db calls⟩
  | snoc run admitted taken ih =>
      have hplain := run.toAlways
      have hguards := ih.1.step outline_guards (tidy_of_runs hkeys hplain) admitted taken
      refine ⟨hguards, fun t hthrew => ?_⟩
      rcases (threw_step taken).mp hthrew with hthrew | ⟨call, hactive⟩
      · exact ih.2 t hthrew
      · -- a call that throws holds a mutex, and a call that ends holds none
        have htidy := tidy_of_runs hkeys (hplain.snoc trivial taken)
        exact hguards t call _ hactive rfl (htidy.returned t call _ hactive)

/-- A check that does not find its record throws. -/
theorem threw_of_not_finds (hguards : Asserts (fun call prog held _ => Guards call prog held) c)
    (taken : LockProgram.step DbCall.body c t = some c') (hmissing : ¬ c.Finds t) :
    c'.Threw t := by
  unfold Bank.Finds Admits at hmissing
  push Not at hmissing
  obtain ⟨call, _, hactive, update, next, rfl, hmissing⟩ := hmissing
  have hnext := ((hguards t call _ hactive) c.mem).1 hmissing
  rw [LockProgram.step, hactive] at taken
  cases taken
  refine Or.inl ⟨call, ?_⟩
  rw [Config.setThread_self, Thread.at, hnext]

/-- **When no exception escapes.**  Any threads, each with any calls, interleaved in any way:
no call ends with `std::out_of_range` exactly if every balance check and every transfer to
oneself, when it reads the sender's record with its mutexes given back, finds it.

The condition is about the moment of the read and about nothing else.  In between the release of
the mutex and the read the client may have been removed and registered again, and then the read
finds a record, if not the one that was meant. -/
theorem threw_nothing_iff (hkeys : db.clientLocks = db.databaseRecords.keys) :
    Runs (LockProgram.step DbCall.body) Bank.Finds (Config.start db calls) schedule c ↔
      Runs (LockProgram.step DbCall.body) Always (Config.start db calls) schedule c ∧
        ∀ t, ¬ c.Threw t := by
  constructor
  · intro run
    exact ⟨run.toAlways, (guards_of_runs hkeys run).2⟩
  · rintro ⟨run, hthrew⟩
    induction run with
    | nil => exact .nil
    | snoc run _ taken ih =>
        have hfound := ih fun t h => hthrew t ((threw_step taken).mpr (Or.inl h))
        refine .snoc hfound ?_ taken
        by_contra hmissing
        exact hthrew _ (threw_of_not_finds (guards_of_runs hkeys hfound).1 taken hmissing)

end Runs

/-! ## A check and a removal -/

/-- Client 1 checks its balance while it is removed. -/
def checkCalls : Bool → List DbCall
  | false => [.makeTransaction 1 2 0]
  | true => [.removeClient 1]

/-- The removal comes between the check's last unlock and its read. -/
def removedBeforeRead : List Bool :=
  List.replicate 7 false ++ List.replicate 7 true ++ List.replicate 2 false

/-- **The check throws, and nobody catches it.** -/
theorem removed_before_read_throws : ∃ c,
    Runs (LockProgram.step DbCall.body) Always
      (Config.start (Ledger.empty.register 1).2.toDbManager checkCalls) removedBeforeRead c ∧
    (.makeTransaction 1 2 0, .outOfRange) ∈ (c.thread false).finished := by
  have hrun : (perform (LockProgram.step DbCall.body)
      (Config.start (Ledger.empty.register 1).2.toDbManager checkCalls) removedBeforeRead).any
        (fun c => decide ((.makeTransaction 1 2 0, .outOfRange) ∈ (c.thread false).finished))
          = true := by
    decide +kernel
  obtain ⟨c, run, hthrew⟩ := exists_runs_of_any hrun
  exact ⟨c, run, of_decide_eq_true hthrew⟩

/-- The removal comes after the check. -/
def removedAfterRead : List Bool := List.replicate 9 false ++ List.replicate 17 true

/-- Nothing is thrown then, so the check has found the record. -/
theorem removed_after_read_finds : ∃ c,
    Runs (LockProgram.step DbCall.body) Bank.Finds
      (Config.start (Ledger.empty.register 1).2.toDbManager checkCalls) removedAfterRead c ∧
    1 ∉ c.mem.databaseRecords := by
  have hrun : (perform (LockProgram.step DbCall.body)
      (Config.start (Ledger.empty.register 1).2.toDbManager checkCalls) removedAfterRead).any
        (fun c => decide ((∀ t, (c.thread t).active.isNone ∧
            ∀ entry ∈ (c.thread t).finished, entry.2 ≠ .outOfRange) ∧
          1 ∉ c.mem.databaseRecords)) = true := by
    decide +kernel
  obtain ⟨c, run, hdone⟩ := exists_runs_of_any hrun
  obtain ⟨hdone, hremoved⟩ := of_decide_eq_true hdone
  refine ⟨c, (threw_nothing_iff rfl).mpr ⟨run, fun t hthrew => ?_⟩, hremoved⟩
  obtain ⟨hactive, hfinished⟩ := hdone t
  rcases hthrew with ⟨call, hret⟩ | ⟨call, hmem⟩
  · rw [hret] at hactive
    cases hactive
  · exact hfinished _ hmem rfl

end Brix
