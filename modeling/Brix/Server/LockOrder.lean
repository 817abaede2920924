import Brix.Server.DbManager
import Mathlib.Data.Set.Insert
import Mathlib.Tactic.Simps.Basic

/-!
# The order of the ledger's locks

`register_client`, `make_transaction` and the first half of `remove_client` agree
on an order: the database lock first, clients while it is held, the metadata lock
with nothing else in hand.  The second half of `remove_client` breaks it.  It goes
back for the database lock with the client's mutex still in hand, and whoever took
the database lock meanwhile and wants that client waits for the remover while the
remover waits for it.

`Disciplined` is what every point of every operation keeps to, in terms of what
the thread can rely on there (`View`); `asks` are the clients a holder of the
database lock is still going to lock.  `Orderly` adds up both over the threads.  It
survives every step except one, where a thread takes the database lock to lock a
client that is being removed.  `not_deadlocked_of_admitted` is the result for runs
without that step, `removal_deadlocks` a run with it.

### The design

Deadlock freedom is a fact about all threads, and the operations are long.  The two are kept apart
by the view.  `Disciplined call prog v` speaks of one thread and of the code it has still to run,
and it is proved once for each operation, from its first instruction on, with no other thread in
sight (`disciplined_body`).  What others may do to the tables between two instructions of the
thread is already in it: after an access the code must be disciplined for whatever tables agree
with the view, not for the tables it has left behind.

A view therefore contains only what survives the steps of others.  A mutex is held until its
holder gives it back.  A client stays in the lock table while the database lock is held, and so do
the clients whose mutex is free then, because a mutex is only ever taken under that lock.  A
record that was found stays while its client's mutex is held, and the field `protects` of `View`
makes this a part of what a view is: a view that knows of a record without holding the mutex
cannot be written down.

### What is load-bearing

`Bank.Orderly.clear` is the clause that everything depends on.  Without it `Orderly` would be a
list of facts about single threads, and each of them holds in a deadlock just as well.  It says
that whoever holds the database lock is not on its way to a client that somebody else is removing,
and it is the only clause that a step can break: a thread that takes the database lock acquires
all that it is going to ask for at once.  `Admitted` forbids exactly that step, and `asks_body` is
what connects the two, because it bounds what a call may ask for by what is written in the call.

From there to the absence of deadlock it is a matter of ranks (`Bank.rank`): whoever waits, waits
for a thread of smaller rank (`rank_lt`), so no chain of waiting threads closes.  A thread that
waits for a client has the database lock already, and the one that has the client can move.  The
exception would be a remover, which has its client and waits for the database lock; that nobody
with the database lock waits for such a client is `clear` again.
-/

namespace Brix

open LockProgram Execution

/-- What a thread can rely on: the mutexes it holds, and, as far as those protect
it, the keys of the lock table, clients whose mutex is free, and held clients that
have a record. -/
structure View where
  held : Set Mutex
  locks : Finset InAddr
  free : Set InAddr
  present : Set InAddr
  /-- A record is protected by its client's mutex only. -/
  protects : ∀ ip ∈ present, .client ip ∈ held

namespace View

@[simps]
def lockDatabase (v : View) (locks : Finset InAddr) : View where
  held := insert .databaseAccess v.held
  locks := locks
  free := ∅
  present := v.present
  protects := fun ip hip => Or.inr (v.protects ip hip)

@[simps]
def lockMetadata (v : View) : View where
  held := insert .databaseMetadata v.held
  locks := v.locks
  free := v.free
  present := v.present
  protects := fun ip hip => Or.inr (v.protects ip hip)

@[simps]
def lockClient (v : View) (ip : InAddr) : View where
  held := insert (.client ip) v.held
  locks := v.locks
  free := v.free \ {ip}
  present := v.present
  protects := fun ip' hip => Or.inr (v.protects ip' hip)

@[simps]
def unlock (v : View) (mutex : Mutex) : View where
  held := v.held \ {mutex}
  locks := v.locks
  free := {ip | ip ∈ v.free ∨ mutex = .client ip}
  present := {ip | ip ∈ v.present ∧ mutex ≠ .client ip}
  protects := fun ip hip => ⟨v.protects ip hip.1, Ne.symm hip.2⟩

/-- Look at the tables. -/
@[simps]
def see (v : View) (db : DbManager) : View where
  held := v.held
  locks := db.clientLocks
  free := v.free
  present := {ip | .client ip ∈ v.held ∧ ip ∈ db.databaseRecords}
  protects := fun _ hip => hip.1

/-- The tables bear the view out. -/
structure Agrees (v : View) (db : DbManager) : Prop where
  locks : .databaseAccess ∈ v.held → db.clientLocks = v.locks
  registered : ∀ ip, .client ip ∈ v.held → ip ∈ db.clientLocks
  present : ∀ ip ∈ v.present, ip ∈ db.databaseRecords

/-- The lock table is changed under the database lock and loses only clients whose
mutex is free; the record table loses only clients whose mutex is held. -/
structure MayChange (v : View) (db db' : DbManager) : Prop where
  locks : db'.clientLocks ≠ db.clientLocks → .databaseAccess ∈ v.held
  unlocked : ∀ ip ∈ db.clientLocks, ip ∉ db'.clientLocks → ip ∈ v.free
  records : ∀ ip ∈ db.databaseRecords, ip ∉ db'.databaseRecords → .client ip ∈ v.held

/-- `v'` knows at least what `v` knows. -/
structure Le (v v' : View) : Prop where
  held : v.held = v'.held
  locks : .databaseAccess ∈ v.held → v.locks = v'.locks
  free : .databaseAccess ∈ v.held → v.free ⊆ v'.free
  present : v.present ⊆ v'.present

end View

/-- The clients the code may lock before it gives the database lock back, where
the lock table is `locks`. -/
def asks : Code → Finset InAddr → Set InAddr
  | .lock (.client ip) next, locks => insert ip (asks next locks)
  | .unlock .databaseAccess _, _ => ∅
  | .unlock _ next, locks => asks next locks
  | .access update next, locks =>
      {ip | ∃ db, db.clientLocks = locks ∧ ip ∈ asks (next db) (update db).clientLocks}
  | _, _ => ∅

/-- What the code still to run may do, in a given view.  The database lock is taken
with nothing in hand, or by `remove_client` with its client in hand; a client is
locked under the database lock; the metadata lock stands alone; and a call returns
with nothing locked.  Only the first thing a call does may lead on to a client. -/
def Disciplined (call : DbCall) : Code → View → Prop
  | .ret _, v => v.held = ∅
  | .lock .databaseAccess next, v =>
      (v.held = ∅ ∨ ∃ ip, call = .removeClient ip ∧ v.held = {.client ip}) ∧
      (.lock .databaseAccess next = call.body ∨ ∀ locks, asks next locks = ∅) ∧
      ∀ locks, (∀ ip, .client ip ∈ v.held → ip ∈ locks) →
        Disciplined call next (v.lockDatabase locks)
  | .lock .databaseMetadata next, v => v.held = ∅ ∧ Disciplined call next v.lockMetadata
  | .lock (.client ip) next, v =>
      .databaseAccess ∈ v.held ∧ .client ip ∉ v.held ∧ ip ∈ v.locks ∧
      Disciplined call next (v.lockClient ip)
  | .unlock mutex next, v => mutex ∈ v.held ∧ Disciplined call next (v.unlock mutex)
  | .access update next, v =>
      ∀ db, v.Agrees db → v.MayChange db (update db) ∧
        Disciplined call (next db) (v.see (update db))

/-- Knowing more does no harm.

So a proof about an operation may forget, at any point, what it does not need any more, and two
branches that know different things may be joined. -/
theorem Disciplined.mono {call : DbCall} {prog : Code} {v v' : View}
    (h : Disciplined call prog v) (hle : v.Le v') : Disciplined call prog v' := by
  -- on the program: a view that knows more discharges every obligation of one that knows less
  induction prog generalizing v v' with
  | ret outcome => exact hle.held.symm.trans h
  | lock mutex next ih =>
      cases mutex with
      | databaseAccess =>
          obtain ⟨hheld, hasks, hnext⟩ := h
          refine ⟨hle.held ▸ hheld, hasks, fun locks hlocks => ?_⟩
          refine ih (hnext locks (hle.held ▸ hlocks)) ⟨?_, fun _ => rfl, fun _ => subset_rfl,
            hle.present⟩
          simp only [View.lockDatabase, hle.held]
      | databaseMetadata =>
          refine ⟨hle.held.symm.trans h.1, ih h.2 ⟨?_, fun hmem => ?_, fun hmem => ?_,
            hle.present⟩⟩
          · simp only [View.lockMetadata, hle.held]
          all_goals simp [View.lockMetadata, h.1] at hmem
      | client ip =>
          obtain ⟨hdatabase, hfree, hip, hnext⟩ := h
          refine ⟨hle.held ▸ hdatabase, hle.held ▸ hfree, hle.locks hdatabase ▸ hip, ?_⟩
          refine ih hnext ⟨?_, fun _ => hle.locks hdatabase, fun _ => ?_, hle.present⟩
          · simp only [View.lockClient, hle.held]
          · exact Set.sdiff_subset_sdiff_left (hle.free hdatabase)
  | unlock mutex next ih =>
      refine ⟨hle.held ▸ h.1, ih h.2 ⟨?_, fun hmem => hle.locks hmem.1, fun hmem ip hip => ?_,
        fun ip hip => ⟨hle.present hip.1, hip.2⟩⟩⟩
      · simp only [View.unlock, hle.held]
      · exact hip.imp (fun hfree => hle.free hmem.1 hfree) id
  | access update next ih =>
      intro db hagrees
      have hagrees' : v.Agrees db :=
        ⟨fun hmem => (hagrees.locks (hle.held ▸ hmem)).trans (hle.locks hmem).symm,
          fun ip hip => hagrees.registered ip (hle.held ▸ hip),
          fun ip hip => hagrees.present ip (hle.present hip)⟩
      obtain ⟨hchange, hnext⟩ := h db hagrees'
      refine ⟨⟨fun hne => hle.held ▸ hchange.locks hne, fun ip hip hip' => ?_,
        fun ip hip hip' => hle.held ▸ hchange.records ip hip hip'⟩, ih db hnext ⟨hle.held,
        fun _ => rfl, hle.free, ?_⟩⟩
      · -- a mutex leaves the table only under the database lock, so the view still sees it free
        have hdatabase : Mutex.databaseAccess ∈ v.held :=
          hchange.locks fun heq => hip' (heq ▸ hip)
        exact hle.free hdatabase (hchange.unlocked ip hip hip')
      · simp only [View.see, hle.held, subset_rfl]

/-! ## The operations keep to it -/

section Operations

open DbManager

variable {call : DbCall} {v : View} {ip : InAddr} {next onOutOfRange : Code}

/-- An access that leaves the lock table alone and erases no record. -/
theorem disciplined_access {update : DbManager → DbManager} {next : DbManager → Code}
    (hlocks : ∀ db, (update db).clientLocks = db.clientLocks)
    (hrecords : ∀ db ip, ip ∈ db.databaseRecords → ip ∈ (update db).databaseRecords)
    (h : ∀ db, v.Agrees db → Disciplined call (next db) (v.see (update db))) :
    Disciplined call (.access update next) v := fun db hagrees =>
  ⟨⟨fun hne => absurd (hlocks db) hne, fun _ hip hip' => absurd (hlocks db ▸ hip) hip',
    fun ip hip hip' => absurd (hrecords db ip hip) hip'⟩, h db hagrees⟩

/-- What was known before a look at the tables is known after it.

This is what lets an access that changes nothing relevant be passed over in the proofs below: the
code after it may be checked in the old view. -/
theorem View.le_see {db db' : DbManager} (hagrees : v.Agrees db)
    (hlocks : db'.clientLocks = db.clientLocks)
    (hrecords : ∀ ip ∈ db.databaseRecords, ip ∈ db'.databaseRecords) : v.Le (v.see db') where
  held := rfl
  locks := fun hmem => (hlocks.trans (hagrees.locks hmem)).symm
  free := fun _ => subset_rfl
  present := fun ip hip => ⟨v.protects ip hip, hrecords ip (hagrees.present ip hip)⟩

/-- Both branches of a test keep to it. -/
theorem disciplined_ite {p : Prop} [Decidable p] {prog prog' : Code}
    (h : p → Disciplined call prog v) (h' : ¬ p → Disciplined call prog' v) :
    Disciplined call (if p then prog else prog') v := by
  by_cases hp : p
  · rw [if_pos hp]
    exact h hp
  · rw [if_neg hp]
    exact h' hp

/-- `lock_client`: the entry is looked up first, and if it is missing nothing is locked.  The two
branches are told apart by the view, which has the keys of the lock table while the database lock
is held. -/
theorem disciplined_lockClient (hdatabase : .databaseAccess ∈ v.held)
    (hfree : .client ip ∉ v.held) (hlocked : Disciplined call next (v.lockClient ip))
    (hmissing : ip ∉ v.locks → Disciplined call onOutOfRange v) :
    Disciplined call (lockClient ip onOutOfRange next) v := by
  refine disciplined_access (fun _ => rfl) (fun _ _ hip => hip) fun db hagrees => ?_
  have hle : v.Le (v.see db) := View.le_see hagrees rfl fun _ hip => hip
  by_cases hip : ip ∈ db.clientLocks
  · rw [if_pos hip]
    exact ⟨hdatabase, hfree, hip, hlocked.mono ⟨rfl, fun _ => hle.locks hdatabase,
      fun _ => subset_rfl, hle.present⟩⟩
  · rw [if_neg hip]
    exact (hmissing (hagrees.locks hdatabase ▸ hip)).mono hle

/-- `unlock_client` looks the entry up again.  It finds it, because nobody erases the entry of a
mutex that is held. -/
theorem disciplined_unlockClient (hip : .client ip ∈ v.held)
    (h : Disciplined call next (v.unlock (.client ip))) :
    Disciplined call (unlockClient ip next) v := by
  refine disciplined_access (fun _ => rfl) (fun _ _ hip => hip) fun db hagrees => ?_
  have hle : v.Le (v.see db) := View.le_see hagrees rfl fun _ hip => hip
  rw [if_pos (hagrees.registered ip hip)]
  exact ⟨hip, h.mono ⟨rfl, fun hmem => hle.locks hmem.1, fun _ => subset_rfl,
    fun ip' hip' => ⟨hle.present hip'.1, hip'.2⟩⟩⟩

/-- Learn that a client has a record. -/
@[simps]
def View.note (v : View) (ip : InAddr) : View where
  held := v.held
  locks := v.locks
  free := v.free
  present := {ip' | ip' ∈ v.present ∨ ip' = ip ∧ .client ip ∈ v.held}
  protects := fun ip' hip' => hip'.elim (v.protects ip') fun h => h.1 ▸ h.2

/-- `at()`, for the record of a client.  Where it succeeds the view has one more client from there
on, if the thread holds that client's mutex. -/
theorem disciplined_recordAt {next : ClientRecord → Code}
    (hmissing : ip ∉ v.present → Disciplined call onOutOfRange v)
    (h : ∀ record, Disciplined call (next record) (v.note ip)) :
    Disciplined call (recordAt ip onOutOfRange next) v := by
  refine disciplined_access (fun _ => rfl) (fun _ _ hip => hip) fun db hagrees => ?_
  have hle : v.Le (v.see db) := View.le_see hagrees rfl fun _ hip => hip
  cases hrecord : db.databaseRecords.lookup ip with
  | none =>
      exact (hmissing fun hip =>
        Finmap.lookup_eq_none.mp hrecord (hagrees.present ip hip)).mono hle
  | some record =>
      refine (h record).mono ⟨rfl, hle.locks, hle.free, fun ip' hip' => ?_⟩
      rcases hip' with hip' | ⟨rfl, hheld⟩
      · exact hle.present hip'
      · exact ⟨hheld, Finmap.mem_of_lookup_eq_some hrecord⟩

/-- Following a pointer is safe where the entry is known to be there, and does not
leave a mutex locked where none is held. -/
theorem disciplined_deref {next : ClientRecord → Code}
    (hsafe : ip ∈ v.present ∨ v.held = ∅)
    (h : ∀ record, Disciplined call (next record) v) :
    Disciplined call (deref ip next) v := by
  refine disciplined_recordAt (fun hip => ?_) fun record => (h record).mono
    ⟨rfl, fun _ => rfl, fun _ => subset_rfl, fun _ hip => Or.inl hip⟩
  exact hsafe.resolve_left hip

/-- An assignment erases no record. -/
theorem mem_modify_databaseRecords {db : DbManager} {ip' : InAddr}
    (f : ClientRecord → ClientRecord) (h : ip' ∈ db.databaseRecords) :
    ip' ∈ (db.modify ip f).databaseRecords := by
  rw [DbManager.modify]
  cases db.databaseRecords.lookup ip with
  | none => exact h
  | some record => exact Finmap.mem_insert.mpr (Or.inr h)

/-- An assignment through a reference is safe because the entry is known to be there. -/
theorem disciplined_assign {f : ClientRecord → ClientRecord} (hip : ip ∈ v.present)
    (h : Disciplined call next v) : Disciplined call (assign ip f next) v := by
  refine disciplined_access (fun db => modify_clientLocks db ip f)
    (fun _ _ => mem_modify_databaseRecords f) fun db hagrees => ?_
  rw [if_pos (hagrees.present ip hip)]
  exact h.mono (View.le_see hagrees (modify_clientLocks db ip f)
    fun _ => mem_modify_databaseRecords f)

/-- A change of the totals. -/
theorem disciplined_totals {update : DbManager → DbManager}
    (hlocks : ∀ db, (update db).clientLocks = db.clientLocks)
    (hrecords : ∀ db, (update db).databaseRecords = db.databaseRecords)
    (h : Disciplined call next v) :
    Disciplined call (.access update fun _ => next) v :=
  disciplined_access hlocks (fun db _ hip => hrecords db ▸ hip) fun db hagrees =>
    h.mono (View.le_see hagrees (hlocks db) fun _ hip => hrecords db ▸ hip)

/-- A round of the database lock that only changes the totals. -/
theorem disciplined_totals_locked {update : DbManager → DbManager} (hheld : v.held = ∅)
    (hlocks : ∀ db, (update db).clientLocks = db.clientLocks)
    (hrecords : ∀ db, (update db).databaseRecords = db.databaseRecords)
    (h : ∀ v, v.held = ∅ → Disciplined call next v) :
    Disciplined call (lockDatabase <| .access update fun _ => unlockDatabase next) v := by
  refine ⟨Or.inl hheld, Or.inr fun locks => ?_, fun locks _ => ?_⟩
  · ext ip
    simp [asks, unlockDatabase]
  · refine disciplined_totals hlocks hrecords ⟨Or.inl rfl, h _ ?_⟩
    simp [View.unlock, View.lockDatabase, hheld]

/-- Nothing is known before a call. -/
@[simps]
def View.idle (locks : Finset InAddr) (free : Set InAddr) : View := ⟨∅, locks, free, ∅, by simp⟩

variable (locks : Finset InAddr) (free : Set InAddr)

/-- A call returns with nothing in hand. -/
theorem disciplined_respond {success : Bool} {record : ClientRecord} {code : Description}
    (hheld : v.held = ∅) : Disciplined call (respond success record code) v := hheld

/-- Both parties of a transfer given back. -/
theorem disciplined_unlockBoth {ip' : InAddr} (hip : .client ip ∈ v.held)
    (hip' : .client ip' ∈ v.held) (hne : ip ≠ ip')
    (h : Disciplined call next ((v.unlock (.client ip)).unlock (.client ip'))) :
    Disciplined call (unlockClient ip <| unlockClient ip' next) v :=
  disciplined_unlockClient hip
    (disciplined_unlockClient ⟨hip', by simp [Ne.symm hne]⟩ h)

/-- An access asks for nothing by itself. -/
theorem asks_access_eq_empty {update : DbManager → DbManager} {next : DbManager → Code}
    (h : ∀ db locks, asks (next db) locks = ∅) (locks : Finset InAddr) :
    asks (.access update next) locks = ∅ := by
  refine Set.eq_empty_of_forall_notMem fun ip hip => ?_
  obtain ⟨db, _, hmem⟩ := hip
  rw [h db] at hmem
  exact hmem

/-- To give a mutex back does not lead on to a client. -/
theorem asks_unlockClient_eq_empty (h : ∀ locks, asks next locks = ∅)
    (locks : Finset InAddr) : asks (unlockClient ip next) locks = ∅ := by
  refine asks_access_eq_empty (fun db locks => ?_) locks
  split
  · exact h locks
  · exact h locks

/-- A round of the metadata lock. -/
theorem disciplined_metadata {update update' : DbManager → DbManager} (hheld : v.held = ∅)
    (hlocks : ∀ db, (update db).clientLocks = db.clientLocks)
    (hrecords : ∀ db, (update db).databaseRecords = db.databaseRecords)
    (hlocks' : ∀ db, (update' db).clientLocks = db.clientLocks)
    (hrecords' : ∀ db, (update' db).databaseRecords = db.databaseRecords)
    (h : ∀ v, v.held = ∅ → Disciplined call next v) :
    Disciplined call (DbManager.lockMetadata <| .access update fun _ => .access update' fun _ =>
      unlockMetadata next) v := by
  refine ⟨hheld, disciplined_totals hlocks hrecords (disciplined_totals hlocks' hrecords'
    ⟨Or.inl rfl, h _ ?_⟩)⟩
  simp [hheld]

/-- The mutexes of a transfer, both given back. -/
theorem unlocked_both (ip ip' : InAddr) :
    (((insert (.client ip') (insert (.client ip) (insert .databaseAccess ∅)) : Set Mutex) \
      {.databaseAccess}) \ {.client ip}) \ {.client ip'} = ∅ := by
  ext mutex
  simp only [Set.mem_sdiff, Set.mem_insert_iff, Set.mem_singleton_iff, Set.mem_empty_iff_false]
  tauto

/-- The mutex of an operation on one client, while the database lock is not held. -/
theorem holding_one (ip : InAddr) :
    (insert (.client ip) (insert .databaseAccess ∅) : Set Mutex) \ {.databaseAccess}
      = {.client ip} := by
  ext mutex
  simp only [Set.mem_sdiff, Set.mem_insert_iff, Set.mem_singleton_iff, Set.mem_empty_iff_false]
  constructor
  · tauto
  · rintro rfl
    exact ⟨Or.inl rfl, by simp⟩

/-- Two mutexes, both given back. -/
theorem given_back {held : Set Mutex} {mutex mutex' : Mutex} (h : held ⊆ {mutex, mutex'}) :
    (held \ {mutex}) \ {mutex'} = ∅ := by
  rw [Set.sdiff_sdiff, Set.sdiff_eq_empty]
  exact h

/-- `register_client` sees to it that the client has a mutex before it locks it, and has the
database lock all the while, so `lock_client` cannot miss it. -/
theorem disciplined_registerClient (clientIp : InAddr) :
    Disciplined (.registerClient clientIp) (registerClient clientIp) (View.idle locks free) := by
  refine ⟨Or.inl rfl, Or.inl rfl, fun locks _ db _ => ⟨⟨fun _ => by simp,
    fun ip hip hip' => absurd (Finset.mem_insert_of_mem hip) hip',
    fun ip hip hip' => absurd hip hip'⟩, ?_⟩⟩
  refine disciplined_lockClient (by simp) (by simp) ⟨by simp, ?_⟩ (fun hip => ?_)
  · refine disciplined_ite (fun _ => ?_) (fun _ => ?_)
    · exact disciplined_unlockClient (by simp) (by simp [respond, Disciplined])
    · refine disciplined_access (fun db => ?_) (fun db ip hip => ?_) fun db _ => ?_
      · split <;> rfl
      · split
        · exact hip
        · exact Finmap.mem_insert.mpr (Or.inr hip)
      refine disciplined_ite (fun _ => ?_) (fun _ => ?_)
      · exact disciplined_unlockClient (by simp) (by simp [respond, Disciplined])
      · refine disciplined_unlockClient (by simp) (disciplined_totals_locked (by simp)
          (fun _ => rfl) (fun _ => rfl) fun v hv => ?_)
        exact disciplined_deref (Or.inr hv) fun _ => hv
  · exact absurd (Finset.mem_insert_self _ _) hip

/-- `make_transaction` has up to three mutexes in hand.  It takes them in the order database,
sender, receiver and gives the first one back before it touches a record; a transfer to oneself is
told apart before the second client is locked. -/
theorem disciplined_makeTransaction (senderIp receiverIp : InAddr) (transferAmount : UInt64) :
    Disciplined (.makeTransaction senderIp receiverIp transferAmount)
      (makeTransaction senderIp receiverIp transferAmount) (View.idle locks free) := by
  refine ⟨Or.inl rfl, Or.inl rfl, fun locks _ => ?_⟩
  refine disciplined_lockClient (by simp) (by simp) ?_ (fun _ => ⟨by simp, ?_⟩)
  · refine disciplined_ite (fun _ => ?_) (fun _ => disciplined_ite (fun _ => ?_) (fun hself => ?_))
    · refine disciplined_unlockClient (by simp) ⟨by simp, disciplined_recordAt (fun _ => ?_) ?_⟩
      all_goals simp [respond, Disciplined]
    · refine disciplined_unlockClient (by simp) ⟨by simp, disciplined_recordAt (fun _ => ?_) ?_⟩
      all_goals simp [respond, Disciplined]
    · refine disciplined_lockClient (by simp) (by simp [Ne.symm hself]) ⟨by simp, ?_⟩ fun _ => ?_
      · have hheld := unlocked_both senderIp receiverIp
        refine disciplined_recordAt (fun _ => ?_) fun _ => disciplined_recordAt (fun _ => ?_)
          fun _ => ?_
        · exact disciplined_unlockBoth (by simp) (by simp) hself (disciplined_respond hheld)
        · exact disciplined_unlockBoth (by simp) (by simp) hself
            (disciplined_deref (Or.inr hheld) fun _ => disciplined_respond hheld)
        refine disciplined_assign (by simp) (disciplined_deref (by simp) fun _ => ?_)
        refine disciplined_ite (fun _ => ?_) (fun _ => ?_)
        · exact disciplined_unlockBoth (by simp) (by simp) hself
            (disciplined_deref (Or.inr hheld) fun _ => disciplined_respond hheld)
        · refine disciplined_assign (by simp) (disciplined_assign (by simp) ?_)
          refine disciplined_unlockBoth (by simp) (by simp) hself (disciplined_metadata hheld
            (fun _ => rfl) (fun _ => rfl) (fun _ => rfl) (fun _ => rfl) fun v hv => ?_)
          exact disciplined_deref (Or.inr hv) fun _ => disciplined_respond hv
      · refine disciplined_access (fun _ => rfl) (fun _ _ hip => hip) fun db _ => ?_
        refine disciplined_unlockClient (by simp) ⟨by simp, ?_⟩
        simp [respond, Disciplined]
  · simp [respond, Disciplined]

/-- `remove_client` takes the database lock twice.  The second time it has the mutex of its client
in hand, which is the exception in the clause of `Disciplined` for the database lock. -/
theorem disciplined_removeClient (clientIp : InAddr) :
    Disciplined (.removeClient clientIp) (removeClient clientIp) (View.idle locks free) := by
  refine ⟨Or.inl rfl, Or.inl rfl, fun locks _ => ?_⟩
  refine disciplined_lockClient (by simp) (by simp) ⟨by simp, ?_⟩ (fun _ => ⟨by simp, ?_⟩)
  · refine disciplined_recordAt (fun _ => ?_) fun record => ?_
    · exact disciplined_unlockClient (by simp) (by simp [respond, Disciplined])
    · refine fun db _ => ⟨⟨fun hne => absurd rfl hne, fun _ hip hip' => absurd hip hip',
        fun ip hip hip' => ?_⟩, disciplined_ite (fun _ => ?_) fun _ => ?_⟩
      · by_cases hclient : ip = clientIp
        · simp [hclient]
        · exact absurd (Finmap.mem_erase.mpr ⟨hclient, hip⟩) hip'
      · exact disciplined_unlockClient (by simp) (by simp [respond, Disciplined])
      · -- the one place where the database lock is asked for with a client's in hand
        refine ⟨Or.inr ⟨clientIp, rfl, holding_one clientIp⟩, Or.inr fun locks => ?_,
          fun locks hlocks => ?_⟩
        · refine asks_unlockClient_eq_empty (asks_access_eq_empty fun db locks => ?_) locks
          split
          · rfl
          · exact asks_access_eq_empty (fun _ _ => rfl) locks
        · have hclient : clientIp ∈ locks := hlocks clientIp (by simp)
          refine disciplined_unlockClient (by simp) ?_
          refine disciplined_access (fun _ => rfl) (fun _ _ hip => hip) fun db hagrees => ?_
          rw [id, if_neg (not_not.mpr (hagrees.locks (by simp) ▸ hclient))]
          refine fun db _ => ⟨⟨fun _ => by simp, fun ip hip hip' => ?_,
            fun _ hip hip' => absurd hip hip'⟩, by simp, ?_⟩
          · by_cases heq : ip = clientIp
            · simp [heq]
            · exact absurd (Finset.mem_erase.mpr ⟨heq, hip⟩) hip'
          · have hheld : ((insert .databaseAccess (insert (.client clientIp)
                (insert .databaseAccess ∅) \ {.databaseAccess}) \ {.client clientIp}) \
                {.databaseAccess} : Set Mutex) = ∅ := by
              rw [holding_one]
              exact given_back (Set.pair_comm ..).subset
            refine disciplined_ite (fun _ => disciplined_respond hheld) fun _ => ?_
            exact disciplined_totals_locked hheld (fun _ => rfl) (fun _ => rfl) fun v hv =>
              disciplined_respond hv
  · simp [respond, Disciplined]

/-- Every call keeps to the discipline from its first instruction on. -/
theorem disciplined_body (call : DbCall) :
    Disciplined call call.body (View.idle locks free) := by
  cases call with
  | registerClient clientIp => exact disciplined_registerClient locks free clientIp
  | makeTransaction senderIp receiverIp transferAmount =>
      exact disciplined_makeTransaction locks free senderIp receiverIp transferAmount
  | removeClient clientIp => exact disciplined_removeClient locks free clientIp

end Operations

/-- The clients a call locks, where the lock table is `locks`. -/
def DbCall.clients : DbCall → Finset InAddr → Set InAddr
  | .registerClient clientIp, _ => {clientIp}
  | .makeTransaction senderIp receiverIp transferAmount, locks =>
      {ip | senderIp ∈ locks ∧ (ip = senderIp ∨
        ip = receiverIp ∧ receiverIp ∈ locks ∧ transferAmount ≠ 0)}
  | .removeClient clientIp, locks => {ip | ip = clientIp ∧ clientIp ∈ locks}

section Asks

open DbManager

/-- `lock_client` asks for its client, if that is in the table, and for what the code asks for
after it. -/
theorem mem_asks_lockClient {ip ip' : InAddr} {onOutOfRange next : Code}
    {locks : Finset InAddr} (hout : ∀ locks, asks onOutOfRange locks = ∅)
    (hip : ip' ∈ asks (lockClient ip onOutOfRange next) locks) :
    ip ∈ locks ∧ (ip' = ip ∨ ip' ∈ asks next locks) := by
  obtain ⟨db, rfl, hmem⟩ := hip
  dsimp only [id] at hmem
  split at hmem
  · exact ⟨by assumption, hmem⟩
  · rw [hout] at hmem
    exact absurd hmem (Set.notMem_empty ip')

/-- The first database lock of a call leads on to the clients of the call. -/
theorem asks_body {call : DbCall} {next : Code} (hbody : call.body = .lock .databaseAccess next)
    {locks : Finset InAddr} {ip : InAddr} (hip : ip ∈ asks next locks) :
    ip ∈ call.clients locks := by
  cases call with
  | registerClient clientIp =>
      cases hbody
      obtain ⟨db, _, hmem⟩ := hip
      obtain ⟨_, rfl | hmem⟩ := mem_asks_lockClient (fun _ => rfl) hmem
      · exact rfl
      · exact absurd hmem (Set.notMem_empty ip)
  | makeTransaction senderIp receiverIp transferAmount =>
      cases hbody
      obtain ⟨hsender, rfl | hmem⟩ := mem_asks_lockClient (fun _ => rfl) hip
      · exact ⟨hsender, Or.inl rfl⟩
      have hunlock : ∀ next, ip ∉ asks (unlockClient senderIp (unlockDatabase next)) locks :=
        fun next hmem => by
          rw [asks_unlockClient_eq_empty (fun _ => rfl)] at hmem
          exact hmem
      split at hmem
      · exact absurd hmem (hunlock _)
      · split at hmem
        · exact absurd hmem (hunlock _)
        · obtain ⟨hreceiver, rfl | hmem⟩ := mem_asks_lockClient
            (asks_access_eq_empty fun _ => asks_unlockClient_eq_empty fun _ => rfl) hmem
          · exact ⟨hsender, Or.inr ⟨rfl, hreceiver, by assumption⟩⟩
          · exact absurd hmem (Set.notMem_empty ip)
  | removeClient clientIp =>
      cases hbody
      obtain ⟨hclient, rfl | hmem⟩ := mem_asks_lockClient (fun _ => rfl) hip
      · exact ⟨rfl, hclient⟩
      · exact absurd hmem (Set.notMem_empty ip)

end Asks

/-! ## The threads together -/

section Threads

variable {Tid : Type} [DecidableEq Tid]

/-- The threads of a server and its ledger. -/
abbrev Bank (Tid : Type) := Config DbManager Mutex Outcome DbCall Tid

/-- The instruction a thread is about to take. -/
abbrev Bank.step (c : Bank Tid) (t : Tid) : Option (Bank Tid) := LockProgram.step DbCall.body c t

/-- What a thread can rely on in a given state. -/
def Bank.view (c : Bank Tid) (t : Tid) : View where
  held := {mutex | c.holder mutex = some t}
  locks := c.mem.clientLocks
  free := {ip | c.holder (.client ip) = none}
  present := {ip | c.holder (.client ip) = some t ∧ ip ∈ c.mem.databaseRecords}
  protects := fun _ hip => hip.1

/-- A thread inside `remove_client` holds the mutex of the client it removes. -/
def Bank.Removing (c : Bank Tid) (t : Tid) (ip : InAddr) : Prop :=
  ∃ prog, (c.thread t).active = some (.removeClient ip, prog) ∧
    c.holder (.client ip) = some t

/-- The threads keep to the lock order, and no client that the holder of the
database lock still has to lock is being removed by another thread. -/
structure Bank.Orderly (c : Bank Tid) : Prop where
  disciplined : ∀ t call prog, (c.thread t).active = some (call, prog) →
    Disciplined call prog (c.view t)
  idle : ∀ t, (c.thread t).active = none → ∀ mutex, c.holder mutex ≠ some t
  registered : ∀ t ip, c.holder (.client ip) = some t → ip ∈ c.mem.clientLocks
  clear : ∀ t call prog, (c.thread t).active = some (call, prog) →
    c.holder .databaseAccess = some t →
    ∀ ip ∈ asks prog c.mem.clientLocks, ∀ u ≠ t, ¬ c.Removing u ip

/-- The step is not the one that goes wrong: a thread at the start of a call, about
to take the database lock, does not go on to lock a client that is being removed. -/
def Bank.Admitted (c : Bank Tid) (t : Tid) : Prop :=
  ∀ call, (c.thread t).active = some (call, call.body) →
    ∀ ip ∈ call.clients c.mem.clientLocks, ∀ u, ¬ c.Removing u ip

omit [DecidableEq Tid] in
/-- When nothing has begun, nothing is held and nobody is in the way. -/
theorem Bank.orderly_start (mem : DbManager) (calls : Tid → List DbCall) :
    Bank.Orderly (Config.start mem calls : Bank Tid) where
  disciplined := fun t call prog h => by cases h
  idle := fun t _ mutex h => by cases h
  registered := fun t ip h => by cases h
  clear := fun t call prog h => by cases h

variable {c : Bank Tid} {t u : Tid}

omit [DecidableEq Tid] in
/-- There is one holder of a mutex. -/
theorem Bank.only_holder (hholds : c.holder .databaseAccess = some t)
    (hholds' : c.holder .databaseAccess = some u) : u = t :=
  Option.some.inj (hholds'.symm.trans hholds)

/-- A thread begins a call.

It has nothing in hand, so the others keep what they had, and what it will ask for is settled when
it takes the database lock, not here. -/
theorem Bank.Orderly.begin {call : DbCall} {rest : List DbCall} (h : c.Orderly)
    (hactive : (c.thread t).active = none) :
    Bank.Orderly (c.setThread t ((c.thread t).begin call call.body rest)) where
  disciplined := by
    intro u call' prog hu
    by_cases hut : u = t
    · subst hut
      rw [Config.setThread_self] at hu
      cases hu
      refine (disciplined_body ∅ ∅ call).mono ⟨?_, ?_, ?_, ?_⟩
      · exact (Set.eq_empty_of_forall_notMem (h.idle u hactive)).symm
      all_goals simp
    · rw [Config.setThread_of_ne _ hut] at hu
      exact h.disciplined u call' prog hu
  idle := by
    intro u hu
    by_cases hut : u = t
    · subst hut
      exact h.idle u hactive
    · rw [Config.setThread_of_ne _ hut] at hu
      exact h.idle u hu
  registered := h.registered
  clear := by
    intro u call' prog hu hholds ip hip u' hne hremoving
    have hut : u ≠ t := by
      rintro rfl
      exact h.idle u hactive _ hholds
    rw [Config.setThread_of_ne _ hut] at hu
    obtain ⟨prog', hu', hholds'⟩ := hremoving
    have hut' : u' ≠ t := by
      rintro rfl
      exact h.idle u' hactive _ hholds'
    rw [Config.setThread_of_ne _ hut'] at hu'
    exact h.clear u call' prog hu hholds ip hip u' hne ⟨prog', hu', hholds'⟩

/-- A thread ends a call.

It has given back what it had, because `Disciplined` asks for that before a return. -/
theorem Bank.Orderly.done {call : DbCall} {outcome : Outcome} (h : c.Orderly)
    (hactive : (c.thread t).active = some (call, .ret outcome)) :
    Bank.Orderly (c.setThread t ((c.thread t).done call outcome)) where
  disciplined := by
    intro u call' prog hu
    by_cases hut : u = t
    · subst hut
      rw [Config.setThread_self] at hu
      cases hu
    · rw [Config.setThread_of_ne _ hut] at hu
      exact h.disciplined u call' prog hu
  idle := by
    intro u hu
    by_cases hut : u = t
    · subst hut
      exact Set.eq_empty_iff_forall_notMem.mp (h.disciplined u call _ hactive)
    · rw [Config.setThread_of_ne _ hut] at hu
      exact h.idle u hu
  registered := h.registered
  clear := by
    intro u call' prog hu hholds ip hip u' hne ⟨prog', hu', hholds'⟩
    have hut : u ≠ t := by
      rintro rfl
      rw [Config.setThread_self] at hu
      cases hu
    have hut' : u' ≠ t := by
      rintro rfl
      rw [Config.setThread_self] at hu'
      cases hu'
    rw [Config.setThread_of_ne _ hut] at hu
    rw [Config.setThread_of_ne _ hut'] at hu'
    exact h.clear u call' prog hu hholds ip hip u' hne ⟨prog', hu', hholds'⟩

omit [DecidableEq Tid] in
/-- A thread moves on within a call: what is to be checked. -/
theorem Bank.Orderly.advance {c' : Bank Tid} {call : DbCall} {prog next : Code}
    (h : c.Orderly) (hactive : (c.thread t).active = some (call, prog))
    (hactive' : (c'.thread t).active = some (call, next))
    (hthread : ∀ u ≠ t, c'.thread u = c.thread u)
    (hdisciplined : Disciplined call next (c'.view t))
    (hview : ∀ u ≠ t, (c.view u).Le (c'.view u))
    (hregistered : ∀ u ip, c'.holder (.client ip) = some u → ip ∈ c'.mem.clientLocks)
    (hclear : c'.holder .databaseAccess = some t → ∀ ip ∈ asks next c'.mem.clientLocks,
      ∀ u ≠ t, ¬ c.Removing u ip)
    (htaken : ∀ u ≠ t, c.holder .databaseAccess = some u → ∀ ip,
      c'.holder (.client ip) = some t → c.holder (.client ip) = some t) : c'.Orderly := by
  have hholds : ∀ u ≠ t, ∀ mutex, c'.holder mutex = some u → c.holder mutex = some u :=
    fun u hut mutex hu => (Set.ext_iff.mp (hview u hut).held mutex).mpr hu
  refine ⟨fun u call' prog' hu => ?_, fun u hu mutex => ?_, hregistered,
    fun u call' prog' hu hdatabase ip hip u' hne hremoving => ?_⟩
  · by_cases hut : u = t
    · subst hut
      rw [hactive'] at hu
      cases hu
      exact hdisciplined
    · rw [hthread u hut] at hu
      exact (h.disciplined u call' prog' hu).mono (hview u hut)
  · have hut : u ≠ t := by
      rintro rfl
      rw [hactive'] at hu
      cases hu
    rw [hthread u hut] at hu
    exact fun hmutex => h.idle u hu mutex (hholds u hut mutex hmutex)
  · -- the thread that moved may be the one that asks, the one that removes, or neither
    obtain ⟨prog'', hu', hholds'⟩ := hremoving
    by_cases hut : u = t
    · subst hut
      rw [hactive'] at hu
      cases hu
      rw [hthread u' hne] at hu'
      exact hclear hdatabase ip hip u' hne ⟨prog'', hu', hholds u' hne _ hholds'⟩
    · have hdatabase' := hholds u hut _ hdatabase
      rw [hthread u hut] at hu
      have hlocks : c.mem.clientLocks = c'.mem.clientLocks := (hview u hut).locks hdatabase'
      rw [← hlocks] at hip
      refine h.clear u call' prog' hu hdatabase' ip hip u' hne ?_
      by_cases hut' : u' = t
      · subst hut'
        rw [hactive'] at hu'
        cases hu'
        exact ⟨prog, hactive, htaken u hut hdatabase' ip hholds'⟩
      · rw [hthread u' hut'] at hu'
        exact ⟨prog'', hu', hholds u' hut' _ hholds'⟩

/-- A thread takes a mutex.

This is the one step that can go wrong.  A client's mutex is taken under the database lock, so the
clause `clear` has already been paid for; the metadata lock leads nowhere; and for the database
lock it is `Admitted` that pays. -/
theorem Bank.Orderly.lock {call : DbCall} {mutex : Mutex} {next : Code} (h : c.Orderly)
    (hactive : (c.thread t).active = some (call, .lock mutex next))
    (hfree : c.holder mutex = none) (hadmitted : c.Admitted t) :
    Bank.Orderly ((c.setHolder mutex (some t)).setThread t ((c.thread t).at call next)) := by
  have hdisciplined := h.disciplined t call _ hactive
  have hself : ∀ mutex', Function.update c.holder mutex (some t) mutex' = some t ↔
      mutex' = mutex ∨ c.holder mutex' = some t :=
    Set.ext_iff.mp (Config.holds_lock c mutex t)
  have hother : ∀ u ≠ t, ∀ mutex', Function.update c.holder mutex (some t) mutex' = some u ↔
      c.holder mutex' = some u :=
    fun u hut => Set.ext_iff.mp (Config.holds_lock_of_ne hfree hut)
  have hfree' : ∀ ip, Mutex.client ip ≠ mutex → c.holder (.client ip) = none →
      Function.update c.holder mutex (some t) (.client ip) = none :=
    fun ip hne hip => (Function.update_of_ne hne _ _).trans hip
  -- only the holder of the database lock, which nobody else then is, takes a client
  have halone : ∀ ip, mutex = .client ip → ∀ u ≠ t, c.holder .databaseAccess ≠ some u := by
    rintro ip rfl u hut hu
    exact hut (Bank.only_holder hdisciplined.1 hu)
  refine h.advance hactive (by rw [Config.setThread_self]; rfl)
    (fun u hut => Config.setThread_of_ne _ hut _) ?_ (fun u hut => ⟨?_, fun _ => rfl, ?_, ?_⟩)
    (fun u ip hu => ?_) ?_ ?_
  · cases mutex with
    | databaseAccess =>
        obtain ⟨-, -, hnext⟩ := hdisciplined
        refine (hnext c.mem.clientLocks fun ip hip => h.registered t ip hip).mono
          ⟨?_, fun _ => rfl, fun _ => Set.empty_subset _, fun ip hip => ?_⟩
        · exact (Set.ext hself).symm
        · exact ⟨(hself _).mpr (Or.inr hip.1), hip.2⟩
    | databaseMetadata =>
        refine hdisciplined.2.mono ⟨?_, fun _ => rfl, fun _ ip hip => ?_, fun ip hip => ?_⟩
        · exact (Set.ext hself).symm
        · exact hfree' ip (by simp) hip
        · exact ⟨(hself _).mpr (Or.inr hip.1), hip.2⟩
    | client ip =>
        obtain ⟨-, -, -, hnext⟩ := hdisciplined
        refine hnext.mono ⟨?_, fun _ => rfl, fun _ ip' hip' => ?_, fun ip' hip' => ?_⟩
        · exact (Set.ext hself).symm
        · have hne : ip' ≠ ip := hip'.2
          exact hfree' ip' (by simp [hne]) hip'.1
        · exact ⟨(hself _).mpr (Or.inr hip'.1), hip'.2⟩
  · exact (Set.ext (hother u hut)).symm
  · intro hu ip hip
    by_cases heq : Mutex.client ip = mutex
    · exact absurd hu (halone ip heq.symm u hut)
    · exact hfree' ip heq hip
  · exact fun ip hip => ⟨(hother u hut _).mpr hip.1, hip.2⟩
  · by_cases hut : u = t
    · subst hut
      rcases (hself _).mp hu with rfl | hu
      · exact hdisciplined.2.2.1
      · exact h.registered u ip hu
    · exact h.registered u ip ((hother u hut _).mp hu)
  · intro hdatabase ip hip u hut hremoving
    cases mutex with
    | databaseAccess =>
        obtain ⟨-, hbody | hnone, -⟩ := hdisciplined
        · rw [hbody] at hactive
          exact hadmitted call hactive ip (asks_body hbody.symm hip) u hremoving
        · rw [hnone] at hip
          exact hip
    | databaseMetadata =>
        have hheld : c.holder .databaseAccess = some t :=
          ((hself .databaseAccess).mp hdatabase).resolve_left (by simp)
        exact Set.eq_empty_iff_forall_notMem.mp hdisciplined.1 _ hheld
    | client ip' =>
        exact h.clear t call _ hactive hdisciplined.1 ip (Or.inr hip) u hut hremoving
  · intro u hut hu ip hip
    rcases (hself _).mp hip with heq | hip
    · exact absurd hu (halone ip heq.symm u hut)
    · exact hip

/-- A thread gives a mutex back.

Less is held, and if it was the database lock nobody has anything left to ask for. -/
theorem Bank.Orderly.unlock {call : DbCall} {mutex : Mutex} {next : Code} (h : c.Orderly)
    (hactive : (c.thread t).active = some (call, .unlock mutex next)) :
    Bank.Orderly ((c.setHolder mutex none).setThread t ((c.thread t).at call next)) := by
  obtain ⟨hmine, hnext⟩ := h.disciplined t call _ hactive
  have hkept : ∀ u mutex', Function.update c.holder mutex none mutex' = some u ↔
      c.holder mutex' = some u ∧ mutex' ≠ mutex :=
    fun u => Set.ext_iff.mp (Config.holds_unlock c mutex u)
  have hother : ∀ u ≠ t, ∀ mutex', c.holder mutex' = some u → mutex' ≠ mutex := by
    rintro u hut mutex' hu rfl
    exact hut (Option.some.inj (hu.symm.trans hmine))
  have hfree : ∀ ip, c.holder (.client ip) = none →
      Function.update c.holder mutex none (.client ip) = none := by
    intro ip hip
    by_cases heq : Mutex.client ip = mutex
    · rw [heq, Function.update_self]
    · rw [Function.update_of_ne heq, hip]
  refine h.advance hactive (by rw [Config.setThread_self]; rfl)
    (fun u hut => Config.setThread_of_ne _ hut _)
    (hnext.mono ⟨?_, fun _ => rfl, fun _ ip hip => ?_, fun ip hip => ?_⟩)
    (fun u hut => ⟨?_, fun _ => rfl, fun _ ip hip => hfree ip hip, fun ip hip => ?_⟩)
    (fun u ip hu => ?_) ?_ ?_
  · exact (Set.ext (hkept t)).symm
  · rcases hip with hip | rfl
    · exact hfree ip hip
    · exact Function.update_self ..
  · exact ⟨(hkept t _).mpr ⟨hip.1.1, Ne.symm hip.2⟩, hip.1.2⟩
  · refine Set.ext fun mutex' => ⟨fun hu => (hkept u mutex').mpr ⟨hu, hother u hut mutex' hu⟩,
      fun hu => ((hkept u mutex').mp hu).1⟩
  · exact ⟨(hkept u _).mpr ⟨hip.1, hother u hut _ hip.1⟩, hip.2⟩
  · exact h.registered u ip ((hkept u _).mp hu).1
  · intro hdatabase ip hip u hut
    obtain ⟨hdatabase, hne⟩ := (hkept t _).mp hdatabase
    -- an unlock asks for nothing, what is asked for next was asked for before
    refine h.clear t call _ hactive hdatabase ip ?_ u hut
    cases mutex with
    | databaseAccess => exact absurd rfl hne
    | databaseMetadata => exact hip
    | client ip' => exact hip
  · exact fun u _ _ ip hip => ((hkept t _).mp hip).1

/-- A thread accesses the tables.

The views of the others must still agree with the tables afterwards.  That they do is
`View.MayChange`: what the access may erase is protected by mutexes which the others, who know of
it, would have to hold. -/
theorem Bank.Orderly.access {call : DbCall} {update : DbManager → DbManager}
    {next : DbManager → Code} (h : c.Orderly)
    (hactive : (c.thread t).active = some (call, .access update next)) :
    Bank.Orderly ((c.setMem (update c.mem)).setThread t ((c.thread t).at call (next c.mem))) := by
  have hagrees : (c.view t).Agrees c.mem :=
    ⟨fun _ => rfl, fun ip hip => h.registered t ip hip, fun ip hip => hip.2⟩
  obtain ⟨hchange, hnext⟩ := h.disciplined t call _ hactive c.mem hagrees
  refine h.advance hactive (by rw [Config.setThread_self]; rfl)
    (fun u hut => Config.setThread_of_ne _ hut _) hnext
    (fun u hut => ⟨rfl, fun hu => ?_, fun _ => subset_rfl, fun ip hip => ⟨hip.1, ?_⟩⟩)
    (fun u ip hu => ?_) ?_ (fun u _ _ ip hip => hip)
  · by_contra hne
    exact hut (Bank.only_holder (hchange.locks (Ne.symm hne)) hu)
  · by_contra hgone
    have hmine : c.holder (.client ip) = some t := hchange.records ip hip.2 hgone
    exact hut (Option.some.inj (hip.1.symm.trans hmine))
  · by_contra hgone
    have hnone : c.holder (.client ip) = none :=
      hchange.unlocked ip (h.registered u ip hu) hgone
    exact Option.some_ne_none u (hu.symm.trans hnone)
  · exact fun hdatabase ip hip u hut =>
      h.clear t call _ hactive hdatabase ip ⟨c.mem, rfl, hip⟩ u hut

/-- One admitted step. -/
theorem Bank.Orderly.step {c' : Bank Tid} (h : c.Orderly) (hadmitted : c.Admitted t)
    (taken : c.step t = some c') : c'.Orderly := by
  rcases step_cases taken with ⟨call, rest, hactive, -, rfl⟩ | ⟨call, outcome, hactive, rfl⟩ |
    ⟨call, mutex, next, hactive, hfree, rfl⟩ | ⟨call, mutex, next, hactive, rfl⟩ |
    ⟨call, update, next, hactive, rfl⟩
  · exact h.begin hactive
  · exact h.done hactive
  · exact h.lock hactive hfree hadmitted
  · exact h.unlock hactive
  · exact h.access hactive

/-- How far a thread is from being able to move. -/
def Bank.rank (c : Bank Tid) (t : Tid) : ℕ :=
  match (c.thread t).active with
  | some (_, .lock .databaseAccess _) => 2
  | some (_, .lock .databaseMetadata _) => 2
  | some (_, .lock (.client _) _) => 1
  | _ => 0

omit [DecidableEq Tid] in
/-- A thread that holds a mutex is not waiting for the metadata lock, and for the
database lock only with the one client in hand that it is removing. -/
theorem Bank.Orderly.holder_cases {mutex : Mutex} (h : c.Orderly)
    (hholds : c.holder mutex = some t) :
    (c.rank t = 2 ∧ ∃ ip, mutex = .client ip ∧ c.Removing t ip) ∨
    (c.rank t = 1 ∧ c.holder .databaseAccess = some t) ∨ c.rank t = 0 := by
  cases hactive : (c.thread t).active with
  | none => exact absurd hholds (h.idle t hactive mutex)
  | some running =>
      obtain ⟨call, prog⟩ := running
      have hdisciplined := h.disciplined t call prog hactive
      cases prog with
      | lock mutex' next =>
          cases mutex' with
          | databaseAccess =>
              rcases hdisciplined.1 with hnone | ⟨ip, rfl, hone⟩
              · exact absurd hholds (Set.eq_empty_iff_forall_notMem.mp hnone mutex)
              · have hmutex : mutex = .client ip := (Set.ext_iff.mp hone mutex).mp hholds
                subst hmutex
                exact Or.inl ⟨by simp only [Bank.rank, hactive], ip, rfl, _, hactive, hholds⟩
          | databaseMetadata =>
              exact absurd hholds (Set.eq_empty_iff_forall_notMem.mp hdisciplined.1 mutex)
          | client ip =>
              exact Or.inr (Or.inl ⟨by simp only [Bank.rank, hactive], hdisciplined.1⟩)
      | ret outcome => exact Or.inr (Or.inr (by simp only [Bank.rank, hactive]))
      | unlock mutex' next => exact Or.inr (Or.inr (by simp only [Bank.rank, hactive]))
      | access update next => exact Or.inr (Or.inr (by simp only [Bank.rank, hactive]))

omit [DecidableEq Tid] in
/-- Where nobody is about to lock a client that is being removed, every thread waits
for one of smaller rank. -/
theorem Bank.Orderly.rank_lt (h : c.Orderly) (hwaits : WaitsFor c t u) :
    c.rank u < c.rank t := by
  obtain ⟨call, mutex, next, hactive, hholds⟩ := hwaits
  have hdisciplined := h.disciplined t call _ hactive
  have hcases := h.holder_cases hholds
  cases mutex with
  | databaseAccess =>
      have hrank : c.rank t = 2 := by simp only [Bank.rank, hactive]
      rcases hcases with ⟨-, ip, heq, -⟩ | ⟨hu, -⟩ | hu
      · cases heq
      all_goals omega
  | databaseMetadata =>
      have hrank : c.rank t = 2 := by simp only [Bank.rank, hactive]
      rcases hcases with ⟨-, ip, heq, -⟩ | ⟨hu, -⟩ | hu
      · cases heq
      all_goals omega
  | client ip =>
      have hrank : c.rank t = 1 := by simp only [Bank.rank, hactive]
      obtain ⟨hdatabase, hnot, -⟩ := hdisciplined
      have hut : u ≠ t := by
        rintro rfl
        exact hnot hholds
      rcases hcases with ⟨-, ip', heq, hremoving⟩ | ⟨-, hdatabase'⟩ | hu
      · cases heq
        exact absurd hremoving (h.clear t call _ hactive hdatabase ip (Or.inl rfl) u hut)
      · exact absurd (Bank.only_holder hdatabase hdatabase') hut
      · omega

/-- Whoever has a mutex is in a call, and among threads that all wait for one another there would
be one of least rank, which has nobody to wait for. -/
theorem Bank.Orderly.not_deadlocked (h : c.Orderly) : ¬ Deadlocked DbCall.body c := by
  refine not_deadlocked_of_rank c.rank (fun mutex u hholds => ?_) fun t u hwaits =>
    h.rank_lt hwaits
  cases hactive : (c.thread u).active with
  | none => exact absurd hholds (h.idle u hactive mutex)
  | some running => exact Or.inl (by rw [hactive]; rfl)

/-- **When the ledger cannot deadlock.**  Any number of threads, each with any
sequence of calls on any tables, interleaved in any order: as long as no call takes
the database lock to lock a client that another thread is removing, somebody can
always move.

The rank of a thread is given by what it waits for, and the condition excludes the one hop at which
it might go up: from a client's mutex to the database lock, which only a removal asks for with a
client in hand. -/
theorem not_deadlocked_of_admitted {mem : DbManager} {calls : Tid → List DbCall}
    {schedule : List Tid} (run : Runs Bank.step Bank.Admitted (Config.start mem calls) schedule c) :
    ¬ Deadlocked DbCall.body c :=
  (run.invariant Bank.Orderly (Bank.orderly_start mem calls)
    fun _ _ _ h hadmitted taken => h.step hadmitted taken).not_deadlocked

end Threads

/-- One thread registers a client and removes it again, the other registers the
same client. -/
def registerTwice : Bool → List DbCall
  | false => [.registerClient 1, .removeClient 1]
  | true => [.registerClient 1]

/-- The second registration begins while the removal goes back for the database
lock. -/
def removalInterrupted : List Bool :=
  List.replicate 19 false ++ List.replicate 4 true ++ List.replicate 2 false

/-- **A removal can freeze the bank.**  Each of the two threads waits for the other. -/
theorem removal_deadlocks : ∃ c : Bank Bool,
    Runs Bank.step Always (Config.start DbManager.empty registerTwice) removalInterrupted c ∧
    Deadlocked DbCall.body c := by
  have hrun : (perform Bank.step (Config.start DbManager.empty registerTwice : Bank Bool)
      removalInterrupted).any (fun c => (c.thread true).active.isSome &&
        (c.step false).isNone && (c.step true).isNone) = true := by
    decide
  obtain ⟨c, run, hstuck⟩ := exists_runs_of_any hrun
  simp only [Bool.and_eq_true, Option.isNone_iff_eq_none] at hstuck
  obtain ⟨⟨hactive, hfalse⟩, htrue⟩ := hstuck
  exact ⟨c, run, ⟨true, Or.inl hactive⟩, fun t => by cases t <;> assumption⟩

/-- Both threads begin to register the client, and one of them has the database lock.

The call that has the database lock goes on to lock a client that nobody removes. -/
theorem registerTwice_not_deadlocked : ∃ c : Bank Bool,
    perform Bank.step (Config.start DbManager.empty registerTwice) [false, true, false] = some c ∧
    ¬ Deadlocked DbCall.body c := by
  have run : ∃ c : Bank Bool,
      perform Bank.step (Config.start DbManager.empty registerTwice) [false, true, false] = some c ∧
      Runs Bank.step Bank.Admitted (Config.start DbManager.empty registerTwice)
        [false, true, false] c := by
    refine ⟨_, rfl, .cons ?_ rfl (.cons ?_ rfl (.cons ?_ rfl .nil))⟩
    · rintro call hactive
      cases hactive
    · rintro call hactive
      cases hactive
    · rintro call hactive ip hip u ⟨prog, hremoving, hholds⟩
      cases hholds
  obtain ⟨c, hc, run⟩ := run
  exact ⟨c, hc, not_deadlocked_of_admitted run⟩

end Brix
