import Brix.Foundation.Assertions
import Brix.Server.ErrorReports
import Brix.Server.LockOrder

/-!
# The lock table and the record table

The two tables of the ledger have the same keys, except for a client that is just being
registered or removed: its mutex is there already, or still, while its record is not.
The thread that does this holds the client's mutex or the database lock all the while, and
so nobody who has found the mutex of a client, and taken it, misses the record.

* `Change` — what an access may do to the two key sets, and which client it leaves without
  a record
* `Careful` — what the code still to run may do, in terms of the mutexes held, of the mutex
  just found and of the client without a record
* `Consistent` — the two tables and the threads, at any point of any run
* `tables_consistent` — the tables differ on such clients only, and nothing is reported

### What is load-bearing

The tables are not consistent, and an invariant that says so has to know which client is the
exception and who is responsible for it.  A `gap` is that: for each thread the client that it has
left without a record, if any.  `Tables` says that every client with a mutex and without a record
is the gap of some thread, and that the thread has the client's mutex, or the database lock while
nobody has the client's.  So a thread that has locked a client and is not the one with the gap
finds the record, and that is the content of every line that is never written.

`Change` is the interface between one thread and the tables: it says what an access does to the
two sets of keys, and what becomes of the gap.  There are five things that can happen, and an
access of any operation is one of them (`Tables.change`).  `Careful` is proved for one operation
at a time, over whatever tables the thread may find, exactly as in `Brix.Server.LockOrder`; the
difference is that here the thread needs to know whether a record is there and not only whether it
may lock.
-/

namespace Brix

open LockProgram Execution

/-- A registration or a removal of a client. -/
def DbCall.Alters (call : DbCall) (ip : InAddr) : Prop :=
  call = .registerClient ip ∨ call = .removeClient ip

/-! ## What a thread does to the tables -/

/-- What an access does to the key sets, by a thread that holds some mutexes.  The thread
goes from one client without a record, or none, to another. -/
inductive Change (call : DbCall) (held : Set Mutex) (db db' : DbManager) :
    Option InAddr → Option InAddr → Prop
  | same (gap : Option InAddr) (hlocks : db'.clientLocks = db.clientLocks)
      (hkeys : db'.databaseRecords.keys = db.databaseRecords.keys) : Change call held db db' gap gap
  | opened (ip : InAddr) (hcall : call.Alters ip) (hdatabase : .databaseAccess ∈ held)
      (hnew : ip ∉ db.clientLocks) (hlocks : db'.clientLocks = insert ip db.clientLocks)
      (hkeys : db'.databaseRecords.keys = db.databaseRecords.keys) :
      Change call held db db' none (some ip)
  | recorded (ip : InAddr) (hlocks : db'.clientLocks = db.clientLocks)
      (hkeys : db'.databaseRecords.keys = insert ip db.databaseRecords.keys) :
      Change call held db db' (some ip) none
  | erased (ip : InAddr) (hcall : call.Alters ip) (hmine : .client ip ∈ held)
      (hlocks : db'.clientLocks = db.clientLocks)
      (hkeys : db'.databaseRecords.keys = db.databaseRecords.keys.erase ip) :
      Change call held db db' none (some ip)
  | closed (ip : InAddr) (hdatabase : .databaseAccess ∈ held) (hfree : .client ip ∉ held)
      (hlocks : db'.clientLocks = db.clientLocks.erase ip)
      (hkeys : db'.databaseRecords.keys = db.databaseRecords.keys) :
      Change call held db db' (some ip) none

/-- What a thread finds in the tables: the mutex it has found before, the mutexes it holds,
and the records of their clients, but for the one without. -/
structure Finds (held : Set Mutex) (seen gap : Option InAddr) (w : Reporting) : Prop where
  quiet : w.reports = []
  recorded : w.db.databaseRecords.keys ⊆ w.db.clientLocks
  seen : ∀ ip, seen = some ip → ip ∈ w.db.clientLocks
  locked : ∀ ip, .client ip ∈ held → ip ∈ w.db.clientLocks
  present : ∀ ip, .client ip ∈ held → gap ≠ some ip → ip ∈ w.db.databaseRecords
  gap : ∀ ip, gap = some ip → ip ∈ w.db.clientLocks ∧ ip ∉ w.db.databaseRecords

/-- What the code still to run may do.  It locks a client whose mutex it has just found,
keeps a client without a record to itself, leaves none behind, and has nothing to
report. -/
def Careful (call : DbCall) : ReportingCode → Set Mutex → Option InAddr → Option InAddr → Prop
  | .ret _, held, _, gap => held = ∅ ∧ gap = none
  | .lock mutex next, held, seen, gap =>
      (∀ ip, mutex = .client ip → seen = some ip) ∧
        Careful call next (insert mutex held) none gap
  | .unlock mutex next, held, _, gap =>
      mutex ∈ held ∧
        (∀ ip, gap = some ip → .client ip ∈ held \ {mutex} ∨ .databaseAccess ∈ held \ {mutex}) ∧
        Careful call next (held \ {mutex}) none gap
  | .access update next, held, seen, gap =>
      ∀ w, Finds held seen gap w → (update w).reports = [] ∧ ∃ seen' gap',
        Change call held w.db (update w).db gap gap' ∧
        (∀ ip, seen' = some ip → .databaseAccess ∈ held ∧ ip ∈ (update w).db.clientLocks) ∧
        Careful call (next w) held seen' gap'

/-! ## The operations are careful -/

section Operations

open Reporting

variable {call : DbCall} {held : Set Mutex} {seen gap : Option InAddr} {ip : InAddr}
  {next onOutOfRange : ReportingCode}

/-- An access is careful if it writes no line and makes one of the changes. -/
theorem careful_access {update : DbManager → DbManager} {mishap : DbManager → Option String}
    {next : DbManager → ReportingCode} (gap' : Option InAddr)
    (hquiet : ∀ w, Finds held seen gap w → mishap w.db = none)
    (hchange : ∀ w, Finds held seen gap w → Change call held w.db (update w.db) gap gap')
    (h : ∀ w, Finds held seen gap w → Careful call (next w.db) held none gap') :
    Careful call (access update mishap next) held seen gap := by
  intro w hfinds
  refine ⟨?_, none, gap', hchange w hfinds, nofun, h w hfinds⟩
  show (mishap w.db).toList ++ w.reports = []
  rw [hquiet w hfinds, hfinds.quiet]
  rfl

/-- A change of the totals, or of a record, or none. -/
theorem careful_touch {update : DbManager → DbManager} {next : DbManager → ReportingCode}
    (hlocks : ∀ db, (update db).clientLocks = db.clientLocks)
    (hkeys : ∀ db, (update db).databaseRecords.keys = db.databaseRecords.keys)
    (h : ∀ w, Finds held seen gap w → Careful call (next w.db) held none gap) :
    Careful call (touch update next) held seen gap :=
  careful_access gap (fun _ _ => rfl) (fun w _ => .same gap (hlocks w.db) (hkeys w.db)) h

/-- The entry is there if it has just been seen under the database lock. -/
theorem careful_lockClient (hdatabase : .databaseAccess ∈ held)
    (hlocked : Careful call next (insert (.client ip) held) none gap)
    (hmissing : seen ≠ some ip → Careful call onOutOfRange held none gap) :
    Careful call (lockClient ip onOutOfRange next) held seen gap := by
  intro w hfinds
  by_cases hip : ip ∈ w.db.clientLocks
  · refine ⟨hfinds.quiet, some ip, gap, .same gap rfl rfl, ?_, ?_⟩
    · rintro ip' ⟨⟩
      exact ⟨hdatabase, hip⟩
    · dsimp only
      rw [if_pos hip]
      refine ⟨?_, hlocked⟩
      rintro ip' ⟨⟩
      rfl
  · refine ⟨hfinds.quiet, none, gap, .same gap rfl rfl, nofun, ?_⟩
    dsimp only
    rw [if_neg hip]
    exact hmissing fun hseen => hip (hfinds.seen ip hseen)

/-- A mutex may be given back if the gap is protected without it. -/
theorem careful_unlock {mutex : Mutex} (hmine : mutex ∈ held)
    (hkept : gap = none ∨ .databaseAccess ∈ held \ {mutex})
    (h : Careful call next (held \ {mutex}) none gap) :
    Careful call (.unlock mutex next) held seen gap := by
  refine ⟨hmine, fun ip hgap => ?_, h⟩
  rcases hkept with rfl | hdatabase
  · cases hgap
  · exact Or.inr hdatabase

/-- The mutex of a client is in the table as long as somebody holds it. -/
theorem careful_unlockClient (hmine : .client ip ∈ held)
    (hkept : gap = none ∨ .databaseAccess ∈ held)
    (h : Careful call next (held \ {.client ip}) none gap) :
    Careful call (unlockClient ip next) held seen gap := by
  refine careful_access gap (fun w hfinds => if_pos (hfinds.locked ip hmine))
    (fun _ _ => .same gap rfl rfl) fun w hfinds => ?_
  rw [if_pos (hfinds.locked ip hmine)]
  exact careful_unlock hmine (hkept.imp_right fun hdatabase => ⟨hdatabase, nofun⟩) h

/-- A client has a record while its mutex is held, unless its holder is adding the record
or has just removed it. -/
theorem careful_recordAt {message : Option String} {next : ClientRecord → ReportingCode}
    (hmine : .client ip ∈ held) (hgap : gap = none)
    (h : ∀ record, Careful call (next record) held none gap) :
    Careful call (recordAt ip message onOutOfRange next) held seen gap := by
  have hpresent : ∀ w, Finds held seen gap w → ip ∈ w.db.databaseRecords :=
    fun w hfinds => hfinds.present ip hmine (hgap ▸ nofun)
  refine careful_access gap (fun w hfinds => if_pos (hpresent w hfinds))
    (fun _ _ => .same gap rfl rfl) fun w hfinds => ?_
  obtain ⟨record, hrecord⟩ := Finmap.mem_iff.mp (hpresent w hfinds)
  rw [hrecord]
  exact h record

/-- With no mutex in hand the record may be there or not. -/
theorem careful_recordAt_free {outcome : Outcome} {next : ClientRecord → ReportingCode}
    (hheld : held = ∅) (hgap : gap = none)
    (h : ∀ record, Careful call (next record) held none gap) :
    Careful call (recordAt ip none (.ret outcome) next) held seen gap := by
  refine careful_access gap (fun w _ => ite_self _) (fun _ _ => .same gap rfl rfl) fun w _ => ?_
  cases w.db.databaseRecords.lookup ip with
  | none => exact ⟨hheld, hgap⟩
  | some record => exact h record

/-- An assignment changes no keys. -/
theorem careful_assign {f : ClientRecord → ClientRecord} (hmine : .client ip ∈ held)
    (hgap : gap = none) (h : Careful call next held none gap) :
    Careful call (assign ip f next) held seen gap := by
  refine careful_touch (fun db => DbManager.modify_clientLocks db ip f)
    (fun db => DbManager.modify_keys db ip f) fun w hfinds => ?_
  rw [if_pos (hfinds.present ip hmine (hgap ▸ nofun))]
  exact h

/-- Both parties of a transfer given back. -/
theorem careful_unlockBoth {ip' : InAddr} (hmine : .client ip ∈ held)
    (hmine' : .client ip' ∈ held) (hne : ip ≠ ip')
    (h : Careful call next ((held \ {.client ip}) \ {.client ip'}) none none) :
    Careful call (unlockClient ip <| unlockClient ip' next) held seen none :=
  careful_unlockClient hmine (Or.inl rfl)
    (careful_unlockClient ⟨hmine', by simp [Ne.symm hne]⟩ (Or.inl rfl) h)

/-- A round of the database lock, for the total balance. -/
theorem careful_totalBalance {update : DbManager → DbManager}
    (hlocks : ∀ db, (update db).clientLocks = db.clientLocks)
    (hkeys : ∀ db, (update db).databaseRecords.keys = db.databaseRecords.keys)
    (hheld : held = ∅) (h : Careful call next ∅ none none) :
    Careful call (lockDatabase <| touch update fun _ => unlockDatabase next) held seen none := by
  subst hheld
  refine ⟨nofun, careful_touch hlocks hkeys fun _ _ => ?_⟩
  refine careful_unlock (Or.inl rfl) (Or.inl rfl) ?_
  rw [Set.sdiff_eq_empty.mpr (insert_empty_eq _).subset]
  exact h

/-- A call ends without a mutex and without a gap. -/
theorem careful_respond {success : Bool} {record : ClientRecord} {code : Description}
    (hheld : held = ∅) : Careful call (respond success record code) held seen none := ⟨hheld, rfl⟩

/-- Go from the database lock to a client's mutex. -/
theorem careful_lockOwn (hgap : ∀ ip', gap = some ip' → ip' = ip)
    (hlocked : Careful call next {.client ip} none gap)
    (hmissing : seen ≠ some ip → Careful call onOutOfRange (insert .databaseAccess ∅) none gap) :
    Careful call (lockClient ip onOutOfRange <| unlockDatabase next)
      (insert .databaseAccess ∅) seen gap := by
  refine careful_lockClient (Or.inl rfl) ⟨by simp, fun ip' hip => ?_, ?_⟩ hmissing
  · rw [hgap ip' hip]
    exact Or.inl ⟨Or.inl rfl, nofun⟩
  · rw [holding_one]
    exact hlocked

/-- `register_client` opens a gap when it adds the mutex, under the database lock, and closes it
when it adds the record, under the mutex; in between it has one or both of the two. -/
theorem careful_registerClient (clientIp : InAddr) :
    Careful (.registerClient clientIp) (registerClient clientIp) ∅ none none := by
  have hunlocked : ({.client clientIp} \ {.client clientIp} : Set Mutex) = ∅ := Set.sdiff_self
  refine ⟨nofun, fun w hfinds => ?_⟩
  have hseen : ∀ ip, some clientIp = some ip →
      Mutex.databaseAccess ∈ (insert .databaseAccess ∅ : Set Mutex) ∧
        ip ∈ insert clientIp w.db.clientLocks := by
    rintro ip ⟨⟩
    exact ⟨Or.inl rfl, Finset.mem_insert_self ..⟩
  by_cases hip : clientIp ∈ w.db.clientLocks
  · refine ⟨hfinds.quiet, some clientIp, none, .same none (Finset.insert_eq_of_mem hip) rfl, hseen,
      careful_lockOwn nofun ?_ (absurd rfl)⟩
    rw [if_pos hip]
    exact careful_unlockClient rfl (Or.inl rfl) (careful_respond hunlocked)
  · refine ⟨hfinds.quiet, some clientIp, some clientIp,
      .opened clientIp (Or.inl rfl) (Or.inl rfl) hip rfl rfl, hseen,
      careful_lockOwn (fun _ heq => (Option.some.inj heq).symm) ?_ (absurd rfl)⟩
    rw [if_neg hip]
    have hnew : ∀ w, Finds {.client clientIp} none (some clientIp) w →
        clientIp ∉ w.db.databaseRecords := fun w hfinds => (hfinds.gap clientIp rfl).2
    refine careful_access none (fun w hfinds => if_neg (hnew w hfinds)) (fun w hfinds => ?_)
      fun w hfinds => ?_
    · rw [if_neg (hnew w hfinds)]
      exact .recorded clientIp rfl (Finmap.keys_insert ..)
    · rw [if_neg (hnew w hfinds)]
      refine careful_unlockClient rfl (Or.inl rfl) ?_
      refine careful_totalBalance (fun _ => rfl) (fun _ => rfl) hunlocked ?_
      exact careful_recordAt_free rfl rfl fun _ => careful_respond rfl

/-- `make_transaction` changes no keys at all. -/
theorem careful_makeTransaction (senderIp receiverIp : InAddr) (transferAmount : UInt64) :
    Careful (.makeTransaction senderIp receiverIp transferAmount)
      (makeTransaction senderIp receiverIp transferAmount) ∅ none none := by
  have hheld := unlocked_both senderIp receiverIp
  have hdone : ((insert (.client senderIp) (insert .databaseAccess ∅) \ {.client senderIp}) \
      {.databaseAccess} : Set Mutex) = ∅ := by
    rw [insert_empty_eq]
    exact given_back subset_rfl
  refine ⟨nofun, careful_lockClient (Or.inl rfl) ?_ fun _ => ?_⟩
  · split
    · -- a balance check
      refine careful_unlockClient (by simp) (Or.inl rfl) (careful_unlock (by simp) (Or.inl rfl) ?_)
      exact careful_recordAt_free hdone rfl fun _ => careful_respond hdone
    split
    · refine careful_unlockClient (by simp) (Or.inl rfl) (careful_unlock (by simp) (Or.inl rfl) ?_)
      exact careful_recordAt_free hdone rfl fun _ => careful_respond hdone
    rename_i hself
    refine careful_lockClient (by simp) (careful_unlock (by simp) (Or.inl rfl) ?_) fun _ => ?_
    · refine careful_recordAt (by simp) rfl fun _ => careful_recordAt (by simp) rfl fun _ => ?_
      refine careful_assign (by simp) rfl (careful_recordAt (by simp) rfl fun sender => ?_)
      split
      · -- not covered
        refine careful_unlockBoth (by simp) (by simp) hself ?_
        exact careful_recordAt_free hheld rfl fun _ => careful_respond hheld
      · refine careful_assign (by simp) rfl (careful_assign (by simp) rfl ?_)
        refine careful_unlockBoth (by simp) (by simp) hself ?_
        rw [hheld]
        -- the totals
        refine ⟨nofun, careful_touch (fun _ => rfl) (fun _ => rfl) fun _ _ =>
          careful_touch (fun _ => rfl) (fun _ => rfl) fun _ _ => ?_⟩
        refine careful_unlock (Or.inl rfl) (Or.inl rfl) ?_
        exact careful_recordAt_free (by simp) rfl fun _ => careful_respond (by simp)
    · -- the receiver is not registered, but the sender is
      refine careful_access none (fun w hfinds => ?_) (fun _ _ => .same none rfl rfl) fun w _ => ?_
      · obtain ⟨record, hrecord⟩ := Finmap.mem_iff.mp (hfinds.present senderIp (by simp) nofun)
        rw [DbManager.getClientInfo, hrecord]
        rfl
      · exact careful_unlockClient (by simp) (Or.inl rfl)
          (careful_unlock (by simp) (Or.inl rfl) (careful_respond hdone))
  · exact careful_unlock (Or.inl rfl) (Or.inl rfl) (careful_respond (by simp))

/-- `remove_client` opens a gap when it erases the record and closes it when it erases the mutex.
It takes the database lock before it gives the mutex back. -/
theorem careful_removeClient (clientIp : InAddr) :
    Careful (.removeClient clientIp) (removeClient clientIp) ∅ none none := by
  refine ⟨nofun, careful_lockOwn nofun ?_ fun _ => ?_⟩
  · refine careful_recordAt rfl rfl fun clientCopy => ?_
    have hpresent : ∀ w, Finds {.client clientIp} none none w → ¬ clientIp ∉ w.db.databaseRecords :=
      fun w hfinds => not_not.mpr (hfinds.present clientIp rfl nofun)
    refine careful_access (some clientIp) (fun w hfinds => if_neg (hpresent w hfinds))
      (fun w _ => .erased clientIp (Or.inr rfl) rfl rfl (Finmap.keys_erase ..)) fun w hfinds => ?_
    rw [if_neg (hpresent w hfinds)]
    -- back for the database lock, with the client's mutex in hand
    refine ⟨nofun, careful_unlockClient (by simp) (Or.inr (Or.inl rfl)) ?_⟩
    have hregistered : ∀ w,
        Finds (insert .databaseAccess {.client clientIp} \ {.client clientIp}) none
          (some clientIp) w → ¬ clientIp ∉ w.db.clientLocks :=
      fun w hfinds => not_not.mpr (hfinds.gap clientIp rfl).1
    refine careful_touch (fun _ => rfl) (fun _ => rfl) fun w hfinds => ?_
    rw [if_neg (hregistered w hfinds)]
    refine careful_access none (fun w hfinds => if_neg (hregistered w hfinds))
      (fun _ _ => .closed clientIp (by simp) (by simp) rfl rfl) fun w _ => ?_
    have hdone : ((insert .databaseAccess {.client clientIp} \ {.client clientIp}) \
        {.databaseAccess} : Set Mutex) = ∅ := given_back (Set.pair_comm ..).subset
    refine careful_unlock (by simp) (Or.inl rfl) ?_
    split
    · exact careful_respond hdone
    · exact careful_totalBalance (fun _ => rfl) (fun _ => rfl) hdone (careful_respond rfl)
  · exact careful_unlock (Or.inl rfl) (Or.inl rfl) (careful_respond (by simp))

/-- Every call is careful from its first instruction on. -/
theorem careful_body (call : DbCall) : Careful call call.reportingBody ∅ none none := by
  cases call with
  | registerClient clientIp => exact careful_registerClient clientIp
  | makeTransaction senderIp receiverIp transferAmount =>
      exact careful_makeTransaction senderIp receiverIp transferAmount
  | removeClient clientIp => exact careful_removeClient clientIp

end Operations

/-! ## The tables -/

/-- The keys of the two tables.  `gap t` is the client that thread `t` has left without a
record, and keeps to itself. -/
structure Tables {Tid : Type} (locks keys : Finset InAddr) (holder : Mutex → Option Tid)
    (gap : Tid → Option InAddr) : Prop where
  recorded : keys ⊆ locks
  locked : ∀ t ip, holder (.client ip) = some t → ip ∈ locks
  opened : ∀ ip ∈ locks, ip ∉ keys → ∃ t, gap t = some ip
  gap : ∀ t ip, gap t = some ip → ip ∈ locks ∧ ip ∉ keys ∧
    (holder (.client ip) = some t ∨
      holder .databaseAccess = some t ∧ holder (.client ip) = none)

section Tables

variable {Tid : Type} {locks keys : Finset InAddr} {holder : Mutex → Option Tid}
  {gap : Tid → Option InAddr} {t u : Tid} {ip : InAddr}

/-- No two threads leave the same client without a record. -/
theorem Tables.eq_of_gap (h : Tables locks keys holder gap) (ht : gap t = some ip)
    (hu : gap u = some ip) : t = u := by
  obtain ⟨-, -, ht⟩ := h.gap t ip ht
  obtain ⟨-, -, hu⟩ := h.gap u ip hu
  rcases ht with ht | ⟨ht, hfree⟩
  · rcases hu with hu | ⟨-, hfree⟩
    · exact Option.some.inj (ht.symm.trans hu)
    · rw [hfree] at ht
      cases ht
  · rcases hu with hu | ⟨hu, -⟩
    · rw [hfree] at hu
      cases hu
    · exact Option.some.inj (ht.symm.trans hu)

/-- A thread takes a free mutex.  If it is a client's mutex, it is in the table, and the
thread has the database lock. -/
theorem Tables.lock (h : Tables locks keys holder gap) {mutex : Mutex}
    (hfree : holder mutex = none)
    (hclient : ∀ ip, mutex = .client ip → holder .databaseAccess = some t ∧ ip ∈ locks) :
    Tables locks keys (Function.update holder mutex (some t)) gap := by
  refine ⟨h.recorded, fun u ip hu => ?_, h.opened, fun u ip hgap => ?_⟩
  · by_cases hmutex : .client ip = mutex
    · exact (hclient ip hmutex.symm).2
    · rw [Function.update_of_ne hmutex] at hu
      exact h.locked u ip hu
  · obtain ⟨hlocks, hkeys, hheld⟩ := h.gap u ip hgap
    refine ⟨hlocks, hkeys, ?_⟩
    by_cases hmutex : .client ip = mutex
    · -- only the thread with the database lock can have got here
      subst hmutex
      rw [hfree] at hheld
      obtain ⟨hdatabase, -⟩ := hheld.resolve_left nofun
      rw [Function.update_self, ← hdatabase]
      exact Or.inl (hclient ip rfl).1.symm
    · rw [Function.update_of_ne hmutex]
      refine hheld.imp_right fun ⟨hdatabase, hnone⟩ => ⟨?_, hnone⟩
      rw [Function.update_of_ne, hdatabase]
      rintro rfl
      rw [hfree] at hdatabase
      cases hdatabase

/-- A thread gives a mutex back, and keeps one that protects its client. -/
theorem Tables.unlock (h : Tables locks keys holder gap) {mutex : Mutex}
    (hmine : holder mutex = some t)
    (hkept : ∀ ip, gap t = some ip →
      .client ip ∈ {mutex | holder mutex = some t} \ {mutex} ∨
        .databaseAccess ∈ {mutex | holder mutex = some t} \ {mutex}) :
    Tables locks keys (Function.update holder mutex none) gap := by
  have hupdate : ∀ mutex' u, Function.update holder mutex none mutex' = some u →
      holder mutex' = some u := by
    intro mutex' u hu
    by_cases hmutex : mutex' = mutex
    · rw [hmutex, Function.update_self] at hu
      cases hu
    · rwa [Function.update_of_ne hmutex] at hu
  refine ⟨h.recorded, fun u ip hu => h.locked u ip (hupdate _ u hu), h.opened,
    fun u ip hgap => ?_⟩
  obtain ⟨hlocks, hkeys, hheld⟩ := h.gap u ip hgap
  refine ⟨hlocks, hkeys, ?_⟩
  by_cases hut : u = t
  · rw [hut] at hgap hheld
    rw [hut]
    rcases hkept ip hgap with ⟨hclient, hne⟩ | ⟨hdatabase, hne⟩
    · exact Or.inl ((Function.update_of_ne hne ..).trans hclient)
    · by_cases hclient : Function.update holder mutex none (.client ip) = some t
      · exact Or.inl hclient
      · refine Or.inr ⟨(Function.update_of_ne hne ..).trans hdatabase, ?_⟩
        by_cases hmutex : .client ip = mutex
        · rw [hmutex, Function.update_self]
        · rw [Function.update_of_ne hmutex] at hclient ⊢
          exact (hheld.resolve_left hclient).2
  · -- what another thread holds is not given back
    have hother : ∀ mutex', holder mutex' = some u →
        Function.update holder mutex none mutex' = some u := by
      intro mutex' hu
      rw [Function.update_of_ne, hu]
      rintro rfl
      exact hut (Option.some.inj (hu.symm.trans hmine))
    refine hheld.imp (hother _) fun ⟨hdatabase, hnone⟩ => ⟨hother _ hdatabase, ?_⟩
    by_cases hmutex : .client ip = mutex
    · rw [hmutex, Function.update_self]
    · rw [Function.update_of_ne hmutex, hnone]

variable [DecidableEq Tid]

/-- The clients that others have left without a record stay so. -/
theorem exists_gap_update {gap' : Option InAddr} (h : ∃ u, gap u = some ip)
    (hother : gap t ≠ some ip) : ∃ u, Function.update gap t gap' u = some ip := by
  obtain ⟨u, hu⟩ := h
  refine ⟨u, ?_⟩
  rw [Function.update_of_ne, hu]
  rintro rfl
  exact hother hu

/-- A thread adds a client's mutex. -/
theorem Tables.open (h : Tables locks keys holder gap) (hgap : gap t = none)
    (hdatabase : holder .databaseAccess = some t) (hnew : ip ∉ locks) :
    Tables (insert ip locks) keys holder (Function.update gap t (some ip)) := by
  refine ⟨h.recorded.trans (Finset.subset_insert ip locks),
    fun u ip' hu => Finset.mem_insert_of_mem (h.locked u ip' hu), fun ip' hlocks hkeys => ?_,
    fun u ip' hu => ?_⟩
  · rcases Finset.mem_insert.mp hlocks with rfl | hlocks
    · exact ⟨t, Function.update_self ..⟩
    · exact exists_gap_update (h.opened ip' hlocks hkeys) (hgap ▸ nofun)
  · by_cases hut : u = t
    · rw [hut, Function.update_self, Option.some.injEq] at hu
      subst hut hu
      refine ⟨Finset.mem_insert_self .., fun hkeys => hnew (h.recorded hkeys),
        Or.inr ⟨hdatabase, ?_⟩⟩
      rw [Option.eq_none_iff_forall_ne_some]
      exact fun u' hu' => hnew (h.locked u' ip hu')
    · rw [Function.update_of_ne hut] at hu
      obtain ⟨hlocks, hheld⟩ := h.gap u ip' hu
      exact ⟨Finset.mem_insert_of_mem hlocks, hheld⟩

/-- It adds the client's record. -/
theorem Tables.record (h : Tables locks keys holder gap) (hgap : gap t = some ip) :
    Tables locks (insert ip keys) holder (Function.update gap t none) := by
  refine ⟨Finset.insert_subset (h.gap t ip hgap).1 h.recorded, h.locked,
    fun ip' hlocks hkeys => ?_, fun u ip' hu => ?_⟩
  · rw [Finset.mem_insert, not_or] at hkeys
    refine exists_gap_update (h.opened ip' hlocks hkeys.2) ?_
    rw [hgap]
    exact fun heq => hkeys.1 (Option.some.inj heq).symm
  · by_cases hut : u = t
    · rw [hut, Function.update_self] at hu
      cases hu
    · rw [Function.update_of_ne hut] at hu
      obtain ⟨hlocks, hkeys, hheld⟩ := h.gap u ip' hu
      refine ⟨hlocks, ?_, hheld⟩
      rw [Finset.mem_insert, not_or]
      refine ⟨?_, hkeys⟩
      rintro rfl
      exact hut (h.eq_of_gap hu hgap)

/-- A thread erases a client's record. -/
theorem Tables.erase (h : Tables locks keys holder gap) (hgap : gap t = none)
    (hmine : holder (.client ip) = some t) :
    Tables locks (keys.erase ip) holder (Function.update gap t (some ip)) := by
  refine ⟨(Finset.erase_subset ip keys).trans h.recorded, h.locked, fun ip' hlocks hkeys => ?_,
    fun u ip' hu => ?_⟩
  · by_cases hip : ip' = ip
    · exact ⟨t, hip ▸ Function.update_self ..⟩
    · refine exists_gap_update (h.opened ip' hlocks fun hmem => ?_) (hgap ▸ nofun)
      exact hkeys (Finset.mem_erase.mpr ⟨hip, hmem⟩)
  · by_cases hut : u = t
    · rw [hut, Function.update_self, Option.some.injEq] at hu
      subst hut hu
      exact ⟨h.locked u ip hmine, Finset.notMem_erase ip keys, Or.inl hmine⟩
    · rw [Function.update_of_ne hut] at hu
      obtain ⟨hlocks, hkeys, hheld⟩ := h.gap u ip' hu
      exact ⟨hlocks, fun hmem => hkeys (Finset.mem_of_mem_erase hmem), hheld⟩

/-- It erases the client's mutex, which nobody holds. -/
theorem Tables.close (h : Tables locks keys holder gap) (hgap : gap t = some ip)
    (hfree : holder (.client ip) ≠ some t) :
    Tables (locks.erase ip) keys holder (Function.update gap t none) := by
  obtain ⟨-, hnew, hheld⟩ := h.gap t ip hgap
  obtain ⟨-, hnone⟩ := hheld.resolve_left hfree
  refine ⟨fun ip' hmem => Finset.mem_erase.mpr ⟨?_, h.recorded hmem⟩, fun u ip' hu => ?_,
    fun ip' hlocks hkeys => ?_, fun u ip' hu => ?_⟩
  · rintro rfl
    exact hnew hmem
  · refine Finset.mem_erase.mpr ⟨?_, h.locked u ip' hu⟩
    rintro rfl
    rw [hnone] at hu
    cases hu
  · obtain ⟨hne, hlocks⟩ := Finset.mem_erase.mp hlocks
    refine exists_gap_update (h.opened ip' hlocks hkeys) ?_
    rw [hgap]
    exact fun heq => hne (Option.some.inj heq).symm
  · by_cases hut : u = t
    · rw [hut, Function.update_self] at hu
      cases hu
    · rw [Function.update_of_ne hut] at hu
      obtain ⟨hlocks, hrest⟩ := h.gap u ip' hu
      refine ⟨Finset.mem_erase.mpr ⟨?_, hlocks⟩, hrest⟩
      rintro rfl
      exact hut (h.eq_of_gap hu hgap)

/-- Whatever a thread does to the tables. -/
theorem Tables.change {db db' : DbManager} {call : DbCall} {gap' : Option InAddr}
    (h : Tables db.clientLocks db.databaseRecords.keys holder gap)
    (hchange : Change call {mutex | holder mutex = some t} db db' (gap t) gap') :
    Tables db'.clientLocks db'.databaseRecords.keys holder (Function.update gap t gap') := by
  generalize hgap : gap t = before at hchange
  cases hchange with
  | same gap hlocks hkeys =>
      rw [hlocks, hkeys, ← hgap, Function.update_eq_self]
      exact h
  | opened ip hcall hdatabase hnew hlocks hkeys =>
      rw [hlocks, hkeys]
      exact h.open hgap hdatabase hnew
  | recorded ip hlocks hkeys =>
      rw [hlocks, hkeys]
      exact h.record hgap
  | erased ip hcall hmine hlocks hkeys =>
      rw [hlocks, hkeys]
      exact h.erase hgap hmine
  | closed ip hdatabase hfree hlocks hkeys =>
      rw [hlocks, hkeys]
      exact h.close hgap hfree

end Tables

/-! ## Any point of any run -/

/-- A thread between its calls has no mutex and leaves no client without a record; one in a
call is careful, and the client it leaves without is the call's. -/
def AtWork (th : Thread Reporting Mutex Outcome DbCall) (held : Set Mutex)
    (seen gap : Option InAddr) : Prop :=
  match th.active with
  | none => held = ∅ ∧ gap = none
  | some (call, prog) => Careful call prog held seen gap ∧ ∀ ip, gap = some ip → call.Alters ip

/-- Where a run has got to: for each thread the mutex that it has just found, and the client
that it has left without a record. -/
structure Consistent {Tid : Type} (c : Config Reporting Mutex Outcome DbCall Tid)
    (seen gap : Tid → Option InAddr) : Prop where
  quiet : c.mem.reports = []
  tables : Tables c.mem.db.clientLocks c.mem.db.databaseRecords.keys c.holder gap
  found : ∀ t ip, seen t = some ip →
    c.holder .databaseAccess = some t ∧ ip ∈ c.mem.db.clientLocks
  threads : ∀ t, AtWork (c.thread t) (c.holds t) (seen t) (gap t)

section Runs

variable {Tid : Type} {c c' : Config Reporting Mutex Outcome DbCall Tid}
  {seen gap : Tid → Option InAddr} {t : Tid} {call : DbCall}

/-- The tables begin with the same keys. -/
theorem consistent_start {db : DbManager} (hkeys : db.clientLocks = db.databaseRecords.keys)
    (calls : Tid → List DbCall) :
    Consistent (Config.start db.quiet calls) (fun _ => none) fun _ => none where
  quiet := rfl
  tables := ⟨hkeys.superset, fun _ _ => nofun, fun _ hlocks hnew => absurd (hkeys ▸ hlocks) hnew,
    fun _ _ => nofun⟩
  found _ _ := nofun
  threads _ := ⟨Set.eq_empty_of_forall_notMem fun _ => nofun, rfl⟩

/-- What a thread finds in the tables. -/
theorem Consistent.finds (h : Consistent c seen gap) (t : Tid) :
    Finds (c.holds t) (seen t) (gap t) c.mem where
  quiet := h.quiet
  recorded := h.tables.recorded
  seen ip hseen := (h.found t ip hseen).2
  locked ip hmine := h.tables.locked t ip hmine
  present ip hmine hgap := by
    by_contra hnew
    -- somebody else has left the client without a record, and cannot have its mutex
    obtain ⟨u, hu⟩ := h.tables.opened ip (h.tables.locked t ip hmine)
      fun hkeys => hnew (Finmap.mem_keys.mp hkeys)
    obtain ⟨-, -, hholder | ⟨-, hfree⟩⟩ := h.tables.gap u ip hu
    · have hut : u = t := Option.some.inj (hholder.symm.trans hmine)
      exact hgap (hut ▸ hu)
    · exact absurd (hfree.symm.trans hmine) nofun
  gap ip hgap := by
    obtain ⟨hlocks, hkeys, -⟩ := h.tables.gap t ip hgap
    exact ⟨hlocks, fun hmem => hkeys (Finmap.mem_keys.mpr hmem)⟩

/-- A gap is a client that the call registers or removes. -/
theorem Change.alters {held : Set Mutex} {db db' : DbManager} {before after : Option InAddr}
    {ip : InAddr} (hchange : Change call held db db' before after) (hafter : after = some ip) :
    before = some ip ∨ call.Alters ip := by
  cases hchange with
  | same => exact Or.inl hafter
  | opened ip hcall =>
      cases hafter
      exact Or.inr hcall
  | recorded => cases hafter
  | erased ip hcall =>
      cases hafter
      exact Or.inr hcall
  | closed => cases hafter

/-- Mutexes are erased from the table under the database lock only. -/
theorem Change.clientLocks_subset {held : Set Mutex} {db db' : DbManager}
    {before after : Option InAddr} (hchange : Change call held db db' before after)
    (hdatabase : .databaseAccess ∉ held) : db.clientLocks ⊆ db'.clientLocks := by
  cases hchange with
  | same hlocks hkeys => exact hkeys.superset
  | opened ip hcall hmine => exact absurd hmine hdatabase
  | recorded ip hlocks => exact hlocks.superset
  | erased ip hcall hmine hlocks => exact hlocks.superset
  | closed ip hmine => exact absurd hmine hdatabase

/-- A thread in a call. -/
theorem Consistent.of_active (h : Consistent c seen gap) {prog : ReportingCode}
    (hactive : (c.thread t).active = some (call, prog)) :
    Careful call prog (c.holds t) (seen t) (gap t) ∧ ∀ ip, gap t = some ip → call.Alters ip := by
  have hwork := h.threads t
  unfold AtWork at hwork
  rw [hactive] at hwork
  exact hwork

/-- A thread between its calls. -/
theorem Consistent.of_idle (h : Consistent c seen gap) (hactive : (c.thread t).active = none) :
    c.holds t = ∅ ∧ gap t = none := by
  have hwork := h.threads t
  unfold AtWork at hwork
  rw [hactive] at hwork
  exact hwork

variable [DecidableEq Tid]

/-- A thread moves on. -/
theorem Consistent.advance (h : Consistent c seen gap) {seen' gap' : Option InAddr}
    (hquiet : c'.mem.reports = [])
    (htables : Tables c'.mem.db.clientLocks c'.mem.db.databaseRecords.keys c'.holder
      (Function.update gap t gap'))
    (hseen : ∀ ip, seen' = some ip →
      c'.holder .databaseAccess = some t ∧ ip ∈ c'.mem.db.clientLocks)
    (hself : AtWork (c'.thread t) (c'.holds t) seen' gap')
    (hothers : ∀ u, u ≠ t → c'.thread u = c.thread u)
    (hholds : ∀ u, u ≠ t → c'.holds u = c.holds u)
    (hlocks : .databaseAccess ∉ c.holds t → c.mem.db.clientLocks ⊆ c'.mem.db.clientLocks) :
    Consistent c' (Function.update seen t seen') (Function.update gap t gap') := by
  refine ⟨hquiet, htables, fun u ip hu => ?_, fun u => ?_⟩
  · by_cases hut : u = t
    · rw [hut, Function.update_self] at hu
      rw [hut]
      exact hseen ip hu
    · rw [Function.update_of_ne hut] at hu
      obtain ⟨hdatabase, hip⟩ := h.found u ip hu
      refine ⟨?_, hlocks (fun hmine => ?_) hip⟩
      · show .databaseAccess ∈ c'.holds u
        rw [hholds u hut]
        exact hdatabase
      · exact hut (Option.some.inj (hdatabase.symm.trans hmine))
  · by_cases hut : u = t
    · rw [hut, Function.update_self, Function.update_self]
      exact hself
    · rw [Function.update_of_ne hut, Function.update_of_ne hut, hothers u hut, hholds u hut]
      exact h.threads u

/-- **One step.**

Whatever the instruction, it is enough to say what becomes of the tables and of the thread that has
moved; the others are carried over by `Consistent.advance`. -/
theorem Consistent.step (h : Consistent c seen gap)
    (taken : LockProgram.step DbCall.reportingBody c t = some c') :
    ∃ seen' gap', Consistent c' (Function.update seen t seen') (Function.update gap t gap') := by
  have hthreads : ∀ {c : Config Reporting Mutex Outcome DbCall Tid} {th} u, u ≠ t →
      (c.setThread t th).thread u = c.thread u := fun u hut => Config.setThread_of_ne _ hut _
  have hsame : Tables c.mem.db.clientLocks c.mem.db.databaseRecords.keys c.holder
      (Function.update gap t (gap t)) := by
    rw [Function.update_eq_self]
    exact h.tables
  rcases step_cases taken with ⟨call, rest, hactive, hpending, rfl⟩ | ⟨call, result, hactive, rfl⟩ |
    ⟨call, mutex, next, hactive, hfree, rfl⟩ | ⟨call, mutex, next, hactive, rfl⟩ |
    ⟨call, update, next, hactive, rfl⟩
  · -- a call begins: nothing seen, and no gap open
    obtain ⟨hholds, hgap⟩ := h.of_idle hactive
    refine ⟨none, gap t, h.advance h.quiet hsame nofun ?_ hthreads (fun _ _ => rfl)
      fun _ => subset_rfl⟩
    show AtWork _ (c.holds t) none (gap t)
    rw [Config.setThread_self, hholds, hgap]
    exact ⟨careful_body call, nofun⟩
  · obtain ⟨hcareful, -⟩ := h.of_active hactive
    refine ⟨none, gap t, h.advance h.quiet hsame nofun ?_ hthreads (fun _ _ => rfl)
      fun _ => subset_rfl⟩
    rw [Config.setThread_self]
    exact hcareful
  · obtain ⟨⟨hclient, hnext⟩, halters⟩ := h.of_active hactive
    rw [← Config.holds_lock] at hnext
    refine ⟨none, gap t, h.advance h.quiet ?_ nofun ?_ hthreads
      (fun u hut => Config.holds_lock_of_ne hfree hut) fun _ => subset_rfl⟩
    · rw [Function.update_eq_self]
      exact h.tables.lock hfree fun ip hmutex => h.found t ip (hclient ip hmutex)
    · rw [Config.setThread_self]
      exact ⟨hnext, halters⟩
  · obtain ⟨⟨hmine, hkept, hnext⟩, halters⟩ := h.of_active hactive
    rw [← Config.holds_unlock] at hnext
    refine ⟨none, gap t, h.advance h.quiet ?_ nofun ?_ hthreads
      (fun u hut => Config.holds_unlock_of_ne hmine hut) fun _ => subset_rfl⟩
    · rw [Function.update_eq_self]
      exact h.tables.unlock hmine hkept
    · rw [Config.setThread_self]
      exact ⟨hnext, halters⟩
  · -- an access may open or close the gap of its own thread, and nobody else's
    obtain ⟨hcareful, halters⟩ := h.of_active hactive
    obtain ⟨hquiet, seen', gap', hchange, hseen, hnext⟩ := hcareful c.mem (h.finds t)
    refine ⟨seen', gap', h.advance hquiet (h.tables.change hchange) hseen ?_ hthreads
      (fun _ _ => rfl) hchange.clientLocks_subset⟩
    rw [Config.setThread_self]
    refine ⟨hnext, fun ip hgap => ?_⟩
    exact (hchange.alters hgap).elim (halters ip) id

/-- **Any run.** -/
theorem consistent_of_runs {db : DbManager} (hkeys : db.clientLocks = db.databaseRecords.keys)
    {calls : Tid → List DbCall} {schedule : List Tid}
    (run : Runs (LockProgram.step DbCall.reportingBody) Always (Config.start db.quiet calls)
      schedule c) : ∃ seen gap, Consistent c seen gap := by
  refine run.invariant (fun c => ∃ seen gap, Consistent c seen gap)
    ⟨_, _, consistent_start hkeys calls⟩ ?_
  rintro c t c' ⟨seen, gap, h⟩ - taken
  obtain ⟨seen', gap', h'⟩ := h.step taken
  exact ⟨_, _, h'⟩

/-- The runs of the ledger are those of the ledger with its lines: nothing is ever
written.

One direction forgets the lines; the other one puts them back, which needs that there are none. -/
theorem runs_reporting {db : DbManager} (hkeys : db.clientLocks = db.databaseRecords.keys)
    {calls : Tid → List DbCall} {schedule : List Tid}
    {c : Config DbManager Mutex Outcome DbCall Tid} :
    Runs (LockProgram.step DbCall.body) Always (Config.start db calls) schedule c ↔
      ∃ c', Runs (LockProgram.step DbCall.reportingBody) Always (Config.start db.quiet calls)
        schedule c' ∧ forgetConfig c' = c := by
  constructor
  · intro run
    induction run with
    | nil => exact ⟨_, .nil, rfl⟩
    | snoc run _ taken ih =>
        obtain ⟨c', run', rfl⟩ := ih
        obtain ⟨_, _, h⟩ := consistent_of_runs hkeys run'
        rw [step_forget h.quiet, Option.map_eq_some_iff] at taken
        obtain ⟨c'', taken', rfl⟩ := taken
        exact ⟨c'', .snoc run' trivial taken', rfl⟩
  · rintro ⟨c', run', rfl⟩
    induction run' with
    | nil => exact .nil
    | snoc run _ taken ih =>
        obtain ⟨_, _, h⟩ := consistent_of_runs hkeys run
        refine .snoc ih trivial ?_
        rw [step_forget h.quiet, taken, Option.map_some]

omit [DecidableEq Tid] in
/-- Threads give back the mutexes that they have taken. -/
theorem Consistent.tidy (h : Consistent c seen gap) : (forgetConfig c).Tidy where
  idle t hactive := (h.of_idle (Option.map_eq_none_iff.mp hactive)).1
  returned t call outcome hactive := by
    obtain ⟨⟨call', prog⟩, hactive', heq⟩ := Option.map_eq_some_iff.mp hactive
    cases prog with
    | ret outcome' => exact (h.of_active hactive').1.1
    | lock mutex next => cases heq
    | unlock mutex next => cases heq
    | access update next => cases heq
  mine t call mutex next hactive := by
    obtain ⟨⟨call', prog⟩, hactive', heq⟩ := Option.map_eq_some_iff.mp hactive
    cases prog with
    | ret outcome => cases heq
    | lock mutex next => cases heq
    | unlock mutex' next' =>
        cases heq
        exact (h.of_active hactive').1.1
    | access update next => cases heq

/-- So do the threads of the ledger. -/
theorem tidy_of_runs {db : DbManager} (hkeys : db.clientLocks = db.databaseRecords.keys)
    {calls : Tid → List DbCall} {schedule : List Tid}
    {c : Config DbManager Mutex Outcome DbCall Tid}
    (run : Runs (LockProgram.step DbCall.body) Always (Config.start db calls) schedule c) :
    c.Tidy := by
  obtain ⟨c', run', rfl⟩ := (runs_reporting hkeys).mp run
  obtain ⟨seen, gap, h⟩ := consistent_of_runs hkeys run'
  exact h.tidy

/-- **The two tables stay consistent.**  Any threads, each with any calls, interleaved in any
way: every client with a record has a mutex, a client with a mutex and without a record is
being registered or removed by a thread that holds its mutex or the database lock, and none
of the lines about something that has gone missing is ever written. -/
theorem tables_consistent {db : DbManager} (hkeys : db.clientLocks = db.databaseRecords.keys)
    {calls : Tid → List DbCall} {schedule : List Tid}
    (run : Runs (LockProgram.step DbCall.reportingBody) Always (Config.start db.quiet calls)
      schedule c) :
    c.mem.db.databaseRecords.keys ⊆ c.mem.db.clientLocks ∧
    (∀ ip, ¬ (ip ∈ c.mem.db.clientLocks ↔ ip ∈ c.mem.db.databaseRecords) →
      ∃ t call prog, (c.thread t).active = some (call, prog) ∧
        (call = .registerClient ip ∨ call = .removeClient ip) ∧
        (c.holder (.client ip) = some t ∨ c.holder .databaseAccess = some t)) ∧
    c.mem.reports = [] := by
  obtain ⟨seen, gap, h⟩ := consistent_of_runs hkeys run
  refine ⟨h.tables.recorded, fun ip hdiffer => ?_, h.quiet⟩
  have hregistered : ip ∈ c.mem.db.databaseRecords → ip ∈ c.mem.db.clientLocks :=
    fun hip => h.tables.recorded (Finmap.mem_keys.mpr hip)
  have hopened : ip ∈ c.mem.db.clientLocks ∧ ip ∉ c.mem.db.databaseRecords := by
    by_contra hnot
    rw [not_and, not_not] at hnot
    exact hdiffer ⟨hnot, hregistered⟩
  obtain ⟨t, hgap⟩ := h.tables.opened ip hopened.1 fun hmem => hopened.2 (Finmap.mem_keys.mp hmem)
  obtain ⟨-, -, hheld⟩ := h.tables.gap t ip hgap
  rcases hactive : (c.thread t).active with _ | ⟨call, prog⟩
  · exact absurd ((h.of_idle hactive).2.symm.trans hgap) nofun
  · obtain ⟨-, halters⟩ := h.of_active hactive
    exact ⟨t, call, prog, hactive, halters ip hgap, hheld.imp_right And.left⟩

end Runs

/-- Client 1 is removed while its registration is not quite over. -/
def overtakenCalls : Bool → List DbCall
  | false => [.registerClient 1]
  | true => [.removeClient 1]

/-- The remover has erased the record, and the other thread has the database lock. -/
def overtakenSchedule : List Bool :=
  List.replicate 9 false ++ List.replicate 7 true ++ [false]

/-- The tables differ, and the remover holds the mutex. -/
theorem overtaken_consistent : ∃ c,
    Runs (LockProgram.step DbCall.reportingBody) Always
      (Config.start DbManager.empty.quiet overtakenCalls) overtakenSchedule c ∧
    ¬ (1 ∈ c.mem.db.clientLocks ↔ 1 ∈ c.mem.db.databaseRecords) ∧
    c.mem.db.databaseRecords.keys ⊆ c.mem.db.clientLocks ∧
    (∃ t call prog, (c.thread t).active = some (call, prog) ∧
      (call = .registerClient 1 ∨ call = .removeClient 1) ∧
      (c.holder (.client 1) = some t ∨ c.holder .databaseAccess = some t)) ∧
    c.mem.reports = [] := by
  have hrun : (perform (LockProgram.step DbCall.reportingBody)
      (Config.start DbManager.empty.quiet overtakenCalls) overtakenSchedule).any (fun c =>
        decide (¬ (1 ∈ c.mem.db.clientLocks ↔ 1 ∈ c.mem.db.databaseRecords))) = true := by
    decide +kernel
  obtain ⟨c, run, hdiffer⟩ := exists_runs_of_any hrun
  have hdiffer := of_decide_eq_true hdiffer
  obtain ⟨hrecorded, hheld, hquiet⟩ := tables_consistent rfl run
  exact ⟨c, run, hdiffer, hrecorded, hheld 1 hdiffer, hquiet⟩

end Brix
