import Brix.Foundation.TwoPhase
import Brix.Server.Ledger

/-!
# Transfers at the same time

`make_transaction` on any number of threads.  A transfer takes the database lock, under it
the mutexes of its two clients, gives the database lock back and only then looks at the
records; the totals it changes in the end, with the metadata lock alone in hand.  So it
keeps to the two phases of `LockProgram.TwoPhase` with the database lock as the gate.

* `clientProtection` — a client's mutex protects its record; the totals are protected by
  the fact that additions commute
* `gated_makeTransaction` — the code keeps to it, for the status code as the verdict
* `transfers_serialisable` — transfers at the same time, and the same one at a time

The record in an answer is not part of the verdict.  It is read after the last mutex has
been given back, and may show what a later transfer has done already.

### What is load-bearing

The order is that of the database lock, and the reason is in `gated_makeTransaction`: both mutexes
are taken while the database lock is held, so of two transfers with a client in common the one
that comes first through the gate has the client first.  What is changed without any client's
mutex is the totals, and a transfer adds to them without looking.  `clientProtection` puts these
two together as the condition that updates under different mutexes commute; everything else is the
general theorem.

The hypothesis of that theorem is the fixed set of clients: with registrations and removals going
on, what a transfer finds under the database lock would not be what it finds later.  Those are
treated with another argument in `Brix.Server.Linearizability`.
-/

namespace Brix

open LockProgram Execution DbManager

/-- The status code of an answer, if there is one. -/
def Outcome.statusCode : Outcome → Option Description
  | .returned response => some response.statusCode
  | .outOfRange => none
  | .dangling => none

/-! ## What the mutexes protect -/

/-- The updates of a transfer, under the mutexes that it holds. -/
inductive Touches (held : Set Mutex) : (DbManager → DbManager) → Prop
  | look : Touches held id
  | assign (ip : InAddr) (f : ClientRecord → ClientRecord) (hmine : .client ip ∈ held) :
      Touches held fun db => db.modify ip f
  | transferred (amount : UInt32) :
      Touches held fun db => { db with totalTransferred := db.totalTransferred + amount }
  | counted : Touches held fun db => { db with numTransactions := db.numTransactions + 1 }

section Modify

variable {db : DbManager} {ip ip' : InAddr} {f f' : ClientRecord → ClientRecord}

/-- Changes of different records commute. -/
theorem modify_comm (h : ip ≠ ip') :
    (db.modify ip' f').modify ip f = (db.modify ip f).modify ip' f' := by
  have hlookup := @lookup_modify_of_ne db ip ip' f' h
  have hlookup' := @lookup_modify_of_ne db ip' ip f h.symm
  cases hrecord : db.databaseRecords.lookup ip with
  | none => rw [modify_of_notMem f (hlookup.trans hrecord), modify_of_notMem f hrecord]
  | some record =>
      cases hrecord' : db.databaseRecords.lookup ip' with
      | none => rw [modify_of_notMem f' hrecord', modify_of_notMem f' (hlookup'.trans hrecord')]
      | some record' =>
          rw [modify_of_mem f (hlookup.trans hrecord), modify_of_mem f' hrecord',
            modify_of_mem f' (hlookup'.trans hrecord'), modify_of_mem f hrecord]
          exact congrArg db.setRecords (Finmap.insert_insert_of_ne _ h.symm)

/-- A change of a record and one of the totals commute. -/
theorem modify_transferred (amount : UInt32) :
    DbManager.modify { db with totalTransferred := db.totalTransferred + amount } ip f
      = { db.modify ip f with
          totalTransferred := (db.modify ip f).totalTransferred + amount } := by
  unfold DbManager.modify
  dsimp only
  cases db.databaseRecords.lookup ip <;> rfl

/-- The same for the number of transactions. -/
theorem modify_counted :
    DbManager.modify { db with numTransactions := db.numTransactions + 1 } ip f
      = { db.modify ip f with numTransactions := (db.modify ip f).numTransactions + 1 } := by
  unfold DbManager.modify
  dsimp only
  cases db.databaseRecords.lookup ip <;> rfl

end Modify

/-- Clients' records are protected by the clients' mutexes, which are taken under the
database lock. -/
def clientProtection (clients : Finset InAddr) : Protection DbManager Mutex where
  gate := .databaseAccess
  guarded mutex := ∃ ip, mutex = .client ip
  valid db := db.clientLocks = clients ∧ db.databaseRecords.keys = clients
  touches := Touches
  valid_update := by
    rintro held update db htouches ⟨hlocks, hkeys⟩
    cases htouches with
    | look => exact ⟨hlocks, hkeys⟩
    | assign ip f hmine =>
        exact ⟨(modify_clientLocks ..).trans hlocks, (modify_keys ..).trans hkeys⟩
    | transferred amount => exact ⟨hlocks, hkeys⟩
    | counted => exact ⟨hlocks, hkeys⟩
  commute := by
    intro held held' update update' db hapart htouches htouches' _
    cases htouches with
    | look => rfl
    | assign ip f hmine =>
        cases htouches' with
        | look => rfl
        | assign ip' f' hmine' =>
            refine modify_comm ?_
            rintro rfl
            exact hapart _ ⟨ip, rfl⟩ hmine hmine'
        | transferred amount => exact modify_transferred amount
        | counted => exact modify_counted
    | transferred amount =>
        cases htouches' with
        | look => rfl
        | assign ip' f' hmine' => exact (modify_transferred amount).symm
        | transferred amount' =>
            show { db with totalTransferred := db.totalTransferred + amount' + amount }
              = { db with totalTransferred := db.totalTransferred + amount + amount' }
            rw [UInt32.add_assoc, UInt32.add_comm amount', UInt32.add_assoc]
        | counted => rfl
    | counted =>
        cases htouches' with
        | look => rfl
        | assign ip' f' hmine' => exact modify_counted.symm
        | transferred amount => rfl
        | counted => rfl

/-! ## The code keeps to the two phases -/

section Code

variable {clients : Finset InAddr} {held : Set Mutex} {ip : InAddr} {next onOutOfRange : Code}

/-- Code that keeps to the two phases where `clients` are registered. -/
abbrev Keeps (clients : Finset InAddr) (prog : Code) (held : Set Mutex) : Prop :=
  TwoPhase Outcome.statusCode (clientProtection clients) prog held

/-- Nobody else touches the record of a client whose mutex is held. -/
theorem lookup_of_touches {update : DbManager → DbManager} (h : Touches held update)
    (hfree : .client ip ∉ held) (db : DbManager) :
    (update db).databaseRecords.lookup ip = db.databaseRecords.lookup ip := by
  cases h with
  | look => rfl
  | assign ip' f hmine =>
      refine lookup_modify_of_ne f ?_
      rintro rfl
      exact hfree hmine
  | transferred amount => rfl
  | counted => rfl

/-- A step after which the same code follows, whatever is read. -/
theorem keeps_access {update : DbManager → DbManager} {next : DbManager → Code} {prog : Code}
    (htouches : Touches held update)
    (hnext : ∀ db, (clientProtection clients).valid db → next db = prog)
    (h : Keeps clients prog held) : Keeps clients (.access update next) held := by
  refine ⟨htouches, fun held' update' _ htouches' db hvalid db' _ => ?_, fun db hvalid => ?_⟩
  · rw [hnext db hvalid, hnext _ ((clientProtection clients).valid_update htouches' hvalid)]
  · rw [hnext db hvalid]
    exact h

/-- A client's mutex is taken under the database lock. -/
theorem keeps_lockClient (hgate : .databaseAccess ∈ held)
    (hlocked : ip ∈ clients → Keeps clients next (insert (.client ip) held))
    (hmissing : ip ∉ clients → Keeps clients onOutOfRange held) :
    Keeps clients (lockClient ip onOutOfRange next) held := by
  by_cases hip : ip ∈ clients
  · have hlock : Keeps clients (.lock (.client ip) next) held :=
      ⟨nofun, fun _ => hgate, hlocked hip⟩
    refine keeps_access .look (fun db hvalid => ?_) hlock
    rw [hvalid.1, if_pos hip]
  · refine keeps_access .look (fun db hvalid => ?_) (hmissing hip)
    rw [hvalid.1, if_neg hip]

/-- To give a mutex back is to begin with the second phase. -/
theorem keeps_unlockClient (hip : ip ∈ clients) (hmine : .client ip ∈ held)
    (h : Keeps clients next (held \ {.client ip})) :
    Keeps clients (unlockClient ip next) held := by
  have hunlock : Keeps clients (.unlock (.client ip) next) held := ⟨hmine, h⟩
  refine keeps_access .look (fun db hvalid => ?_) hunlock
  rw [hvalid.1, if_pos hip]

/-- An assignment needs the client's mutex. -/
theorem keeps_assign {f : ClientRecord → ClientRecord} (hip : ip ∈ clients)
    (hmine : .client ip ∈ held) (h : Keeps clients next held) :
    Keeps clients (assign ip f next) held := by
  refine keeps_access (.assign ip f hmine) (fun db hvalid => ?_) h
  rw [if_pos (Finmap.mem_keys.mp (hvalid.2 ▸ hip))]

/-- A record is read under its client's mutex, or its content makes no difference to the
status code. -/
theorem keeps_recordAt {next : ClientRecord → Code} (hip : ip ∈ clients)
    (hread : .client ip ∈ held ∨ ∀ record record',
      (next record).outcome Outcome.statusCode = (next record').outcome Outcome.statusCode)
    (h : ∀ record, Keeps clients (next record) held) :
    Keeps clients (recordAt ip onOutOfRange next) held := by
  have hrecord : ∀ db, (clientProtection clients).valid db →
      ∃ record, db.databaseRecords.lookup ip = some record :=
    fun db hvalid => Finmap.mem_iff.mp (Finmap.mem_keys.mp (hvalid.2 ▸ hip))
  refine ⟨.look, fun held' update hapart htouches db hvalid db' _ => ?_, fun db hvalid => ?_⟩
  · obtain ⟨record, hlookup⟩ := hrecord db hvalid
    obtain ⟨record', hlookup'⟩ :=
      hrecord _ ((clientProtection clients).valid_update htouches hvalid)
    simp only [hlookup, hlookup']
    rcases hread with hmine | hsame
    · have hkept := lookup_of_touches htouches (hapart _ ⟨ip, rfl⟩ hmine) db
      rw [hlookup, hlookup', Option.some.injEq] at hkept
      rw [hkept]
    · rw [hsame record record']
  · obtain ⟨record, hlookup⟩ := hrecord db hvalid
    simp only [hlookup]
    exact h record

/-- An answer touches nothing. -/
theorem keeps_respond {success : Bool} {record : ClientRecord} {code : Description} :
    Keeps clients (respond success record code) held := trivial

/-- By itself a call is not held up by a mutex that it gives back. -/
theorem finish_unlockClient (ip : InAddr) (next : Code) (db : DbManager) :
    (unlockClient ip next).finish db = next.finish db := by
  show (if ip ∈ db.clientLocks then Prog.unlock (.client ip) next else next).finish db = _
  split <;> rfl

/-- **A transfer keeps to the two phases.** -/
theorem gated_makeTransaction (clients : Finset InAddr) (senderIp receiverIp : InAddr)
    (transferAmount : UInt64) :
    Gated Outcome.statusCode (clientProtection clients) DbCall.body
      (.makeTransaction senderIp receiverIp transferAmount) := by
  refine ⟨_, rfl, keeps_lockClient rfl (fun hsender => ?_) fun _ => ⟨rfl, keeps_respond⟩⟩
  split
  · -- a balance check
    refine keeps_unlockClient hsender (by simp) ⟨by simp [clientProtection], ?_⟩
    exact keeps_recordAt hsender (Or.inr fun _ _ => rfl) fun _ => keeps_respond
  split
  · refine keeps_unlockClient hsender (by simp) ⟨by simp [clientProtection], ?_⟩
    exact keeps_recordAt hsender (Or.inr fun _ _ => rfl) fun _ => keeps_respond
  rename_i hzero hself
  refine keeps_lockClient (by simp [clientProtection]) (fun hreceiver => ?_) fun _ => ?_
  · refine ⟨by simp [clientProtection], ?_⟩
    refine keeps_recordAt hsender (Or.inl (by simp)) fun _ => ?_
    refine keeps_recordAt hreceiver (Or.inl (by simp)) fun _ => ?_
    refine keeps_assign hsender (by simp) ?_
    refine keeps_recordAt hsender (Or.inl (by simp)) fun sender => ?_
    split
    · -- not covered
      refine keeps_unlockClient hsender (by simp) ?_
      refine keeps_unlockClient hreceiver (by simp [Ne.symm hself]) ?_
      exact keeps_recordAt hsender (Or.inr fun _ _ => rfl) fun _ => keeps_respond
    · refine keeps_assign hsender (by simp) ?_
      refine keeps_assign hreceiver (by simp) ?_
      refine keeps_unlockClient hsender (by simp) ?_
      refine keeps_unlockClient hreceiver (by simp [Ne.symm hself]) ?_
      -- the totals
      refine ⟨nofun, nofun, ?_⟩
      refine keeps_access (.transferred transferAmount.toUInt32) (fun _ _ => rfl) ?_
      refine keeps_access .counted (fun _ _ => rfl) ⟨Or.inl rfl, ?_⟩
      exact keeps_recordAt hsender (Or.inr fun _ _ => rfl) fun _ => keeps_respond
  · -- the receiver is not registered; what is read goes into the answer only
    refine ⟨.look, fun _ _ _ _ db _ db' _ => ?_, fun db _ => ?_⟩
    · unfold Prog.outcome
      rw [finish_unlockClient, finish_unlockClient]
      rfl
    · exact keeps_unlockClient hsender (by simp) ⟨by simp [clientProtection], keeps_respond⟩

end Code

/-! ## Transfers -/

/-- A call of `make_transaction`. -/
structure Transfer where
  senderIp : InAddr
  receiverIp : InAddr
  transferAmount : UInt64

/-- The call. -/
def Transfer.call (transfer : Transfer) : DbCall :=
  .makeTransaction transfer.senderIp transfer.receiverIp transfer.transferAmount

/-- The bank when every thread is about to make its one transfer. -/
def transfersStart {Tid : Type} (ledger : Ledger) (transfers : Tid → Transfer) :
    Config DbManager Mutex Outcome DbCall Tid :=
  .start ledger.toDbManager fun t => [(transfers t).call]

/-- Calls that run by themselves, run to their ends one after the other. -/
theorem finishAll_callAll (ledger : Ledger) (calls : List DbCall) :
    ∃ log final, ledger.toDbManager.callAll calls = some (log, final) ∧
      finishAll Outcome.statusCode (calls.map DbCall.body) ledger.toDbManager
        = (log.map fun entry => entry.2.statusCode, final) := by
  induction calls generalizing ledger with
  | nil => exact ⟨[], ledger.toDbManager, rfl, rfl⟩
  | cons call rest ih =>
      have halone := ledger.alone_toDbManager call
      obtain ⟨log, final, hrest, hfinish⟩ := ih (ledger.apply call).2
      refine ⟨(call, .returned (ledger.apply call).1) :: log, final, ?_, ?_⟩
      · rw [DbManager.callAll, halone, Option.bind_some]
        simp only [hrest, Option.map_some]
      · have hsolo : call.body.finish ledger.toDbManager
            = (.returned (ledger.apply call).1, (ledger.apply call).2.toDbManager) := by
          unfold DbCall.alone at halone
          split at halone
          · rename_i outcome db' held hsolo
            split at halone
            · cases halone
              exact Prog.finish_of_solo hsolo
            · cases halone
          · cases halone
        rw [List.map_cons, finishAll, Prog.outcome, hsolo, hfinish]
        rfl

/-- **Transfers are serialisable.**  Any threads, each with one transfer of any amount
between any clients, registered or not, interleaved in any way until all of them are done:
the tables and totals, and the status code of every transfer, are those of the transfers
made one at a time in the order in which the threads have taken the database lock. -/
theorem transfers_serialisable {Tid : Type} [DecidableEq Tid] {ledger : Ledger}
    {transfers : Tid → Transfer} {schedule : List Tid}
    {c : Config DbManager Mutex Outcome DbCall Tid}
    (run : Runs (LockProgram.step DbCall.body) Always (transfersStart ledger transfers) schedule c)
    (hcomplete : ∀ t, ¬ Unfinished c t) {order : List Tid}
    (horder : order = gateOrder DbCall.body .databaseAccess (transfersStart ledger transfers)
      schedule) :
    (order.Nodup ∧ ∀ t, t ∈ order) ∧
    ∃ (outcomes : Tid → Outcome) (log : List (DbCall × Outcome)),
      (∀ t, (c.thread t).finished = [((transfers t).call, outcomes t)]) ∧
      ledger.toDbManager.callAll (order.map fun t => (transfers t).call) = some (log, c.mem) ∧
      log.map (fun entry => entry.2.statusCode) = order.map fun t => (outcomes t).statusCode := by
  obtain ⟨hpermutation, outcomes, hfinished, hsame⟩ := serialisable
    (fun t => gated_makeTransaction ledger.records.keys (transfers t).senderIp
      (transfers t).receiverIp (transfers t).transferAmount)
    ⟨rfl, rfl⟩ run hcomplete horder
  obtain ⟨log, final, hcalls, hfinish⟩ :=
    finishAll_callAll ledger (order.map fun t => (transfers t).call)
  rw [List.map_map] at hfinish
  obtain ⟨hverdicts, hmem⟩ := Prod.mk.inj (hfinish.symm.trans hsame)
  exact ⟨hpermutation, outcomes, log, hfinished, hmem ▸ hcalls, hverdicts⟩

/-- Two clients that have just been registered. -/
def twoAccounts : Ledger := ((Ledger.empty.register 1).2.register 2).2

/-- Client 1 sends 40 to client 2, and client 2 sends 30 to client 1. -/
def crossingTransfers : Bool → Transfer
  | false => ⟨1, 2, 40⟩
  | true => ⟨2, 1, 30⟩

/-- The second thread has the database lock while the first one moves its money, and the
two change the totals at the same time. -/
def crossingSchedule : List Bool :=
  List.replicate 7 false ++ List.replicate 3 true ++ List.replicate 10 false ++
    (List.replicate 6 [true, false]).flatten ++ List.replicate 14 true

/-- They do what the first and then the second would do alone. -/
theorem crossingTransfers_serialisable : ∃ c,
    Runs (LockProgram.step DbCall.body) Always (transfersStart twoAccounts crossingTransfers)
      crossingSchedule c ∧
    ∃ (outcomes : Bool → Outcome) (log : List (DbCall × Outcome)),
      (∀ t, (c.thread t).finished = [((crossingTransfers t).call, outcomes t)]) ∧
      twoAccounts.toDbManager.callAll [.makeTransaction 1 2 40, .makeTransaction 2 1 30]
        = some (log, c.mem) ∧
      log.map (fun entry => entry.2.statusCode)
        = [(outcomes false).statusCode, (outcomes true).statusCode] := by
  have hrun : (perform (LockProgram.step DbCall.body)
      (transfersStart twoAccounts crossingTransfers) crossingSchedule).any (fun c =>
        (c.thread false).active.isNone && (c.thread false).pending.isEmpty &&
          (c.thread true).active.isNone && (c.thread true).pending.isEmpty) = true := by
    decide +kernel
  have horder : [false, true] = gateOrder DbCall.body .databaseAccess
      (transfersStart twoAccounts crossingTransfers) crossingSchedule := by
    decide +kernel
  obtain ⟨c, run, hdone⟩ := exists_runs_of_any hrun
  simp only [Bool.and_eq_true, Option.isNone_iff_eq_none, List.isEmpty_iff] at hdone
  obtain ⟨⟨⟨hactive, hpending⟩, hactive'⟩, hpending'⟩ := hdone
  have hcomplete : ∀ t, ¬ Unfinished c t := by
    intro t
    cases t <;> simp [Unfinished, hactive, hpending, hactive', hpending']
  obtain ⟨-, outcomes, log, hfinished, hcalls, hverdicts⟩ :=
    transfers_serialisable run hcomplete horder
  exact ⟨c, run, outcomes, log, hfinished, hcalls, hverdicts⟩

end Brix
