import Brix.Server.DbManager

/-!
# The ledger's error reports

The three operations once more, with the lines that they write to `std::cerr`.  Each
`[DATABASE ERROR]` belongs to a branch that its comment, or its text, says is never taken:
a client was not where the mutex of the client has just been found.

* `Reporting` — the ledger, and the lines written so far
* `reportingBody` — the code of a call, with its lines
* `forget_body` — without the lines it is the code of `DbManager`
* `step_forget` — and does the same, step by step

A line is written with the access that finds something missing.  The source gives its
mutexes back before it writes some of them, so here a line is never later than there.

### The design

The operations are written out a second time because the lines stand in the middle of them, and a
function that added lines to the code of `DbManager` would have to say where.  What keeps the two
in step is `forget_body`: with the lines left out the second version is the first, definitionally
up to the helpers.  So a result about lines is a result about the operations that all other
modules speak of.
-/

namespace Brix

open LockProgram Execution

/-- The ledger, and what has been written to `std::cerr`, latest first. -/
structure Reporting where
  db : DbManager
  reports : List String
  deriving DecidableEq

/-- A ledger about which nothing has been written. -/
def DbManager.quiet (db : DbManager) : Reporting := ⟨db, []⟩

/-- The code of an operation, with its lines. -/
abbrev ReportingCode := Prog Reporting Mutex Outcome

/-- `register_client`, when the record cannot be inserted. -/
def INSERTION_FAILED : String :=
  "[DATABASE ERROR]: Client insertion failed after mutex insertion succeded!"

/-- `make_transaction`, when a record is missing under its mutex. -/
def RETRIEVAL_FAILED : String :=
  "[DATABASE ERROR]: Client retrieval failed after mutex acquisition succeded!"

/-- `remove_client`, when the record is missing. -/
def SEARCH_FAILED : String :=
  "[DATABASE ERROR]: Client search failed after mutex acquisition succeded!"

/-- `remove_client`, when nothing has been erased. -/
def REMOVAL_FAILED : String :=
  "[DATABASE ERROR]: Client removal failed after mutex acquisition succeded!"

/-- The same for the mutex. -/
def LOCK_REMOVAL_FAILED : String :=
  "[DATABASE ERROR]: Client lock removal failed after mutex acquisition succeded!"

/-- `unlock_client`, when there is no mutex. -/
def UNLOCK_FAILED : String :=
  "[DATABASE ERROR]: Failed to unlock a client mutex after it has presumably been locked! " ++
    "The system is probably in a critical state!"

namespace Reporting

/-! ## Accesses -/

/-- Access the tables, and write a line about what is found there, or none. -/
def access (update : DbManager → DbManager) (mishap : DbManager → Option String)
    (next : DbManager → ReportingCode) : ReportingCode :=
  .access (fun w => ⟨update w.db, (mishap w.db).toList ++ w.reports⟩) fun w => next w.db

/-- Access the tables without a word. -/
def touch (update : DbManager → DbManager) (next : DbManager → ReportingCode) : ReportingCode :=
  access update (fun _ => none) next

def lockDatabase (next : ReportingCode) : ReportingCode := .lock .databaseAccess next

def unlockDatabase (next : ReportingCode) : ReportingCode := .unlock .databaseAccess next

def lockMetadata (next : ReportingCode) : ReportingCode := .lock .databaseMetadata next

def unlockMetadata (next : ReportingCode) : ReportingCode := .unlock .databaseMetadata next

/-- `lock_client`. -/
def lockClient (ip : InAddr) (onOutOfRange next : ReportingCode) : ReportingCode :=
  touch id fun db => if ip ∈ db.clientLocks then .lock (.client ip) next else onOutOfRange

/-- `unlock_client`. -/
def unlockClient (ip : InAddr) (next : ReportingCode) : ReportingCode :=
  access id (fun db => if ip ∈ db.clientLocks then none else some UNLOCK_FAILED) fun db =>
    if ip ∈ db.clientLocks then .unlock (.client ip) next else next

/-- `database_records.at(ip)`, with the line of the handler, if it has one. -/
def recordAt (ip : InAddr) (message : Option String) (onOutOfRange : ReportingCode)
    (next : ClientRecord → ReportingCode) : ReportingCode :=
  access id (fun db => if ip ∈ db.databaseRecords then none else message) fun db =>
    match db.databaseRecords.lookup ip with
    | some record => next record
    | none => onOutOfRange

/-- Read through a pointer to the entry of `ip`. -/
def deref (ip : InAddr) (next : ClientRecord → ReportingCode) : ReportingCode :=
  recordAt ip none (.ret .dangling) next

/-- Write through a pointer to the entry of `ip`. -/
def assign (ip : InAddr) (f : ClientRecord → ClientRecord) (next : ReportingCode) :
    ReportingCode :=
  touch (·.modify ip f) fun db => if ip ∈ db.databaseRecords then next else .ret .dangling

/-- Return a response. -/
def respond (success : Bool) (record : ClientRecord) (statusCode : Description) :
    ReportingCode :=
  .ret (.returned ⟨success, record, statusCode⟩)

/-! ## The operations -/

/-- `register_client`. -/
def registerClient (clientIp : InAddr) : ReportingCode :=
  lockDatabase <|
  touch (fun db => { db with clientLocks := insert clientIp db.clientLocks }) fun before =>
  lockClient clientIp (.ret .outOfRange) <|
  unlockDatabase <|
  if clientIp ∈ before.clientLocks then
    unlockClient clientIp <|
    respond false .empty .duplicateIp
  else
    access (fun db =>
      if clientIp ∈ db.databaseRecords then db
      else db.setRecords (db.databaseRecords.insert clientIp
        ⟨clientIp, STARTING_BALANCE, STARTING_REQUEST⟩))
      (fun db => if clientIp ∈ db.databaseRecords then some INSERTION_FAILED else none) fun db =>
    if clientIp ∈ db.databaseRecords then
      unlockClient clientIp <|
      respond false .empty .duplicateIp
    else
      unlockClient clientIp <|
      lockDatabase <|
      touch (fun db => { db with
        totalBalance := db.totalBalance + STARTING_BALANCE.toUInt32.toInt32 }) fun _ =>
      unlockDatabase <|
      deref clientIp fun record =>
      respond true record .success

/-- `make_transaction`. -/
def makeTransaction (senderIp receiverIp : InAddr) (transferAmount : UInt64) : ReportingCode :=
  lockDatabase <|
  lockClient senderIp (unlockDatabase <| respond false .empty .unknownSender) <|
  if transferAmount = 0 then
    unlockClient senderIp <|
    unlockDatabase <|
    recordAt senderIp none (.ret .outOfRange) fun record =>
    respond true record .balanceCheck
  else if senderIp = receiverIp then
    unlockClient senderIp <|
    unlockDatabase <|
    recordAt senderIp none (.ret .outOfRange) fun record =>
    respond false record .duplicateIp
  else
    lockClient receiverIp
      (access id (fun db =>
          if (db.getClientInfo senderIp).success then none else some RETRIEVAL_FAILED) fun db =>
        unlockClient senderIp <|
        unlockDatabase <|
        respond false (db.getClientInfo senderIp).record .unknownReceiver) <|
    unlockDatabase <|
    recordAt senderIp (some RETRIEVAL_FAILED)
      (unlockClient senderIp <|
       unlockClient receiverIp <|
       respond false .empty .unknownSender) fun _ =>
    recordAt receiverIp (some RETRIEVAL_FAILED)
      (unlockClient senderIp <|
       unlockClient receiverIp <|
       deref senderIp fun sender =>
       respond false sender .unknownReceiver) fun _ =>
    assign senderIp ClientRecord.count <|
    deref senderIp fun sender =>
    if sender.balance < transferAmount then
      unlockClient senderIp <|
      unlockClient receiverIp <|
      deref senderIp fun sender =>
      respond false sender .insufficientBalance
    else
      assign senderIp (ClientRecord.debit transferAmount) <|
      assign receiverIp (ClientRecord.credit transferAmount) <|
      unlockClient senderIp <|
      unlockClient receiverIp <|
      lockMetadata <|
      touch (fun db => { db with
        totalTransferred := db.totalTransferred + transferAmount.toUInt32 }) fun _ =>
      touch (fun db => { db with numTransactions := db.numTransactions + 1 }) fun _ =>
      unlockMetadata <|
      deref senderIp fun sender =>
      respond true sender .success

/-- `remove_client`. -/
def removeClient (clientIp : InAddr) : ReportingCode :=
  lockDatabase <|
  lockClient clientIp (unlockDatabase <| respond false .empty .notFound) <|
  unlockDatabase <|
  recordAt clientIp (some SEARCH_FAILED)
    (unlockClient clientIp <| respond false .empty .notFound) fun clientCopy =>
  access (fun db => db.setRecords (db.databaseRecords.erase clientIp))
    (fun db => if clientIp ∉ db.databaseRecords then some REMOVAL_FAILED else none) fun db =>
  if clientIp ∉ db.databaseRecords then
    unlockClient clientIp <|
    respond false .empty .notFound
  else
    lockDatabase <|
    unlockClient clientIp <|
    touch id fun db =>
    if clientIp ∉ db.clientLocks then .ret .outOfRange else
    access (fun db => { db with clientLocks := db.clientLocks.erase clientIp })
      (fun db => if clientIp ∉ db.clientLocks then some LOCK_REMOVAL_FAILED else none) fun db =>
    unlockDatabase <|
    if clientIp ∉ db.clientLocks then
      respond false .empty .notFound
    else
      lockDatabase <|
      touch (fun db => { db with
        totalBalance := db.totalBalance - clientCopy.balance.toUInt32.toInt32 }) fun _ =>
      unlockDatabase <|
      respond true clientCopy .success

end Reporting

/-- The code a call runs, with its lines. -/
def DbCall.reportingBody : DbCall → ReportingCode
  | .registerClient clientIp => Reporting.registerClient clientIp
  | .makeTransaction senderIp receiverIp transferAmount =>
      Reporting.makeTransaction senderIp receiverIp transferAmount
  | .removeClient clientIp => Reporting.removeClient clientIp

/-! ## Without the lines -/

/-- The code, with nothing written and as if nothing had been. -/
def forget : ReportingCode → Code
  | .ret outcome => .ret outcome
  | .lock mutex next => .lock mutex (forget next)
  | .unlock mutex next => .unlock mutex (forget next)
  | .access update next => .access (fun db => (update db.quiet).db) fun db => forget (next db.quiet)

section Forget

variable {ip : InAddr} {onOutOfRange next : ReportingCode}

/-- A return has no line. -/
@[simp] theorem forget_ret (outcome : Outcome) : forget (.ret outcome) = .ret outcome := rfl

@[simp] theorem forget_lock (mutex : Mutex) :
    forget (.lock mutex next) = .lock mutex (forget next) := rfl

@[simp] theorem forget_unlock (mutex : Mutex) :
    forget (.unlock mutex next) = .unlock mutex (forget next) := rfl

/-- An access loses its line. -/
@[simp] theorem forget_access (update : DbManager → DbManager)
    (mishap : DbManager → Option String) (next : DbManager → ReportingCode) :
    forget (Reporting.access update mishap next) = .access update fun db => forget (next db) := rfl

@[simp] theorem forget_touch (update : DbManager → DbManager)
    (next : DbManager → ReportingCode) :
    forget (Reporting.touch update next) = .access update fun db => forget (next db) := rfl

@[simp] theorem forget_ite {p : Prop} [Decidable p] {prog prog' : ReportingCode} :
    forget (if p then prog else prog') = if p then forget prog else forget prog' :=
  apply_ite forget p prog prog'

/-- The helpers are those of `DbManager`, one by one. -/
@[simp] theorem forget_lockClient :
    forget (Reporting.lockClient ip onOutOfRange next)
      = DbManager.lockClient ip (forget onOutOfRange) (forget next) := by
  simp only [Reporting.lockClient, DbManager.lockClient, forget_touch, forget_ite, forget_lock]

@[simp] theorem forget_unlockClient :
    forget (Reporting.unlockClient ip next) = DbManager.unlockClient ip (forget next) := by
  simp only [Reporting.unlockClient, DbManager.unlockClient, forget_access, forget_ite,
    forget_unlock]

@[simp] theorem forget_recordAt (message : Option String) (next : ClientRecord → ReportingCode) :
    forget (Reporting.recordAt ip message onOutOfRange next)
      = DbManager.recordAt ip (forget onOutOfRange) fun record => forget (next record) := by
  unfold Reporting.recordAt DbManager.recordAt
  rw [forget_access]
  congr
  funext db
  cases db.databaseRecords.lookup ip <;> rfl

@[simp] theorem forget_deref (next : ClientRecord → ReportingCode) :
    forget (Reporting.deref ip next) = DbManager.deref ip fun record => forget (next record) :=
  forget_recordAt none next

@[simp] theorem forget_assign (f : ClientRecord → ClientRecord) :
    forget (Reporting.assign ip f next) = DbManager.assign ip f (forget next) := by
  simp only [Reporting.assign, DbManager.assign, forget_touch, forget_ite, forget_ret]

end Forget

/-- **Without its lines a call runs the code of the ledger.** -/
theorem forget_body (call : DbCall) : forget call.reportingBody = call.body := by
  cases call with
  | registerClient clientIp =>
      simp only [DbCall.reportingBody, DbCall.body, Reporting.registerClient,
        DbManager.registerClient, Reporting.lockDatabase, Reporting.unlockDatabase,
        DbManager.lockDatabase, DbManager.unlockDatabase, Reporting.respond, DbManager.respond,
        forget_lock, forget_unlock, forget_touch, forget_access, forget_lockClient,
        forget_unlockClient, forget_ite, forget_deref, forget_ret]
  | makeTransaction senderIp receiverIp transferAmount =>
      simp only [DbCall.reportingBody, DbCall.body, Reporting.makeTransaction,
        DbManager.makeTransaction, Reporting.lockDatabase, Reporting.unlockDatabase,
        DbManager.lockDatabase, DbManager.unlockDatabase, Reporting.lockMetadata,
        Reporting.unlockMetadata, DbManager.lockMetadata, DbManager.unlockMetadata,
        Reporting.respond, DbManager.respond, forget_lock, forget_unlock, forget_touch,
        forget_access, forget_lockClient, forget_unlockClient, forget_ite, forget_recordAt,
        forget_deref, forget_assign, forget_ret]
  | removeClient clientIp =>
      simp only [DbCall.reportingBody, DbCall.body, Reporting.removeClient,
        DbManager.removeClient, Reporting.lockDatabase, Reporting.unlockDatabase,
        DbManager.lockDatabase, DbManager.unlockDatabase, Reporting.respond, DbManager.respond,
        forget_lock, forget_unlock, forget_touch, forget_access, forget_lockClient,
        forget_unlockClient, forget_ite, forget_recordAt, forget_ret]

/-! ## Runs -/

section Runs

variable {Tid : Type}

/-- A thread of the ledger, from one that writes. -/
def forgetThread (th : Thread Reporting Mutex Outcome DbCall) :
    Thread DbManager Mutex Outcome DbCall where
  active := th.active.map fun running => (running.1, forget running.2)
  pending := th.pending
  finished := th.finished

/-- Threads of the ledger, from threads that write. -/
def forgetConfig (c : Config Reporting Mutex Outcome DbCall Tid) :
    Config DbManager Mutex Outcome DbCall Tid where
  mem := c.mem.db
  holder := c.holder
  thread t := forgetThread (c.thread t)

variable [DecidableEq Tid] {c : Config Reporting Mutex Outcome DbCall Tid} {t : Tid}

/-- To move on and to forget the lines may be done in either order. -/
theorem forgetConfig_setThread (th : Thread Reporting Mutex Outcome DbCall) :
    forgetConfig (c.setThread t th) = (forgetConfig c).setThread t (forgetThread th) := by
  refine congrArg (Config.mk c.mem.db c.holder) (funext fun u => ?_)
  show forgetThread (Function.update c.thread t th u)
    = Function.update (fun u => forgetThread (c.thread u)) t (forgetThread th) u
  by_cases hut : u = t
  · rw [hut, Function.update_self, Function.update_self]
  · rw [Function.update_of_ne hut, Function.update_of_ne hut]

/-- **As long as nothing has been written, the steps are those of the ledger.** -/
theorem step_forget (hquiet : c.mem.reports = []) :
    LockProgram.step DbCall.body (forgetConfig c) t
      = (LockProgram.step DbCall.reportingBody c t).map forgetConfig := by
  have hmem : c.mem.db.quiet = c.mem := by
    rw [DbManager.quiet, ← hquiet]
  have hthread : (forgetConfig c).thread t = forgetThread (c.thread t) := rfl
  unfold LockProgram.step
  rw [hthread]
  rcases hactive : (c.thread t).active with _ | ⟨call, prog⟩
  · rcases hpending : (c.thread t).pending with _ | ⟨call, rest⟩
    · simp only [forgetThread, hactive, hpending, Option.map_none]
    · simp only [forgetThread, hactive, hpending, Option.map_none, Option.map_some,
        forgetConfig_setThread, Thread.begin, forget_body]
  · cases prog with
    | ret outcome =>
        simp only [forgetThread, hactive, Option.map_some, forget, forgetConfig_setThread,
          Thread.done, Option.map_none]
    | lock mutex next =>
        simp only [forgetThread, hactive, Option.map_some, forget]
        show (if c.holder mutex = none then _ else none) = _
        split
        · rw [Option.map_some, forgetConfig_setThread]
          rfl
        · rfl
    | unlock mutex next =>
        simp only [forgetThread, hactive, Option.map_some, forget, forgetConfig_setThread]
        rfl
    | access update next =>
        simp only [forgetThread, hactive, Option.map_some, forget, forgetConfig_setThread]
        show some (Config.setThread (Config.setMem (forgetConfig c) (update c.mem.db.quiet).db) t
          ⟨some (call, forget (next c.mem.db.quiet)), _, _⟩) = _
        rw [hmem]
        rfl

end Runs

end Brix
