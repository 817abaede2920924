import Brix.Common.SocketUtils
import Brix.Foundation.FiniteMap
import Brix.Foundation.LockProgram

/-!
# The ledger

`db_manager.h` and the three operations of `db_manager.cpp` that take locks.  An
operation is a program over the ledger's tables and mutexes
(`LockProgram.Prog`): one node for each lock, each unlock, and each access to the
shared tables that the code makes on its own.  Both the one-at-a-time reading and
the concurrent one are read off these three programs.

Representation.

* The two `unordered_map`s are finite maps; nothing here depends on their
  iteration order.  Of `client_locks` only the key set is kept: the mutex stored
  under an ip is named by that ip.  No name outlives its mutex: an entry is erased
  by `remove_client` only, under the database lock and after unlocking it, and
  every other thread that waits for or acquires a client's mutex holds the
  database lock while it does.
* `at` throws `std::out_of_range` where the key is missing.  Where the source
  catches it, the handler is the branch taken; where it does not, the call's
  outcome is `outOfRange`.
* A `client_record *` (and the iterator `register_client` dereferences) names the
  entry of its ip; following it after the entry was erased is the outcome
  `dangling`.

### The design

An operation is a program over a language of four instructions: take a mutex, give one back,
access the tables, and return.  What is one access here is what the source does to the tables
between two operations on mutexes, and where an access is not protected by any of them it is split
further, one access for each look at a table.  So every interleaving that the source allows for at
this grain is an interleaving of the programs.

The `Outcome` has two cases besides a return.  `at()` throws when its key is missing and nothing
in these operations catches what it throws; and a reference to a record that has been erased may
be followed, which is undefined in the source and ends the program here (`dangling`).  Whether
either can happen is for the results to say, and is not built into the model.
-/

namespace Brix

open LockProgram

/-- What a client has when it is registered, -/
def STARTING_BALANCE : UInt64 := 100000

/-- and the number of its last request. -/
def STARTING_REQUEST : UInt32 := 0

/-- `client_record`. -/
structure ClientRecord where
  ip : InAddr
  balance : UInt64
  lastRequest : UInt32
  deriving DecidableEq, Repr

/-- The value-initialised record `{}`. -/
def ClientRecord.empty : ClientRecord := ⟨0, 0, 0⟩

/-- `last_request++`. -/
def ClientRecord.count (record : ClientRecord) : ClientRecord :=
  { record with lastRequest := record.lastRequest + 1 }

/-- `balance -= amount`. -/
def ClientRecord.debit (amount : UInt64) (record : ClientRecord) : ClientRecord :=
  { record with balance := record.balance - amount }

/-- `balance += amount`. -/
def ClientRecord.credit (amount : UInt64) (record : ClientRecord) : ClientRecord :=
  { record with balance := record.balance + amount }

/-- `db_record_response::Description`. -/
inductive Description
  | success
  | duplicateIp
  | insufficientBalance
  | notFound
  | unknownSender
  | unknownReceiver
  | balanceCheck
  deriving DecidableEq, Repr

/-- `db_record_response`. -/
structure DbRecordResponse where
  success : Bool
  record : ClientRecord
  statusCode : Description
  deriving DecidableEq, Repr

/-- `db_metadata`. -/
structure DbMetadata where
  numTransactions : Int32
  totalTransferred : UInt32
  totalBalance : Int32
  deriving DecidableEq

/-- `database_records`. -/
abbrev Records := Finmap fun _ : InAddr => ClientRecord

/-- The tables and totals of a `DbManager`. -/
structure DbManager where
  clientLocks : Finset InAddr
  databaseRecords : Records
  totalTransferred : UInt32
  numTransactions : Int32
  totalBalance : Int32
  deriving DecidableEq

/-- The constructor. -/
def DbManager.empty : DbManager := ⟨∅, ∅, 0, 0, 0⟩

/-- Replace the record table. -/
def DbManager.setRecords (db : DbManager) (records : Records) : DbManager :=
  { db with databaseRecords := records }

/-- The records are what they have been set to. -/
@[simp] theorem DbManager.setRecords_databaseRecords (db : DbManager) (records : Records) :
    (db.setRecords records).databaseRecords = records := rfl

/-- Set twice is set once. -/
@[simp] theorem DbManager.setRecords_setRecords (db : DbManager) (records records' : Records) :
    (db.setRecords records).setRecords records' = db.setRecords records' := rfl

/-- The other table is left alone. -/
@[simp] theorem DbManager.setRecords_clientLocks (db : DbManager) (records : Records) :
    (db.setRecords records).clientLocks = db.clientLocks := rfl

/-- `database_access_lock`, `database_metadata_lock` and the clients' mutexes. -/
inductive Mutex
  | databaseAccess
  | databaseMetadata
  | client (ip : InAddr)
  deriving DecidableEq, Repr

/-- How an operation ends. -/
inductive Outcome
  | returned (response : DbRecordResponse)
  | outOfRange
  | dangling
  deriving DecidableEq, Repr

/-- The code of an operation. -/
abbrev Code := Prog DbManager Mutex Outcome

namespace DbManager

/-! ## Lock helpers -/

def lockDatabase (next : Code) : Code := .lock .databaseAccess next

/-- `unlock_database`. -/
def unlockDatabase (next : Code) : Code := .unlock .databaseAccess next

/-- `lock_metadata`. -/
def lockMetadata (next : Code) : Code := .lock .databaseMetadata next

/-- `unlock_metadata`. -/
def unlockMetadata (next : Code) : Code := .unlock .databaseMetadata next

/-- `lock_client`: `client_locks.at` throws before anything is locked. -/
def lockClient (ip : InAddr) (onOutOfRange next : Code) : Code :=
  .access id fun db => if ip ∈ db.clientLocks then .lock (.client ip) next else onOutOfRange

/-- `unlock_client`: a missing entry is only reported. -/
def unlockClient (ip : InAddr) (next : Code) : Code :=
  .access id fun db => if ip ∈ db.clientLocks then .unlock (.client ip) next else next

/-! ## Record access -/

/-- `database_records.at(ip)`. -/
def recordAt (ip : InAddr) (onOutOfRange : Code) (next : ClientRecord → Code) : Code :=
  .access id fun db =>
    match db.databaseRecords.lookup ip with
    | some record => next record
    | none => onOutOfRange

/-- Read through a pointer to the entry of `ip`. -/
def deref (ip : InAddr) (next : ClientRecord → Code) : Code :=
  recordAt ip (.ret .dangling) next

/-- Change the entry of `ip`, if there is one. -/
def modify (db : DbManager) (ip : InAddr) (f : ClientRecord → ClientRecord) : DbManager :=
  match db.databaseRecords.lookup ip with
  | some record => db.setRecords (db.databaseRecords.insert ip (f record))
  | none => db

/-- An entry that is there is replaced. -/
theorem modify_of_mem {db : DbManager} {ip : InAddr} {record : ClientRecord}
    (f : ClientRecord → ClientRecord) (h : db.databaseRecords.lookup ip = some record) :
    db.modify ip f = db.setRecords (db.databaseRecords.insert ip (f record)) := by
  rw [modify, h]

/-- One that is not there is not made. -/
theorem modify_of_notMem {db : DbManager} {ip : InAddr} (f : ClientRecord → ClientRecord)
    (h : db.databaseRecords.lookup ip = none) : db.modify ip f = db := by
  rw [modify, h]

/-- A change of a record does not touch the mutexes. -/
theorem modify_clientLocks (db : DbManager) (ip : InAddr) (f : ClientRecord → ClientRecord) :
    (db.modify ip f).clientLocks = db.clientLocks := by
  rw [modify]
  cases db.databaseRecords.lookup ip <;> rfl

/-- Nor does it register or remove anybody. -/
theorem modify_keys (db : DbManager) (ip : InAddr) (f : ClientRecord → ClientRecord) :
    (db.modify ip f).databaseRecords.keys = db.databaseRecords.keys := by
  rw [modify]
  cases hrecord : db.databaseRecords.lookup ip with
  | none => rfl
  | some record =>
      exact (Finmap.keys_insert _ _ _).trans
        (Finset.insert_eq_of_mem (Finmap.mem_keys.mpr (Finmap.mem_of_lookup_eq_some hrecord)))

/-- The other records are left alone. -/
theorem lookup_modify_of_ne {db : DbManager} {ip ip' : InAddr} (f : ClientRecord → ClientRecord)
    (h : ip ≠ ip') :
    (db.modify ip' f).databaseRecords.lookup ip = db.databaseRecords.lookup ip := by
  rw [modify]
  cases db.databaseRecords.lookup ip' with
  | none => rfl
  | some record => exact Finmap.lookup_insert_of_ne _ h

/-- Write through a pointer to the entry of `ip`. -/
def assign (ip : InAddr) (f : ClientRecord → ClientRecord) (next : Code) : Code :=
  .access (·.modify ip f) fun db =>
    if ip ∈ db.databaseRecords then next else .ret .dangling

/-- Return a response. -/
def respond (success : Bool) (record : ClientRecord) (statusCode : Description) : Code :=
  .ret (.returned ⟨success, record, statusCode⟩)

/-! ## The operations -/

/-- `get_client_info`. -/
def getClientInfo (db : DbManager) (ip : InAddr) : DbRecordResponse :=
  match db.databaseRecords.lookup ip with
  | some record => ⟨true, record, .success⟩
  | none => ⟨false, .empty, .notFound⟩

/-- `get_db_metadata`. -/
def getDbMetadata (db : DbManager) : DbMetadata :=
  ⟨db.numTransactions, db.totalTransferred, db.totalBalance⟩

/-- `register_client`.  The mutex that turns out not to be needed is destroyed
again; it was never shared. -/
def registerClient (clientIp : InAddr) : Code :=
  lockDatabase <|
  .access (fun db => { db with clientLocks := insert clientIp db.clientLocks }) fun before =>
  lockClient clientIp (.ret .outOfRange) <|
  unlockDatabase <|
  if clientIp ∈ before.clientLocks then
    unlockClient clientIp <|
    respond false .empty .duplicateIp
  else
    .access (fun db =>
      if clientIp ∈ db.databaseRecords then db
      else db.setRecords (db.databaseRecords.insert clientIp
        ⟨clientIp, STARTING_BALANCE, STARTING_REQUEST⟩)) fun db =>
    if clientIp ∈ db.databaseRecords then
      unlockClient clientIp <|
      respond false .empty .duplicateIp
    else
      unlockClient clientIp <|
      lockDatabase <|
      .access (fun db => { db with
        totalBalance := db.totalBalance + STARTING_BALANCE.toUInt32.toInt32 }) fun _ =>
      unlockDatabase <|
      deref clientIp fun record =>
      respond true record .success

/-- `make_transaction`.

The sender is locked before the receiver, whoever they are; that the two orders of a crossing pair
do no harm is due to the database lock, under which both are taken. -/
def makeTransaction (senderIp receiverIp : InAddr) (transferAmount : UInt64) : Code :=
  lockDatabase <|
  lockClient senderIp (unlockDatabase <| respond false .empty .unknownSender) <|
  if transferAmount = 0 then
    unlockClient senderIp <|
    unlockDatabase <|
    recordAt senderIp (.ret .outOfRange) fun record =>
    respond true record .balanceCheck
  else if senderIp = receiverIp then
    unlockClient senderIp <|
    unlockDatabase <|
    recordAt senderIp (.ret .outOfRange) fun record =>
    respond false record .duplicateIp
  else
    lockClient receiverIp
      (.access id fun db =>
        unlockClient senderIp <|
        unlockDatabase <|
        respond false (db.getClientInfo senderIp).record .unknownReceiver) <|
    unlockDatabase <|
    recordAt senderIp
      (unlockClient senderIp <|
       unlockClient receiverIp <|
       respond false .empty .unknownSender) fun _ =>
    recordAt receiverIp
      (unlockClient senderIp <|
       unlockClient receiverIp <|
       deref senderIp fun sender =>
       respond false sender .unknownReceiver) fun _ =>
    assign senderIp ClientRecord.count <|
    deref senderIp fun sender =>
    if sender.balance < transferAmount then
      unlockClient senderIp <|
      unlockClient receiverIp <|
      deref senderIp fun sender =>
      respond false sender .insufficientBalance
    else
      assign senderIp (ClientRecord.debit transferAmount) <|
      assign receiverIp (ClientRecord.credit transferAmount) <|
      unlockClient senderIp <|
      unlockClient receiverIp <|
      lockMetadata <|
      .access (fun db => { db with
        totalTransferred := db.totalTransferred + transferAmount.toUInt32 }) fun _ =>
      .access (fun db => { db with numTransactions := db.numTransactions + 1 }) fun _ =>
      unlockMetadata <|
      deref senderIp fun sender =>
      respond true sender .success

/-- `remove_client`.

The record is erased under the client's mutex, and the mutex under the database lock; in between,
neither table is consistent with the other. -/
def removeClient (clientIp : InAddr) : Code :=
  lockDatabase <|
  lockClient clientIp (unlockDatabase <| respond false .empty .notFound) <|
  unlockDatabase <|
  recordAt clientIp (unlockClient clientIp <| respond false .empty .notFound) fun clientCopy =>
  .access (fun db => db.setRecords (db.databaseRecords.erase clientIp)) fun db =>
  if clientIp ∉ db.databaseRecords then
    unlockClient clientIp <|
    respond false .empty .notFound
  else
    lockDatabase <|
    unlockClient clientIp <|
    .access id fun db =>
    if clientIp ∉ db.clientLocks then .ret .outOfRange else
    .access (fun db => { db with clientLocks := db.clientLocks.erase clientIp }) fun db =>
    unlockDatabase <|
    if clientIp ∉ db.clientLocks then
      respond false .empty .notFound
    else
      lockDatabase <|
      .access (fun db => { db with
        totalBalance := db.totalBalance - clientCopy.balance.toUInt32.toInt32 }) fun _ =>
      unlockDatabase <|
      respond true clientCopy .success

end DbManager

/-- A call of one of the locking operations. -/
inductive DbCall
  | registerClient (clientIp : InAddr)
  | makeTransaction (senderIp receiverIp : InAddr) (transferAmount : UInt64)
  | removeClient (clientIp : InAddr)
  deriving DecidableEq, Repr

/-- The code a call runs. -/
def DbCall.body : DbCall → Code
  | .registerClient clientIp => DbManager.registerClient clientIp
  | .makeTransaction senderIp receiverIp transferAmount =>
      DbManager.makeTransaction senderIp receiverIp transferAmount
  | .removeClient clientIp => DbManager.removeClient clientIp

/-- A call that nothing interferes with, from a ledger whose mutexes are free.
`none`: it blocks on itself, or leaves a mutex locked. -/
def DbCall.alone (call : DbCall) (db : DbManager) : Option (Outcome × DbManager) :=
  match call.body.solo db ∅ with
  | some (outcome, db', held) => if held = ∅ then some (outcome, db') else none
  | none => none

/-- A sequence of calls, one at a time: what each ended with, and the ledger they
leave. -/
def DbManager.callAll : DbManager → List DbCall → Option (List (DbCall × Outcome) × DbManager)
  | db, [] => some ([], db)
  | db, call :: rest =>
      (call.alone db).bind fun (outcome, db') =>
        (DbManager.callAll db' rest).map fun (log, final) => ((call, outcome) :: log, final)

/-- The states of a server that has served a sequence of calls one at a time. -/
def DbManager.Reachable (db : DbManager) : Prop :=
  ∃ calls log, DbManager.empty.callAll calls = some (log, db)

end Brix
