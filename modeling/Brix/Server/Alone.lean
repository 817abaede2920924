import Brix.Server.DbManager

/-!
# A transfer by itself

The helpers of the ledger read as equations of `Prog.solo`, one for each, and from
them `make_transaction` as a whole: `solo_makeTransaction` is one equation for all
six exits.  The sender, the receiver and the amount decide a status
(`DbManager.verdict`), the status decides what is left behind
(`DbManager.afterTransfer`), and the answer is the sender's record as it is left.

The only thing asked of the ledger is that its two tables have the same keys.

### The design

The exits of `make_transaction` differ in what they check and in what they have locked by then,
but by itself a transfer leaves no trace of the order in which it has checked.  So the six exits
are one function of the tables, and the equation for the whole is put together from the equations
for the helpers by rewriting, along the source.  An equation for a helper asks for what the helper
needs, that its mutex is free or that its entry is there, and nothing else; where the source
relies on an earlier step for it, so does the proof.
-/

namespace Brix

open LockProgram

/-! ## The helpers -/

section Solo

open DbManager

variable {db : DbManager} {held : Finset Mutex} {ip : InAddr} {next onOutOfRange : Code}

/-- A free mutex is taken. -/
@[simp] theorem solo_lockDatabase (h : Mutex.databaseAccess ∉ held) :
    (lockDatabase next).solo db held = next.solo db (insert .databaseAccess held) := by
  rw [lockDatabase, Prog.solo, if_neg h]

/-- A mutex is given back. -/
@[simp] theorem solo_unlockDatabase :
    (unlockDatabase next).solo db held = next.solo db (held.erase .databaseAccess) := rfl

/-- The same for the totals. -/
@[simp] theorem solo_lockMetadata (h : Mutex.databaseMetadata ∉ held) :
    (lockMetadata next).solo db held = next.solo db (insert .databaseMetadata held) := by
  rw [lockMetadata, Prog.solo, if_neg h]

/-- And back. -/
@[simp] theorem solo_unlockMetadata :
    (unlockMetadata next).solo db held = next.solo db (held.erase .databaseMetadata) := rfl

/-- A client in the lock table is locked if its mutex is free. -/
theorem solo_lockClient (hip : ip ∈ db.clientLocks) (h : Mutex.client ip ∉ held) :
    (lockClient ip onOutOfRange next).solo db held
      = next.solo db (insert (.client ip) held) := by
  rw [lockClient, Prog.solo, id, if_pos hip, Prog.solo, if_neg h]

/-- One that is not is not. -/
theorem solo_lockClient_of_notMem (hip : ip ∉ db.clientLocks) :
    (lockClient ip onOutOfRange next).solo db held = onOutOfRange.solo db held := by
  rw [lockClient, Prog.solo, id, if_neg hip]

/-- A client in the lock table is unlocked. -/
theorem solo_unlockClient (hip : ip ∈ db.clientLocks) :
    (unlockClient ip next).solo db held = next.solo db (held.erase (.client ip)) := by
  rw [unlockClient, Prog.solo, id, if_pos hip, Prog.solo]

/-- A record that is there is found. -/
theorem solo_recordAt {record : ClientRecord} {next : ClientRecord → Code}
    (h : db.databaseRecords.lookup ip = some record) :
    (recordAt ip onOutOfRange next).solo db held = (next record).solo db held := by
  rw [recordAt, Prog.solo, id, h]

/-- An entry that is there is changed. -/
theorem solo_assign {f : ClientRecord → ClientRecord} (h : ip ∈ db.databaseRecords) :
    (assign ip f next).solo db held = next.solo (db.modify ip f) held := by
  rw [assign, Prog.solo, if_pos h]

/-- A call returns what it has locked and what it has changed. -/
@[simp] theorem solo_respond {success : Bool} {record : ClientRecord} {code : Description} :
    (respond success record code).solo db held
      = some (.returned ⟨success, record, code⟩, db, held) := rfl

/-- The mutexes of a transfer, all released. -/
theorem released_both (ip ip' : InAddr) :
    (((insert (.client ip') (insert (.client ip) (insert .databaseAccess ∅)) : Finset Mutex).erase
      .databaseAccess).erase (.client ip)).erase (.client ip') = ∅ := by
  ext mutex
  simp only [Finset.mem_erase, Finset.mem_insert, Finset.notMem_empty, or_false, iff_false]
  tauto

/-- The mutexes of an operation on one client, all released. -/
theorem released_one (ip : InAddr) :
    ((insert (.client ip) (insert .databaseAccess ∅) : Finset Mutex).erase
      .databaseAccess).erase (.client ip) = ∅ := by
  ext mutex
  simp only [Finset.mem_erase, Finset.mem_insert, Finset.notMem_empty, or_false, iff_false]
  tauto

/-- The same, the client's first. -/
theorem released_nested (ip : InAddr) :
    ((insert (.client ip) (insert .databaseAccess ∅) : Finset Mutex).erase
      (.client ip)).erase .databaseAccess = ∅ := by
  rw [Finset.erase_right_comm, released_one]

end Solo

/-! ## The operation -/

/-- The statuses that `make_transaction` returns with `success` set. -/
def Description.accepted : Description → Bool
  | .success => true
  | .balanceCheck => true
  | _ => false

namespace DbManager

variable {db : DbManager} {ip ip' senderIp receiverIp : InAddr} {transferAmount : UInt64}
  {record sender : ClientRecord} {f g : ClientRecord → ClientRecord}

/-- A change of a record registers and removes nobody. -/
theorem mem_modify : ip ∈ (db.modify ip' f).databaseRecords ↔ ip ∈ db.databaseRecords := by
  rw [← Finmap.mem_keys, modify_keys, Finmap.mem_keys]

/-- It changes the record. -/
theorem lookup_modify (h : db.databaseRecords.lookup ip = some record) :
    (db.modify ip f).databaseRecords.lookup ip = some (f record) := by
  rw [modify_of_mem f h]
  exact Finmap.lookup_insert _

/-- Two changes of one record are one. -/
theorem modify_modify : (db.modify ip f).modify ip g = db.modify ip (g ∘ f) := by
  cases hrecord : db.databaseRecords.lookup ip with
  | none => rw [modify_of_notMem f hrecord, modify_of_notMem g hrecord, modify_of_notMem _ hrecord]
  | some record =>
      rw [modify_of_mem g (lookup_modify hrecord), modify_of_mem f hrecord,
        modify_of_mem _ hrecord, setRecords_setRecords, setRecords_databaseRecords,
        Finmap.insert_insert, Function.comp_apply]

/-- What the checks of `make_transaction` come to, in their order. -/
def verdict (db : DbManager) (senderIp receiverIp : InAddr) (transferAmount : UInt64) :
    Description :=
  match db.databaseRecords.lookup senderIp with
  | none => .unknownSender
  | some sender =>
      if transferAmount = 0 then .balanceCheck
      else if senderIp = receiverIp then .duplicateIp
      else if receiverIp ∉ db.databaseRecords then .unknownReceiver
      else if sender.balance < transferAmount then .insufficientBalance
      else .success

/-- Add a transfer to the totals. -/
def countTransfer (db : DbManager) (transferAmount : UInt64) : DbManager :=
  { db with
    totalTransferred := db.totalTransferred + transferAmount.toUInt32
    numTransactions := db.numTransactions + 1 }

/-- The critical section of the totals. -/
theorem solo_countTransfer {held : Finset Mutex} {next : Code}
    (h : Mutex.databaseMetadata ∉ held) :
    (lockMetadata <|
      .access (fun db => { db with
        totalTransferred := db.totalTransferred + transferAmount.toUInt32 }) fun _ =>
      .access (fun db => { db with numTransactions := db.numTransactions + 1 }) fun _ =>
      unlockMetadata next).solo db held = next.solo (db.countTransfer transferAmount) held := by
  rw [solo_lockMetadata h, Prog.solo, Prog.solo, solo_unlockMetadata, Finset.erase_insert h]
  rfl

/-- Carry out a transfer. -/
def settle (db : DbManager) (senderIp receiverIp : InAddr) (transferAmount : UInt64) :
    DbManager :=
  ((db.modify senderIp (ClientRecord.debit transferAmount ∘ ClientRecord.count)).modify receiverIp
    (ClientRecord.credit transferAmount)).countTransfer transferAmount

/-- What `make_transaction` leaves. -/
def afterTransfer (db : DbManager) (senderIp receiverIp : InAddr) (transferAmount : UInt64) :
    DbManager :=
  match db.verdict senderIp receiverIp transferAmount with
  | .success => db.settle senderIp receiverIp transferAmount
  | .insufficientBalance => db.modify senderIp ClientRecord.count
  | _ => db

/-- What `make_transaction` answers. -/
def transferResponse (db : DbManager) (senderIp receiverIp : InAddr) (transferAmount : UInt64) :
    DbRecordResponse where
  success := (db.verdict senderIp receiverIp transferAmount).accepted
  record := ((db.afterTransfer senderIp receiverIp transferAmount).getClientInfo senderIp).record
  statusCode := db.verdict senderIp receiverIp transferAmount

/-- Who has a record is shown it. -/
theorem getClientInfo_record (h : db.databaseRecords.lookup ip = some record) :
    (db.getClientInfo ip).record = record := by
  rw [getClientInfo, h]

section Verdict

variable (hsender : db.databaseRecords.lookup senderIp = some sender)
include hsender

/-- An amount of zero comes before everything but the sender. -/
theorem verdict_zero (hzero : transferAmount = 0) :
    db.verdict senderIp receiverIp transferAmount = .balanceCheck := by
  rw [verdict, hsender]
  exact if_pos hzero

/-- Then comes a transfer to oneself, -/
theorem verdict_self (hzero : transferAmount ≠ 0) (hself : senderIp = receiverIp) :
    db.verdict senderIp receiverIp transferAmount = .duplicateIp := by
  rw [verdict, hsender]
  exact (if_neg hzero).trans (if_pos hself)

variable (hzero : transferAmount ≠ 0) (hself : senderIp ≠ receiverIp)
include hzero hself

/-- then the receiver, -/
theorem verdict_unknownReceiver (hreceiver : receiverIp ∉ db.databaseRecords) :
    db.verdict senderIp receiverIp transferAmount = .unknownReceiver := by
  rw [verdict, hsender]
  exact (if_neg hzero).trans ((if_neg hself).trans (if_pos hreceiver))

variable (hreceiver : receiverIp ∈ db.databaseRecords)
include hreceiver

/-- then the balance. -/
theorem verdict_short (hshort : sender.balance < transferAmount) :
    db.verdict senderIp receiverIp transferAmount = .insufficientBalance := by
  rw [verdict, hsender]
  exact (if_neg hzero).trans ((if_neg hself).trans
    ((if_neg (not_not.mpr hreceiver)).trans (if_pos hshort)))

/-- A transfer that gets past all of these is a success. -/
theorem verdict_covered (hcovered : ¬ sender.balance < transferAmount) :
    db.verdict senderIp receiverIp transferAmount = .success := by
  rw [verdict, hsender]
  exact (if_neg hzero).trans ((if_neg hself).trans
    ((if_neg (not_not.mpr hreceiver)).trans (if_neg hcovered)))

end Verdict

/-- A transfer that changes nothing answers with the sender's record. -/
theorem transferResponse_of_same
    (hsame : db.afterTransfer senderIp receiverIp transferAmount = db)
    (hsender : db.databaseRecords.lookup senderIp = some sender) :
    db.transferResponse senderIp receiverIp transferAmount
      = ⟨(db.verdict senderIp receiverIp transferAmount).accepted, sender,
          db.verdict senderIp receiverIp transferAmount⟩ := by
  rw [transferResponse, hsame, getClientInfo_record hsender]

/-- The sender of a settled transfer. -/
theorem lookup_settle_sender (hself : senderIp ≠ receiverIp)
    (hsender : db.databaseRecords.lookup senderIp = some sender) :
    (db.settle senderIp receiverIp transferAmount).databaseRecords.lookup senderIp
      = some (sender.count.debit transferAmount) :=
  (lookup_modify_of_ne _ hself).trans (lookup_modify hsender)

/-- **`make_transaction` as one equation.**  From tables with the same keys and no
mutex held, the call ends, answers `transferResponse`, leaves `afterTransfer`, and
holds no mutex.

This is the whole function for a caller that nobody disturbs, and the other modules take it from
here: no later proof goes through the branches of the code again. -/
theorem solo_makeTransaction (hkeys : db.clientLocks = db.databaseRecords.keys)
    (senderIp receiverIp : InAddr) (transferAmount : UInt64) :
    (makeTransaction senderIp receiverIp transferAmount).solo db ∅
      = some (.returned (db.transferResponse senderIp receiverIp transferAmount),
          db.afterTransfer senderIp receiverIp transferAmount, ∅) := by
  have hlocks (ip : InAddr) : ip ∈ db.clientLocks ↔ ip ∈ db.databaseRecords := by
    rw [hkeys, Finmap.mem_keys]
  rw [makeTransaction, solo_lockDatabase (by simp)]
  cases hsender : db.databaseRecords.lookup senderIp with
  -- `lock_client(sender_ip)` throws, and the catch gives the database lock back
  | none =>
      have hlock : senderIp ∉ db.clientLocks :=
        (hlocks senderIp).not.mpr (Finmap.lookup_eq_none.mp hsender)
      have hverdict : db.verdict senderIp receiverIp transferAmount = .unknownSender := by
        rw [verdict, hsender]
      rw [solo_lockClient_of_notMem hlock, solo_unlockDatabase, solo_respond,
        transferResponse, afterTransfer, hverdict, getClientInfo, hsender]
      rfl
  | some sender =>
      have hmem : senderIp ∈ db.databaseRecords := Finmap.mem_of_lookup_eq_some hsender
      have hlock : senderIp ∈ db.clientLocks := (hlocks senderIp).mpr hmem
      rw [solo_lockClient hlock (by simp)]
      by_cases hzero : transferAmount = 0
      · have hverdict : db.verdict senderIp receiverIp transferAmount = .balanceCheck :=
          verdict_zero hsender hzero
        have hsame : db.afterTransfer senderIp receiverIp transferAmount = db := by
          rw [afterTransfer, hverdict]
        rw [if_pos hzero, solo_unlockClient hlock, solo_unlockDatabase, solo_recordAt hsender,
          solo_respond, released_nested, transferResponse_of_same hsame hsender, hsame, hverdict]
        rfl
      rw [if_neg hzero]
      -- from here on an amount is to be moved
      by_cases hself : senderIp = receiverIp
      · have hverdict := verdict_self hsender hzero hself
        have hsame : db.afterTransfer senderIp receiverIp transferAmount = db := by
          rw [afterTransfer, hverdict]
        rw [if_pos hself, solo_unlockClient hlock, solo_unlockDatabase, solo_recordAt hsender,
          solo_respond, released_nested, transferResponse_of_same hsame hsender, hsame, hverdict]
        rfl
      rw [if_neg hself]
      by_cases hreceiver : receiverIp ∈ db.databaseRecords
      · have hlock' : receiverIp ∈ db.clientLocks := (hlocks receiverIp).mpr hreceiver
        -- both are registered and locked: the request is counted, then the balance is checked
        obtain ⟨receiver, hlookup'⟩ := Finmap.mem_iff.mp hreceiver
        rw [solo_lockClient hlock' (by simp [Ne.symm hself]), solo_unlockDatabase,
          solo_recordAt hsender, solo_recordAt hlookup', solo_assign hmem, deref,
          solo_recordAt (lookup_modify hsender)]
        by_cases hshort : sender.balance < transferAmount
        · have hverdict := verdict_short hsender hzero hself hreceiver hshort
          have hafter : db.afterTransfer senderIp receiverIp transferAmount
              = db.modify senderIp ClientRecord.count := by
            rw [afterTransfer, hverdict]
          rw [if_pos (show sender.count.balance < transferAmount from hshort),
            solo_unlockClient (by rwa [modify_clientLocks]),
            solo_unlockClient (by rwa [modify_clientLocks]), deref,
            solo_recordAt (lookup_modify hsender), solo_respond, released_both, transferResponse,
            hafter, hverdict, getClientInfo_record (lookup_modify hsender)]
          rfl
        · have hverdict := verdict_covered hsender hzero hself hreceiver hshort
          have hafter : db.afterTransfer senderIp receiverIp transferAmount
              = db.settle senderIp receiverIp transferAmount := by
            rw [afterTransfer, hverdict]
          have hdone : (db.settle senderIp receiverIp transferAmount).databaseRecords.lookup
              senderIp = some (sender.count.debit transferAmount) :=
            lookup_settle_sender hself hsender
          rw [if_neg (show ¬ sender.count.balance < transferAmount from hshort),
            solo_assign (mem_modify.mpr hmem), modify_modify,
            solo_assign (mem_modify.mpr hreceiver),
            solo_unlockClient (by rwa [modify_clientLocks, modify_clientLocks]),
            solo_unlockClient (by rwa [modify_clientLocks, modify_clientLocks]), released_both,
            solo_countTransfer (by simp), ← settle, deref, solo_recordAt hdone, solo_respond,
            transferResponse, hafter, hverdict,
            getClientInfo_record hdone]
          rfl
      · -- the throw is caught after `get_client_info`, which takes no lock
        have hlock' : receiverIp ∉ db.clientLocks := (hlocks receiverIp).not.mpr hreceiver
        have hverdict := verdict_unknownReceiver hsender hzero hself hreceiver
        have hsame : db.afterTransfer senderIp receiverIp transferAmount = db := by
          rw [afterTransfer, hverdict]
        rw [solo_lockClient_of_notMem hlock', Prog.solo, id, solo_unlockClient hlock,
          solo_unlockDatabase, solo_respond, released_nested, getClientInfo_record hsender,
          transferResponse_of_same hsame hsender, hsame, hverdict]
        rfl

end DbManager

end Brix
