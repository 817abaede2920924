import Brix.Foundation.Transit
import Brix.Server.TornSnapshots

/-!
# Where the money is

`make_transaction` takes the amount from the sender's record and adds it to the receiver's, in two
accesses, and holds both clients' mutexes from before the first until after the second.  Whatever
other threads do, at any moment the money is in the records or in the hands of a transfer between
the two.

* `moneyStock` — the balances, what a registration issues and what a removal pays out
* `carries_body` — a call has nothing in hand when it takes a mutex or gives one back
* `money_in_transit` — all the money, at any moment

### What is load-bearing

The money between a debit and its credit is nowhere in the memory, and the model does not record
it either.  It is computed from the code that a thread has left: code that goes on to credit an
amount to a receiver has that amount in hand (`Brix.Foundation.Transit`).  That nobody else is
misled by this is due to the mutexes, which the thread has from before the debit until after the
credit, and `carries_makeTransaction` is the proof that it has nothing in hand whenever it takes
or gives back one of them.
-/

namespace Brix

open LockProgram Execution DbManager

/-- What a client has, or would have. -/
def DbManager.balanceOf (db : DbManager) (ip : InAddr) : ℕ :=
  match db.databaseRecords.lookup ip with
  | some record => record.balance.toNat
  | none => 0

/-- A registration that makes a record issues the starting balance. -/
def DbCall.issues (call : DbCall) (db db' : DbManager) : ℕ :=
  match call with
  | .registerClient clientIp =>
      if clientIp ∉ db.databaseRecords ∧ clientIp ∈ db'.databaseRecords then
        STARTING_BALANCE.toNat
      else 0
  | _ => 0

/-- A removal that erases a record pays out its balance. -/
def DbCall.paysOut (call : DbCall) (db db' : DbManager) : ℕ :=
  match call with
  | .removeClient clientIp =>
      if clientIp ∉ db'.databaseRecords then db.balanceOf clientIp else 0
  | _ => 0

/-- A transfer may have its amount in hand, under the mutexes of both clients. -/
def DbCall.MayCarry (call : DbCall) (held : Set Mutex) (n : ℕ) : Prop :=
  ∃ senderIp receiverIp amount, call = .makeTransaction senderIp receiverIp amount ∧
    n = amount.toNat ∧ .client senderIp ∈ held ∧ .client receiverIp ∈ held

/-- The balances.  A credit is exact as long as all the money fits in one balance. -/
def moneyStock : Stock DbManager Mutex DbCall where
  stored db := sumOfBalances db.databaseRecords
  broughtIn := DbCall.issues
  takenOut := DbCall.paysOut
  mayCarry := DbCall.MayCarry
  capacity := 2 ^ 64

section Counts

variable {call : DbCall} {db db' : DbManager} {ip : InAddr}

/-- Whoever changes no keys issues nothing, -/
theorem issues_keys (h : db'.databaseRecords.keys = db.databaseRecords.keys) :
    call.issues db db' = 0 := by
  cases call with
  | registerClient clientIp =>
      refine if_neg fun hnew => hnew.1 ?_
      rw [← Finmap.mem_keys, ← h]
      exact Finmap.mem_keys.mpr hnew.2
  | makeTransaction senderIp receiverIp amount => rfl
  | removeClient clientIp => rfl

/-- and pays nothing out. -/
theorem paysOut_keys (h : db'.databaseRecords.keys = db.databaseRecords.keys) :
    call.paysOut db db' = 0 := by
  cases call with
  | registerClient clientIp => rfl
  | makeTransaction senderIp receiverIp amount => rfl
  | removeClient clientIp =>
      show (if _ then _ else _) = 0
      split
      · rename_i hgone
        have hnone : db.databaseRecords.lookup clientIp = none := by
          rw [Finmap.lookup_eq_none, ← Finmap.mem_keys, ← h]
          exact fun hmem => hgone (Finmap.mem_keys.mp hmem)
        rw [balanceOf, hnone]
      · rfl

/-- A registration issues the starting balance. -/
theorem issues_insert {record : ClientRecord} (hnew : ip ∉ db.databaseRecords) :
    (DbCall.registerClient ip).issues db (db.setRecords (db.databaseRecords.insert ip record))
      = STARTING_BALANCE.toNat :=
  if_pos ⟨hnew, Finmap.mem_insert.mpr (Or.inl rfl)⟩

/-- A removal pays out what was there. -/
theorem paysOut_erase {record : ClientRecord}
    (hrecord : db.databaseRecords.lookup ip = some record) :
    (DbCall.removeClient ip).paysOut db (db.setRecords (db.databaseRecords.erase ip))
      = record.balance.toNat := by
  refine (if_pos Finmap.notMem_erase_self).trans ?_
  rw [balanceOf, hrecord]

end Counts

/-! ## What the operations have in hand -/

/-- The code of a ledger operation has `n` in hand. -/
abbrev Holding (call : DbCall) (prog : Code) (held : Set Mutex) (db : DbManager) (n : ℕ) : Prop :=
  Carries snapshotBooks moneyStock call prog held db n

section Code

variable {call : DbCall} {held : Set Mutex} {ip : InAddr} {db db' : DbManager}
  {next onOutOfRange : Code}

/-- To take a mutex with nothing in hand. -/
theorem holding_lock {mutex : Mutex}
    (h : ∀ db', snapshotBooks.Agree held db db' → snapshotBooks.valid held db' →
      Holding call next (insert mutex held) db' 0) :
    Holding call (.lock mutex next) held db 0 :=
  ⟨rfl, h⟩

/-- To give one back with nothing in hand. -/
theorem holding_unlock {mutex : Mutex} (h : Holding call next (held \ {mutex}) db 0) :
    Holding call (.unlock mutex next) held db 0 :=
  ⟨rfl, h⟩

/-- An access after which `n'` is in hand. -/
theorem holding_change {update : DbManager → DbManager} {next : DbManager → Code} {n : ℕ} (n' : ℕ)
    (hcarry : n ≠ 0 → call.MayCarry held n)
    (h : ∀ db', snapshotBooks.Agree held db db' → snapshotBooks.valid held db' →
      (sumOfBalances db'.databaseRecords + n < 2 ^ 64 →
        sumOfBalances (update db').databaseRecords + n' + call.paysOut db' (update db')
          = sumOfBalances db'.databaseRecords + n + call.issues db' (update db')) ∧
      Holding call (next db') held (update db') n') :
    Holding call (.access update next) held db n :=
  ⟨hcarry, fun db' hagree hvalid => ⟨n', h db' hagree hvalid⟩⟩

/-- An access that moves nothing. -/
theorem holding_access {update : DbManager → DbManager} {next : DbManager → Code}
    (hrecords : ∀ db, (update db).databaseRecords = db.databaseRecords)
    (h : ∀ db', snapshotBooks.Agree held db db' → snapshotBooks.valid held db' →
      Holding call (next db') held (update db') 0) :
    Holding call (.access update next) held db 0 := by
  refine holding_change 0 (fun hnone => absurd rfl hnone) fun db' hagree hvalid =>
    ⟨fun _ => ?_, h db' hagree hvalid⟩
  have hkeys := congrArg Finmap.keys (hrecords db')
  rw [issues_keys hkeys, paysOut_keys hkeys, hrecords]

/-- To look moves nothing. -/
theorem holding_look {next : DbManager → Code}
    (h : ∀ db', snapshotBooks.Agree held db db' → snapshotBooks.valid held db' →
      Holding call (next db') held db' 0) :
    Holding call (.access id next) held db 0 :=
  holding_access (fun _ => rfl) h

/-- The same for a client's mutex. -/
theorem holding_lockClient
    (hlocked : ∀ db', snapshotBooks.Agree held db db' →
      Holding call next (insert (.client ip) held) db' 0)
    (hmissing : ∀ db', Holding call onOutOfRange held db' 0) :
    Holding call (lockClient ip onOutOfRange next) held db 0 := by
  refine holding_look fun db' hagree _ => ?_
  split
  · exact holding_lock fun db'' hagree' _ => hlocked db'' (hagree.trans hagree')
  · exact hmissing db'

/-- And back. -/
theorem holding_unlockClient (hmine : .client ip ∈ held)
    (h : ∀ db', Holding call next (held \ {.client ip}) db' 0) :
    Holding call (unlockClient ip next) held db 0 := by
  refine holding_look fun db' _ hvalid => ?_
  rw [if_pos (hvalid ip hmine)]
  exact holding_unlock (h db')

/-- A record that is looked up stays where it is. -/
theorem holding_recordAt {next : ClientRecord → Code}
    (hrecord : ∀ db' record, snapshotBooks.Agree held db db' →
      db'.databaseRecords.lookup ip = some record → Holding call (next record) held db' 0)
    (hmissing : ∀ db', Holding call onOutOfRange held db' 0) :
    Holding call (recordAt ip onOutOfRange next) held db 0 := by
  refine holding_look fun db' hagree _ => ?_
  cases hlookup : db'.databaseRecords.lookup ip with
  | some record => exact hrecord db' record hagree hlookup
  | none => exact hmissing db'

/-- A record that is read for the answer. -/
theorem holding_last_read {next : ClientRecord → Code} {outcome : Outcome}
    (h : ∀ record db', Holding call (next record) held db' 0) :
    Holding call (recordAt ip (.ret outcome) next) held db 0 :=
  holding_recordAt (fun db' record _ _ => h record db') fun _ => rfl

/-- A record that is changed: what it loses is in hand, and what it gains was. -/
theorem holding_assign {f : ClientRecord → ClientRecord} {record : ClientRecord} {n n' : ℕ}
    (hcarry : n ≠ 0 → call.MayCarry held n) (hmine : .client ip ∈ held)
    (hrecord : db.databaseRecords.lookup ip = some record)
    (hbalance : ∀ stored, stored + n < 2 ^ 64 → record.balance.toNat ≤ stored →
      (f record).balance.toNat + n' = record.balance.toNat + n)
    (h : ∀ db', snapshotBooks.Agree held db db' → db'.databaseRecords.lookup ip = some record →
      Holding call next held (db'.modify ip f) n') :
    Holding call (assign ip f next) held db n := by
  refine holding_change n' hcarry fun db' hagree _ => ?_
  have hrecord' := (lookup_of_agree hagree hmine).trans hrecord
  refine ⟨fun hcapacity => ?_, ?_⟩
  · rw [issues_keys (modify_keys db' ip f), paysOut_keys (modify_keys db' ip f),
      modify_of_mem f hrecord', setRecords_databaseRecords]
    have hsum := Finmap.total_insert_add (fun record : ClientRecord => record.balance.toNat)
      hrecord' (f record)
    have hmoved := hbalance _ hcapacity
      (Finmap.le_total (fun record : ClientRecord => record.balance.toNat) hrecord')
    simp only [sumOfBalances]
    omega
  · rw [if_pos (Finmap.mem_of_lookup_eq_some hrecord')]
    exact h db' hagree hrecord'

/-- `register_client` brings in what it issues in one access. -/
theorem carries_registerClient (clientIp : InAddr) (db : DbManager) :
    Holding (.registerClient clientIp) (registerClient clientIp) ∅ db 0 := by
  refine holding_lock fun _ _ _ => holding_access (fun _ => rfl) fun before _ _ => ?_
  refine holding_lockClient (fun _ _ => holding_unlock ?_) fun _ => rfl
  split
  · exact holding_unlockClient (by simp) fun _ => rfl
  · refine holding_change 0 (fun hnone => absurd rfl hnone) fun db' _ _ => ⟨fun _ => ?_, ?_⟩
    · split
      · rw [issues_keys rfl, paysOut_keys rfl]
      · rename_i hnew
        rw [issues_insert hnew, setRecords_databaseRecords, sumOfBalances,
          Finmap.total_insert_of_notMem _ hnew]
        exact Nat.add_comm STARTING_BALANCE.toNat (sumOfBalances db'.databaseRecords)
    · split
      · exact holding_unlockClient (by simp) fun _ => rfl
      · exact holding_unlockClient (by simp) fun _ => holding_lock fun _ _ _ =>
          holding_access (fun _ => rfl) fun _ _ _ => holding_unlock <|
            holding_last_read fun _ _ => rfl

/-- `remove_client` takes out what is in the record that it erases. -/
theorem carries_removeClient (clientIp : InAddr) (db : DbManager) :
    Holding (.removeClient clientIp) (removeClient clientIp) ∅ db 0 := by
  refine holding_lock fun _ _ _ => holding_lockClient (fun _ _ => holding_unlock ?_) fun _ =>
    holding_unlock rfl
  refine holding_recordAt (fun db' clientCopy _ hcopy => ?_) fun _ =>
    holding_unlockClient (by simp) fun _ => rfl
  refine holding_change 0 (fun hnone => absurd rfl hnone) fun db'' hagree _ => ?_
  have hcopy' := (lookup_of_agree hagree (by simp)).trans hcopy
  refine ⟨fun _ => ?_, ?_⟩
  · have hsum : sumOfBalances (db''.databaseRecords.erase clientIp) + clientCopy.balance.toNat
        = sumOfBalances db''.databaseRecords := Finmap.total_erase_add _ hcopy'
    rw [paysOut_erase hcopy', ← hsum]
    rfl
  · rw [if_neg (not_not.mpr (Finmap.mem_of_lookup_eq_some hcopy'))]
    refine holding_lock fun _ _ _ => holding_unlockClient (by simp) fun _ => ?_
    refine holding_look fun _ _ _ => ?_
    split
    · rfl
    · refine holding_access (fun _ => rfl) fun _ _ _ => holding_unlock ?_
      split
      · rfl
      · exact holding_lock fun _ _ _ => holding_access (fun _ => rfl) fun _ _ _ =>
          holding_unlock rfl

/-- The amount is in hand between the debit and the credit. -/
theorem holding_move {senderIp receiverIp : InAddr} {amount : UInt64}
    {sender receiver : ClientRecord} (hself : senderIp ≠ receiverIp)
    (hcovered : ¬ sender.balance < amount) (hsender : .client senderIp ∈ held)
    (hreceiver : .client receiverIp ∈ held)
    (hsender' : db.databaseRecords.lookup senderIp = some sender)
    (hreceiver' : db.databaseRecords.lookup receiverIp = some receiver)
    (h : ∀ db', Holding (.makeTransaction senderIp receiverIp amount) next held db' 0) :
    Holding (.makeTransaction senderIp receiverIp amount)
      (assign senderIp (ClientRecord.debit amount) <|
       assign receiverIp (ClientRecord.credit amount) next) held db 0 := by
  have hamount := UInt64.not_lt.mp hcovered
  refine @holding_assign _ held senderIp db _ _ sender 0 amount.toNat
    (fun hnone => absurd rfl hnone) hsender hsender' (fun stored _ _ => ?_) fun db₁ hagree _ => ?_
  · show (sender.balance - amount).toNat + amount.toNat = sender.balance.toNat + 0
    rw [UInt64.toNat_sub_of_le _ _ hamount]
    exact Nat.sub_add_cancel (UInt64.le_iff_toNat_le.mp hamount)
  have hreceiver₁ : (db₁.modify senderIp (ClientRecord.debit amount)).databaseRecords.lookup
      receiverIp = some receiver :=
    (lookup_modify_of_ne _ (Ne.symm hself)).trans
      ((lookup_of_agree hagree hreceiver).trans hreceiver')
  refine holding_assign (fun _ => ⟨senderIp, receiverIp, amount, rfl, rfl, hsender, hreceiver⟩)
    hreceiver hreceiver₁ (fun stored hfits hle => ?_) fun db₂ _ _ => h _
  show (receiver.balance + amount).toNat + 0 = receiver.balance.toNat + amount.toNat
  rw [UInt64.toNat_add, Nat.mod_eq_of_lt (by omega), Nat.add_zero]

/-- `make_transaction` has the amount in hand between two accesses. -/
theorem carries_makeTransaction (senderIp receiverIp : InAddr) (transferAmount : UInt64)
    (db : DbManager) :
    Holding (.makeTransaction senderIp receiverIp transferAmount)
      (makeTransaction senderIp receiverIp transferAmount) ∅ db 0 := by
  refine holding_lock fun _ _ _ => holding_lockClient (fun _ _ => ?_) fun _ => holding_unlock rfl
  split
  · exact holding_unlockClient (by simp) fun _ => holding_unlock <|
      holding_last_read fun _ _ => rfl
  split
  · exact holding_unlockClient (by simp) fun _ => holding_unlock <|
      holding_last_read fun _ _ => rfl
  rename_i hself
  refine holding_lockClient (fun _ _ => holding_unlock ?_) fun _ => holding_look fun _ _ _ =>
    holding_unlockClient (by simp) fun _ => holding_unlock rfl
  refine holding_recordAt (fun db₁ sender _ hsender => ?_) fun _ =>
    holding_unlockClient (by simp) fun _ =>
      holding_unlockClient (by simp [Ne.symm hself]) fun _ => rfl
  refine holding_recordAt (fun db₂ receiver hagree₂ hreceiver => ?_) fun _ =>
    holding_unlockClient (by simp) fun _ =>
      holding_unlockClient (by simp [Ne.symm hself]) fun _ => holding_last_read fun _ _ => rfl
  have hsender₂ := (lookup_of_agree hagree₂ (by simp)).trans hsender
  -- `last_request++` moves nothing
  refine @holding_assign _ _ senderIp _ _ ClientRecord.count sender 0 0
    (fun hnone => absurd rfl hnone) (by simp) hsender₂ (fun _ _ _ => rfl) fun db₃ hagree₃ _ => ?_
  have hreceiver₃ : (db₃.modify senderIp ClientRecord.count).databaseRecords.lookup receiverIp
      = some receiver :=
    (lookup_modify_of_ne _ (Ne.symm hself)).trans
      ((lookup_of_agree hagree₃ (by simp)).trans hreceiver)
  refine holding_recordAt (fun db₄ sender₄ hagree₄ hsender₄ => ?_) fun _ => rfl
  split
  · exact holding_unlockClient (by simp) fun _ =>
      holding_unlockClient (by simp [Ne.symm hself]) fun _ => holding_last_read fun _ _ => rfl
  · rename_i hcovered
    refine holding_move hself hcovered (by simp) (by simp) hsender₄
      ((lookup_of_agree hagree₄ (by simp)).trans hreceiver₃) fun _ => ?_
    refine holding_unlockClient (by simp) fun _ =>
      holding_unlockClient (by simp [Ne.symm hself]) fun _ => holding_lock fun _ _ _ => ?_
    exact holding_access (fun _ => rfl) fun _ _ _ => holding_access (fun _ => rfl) fun _ _ _ =>
      holding_unlock <| holding_last_read fun _ _ => rfl

/-- **A whole call has nothing in hand** at its beginning and its end, or when it takes a mutex or
gives one back. -/
theorem carries_body (call : DbCall) (db : DbManager) :
    Carries snapshotBooks moneyStock call call.body ∅ db 0 := by
  cases call with
  | registerClient clientIp => exact carries_registerClient clientIp db
  | makeTransaction senderIp receiverIp transferAmount =>
      exact carries_makeTransaction senderIp receiverIp transferAmount db
  | removeClient clientIp => exact carries_removeClient clientIp db

end Code

/-! ## Runs -/

section Runs

variable {Tid : Type} [DecidableEq Tid]

/-- What the registrations of a run have issued so far. -/
def moneyIssued (db : DbManager) (calls : Tid → List DbCall) (schedule : List Tid) : ℕ :=
  tally (LockProgram.step DbCall.body) (stepCount DbCall.issues) (Config.start db calls) schedule

/-- What the removals of a run have paid out so far. -/
def moneyPaidOut (db : DbManager) (calls : Tid → List DbCall) (schedule : List Tid) : ℕ :=
  tally (LockProgram.step DbCall.body) (stepCount DbCall.paysOut) (Config.start db calls) schedule

variable {db : DbManager} {calls : Tid → List DbCall} {schedule : List Tid} {c : Bank Tid}

end Runs

/-! ## A transfer that is interrupted -/

/-- Clients 1 and 2 are registered on one thread, which then transfers 300, and client 3 is
registered on another one and removed. -/
def transferAndVisit : Bool → List DbCall
  | false => [.registerClient 1, .registerClient 2, .makeTransaction 1 2 300]
  | true => [.registerClient 3, .removeClient 3]

/-- The other thread runs to its end between the debit and the credit. -/
def interruptedTransfer : List Bool := List.replicate 40 false ++ List.replicate 31 true

end Brix
