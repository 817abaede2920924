import Brix.Foundation.Accounts
import Brix.Server.Conservation
import Brix.Server.Snapshot
import Brix.Server.TableConsistency
import Mathlib.Data.ZMod.Basic
import Mathlib.Tactic.Ring

/-!
# Snapshots of a ledger at work

`get_db_snapshot` takes no mutex, and every operation changes the records first and the totals
later, with nothing in hand in between.  A snapshot that is taken meanwhile is torn: its totals
are not those of its records.

* `DbSnapshot.Consistent` — the totals of a snapshot are those of its records
* `snapshotBooks` — by how much an access sets the totals and the records apart
* `settles_body` — a whole call does not
* `snapshot_consistent_iff` — a snapshot is consistent exactly if what the calls in progress
  still owe to the totals cancels out

### What is load-bearing

What a snapshot lacks is determined by the calls in progress at that moment, and by nothing that
has happened before.  That is the statement that a whole call weighs nothing (`settles_body`):
whatever has been owed by calls that are over has been paid.  It is proved for each operation from
the memory that the call meets at each of its accesses, which others have changed; the mutexes
that it holds protect the two records whose values decide how much it owes.

Both totals are taken modulo 2³², since that is the width of their fields, so that the condition
is exact without a bound on the money.
-/

namespace Brix

open LockProgram Execution DbManager

/-- The totals are those of the records: the money to the width of its field, and the
transfers whose effect is there. -/
structure DbSnapshot.Consistent (snapshot : DbSnapshot) (transfers : ℕ) : Prop where
  totalBalance : snapshot.metadata.totalBalance.toInt ≡ sumOfBalances snapshot.records [ZMOD 2 ^ 32]
  numTransactions : snapshot.metadata.numTransactions.toInt = transfers

/-! ## Records and totals -/

/-- How much more the total says than the records. -/
def imbalance (db : DbManager) : ZMod (2 ^ 32) :=
  (db.totalBalance.toInt : ZMod (2 ^ 32)) - sumOfBalances db.databaseRecords

/-- A transfer has had its effect on the records once it has changed the receiver's, the
second one. -/
def DbCall.credits (call : DbCall) (db db' : DbManager) : ℕ :=
  match call with
  | .makeTransaction senderIp receiverIp _ =>
      if senderIp ≠ receiverIp ∧
        db'.databaseRecords.lookup receiverIp ≠ db.databaseRecords.lookup receiverIp then 1 else 0
  | _ => 0

/-- By how much an access sets apart the total balance and the balances, and the number of
transactions and the transfers.  A client's mutex protects the client's record, and the
database lock the lock table; a mutex in hand is in the table. -/
def snapshotBooks : Books DbManager Mutex DbCall (ZMod (2 ^ 32) × ZMod (2 ^ 32)) where
  weight call db db' := (imbalance db' - imbalance db,
    (db'.numTransactions.toInt - db.numTransactions.toInt : ZMod (2 ^ 32)) - call.credits db db')
  protects
    | .databaseAccess => Setoid.ker DbManager.clientLocks
    | .databaseMetadata => ⊤
    | .client ip => Setoid.ker fun db => db.databaseRecords.lookup ip
  valid held db := ∀ ip, .client ip ∈ held → ip ∈ db.clientLocks
  valid_mono h hsub ip hmine := h ip (hsub hmine)

/-! ### Weights -/

/-- The totals of a snapshot are `int`s and the balances are not, so both are compared modulo 2³²:
-/
theorem cast_toInt_add (a b : Int32) :
    ((a + b).toInt : ZMod (2 ^ 32)) = (a.toInt : ZMod (2 ^ 32)) + b.toInt := by
  rw [Int32.toInt_add, ← Int.cast_add, ZMod.intCast_eq_intCast_iff]
  exact Int.bmod_emod ..

/-- sums and differences, -/
theorem cast_toInt_sub (a b : Int32) :
    ((a - b).toInt : ZMod (2 ^ 32)) = (a.toInt : ZMod (2 ^ 32)) - b.toInt := by
  rw [Int32.toInt_sub, ← Int.cast_sub, ZMod.intCast_eq_intCast_iff]
  exact Int.bmod_emod ..

/-- An amount, narrowed to the width of the total. -/
theorem cast_toInt32 (amount : UInt64) :
    (amount.toUInt32.toInt32.toInt : ZMod (2 ^ 32)) = (amount.toNat : ZMod (2 ^ 32)) := by
  rw [← Int.cast_natCast amount.toNat, ZMod.intCast_eq_intCast_iff, ← Int32.toInt_toBitVec,
    BitVec.toInt_eq_toNat_bmod]
  refine (Int.bmod_emod ..).trans ?_
  simp

/-- the receiver's balance, -/
theorem cast_add_amount (balance amount : UInt64) :
    ((balance + amount).toNat : ZMod (2 ^ 32))
      = (balance.toNat : ZMod (2 ^ 32)) + amount.toNat := by
  rw [UInt64.toNat_add, ← Nat.cast_add, ZMod.natCast_eq_natCast_iff]
  exact (Nat.mod_modEq ..).of_dvd (by norm_num)

/-- and the sender's. -/
theorem cast_sub_amount {balance amount : UInt64} (h : amount ≤ balance) :
    ((balance - amount).toNat : ZMod (2 ^ 32))
      = (balance.toNat : ZMod (2 ^ 32)) - amount.toNat := by
  rw [UInt64.toNat_sub_of_le _ _ h, Nat.cast_sub (UInt64.le_iff_toNat_le.mp h)]

section Weights

variable {call : DbCall} {db db' : DbManager} {ip : InAddr} {record : ClientRecord}

/-- Whoever changes no record credits nothing. -/
theorem credits_same (h : db'.databaseRecords = db.databaseRecords) :
    call.credits db db' = 0 := by
  cases call with
  | registerClient clientIp => rfl
  | makeTransaction senderIp receiverIp amount => exact if_neg fun hnot => hnot.2 (h ▸ rfl)
  | removeClient clientIp => rfl

/-- Neither records nor totals. -/
theorem weight_same (hrecords : db'.databaseRecords = db.databaseRecords)
    (hbalance : db'.totalBalance = db.totalBalance)
    (hnumber : db'.numTransactions = db.numTransactions) :
    snapshotBooks.weight call db db' = 0 := by
  show (imbalance db' - imbalance db, _ - ((call.credits db db' : ℕ) : ZMod (2 ^ 32))) = 0
  rw [credits_same hrecords, imbalance, imbalance, hrecords, hbalance, hnumber, sub_self, sub_self,
    Nat.cast_zero, sub_zero]
  rfl

/-- A change of the total balance sets it apart from the records by as much. -/
theorem weight_totalBalance (hrecords : db'.databaseRecords = db.databaseRecords)
    (hnumber : db'.numTransactions = db.numTransactions) :
    snapshotBooks.weight call db db'
      = ((db'.totalBalance.toInt : ZMod (2 ^ 32)) - db.totalBalance.toInt, 0) := by
  show (imbalance db' - imbalance db, _ - ((call.credits db db' : ℕ) : ZMod (2 ^ 32))) = _
  rw [credits_same hrecords, imbalance, imbalance, hrecords, hnumber, sub_self, Nat.cast_zero,
    sub_zero, sub_sub_sub_cancel_right]

/-- `total_balance +=`. -/
theorem weight_issue (amount : UInt64) :
    snapshotBooks.weight call db { db with
        totalBalance := db.totalBalance + amount.toUInt32.toInt32 } = (↑amount.toNat, 0) := by
  refine (weight_totalBalance (by rfl) (by rfl)).trans (congrArg₂ Prod.mk ?_ rfl)
  rw [cast_toInt_add, cast_toInt32, add_sub_cancel_left]

/-- `total_balance -=`. -/
theorem weight_payOut (amount : UInt64) :
    snapshotBooks.weight call db { db with
        totalBalance := db.totalBalance - amount.toUInt32.toInt32 } = (- ↑amount.toNat, 0) := by
  refine (weight_totalBalance (by rfl) (by rfl)).trans (congrArg₂ Prod.mk ?_ rfl)
  rw [cast_toInt_sub, cast_toInt32, sub_sub_cancel_left]

/-- `total_transferred +=`. -/
theorem weight_transferred (amount : UInt32) :
    snapshotBooks.weight call db { db with totalTransferred := db.totalTransferred + amount } = 0 :=
  weight_same rfl rfl rfl

/-- `num_transactions++`. -/
theorem weight_counted (hrecords : db'.databaseRecords = db.databaseRecords)
    (hbalance : db'.totalBalance = db.totalBalance)
    (hnumber : db'.numTransactions = db.numTransactions + 1) :
    snapshotBooks.weight call db db' = (0, 1) := by
  show (imbalance db' - imbalance db, _ - ((call.credits db db' : ℕ) : ZMod (2 ^ 32))) = _
  rw [credits_same hrecords, imbalance, imbalance, hrecords, hbalance, hnumber, sub_self,
    cast_toInt_add, add_sub_cancel_left, Nat.cast_zero, sub_zero]
  rfl

/-- A change of the records. -/
theorem weight_records {records : Records} :
    snapshotBooks.weight call db (db.setRecords records)
      = ((sumOfBalances db.databaseRecords : ZMod (2 ^ 32)) - sumOfBalances records,
        - (call.credits db (db.setRecords records) : ZMod (2 ^ 32))) := by
  show (imbalance (db.setRecords records) - imbalance db, _ - _) = _
  rw [imbalance, imbalance]
  show ((db.totalBalance.toInt : ZMod (2 ^ 32)) - _ - (db.totalBalance.toInt - _),
    (db.numTransactions.toInt : ZMod (2 ^ 32)) - db.numTransactions.toInt - _) = _
  rw [sub_sub_sub_cancel_left, sub_self, zero_sub]
  rfl

/-- A new record. -/
theorem weight_insert {clientIp : InAddr} (hnew : ip ∉ db.databaseRecords) :
    snapshotBooks.weight (.registerClient clientIp) db
        (db.setRecords (db.databaseRecords.insert ip record))
      = (- (record.balance.toNat : ZMod (2 ^ 32)), 0) := by
  have htotal : sumOfBalances (db.databaseRecords.insert ip record)
      = record.balance.toNat + sumOfBalances db.databaseRecords :=
    Finmap.total_insert_of_notMem _ hnew record
  rw [weight_records, htotal, Nat.cast_add, sub_add_cancel_right]
  exact congrArg (Prod.mk _) neg_zero

/-- A record that is erased. -/
theorem weight_erase {clientIp : InAddr} (hrecord : db.databaseRecords.lookup ip = some record) :
    snapshotBooks.weight (.removeClient clientIp) db
        (db.setRecords (db.databaseRecords.erase ip))
      = ((record.balance.toNat : ZMod (2 ^ 32)), 0) := by
  have htotal : sumOfBalances (db.databaseRecords.erase ip) + record.balance.toNat
      = sumOfBalances db.databaseRecords := Finmap.total_erase_add _ hrecord
  rw [weight_records, ← htotal, Nat.cast_add, add_sub_cancel_left]
  exact congrArg (Prod.mk _) neg_zero

/-- A record that is changed. -/
theorem weight_modify {f : ClientRecord → ClientRecord}
    (hrecord : db.databaseRecords.lookup ip = some record) :
    snapshotBooks.weight call db (db.modify ip f)
      = ((record.balance.toNat : ZMod (2 ^ 32)) - (f record).balance.toNat,
        - (call.credits db (db.modify ip f) : ZMod (2 ^ 32))) := by
  have htotal : sumOfBalances (db.databaseRecords.insert ip (f record)) + record.balance.toNat
      = sumOfBalances db.databaseRecords + (f record).balance.toNat :=
    Finmap.total_insert_add _ hrecord (f record)
  have hsum : (sumOfBalances db.databaseRecords : ZMod (2 ^ 32))
        - sumOfBalances (db.databaseRecords.insert ip (f record))
      = (record.balance.toNat : ZMod (2 ^ 32)) - (f record).balance.toNat := by
    rw [sub_eq_sub_iff_add_eq_add, ← Nat.cast_add, ← Nat.cast_add, ← htotal, Nat.add_comm]
  rw [modify_of_mem f hrecord, weight_records, hsum]

/-- A debit is no credit. -/
theorem credits_modify_sender {senderIp receiverIp : InAddr} {amount : UInt64}
    {f : ClientRecord → ClientRecord} (hself : senderIp ≠ receiverIp) :
    (DbCall.makeTransaction senderIp receiverIp amount).credits db (db.modify senderIp f) = 0 :=
  if_neg fun hchanged => hchanged.2 (lookup_modify_of_ne f (Ne.symm hself))

/-- A credit is one. -/
theorem credits_modify_receiver {senderIp receiverIp : InAddr} {amount : UInt64}
    {f : ClientRecord → ClientRecord} (hself : senderIp ≠ receiverIp)
    (hrecord : db.databaseRecords.lookup receiverIp = some record) (hf : f record ≠ record) :
    (DbCall.makeTransaction senderIp receiverIp amount).credits db (db.modify receiverIp f)
      = 1 := by
  refine if_pos ⟨hself, ?_⟩
  rw [lookup_modify hrecord, hrecord]
  exact fun heq => hf (Option.some.inj heq)

end Weights

/-! ## What the operations owe -/

/-- The code of a ledger operation owes `debt` to the totals. -/
abbrev Owes (call : DbCall) (prog : Code) (held : Set Mutex) (db : DbManager)
    (debt : ZMod (2 ^ 32) × ZMod (2 ^ 32)) : Prop :=
  Settles snapshotBooks call prog held db debt

section Code

variable {call : DbCall} {held : Set Mutex} {ip : InAddr} {db db' : DbManager}
  {debt : ZMod (2 ^ 32) × ZMod (2 ^ 32)} {next onOutOfRange : Code}

/-- A record under a mutex in hand is what it was. -/
theorem lookup_of_agree (h : snapshotBooks.Agree held db db') (hmine : .client ip ∈ held) :
    db'.databaseRecords.lookup ip = db.databaseRecords.lookup ip :=
  (h _ hmine).symm

/-- So is the lock table under the database lock. -/
theorem clientLocks_of_agree (h : snapshotBooks.Agree held db db')
    (hdatabase : .databaseAccess ∈ held) : db'.clientLocks = db.clientLocks :=
  (h _ hdatabase).symm

/-- Only the records of clients whose mutexes are held change, and the lock table under the
database lock. -/
theorem frame_of (hlocks : .databaseAccess ∈ held ∨ db'.clientLocks = db.clientLocks)
    (hrecords : ∀ ip, .client ip ∉ held →
      db'.databaseRecords.lookup ip = db.databaseRecords.lookup ip) :
    snapshotBooks.Frame held db db' := by
  intro mutex hmutex
  cases mutex with
  | databaseAccess => exact (hlocks.resolve_left hmutex).symm
  | databaseMetadata => trivial
  | client ip => exact (hrecords ip hmutex).symm

/-- An access of which only the weight matters. -/
theorem owes_access {update : DbManager → DbManager} {next : DbManager → Code}
    (hlocks : ∀ db, (update db).clientLocks = db.clientLocks)
    (hrecords : ∀ db ip, .client ip ∉ held →
      (update db).databaseRecords.lookup ip = db.databaseRecords.lookup ip)
    (h : ∀ db', snapshotBooks.Agree held db db' → snapshotBooks.valid held db' →
      Owes call (next db') held (update db')
        (debt - snapshotBooks.weight call db' (update db'))) :
    Owes call (.access update next) held db debt := by
  intro db' hagree hvalid
  refine ⟨frame_of (Or.inr (hlocks db')) (hrecords db'), fun ip hmine => ?_, h db' hagree hvalid⟩
  rw [hlocks]
  exact hvalid ip hmine

/-- To look owes nothing. -/
theorem owes_look {next : DbManager → Code}
    (h : ∀ db', snapshotBooks.Agree held db db' → snapshotBooks.valid held db' →
      Owes call (next db') held db' debt) :
    Owes call (.access (fun db => db) next) held db debt := by
  refine owes_access (fun _ => rfl) (fun _ _ _ => rfl) fun db' hagree hvalid => ?_
  rw [weight_same rfl rfl rfl, sub_zero]
  exact h db' hagree hvalid

/-- A change of the lock table, with no client's mutex in hand. -/
theorem owes_clientLocks {update : DbManager → DbManager} {next : DbManager → Code}
    (hdatabase : .databaseAccess ∈ held) (hfree : ∀ ip, .client ip ∉ held)
    (hrecords : ∀ db, (update db).databaseRecords = db.databaseRecords)
    (hbalance : ∀ db, (update db).totalBalance = db.totalBalance)
    (hnumber : ∀ db, (update db).numTransactions = db.numTransactions)
    (h : ∀ db', snapshotBooks.Agree held db db' → Owes call (next db') held (update db') debt) :
    Owes call (.access update next) held db debt := by
  intro db' hagree _
  refine ⟨frame_of (Or.inl hdatabase) fun ip _ => by rw [hrecords],
    fun ip hmine => absurd hmine (hfree ip), ?_⟩
  rw [weight_same (hrecords db') (hbalance db') (hnumber db'), sub_zero]
  exact h db' hagree

/-- A change of the totals that pays all that is owed. -/
theorem owes_pay {update : DbManager → DbManager}
    (hlocks : ∀ db, (update db).clientLocks = db.clientLocks)
    (hrecords : ∀ db, (update db).databaseRecords = db.databaseRecords)
    (hweight : ∀ db, snapshotBooks.weight call db (update db) = debt)
    (h : ∀ db, Owes call next held db 0) :
    Owes call (.access update fun _ => next) held db debt := by
  refine owes_access hlocks (fun db ip _ => by rw [hrecords]) fun db' _ _ => ?_
  rw [hweight, sub_self]
  exact h _

/-- To take a mutex changes nothing that is owed. -/
theorem owes_lock {mutex : Mutex} (hmutex : ∀ ip, mutex ≠ .client ip)
    (h : ∀ db', snapshotBooks.Agree held db db' → snapshotBooks.valid held db' →
      Owes call next (insert mutex held) db' debt) :
    Owes call (.lock mutex next) held db debt := by
  intro db' hagree hvalid
  refine ⟨fun ip hmine => ?_, h db' hagree hvalid⟩
  exact hvalid ip (hmine.resolve_left fun heq => hmutex ip heq.symm)

/-- The same for a client's mutex. -/
theorem owes_lockClient (hdatabase : .databaseAccess ∈ held)
    (hlocked : ∀ db', Owes call next (insert (.client ip) held) db' debt)
    (hmissing : ∀ db', Owes call onOutOfRange held db' debt) :
    Owes call (lockClient ip onOutOfRange next) held db debt := by
  refine owes_look fun db' _ _ => ?_
  by_cases hip : ip ∈ db'.clientLocks
  · rw [if_pos hip]
    intro db'' hagree hvalid
    refine ⟨fun ip' hmine => ?_, hlocked db''⟩
    rcases hmine with heq | hmine
    · cases heq
      rw [clientLocks_of_agree hagree hdatabase]
      exact hip
    · exact hvalid ip' hmine
  · rw [if_neg hip]
    exact hmissing db'

/-- And to give it back. -/
theorem owes_unlockClient (hmine : .client ip ∈ held)
    (h : ∀ db', snapshotBooks.Agree held db db' → snapshotBooks.valid held db' →
      Owes call next (held \ {.client ip}) db' debt) :
    Owes call (unlockClient ip next) held db debt := by
  refine owes_look fun db' hagree hvalid => ?_
  rw [if_pos (hvalid ip hmine)]
  exact h db' hagree hvalid

/-- A record that is looked up under its mutex is the one that will be changed. -/
theorem owes_recordAt {next : ClientRecord → Code}
    (hrecord : ∀ db' record, snapshotBooks.Agree held db db' →
      db'.databaseRecords.lookup ip = some record → Owes call (next record) held db' debt)
    (hmissing : ∀ db', snapshotBooks.Agree held db db' →
      db'.databaseRecords.lookup ip = none → Owes call onOutOfRange held db' debt) :
    Owes call (recordAt ip onOutOfRange next) held db debt := by
  refine owes_look fun db' hagree _ => ?_
  cases hlookup : db'.databaseRecords.lookup ip with
  | some record => exact hrecord db' record hagree hlookup
  | none => exact hmissing db' hagree hlookup

/-- A record that is read when nothing is owed any more. -/
theorem owes_last_read {next : ClientRecord → Code} {outcome : Outcome}
    (h : ∀ record db', Owes call (next record) held db' 0) :
    Owes call (recordAt ip (.ret outcome) next) held db 0 :=
  owes_recordAt (fun db' record _ _ => h record db') fun _ _ _ => rfl

/-- A change of a record changes what is owed by its weight. -/
theorem owes_assign {f : ClientRecord → ClientRecord} {record : ClientRecord}
    (hmine : .client ip ∈ held) (hrecord : db.databaseRecords.lookup ip = some record)
    (h : ∀ db', snapshotBooks.Agree held db db' → db'.databaseRecords.lookup ip = some record →
      Owes call next held (db'.modify ip f)
        (debt - snapshotBooks.weight call db' (db'.modify ip f))) :
    Owes call (assign ip f next) held db debt := by
  refine owes_access (fun db' => modify_clientLocks db' ip f) (fun db' ip' hother => ?_)
    fun db' hagree _ => ?_
  · refine lookup_modify_of_ne f ?_
    rintro rfl
    exact hother hmine
  · have hrecord' := (lookup_of_agree hagree hmine).trans hrecord
    rw [if_pos (Finmap.mem_of_lookup_eq_some hrecord')]
    exact h db' hagree hrecord'

/-- `register_client` owes the total balance from the insertion of the record on. -/
theorem settles_registerClient (clientIp : InAddr) (db : DbManager) :
    Owes (.registerClient clientIp) (registerClient clientIp) ∅ db 0 := by
  refine owes_lock nofun fun _ _ _ => owes_clientLocks (Or.inl rfl) (by simp) (fun _ => rfl)
    (fun _ => rfl) (fun _ => rfl) fun before _ => ?_
  refine owes_lockClient (Or.inl rfl) (fun _ => ?_) fun _ => rfl
  show Owes _ (if clientIp ∈ before.clientLocks then _ else _) _ _ 0
  split
  · exact owes_unlockClient (by simp) fun _ _ _ => rfl
  · refine owes_access (fun _ => by split <;> rfl) (fun db' ip hother => ?_) fun db' _ _ => ?_
    · split
      · rfl
      · refine Finmap.lookup_insert_of_ne _ ?_
        rintro rfl
        simp at hother
    · by_cases hrecord : clientIp ∈ db'.databaseRecords
      · rw [if_pos hrecord, if_pos hrecord, weight_same rfl rfl rfl, sub_zero]
        exact owes_unlockClient (by simp) fun _ _ _ => rfl
      · rw [if_neg hrecord, if_neg hrecord, weight_insert hrecord]
        -- the total is still to come
        refine owes_unlockClient (by simp) fun _ _ _ => owes_lock nofun fun _ _ _ => ?_
        refine owes_pay (fun _ => rfl) (fun _ => rfl) (fun _ => ?_) fun _ => ?_
        · rw [weight_issue]
          exact Prod.ext (by simp) (by simp)
        · exact owes_last_read fun _ _ => rfl

/-- `remove_client` owes it from the erasure on. -/
theorem settles_removeClient (clientIp : InAddr) (db : DbManager) :
    Owes (.removeClient clientIp) (removeClient clientIp) ∅ db 0 := by
  refine owes_lock nofun fun _ _ _ => owes_lockClient (Or.inl rfl) (fun _ => ?_) fun _ => rfl
  refine owes_recordAt (fun db' clientCopy _ hcopy => ?_)
    fun _ _ _ => owes_unlockClient (by simp) fun _ _ _ => rfl
  refine owes_access (fun _ => rfl) (fun db ip hother => ?_) fun db'' hagree _ => ?_
  · refine Finmap.lookup_erase_ne ?_
    rintro rfl
    simp at hother
  have hcopy' := (lookup_of_agree hagree (by simp)).trans hcopy
  rw [weight_erase hcopy', if_neg (not_not.mpr (Finmap.mem_of_lookup_eq_some hcopy'))]
  -- the mutex is in the table as long as it is held, and then as long as the database lock is
  refine owes_lock nofun fun _ _ _ => owes_unlockClient (by simp) fun db₁ _ hvalid => ?_
  have hlocked : clientIp ∈ db₁.clientLocks := hvalid clientIp (by simp)
  refine owes_look fun db₂ hagree₂ _ => ?_
  have hlocked₂ : clientIp ∈ db₂.clientLocks :=
    (clientLocks_of_agree hagree₂ (by simp)) ▸ hlocked
  rw [if_neg (not_not.mpr hlocked₂)]
  refine owes_clientLocks (by simp) (by simp) (fun _ => rfl) (fun _ => rfl) (fun _ => rfl)
    fun db₃ hagree₃ => ?_
  have hlocked₃ : clientIp ∈ db₃.clientLocks :=
    (clientLocks_of_agree hagree₃ (by simp)) ▸ hlocked₂
  show Owes _ (if clientIp ∉ db₃.clientLocks then _ else _) _ _ _
  rw [if_neg (not_not.mpr hlocked₃)]
  refine owes_lock nofun fun _ _ _ =>
    owes_pay (fun _ => rfl) (fun _ => rfl) (fun _ => ?_) fun _ => rfl
  rw [weight_payOut]
  exact Prod.ext (by simp) (by simp)

/-- Money is debited and credited, and the transfer is still to be counted. -/
theorem owes_move {senderIp receiverIp : InAddr} {amount : UInt64} {sender receiver : ClientRecord}
    (hself : senderIp ≠ receiverIp) (hamount : amount ≠ 0) (hcovered : ¬ sender.balance < amount)
    (hsender : .client senderIp ∈ held) (hreceiver : .client receiverIp ∈ held)
    (hsender' : db.databaseRecords.lookup senderIp = some sender)
    (hreceiver' : db.databaseRecords.lookup receiverIp = some receiver)
    (h : ∀ db', Owes (.makeTransaction senderIp receiverIp amount) next held db' (0, 1)) :
    Owes (.makeTransaction senderIp receiverIp amount)
      (assign senderIp (ClientRecord.debit amount) <|
       assign receiverIp (ClientRecord.credit amount) next) held db 0 := by
  refine owes_assign hsender hsender' fun db₁ hagree hdebited => ?_
  have hreceiver₁ : (db₁.modify senderIp (ClientRecord.debit amount)).databaseRecords.lookup
      receiverIp = some receiver :=
    (lookup_modify_of_ne _ (Ne.symm hself)).trans
      ((lookup_of_agree hagree hreceiver).trans hreceiver')
  rw [weight_modify hdebited, credits_modify_sender hself]
  refine owes_assign hreceiver hreceiver₁ fun db₂ _ hcredited => ?_
  have hchanged : ClientRecord.credit amount receiver ≠ receiver := by
    intro heq
    have hsame : receiver.balance + amount = receiver.balance := congrArg ClientRecord.balance heq
    exact hamount (by simpa using hsame)
  rw [weight_modify hcredited, credits_modify_receiver hself hcredited hchanged]
  have hdebt : (0 : ZMod (2 ^ 32) × ZMod (2 ^ 32))
        - ((sender.balance.toNat : ZMod (2 ^ 32)) - (sender.debit amount).balance.toNat,
            - ((0 : ℕ) : ZMod (2 ^ 32)))
        - ((receiver.balance.toNat : ZMod (2 ^ 32)) - (receiver.credit amount).balance.toNat,
            - ((1 : ℕ) : ZMod (2 ^ 32))) = (0, 1) := by
    refine Prod.ext ?_ (by simp)
    show 0 - ((sender.balance.toNat : ZMod (2 ^ 32)) - (sender.balance - amount).toNat)
      - ((receiver.balance.toNat : ZMod (2 ^ 32)) - (receiver.balance + amount).toNat) = 0
    rw [cast_sub_amount (UInt64.not_lt.mp hcovered), cast_add_amount]
    ring
  rw [hdebt]
  exact h _

/-- `last_request++` is no business of the totals. -/
theorem owes_count {senderIp receiverIp : InAddr} {amount : UInt64} {sender : ClientRecord}
    (hself : senderIp ≠ receiverIp) (hsender : .client senderIp ∈ held)
    (hsender' : db.databaseRecords.lookup senderIp = some sender)
    (h : ∀ db', snapshotBooks.Agree held db db' →
      Owes (.makeTransaction senderIp receiverIp amount) next held
        (db'.modify senderIp ClientRecord.count) 0) :
    Owes (.makeTransaction senderIp receiverIp amount)
      (assign senderIp ClientRecord.count next) held db 0 := by
  refine owes_assign hsender hsender' fun db' hagree hrecord => ?_
  have hweight : snapshotBooks.weight (.makeTransaction senderIp receiverIp amount) db'
      (db'.modify senderIp ClientRecord.count) = 0 := by
    rw [weight_modify hrecord, credits_modify_sender hself]
    exact Prod.ext (sub_self _) (by simp)
  rw [hweight, sub_zero]
  exact h db' hagree

/-- `make_transaction` owes the amount to the balances between debit and credit, and one to the
number of transactions from the credit on. -/
theorem settles_makeTransaction (senderIp receiverIp : InAddr) (transferAmount : UInt64)
    (db : DbManager) :
    Owes (.makeTransaction senderIp receiverIp transferAmount)
      (makeTransaction senderIp receiverIp transferAmount) ∅ db 0 := by
  refine owes_lock nofun fun _ _ _ => owes_lockClient (Or.inl rfl) (fun _ => ?_) fun _ => rfl
  split
  · exact owes_unlockClient (by simp) fun _ _ _ => owes_last_read fun _ _ => rfl
  rename_i hamount
  split
  · exact owes_unlockClient (by simp) fun _ _ _ => owes_last_read fun _ _ => rfl
  rename_i hself
  refine owes_lockClient (by simp) (fun _ => ?_) fun _ =>
    owes_look fun _ _ _ => owes_unlockClient (by simp) fun _ _ _ => rfl
  refine owes_recordAt (fun db₁ sender _ hsender => ?_) fun _ _ _ =>
    owes_unlockClient (by simp) fun _ _ _ =>
      owes_unlockClient (by simp [Ne.symm hself]) fun _ _ _ => rfl
  refine owes_recordAt (fun db₂ receiver hagree₂ hreceiver => ?_) fun _ _ _ =>
    owes_unlockClient (by simp) fun _ _ _ =>
      owes_unlockClient (by simp [Ne.symm hself]) fun _ _ _ => owes_last_read fun _ _ => rfl
  have hsender₂ := (lookup_of_agree hagree₂ (by simp)).trans hsender
  refine owes_count hself (by simp) hsender₂ fun db₃ hagree₃ => ?_
  have hreceiver₃ : (db₃.modify senderIp ClientRecord.count).databaseRecords.lookup receiverIp
      = some receiver :=
    (lookup_modify_of_ne _ (Ne.symm hself)).trans
      ((lookup_of_agree hagree₃ (by simp)).trans hreceiver)
  refine owes_recordAt (fun db₄ sender₄ hagree₄ hsender₄ => ?_) fun _ _ _ => rfl
  split
  · exact owes_unlockClient (by simp) fun _ _ _ =>
      owes_unlockClient (by simp [Ne.symm hself]) fun _ _ _ => owes_last_read fun _ _ => rfl
  · rename_i hcovered
    refine owes_move hself hamount hcovered (by simp) (by simp) hsender₄
      ((lookup_of_agree hagree₄ (by simp)).trans hreceiver₃) fun _ => ?_
    refine owes_unlockClient (by simp) fun _ _ _ =>
      owes_unlockClient (by simp [Ne.symm hself]) fun _ _ _ => owes_lock nofun fun _ _ _ => ?_
    -- the totals
    refine owes_access (fun _ => rfl) (fun _ _ _ => rfl) fun _ _ _ => ?_
    rw [weight_transferred, sub_zero]
    exact owes_pay (fun _ => rfl) (fun _ => rfl) (fun _ => weight_counted rfl rfl rfl)
      fun _ => owes_last_read fun _ _ => rfl

/-- **A whole call owes nothing.** -/
theorem settles_body (call : DbCall) (db : DbManager) :
    Settles snapshotBooks call call.body ∅ db 0 := by
  cases call with
  | registerClient clientIp => exact settles_registerClient clientIp db
  | makeTransaction senderIp receiverIp transferAmount =>
      exact settles_makeTransaction senderIp receiverIp transferAmount db
  | removeClient clientIp => exact settles_removeClient clientIp db

end Code

/-! ## Runs -/

/-- How far the totals are from those of the records, with `transfers` in effect. -/
def apart (db : DbManager) (transfers : ℕ) : ZMod (2 ^ 32) × ZMod (2 ^ 32) :=
  (imbalance db, (db.numTransactions.toInt : ZMod (2 ^ 32)) - transfers)

/-- An `int` that is `n` to its width is `n` if `n` fits. -/
theorem toInt_eq_iff_lt {x : Int32} {n : ℕ} (h : (x.toInt : ZMod (2 ^ 32)) = n) :
    x.toInt = n ↔ n < 2 ^ 31 := by
  rw [← Int.cast_natCast n, ZMod.intCast_eq_intCast_iff] at h
  have hmod : x.toInt % 2 ^ 32 = (n : ℤ) % 2 ^ 32 := h
  have hlow := x.le_toInt
  have hhigh := x.toInt_lt
  constructor
  · intro heq
    omega
  · intro hfits
    omega

/-- A snapshot is consistent if the totals are not apart, and `num_transactions` has not
wrapped. -/
theorem consistent_iff {db : DbManager} {transfers : ℕ} :
    db.getDbSnapshot.Consistent transfers ↔ apart db transfers = 0 ∧ transfers < 2 ^ 31 := by
  have hmoney : db.getDbSnapshot.metadata.totalBalance.toInt
        ≡ sumOfBalances db.getDbSnapshot.records [ZMOD 2 ^ 32] ↔ imbalance db = 0 := by
    rw [imbalance, sub_eq_zero]
    refine (ZMod.intCast_eq_intCast_iff _ _ (2 ^ 32)).symm.trans ?_
    rw [Int.cast_natCast]
    rfl
  rw [apart, Prod.mk_eq_zero, ← hmoney, sub_eq_zero]
  constructor
  · rintro ⟨hbalance, hnumber⟩
    have hcount : db.numTransactions.toInt = transfers := hnumber
    have hwidth : (db.numTransactions.toInt : ZMod (2 ^ 32)) = transfers := by
      rw [hcount, Int.cast_natCast]
    exact ⟨⟨hbalance, hwidth⟩, (toInt_eq_iff_lt hwidth).mp hcount⟩
  · rintro ⟨⟨hbalance, hwidth⟩, hfits⟩
    exact ⟨hbalance, (toInt_eq_iff_lt hwidth).mpr hfits⟩

section Runs

variable {Tid : Type} [DecidableEq Tid]

/-- Whether the thread's next step completes the effect of a transfer on the records. -/
def Bank.credited (c : Bank Tid) (t : Tid) : ℕ :=
  match (c.thread t).active with
  | some (call, .access update _) => call.credits c.mem (update c.mem)
  | _ => 0

/-- The transfers whose effect a run has brought into the records. -/
def transfersMade (db : DbManager) (calls : Tid → List DbCall) (schedule : List Tid) : ℕ :=
  tally (LockProgram.step DbCall.body) Bank.credited (Config.start db calls) schedule

/-- What the call of a thread, run to its end by itself, would still add to `total_balance` more
than to the balances, and to `num_transactions` more than to the transfers in effect. -/
def Bank.owed (c : Bank Tid) (t : Tid) : ZMod (2 ^ 32) × ZMod (2 ^ 32) :=
  LockProgram.owed snapshotBooks.weight c t

variable {db : DbManager} {calls : Tid → List DbCall} {schedule : List Tid} {c c' : Bank Tid}
  {t : Tid}

/-- What a step sets apart. -/
theorem apart_step (taken : LockProgram.step DbCall.body c t = some c') (transfers : ℕ) :
    apart c'.mem (transfers + c.credited t)
      = apart c.mem transfers + stepWeight snapshotBooks.weight c t := by
  rcases step_cases taken with ⟨call, rest, hactive, hpending, rfl⟩ | ⟨call, result, hactive, rfl⟩ |
    ⟨call, mutex, next, hactive, hfree, rfl⟩ | ⟨call, mutex, next, hactive, rfl⟩ |
    ⟨call, update, next, hactive, rfl⟩
  · rw [Bank.credited, stepWeight, hactive]
    exact (add_zero _).symm
  · rw [Bank.credited, stepWeight, hactive]
    exact (add_zero _).symm
  · rw [Bank.credited, stepWeight, hactive]
    exact (add_zero _).symm
  · rw [Bank.credited, stepWeight, hactive]
    exact (add_zero _).symm
  · rw [Bank.credited, stepWeight, hactive]
    refine Prod.ext (add_sub_cancel ..).symm ?_
    show ((update c.mem).numTransactions.toInt : ZMod (2 ^ 32))
        - ((transfers + call.credits c.mem (update c.mem) : ℕ) : ZMod (2 ^ 32))
      = (c.mem.numTransactions.toInt : ZMod (2 ^ 32)) - transfers
        + ((update c.mem).numTransactions.toInt - c.mem.numTransactions.toInt
          - (call.credits c.mem (update c.mem) : ZMod (2 ^ 32)))
    rw [Nat.cast_add]
    ring

/-- A mutex in hand is in the table. -/
theorem valid_of_runs (hkeys : db.clientLocks = db.databaseRecords.keys)
    (run : Runs (LockProgram.step DbCall.body) Always (Config.start db calls) schedule c) :
    snapshotBooks.Valid c := by
  obtain ⟨c', run', rfl⟩ := (runs_reporting hkeys).mp run
  obtain ⟨seen, gap, h⟩ := consistent_of_runs hkeys run'
  exact fun t ip hmine => h.tables.locked t ip hmine

/-- Every call in progress settles what it owes. -/
theorem settled_of_runs (hkeys : db.clientLocks = db.databaseRecords.keys)
    (run : Runs (LockProgram.step DbCall.body) Always (Config.start db calls) schedule c) :
    Asserts (Settled snapshotBooks) c := by
  induction run with
  | nil => exact asserts_start _ db calls
  | snoc run _ taken ih =>
      exact ih.step (outline_settled settles_body) (tidy_of_runs hkeys run)
        (fun _ _ _ => valid_of_runs hkeys run _) taken

/-- **What is apart is owed.** -/
theorem apart_add_owed [Fintype Tid] (hkeys : db.clientLocks = db.databaseRecords.keys) (n : ℕ)
    (run : Runs (LockProgram.step DbCall.body) Always (Config.start db calls) schedule c) :
    apart c.mem (n + transfersMade db calls schedule) + ∑ t, c.owed t = apart db n := by
  induction run with
  | nil =>
      have hidle : ∀ t, Bank.owed (Config.start db calls) t = 0 := fun _ => rfl
      rw [Finset.sum_eq_zero fun t _ => hidle t, add_zero]
      rfl
  | snoc run _ taken ih =>
      have hstep := sum_owed_step settles_body (tidy_of_runs hkeys run) (settled_of_runs hkeys run)
        (valid_of_runs hkeys run) (valid_of_runs hkeys (run.snoc trivial taken)) taken
      rw [transfersMade, run.tally_snoc taken, ← Nat.add_assoc, apart_step taken, add_assoc]
      exact (congrArg _ hstep).trans ih

/-- **When a snapshot is consistent.**  Any threads, each with any calls, interleaved in any
way, from a ledger whose snapshot is: a snapshot of a later state is consistent exactly if what
the calls in progress owe cancels out, and the transfers can be counted in an `int`.

What is owed is computed from the code that a call has still to run, so it can be read off a state
without its history.  It is one sum over all calls: what two of them owe may cancel out, and then
the snapshot is consistent by chance. -/
theorem snapshot_consistent_iff [Fintype Tid] (hkeys : db.clientLocks = db.databaseRecords.keys)
    {n : ℕ} (hstart : db.getDbSnapshot.Consistent n)
    (run : Runs (LockProgram.step DbCall.body) Always (Config.start db calls) schedule c) :
    c.mem.getDbSnapshot.Consistent (n + transfersMade db calls schedule) ↔
      ∑ t, c.owed t = 0 ∧ n + transfersMade db calls schedule < 2 ^ 31 := by
  have happart := apart_add_owed hkeys n run
  rw [(consistent_iff.mp hstart).1] at happart
  rw [consistent_iff, eq_neg_of_add_eq_zero_left happart, neg_eq_zero]

/-- With no call in progress nothing is owed. -/
theorem consistent_of_idle (hkeys : db.clientLocks = db.databaseRecords.keys) [Fintype Tid] {n : ℕ}
    (hstart : db.getDbSnapshot.Consistent n)
    (run : Runs (LockProgram.step DbCall.body) Always (Config.start db calls) schedule c)
    (hidle : ∀ t, (c.thread t).active = none)
    (hfits : n + transfersMade db calls schedule < 2 ^ 31) :
    c.mem.getDbSnapshot.Consistent (n + transfersMade db calls schedule) := by
  have happart := apart_add_owed hkeys n run
  rw [(consistent_iff.mp hstart).1, Finset.sum_eq_zero fun t _ => owed_idle (hidle t), add_zero]
    at happart
  exact consistent_iff.mpr ⟨happart, hfits⟩

end Runs

/-! ## A torn snapshot -/

/-- Client 1 is registered, and client 2 on another thread. -/
def twoRegistrations : Bool → List DbCall
  | false => [.registerClient 1]
  | true => [.registerClient 2]

/-- The first client has its record, and its registration has given both mutexes back. -/
def beforeTotal : List Bool := List.replicate 9 false

/-- **A snapshot between a record and its total.**  No mutex is held. -/
theorem torn_snapshot : ∃ c,
    Runs (LockProgram.step DbCall.body) Always (Config.start DbManager.empty twoRegistrations)
      beforeTotal c ∧
    (c.holder .databaseAccess = none ∧ c.holder .databaseMetadata = none ∧
      c.holder (.client 1) = none) ∧
    ¬ c.mem.getDbSnapshot.Consistent
      (0 + transfersMade DbManager.empty twoRegistrations beforeTotal) := by
  have hrun : (perform (LockProgram.step DbCall.body)
      (Config.start DbManager.empty twoRegistrations) beforeTotal).any
        (fun c => decide ((c.holder .databaseAccess = none ∧ c.holder .databaseMetadata = none ∧
            c.holder (.client 1) = none) ∧
          ¬ c.mem.totalBalance.toInt ≡ sumOfBalances c.mem.databaseRecords [ZMOD 2 ^ 32]))
        = true := by
    decide +kernel
  obtain ⟨c, run, htorn⟩ := exists_runs_of_any hrun
  obtain ⟨hfree, htorn⟩ := of_decide_eq_true htorn
  exact ⟨c, run, hfree, fun hconsistent => htorn hconsistent.totalBalance⟩

/-- The second client has no record yet when the first one's registration is over. -/
def betweenRegistrations : List Bool := List.replicate 14 false ++ List.replicate 6 true

/-- Nothing is owed then. -/
theorem untorn_snapshot : ∃ c,
    Runs (LockProgram.step DbCall.body) Always (Config.start DbManager.empty twoRegistrations)
      betweenRegistrations c ∧
    c.mem.getDbSnapshot.Consistent
      (0 + transfersMade DbManager.empty twoRegistrations betweenRegistrations) := by
  have hrun : (perform (LockProgram.step DbCall.body)
      (Config.start DbManager.empty twoRegistrations) betweenRegistrations).any
        (fun c => decide (∑ t, Bank.owed c t = 0 ∧
          0 + transfersMade DbManager.empty twoRegistrations betweenRegistrations < 2 ^ 31))
            = true := by
    decide +kernel
  obtain ⟨c, run, howed⟩ := exists_runs_of_any hrun
  have hstart : DbManager.empty.getDbSnapshot.Consistent 0 := ⟨by decide, by decide⟩
  exact ⟨c, run, (snapshot_consistent_iff rfl hstart run).mpr (of_decide_eq_true howed)⟩

end Brix
