import Brix.Server.Alone

/-!
# What the ledger is for

Between calls the lock table and the record table have the same keys and every
record is stored under its own ip.  `Ledger` is the type of such states: the
record map and the totals, with the second fact as a field and the first one by
construction (`Ledger.toDbManager` derives the lock table).

`Ledger.register`, `Ledger.transfer` and `Ledger.remove` say in one expression
each what the three operations do to a ledger nobody else is using.
`DbCall.alone_toDbManager` is the refinement: run from a ledger with all mutexes
free, the code of a call neither blocks nor throws, releases everything, answers
what the abstract operation answers and leaves the ledger the abstract operation
leaves.

### What is load-bearing

A state of `DbManager` can be malformed in many ways, and nearly all of them would have to be
excluded in every statement about the operations.  `Ledger` excludes them by its type: the field
`keyed` is carried by every ledger that can be built, and the lock table is not a field at all.
The operations on it are built from three constructors, `store`, `forget` and `withTotals`, which
carry the proof, so that no operation has to be shown to preserve anything.

`transfer_cases` is the inversion lemma.  A transfer does one of three things to a ledger, and the
five refusals that do nothing are one case; almost everything that is said about transfers in
other modules is said by these three cases.
-/

namespace Brix

open LockProgram

/-- The records and totals of a server between calls. -/
structure Ledger where
  records : Records
  /-- Every record is stored under its own ip. -/
  keyed : ∀ ip record, records.lookup ip = some record → record.ip = ip
  totals : DbMetadata

namespace Ledger

/-- The ledger of a server that has just started. -/
def empty : Ledger := ⟨∅, fun _ _ h => by simp at h, ⟨0, 0, 0⟩⟩

/-- The server state a ledger stands for: one lock for each record. -/
def toDbManager (ledger : Ledger) : DbManager where
  clientLocks := ledger.records.keys
  databaseRecords := ledger.records
  totalTransferred := ledger.totals.totalTransferred
  numTransactions := ledger.totals.numTransactions
  totalBalance := ledger.totals.totalBalance

/-- The two beginnings are the same. -/
theorem toDbManager_empty : empty.toDbManager = DbManager.empty := rfl

/-- Store a record under its own ip. -/
def store (ledger : Ledger) (record : ClientRecord) : Ledger where
  records := ledger.records.insert record.ip record
  keyed := by
    intro ip found h
    by_cases hip : ip = record.ip
    · subst hip
      rw [Finmap.lookup_insert, Option.some.injEq] at h
      rw [← h]
    · rw [Finmap.lookup_insert_of_ne _ hip] at h
      exact ledger.keyed ip found h
  totals := ledger.totals

/-- Forget the record of an ip. -/
def forget (ledger : Ledger) (ip : InAddr) : Ledger where
  records := ledger.records.erase ip
  keyed := by
    intro ip' found h
    by_cases hip : ip' = ip
    · rw [hip, Finmap.lookup_erase] at h
      cases h
    · rw [Finmap.lookup_erase_ne hip] at h
      exact ledger.keyed ip' found h
  totals := ledger.totals

/-- Change the totals. -/
def withTotals (ledger : Ledger) (f : DbMetadata → DbMetadata) : Ledger :=
  { ledger with totals := f ledger.totals }

/-- A record is found under its own ip. -/
@[simp] theorem store_records (ledger : Ledger) (record : ClientRecord) :
    (ledger.store record).records = ledger.records.insert record.ip record := rfl

/-- The totals are a matter of their own. -/
@[simp] theorem store_totals (ledger : Ledger) (record : ClientRecord) :
    (ledger.store record).totals = ledger.totals := rfl

/-- A record is gone. -/
@[simp] theorem forget_records (ledger : Ledger) (ip : InAddr) :
    (ledger.forget ip).records = ledger.records.erase ip := rfl

/-- The totals do not notice. -/
@[simp] theorem forget_totals (ledger : Ledger) (ip : InAddr) :
    (ledger.forget ip).totals = ledger.totals := rfl

/-- A change of the totals changes no record. -/
@[simp] theorem withTotals_records (ledger : Ledger) (f : DbMetadata → DbMetadata) :
    (ledger.withTotals f).records = ledger.records := rfl

/-- It changes the totals. -/
@[simp] theorem withTotals_totals (ledger : Ledger) (f : DbMetadata → DbMetadata) :
    (ledger.withTotals f).totals = f ledger.totals := rfl

/-! ## The abstract operations -/

/-- The record of a client that has just been registered. -/
def newClient (ip : InAddr) : ClientRecord := ⟨ip, STARTING_BALANCE, STARTING_REQUEST⟩

/-- Register a client. -/
def register (ledger : Ledger) (ip : InAddr) : DbRecordResponse × Ledger :=
  if ip ∈ ledger.records then (⟨false, .empty, .duplicateIp⟩, ledger)
  else (⟨true, newClient ip, .success⟩,
    (ledger.store (newClient ip)).withTotals fun totals =>
      { totals with totalBalance := totals.totalBalance + STARTING_BALANCE.toUInt32.toInt32 })

/-- Transfer `amount` from one client to another. -/
def transfer (ledger : Ledger) (senderIp receiverIp : InAddr) (amount : UInt64) :
    DbRecordResponse × Ledger :=
  match ledger.records.lookup senderIp with
  | none => (⟨false, .empty, .unknownSender⟩, ledger)
  | some sender =>
      if amount = 0 then (⟨true, sender, .balanceCheck⟩, ledger)
      else if senderIp = receiverIp then (⟨false, sender, .duplicateIp⟩, ledger)
      else
        match ledger.records.lookup receiverIp with
        | none => (⟨false, sender, .unknownReceiver⟩, ledger)
        | some receiver =>
            if sender.balance < amount then
              (⟨false, sender.count, .insufficientBalance⟩, ledger.store sender.count)
            else (⟨true, sender.count.debit amount, .success⟩,
              ((ledger.store (sender.count.debit amount)).store
                (receiver.credit amount)).withTotals fun totals =>
                { totals with
                  totalTransferred := totals.totalTransferred + amount.toUInt32
                  numTransactions := totals.numTransactions + 1 })

section Transfer

variable {ledger : Ledger} {senderIp receiverIp : InAddr} {amount : UInt64}
  {sender receiver : ClientRecord}

/-- Who is not registered cannot pay. -/
theorem transfer_unknownSender (hsender : ledger.records.lookup senderIp = none) :
    ledger.transfer senderIp receiverIp amount = (⟨false, .empty, .unknownSender⟩, ledger) := by
  rw [transfer, hsender]

/-- A transfer of nothing asks for the balance, whoever it is to. -/
theorem transfer_balanceCheck (hsender : ledger.records.lookup senderIp = some sender) :
    ledger.transfer senderIp receiverIp 0 = (⟨true, sender, .balanceCheck⟩, ledger) := by
  simp only [transfer, hsender, if_true]

/-- Nobody can pay himself. -/
theorem transfer_self (hsender : ledger.records.lookup senderIp = some sender)
    (hzero : amount ≠ 0) :
    ledger.transfer senderIp senderIp amount = (⟨false, sender, .duplicateIp⟩, ledger) := by
  simp only [transfer, hsender, if_neg hzero, if_true]

/-- The receiver must be registered; the sender's request is not counted. -/
theorem transfer_unknownReceiver (hsender : ledger.records.lookup senderIp = some sender)
    (hzero : amount ≠ 0) (hself : senderIp ≠ receiverIp)
    (hreceiver : ledger.records.lookup receiverIp = none) :
    ledger.transfer senderIp receiverIp amount
      = (⟨false, sender, .unknownReceiver⟩, ledger) := by
  simp only [transfer, hsender, if_neg hzero, if_neg hself, hreceiver]

/-- A transfer that is not covered is counted, and moves nothing. -/
theorem transfer_insufficient (hsender : ledger.records.lookup senderIp = some sender)
    (hself : senderIp ≠ receiverIp)
    (hreceiver : ledger.records.lookup receiverIp = some receiver)
    (hshort : sender.balance < amount) :
    ledger.transfer senderIp receiverIp amount
      = (⟨false, sender.count, .insufficientBalance⟩, ledger.store sender.count) := by
  have hzero : amount ≠ 0 := by
    rintro rfl
    exact absurd hshort (by simp)
  simp only [transfer, hsender, if_neg hzero, if_neg hself, hreceiver, if_pos hshort]

/-- The state a successful transfer leaves. -/
def settled (ledger : Ledger) (sender receiver : ClientRecord) (amount : UInt64) : Ledger :=
  ((ledger.store (sender.count.debit amount)).store (receiver.credit amount)).withTotals
    fun totals => { totals with
      totalTransferred := totals.totalTransferred + amount.toUInt32
      numTransactions := totals.numTransactions + 1 }

/-- The records after a transfer that is not covered. -/
theorem lookup_counted (hsender : ledger.records.lookup senderIp = some sender) (ip : InAddr) :
    (ledger.store sender.count).records.lookup ip
      = if ip = senderIp then some sender.count else ledger.records.lookup ip := by
  have hkey : sender.ip = senderIp := ledger.keyed _ _ hsender
  rw [store_records]
  split
  · rename_i hip
    rw [hip, ← hkey]
    exact Finmap.lookup_insert _
  · rename_i hip
    exact Finmap.lookup_insert_of_ne _ (hkey ▸ hip)

/-- The records after one that is. -/
theorem lookup_settled (hsender : ledger.records.lookup senderIp = some sender)
    (hreceiver : ledger.records.lookup receiverIp = some receiver) (ip : InAddr) :
    (ledger.settled sender receiver amount).records.lookup ip
      = if ip = receiverIp then some (receiver.credit amount)
        else if ip = senderIp then some (sender.count.debit amount)
        else ledger.records.lookup ip := by
  have hkey : sender.ip = senderIp := ledger.keyed _ _ hsender
  have hkey' : receiver.ip = receiverIp := ledger.keyed _ _ hreceiver
  show ((ledger.records.insert sender.ip (sender.count.debit amount)).insert
    receiver.ip (receiver.credit amount)).lookup ip = _
  by_cases hip' : ip = receiverIp
  · rw [if_pos hip', hip', ← hkey']
    exact Finmap.lookup_insert _
  rw [if_neg hip', Finmap.lookup_insert_of_ne _ (hkey' ▸ hip')]
  by_cases hip : ip = senderIp
  · rw [if_pos hip, hip, ← hkey]
    exact Finmap.lookup_insert _
  · rw [if_neg hip]
    exact Finmap.lookup_insert_of_ne _ (hkey ▸ hip)

/-- One that is covered is counted and made. -/
theorem transfer_success (hsender : ledger.records.lookup senderIp = some sender)
    (hzero : amount ≠ 0) (hself : senderIp ≠ receiverIp)
    (hreceiver : ledger.records.lookup receiverIp = some receiver)
    (hcovered : ¬ sender.balance < amount) :
    ledger.transfer senderIp receiverIp amount
      = (⟨true, sender.count.debit amount, .success⟩,
          ledger.settled sender receiver amount) := by
  simp only [transfer, hsender, if_neg hzero, if_neg hself, hreceiver, if_neg hcovered, settled]

/-- A transfer that the ledger would carry out. -/
def Covers (ledger : Ledger) (senderIp receiverIp : InAddr) (amount : UInt64) : Prop :=
  amount ≠ 0 ∧ senderIp ≠ receiverIp ∧ receiverIp ∈ ledger.records ∧
    ∃ sender, ledger.records.lookup senderIp = some sender ∧ amount ≤ sender.balance

instance : Decidable (ledger.Covers senderIp receiverIp amount) :=
  decidable_of_iff (amount ≠ 0 ∧ senderIp ≠ receiverIp ∧ receiverIp ∈ ledger.records ∧
      (ledger.records.lookup senderIp).any (fun sender => amount ≤ sender.balance) = true)
    (by simp only [Covers, Option.any_eq_true, decide_eq_true_eq])

/-- Everything a transfer can do: nothing, count a request that is not covered, or
settle one that is. -/
theorem transfer_cases (ledger : Ledger) (senderIp receiverIp : InAddr) (amount : UInt64) :
    (¬ ledger.Covers senderIp receiverIp amount ∧
      (ledger.transfer senderIp receiverIp amount).1.statusCode ≠ .success ∧
      (ledger.transfer senderIp receiverIp amount).1.statusCode ≠ .insufficientBalance ∧
      (ledger.transfer senderIp receiverIp amount).2 = ledger) ∨
    (¬ ledger.Covers senderIp receiverIp amount ∧
      ∃ sender receiver, ledger.records.lookup senderIp = some sender ∧
        ledger.records.lookup receiverIp = some receiver ∧ senderIp ≠ receiverIp ∧
        sender.balance < amount ∧
        ledger.transfer senderIp receiverIp amount
          = (⟨false, sender.count, .insufficientBalance⟩, ledger.store sender.count)) ∨
    (ledger.Covers senderIp receiverIp amount ∧
      ∃ sender receiver, ledger.records.lookup senderIp = some sender ∧
        ledger.records.lookup receiverIp = some receiver ∧ senderIp ≠ receiverIp ∧
        amount ≤ sender.balance ∧
        ledger.transfer senderIp receiverIp amount
          = (⟨true, sender.count.debit amount, .success⟩,
              ledger.settled sender receiver amount)) := by
  cases hsender : ledger.records.lookup senderIp with
  | none =>
      rw [transfer_unknownSender hsender]
      refine Or.inl ⟨?_, nofun, nofun, rfl⟩
      rintro ⟨-, -, -, sender, hlookup, -⟩
      rw [hsender] at hlookup
      cases hlookup
  | some sender =>
      by_cases hzero : amount = 0
      · subst hzero
        rw [transfer_balanceCheck hsender]
        exact Or.inl ⟨fun h => h.1 rfl, nofun, nofun, rfl⟩
      by_cases hself : senderIp = receiverIp
      · subst hself
        rw [transfer_self hsender hzero]
        exact Or.inl ⟨fun h => h.2.1 rfl, nofun, nofun, rfl⟩
      cases hreceiver : ledger.records.lookup receiverIp with
      | none =>
          rw [transfer_unknownReceiver hsender hzero hself hreceiver]
          exact Or.inl ⟨fun h => Finmap.lookup_eq_none.mp hreceiver h.2.2.1, nofun, nofun, rfl⟩
      | some receiver =>
          have hmem := Finmap.mem_of_lookup_eq_some hreceiver
          by_cases hshort : sender.balance < amount
          · refine Or.inr (Or.inl ⟨?_, sender, receiver, rfl, rfl, hself, hshort,
              transfer_insufficient hsender hself hreceiver hshort⟩)
            rintro ⟨-, -, -, sender', hlookup, hcovered⟩
            rw [hsender] at hlookup
            cases hlookup
            exact absurd hshort (UInt64.not_lt.mpr hcovered)
          · have hcovered : amount ≤ sender.balance := UInt64.not_lt.mp hshort
            exact Or.inr (Or.inr ⟨⟨hzero, hself, hmem, sender, hsender, hcovered⟩, sender, receiver,
              rfl, rfl, hself, hcovered, transfer_success hsender hzero hself hreceiver hshort⟩)

/-- A transfer keeps every client; it counts one request of the sender, or none. -/
theorem lookup_transfer {ip : InAddr} {record : ClientRecord}
    (h : ledger.records.lookup ip = some record) :
    ∃ record', (ledger.transfer senderIp receiverIp amount).2.records.lookup ip = some record' ∧
      (record'.lastRequest = record.lastRequest ∨
        ip = senderIp ∧ record'.lastRequest = record.lastRequest + 1) := by
  rcases ledger.transfer_cases senderIp receiverIp amount with ⟨-, -, -, hsame⟩ |
    ⟨-, sender, _, hsender, -, -, -, heq⟩ | ⟨-, sender, receiver, hsender, hreceiver, hself, -, heq⟩
  · exact ⟨record, by rw [hsame, h], Or.inl rfl⟩
  · rw [heq, lookup_counted hsender]
    by_cases hip : ip = senderIp
    · subst hip
      rw [hsender] at h
      cases h
      exact ⟨record.count, if_pos rfl, Or.inr ⟨rfl, rfl⟩⟩
    · exact ⟨record, (if_neg hip).trans h, Or.inl rfl⟩
  · rw [heq, lookup_settled hsender hreceiver]
    by_cases hip' : ip = receiverIp
    · subst hip'
      rw [hreceiver] at h
      cases h
      exact ⟨record.credit amount, if_pos rfl, Or.inl rfl⟩
    rw [if_neg hip']
    by_cases hip : ip = senderIp
    · subst hip
      rw [hsender] at h
      cases h
      exact ⟨record.count.debit amount, if_pos rfl, Or.inr ⟨rfl, rfl⟩⟩
    · exact ⟨record, (if_neg hip).trans h, Or.inl rfl⟩

/-- A transfer that is carried out counts a request of the sender. -/
theorem lookup_transfer_sender
    (h : (ledger.transfer senderIp receiverIp amount).1.statusCode = .success) :
    ledger.Covers senderIp receiverIp amount ∧
    ∃ sender sender', ledger.records.lookup senderIp = some sender ∧
      (ledger.transfer senderIp receiverIp amount).2.records.lookup senderIp = some sender' ∧
      sender'.lastRequest = sender.lastRequest + 1 := by
  rcases ledger.transfer_cases senderIp receiverIp amount with ⟨-, hstatus, -, -⟩ |
    ⟨-, sender, _, -, -, -, -, heq⟩ | ⟨hcovers, sender, receiver, hsender, hreceiver, hself, -, heq⟩
  · exact absurd h hstatus
  · rw [heq] at h
    cases h
  · refine ⟨hcovers, sender, sender.count.debit amount, hsender, ?_, rfl⟩
    rw [heq, lookup_settled hsender hreceiver, if_neg hself, if_pos rfl]

/-- A transfer is carried out exactly if the ledger covers it. -/
theorem transfer_success_iff :
    (ledger.transfer senderIp receiverIp amount).1.statusCode = .success ↔
      ledger.Covers senderIp receiverIp amount := by
  constructor
  · exact fun h => (lookup_transfer_sender h).1
  · intro hcovers
    rcases ledger.transfer_cases senderIp receiverIp amount with ⟨hnot, -⟩ | ⟨hnot, -⟩ |
      ⟨-, sender, receiver, -, -, -, -, heq⟩
    · exact absurd hcovers hnot
    · exact absurd hcovers hnot
    · rw [heq]

/-- A transfer registers nobody and removes nobody. -/
theorem mem_transfer {ip : InAddr} :
    ip ∈ (ledger.transfer senderIp receiverIp amount).2.records ↔ ip ∈ ledger.records := by
  constructor
  · intro hmem
    rcases ledger.transfer_cases senderIp receiverIp amount with ⟨-, -, -, hsame⟩ |
      ⟨-, sender, _, hsender, -, -, -, heq⟩ | ⟨-, sender, receiver, hsender, hreceiver, -, -, heq⟩
    · rwa [hsame] at hmem
    · obtain ⟨record, hrecord⟩ := Finmap.mem_iff.mp hmem
      rw [heq, lookup_counted hsender] at hrecord
      split at hrecord
      · rename_i hip
        exact hip ▸ Finmap.mem_of_lookup_eq_some hsender
      · exact Finmap.mem_of_lookup_eq_some hrecord
    · obtain ⟨record, hrecord⟩ := Finmap.mem_iff.mp hmem
      rw [heq, lookup_settled hsender hreceiver] at hrecord
      split at hrecord
      · rename_i hip
        exact hip ▸ Finmap.mem_of_lookup_eq_some hreceiver
      split at hrecord
      · rename_i hip
        exact hip ▸ Finmap.mem_of_lookup_eq_some hsender
      · exact Finmap.mem_of_lookup_eq_some hrecord
  · intro hmem
    obtain ⟨record, hrecord⟩ := Finmap.mem_iff.mp hmem
    obtain ⟨record', hrecord', -⟩ := lookup_transfer hrecord
    exact Finmap.mem_of_lookup_eq_some hrecord'

end Transfer

/-- Registering a client registers nobody else. -/
theorem mem_register {ledger : Ledger} {ip ip' : InAddr} :
    ip ∈ (ledger.register ip').2.records ↔ ip = ip' ∨ ip ∈ ledger.records := by
  unfold register
  split
  · rename_i hold
    exact ⟨Or.inr, fun h => h.elim (fun hip => hip ▸ hold) id⟩
  · exact Finmap.mem_insert

/-- Registering a client leaves those there are alone. -/
theorem lookup_register {ledger : Ledger} {ip ip' : InAddr} {record : ClientRecord}
    (h : ledger.records.lookup ip = some record) :
    (ledger.register ip').2.records.lookup ip = some record := by
  unfold register
  split
  · exact h
  · rename_i hnew
    have hne : ip ≠ ip' := by
      rintro rfl
      exact hnew (Finmap.mem_of_lookup_eq_some h)
    exact (Finmap.lookup_insert_of_ne _ hne).trans h

/-- Remove a client. -/
def remove (ledger : Ledger) (ip : InAddr) : DbRecordResponse × Ledger :=
  match ledger.records.lookup ip with
  | none => (⟨false, .empty, .notFound⟩, ledger)
  | some record => (⟨true, record, .success⟩,
      (ledger.forget ip).withTotals fun totals =>
        { totals with totalBalance := totals.totalBalance - record.balance.toUInt32.toInt32 })

/-- Who is not registered cannot leave. -/
theorem remove_notFound {ledger : Ledger} {ip : InAddr}
    (h : ledger.records.lookup ip = none) :
    ledger.remove ip = (⟨false, .empty, .notFound⟩, ledger) := by
  rw [remove, h]

/-- Who leaves is paid out. -/
theorem remove_success {ledger : Ledger} {ip : InAddr} {record : ClientRecord}
    (h : ledger.records.lookup ip = some record) :
    ledger.remove ip = (⟨true, record, .success⟩,
      (ledger.forget ip).withTotals fun totals =>
        { totals with
          totalBalance := totals.totalBalance - record.balance.toUInt32.toInt32 }) := by
  rw [remove, h]

/-- Removing a client leaves the others alone. -/
theorem lookup_remove_of_ne {ledger : Ledger} {ip ip' : InAddr} (hne : ip ≠ ip') :
    (ledger.remove ip').2.records.lookup ip = ledger.records.lookup ip := by
  unfold remove
  split
  · rfl
  · exact Finmap.lookup_erase_ne hne

/-- The abstract operation of a call. -/
def apply (ledger : Ledger) : DbCall → DbRecordResponse × Ledger
  | .registerClient ip => ledger.register ip
  | .makeTransaction senderIp receiverIp amount => ledger.transfer senderIp receiverIp amount
  | .removeClient ip => ledger.remove ip

end Ledger

/-! ## Refinement -/

namespace Ledger

open DbManager

/-- What it means for the code of a call to compute an abstract operation. -/
def Computes (ledger : Ledger) (code : Code) (result : DbRecordResponse × Ledger) : Prop :=
  code.solo ledger.toDbManager ∅ = some (.returned result.1, result.2.toDbManager, ∅)

/-- Who has a record has a mutex. -/
@[simp] theorem mem_clientLocks (ledger : Ledger) (ip : InAddr) :
    ip ∈ ledger.toDbManager.clientLocks ↔ ip ∈ ledger.records := Finmap.mem_keys

/-- Locking a client that is registered, in the lock table the record map induces. -/
theorem keys_insert_self {records : Records} {ip : InAddr} (h : ip ∈ records) :
    insert ip records.keys = records.keys :=
  Finset.insert_eq_of_mem (Finmap.mem_keys.mpr h)

/-- `register_client`, symbolically executed: the two branches are those of a client that is there
and one that is not. -/
theorem computes_register (ledger : Ledger) (ip : InAddr) :
    ledger.Computes (registerClient ip) (ledger.register ip) := by
  rw [Computes, register, registerClient, solo_lockDatabase (by simp), Prog.solo,
    solo_lockClient (by simp) (by simp), solo_unlockDatabase]
  by_cases hip : ip ∈ ledger.records
  · rw [if_pos (by simpa using hip), if_pos hip, solo_unlockClient (by simp), solo_respond]
    simp [toDbManager, keys_insert_self hip, Finset.erase_insert_of_ne]
  · rw [if_neg (by simpa using hip), if_neg hip, Prog.solo,
      if_neg (by simpa [toDbManager] using hip), if_neg (by simpa [toDbManager] using hip),
      solo_unlockClient (by simp [toDbManager]), solo_lockDatabase (by simp), Prog.solo,
      solo_unlockDatabase, deref, solo_recordAt (Finmap.lookup_insert _), solo_respond]
    -- the new balance is a constant of the fixed-width types: keep it folded
    generalize STARTING_BALANCE.toUInt32.toInt32 = startingBalance
    have hkeys : (ledger.store (newClient ip)).records.keys = insert ip ledger.records.keys :=
      Finmap.keys_insert _ _ _
    rw [released_one, Finset.erase_insert (by simp)]
    simp only [toDbManager, withTotals_records, hkeys]
    rfl

/-- `make_transaction`, along the same cases as `Ledger.transfer`. -/
theorem computes_transfer (ledger : Ledger) (senderIp receiverIp : InAddr)
    (amount : UInt64) :
    ledger.Computes (makeTransaction senderIp receiverIp amount)
      (ledger.transfer senderIp receiverIp amount) := by
  rw [Computes, solo_makeTransaction rfl]
  -- both sides of the equation are given by the same checks
  suffices h : ledger.toDbManager.transferResponse senderIp receiverIp amount
        = (ledger.transfer senderIp receiverIp amount).1 ∧
      ledger.toDbManager.afterTransfer senderIp receiverIp amount
        = (ledger.transfer senderIp receiverIp amount).2.toDbManager by
    rw [h.1, h.2]
  cases hsender : ledger.records.lookup senderIp with
  | none =>
      have hlookup : ledger.toDbManager.databaseRecords.lookup senderIp = none := hsender
      rw [transfer_unknownSender hsender, transferResponse, afterTransfer, verdict, hlookup,
        getClientInfo, hlookup]
      exact ⟨rfl, rfl⟩
  | some sender =>
      have hlookup : ledger.toDbManager.databaseRecords.lookup senderIp = some sender := hsender
      have hmem : senderIp ∈ ledger.records := Finmap.mem_of_lookup_eq_some hsender
      by_cases hzero : amount = 0
      · have hverdict : ledger.toDbManager.verdict senderIp receiverIp amount = .balanceCheck :=
          verdict_zero hlookup hzero
        subst hzero
        rw [transfer_balanceCheck hsender, transferResponse, afterTransfer, hverdict,
          getClientInfo_record hlookup]
        exact ⟨rfl, rfl⟩
      by_cases hself : senderIp = receiverIp
      · have hverdict := verdict_self hlookup hzero hself
        subst hself
        rw [transfer_self hsender hzero, transferResponse, afterTransfer, hverdict,
          getClientInfo_record hlookup]
        exact ⟨rfl, rfl⟩
      cases hreceiver : ledger.records.lookup receiverIp with
      | none =>
          have hnone : receiverIp ∉ ledger.toDbManager.databaseRecords :=
            Finmap.lookup_eq_none.mp hreceiver
          rw [transfer_unknownReceiver hsender hzero hself hreceiver, transferResponse,
            afterTransfer, verdict_unknownReceiver hlookup hzero hself hnone,
            getClientInfo_record hlookup]
          exact ⟨rfl, rfl⟩
      | some receiver =>
          have hmem' : receiverIp ∈ ledger.toDbManager.databaseRecords :=
            Finmap.mem_of_lookup_eq_some hreceiver
          have hip : sender.ip = senderIp := ledger.keyed _ _ hsender
          have hip' : receiver.ip = receiverIp := ledger.keyed _ _ hreceiver
          have hkeys : insert senderIp ledger.records.keys = ledger.records.keys :=
            keys_insert_self hmem
          by_cases hshort : sender.balance < amount
          · rw [transfer_insufficient hsender hself hreceiver hshort, transferResponse,
              afterTransfer, verdict_short hlookup hzero hself hmem' hshort,
              getClientInfo_record (lookup_modify hlookup), modify_of_mem _ hlookup]
            refine ⟨rfl, ?_⟩
            subst hip
            simp [toDbManager, DbManager.setRecords, ClientRecord.count, hkeys]
          · have hdone : (ledger.toDbManager.settle senderIp receiverIp
                amount).databaseRecords.lookup senderIp = some (sender.count.debit amount) :=
              lookup_settle_sender hself hlookup
            rw [transfer_success hsender hzero hself hreceiver hshort, transferResponse,
              afterTransfer, verdict_covered hlookup hzero hself hmem' hshort,
              getClientInfo_record hdone]
            refine ⟨rfl, ?_⟩
            have hother : (ledger.toDbManager.modify senderIp
                (ClientRecord.debit amount ∘ ClientRecord.count)).databaseRecords.lookup receiverIp
                = some receiver := (lookup_modify_of_ne _ (Ne.symm hself)).trans hreceiver
            have hkeys' : insert receiverIp ledger.records.keys = ledger.records.keys :=
              keys_insert_self (Finmap.mem_of_lookup_eq_some hreceiver)
            rw [DbManager.settle, modify_of_mem _ hother, modify_of_mem _ hlookup]
            subst hip hip'
            simp [toDbManager, DbManager.setRecords, DbManager.countTransfer, settled,
              ClientRecord.count, ClientRecord.debit, ClientRecord.credit, hkeys, hkeys']

/-- `remove_client`.  With nobody else at work the second look at each table finds what the first
one left. -/
theorem computes_remove (ledger : Ledger) (ip : InAddr) :
    ledger.Computes (removeClient ip) (ledger.remove ip) := by
  rw [Computes, removeClient, solo_lockDatabase (by simp)]
  cases hrecord : ledger.records.lookup ip with
  | none =>
      have hmem : ip ∉ ledger.records := Finmap.lookup_eq_none.mp hrecord
      rw [remove_notFound hrecord, solo_lockClient_of_notMem (by simpa using hmem),
        solo_unlockDatabase, solo_respond]
      simp
  | some record =>
      have hmem : ip ∈ ledger.records := Finmap.mem_of_lookup_eq_some hrecord
      have hlock : ip ∈ ledger.toDbManager.clientLocks := by simpa using hmem
      have hheld : (((insert (.client ip) (insert .databaseAccess ∅) : Finset Mutex).erase
          .databaseAccess)) = {.client ip} := by
        simp [Finset.erase_insert_of_ne]
      rw [remove_success hrecord, solo_lockClient hlock (by simp), solo_unlockDatabase,
        solo_recordAt hrecord, Prog.solo, if_neg (by exact not_not.mpr hmem), hheld,
        solo_lockDatabase (by simp), solo_unlockClient (by exact hlock), Prog.solo, id,
        if_neg (by exact not_not.mpr hlock), Prog.solo, solo_unlockDatabase,
        if_neg (by exact not_not.mpr hlock), solo_lockDatabase (by simp), Prog.solo,
        solo_unlockDatabase, solo_respond]
      simp [toDbManager, DbManager.setRecords, Finset.erase_insert_of_ne]

/-- **The code computes the abstract operations.**  From a ledger with all mutexes
free, a call neither blocks nor throws, leaves no mutex locked, and answers and
changes what `Ledger.apply` says.

A `Ledger` is the tables of a database of which nobody holds a mutex, with the keys of the two
tables equal by construction; so what is said of ledgers needs no hypothesis about the tables. -/
theorem alone_toDbManager (ledger : Ledger) (call : DbCall) :
    call.alone ledger.toDbManager
      = some (.returned (ledger.apply call).1, (ledger.apply call).2.toDbManager) := by
  have hsolo : ledger.Computes call.body (ledger.apply call) := by
    cases call with
    | registerClient ip => exact computes_register ledger ip
    | makeTransaction senderIp receiverIp amount =>
        exact computes_transfer ledger senderIp receiverIp amount
    | removeClient ip => exact computes_remove ledger ip
  rw [Ledger.Computes] at hsolo
  simp only [DbCall.alone, hsolo, if_true]

/-- A sequence of abstract operations. -/
def applyAll : Ledger → List DbCall → List (DbCall × DbRecordResponse) × Ledger
  | ledger, [] => ([], ledger)
  | ledger, call :: rest =>
      let (response, next) := ledger.apply call
      let (log, final) := next.applyAll rest
      ((call, response) :: log, final)

/-- No calls. -/
@[simp] theorem applyAll_nil (ledger : Ledger) : ledger.applyAll [] = ([], ledger) := rfl

/-- One call, and the rest. -/
@[simp] theorem applyAll_cons (ledger : Ledger) (call : DbCall) (rest : List DbCall) :
    ledger.applyAll (call :: rest)
      = ((call, (ledger.apply call).1) :: ((ledger.apply call).2.applyAll rest).1,
          ((ledger.apply call).2.applyAll rest).2) := rfl

/-- How an abstract log reads as a log of the code. -/
def outcomes (log : List (DbCall × DbRecordResponse)) : List (DbCall × Outcome) :=
  log.map fun entry => (entry.1, .returned entry.2)

/-- **Runs refine.**  A sequence of calls never gets stuck, every call returns, and
the answers and the final state are those of the abstract operations.

The induction is on the calls, and `alone_toDbManager` is its step. -/
theorem callAll_toDbManager (ledger : Ledger) (calls : List DbCall) :
    ledger.toDbManager.callAll calls
      = some (outcomes (ledger.applyAll calls).1, (ledger.applyAll calls).2.toDbManager) := by
  induction calls generalizing ledger with
  | nil => rfl
  | cons call rest ih =>
      rw [DbManager.callAll, alone_toDbManager, Option.bind_some]
      simp only [ih, Option.map_some, applyAll_cons, outcomes, List.map_cons]

/-- The reachable states are the ledgers reached by the abstract operations. -/
theorem reachable_iff (db : DbManager) :
    db.Reachable ↔ ∃ calls, db = (empty.applyAll calls).2.toDbManager := by
  constructor
  · rintro ⟨calls, log, h⟩
    rw [← toDbManager_empty, callAll_toDbManager, Option.some.injEq, Prod.mk.injEq] at h
    exact ⟨calls, h.2.symm⟩
  · rintro ⟨calls, rfl⟩
    exact ⟨calls, _, by rw [← toDbManager_empty, callAll_toDbManager]⟩

/-- Calls that are made in two portions. -/
theorem applyAll_append (ledger : Ledger) (calls calls' : List DbCall) :
    ledger.applyAll (calls ++ calls')
      = ((ledger.applyAll calls).1 ++ ((ledger.applyAll calls).2.applyAll calls').1,
          ((ledger.applyAll calls).2.applyAll calls').2) := by
  induction calls generalizing ledger with
  | nil => rfl
  | cons call rest ih => simp only [List.cons_append, applyAll_cons, ih]

end Ledger

end Brix
