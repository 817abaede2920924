import Brix.Foundation.Text
import Brix.Server.Ledger

/-!
# Snapshots of the ledger

`db_snapshot`, its text form, and the two ends of the copy: `get_db_snapshot` and
`load_snapshot`.  The text is a header of three totals closed by `#` and one group
`ip balance last_request ;` for each record, in the order in which the record
table happens to iterate; `Iteration` is the type of such orders.

`from_string` is written as it runs.  It indexes a token vector unchecked and calls
the throwing conversions, so it lives in `Except Text.Fault`, in the order of the
source: a read past the end of the vector shows as `undefinedBehaviour` and comes
before or after an exception exactly as in the code.  The `% 4` check on the token
count only logs and has no trace here.

`fromString_toString` is the round trip.

### The design

`std::unordered_map` iterates in an order that the program cannot know, and `to_string` prints in
it.  An `Iteration` of a record table is a list of its entries, with the proof that these are all
of them; every statement about a printed snapshot is for all iterations.  Reading does not depend
on it: `from_string` inserts one record after the other, and the first of two with the same
address wins.

### What is load-bearing

A round trip through text is a statement about tokens (`tokens_metadataText`, `tokens_records`): a
text is read by its tokens only, so it is enough to know the tokens of what is printed.  The
tokens of a record are four, and the reader takes four at a time.  What bounds the round trip is
that the reader uses `stoi` for fields that are wider than an `int`.
-/

namespace Brix

open Text

/-- `db_snapshot`. -/
structure DbSnapshot where
  metadata : DbMetadata
  records : Records

/-- `get_db_snapshot`. -/
def DbManager.getDbSnapshot (db : DbManager) : DbSnapshot :=
  ⟨db.getDbMetadata, db.databaseRecords⟩

/-- An order in which an `unordered_map` may iterate. -/
structure Iteration (records : Records) where
  entries : List (Σ _ : InAddr, ClientRecord)
  complete : (entries : Multiset (Σ _ : InAddr, ClientRecord)) = records.entries

/-- The group of one record. -/
def recordText (record : ClientRecord) : Text :=
  field (addrToString record.ip) ++ field (showNat record.balance.toNat) ++
    field (showNat record.lastRequest.toNat) ++ field [';']

/-- The totals. -/
def metadataText (metadata : DbMetadata) : Text :=
  field (showInt metadata.numTransactions.toInt) ++
    field (showNat metadata.totalTransferred.toNat) ++
    field (showInt metadata.totalBalance.toInt) ++ field ['#']

/-- `db_snapshot::to_string`. -/
def DbSnapshot.toString (snapshot : DbSnapshot) (order : Iteration snapshot.records) : Text :=
  metadataText snapshot.metadata ++ order.entries.flatMap fun entry => recordText entry.2

/-- `records.insert`: an entry that is there already stays. -/
def Records.insertNew (records : Records) (record : ClientRecord) : Records :=
  if record.ip ∈ records then records else records.insert record.ip record

/-- The loop of `from_string`, on the tokens from `i` on. -/
def readRecords : List Text → Records → Except Fault Records
  | [], records => .ok records
  | token :: rest, records => do
      let clientIp := inetAddr token
      let clientBalance ← stoul (← index rest 0)
      let clientLastRequest ← stoi (← index rest 1)
      readRecords (rest.drop 3)
        (records.insertNew ⟨clientIp, clientBalance, clientLastRequest.toUInt32⟩)
termination_by tokens => tokens.length

/-- `db_snapshot::from_string`. -/
def DbSnapshot.fromString (serializedDb : Text) : Except Fault DbSnapshot := do
  let tokens := Text.tokens serializedDb
  let numTransactions ← stoi (← index tokens 0)
  let totalTransferred ← stoi (← index tokens 1)
  let totalBalance ← stoi (← index tokens 2)
  let metadata : DbMetadata := ⟨numTransactions, totalTransferred.toUInt32, totalBalance⟩
  let records ← readRecords (tokens.drop 4) ∅
  return ⟨metadata, records⟩

/-- `load_snapshot`.  Nothing of the old state is left. -/
def DbManager.loadSnapshot (_ : DbManager) (snapshot : DbSnapshot) : DbManager where
  clientLocks := snapshot.records.keys
  databaseRecords := snapshot.records
  totalTransferred := snapshot.metadata.totalTransferred
  numTransactions := snapshot.metadata.numTransactions
  totalBalance := snapshot.metadata.totalBalance

/-! ## Reading tokens back -/

/-- The tokens of one record. -/
def recordTokens (record : ClientRecord) : List Text :=
  [addrToString record.ip, showNat record.balance.toNat, showNat record.lastRequest.toNat, [';']]

/-- The tokens of the totals. -/
def metadataTokens (metadata : DbMetadata) : List Text :=
  [showInt metadata.numTransactions.toInt, showNat metadata.totalTransferred.toNat,
    showInt metadata.totalBalance.toInt, ['#']]

/-- The tokens of a record, -/
theorem tokens_recordText (record : ClientRecord) (rest : Text) :
    tokens (recordText record ++ rest) = recordTokens record ++ tokens rest := by
  simp only [recordText, List.append_assoc]
  rw [tokens_field (isWord_addrToString _), tokens_field (isWord_showNat _),
    tokens_field (isWord_showNat _), tokens_field (by decide)]
  rfl

/-- those of the totals, -/
theorem tokens_metadataText (metadata : DbMetadata) (rest : Text) :
    tokens (metadataText metadata ++ rest) = metadataTokens metadata ++ tokens rest := by
  simp only [metadataText, List.append_assoc]
  rw [tokens_field (isWord_showInt _), tokens_field (isWord_showNat _),
    tokens_field (isWord_showInt _), tokens_field (by decide)]
  rfl

/-- and those of any number of records. -/
theorem tokens_records (records : List ClientRecord) (rest : Text) :
    tokens (records.flatMap recordText ++ rest)
      = records.flatMap recordTokens ++ tokens rest := by
  induction records with
  | nil => rfl
  | cons record records ih =>
      rw [List.flatMap_cons, List.append_assoc, tokens_recordText, ih, List.flatMap_cons,
        List.append_assoc]

/-- One turn of the loop. -/
theorem readRecords_cons (token : Text) (rest : List Text) (records : Records) :
    readRecords (token :: rest) records = (do
      let clientIp := inetAddr token
      let clientBalance ← stoul (← index rest 0)
      let clientLastRequest ← stoi (← index rest 1)
      readRecords (rest.drop 3)
        (records.insertNew ⟨clientIp, clientBalance, clientLastRequest.toUInt32⟩)) := by
  rw [readRecords]

/-- No groups, no records. -/
@[simp] theorem readRecords_nil (records : Records) : readRecords [] records = .ok records := by
  rw [readRecords]

/-- The conversion of a printed number that `stoi` can read. -/
theorem toUInt32_ofInt_toNat (n : UInt32) : (Int32.ofInt n.toNat).toUInt32 = n := by
  rw [Int32.ofInt_eq_ofNat, Int32.toUInt32_ofNat', UInt32.ofNat_toNat]

/-- A turn of the loop that can read its group; the separator may be missing. -/
theorem readRecords_group {ip balance lastRequest : Text} {clientBalance : UInt64}
    {clientLastRequest : Int32} (hbalance : stoul balance = .ok clientBalance)
    (hlast : stoi lastRequest = .ok clientLastRequest) (tail : List Text) (records : Records) :
    readRecords (ip :: balance :: lastRequest :: tail) records
      = readRecords (tail.drop 1)
          (records.insertNew ⟨inetAddr ip, clientBalance, clientLastRequest.toUInt32⟩) := by
  rw [readRecords_cons]
  simp only [index, List.getElem?_cons_zero, List.getElem?_cons_succ, List.drop_succ_cons]
  show (do
    let clientBalance ← stoul balance
    let clientLastRequest ← stoi lastRequest
    readRecords (tail.drop 1)
      (records.insertNew ⟨inetAddr ip, clientBalance, clientLastRequest.toUInt32⟩)) = _
  rw [hbalance, hlast]
  rfl

/-- A turn of the loop on a group that was printed. -/
theorem readRecords_recordTokens {record : ClientRecord}
    (hrange : record.lastRequest.toNat < 2 ^ 31) (tail : List Text) (records : Records) :
    readRecords (addrToString record.ip :: showNat record.balance.toNat ::
        showNat record.lastRequest.toNat :: tail) records
      = readRecords (tail.drop 1) (records.insertNew record) := by
  rw [readRecords_group (stoul_showNat record.balance.toNat_lt) (stoi_showNat hrange),
    inetAddr_addrToString, UInt64.ofNat_toNat, toUInt32_ofInt_toNat]

/-- The loop on groups that were printed. -/
theorem readRecords_printed {printed : List ClientRecord}
    (hrange : ∀ record ∈ printed, record.lastRequest.toNat < 2 ^ 31)
    (rest : List Text) (records : Records) :
    readRecords (printed.flatMap recordTokens ++ rest) records
      = readRecords rest (printed.foldl Records.insertNew records) := by
  induction printed generalizing records with
  | nil => rfl
  | cons record printed ih =>
      rw [List.flatMap_cons, List.append_assoc, List.foldl_cons,
        ← ih fun r hr => hrange r (List.mem_cons_of_mem _ hr)]
      exact readRecords_recordTokens (hrange record List.mem_cons_self) _ records

/-- The header is read back, whatever follows it. -/
theorem fromString_metadata {metadata : DbMetadata}
    (hrange : metadata.totalTransferred.toNat < 2 ^ 31) {text : Text} {rest : List Text}
    (htokens : tokens text = metadataTokens metadata ++ rest) :
    DbSnapshot.fromString text
      = (readRecords rest ∅).map fun records => ⟨metadata, records⟩ := by
  have htransferred := stoi_showNat hrange
  rw [DbSnapshot.fromString, htokens, metadataTokens]
  simp only [List.cons_append, List.nil_append, index, List.getElem?_cons_zero,
    List.getElem?_cons_succ, List.drop_succ_cons, List.drop_zero]
  show (do
    let numTransactions ← stoi (showInt metadata.numTransactions.toInt)
    let totalTransferred ← stoi (showNat metadata.totalTransferred.toNat)
    let totalBalance ← stoi (showInt metadata.totalBalance.toInt)
    let records ← readRecords rest ∅
    return (⟨⟨numTransactions, totalTransferred.toUInt32, totalBalance⟩, records⟩ : DbSnapshot)) = _
  rw [stoi_showInt_toInt, htransferred, stoi_showInt_toInt]
  show (do
    let records ← readRecords rest ∅
    return (⟨⟨metadata.numTransactions, (Int32.ofInt metadata.totalTransferred.toNat).toUInt32,
      metadata.totalBalance⟩, records⟩ : DbSnapshot)) = _
  rw [toUInt32_ofInt_toNat]
  cases readRecords rest ∅ <;> rfl

/-- What a snapshot that could be read was read from. -/
theorem fromString_eq_ok {text : Text} {snapshot : DbSnapshot} :
    DbSnapshot.fromString text = .ok snapshot ↔
      ∃ t₀ t₁ t₂ n, (tokens text)[0]? = some t₀ ∧ (tokens text)[1]? = some t₁ ∧
        (tokens text)[2]? = some t₂ ∧
        stoi t₀ = .ok snapshot.metadata.numTransactions ∧ stoi t₁ = .ok n ∧
        n.toUInt32 = snapshot.metadata.totalTransferred ∧
        stoi t₂ = .ok snapshot.metadata.totalBalance ∧
        readRecords ((tokens text).drop 4) ∅ = .ok snapshot.records := by
  unfold DbSnapshot.fromString
  simp only [bind_eq_ok, index_eq_ok]
  constructor
  · rintro ⟨t₀, ht₀, numTransactions, hnum, t₁, ht₁, n, hn, t₂, ht₂, totalBalance, hbalance,
      records, hrecords, h⟩
    cases h
    exact ⟨t₀, t₁, t₂, n, ht₀, ht₁, ht₂, hnum, hn, rfl, hbalance, hrecords⟩
  · rintro ⟨t₀, t₁, t₂, n, ht₀, ht₁, ht₂, hnum, hn, htransferred, hbalance, hrecords⟩
    refine ⟨t₀, ht₀, _, hnum, t₁, ht₁, n, hn, t₂, ht₂, _, hbalance, _, hrecords, ?_⟩
    rw [htransferred]
    rfl

/-- What a group that could be read was read from. -/
theorem readRecords_cons_eq_ok {ip : Text} {rest : List Text} {records records' : Records} :
    readRecords (ip :: rest) records = .ok records' ↔
      ∃ balance clientBalance lastRequest clientLastRequest tail,
        rest = balance :: lastRequest :: tail ∧ stoul balance = .ok clientBalance ∧
        stoi lastRequest = .ok clientLastRequest ∧
        readRecords (tail.drop 1)
          (records.insertNew ⟨inetAddr ip, clientBalance, clientLastRequest.toUInt32⟩)
          = .ok records' := by
  rw [readRecords_cons]
  simp only [bind_eq_ok, index_eq_ok]
  constructor
  · rintro ⟨balance, h₀, clientBalance, hbalance, lastRequest, h₁, clientLastRequest, hlast, h⟩
    rcases rest with _ | ⟨t₀, _ | ⟨t₁, tail⟩⟩
    · cases h₀
    · cases h₁
    · cases h₀
      cases h₁
      exact ⟨balance, clientBalance, lastRequest, clientLastRequest, tail, rfl, hbalance, hlast, h⟩
  · rintro ⟨balance, clientBalance, lastRequest, clientLastRequest, tail, rfl, hbalance, hlast, h⟩
    exact ⟨balance, rfl, clientBalance, hbalance, lastRequest, rfl, clientLastRequest, hlast, h⟩

/-- Groups are read one by one: what holds of the records read, and goes from the records with one
more group to those without, holds of the records that the reading starts from. -/
theorem readRecords_induction {records' : Records} {motive : List Text → Records → Prop}
    (nil : motive [] records')
    (group : ∀ ip balance clientBalance lastRequest (clientLastRequest : Int32) tail records,
      motive (tail.drop 1)
        (records.insertNew ⟨inetAddr ip, clientBalance, clientLastRequest.toUInt32⟩) →
      motive (ip :: balance :: lastRequest :: tail) records)
    {ts : List Text} {records : Records} (h : readRecords ts records = .ok records') :
    motive ts records := by
  induction hlength : ts.length using Nat.strong_induction_on generalizing ts records with
  | _ length ih =>
      cases ts with
      | nil =>
          rw [readRecords_nil] at h
          cases h
          exact nil
      | cons ip rest =>
          obtain ⟨balance, clientBalance, lastRequest, clientLastRequest, tail, rfl, -, -, htail⟩ :=
            readRecords_cons_eq_ok.mp h
          simp only [List.length_cons] at hlength
          have hdrop : (tail.drop 1).length = tail.length - 1 := List.length_drop
          exact group ip balance clientBalance lastRequest clientLastRequest tail records
            (ih (tail.drop 1).length (by omega) htail rfl)

/-- To insert a record adds one client at most. -/
theorem Records.card_insertNew_le (records : Records) (record : ClientRecord) :
    (records.insertNew record).keys.card ≤ records.keys.card + 1 := by
  unfold Records.insertNew
  split
  · omega
  · rw [Finmap.keys_insert]
    exact Finset.card_insert_le _ _

/-- A group takes three tokens at least, so this is how many records there can be. -/
theorem card_readRecords_le {ts : List Text} {records records' : Records}
    (h : readRecords ts records = .ok records') :
    records'.keys.card ≤ records.keys.card + (ts.length + 1) / 4 := by
  refine readRecords_induction
    (motive := fun ts records => records'.keys.card ≤ records.keys.card + (ts.length + 1) / 4)
    (by omega) ?_ h
  intro ip balance clientBalance lastRequest clientLastRequest tail records hcard
  have hnew := Records.card_insertNew_le records
    ⟨inetAddr ip, clientBalance, clientLastRequest.toUInt32⟩
  rw [List.length_drop] at hcard
  simp only [List.length_cons]
  omega

/-- Every record that is read is stored under its own ip. -/
theorem readRecords_keyed {ts : List Text} {records records' : Records}
    (h : readRecords ts records = .ok records')
    (hkeyed : ∀ ip record, records.lookup ip = some record → record.ip = ip) :
    ∀ ip record, records'.lookup ip = some record → record.ip = ip := by
  refine readRecords_induction
    (motive := fun _ records => (∀ ip record, records.lookup ip = some record → record.ip = ip) →
      ∀ ip record, records'.lookup ip = some record → record.ip = ip)
    (fun hkeyed => hkeyed) ?_ h hkeyed
  intro ip balance clientBalance lastRequest clientLastRequest tail records ih hkeyed
  refine ih fun ip' record hrecord => ?_
  unfold Records.insertNew at hrecord
  split at hrecord
  · exact hkeyed ip' record hrecord
  · by_cases hip : ip' = inetAddr ip
    · subst hip
      rw [Finmap.lookup_insert] at hrecord
      rw [← Option.some.inj hrecord]
    · rw [Finmap.lookup_insert_of_ne _ hip] at hrecord
      exact hkeyed ip' record hrecord

/-- What is read is stored under its own address, so it is a ledger. -/
theorem fromString_keyed {text : Text} {snapshot : DbSnapshot}
    (h : DbSnapshot.fromString text = .ok snapshot) (ip : InAddr) (record : ClientRecord)
    (hrecord : snapshot.records.lookup ip = some record) : record.ip = ip := by
  obtain ⟨_, _, _, _, _, _, _, _, _, _, _, hread⟩ := fromString_eq_ok.mp h
  exact readRecords_keyed hread (fun _ _ hnone => by simp at hnone) ip record hrecord

/-- A snapshot that was read, as a ledger. -/
def Ledger.ofSnapshot {text : Text} {snapshot : DbSnapshot}
    (h : DbSnapshot.fromString text = .ok snapshot) : Ledger :=
  ⟨snapshot.records, fromString_keyed h, snapshot.metadata⟩

/-! ## The table read back -/

namespace Records

/-- The others are left alone, -/
theorem lookup_insertNew_of_ne {records : Records} {record : ClientRecord} {ip : InAddr}
    (h : ip ≠ record.ip) : (records.insertNew record).lookup ip = records.lookup ip := by
  rw [insertNew]
  split
  · rfl
  · exact Finmap.lookup_insert_of_ne _ h

/-- and a new record is found. -/
theorem lookup_insertNew_self {records : Records} {record : ClientRecord}
    (h : record.ip ∉ records) : (records.insertNew record).lookup record.ip = some record := by
  rw [insertNew, if_neg h, Finmap.lookup_insert]

/-- Insertion of records for other clients. -/
theorem lookup_foldl_insertNew_of_notMem {printed : List ClientRecord} {ip : InAddr}
    (h : ∀ record ∈ printed, record.ip ≠ ip) (records : Records) :
    (printed.foldl insertNew records).lookup ip = records.lookup ip := by
  induction printed generalizing records with
  | nil => rfl
  | cons record printed ih =>
      rw [List.foldl_cons, ih fun r hr => h r (List.mem_cons_of_mem _ hr),
        lookup_insertNew_of_ne (Ne.symm (h record List.mem_cons_self))]

/-- Insertion of records of distinct clients, none of which is in the table yet. -/
theorem lookup_foldl_insertNew {printed : List ClientRecord}
    (hnodup : (printed.map ClientRecord.ip).Nodup) {record : ClientRecord}
    (hmem : record ∈ printed) {records : Records} (hnew : record.ip ∉ records) :
    (printed.foldl insertNew records).lookup record.ip = some record := by
  induction printed generalizing records with
  | nil => cases hmem
  | cons head printed ih =>
      rw [List.map_cons, List.nodup_cons] at hnodup
      rw [List.foldl_cons]
      rcases List.mem_cons.mp hmem with rfl | hmem
      · rw [lookup_foldl_insertNew_of_notMem, lookup_insertNew_self hnew]
        intro r hr heq
        exact hnodup.1 (heq ▸ List.mem_map_of_mem hr)
      · refine ih hnodup.2 hmem ?_
        have hne : record.ip ≠ head.ip := by
          intro heq
          exact hnodup.1 (heq ▸ List.mem_map_of_mem hmem)
        rwa [← Finmap.lookup_eq_none, lookup_insertNew_of_ne hne, Finmap.lookup_eq_none]

end Records

namespace Iteration

variable {records : Records} (order : Iteration records)

/-- The records in the order of the iteration. -/
def printed : List ClientRecord := order.entries.map fun entry => entry.2

/-- The entries of an iteration are those of the table. -/
theorem mem_entries {ip : InAddr} {record : ClientRecord} :
    ⟨ip, record⟩ ∈ order.entries ↔ records.lookup ip = some record := by
  rw [Finmap.lookup_eq_some_iff, ← order.complete, Multiset.mem_coe]

/-- What is printed is in the table, -/
theorem exists_of_mem_printed {record : ClientRecord} (h : record ∈ order.printed) :
    ∃ ip, records.lookup ip = some record := by
  obtain ⟨⟨ip, _⟩, hmem, rfl⟩ := List.mem_map.mp h
  exact ⟨ip, order.mem_entries.mp hmem⟩

/-- and what is in the table is printed. -/
theorem mem_printed {ip : InAddr} {record : ClientRecord} (h : records.lookup ip = some record) :
    record ∈ order.printed :=
  List.mem_map_of_mem (order.mem_entries.mpr h)

/-- There are as many clients as printed records. -/
theorem card_keys : records.keys.card = order.printed.length := by
  show Multiset.card records.entries.keys = _
  rw [Multiset.keys, Multiset.card_map, ← order.complete, Multiset.coe_card, printed,
    List.length_map]

/-- A printed snapshot is its totals and its records. -/
theorem toString_eq (metadata : DbMetadata) :
    DbSnapshot.toString ⟨metadata, records⟩ order
      = metadataText metadata ++ order.printed.flatMap recordText := by
  rw [DbSnapshot.toString, printed, List.flatMap_map]

variable (hkeyed : ∀ ip record, records.lookup ip = some record → record.ip = ip)

include hkeyed

/-- Under each key its own ip is printed, so no ip is printed twice. -/
theorem nodup_printed : (order.printed.map ClientRecord.ip).Nodup := by
  have hkeys : order.printed.map ClientRecord.ip = order.entries.map Sigma.fst := by
    rw [printed, List.map_map]
    exact List.map_congr_left fun entry hentry =>
      hkeyed entry.1 entry.2 (order.mem_entries.mp hentry)
  have hnodup : (order.entries : Multiset (Σ _ : InAddr, ClientRecord)).NodupKeys :=
    order.complete ▸ records.nodupKeys
  rw [hkeys]
  exact Multiset.coe_nodupKeys.mp hnodup

/-- Inserting the printed records one by one restores the table, in whatever order
they were printed. -/
theorem foldl_insertNew_printed : order.printed.foldl Records.insertNew ∅ = records := by
  refine Finmap.ext_lookup fun ip => ?_
  cases hrecord : records.lookup ip with
  | some record =>
      obtain rfl : record.ip = ip := hkeyed ip record hrecord
      exact Records.lookup_foldl_insertNew (order.nodup_printed hkeyed)
        (order.mem_printed hrecord) Finmap.notMem_empty
  | none =>
      rw [Records.lookup_foldl_insertNew_of_notMem, Finmap.lookup_empty]
      rintro record hmem rfl
      obtain ⟨ip, hip⟩ := order.exists_of_mem_printed hmem
      rw [hkeyed ip record hip, hip] at hrecord
      cases hrecord

end Iteration

/-! ## The round trip -/

/-- The counters that are printed unsigned and read back by `stoi` fit an `int`. -/
structure DbManager.InStoiRange (db : DbManager) : Prop where
  totalTransferred : db.totalTransferred.toNat < 2 ^ 31
  lastRequest : ∀ ip record, db.databaseRecords.lookup ip = some record →
    record.lastRequest.toNat < 2 ^ 31

/-- The tokens of a snapshot's text. -/
theorem tokens_toString (snapshot : DbSnapshot) (order : Iteration snapshot.records) :
    tokens (snapshot.toString order)
      = metadataTokens snapshot.metadata ++ order.printed.flatMap recordTokens := by
  have htail := tokens_records order.printed []
  rw [List.append_nil, tokens_nil, List.append_nil] at htail
  show tokens (DbSnapshot.toString ⟨snapshot.metadata, snapshot.records⟩ order) = _
  rw [order.toString_eq, tokens_metadataText, htail]

/-- **The snapshot codec loses nothing.**  Whatever the order of the iteration, the
text of a ledger's snapshot is read back as that snapshot. -/
theorem fromString_toString (ledger : Ledger) (hrange : ledger.toDbManager.InStoiRange)
    (order : Iteration ledger.records) :
    DbSnapshot.fromString (ledger.toDbManager.getDbSnapshot.toString order)
      = .ok ledger.toDbManager.getDbSnapshot := by
  have htokens := tokens_toString ledger.toDbManager.getDbSnapshot order
  have htransferred : ledger.toDbManager.getDbSnapshot.metadata.totalTransferred.toNat < 2 ^ 31 :=
    hrange.totalTransferred
  rw [fromString_metadata htransferred htokens]
  have hlast : ∀ record ∈ order.printed, record.lastRequest.toNat < 2 ^ 31 := by
    intro record hmem
    obtain ⟨ip, hip⟩ := order.exists_of_mem_printed hmem
    exact hrange.lastRequest ip record hip
  have hread := readRecords_printed hlast [] ∅
  rw [List.append_nil, readRecords_nil, order.foldl_insertNew_printed ledger.keyed] at hread
  exact congrArg (Except.map fun records => DbSnapshot.mk ledger.toDbManager.getDbMetadata records)
    hread

/-- Loading a ledger's snapshot makes any server state that ledger. -/
@[simp] theorem loadSnapshot_getDbSnapshot (b : DbManager) (ledger : Ledger) :
    b.loadSnapshot ledger.toDbManager.getDbSnapshot = ledger.toDbManager := rfl

/-! ## Well-formed snapshots -/

/-- An address as `addr_to_string` writes it. -/
def IsAddress (t : Text) : Prop := ∃ addr : InAddr, t = addrToString addr

/-- Groups `ip balance last_request ;` whose numbers pass a test. -/
inductive Groups (fits : Text → Text → Prop) : List Text → Prop
  | nil : Groups fits []
  | cons {ip balance lastRequest : Text} {rest : List Text}
      (hip : IsAddress ip) (hbalance : IsNatural balance) (hlast : IsNatural lastRequest)
      (hfits : fits balance lastRequest) (hrest : Groups fits rest) :
      Groups fits (ip :: balance :: lastRequest :: [';'] :: rest)

/-- The grammar of snapshots: three numeric totals, `#`, then groups; the numbers
pass the tests. -/
def IsSnapshot (total : Text → Prop) (group : Text → Text → Prop) (text : Text) : Prop :=
  ∃ numTransactions totalTransferred totalBalance groups,
    tokens text = numTransactions :: totalTransferred :: totalBalance :: ['#'] :: groups ∧
    (IsInteger numTransactions ∧ total numTransactions) ∧
    (IsNatural totalTransferred ∧ total totalTransferred) ∧
    (IsInteger totalBalance ∧ total totalBalance) ∧ Groups group groups

/-- A well-formed snapshot. -/
def WellFormed (text : Text) : Prop := IsSnapshot (fun _ => True) (fun _ _ => True) text

/-- A well-formed snapshot whose numbers are in the range of the conversions that
read them. -/
def Readable (text : Text) : Prop :=
  IsSnapshot FitsInt (fun balance lastRequest => naturalValue balance < 2 ^ 64 ∧
    FitsInt lastRequest) text

/-- A weaker condition on groups holds of more of them. -/
theorem Groups.mono {fits fits' : Text → Text → Prop}
    (himp : ∀ balance lastRequest, fits balance lastRequest → fits' balance lastRequest)
    {groups : List Text} (h : Groups fits groups) : Groups fits' groups := by
  induction h with
  | nil => exact .nil
  | cons hip hbalance hlast hfits _ ih => exact .cons hip hbalance hlast (himp _ _ hfits) ih

/-- What can be read is well formed, and its numbers are in range. -/
theorem Readable.wellFormed {text : Text} (h : Readable text) : WellFormed text := by
  obtain ⟨_, _, _, groups, htokens, hnum, htransferred, hbalance, hgroups⟩ := h
  exact ⟨_, _, _, groups, htokens, ⟨hnum.1, trivial⟩, ⟨htransferred.1, trivial⟩,
    ⟨hbalance.1, trivial⟩, hgroups.mono fun _ _ _ => trivial⟩

/-- The loop reads well-formed groups exactly if their numbers are in range. -/
theorem readRecords_isOk_iff {groups : List Text} (h : Groups (fun _ _ => True) groups)
    (records : Records) :
    (∃ records', readRecords groups records = .ok records') ↔
      Groups (fun balance lastRequest => naturalValue balance < 2 ^ 64 ∧ FitsInt lastRequest)
        groups := by
  induction h generalizing records with
  | nil => exact ⟨fun _ => .nil, fun _ => ⟨records, readRecords_nil records⟩⟩
  | @cons ip balance lastRequest rest hip hbalance hlast _ _ ih =>
      constructor
      · rintro ⟨records', h⟩
        obtain ⟨_, clientBalance, _, clientLastRequest, tail, heq, hstoul, hstoi, hread⟩ :=
          readRecords_cons_eq_ok.mp h
        cases heq
        exact .cons hip hbalance hlast ⟨(stoul_isOk_iff hbalance).mp ⟨_, hstoul⟩,
          (stoi_isOk_iff hlast.isInteger).mp ⟨_, hstoi⟩⟩ ((ih _).mp ⟨records', hread⟩)
      · intro h
        cases h with
        | cons _ _ _ hfits hrest =>
            obtain ⟨clientBalance, hstoul⟩ := (stoul_isOk_iff hbalance).mpr hfits.1
            obtain ⟨clientLastRequest, hstoi⟩ := (stoi_isOk_iff hlast.isInteger).mpr hfits.2
            obtain ⟨records', hread⟩ := (ih _).mpr hrest
            exact ⟨records', readRecords_cons_eq_ok.mpr
              ⟨_, clientBalance, _, clientLastRequest, _, rfl, hstoul, hstoi, hread⟩⟩

/-- **What `from_string` reads.**  Of the well-formed snapshots, exactly those whose
numbers are in range. -/
theorem fromString_isOk_iff {text : Text} (h : WellFormed text) :
    (∃ snapshot, DbSnapshot.fromString text = .ok snapshot) ↔ Readable text := by
  obtain ⟨t₀, t₁, t₂, groups, htokens, ⟨h₀, -⟩, ⟨h₁, -⟩, ⟨h₂, -⟩, hgroups⟩ := h
  constructor
  · rintro ⟨snapshot, hread⟩
    obtain ⟨_, _, _, n, e₀, e₁, e₂, hnum, htransferred, -, hbalance, hrecords⟩ :=
      fromString_eq_ok.mp hread
    rw [htokens] at e₀ e₁ e₂ hrecords
    cases e₀
    cases e₁
    cases e₂
    exact ⟨t₀, t₁, t₂, groups, htokens, ⟨h₀, (stoi_isOk_iff h₀).mp ⟨_, hnum⟩⟩,
      ⟨h₁, (stoi_isOk_iff h₁.isInteger).mp ⟨_, htransferred⟩⟩,
      ⟨h₂, (stoi_isOk_iff h₂).mp ⟨_, hbalance⟩⟩, (readRecords_isOk_iff hgroups ∅).mp ⟨_, hrecords⟩⟩
  · rintro ⟨_, _, _, _, htokens', ⟨-, hfits₀⟩, ⟨-, hfits₁⟩, ⟨-, hfits₂⟩, hfits⟩
    rw [htokens] at htokens'
    cases htokens'
    obtain ⟨numTransactions, hnum⟩ := (stoi_isOk_iff h₀).mpr hfits₀
    obtain ⟨n, htransferred⟩ := (stoi_isOk_iff h₁.isInteger).mpr hfits₁
    obtain ⟨totalBalance, hbalance⟩ := (stoi_isOk_iff h₂).mpr hfits₂
    obtain ⟨records, hrecords⟩ := (readRecords_isOk_iff hgroups ∅).mpr hfits
    refine ⟨⟨⟨numTransactions, n.toUInt32, totalBalance⟩, records⟩, fromString_eq_ok.mpr
      ⟨t₀, t₁, t₂, n, ?_, ?_, ?_, hnum, htransferred, rfl, hbalance, ?_⟩⟩
    · rw [htokens]; rfl
    · rw [htokens]; rfl
    · rw [htokens]; rfl
    · rw [htokens]; exact hrecords

/-- No character of a well-formed snapshot is a NUL. -/
theorem nul_notMem_of_wellFormed {text : Text} (h : WellFormed text) : '\x00' ∉ text := by
  obtain ⟨t₀, t₁, t₂, groups, htokens, ⟨h₀, -⟩, ⟨h₁, -⟩, ⟨h₂, -⟩, hgroups⟩ := h
  have htail : ∀ t ∈ groups, '\x00' ∉ t := by
    clear htokens
    induction hgroups with
    | nil => simp
    | @cons ip balance lastRequest rest hip hbalance hlast _ _ ih =>
        intro t ht
        simp only [List.mem_cons] at ht
        rcases ht with rfl | rfl | rfl | rfl | ht
        · obtain ⟨addr, rfl⟩ := hip
          exact nul_notMem_addrToString addr
        · exact hbalance.isInteger.nul_notMem
        · exact hlast.isInteger.nul_notMem
        · decide
        · exact ih t ht
  intro hmem
  obtain ⟨t, ht, hnul⟩ := exists_token_of_mem (by decide) hmem
  rw [htokens] at ht
  simp only [List.mem_cons] at ht
  rcases ht with rfl | rfl | rfl | rfl | ht
  · exact h₀.nul_notMem hnul
  · exact h₁.isInteger.nul_notMem hnul
  · exact h₂.nul_notMem hnul
  · exact absurd hnul (by decide)
  · exact htail t ht hnul

/-- Printed records come in groups of four. -/
theorem groups_recordTokens (printed : List ClientRecord) :
    Groups (fun _ _ => True) (printed.flatMap recordTokens) := by
  induction printed with
  | nil => exact .nil
  | cons record printed ih =>
      exact .cons ⟨record.ip, rfl⟩ (isNatural_showNat _) (isNatural_showNat _) trivial ih

/-- Every snapshot that is written is well-formed. -/
theorem wellFormed_toString (snapshot : DbSnapshot) (order : Iteration snapshot.records) :
    WellFormed (snapshot.toString order) := by
  refine ⟨_, _, _, _, tokens_toString snapshot order, ⟨isInteger_showInt _, trivial⟩,
    ⟨isNatural_showNat _, trivial⟩, ⟨isInteger_showInt _, trivial⟩, groups_recordTokens _⟩

/-! ## Which snapshots survive the codec -/

/-- A printed number is in the range of an `int` if it is below 2³¹. -/
theorem fitsInt_showNat {n : ℕ} : FitsInt (showNat n) ↔ n < 2 ^ 31 := by
  rw [FitsInt, (isNatural_showNat n).integerValue, naturalValue, ofDigitChars_showNat]
  omega

/-- Printed groups are in range exactly if each `last_request` is. -/
theorem groups_recordTokens_iff (printed : List ClientRecord) :
    Groups (fun balance lastRequest => naturalValue balance < 2 ^ 64 ∧ FitsInt lastRequest)
        (printed.flatMap recordTokens) ↔
      ∀ record ∈ printed, record.lastRequest.toNat < 2 ^ 31 := by
  induction printed with
  | nil => exact ⟨fun _ _ hmem => absurd hmem List.not_mem_nil, fun _ => .nil⟩
  | cons record printed ih =>
      rw [List.forall_mem_cons, ← ih]
      constructor
      · intro h
        cases h with
        | cons _ _ _ hfits hrest => exact ⟨fitsInt_showNat.mp hfits.2, hrest⟩
      · rintro ⟨hlast, hrest⟩
        refine .cons ⟨record.ip, rfl⟩ (isNatural_showNat _) (isNatural_showNat _)
          ⟨?_, fitsInt_showNat.mpr hlast⟩ hrest
        rw [naturalValue, ofDigitChars_showNat]
        exact record.balance.toNat_lt

/-- **Which snapshots survive the codec.**  For any totals and any records, each under its own
ip, and any order of the iteration: those whose `total_transferred` and `last_request`s, printed
unsigned, are read back by `stoi`.

What is printed unsigned is read with `stoi`, which throws for a number that does not fit into an
`int`; balances are read with a wider conversion and are never too large.  One direction is the
round trip, and the other one reads the texts of the numbers back off the tokens. -/
theorem fromString_toString_iff (snapshot : DbSnapshot)
    (hkeyed : ∀ ip record, snapshot.records.lookup ip = some record → record.ip = ip)
    (order : Iteration snapshot.records) :
    DbSnapshot.fromString (snapshot.toString order) = .ok snapshot ↔
      snapshot.metadata.totalTransferred.toNat < 2 ^ 31 ∧
        ∀ ip record, snapshot.records.lookup ip = some record →
          record.lastRequest.toNat < 2 ^ 31 := by
  constructor
  · intro hread
    obtain ⟨_, _, _, _, htokens, -, ⟨-, htransferred⟩, -, hgroups⟩ :=
      (fromString_isOk_iff (wellFormed_toString snapshot order)).mp ⟨snapshot, hread⟩
    rw [tokens_toString] at htokens
    cases htokens
    refine ⟨fitsInt_showNat.mp htransferred, fun ip record hlookup => ?_⟩
    exact (groups_recordTokens_iff _).mp hgroups record (order.mem_printed hlookup)
  · rintro ⟨htransferred, hlast⟩
    exact fromString_toString ⟨snapshot.records, hkeyed, snapshot.metadata⟩
      ⟨htransferred, hlast⟩ order

/-- The record with the largest numbers that are read back. -/
def largestRecord : ClientRecord := ⟨1, 18446744073709551615, 2147483647⟩

/-- A snapshot of nothing else. -/
def largestSnapshot : DbSnapshot :=
  ⟨⟨-1, 2147483647, -2147483648⟩, Finmap.singleton 1 largestRecord⟩

/-- There is one record in it. -/
theorem eq_largestRecord {ip : InAddr} {record : ClientRecord}
    (h : largestSnapshot.records.lookup ip = some record) : ip = 1 ∧ record = largestRecord := by
  obtain rfl : ip = 1 := (Finmap.mem_singleton _ _ _).mp (Finmap.mem_of_lookup_eq_some h)
  rw [largestSnapshot, Finmap.lookup_singleton_eq] at h
  exact ⟨rfl, (Option.some.inj h).symm⟩

/-- The largest values that `stoi` can read come through. -/
theorem fromString_toString_largest :
    DbSnapshot.fromString (largestSnapshot.toString ⟨[⟨1, largestRecord⟩], rfl⟩)
      = .ok largestSnapshot := by
  have hkeyed : ∀ ip record, largestSnapshot.records.lookup ip = some record →
      record.ip = ip := by
    intro ip record hlookup
    obtain ⟨rfl, rfl⟩ := eq_largestRecord hlookup
    rfl
  refine (fromString_toString_iff largestSnapshot hkeyed _).mpr ⟨by decide, ?_⟩
  intro ip record hlookup
  obtain ⟨-, rfl⟩ := eq_largestRecord hlookup
  decide

/-- One unit more, printed as 2147483648, is out of `stoi`'s range. -/
theorem fromString_toString_large_total :
    DbSnapshot.fromString
        (DbSnapshot.toString ⟨⟨0, 2147483648, 0⟩, ∅⟩ ⟨[], rfl⟩)
      = .error .outOfRange := rfl

end Brix
