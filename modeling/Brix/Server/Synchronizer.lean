import Brix.Server.Snapshot

/-!
# The database synchronizer

`broadcast_update` puts a snapshot's text into one datagram, whatever its length.
`listen_for_updates` receives into a buffer of `MAXLINE` bytes, so that a longer
datagram is cut there, hands the buffer to `from_string` as a C string and loads
the result.  There is no handler around it: what `from_string` throws ends the
listener, and what it reads out of bounds is read.

Two results say exactly how far that goes.

* `replicated_iff`: a snapshot arrives intact if and only if its text has at most
  three characters more than the buffer, the last three being a separator that
  nothing depends on.
* `handledSafely_iff`: a datagram is handled safely, in the sense that malformed
  ones change nothing, if and only if it is not malformed in the first place.

### What is load-bearing

A datagram that is cut is cut in the middle of a token, and what is left may still be read.  So
the bound on the length is not that of the buffer: the last group of a snapshot ends with three
characters that the reader does not need, and one character more cuts off a digit, which can make
a different number of it.  That is why the condition is exact, and why it is a condition on the
length alone.
-/

namespace Brix

open Text

/-- The size of the receive buffer. -/
def MAXLINE : ℕ := 1024

/-- `broadcast_update`: the datagram that is sent. -/
def broadcastUpdate (snapshot : DbSnapshot) (order : Iteration snapshot.records) : Text :=
  snapshot.toString order

/-- One turn of `listen_for_updates`; datagrams of the server itself are ignored. -/
def listenForUpdates (selfIp : Text) (src : InAddr) (datagram : Text) (db : DbManager) :
    Except Fault DbManager :=
  if addrToString src ≠ selfIp then
    (DbSnapshot.fromString (inBuffer MAXLINE datagram)).map db.loadSnapshot
  else .ok db

/-- A datagram of another server is read and loaded. -/
theorem listenForUpdates_other {selfIp : Text} {src : InAddr} (hsrc : addrToString src ≠ selfIp)
    (datagram : Text) (db : DbManager) :
    listenForUpdates selfIp src datagram db
      = (DbSnapshot.fromString (inBuffer MAXLINE datagram)).map db.loadSnapshot :=
  if_pos hsrc

/-- The same turn of a server between calls: it ends between calls. -/
def Ledger.listenForUpdates (selfIp : Text) (src : InAddr) (datagram : Text) (ledger : Ledger) :
    Except Fault Ledger :=
  if addrToString src ≠ selfIp then
    match h : DbSnapshot.fromString (inBuffer MAXLINE datagram) with
    | .ok _ => .ok (Ledger.ofSnapshot h)
    | .error fault => .error fault
  else .ok ledger

/-- What is loaded is a ledger, whatever was in the datagram. -/
theorem Ledger.listenForUpdates_toDbManager (selfIp : Text) (src : InAddr) (datagram : Text)
    (ledger : Ledger) :
    Brix.listenForUpdates selfIp src datagram ledger.toDbManager
      = (ledger.listenForUpdates selfIp src datagram).map Ledger.toDbManager := by
  unfold Brix.listenForUpdates Ledger.listenForUpdates
  split
  · split
    · rename_i snapshot h
      exact congrArg (Except.map ledger.toDbManager.loadSnapshot) h
    · rename_i fault h
      exact congrArg (Except.map ledger.toDbManager.loadSnapshot) h
  · rfl

/-! ## How long a snapshot is -/

/-- The length of one group. -/
def recordLength (record : ClientRecord) : ℕ :=
  (addrToString record.ip).length + (showNat record.balance.toNat).length +
    (showNat record.lastRequest.toNat).length + 5

/-- The length of the header. -/
def metadataLength (metadata : DbMetadata) : ℕ :=
  (showInt metadata.numTransactions.toInt).length +
    (showNat metadata.totalTransferred.toNat).length +
    (showInt metadata.totalBalance.toInt).length + 5

/-- The length of a server's snapshot, whatever the order of its records. -/
def snapshotLength (db : DbManager) : ℕ :=
  metadataLength db.getDbMetadata + Finmap.total recordLength db.databaseRecords

/-- The length of a printed record, -/
theorem length_recordText (record : ClientRecord) :
    (recordText record).length = recordLength record := by
  simp only [recordText, field, recordLength, List.length_append, List.length_cons,
    List.length_nil]
  omega

/-- of the printed totals, -/
theorem length_metadataText (metadata : DbMetadata) :
    (metadataText metadata).length = metadataLength metadata := by
  simp only [metadataText, field, metadataLength, List.length_append, List.length_cons,
    List.length_nil]
  omega

/-- and of a whole snapshot, in whatever order it is printed. -/
theorem length_toString (db : DbManager) (order : Iteration db.databaseRecords) :
    (db.getDbSnapshot.toString order).length = snapshotLength db := by
  have hsum : (order.printed.flatMap recordText).length
      = Finmap.total recordLength db.databaseRecords := by
    rw [Finmap.total, ← order.complete, Multiset.map_coe, Multiset.sum_coe, List.length_flatMap,
      Iteration.printed, List.map_map]
    exact congrArg List.sum (List.map_congr_left fun entry _ => length_recordText entry.2)
  show (DbSnapshot.toString ⟨db.getDbMetadata, db.databaseRecords⟩ order).length = _
  rw [order.toString_eq, List.length_append, length_metadataText, hsum, snapshotLength]

/-- The header alone fits by far. -/
theorem metadataLength_le (metadata : DbMetadata) : metadataLength metadata ≤ 37 := by
  have hint : ∀ n : Int32, (showInt n.toInt).length ≤ 11 := by
    intro n
    have hlow := n.le_toInt
    have hhigh := n.toInt_lt
    exact length_showInt_le (by omega) (by omega)
  have hnat : (showNat metadata.totalTransferred.toNat).length ≤ 10 :=
    length_showNat_le (by omega) (lt_trans metadata.totalTransferred.toNat_lt (by norm_num))
  have hfirst := hint metadata.numTransactions
  have hsecond := hint metadata.totalBalance
  rw [metadataLength]
  omega

/-! ## A snapshot that is cut -/

section Cut

variable (ledger : Ledger) (others : List ClientRecord) (last : ClientRecord)

/-- A snapshot's text up to the last number in it. -/
def beforeLast : Text :=
  metadataText ledger.toDbManager.getDbMetadata ++ others.flatMap recordText ++
    field (addrToString last.ip) ++ field (showNat last.balance.toNat)

/-- The tokens of a snapshot that is cut behind its last balance. -/
theorem tokens_beforeLast (rest : Text) :
    tokens (beforeLast ledger others last ++ rest)
      = metadataTokens ledger.toDbManager.getDbMetadata ++ (others.flatMap recordTokens ++
          addrToString last.ip :: showNat last.balance.toNat :: tokens rest) := by
  simp only [beforeLast, List.append_assoc]
  rw [tokens_metadataText, tokens_records, tokens_field (isWord_addrToString _),
    tokens_field (isWord_showNat _)]

variable {ledger others last} (hrange : ledger.toDbManager.InStoiRange)
  {order : Iteration ledger.records} (hprinted : order.printed = others ++ [last])

include hprinted

/-- What is cut off, at most, is the last number and the separator. -/
theorem toString_eq_beforeLast :
    ledger.toDbManager.getDbSnapshot.toString order
      = beforeLast ledger others last ++ showNat last.lastRequest.toNat ++ [' ', ';', ' '] := by
  show DbSnapshot.toString ⟨ledger.toDbManager.getDbMetadata, ledger.records⟩ order = _
  rw [order.toString_eq, hprinted]
  simp [beforeLast, recordText, field]

include hrange

/-- Printed numbers are in range. -/
theorem lastRequest_printed_lt {record : ClientRecord} (h : record ∈ others ++ [last]) :
    record.lastRequest.toNat < 2 ^ 31 := by
  rw [← hprinted] at h
  obtain ⟨ip, hip⟩ := order.exists_of_mem_printed h
  exact hrange.lastRequest ip record hip

/-- Up to the last number everything is read back. -/
theorem fromString_beforeLast (rest : Text) :
    DbSnapshot.fromString (beforeLast ledger others last ++ rest)
      = (readRecords (addrToString last.ip :: showNat last.balance.toNat :: tokens rest)
          (others.foldl Records.insertNew ∅)).map
          fun records => ⟨ledger.toDbManager.getDbMetadata, records⟩ := by
  rw [fromString_metadata hrange.totalTransferred (tokens_beforeLast ledger others last rest),
    readRecords_printed fun record hmem =>
      lastRequest_printed_lt hrange hprinted (List.mem_append_left _ hmem)]
  rfl

/-- The separator after the last number may be missing. -/
theorem fromString_cut_separator (k : ℕ) :
    DbSnapshot.fromString (beforeLast ledger others last ++ (showNat last.lastRequest.toNat ++
      [' ', ';', ' '].take k)) = .ok ledger.toDbManager.getDbSnapshot := by
  have htokens : ∃ tail, tail.drop 1 = [] ∧
      tokens (showNat last.lastRequest.toNat ++ [' ', ';', ' '].take k)
        = showNat last.lastRequest.toNat :: tail := by
    rcases k with _ | k
    · refine ⟨[], rfl, ?_⟩
      rw [List.take_zero, List.append_nil, tokens_word (isWord_showNat _)]
    · refine ⟨tokens ([';', ' '].take k), ?_, ?_⟩
      · rcases k with _ | _ | k
        · rfl
        · rfl
        · rw [List.take_of_length_le (by simp)]
          rfl
      · rw [List.take_succ_cons, tokens_word_space (isWord_showNat _) (by decide)]
  obtain ⟨tail, htail, htokens⟩ := htokens
  have hlast : last.lastRequest.toNat < 2 ^ 31 :=
    lastRequest_printed_lt hrange hprinted (List.mem_append_right _ (List.mem_singleton_self _))
  have hfold : (others.foldl Records.insertNew ∅).insertNew last = ledger.records := by
    rw [← order.foldl_insertNew_printed ledger.keyed, hprinted, List.foldl_append]
    rfl
  rw [fromString_beforeLast hrange hprinted, htokens, readRecords_recordTokens hlast, htail,
    readRecords_nil, hfold]
  rfl

/-- Where digits of the last number are missing, its client is left with another
request number. -/
theorem records_ne_of_cut_number {cut : Text} (hne : cut ≠ [])
    (hstarts : cut <+: showNat last.lastRequest.toNat)
    (hproper : cut ≠ showNat last.lastRequest.toNat) {snapshot : DbSnapshot}
    (hread : DbSnapshot.fromString (beforeLast ledger others last ++ cut) = .ok snapshot) :
    snapshot.records ≠ ledger.records := by
  have hlast : last.lastRequest.toNat < 2 ^ 31 :=
    lastRequest_printed_lt hrange hprinted (List.mem_append_right _ (List.mem_singleton_self _))
  have hdigits : ∀ c ∈ cut, c.isDigit = true := fun c hc =>
    isDigit_of_mem_showNat (hstarts.subset hc)
  have hword : IsWord cut := ⟨hne, fun c hc => isSpace_of_isDigit (hdigits c hc)⟩
  have hnatural : IsNatural cut := ⟨hne, hdigits⟩
  have hless := naturalValue_lt_of_prefix hne hstarts hproper
  have hstoi : stoi cut = .ok (Int32.ofInt (naturalValue cut)) := by
    have hfits : FitsInt cut := by
      rw [FitsInt, hnatural.integerValue]
      omega
    rw [stoi_of_fitsInt hnatural.isInteger hfits, hnatural.integerValue]
  -- the last record comes out with the shortened number
  rw [fromString_beforeLast hrange hprinted, tokens_word hword,
    readRecords_group (stoul_showNat last.balance.toNat_lt) hstoi, List.drop_nil, readRecords_nil,
    inetAddr_addrToString] at hread
  have hmem : last ∈ order.printed := by simp [hprinted]
  obtain ⟨ip, hip⟩ := order.exists_of_mem_printed hmem
  obtain rfl : last.ip = ip := ledger.keyed ip last hip
  have hnew : last.ip ∉ others.foldl Records.insertNew ∅ := by
    rw [← Finmap.lookup_eq_none, Records.lookup_foldl_insertNew_of_notMem, Finmap.lookup_empty]
    have hnodup := order.nodup_printed ledger.keyed
    rw [hprinted, List.map_append] at hnodup
    intro record hmem heq
    exact (List.nodup_append.mp hnodup).2.2 record.ip (List.mem_map_of_mem hmem) last.ip
      (by simp) heq
  cases hread
  intro heq
  have hfound : ∀ shortened : ClientRecord, shortened.ip = last.ip →
      Finmap.lookup last.ip ((others.foldl Records.insertNew ∅).insertNew shortened)
        = some shortened := fun shortened hip' => by
    rw [← hip'] at hnew ⊢
    exact Records.lookup_insertNew_self hnew
  have hlookup := (hfound ⟨last.ip, UInt64.ofNat last.balance.toNat,
    (Int32.ofInt (naturalValue cut)).toUInt32⟩ rfl).symm.trans
      ((congrArg (Finmap.lookup last.ip) heq).trans hip)
  have hnumber := congrArg (fun record => record.lastRequest.toNat) (Option.some.inj hlookup)
  simp only [Int32.ofInt_eq_ofNat, Int32.toUInt32_ofNat', UInt32.toNat_ofNat'] at hnumber
  omega

omit hrange in
/-- Where more is missing, so is a record. -/
theorem records_ne_of_cut_before {cut : Text} (hstarts : cut <+: beforeLast ledger others last)
    {snapshot : DbSnapshot} (hread : DbSnapshot.fromString cut = .ok snapshot) :
    snapshot.records ≠ ledger.records := by
  obtain ⟨-, -, -, -, -, -, -, -, -, -, -, hrecords⟩ := fromString_eq_ok.mp hread
  have hcard := card_readRecords_le hrecords
  have hlength := length_tokens_le_of_prefix hstarts
  have htokens := tokens_beforeLast ledger others last []
  rw [List.append_nil, tokens_nil] at htokens
  have hgroups : (others.flatMap recordTokens).length = 4 * others.length := by
    rw [List.length_flatMap]
    simp [recordTokens, Nat.mul_comm]
  rw [htokens] at hlength
  simp only [metadataTokens, List.length_append, List.length_cons, List.length_nil, hgroups]
    at hlength
  rw [List.length_drop, Finmap.keys_empty, Finset.card_empty] at hcard
  have hkeys : ledger.records.keys.card = others.length + 1 := by
    rw [order.card_keys, hprinted, List.length_append, List.length_singleton]
  rintro heq
  rw [heq] at hcard
  omega

end Cut

/-- The server holds the same records and the same totals. -/
def Replicates (p b : DbManager) : Prop :=
  b.databaseRecords = p.databaseRecords ∧ b.getDbMetadata = p.getDbMetadata

/-- What the listener sees of a broadcast. -/
theorem inBuffer_broadcastUpdate (snapshot : DbSnapshot) (order : Iteration snapshot.records) :
    inBuffer MAXLINE (broadcastUpdate snapshot order) = (snapshot.toString order).take MAXLINE :=
  inBuffer_of_notMem fun hmem =>
    nul_notMem_of_wellFormed (wellFormed_toString snapshot order) (List.mem_of_mem_take hmem)

/-- A snapshot that is loaded makes the backup a replica. -/
theorem replicates_loadSnapshot (b : DbManager) (ledger : Ledger) :
    Replicates ledger.toDbManager (b.loadSnapshot ledger.toDbManager.getDbSnapshot) :=
  ⟨rfl, rfl⟩

/-- The snapshot arrives if and only if the cut text is read as a snapshot with the
same records and totals. -/
theorem replicates_iff {ledger : Ledger} {order : Iteration ledger.records} {selfIp : Text}
    {src : InAddr} (hsrc : addrToString src ≠ selfIp) (b : DbManager) :
    (∃ b', listenForUpdates selfIp src (broadcastUpdate ledger.toDbManager.getDbSnapshot order) b
        = .ok b' ∧ Replicates ledger.toDbManager b') ↔
      DbSnapshot.fromString ((ledger.toDbManager.getDbSnapshot.toString order).take MAXLINE)
        = .ok ledger.toDbManager.getDbSnapshot := by
  have hseen := inBuffer_broadcastUpdate ledger.toDbManager.getDbSnapshot order
  rw [listenForUpdates_other hsrc, hseen]
  cases hread : DbSnapshot.fromString
      ((ledger.toDbManager.getDbSnapshot.toString order).take MAXLINE) with
  | error fault => exact ⟨fun ⟨_, h, _⟩ => (nomatch h), fun h => (nomatch h)⟩
  | ok snapshot =>
      constructor
      · rintro ⟨b', hb', hrecords, hmetadata⟩
        cases hb'
        have hsnapshot : snapshot = ⟨snapshot.metadata, snapshot.records⟩ := rfl
        rw [hsnapshot]
        exact congrArg Except.ok (congrArg₂ DbSnapshot.mk hmetadata hrecords)
      · intro h
        cases h
        exact ⟨_, rfl, replicates_loadSnapshot b ledger⟩

/-- Cut at the size of the buffer, a snapshot's text is still that snapshot if and only
if nothing but the last separator is lost. -/
theorem fromString_take_iff {ledger : Ledger} (hrange : ledger.toDbManager.InStoiRange)
    (order : Iteration ledger.records) :
    DbSnapshot.fromString ((ledger.toDbManager.getDbSnapshot.toString order).take MAXLINE)
        = .ok ledger.toDbManager.getDbSnapshot ↔
      snapshotLength ledger.toDbManager ≤ MAXLINE + 3 := by
  have hlength := length_toString ledger.toDbManager order
  rcases List.eq_nil_or_concat order.printed with hnone | ⟨others, last, hprinted⟩
  · -- without a record the text is the header, and whole
    have hkeys := order.card_keys
    have hshort : snapshotLength ledger.toDbManager ≤ 37 := by
      have htext := order.toString_eq ledger.toDbManager.getDbMetadata
      rw [hnone, List.flatMap_nil, List.append_nil] at htext
      have hheader := congrArg List.length htext
      rw [length_metadataText] at hheader
      exact (hlength.symm.trans hheader).le.trans (metadataLength_le _)
    have hfits : 37 ≤ MAXLINE := by decide
    have hwhole : (ledger.toDbManager.getDbSnapshot.toString order).take MAXLINE
        = ledger.toDbManager.getDbSnapshot.toString order :=
      List.take_of_length_le (by omega)
    rw [hwhole]
    refine iff_of_true ?_ (by omega)
    exact fromString_toString ledger hrange order
  rw [List.concat_eq_append] at hprinted
  have htext := toString_eq_beforeLast hprinted
  generalize hfront : beforeLast ledger others last = front at htext
  generalize hnumber : showNat last.lastRequest.toNat = number at htext
  rw [htext] at hlength ⊢
  simp only [List.length_append, List.length_cons, List.length_nil] at hlength
  constructor
  · intro hread
    by_contra hlong
    by_cases hcut : MAXLINE ≤ front.length
    · -- the cut is before the last number
      rw [List.append_assoc, List.take_append_of_le_length hcut] at hread
      exact records_ne_of_cut_before hprinted (hfront ▸ List.take_prefix _ _) hread rfl
    · -- the cut is inside the last number
      have htake : (front ++ number ++ [' ', ';', ' ']).take MAXLINE
          = front ++ number.take (MAXLINE - front.length) := by
        rw [List.take_append_of_le_length (by rw [List.length_append]; omega), List.take_append,
          List.take_of_length_le (by omega)]
      rw [htake] at hread
      subst hfront
      refine records_ne_of_cut_number hrange hprinted ?_ ?_ ?_ hread rfl
      · rw [← List.length_pos_iff, List.length_take]
        omega
      · rw [hnumber]
        exact List.take_prefix _ _
      · rw [hnumber]
        intro heq
        have hcount := congrArg List.length heq
        rw [List.length_take] at hcount
        omega
  · intro hfits
    have htake : (front ++ number ++ [' ', ';', ' ']).take MAXLINE
        = front ++ (number ++ [' ', ';', ' '].take (MAXLINE - (front ++ number).length)) := by
      rw [List.take_append, List.take_of_length_le (by rw [List.length_append]; omega),
        List.append_assoc]
    rw [htake, ← hfront, ← hnumber]
    exact fromString_cut_separator hrange hprinted _

/-- **When replication works.**  A backup that receives the broadcast of a reachable
primary, whose counters `stoi` can read, ends with the primary's records and totals
if and only if the snapshot's text has at most `MAXLINE + 3` characters.

A text that is cut is not always refused.  It may be cut inside the last number, and then another
snapshot is read; or after it, where only the separator and its blanks are missing, and then it is
the same one.  These are the three characters of the bound. -/
theorem replicated_iff {p : DbManager} (hp : p.Reachable) (hrange : p.InStoiRange)
    (order : Iteration p.databaseRecords) {selfIp : Text} {src : InAddr}
    (hsrc : addrToString src ≠ selfIp) (b : DbManager) :
    (∃ b', listenForUpdates selfIp src (broadcastUpdate p.getDbSnapshot order) b = .ok b' ∧
      Replicates p b') ↔ snapshotLength p ≤ MAXLINE + 3 := by
  obtain ⟨calls, rfl⟩ := (Ledger.reachable_iff p).mp hp
  exact (replicates_iff hsrc b).trans (fromString_take_iff hrange order)

/-- The range of a given ledger can be checked record by record. -/
theorem inStoiRange_toDbManager {ledger : Ledger}
    (htransferred : ledger.totals.totalTransferred.toNat < 2 ^ 31)
    (hlast : ∀ entry ∈ ledger.records.entries, entry.2.lastRequest.toNat < 2 ^ 31) :
    ledger.toDbManager.InStoiRange where
  totalTransferred := htransferred
  lastRequest ip record h := hlast ⟨ip, record⟩ (Finmap.lookup_eq_some_iff.mp h)

/-- The counters of a ledger. -/
theorem inStoiRange_iff (ledger : Ledger) :
    ledger.toDbManager.InStoiRange ↔ ledger.totals.totalTransferred.toNat < 2 ^ 31 ∧
      ∀ ip record, ledger.records.lookup ip = some record →
        record.lastRequest.toNat < 2 ^ 31 :=
  ⟨fun h => ⟨h.totalTransferred, h.lastRequest⟩, fun h => ⟨h.1, h.2⟩⟩

/-- A new client has made no request. -/
theorem inStoiRange_register {ledger : Ledger} (h : ledger.toDbManager.InStoiRange) (ip : InAddr) :
    (ledger.register ip).2.toDbManager.InStoiRange := by
  by_cases hip : ip ∈ ledger.records
  · rwa [Ledger.register, if_pos hip]
  · rw [inStoiRange_iff] at h
    rw [Ledger.register, if_neg hip, inStoiRange_iff, Ledger.withTotals_totals,
      Ledger.store_totals, Ledger.withTotals_records, Ledger.store_records]
    refine ⟨h.1, fun ip' record hlookup => ?_⟩
    have hinsert : (ledger.records.insert ip (Ledger.newClient ip)).lookup ip' = some record :=
      hlookup
    by_cases heq : ip' = ip
    · rw [heq, Finmap.lookup_insert, Option.some.injEq] at hinsert
      rw [← hinsert]
      show STARTING_REQUEST.toNat < 2 ^ 31
      decide
    · rw [Finmap.lookup_insert_of_ne _ heq] at hinsert
      exact h.2 ip' record hinsert

/-- Clients that are only registered leave the counters where they are. -/
theorem inStoiRange_registerAll {ledger : Ledger} (h : ledger.toDbManager.InStoiRange)
    (ips : List InAddr) :
    (ledger.applyAll (ips.map .registerClient)).2.toDbManager.InStoiRange := by
  induction ips generalizing ledger with
  | nil => exact h
  | cons ip rest ih => exact ih (inStoiRange_register h ip)

/-- A server with two clients, after one transfer. -/
def twoClients : Ledger :=
  (Ledger.empty.applyAll [.registerClient 1, .registerClient 2, .makeTransaction 1 2 40]).2

/-- Two clients can register. -/
theorem reachable_twoClients : twoClients.toDbManager.Reachable :=
  (Ledger.reachable_iff _).mpr ⟨_, rfl⟩

/-- Their numbers are small. -/
theorem inStoiRange_twoClients : twoClients.toDbManager.InStoiRange :=
  inStoiRange_toDbManager (by decide) (by decide)

/-- One order in which its table can iterate. -/
def twoClientsOrder : Iteration twoClients.records where
  entries := [⟨2, 2, 100040, 0⟩, ⟨1, 1, 99960, 1⟩]
  complete := by decide

/-- Its snapshot is replicated. -/
theorem twoClients_replicated :
    ∃ b', listenForUpdates (addrToString 4) 3
        (broadcastUpdate twoClients.toDbManager.getDbSnapshot twoClientsOrder) DbManager.empty
          = .ok b' ∧ Replicates twoClients.toDbManager b' :=
  (replicated_iff reachable_twoClients inStoiRange_twoClients twoClientsOrder (by decide) _).mpr
    (by decide)

/-- A server with fifty-four clients. -/
def manyClients : Ledger :=
  (Ledger.empty.applyAll ((List.range 54).map fun i => .registerClient (UInt32.ofNat i))).2

/-- **A snapshot that is not replicated.**  The clients have just been registered,
under the addresses `0.0.0.0` to `53.0.0.0`. -/
theorem manyClients_not_replicated :
    manyClients.toDbManager.Reachable ∧ manyClients.toDbManager.InStoiRange ∧
    ∀ order : Iteration manyClients.records,
      ¬ ∃ b', listenForUpdates (addrToString 4) 3
        (broadcastUpdate manyClients.toDbManager.getDbSnapshot order) DbManager.empty = .ok b' ∧
          Replicates manyClients.toDbManager b' := by
  have hempty : Ledger.empty.toDbManager.InStoiRange :=
    inStoiRange_toDbManager (by decide) (by decide)
  have hrange : manyClients.toDbManager.InStoiRange := by
    have hregistered := inStoiRange_registerAll hempty ((List.range 54).map UInt32.ofNat)
    rw [List.map_map] at hregistered
    exact hregistered
  refine ⟨(Ledger.reachable_iff _).mpr ⟨_, rfl⟩, hrange, fun order => ?_⟩
  rw [replicates_iff (by decide), fromString_take_iff hrange order]
  decide +kernel

/-! ## Malformed datagrams -/

/-- A datagram is handled safely: the call returns whatever the server's state is, and
unless the datagram is well-formed it leaves the state alone. -/
def HandledSafely (selfIp : Text) (src : InAddr) (datagram : Text) : Prop :=
  ∀ b, ∃ b', listenForUpdates selfIp src datagram b = .ok b' ∧
    (¬ WellFormed (datagram.take MAXLINE) → b' = b)

/-- **When a datagram is handled safely.**  If and only if it is the server's own,
which is ignored, or what the buffer holds of it is a well-formed snapshot with
every number in range.

Safety is asked for in every state of the receiver.  That is why a malformed datagram cannot be
safe by chance, by leading to the state that there was already: there are two states to compare,
and it leads to the same one from both. -/
theorem handledSafely_iff (selfIp : Text) (src : InAddr) (datagram : Text) :
    HandledSafely selfIp src datagram ↔
      addrToString src = selfIp ∨ Readable (datagram.take MAXLINE) := by
  by_cases hsrc : addrToString src = selfIp
  · refine iff_of_true (fun b => ⟨b, ?_, fun _ => rfl⟩) (Or.inl hsrc)
    exact if_neg (not_not.mpr hsrc)
  constructor
  · intro hsafe
    have hformed : WellFormed (datagram.take MAXLINE) := by
      by_contra hmalformed
      -- a state the loaded one is different from
      obtain ⟨b', hb', hunchanged⟩ := hsafe DbManager.empty
      obtain ⟨c', hc', hchanged⟩ := hsafe { DbManager.empty with numTransactions := 1 }
      rw [listenForUpdates_other hsrc] at hb' hc'
      cases hread : DbSnapshot.fromString (inBuffer MAXLINE datagram) with
      | error fault => rw [hread] at hb'; cases hb'
      | ok snapshot =>
          rw [hread] at hb' hc'
          have hsame : b' = c' := (Except.ok.inj hb').symm.trans (Except.ok.inj hc')
          rw [hunchanged hmalformed, hchanged hmalformed] at hsame
          exact absurd (congrArg DbManager.numTransactions hsame) (by decide)
    obtain ⟨b', hb', -⟩ := hsafe DbManager.empty
    rw [listenForUpdates_other hsrc, inBuffer_of_notMem (nul_notMem_of_wellFormed hformed)] at hb'
    cases hread : DbSnapshot.fromString (datagram.take MAXLINE) with
    | error fault => rw [hread] at hb'; cases hb'
    | ok snapshot => exact Or.inr ((fromString_isOk_iff hformed).mp ⟨snapshot, hread⟩)
  · intro h b
    have hreadable := h.resolve_left hsrc
    obtain ⟨snapshot, hread⟩ := (fromString_isOk_iff hreadable.wellFormed).mpr hreadable
    refine ⟨b.loadSnapshot snapshot, ?_, fun hmalformed => absurd hreadable.wellFormed hmalformed⟩
    rw [listenForUpdates_other hsrc,
      inBuffer_of_notMem (nul_notMem_of_wellFormed hreadable.wellFormed), hread]
    rfl

/-- **The empty datagram.**  Its first token is read although there is none, whatever
the state of the server. -/
theorem empty_datagram_reads_out_of_bounds :
    (∀ b, listenForUpdates (addrToString 4) 3 [] b = .error .undefinedBehaviour) ∧
    ¬ HandledSafely (addrToString 4) 3 [] := by
  have hfault : ∀ b, listenForUpdates (addrToString 4) 3 [] b = .error .undefinedBehaviour := by
    intro b
    rw [listenForUpdates_other (by decide)]
    rfl
  refine ⟨hfault, fun hsafe => ?_⟩
  obtain ⟨b', hb', -⟩ := hsafe DbManager.empty
  rw [hfault] at hb'
  cases hb'

end Brix
