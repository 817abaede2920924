import Brix.Server.Synchronizer

/-!
# How many clients can be replicated

`listen_for_updates` has room for `MAXLINE` bytes, and a snapshot is as long as the decimal numbers
in it.  Whatever the balances are, nineteen records fit, and seventy-three do not.

The two bounds come from the widths of the fields alone.  A record takes fifty characters at most
and fourteen at least, so what lies between the two numbers of clients depends on their balances
and addresses.
-/

namespace Brix

open Text

/-- A number has a digit. -/
theorem length_showNat_pos (n : ℕ) : 0 < (showNat n).length :=
  List.length_pos_of_ne_nil (showNat_ne_nil n)

/-- So has a signed one. -/
theorem length_showInt_pos (z : ℤ) : 0 < (showInt z).length := by
  have hdigits := length_showNat_pos z.natAbs
  rw [showInt]
  split
  · exact Nat.succ_pos _
  · exact hdigits

/-- Four digits and three dots. -/
theorem seven_le_length_addrToString (addr : InAddr) : 7 ≤ (addrToString addr).length := by
  have h₀ := length_showNat_pos (octet addr 0)
  have h₁ := length_showNat_pos (octet addr 1)
  have h₂ := length_showNat_pos (octet addr 2)
  have h₃ := length_showNat_pos (octet addr 3)
  simp only [addrToString, List.length_append, List.length_cons]
  omega

/-- The longest record, -/
theorem recordLength_le {record : ClientRecord} (h : record.lastRequest.toNat < 2 ^ 31) :
    recordLength record ≤ 50 := by
  have haddr := length_addrToString_le record.ip
  have hbalance : (showNat record.balance.toNat).length ≤ 20 :=
    length_showNat_le (by omega) (record.balance.toNat_lt.trans (by norm_num))
  have hlast : (showNat record.lastRequest.toNat).length ≤ 10 :=
    length_showNat_le (by omega) (h.trans (by norm_num))
  rw [recordLength]
  omega

/-- the shortest one, -/
theorem le_recordLength (record : ClientRecord) : 14 ≤ recordLength record := by
  have haddr := seven_le_length_addrToString record.ip
  have hbalance := length_showNat_pos record.balance.toNat
  have hlast := length_showNat_pos record.lastRequest.toNat
  rw [recordLength]
  omega

/-- and the shortest totals. -/
theorem le_metadataLength (metadata : DbMetadata) : 8 ≤ metadataLength metadata := by
  have hnumber := length_showInt_pos metadata.numTransactions.toInt
  have htransferred := length_showNat_pos metadata.totalTransferred.toNat
  have hbalance := length_showInt_pos metadata.totalBalance.toInt
  rw [metadataLength]
  omega

section Capacity

variable {db : DbManager}

/-- Nineteen records fit. -/
theorem snapshotLength_le (hrange : db.InStoiRange) (hfew : db.databaseRecords.keys.card ≤ 19) :
    snapshotLength db ≤ MAXLINE + 3 := by
  have hheader := metadataLength_le db.getDbMetadata
  have hrecords := Finmap.total_le_card_mul recordLength
    fun ip record h => recordLength_le (hrange.lastRequest ip record h)
  rw [snapshotLength, MAXLINE]
  omega

/-- Seventy-three do not. -/
theorem lt_snapshotLength (hmany : 73 ≤ db.databaseRecords.keys.card) :
    MAXLINE + 3 < snapshotLength db := by
  have hheader := le_metadataLength db.getDbMetadata
  have hrecords := Finmap.card_mul_le_total recordLength
    fun ip record (_ : db.databaseRecords.lookup ip = some record) => le_recordLength record
  rw [snapshotLength, MAXLINE]
  omega

end Capacity

/-- **How many clients.**  A reachable state with counters that `stoi` can read is replicated by
every server that receives its broadcast if it has at most nineteen clients, and by none if it has
seventy-three or more.

Between the two bounds it depends on the clients: a record takes between 14 and 50 characters, and
what counts is the length of the whole text (`replicated_iff`). -/
theorem replication_capacity {p : DbManager} (hp : p.Reachable) (hrange : p.InStoiRange)
    (order : Iteration p.databaseRecords) {selfIp : Text} {src : InAddr}
    (hsrc : addrToString src ≠ selfIp) (b : DbManager) :
    (p.databaseRecords.keys.card ≤ 19 →
      ∃ b', listenForUpdates selfIp src (broadcastUpdate p.getDbSnapshot order) b = .ok b' ∧
        Replicates p b') ∧
    (73 ≤ p.databaseRecords.keys.card →
      ¬ ∃ b', listenForUpdates selfIp src (broadcastUpdate p.getDbSnapshot order) b = .ok b' ∧
        Replicates p b') := by
  obtain ⟨calls, rfl⟩ := (Ledger.reachable_iff p).mp hp
  have hiff := (replicates_iff hsrc b).trans (fromString_take_iff hrange order)
  exact ⟨fun hfew => hiff.mpr (snapshotLength_le hrange hfew),
    fun hmany hreplicated => Nat.not_le_of_lt (lt_snapshotLength hmany) (hiff.mp hreplicated)⟩

/-- Two are few. -/
theorem twoClients_few :
    ∃ b', listenForUpdates (addrToString 4) 3
        (broadcastUpdate twoClients.toDbManager.getDbSnapshot twoClientsOrder) DbManager.empty
          = .ok b' ∧ Replicates twoClients.toDbManager b' :=
  (replication_capacity reachable_twoClients inStoiRange_twoClients twoClientsOrder (by decide)
    DbManager.empty).1 (by decide)

end Brix
