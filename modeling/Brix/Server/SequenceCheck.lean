import Brix.Foundation.Narrowing
import Brix.Server.RequestHandler

/-!
# The sequence check

A REQ packet brings its number as a `long`, the client's record the last one as an
`unsigned int`, and `check_packet_status` compares both as `int`s.  The check is exact
(`ExactCheck`) if the comparison of the narrowed numbers is the one of the numbers:
`Narrowing.sameOrder_bmod_iff` says when.
-/

namespace Brix

open Text Narrowing

/-- The number of the request that is due. -/
def nextNumber (client : ClientRecord) : ℤ := client.lastRequest.toNat + 1

/-- The check says how a packet's number compares with the one that is due, and a packet with
another one is not carried out. -/
structure ExactCheck (packet : ReqPacket) (client : ClientRecord) : Prop where
  valid : checkPacketStatus packet client = .valid ↔ packet.seqNum.toInt = nextNumber client
  duplicate : checkPacketStatus packet client = .duplicate ↔
    packet.seqNum.toInt < nextNumber client
  outOfOrder : checkPacketStatus packet client = .outOfOrder ↔
    nextNumber client < packet.seqNum.toInt
  onlyNext : ∀ senderIp ledger, (ledger.toDbManager.getClientInfo senderIp).record = client →
    packet.seqNum.toInt ≠ nextNumber client →
      (processReqPacket senderIp packet ledger).ledger = ledger ∧
        ((processReqPacket senderIp packet ledger).reply.result = "DUPLICATE".toList ∨
          (processReqPacket senderIp packet ledger).reply.result = "OUT_OF_ORDER".toList)

section Check

variable {packet : ReqPacket} {client : ClientRecord}

/-- `int expected_seq_num = client.last_request + 1`. -/
theorem toInt_expectedSeqNum (client : ClientRecord) :
    (client.lastRequest + 1).toInt32.toInt = (nextNumber client).bmod (2 ^ 32) := by
  rw [← Int32.toInt_toBitVec, BitVec.toInt_eq_toNat_bmod]
  show ((client.lastRequest + 1).toNat : ℤ).bmod (2 ^ 32) = _
  rw [UInt32.toNat_add, UInt32.toNat_one, Int.natCast_emod]
  exact Int.emod_bmod ..

/-- What the check compares. -/
theorem checkPacketStatus_valid_iff : checkPacketStatus packet client = .valid ↔
    packet.seqNum.toInt.bmod (2 ^ 32) = (nextNumber client).bmod (2 ^ 32) := by
  rw [← toInt_expectedSeqNum, ← Int64.toInt_toInt32, Int32.toInt_inj]
  simp only [checkPacketStatus]
  split
  · rename_i heq
    exact iff_of_true rfl heq
  · rename_i hne
    refine iff_of_false ?_ hne
    split <;> simp

/-- A smaller one is a duplicate, -/
theorem checkPacketStatus_duplicate_iff : checkPacketStatus packet client = .duplicate ↔
    packet.seqNum.toInt.bmod (2 ^ 32) < (nextNumber client).bmod (2 ^ 32) := by
  rw [← toInt_expectedSeqNum, ← Int64.toInt_toInt32, ← Int32.lt_iff_toInt_lt]
  simp only [checkPacketStatus]
  split
  · rename_i heq
    exact iff_of_false (by simp) (by rw [heq]; exact Int32.lt_irrefl)
  · split
    · rename_i hlt
      exact iff_of_true rfl hlt
    · rename_i hlt
      exact iff_of_false (by simp) hlt

/-- and a greater one is out of order. -/
theorem checkPacketStatus_outOfOrder_iff : checkPacketStatus packet client = .outOfOrder ↔
    (nextNumber client).bmod (2 ^ 32) < packet.seqNum.toInt.bmod (2 ^ 32) := by
  have hvalid := @checkPacketStatus_valid_iff packet client
  have hduplicate := @checkPacketStatus_duplicate_iff packet client
  have hstatus : checkPacketStatus packet client ≠ .noClue := by
    simp only [checkPacketStatus]
    split
    · simp
    · split <;> simp
  cases hcheck : checkPacketStatus packet client with
  | valid =>
      rw [hcheck] at hvalid
      have heq := hvalid.mp rfl
      exact iff_of_false (by simp) (by omega)
  | duplicate =>
      rw [hcheck] at hduplicate
      have hlt := hduplicate.mp rfl
      exact iff_of_false (by simp) (by omega)
  | outOfOrder =>
      rw [hcheck] at hvalid hduplicate
      have hne := mt hvalid.mpr (by simp)
      have hnlt := mt hduplicate.mpr (by simp)
      exact iff_of_true rfl (by omega)
  | noClue => exact absurd hcheck hstatus

end Check

/-- **When the sequence check is exact.**  For any packet, and every packet can be received
(`toReqPacket_toText`), and any record. -/
theorem exactCheck_iff (packet : ReqPacket) (client : ClientRecord) :
    ExactCheck packet client ↔
      packet.seqNum.toInt.bdiv (2 ^ 32) = (nextNumber client).bdiv (2 ^ 32) ∨
      (packet.seqNum.toInt.bdiv (2 ^ 32) < (nextNumber client).bdiv (2 ^ 32) ∧
        packet.seqNum.toInt.bmod (2 ^ 32) < (nextNumber client).bmod (2 ^ 32)) ∨
      ((nextNumber client).bdiv (2 ^ 32) < packet.seqNum.toInt.bdiv (2 ^ 32) ∧
        (nextNumber client).bmod (2 ^ 32) < packet.seqNum.toInt.bmod (2 ^ 32)) := by
  rw [← sameOrder_bmod_iff (by norm_num)]
  constructor
  · intro h
    exact ⟨checkPacketStatus_valid_iff.symm.trans h.valid,
      checkPacketStatus_duplicate_iff.symm.trans h.duplicate,
      checkPacketStatus_outOfOrder_iff.symm.trans h.outOfOrder⟩
  · intro h
    refine ⟨checkPacketStatus_valid_iff.trans h.eq_iff, checkPacketStatus_duplicate_iff.trans
      h.lt_iff, checkPacketStatus_outOfOrder_iff.trans h.gt_iff, ?_⟩
    intro senderIp ledger hclient hother
    have hstatus : checkPacketStatus packet client = .duplicate ∨
        checkPacketStatus packet client = .outOfOrder := by
      rcases lt_or_gt_of_ne hother with hlt | hgt
      · exact Or.inl (checkPacketStatus_duplicate_iff.mpr (h.lt_iff.mpr hlt))
      · exact Or.inr (checkPacketStatus_outOfOrder_iff.mpr (h.gt_iff.mpr hgt))
    obtain ⟨hresult, -, hledger⟩ := processReqPacket_not_valid hclient hstatus
    exact ⟨hledger, hresult⟩

/-- Clients 1 and 2 have just been registered. -/
def newClients : Ledger := (Ledger.empty.applyAll [.registerClient 1, .registerClient 2]).2

/-- **A number from another stretch.**  The first request of client 1 is due, and 2³² + 1 passes
for it. -/
theorem far_number_is_carried_out :
    ∃ packet, toReqPacket "REQ 4294967297 2.0.0.0 100 END".toList = .ok packet ∧
      packet.seqNum.toInt ≠ nextNumber (newClients.toDbManager.getClientInfo 1).record ∧
      checkPacketStatus packet (newClients.toDbManager.getClientInfo 1).record = .valid ∧
      (processReqPacket 1 packet newClients).reply.result = "SUCCESS".toList :=
  ⟨⟨4294967297, 2, 100⟩, by decide +kernel⟩

end Brix
