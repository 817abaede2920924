import Brix.Common.Packets
import Brix.Server.Snapshot

/-!
# Handling requests

`REQ_packet_handler.cpp` and `KIL_packet_handler.cpp`, and the body of the
`packet_multiplexer` loop that starts one handler for each datagram.

A handler compares the packet's sequence number with the sender's record and, where
it is the next one, calls `make_transaction`.  Here that call is `Ledger.transfer`,
which is what its code computes (`Ledger.computes_transfer`), and the ledger is the
state between calls.  The record is read in one step and the transaction made in
another, so a handler is given twice: `processReqPacket` in one piece, and `Phase`
with `Phase.step` for several of them at once; `Phase.steps_alone` says that the
second is the first when nobody interferes.
-/

namespace Brix

open Text

/-- An unsigned 32-bit number as a `long`. -/
def toLong (n : UInt32) : Int64 := n.toUInt64.toInt64

/-- `process_db_transaction`: the answer for a result of `make_transaction`. -/
def transactionReply (senderIp : InAddr) (packet : ReqPacket) (result : DbRecordResponse) :
    AckPacket :=
  let answer (seqNum : Int64) (text : Text) (balance : UInt64) : AckPacket :=
    ⟨seqNum, text, balance, senderIp, packet.receiverIp, packet.transferAmount⟩
  match result.statusCode with
  | .success => answer (toLong result.record.lastRequest) "SUCCESS".toList result.record.balance
  | .balanceCheck =>
      answer (toLong result.record.lastRequest) "BALANCE_CHECK".toList result.record.balance
  | .insufficientBalance =>
      answer (toLong result.record.lastRequest) "INSUFFICIENT_BALANCE".toList result.record.balance
  | .unknownReceiver =>
      answer (toLong result.record.lastRequest) "RECEIVER_NOT_REGISTERED".toList
        result.record.balance
  | .duplicateIp =>
      answer (toLong result.record.lastRequest) "BAD_REQUEST".toList result.record.balance
  | .unknownSender => answer 0 "SENDER_NOT_REGISTERED".toList 0
  | .notFound => answer 0 "SERVER_ERROR".toList 0

/-- `process_db_transaction`. -/
def processDbTransaction (senderIp : InAddr) (packet : ReqPacket) (ledger : Ledger) :
    AckPacket × Ledger :=
  let (result, ledger') := ledger.transfer senderIp packet.receiverIp packet.transferAmount
  (transactionReply senderIp packet result, ledger')

/-- `check_packet_status`.  Both numbers are narrowed to `int`. -/
def checkPacketStatus (packet : ReqPacket) (client : ClientRecord) : PacketStatus :=
  let receivedSeqNum := packet.seqNum.toInt32
  let expectedSeqNum := (client.lastRequest + 1).toInt32
  if receivedSeqNum = expectedSeqNum then .valid
  else if receivedSeqNum < expectedSeqNum then .duplicate
  else .outOfOrder

/-- The answer to a packet that is not the next one. -/
def statusReply (senderIp : InAddr) (packet : ReqPacket) (client : ClientRecord) (text : Text) :
    AckPacket :=
  ⟨toLong client.lastRequest, text, client.balance, senderIp, packet.receiverIp,
    packet.transferAmount⟩

/-- What the handler does once it knows the packet's status. -/
def replyTo (senderIp : InAddr) (packet : ReqPacket) (client : ClientRecord)
    (status : PacketStatus) (ledger : Ledger) : AckPacket × Ledger :=
  match status with
  | .valid => processDbTransaction senderIp packet ledger
  | .duplicate => (statusReply senderIp packet client "DUPLICATE".toList, ledger)
  | .outOfOrder => (statusReply senderIp packet client "OUT_OF_ORDER".toList, ledger)
  | .noClue => (statusReply senderIp packet client "SERVER_ERRROR".toList, ledger)

/-- What a handled datagram leads to: the answer, the ledger, and the snapshot that is
broadcast, if one is. -/
structure Handled where
  reply : AckPacket
  ledger : Ledger
  update : Option DbSnapshot

/-- `process_req_packet`. -/
def processReqPacket (senderIp : InAddr) (packet : ReqPacket) (ledger : Ledger) : Handled :=
  let client := (ledger.toDbManager.getClientInfo senderIp).record
  let status := checkPacketStatus packet client
  let (reply, ledger') := replyTo senderIp packet client status ledger
  { reply := reply
    ledger := ledger'
    update := if reply.result = "SUCCESS".toList then some ledger'.toDbManager.getDbSnapshot
      else none }

/-- `process_kill_packet`. -/
def processKillPacket (senderIp : InAddr) (packet : KilPacket) (ledger : Ledger) : Handled :=
  let (result, ledger') := ledger.remove senderIp
  let reply : AckPacket :=
    match result.statusCode with
    | .success =>
        ⟨packet.seqNum, "KILL".toList, result.record.balance, senderIp, 0, result.record.balance⟩
    | .notFound => ⟨packet.seqNum, "SENDER_NOT_REGISTERED".toList, 0, senderIp, 0, 0⟩
    | _ => ⟨packet.seqNum, "SERVER_ERROR".toList, 0, senderIp, 0, 0⟩
  { reply := reply
    ledger := ledger'
    update := if result.statusCode = .success then some ledger'.toDbManager.getDbSnapshot
      else none }

/-- The size of the buffer that datagrams are received into. -/
def MAX_PACKET_SIZE : ℕ := 2048

/-- The body of the `packet_multiplexer` loop, with the handler it starts run to its
end.  A REQ packet that cannot be read is reported and dropped; nothing catches what
`to_KIL_Packet` throws. -/
def packetMultiplexer (senderIp : InAddr) (datagram : Text) (ledger : Ledger) :
    Except Fault (Option Handled) :=
  let text := inBuffer MAX_PACKET_SIZE datagram
  match packetType text with
  | .req =>
      match toReqPacket text with
      | .ok packet => .ok (some (processReqPacket senderIp packet ledger))
      | .error _ => .ok none
  | .kil => (toKilPacket text).map fun packet => some (processKillPacket senderIp packet ledger)
  | _ => .ok none

/-! ## What the answers are made of -/

/-- The results a handler can answer a request with. -/
def replyTexts : List Text :=
  ["SUCCESS".toList, "BALANCE_CHECK".toList, "INSUFFICIENT_BALANCE".toList,
    "RECEIVER_NOT_REGISTERED".toList, "BAD_REQUEST".toList, "SENDER_NOT_REGISTERED".toList,
    "SERVER_ERROR".toList, "DUPLICATE".toList, "OUT_OF_ORDER".toList, "SERVER_ERRROR".toList]

/-- A handler's answer and ledger are those of `replyTo`, for the record it has read. -/
theorem processReqPacket_replyTo (senderIp : InAddr) (packet : ReqPacket) (ledger : Ledger) :
    ∃ client, client = (ledger.toDbManager.getClientInfo senderIp).record ∧
      (processReqPacket senderIp packet ledger).reply
        = (replyTo senderIp packet client (checkPacketStatus packet client) ledger).1 ∧
      (processReqPacket senderIp packet ledger).ledger
        = (replyTo senderIp packet client (checkPacketStatus packet client) ledger).2 :=
  ⟨_, rfl, rfl, rfl⟩

/-- A handler writes one of these texts, whatever it finds. -/
theorem result_mem_replyTexts (senderIp : InAddr) (packet : ReqPacket) (ledger : Ledger) :
    (processReqPacket senderIp packet ledger).reply.result ∈ replyTexts := by
  obtain ⟨client, -, hreply, -⟩ := processReqPacket_replyTo senderIp packet ledger
  rw [hreply]
  cases checkPacketStatus packet client with
  | valid =>
      show (transactionReply senderIp packet
        (ledger.transfer senderIp packet.receiverIp packet.transferAmount).1).result ∈ replyTexts
      unfold transactionReply
      cases (ledger.transfer senderIp packet.receiverIp packet.transferAmount).1.statusCode <;>
        simp [replyTexts]
  | duplicate => simp [replyTo, statusReply, replyTexts]
  | outOfOrder => simp [replyTo, statusReply, replyTexts]
  | noClue => simp [replyTo, statusReply, replyTexts]

/-- The answer names a success exactly if the transaction was one. -/
theorem transactionReply_success_iff (senderIp : InAddr) (packet : ReqPacket)
    (result : DbRecordResponse) :
    (transactionReply senderIp packet result).result = "SUCCESS".toList ↔
      result.statusCode = .success := by
  unfold transactionReply
  cases result.statusCode <;> simp

/-- What a handled request can have done: nothing, or the transaction. -/
theorem processReqPacket_cases (senderIp : InAddr) (packet : ReqPacket) (ledger : Ledger) :
    ((processReqPacket senderIp packet ledger).ledger = ledger ∧
      (processReqPacket senderIp packet ledger).reply.result ≠ "SUCCESS".toList) ∨
    ((processReqPacket senderIp packet ledger).ledger
        = (ledger.transfer senderIp packet.receiverIp packet.transferAmount).2 ∧
      ((processReqPacket senderIp packet ledger).reply.result = "SUCCESS".toList ↔
        (ledger.transfer senderIp packet.receiverIp packet.transferAmount).1.statusCode
          = .success)) := by
  obtain ⟨client, -, hreply, hledger⟩ := processReqPacket_replyTo senderIp packet ledger
  rw [hreply, hledger]
  cases checkPacketStatus packet client with
  | valid => exact Or.inr ⟨rfl, transactionReply_success_iff senderIp packet _⟩
  | duplicate => exact Or.inl ⟨rfl, show "DUPLICATE".toList ≠ "SUCCESS".toList by decide⟩
  | outOfOrder => exact Or.inl ⟨rfl, show "OUT_OF_ORDER".toList ≠ "SUCCESS".toList by decide⟩
  | noClue => exact Or.inl ⟨rfl, show "SERVER_ERRROR".toList ≠ "SUCCESS".toList by decide⟩

section Handled

variable {senderIp : InAddr} {packet : ReqPacket} {ledger : Ledger} {client : ClientRecord}

/-- The record that a handler reads. -/
theorem getClientInfo_of_lookup (h : ledger.records.lookup senderIp = some client) :
    (ledger.toDbManager.getClientInfo senderIp).record = client :=
  DbManager.getClientInfo_record h

/-- The handler's answer and ledger, for a sender that is registered. -/
theorem processReqPacket_eq (h : ledger.records.lookup senderIp = some client) :
    (processReqPacket senderIp packet ledger).reply
        = (replyTo senderIp packet client (checkPacketStatus packet client) ledger).1 ∧
      (processReqPacket senderIp packet ledger).ledger
        = (replyTo senderIp packet client (checkPacketStatus packet client) ledger).2 := by
  obtain ⟨_, rfl, hreply, hledger⟩ := processReqPacket_replyTo senderIp packet ledger
  rw [hreply, hledger, getClientInfo_of_lookup h]
  exact ⟨rfl, rfl⟩

/-- The next request of a client is carried out if the ledger covers it. -/
theorem processReqPacket_next (h : ledger.records.lookup senderIp = some client)
    (hnext : packet.seqNum.toInt32 = (client.lastRequest + 1).toInt32)
    (hcovers : ledger.Covers senderIp packet.receiverIp packet.transferAmount) :
    (processReqPacket senderIp packet ledger).reply.result = "SUCCESS".toList ∧
      (processReqPacket senderIp packet ledger).ledger
        = (ledger.transfer senderIp packet.receiverIp packet.transferAmount).2 := by
  have hvalid : checkPacketStatus packet client = .valid := if_pos hnext
  have heq := @processReqPacket_eq senderIp packet ledger client h
  rw [hvalid] at heq
  constructor
  · rw [heq.1]
    exact (transactionReply_success_iff senderIp packet _).mpr
      (Ledger.transfer_success_iff.mpr hcovers)
  · exact heq.2

/-- A packet that is not `VALID` is answered with the number of the client's last request, and
changes nothing. -/
theorem processReqPacket_not_valid
    (hclient : (ledger.toDbManager.getClientInfo senderIp).record = client)
    (hstatus : checkPacketStatus packet client = .duplicate ∨
      checkPacketStatus packet client = .outOfOrder) :
    ((processReqPacket senderIp packet ledger).reply.result = "DUPLICATE".toList ∨
      (processReqPacket senderIp packet ledger).reply.result = "OUT_OF_ORDER".toList) ∧
    (processReqPacket senderIp packet ledger).reply.seqNum = toLong client.lastRequest ∧
    (processReqPacket senderIp packet ledger).ledger = ledger := by
  obtain ⟨found, hfound, hreply, hledger⟩ := processReqPacket_replyTo senderIp packet ledger
  rw [hclient] at hfound
  subst hfound
  rw [hreply, hledger]
  rcases hstatus with hstatus | hstatus
  · rw [hstatus]
    exact ⟨Or.inl rfl, rfl, rfl⟩
  · rw [hstatus]
    exact ⟨Or.inr rfl, rfl, rfl⟩

/-- Any other request is answered with the number of the client's last one, and not
with a success. -/
theorem processReqPacket_other (h : ledger.records.lookup senderIp = some client)
    (hother : packet.seqNum.toInt32 ≠ (client.lastRequest + 1).toInt32) :
    ((processReqPacket senderIp packet ledger).reply.result = "DUPLICATE".toList ∨
      (processReqPacket senderIp packet ledger).reply.result = "OUT_OF_ORDER".toList) ∧
    (processReqPacket senderIp packet ledger).reply.seqNum = toLong client.lastRequest ∧
    (processReqPacket senderIp packet ledger).ledger = ledger := by
  refine processReqPacket_not_valid (getClientInfo_of_lookup h) ?_
  unfold checkPacketStatus
  rw [if_neg hother]
  split
  · exact Or.inl rfl
  · exact Or.inr rfl

end Handled

/-- A client's buffer of any reasonable size receives every answer to a request as it
was written, and reads it back. -/
theorem toAckPacket_inBuffer_reply (senderIp : InAddr) (packet : ReqPacket) (ledger : Ledger)
    {size : ℕ} (hsize : 300 ≤ size) :
    toAckPacket (inBuffer size (processReqPacket senderIp packet ledger).reply.toText)
      = .ok (processReqPacket senderIp packet ledger).reply := by
  have htexts : ∀ text ∈ replyTexts, IsWord text ∧ '\x00' ∉ text ∧ text.length ≤ 100 := by decide
  obtain ⟨hword, hnul, hlength⟩ := htexts _ (result_mem_replyTexts senderIp packet ledger)
  rw [inBuffer_ack hnul hlength hsize, toAckPacket_toText hword]

/-- A request that a client wrote is handled. -/
theorem packetMultiplexer_req (senderIp : InAddr) (packet : ReqPacket) (ledger : Ledger) :
    packetMultiplexer senderIp packet.toText ledger
      = .ok (some (processReqPacket senderIp packet ledger)) := by
  have hbuffer : inBuffer MAX_PACKET_SIZE packet.toText = packet.toText :=
    inBuffer_req packet (by decide)
  simp only [packetMultiplexer, hbuffer, packetType_req, toReqPacket_toText]

/-! ## A handler in steps -/

/-- How far a handler is. -/
inductive Phase
  | started
  | looked (client : ClientRecord)
  | checked (client : ClientRecord) (status : PacketStatus)
  | replied (reply : AckPacket)

/-- A handler's next step: read the record, check the packet, act on the status. -/
def Phase.step (senderIp : InAddr) (packet : ReqPacket) :
    Phase → Ledger → Option (Phase × Ledger)
  | .started, ledger => some (.looked (ledger.toDbManager.getClientInfo senderIp).record, ledger)
  | .looked client, ledger => some (.checked client (checkPacketStatus packet client), ledger)
  | .checked client status, ledger =>
      let (reply, ledger') := replyTo senderIp packet client status ledger
      some (.replied reply, ledger')
  | .replied _, _ => none

/-- Left alone, a handler's steps are `process_req_packet`. -/
theorem Phase.steps_alone (senderIp : InAddr) (packet : ReqPacket) (ledger : Ledger) :
    ((Phase.step senderIp packet .started ledger).bind fun (phase, ledger) =>
      (phase.step senderIp packet ledger).bind fun (phase, ledger) =>
        phase.step senderIp packet ledger)
      = some (.replied (processReqPacket senderIp packet ledger).reply,
          (processReqPacket senderIp packet ledger).ledger) := rfl

end Brix
