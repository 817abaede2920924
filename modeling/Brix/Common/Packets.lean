import Brix.Common.SocketUtils

/-!
# Packets on the wire

`packets.h` and `string_packets.h`: the REQ, ACK and KIL packets, how they are
written and how they are read.  A packet is a line of blank-separated tokens with a
keyword in front and `END` behind.  The readers count the tokens, check the two
keywords and convert the rest, so they live in `Except Text.Fault`; the
`std::invalid_argument` they throw on a wrong format is the one `stol` throws on a
wrong number.

The client and the server talk in these texts.  `toReqPacket_toText` and
`toAckPacket_toText` say that each side reads what the other one wrote, for the
packets the two programs build.

### The design

Writing is one function for each packet.  Reading is one function too, with the tokens matched as
a list, so that the wrong number of tokens and a wrong keyword are cases of one `match`, as they
are of one test in the source.  The reader of REQ packets has no place for the sender: it is taken
from the datagram.

The numbers are those of the fields.  A sequence number is written as a `long` and read with
`stol`, an amount is a `uint64_t` and read with `stoul`, and the results that a reader may throw
are kept apart, since callers do not catch them all.
-/

namespace Brix

open Text

/-- `Packet_type`. -/
inductive PacketType
  | req
  | ack
  | err
  | kil
  deriving DecidableEq, Repr

/-- `Packet_status`. -/
inductive PacketStatus
  | valid
  | duplicate
  | outOfOrder
  | noClue
  deriving DecidableEq, Repr

/-- `REQ_Packet`. -/
structure ReqPacket where
  seqNum : Int64
  receiverIp : InAddr
  transferAmount : UInt64
  deriving DecidableEq

/-- `ACK_Packet`. -/
structure AckPacket where
  seqNum : Int64
  result : Text
  newBalance : UInt64
  senderIp : InAddr
  receiverIp : InAddr
  transferAmount : UInt64
  deriving DecidableEq

/-- `KIL_Packet`, whose sequence number is always `-1`. -/
structure KilPacket where
  seqNum : Int64 := -1
  deriving DecidableEq

/-! ## Writing -/

/-- `REQ_Packet::to_string`. -/
def ReqPacket.toText (packet : ReqPacket) : Text :=
  field "REQ".toList ++ field (showInt packet.seqNum.toInt) ++
    field (addrToString packet.receiverIp) ++
    field (showNat packet.transferAmount.toNat) ++ "END".toList

/-- `ACK_Packet::to_string`. -/
def AckPacket.toText (packet : AckPacket) : Text :=
  field "ACK".toList ++ field (showInt packet.seqNum.toInt) ++ field packet.result ++
    field (showNat packet.newBalance.toNat) ++ field (addrToString packet.senderIp) ++
    field (addrToString packet.receiverIp) ++
    field (showNat packet.transferAmount.toNat) ++ "END".toList

/-! ## Reading -/

/-- `String_Packet::to_REQ_Packet`. -/
def toReqPacket (text : Text) : Except Fault ReqPacket :=
  match tokens text with
  | [keyword, seqNum, receiverIp, transferAmount, tail] =>
      if keyword ≠ "REQ".toList ∨ tail ≠ "END".toList then .error .invalidArgument
      else do
        let seqNum ← stol seqNum
        let receiverIp := inetAddr receiverIp
        let transferAmount ← stoul transferAmount
        return ⟨seqNum, receiverIp, transferAmount⟩
  | _ => .error .invalidArgument

/-- `String_Packet::to_ACK_Packet`. -/
def toAckPacket (text : Text) : Except Fault AckPacket :=
  match tokens text with
  | [keyword, seqNum, result, newBalance, senderIp, receiverIp, transferAmount, tail] =>
      if keyword ≠ "ACK".toList ∨ tail ≠ "END".toList then .error .invalidArgument
      else do
        let seqNum ← stol seqNum
        let newBalance ← stoul newBalance
        let senderIp := inetAddr senderIp
        let receiverIp := inetAddr receiverIp
        let transferAmount ← stoul transferAmount
        return ⟨seqNum, result, newBalance, senderIp, receiverIp, transferAmount⟩
  | _ => .error .invalidArgument

/-- `String_Packet::to_KIL_Packet`. -/
def toKilPacket (text : Text) : Except Fault KilPacket :=
  if tokens text ≠ ["KIL".toList, "END".toList] then .error .invalidArgument else .ok ⟨-1⟩

/-- `String_Packet::type`. -/
def packetType (text : Text) : PacketType :=
  if text.take 3 = "REQ".toList then .req
  else if text.take 3 = "ACK".toList then .ack
  else if text.take 3 = "ERR".toList then .err
  else if text.take 3 = "KIL".toList then .kil
  else .err

/-! ## Reading what was written -/

/-- The tokens of a written request, -/
theorem tokens_req (packet : ReqPacket) :
    tokens packet.toText = ["REQ".toList, showInt packet.seqNum.toInt,
      addrToString packet.receiverIp, showNat packet.transferAmount.toNat, "END".toList] := by
  simp only [ReqPacket.toText, List.append_assoc]
  rw [tokens_field (by decide), tokens_field (isWord_showInt _),
    tokens_field (isWord_addrToString _), tokens_field (isWord_showNat _), tokens_word (by decide)]

/-- and of a written answer, whose text must not have a blank in it. -/
theorem tokens_ack {packet : AckPacket} (hresult : IsWord packet.result) :
    tokens packet.toText = ["ACK".toList, showInt packet.seqNum.toInt, packet.result,
      showNat packet.newBalance.toNat, addrToString packet.senderIp,
      addrToString packet.receiverIp, showNat packet.transferAmount.toNat, "END".toList] := by
  simp only [AckPacket.toText, List.append_assoc]
  rw [tokens_field (by decide), tokens_field (isWord_showInt _), tokens_field hresult,
    tokens_field (isWord_showNat _), tokens_field (isWord_addrToString _),
    tokens_field (isWord_addrToString _), tokens_field (isWord_showNat _), tokens_word (by decide)]

/-- A request is known by its first three characters, -/
@[simp] theorem packetType_req (packet : ReqPacket) : packetType packet.toText = .req :=
  if_pos rfl

/-- and so is an answer. -/
@[simp] theorem packetType_ack (packet : AckPacket) : packetType packet.toText = .ack := by
  have htake : packet.toText.take 3 = "ACK".toList := rfl
  rw [packetType, htake]
  rfl

/-- A written request is read back. -/
@[simp] theorem toReqPacket_toText (packet : ReqPacket) :
    toReqPacket packet.toText = .ok packet := by
  have hamount := stoul_showNat packet.transferAmount.toNat_lt
  rw [toReqPacket, tokens_req]
  simp only [ne_eq, not_true_eq_false, or_self, if_false, stol_showInt_toInt,
    inetAddr_addrToString, hamount, UInt64.ofNat_toNat]
  rfl

/-- A written answer is read back. -/
theorem toAckPacket_toText {packet : AckPacket} (hresult : IsWord packet.result) :
    toAckPacket packet.toText = .ok packet := by
  have hbalance := stoul_showNat packet.newBalance.toNat_lt
  have hamount := stoul_showNat packet.transferAmount.toNat_lt
  rw [toAckPacket, tokens_ack hresult]
  simp only [ne_eq, not_true_eq_false, or_self, if_false, stol_showInt_toInt,
    inetAddr_addrToString, hbalance, hamount, UInt64.ofNat_toNat]
  rfl

/-- **The wire loses nothing.**  Every request, and every answer whose result is one word, is
recognised and read back. -/
theorem wire_round_trip :
    (∀ packet : ReqPacket,
      packetType packet.toText = .req ∧ toReqPacket packet.toText = .ok packet) ∧
    ∀ packet : AckPacket, IsWord packet.result →
      packetType packet.toText = .ack ∧ toAckPacket packet.toText = .ok packet :=
  ⟨fun packet => ⟨packetType_req packet, toReqPacket_toText packet⟩,
    fun packet hresult => ⟨packetType_ack packet, toAckPacket_toText hresult⟩⟩

/-- The broadcast address, which `inet_addr` cannot tell from an error, is no exception. -/
theorem wire_round_trip_broadcast :
    packetType (AckPacket.toText ⟨-1, "OK".toList, 0, INADDR_NONE, INADDR_NONE, 1⟩) = .ack ∧
      toAckPacket (AckPacket.toText ⟨-1, "OK".toList, 0, INADDR_NONE, INADDR_NONE, 1⟩)
        = .ok ⟨-1, "OK".toList, 0, INADDR_NONE, INADDR_NONE, 1⟩ :=
  wire_round_trip.2 ⟨-1, "OK".toList, 0, INADDR_NONE, INADDR_NONE, 1⟩ (by decide)

/-! ## Written packets fit the receive buffers -/

/-- A blank is no NUL. -/
theorem nul_notMem_field {word : Text} (h : '\x00' ∉ word) : '\x00' ∉ field word := by
  simp [field, h]

/-- A `long` has at most nineteen digits and a sign, -/
theorem length_showInt_toInt_le (n : Int64) : (showInt n.toInt).length ≤ 20 := by
  have hlow := n.le_toInt
  have hhigh := n.toInt_lt
  exact length_showInt_le (by omega) (by omega)

/-- and an `unsigned long` at most twenty digits. -/
theorem length_showNat_toNat_le (n : UInt64) : (showNat n.toNat).length ≤ 20 :=
  length_showNat_le (by omega) (n.toNat_lt.trans (by norm_num))

/-- A written request is received as it was sent. -/
theorem inBuffer_req (packet : ReqPacket) {size : ℕ} (hsize : 100 ≤ size) :
    inBuffer size packet.toText = packet.toText := by
  refine inBuffer_of_length_le ?_ ?_
  · have hip := nul_notMem_field (nul_notMem_addrToString packet.receiverIp)
    have hseq := nul_notMem_field (isInteger_showInt packet.seqNum.toInt).nul_notMem
    have hamount := nul_notMem_field (notMem_showNat (by decide) packet.transferAmount.toNat)
    simp only [ReqPacket.toText, List.mem_append, hip, hseq, hamount, or_false, not_or]
    decide
  · have hip := length_addrToString_le packet.receiverIp
    have hseq := length_showInt_toInt_le packet.seqNum
    have hamount := length_showNat_toNat_le packet.transferAmount
    have hreq : "REQ".toList.length = 3 := rfl
    have hend : "END".toList.length = 3 := rfl
    simp only [ReqPacket.toText, field, List.length_append, List.length_cons, List.length_nil,
      hreq, hend]
    omega

/-- A written answer is received as it was sent. -/
theorem inBuffer_ack {packet : AckPacket} (hnul : '\x00' ∉ packet.result)
    (hlength : packet.result.length ≤ 100) {size : ℕ} (hsize : 300 ≤ size) :
    inBuffer size packet.toText = packet.toText := by
  refine inBuffer_of_length_le ?_ ?_
  · have hsender := nul_notMem_field (nul_notMem_addrToString packet.senderIp)
    have hreceiver := nul_notMem_field (nul_notMem_addrToString packet.receiverIp)
    have hseq := nul_notMem_field (isInteger_showInt packet.seqNum.toInt).nul_notMem
    have hresult := nul_notMem_field hnul
    have hbalance := nul_notMem_field (notMem_showNat (by decide) packet.newBalance.toNat)
    have hamount := nul_notMem_field (notMem_showNat (by decide) packet.transferAmount.toNat)
    simp only [AckPacket.toText, List.mem_append, hsender, hreceiver, hseq, hresult, hbalance,
      hamount, or_false, not_or]
    decide
  · have hsender := length_addrToString_le packet.senderIp
    have hreceiver := length_addrToString_le packet.receiverIp
    have hseq := length_showInt_toInt_le packet.seqNum
    have hbalance := length_showNat_toNat_le packet.newBalance
    have hamount := length_showNat_toNat_le packet.transferAmount
    have hack : "ACK".toList.length = 3 := rfl
    have hend : "END".toList.length = 3 := rfl
    simp only [AckPacket.toText, field, List.length_append, List.length_cons, List.length_nil,
      hack, hend]
    omega

end Brix
