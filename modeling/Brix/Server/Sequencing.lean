import Brix.Server.ConcurrentRequests
import Mathlib.Order.Bounds.Basic

/-!
# Requests in sequence

Handlers that run one at a time.  A request is counted if it is answered `SUCCESS` or
`INSUFFICIENT_BALANCE`; these are the two ways in which `make_transaction` gets as far
as `last_request++`.

`processReqPacket_counts` is one request: it is counted, under the sender's next
number, or it leaves the ledger as it is.  `requests_in_order` is any sequence of them,
from any mixture of senders.

### What is load-bearing

The numbers are compared as `int`s, and three kinds of number meet in the comparison: the packet's
`long`, the record's `unsigned int` and the client's `int`.  `IsCounter` and `RoomLeft` are what
makes the comparison one of numbers, the first for the packet and the second for the record;
neither is checked by the server, so both are hypotheses, about the requests and about each ledger
on the way.

A request either is counted, which adds one to its sender's counter and to nobody else's, or
leaves the ledger as it is (`processReqPacket_counts`).  `InSequence` says of a whole run what
that comes to for one client, and is put together from the front: a number that was used before
the others, or none.
-/

namespace Brix

namespace Ledger

variable {ledger : Ledger} {senderIp receiverIp : InAddr} {amount : UInt64}

/-- A transfer counts a request of the sender and answers with the record that it
leaves, or it answers something else and changes nothing. -/
theorem transfer_counts_or_unchanged :
    (((ledger.transfer senderIp receiverIp amount).1.statusCode = .success ∨
        (ledger.transfer senderIp receiverIp amount).1.statusCode = .insufficientBalance) ∧
      ∃ sender, ledger.records.lookup senderIp = some sender ∧
        (ledger.transfer senderIp receiverIp amount).2.records.lookup senderIp
          = some (ledger.transfer senderIp receiverIp amount).1.record ∧
        (ledger.transfer senderIp receiverIp amount).1.record.lastRequest
          = sender.lastRequest + 1) ∨
    (((ledger.transfer senderIp receiverIp amount).1.statusCode ≠ .success ∧
        (ledger.transfer senderIp receiverIp amount).1.statusCode ≠ .insufficientBalance) ∧
      (ledger.transfer senderIp receiverIp amount).2 = ledger) := by
  rcases ledger.transfer_cases senderIp receiverIp amount with ⟨-, hone, hother, hsame⟩ |
    ⟨-, sender, _, hsender, -, -, -, heq⟩ | ⟨-, sender, receiver, hsender, hreceiver, hself, -, heq⟩
  · exact Or.inr ⟨⟨hone, hother⟩, hsame⟩
  · left
    rw [heq]
    refine ⟨Or.inr rfl, sender, hsender, ?_, rfl⟩
    rw [lookup_counted hsender, if_pos rfl]
  · left
    rw [heq]
    refine ⟨Or.inl rfl, sender, hsender, ?_, rfl⟩
    rw [lookup_settled hsender hreceiver, if_neg hself, if_pos rfl]

/-- A transfer that is counted and not made. -/
theorem transfer_insufficient_iff :
    (ledger.transfer senderIp receiverIp amount).1.statusCode = .insufficientBalance ↔
      ∃ sender, ledger.records.lookup senderIp = some sender ∧ senderIp ≠ receiverIp ∧
        receiverIp ∈ ledger.records ∧ sender.balance < amount := by
  constructor
  · intro hstatus
    rcases ledger.transfer_cases senderIp receiverIp amount with ⟨-, -, hother, -⟩ |
      ⟨-, sender, receiver, hsender, hreceiver, hself, hshort, -⟩ | ⟨-, sender, _, -, -, -, -, heq⟩
    · exact absurd hstatus hother
    · exact ⟨sender, hsender, hself, Finmap.mem_of_lookup_eq_some hreceiver, hshort⟩
    · rw [heq] at hstatus
      cases hstatus
  · rintro ⟨sender, hsender, hself, hmem, hshort⟩
    obtain ⟨receiver, hreceiver⟩ := Finmap.mem_iff.mp hmem
    rw [transfer_insufficient hsender hself hreceiver hshort]

/-- A counted request changes the ledger. -/
theorem transfer_ne_of_counts
    (h : (ledger.transfer senderIp receiverIp amount).1.statusCode = .success ∨
      (ledger.transfer senderIp receiverIp amount).1.statusCode = .insufficientBalance) :
    (ledger.transfer senderIp receiverIp amount).2 ≠ ledger := by
  intro hsame
  rcases @transfer_counts_or_unchanged ledger senderIp receiverIp amount with
    ⟨-, sender, hsender, hlookup, hlast⟩ | ⟨⟨hone, hother⟩, -⟩
  · rw [hsame, hsender, Option.some.injEq] at hlookup
    rw [← hlookup] at hlast
    have hnat := congrArg UInt32.toNat hlast
    have hbound := sender.lastRequest.toNat_lt
    rw [UInt32.toNat_add, UInt32.toNat_one] at hnat
    omega
  · exact h.elim hone hother

/-- A transfer changes the ledger if it names an amount and two clients, be it that it is only
counted. -/
theorem transfer_ne_iff : (ledger.transfer senderIp receiverIp amount).2 ≠ ledger ↔
    senderIp ∈ ledger.records ∧ amount ≠ 0 ∧ senderIp ≠ receiverIp ∧
      receiverIp ∈ ledger.records := by
  constructor
  · intro hchanged
    rcases ledger.transfer_cases senderIp receiverIp amount with ⟨-, -, -, hsame⟩ |
      ⟨-, sender, receiver, hsender, hreceiver, hself, hshort, -⟩ |
      ⟨⟨hzero, hself, hmem, sender, hsender, -⟩, -⟩
    · exact absurd hsame hchanged
    · refine ⟨Finmap.mem_of_lookup_eq_some hsender, ?_, hself,
        Finmap.mem_of_lookup_eq_some hreceiver⟩
      intro hzero
      rw [hzero] at hshort
      exact absurd hshort UInt64.not_lt_zero
    · exact ⟨Finmap.mem_of_lookup_eq_some hsender, hzero, hself, hmem⟩
  · rintro ⟨hsender, hzero, hself, hreceiver⟩
    obtain ⟨sender, hsender⟩ := Finmap.mem_iff.mp hsender
    apply transfer_ne_of_counts
    by_cases hshort : sender.balance < amount
    · exact Or.inr (transfer_insufficient_iff.mpr ⟨sender, hsender, hself, hreceiver, hshort⟩)
    · exact Or.inl (transfer_success_iff.mpr
        ⟨hzero, hself, hreceiver, sender, hsender, UInt64.not_lt.mp hshort⟩)

end Ledger

/-! ## Numbers -/

/-- A number that fits the client's counter. -/
def IsCounter (seqNum : Int64) : Prop := ∃ currentRequest : Int32, seqNum = currentRequest.toInt64

/-- Every counter can go up once more without leaving the range of an `int`. -/
def RoomLeft (ledger : Ledger) : Prop :=
  ∀ ip client, ledger.records.lookup ip = some client → client.lastRequest.toNat < 2 ^ 31 - 1

instance (ledger : Ledger) : Decidable (RoomLeft ledger) :=
  -- over the clients that there are, not over all addresses
  have : Decidable (∀ ip ∈ ledger.records.keys, ∀ client ∈ ledger.records.lookup ip,
      client.lastRequest.toNat < 2 ^ 31 - 1) := Finset.decidableDforallFinset
  decidable_of_iff (∀ ip ∈ ledger.records.keys, ∀ client ∈ ledger.records.lookup ip,
      client.lastRequest.toNat < 2 ^ 31 - 1)
    ⟨fun h ip client hclient =>
      h ip (Finmap.mem_keys.mpr (Finmap.mem_of_lookup_eq_some hclient)) client hclient,
    fun h ip _ client hclient => h ip client hclient⟩

/-- A counter is not negative as a `long`, -/
theorem toInt_toLong (n : UInt32) : (toLong n).toInt = n.toNat := by
  have hfits : 2 * n.toUInt64.toBitVec.toNat < 2 ^ 64 := by
    have h := n.toNat_lt
    show 2 * n.toUInt64.toNat < 2 ^ 64
    rw [UInt32.toNat_toUInt64]
    omega
  show n.toUInt64.toBitVec.toInt = n.toNat
  rw [BitVec.toInt_eq_toNat_of_lt hfits]
  exact congrArg Nat.cast (UInt32.toNat_toUInt64 n)

/-- nor as an `int`, as long as it fits, -/
theorem toInt_toInt32 {n : UInt32} (h : n.toNat < 2 ^ 31) : n.toInt32.toInt = n.toNat :=
  BitVec.toInt_eq_toNat_of_lt (show 2 * n.toNat < 2 ^ 32 by omega)

/-- and it does not wrap around. -/
theorem toNat_add_one {n : UInt32} (h : n.toNat < 2 ^ 31 - 1) : (n + 1).toNat = n.toNat + 1 := by
  rw [UInt32.toNat_add, UInt32.toNat_one]
  omega

/-- A counter that is narrowed to the next number is the next number. -/
theorem IsCounter.eq_toLong {seqNum : Int64} (h : IsCounter seqNum) {n : UInt32}
    (hroom : n.toNat < 2 ^ 31) (hnext : seqNum.toInt32 = n.toInt32) : seqNum = toLong n := by
  obtain ⟨currentRequest, rfl⟩ := h
  rw [Int32.toInt32_toInt64] at hnext
  apply Int64.toInt_inj.mp
  rw [Int32.toInt_toInt64, hnext, toInt_toInt32 hroom, toInt_toLong]

/-! ## One request -/

/-- The answer says that the request was counted. -/
def AckPacket.Counts (reply : AckPacket) : Prop :=
  reply.result = "SUCCESS".toList ∨ reply.result = "INSUFFICIENT_BALANCE".toList

instance (reply : AckPacket) : Decidable reply.Counts := inferInstanceAs (Decidable (_ ∨ _))

/-- The answer shows whether `make_transaction` has counted the request, -/
theorem transactionReply_counts_iff (senderIp : InAddr) (packet : ReqPacket)
    (result : DbRecordResponse) :
    (transactionReply senderIp packet result).Counts ↔
      result.statusCode = .success ∨ result.statusCode = .insufficientBalance := by
  unfold transactionReply AckPacket.Counts
  cases result.statusCode <;> simp

/-- and under which number. -/
theorem transactionReply_seqNum (senderIp : InAddr) (packet : ReqPacket)
    {result : DbRecordResponse}
    (h : result.statusCode = .success ∨ result.statusCode = .insufficientBalance) :
    (transactionReply senderIp packet result).seqNum = toLong result.record.lastRequest := by
  unfold transactionReply
  rcases h with hcode | hcode
  · rw [hcode]
  · rw [hcode]

/-- **One request.**  It is counted, and answered, under the sender's next number; or
the ledger stays as it is. -/
theorem processReqPacket_counts (senderIp : InAddr) {packet : ReqPacket} {ledger : Ledger}
    (hcounter : IsCounter packet.seqNum) (hroom : RoomLeft ledger) :
    ((processReqPacket senderIp packet ledger).reply.Counts ∧
      (processReqPacket senderIp packet ledger).reply.seqNum = packet.seqNum ∧
      (processReqPacket senderIp packet ledger).ledger
        = (ledger.transfer senderIp packet.receiverIp packet.transferAmount).2 ∧
      ∃ client client', ledger.records.lookup senderIp = some client ∧
        (processReqPacket senderIp packet ledger).ledger.records.lookup senderIp = some client' ∧
        packet.seqNum.toInt = client'.lastRequest.toNat ∧
        client'.lastRequest.toNat = client.lastRequest.toNat + 1) ∨
    (¬ (processReqPacket senderIp packet ledger).reply.Counts ∧
      (processReqPacket senderIp packet ledger).ledger = ledger) := by
  obtain ⟨client, hclient, hreply, hledger⟩ := processReqPacket_replyTo senderIp packet ledger
  rw [hreply, hledger]
  cases hstatus : checkPacketStatus packet client with
  | duplicate => exact Or.inr ⟨by simp [AckPacket.Counts, replyTo, statusReply], rfl⟩
  | outOfOrder => exact Or.inr ⟨by simp [AckPacket.Counts, replyTo, statusReply], rfl⟩
  | noClue => exact Or.inr ⟨by simp [AckPacket.Counts, replyTo, statusReply], rfl⟩
  | valid =>
      have hnext := eq_of_checkPacketStatus hstatus
      have hcases := @Ledger.transfer_counts_or_unchanged ledger senderIp packet.receiverIp
        packet.transferAmount
      show ((transactionReply senderIp packet _).Counts ∧ _) ∨
        (¬ (transactionReply senderIp packet _).Counts ∧ _)
      rw [transactionReply_counts_iff]
      rcases hcases with ⟨hcounted, sender, hsender, hsender', hlast⟩ | ⟨⟨hone, hother⟩, hsame⟩
      · left
        -- the record that the handler has read is the sender's
        have hread : client = sender := by
          rw [hclient, getClientInfo_of_lookup hsender]
        have hsmall := hroom senderIp sender hsender
        have hsucc := toNat_add_one hsmall
        rw [hread] at hnext
        have hseq : packet.seqNum = toLong (sender.lastRequest + 1) :=
          hcounter.eq_toLong (by omega) hnext
        refine ⟨hcounted, ?_, rfl, sender, _, hsender, hsender', ?_, ?_⟩
        · rw [hseq, ← hlast]
          exact transactionReply_seqNum senderIp packet hcounted
        · rw [hseq, toInt_toLong, hlast]
        · rw [hlast, hsucc]
      · right
        exact ⟨fun h => h.elim hone hother, hsame⟩

/-! ## Any sequence of requests -/

/-- A request that was handled, and the ledger it was handled in. -/
structure Served where
  arrival : Arrival
  before : Ledger
  handled : Handled

/-- Handle requests one at a time: what came of each, and the ledger they leave. -/
def serveRequests : Ledger → List Arrival → List Served × Ledger
  | ledger, [] => ([], ledger)
  | ledger, arrival :: rest =>
      let handled := processReqPacket arrival.senderIp arrival.packet ledger
      let (log, final) := serveRequests handled.ledger rest
      (⟨arrival, ledger, handled⟩ :: log, final)

/-- Nothing to handle. -/
@[simp] theorem serveRequests_nil (ledger : Ledger) : serveRequests ledger [] = ([], ledger) := rfl

/-- The first request, and the others in the ledger that it leaves. -/
@[simp] theorem serveRequests_cons (ledger : Ledger) (arrival : Arrival) (rest : List Arrival) :
    serveRequests ledger (arrival :: rest)
      = let handled := processReqPacket arrival.senderIp arrival.packet ledger
        (⟨arrival, ledger, handled⟩ :: (serveRequests handled.ledger rest).1,
          (serveRequests handled.ledger rest).2) := rfl

/-- The numbers of a sender's requests that were counted, in order. -/
def countedNumbers (ip : InAddr) (log : List Served) : List ℤ :=
  (log.filter fun served => served.arrival.senderIp = ip ∧ served.handled.reply.Counts).map
    fun served => served.arrival.packet.seqNum.toInt

/-- The first request's number comes first, if it is this sender's and counts. -/
@[simp] theorem countedNumbers_cons (ip : InAddr) (served : Served) (log : List Served) :
    countedNumbers ip (served :: log)
      = if served.arrival.senderIp = ip ∧ served.handled.reply.Counts then
          served.arrival.packet.seqNum.toInt :: countedNumbers ip log
        else countedNumbers ip log := by
  unfold countedNumbers
  rw [List.filter_cons]
  by_cases h : served.arrival.senderIp = ip ∧ served.handled.reply.Counts
  · rw [if_pos h, if_pos (decide_eq_true h), List.map_cons]
  · rw [if_neg h, if_neg (by simpa using h)]

/-- A sender's record before and after, and the numbers that were used in between: they
go up from the first unused one, one by one, and the last of them is the counter. -/
structure InSequence (client client' : ClientRecord) (numbers : List ℤ) : Prop where
  consecutive : numbers
    = (List.range' (client.lastRequest.toNat + 1) numbers.length).map Nat.cast
  counter : client'.lastRequest.toNat = client.lastRequest.toNat + numbers.length

/-- No request has been counted. -/
theorem InSequence.nil (client : ClientRecord) : InSequence client client [] := ⟨rfl, rfl⟩

/-- A number was used before the others. -/
theorem InSequence.cons {client client' client'' : ClientRecord} {numbers : List ℤ}
    (h : InSequence client' client'' numbers)
    (hlast : client'.lastRequest.toNat = client.lastRequest.toNat + 1) :
    InSequence client client'' ((client'.lastRequest.toNat : ℤ) :: numbers) where
  consecutive := by
    rw [List.length_cons, List.range'_succ, List.map_cons, ← hlast, ← h.consecutive]
  counter := by
    rw [List.length_cons, h.counter, hlast]
    omega

/-- Nothing was used. -/
theorem InSequence.unused {client client' client'' : ClientRecord} {numbers : List ℤ}
    (h : InSequence client' client'' numbers) (hlast : client'.lastRequest = client.lastRequest) :
    InSequence client client'' numbers where
  consecutive := hlast ▸ h.consecutive
  counter := hlast ▸ h.counter

/-- The counter is the largest number that was used, or nothing was. -/
theorem InSequence.isGreatest {client client' : ClientRecord} {numbers : List ℤ}
    (h : InSequence client client' numbers) (hused : numbers ≠ []) :
    IsGreatest {n | n ∈ numbers} (client'.lastRequest.toNat : ℤ) := by
  have hpos : 0 < numbers.length := List.length_pos_iff.mpr hused
  have hmem : ∀ n, n ∈ numbers ↔ ∃ m, (client.lastRequest.toNat + 1 ≤ m ∧
      m < client.lastRequest.toNat + 1 + numbers.length) ∧ (m : ℤ) = n := by
    intro n
    rw [h.consecutive, List.mem_map]
    simp only [List.mem_range'_1, List.length_map, List.length_range']
  constructor
  · exact (hmem _).mpr ⟨_, by have := h.counter; omega, rfl⟩
  · rintro n hn
    obtain ⟨m, hm, rfl⟩ := (hmem n).mp hn
    have := h.counter
    omega

/-- What one request does to the counter of any client: if it is the client's own and is
counted, it uses the next number; otherwise the counter stays. -/
theorem processReqPacket_counter (senderIp : InAddr) {packet : ReqPacket} {ledger : Ledger}
    (hcounter : IsCounter packet.seqNum) (hroom : RoomLeft ledger) {ip : InAddr}
    {client : ClientRecord} (hclient : ledger.records.lookup ip = some client) :
    ∃ client', (processReqPacket senderIp packet ledger).ledger.records.lookup ip = some client' ∧
      if senderIp = ip ∧ (processReqPacket senderIp packet ledger).reply.Counts then
        packet.seqNum.toInt = client'.lastRequest.toNat ∧
          client'.lastRequest.toNat = client.lastRequest.toNat + 1
      else client'.lastRequest = client.lastRequest := by
  rcases processReqPacket_counts senderIp hcounter hroom with
    ⟨hcounts, -, hledger, sender, sender', hsender, hsender', hseq, hlast⟩ | ⟨hcounts, hledger⟩
  · by_cases hip : senderIp = ip
    · subst hip
      rw [hsender] at hclient
      cases hclient
      exact ⟨sender', hsender', by rw [if_pos ⟨rfl, hcounts⟩]; exact ⟨hseq, hlast⟩⟩
    · obtain ⟨client', hclient', hsame⟩ : ∃ client',
          (ledger.transfer senderIp packet.receiverIp packet.transferAmount).2.records.lookup ip
            = some client' ∧
          (client'.lastRequest = client.lastRequest ∨
            ip = senderIp ∧ client'.lastRequest = client.lastRequest + 1) :=
        Ledger.lookup_transfer hclient
      refine ⟨client', by rw [hledger, hclient'], ?_⟩
      rw [if_neg fun h => hip h.1]
      exact hsame.resolve_right fun h => hip h.1.symm
  · exact ⟨client, by rw [hledger, hclient], by rw [if_neg fun h => hcounts h.2]⟩

/-- The induction is on the requests.  A client that is registered stays so: no REQ packet removes
anybody. -/
theorem serveRequests_inSequence {ledger : Ledger} {arrivals : List Arrival}
    (hcounters : ∀ arrival ∈ arrivals, IsCounter arrival.packet.seqNum)
    (hroom : ∀ served ∈ (serveRequests ledger arrivals).1, RoomLeft served.before)
    {ip : InAddr} {client : ClientRecord} (hclient : ledger.records.lookup ip = some client) :
    ∃ client', (serveRequests ledger arrivals).2.records.lookup ip = some client' ∧
      InSequence client client' (countedNumbers ip (serveRequests ledger arrivals).1) := by
  induction arrivals generalizing ledger client with
  | nil => exact ⟨client, hclient, InSequence.nil client⟩
  | cons arrival rest ih =>
      rw [serveRequests_cons] at hroom ⊢
      obtain ⟨middle, hmiddle, hstep⟩ := processReqPacket_counter arrival.senderIp
        (hcounters arrival List.mem_cons_self) (hroom _ List.mem_cons_self) hclient
      obtain ⟨client', hclient', hsequence⟩ :=
        ih (fun arrival h => hcounters arrival (List.mem_cons_of_mem _ h))
          (fun served h => hroom served (List.mem_cons_of_mem _ h)) hmiddle
      refine ⟨client', hclient', ?_⟩
      rw [countedNumbers_cons]
      by_cases hcounted : arrival.senderIp = ip ∧
          (processReqPacket arrival.senderIp arrival.packet ledger).reply.Counts
      · rw [if_pos hcounted] at hstep
        rw [if_pos hcounted, hstep.1]
        exact hsequence.cons hstep.2
      · rw [if_neg hcounted] at hstep
        rw [if_neg hcounted]
        exact hsequence.unused hstep

/-- Each answer is about the ledger that its request was handled in. -/
theorem serveRequests_answers {ledger : Ledger} {arrivals : List Arrival}
    (hcounters : ∀ arrival ∈ arrivals, IsCounter arrival.packet.seqNum)
    (hroom : ∀ served ∈ (serveRequests ledger arrivals).1, RoomLeft served.before) :
    ∀ served ∈ (serveRequests ledger arrivals).1,
      (served.handled.reply.Counts →
        served.handled.reply.seqNum = served.arrival.packet.seqNum) ∧
      (¬ served.handled.reply.Counts → served.handled.ledger = served.before) := by
  induction arrivals generalizing ledger with
  | nil => exact nofun
  | cons arrival rest ih =>
      rw [serveRequests_cons] at hroom ⊢
      intro served hserved
      rcases List.mem_cons.mp hserved with rfl | hserved
      · rcases processReqPacket_counts arrival.senderIp (hcounters arrival List.mem_cons_self)
            (hroom _ List.mem_cons_self) with ⟨hcounts, hseq, -⟩ | ⟨hcounts, hledger⟩
        · exact ⟨fun _ => hseq, fun h => absurd hcounts h⟩
        · exact ⟨fun h => absurd h hcounts, fun _ => hledger⟩
      · exact ih (fun arrival h => hcounters arrival (List.mem_cons_of_mem _ h))
          (fun served h => hroom served (List.mem_cons_of_mem _ h)) served hserved

/-- **Requests in order.**  Any sequence of requests from any mixture of senders,
handled one at a time from any ledger: while every counter has room, the counted
requests of a registered sender carry the consecutive numbers from its first unused one
on and its counter ends at the last of them, every counted request is answered under its
own number, and every other request leaves the ledger as it is. -/
theorem requests_in_order {ledger : Ledger} {arrivals : List Arrival}
    (hcounters : ∀ arrival ∈ arrivals, IsCounter arrival.packet.seqNum)
    (hroom : ∀ served ∈ (serveRequests ledger arrivals).1, RoomLeft served.before) :
    (∀ ip client, ledger.records.lookup ip = some client → ∃ client',
      (serveRequests ledger arrivals).2.records.lookup ip = some client' ∧
      InSequence client client' (countedNumbers ip (serveRequests ledger arrivals).1) ∧
      (countedNumbers ip (serveRequests ledger arrivals).1 ≠ [] →
        IsGreatest {n | n ∈ countedNumbers ip (serveRequests ledger arrivals).1}
          (client'.lastRequest.toNat : ℤ))) ∧
    ∀ served ∈ (serveRequests ledger arrivals).1,
      (served.handled.reply.Counts →
        served.handled.reply.seqNum = served.arrival.packet.seqNum) ∧
      (¬ served.handled.reply.Counts → served.handled.ledger = served.before) := by
  constructor
  · intro ip client hclient
    obtain ⟨client', hclient', hsequence⟩ := serveRequests_inSequence hcounters hroom hclient
    exact ⟨client', hclient', hsequence, hsequence.isGreatest⟩
  · exact serveRequests_answers hcounters hroom

/-- Client 1 pays, a copy of its request arrives, it asks for more than it has, and
somebody who is not registered asks for something too. -/
def mixedRequests : List Arrival :=
  [firstRequest, firstRequest, ⟨1, ⟨2, 2, 200000⟩⟩, ⟨3, ⟨1, 2, 40⟩⟩]

/-- Two of the four are counted, with the numbers 1 and 2. -/
theorem mixedRequests_in_order :
    countedNumbers 1 (serveRequests twoNewClients mixedRequests).1 = [1, 2] ∧
    ∃ client', (serveRequests twoNewClients mixedRequests).2.records.lookup 1 = some client' ∧
      InSequence ⟨1, 100000, 0⟩ client' [1, 2] := by
  have hnumbers : countedNumbers 1 (serveRequests twoNewClients mixedRequests).1 = [1, 2] := by
    decide +kernel
  have hcounters : ∀ arrival ∈ mixedRequests, IsCounter arrival.packet.seqNum := by
    intro arrival harrival
    simp only [mixedRequests, List.mem_cons, List.not_mem_nil, or_false] at harrival
    rcases harrival with rfl | rfl | rfl | rfl
    · exact ⟨1, rfl⟩
    · exact ⟨1, rfl⟩
    · exact ⟨2, rfl⟩
    · exact ⟨1, rfl⟩
  have hroom : ∀ served ∈ (serveRequests twoNewClients mixedRequests).1,
      RoomLeft served.before := by
    decide +kernel
  have hclient : twoNewClients.records.lookup 1 = some ⟨1, 100000, 0⟩ := by decide
  obtain ⟨client', hclient', hsequence, -⟩ :=
    (requests_in_order hcounters hroom).1 1 _ hclient
  exact ⟨hnumbers, client', hclient', hnumbers ▸ hsequence⟩

end Brix
