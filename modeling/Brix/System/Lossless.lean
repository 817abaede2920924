import Brix.Server.Sequencing
import Brix.System.Exchange

/-!
# A channel that loses nothing

A client works through a queue of transfers, and every request it sends is handled once
and answered before it does anything else.  Requests of other clients are handled before
any of its attempts.

The two counters need not fit together to begin with.  If the first attempt is not the
sender's next request, its answer carries the number of the last one, and the second
attempt is the next (`attempt_refused`, `attempt_accepted`).  `exactly_once` is the
result for the whole queue.

### The design

The loop of `dispatch_request` is a function here and not a relation as in `Brix.System.Exchange`:
on a channel that loses nothing the client cannot time out, and its next move is determined.  What
is left open is what others do meanwhile, and they may do it before every attempt.  The two
programs are connected by their texts only: `attemptOnce` writes a REQ, hands it to
`packetMultiplexer`, and reads what comes back.

### What is load-bearing

The number that the client uses is the server's `last_request + 1` cut down to 32 bits, from the
second attempt on at the latest.  Others cannot disturb that, because a counter belongs to one
sender (`lookup_serveRequests`); and an answer restores it, because every answer names the
counter.  Two attempts are therefore enough for each transfer, whatever the client starts with.
-/

namespace Brix

open Text

/-- A transfer in the queue, and the requests of others that are handled before each of
the attempts it takes. -/
structure Queued where
  destIp : InAddr
  transferAmount : UInt64
  interlude : ℕ → List Arrival

/-- What the client makes of it. -/
def Queued.request (queued : Queued) : Request := .transfer queued.destIp queued.transferAmount

/-- A REQ that was handled: the ledger it was handled in, and what came of it. -/
structure Attempt where
  before : Ledger
  handled : Handled

/-- A call of `dispatch_request` that has ended. -/
structure Dispatched where
  attempts : List Attempt
  dispatcher : Dispatcher
  ledger : Ledger

section Client

variable (clientIp : InAddr)

/-- One turn of the loop: the REQ is sent and handled, and its answer is read. -/
def attemptOnce (request : Request) (d : Dispatcher) (ledger : Ledger) :
    Option (Dispatcher × Handled) :=
  (d.send request).bind fun (datagram, d) =>
    match packetMultiplexer clientIp datagram ledger with
    | .ok (some handled) => (d.receive handled.reply.toText).map fun d => (d, handled)
    | _ => none

/-- The loop of `dispatch_request`, with so many turns left.

The interlude is chosen by the attempt's number, so others may do something else before each of
them. -/
def dispatchLoop (queued : Queued) : ℕ → Dispatcher → Ledger → Dispatched
  | 0, d, ledger => ⟨[], d, ledger⟩
  | left + 1, d, ledger =>
      let ledger := (serveRequests ledger (queued.interlude d.retries)).2
      match attemptOnce clientIp queued.request d ledger with
      | none => ⟨[], d, ledger⟩
      | some (d, handled) =>
          let attempt : Attempt := ⟨ledger, handled⟩
          if d.returned then ⟨[attempt], d, handled.ledger⟩
          else
            let rest := dispatchLoop queued left d handled.ledger
            ⟨attempt :: rest.attempts, rest.dispatcher, rest.ledger⟩

/-- `dispatch_request`. -/
def dispatchRequest (queued : Queued) (currentRequest : Int32) (ledger : Ledger) : Dispatched :=
  dispatchLoop clientIp queued RequestDispatcher.MAX_RETRIES (.start currentRequest) ledger

/-- `process_requests`, until the queue is empty. -/
def dispatchQueue : List Queued → Int32 → Ledger → List Dispatched
  | [], _, _ => []
  | queued :: rest, currentRequest, ledger =>
      let dispatched := dispatchRequest clientIp queued currentRequest ledger
      dispatched :: dispatchQueue rest dispatched.dispatcher.currentRequest dispatched.ledger

/-- The transfer is made once: an attempt may be refused and change nothing, the last one
moves the money.  The client takes the request for done and has the next number. -/
structure ExactlyOnce (queued : Queued) (dispatched : Dispatched) : Prop where
  returned : dispatched.dispatcher.returned = true
  attempts : ∃ refused last, dispatched.attempts = refused ++ [last] ∧ refused.length ≤ 1 ∧
    (∀ attempt ∈ refused, attempt.handled.reply.result ≠ "SUCCESS".toList ∧
      attempt.handled.ledger = attempt.before) ∧
    last.handled.reply.result = "SUCCESS".toList ∧
    last.handled.ledger
      = (last.before.transfer clientIp queued.destIp queued.transferAmount).2 ∧
    dispatched.ledger = last.handled.ledger
  next : ∃ client, dispatched.ledger.records.lookup clientIp = some client ∧
    dispatched.dispatcher.currentRequest = (client.lastRequest + 1).toInt32

end Client

section Attempts

variable {clientIp : InAddr} {ledger : Ledger} {client : ClientRecord} {currentRequest : Int32}
  {retries : ℕ} {destIp : InAddr} {amount : UInt64}

/-- What others ask for leaves a client's counter alone. -/
theorem lookup_serveRequests {arrivals : List Arrival}
    (hothers : ∀ arrival ∈ arrivals, arrival.senderIp ≠ clientIp)
    (hclient : ledger.records.lookup clientIp = some client) :
    ∃ client', (serveRequests ledger arrivals).2.records.lookup clientIp = some client' ∧
      client'.lastRequest = client.lastRequest := by
  induction arrivals generalizing ledger client with
  | nil => exact ⟨client, hclient, rfl⟩
  | cons arrival rest ih =>
      have hother : arrival.senderIp ≠ clientIp := hothers arrival List.mem_cons_self
      obtain ⟨middle, hmiddle, hlast⟩ : ∃ middle,
          (processReqPacket arrival.senderIp arrival.packet ledger).ledger.records.lookup clientIp
            = some middle ∧ middle.lastRequest = client.lastRequest := by
        rcases processReqPacket_cases arrival.senderIp arrival.packet ledger with
          ⟨hledger, -⟩ | ⟨hledger, -⟩
        · exact ⟨client, by rw [hledger, hclient], rfl⟩
        · obtain ⟨middle, hmiddle, hlast⟩ : ∃ middle,
              (ledger.transfer arrival.senderIp arrival.packet.receiverIp
                arrival.packet.transferAmount).2.records.lookup clientIp = some middle ∧
              (middle.lastRequest = client.lastRequest ∨ clientIp = arrival.senderIp ∧
                middle.lastRequest = client.lastRequest + 1) := Ledger.lookup_transfer hclient
          exact ⟨middle, by rw [hledger, hmiddle],
            hlast.resolve_right fun h => hother h.1.symm⟩
      obtain ⟨client', hclient', hlast'⟩ :=
        ih (fun arrival h => hothers arrival (List.mem_cons_of_mem _ h)) hmiddle
      exact ⟨client', hclient', hlast'.trans hlast⟩

/-- An attempt is the handler's answer, read by the dispatcher. -/
theorem attemptOnce_eq (hretries : retries < RequestDispatcher.MAX_RETRIES) :
    attemptOnce clientIp (.transfer destIp amount) ⟨currentRequest, retries, false, false⟩ ledger
      = let handled := processReqPacket clientIp (attempt destIp amount currentRequest) ledger
        let (currentRequest', success) := RequestDispatcher.handleResponse handled.reply
        some (⟨currentRequest', retries + 1, false, success⟩, handled) := by
  have hsend : (Dispatcher.mk currentRequest retries false false).send (.transfer destIp amount)
      = some ((attempt destIp amount currentRequest).toText,
          ⟨currentRequest, retries + 1, true, false⟩) := by
    rw [Dispatcher.send, if_neg (by simp; omega)]
    rfl
  have hread := toAckPacket_inBuffer_reply clientIp (attempt destIp amount currentRequest) ledger
    (show 300 ≤ RequestDispatcher.MAXLINE by decide)
  rw [attemptOnce, hsend, Option.bind_some]
  simp only [packetMultiplexer_req]
  generalize processReqPacket clientIp (attempt destIp amount currentRequest) ledger = handled
    at hread ⊢
  rw [Dispatcher.receive, if_pos rfl, hread]
  rfl

/-- An attempt that is not the next request is refused, and tells the client the number
that is. -/
theorem attempt_refused (hretries : retries < RequestDispatcher.MAX_RETRIES)
    (hclient : ledger.records.lookup clientIp = some client)
    (hother : currentRequest ≠ (client.lastRequest + 1).toInt32) :
    ∃ handled, attemptOnce clientIp (.transfer destIp amount)
        ⟨currentRequest, retries, false, false⟩ ledger
          = some (⟨(client.lastRequest + 1).toInt32, retries + 1, false, false⟩, handled) ∧
      handled.reply.result ≠ "SUCCESS".toList ∧ handled.ledger = ledger := by
  have hseq : (attempt destIp amount currentRequest).seqNum.toInt32
      ≠ (client.lastRequest + 1).toInt32 := by
    rwa [attempt, Int32.toInt32_toInt64]
  obtain ⟨hresult, hnumber, hledger⟩ := processReqPacket_other hclient hseq
  rw [attemptOnce_eq hretries]
  generalize processReqPacket clientIp (attempt destIp amount currentRequest) ledger = handled
    at hresult hnumber hledger ⊢
  have hresponse : RequestDispatcher.handleResponse handled.reply
      = ((client.lastRequest + 1).toInt32, false) := by
    rw [RequestDispatcher.handleResponse, hnumber, toInt32_toLong_add_one]
    rcases hresult with hresult | hresult
    · rw [hresult]
      rfl
    · rw [hresult]
      rfl
  refine ⟨handled, by simp only [hresponse], ?_, hledger⟩
  rcases hresult with hresult | hresult
  · rw [hresult]
    decide
  · rw [hresult]
    decide

/-- An attempt that is the next request moves the money, if it is there, and is the last
one. -/
theorem attempt_accepted (hretries : retries < RequestDispatcher.MAX_RETRIES)
    (hclient : ledger.records.lookup clientIp = some client)
    (hnext : currentRequest = (client.lastRequest + 1).toInt32)
    (hcovers : ledger.Covers clientIp destIp amount) :
    ∃ handled client', attemptOnce clientIp (.transfer destIp amount)
        ⟨currentRequest, retries, false, false⟩ ledger
          = some (⟨(client'.lastRequest + 1).toInt32, retries + 1, false, true⟩, handled) ∧
      handled.reply.result = "SUCCESS".toList ∧
      handled.ledger = (ledger.transfer clientIp destIp amount).2 ∧
      handled.ledger.records.lookup clientIp = some client' := by
  have hseq : (attempt destIp amount currentRequest).seqNum.toInt32
      = (client.lastRequest + 1).toInt32 := by
    rw [attempt, Int32.toInt32_toInt64, hnext]
  obtain ⟨hresult, hledger⟩ := processReqPacket_next hclient hseq hcovers
  obtain ⟨hreply, -⟩ := @processReqPacket_eq clientIp (attempt destIp amount currentRequest)
    ledger client hclient
  have hstatus : checkPacketStatus (attempt destIp amount currentRequest) client = .valid :=
    if_pos hseq
  have hsuccess := Ledger.transfer_success_iff.mpr hcovers
  -- the answer carries the number of the record that the transfer leaves
  obtain ⟨client', hclient', hrecord⟩ : ∃ client',
      (ledger.transfer clientIp destIp amount).2.records.lookup clientIp = some client' ∧
        (ledger.transfer clientIp destIp amount).1.record = client' := by
    rcases @Ledger.transfer_counts_or_unchanged ledger clientIp destIp amount with
      ⟨-, -, -, hlookup, -⟩ | ⟨⟨hnot, -⟩, -⟩
    · exact ⟨_, hlookup, rfl⟩
    · exact absurd hsuccess hnot
  have hnumber : (processReqPacket clientIp (attempt destIp amount currentRequest)
      ledger).reply.seqNum = toLong client'.lastRequest := by
    rw [hreply, hstatus, ← hrecord]
    exact transactionReply_seqNum clientIp _ (Or.inl hsuccess)
  rw [attemptOnce_eq hretries]
  generalize processReqPacket clientIp (attempt destIp amount currentRequest) ledger = handled
    at hresult hledger hnumber ⊢
  have hresponse : RequestDispatcher.handleResponse handled.reply
      = ((client'.lastRequest + 1).toInt32, true) := by
    rw [RequestDispatcher.handleResponse, hnumber, toInt32_toLong_add_one, hresult]
    rfl
  exact ⟨handled, client', by simp only [hresponse], hresult, hledger, hledger ▸ hclient'⟩

end Attempts

section Queue

variable {clientIp : InAddr} {ledger : Ledger} {client : ClientRecord} {queued : Queued}
  {currentRequest : Int32} {retries : ℕ}

/-- Every REQ of the dispatch was handled in a ledger that covers the transfer. -/
def Covered (clientIp : InAddr) (queued : Queued) (dispatched : Dispatched) : Prop :=
  ∀ attempt ∈ dispatched.attempts,
    attempt.before.Covers clientIp queued.destIp queued.transferAmount

instance (dispatched : Dispatched) : Decidable (Covered clientIp queued dispatched) :=
  inferInstanceAs (Decidable (∀ _ ∈ _, _))

/-- The first attempt that is left is handled in the ledger that the others leave. -/
theorem covers_of_covered {left : ℕ} (hretries : retries < RequestDispatcher.MAX_RETRIES)
    (hcovered : Covered clientIp queued
      (dispatchLoop clientIp queued (left + 1) ⟨currentRequest, retries, false, false⟩ ledger)) :
    (serveRequests ledger (queued.interlude retries)).2.Covers clientIp queued.destIp
      queued.transferAmount := by
  rw [dispatchLoop, Queued.request, attemptOnce_eq hretries] at hcovered
  simp only at hcovered
  split at hcovered
  · exact hcovered _ List.mem_cons_self
  · exact hcovered _ List.mem_cons_self

/-- The attempt with the right number ends the dispatch. -/
theorem dispatchLoop_next {left : ℕ} (hretries : retries < RequestDispatcher.MAX_RETRIES)
    (hothers : ∀ arrival ∈ queued.interlude retries, arrival.senderIp ≠ clientIp)
    (hclient : ledger.records.lookup clientIp = some client)
    (hnext : currentRequest = (client.lastRequest + 1).toInt32)
    (hcovered : Covered clientIp queued
      (dispatchLoop clientIp queued (left + 1) ⟨currentRequest, retries, false, false⟩ ledger)) :
    ∃ last client',
      dispatchLoop clientIp queued (left + 1) ⟨currentRequest, retries, false, false⟩ ledger
        = ⟨[last], ⟨(client'.lastRequest + 1).toInt32, retries + 1, false, true⟩,
            last.handled.ledger⟩ ∧
      last.handled.reply.result = "SUCCESS".toList ∧
      last.handled.ledger
        = (last.before.transfer clientIp queued.destIp queued.transferAmount).2 ∧
      last.handled.ledger.records.lookup clientIp = some client' := by
  have hcovers := covers_of_covered hretries hcovered
  obtain ⟨reached, hreached, hlast⟩ := lookup_serveRequests hothers hclient
  obtain ⟨handled, client', hattempt, hresult, hledger, hclient'⟩ :=
    attempt_accepted hretries hreached (hlast ▸ hnext) hcovers
  refine ⟨⟨_, handled⟩, client', ?_, hresult, hledger, hclient'⟩
  rw [dispatchLoop, Queued.request, hattempt]
  rfl

/-- An attempt with a wrong number leads to one with the right number. -/
theorem dispatchLoop_other {left : ℕ} (hretries : retries < RequestDispatcher.MAX_RETRIES)
    (hothers : ∀ arrival ∈ queued.interlude retries, arrival.senderIp ≠ clientIp)
    (hclient : ledger.records.lookup clientIp = some client)
    (hother : currentRequest ≠ (client.lastRequest + 1).toInt32) :
    ∃ refused client', refused.handled.reply.result ≠ "SUCCESS".toList ∧
      refused.handled.ledger = refused.before ∧
      refused.before.records.lookup clientIp = some client' ∧
      dispatchLoop clientIp queued (left + 1) ⟨currentRequest, retries, false, false⟩ ledger
        = let rest := dispatchLoop clientIp queued left
            ⟨(client'.lastRequest + 1).toInt32, retries + 1, false, false⟩ refused.before
          ⟨refused :: rest.attempts, rest.dispatcher, rest.ledger⟩ := by
  obtain ⟨client', hclient', hlast⟩ := lookup_serveRequests hothers hclient
  obtain ⟨handled, hattempt, hresult, hledger⟩ : ∃ handled,
      attemptOnce clientIp (.transfer queued.destIp queued.transferAmount)
          ⟨currentRequest, retries, false, false⟩
          (serveRequests ledger (queued.interlude retries)).2
        = some (⟨(client'.lastRequest + 1).toInt32, retries + 1, false, false⟩, handled) ∧
      handled.reply.result ≠ "SUCCESS".toList ∧
      handled.ledger = (serveRequests ledger (queued.interlude retries)).2 :=
    attempt_refused hretries hclient' (hlast ▸ hother)
  refine ⟨⟨_, handled⟩, client', hresult, hledger, hclient', ?_⟩
  rw [dispatchLoop, Queued.request, hattempt]
  simp only [hledger, Bool.false_eq_true, if_false]

/-- **One request.**  Whatever number the client starts with. -/
theorem dispatchRequest_exactlyOnce
    (hothers : ∀ n, ∀ arrival ∈ queued.interlude n, arrival.senderIp ≠ clientIp)
    (hclient : ledger.records.lookup clientIp = some client)
    (hcovered : Covered clientIp queued
      (dispatchRequest clientIp queued currentRequest ledger)) :
    ExactlyOnce clientIp queued (dispatchRequest clientIp queued currentRequest ledger) := by
  unfold dispatchRequest at hcovered ⊢
  by_cases hnext : currentRequest = (client.lastRequest + 1).toInt32
  · obtain ⟨last, client', hloop, hresult, hledger, hclient'⟩ :=
      dispatchLoop_next (by decide) (hothers 0) hclient hnext hcovered
    rw [show dispatchLoop clientIp queued RequestDispatcher.MAX_RETRIES (.start currentRequest)
      ledger = _ from hloop]
    exact ⟨rfl, ⟨[], last, rfl, Nat.zero_le 1, nofun, hresult, hledger, rfl⟩, client', hclient',
      rfl⟩
  · obtain ⟨refused, reached, hrefused, hsame, hreached, hloop⟩ :=
      dispatchLoop_other (by decide) (hothers 0) hclient hnext
    rw [show dispatchLoop clientIp queued RequestDispatcher.MAX_RETRIES (.start currentRequest)
      ledger = _ from hloop] at hcovered ⊢
    -- the second attempt has the number that the answer to the first one named
    obtain ⟨last, client', hrest, hresult, hledger, hclient'⟩ :=
      dispatchLoop_next (by decide) (hothers 1) hreached rfl
        fun attempt hattempt => hcovered attempt (List.mem_cons_of_mem _ hattempt)
    rw [hrest]
    refine ⟨rfl, ⟨[refused], last, rfl, le_rfl, ?_, hresult, hledger, rfl⟩, client', hclient', rfl⟩
    intro attempt hattempt
    rw [List.mem_singleton.mp hattempt]
    exact ⟨hrefused, hsame⟩

/-- **Exactly once.**  Any queue of transfers of a registered client, from any ledger and
any number the client starts with: if nothing is lost and the ledger covers every
transfer when its turn comes, each is made exactly once, in the order of the queue, after
at most two attempts, and after each the client has the next number.

The induction is on the queue, and what is handed on is the number: the client has the next one
after each dispatch. -/
theorem exactly_once {queue : List Queued}
    (hothers : ∀ queued ∈ queue, ∀ n, ∀ arrival ∈ queued.interlude n,
      arrival.senderIp ≠ clientIp)
    (hclient : clientIp ∈ ledger.records)
    (hcovered : List.Forall₂ (Covered clientIp) queue
      (dispatchQueue clientIp queue currentRequest ledger)) :
    List.Forall₂ (ExactlyOnce clientIp) queue
      (dispatchQueue clientIp queue currentRequest ledger) := by
  induction queue generalizing currentRequest ledger with
  | nil => exact .nil
  | cons queued rest ih =>
      obtain ⟨client, hlookup⟩ := Finmap.mem_iff.mp hclient
      rw [dispatchQueue, List.forall₂_cons] at hcovered ⊢
      have hone := dispatchRequest_exactlyOnce (hothers queued List.mem_cons_self) hlookup
        hcovered.1
      obtain ⟨client', hclient', -⟩ := hone.next
      exact ⟨hone, ih (fun queued h => hothers queued (List.mem_cons_of_mem _ h))
        (Finmap.mem_of_lookup_eq_some hclient') hcovered.2⟩

end Queue

/-- Client 1 pays client 2 twice.  Client 2 pays something back between two attempts. -/
def twoTransfers : List Queued :=
  [⟨2, 40, fun n => if n = 1 then [⟨2, ⟨1, 1, 10⟩⟩] else []⟩, ⟨2, 50, fun _ => []⟩]

/-- The client starts with a number that is far too high. -/
theorem twoTransfers_exactly_once :
    List.Forall₂ (ExactlyOnce 1) twoTransfers (dispatchQueue 1 twoTransfers 7 twoNewClients) := by
  have hothers : ∀ queued ∈ twoTransfers, ∀ n, ∀ arrival ∈ queued.interlude n,
      arrival.senderIp ≠ 1 := by
    intro queued hqueued n arrival harrival
    simp only [twoTransfers, List.mem_cons, List.not_mem_nil, or_false] at hqueued
    rcases hqueued with rfl | rfl
    · simp only at harrival
      split at harrival
      · rw [List.mem_singleton.mp harrival]
        decide
      · cases harrival
    · cases harrival
  have hcovered : List.Forall₂ (Covered 1) twoTransfers
      (dispatchQueue 1 twoTransfers 7 twoNewClients) := by
    decide +kernel
  exact exactly_once hothers (by decide) hcovered

end Brix
