import Brix.Client.RequestQueue
import Brix.System.Reports

/-!
# A client's visit

All of it, on a channel that loses nothing: `main` reads lines, queues what they ask for and a
KILL, and `process_requests` dispatches the queue.  `dispatch_request` treats a KILL like any other
request, but for the packet.

* `dispatchErrands` — the queue, with payments and the KILL
* `Farewell` — what the KILL does
* `visit_truthful` — what becomes of the lines

### The design

`dispatch_request` does not look at the type of a request but to write it, so the loop here is the
one of `Brix.System.Lossless` with another text; for payments the two are the same function
(`errandLoop_transfer`), and everything that is known about reports carries over.  What is new is
the beginning and the end: which requests the lines lead to, and what the KILL does.

The client is registered when it starts, as it is after a discovery, and what others do in between
is REQ datagrams: they can neither remove the client nor change its counter.  A line with a number
that is too long for `stoi` ends `main` with an exception before anything more is queued, so the
lines here are those for which `from_string` throws nothing.
-/

namespace Brix

open Text

/-- A request in the queue, and the requests of others that are handled before each of its
attempts. -/
structure Errand where
  request : Request
  interlude : ℕ → List Arrival

/-- A payment. -/
def Errand.queued (errand : Errand) : Queued :=
  ⟨errand.request.destIp, errand.request.transferAmount, errand.interlude⟩

section Client

variable (clientIp : InAddr)

/-- The loop of `dispatch_request` for any request, with so many turns left. -/
def errandLoop (errand : Errand) : ℕ → Dispatcher → Ledger → Dispatched
  | 0, d, ledger => ⟨[], d, ledger⟩
  | left + 1, d, ledger =>
      let ledger := (serveRequests ledger (errand.interlude d.retries)).2
      match attemptOnce clientIp errand.request d ledger with
      | none => ⟨[], d, ledger⟩
      | some (d, handled) =>
          let attempt : Attempt := ⟨ledger, handled⟩
          if d.returned then ⟨[attempt], d, handled.ledger⟩
          else
            let rest := errandLoop errand left d handled.ledger
            ⟨attempt :: rest.attempts, rest.dispatcher, rest.ledger⟩

/-- `dispatch_request`. -/
def dispatchErrand (errand : Errand) (currentRequest : Int32) (ledger : Ledger) : Dispatched :=
  errandLoop clientIp errand RequestDispatcher.MAX_RETRIES (.start currentRequest) ledger

/-- `process_requests`, until the queue is empty. -/
def dispatchErrands : List Errand → Int32 → Ledger → List Dispatched
  | [], _, _ => []
  | errand :: rest, currentRequest, ledger =>
      let dispatched := dispatchErrand clientIp errand currentRequest ledger
      dispatched :: dispatchErrands rest dispatched.dispatcher.currentRequest dispatched.ledger

/-- The client is removed at the first attempt, and the answer shows what it had.  Nobody else is
touched. -/
structure Farewell (dispatched : Dispatched) : Prop where
  returned : dispatched.dispatcher.returned = true
  attempts : ∃ last client, dispatched.attempts = [last] ∧
    last.before.records.lookup clientIp = some client ∧
    last.handled.reply.result = "KILL".toList ∧ last.handled.reply.newBalance = client.balance ∧
    ∀ ip ≠ clientIp, dispatched.ledger.records.lookup ip = last.before.records.lookup ip
  removed : clientIp ∉ dispatched.ledger.records

end Client

section Errands

variable {clientIp : InAddr} {errand : Errand} {ledger : Ledger} {currentRequest : Int32}

/-- A payment is dispatched as one. -/
theorem errandLoop_transfer (htype : errand.request.type = .req) (left : ℕ) (d : Dispatcher)
    (ledger : Ledger) :
    errandLoop clientIp errand left d ledger
      = dispatchLoop clientIp errand.queued left d ledger := by
  have hrequest : errand.request = errand.queued.request := by
    rw [Queued.request, Errand.queued, Request.transfer, ← htype]
  induction left generalizing d ledger with
  | zero => rfl
  | succ left ih =>
      rw [errandLoop, dispatchLoop]
      simp only [ih, hrequest]
      rfl

/-- The server reads the client's KILL. -/
theorem packetMultiplexer_kill (ledger : Ledger) :
    packetMultiplexer clientIp "KIL END".toList ledger
      = .ok (some (processKillPacket clientIp ⟨-1⟩ ledger)) := by
  have hreceived : inBuffer MAX_PACKET_SIZE "KIL END".toList = "KIL END".toList := by
    decide +kernel
  have htype : packetType "KIL END".toList = .kil := by decide
  have hread : toKilPacket "KIL END".toList = .ok ⟨-1⟩ :=
    if_neg (by decide +kernel : ¬ tokens "KIL END".toList ≠ ["KIL".toList, "END".toList])
  rw [packetMultiplexer, hreceived]
  simp only [htype, hread]
  rfl

/-- And the client its answer. -/
theorem attemptOnce_kill {client : ClientRecord}
    (hclient : ledger.records.lookup clientIp = some client) :
    (processKillPacket clientIp ⟨-1⟩ ledger).reply
        = ⟨-1, "KILL".toList, client.balance, clientIp, 0, client.balance⟩ ∧
      attemptOnce clientIp Request.kill (.start currentRequest) ledger
        = some (⟨0, 1, false, true⟩, processKillPacket clientIp ⟨-1⟩ ledger) := by
  have hsend : (Dispatcher.start currentRequest).send Request.kill
      = some ("KIL END".toList, ⟨currentRequest, 1, true, false⟩) := rfl
  have hreply : (processKillPacket clientIp ⟨-1⟩ ledger).reply
      = ⟨-1, "KILL".toList, client.balance, clientIp, 0, client.balance⟩ := by
    unfold processKillPacket
    rw [Ledger.remove_success hclient]
  have hresult : (processKillPacket clientIp ⟨-1⟩ ledger).reply.result = "KILL".toList := by
    rw [hreply]
  have hread := inBuffer_ack (by rw [hresult]; decide) (by rw [hresult]; decide)
    (show 300 ≤ RequestDispatcher.MAXLINE by decide)
  have hresponse : RequestDispatcher.handleResponse (processKillPacket clientIp ⟨-1⟩ ledger).reply
      = (0, true) := by
    have hnumber : ((-1 : Int64) + 1).toInt32 = 0 := by decide
    rw [RequestDispatcher.handleResponse, hresult, hreply, hnumber]
    rfl
  refine ⟨hreply, ?_⟩
  rw [attemptOnce, hsend, Option.bind_some]
  simp only [packetMultiplexer_kill]
  rw [Dispatcher.receive, if_pos rfl, hread, toAckPacket_toText (by rw [hresult]; decide)]
  simp only [hresponse]
  rfl

/-- **The KILL.** -/
theorem dispatchErrand_kill (hrequest : errand.request = Request.kill)
    (hothers : ∀ n, ∀ arrival ∈ errand.interlude n, arrival.senderIp ≠ clientIp)
    (hclient : clientIp ∈ ledger.records) :
    Farewell clientIp (dispatchErrand clientIp errand currentRequest ledger) := by
  obtain ⟨client, hlookup⟩ := Finmap.mem_iff.mp hclient
  obtain ⟨reached, hreached, -⟩ := lookup_serveRequests (hothers 0) hlookup
  obtain ⟨hreply, hattempt⟩ := @attemptOnce_kill clientIp _ currentRequest reached hreached
  have hledger : (processKillPacket clientIp ⟨-1⟩
      (serveRequests ledger (errand.interlude 0)).2).ledger
      = ((serveRequests ledger (errand.interlude 0)).2.remove clientIp).2 := rfl
  have hloop : dispatchErrand clientIp errand currentRequest ledger
      = ⟨[⟨(serveRequests ledger (errand.interlude 0)).2, processKillPacket clientIp ⟨-1⟩
          (serveRequests ledger (errand.interlude 0)).2⟩], ⟨0, 1, false, true⟩,
          ((serveRequests ledger (errand.interlude 0)).2.remove clientIp).2⟩ := by
    have hretries : (Dispatcher.start currentRequest).retries = 0 := rfl
    rw [dispatchErrand, RequestDispatcher.MAX_RETRIES, errandLoop]
    simp only [hretries, hrequest, hattempt, if_true, hledger]
  generalize (serveRequests ledger (errand.interlude 0)).2 = before at hreached hreply hloop
  rw [hloop]
  refine ⟨rfl, ⟨_, reached, rfl, hreached, ?_, ?_, fun ip hip => ?_⟩, ?_⟩
  · rw [hreply]
  · rw [hreply]
  · exact Ledger.lookup_remove_of_ne hip
  · show clientIp ∉ (before.remove clientIp).2.records
    rw [Ledger.remove_success hreached]
    exact Finmap.notMem_erase_self

end Errands

/-! ## What the lines ask for -/

/-- A result that has been mapped was a result. -/
theorem exists_of_map_ok {ε α β : Type} {f : α → β} {result : Except ε α} {b : β}
    (h : result.map f = .ok b) : ∃ a, result = .ok a ∧ f a = b := by
  cases result with
  | error problem => cases h
  | ok a => exact ⟨a, rfl, Except.ok.inj h⟩

/-- `from_string` makes a payment of a line, or nothing. -/
theorem type_fromString {input : Text} {request : Request}
    (h : Request.fromString input = .ok request) :
    request.type = .req ∨ request.type = .error := by
  unfold Request.fromString at h
  split at h
  · split at h
    · cases h
      exact Or.inl rfl
    · cases h
      exact Or.inr rfl
    · cases h
    · cases h
  · cases h
    exact Or.inr rfl

/-- So it is with everything that `main` queues for a line. -/
theorem type_lineCalls {input : Text} {calls : List Request} (h : lineCalls input = .ok calls) :
    ∀ request ∈ calls, request.type = .req ∨ request.type = .error := by
  unfold lineCalls queueTest at h
  split at h
  · obtain ⟨request, hread, rfl⟩ := exists_of_map_ok h
    intro request' hmem
    rw [List.eq_of_mem_replicate hmem]
    exact type_fromString hread
  · obtain ⟨request, hread, rfl⟩ := exists_of_map_ok h
    intro request' hmem
    rw [List.mem_singleton.mp hmem]
    exact type_fromString hread

/-- A line that asks for a payment is no test line. -/
theorem lineCalls_of_isPayment {input : Text} {destIp : InAddr} {transferAmount : UInt64}
    (h : IsPayment input destIp transferAmount) :
    lineCalls input = .ok [⟨destIp, transferAmount, .req⟩] := by
  have hline : input.take 4 ≠ "TEST".toList := by
    intro htest
    obtain ⟨ip, amount, htokens, hip, -⟩ := h
    have htest' : tokens "TEST".toList = ["TEST".toList] := tokens_word (by decide)
    rcases tokens_prefix (htest ▸ List.take_prefix 4 input) with hnone |
      ⟨before, cut, word, after, hline, hcut, hprefix⟩
    · rw [htest'] at hnone
      cases hnone
    · rw [htest'] at hcut
      obtain ⟨rfl, rfl⟩ : before = [] ∧ cut = "TEST".toList := by
        cases before with
        | nil => exact ⟨rfl, (List.cons.inj hcut).1.symm⟩
        | cons first rest => simp at hcut
      rw [htokens] at hline
      obtain ⟨rfl, -⟩ := List.cons.inj hline
      -- an address has no letters
      have hletter : 'T' ∈ ip := hprefix.subset (by decide)
      rw [inetPton_eq_some_iff.mp hip] at hletter
      rcases isDigit_or_of_mem_addrToString hletter with hdigit | hdot
      · exact absurd hdigit (by decide)
      · exact absurd hdot (by decide)
  rw [lineCalls, if_neg hline, Request.fromString_of_isPayment h]
  rfl

/-- The calls for every line. -/
theorem forall₂_of_mapM {inputs : List Text} {lines : List (List Request)}
    (h : inputs.mapM lineCalls = .ok lines) :
    List.Forall₂ (fun input calls => lineCalls input = .ok calls) inputs lines := by
  induction inputs generalizing lines with
  | nil =>
      cases h
      exact .nil
  | cons input rest ih =>
      rw [List.mapM_cons] at h
      cases hinput : lineCalls input with
      | error problem =>
          rw [hinput] at h
          cases h
      | ok calls =>
          rw [hinput] at h
          cases hrest : rest.mapM lineCalls with
          | error problem =>
              rw [hrest] at h
              cases h
          | ok lines' =>
              rw [hrest] at h
              cases h
              exact .cons hinput (ih hrest)

section Lines

variable {inputs : List Text} {lines : List (List Request)}

/-- And for all of them. -/
theorem type_lines
    (h : List.Forall₂ (fun input calls => lineCalls input = .ok calls) inputs lines) :
    ∀ calls ∈ lines, ∀ request ∈ calls, request.type = .req ∨ request.type = .error := by
  induction h with
  | nil => exact List.forall_mem_nil _
  | cons hline _ ih => exact List.forall_mem_cons.mpr ⟨type_lineCalls hline, ih⟩

/-- A payment that a line asks for is queued as that payment. -/
theorem mem_lines (h : List.Forall₂ (fun input calls => lineCalls input = .ok calls) inputs lines)
    {input : Text} {destIp : InAddr} {transferAmount : UInt64} (hinput : input ∈ inputs)
    (hpayment : IsPayment input destIp transferAmount) :
    [⟨destIp, transferAmount, .req⟩] ∈ lines := by
  induction h with
  | nil => cases hinput
  | cons hline _ ih =>
      rcases List.mem_cons.mp hinput with rfl | hmem
      · rw [lineCalls_of_isPayment hpayment] at hline
        cases hline
        exact List.mem_cons_self
      · exact List.mem_cons_of_mem _ (ih hmem)

/-- What `main` queues: what the lines ask for, in their order, and the KILL. -/
theorem queuedRequests_of_mainCalls {calls : List Request} (h : mainCalls inputs = .ok calls) :
    ∃ lines, List.Forall₂ (fun input calls => lineCalls input = .ok calls) inputs lines ∧
      queuedRequests calls = queuedRequests lines.flatten ++ [Request.kill] := by
  obtain ⟨lines, hlines, rfl⟩ := exists_of_map_ok h
  refine ⟨lines, forall₂_of_mapM hlines, ?_⟩
  rw [queuedRequests, List.filter_append]
  rfl

end Lines

/-! ## The visit -/

section Visit

variable {clientIp : InAddr} {ledger : Ledger} {currentRequest : Int32} {inputs : List Text}
  {calls : List Request} {paying : List Errand} {killing : Errand}

/-- The queue in its order: the payments are those of `Brix.System.Reports`, and the KILL comes
last. -/
theorem dispatchErrands_truthful (hpaying : ∀ errand ∈ paying, errand.request.type = .req)
    (hkilling : killing.request = Request.kill)
    (hothers : ∀ errand ∈ paying ++ [killing], ∀ n, ∀ arrival ∈ errand.interlude n,
      arrival.senderIp ≠ clientIp)
    (hclient : clientIp ∈ ledger.records) :
    ∃ payments farewell, dispatchErrands clientIp (paying ++ [killing]) currentRequest ledger
        = payments ++ [farewell] ∧
      List.Forall₂ (fun errand dispatched => Truthful clientIp errand.queued dispatched) paying
        payments ∧
      Farewell clientIp farewell := by
  induction paying generalizing ledger currentRequest with
  | nil =>
      exact ⟨[], _, rfl, .nil, dispatchErrand_kill hkilling (hothers killing List.mem_cons_self)
        hclient⟩
  | cons errand rest ih =>
      obtain ⟨client, hlookup⟩ := Finmap.mem_iff.mp hclient
      have hdispatch : dispatchErrand clientIp errand currentRequest ledger
          = dispatchRequest clientIp errand.queued currentRequest ledger :=
        errandLoop_transfer (hpaying errand List.mem_cons_self) _ _ _
      have hone : Truthful clientIp errand.queued
          (dispatchErrand clientIp errand currentRequest ledger) := by
        rw [hdispatch]
        exact dispatchRequest_truthful (hothers errand List.mem_cons_self) hlookup
      obtain ⟨client', hclient', -⟩ := hone.next
      -- the client is still registered after each payment, and its counter in step
      obtain ⟨payments, farewell, hrest, hpayments, hfarewell⟩ :=
        @ih (dispatchErrand clientIp errand currentRequest ledger).ledger
          (dispatchErrand clientIp errand currentRequest ledger).dispatcher.currentRequest
          (fun errand hmem => hpaying errand (List.mem_cons_of_mem _ hmem))
          (fun errand hmem => hothers errand (List.mem_cons_of_mem _ hmem))
          (Finmap.mem_of_lookup_eq_some hclient')
      refine ⟨_ :: payments, farewell, ?_, .cons hone hpayments, hfarewell⟩
      rw [List.cons_append, dispatchErrands, hrest]
      rfl

/-- **A visit from the first line to the last.**  Any lines that `main` can read, any requests of
others in between, and any number the client starts with: if nothing is lost, what the lines ask
for is dispatched in their order, a line that asks for a payment as that payment, and the client
is right about each; then it is removed at the first attempt, is shown what it had, and nobody
else is touched by that.

The client is registered to begin with.  It has to be, for somebody who is not is answered
`SENDER_NOT_REGISTERED` again and again; the discovery that comes first in the program is
`Brix.System.Membership`. -/
theorem visit_truthful (hcalls : mainCalls inputs = .ok calls)
    (hqueue : (paying ++ [killing]).map Errand.request = queuedRequests calls)
    (hothers : ∀ errand ∈ paying ++ [killing], ∀ n, ∀ arrival ∈ errand.interlude n,
      arrival.senderIp ≠ clientIp)
    (hclient : clientIp ∈ ledger.records) :
    (∃ lines, List.Forall₂ (fun input calls => lineCalls input = .ok calls) inputs lines ∧
      paying.map Errand.request = queuedRequests lines.flatten) ∧
    (∀ input ∈ inputs, ∀ destIp transferAmount, IsPayment input destIp transferAmount →
      ∃ errand ∈ paying, errand.request = ⟨destIp, transferAmount, .req⟩) ∧
    ∃ payments farewell, dispatchErrands clientIp (paying ++ [killing]) currentRequest ledger
        = payments ++ [farewell] ∧
      List.Forall₂ (fun errand dispatched => Truthful clientIp errand.queued dispatched) paying
        payments ∧
      Farewell clientIp farewell := by
  obtain ⟨lines, hlines, hqueued⟩ := queuedRequests_of_mainCalls hcalls
  rw [hqueued, List.map_append, List.map_singleton] at hqueue
  obtain ⟨hrequests, hkilling⟩ := List.append_inj' hqueue rfl
  refine ⟨⟨lines, hlines, hrequests⟩, fun input hinput destIp transferAmount hpayment => ?_,
    dispatchErrands_truthful (fun errand hmem => ?_) (List.cons.inj hkilling).1 hothers hclient⟩
  · have hmem : ⟨destIp, transferAmount, .req⟩ ∈ queuedRequests lines.flatten := by
      refine List.mem_filter.mpr ⟨?_, rfl⟩
      exact List.mem_flatten.mpr ⟨_, mem_lines hlines hinput hpayment, List.mem_cons_self⟩
    rw [← hrequests] at hmem
    exact List.mem_map.mp hmem
  · have hmem : errand.request ∈ queuedRequests lines.flatten := by
      rw [← hrequests]
      exact List.mem_map_of_mem hmem
    obtain ⟨hmem, htype⟩ := List.mem_filter.mp hmem
    obtain ⟨calls, hcalls, hmem⟩ := List.mem_flatten.mp hmem
    exact (type_lines hlines calls hcalls _ hmem).resolve_right (of_decide_eq_true htype)

end Visit

/-- Two payments, the second of more than there is by then, and a line that is none. -/
def threeLines : List Text :=
  ["2.0.0.0 40".toList, "40".toList, "2.0.0.0 100000".toList]

/-- The payments come through without requests of others, -/
def twoErrands : List Errand :=
  [⟨⟨2, 40, .req⟩, fun _ => []⟩, ⟨⟨2, 100000, .req⟩, fun _ => []⟩]

/-- and so does the KILL. -/
def killErrand : Errand := ⟨Request.kill, fun _ => []⟩

/-- The line in the middle leads to no request, and the second payment is reported as refused. -/
theorem threeLines_truthful : ∃ payments farewell,
    dispatchErrands 1 (twoErrands ++ [killErrand]) 7 twoNewClients = payments ++ [farewell] ∧
      List.Forall₂ (fun errand dispatched => Truthful 1 errand.queued dispatched)
        twoErrands payments ∧
      Farewell 1 farewell := by
  have hcalls : mainCalls threeLines
      = .ok [⟨2, 40, .req⟩, Request.error, ⟨2, 100000, .req⟩, Request.kill] := by
    decide +kernel
  have hqueue : (twoErrands ++ [killErrand]).map Errand.request
      = queuedRequests [⟨2, 40, .req⟩, Request.error, ⟨2, 100000, .req⟩, Request.kill] := by
    decide
  have hothers : ∀ errand ∈ twoErrands ++ [killErrand], ∀ n, ∀ arrival ∈ errand.interlude n,
      arrival.senderIp ≠ 1 := by
    simp [twoErrands, killErrand]
  have hclient : (1 : InAddr) ∈ twoNewClients.records := by decide
  obtain ⟨-, -, hvisit⟩ := visit_truthful hcalls hqueue hothers hclient
  exact hvisit

end Brix
