import Brix.System.Exchange

/-!
# A session of requests

A client dispatches one request after the other, over the network of `Brix.System.Exchange`:
whatever was once sent may arrive any number of times, at any time, or never.  The
server handles what arrives one datagram at a time, and serves other clients meanwhile.

`handle_response` takes an answer for what it says.  It compares neither its number nor
its receiver nor its amount with the request that is being dispatched, and an answer to
an earlier one may be late, or come twice.  If it says `SUCCESS`, the request at hand is
given out as done: `late_success_is_accepted`.  `accepted_was_applied` is the result for
the runs in which this does not happen.

Datagrams carry the dispatch they were sent in, answers the one they answer.  These are
history variables, as are `applied` and `accepted`.

### What is load-bearing

`Sound` is about the answers on their way: one that says `SUCCESS` answers a dispatch whose
transfer has been made.  That is true of the network as a whole, whatever it delays or repeats,
because a server answers a datagram after it has carried it out, and because every REQ of a
dispatch asks for the same transfer (`Sound.written`).  So a client that takes an answer for the
dispatch that it belongs to is right, and `Admitted` asks for nothing else.  Which dispatch an
answer belongs to cannot be seen from its text; that is the fault that `late_success_is_accepted`
shows.

A transfer counts as done when it is among those made, and nothing is ever taken out of them.  The
invariant needs no numbers: that a request is not carried out twice is another matter, and that of
`Brix.System.Exchange`.
-/

namespace Brix

open Text Execution

/-- One call of `dispatch_request`. -/
structure Dispatch where
  number : ℕ
  request : Request
  deriving DecidableEq

/-- A datagram, and the dispatch that it was sent in or answers. -/
structure Stamped where
  dispatch : Dispatch
  datagram : Text
  deriving DecidableEq

/-- A transfer that the server has made, and the dispatch whose datagram asked for it. -/
structure Applied where
  dispatch : Dispatch
  receiverIp : InAddr
  transferAmount : UInt64
  deriving DecidableEq

/-- A client that dispatches requests, the server, and the network. -/
structure Session where
  /-- The number of dispatches so far. -/
  count : ℕ
  /-- The latest one. -/
  current : Option Dispatch
  dispatcher : Dispatcher
  ledger : Ledger
  requests : List Stamped
  replies : List Stamped
  applied : List Applied
  /-- The dispatches that have ended on a `SUCCESS`. -/
  accepted : List Dispatch

/-- No request has been dispatched yet. -/
def Session.start (ledger : Ledger) (currentRequest : Int32) : Session :=
  ⟨0, none, ⟨currentRequest, 0, false, true⟩, ledger, [], [], [], []⟩

/-- The moves of the client, the server, the network and the other clients. -/
inductive Session.Move
  | dispatch (request : Request)
  | send
  | receive (reply : Stamped)
  | timeout
  | serve (request : Stamped)
  | other (senderIp : InAddr) (datagram : Text)
  | discover (ip : InAddr)

/-- The client reads an ACK packet that says `SUCCESS`. -/
def SaysSuccess (datagram : Text) : Prop :=
  (toAckPacket (inBuffer RequestDispatcher.MAXLINE datagram)).toOption.map AckPacket.result
    = some "SUCCESS".toList

instance (datagram : Text) : Decidable (SaysSuccess datagram) := inferInstanceAs (Decidable (_ = _))

namespace Session

/-- `dispatch_request` has returned. -/
def Idle (s : Session) : Prop :=
  s.dispatcher.returned = true ∨
    s.dispatcher.waiting = false ∧ RequestDispatcher.MAX_RETRIES ≤ s.dispatcher.retries

instance (s : Session) : Decidable s.Idle := inferInstanceAs (Decidable (_ ∨ _))

/-- The server has handled a request of the client. -/
def answered (dispatch : Dispatch) (handled : Handled) (s : Session) : Session :=
  { s with
    ledger := handled.ledger
    replies := ⟨dispatch, handled.reply.toText⟩ :: s.replies
    applied :=
      if handled.reply.result = "SUCCESS".toList then
        ⟨dispatch, handled.reply.receiverIp, handled.reply.transferAmount⟩ :: s.applied
      else s.applied }

/-- One move.  A dispatch begins only when the last one has ended, and a datagram on its way stays
there, so that it may be delivered again. -/
def step (clientIp : InAddr) (s : Session) : Move → Option Session
  | .dispatch request =>
      if s.Idle then
        some { s with
          count := s.count + 1
          current := some ⟨s.count, request⟩
          dispatcher := .start s.dispatcher.currentRequest }
      else none
  | .send => s.current.bind fun dispatch =>
      (s.dispatcher.send dispatch.request).map fun (datagram, dispatcher) =>
        { s with dispatcher := dispatcher, requests := ⟨dispatch, datagram⟩ :: s.requests }
  | .receive reply =>
      if reply ∈ s.replies then
        (s.dispatcher.receive reply.datagram).map fun dispatcher =>
          { s with
            dispatcher := dispatcher
            accepted :=
              if SaysSuccess reply.datagram then s.current.toList ++ s.accepted else s.accepted }
      else none
  | .timeout => s.dispatcher.timeout.map fun dispatcher => { s with dispatcher := dispatcher }
  | .serve request =>
      if request ∈ s.requests then
        match packetMultiplexer clientIp request.datagram s.ledger with
        | .ok (some handled) => some (s.answered request.dispatch handled)
        | .ok none => some s
        | .error _ => none
      else none
  | .other senderIp datagram =>
      if senderIp ≠ clientIp then
        match packetMultiplexer senderIp datagram s.ledger with
        | .ok (some handled) => some { s with ledger := handled.ledger }
        | .ok none => some s
        | .error _ => none
      else none
  | .discover ip => some { s with ledger := (s.ledger.register ip).2 }

/-- The client does not read a `SUCCESS` that answers another dispatch. -/
def Admitted (s : Session) : Move → Prop
  | .receive reply => SaysSuccess reply.datagram → s.current = some reply.dispatch
  | _ => True

/-- A dispatch's transfer has been made. -/
def Done (s : Session) (dispatch : Dispatch) : Prop :=
  ⟨dispatch, dispatch.request.destIp, dispatch.request.transferAmount⟩ ∈ s.applied

end Session

/-! ## Reading the answers -/

/-- A written answer says what its result says. -/
theorem saysSuccess_toText {packet : AckPacket} (hword : IsWord packet.result)
    (hnul : '\x00' ∉ packet.result) (hlength : packet.result.length ≤ 100) :
    SaysSuccess packet.toText ↔ packet.result = "SUCCESS".toList := by
  unfold SaysSuccess
  rw [inBuffer_ack hnul hlength (by decide), toAckPacket_toText hword]
  exact Option.some_inj

/-- The answer to a REQ packet says `SUCCESS` if that is its result, -/
theorem saysSuccess_reply (senderIp : InAddr) (packet : ReqPacket) (ledger : Ledger) :
    SaysSuccess (processReqPacket senderIp packet ledger).reply.toText ↔
      (processReqPacket senderIp packet ledger).reply.result = "SUCCESS".toList := by
  unfold SaysSuccess
  rw [toAckPacket_inBuffer_reply senderIp packet ledger (by decide)]
  exact Option.some_inj

/-- The answer names the receiver and the amount of the request. -/
theorem processReqPacket_echo (senderIp : InAddr) (packet : ReqPacket) (ledger : Ledger) :
    (processReqPacket senderIp packet ledger).reply.receiverIp = packet.receiverIp ∧
      (processReqPacket senderIp packet ledger).reply.transferAmount = packet.transferAmount := by
  obtain ⟨client, -, hreply, -⟩ := processReqPacket_replyTo senderIp packet ledger
  rw [hreply]
  cases checkPacketStatus packet client with
  | valid =>
      show (transactionReply senderIp packet _).receiverIp = _ ∧
        (transactionReply senderIp packet _).transferAmount = _
      unfold transactionReply
      split <;> exact ⟨rfl, rfl⟩
  | duplicate => exact ⟨rfl, rfl⟩
  | outOfOrder => exact ⟨rfl, rfl⟩
  | noClue => exact ⟨rfl, rfl⟩

/-- The answer to a KIL packet. -/
theorem processKillPacket_result (senderIp : InAddr) (packet : KilPacket) (ledger : Ledger) :
    (processKillPacket senderIp packet ledger).reply.result = "KILL".toList ∨
      (processKillPacket senderIp packet ledger).reply.result = "SENDER_NOT_REGISTERED".toList := by
  unfold processKillPacket
  cases hclient : ledger.records.lookup senderIp with
  | none =>
      rw [Ledger.remove_notFound hclient]
      exact Or.inr rfl
  | some client =>
      rw [Ledger.remove_success hclient]
      exact Or.inl rfl

/-- and the one to a KIL packet never does. -/
theorem not_saysSuccess_kill (senderIp : InAddr) (packet : KilPacket) (ledger : Ledger) :
    ¬ SaysSuccess (processKillPacket senderIp packet ledger).reply.toText := by
  intro hsays
  have hresult := processKillPacket_result senderIp packet ledger
  generalize (processKillPacket senderIp packet ledger).reply = reply at hsays hresult
  have hword : IsWord reply.result ∧ '\x00' ∉ reply.result ∧ reply.result.length ≤ 100 ∧
      reply.result ≠ "SUCCESS".toList := by
    rcases hresult with hresult | hresult
    · rw [hresult]
      decide
    · rw [hresult]
      decide
  obtain ⟨hword, hnul, hlength, hne⟩ := hword
  exact hne ((saysSuccess_toText hword hnul hlength).mp hsays)

namespace Session

variable {clientIp : InAddr} {s s' : Session}

/-- What is true of a session at any time: the requests under way are the client's own,
an answer under way that says `SUCCESS` answers a dispatch that is done, and so does
every one that was accepted. -/
structure Sound (s : Session) : Prop where
  written : ∀ request ∈ s.requests, ∃ currentRequest,
    request.datagram = RequestDispatcher.serialize request.dispatch.request currentRequest
  honest : ∀ reply ∈ s.replies, SaysSuccess reply.datagram → s.Done reply.dispatch
  accepted : ∀ dispatch ∈ s.accepted, s.Done dispatch

/-- At the start nothing is on its way. -/
theorem sound_start (ledger : Ledger) (currentRequest : Int32) :
    (start ledger currentRequest).Sound := ⟨nofun, nofun, nofun⟩

/-- The server answers a request of the client. -/
theorem Sound.answered (h : s.Sound) {dispatch : Dispatch} {handled : Handled}
    (hsuccess : SaysSuccess handled.reply.toText →
      handled.reply.result = "SUCCESS".toList ∧
        handled.reply.receiverIp = dispatch.request.destIp ∧
        handled.reply.transferAmount = dispatch.request.transferAmount) :
    (s.answered dispatch handled).Sound := by
  have hkept : ∀ dispatch', s.Done dispatch' → (s.answered dispatch handled).Done dispatch' := by
    intro dispatch' hdone
    show _ ∈ if _ then _ else _
    split
    · exact List.mem_cons_of_mem _ hdone
    · exact hdone
  refine ⟨h.written, ?_, fun dispatch' hdispatch => hkept dispatch' (h.accepted _ hdispatch)⟩
  intro reply hreply hsays
  rcases List.mem_cons.mp hreply with rfl | hreply
  · obtain ⟨hresult, hreceiver, hamount⟩ := hsuccess hsays
    show _ ∈ if _ then _ else _
    rw [if_pos hresult, hreceiver, hamount]
    exact List.mem_cons_self
  · exact hkept _ (h.honest reply hreply hsays)

/-- The server handles a datagram of the client. -/
theorem Sound.serve (h : s.Sound) {request : Stamped} (hrequest : request ∈ s.requests)
    (taken : s.step clientIp (.serve request) = some s') : s'.Sound := by
  rw [step, if_pos hrequest] at taken
  obtain ⟨currentRequest, hdatagram⟩ := h.written request hrequest
  rw [hdatagram] at taken
  unfold RequestDispatcher.serialize at taken
  cases htype : request.dispatch.request.type with
  | req =>
      rw [htype] at taken
      simp only [packetMultiplexer_req] at taken
      cases taken
      refine h.answered fun hsays => ?_
      exact ⟨(saysSuccess_reply _ _ _).mp hsays, processReqPacket_echo _ _ _⟩
  | kill =>
      rw [htype] at taken
      have hserve : packetMultiplexer clientIp "KIL END".toList s.ledger
          = .ok (some (processKillPacket clientIp ⟨-1⟩ s.ledger)) := rfl
      simp only [hserve] at taken
      cases taken
      exact h.answered fun hsays => absurd hsays (not_saysSuccess_kill _ _ _)
  | error =>
      rw [htype] at taken
      cases taken
      exact h

/-- One admitted move. -/
theorem Sound.step (h : s.Sound) {move : Move} (admitted : s.Admitted move)
    (taken : s.step clientIp move = some s') : s'.Sound := by
  cases move with
  | dispatch request =>
      rw [Session.step, Option.ite_none_right_eq_some] at taken
      cases taken.2
      exact ⟨h.written, h.honest, h.accepted⟩
  | send =>
      obtain ⟨dispatch, -, taken⟩ := Option.bind_eq_some_iff.mp taken
      obtain ⟨⟨datagram, dispatcher⟩, hsend, rfl⟩ := Option.map_eq_some_iff.mp taken
      refine ⟨?_, h.honest, h.accepted⟩
      rw [Dispatcher.send, Option.ite_none_left_eq_some] at hsend
      cases hsend.2
      intro request hrequest
      rcases List.mem_cons.mp hrequest with rfl | hrequest
      · exact ⟨_, rfl⟩
      · exact h.written request hrequest
  | receive reply =>
      rw [Session.step, Option.ite_none_right_eq_some] at taken
      obtain ⟨hreply, taken⟩ := taken
      obtain ⟨dispatcher, -, rfl⟩ := Option.map_eq_some_iff.mp taken
      refine ⟨h.written, h.honest, ?_⟩
      show ∀ dispatch ∈
        if SaysSuccess reply.datagram then s.current.toList ++ s.accepted else s.accepted,
        s.Done dispatch
      by_cases hsays : SaysSuccess reply.datagram
      · -- the answer is one to the dispatch at hand
        rw [if_pos hsays, admitted hsays]
        intro dispatch hdispatch
        rcases List.mem_cons.mp hdispatch with rfl | hdispatch
        · exact h.honest reply hreply hsays
        · exact h.accepted dispatch hdispatch
      · rw [if_neg hsays]
        exact h.accepted
  | timeout =>
      obtain ⟨dispatcher, -, rfl⟩ := Option.map_eq_some_iff.mp taken
      exact ⟨h.written, h.honest, h.accepted⟩
  | serve request =>
      have hrequest := taken
      rw [Session.step, Option.ite_none_right_eq_some] at hrequest
      exact h.serve hrequest.1 taken
  | other senderIp datagram =>
      rw [Session.step, Option.ite_none_right_eq_some] at taken
      obtain ⟨-, taken⟩ := taken
      split at taken
      · cases taken
        exact ⟨h.written, h.honest, h.accepted⟩
      · cases taken
        exact h
      · cases taken
  | discover ip =>
      cases taken
      exact ⟨h.written, h.honest, h.accepted⟩

end Session

/-- **When a success is a success.**  Any sequence of requests of one client, from any
ledger and any number the client starts with, whatever the network and the other clients
do: as long as the client does not read a `SUCCESS` that answers another dispatch, every
dispatch that ended on one had its own transfer made. -/
theorem accepted_was_applied {clientIp : InAddr} {ledger : Ledger} {currentRequest : Int32}
    {moves : List Session.Move} {s : Session}
    (run : Runs (Session.step clientIp) Session.Admitted (Session.start ledger currentRequest)
      moves s) :
    ∀ dispatch ∈ s.accepted, s.Done dispatch :=
  (run.invariant Session.Sound (Session.sound_start ledger currentRequest)
    fun _ _ _ h admitted taken => h.step admitted taken).accepted

/-- The datagram and the answer of client 1's first request, 40 for client 2. -/
def firstSent : Stamped := ⟨⟨0, .transfer 2 40⟩, (attempt 2 40 1).toText⟩

/-- The answer to the first dispatch. -/
def firstAnswer : Stamped :=
  ⟨⟨0, .transfer 2 40⟩, (AckPacket.mk 1 "SUCCESS".toList 99960 1 2 40).toText⟩

/-- The request is made, and its answer arrives. -/
def firstDispatch : List Session.Move :=
  [.dispatch (.transfer 2 40), .send, .serve firstSent, .receive firstAnswer]

instance : ∀ s move, Decidable (Session.Admitted s move)
  | s, .receive reply =>
      inferInstanceAs (Decidable (SaysSuccess reply.datagram → s.current = some reply.dispatch))
  | _, .dispatch _ | _, .send | _, .timeout | _, .serve _ | _, .other _ _ | _, .discover _ =>
      instDecidableTrue

/-- It is read in the dispatch that it answers. -/
theorem firstDispatch_was_applied : ∃ s,
    Runs (Session.step 1) Session.Admitted (Session.start twoNewClients 1) firstDispatch s ∧
      s.accepted = [⟨0, .transfer 2 40⟩] ∧ ∀ dispatch ∈ s.accepted, s.Done dispatch := by
  have hrun : (perform (guarded (Session.step 1) Session.Admitted) (Session.start twoNewClients 1)
      firstDispatch).any (fun s => s.accepted == [⟨0, .transfer 2 40⟩]) = true := by
    decide +kernel
  obtain ⟨s, run, haccepted⟩ := exists_runs_of_any_guarded hrun
  exact ⟨s, run, eq_of_beq haccepted, accepted_was_applied run⟩

/-- **A late success is accepted.**  The answer arrives a second time, while client 1
dispatches its second request, 50 for client 2. -/
theorem late_success_is_accepted : ∃ s,
    Runs (Session.step 1) Always (Session.start twoNewClients 1)
        (firstDispatch ++ [.dispatch (.transfer 2 50), .send, .receive firstAnswer]) s ∧
      ⟨1, .transfer 2 50⟩ ∈ s.accepted ∧ ¬ s.Done ⟨1, .transfer 2 50⟩ := by
  have hrun : (perform (Session.step 1) (Session.start twoNewClients 1)
      (firstDispatch ++ [.dispatch (.transfer 2 50), .send, .receive firstAnswer])).any
        (fun s => decide (⟨1, .transfer 2 50⟩ ∈ s.accepted) &&
          decide (⟨⟨1, .transfer 2 50⟩, 2, 50⟩ ∉ s.applied)) = true := by
    decide +kernel
  obtain ⟨s, run, hlate⟩ := exists_runs_of_any hrun
  rw [Bool.and_eq_true, decide_eq_true_eq, decide_eq_true_eq] at hlate
  exact ⟨s, run, hlate⟩

end Brix
