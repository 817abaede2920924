import Brix.Client.RequestDispatcher
import Brix.Server.ConcurrentRequests
import Brix.System.Bystanders
import Brix.Foundation.Execution

/-!
# One request, end to end

A client dispatches one request to the server over a network that loses, delays and
duplicates datagrams as it likes: a datagram that was once sent may arrive any number
of times, at any time, or never.  After a timeout the client broadcasts a discovery
message, which registers it if it is not registered.  The server handles what arrives one
datagram at a time, and serves others in between.

The server counts what it has applied by its own sequence numbers, the client numbers
a request again after any answer that is not a success, and the two do not fit
together.  If the answer to the attempt that was applied gets lost, the next attempt
is answered `DUPLICATE`; the client takes the number from that answer and asks once
more; and the server applies it once more, if it can.

Whether it can is all that is left to ask.  What the others do is given, operation by
operation (`Bystander`); when they do it, and what becomes of the datagrams, is up to the
network.  `CanPayTwice` says that there are two moments in the sequence of their
operations at which the transfer is covered, the second time after it has been made at
the first.  `applied_at_most_once_iff` says that this is exactly when it can happen.

* `Exchange.Sound` carries the one direction.  The ledger of a run is not determined by
  what the others have done, because refused attempts of the client may have been counted
  in between; but it is `Alike` to the one that is, and that is enough to tell whether the
  transfer is covered.
* `Exchange.Between.pay` carries the other.  With two attempts to spare the transfer can be
  carried out without the client's knowing: one attempt at most to learn the server's
  number, and one that is applied and whose answer is lost.
-/

namespace Brix

open Text Execution

/-- A client in the middle of one request, the server, and the network. -/
structure Exchange (clientIp : InAddr) where
  dispatcher : Dispatcher
  ledger : Ledger
  /-- The requests that were ever sent, any of which may arrive at the server. -/
  requests : List Text
  /-- The answers that were ever sent, any of which may arrive at the client. -/
  replies : List Text
  /-- A discovery message was sent, and may arrive at the server. -/
  discovering : Bool
  /-- What others have done so far. -/
  past : List (Bystander clientIp)
  /-- How often the server has carried the transfer out. -/
  applied : ℕ

/-- The request is about to be dispatched and nothing is under way. -/
def Exchange.start (clientIp : InAddr) (ledger : Ledger) (currentRequest : Int32) :
    Exchange clientIp :=
  ⟨Dispatcher.start currentRequest, ledger, [], [], false, [], 0⟩

/-- The moves of the client, the server, the network and the others. -/
inductive Exchange.Move (clientIp : InAddr)
  | send
  | receive (datagram : Text)
  | timeout
  | serve (datagram : Text)
  | discover
  | other (bystander : Bystander clientIp)

section Moves

variable {clientIp : InAddr}

/-- What a handled request does to the exchange. -/
def Exchange.answered (s : Exchange clientIp) (handled : Handled) : Exchange clientIp :=
  { s with
    ledger := handled.ledger
    replies := handled.reply.toText :: s.replies
    applied := s.applied + if handled.reply.result = "SUCCESS".toList then 1 else 0 }

/-- A move is what one party does, or one datagram that arrives.  Nothing is ever taken away from
what has been sent, so a datagram may arrive late, more than once, or never. -/
def Exchange.step (request : Request) (s : Exchange clientIp) :
    Exchange.Move clientIp → Option (Exchange clientIp)
  | .send => (s.dispatcher.send request).map fun (datagram, dispatcher) =>
      { s with dispatcher := dispatcher, requests := datagram :: s.requests }
  | .receive datagram =>
      if datagram ∈ s.replies then
        (s.dispatcher.receive datagram).map fun dispatcher => { s with dispatcher := dispatcher }
      else none
  | .timeout => s.dispatcher.timeout.map fun dispatcher =>
      { s with dispatcher := dispatcher, discovering := true }
  | .serve datagram =>
      if datagram ∈ s.requests then
        match packetMultiplexer clientIp datagram s.ledger with
        | .ok (some handled) => some (s.answered handled)
        | .ok none => some s
        | .error _ => none
      else none
  | .discover =>
      if s.discovering then some { s with ledger := (s.ledger.register clientIp).2 } else none
  | .other bystander =>
      some { s with
        ledger := (bystander.operation.handle s.ledger).1
        past := s.past ++ [bystander] }

end Moves

/-- The request for a transfer. -/
def Request.transfer (destIp : InAddr) (transferAmount : UInt64) : Request :=
  ⟨destIp, transferAmount, .req⟩

/-! ## The money is not there twice -/

section Covered

variable {clientIp : InAddr}

/-- The ledger of a client that gets registered and others that act before and after. -/
def registeredAmid (ledger : Ledger) (early middle : List (Bystander clientIp)) : Ledger :=
  meanwhile ((meanwhile ledger early).register clientIp).2 middle

/-- There are two moments in what the others do at which the transfer is covered: one, with the
client registered by then, and one that is no earlier, with the transfer made at the first. -/
def CanPayTwice (ledger : Ledger) (destIp : InAddr) (amount : UInt64)
    (others : List (Bystander clientIp)) : Prop :=
  ∃ early middle late rest, others = early ++ middle ++ late ++ rest ∧
    (registeredAmid ledger early middle).Covers clientIp destIp amount ∧
    (meanwhile ((registeredAmid ledger early middle).transfer clientIp destIp amount).2 late).Covers
      clientIp destIp amount

variable {ledger : Ledger} {destIp : InAddr} {amount : UInt64}
  {others more : List (Bystander clientIp)}

/-- What others do later makes no difference. -/
theorem CanPayTwice.append (h : CanPayTwice ledger destIp amount others)
    (more : List (Bystander clientIp)) : CanPayTwice ledger destIp amount (others ++ more) := by
  obtain ⟨early, middle, late, rest, rfl, hfirst, hsecond⟩ := h
  exact ⟨early, middle, late, rest ++ more, List.append_assoc .., hfirst, hsecond⟩

/-- The client is registered by then. -/
theorem mem_registeredAmid (ledger : Ledger) (early middle : List (Bystander clientIp)) :
    clientIp ∈ (registeredAmid ledger early middle).records :=
  (mem_meanwhile middle).mpr (Ledger.mem_register.mpr (Or.inl rfl))

end Covered

/-- What the operations of the others and the transfers that were made come to: before the client
is registered, before and after the transfer has been made, and when it could have been made
twice. -/
inductive Account {clientIp : InAddr} (ledger : Ledger) (destIp : InAddr) (amount : UInt64)
    (past : List (Bystander clientIp)) (applied : ℕ) (current : Ledger) : Prop
  | fresh (none : applied = 0) (alike : Ledger.Alike clientIp (meanwhile ledger past) current)
  | registered {early middle : List (Bystander clientIp)} (split : past = early ++ middle)
      (none : applied = 0)
      (alike : Ledger.Alike clientIp (registeredAmid ledger early middle) current)
  | paid {early middle late : List (Bystander clientIp)} (split : past = early ++ middle ++ late)
      (once : applied = 1)
      (covered : (registeredAmid ledger early middle).Covers clientIp destIp amount)
      (alike : Ledger.Alike clientIp
        (meanwhile ((registeredAmid ledger early middle).transfer clientIp destIp amount).2 late)
        current)
  | twice (canPay : CanPayTwice ledger destIp amount past)

section Exchange

variable {clientIp destIp : InAddr} {amount : UInt64} {ledger current current' : Ledger}
  {past : List (Bystander clientIp)} {applied : ℕ}

namespace Account

/-- The ledger has changed in nothing that counts. -/
theorem alike (h : Account ledger destIp amount past applied current)
    (hsame : Ledger.Alike clientIp current current') :
    Account ledger destIp amount past applied current' := by
  cases h with
  | fresh none alike => exact .fresh none (alike.trans hsame)
  | registered split none alike => exact .registered split none (alike.trans hsame)
  | paid split once covered alike => exact .paid split once covered (alike.trans hsame)
  | twice canPay => exact .twice canPay

/-- Somebody else has done something. -/
theorem other (h : Account ledger destIp amount past applied current)
    (bystander : Bystander clientIp) :
    Account ledger destIp amount (past ++ [bystander]) applied
      (bystander.operation.handle current).1 := by
  cases h with
  | fresh none alike =>
      refine .fresh none ?_
      rw [meanwhile_append]
      exact alike.handle bystander
  | @registered early middle split none alike =>
      refine .registered (split ▸ List.append_assoc early middle [bystander]) none ?_
      rw [registeredAmid, meanwhile_append]
      exact alike.handle bystander
  | @paid early middle late split once covered alike =>
      refine .paid (split ▸ List.append_assoc (early ++ middle) late [bystander]) once covered ?_
      rw [meanwhile_append]
      exact alike.handle bystander
  | twice canPay => exact .twice (canPay.append [bystander])

/-- The client has had itself registered. -/
theorem register (h : Account ledger destIp amount past applied current) :
    Account ledger destIp amount past applied (current.register clientIp).2 := by
  cases h with
  | fresh none alike =>
      exact .registered (List.append_nil past).symm none (alike.register clientIp)
  | @registered early middle split none alike =>
      rw [Ledger.register_of_mem (alike.mem_iff.mpr (mem_registeredAmid ledger early middle))]
      exact .registered split none alike
  | @paid early middle late split once covered alike =>
      have hmem : clientIp ∈ (meanwhile ((registeredAmid ledger early middle).transfer clientIp
          destIp amount).2 late).records :=
        (mem_meanwhile late).mpr (Ledger.mem_transfer.mpr (mem_registeredAmid ledger early middle))
      rw [Ledger.register_of_mem (alike.mem_iff.mpr hmem)]
      exact .paid split once covered alike
  | twice canPay => exact .twice canPay

/-- The transfer has been made: for the first time, or once more. -/
theorem pay (h : Account ledger destIp amount past applied current)
    (hcovers : current.Covers clientIp destIp amount) :
    Account ledger destIp amount past (applied + 1)
      (current.transfer clientIp destIp amount).2 := by
  have ⟨_, _, _, sender, hsender, _⟩ := hcovers
  have hmem : clientIp ∈ current.records := Finmap.mem_of_lookup_eq_some hsender
  cases h with
  | fresh none alike =>
      -- the client had been registered from the beginning
      have hsame : registeredAmid ledger past [] = meanwhile ledger past :=
        Ledger.register_of_mem (alike.mem_iff.mp hmem)
      have hfirst : (registeredAmid ledger past []).Covers clientIp destIp amount := by
        rw [hsame]
        exact alike.covers_iff.mp hcovers
      have hsplit : past = past ++ [] ++ [] := by rw [List.append_nil, List.append_nil]
      refine .paid hsplit (congrArg Nat.succ none) hfirst ?_
      rw [hsame] at hfirst ⊢
      exact alike.pay hfirst
  | @registered early middle split none alike =>
      have hfirst := alike.covers_iff.mp hcovers
      exact .paid (split.trans (List.append_nil _).symm) (congrArg Nat.succ none) hfirst
        (alike.pay hfirst)
  | @paid early middle late split once covered alike =>
      exact .twice ⟨early, middle, late, [], split.trans (List.append_nil _).symm, covered,
        alike.covers_iff.mp hcovers⟩
  | twice canPay => exact .twice canPay

end Account

/-- What is true of an exchange at any time: only requests for this transfer are under
way, and the account is right. -/
structure Exchange.Sound (destIp : InAddr) (amount : UInt64) (ledger : Ledger)
    (s : Exchange clientIp) : Prop where
  written : ∀ datagram ∈ s.requests, ∃ seqNum,
    datagram = (ReqPacket.mk seqNum destIp amount).toText
  account : Account ledger destIp amount s.past s.applied s.ledger

/-- Nothing has been sent, and nothing has been done. -/
theorem Exchange.sound_start (currentRequest : Int32) :
    (Exchange.start clientIp ledger currentRequest).Sound destIp amount ledger where
  written _ h := absurd h List.not_mem_nil
  account := .fresh rfl (.refl ledger)

/-- The server answers a request. -/
theorem Exchange.Sound.answered {s : Exchange clientIp} (h : s.Sound destIp amount ledger)
    (seqNum : Int64) :
    (s.answered (processReqPacket clientIp ⟨seqNum, destIp, amount⟩ s.ledger)).Sound
      destIp amount ledger := by
  have hcases := processReqPacket_cases clientIp ⟨seqNum, destIp, amount⟩ s.ledger
  unfold Exchange.answered
  generalize processReqPacket clientIp ⟨seqNum, destIp, amount⟩ s.ledger = handled at hcases ⊢
  refine ⟨h.written, ?_⟩
  show Account ledger destIp amount s.past (s.applied + _) handled.ledger
  rcases hcases with ⟨hledger, hresult⟩ | ⟨hledger, hresult⟩
  · rw [if_neg hresult, hledger]
    exact h.account
  · rw [hledger]
    by_cases hsuccess : (s.ledger.transfer clientIp destIp amount).1.statusCode = .success
    · rw [if_pos (hresult.mpr hsuccess)]
      exact h.account.pay (Ledger.transfer_success_iff.mp hsuccess)
    · rw [if_neg (mt hresult.mp hsuccess)]
      exact h.account.alike (Ledger.alike_of_no_success hsuccess)

/-- One move. -/
theorem Exchange.Sound.step {s s' : Exchange clientIp} (h : s.Sound destIp amount ledger)
    {move : Exchange.Move clientIp}
    (taken : s.step (.transfer destIp amount) move = some s') : s'.Sound destIp amount ledger := by
  cases move with
  | send =>
      obtain ⟨⟨datagram, dispatcher⟩, hsend, rfl⟩ := Option.map_eq_some_iff.mp taken
      refine ⟨?_, h.account⟩
      unfold Dispatcher.send at hsend
      split at hsend
      · cases hsend
      · cases hsend
        intro text htext
        rcases List.mem_cons.mp htext with rfl | htext
        · exact ⟨_, rfl⟩
        · exact h.written text htext
  | receive datagram =>
      rw [Exchange.step] at taken
      split at taken
      · obtain ⟨dispatcher, -, rfl⟩ := Option.map_eq_some_iff.mp taken
        exact ⟨h.written, h.account⟩
      · cases taken
  | timeout =>
      obtain ⟨dispatcher, -, rfl⟩ := Option.map_eq_some_iff.mp taken
      exact ⟨h.written, h.account⟩
  | serve datagram =>
      rw [Exchange.step] at taken
      split at taken
      · rename_i hsent
        -- whatever arrives was written by the dispatcher, at this attempt or an earlier one
        obtain ⟨seqNum, rfl⟩ := h.written datagram hsent
        rw [packetMultiplexer_req] at taken
        cases taken
        exact h.answered seqNum
      · cases taken
  | discover =>
      rw [Exchange.step] at taken
      split at taken
      · cases taken
        exact ⟨h.written, h.account.register⟩
      · cases taken
  | other bystander =>
      cases taken
      exact ⟨h.written, h.account.other bystander⟩

/-! ## The money is there twice -/

/-- From one state of the exchange the moves can lead to another. -/
def Exchange.Reaches (request : Request) (s s' : Exchange clientIp) : Prop :=
  ∃ moves, Runs (Exchange.step request) Always s moves s'

/-- One run after another. -/
theorem Exchange.Reaches.trans {request : Request} {s s' s'' : Exchange clientIp}
    (h : Exchange.Reaches request s s') (h' : Exchange.Reaches request s' s'') :
    Exchange.Reaches request s s'' := by
  obtain ⟨moves, run⟩ := h
  obtain ⟨moves', run'⟩ := h'
  exact ⟨moves ++ moves', run.append run'⟩

/-- A run that can be computed. -/
theorem Exchange.Reaches.of_perform {request : Request} {s s' : Exchange clientIp}
    {moves : List (Exchange.Move clientIp)}
    (h : perform (Exchange.step request) s moves = some s') : Exchange.Reaches request s s' :=
  ⟨moves, runs_of_perform h⟩

/-- The dispatcher is between two attempts. -/
def Exchange.Between (s : Exchange clientIp) (currentRequest : Int32) (retries : ℕ) : Prop :=
  s.dispatcher = ⟨currentRequest, retries, false, false⟩

/-- The datagram of an attempt. -/
def attempt (destIp : InAddr) (amount : UInt64) (currentRequest : Int32) : ReqPacket :=
  ⟨currentRequest.toInt64, destIp, amount⟩

/-- An attempt has begun. -/
def Exchange.sent (destIp : InAddr) (amount : UInt64) (currentRequest : Int32) (retries : ℕ)
    (s : Exchange clientIp) : Exchange clientIp :=
  { s with
    dispatcher := ⟨currentRequest, retries + 1, true, false⟩
    requests := (attempt destIp amount currentRequest).toText :: s.requests }

variable {s : Exchange clientIp} {currentRequest : Int32} {retries : ℕ}

/-- A client between two attempts sends the next one. -/
theorem Exchange.step_send (h : s.Between currentRequest retries)
    (hretries : retries < RequestDispatcher.MAX_RETRIES) :
    s.step (.transfer destIp amount) .send
      = some (s.sent destIp amount currentRequest retries) := by
  have hsend : s.dispatcher.send (.transfer destIp amount)
      = some ((attempt destIp amount currentRequest).toText,
          ⟨currentRequest, retries + 1, true, false⟩) := by
    rw [h, Dispatcher.send, if_neg (by simp; omega)]
    rfl
  rw [Exchange.step, hsend]
  rfl

section Attempts

variable (destIp amount)

/-- The server handles the attempt that has just been sent. -/
theorem Exchange.step_serve (s : Exchange clientIp) (currentRequest : Int32) (retries : ℕ) :
    (s.sent destIp amount currentRequest retries).step (.transfer destIp amount)
        (.serve (attempt destIp amount currentRequest).toText)
      = some ((s.sent destIp amount currentRequest retries).answered
          (processReqPacket clientIp (attempt destIp amount currentRequest) s.ledger)) := by
  have hsent : (attempt destIp amount currentRequest).toText
      ∈ (s.sent destIp amount currentRequest retries).requests := List.mem_cons_self
  rw [Exchange.step, if_pos hsent, packetMultiplexer_req]
  rfl

/-- Others act between two attempts. -/
theorem Exchange.Between.others (bystanders : List (Bystander clientIp))
    (h : s.Between currentRequest retries) :
    ∃ s', Exchange.Reaches (.transfer destIp amount) s s' ∧
      s'.Between currentRequest retries ∧ s'.ledger = meanwhile s.ledger bystanders ∧
      s'.past = s.past ++ bystanders ∧ s'.applied = s.applied := by
  induction bystanders generalizing s with
  | nil => exact ⟨s, ⟨[], .nil⟩, h, rfl, (List.append_nil s.past).symm, rfl⟩
  | cons bystander rest ih =>
      have taken : perform (Exchange.step (.transfer destIp amount)) s [.other bystander]
          = some { s with
              ledger := (bystander.operation.handle s.ledger).1
              past := s.past ++ [bystander] } := rfl
      obtain ⟨s', hreach, hbetween, hledger, hpast, happlied⟩ :=
        ih (s := { s with
          ledger := (bystander.operation.handle s.ledger).1
          past := s.past ++ [bystander] }) h
      exact ⟨s', (Exchange.Reaches.of_perform taken).trans hreach, hbetween, hledger,
        hpast.trans (List.append_assoc s.past [bystander] rest), happlied⟩

/-- An attempt that is lost; the client has itself registered meanwhile. -/
theorem Exchange.Between.register (h : s.Between currentRequest retries)
    (hretries : retries < RequestDispatcher.MAX_RETRIES) :
    ∃ s', Exchange.Reaches (.transfer destIp amount) s s' ∧
      s'.Between currentRequest (retries + 1) ∧
      s'.ledger = (s.ledger.register clientIp).2 ∧ s'.past = s.past ∧
      s'.applied = s.applied := by
  have run : perform (Exchange.step (.transfer destIp amount)) s [.send, .timeout, .discover]
      = some { s.sent destIp amount currentRequest retries with
          dispatcher := ⟨currentRequest, retries + 1, false, false⟩
          ledger := (s.ledger.register clientIp).2
          discovering := true } := by
    rw [perform, Exchange.step_send h hretries]
    rfl
  exact ⟨_, .of_perform run, rfl, rfl, rfl, rfl⟩

/-- An attempt whose answer is lost. -/
theorem Exchange.Between.serve (h : s.Between currentRequest retries)
    (hretries : retries < RequestDispatcher.MAX_RETRIES) :
    ∃ s', Exchange.Reaches (.transfer destIp amount) s s' ∧
      s'.Between currentRequest (retries + 1) ∧
      s'.ledger
        = (processReqPacket clientIp (attempt destIp amount currentRequest) s.ledger).ledger ∧
      s'.past = s.past ∧
      s'.applied = s.applied +
        if (processReqPacket clientIp (attempt destIp amount currentRequest)
          s.ledger).reply.result = "SUCCESS".toList then 1 else 0 := by
  have run : perform (Exchange.step (.transfer destIp amount)) s
      [.send, .serve (attempt destIp amount currentRequest).toText, .timeout]
      = some { (s.sent destIp amount currentRequest retries).answered
            (processReqPacket clientIp (attempt destIp amount currentRequest) s.ledger) with
          dispatcher := ⟨currentRequest, retries + 1, false, false⟩
          discovering := true } := by
    rw [perform, Exchange.step_send h hretries, Option.bind_some, perform, Exchange.step_serve]
    rfl
  exact ⟨_, .of_perform run, rfl, rfl, rfl, rfl⟩

/-- The number after that of the client's last request, as the client computes it from
an answer. -/
theorem toInt32_toLong_add_one (n : UInt32) : (toLong n + 1).toInt32 = (n + 1).toInt32 := by
  have hlong : (toLong n).toInt32 = n.toInt32 := by
    apply Int32.toBitVec_inj.mp
    show BitVec.signExtend 32 (BitVec.setWidth 64 n.toBitVec) = n.toBitVec
    rw [BitVec.signExtend_eq_setWidth_of_le _ (by decide), BitVec.setWidth_setWidth_of_le _
      (by decide), BitVec.setWidth_eq]
  rw [Int64.toInt32_add, hlong]
  rfl

/-- After an answer that is not a success the client has the server's next number. -/
theorem Exchange.Between.resync {client : ClientRecord} (h : s.Between currentRequest retries)
    (hretries : retries < RequestDispatcher.MAX_RETRIES)
    (hclient : s.ledger.records.lookup clientIp = some client) :
    ∃ s' n, Exchange.Reaches (.transfer destIp amount) s s' ∧
      s'.Between (client.lastRequest + 1).toInt32 n ∧ n ≤ retries + 1 ∧
      s'.ledger = s.ledger ∧ s'.past = s.past ∧ s'.applied = s.applied := by
  by_cases hnext : currentRequest = (client.lastRequest + 1).toInt32
  · exact ⟨s, retries, ⟨[], .nil⟩, hnext ▸ h, Nat.le_succ retries, rfl, rfl, rfl⟩
  · have hother : (attempt destIp amount currentRequest).seqNum.toInt32
        ≠ (client.lastRequest + 1).toInt32 := by
      rwa [attempt, Int32.toInt32_toInt64]
    obtain ⟨hresult, hseq, hledger⟩ := processReqPacket_other hclient hother
    have hread := toAckPacket_inBuffer_reply clientIp (attempt destIp amount currentRequest)
      s.ledger (show 300 ≤ RequestDispatcher.MAXLINE by decide)
    have hserve := Exchange.step_serve destIp amount s currentRequest retries
    generalize processReqPacket clientIp (attempt destIp amount currentRequest) s.ledger
      = handled at hresult hseq hledger hread hserve
    -- the client goes on from the number in the answer, which is no success
    have hresponse : RequestDispatcher.handleResponse handled.reply
        = ((client.lastRequest + 1).toInt32, false) := by
      rw [RequestDispatcher.handleResponse, hseq, toInt32_toLong_add_one]
      rcases hresult with hresult | hresult <;> rw [hresult] <;> rfl
    have hreceive : (Dispatcher.mk currentRequest (retries + 1) true false).receive
        handled.reply.toText
        = some ⟨(client.lastRequest + 1).toInt32, retries + 1, false, false⟩ := by
      rw [Dispatcher.receive, if_pos rfl, hread]
      simp only [hresponse]
    have hsent : handled.reply.toText
        ∈ ((s.sent destIp amount currentRequest retries).answered handled).replies :=
      List.mem_cons_self
    have run : perform (Exchange.step (.transfer destIp amount)) s
        [.send, .serve (attempt destIp amount currentRequest).toText,
          .receive handled.reply.toText]
        = some { (s.sent destIp amount currentRequest retries).answered handled with
            dispatcher := ⟨(client.lastRequest + 1).toInt32, retries + 1, false, false⟩ } := by
      rw [perform, Exchange.step_send h hretries, Option.bind_some, perform, hserve,
        Option.bind_some, perform, Exchange.step, if_pos hsent]
      show (((Dispatcher.mk currentRequest (retries + 1) true false).receive
        handled.reply.toText).map _).bind _ = _
      rw [hreceive]
      rfl
    refine ⟨_, retries + 1, .of_perform run, rfl, le_rfl, hledger, rfl, ?_⟩
    show s.applied + (if handled.reply.result = "SUCCESS".toList then 1 else 0) = s.applied
    rcases hresult with hresult | hresult <;> rw [hresult] <;> rfl

/-- With two attempts left the transfer can be carried out, without the client's knowing. -/
theorem Exchange.Between.pay (h : s.Between currentRequest retries)
    (hretries : retries + 1 < RequestDispatcher.MAX_RETRIES)
    (hcovers : s.ledger.Covers clientIp destIp amount) :
    ∃ s' currentRequest' n, Exchange.Reaches (.transfer destIp amount) s s' ∧
      s'.Between currentRequest' n ∧ n ≤ retries + 2 ∧
      s'.ledger = (s.ledger.transfer clientIp destIp amount).2 ∧ s'.past = s.past ∧
      s'.applied = s.applied + 1 := by
  have ⟨_, _, _, client, hclient, _⟩ := hcovers
  obtain ⟨s₁, n, hreach, hbetween, hn, hledger, hpast, happlied⟩ :=
    h.resync destIp amount (by omega) hclient
  obtain ⟨s₂, hreach', hbetween', hledger', hpast', happlied'⟩ :=
    hbetween.serve destIp amount (by omega)
  have hseq : (attempt destIp amount (client.lastRequest + 1).toInt32).seqNum.toInt32
      = (client.lastRequest + 1).toInt32 := Int32.toInt32_toInt64 _
  rw [hledger] at hledger' happlied'
  obtain ⟨hresult, htransfer⟩ := processReqPacket_next hclient hseq hcovers
  refine ⟨s₂, _, n + 1, hreach.trans hreach', hbetween', by omega, hledger'.trans htransfer,
    hpast'.trans hpast, ?_⟩
  rw [happlied', happlied, if_pos hresult]

end Attempts

/-- If the money is there twice, it can be taken twice. -/
theorem CanPayTwice.reaches {others : List (Bystander clientIp)}
    (h : CanPayTwice ledger destIp amount others) :
    ∃ s, Exchange.Reaches (.transfer destIp amount)
      (Exchange.start clientIp ledger currentRequest) s ∧ s.past <+: others ∧ s.applied = 2 := by
  obtain ⟨early, middle, late, rest, rfl, hfirst, hsecond⟩ := h
  have hstart : (Exchange.start clientIp ledger currentRequest).Between currentRequest 0 := rfl
  -- the client is registered after the first of the others' operations
  obtain ⟨s₁, hreach₁, hbetween₁, hledger₁, hpast₁, happlied₁⟩ :=
    hstart.others destIp amount early
  obtain ⟨s₂, hreach₂, hbetween₂, hledger₂, hpast₂, happlied₂⟩ :=
    hbetween₁.register destIp amount (by decide)
  obtain ⟨s₃, hreach₃, hbetween₃, hledger₃, hpast₃, happlied₃⟩ :=
    hbetween₂.others destIp amount middle
  have hledger₃ : s₃.ledger = registeredAmid ledger early middle := by
    rw [hledger₃, hledger₂, hledger₁]
    rfl
  -- it pays, and the answer gets lost
  rw [← hledger₃] at hfirst hsecond
  obtain ⟨s₄, c₄, n₄, hreach₄, hbetween₄, hn₄, hledger₄, hpast₄, happlied₄⟩ :=
    hbetween₃.pay destIp amount (by decide) hfirst
  obtain ⟨s₅, hreach₅, hbetween₅, hledger₅, hpast₅, happlied₅⟩ :=
    hbetween₄.others destIp amount late
  rw [← hledger₄, ← hledger₅] at hsecond
  have hleft : n₄ + 1 < RequestDispatcher.MAX_RETRIES := by
    rw [RequestDispatcher.MAX_RETRIES]
    omega
  -- it pays again
  obtain ⟨s₆, c₆, n₆, hreach₆, -, -, -, hpast₆, happlied₆⟩ :=
    hbetween₅.pay destIp amount hleft hsecond
  refine ⟨s₆, hreach₁.trans (hreach₂.trans (hreach₃.trans (hreach₄.trans
    (hreach₅.trans hreach₆)))), ⟨rest, ?_⟩, ?_⟩
  · rw [hpast₆, hpast₅, hpast₄, hpast₃, hpast₂, hpast₁]
    rfl
  · rw [happlied₆, happlied₅, happlied₄, happlied₃, happlied₂, happlied₁]
    rfl

/-- **When a request is carried out at most once.**  From any starting ledger and any number
the client starts with, whatever the network does and whenever the others do what they do:
exactly if there are no two moments at which the transfer is covered.

One direction is the invariant, `Exchange.Sound`.  For the other one the run is given: five
attempts are enough for one that registers the client, two for each of the two transfers, and no
answer to a transfer ever arrives. -/
theorem applied_at_most_once_iff (ledger : Ledger) (currentRequest : Int32)
    (clientIp destIp : InAddr) (amount : UInt64) (others : List (Bystander clientIp)) :
    (∀ moves s, Runs (Exchange.step (.transfer destIp amount)) Always
        (Exchange.start clientIp ledger currentRequest) moves s →
        s.past <+: others → s.applied ≤ 1) ↔
      ¬ CanPayTwice ledger destIp amount others := by
  constructor
  · intro honce htwice
    obtain ⟨s, ⟨moves, run⟩, hpast, happlied⟩ := htwice.reaches
    have hle := honce moves s run hpast
    omega
  · intro hnot moves s run hpast
    have hsound : s.Sound destIp amount ledger :=
      run.invariant (Exchange.Sound destIp amount ledger)
        (Exchange.sound_start currentRequest) fun _ _ _ h _ taken => h.step taken
    obtain ⟨rest, rfl⟩ := hpast
    cases hsound.account with
    | fresh none _ => omega
    | registered _ none _ => omega
    | paid _ once _ _ => omega
    | twice canPay => exact absurd (canPay.append rest) hnot

end Exchange

/-- The answer to the first attempt is lost; the answer to the second one tells client 1
to ask for number 2. -/
def lostAnswer : List (Exchange.Move 1) :=
  [.send, .serve (attempt 2 40 1).toText, .timeout,
    .send, .serve (attempt 2 40 1).toText,
    .receive (AckPacket.mk 1 "DUPLICATE".toList 99960 1 2 40).toText,
    .send, .serve (attempt 2 40 2).toText]

/-- **One request, two transfers**, although nobody else does anything. -/
theorem lost_answer_pays_twice : ∃ s,
    Runs (Exchange.step (.transfer 2 40)) Always (Exchange.start 1 twoNewClients 1) lostAnswer s ∧
      s.past = [] ∧ s.applied = 2 := by
  have hrun : (perform (Exchange.step (.transfer 2 40)) (Exchange.start 1 twoNewClients 1)
      lostAnswer).any (fun s => s.past.isEmpty && s.applied == 2) = true := by
    decide +kernel
  obtain ⟨s, run, hs⟩ := exists_runs_of_any hrun
  obtain ⟨halone, htwice⟩ := Bool.and_eq_true_iff.mp hs
  exact ⟨s, run, List.isEmpty_iff.mp halone, eq_of_beq htwice⟩

end Brix
