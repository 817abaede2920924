import Brix.System.Lossless

/-!
# What the client reports

The queue of `Brix.System.Lossless` again, now with any transfers in it: of nothing, to oneself, to
nobody, of more than there is.  `dispatch_request` either returns on a `SUCCESS` or a
`BALANCE_CHECK`, or gives up after `MAX_RETRIES` attempts.  The first answer tells the client the
number of its next request, so at most one attempt is wasted on a wrong one.

* `Attempt.Fulfils`, `Attempt.Futile` — the attempts that end a dispatch, and the others
* `reports_truthful` — the client returns exactly if it has what it has asked for

What the loop keeps up, from the second attempt on at the latest, is that the client's number is
the server's next one for it.  Requests of others cannot disturb that (`lookup_serveRequests`), and
every answer restores it, whatever it says (`handleResponse_transactionReply`); so an attempt that
comes to nothing has come to nothing because of what it asks for.  The first attempt alone may be
refused for its number.  The client has to be registered: to one who is not, the server names no
number to go on from.
-/

namespace Brix

open Text

/-- No balance has changed. -/
def Ledger.SameBalances (ledger ledger' : Ledger) : Prop :=
  ∀ ip, (ledger'.records.lookup ip).map ClientRecord.balance
    = (ledger.records.lookup ip).map ClientRecord.balance

/-- The answer shows what the client has afterwards. -/
def Attempt.ShowsBalance (clientIp : InAddr) (attempt : Attempt) : Prop :=
  ∃ client, attempt.handled.ledger.records.lookup clientIp = some client ∧
    attempt.handled.reply.newBalance = client.balance

/-- The attempt has the transfer made, or asks for the balance if it is one of nothing; either way
its answer shows the balance. -/
structure Attempt.Fulfils (clientIp : InAddr) (queued : Queued) (attempt : Attempt) : Prop where
  made :
    attempt.handled.reply.result = "SUCCESS".toList ∧
        attempt.before.Covers clientIp queued.destIp queued.transferAmount ∧
        attempt.handled.ledger
          = (attempt.before.transfer clientIp queued.destIp queued.transferAmount).2 ∨
      attempt.handled.reply.result = "BALANCE_CHECK".toList ∧ queued.transferAmount = 0 ∧
        attempt.handled.ledger = attempt.before
  shown : attempt.ShowsBalance clientIp

/-- The attempt moves nothing, and is not taken for one that does. -/
structure Attempt.Futile (attempt : Attempt) : Prop where
  success : attempt.handled.reply.result ≠ "SUCCESS".toList
  balanceCheck : attempt.handled.reply.result ≠ "BALANCE_CHECK".toList
  balances : attempt.before.SameBalances attempt.handled.ledger

/-- The attempt has come to nothing because of what it asks for. -/
def Attempt.Hopeless (clientIp : InAddr) (queued : Queued) (attempt : Attempt) : Prop :=
  queued.transferAmount ≠ 0 ∧
    ¬ attempt.before.Covers clientIp queued.destIp queued.transferAmount

/-- The last attempt fulfils the request, and those before it have moved nothing. -/
def Dispatched.Succeeded (clientIp : InAddr) (queued : Queued) (dispatched : Dispatched) : Prop :=
  ∃ futile last, dispatched.attempts = futile ++ [last] ∧ (∀ attempt ∈ futile, attempt.Futile) ∧
    last.Fulfils clientIp queued ∧ dispatched.ledger = last.handled.ledger

/-- The client returns with what it has asked for, after attempts that have moved nothing.  If it
gives up, no attempt has moved anything, and all but the first were hopeless. -/
structure Truthful (clientIp : InAddr) (queued : Queued) (dispatched : Dispatched) : Prop where
  returned : dispatched.dispatcher.returned = true → dispatched.Succeeded clientIp queued
  gaveUp : dispatched.dispatcher.returned = false →
    dispatched.attempts.length = RequestDispatcher.MAX_RETRIES ∧
      (∀ attempt ∈ dispatched.attempts, attempt.Futile) ∧
      ∀ attempt ∈ dispatched.attempts.tail, attempt.Hopeless clientIp queued
  next : ∃ client, dispatched.ledger.records.lookup clientIp = some client ∧
    dispatched.dispatcher.currentRequest = (client.lastRequest + 1).toInt32

namespace Ledger

variable {ledger : Ledger} {senderIp receiverIp : InAddr} {amount : UInt64}
  {sender : ClientRecord}

/-- What does not change the ledger does not change a balance. -/
theorem SameBalances.refl (ledger : Ledger) : ledger.SameBalances ledger := fun _ => rfl

/-- A transfer of a registered client: the answer is about its new record, and tells what has
happened. -/
structure Answered (ledger : Ledger) (senderIp receiverIp : InAddr) (amount : UInt64)
    (result : DbRecordResponse × Ledger) : Prop where
  known : result.1.statusCode ≠ .unknownSender ∧ result.1.statusCode ≠ .notFound
  record : result.2.records.lookup senderIp = some result.1.record
  success : result.1.statusCode = .success ↔ ledger.Covers senderIp receiverIp amount
  balanceCheck : result.1.statusCode = .balanceCheck ↔ amount = 0
  idle : result.1.statusCode = .balanceCheck → result.2 = ledger
  balances : result.1.statusCode ≠ .success → ledger.SameBalances result.2

/-- The exits of `make_transaction`, in the order of the source. -/
theorem answered_transfer (hsender : ledger.records.lookup senderIp = some sender) :
    ledger.Answered senderIp receiverIp amount (ledger.transfer senderIp receiverIp amount) := by
  have hsuccess := @transfer_success_iff ledger senderIp receiverIp amount
  by_cases hzero : amount = 0
  · subst hzero
    rw [transfer_balanceCheck hsender] at hsuccess ⊢
    exact ⟨⟨nofun, nofun⟩, hsender, hsuccess, iff_of_true rfl rfl, fun _ => rfl,
      fun _ => .refl ledger⟩
  by_cases hself : senderIp = receiverIp
  · subst hself
    rw [transfer_self hsender hzero] at hsuccess ⊢
    exact ⟨⟨nofun, nofun⟩, hsender, hsuccess, iff_of_false nofun hzero, nofun,
      fun _ => .refl ledger⟩
  cases hreceiver : ledger.records.lookup receiverIp with
  | none =>
      rw [transfer_unknownReceiver hsender hzero hself hreceiver] at hsuccess ⊢
      exact ⟨⟨nofun, nofun⟩, hsender, hsuccess, iff_of_false nofun hzero, nofun,
        fun _ => .refl ledger⟩
  | some receiver =>
      by_cases hshort : sender.balance < amount
      · rw [transfer_insufficient hsender hself hreceiver hshort] at hsuccess ⊢
        refine ⟨⟨nofun, nofun⟩, ?_, hsuccess, iff_of_false nofun hzero, nofun, fun _ ip => ?_⟩
        · rw [lookup_counted hsender, if_pos rfl]
        · rw [lookup_counted hsender]
          split
          · rename_i hip
            rw [hip, hsender]
            rfl
          · rfl
      · rw [transfer_success hsender hzero hself hreceiver hshort] at hsuccess ⊢
        refine ⟨⟨nofun, nofun⟩, ?_, hsuccess, iff_of_false nofun hzero, nofun,
          fun hother => absurd rfl hother⟩
        rw [lookup_settled hsender hreceiver, if_neg hself, if_pos rfl]

end Ledger

/-- What the client makes of an answer to a request that was its next one. -/
theorem handleResponse_transactionReply (senderIp : InAddr) (packet : ReqPacket)
    {result : DbRecordResponse}
    (hknown : result.statusCode ≠ .unknownSender ∧ result.statusCode ≠ .notFound) :
    RequestDispatcher.handleResponse (transactionReply senderIp packet result)
      = ((result.record.lastRequest + 1).toInt32,
          decide (result.statusCode = .success ∨ result.statusCode = .balanceCheck)) := by
  unfold RequestDispatcher.handleResponse transactionReply
  cases hstatus : result.statusCode with
  | unknownSender => exact absurd hstatus hknown.1
  | notFound => exact absurd hstatus hknown.2
  | success | balanceCheck | insufficientBalance | unknownReceiver | duplicateIp =>
      simp only [toInt32_toLong_add_one]
      rfl

/-- Whoever is told of a success or of the balance is told what its record holds. -/
theorem newBalance_transactionReply (senderIp : InAddr) (packet : ReqPacket)
    {result : DbRecordResponse}
    (hdone : result.statusCode = .success ∨ result.statusCode = .balanceCheck) :
    (transactionReply senderIp packet result).newBalance = result.record.balance := by
  unfold transactionReply
  rcases hdone with hstatus | hstatus
  · rw [hstatus]
  · rw [hstatus]

/-- The text `BALANCE_CHECK` stands for that status code and for no other. -/
theorem transactionReply_balanceCheck_iff (senderIp : InAddr) (packet : ReqPacket)
    (result : DbRecordResponse) :
    (transactionReply senderIp packet result).result = "BALANCE_CHECK".toList ↔
      result.statusCode = .balanceCheck := by
  unfold transactionReply
  cases result.statusCode <;> simp

section Attempts

variable {clientIp : InAddr} {ledger : Ledger} {client : ClientRecord} {queued : Queued}
  {currentRequest : Int32} {retries : ℕ}

/-- An attempt with the right number: it fulfils the request, or it is hopeless. -/
theorem attempt_next (hretries : retries < RequestDispatcher.MAX_RETRIES)
    (hclient : ledger.records.lookup clientIp = some client)
    (hnext : currentRequest = (client.lastRequest + 1).toInt32) :
    ∃ handled client' done, attemptOnce clientIp queued.request
        ⟨currentRequest, retries, false, false⟩ ledger
          = some (⟨(client'.lastRequest + 1).toInt32, retries + 1, false, done⟩, handled) ∧
      handled.ledger.records.lookup clientIp = some client' ∧
      (done = true → (Attempt.mk ledger handled).Fulfils clientIp queued) ∧
      (done = false → (Attempt.mk ledger handled).Futile ∧
        (Attempt.mk ledger handled).Hopeless clientIp queued) := by
  have hseq : (attempt queued.destIp queued.transferAmount currentRequest).seqNum.toInt32
      = (client.lastRequest + 1).toInt32 := by
    rw [attempt, Int32.toInt32_toInt64, hnext]
  have hstatus : checkPacketStatus (attempt queued.destIp queued.transferAmount currentRequest)
      client = .valid := if_pos hseq
  obtain ⟨hreply, hledger⟩ := @processReqPacket_eq clientIp
    (attempt queued.destIp queued.transferAmount currentRequest) ledger client hclient
  rw [hstatus] at hreply hledger
  have hanswered : ledger.Answered clientIp queued.destIp queued.transferAmount
      (ledger.transfer clientIp queued.destIp queued.transferAmount) :=
    Ledger.answered_transfer hclient
  -- what the handler did is fixed by its reply and its ledger, and the two by the transfer
  rw [Queued.request, attemptOnce_eq hretries]
  generalize processReqPacket clientIp
    (attempt queued.destIp queued.transferAmount currentRequest) ledger = handled
    at hreply hledger ⊢
  change handled.reply = transactionReply clientIp _
    (ledger.transfer clientIp queued.destIp queued.transferAmount).1 at hreply
  change handled.ledger = (ledger.transfer clientIp queued.destIp queued.transferAmount).2
    at hledger
  generalize htransfer : ledger.transfer clientIp queued.destIp queued.transferAmount = result
    at hreply hledger hanswered
  -- the codes of the reply say exactly what happened
  have hsuccess := transactionReply_success_iff clientIp
    (attempt queued.destIp queued.transferAmount currentRequest) result.1
  have hcheck := transactionReply_balanceCheck_iff clientIp
    (attempt queued.destIp queued.transferAmount currentRequest) result.1
  rw [← hreply] at hsuccess hcheck
  refine ⟨handled, result.1.record,
    decide (result.1.statusCode = .success ∨ result.1.statusCode = .balanceCheck), ?_,
    hledger ▸ hanswered.record, fun hdone => ?_, fun hdone => ?_⟩
  · simp only [hreply, handleResponse_transactionReply clientIp _ hanswered.known]
  · refine ⟨?_, result.1.record, hledger ▸ hanswered.record,
      hreply ▸ newBalance_transactionReply clientIp _ (of_decide_eq_true hdone)⟩
    rcases of_decide_eq_true hdone with hmade | hshown
    · exact Or.inl ⟨hsuccess.mpr hmade, hanswered.success.mp hmade,
        hledger.trans (congrArg Prod.snd htransfer.symm)⟩
    · exact Or.inr ⟨hcheck.mpr hshown, hanswered.balanceCheck.mp hshown,
        hledger.trans (hanswered.idle hshown)⟩
  · obtain ⟨hmade, hshown⟩ := not_or.mp (of_decide_eq_false hdone)
    refine ⟨⟨mt hsuccess.mp hmade, mt hcheck.mp hshown, ?_⟩, mt hanswered.balanceCheck.mpr hshown,
      mt hanswered.success.mpr hmade⟩
    show ledger.SameBalances handled.ledger
    rw [hledger]
    exact hanswered.balances hmade

/-- An attempt with a wrong number moves nothing, and leads to the right one. -/
theorem attempt_other (hretries : retries < RequestDispatcher.MAX_RETRIES)
    (hclient : ledger.records.lookup clientIp = some client)
    (hother : currentRequest ≠ (client.lastRequest + 1).toInt32) :
    ∃ handled, attemptOnce clientIp queued.request
        ⟨currentRequest, retries, false, false⟩ ledger
          = some (⟨(client.lastRequest + 1).toInt32, retries + 1, false, false⟩, handled) ∧
      handled.ledger.records.lookup clientIp = some client ∧
      (Attempt.mk ledger handled).Futile := by
  have hseq : (attempt queued.destIp queued.transferAmount currentRequest).seqNum.toInt32
      ≠ (client.lastRequest + 1).toInt32 := by
    rwa [attempt, Int32.toInt32_toInt64]
  obtain ⟨hresult, hnumber, hledger⟩ := processReqPacket_other hclient hseq
  rw [Queued.request, attemptOnce_eq hretries]
  generalize processReqPacket clientIp
    (attempt queued.destIp queued.transferAmount currentRequest) ledger = handled
    at hresult hnumber hledger ⊢
  have hresponse : RequestDispatcher.handleResponse handled.reply
      = ((client.lastRequest + 1).toInt32, false) := by
    rw [RequestDispatcher.handleResponse, hnumber, toInt32_toLong_add_one]
    rcases hresult with hresult | hresult
    · rw [hresult]
      rfl
    · rw [hresult]
      rfl
  refine ⟨handled, by simp only [hresponse], hledger ▸ hclient, ?_, ?_, ?_⟩
  · rcases hresult with hresult | hresult
    · exact fun h => absurd (hresult.symm.trans h) (by decide)
    · exact fun h => absurd (hresult.symm.trans h) (by decide)
  · rcases hresult with hresult | hresult
    · exact fun h => absurd (hresult.symm.trans h) (by decide)
    · exact fun h => absurd (hresult.symm.trans h) (by decide)
  · show ledger.SameBalances handled.ledger
    rw [hledger]
    exact .refl ledger

end Attempts

/-! ## A dispatch -/

/-- How the loop ends with so many turns left, if the client has the right number. -/
structure Settled (clientIp : InAddr) (queued : Queued) (left : ℕ) (dispatched : Dispatched) :
    Prop where
  returned : dispatched.dispatcher.returned = true → dispatched.Succeeded clientIp queued
  gaveUp : dispatched.dispatcher.returned = false → dispatched.attempts.length = left ∧
    ∀ attempt ∈ dispatched.attempts, attempt.Futile ∧ attempt.Hopeless clientIp queued
  next : ∃ client, dispatched.ledger.records.lookup clientIp = some client ∧
    dispatched.dispatcher.currentRequest = (client.lastRequest + 1).toInt32

section Queue

variable {clientIp : InAddr} {ledger : Ledger} {client : ClientRecord} {queued : Queued}
  {currentRequest : Int32} {retries left : ℕ}

/-- One more attempt that has moved nothing, in front. -/
theorem Dispatched.Succeeded.cons {rest : Dispatched} (h : rest.Succeeded clientIp queued)
    {first : Attempt} (hfutile : first.Futile) :
    (Dispatched.mk (first :: rest.attempts) rest.dispatcher rest.ledger).Succeeded clientIp
      queued := by
  obtain ⟨futile, last, hattempts, hfutiles, hlast, hledger⟩ := h
  refine ⟨first :: futile, last, ?_, List.forall_mem_cons.mpr ⟨hfutile, hfutiles⟩, hlast, hledger⟩
  rw [hattempts]
  rfl

/-- A turn that is not the last one. -/
theorem dispatchLoop_undone {d d' : Dispatcher} {handled : Handled}
    (hattempt : attemptOnce clientIp queued.request d
      (serveRequests ledger (queued.interlude d.retries)).2 = some (d', handled))
    (hundone : d'.returned = false) :
    dispatchLoop clientIp queued (left + 1) d ledger
      = let rest := dispatchLoop clientIp queued left d' handled.ledger
        ⟨⟨(serveRequests ledger (queued.interlude d.retries)).2, handled⟩ :: rest.attempts,
          rest.dispatcher, rest.ledger⟩ := by
  rw [dispatchLoop]
  simp only [hattempt, hundone, Bool.false_eq_true, if_false]

/-- The loop from an attempt with the right number on: each attempt either ends it or is hopeless,
and leaves the number right. -/
theorem dispatchLoop_settled (hleft : retries + left = RequestDispatcher.MAX_RETRIES)
    (hothers : ∀ n, ∀ arrival ∈ queued.interlude n, arrival.senderIp ≠ clientIp)
    (hclient : ledger.records.lookup clientIp = some client)
    (hnext : currentRequest = (client.lastRequest + 1).toInt32) :
    Settled clientIp queued left
      (dispatchLoop clientIp queued left ⟨currentRequest, retries, false, false⟩ ledger) := by
  induction left generalizing ledger client currentRequest retries with
  | zero =>
      exact ⟨fun h => Bool.noConfusion h, fun _ => ⟨rfl, List.forall_mem_nil _⟩, client, hclient,
        hnext⟩
  | succ left ih =>
      have hretries : retries < RequestDispatcher.MAX_RETRIES := by omega
      obtain ⟨reached, hreached, hlast⟩ := lookup_serveRequests (hothers retries) hclient
      obtain ⟨handled, client', done, hattempt, hclient', hdone, hundone⟩ :=
        @attempt_next clientIp _ reached queued currentRequest retries hretries hreached
          (hlast ▸ hnext)
      cases done with
      | true =>
          rw [dispatchLoop]
          simp only [hattempt]
          exact ⟨fun _ => ⟨[], _, rfl, List.forall_mem_nil _, hdone rfl, rfl⟩,
            fun h => Bool.noConfusion h, client', hclient', rfl⟩
      | false =>
          -- a refused attempt moves no money, and the next one is in sequence again
          obtain ⟨hfutile, hhopeless⟩ := hundone rfl
          rw [dispatchLoop_undone hattempt rfl]
          have hrest : Settled clientIp queued left (dispatchLoop clientIp queued left
              ⟨(client'.lastRequest + 1).toInt32, retries + 1, false, false⟩ handled.ledger) :=
            ih (by omega) hclient' rfl
          refine ⟨fun hreturned => (hrest.returned hreturned).cons hfutile, fun hgaveUp => ?_,
            hrest.next⟩
          obtain ⟨hlength, hattempts⟩ := hrest.gaveUp hgaveUp
          exact ⟨congrArg Nat.succ hlength,
            List.forall_mem_cons.mpr ⟨⟨hfutile, hhopeless⟩, hattempts⟩⟩

/-- **One request**, whatever number the client starts with. -/
theorem dispatchRequest_truthful
    (hothers : ∀ n, ∀ arrival ∈ queued.interlude n, arrival.senderIp ≠ clientIp)
    (hclient : ledger.records.lookup clientIp = some client) :
    Truthful clientIp queued (dispatchRequest clientIp queued currentRequest ledger) := by
  unfold dispatchRequest
  by_cases hnext : currentRequest = (client.lastRequest + 1).toInt32
  · obtain ⟨hreturned, hgaveUp, hlast⟩ :
        Settled clientIp queued RequestDispatcher.MAX_RETRIES _ :=
      dispatchLoop_settled (Nat.zero_add _) hothers hclient hnext
    refine ⟨hreturned, fun hnone => ?_, hlast⟩
    obtain ⟨hlength, hattempts⟩ := hgaveUp hnone
    exact ⟨hlength, fun attempt hmem => (hattempts attempt hmem).1,
      fun attempt hmem => (hattempts attempt (List.mem_of_mem_tail hmem)).2⟩
  · obtain ⟨reached, hreached, hlast⟩ := lookup_serveRequests (hothers 0) hclient
    obtain ⟨handled, hattempt, hclient', hfutile⟩ :=
      @attempt_other clientIp _ reached queued currentRequest 0 (by decide) hreached
        (hlast ▸ hnext)
    -- the rest of the loop has the number that the first answer named
    have hrest : Settled clientIp queued 4 (dispatchLoop clientIp queued 4
        ⟨(reached.lastRequest + 1).toInt32, 1, false, false⟩ handled.ledger) :=
      dispatchLoop_settled (by decide) hothers hclient' rfl
    rw [show dispatchLoop clientIp queued RequestDispatcher.MAX_RETRIES (.start currentRequest)
      ledger = _ from dispatchLoop_undone hattempt rfl]
    generalize dispatchLoop clientIp queued 4
      ⟨(reached.lastRequest + 1).toInt32, 1, false, false⟩ handled.ledger = rest at hrest ⊢
    refine ⟨fun hreturned => (hrest.returned hreturned).cons hfutile, fun hgaveUp => ?_,
      hrest.next⟩
    obtain ⟨hlength, hattempts⟩ := hrest.gaveUp hgaveUp
    exact ⟨congrArg Nat.succ hlength, List.forall_mem_cons.mpr
      ⟨hfutile, fun attempt hmem => (hattempts attempt hmem).1⟩,
      fun attempt hmem => (hattempts attempt hmem).2⟩

/-- **The client is never wrong about a request.**  Any queue of transfers of a registered client,
covered or not, from any ledger and any number the client starts with: if nothing is lost, each
dispatch either returns after exactly one attempt that makes the transfer (or asks for the balance,
for a transfer of nothing) and others that move no money, with the client's balance in the answer,
or it uses up its attempts and none has moved any; then the ledger did not cover the transfer at
any attempt but perhaps the first.  In both cases the client has the next number.

The first attempt is an exception because it may be spent on learning the number: if the money is
there at that moment only, it has been there in vain. -/
theorem reports_truthful {queue : List Queued}
    (hothers : ∀ queued ∈ queue, ∀ n, ∀ arrival ∈ queued.interlude n,
      arrival.senderIp ≠ clientIp)
    (hclient : clientIp ∈ ledger.records) :
    List.Forall₂ (Truthful clientIp) queue
      (dispatchQueue clientIp queue currentRequest ledger) := by
  induction queue generalizing currentRequest ledger with
  | nil => exact .nil
  | cons queued rest ih =>
      obtain ⟨client, hlookup⟩ := Finmap.mem_iff.mp hclient
      have hone : Truthful clientIp queued
          (dispatchRequest clientIp queued currentRequest ledger) :=
        dispatchRequest_truthful (hothers queued List.mem_cons_self) hlookup
      obtain ⟨client', hclient', -⟩ := hone.next
      exact .cons hone (ih (fun queued h => hothers queued (List.mem_cons_of_mem _ h))
        (Finmap.mem_of_lookup_eq_some hclient'))

end Queue

/-- Client 1 asks for a transfer of more than it has, one to itself, its balance, and one that it
can afford. -/
def fourRequests : List Queued :=
  [⟨2, 100001, fun _ => []⟩, ⟨1, 5, fun _ => []⟩, ⟨2, 0, fun _ => []⟩, ⟨2, 100000, fun _ => []⟩]

/-- One payment after a wrong number, one balance check, and two requests that nothing can come of.
-/
theorem fourRequests_truthful :
    List.Forall₂ (Truthful 1) fourRequests (dispatchQueue 1 fourRequests 7 twoNewClients) ∧
      (dispatchQueue 1 fourRequests 7 twoNewClients).map
        (fun dispatched => (dispatched.dispatcher.returned, dispatched.attempts.length))
        = [(false, 5), (false, 5), (true, 1), (true, 1)] := by
  have hothers : ∀ queued ∈ fourRequests, ∀ n, ∀ arrival ∈ queued.interlude n,
      arrival.senderIp ≠ 1 := by
    intro queued hqueued n arrival harrival
    simp only [fourRequests, List.mem_cons, List.not_mem_nil, or_false] at hqueued
    rcases hqueued with rfl | rfl | rfl | rfl <;> cases harrival
  exact ⟨reports_truthful hothers (by decide), by decide +kernel⟩

end Brix
