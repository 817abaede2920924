import Brix.Server.Sequencing

/-!
# One request in flight for each client

A client waits for the answer to its request before it sends the next one.  When no handler of its
last request is still at work by then, and clients are not removed while theirs are, the handlers
do not get in each other's way: `process_req_packet` on any number of threads is
`process_req_packet` one at a time, in some order that is only ever continued, but for one thing.

`make_transaction` returns the sender's record after it has released the locks.  By then somebody
else may have paid the sender, and the balance in the answer is one that the sender has never had
when its own transfer had just been made.  Here the transaction and the read of the record are two
steps (`Work.settled` lies between them), and the answer is the one of the order up to its balance,
which is the sender's after some longer stretch of the order (`Shows`).

A handler that makes its transaction is put in the order when it makes it.  Any other handler has
found out from the record it has read that its packet is not the next one, and is put there when
it reads the record.

* `serve` — whole handlers, one at a time
* `Handling.OneInFlight` — a client whose handler is at work gets no other one, and stays
* `handlers_serialisable` — the handlers at work together, and one at a time

### What is load-bearing

A handler looks its client up in two places, long before its transaction and right after it, and
in both cases others may have changed the ledger since.  What `OneInFlight` keeps for it is its
client's number: transfers of others do not count for it, and neither do registrations
(`Undisturbed`).  The number is all that a packet is checked against, so the check is still good
when the transaction is made (`Decided`); and the number goes into the answer, so the record that
is read in the end may differ from the one of the transaction in the balance only (`Rereadable`).
-/

namespace Brix

open Execution

/-! ## One at a time -/

/-- The ledger, and the answers so far. -/
structure InTurn (Tid : Type) where
  ledger : Ledger
  replies : Tid → Option AckPacket

/-- The handler of an action. -/
def RequestsAction.handler? {Tid : Type} : RequestsAction Tid → Option Tid
  | .handler t => some t
  | .register _ => none
  | .remove _ => none

/-- A client registers or leaves. -/
def RequestsAction.isOther {Tid : Type} (action : RequestsAction Tid) : Bool :=
  action.handler?.isNone

/-- The record number that a handler of the client would see. -/
def Ledger.lastRequestOf (ledger : Ledger) (ip : InAddr) : UInt32 :=
  (ledger.toDbManager.getClientInfo ip).record.lastRequest

section LastRequest

variable {ledger : Ledger} {ip senderIp receiverIp : InAddr} {amount : UInt64}

/-- The number is that of the record. -/
theorem lastRequestOf_of_lookup {record : ClientRecord}
    (h : ledger.records.lookup ip = some record) :
    ledger.lastRequestOf ip = record.lastRequest :=
  congrArg ClientRecord.lastRequest (getClientInfo_of_lookup h)

/-- A client that is not registered has made no requests. -/
theorem lastRequestOf_of_notMem (h : ip ∉ ledger.records) : ledger.lastRequestOf ip = 0 := by
  have hnone : ledger.toDbManager.databaseRecords.lookup ip = none := Finmap.lookup_eq_none.mpr h
  rw [Ledger.lastRequestOf, DbManager.getClientInfo, hnone]
  rfl

/-- It depends on the record only. -/
theorem lastRequestOf_congr {ledger' : Ledger}
    (h : ledger'.records.lookup ip = ledger.records.lookup ip) :
    ledger'.lastRequestOf ip = ledger.lastRequestOf ip := by
  cases hlookup : ledger.records.lookup ip with
  | none =>
      rw [lastRequestOf_of_notMem (Finmap.lookup_eq_none.mp hlookup),
        lastRequestOf_of_notMem (Finmap.lookup_eq_none.mp (h.trans hlookup))]
  | some record => rw [lastRequestOf_of_lookup hlookup, lastRequestOf_of_lookup (h.trans hlookup)]

/-- A transfer counts a request of its sender, and of nobody else. -/
theorem lastRequestOf_transfer (hne : ip ≠ senderIp) :
    (ledger.transfer senderIp receiverIp amount).2.lastRequestOf ip = ledger.lastRequestOf ip := by
  cases hlookup : ledger.records.lookup ip with
  | none =>
      have hnot : ip ∉ ledger.records := Finmap.lookup_eq_none.mp hlookup
      rw [lastRequestOf_of_notMem hnot,
        lastRequestOf_of_notMem (fun hmem => hnot (Ledger.mem_transfer.mp hmem))]
  | some record =>
      obtain ⟨record', hrecord', hlast⟩ : ∃ record',
          (ledger.transfer senderIp receiverIp amount).2.records.lookup ip = some record' ∧
          (record'.lastRequest = record.lastRequest ∨
            ip = senderIp ∧ record'.lastRequest = record.lastRequest + 1) :=
        Ledger.lookup_transfer hlookup
      rw [lastRequestOf_of_lookup hlookup, lastRequestOf_of_lookup hrecord']
      exact hlast.resolve_right fun h => hne h.1

/-- A client that registers has made none either. -/
theorem lastRequestOf_register (ip' : InAddr) :
    (ledger.register ip').2.lastRequestOf ip = ledger.lastRequestOf ip := by
  by_cases hmem : ip ∈ ledger.records
  · obtain ⟨record, hrecord⟩ := Finmap.mem_iff.mp hmem
    exact lastRequestOf_congr ((Ledger.lookup_register hrecord).trans hrecord.symm)
  by_cases hip : ip = ip'
  · subst hip
    have hnew : (ledger.register ip).2.records.lookup ip = some (Ledger.newClient ip) := by
      rw [Ledger.register, if_neg hmem]
      exact Finmap.lookup_insert _
    rw [lastRequestOf_of_lookup hnew, lastRequestOf_of_notMem hmem]
    rfl
  · have hnot : ip ∉ (ledger.register ip').2.records := fun h =>
      (Ledger.mem_register.mp h).elim hip hmem
    rw [lastRequestOf_of_notMem hmem, lastRequestOf_of_notMem hnot]

/-- What others do leaves a client its number, and leaves it registered. -/
structure Undisturbed (ip : InAddr) (ledger ledger' : Ledger) : Prop where
  number : ledger'.lastRequestOf ip = ledger.lastRequestOf ip
  stays : ip ∈ ledger.records → ip ∈ ledger'.records

/-- To do nothing disturbs nobody. -/
theorem Undisturbed.refl (ip : InAddr) (ledger : Ledger) : Undisturbed ip ledger ledger :=
  ⟨rfl, fun h => h⟩

/-- A transfer of somebody else may pay the client, and does not count for it. -/
theorem Undisturbed.transfer (hne : ip ≠ senderIp) :
    Undisturbed ip ledger (ledger.transfer senderIp receiverIp amount).2 :=
  ⟨lastRequestOf_transfer hne, Ledger.mem_transfer.mpr⟩

/-- A registration of the client itself does nothing if it is there, and gives it the number zero
if it is not, which is what a handler would have seen before. -/
theorem Undisturbed.register (ip' : InAddr) :
    Undisturbed ip ledger (ledger.register ip').2 :=
  ⟨lastRequestOf_register ip', fun h => Ledger.mem_register.mpr (Or.inr h)⟩

/-- A removal of somebody else. -/
theorem Undisturbed.remove {ip' : InAddr} (hne : ip ≠ ip') :
    Undisturbed ip ledger (ledger.remove ip').2 := by
  have hlookup : (ledger.remove ip').2.records.lookup ip = ledger.records.lookup ip :=
    Ledger.lookup_remove_of_ne hne
  refine ⟨lastRequestOf_congr hlookup, fun hmem => ?_⟩
  obtain ⟨record, hrecord⟩ := Finmap.mem_iff.mp hmem
  exact Finmap.mem_of_lookup_eq_some (hlookup.trans hrecord)

/-- The number is all that a packet is checked against. -/
theorem checkPacketStatus_congr {packet : ReqPacket} {client client' : ClientRecord}
    (h : client'.lastRequest = client.lastRequest) :
    checkPacketStatus packet client' = checkPacketStatus packet client := by
  unfold checkPacketStatus
  rw [h]

end LastRequest

section System

variable {Tid : Type} [DecidableEq Tid] (arrivals : Tid → Arrival)

/-- A whole handler, or a client that registers or leaves. -/
def InTurn.step (s : InTurn Tid) : RequestsAction Tid → InTurn Tid
  | .handler t =>
      let handled := processReqPacket (arrivals t).senderIp (arrivals t).packet s.ledger
      ⟨handled.ledger, Function.update s.replies t (some handled.reply)⟩
  | .register clientIp => { s with ledger := (s.ledger.register clientIp).2 }
  | .remove clientIp => { s with ledger := (s.ledger.remove clientIp).2 }

/-- One after the other. -/
def serve (ledger : Ledger) (order : List (RequestsAction Tid)) : InTurn Tid :=
  order.foldl (InTurn.step arrivals) ⟨ledger, fun _ => none⟩

/-- One more is served. -/
theorem serve_snoc (ledger : Ledger) (order : List (RequestsAction Tid))
    (action : RequestsAction Tid) :
    serve arrivals ledger (order ++ [action])
      = (serve arrivals ledger order).step arrivals action :=
  List.foldl_concat ..

end System

/-! ## The handlers at work -/

section NotValid

variable {senderIp : InAddr} {packet : ReqPacket} {status : PacketStatus} {client : ClientRecord}
  {current current' : Ledger}

/-- A packet that is not the next one changes nothing, and the answer to it depends on the record
that has been read only. -/
theorem replyTo_ledger (h : status ≠ .valid) :
    (replyTo senderIp packet client status current).2 = current := by
  cases status with
  | valid => exact absurd rfl h
  | duplicate => rfl
  | outOfOrder => rfl
  | noClue => rfl

/-- So it may be computed from any ledger. -/
theorem replyTo_reply (h : status ≠ .valid) :
    (replyTo senderIp packet client status current).1
      = (replyTo senderIp packet client status current').1 := by
  cases status with
  | valid => exact absurd rfl h
  | duplicate => rfl
  | outOfOrder => rfl
  | noClue => rfl

end NotValid

/-- The descriptions with which `make_transaction` returns a record that it reads without locks. -/
def Description.rereads : Description → Bool
  | .success | .balanceCheck | .duplicateIp | .insufficientBalance => true
  | .notFound | .unknownSender | .unknownReceiver => false

/-- The result of a transaction, with the sender's record as it is now.  There is none if the
record is gone. -/
def reread (senderIp : InAddr) (ledger : Ledger) (result : DbRecordResponse) :
    Option DbRecordResponse :=
  if result.statusCode.rereads then
    (ledger.records.lookup senderIp).map fun record => { result with record := record }
  else some result

/-- How far a handler is. -/
inductive Work
  | started
  | looked (client : ClientRecord)
  | checked (client : ClientRecord) (status : PacketStatus)
  /-- The transaction has been made, and the record for the answer has not been read. -/
  | settled (result : DbRecordResponse)
  | replied (reply : AckPacket)

/-- A handler's next step: read the record, check the packet, act on the status, and read the
record again. -/
def Work.step (senderIp : InAddr) (packet : ReqPacket) : Work → Ledger → Option (Work × Ledger)
  | .started, ledger => some (.looked (ledger.toDbManager.getClientInfo senderIp).record, ledger)
  | .looked client, ledger => some (.checked client (checkPacketStatus packet client), ledger)
  | .checked client status, ledger =>
      if status = .valid then
        let (result, ledger') := ledger.transfer senderIp packet.receiverIp packet.transferAmount
        some (.settled result, ledger')
      else some (.replied (replyTo senderIp packet client status ledger).1, ledger)
  | .settled result, ledger => (reread senderIp ledger result).map fun result =>
      (.replied (transactionReply senderIp packet result), ledger)
  | .replied _, _ => none

section Reread

variable {ledger : Ledger} {senderIp receiverIp : InAddr} {amount : UInt64} {packet : ReqPacket}

/-- The record of a transaction is the sender's, right after it. -/
theorem lookup_transfer_of_rereads
    (h : (ledger.transfer senderIp receiverIp amount).1.statusCode.rereads = true) :
    (ledger.transfer senderIp receiverIp amount).2.records.lookup senderIp
      = some (ledger.transfer senderIp receiverIp amount).1.record := by
  rcases @Ledger.transfer_counts_or_unchanged ledger senderIp receiverIp amount with
    ⟨-, _, -, hrecord, -⟩ | ⟨-, hsame⟩
  · exact hrecord
  rw [hsame]
  cases hsender : ledger.records.lookup senderIp with
  | none =>
      rw [Ledger.transfer_unknownSender hsender] at h
      cases h
  | some sender =>
      by_cases hzero : amount = 0
      · rw [hzero, Ledger.transfer_balanceCheck hsender]
      by_cases hself : senderIp = receiverIp
      · rw [← hself, Ledger.transfer_self hsender hzero]
      cases hreceiver : ledger.records.lookup receiverIp with
      | none =>
          rw [Ledger.transfer_unknownReceiver hsender hzero hself hreceiver] at h
          cases h
      | some receiver =>
          exact absurd hsame (Ledger.transfer_ne_iff.mpr
            ⟨Finmap.mem_of_lookup_eq_some hsender, hzero, hself,
              Finmap.mem_of_lookup_eq_some hreceiver⟩)

/-- If nobody comes between the two, it is the record that is read. -/
theorem reread_transfer :
    reread senderIp (ledger.transfer senderIp receiverIp amount).2
        (ledger.transfer senderIp receiverIp amount).1
      = some (ledger.transfer senderIp receiverIp amount).1 := by
  rw [reread]
  split
  · rename_i hrereads
    rw [lookup_transfer_of_rereads hrereads]
    rfl
  · rfl

/-- **Left alone**, a handler's steps are `process_req_packet`.

So the steps are those of the function that the other modules speak of. -/
theorem Work.steps_alone (senderIp : InAddr) (packet : ReqPacket) (ledger : Ledger) :
    ∃ n, (fun next : Option (Work × Ledger) => next.bind fun (work, ledger) =>
        work.step senderIp packet ledger)^[n] (some (.started, ledger))
      = some (.replied (processReqPacket senderIp packet ledger).reply,
          (processReqPacket senderIp packet ledger).ledger) := by
  obtain ⟨client, hclient, hreply, hledger⟩ := processReqPacket_replyTo senderIp packet ledger
  have hstart : Work.step senderIp packet .started ledger = some (.looked client, ledger) := by
    rw [Work.step, hclient]
  have hlook : Work.step senderIp packet (.looked client) ledger
      = some (.checked client (checkPacketStatus packet client), ledger) := rfl
  rw [hreply, hledger]
  -- four steps where a transfer is made, three where the check refuses it
  by_cases hvalid : checkPacketStatus packet client = .valid
  · refine ⟨4, ?_⟩
    rw [hvalid] at hlook ⊢
    have hmake : Work.step senderIp packet (.checked client .valid) ledger
        = some (.settled (ledger.transfer senderIp packet.receiverIp packet.transferAmount).1,
          (ledger.transfer senderIp packet.receiverIp packet.transferAmount).2) := rfl
    have hread : Work.step senderIp packet
        (.settled (ledger.transfer senderIp packet.receiverIp packet.transferAmount).1)
        (ledger.transfer senderIp packet.receiverIp packet.transferAmount).2
        = some (.replied (transactionReply senderIp packet
            (ledger.transfer senderIp packet.receiverIp packet.transferAmount).1),
          (ledger.transfer senderIp packet.receiverIp packet.transferAmount).2) := by
      rw [Work.step, reread_transfer]
      rfl
    simp only [Function.iterate_succ, Function.iterate_zero, Function.comp_apply, id_eq,
      Option.bind_some, hstart, hlook, hmake, hread]
    rfl
  · refine ⟨3, ?_⟩
    have hrefuse : Work.step senderIp packet (.checked client (checkPacketStatus packet client))
        ledger = some (.replied (replyTo senderIp packet client
          (checkPacketStatus packet client) ledger).1, ledger) := if_neg hvalid
    simp only [Function.iterate_succ, Function.iterate_zero, Function.comp_apply, id_eq,
      Option.bind_some, hstart, hlook, hrefuse]
    rw [replyTo_ledger hvalid]

/-- The answer that is given for a record with the same number differs in the balance only. -/
theorem transactionReply_record {result : DbRecordResponse} {record : ClientRecord}
    (hrereads : result.statusCode.rereads = true)
    (hnumber : record.lastRequest = result.record.lastRequest) :
    transactionReply senderIp packet { result with record := record }
      = { transactionReply senderIp packet result with newBalance := record.balance } := by
  unfold transactionReply
  cases hstatus : result.statusCode with
  | success => simp [hnumber]
  | balanceCheck => simp [hnumber]
  | insufficientBalance => simp [hnumber]
  | duplicateIp => simp [hnumber]
  | unknownReceiver =>
      rw [hstatus] at hrereads
      cases hrereads
  | unknownSender =>
      rw [hstatus] at hrereads
      cases hrereads
  | notFound =>
      rw [hstatus] at hrereads
      cases hrereads

end Reread

/-- A server with one handler for each arrival. -/
structure Handling (Tid : Type) where
  ledger : Ledger
  work : Tid → Work

/-- No handler has begun. -/
def Handling.start {Tid : Type} (ledger : Ledger) : Handling Tid := ⟨ledger, fun _ => .started⟩

/-- The handler has read the record, and has no answer yet. -/
def Work.active : Work → Bool
  | .started => false
  | .looked _ => true
  | .checked _ _ => true
  | .settled _ => true
  | .replied _ => false

section System

variable {Tid : Type} [DecidableEq Tid] (arrivals : Tid → Arrival)

/-- A handler takes a step, or a client registers or leaves. -/
def Handling.step (s : Handling Tid) : RequestsAction Tid → Option (Handling Tid)
  | .handler t =>
      ((s.work t).step (arrivals t).senderIp (arrivals t).packet s.ledger).map
        fun (work, ledger) => ⟨ledger, Function.update s.work t work⟩
  | .register clientIp => some { s with ledger := (s.ledger.register clientIp).2 }
  | .remove clientIp => some { s with ledger := (s.ledger.remove clientIp).2 }

/-- No handler of a client begins, and no client is removed, while a handler of the client is at
work. -/
def Handling.OneInFlight (s : Handling Tid) : RequestsAction Tid → Prop
  | .handler t => (s.work t).active = false →
      ∀ u, (arrivals u).senderIp = (arrivals t).senderIp → (s.work u).active = false
  | .register _ => True
  | .remove clientIp => ∀ u, (arrivals u).senderIp = clientIp → (s.work u).active = false

instance [Fintype Tid] (s : Handling Tid) :
    (action : RequestsAction Tid) → Decidable (s.OneInFlight arrivals action)
  | .handler t => inferInstanceAs (Decidable ((s.work t).active = false →
      ∀ u, (arrivals u).senderIp = (arrivals t).senderIp → (s.work u).active = false))
  | .register _ => inferInstanceAs (Decidable True)
  | .remove clientIp => inferInstanceAs (Decidable (∀ u, (arrivals u).senderIp = clientIp →
      (s.work u).active = false))

/-- The handler is at work already, or no handler of its client is. -/
def Handling.Alone (s : Handling Tid) (t : Tid) : Prop :=
  (s.work t).active = true ∨
    ∀ u, (arrivals u).senderIp = (arrivals t).senderIp → (s.work u).active = false

/-- A handler that has read `client`: its packet is the next one, still, or it is in the order
with its answer. -/
def Decided (ledger : Ledger) (order : List (RequestsAction Tid)) (current : Ledger) (t : Tid)
    (client : ClientRecord) : Prop :=
  (checkPacketStatus (arrivals t).packet client = .valid ∧
    t ∉ order.filterMap RequestsAction.handler? ∧
    current.lastRequestOf (arrivals t).senderIp = client.lastRequest) ∨
  (checkPacketStatus (arrivals t).packet client ≠ .valid ∧
    (serve arrivals ledger order).replies t
      = some (replyTo (arrivals t).senderIp (arrivals t).packet client
          (checkPacketStatus (arrivals t).packet client) current).1)

/-- The sender is still there, under the number of the result. -/
def Rereadable (current : Ledger) (senderIp : InAddr) (result : DbRecordResponse) : Prop :=
  result.statusCode.rereads = true →
    senderIp ∈ current.records ∧ current.lastRequestOf senderIp = result.record.lastRequest

/-- What the record is needed for is not disturbed. -/
theorem Rereadable.of_undisturbed {current current' : Ledger} {senderIp : InAddr}
    {result : DbRecordResponse} (h : Rereadable current senderIp result)
    (hquiet : Undisturbed senderIp current current') : Rereadable current' senderIp result := by
  intro hrereads
  obtain ⟨hmem, hnumber⟩ := h hrereads
  exact ⟨hquiet.stays hmem, hquiet.number.trans hnumber⟩

/-- The answer of the order, or that answer with the balance that the sender has after a stretch
of the order with the handler in it. -/
def Shows (ledger : Ledger) (order : List (RequestsAction Tid)) (t : Tid) (reply : AckPacket) :
    Prop :=
  ∃ served, (serve arrivals ledger order).replies t = some served ∧
    (reply = served ∨
      ∃ stretch, stretch <+: order ∧ t ∈ stretch.filterMap RequestsAction.handler? ∧
        ∃ record, (serve arrivals ledger stretch).ledger.records.lookup (arrivals t).senderIp
            = some record ∧
          reply = { served with newBalance := record.balance })

/-- What a handler has to do with the order when it has got to some point. -/
inductive Placed (ledger : Ledger) (order : List (RequestsAction Tid)) (current : Ledger)
    (t : Tid) : Work → Prop
  | started (hnew : t ∉ order.filterMap RequestsAction.handler?) :
      Placed ledger order current t .started
  | looked (client : ClientRecord) (h : Decided arrivals ledger order current t client) :
      Placed ledger order current t (.looked client)
  | checked (client : ClientRecord) (h : Decided arrivals ledger order current t client) :
      Placed ledger order current t
        (.checked client (checkPacketStatus (arrivals t).packet client))
  | settled (result : DbRecordResponse)
      (hserved : (serve arrivals ledger order).replies t
        = some (transactionReply (arrivals t).senderIp (arrivals t).packet result))
      (hkept : Rereadable current (arrivals t).senderIp result) :
      Placed ledger order current t (.settled result)
  | replied (reply : AckPacket) (h : Shows arrivals ledger order t reply) :
      Placed ledger order current t (.replied reply)

/-- The order of what has happened so far. -/
structure Handling.Serialised (ledger : Ledger) (s : Handling Tid)
    (order : List (RequestsAction Tid)) : Prop where
  left : (serve arrivals ledger order).ledger = s.ledger
  once : (order.filterMap RequestsAction.handler?).Nodup
  placed : ∀ t, Placed arrivals ledger order s.ledger t (s.work t)
  apart : ∀ t u, (s.work t).active = true → (s.work u).active = true →
    (arrivals t).senderIp = (arrivals u).senderIp → t = u

variable {arrivals} {ledger current current' : Ledger} {order : List (RequestsAction Tid)}
  {action : RequestsAction Tid} {t u : Tid} {client : ClientRecord} {work : Work}

/-- What happens next answers no other handler. -/
theorem replies_snoc (h : action.handler? ≠ some u) :
    (serve arrivals ledger (order ++ [action])).replies u
      = (serve arrivals ledger order).replies u := by
  rw [serve_snoc]
  cases action with
  | handler t =>
      have hut : u ≠ t := fun heq => h (congrArg some heq.symm)
      exact Function.update_of_ne hut ..
  | register clientIp => rfl
  | remove clientIp => rfl

omit [DecidableEq Tid] in
/-- One more action, and its handler if it has one. -/
theorem handlers_snoc (order : List (RequestsAction Tid)) (action : RequestsAction Tid) :
    (order ++ [action]).filterMap RequestsAction.handler?
      = order.filterMap RequestsAction.handler? ++ action.handler?.toList := by
  rw [List.filterMap_append]
  cases action <;> rfl

omit [DecidableEq Tid] in
/-- A handler that is not the one of the action is not put in the order by it. -/
theorem notMem_snoc (h : action.handler? ≠ some u)
    (hnew : u ∉ order.filterMap RequestsAction.handler?) :
    u ∉ (order ++ [action]).filterMap RequestsAction.handler? := by
  rw [handlers_snoc, List.mem_append, Option.mem_toList]
  exact not_or.mpr ⟨hnew, h⟩

/-- A handler that has an answer is in the order. -/
theorem handler_mem_of_replies {reply : AckPacket}
    (h : (serve arrivals ledger order).replies t = some reply) :
    t ∈ order.filterMap RequestsAction.handler? := by
  induction order using List.reverseRecOn with
  | nil => cases h
  | append_singleton order action ih =>
      rw [handlers_snoc, List.mem_append]
      by_cases haction : action.handler? = some t
      · exact Or.inr (Option.mem_toList.mpr haction)
      · rw [replies_snoc haction] at h
        exact Or.inl (ih h)

/-- An answer is explained once and for all. -/
theorem Shows.snoc {reply : AckPacket} (h : Shows arrivals ledger order u reply)
    (hother : action.handler? ≠ some u) : Shows arrivals ledger (order ++ [action]) u reply := by
  obtain ⟨served, hserved, hreply⟩ := h
  refine ⟨served, (replies_snoc hother).trans hserved, hreply.imp_right ?_⟩
  rintro ⟨stretch, hstretch, hin, hrecord⟩
  exact ⟨stretch, hstretch.trans (List.prefix_append ..), hin, hrecord⟩

/-- **The others stay in their places**, as long as their clients are left alone. -/
theorem Placed.snoc (h : Placed arrivals ledger order current u work)
    (hother : action.handler? ≠ some u)
    (hquiet : work.active = true → Undisturbed (arrivals u).senderIp current current') :
    Placed arrivals ledger (order ++ [action]) current' u work := by
  have hdecided : ∀ client, Decided arrivals ledger order current u client →
      work.active = true → Decided arrivals ledger (order ++ [action]) current' u client := by
    rintro client (⟨hvalid, hnew, hnumber⟩ | ⟨hstatus, hreply⟩) hwork
    · exact Or.inl ⟨hvalid, notMem_snoc hother hnew, (hquiet hwork).number.trans hnumber⟩
    · refine Or.inr ⟨hstatus, ?_⟩
      rw [replies_snoc hother, hreply, replyTo_reply hstatus]
  cases h with
  | started hnew => exact .started (notMem_snoc hother hnew)
  | looked client h => exact .looked client (hdecided client h rfl)
  | checked client h => exact .checked client (hdecided client h rfl)
  | settled result hserved hkept =>
      exact .settled result ((replies_snoc hother).trans hserved)
        (hkept.of_undisturbed (hquiet rfl))
  | replied reply h => exact .replied reply (h.snoc hother)

/-- Whole handlers that are run next. -/
theorem serve_handler (hleft : (serve arrivals ledger order).ledger = current) (t : Tid) :
    (serve arrivals ledger (order ++ [.handler t])).ledger
        = (processReqPacket (arrivals t).senderIp (arrivals t).packet current).ledger ∧
      (serve arrivals ledger (order ++ [.handler t])).replies t
        = some (processReqPacket (arrivals t).senderIp (arrivals t).packet current).reply := by
  rw [serve_snoc, ← hleft]
  exact ⟨rfl, Function.update_self ..⟩

variable {s s' : Handling Tid}

/-- Nobody else is at work for the client of a handler that is. -/
theorem Handling.Serialised.apart_update (h : s.Serialised arrivals ledger order)
    (hwork : work.active = true → s.Alone arrivals t) (u v : Tid)
    (hu : (Function.update s.work t work u).active = true)
    (hv : (Function.update s.work t work v).active = true)
    (hsame : (arrivals u).senderIp = (arrivals v).senderIp) : u = v := by
  by_cases hut : u = t
  · by_cases hvt : v = t
    · exact hut.trans hvt.symm
    · rw [hut, Function.update_self] at hu
      rw [Function.update_of_ne hvt] at hv
      rw [hut] at hsame ⊢
      rcases hwork hu with hmine | hnone
      · exact h.apart t v hmine hv hsame
      · exact absurd (hv.symm.trans (hnone v hsame.symm)) (by decide)
  · rw [Function.update_of_ne hut] at hu
    by_cases hvt : v = t
    · rw [hvt, Function.update_self] at hv
      rw [hvt] at hsame ⊢
      rcases hwork hv with hmine | hnone
      · exact h.apart u t hu hmine hsame
      · exact absurd (hu.symm.trans (hnone u hsame)) (by decide)
    · rw [Function.update_of_ne hvt] at hv
      exact h.apart u v hu hv hsame

/-- A handler goes on, and nothing else changes. -/
theorem Handling.Serialised.moves (h : s.Serialised arrivals ledger order)
    (hplaced : Placed arrivals ledger order s.ledger t work)
    (hwork : work.active = true → s.Alone arrivals t) :
    Handling.Serialised arrivals ledger ⟨s.ledger, Function.update s.work t work⟩ order := by
  refine ⟨h.left, h.once, fun u => ?_, h.apart_update hwork⟩
  show Placed arrivals ledger order s.ledger u (Function.update s.work t work u)
  by_cases hut : u = t
  · rw [hut, Function.update_self]
    exact hplaced
  · rw [Function.update_of_ne hut]
    exact h.placed u

/-- A handler goes on, and is put in the order. -/
theorem Handling.Serialised.serves (h : s.Serialised arrivals ledger order)
    (hnew : t ∉ order.filterMap RequestsAction.handler?)
    (hleft : (processReqPacket (arrivals t).senderIp (arrivals t).packet s.ledger).ledger = current)
    (hquiet : ∀ u, u ≠ t → (s.work u).active = true →
      Undisturbed (arrivals u).senderIp s.ledger current)
    (hplaced : Placed arrivals ledger (order ++ [.handler t]) current t work)
    (hwork : work.active = true → s.Alone arrivals t) :
    Handling.Serialised arrivals ledger ⟨current, Function.update s.work t work⟩
      (order ++ [.handler t]) := by
  refine ⟨(serve_handler h.left t).1.trans hleft, ?_, fun u => ?_, h.apart_update hwork⟩
  · rw [handlers_snoc]
    exact List.concat_eq_append ▸ h.once.concat hnew
  · show Placed arrivals ledger (order ++ [.handler t]) current u
      (Function.update s.work t work u)
    by_cases hut : u = t
    · rw [hut, Function.update_self]
      exact hplaced
    · rw [Function.update_of_ne hut]
      exact (h.placed u).snoc (fun heq => hut (Option.some.inj heq).symm) (hquiet u hut)

/-- A registration or a removal is put in the order, and leaves every handler alone whose client it
is not about. -/
theorem Handling.Serialised.others (h : s.Serialised arrivals ledger order)
    (hhandler : action.handler? = none)
    (hledger : (serve arrivals ledger (order ++ [action])).ledger = current)
    (hquiet : ∀ u, (s.work u).active = true →
      Undisturbed (arrivals u).senderIp s.ledger current) :
    Handling.Serialised arrivals ledger ⟨current, s.work⟩ (order ++ [action]) := by
  have hother : ∀ u, action.handler? ≠ some u := fun u heq => nomatch hhandler.symm.trans heq
  refine ⟨hledger, ?_, fun u => (h.placed u).snoc (hother u) (hquiet u), h.apart⟩
  rw [handlers_snoc, hhandler]
  exact (List.append_nil _).symm ▸ h.once

/-- A handler begins: it reads the record of its client, and its answer is decided if its packet is
not the next one. -/
theorem Handling.Serialised.begins (h : s.Serialised arrivals ledger order)
    (hone : s.OneInFlight arrivals (.handler t)) (hwork : s.work t = .started)
    (taken : s.step arrivals (.handler t) = some s') :
    ∃ entries, s'.Serialised arrivals ledger (order ++ entries) ∧
      entries.filter RequestsAction.isOther = [] := by
  have hplaced := h.placed t
  have hnone : ∀ u, (arrivals u).senderIp = (arrivals t).senderIp →
      (s.work u).active = false := hone (hwork ▸ rfl)
  obtain ⟨found, hfound, hreply, hledger⟩ :=
    processReqPacket_replyTo (arrivals t).senderIp (arrivals t).packet s.ledger
  rw [Handling.step, hwork] at taken
  rw [hwork] at hplaced
  cases taken
  cases hplaced with
  | started hnew =>
      rw [← hfound]
      by_cases hvalid : checkPacketStatus (arrivals t).packet found = .valid
      · refine ⟨[], ?_, rfl⟩
        rw [List.append_nil]
        refine h.moves (.looked found (Or.inl ⟨hvalid, hnew, ?_⟩)) fun _ => Or.inr hnone
        rw [Ledger.lastRequestOf, hfound]
      · refine ⟨_, h.serves hnew (hledger.trans (replyTo_ledger hvalid))
          (fun u _ _ => .refl _ _) (.looked found (Or.inr ⟨hvalid, ?_⟩))
          fun _ => Or.inr hnone, rfl⟩
        rw [(serve_handler h.left t).2, hreply]

/-- A handler acts on what its check has come to: it makes its transaction, or has its answer. -/
theorem Handling.Serialised.acts (h : s.Serialised arrivals ledger order) {status : PacketStatus}
    (hwork : s.work t = .checked client status)
    (taken : s.step arrivals (.handler t) = some s') :
    ∃ entries, s'.Serialised arrivals ledger (order ++ entries) ∧
      entries.filter RequestsAction.isOther = [] := by
  have hplaced := h.placed t
  rw [Handling.step, hwork] at taken
  rw [hwork] at hplaced
  cases hplaced with
  | checked _ hdecided =>
      rcases hdecided with ⟨hvalid, hnew, hnumber⟩ | ⟨hstatus, hdone⟩
      · -- the record has been read some time ago, but its number is still the same
        obtain ⟨found, hfound, hreply, hledger⟩ :=
          processReqPacket_replyTo (arrivals t).senderIp (arrivals t).packet s.ledger
        have hvalid' : checkPacketStatus (arrivals t).packet found = .valid := by
          rw [← hvalid]
          refine checkPacketStatus_congr (Eq.trans ?_ hnumber)
          rw [Ledger.lastRequestOf, hfound]
        rw [hvalid'] at hreply hledger
        rw [hvalid] at taken
        cases taken
        refine ⟨_, h.serves hnew hledger (fun u hut hu => .transfer fun hsame => ?_)
          (.settled _ ?_ fun hrereads => ?_) fun _ => Or.inl (hwork ▸ rfl), rfl⟩
        · refine hut (h.apart u t hu ?_ hsame)
          rw [hwork]
          rfl
        · rw [(serve_handler h.left t).2, hreply]
          rfl
        · have hlookup := lookup_transfer_of_rereads hrereads
          exact ⟨Finmap.mem_of_lookup_eq_some hlookup, lastRequestOf_of_lookup hlookup⟩
      · rw [Work.step, if_neg hstatus] at taken
        cases taken
        refine ⟨[], ?_, rfl⟩
        rw [List.append_nil]
        exact h.moves (.replied _ ⟨_, hdone, Or.inl rfl⟩)
          fun hactive => absurd hactive Bool.false_ne_true

/-- A handler whose transaction is made writes its answer, from a record that it reads once more if
it is about one. -/
theorem Handling.Serialised.writes (h : s.Serialised arrivals ledger order)
    {result : DbRecordResponse} (hwork : s.work t = .settled result)
    (taken : s.step arrivals (.handler t) = some s') : s'.Serialised arrivals ledger order := by
  have hplaced := h.placed t
  rw [Handling.step, hwork] at taken
  rw [hwork] at hplaced
  cases hplaced with
  | settled _ hserved hkept =>
      by_cases hrereads : result.statusCode.rereads = true
      · -- the sender's record may be another one by now, up to its number
        obtain ⟨hmem, hnumber⟩ := hkept hrereads
        obtain ⟨record, hrecord⟩ := Finmap.mem_iff.mp hmem
        rw [lastRequestOf_of_lookup hrecord] at hnumber
        rw [Work.step, reread, if_pos hrereads, hrecord] at taken
        cases taken
        refine h.moves (.replied _ ⟨_, hserved, Or.inr ⟨order, List.prefix_rfl,
          handler_mem_of_replies hserved, record, ?_,
          transactionReply_record hrereads hnumber⟩⟩)
          fun hactive => absurd hactive Bool.false_ne_true
        rw [h.left]
        exact hrecord
      · rw [Work.step, reread, if_neg hrereads] at taken
        cases taken
        exact h.moves (.replied _ ⟨_, hserved, Or.inl rfl⟩)
          fun hactive => absurd hactive Bool.false_ne_true

/-- **One step.**

Registrations and removals are put in the order as they come.  A handler is put in at the step at
which its answer is decided, up to the balance: when it makes its transaction, or when it reads a
record for which its packet is not the next one. -/
theorem Handling.Serialised.step (h : s.Serialised arrivals ledger order)
    (hone : s.OneInFlight arrivals action) (taken : s.step arrivals action = some s') :
    ∃ entries, s'.Serialised arrivals ledger (order ++ entries) ∧
      entries.filter RequestsAction.isOther = [action].filter RequestsAction.isOther := by
  cases action with
  | register clientIp =>
      cases taken
      refine ⟨[.register clientIp], h.others rfl ?_ fun u _ => .register clientIp, rfl⟩
      rw [serve_snoc]
      exact congrArg (fun ledger : Ledger => (ledger.register clientIp).2) h.left
  | remove clientIp =>
      cases taken
      refine ⟨[.remove clientIp], h.others rfl ?_ fun u hwork => .remove fun heq => ?_, rfl⟩
      · rw [serve_snoc]
        exact congrArg (fun ledger : Ledger => (ledger.remove clientIp).2) h.left
      · exact absurd (hwork.symm.trans (hone u heq)) (by decide)
  | handler t =>
      cases hwork : s.work t with
      | started => exact h.begins hone hwork taken
      | looked client =>
          have hplaced := h.placed t
          rw [Handling.step, hwork] at taken
          rw [hwork] at hplaced
          cases taken
          cases hplaced with
          | looked _ hdecided =>
              refine ⟨[], ?_, rfl⟩
              rw [List.append_nil]
              exact h.moves (.checked client hdecided) fun _ => Or.inl (hwork ▸ rfl)
      | checked client status => exact h.acts hwork taken
      | settled result => exact ⟨[], (List.append_nil order).symm ▸ h.writes hwork taken, rfl⟩
      | replied reply =>
          rw [Handling.step, hwork] at taken
          cases taken

/-- No handler has begun, and nothing is in the order. -/
theorem Handling.serialised_start (ledger : Ledger) :
    (Handling.start ledger).Serialised arrivals ledger [] where
  left := rfl
  once := List.nodup_nil
  placed _ := .started List.not_mem_nil
  apart _ _ hwork := absurd hwork Bool.false_ne_true

/-- **Runs.**  The order is continued, by the same registrations and removals in their order. -/
theorem Handling.Serialised.exists_more (h : s.Serialised arrivals ledger order)
    {more : List (RequestsAction Tid)}
    (run : Runs (Handling.step arrivals) (Handling.OneInFlight arrivals) s more s') :
    ∃ entries, s'.Serialised arrivals ledger (order ++ entries) ∧
      entries.filter RequestsAction.isOther = more.filter RequestsAction.isOther := by
  induction run with
  | nil => exact ⟨[], by rwa [List.append_nil], rfl⟩
  | snoc _ hone taken ih =>
      obtain ⟨entries, h', hothers⟩ := ih
      obtain ⟨entries', hnext, hothers'⟩ := h'.step hone taken
      rw [List.append_assoc] at hnext
      refine ⟨entries ++ entries', hnext, ?_⟩
      rw [List.filter_append, List.filter_append, hothers, hothers']

/-- What has been done by handlers at work together, explained by an order of whole handlers: it
leaves their ledger and gives their answers, up to the balance that an answer shows; no handler is
in it twice, or before it has begun; and clients register and leave as they did. -/
structure Handling.Explained (arrivals : Tid → Arrival) (ledger : Ledger)
    (actions : List (RequestsAction Tid)) (s : Handling Tid) (order : List (RequestsAction Tid)) :
    Prop where
  left : (serve arrivals ledger order).ledger = s.ledger
  answers : ∀ t reply, s.work t = .replied reply → Shows arrivals ledger order t reply
  once : (order.filterMap RequestsAction.handler?).Nodup
  begun : ∀ t ∈ order.filterMap RequestsAction.handler?, s.work t ≠ .started
  others : order.filter RequestsAction.isOther = actions.filter RequestsAction.isOther

/-- What an invariant says about handlers that have answered. -/
theorem Handling.Serialised.explained (h : s.Serialised arrivals ledger order)
    {actions : List (RequestsAction Tid)}
    (hothers : order.filter RequestsAction.isOther = actions.filter RequestsAction.isOther) :
    Handling.Explained arrivals ledger actions s order where
  left := h.left
  answers t reply hwork := by
    have hplaced := h.placed t
    rw [hwork] at hplaced
    cases hplaced with
    | replied _ hreply => exact hreply
  once := h.once
  begun t hmem hwork := by
    have hplaced := h.placed t
    rw [hwork] at hplaced
    cases hplaced with
    | started hnew => exact hnew hmem
  others := hothers

end System

/-! ## Two clients at once -/

/-- Client 1 sends 40 to client 2, and client 2 sends 30 to client 1. -/
def crossingRequests : Bool → Arrival
  | false => ⟨1, ⟨1, 2, 40⟩⟩
  | true => ⟨2, ⟨1, 1, 30⟩⟩

/-- Both have read their records; a third client registers, and the first transfer is made. -/
def bothReading : List (RequestsAction Bool) :=
  [.handler false, .handler true, .register 3, .handler true, .handler false, .handler false]

/-- The second request goes all the way, and only then is the record of the first one read. -/
def thenTheOther : List (RequestsAction Bool) :=
  [.remove 3, .handler true, .handler true, .handler false]

/-- What was answered about the balance. -/
def Work.balance? : Work → Option UInt64
  | .replied reply => some reply.newBalance
  | _ => none

end Brix
