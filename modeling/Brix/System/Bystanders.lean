import Brix.System.Replication

/-!
# What others do meanwhile

While a client waits for an answer, the server serves others: they pay, are paid, register and
leave.  `Bystander` is an operation of somebody else, with the proof that it is; `meanwhile` is
what a sequence of them makes of a ledger.

The ledger a client meets at its next attempt depends on what it has done itself, but through
very little: the numbers of its own requests are looked at by nobody else, and neither are the
totals.  `Ledger.Alike` is equality up to these.  It is what carries the proofs about one client
among many, because every operation of a bystander keeps it (`Alike.handle`), every attempt of
the client that moves no money keeps it (`alike_of_no_success`), and it is fine enough to tell
whether a transfer is covered (`Alike.covers_iff`).
-/

namespace Brix

/-- Whose operation it is. -/
def Operation.clientIp : Operation → InAddr
  | .request senderIp _ => senderIp
  | .kill senderIp _ => senderIp
  | .discover clientIp => clientIp

/-- An operation of somebody else than the client. -/
structure Bystander (clientIp : InAddr) where
  operation : Operation
  other : operation.clientIp ≠ clientIp

/-- What others make of a ledger, one operation after the other. -/
def meanwhile {clientIp : InAddr} (ledger : Ledger) (bystanders : List (Bystander clientIp)) :
    Ledger :=
  bystanders.foldl (fun ledger bystander => (bystander.operation.handle ledger).1) ledger

namespace Ledger

/-- The ledgers agree about everybody but for the number of the client's last request. -/
structure Alike (clientIp : InAddr) (ledger ledger' : Ledger) : Prop where
  others : ∀ ip, ip ≠ clientIp → ledger'.records.lookup ip = ledger.records.lookup ip
  client : (ledger'.records.lookup clientIp).map ClientRecord.balance
    = (ledger.records.lookup clientIp).map ClientRecord.balance

section Alike

variable {clientIp : InAddr} {ledger ledger' ledger'' : Ledger} {ip senderIp receiverIp : InAddr}
  {amount : UInt64} {record sender receiver : ClientRecord}

/-- A ledger is like itself. -/
theorem Alike.refl (ledger : Ledger) : Alike clientIp ledger ledger := ⟨fun _ _ => rfl, rfl⟩

/-- What is like a ledger that is like a third one is like the third one. -/
theorem Alike.trans (h : Alike clientIp ledger ledger') (h' : Alike clientIp ledger' ledger'') :
    Alike clientIp ledger ledger'' :=
  ⟨fun ip hip => (h'.others ip hip).trans (h.others ip hip), h'.client.trans h.client⟩

/-- Whoever has a record has one in the other ledger too, with the same balance. -/
theorem Alike.lookup (h : Alike clientIp ledger ledger')
    (hrecord : ledger.records.lookup ip = some record) :
    ∃ record', ledger'.records.lookup ip = some record' ∧ record'.balance = record.balance ∧
      (ip ≠ clientIp → record' = record) := by
  by_cases hip : ip = clientIp
  · subst hip
    have hclient := h.client
    rw [hrecord] at hclient
    obtain ⟨record', hrecord', hbalance⟩ := Option.map_eq_some_iff.mp hclient
    exact ⟨record', hrecord', hbalance, fun hne => absurd rfl hne⟩
  · exact ⟨record, (h.others ip hip).trans hrecord, rfl, fun _ => rfl⟩

/-- Whoever has no record in the one has none in the other. -/
theorem Alike.lookup_eq_none (h : Alike clientIp ledger ledger') :
    ledger'.records.lookup ip = none ↔ ledger.records.lookup ip = none := by
  by_cases hip : ip = clientIp
  · subst hip
    rw [← Option.map_eq_none_iff (f := ClientRecord.balance), h.client, Option.map_eq_none_iff]
  · rw [h.others ip hip]

/-- The same clients are registered. -/
theorem Alike.mem_iff (h : Alike clientIp ledger ledger') :
    ip ∈ ledger'.records ↔ ip ∈ ledger.records := by
  rw [← not_iff_not, ← Finmap.lookup_eq_none, ← Finmap.lookup_eq_none]
  exact h.lookup_eq_none

/-- The two ledgers cover the same transfers of the client. -/
theorem Alike.covers_iff (h : Alike clientIp ledger ledger') :
    ledger'.Covers clientIp receiverIp amount ↔ ledger.Covers clientIp receiverIp amount := by
  have hfunds : (∃ sender, ledger'.records.lookup clientIp = some sender ∧
      amount ≤ sender.balance) ↔
      ∃ sender, ledger.records.lookup clientIp = some sender ∧ amount ≤ sender.balance := by
    have hclient := h.client
    cases hlookup : ledger.records.lookup clientIp with
    | none =>
        rw [h.lookup_eq_none.mpr hlookup]
    | some sender =>
        obtain ⟨sender', hsender', hbalance, -⟩ := h.lookup hlookup
        rw [hsender']
        simp [hbalance]
  unfold Covers
  rw [h.mem_iff, hfunds]

/-! ## What keeps two ledgers alike -/

/-- A request of the client's own that moves no money. -/
theorem alike_of_no_success
    (hstatus : (ledger.transfer clientIp receiverIp amount).1.statusCode ≠ .success) :
    Alike clientIp ledger (ledger.transfer clientIp receiverIp amount).2 := by
  rcases ledger.transfer_cases clientIp receiverIp amount with ⟨-, -, -, hsame⟩ |
    ⟨-, sender, _, hsender, -, -, -, heq⟩ | ⟨hcovers, -⟩
  · rw [hsame]
    exact .refl ledger
  · rw [heq]
    refine ⟨fun ip hip => ?_, ?_⟩
    · rw [lookup_counted hsender, if_neg hip]
    · rw [lookup_counted hsender, if_pos rfl, hsender]
      rfl
  · exact absurd (transfer_success_iff.mpr hcovers) hstatus

/-- The client's own transfer, made in both. -/
theorem Alike.pay (h : Alike clientIp ledger ledger')
    (hcovers : ledger.Covers clientIp receiverIp amount) :
    Alike clientIp (ledger.transfer clientIp receiverIp amount).2
      (ledger'.transfer clientIp receiverIp amount).2 := by
  obtain ⟨hzero, hself, hmem, sender, hsender, henough⟩ := hcovers
  obtain ⟨receiver, hreceiver⟩ := Finmap.mem_iff.mp hmem
  obtain ⟨sender', hsender', hbalance, -⟩ := h.lookup hsender
  have hreceiver' : ledger'.records.lookup receiverIp = some receiver :=
    (h.others receiverIp hself.symm).trans hreceiver
  rw [transfer_success hsender hzero hself hreceiver (UInt64.not_lt.mpr henough),
    transfer_success hsender' hzero hself hreceiver'
      (UInt64.not_lt.mpr (hbalance ▸ henough))]
  refine ⟨fun ip hip => ?_, ?_⟩
  · rw [lookup_settled hsender hreceiver, lookup_settled hsender' hreceiver', if_neg hip,
      if_neg hip, h.others ip hip]
  · rw [lookup_settled hsender hreceiver, lookup_settled hsender' hreceiver', if_neg hself,
      if_pos rfl, if_neg hself, if_pos rfl]
    show some (sender'.balance - amount) = some (sender.balance - amount)
    rw [hbalance]

/-- Somebody else's transfer, to the client perhaps. -/
theorem Alike.transfer (h : Alike clientIp ledger ledger') (hother : senderIp ≠ clientIp) :
    Alike clientIp (ledger.transfer senderIp receiverIp amount).2
      (ledger'.transfer senderIp receiverIp amount).2 := by
  have hlookup := h.others senderIp hother
  cases hsender : ledger.records.lookup senderIp with
  | none =>
      rw [transfer_unknownSender hsender, transfer_unknownSender (hlookup.trans hsender)]
      exact h
  | some sender =>
      have hsender' := hlookup.trans hsender
      by_cases hzero : amount = 0
      · rw [hzero, transfer_balanceCheck hsender, transfer_balanceCheck hsender']
        exact h
      by_cases hself : senderIp = receiverIp
      · rw [← hself, transfer_self hsender hzero, transfer_self hsender' hzero]
        exact h
      cases hreceiver : ledger.records.lookup receiverIp with
      | none =>
          rw [transfer_unknownReceiver hsender hzero hself hreceiver,
            transfer_unknownReceiver hsender' hzero hself (h.lookup_eq_none.mpr hreceiver)]
          exact h
      | some receiver =>
          obtain ⟨receiver', hreceiver', hbalance, hsame⟩ := h.lookup hreceiver
          by_cases hshort : sender.balance < amount
          · rw [transfer_insufficient hsender hself hreceiver hshort,
              transfer_insufficient hsender' hself hreceiver' hshort]
            -- only the sender's count moves, and the sender is not the client
            refine ⟨fun ip hip => ?_, ?_⟩
            · rw [lookup_counted hsender, lookup_counted hsender', h.others ip hip]
            · rw [lookup_counted hsender, lookup_counted hsender', if_neg hother.symm,
                if_neg hother.symm, h.client]
          · rw [transfer_success hsender hzero hself hreceiver hshort,
              transfer_success hsender' hzero hself hreceiver' hshort]
            -- the client may be paid: both balances grow by the same amount
            refine ⟨fun ip hip => ?_, ?_⟩
            · rw [lookup_settled hsender hreceiver, lookup_settled hsender' hreceiver',
                h.others ip hip]
              by_cases hreceives : ip = receiverIp
              · rw [if_pos hreceives, if_pos hreceives, hsame (hreceives ▸ hip)]
              · rw [if_neg hreceives, if_neg hreceives]
            · rw [lookup_settled hsender hreceiver, lookup_settled hsender' hreceiver']
              by_cases hreceives : clientIp = receiverIp
              · rw [if_pos hreceives, if_pos hreceives]
                show some (receiver'.balance + amount) = some (receiver.balance + amount)
                rw [hbalance]
              · rw [if_neg hreceives, if_neg hreceives, if_neg hother.symm, if_neg hother.symm,
                  h.client]

/-- To register a client leaves the others alone. -/
theorem lookup_register_of_ne (ledger : Ledger) {ip' : InAddr} (hne : ip ≠ ip') :
    (ledger.register ip').2.records.lookup ip = ledger.records.lookup ip := by
  unfold register
  split
  · rfl
  · exact Finmap.lookup_insert_of_ne _ hne

/-- To register a client twice does nothing. -/
theorem register_of_mem (hmem : ip ∈ ledger.records) : (ledger.register ip).2 = ledger := by
  rw [register, if_pos hmem]

/-- A new client has the starting balance. -/
theorem lookup_register_new (hnew : ip ∉ ledger.records) :
    (ledger.register ip).2.records.lookup ip = some (newClient ip) := by
  rw [register, if_neg hnew]
  exact Finmap.lookup_insert _

/-- A registration, of the client perhaps. -/
theorem Alike.register (h : Alike clientIp ledger ledger') (ip : InAddr) :
    Alike clientIp (ledger.register ip).2 (ledger'.register ip).2 := by
  by_cases hmem : ip ∈ ledger.records
  · rw [register_of_mem hmem, register_of_mem (h.mem_iff.mpr hmem)]
    exact h
  have hnew : (ledger.register ip).2.records.lookup ip = some (newClient ip) :=
    lookup_register_new hmem
  have hnew' : (ledger'.register ip).2.records.lookup ip = some (newClient ip) :=
    lookup_register_new (mt h.mem_iff.mp hmem)
  refine ⟨fun ip' hip' => ?_, ?_⟩
  · by_cases hsame : ip' = ip
    · rw [hsame, hnew, hnew']
    · rw [lookup_register_of_ne ledger hsame, lookup_register_of_ne ledger' hsame,
        h.others ip' hip']
  · by_cases hsame : clientIp = ip
    · rw [hsame, hnew, hnew']
    · rw [lookup_register_of_ne ledger hsame, lookup_register_of_ne ledger' hsame, h.client]

/-- Who has left is not there. -/
theorem lookup_remove_self (ledger : Ledger) (ip : InAddr) :
    (ledger.remove ip).2.records.lookup ip = none := by
  cases hlookup : ledger.records.lookup ip with
  | none => rw [remove_notFound hlookup, hlookup]
  | some record =>
      rw [remove_success hlookup]
      exact Finmap.lookup_eq_none.mpr Finmap.notMem_erase_self

/-- Somebody else's departure. -/
theorem Alike.remove (h : Alike clientIp ledger ledger') (hother : ip ≠ clientIp) :
    Alike clientIp (ledger.remove ip).2 (ledger'.remove ip).2 := by
  refine ⟨fun ip' hip' => ?_, ?_⟩
  · by_cases hsame : ip' = ip
    · rw [hsame, lookup_remove_self, lookup_remove_self]
    · rw [lookup_remove_of_ne hsame, lookup_remove_of_ne hsame, h.others ip' hip']
  · rw [lookup_remove_of_ne hother.symm, lookup_remove_of_ne hother.symm, h.client]

/-- Somebody else's request: both servers find the same record, and so they do the same. -/
theorem Alike.request (h : Alike clientIp ledger ledger') (hother : senderIp ≠ clientIp)
    (packet : ReqPacket) :
    Alike clientIp (processReqPacket senderIp packet ledger).ledger
      (processReqPacket senderIp packet ledger').ledger := by
  obtain ⟨client, hclient, -, hledger⟩ := processReqPacket_replyTo senderIp packet ledger
  obtain ⟨client', hclient', -, hledger'⟩ := processReqPacket_replyTo senderIp packet ledger'
  have hsame : client' = client := by
    have hlookup : ledger'.toDbManager.databaseRecords.lookup senderIp
        = ledger.toDbManager.databaseRecords.lookup senderIp := h.others senderIp hother
    rw [hclient, hclient', DbManager.getClientInfo, DbManager.getClientInfo, hlookup]
  rw [hledger, hledger', hsame]
  cases checkPacketStatus packet client with
  | valid => exact h.transfer hother
  | duplicate => exact h
  | outOfOrder => exact h
  | noClue => exact h

/-- **Any operation of a bystander.** -/
theorem Alike.handle (h : Alike clientIp ledger ledger') (bystander : Bystander clientIp) :
    Alike clientIp (bystander.operation.handle ledger).1
      (bystander.operation.handle ledger').1 := by
  obtain ⟨operation, hother⟩ := bystander
  cases operation with
  | request senderIp packet => exact h.request hother packet
  | kill senderIp packet => exact h.remove hother
  | discover ip => exact h.register ip

end Alike

end Ledger

section Meanwhile

variable {clientIp : InAddr} {ledger : Ledger}

/-- First the one sequence and then the other. -/
theorem meanwhile_append (ledger : Ledger) (early late : List (Bystander clientIp)) :
    meanwhile ledger (early ++ late) = meanwhile (meanwhile ledger early) late :=
  List.foldl_append ..

/-- Requests neither register anybody nor remove anybody. -/
theorem mem_processReqPacket (senderIp : InAddr) (packet : ReqPacket) (ledger : Ledger) :
    clientIp ∈ (processReqPacket senderIp packet ledger).ledger.records ↔
      clientIp ∈ ledger.records := by
  rcases processReqPacket_cases senderIp packet ledger with ⟨hledger, -⟩ | ⟨hledger, -⟩
  · rw [hledger]
  · rw [hledger]
    exact Ledger.mem_transfer

/-- A KIL packet removes its sender, and nobody else. -/
theorem mem_processKillPacket (senderIp : InAddr) (packet : KilPacket) (ledger : Ledger) :
    clientIp ∈ (processKillPacket senderIp packet ledger).ledger.records ↔
      senderIp ≠ clientIp ∧ clientIp ∈ ledger.records := by
  show clientIp ∈ (ledger.remove senderIp).2.records ↔ _
  by_cases hsame : senderIp = clientIp
  · subst hsame
    exact iff_of_false (Finmap.lookup_eq_none.mp (ledger.lookup_remove_self senderIp))
      fun h => h.1 rfl
  · rw [and_iff_right hsame, Finmap.mem_iff, Finmap.mem_iff,
      Ledger.lookup_remove_of_ne (Ne.symm hsame)]

/-- Bystanders neither register the client nor remove it. -/
theorem mem_handle_bystander (bystander : Bystander clientIp) :
    clientIp ∈ (bystander.operation.handle ledger).1.records ↔ clientIp ∈ ledger.records := by
  obtain ⟨operation, hother⟩ := bystander
  cases operation with
  | request senderIp packet => exact mem_processReqPacket senderIp packet ledger
  | kill senderIp packet =>
      exact (mem_processKillPacket senderIp packet ledger).trans (and_iff_right hother)
  | discover ip => exact Ledger.mem_register.trans (or_iff_right (Ne.symm hother))

/-- Others neither register the client nor remove it. -/
theorem mem_meanwhile (bystanders : List (Bystander clientIp)) :
    clientIp ∈ (meanwhile ledger bystanders).records ↔ clientIp ∈ ledger.records := by
  induction bystanders generalizing ledger with
  | nil => exact Iff.rfl
  | cons bystander rest ih => exact ih.trans (mem_handle_bystander bystander)

end Meanwhile

end Brix
