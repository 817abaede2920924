import Brix.Server.Multiplexer
import Brix.Server.Sequencing
import Brix.Server.Synchronizer

/-!
# A coordinator and a backup

The operations a coordinator handles, one at a time: REQ packets, KIL packets and
discovery requests.  `Operation.handle` gives what an operation does to the ledger and
what is sent for it, in the order of the source.  The three handlers do not agree on that
order: the REQ handler broadcasts before it answers, the other two afterwards.  Nor do
they agree on when to broadcast: the REQ handler goes by the text of its answer, and a
transfer that was counted but not covered is no `SUCCESS`.

`in_step_iff` says when a backup that receives every broadcast is in step with the
coordinator after every operation.

### The design

A snapshot is broadcast as a text, and the text depends on the order in which an unordered map is
gone through.  `Broadcasts` leaves the order open, for each snapshot anew, and the backup's ledger
does not depend on it.  What a broadcast does at the other end is asked of `listenForUpdates`,
which reads the text; that the two agree is the round trip of `Brix.Server.Snapshot`, under
`Fits`.

### What is load-bearing

`Operation.handle_cases`: an operation that broadcasts shows the ledger that it leaves, and one
that does not changes something exactly if it overdraws.  The rest is an induction over the
operations.  It is an equivalence because a backup that has missed a change is a backup with
another ledger, and stays out of step at that operation whatever comes later.
-/

namespace Brix

open Text Execution

/-- What a coordinator handles. -/
inductive Operation
  | request (senderIp : InAddr) (packet : ReqPacket)
  | kill (senderIp : InAddr) (packet : KilPacket)
  | discover (clientIp : InAddr)

/-- Something to send: an answer, or a snapshot to everybody. -/
inductive Duty
  | ack (packet : AckPacket)
  | loc
  | update (snapshot : DbSnapshot)

/-- What an operation does to the ledger, and what is sent for it. -/
def Operation.handle (ledger : Ledger) : Operation → Ledger × List Duty
  | .request senderIp packet =>
      let handled := processReqPacket senderIp packet ledger
      (handled.ledger, (handled.update.map Duty.update).toList ++ [.ack handled.reply])
  | .kill senderIp packet =>
      let handled := processKillPacket senderIp packet ledger
      (handled.ledger, .ack handled.reply :: (handled.update.map Duty.update).toList)
  | .discover clientIp =>
      let ledger' := (ledger.register clientIp).2
      (ledger', [.loc, .update ledger'.toDbManager.getDbSnapshot])

/-- The answer is a positive one: `SUCCESS`, `KILL`, or `LOC` to a new client. -/
def Operation.Positive (ledger : Ledger) : Operation → Prop
  | .request senderIp packet =>
      (processReqPacket senderIp packet ledger).reply.result = "SUCCESS".toList
  | .kill senderIp packet =>
      (processKillPacket senderIp packet ledger).reply.result = "KILL".toList
  | .discover clientIp => clientIp ∉ ledger.records

/-- A REQ packet that is the sender's next one and asks for more than the sender has. -/
def Operation.Overdraws (ledger : Ledger) : Operation → Prop
  | .request senderIp packet =>
      ∃ client, ledger.records.lookup senderIp = some client ∧
        checkPacketStatus packet client = .valid ∧ senderIp ≠ packet.receiverIp ∧
        packet.receiverIp ∈ ledger.records ∧ client.balance < packet.transferAmount
  | _ => False

/-! ## What an operation does -/

section Handle

variable {ledger : Ledger} {senderIp : InAddr}

/-- A request whose answer is no `SUCCESS` changes the ledger exactly if it overdraws. -/
theorem processReqPacket_ne_iff (senderIp : InAddr) (packet : ReqPacket) (ledger : Ledger) :
    ((processReqPacket senderIp packet ledger).reply.result ≠ "SUCCESS".toList ∧
        (processReqPacket senderIp packet ledger).ledger ≠ ledger) ↔
      (Operation.request senderIp packet).Overdraws ledger := by
  cases hclient : ledger.records.lookup senderIp with
  | none =>
      refine iff_of_false ?_ fun ⟨client, hlookup, _⟩ => ?_
      · rintro ⟨-, hchanged⟩
        refine hchanged ?_
        rcases processReqPacket_cases senderIp packet ledger with ⟨hledger, -⟩ | ⟨hledger, -⟩
        · exact hledger
        · rw [hledger, Ledger.transfer_unknownSender hclient]
      · rw [hclient] at hlookup
        cases hlookup
  | some client =>
      obtain ⟨hreply, hledger⟩ := @processReqPacket_eq senderIp packet ledger client hclient
      -- to overdraw is to pass the sequence check and fail the balance check
      have hoverdraws : (Operation.request senderIp packet).Overdraws ledger ↔
          checkPacketStatus packet client = .valid ∧
            (ledger.transfer senderIp packet.receiverIp packet.transferAmount).1.statusCode
              = .insufficientBalance := by
        rw [Ledger.transfer_insufficient_iff]
        constructor
        · rintro ⟨client', hlookup, hvalid, hself, hmem, hshort⟩
          rw [hclient] at hlookup
          cases hlookup
          exact ⟨hvalid, client, hclient, hself, hmem, hshort⟩
        · rintro ⟨hvalid, sender, hlookup, hself, hmem, hshort⟩
          rw [hclient] at hlookup
          cases hlookup
          exact ⟨client, hclient, hvalid, hself, hmem, hshort⟩
      rw [hreply, hledger, hoverdraws]
      cases checkPacketStatus packet client with
      | valid =>
          show (transactionReply senderIp packet _).result ≠ _ ∧ _ ↔ _
          rw [ne_eq, transactionReply_success_iff]
          constructor
          · rintro ⟨hsuccess, hchanged⟩
            rcases @Ledger.transfer_counts_or_unchanged ledger senderIp packet.receiverIp
                packet.transferAmount with ⟨hcounts, -⟩ | ⟨-, hsame⟩
            · exact ⟨rfl, hcounts.resolve_left hsuccess⟩
            · exact absurd hsame hchanged
          · rintro ⟨-, hstatus⟩
            exact ⟨fun h => (nomatch h.symm.trans hstatus),
              Ledger.transfer_ne_of_counts (Or.inr hstatus)⟩
      | duplicate => exact iff_of_false (fun h => h.2 rfl) nofun
      | outOfOrder => exact iff_of_false (fun h => h.2 rfl) nofun
      | noClue => exact iff_of_false (fun h => h.2 rfl) nofun

/-- Every operation: it broadcasts the ledger that it leaves, and does not overdraw; or it
broadcasts nothing, and changes the ledger exactly if it overdraws. -/
theorem Operation.handle_cases (operation : Operation) (ledger : Ledger) :
    (Duty.update (operation.handle ledger).1.toDbManager.getDbSnapshot
        ∈ (operation.handle ledger).2 ∧ ¬ operation.Overdraws ledger) ∨
    ((∀ snapshot, Duty.update snapshot ∉ (operation.handle ledger).2) ∧
      ((operation.handle ledger).1 ≠ ledger ↔ operation.Overdraws ledger)) := by
  cases operation with
  | request senderIp packet =>
      have hchanged := processReqPacket_ne_iff senderIp packet ledger
      have hupdate : (processReqPacket senderIp packet ledger).update
          = if (processReqPacket senderIp packet ledger).reply.result = "SUCCESS".toList then
              some (processReqPacket senderIp packet ledger).ledger.toDbManager.getDbSnapshot
            else none := rfl
      simp only [handle]
      by_cases hsuccess : (processReqPacket senderIp packet ledger).reply.result
          = "SUCCESS".toList
      · rw [if_pos hsuccess] at hupdate
        rw [hupdate]
        exact Or.inl ⟨List.mem_cons_self, fun h => (hchanged.mpr h).1 hsuccess⟩
      · rw [if_neg hsuccess] at hupdate
        rw [hupdate]
        refine Or.inr ⟨by simp, fun h => hchanged.mp ⟨hsuccess, h⟩, fun h => (hchanged.mpr h).2⟩
  | kill senderIp packet =>
      simp only [handle, processKillPacket]
      cases hclient : ledger.records.lookup senderIp with
      | none =>
          rw [Ledger.remove_notFound hclient]
          exact Or.inr ⟨by simp, fun h => absurd rfl h, fun h => h.elim⟩
      | some client =>
          rw [Ledger.remove_success hclient]
          exact Or.inl ⟨List.mem_cons_of_mem _ List.mem_cons_self, id⟩
  | discover clientIp => exact Or.inl ⟨List.mem_cons_of_mem _ List.mem_cons_self, id⟩

/-- What is broadcast for an operation is the ledger that it leaves. -/
theorem Operation.eq_of_update_mem {operation : Operation} {snapshot : DbSnapshot}
    (h : Duty.update snapshot ∈ (operation.handle ledger).2) :
    snapshot = (operation.handle ledger).1.toDbManager.getDbSnapshot := by
  cases operation with
  | request senderIp packet =>
      simp only [handle, processReqPacket] at h ⊢
      split at h
      · simpa using h
      · simp at h
  | kill senderIp packet =>
      simp only [handle, processKillPacket] at h ⊢
      cases hclient : ledger.records.lookup senderIp with
      | none =>
          rw [Ledger.remove_notFound hclient] at h
          simp at h
      | some client =>
          rw [Ledger.remove_success hclient] at h ⊢
          simpa using h
  | discover clientIp => simpa [handle] using h

end Handle

/-! ## The backup -/

/-- A snapshot of the ledger survives the receiver's buffer, and its numbers the
receiver's `stoi`. -/
def Fits (ledger : Ledger) : Prop :=
  ledger.toDbManager.InStoiRange ∧ snapshotLength ledger.toDbManager ≤ MAXLINE + 3

section Backup

variable {selfIp : Text} {src : InAddr} {ledger backup : Ledger}

/-- A broadcast that fits makes the backup's ledger the coordinator's. -/
theorem Ledger.listenForUpdates_broadcastUpdate (hsrc : addrToString src ≠ selfIp)
    (hfits : Fits ledger) (order : Iteration ledger.records) (backup : Ledger) :
    backup.listenForUpdates selfIp src
      (broadcastUpdate ledger.toDbManager.getDbSnapshot order) = .ok ledger := by
  have hread : DbSnapshot.fromString
      (inBuffer MAXLINE (broadcastUpdate ledger.toDbManager.getDbSnapshot order))
        = .ok ledger.toDbManager.getDbSnapshot :=
    (congrArg DbSnapshot.fromString
        (inBuffer_broadcastUpdate ledger.toDbManager.getDbSnapshot order)).trans
      ((fromString_take_iff hfits.1 order).mpr hfits.2)
  unfold Ledger.listenForUpdates
  rw [if_pos hsrc]
  split
  · rename_i snapshot h
    cases hread.symm.trans h
    rfl
  · rename_i fault h
    cases hread.symm.trans h

/-- The backup receives snapshots, one after the other. -/
def deliver (selfIp : Text) (src : InAddr) : Ledger → List Text → Except Fault Ledger
  | backup, [] => .ok backup
  | backup, datagram :: rest => do
      let backup ← backup.listenForUpdates selfIp src datagram
      deliver selfIp src backup rest

/-- Datagrams that come in two portions. -/
theorem deliver_append (datagrams datagrams' : List Text) :
    deliver selfIp src backup (datagrams ++ datagrams')
      = (deliver selfIp src backup datagrams).bind fun backup =>
          deliver selfIp src backup datagrams' := by
  induction datagrams generalizing backup with
  | nil => rfl
  | cons datagram rest ih =>
      show (backup.listenForUpdates selfIp src datagram).bind _ = Except.bind (Except.bind _ _) _
      cases backup.listenForUpdates selfIp src datagram with
      | error fault => rfl
      | ok backup => exact ih

/-- The datagrams that are broadcast for some duties, whatever the order in which the
tables iterate. -/
inductive Broadcasts : List Duty → List Text → Prop
  | nil : Broadcasts [] []
  | ack {packet : AckPacket} {duties : List Duty} {datagrams : List Text}
      (h : Broadcasts duties datagrams) : Broadcasts (.ack packet :: duties) datagrams
  | loc {duties : List Duty} {datagrams : List Text}
      (h : Broadcasts duties datagrams) : Broadcasts (.loc :: duties) datagrams
  | update {snapshot : DbSnapshot} {duties : List Duty} {datagrams : List Text}
      (order : Iteration snapshot.records) (h : Broadcasts duties datagrams) :
      Broadcasts (.update snapshot :: duties) (broadcastUpdate snapshot order :: datagrams)

/-- What the backup makes of them. -/
theorem Broadcasts.deliver {duties : List Duty} {datagrams : List Text}
    (h : Broadcasts duties datagrams) (hsrc : addrToString src ≠ selfIp)
    (hsnapshot : ∀ snapshot, Duty.update snapshot ∈ duties →
      snapshot = ledger.toDbManager.getDbSnapshot ∧ Fits ledger) (backup : Ledger) :
    ((∃ snapshot, Duty.update snapshot ∈ duties) →
        Brix.deliver selfIp src backup datagrams = .ok ledger) ∧
      ((∀ snapshot, Duty.update snapshot ∉ duties) →
        Brix.deliver selfIp src backup datagrams = .ok backup) := by
  induction h generalizing backup with
  | nil => exact ⟨fun ⟨_, h⟩ => absurd h List.not_mem_nil, fun _ => rfl⟩
  | ack _ ih =>
      have hrest := ih (fun snapshot h => hsnapshot snapshot (List.mem_cons_of_mem _ h)) backup
      simpa using hrest
  | loc _ ih =>
      have hrest := ih (fun snapshot h => hsnapshot snapshot (List.mem_cons_of_mem _ h)) backup
      simpa using hrest
  | @update snapshot duties datagrams order _ ih =>
      obtain ⟨rfl, hfits⟩ := hsnapshot snapshot List.mem_cons_self
      have hrest := ih (fun snapshot h => hsnapshot snapshot (List.mem_cons_of_mem _ h)) ledger
      refine ⟨fun _ => ?_, fun h => absurd List.mem_cons_self (h _)⟩
      rw [Brix.deliver, Ledger.listenForUpdates_broadcastUpdate hsrc hfits order backup]
      show Brix.deliver selfIp src ledger datagrams = .ok ledger
      by_cases hmore : ∃ snapshot, Duty.update snapshot ∈ duties
      · exact hrest.1 hmore
      · exact hrest.2 (not_exists.mp hmore)

end Backup

/-! ## In step -/

/-- An operation, and the ledger it was handled in. -/
structure Performed where
  operation : Operation
  before : Ledger

/-- The ledger an operation leaves. -/
def Performed.after (performed : Performed) : Ledger :=
  (performed.operation.handle performed.before).1

/-- What is sent for an operation. -/
def Performed.duties (performed : Performed) : List Duty :=
  (performed.operation.handle performed.before).2

/-- The operation broadcasts a snapshot. -/
def Performed.Updates (performed : Performed) : Prop :=
  ∃ snapshot, Duty.update snapshot ∈ performed.duties

/-- The operations, each with the ledger that the ones before it leave. -/
def performAll : Ledger → List Operation → List Performed
  | _, [] => []
  | ledger, operation :: rest =>
      ⟨operation, ledger⟩ :: performAll (operation.handle ledger).1 rest

/-- After each of the operations the backup has the coordinator's ledger, whatever the
order in which the tables iterate. -/
def InStep (selfIp : Text) (src : InAddr) : Ledger → Ledger → List Operation → Prop
  | _, _, [] => True
  | ledger, backup, operation :: rest =>
      ∀ datagrams, Broadcasts (operation.handle ledger).2 datagrams →
        ∃ backup', deliver selfIp src backup datagrams = .ok backup' ∧
          backup' = (operation.handle ledger).1 ∧
          InStep selfIp src (operation.handle ledger).1 backup' rest

section InStep

variable {selfIp : Text} {src : InAddr} {ledger : Ledger}

/-- Duties can be broadcast in some order of iteration. -/
theorem exists_broadcasts (duties : List Duty) : ∃ datagrams, Broadcasts duties datagrams := by
  induction duties with
  | nil => exact ⟨[], .nil⟩
  | cons duty rest ih =>
      obtain ⟨datagrams, h⟩ := ih
      cases duty with
      | ack packet => exact ⟨datagrams, .ack h⟩
      | loc => exact ⟨datagrams, .loc h⟩
      | update snapshot =>
          obtain ⟨entries, hentries⟩ := Quotient.exists_rep snapshot.records.entries
          exact ⟨_, .update ⟨entries, hentries⟩ h⟩

/-- One operation keeps the backup in step exactly if it does not overdraw. -/
theorem deliver_operation_iff (hsrc : addrToString src ≠ selfIp) (operation : Operation)
    (hfits : (Performed.mk operation ledger).Updates → Fits (operation.handle ledger).1)
    {datagrams : List Text} (h : Broadcasts (operation.handle ledger).2 datagrams) :
    deliver selfIp src ledger datagrams = .ok (operation.handle ledger).1 ↔
      ¬ operation.Overdraws ledger := by
  obtain ⟨hupdated, hsilent⟩ := h.deliver hsrc
    (fun snapshot hmem => ⟨Operation.eq_of_update_mem hmem, hfits ⟨snapshot, hmem⟩⟩) ledger
  rcases operation.handle_cases ledger with ⟨hupdate, hnot⟩ | ⟨hnone, hchanged⟩
  · exact iff_of_true (hupdated ⟨_, hupdate⟩) hnot
  · rw [hsilent hnone, ← hchanged, not_not, Except.ok.injEq]
    exact eq_comm

/-- **When a backup keeps in step.**  Any sequence of operations, one at a time, every
broadcast delivered in order and fitting: after each of them a backup that started equal
has the coordinator's records and totals, exactly if none of them overdraws.

The induction is on the operations.  If one of them overdraws, the backup keeps the ledger of
before, which is another one; so the equivalence holds operation by operation, and not only at the
end. -/
theorem in_step_iff (hsrc : addrToString src ≠ selfIp) {operations : List Operation}
    (hfits : ∀ performed ∈ performAll ledger operations,
      performed.Updates → Fits performed.after) :
    InStep selfIp src ledger ledger operations ↔
      ∀ performed ∈ performAll ledger operations,
        ¬ performed.operation.Overdraws performed.before := by
  induction operations generalizing ledger with
  | nil => exact iff_of_true trivial nofun
  | cons operation rest ih =>
      rw [performAll, List.forall_mem_cons] at hfits ⊢
      rw [← ih hfits.2]
      constructor
      · intro h
        obtain ⟨datagrams, hbroadcasts⟩ := exists_broadcasts (operation.handle ledger).2
        obtain ⟨backup, hdeliver, rfl, hrest⟩ := h datagrams hbroadcasts
        exact ⟨(deliver_operation_iff hsrc operation hfits.1 hbroadcasts).mp hdeliver, hrest⟩
      · rintro ⟨hnot, hrest⟩ datagrams hbroadcasts
        exact ⟨_, (deliver_operation_iff hsrc operation hfits.1 hbroadcasts).mpr hnot, rfl, hrest⟩

end InStep

/-- A first transfer that asks for more than client 1 has. -/
def overdrawnFirst : List Operation :=
  [.request 1 ⟨1, 2, 200000⟩]

/-- **A change that is not replicated.**  The transfer is counted in client 1's
`last_request` and refused, and nothing is broadcast. -/
theorem overdrawn_not_in_step :
    (∀ performed ∈ performAll twoNewClients overdrawnFirst,
      performed.Updates → Fits performed.after) ∧
    ¬ InStep (addrToString 4) 3 twoNewClients twoNewClients overdrawnFirst := by
  have hduties : (Operation.handle twoNewClients (.request 1 ⟨1, 2, 200000⟩)).2
      = [.ack (processReqPacket 1 ⟨1, 2, 200000⟩ twoNewClients).reply] := rfl
  constructor
  · intro performed hmem
    obtain rfl := List.mem_singleton.mp hmem
    rintro ⟨snapshot, hupdate⟩
    rw [Performed.duties, hduties, List.mem_singleton] at hupdate
    cases hupdate
  · intro hstep
    obtain ⟨backup, hdeliver, hbackup, -⟩ := hstep [] (by rw [hduties]; exact .ack .nil)
    have hsame : twoNewClients = backup := Except.ok.inj hdeliver
    have hlast : (backup.records.lookup 1).map ClientRecord.lastRequest = some 1 := by
      rw [hbackup]
      decide
    rw [← hsame] at hlast
    exact absurd hlast (by decide)

/-- Two transfers, the second one to an address that is not registered. -/
def transferThenUnknown : List Operation :=
  [.request 1 ⟨1, 2, 40⟩, .request 1 ⟨2, 9, 5⟩]

/-- The backup keeps in step. -/
theorem transferThenUnknown_in_step :
    InStep (addrToString 4) 3 twoNewClients twoNewClients transferThenUnknown := by
  refine (in_step_iff (by decide) ?_).mpr ?_
  · intro performed hmem
    rcases List.mem_pair.mp hmem with rfl | rfl
    · exact fun _ => ⟨inStoiRange_twoClients, by decide⟩
    · rintro ⟨snapshot, hupdate⟩
      have hduties : (Performed.mk (.request 1 ⟨2, 9, 5⟩) twoClients).duties
        = [.ack (processReqPacket 1 ⟨2, 9, 5⟩ twoClients).reply] := rfl
      have hcontra := hduties ▸ hupdate
      rw [List.mem_singleton] at hcontra
      cases hcontra
  · intro performed hmem
    rcases List.mem_pair.mp hmem with rfl | rfl
    · rintro ⟨client, hlookup, -, -, -, hshort⟩
      have hfound : twoNewClients.records.lookup 1 = some ⟨1, 100000, 0⟩ := by decide
      obtain rfl : (⟨1, 100000, 0⟩ : ClientRecord) = client :=
        Option.some.inj (hfound.symm.trans hlookup)
      exact absurd hshort (by decide)
    · rintro ⟨client, -, -, -, hmem, -⟩
      exact absurd hmem (by decide)

end Brix
