import Brix.System.Replication

/-!
# A coordinator that stops

The coordinator of `Brix.System.Replication`, one send at a time: `Coordinator.step` takes
up an operation, or sends what is due next for the last one.  A crash may come after any
step; what was sent until then still reaches the backup.

* `Coordinator.Reflects` — what the backup should know: everything answered positively
* `Coordinator.Exposed` — an answer is out and its broadcast is not
* `acknowledged_survives_iff` — at any point of any run these two exclude each other

The REQ handler is never exposed (`request_not_exposed`): it broadcasts before it answers.
The KIL handler and the discovery service answer first.

### What is load-bearing

`Follows` has two halves, one for a coordinator that owes a broadcast and one for a coordinator
that does not.  What is owed is at most one snapshot, and it shows the ledger as it is: the
operations are handled one at a time, so there is none behind it.  In between, the backup knows
what there was before the last operation.

That the two sides of `acknowledged_survives_iff` exclude each other needs more than a backup that
is behind, since it might have the right ledger by chance.  A positive answer changes who is
registered or, for a REQ packet, comes after the broadcast; so `Follows` compares the registered
clients of the two, which is enough to tell them apart.
-/

namespace Brix

open Text Execution

/-- The duty is an answer to a client. -/
def Duty.isAnswer : Duty → Bool
  | .ack _ => true
  | .loc => true
  | .update _ => false

/-- The operation is answered positively. -/
def Performed.Positive (performed : Performed) : Prop :=
  performed.operation.Positive performed.before

/-- A coordinator: its ledger, what is still to be sent for the last operation, the
operations, newest first, whether the last one has been answered, and what has been
broadcast. -/
structure Coordinator where
  ledger : Ledger
  pending : List Duty
  history : List Performed
  answered : Bool
  sent : List Text

/-- What a coordinator does. -/
inductive Coordinator.Action
  | handle (operation : Operation)
  | answer
  | broadcast (entries : List (Sigma fun _ : InAddr => ClientRecord))

namespace Coordinator

/-- Nothing has been handled, and nothing is owed. -/
def start (ledger : Ledger) : Coordinator := ⟨ledger, [], [], true, []⟩

/-- An operation is taken up when the last one is done with.  The duties are performed in their
order, which is the order of the source. -/
def step (c : Coordinator) : Action → Option Coordinator
  | .handle operation =>
      match c.pending with
      | [] => some
          { c with
            ledger := (operation.handle c.ledger).1
            pending := (operation.handle c.ledger).2
            history := ⟨operation, c.ledger⟩ :: c.history
            answered := false }
      | _ => none
  | .answer =>
      match c.pending with
      | duty :: rest =>
          if duty.isAnswer then some { c with pending := rest, answered := true } else none
      | [] => none
  | .broadcast entries =>
      match c.pending with
      | .update snapshot :: rest =>
          if complete : (entries : Multiset _) = snapshot.records.entries then
            some { c with
              pending := rest
              sent := c.sent ++ [broadcastUpdate snapshot ⟨entries, complete⟩] }
          else none
      | _ => none

/-- What is broadcast fits the backup's buffer and number ranges. -/
def Admitted (c : Coordinator) : Action → Prop
  | .broadcast _ => Fits c.ledger
  | _ => True

/-- A broadcast is still due. -/
def Owes (c : Coordinator) : Prop := ∃ snapshot, Duty.update snapshot ∈ c.pending

/-- The backup's ledger reflects every operation that was answered positively: it is the
coordinator's after that operation, or after a later one. -/
def Reflects (c : Coordinator) (backup : Ledger) : Prop :=
  ∀ newer performed older, c.history = newer ++ performed :: older →
    (newer = [] → c.answered = true) → performed.Positive →
      ∃ later ∈ performed :: newer, backup = later.after

/-- The last operation has been answered positively, and its broadcast is still due. -/
def Exposed (c : Coordinator) : Prop :=
  c.answered = true ∧ c.Owes ∧
    ∃ performed older, c.history = performed :: older ∧ performed.Positive

/-- What a step can do. -/
theorem step_cases {c c' : Coordinator} {action : Action} (h : c.step action = some c') :
    (∃ operation, action = .handle operation ∧ c.pending = [] ∧
      c' = ⟨(operation.handle c.ledger).1, (operation.handle c.ledger).2,
        ⟨operation, c.ledger⟩ :: c.history, false, c.sent⟩) ∨
    (∃ duty rest, action = .answer ∧ c.pending = duty :: rest ∧ duty.isAnswer = true ∧
      c' = { c with pending := rest, answered := true }) ∨
    (∃ snapshot rest, ∃ order : Iteration snapshot.records, action = .broadcast order.entries ∧
      c.pending = .update snapshot :: rest ∧
      c' = { c with pending := rest, sent := c.sent ++ [broadcastUpdate snapshot order] }) := by
  unfold step at h
  split at h
  · rename_i operation
    split at h
    · rename_i hpending
      exact Or.inl ⟨operation, rfl, hpending, (Option.some.inj h).symm⟩
    · cases h
  · split at h
    · rename_i duty rest hpending
      split at h
      · rename_i hanswer
        exact Or.inr (Or.inl ⟨duty, rest, rfl, hpending, hanswer, (Option.some.inj h).symm⟩)
      · cases h
    · cases h
  · rename_i entries
    split at h
    · rename_i snapshot rest hpending
      split at h
      · rename_i complete
        exact Or.inr (Or.inr ⟨snapshot, rest, ⟨entries, complete⟩, rfl, hpending,
          (Option.some.inj h).symm⟩)
      · cases h
    · cases h

/-- A snapshot may be sent in every order in which the table can be gone through. -/
theorem step_broadcast {c : Coordinator} {snapshot : DbSnapshot} {rest : List Duty}
    (h : c.pending = .update snapshot :: rest) (order : Iteration snapshot.records) :
    c.step (.broadcast order.entries)
      = some { c with pending := rest, sent := c.sent ++ [broadcastUpdate snapshot order] } := by
  simp only [step, h]
  exact dif_pos order.complete

end Coordinator

/-! ## What is due for an operation -/

section Handle

variable {ledger : Ledger} {operation : Operation}

/-- One answer, and at most one broadcast. -/
theorem Operation.countP_handle (operation : Operation) (ledger : Ledger) :
    (operation.handle ledger).2.countP Duty.isAnswer = 1 ∧
      (operation.handle ledger).2.countP (fun duty => !duty.isAnswer) ≤ 1 := by
  have hupdates : ∀ update : Option DbSnapshot,
      (update.map Duty.update).toList.countP Duty.isAnswer = 0 ∧
        (update.map Duty.update).toList.countP (fun duty => !duty.isAnswer) ≤ 1 := by
    intro update
    cases update with
    | none => decide
    | some snapshot => exact ⟨rfl, le_refl 1⟩
  cases operation with
  | request senderIp packet =>
      obtain ⟨hzero, hone⟩ := hupdates (processReqPacket senderIp packet ledger).update
      simp only [handle, List.countP_append, List.countP_singleton, Duty.isAnswer, hzero]
      exact ⟨rfl, hone⟩
  | kill senderIp packet =>
      obtain ⟨hzero, hone⟩ := hupdates (processKillPacket senderIp packet ledger).update
      simp only [handle, List.countP_cons, Duty.isAnswer, hzero]
      exact ⟨rfl, hone⟩
  | discover clientIp => exact ⟨rfl, le_refl 1⟩

/-- A removal is answered positively if there was a client to remove. -/
theorem Operation.positive_kill_iff {senderIp : InAddr} {packet : KilPacket} :
    (Operation.kill senderIp packet).Positive ledger ↔ senderIp ∈ ledger.records := by
  show (processKillPacket senderIp packet ledger).reply.result = "KILL".toList ↔ _
  unfold processKillPacket
  cases hclient : ledger.records.lookup senderIp with
  | none =>
      rw [Ledger.remove_notFound hclient]
      refine iff_of_false ?_ (Finmap.lookup_eq_none.mp hclient)
      show "SENDER_NOT_REGISTERED".toList ≠ "KILL".toList
      decide
  | some client =>
      rw [Ledger.remove_success hclient]
      exact iff_of_true rfl (Finmap.mem_of_lookup_eq_some hclient)

/-- What is answered positively is broadcast. -/
theorem Operation.Positive.updates (h : operation.Positive ledger) :
    ∃ snapshot, Duty.update snapshot ∈ (operation.handle ledger).2 := by
  cases operation with
  | request senderIp packet =>
      have hupdate : (processReqPacket senderIp packet ledger).update
          = some (processReqPacket senderIp packet ledger).ledger.toDbManager.getDbSnapshot :=
        if_pos h
      simp only [handle, hupdate]
      exact ⟨_, List.mem_cons_self⟩
  | kill senderIp packet =>
      obtain ⟨client, hclient⟩ := Finmap.mem_iff.mp (positive_kill_iff.mp h)
      simp only [handle, processKillPacket, Ledger.remove_success hclient]
      exact ⟨_, List.mem_cons_of_mem _ List.mem_cons_self⟩
  | discover clientIp => exact ⟨_, List.mem_cons_of_mem _ List.mem_cons_self⟩

/-- Who is registered changes only with a broadcast. -/
theorem Operation.mem_handle_of_silent
    (h : ∀ snapshot, Duty.update snapshot ∉ (operation.handle ledger).2) (ip : InAddr) :
    ip ∈ (operation.handle ledger).1.records ↔ ip ∈ ledger.records := by
  cases operation with
  | request senderIp packet =>
      rcases processReqPacket_cases senderIp packet ledger with ⟨hledger, -⟩ | ⟨hledger, -⟩
      · rw [handle, hledger]
      · rw [handle, hledger]
        exact Ledger.mem_transfer
  | kill senderIp packet =>
      simp only [handle, processKillPacket] at h ⊢
      cases hclient : ledger.records.lookup senderIp with
      | none => rw [Ledger.remove_notFound hclient]
      | some client =>
          rw [Ledger.remove_success hclient] at h
          exact absurd (List.mem_cons_of_mem _ List.mem_cons_self) (h _)
  | discover clientIp =>
      exact absurd (List.mem_cons_of_mem _ List.mem_cons_self) (h _)

/-- A client that is removed or newly registered is a change in who is registered. -/
theorem Operation.Positive.clients_change (h : operation.Positive ledger)
    (hsame : ∀ ip, ip ∈ ledger.records ↔ ip ∈ (operation.handle ledger).1.records) :
    ∃ senderIp packet, operation = .request senderIp packet := by
  cases operation with
  | request senderIp packet => exact ⟨senderIp, packet, rfl⟩
  | kill senderIp packet =>
      obtain ⟨client, hclient⟩ := Finmap.mem_iff.mp (positive_kill_iff.mp h)
      have hafter := (hsame senderIp).mp (positive_kill_iff.mp h)
      simp only [handle, processKillPacket, Ledger.remove_success hclient] at hafter
      exact absurd hafter Finmap.notMem_erase_self
  | discover clientIp =>
      exact absurd ((hsame clientIp).mpr (Ledger.mem_register.mpr (Or.inl rfl))) h

end Handle

/-! ## What the backup knows -/

/-- The ledger is the one after some operation, newest first, and none since then was
answered positively. -/
def UpToDate (backup : Ledger) : List Performed → Prop
  | [] => True
  | performed :: older => backup = performed.after ∨ ¬ performed.Positive ∧ UpToDate backup older

/-- A ledger that is up to date reflects each operation with a positive answer. -/
theorem UpToDate.exists_later {backup : Ledger} {newer older : List Performed}
    {performed : Performed} (h : UpToDate backup (newer ++ performed :: older))
    (hpositive : performed.Positive) : ∃ later ∈ performed :: newer, backup = later.after := by
  induction newer with
  | nil =>
      rcases h with h | ⟨hnot, -⟩
      · exact ⟨performed, List.mem_cons_self, h⟩
      · exact absurd hpositive hnot
  | cons newest newer ih =>
      rcases h with h | ⟨-, h⟩
      · exact ⟨newest, List.mem_cons_of_mem _ List.mem_cons_self, h⟩
      · obtain ⟨later, hmem, hlater⟩ := ih h
        rcases List.mem_cons.mp hmem with rfl | hmem
        · exact ⟨later, List.mem_cons_self, hlater⟩
        · exact ⟨later, List.mem_cons_of_mem _ (List.mem_cons_of_mem _ hmem), hlater⟩

namespace Coordinator

/-- A backup that has received everything that was sent, and the coordinator.  While a
broadcast is due it knows what there was before the last operation, otherwise it knows
the last one too. -/
structure Follows (selfIp : Text) (src : InAddr) (start : Ledger) (c : Coordinator)
    (backup : Ledger) : Prop where
  received : deliver selfIp src start c.sent = .ok backup
  snapshot : ∀ snapshot, Duty.update snapshot ∈ c.pending →
    snapshot = c.ledger.toDbManager.getDbSnapshot
  latest : ∀ performed older, c.history = performed :: older →
    c.ledger = performed.after ∧ c.pending <:+ performed.duties
  answers : c.pending.countP Duty.isAnswer = if c.answered then 0 else 1
  updates : c.pending.countP (fun duty => !duty.isAnswer) ≤ 1
  settled : ¬ c.Owes →
    (∀ ip, ip ∈ backup.records ↔ ip ∈ c.ledger.records) ∧ UpToDate backup c.history
  behind : c.Owes → ∃ performed older, c.history = performed :: older ∧
    (∀ ip, ip ∈ backup.records ↔ ip ∈ performed.before.records) ∧ UpToDate backup older

section Follows

variable {selfIp : Text} {src : InAddr} {start backup : Ledger} {c c' : Coordinator}

/-- Without a duty nothing is owed. -/
theorem not_owes_of_nil (h : c.pending = []) : ¬ c.Owes := by
  rintro ⟨snapshot, hmem⟩
  rw [h] at hmem
  exact absurd hmem List.not_mem_nil

/-- The backup starts equal. -/
theorem follows_start : Follows selfIp src start (Coordinator.start start) start where
  received := rfl
  snapshot := nofun
  latest := nofun
  answers := rfl
  updates := Nat.zero_le 1
  settled := fun _ => ⟨fun _ => Iff.rfl, trivial⟩
  behind := fun h => absurd h (not_owes_of_nil rfl)

section Rest

variable {duty : Duty} {rest : List Duty} (hpending : c.pending = duty :: rest)

include hpending

/-- What is known of the snapshots that are due is known when one duty less is. -/
theorem Follows.snapshot_rest (h : Follows selfIp src start c backup) (snapshot : DbSnapshot)
    (hmem : .update snapshot ∈ rest) : snapshot = c.ledger.toDbManager.getDbSnapshot := by
  refine h.snapshot snapshot ?_
  rw [hpending]
  exact List.mem_cons_of_mem _ hmem

/-- So is what is known of the operation performed last. -/
theorem Follows.latest_rest (h : Follows selfIp src start c backup) (performed : Performed)
    (older : List Performed) (heq : c.history = performed :: older) :
    c.ledger = performed.after ∧ rest <:+ performed.duties := by
  obtain ⟨hledger, hsuffix⟩ := h.latest performed older heq
  rw [hpending] at hsuffix
  exact ⟨hledger, (List.suffix_cons _ _).trans hsuffix⟩

end Rest

/-- One step, and what the backup receives of it.

The three actions one by one: an operation begins to be owed or owes nothing, an answer settles no
snapshot, and a broadcast brings the backup up to date. -/
theorem Follows.step (h : Follows selfIp src start c backup) (hsrc : addrToString src ≠ selfIp)
    {action : Action} (hadmitted : c.Admitted action) (hstep : c.step action = some c') :
    ∃ backup', Follows selfIp src start c' backup' := by
  rcases step_cases hstep with ⟨operation, rfl, hpending, rfl⟩ |
    ⟨duty, rest, rfl, hpending, hanswer, rfl⟩ | ⟨snapshot, rest, order, rfl, hpending, rfl⟩
  · -- an operation is taken up
    obtain ⟨hagree, hknown⟩ := h.settled (not_owes_of_nil hpending)
    obtain ⟨hanswers, hupdates⟩ := operation.countP_handle c.ledger
    refine ⟨backup, h.received, fun snapshot hmem => Operation.eq_of_update_mem hmem, ?_,
      hanswers, hupdates, fun hsilent => ?_, fun _ => ⟨_, _, rfl, hagree, hknown⟩⟩
    · intro performed older heq
      cases heq
      exact ⟨rfl, List.suffix_rfl⟩
    · refine ⟨fun ip => (hagree ip).trans
        (Operation.mem_handle_of_silent (not_exists.mp hsilent) ip).symm, Or.inr ⟨?_, hknown⟩⟩
      exact fun hpositive => hsilent (Operation.Positive.updates hpositive)
  · -- an answer is sent
    have howes : Owes { c with pending := rest, answered := true } ↔ c.Owes := by
      unfold Owes
      rw [hpending]
      refine exists_congr fun snapshot => ?_
      rw [List.mem_cons, or_iff_right]
      rintro rfl
      cases hanswer
    have hanswers := h.answers
    have hupdates := h.updates
    rw [hpending, List.countP_cons_of_pos hanswer] at hanswers
    rw [hpending, List.countP_cons_of_neg (by simp [hanswer])] at hupdates
    have hsnapshot := h.snapshot_rest hpending
    have hlatest := h.latest_rest hpending
    refine ⟨backup, h.received, hsnapshot, hlatest, ?_, hupdates,
      fun hsilent => h.settled (mt howes.mpr hsilent), fun hdue => h.behind (howes.mp hdue)⟩
    show rest.countP Duty.isAnswer = 0
    split at hanswers <;> omega
  · -- a snapshot is broadcast
    obtain rfl := h.snapshot snapshot (by rw [hpending]; exact List.mem_cons_self)
    obtain ⟨performed, older, hhistory, -⟩ :=
      h.behind ⟨_, by rw [hpending]; exact List.mem_cons_self⟩
    obtain ⟨hledger, hsuffix⟩ := h.latest performed older hhistory
    have hanswers := h.answers
    have hupdates := h.updates
    rw [hpending, List.countP_cons_of_neg Bool.false_ne_true] at hanswers
    rw [hpending, List.countP_cons_of_pos (by rfl)] at hupdates
    have hsilent : ¬ Owes { c with
        pending := rest
        sent := c.sent ++ [broadcastUpdate c.ledger.toDbManager.getDbSnapshot order] } := by
      rintro ⟨snapshot, hmem⟩
      have hpos : 0 < rest.countP (fun duty => !duty.isAnswer) :=
        List.countP_pos_iff.mpr ⟨_, hmem, rfl⟩
      omega
    have hsnapshot := h.snapshot_rest hpending
    have hlatest := h.latest_rest hpending
    refine ⟨c.ledger, ?_, hsnapshot, hlatest, hanswers,
      (Nat.le_succ _).trans hupdates, fun _ => ⟨fun _ => Iff.rfl, ?_⟩,
      fun hdue => absurd hdue hsilent⟩
    · rw [deliver_append, h.received]
      show (backup.listenForUpdates selfIp src _).bind _ = _
      rw [Ledger.listenForUpdates_broadcastUpdate hsrc hadmitted order backup]
      rfl
    · show UpToDate c.ledger c.history
      rw [hhistory, hledger]
      exact Or.inl rfl

/-- A run of the coordinator, and the backup that has received what was sent. -/
theorem follows_of_run (hsrc : addrToString src ≠ selfIp) {actions : List Action}
    (h : Runs Coordinator.step Admitted (Coordinator.start start) actions c) :
    ∃ backup, Follows selfIp src start c backup :=
  h.invariant (fun c => ∃ backup, Follows selfIp src start c backup) ⟨start, follows_start⟩
    fun _ _ _ ⟨_, hfollows⟩ hadmitted hstep => hfollows.step hsrc hadmitted hstep

/-- The REQ handler has nothing left to do when it has answered. -/
theorem Follows.request_not_exposed (h : Follows selfIp src start c backup)
    {senderIp : InAddr} {packet : ReqPacket} {before : Ledger} {older : List Performed}
    (hhistory : c.history = ⟨.request senderIp packet, before⟩ :: older) : ¬ c.Exposed := by
  rintro ⟨hanswered, ⟨snapshot, hmem⟩, -⟩
  obtain ⟨-, consumed, hduties⟩ := h.latest _ _ hhistory
  have hanswers := h.answers
  rw [hanswered, if_pos rfl, List.countP_eq_zero] at hanswers
  -- the answer is the last duty
  have hlast : c.pending.getLast?
      = some (.ack (processReqPacket senderIp packet before).reply) := by
    have hnil : c.pending ≠ [] := List.ne_nil_of_mem hmem
    have hgiven := congrArg List.getLast? hduties
    rw [List.getLast?_append_of_ne_nil _ hnil] at hgiven
    rw [hgiven]
    exact List.getLast?_concat
  exact hanswers _ (List.mem_of_getLast? hlast) rfl

end Follows

/-- **When acknowledged operations survive.**  Any sequence of operations, one at a time,
and a crash at any point of it, every snapshot fitting: the backup's ledger reflects
every operation that was answered positively, exactly if the crash does not come between
a positive answer and the broadcast after it.

A crash is nothing but the end of a run, so the statement is about the state at the end of any run.
Both sides are conditions on that state: what the backup has, and what is still to be sent. -/
theorem acknowledged_survives_iff {selfIp : Text} {src : InAddr}
    (hsrc : addrToString src ≠ selfIp) {start : Ledger} {actions : List Action} {c : Coordinator}
    (h : Runs Coordinator.step Admitted (Coordinator.start start) actions c) :
    (∃ backup, deliver selfIp src start c.sent = .ok backup ∧ c.Reflects backup) ↔
      ¬ c.Exposed := by
  obtain ⟨backup, hfollows⟩ := follows_of_run hsrc h
  constructor
  · -- exposed: the newest operation is answered, and the backups are one behind
    rintro ⟨backup', hreceived, hreflects⟩ hexposed
    obtain ⟨hanswered, howes, performed, older, hhistory, hpositive⟩ := hexposed
    obtain rfl : backup = backup' := Except.ok.inj (hfollows.received.symm.trans hreceived)
    obtain ⟨_, _, heq, hagree, -⟩ := hfollows.behind howes
    obtain ⟨rfl, rfl⟩ := List.cons.inj (hhistory.symm.trans heq)
    obtain ⟨later, hmem, hlater⟩ :=
      hreflects [] performed older hhistory (fun _ => hanswered) hpositive
    obtain rfl := List.mem_singleton.mp hmem
    rw [hlater] at hagree
    obtain ⟨senderIp, packet, hrequest⟩ :=
      Operation.Positive.clients_change hpositive fun ip => (hagree ip).symm
    obtain ⟨operation, before⟩ := later
    obtain rfl : operation = .request senderIp packet := hrequest
    exact hfollows.request_not_exposed hhistory ⟨hanswered, howes, _, _, hhistory, hpositive⟩
  · intro hsafe
    refine ⟨backup, hfollows.received, fun newer performed older hhistory hanswered hpositive => ?_⟩
    -- owing, it is behind by the newest operation at most, and that one is not answered
    by_cases howes : c.Owes
    · obtain ⟨newest, rest, hnewest, -, hknown⟩ := hfollows.behind howes
      cases newer with
      | nil => exact absurd ⟨hanswered rfl, howes, performed, older, hhistory, hpositive⟩ hsafe
      | cons last newer =>
          obtain ⟨rfl, rfl⟩ := List.cons.inj (hnewest.symm.trans hhistory)
          obtain ⟨later, hmem, hlater⟩ := hknown.exists_later hpositive
          rcases List.mem_cons.mp hmem with rfl | hmem
          · exact ⟨later, List.mem_cons_self, hlater⟩
          · exact ⟨later, List.mem_cons_of_mem _ (List.mem_cons_of_mem _ hmem), hlater⟩
    · have hknown := (hfollows.settled howes).2
      rw [hhistory] at hknown
      exact hknown.exists_later hpositive

/-- A transfer, and a discovery by a client that is registered; the crash comes before
the broadcast for the latter. -/
def crashAfterTransfer : List Action :=
  [.handle (.request 1 ⟨1, 2, 40⟩), .broadcast twoClientsOrder.entries, .answer,
    .handle (.discover 1), .answer]

/-- The transfer survives. -/
theorem crashAfterTransfer_survives :
    ∃ c, Runs Coordinator.step Admitted (Coordinator.start twoNewClients) crashAfterTransfer c ∧
      ∃ backup, deliver (addrToString 4) 3 twoNewClients c.sent = .ok backup ∧
        c.Reflects backup := by
  have hrun : Runs Coordinator.step Admitted (Coordinator.start twoNewClients) crashAfterTransfer
      ⟨(Operation.handle twoClients (.discover 1)).1,
        [.update (Operation.handle twoClients (.discover 1)).1.toDbManager.getDbSnapshot],
        [⟨.discover 1, twoClients⟩, ⟨.request 1 ⟨1, 2, 40⟩, twoNewClients⟩], true,
        [broadcastUpdate twoClients.toDbManager.getDbSnapshot twoClientsOrder]⟩ := by
    refine .cons trivial rfl ?_
    refine .cons ⟨inStoiRange_twoClients, by decide⟩
      (@step_broadcast _ twoClients.toDbManager.getDbSnapshot _ rfl twoClientsOrder) ?_
    refine .cons trivial rfl ?_
    refine .cons trivial rfl ?_
    exact .single trivial rfl
  refine ⟨_, hrun, (acknowledged_survives_iff (by decide) hrun).mpr ?_⟩
  rintro ⟨-, -, performed, older, hhistory, hpositive⟩
  obtain ⟨rfl, -⟩ := List.cons.inj hhistory
  exact hpositive (by decide)

/-- **An acknowledged registration that is lost.**  Client 5 has its LOC, and the
coordinator crashes before the broadcast. -/
theorem crash_before_broadcast_loses_client :
    ∃ c, Runs Coordinator.step Admitted (Coordinator.start twoNewClients)
        [.handle (.discover 5), .answer] c ∧
      ¬ ∃ backup, deliver (addrToString 4) 3 twoNewClients c.sent = .ok backup ∧
        c.Reflects backup := by
  refine ⟨_, .cons trivial rfl (.single trivial rfl), ?_⟩
  rintro ⟨backup, hreceived, hreflects⟩
  obtain rfl : twoNewClients = backup := Except.ok.inj hreceived
  obtain ⟨later, hmem, hlater⟩ := hreflects [] _ _ rfl (fun _ => rfl)
    (show (5 : InAddr) ∉ twoNewClients.records by decide)
  obtain rfl := List.mem_singleton.mp hmem
  have hclient : (5 : InAddr) ∈ twoNewClients.records := by
    rw [hlater]
    decide
  exact absurd hclient (by decide)

end Coordinator

end Brix
