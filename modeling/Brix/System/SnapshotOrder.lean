import Brix.Server.ConcurrentRequests

/-!
# Snapshots out of order

Any number of REQ handlers at the coordinator, to their ends.  A handler whose transfer
was a success takes a snapshot in one step and sends it in another, and other handlers
may do the same in between; nothing in a snapshot says how old it is.

What a snapshot knows is said by a history variable: `Snap.made` lists the handlers whose
transfers had been made when it was taken, latest first.  `Knows` ties it to the
snapshot's balances.

* `Handlers.LastWord` — the snapshot that was sent last knows every acknowledged transfer,
  and a backup that loads them all ends with the coordinator's balances
* `Handlers.Overtaken` — an earlier one knows a transfer that it does not know
* `last_word_iff` — when all handlers have finished, these two exclude each other

### What is load-bearing

A snapshot is a copy of the ledger at some moment, so what it knows is an initial part of what has
been made: `Ordered.taken` says so with a suffix, as the latest transfer stands first.  Of two
snapshots one therefore knows all that the other one does, and a snapshot that has not been
overtaken by any other knows everything that any of them knows.  By `Ordered.posted` each
acknowledged transfer is known to some snapshot, its own handler's at the latest.

The other direction needs that no two transfers are confused: `made` has no repetitions, so a
snapshot that knows as many as there are knows all of them (`Ordered.made_eq`).
-/

namespace Brix

open Execution

/-! ## Balances -/

/-- What the clients have. -/
abbrev Balances := InAddr → Option UInt64

/-- The balances that a table has. -/
def balances (records : Records) : Balances :=
  fun ip => (records.lookup ip).map ClientRecord.balance

/-- A successful transfer, as far as the balances go. -/
def Arrival.move (arrival : Arrival) (balance : Balances) : Balances := fun ip =>
  if ip = arrival.packet.receiverIp then
    (balance ip).map fun amount => amount + arrival.packet.transferAmount
  else if ip = arrival.senderIp then
    (balance ip).map fun amount => amount - arrival.packet.transferAmount
  else balance ip

/-- A transfer moves its amount if it is a success, and no money otherwise. -/
theorem balances_transfer (arrival : Arrival) (ledger : Ledger) :
    balances (arrival.transfer ledger).2.records
      = if (arrival.transfer ledger).1.statusCode = .success then
          arrival.move (balances ledger.records)
        else balances ledger.records := by
  unfold Arrival.transfer
  rcases ledger.transfer_cases arrival.senderIp arrival.packet.receiverIp
      arrival.packet.transferAmount with ⟨-, hstatus, -, hsame⟩ |
    ⟨-, sender, _, hsender, -, -, -, heq⟩ |
    ⟨-, sender, receiver, hsender, hreceiver, hself, -, heq⟩
  · rw [if_neg hstatus, hsame]
  · rw [heq, if_neg nofun]
    funext ip
    unfold balances
    rw [Ledger.lookup_counted hsender]
    split
    · rename_i hip
      rw [hip, hsender]
      rfl
    · rfl
  · rw [heq, if_pos rfl]
    funext ip
    unfold Arrival.move balances
    rw [Ledger.lookup_settled hsender hreceiver]
    by_cases hip' : ip = arrival.packet.receiverIp
    · rw [if_pos hip', if_pos hip', hip', hreceiver]
      rfl
    rw [if_neg hip', if_neg hip']
    by_cases hip : ip = arrival.senderIp
    · rw [if_pos hip, if_pos hip, hip, hsender]
      rfl
    · rw [if_neg hip, if_neg hip]

/-- What some handlers' transfers, latest first, make of the balances at the start. -/
def replay {Tid : Type} (arrivals : Tid → Arrival) (balance : Balances) : List Tid → Balances
  | [] => balance
  | t :: earlier => (arrivals t).move (replay arrivals balance earlier)

/-! ## The handlers -/

/-- A snapshot, and the handlers whose transfers had been made when it was taken. -/
structure Snap (Tid : Type) where
  snapshot : DbSnapshot
  made : List Tid

/-- How far a handler is. -/
inductive Task (Tid : Type)
  | handling (phase : Phase)
  /-- It has called `get_db_snapshot`. -/
  | holding (reply : AckPacket) (snap : Snap Tid)
  /-- The snapshot has been sent, if there is one. -/
  | answering (reply : AckPacket)
  | answered (reply : AckPacket)

/-- A coordinator with one handler for each arrival: its ledger, the handlers whose
transfers have been made and the snapshots that have been sent, both latest first. -/
structure Handlers (Tid : Type) where
  ledger : Ledger
  tasks : Tid → Task Tid
  made : List Tid
  sent : List (Snap Tid)

/-- The answer says that the transfer was made. -/
def AckPacket.IsSuccess (reply : AckPacket) : Prop := reply.result = "SUCCESS".toList

instance (reply : AckPacket) : Decidable reply.IsSuccess := inferInstanceAs (Decidable (_ = _))

/-- A handler that has just reached a phase, and made its transfer, is noted. -/
def Phase.note {Tid : Type} (t : Tid) (made : List Tid) : Phase → List Tid
  | .replied reply => if reply.IsSuccess then t :: made else made
  | _ => made

/-- The answer a handler has come to. -/
def Task.reply {Tid : Type} : Task Tid → Option AckPacket
  | .handling (.replied reply) => some reply
  | .handling _ => none
  | .holding reply _ => some reply
  | .answering reply => some reply
  | .answered reply => some reply

/-- The handler has answered. -/
def Task.isAnswered {Tid : Type} : Task Tid → Bool
  | .answered _ => true
  | _ => false

namespace Handlers

variable {Tid : Type}

/-- No handler has begun. -/
def start (ledger : Ledger) : Handlers Tid := ⟨ledger, fun _ => .handling .started, [], []⟩

/-- Every handler that has begun has answered. -/
def Finished (s : Handlers Tid) : Prop :=
  ∀ t, s.tasks t = .handling .started ∨ ∃ reply, s.tasks t = .answered reply

section System

variable [DecidableEq Tid] (arrivals : Tid → Arrival)

/-- A handler takes its next step.

The snapshot is taken in one step and sent in another one, and the answer is a third: between any
two of them other handlers may go on. -/
def step (s : Handlers Tid) (t : Tid) : Option (Handlers Tid) :=
  match s.tasks t with
  | .handling (.replied reply) =>
      if reply.IsSuccess then
        let snap : Snap Tid := ⟨s.ledger.toDbManager.getDbSnapshot, s.made⟩
        some { s with tasks := Function.update s.tasks t (.holding reply snap) }
      else some { s with tasks := Function.update s.tasks t (.answering reply) }
  | .handling phase =>
      (phase.step (arrivals t).senderIp (arrivals t).packet s.ledger).map fun (phase', ledger) =>
        { s with
          ledger := ledger
          tasks := Function.update s.tasks t (.handling phase')
          made := phase'.note t s.made }
  | .holding reply snap => some
      { s with
        tasks := Function.update s.tasks t (.answering reply)
        sent := snap :: s.sent }
  | .answering reply => some { s with tasks := Function.update s.tasks t (.answered reply) }
  | .answered _ => none

end System

/-! ## What a snapshot knows -/

/-- The snapshot has the effect of a handler's transfer: its balances are those that some
transfers, this one among them, make of the ones at the start. -/
def Knows (arrivals : Tid → Arrival) (first : Ledger) (snap : Snap Tid) (t : Tid) : Prop :=
  balances snap.snapshot.records = replay arrivals (balances first.records) snap.made ∧
    t ∈ snap.made

/-- A backup that started equal, after loading the snapshots in the order in which they
were sent. -/
def backup (first : Ledger) (s : Handlers Tid) : DbManager :=
  (s.sent.map Snap.snapshot).foldr (fun snapshot db => db.loadSnapshot snapshot) first.toDbManager

/-- The snapshot sent last knows every transfer that was answered `SUCCESS`, and the
backup ends with the coordinator's balances. -/
def LastWord (arrivals : Tid → Arrival) (first : Ledger) (s : Handlers Tid) : Prop :=
  (∀ t reply, s.tasks t = .answered reply → reply.IsSuccess →
    ∃ last, s.sent.head? = some last ∧ Knows arrivals first last t) ∧
  balances (s.backup first).databaseRecords = balances s.ledger.records

/-- A snapshot sent before the last one knows a transfer that the last one does not. -/
def Overtaken (s : Handlers Tid) : Prop :=
  ∃ last earlier, s.sent = last :: earlier ∧ ∃ snap ∈ earlier, ∃ t ∈ snap.made, t ∉ last.made

/-! ## The order of the snapshots -/

section Order

variable [DecidableEq Tid] {arrivals : Tid → Arrival} {first : Ledger} {s s' : Handlers Tid}

omit [DecidableEq Tid] in
/-- A handler's step moves its money and comes to a success, or does neither. -/
theorem balances_phase_step {t : Tid} {phase phase' : Phase} {ledger ledger' : Ledger}
    {made : List Tid}
    (h : phase.step (arrivals t).senderIp (arrivals t).packet ledger = some (phase', ledger'))
    (hmade : balances ledger.records = replay arrivals (balances first.records) made) :
    balances ledger'.records = replay arrivals (balances first.records) (phase'.note t made) := by
  cases phase with
  | started =>
      cases h
      exact hmade
  | looked client =>
      cases h
      exact hmade
  | replied reply => cases h
  | checked client status =>
      cases status with
      -- only the step that makes the transfer touches the ledger
      | valid =>
          cases h
          have hsuccess : (transactionReply (arrivals t).senderIp (arrivals t).packet
              ((arrivals t).transfer ledger).1).IsSuccess ↔ _ := transactionReply_success_iff _ _ _
          show balances ((arrivals t).transfer ledger).2.records
            = replay _ _ (if (transactionReply (arrivals t).senderIp (arrivals t).packet
              ((arrivals t).transfer ledger).1).IsSuccess then _ else _)
          rw [balances_transfer]
          split
          · rename_i hstatus
            rw [if_pos (hsuccess.mpr hstatus), hmade]
            rfl
          · rename_i hstatus
            rw [if_neg (mt hsuccess.mp hstatus)]
            exact hmade
      | duplicate =>
          cases h
          exact hmade
      | outOfOrder =>
          cases h
          exact hmade
      | noClue =>
          cases h
          exact hmade

/-- What a step can do. -/
theorem step_cases {t : Tid} (h : s.step arrivals t = some s') :
    (∃ phase phase' ledger', s.tasks t = .handling phase ∧ (∀ reply, phase ≠ .replied reply) ∧
      phase.step (arrivals t).senderIp (arrivals t).packet s.ledger = some (phase', ledger') ∧
      s' = ⟨ledger', Function.update s.tasks t (.handling phase'), phase'.note t s.made, s.sent⟩) ∨
    (∃ reply, s.tasks t = .handling (.replied reply) ∧ reply.IsSuccess ∧
      s' = { s with
        tasks := Function.update s.tasks t
          (.holding reply ⟨s.ledger.toDbManager.getDbSnapshot, s.made⟩) }) ∨
    (∃ reply snap, s.tasks t = .holding reply snap ∧
      s' = { s with
        tasks := Function.update s.tasks t (.answering reply)
        sent := snap :: s.sent }) ∨
    (∃ reply, s.tasks t = .handling (.replied reply) ∧ ¬ reply.IsSuccess ∧
      s' = { s with tasks := Function.update s.tasks t (.answering reply) }) ∨
    (∃ reply, s.tasks t = .answering reply ∧
      s' = { s with tasks := Function.update s.tasks t (.answered reply) }) := by
  unfold step at h
  split at h
  · rename_i reply htask
    split at h
    · rename_i hsuccess
      exact Or.inr (Or.inl ⟨reply, htask, hsuccess, (Option.some.inj h).symm⟩)
    · rename_i hno
      exact Or.inr (Or.inr (Or.inr (Or.inl ⟨reply, htask, hno, (Option.some.inj h).symm⟩)))
  · rename_i phase hphase htask
    obtain ⟨⟨phase', ledger'⟩, hstep, heq⟩ := Option.map_eq_some_iff.mp h
    exact Or.inl ⟨phase, phase', ledger', htask, hphase, hstep, heq.symm⟩
  · rename_i reply snap htask
    exact Or.inr (Or.inr (Or.inl ⟨reply, snap, htask, (Option.some.inj h).symm⟩))
  · rename_i reply htask
    exact Or.inr (Or.inr (Or.inr (Or.inr ⟨reply, htask, (Option.some.inj h).symm⟩)))
  · cases h

omit [DecidableEq Tid] in
/-- A phase either is the one that makes the transfer, or leaves the notes alone. -/
theorem note_cases (t : Tid) (made : List Tid) (phase : Phase) :
    (phase.note t made = t :: made ∧
      ∃ reply, (Task.handling phase : Task Tid).reply = some reply ∧ reply.IsSuccess) ∨
    (phase.note t made = made ∧
      ∀ reply, (Task.handling phase : Task Tid).reply = some reply → ¬ reply.IsSuccess) := by
  cases phase with
  | replied reply =>
      by_cases hsuccess : reply.IsSuccess
      · exact Or.inl ⟨if_pos hsuccess, reply, rfl, hsuccess⟩
      · refine Or.inr ⟨if_neg hsuccess, fun reply' h => ?_⟩
        cases h
        exact hsuccess
  | started => exact Or.inr ⟨rfl, nofun⟩
  | looked client => exact Or.inr ⟨rfl, nofun⟩
  | checked client status => exact Or.inr ⟨rfl, nofun⟩

/-- What holds of the notes and the snapshots at any time.  The transfers that a snapshot
knows are the earliest ones, and a handler that has sent its snapshot has sent one that
knows its own transfer. -/
structure Ordered (arrivals : Tid → Arrival) (first : Ledger) (s : Handlers Tid) : Prop where
  ledger : balances s.ledger.records = replay arrivals (balances first.records) s.made
  nodup : s.made.Nodup
  noted : ∀ t, t ∈ s.made ↔ ∃ reply, (s.tasks t).reply = some reply ∧ reply.IsSuccess
  taken : ∀ snap, (snap ∈ s.sent ∨ ∃ t reply, s.tasks t = .holding reply snap) →
    snap.made <:+ s.made ∧
      balances snap.snapshot.records = replay arrivals (balances first.records) snap.made
  own : ∀ t reply snap, s.tasks t = .holding reply snap → t ∈ snap.made
  posted : ∀ t reply, (s.tasks t = .answering reply ∨ s.tasks t = .answered reply) →
    reply.IsSuccess → ∃ snap ∈ s.sent, t ∈ snap.made

omit [DecidableEq Tid] in
/-- At the start nothing is made, and nothing is taken. -/
theorem ordered_start : (start first : Handlers Tid).Ordered arrivals first where
  ledger := rfl
  nodup := List.nodup_nil
  noted _ := iff_of_false List.not_mem_nil fun ⟨_, h, _⟩ => nomatch h
  taken _ h := h.elim (fun hmem => absurd hmem List.not_mem_nil) fun ⟨_, _, htask⟩ => nomatch htask
  own _ _ _ h := nomatch h
  posted _ _ h := h.elim (fun htask => nomatch htask) fun htask => nomatch htask

/-- A handler that has come to its answer goes on. -/
theorem Ordered.advance (h : s.Ordered arrivals first) {t : Tid} {task : Task Tid}
    {sent : List (Snap Tid)} (hreply : task.reply = (s.tasks t).reply)
    (hholding : ∀ reply snap, task = .holding reply snap →
      snap = ⟨s.ledger.toDbManager.getDbSnapshot, s.made⟩ ∧ t ∈ s.made)
    (hnew : ∀ snap ∈ sent, snap ∈ s.sent ∨ ∃ reply, s.tasks t = .holding reply snap)
    (hold : ∀ snap ∈ s.sent, snap ∈ sent)
    (hposted : ∀ reply, (task = .answering reply ∨ task = .answered reply) → reply.IsSuccess →
      ∃ snap ∈ sent, t ∈ snap.made) :
    Ordered arrivals first { s with tasks := Function.update s.tasks t task, sent := sent } where
  ledger := h.ledger
  nodup := h.nodup
  noted := by
    rw [Function.forall_update_iff s.tasks
      fun t task => t ∈ s.made ↔ ∃ reply, task.reply = some reply ∧ reply.IsSuccess]
    refine ⟨?_, fun other _ => h.noted other⟩
    rw [hreply]
    exact h.noted t
  taken := by
    rintro snap (hmem | ⟨other, reply, htask⟩)
    · exact h.taken snap ((hnew snap hmem).imp_right fun ⟨reply, htask⟩ => ⟨t, reply, htask⟩)
    · change Function.update s.tasks t task other = .holding reply snap at htask
      by_cases hother : other = t
      · rw [hother, Function.update_self] at htask
        obtain ⟨rfl, -⟩ := hholding reply snap htask
        exact ⟨List.suffix_rfl, h.ledger⟩
      · rw [Function.update_of_ne hother] at htask
        exact h.taken snap (Or.inr ⟨other, reply, htask⟩)
  own := by
    rw [Function.forall_update_iff s.tasks
      fun t task => ∀ reply snap, task = .holding reply snap → t ∈ snap.made]
    refine ⟨fun reply snap htask => ?_, fun other _ => h.own other⟩
    obtain ⟨rfl, hmade⟩ := hholding reply snap htask
    exact hmade
  posted := by
    rw [Function.forall_update_iff s.tasks
      fun t task => ∀ reply, (task = .answering reply ∨ task = .answered reply) →
        reply.IsSuccess → ∃ snap ∈ sent, t ∈ snap.made]
    refine ⟨hposted, fun other _ reply htask hsuccess => ?_⟩
    obtain ⟨snap, hmem, hmade⟩ := h.posted other reply htask hsuccess
    exact ⟨snap, hold snap hmem, hmade⟩

/-- A handler on its way to an answer goes on. -/
theorem Ordered.proceed (h : s.Ordered arrivals first) {t : Tid} {phase phase' : Phase}
    {ledger' : Ledger} (htask : s.tasks t = .handling phase)
    (hphase : ∀ reply, phase ≠ .replied reply)
    (hstep : phase.step (arrivals t).senderIp (arrivals t).packet s.ledger
      = some (phase', ledger')) :
    Ordered arrivals first
      ⟨ledger', Function.update s.tasks t (.handling phase'), phase'.note t s.made, s.sent⟩ := by
  -- only a handler that has replied is noted, and this one has not
  have hfresh : t ∉ s.made := by
    rw [h.noted, htask]
    rintro ⟨reply, hreply, -⟩
    cases phase with
    | replied reply => exact hphase reply rfl
    | started => cases hreply
    | looked client => cases hreply
    | checked client status => cases hreply
  have hgrown : s.made <:+ phase'.note t s.made := by
    rcases note_cases t s.made phase' with ⟨hnote, -⟩ | ⟨hnote, -⟩
    · rw [hnote]
      exact List.suffix_cons t s.made
    · rw [hnote]
  -- a handler at work holds no snapshot, so no snapshot is new
  have hholding : ∀ {other reply snap},
      Function.update s.tasks t (.handling phase') other = .holding reply snap →
        s.tasks other = .holding reply snap := by
    intro other reply snap htask'
    by_cases hother : other = t
    · rw [hother, Function.update_self] at htask'
      cases htask'
    · exact (Function.update_of_ne hother ..).symm.trans htask'
  constructor
  · exact balances_phase_step hstep h.ledger
  · rcases note_cases t s.made phase' with ⟨hnote, -⟩ | ⟨hnote, -⟩
    · rw [hnote]
      exact List.nodup_cons.mpr ⟨hfresh, h.nodup⟩
    · rw [hnote]
      exact h.nodup
  · rw [Function.forall_update_iff s.tasks fun other task =>
      other ∈ phase'.note t s.made ↔ ∃ reply, task.reply = some reply ∧ reply.IsSuccess]
    rcases note_cases t s.made phase' with ⟨hnote, hsuccess⟩ | ⟨hnote, hno⟩
    · rw [hnote]
      refine ⟨iff_of_true List.mem_cons_self hsuccess, fun other hother => ?_⟩
      rw [List.mem_cons, or_iff_right hother]
      exact h.noted other
    · rw [hnote]
      exact ⟨iff_of_false hfresh fun ⟨reply, hreply, hsuccess⟩ => hno reply hreply hsuccess,
        fun other _ => h.noted other⟩
  · rintro snap (hmem | ⟨other, reply, htask'⟩)
    · obtain ⟨hsuffix, hbalances⟩ := h.taken snap (Or.inl hmem)
      exact ⟨hsuffix.trans hgrown, hbalances⟩
    · obtain ⟨hsuffix, hbalances⟩ := h.taken snap (Or.inr ⟨other, reply, hholding htask'⟩)
      exact ⟨hsuffix.trans hgrown, hbalances⟩
  · exact fun other reply snap htask' => h.own other reply snap (hholding htask')
  · rw [Function.forall_update_iff s.tasks
      fun t task => ∀ reply, (task = .answering reply ∨ task = .answered reply) →
        reply.IsSuccess → ∃ snap ∈ s.sent, t ∈ snap.made]
    refine ⟨fun reply htask' => ?_, fun other _ => h.posted other⟩
    exact htask'.elim (fun h => nomatch h) fun h => nomatch h

/-- One step. -/
theorem Ordered.step (h : s.Ordered arrivals first) {t : Tid}
    (hstep : s.step arrivals t = some s') : s'.Ordered arrivals first := by
  rcases step_cases hstep with ⟨phase, phase', ledger', htask, hphase, hphase', rfl⟩ |
    ⟨reply, htask, hsuccess, rfl⟩ | ⟨reply, snap, htask, rfl⟩ | ⟨reply, htask, hno, rfl⟩ |
    ⟨reply, htask, rfl⟩
  · exact h.proceed htask hphase hphase'
  · -- the snapshot is taken
    refine h.advance (by rw [htask]; rfl) ?_ (fun _ => Or.inl) (fun _ => id)
      fun _ htask' => htask'.elim (fun h => nomatch h) fun h => nomatch h
    intro reply' snap htask'
    cases htask'
    exact ⟨rfl, (h.noted t).mpr ⟨reply, by rw [htask]; rfl, hsuccess⟩⟩
  · -- the snapshot is sent
    refine h.advance (by rw [htask]; rfl) (fun _ _ h => nomatch h) ?_
      (fun _ => List.mem_cons_of_mem snap)
      fun _ _ _ => ⟨snap, List.mem_cons_self, h.own t reply snap htask⟩
    intro snap' hmem
    rcases List.mem_cons.mp hmem with rfl | hmem
    · exact Or.inr ⟨reply, htask⟩
    · exact Or.inl hmem
  · -- no snapshot is taken
    refine h.advance (by rw [htask]; rfl) (fun _ _ h => nomatch h) (fun _ => Or.inl)
      (fun _ => id) ?_
    intro reply' htask' hsuccess
    rcases htask' with htask' | htask'
    · cases htask'
      exact absurd hsuccess hno
    · cases htask'
  · -- the answer is sent
    refine h.advance (by rw [htask]; rfl) (fun _ _ h => nomatch h) (fun _ => Or.inl)
      (fun _ => id) ?_
    intro reply' htask' hsuccess
    rcases htask' with htask' | htask'
    · cases htask'
    · cases htask'
      exact h.posted t reply (Or.inl htask) hsuccess

/-- A run of the handlers. -/
theorem ordered_of_run {actions : List Tid}
    (h : Runs (Handlers.step arrivals) Always (start first) actions s) :
    s.Ordered arrivals first :=
  h.invariant (Ordered arrivals first) ordered_start fun _ _ _ hordered _ hstep =>
    hordered.step hstep

omit [DecidableEq Tid] in
/-- When all have finished, the transfers that were made are those answered `SUCCESS`. -/
theorem Ordered.answered_of_made (h : s.Ordered arrivals first) (hfinished : s.Finished) {t : Tid}
    (hmade : t ∈ s.made) : ∃ reply, s.tasks t = .answered reply ∧ reply.IsSuccess := by
  obtain ⟨reply, hreply, hsuccess⟩ := (h.noted t).mp hmade
  rcases hfinished t with htask | ⟨reply', htask⟩
  · rw [htask] at hreply
    cases hreply
  · rw [htask] at hreply
    cases hreply
    exact ⟨reply, htask, hsuccess⟩

omit [DecidableEq Tid] in
/-- A snapshot that knows every transfer has the coordinator's balances. -/
theorem Ordered.made_eq (h : s.Ordered arrivals first) {snap : Snap Tid} (hmem : snap ∈ s.sent)
    (hall : ∀ t ∈ s.made, t ∈ snap.made) : snap.made = s.made := by
  obtain ⟨hsuffix, -⟩ := h.taken snap (Or.inl hmem)
  refine hsuffix.eq_of_length_le ?_
  exact (List.subperm_of_subset h.nodup hall).length_le

end Order

/-- **When no stale snapshot has the last word.**  Any number of handlers, interleaved in
any order, that have all finished: the snapshot sent last knows every transfer answered
`SUCCESS` and a backup ends with the coordinator's balances, exactly if that snapshot has
not been overtaken.

If an earlier snapshot knows a transfer that the last one does not, its handler has been answered
by now, and the last word is wrong about it.  If there is none, the last snapshot knows everything
that any of them knows, which is every transfer that was made. -/
theorem last_word_iff [DecidableEq Tid] {arrivals : Tid → Arrival} {first : Ledger}
    {s : Handlers Tid} {actions : List Tid}
    (h : Runs (Handlers.step arrivals) Always (start first) actions s) (hfinished : s.Finished) :
    s.LastWord arrivals first ↔ ¬ s.Overtaken := by
  have hordered := ordered_of_run h
  constructor
  · rintro ⟨hknows, -⟩ ⟨last, earlier, hsent, snap, hsnap, t, hmade, hmissing⟩
    have hmem : snap ∈ s.sent := by
      rw [hsent]
      exact List.mem_cons_of_mem last hsnap
    obtain ⟨reply, htask, hsuccess⟩ := hordered.answered_of_made hfinished
      ((hordered.taken snap (Or.inl hmem)).1.subset hmade)
    obtain ⟨last', hlast, -, hmade'⟩ := hknows t reply htask hsuccess
    rw [hsent] at hlast
    cases hlast
    exact hmissing hmade'
  · intro hcurrent
    cases hsent : s.sent with
    | nil =>
        -- nothing was sent, so no transfer was made
        have hnone : ∀ t reply, s.tasks t = .answered reply → ¬ reply.IsSuccess := by
          intro t reply htask hsuccess
          obtain ⟨snap, hmem, -⟩ := hordered.posted t reply (Or.inr htask) hsuccess
          rw [hsent] at hmem
          exact absurd hmem List.not_mem_nil
        have hmade : s.made = [] := by
          refine List.eq_nil_iff_forall_not_mem.mpr fun t hmem => ?_
          obtain ⟨reply, htask, hsuccess⟩ := hordered.answered_of_made hfinished hmem
          exact hnone t reply htask hsuccess
        refine ⟨fun t reply htask hsuccess => absurd hsuccess (hnone t reply htask), ?_⟩
        rw [hordered.ledger, hmade, backup, hsent]
        rfl
    | cons last earlier =>
        have hlast : last ∈ s.sent := by
          rw [hsent]
          exact List.mem_cons_self
        have hall : ∀ t ∈ s.made, t ∈ last.made := by
          intro t hmem
          obtain ⟨reply, htask, hsuccess⟩ := hordered.answered_of_made hfinished hmem
          obtain ⟨snap, hsnap, hmade⟩ := hordered.posted t reply (Or.inr htask) hsuccess
          rw [hsent] at hsnap
          rcases List.mem_cons.mp hsnap with rfl | hsnap
          · exact hmade
          · by_contra hmissing
            exact hcurrent ⟨last, earlier, hsent, snap, hsnap, t, hmade, hmissing⟩
        obtain ⟨-, hbalances⟩ := hordered.taken last (Or.inl hlast)
        constructor
        · intro t reply htask hsuccess
          have hmem := (hordered.noted t).mpr ⟨reply, by rw [htask]; rfl, hsuccess⟩
          exact ⟨last, by rw [hsent]; rfl, hbalances, hall t hmem⟩
        · rw [hordered.ledger, ← hordered.made_eq hlast hall, ← hbalances, backup, hsent]
          rfl

/-! ## Two handlers -/

/-- Handlers that have all answered have finished. -/
theorem finished_of_isAnswered {s : Handlers Tid} (h : ∀ t, (s.tasks t).isAnswered = true) :
    s.Finished := by
  intro t
  have ht := h t
  cases htask : s.tasks t with
  | answered reply => exact Or.inr ⟨reply, rfl⟩
  | _ =>
      rw [htask] at ht
      cases ht

/-- Client 1 sends 40 to client 2, and client 2 sends 30 to client 1. -/
def crossing : Bool → Arrival
  | false => ⟨1, ⟨1, 2, 40⟩⟩
  | true => ⟨2, ⟨1, 1, 30⟩⟩

/-- One handler makes its transfer after the other one, and sends its snapshot after it. -/
def inOrder : List Bool :=
  [false, false, false, true, true, true, false, false, true, true, false, true]

/-- The second snapshot knows both transfers. -/
theorem crossing_last_word : ∃ s : Handlers Bool,
    Runs (Handlers.step crossing) Always (start twoNewClients) inOrder s ∧
      s.LastWord crossing twoNewClients := by
  have hrun : (perform (Handlers.step crossing) (start twoNewClients) inOrder).any (fun s =>
      (s.tasks false).isAnswered && (s.tasks true).isAnswered &&
        s.sent.all fun snap => snap.made == [true, false]) = true := by
    decide +kernel
  obtain ⟨s, run, hchecked⟩ := exists_runs_of_any hrun
  rw [Bool.and_eq_true, Bool.and_eq_true, List.all_eq_true] at hchecked
  obtain ⟨⟨hfalse, htrue⟩, hmade⟩ := hchecked
  have hfinished : s.Finished :=
    finished_of_isAnswered (Bool.forall_bool.mpr ⟨hfalse, htrue⟩)
  refine ⟨s, run, (last_word_iff run hfinished).mpr ?_⟩
  rintro ⟨last, earlier, hsent, snap, hsnap, t, hmem, hmissing⟩
  have hlast := eq_of_beq (hmade last (by rw [hsent]; exact List.mem_cons_self))
  have hsame := eq_of_beq (hmade snap (by rw [hsent]; exact List.mem_cons_of_mem last hsnap))
  rw [hsame, ← hlast] at hmem
  exact hmissing hmem

/-- The first handler takes its snapshot, and the second one is faster from then on. -/
def outOfOrder : List Bool :=
  [false, false, false, false, true, true, true, true, true, true, false, false]

/-- **A stale snapshot has the last word.**  The backup loads both and does not have the
second transfer. -/
theorem stale_snapshot_has_last_word : ∃ s : Handlers Bool,
    Runs (Handlers.step crossing) Always (start twoNewClients) outOfOrder s ∧ s.Finished ∧
      ¬ s.LastWord crossing twoNewClients := by
  have hrun : (perform (Handlers.step crossing) (start twoNewClients) outOfOrder).any (fun s =>
      (s.tasks false).isAnswered && (s.tasks true).isAnswered &&
        balances (s.backup twoNewClients).databaseRecords 2 != balances s.ledger.records 2)
        = true := by
    decide +kernel
  obtain ⟨s, run, hchecked⟩ := exists_runs_of_any hrun
  rw [Bool.and_eq_true, Bool.and_eq_true] at hchecked
  obtain ⟨⟨hfalse, htrue⟩, hdiffer⟩ := hchecked
  refine ⟨s, run, finished_of_isAnswered (Bool.forall_bool.mpr ⟨hfalse, htrue⟩),
    fun hlast => ?_⟩
  rw [hlast.2] at hdiffer
  exact absurd hdiffer (by simp)

end Handlers

end Brix
