import Brix.Election.Network
import Mathlib.Data.Fintype.EquivFin
import Mathlib.Data.Fintype.Lattice

/-!
# Finished elections

An election is finished when nothing is on its way and no server is in `INIT` or
`IN_PROGRESS`.  `handle_coordinator_announcement` follows whoever announces itself and
stands down, whatever it knows by then, so crossing announcements can leave everybody
with somebody else's: `crossing_leaves_no_leader`.

What goes wrong is that an announcement is taken in after a later one of another server,
or is lost on a server that has not entered the loop yet and whose first turn looks at
nothing.  `agreed_leader` is the result for the runs in which neither happens (`Admitted`).  Its
invariant is `Followed`: the last announcement has been heard by every server or is on
its way to it, and a server that has heard it follows whoever made it.

### What is load-bearing

An announcement carries no number, and a server does not remember whose it took in last.  The
model numbers the announcements in the order in which they are made and remembers for each server
the number of the last one it has heard; no transition looks at these numbers, they are there to
state the invariant.

`Followed.pending` and `Followed.agreed` are the two halves of it.  A server that has not heard
the last announcement has it on its way; a server that has heard it follows its author, or is its
author and coordinates.  A new announcement makes the second half trivial for everybody but its
author and is broadcast to all, which restores the first half.  The step that could break both is
the reception of an earlier announcement by a server that has heard the last one, since it would
then follow somebody else, and of the last one by a server in `INIT`, which takes it out of the
pool and does not look at it.  These are the two steps that `Admitted` leaves out, and in both
cases only if they do harm.

That somebody coordinates at all needs one more thing, that not everybody waits.  A server waits
for a server with a higher id, so the one with the highest id does not (`Foremost`).
-/

namespace Brix

namespace Election

open Execution

namespace Network

variable {n : ℕ} {peers : Peers n} {net net' base : Network n} {server : Fin n}
  {result : Machine × List Output} {envelope : Envelope n} {action : Action n}

/-- Nothing is on its way and every server has finished. -/
def Finished (net : Network n) : Prop :=
  net.pool = [] ∧ ∀ server, (net.machines server).state ≠ .init ∧
    (net.machines server).state ≠ .inProgress

/-- Some server coordinates, and the others take it for the coordinator. -/
def Agreed (peers : Peers n) (net : Network n) : Prop :=
  ∃ leader, (net.machines leader).isCoordinator = true ∧
    ∀ server, server ≠ leader → (net.machines server).coordinatorIp = peers.address leader

/-- A server follows another one. -/
def Follows (peers : Peers n) (net : Network n) (server leader : Fin n) : Prop :=
  (net.machines server).isCoordinator = false ∧
    (net.machines server).coordinatorIp = peers.address leader

/-- The step does not go wrong: if a server receives another one's announcement, it has
entered the loop, and has neither made nor taken in a later one, or follows that server
already. -/
def Admitted (peers : Peers n) (net : Network n) : Action n → Prop
  | .deliver envelope _ _ =>
      envelope.message = .coordAnnouncement → envelope.sender ≠ envelope.receiver →
        (net.machines envelope.receiver).state ≠ .init ∧
          (net.heard envelope.receiver < envelope.stamp ∨
            net.Follows peers envelope.receiver envelope.sender)
  | _ => True

/-- How the servers stand towards the last announcement. -/
structure Followed (peers : Peers n) (net : Network n) : Prop where
  idle : net.Idle
  unheard : ∀ server, (net.machines server).state = .init → net.heard server = 0
  numbered : ∀ server, net.heard server ≤ net.announced.length
  stamped : ∀ envelope ∈ net.pool, envelope.message = .coordAnnouncement →
    0 < envelope.stamp ∧ envelope.stamp ≤ net.announced.length ∧
      (envelope.stamp = net.announced.length → net.announced.head? = some envelope.sender)
  pending : ∀ server, net.heard server = net.announced.length ∨
    ∃ envelope ∈ net.pool, envelope.message = .coordAnnouncement ∧
      envelope.sender ≠ envelope.receiver ∧ envelope.receiver = server ∧
      envelope.stamp = net.announced.length
  agreed : ∀ server leader, net.announced.head? = some leader →
    net.heard server = net.announced.length →
    (server = leader → (net.machines server).isCoordinator = true) ∧
    (server ≠ leader → (net.machines server).coordinatorIp = peers.address leader)
  settled : ∀ server, (net.machines server).state = .notInProgress → net.announced ≠ []

/-- Nobody has announced anything yet. -/
theorem followed_start (coordinatorIp : Fin n → InAddr) (lastReceivedId : Fin n → UInt32) :
    (start coordinatorIp lastReceivedId).Followed peers where
  idle _ _ := rfl
  unheard _ _ := rfl
  numbered _ := Nat.le_refl 0
  stamped _ h := absurd h List.not_mem_nil
  pending _ := Or.inl rfl
  agreed _ _ h := nomatch h
  settled _ h := nomatch h

/-- A message that is no announcement of another server is received.

The pool is smaller, and what is gone was no announcement that anybody needed. -/
theorem Followed.receive (h : net.Followed peers)
    (hother : envelope.message = .coordAnnouncement → envelope.sender = envelope.receiver) :
    (net.receive envelope).Followed peers := by
  have hheard : (net.receive envelope).heard = net.heard :=
    if_neg fun htakes => htakes.2.1 (hother htakes.1)
  constructor
  · exact h.idle
  · rw [hheard]
    exact h.unheard
  · rw [hheard]
    exact h.numbered
  · exact fun other hmem => h.stamped other (mem_of_mem_receive hmem)
  · intro server
    rw [hheard]
    refine (h.pending server).imp_right ?_
    rintro ⟨other, hmem, hmessage, hne, hrest⟩
    refine ⟨other, mem_receive hmem ?_, hmessage, hne, hrest⟩
    rintro rfl
    exact hne (hother hmessage)
  · rw [hheard]
    exact h.agreed
  · exact h.settled

/-- A quiet turn.

Such a turn neither makes nor takes in an announcement, so the numbers and whom a server follows
stay. -/
theorem Followed.quiet (h : net.Followed peers) (hturn : (net.machines server).Quiet result) :
    (net.after peers server result).Followed peers := by
  have hannounced : (net.after peers server result).announced = net.announced :=
    if_neg hturn.silent
  have hheard : (net.after peers server result).heard = net.heard := if_neg hturn.silent
  -- the machines are what they were, as far as the invariant looks at them
  have hmachines : ∀ other,
      ((net.after peers server result).machines other).isCoordinator
          = (net.machines other).isCoordinator ∧
        ((net.after peers server result).machines other).coordinatorIp
          = (net.machines other).coordinatorIp ∧
        (((net.after peers server result).machines other).state = .notInProgress →
          (net.machines other).state = .notInProgress) ∧
        (((net.after peers server result).machines other).state = .init →
          (net.machines other).state = .init) :=
    forall_after (P := fun other m => m.isCoordinator = (net.machines other).isCoordinator ∧
        m.coordinatorIp = (net.machines other).coordinatorIp ∧
        (m.state = .notInProgress → (net.machines other).state = .notInProgress) ∧
        (m.state = .init → (net.machines other).state = .init))
      ⟨hturn.role, hturn.leader, hturn.settled, hturn.begun⟩
      fun _ _ => ⟨rfl, rfl, fun h => h, fun h => h⟩
  constructor
  · intro other hstate
    exact (hmachines other).1.trans (h.idle other ((hmachines other).2.2.2 hstate))
  · intro other hstate
    rw [hheard]
    exact h.unheard other ((hmachines other).2.2.2 hstate)
  · rw [hheard, hannounced]
    exact h.numbered
  · intro other hmem hmessage
    rw [hannounced]
    rcases mem_after_cases hmem hmessage with hold | ⟨hspoken, -⟩
    · exact h.stamped other hold hmessage
    · exact absurd hspoken hturn.silent
  · intro other
    rw [hheard, hannounced]
    refine (h.pending other).imp_right ?_
    rintro ⟨envelope, hmem, hrest⟩
    exact ⟨envelope, mem_after hmem, hrest⟩
  · intro other leader
    rw [hheard, hannounced, (hmachines other).1, (hmachines other).2.1]
    exact h.agreed other leader
  · intro other hstate
    rw [hannounced]
    exact h.settled other ((hmachines other).2.2.1 hstate)

/-- A turn that ends with an announcement.

The new announcement is the last one from here on.  Its author has heard it by definition;
everybody else has it on its way. -/
theorem Followed.announced (h : net.Followed peers) (hturn : Machine.Announced result) :
    (net.after peers server result).Followed peers := by
  have hannounced : (net.after peers server result).announced = server :: net.announced :=
    if_pos hturn.spoken
  have hheard : (net.after peers server result).heard
      = Function.update net.heard server (net.announced.length + 1) := by
    show (if _ then _ else _) = _
    rw [if_pos hturn.spoken, if_pos hturn.spoken, List.length_cons]
  constructor
  · exact h.idle.after rfl fun hstate => nomatch hstate.symm.trans hturn.settled
  · intro other hstate
    by_cases hother : other = server
    · subst hother
      rw [after_machines_self, hturn.settled] at hstate
      cases hstate
    · rw [after_machines_of_ne hother] at hstate
      rw [hheard, Function.update_of_ne hother]
      exact h.unheard other hstate
  · intro other
    rw [hheard, hannounced, List.length_cons]
    by_cases hother : other = server
    · rw [hother, Function.update_self]
    · rw [Function.update_of_ne hother]
      exact Nat.le_succ_of_le (h.numbered other)
  · intro other hmem hmessage
    rw [hannounced, List.length_cons]
    rcases mem_after_cases hmem hmessage with hold | ⟨-, hsender, hstamp⟩
    · obtain ⟨hpos, hle, -⟩ := h.stamped other hold hmessage
      exact ⟨hpos, by omega, fun heq => absurd heq (by omega)⟩
    · -- the new announcement carries the new head of the list
      exact ⟨by omega, hstamp.le, fun _ => congrArg some hsender.symm⟩
  · intro other
    rw [hheard, hannounced, List.length_cons]
    -- the speaker has heard itself, for anybody else the announcement is in flight
    by_cases hother : other = server
    · left
      rw [hother, Function.update_self]
    · right
      exact ⟨_, announcement_mem_after hturn.spoken other, rfl, Ne.symm hother, rfl, rfl⟩
  · intro other leader hleader hlast
    rw [hannounced] at hleader hlast
    obtain rfl : server = leader := Option.some.inj hleader
    by_cases hother : other = server
    · subst hother
      rw [after_machines_self]
      exact ⟨fun _ => hturn.role, fun hne => absurd rfl hne⟩
    · rw [hheard, Function.update_of_ne hother, List.length_cons] at hlast
      -- nobody else can have heard an announcement made just now
      have hle := h.numbered other
      omega
  · intro other _
    rw [hannounced]
    exact List.cons_ne_nil _ _

/-- A turn that takes in an announcement, a later one or one of the server that is
followed.

If it is a later one it may be the last; if not, the server follows its author already, and nothing
changes. -/
theorem Followed.adopted (h : net.Followed peers) (hsent : envelope ∈ net.pool)
    (htakes : net.TakesIn envelope)
    (hlater : net.heard envelope.receiver < envelope.stamp ∨
      net.Follows peers envelope.receiver envelope.sender)
    (hturn : Machine.Adopted (peers.address envelope.sender) result) :
    ((net.receive envelope).after peers envelope.receiver result).Followed peers := by
  have ⟨hmessage, hne, _⟩ := htakes
  obtain ⟨hpos, hle, hhead⟩ := h.stamped envelope hsent hmessage
  have hannounced : ((net.receive envelope).after peers envelope.receiver result).announced
      = net.announced := if_neg hturn.silent
  have hheard : ((net.receive envelope).after peers envelope.receiver result).heard
      = Function.update net.heard envelope.receiver
          (max (net.heard envelope.receiver) envelope.stamp) := by
    show (if _ then _ else (if _ then _ else _)) = _
    rw [if_neg hturn.silent, if_pos htakes]
  constructor
  · exact h.idle.after rfl fun _ => hturn.role
  · intro other hstate
    by_cases hother : other = envelope.receiver
    · rw [hother, after_machines_self, hturn.settled] at hstate
      cases hstate
    · rw [after_machines_of_ne hother] at hstate
      rw [hheard, Function.update_of_ne hother]
      exact h.unheard other hstate
  · -- a number heard is never above the number of announcements made
    intro other
    rw [hheard, hannounced]
    by_cases hother : other = envelope.receiver
    · rw [hother, Function.update_self]
      exact max_le (h.numbered envelope.receiver) hle
    · rw [Function.update_of_ne hother]
      exact h.numbered other
  · intro other hmem hmessage'
    rw [hannounced]
    rcases mem_after_cases hmem hmessage' with hold | ⟨hspoken, -⟩
    · exact h.stamped other (mem_of_mem_receive hold) hmessage'
    · exact absurd hspoken hturn.silent
  · intro other
    rw [hheard, hannounced]
    by_cases hother : other = envelope.receiver
    · subst hother
      rw [Function.update_self]
      rcases h.pending envelope.receiver with hold | ⟨last, hmem, hmessage', hne', hto, hstamp⟩
      · left
        omega
      · -- with the last announcement taken in there is nothing left to wait for
        by_cases hlast : envelope.stamp = net.announced.length
        · have hnumbered := h.numbered envelope.receiver
          left
          omega
        · refine Or.inr ⟨last, mem_after (mem_receive hmem ?_), hmessage', hne', hto, hstamp⟩
          rintro rfl
          exact hlast hstamp
    · rw [Function.update_of_ne hother]
      refine (h.pending other).imp_right ?_
      rintro ⟨last, hmem, hmessage', hne', hto, hstamp⟩
      refine ⟨last, mem_after (mem_receive hmem ?_), hmessage', hne', hto, hstamp⟩
      rintro rfl
      exact hother hto.symm
  · intro other leader hleader hlast
    rw [hheard, hannounced] at hlast
    rw [hannounced] at hleader
    by_cases hother : other = envelope.receiver
    · subst hother
      rw [Function.update_self] at hlast
      rw [after_machines_self]
      -- the receiver follows the last speaker if it has just heard it
      by_cases hstamp : envelope.stamp = net.announced.length
      · obtain rfl : envelope.sender = leader :=
          Option.some.inj ((hhead hstamp).symm.trans hleader)
        exact ⟨fun heq => absurd heq.symm hne, fun _ => hturn.leader⟩
      · -- an earlier announcement of the server that made the last one
        obtain ⟨hself, hothers⟩ := h.agreed envelope.receiver leader hleader (by omega)
        obtain ⟨hrole, hleader'⟩ := hlater.resolve_left (by omega)
        exact ⟨fun heq => absurd (hself heq) (by simp [hrole]),
          fun hne' => hturn.leader.trans (hleader'.symm.trans (hothers hne'))⟩
    · rw [Function.update_of_ne hother] at hlast
      rw [after_machines_of_ne hother]
      exact h.agreed other leader hleader hlast
  · intro _ _
    rw [hannounced]
    exact List.length_pos_iff.mp (Nat.lt_of_lt_of_le hpos hle)

/-- One admitted step.

The steps are those of `Network.Step`, each with the kind of turn that it is. -/
theorem Followed.step (h : net.Followed peers) (hadmitted : net.Admitted peers action)
    (step : Step peers net action net') : net'.Followed peers := by
  cases step with
  | own turn =>
      rcases turn with hquiet | hannounced
      · exact h.quiet hquiet
      · exact h.announced hannounced
  | passed sent other turn =>
      rcases turn with hquiet | hannounced
      · exact (h.receive other).quiet hquiet
      · exact (h.receive other).announced hannounced
  | adopted sent takesIn turn =>
      exact h.adopted sent takesIn (hadmitted takesIn.1 takesIn.2.1).2 turn
  | swallowed sent announcement init turn =>
      exact absurd init (hadmitted announcement.1 announcement.2).1

/-! ## The server with the highest id -/

/-- No server waits that no other server has a higher id than. -/
def Foremost (peers : Peers n) (net : Network n) : Prop :=
  ∀ server, (∀ other, peers.id other ≤ peers.id server) →
    (net.machines server).state ≠ .waitingForCoord

/-- A message in the network makes its receiver wait only if its sender's id is higher. -/
theorem Foremost.after (h : net.Foremost peers) (hmachines : base.machines = net.machines)
    (hturn : result.1.state = .waitingForCoord → (net.machines server).state = .waitingForCoord ∨
      ∃ other, ¬ peers.id other ≤ peers.id server) :
    (base.after peers server result).Foremost peers := by
  refine forall_after (P := fun other m => (∀ third, peers.id third ≤ peers.id other) →
    m.state ≠ .waitingForCoord) (fun hhighest hwaiting => ?_) fun other _ => hmachines ▸ h other
  rcases hturn hwaiting with hbefore | ⟨higher, hhigher⟩
  · exact h server hhighest hbefore
  · exact hhigher (hhighest higher)

/-- Only messages of servers with a higher id make a server wait. -/
theorem Foremost.step (h : net.Foremost peers) (taken : net.step peers action = some net') :
    net'.Foremost peers := by
  cases action with
  | deliver envelope elapsed calls =>
      obtain ⟨-, rfl⟩ := step_deliver taken
      refine h.after rfl fun hwaiting => ?_
      rcases Machine.iterate_waiting hwaiting with hbefore | ⟨senderId, hvalid, hid⟩
      · exact Or.inl hbefore
      · right
        have hread : isValidElectionMessage (peers.id envelope.receiver)
            (.of ((input peers envelope elapsed).datagram.map Prod.snd)) = _ :=
          isValid_text envelope.message "ELE".toList _ (peers.id envelope.sender)
        rw [hvalid] at hread
        split at hread
        · rename_i hvalid'
          obtain rfl := Option.some.inj hread
          exact ⟨envelope.sender, fun hle => hid (UInt32.lt_of_le_of_ne hle hvalid'.2)⟩
        · cases hread
  | timeout server elapsed calls =>
      cases taken
      refine h.after rfl fun hwaiting => ?_
      rcases Machine.iterate_waiting hwaiting with hbefore | ⟨senderId, hvalid, -⟩
      · exact Or.inl hbefore
      · exact nomatch hvalid.symm.trans (isValid_none _ _)
  | backup server =>
      cases taken
      exact h.after rfl nofun

/-- **When a finished election leaves a leader.**  Any number of servers, any moments of
timeouts and calls of `backup_election`, any order of delivery in which no server
receives an announcement of another one before it has entered the loop, or after a later
one unless it follows that server anyway: whenever the election is finished, some server
coordinates and all others take it for the coordinator.

Two invariants carry it.  By `Foremost` the server with the highest id never waits, since nobody
answers it; so at the end, when nobody is in an election, there has been an announcement.  By
`Followed` everybody has heard the announcements in one order as far as they have been delivered,
and at the end that is all of them; so everybody follows the last one. -/
theorem agreed_leader (hservers : 0 < n) {coordinatorIp : Fin n → InAddr}
    {lastReceivedId : Fin n → UInt32} {actions : List (Action n)}
    (run : Runs (Network.step peers) (Admitted peers) (start coordinatorIp lastReceivedId)
      actions net)
    (hfinished : net.Finished) : net.Agreed peers := by
  obtain ⟨hfollowed, hforemost⟩ : net.Followed peers ∧ net.Foremost peers := by
    refine run.invariant (fun net => net.Followed peers ∧ net.Foremost peers)
      ⟨followed_start coordinatorIp lastReceivedId, nofun⟩ ?_
    intro net action net' h hadmitted taken
    exact ⟨h.1.step hadmitted (step_cases h.1.idle taken), h.2.step taken⟩
  obtain ⟨hpool, hstates⟩ := hfinished
  -- the foremost server does not wait, so there has been an announcement
  have hsome : net.announced ≠ [] := by
    obtain ⟨foremost, hhighest⟩ : ∃ foremost, ∀ other, peers.id other ≤ peers.id foremost := by
      have : Nonempty (Fin n) := ⟨⟨0, hservers⟩⟩
      obtain ⟨foremost, hmax⟩ := Finite.exists_max fun server => (peers.id server).toNat
      exact ⟨foremost, fun other => UInt32.le_iff_toNat_le.mpr (hmax other)⟩
    have hwaiting := hforemost foremost hhighest
    obtain ⟨hinit, hprogress⟩ := hstates foremost
    cases hstate : (net.machines foremost).state with
    | init => exact absurd hstate hinit
    | notInProgress => exact hfollowed.settled foremost hstate
    | inProgress => exact absurd hstate hprogress
    | waitingForCoord => exact absurd hstate hwaiting
  -- and everybody has heard the last one
  have hheard : ∀ server, net.heard server = net.announced.length := by
    intro server
    rcases hfollowed.pending server with hheard | ⟨envelope, hmem, -⟩
    · exact hheard
    · rw [hpool] at hmem
      cases hmem
  obtain ⟨leader, earlier, hannounced⟩ := List.exists_cons_of_ne_nil hsome
  have hleader : net.announced.head? = some leader := by rw [hannounced, List.head?_cons]
  exact ⟨leader, (hfollowed.agreed leader leader hleader (hheard leader)).1 rfl,
    fun server => (hfollowed.agreed server leader hleader (hheard server)).2⟩

/-! ## Two servers -/

/-- Server 1 has the higher id.  It answers server 0, announces itself, and its
announcement is the only one. -/
def oneAnnounces : List (Action 2) :=
  [.timeout 0 0 0, .timeout 1 0 0,
    .deliver ⟨0, 0, .election, 0⟩ 0 0, .deliver ⟨1, 1, .election, 0⟩ 0 0,
    .deliver ⟨0, 1, .election, 0⟩ 0 0, .deliver ⟨1, 0, .election, 0⟩ 0 0,
    .deliver ⟨1, 0, .answer, 0⟩ 0 0, .timeout 1 200 0,
    .deliver ⟨1, 1, .coordAnnouncement, 1⟩ 0 0, .deliver ⟨1, 0, .coordAnnouncement, 1⟩ 0 0]

instance (net : Network n) (server leader : Fin n) : Decidable (net.Follows peers server leader) :=
  inferInstanceAs (Decidable (_ ∧ _))

instance (net : Network n) (action : Action n) : Decidable (net.Admitted peers action) :=
  match action with
  | .deliver envelope _ _ =>
      inferInstanceAs (Decidable (envelope.message = .coordAnnouncement →
        envelope.sender ≠ envelope.receiver →
          (net.machines envelope.receiver).state ≠ .init ∧
            (net.heard envelope.receiver < envelope.stamp ∨
              net.Follows peers envelope.receiver envelope.sender)))
  | .timeout .. => inferInstanceAs (Decidable True)
  | .backup _ => inferInstanceAs (Decidable True)

instance (net : Network n) : Decidable net.Finished :=
  inferInstanceAs (Decidable (_ ∧ ∀ _, _))

instance (net : Network n) : Decidable (net.Agreed peers) :=
  inferInstanceAs (Decidable (∃ _, _ ∧ ∀ _, _))

/-- The election is finished, and server 1 leads. -/
theorem oneAnnounces_agreed : ∃ net,
    Runs (step twoPeers) (Admitted twoPeers) twoServers oneAnnounces net ∧ net.Finished ∧
      net.Agreed twoPeers := by
  have hrun : (perform (guarded (step twoPeers) (Admitted twoPeers)) twoServers oneAnnounces).any
      (fun net => decide net.Finished) = true := by
    decide
  obtain ⟨net, run, hfinished⟩ := exists_runs_of_any_guarded hrun
  have hfinished : net.Finished := of_decide_eq_true hfinished
  exact ⟨net, run, hfinished, agreed_leader (by decide) run hfinished⟩

/-- Both servers announce themselves and each takes in the other's announcement. -/
def announcementsCross : List (Action 2) :=
  [.timeout 0 0 0, .timeout 1 0 0,
    .deliver ⟨0, 0, .election, 0⟩ 0 0, .deliver ⟨1, 1, .election, 0⟩ 0 0,
    .deliver ⟨0, 1, .election, 0⟩ 0 0, .timeout 0 200 0, .timeout 1 200 0,
    .deliver ⟨0, 0, .coordAnnouncement, 1⟩ 0 0, .deliver ⟨1, 1, .coordAnnouncement, 2⟩ 0 0,
    .deliver ⟨0, 1, .coordAnnouncement, 1⟩ 0 0, .deliver ⟨1, 0, .coordAnnouncement, 2⟩ 0 0,
    .deliver ⟨1, 0, .election, 0⟩ 0 0, .deliver ⟨1, 0, .answer, 0⟩ 0 0]

/-- **Crossing announcements can leave no leader.** -/
theorem crossing_leaves_no_leader : ∃ net,
    Runs (step twoPeers) Always twoServers announcementsCross net ∧ net.Finished ∧
      ¬ net.Agreed twoPeers := by
  have hrun : (perform (step twoPeers) twoServers announcementsCross).any
      (fun net => decide (net.Finished ∧ ¬ net.Agreed twoPeers)) = true := by
    decide
  obtain ⟨net, run, hlost⟩ := exists_runs_of_any hrun
  exact ⟨net, run, of_decide_eq_true hlost⟩

end Network

end Election

end Brix
