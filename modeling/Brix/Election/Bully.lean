import Brix.Election.Agreement
import Brix.Election.Turns

/-!
# Whether the highest id wins

When an election is finished at most one server coordinates (`coordinators_announced`).
It need not be the one with the highest id: that one takes in any announcement, so it
yields to a lower server whose announcement reaches it in time, and if nothing makes it
run again it stays with that.

`Recalled` is what does make it run again, or makes the lower server stand down: an
election it is in, an election message on its way to it, a server that has still to enter
the loop, an announcement of either on its way to the other.  As long as every
coordinator with a lower id is recalled in this sense whenever the highest server takes
in an announcement, it is so always (`Contested`), and in a finished election nothing is
left to recall anybody: `highest_coordinates`.

### What is load-bearing

The claim is about finished elections, and nothing can be said about them by looking at one: a
finished election has a history, and what matters is what could still have come.  `Contested` is
that history turned into a fact about the present.  Every server that coordinates and should not
is owed something, namely one of the five things in `Recalled`, and each of these is either a
message that is still in the pool or a state that a finished election does not have.

So the proof of a step is a debt that changes hands.  An election message on its way to the
highest server becomes an election that it is in (`step_joins`); the election ends with an
announcement to everybody (`step_inProgress`); the announcement is taken in by the server that
coordinates, which stands down (`step_standsDown`).  A new coordinator pays for itself, because it
announces itself to everybody, the highest server included (`coordinator_step`).

At one point the debt is lost: the highest server takes in an announcement while it is in an
election, and forgets about that election.  Nothing in the source prevents it, and
`lower_coordinates` is a run in which it happens.  `Defended` excludes this step only if the
announcement leaves some coordinator unrecalled (`Yields`), and it is therefore not an assumption
about the order of delivery as such.
-/

namespace Brix

namespace Election

open Execution

namespace Machine

variable {id senderId : UInt32} {m : Machine} {input : Input} {calls : ℕ}

/-- A turn with calls leaves the state to the calls until its branch.

`backup_election` sets the state to `IN_PROGRESS` and does nothing else to it. -/
theorem interrupted_inProgress (h : m.state = .inProgress) :
    (m.interrupted input calls).state = .inProgress := by
  have hcalls : ∀ calls (m : Machine), m.state = .inProgress →
      (m.backupElections calls).1.state = .inProgress := by
    intro calls
    induction calls with
    | zero => exact fun _ h => h
    | succ calls ih => exact fun m _ => ih m.backupElection.1 rfl
  exact hcalls calls _ ((receive_state input m).trans h)

/-- The first turn that is not skipped begins an election.

While turns are skipped, because of a stale loopback source, the server stays in `INIT`. -/
theorem iterate_first (hinit : m.state = .init) :
    (m.iterate id input calls).1.state = .init ∨
      (m.iterate id input calls).1.state = .inProgress ∧
        .broadcast .election ∈ (m.iterate id input calls).2 := by
  rw [iterate_act]
  split
  · exact Or.inl ((receive_state input m).trans hinit)
  · rw [hinit]
    exact Or.inr ⟨rfl, List.mem_append_right _ (List.mem_singleton_self _)⟩

/-- An election message from a lower id is joined, by whoever does not wait. -/
theorem iterate_joins (hlooks : isLoopback (m.receive input).ssCliaddr = false)
    (hvalid : isValidElectionMessage id (.of (input.datagram.map Prod.snd)) = some senderId)
    (hlower : senderId < id) (hwaiting : m.state ≠ .waitingForCoord) :
    (m.iterate id input calls).1.state = .inProgress := by
  have hreading : input.reading id = .election senderId := Reading.of_eq_election.mpr hvalid
  rw [iterate_act, if_neg (by rw [hlooks]; nofun), hreading]
  cases hstate : m.state with
  | init => rfl
  | notInProgress => simp only [act, if_pos hlower]
  | inProgress =>
      simp only [act, if_pos hlower]
      exact interrupted_inProgress hstate
  | waitingForCoord => exact absurd hstate hwaiting

end Machine

namespace Network

variable {n : ℕ} {peers : Peers n} {net net' : Network n} {top server : Fin n}
  {action : Action n} {envelope : Envelope n}

/-- The server with the highest id.

Ids may be equal in this definition; that they are distinct is a hypothesis of the result. -/
def Highest (peers : Peers n) (top : Fin n) : Prop := ∀ other, peers.id other ≤ peers.id top

/-- `top` is in an election, or will be: an election message of another server is on its
way to it, or some server has still to enter the loop. -/
def Running (net : Network n) (top : Fin n) : Prop :=
  (net.machines top).state = .inProgress ∨
    (∃ envelope ∈ net.pool, envelope.message = .election ∧ envelope.receiver = top ∧
      envelope.sender ≠ top) ∨
    ∃ server, (net.machines server).state = .init

/-- `top` and a server that coordinates are not done with each other.

An announcement of `top` makes the other server stand down; one of the other server makes `top`
follow it, which is no help by itself, but it is on its way only for as long as the other server
has not stood down since. -/
def Recalled (net : Network n) (top server : Fin n) : Prop :=
  net.Running top ∨ net.Announcing server top ∨ net.Announcing top server

/-- Every other server that coordinates is recalled. -/
def Contested (net : Network n) (top : Fin n) : Prop :=
  ∀ server, server ≠ top → (net.machines server).isCoordinator = true → net.Recalled top server

/-- The network when `envelope` has been received, as far as it recalls anybody: a server
that takes in an announcement is not in an election any more.

The states that `Recalled` mentions are those after the step, and by then the receiver has left its
election; so what is left to recall anybody must be found in the pool or in a server that has not
begun. -/
def Yields (net : Network n) (envelope : Envelope n) (server : Fin n) : Prop :=
  ((∃ other ∈ (net.receive envelope).pool, other.message = .election ∧
      other.receiver = envelope.receiver ∧ other.sender ≠ envelope.receiver) ∨
    ∃ server, (net.machines server).state = .init) ∨
  (net.receive envelope).Announcing server envelope.receiver ∨
  (net.receive envelope).Announcing envelope.receiver server

/-- The step does not go wrong: if the server with the highest id takes in an
announcement, every other coordinator is recalled. -/
def Defended (peers : Peers n) (net : Network n) : Action n → Prop
  | .deliver envelope _ _ =>
      Highest peers envelope.receiver → net.TakesIn envelope →
        ∀ server, server ≠ envelope.receiver → (net.machines server).isCoordinator = true →
          net.Yields envelope server
  | _ => True

/-- A message that is on its way still is, unless it is received.

Nothing is lost in the network, so what is on its way to a server can be waited for. -/
theorem mem_step (hmem : envelope ∈ net.pool) (taken : net.step peers action = some net') :
    envelope ∈ net'.pool ∨ ∃ elapsed calls, action = .deliver envelope elapsed calls := by
  cases action with
  | deliver received elapsed calls =>
      obtain ⟨-, rfl⟩ := step_deliver taken
      by_cases hsame : envelope = received
      · exact Or.inr ⟨elapsed, calls, by rw [hsame]⟩
      · exact Or.inl (mem_after (mem_receive hmem hsame))
  | timeout server elapsed calls =>
      cases taken
      exact Or.inl (mem_after hmem)
  | backup server =>
      cases taken
      exact Or.inl (mem_after hmem)

/-- A broadcast is on its way to everybody. -/
theorem broadcast_mem_after {result : Machine × List Output} {message : Message}
    (hsent : .broadcast message ∈ result.2) (receiver : Fin n) :
    ∃ envelope ∈ (net.after peers server result).pool, envelope.message = message ∧
      envelope.receiver = receiver ∧ envelope.sender = server := by
  have hmem : ⟨server, receiver, message, (net.after peers server result).announced.length⟩
      ∈ (net.after peers server result).pool := by
    apply List.mem_append_left
    rw [List.mem_flatMap]
    exact ⟨_, hsent, List.mem_map.mpr ⟨receiver, List.mem_finRange receiver, rfl⟩⟩
  exact ⟨_, hmem, rfl, rfl, rfl⟩

/-- A server that has yet to enter the loop still has, or has sent everybody an election
message. -/
theorem step_first (taken : net.step peers action = some net')
    (hinit : (net.machines server).state = .init) (top : Fin n) : net'.Running top := by
  -- the server acts, or another one does and it stays as it is
  have hacts : ∀ {base : Network n} {actor : Fin n} {result : Machine × List Output},
      base.machines = net.machines →
      (actor = server → result.1.state = .init ∨ result.1.state = .inProgress ∧
        .broadcast .election ∈ result.2) →
      (base.after peers actor result).Running top := by
    intro base actor result hmachines hactor
    by_cases hserver : actor = server
    · subst hserver
      rcases hactor rfl with hstill | ⟨hbegun, hsent⟩
      · exact Or.inr (Or.inr ⟨actor, by rw [after_machines_self, hstill]⟩)
      · by_cases htop : actor = top
        · subst htop
          exact Or.inl (by rw [after_machines_self, hbegun])
        · obtain ⟨envelope, hmem, hmessage, hreceiver, hsender⟩ :=
            broadcast_mem_after hsent top
          exact Or.inr (Or.inl ⟨envelope, hmem, hmessage, hreceiver, hsender ▸ htop⟩)
    · exact Or.inr (Or.inr ⟨server, by
        rw [after_machines_of_ne (Ne.symm hserver), hmachines, hinit]⟩)
  cases action with
  | deliver envelope elapsed calls =>
      obtain ⟨-, rfl⟩ := step_deliver taken
      refine hacts rfl fun hserver => ?_
      subst hserver
      exact Machine.iterate_first hinit
  | timeout actor elapsed calls =>
      cases taken
      refine hacts rfl fun hserver => ?_
      subst hserver
      exact Machine.iterate_first hinit
  | backup actor =>
      cases taken
      exact hacts rfl fun _ => Or.inr ⟨rfl, List.mem_singleton_self _⟩

/-- An election message makes the highest server run. -/
theorem step_joins (htop : Highest peers top) (hforemost : net.Foremost peers)
    {elapsed : ℤ} {calls : ℕ}
    (taken : net.step peers (.deliver envelope elapsed calls) = some net')
    (hmessage : envelope.message = .election) (hreceiver : envelope.receiver = top)
    (hsender : envelope.sender ≠ top) : net'.Running top := by
  obtain ⟨-, rfl⟩ := step_deliver taken
  subst hreceiver
  have hread : isValidElectionMessage (peers.id envelope.receiver)
      (.of ((input peers envelope elapsed).datagram.map Prod.snd))
        = some (peers.id envelope.sender) := by
    have hvalid := isValid_text envelope.message "ELE".toList (peers.id envelope.receiver)
      (peers.id envelope.sender)
    rw [if_pos ⟨by rw [hmessage]; rfl, peers.distinct.ne hsender⟩] at hvalid
    exact hvalid
  have hlower : peers.id envelope.sender < peers.id envelope.receiver :=
    UInt32.lt_of_le_of_ne (htop envelope.sender) (peers.distinct.ne hsender)
  have hsource : isLoopback ((net.machines envelope.receiver).receive
      (input peers envelope elapsed)).ssCliaddr = false := peers.notLoopback envelope.sender
  left
  rw [after_machines_self]
  exact Machine.iterate_joins hsource hread hlower (hforemost envelope.receiver htop)

/-- Whoever coordinates has done so before, or has just announced itself to everybody. -/
theorem coordinator_step (hidle : net.Idle) (taken : net.step peers action = some net')
    (hrole : (net'.machines server).isCoordinator = true) :
    (net.machines server).isCoordinator = true ∨ ∀ other, net'.Announcing server other := by
  have hacts : ∀ {base : Network n} {actor : Fin n} {result : Machine × List Output},
      base.machines = net.machines → net' = base.after peers actor result →
      ((net.machines actor).Quiet result ∨ Machine.Announced result) →
      (net.machines server).isCoordinator = true ∨ ∀ other, net'.Announcing server other := by
    rintro base actor result hmachines rfl hturn
    by_cases hserver : server = actor
    · subst hserver
      rw [after_machines_self] at hrole
      rcases hturn with hquiet | hannounced
      · exact Or.inl (hquiet.role.symm.trans hrole)
      · exact Or.inr fun other =>
          ⟨_, announcement_mem_after hannounced.spoken other, rfl, rfl, rfl⟩
    · rw [after_machines_of_ne hserver, hmachines] at hrole
      exact Or.inl hrole
  cases step_cases hidle taken with
  | own turn => exact hacts rfl rfl turn
  | @passed envelope elapsed calls result sent other turn =>
      exact hacts (show (net.receive envelope).machines = net.machines from rfl) rfl turn
  | @swallowed envelope elapsed calls result sent announcement init turn =>
      exact hacts (show (net.receive envelope).machines = net.machines from rfl) rfl (Or.inl turn)
  | @adopted envelope elapsed calls result sent takesIn turn =>
      by_cases hserver : server = envelope.receiver
      · rw [hserver, after_machines_self, turn.role] at hrole
        cases hrole
      · rw [after_machines_of_ne hserver] at hrole
        exact Or.inl hrole

/-- An announcement that `server` takes in ends its coordination. -/
theorem step_standsDown (hidle : net.Idle) {elapsed : ℤ} {calls : ℕ}
    (taken : net.step peers (.deliver envelope elapsed calls) = some net')
    (hmessage : envelope.message = .coordAnnouncement) (hsender : envelope.sender ≠ server)
    (hreceiver : envelope.receiver = server) :
    (net'.machines server).isCoordinator = false := by
  obtain ⟨-, rfl⟩ := step_deliver taken
  subst hreceiver
  rw [after_machines_self]
  have hvalid := isValidCoordAnnouncement_input peers envelope elapsed
  rw [if_pos ⟨hmessage, hsender⟩] at hvalid
  by_cases hinit : (net.machines envelope.receiver).state = .init
  · have hrole := hidle _ hinit
    exact (Machine.iterate_init hinit hrole).role.trans hrole
  · have hsource : isLoopback ((net.machines envelope.receiver).receive
        (input peers envelope elapsed)).ssCliaddr = false := peers.notLoopback envelope.sender
    exact (Machine.iterate_adopted hinit hsource hvalid).role

/-- The election of the highest server goes on, or ends with an announcement to
everybody, unless it takes in an announcement. -/
theorem step_inProgress (htop : Highest peers top) (hidle : net.Idle)
    (hforemost : net'.Foremost peers) (taken : net.step peers action = some net')
    (hstate : (net.machines top).state = .inProgress) :
    (net'.machines top).state = .inProgress ∨ (∀ other, net'.Announcing top other) ∨
      ∃ envelope elapsed calls, action = .deliver envelope elapsed calls ∧
        envelope.receiver = top ∧ net.TakesIn envelope := by
  -- a turn that takes in nothing leaves the highest server in progress or makes it announce
  have hacts : ∀ {base : Network n} {actor : Fin n} {result : Machine × List Output},
      base.machines = net.machines → net' = base.after peers actor result →
      ((net.machines actor).Quiet result ∨ Machine.Announced result) →
      (net'.machines top).state = .inProgress ∨ (∀ other, net'.Announcing top other) := by
    rintro base actor result hmachines rfl hturn
    by_cases hactor : top = actor
    · subst hactor
      rcases hturn with hquiet | hannounced
      · have hnotWaiting := hforemost top htop
        rw [after_machines_self] at hnotWaiting ⊢
        left
        cases hresult : result.1.state with
        | init => exact nomatch hstate.symm.trans (hquiet.begun hresult)
        | notInProgress => exact nomatch hstate.symm.trans (hquiet.settled hresult)
        | inProgress => rfl
        | waitingForCoord => exact absurd hresult hnotWaiting
      · exact Or.inr fun other =>
          ⟨_, announcement_mem_after hannounced.spoken other, rfl, rfl, rfl⟩
    · left
      rw [after_machines_of_ne hactor, hmachines, hstate]
  cases step_cases hidle taken with
  | own turn => exact (hacts rfl rfl turn).imp_right Or.inl
  | @passed envelope elapsed calls result sent other turn =>
      exact (hacts (show (net.receive envelope).machines = net.machines from rfl) rfl
        turn).imp_right Or.inl
  | @swallowed envelope elapsed calls result sent announcement init turn =>
      exact (hacts (show (net.receive envelope).machines = net.machines from rfl) rfl
        (Or.inl turn)).imp_right Or.inl
  | @adopted envelope elapsed calls result sent takesIn turn =>
      by_cases hreceiver : top = envelope.receiver
      · exact Or.inr (Or.inr ⟨envelope, elapsed, calls, rfl, hreceiver.symm, takesIn⟩)
      · left
        rw [after_machines_of_ne hreceiver]
        exact hstate

/-- What the step leaves to recall a server, when the highest one takes in an
announcement. -/
theorem Yields.step {elapsed : ℤ} {calls : ℕ} (h : net.Yields envelope server)
    (taken : net.step peers (.deliver envelope elapsed calls) = some net') :
    net'.Recalled envelope.receiver server := by
  have hstep := step_deliver taken
  have hkept : ∀ other ∈ (net.receive envelope).pool, other ∈ net'.pool := by
    obtain ⟨-, rfl⟩ := hstep
    exact fun other hmem => mem_after hmem
  rcases h with (⟨other, hmem, hrest⟩ | ⟨first, hinit⟩) | ⟨other, hmem, hrest⟩ |
    ⟨other, hmem, hrest⟩
  · exact Or.inl (Or.inr (Or.inl ⟨other, hkept other hmem, hrest⟩))
  · exact Or.inl (step_first taken hinit envelope.receiver)
  · exact Or.inr (Or.inl ⟨other, hkept other hmem, hrest⟩)
  · exact Or.inr (Or.inr ⟨other, hkept other hmem, hrest⟩)

/-- One step that does not go wrong.

The cases are those of what the highest server does: it takes in an announcement, which is where
the hypothesis is used, or it does not, and then what recalls each coordinator is handed on. -/
theorem Contested.step (htop : Highest peers top) (h : net.Contested top) (hidle : net.Idle)
    (hforemost : net.Foremost peers) (hdefended : net.Defended peers action)
    (taken : net.step peers action = some net') : net'.Contested top := by
  intro server hne hrole
  rcases coordinator_step hidle taken hrole with hbefore | hannounced
  swap
  · exact Or.inr (Or.inl (hannounced top))
  -- what recalled the server still does, unless it is the message received now
  have hyields : ∀ envelope elapsed calls, action = .deliver envelope elapsed calls →
      envelope.receiver = top → net.TakesIn envelope → net'.Recalled top server := by
    rintro envelope elapsed calls rfl rfl htakes
    exact (hdefended htop htakes server hne hbefore).step taken
  rcases h server hne hbefore with (hprogress | ⟨envelope, hmem, hmessage, hreceiver, hsender⟩ |
    ⟨first, hinit⟩) | ⟨envelope, hmem, hmessage, hsender, hreceiver⟩ |
    ⟨envelope, hmem, hmessage, hsender, hreceiver⟩
  · rcases step_inProgress htop hidle (hforemost.step taken) taken hprogress with hstill |
      hannounced | ⟨envelope, elapsed, calls, haction, hreceiver, htakes⟩
    · exact Or.inl (Or.inl hstill)
    · exact Or.inr (Or.inr (hannounced server))
    · exact hyields envelope elapsed calls haction hreceiver htakes
  · rcases mem_step hmem taken with hkept | ⟨elapsed, calls, rfl⟩
    · exact Or.inl (Or.inr (Or.inl ⟨envelope, hkept, hmessage, hreceiver, hsender⟩))
    · exact Or.inl (step_joins htop hforemost taken hmessage hreceiver hsender)
  · exact Or.inl (step_first taken hinit top)
  · rcases mem_step hmem taken with hkept | ⟨elapsed, calls, rfl⟩
    · exact Or.inr (Or.inl ⟨envelope, hkept, hmessage, hsender, hreceiver⟩)
    · by_cases hinit : (net.machines top).state = .init
      · exact Or.inl (step_first taken hinit top)
      · refine hyields envelope elapsed calls rfl hreceiver ⟨hmessage, ?_, hreceiver ▸ hinit⟩
        rw [hsender, hreceiver]
        exact hne
  · rcases mem_step hmem taken with hkept | ⟨elapsed, calls, rfl⟩
    · exact Or.inr (Or.inr ⟨envelope, hkept, hmessage, hsender, hreceiver⟩)
    · have hdown := step_standsDown hidle taken hmessage (hsender ▸ Ne.symm hne) hreceiver
      rw [hdown] at hrole
      cases hrole

/-- **When the highest id wins.**  Any number of servers with distinct ids, any moments
of time-outs and calls of `backup_election`, any order of delivery in which the server
with the highest id takes in an announcement only while every other coordinator is
recalled: whenever the election is finished, a server that coordinates has the highest
id.

At the end nothing is on its way and nobody is in an election, so none of the ways in which a
coordinator with a lower id could still be recalled is left (`Contested`). -/
theorem highest_coordinates {coordinatorIp : Fin n → InAddr} {lastReceivedId : Fin n → UInt32}
    {actions : List (Action n)}
    (run : Runs (Network.step peers) (Defended peers) (start coordinatorIp lastReceivedId)
      actions net)
    (hfinished : net.Finished) (hrole : (net.machines server).isCoordinator = true) :
    Highest peers server := by
  obtain ⟨hidle, hforemost, hcontested⟩ : net.Idle ∧ net.Foremost peers ∧
      ∀ top, Highest peers top → net.Contested top := by
    refine run.invariant (fun net => net.Idle ∧ net.Foremost peers ∧
      ∀ top, Highest peers top → net.Contested top) ⟨fun _ _ => rfl, nofun, ?_⟩ ?_
    · intro top _ server _ hrole
      cases hrole
    · rintro net action net' ⟨hidle, hforemost, hcontested⟩ hdefended taken
      exact ⟨hidle.step (step_cases hidle taken), hforemost.step taken,
        fun top htop => (hcontested top htop).step htop hidle hforemost hdefended taken⟩
  obtain ⟨hpool, hstates⟩ := hfinished
  obtain ⟨top, htop⟩ : ∃ top, Highest peers top := by
    have : Nonempty (Fin n) := ⟨server⟩
    obtain ⟨top, hmax⟩ := Finite.exists_max fun server => (peers.id server).toNat
    exact ⟨top, fun other => UInt32.le_iff_toNat_le.mpr (hmax other)⟩
  by_cases hserver : server = top
  · rwa [hserver]
  -- in a finished election nothing recalls anybody
  exfalso
  have hempty : ∀ envelope, envelope ∉ net.pool := by
    intro envelope
    rw [hpool]
    exact List.not_mem_nil
  rcases hcontested top htop server hserver hrole with (hprogress | ⟨envelope, hmem, -⟩ |
    ⟨first, hinit⟩) | ⟨envelope, hmem, -⟩ | ⟨envelope, hmem, -⟩
  · exact (hstates top).2 hprogress
  · exact hempty envelope hmem
  · exact (hstates first).1 hinit
  · exact hempty envelope hmem
  · exact hempty envelope hmem

/-! ## Two servers -/

instance (top : Fin n) : Decidable (Highest peers top) :=
  inferInstanceAs (Decidable (∀ _, _))

instance (net : Network n) (server other : Fin n) : Decidable (net.Announcing server other) :=
  inferInstanceAs (Decidable (∃ envelope ∈ net.pool, _))

instance (net : Network n) (envelope : Envelope n) (server : Fin n) :
    Decidable (net.Yields envelope server) :=
  inferInstanceAs (Decidable (((∃ other ∈ (net.receive envelope).pool, _) ∨ ∃ _, _) ∨ _ ∨ _))

instance (net : Network n) (action : Action n) : Decidable (net.Defended peers action) :=
  match action with
  | .deliver envelope _ _ =>
      inferInstanceAs (Decidable (Highest peers envelope.receiver → net.TakesIn envelope →
        ∀ server, server ≠ envelope.receiver → (net.machines server).isCoordinator = true →
          net.Yields envelope server))
  | .timeout .. => inferInstanceAs (Decidable True)
  | .backup _ => inferInstanceAs (Decidable True)

/-- Server 0 announces itself first, but server 1 has been sent for by then. -/
def higherRecalled : List (Action 2) :=
  [.timeout 0 0 0, .timeout 1 0 0,
    .deliver ⟨0, 0, .election, 0⟩ 0 0, .deliver ⟨1, 1, .election, 0⟩ 0 0,
    .timeout 0 200 0, .deliver ⟨0, 1, .coordAnnouncement, 1⟩ 0 0,
    .deliver ⟨0, 1, .election, 0⟩ 0 0, .timeout 1 200 0,
    .deliver ⟨1, 0, .coordAnnouncement, 2⟩ 0 0, .deliver ⟨0, 0, .coordAnnouncement, 1⟩ 0 0,
    .deliver ⟨1, 1, .coordAnnouncement, 2⟩ 0 0, .deliver ⟨1, 0, .election, 0⟩ 0 0,
    .deliver ⟨1, 1, .election, 1⟩ 0 0, .deliver ⟨1, 0, .election, 1⟩ 0 0,
    .deliver ⟨1, 0, .answer, 1⟩ 0 0]

/-- In the end the higher server coordinates, and every step of the run is defended. -/
theorem higherRecalled_coordinates : ∃ net,
    Runs (step twoPeers) (Defended twoPeers) twoServers higherRecalled net ∧ net.Finished ∧
      (net.machines 1).isCoordinator = true ∧ Highest twoPeers 1 := by
  have hrun : (perform (guarded (step twoPeers) (Defended twoPeers)) twoServers
      higherRecalled).any
      (fun net => decide (net.Finished ∧ (net.machines 1).isCoordinator = true)) = true := by
    decide
  obtain ⟨net, run, hnet⟩ := exists_runs_of_any_guarded hrun
  obtain ⟨hfinished, hrole⟩ := of_decide_eq_true hnet
  exact ⟨net, run, hfinished, hrole, highest_coordinates run hfinished hrole⟩

/-- Server 1 enters its loop with the election message of server 0, which it does not look
at, and hears its announcement before its own election is over. -/
def lowerAnnounces : List (Action 2) :=
  [.timeout 0 0 0, .deliver ⟨0, 1, .election, 0⟩ 0 0, .timeout 0 200 0,
    .deliver ⟨0, 1, .coordAnnouncement, 1⟩ 0 0, .deliver ⟨1, 0, .election, 0⟩ 0 0,
    .deliver ⟨0, 0, .election, 0⟩ 0 0, .deliver ⟨1, 1, .election, 0⟩ 0 0,
    .deliver ⟨0, 0, .coordAnnouncement, 1⟩ 0 0]

/-- **The lower server can stay coordinator.** -/
theorem lower_coordinates : ∃ net,
    Runs (step twoPeers) Always twoServers lowerAnnounces net ∧ net.Finished ∧
      (net.machines 0).isCoordinator = true ∧ ¬ Highest twoPeers 0 := by
  have hrun : (perform (step twoPeers) twoServers lowerAnnounces).any
      (fun net => decide (net.Finished ∧ (net.machines 0).isCoordinator = true ∧
        ¬ Highest twoPeers 0)) = true := by
    decide
  obtain ⟨net, run, hnet⟩ := exists_runs_of_any hrun
  exact ⟨net, run, of_decide_eq_true hnet⟩

end Network

end Election

end Brix
