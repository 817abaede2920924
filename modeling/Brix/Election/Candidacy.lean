import Brix.Election.Turns
import Brix.Foundation.Execution

/-!
# A server that has been outbid

A server that hears from a higher id during its election is not to announce itself
before a new election has been started on it.  The `IN_PROGRESS` branch keeps to this
for election messages, which make the server wait, and drops answers, so that the
time-out at the end of the election finds it `IN_PROGRESS` as if nobody had answered.

`answered` and `summoned` are history variables: whether, since an election was last
started, the `IN_PROGRESS` branch has read an answer or an election message from a higher
id.  `respects_iff` is the result: a run respects what the server has heard exactly if
none of its time-outs is `Overlooking` an answer.

### What is load-bearing

The two kinds of messages are not treated alike, and the invariant has to be about the one that is
treated rightly.  `Yielding` says that a server that has been sent for by an election message is
out of its election; it is kept because the only ways back into an election are the two in
`StartsElection`, and these clear the history variable (`state_of_finished`).  For answers there
is no such invariant to be had.  A server that is answered stays `IN_PROGRESS`, and all that can
be said is which event goes wrong, namely the time-out at the end (`standsUp_iff`).

The condition is on the state before the step and on the event, and it is exact: in every state
that satisfies the invariant, a step is disrespectful if and only if it is a time-out that
overlooks an answer (`Yielding.respects_event_iff`).
-/

namespace Brix

namespace Election

open Execution

/-- What happens to one server: a turn of the loop, in which calls of `backup_election`
may land, or such a call between two turns. -/
inductive Event
  | turn (input : Input) (calls : ℕ)
  | backup

namespace Machine

/-- What an event does. -/
def respond (id : UInt32) (m : Machine) : Event → Machine × List Output
  | .turn input calls => m.iterate id input calls
  | .backup => m.backupElection

/-- The turn gets past the loopback test.

The address that is tested is that of the last datagram, which need not be one of this turn. -/
def Looks (m : Machine) (input : Input) : Prop := isLoopback (m.receive input).ssCliaddr = false

instance (m : Machine) (input : Input) : Decidable (m.Looks input) :=
  inferInstanceAs (Decidable (_ = _))

/-- The `IN_PROGRESS` branch reads a message from a higher id. -/
def HearsHigher (reader : UInt32 → Reception → Option UInt32) (id : UInt32) (m : Machine) :
    Event → Prop
  | .turn input _ => m.Looks input ∧ m.state = .inProgress ∧
      ∃ senderId ∈ reader id (.of (input.datagram.map Prod.snd)), id < senderId
  | .backup => False

/-- An election is started: by `backup_election`, or by `start_election_procedure`.

The `INIT` branch is left out, since a server in `INIT` has heard nothing that could be forgotten.
-/
def StartsElection (id : UInt32) (m : Machine) : Event → Prop
  | .turn input calls => m.Looks input ∧
      (0 < calls ∨ m.state = .notInProgress ∧
        ∃ senderId ∈ isValidElectionMessage id (.of (input.datagram.map Prod.snd)), senderId < id)
  | .backup => True

/-- The server announces itself, or becomes coordinator. -/
def StandsUp (id : UInt32) (m : Machine) (event : Event) : Prop :=
  .broadcast .coordAnnouncement ∈ (m.respond id event).2 ∨
    m.isCoordinator = false ∧ (m.respond id event).1.isCoordinator = true

instance (reader : UInt32 → Reception → Option UInt32) (id : UInt32) (m : Machine) (event : Event) :
    Decidable (m.HearsHigher reader id event) :=
  match event with
  | .turn input _ => decidable_of_iff (m.Looks input ∧ m.state = .inProgress ∧
      (reader id (.of (input.datagram.map Prod.snd))).any (fun senderId => id < senderId) = true)
      (by simp only [HearsHigher, Option.any_eq_true, decide_eq_true_eq, Option.mem_def])
  | .backup => inferInstanceAs (Decidable False)

instance (id : UInt32) (m : Machine) (event : Event) : Decidable (m.StartsElection id event) :=
  match event with
  | .turn input calls => decidable_of_iff (m.Looks input ∧ (0 < calls ∨ m.state = .notInProgress ∧
      (isValidElectionMessage id (.of (input.datagram.map Prod.snd))).any
        (fun senderId => senderId < id) = true))
      (by simp only [StartsElection, Option.any_eq_true, decide_eq_true_eq, Option.mem_def])
  | .backup => inferInstanceAs (Decidable True)

instance (id : UInt32) (m : Machine) (event : Event) : Decidable (m.StandsUp id event) :=
  inferInstanceAs (Decidable (_ ∨ _))

end Machine

/-- A server and what it has heard.  No step looks at the history. -/
structure Watched where
  machine : Machine
  /-- Since an election was last started, an answer from a higher id has been read in
  `IN_PROGRESS`. -/
  answered : Bool
  /-- The same for an election message. -/
  summoned : Bool
  deriving DecidableEq

namespace Watched

/-- The server enters the loop. -/
def start (coordinatorIp : InAddr) (lastReceivedId : UInt32) : Watched :=
  ⟨.start coordinatorIp lastReceivedId, false, false⟩

/-- One event.  A message is read after the calls that land in its turn. -/
def step (id : UInt32) (w : Watched) (event : Event) : Option Watched :=
  some
    { machine := (w.machine.respond id event).1
      answered := w.machine.HearsHigher isValidAnswer id event ∨
        w.answered ∧ ¬ w.machine.StartsElection id event
      summoned := w.machine.HearsHigher isValidElectionMessage id event ∨
        w.summoned ∧ ¬ w.machine.StartsElection id event }

/-- If it has heard from a higher id, the server does not stand up before a new election
is started. -/
def Respects (id : UInt32) (w : Watched) (event : Event) : Prop :=
  w.answered = true ∨ w.summoned = true → ¬ w.machine.StartsElection id event →
    ¬ w.machine.StandsUp id event

/-- A time-out that ends the election of a server that has been answered. -/
def Overlooking (w : Watched) : Event → Prop
  | .turn input calls => input.datagram = none ∧ calls = 0 ∧ w.machine.Looks input ∧
      w.machine.state = .inProgress ∧ ANSWER_MAX_WAIT_TIME ≤ input.elapsed ∧ w.answered = true
  | .backup => False

end Watched

namespace Machine

variable {id : UInt32} {m : Machine} {input : Input} {calls : ℕ} {event : Event}

/-- A turn that does not get past the loopback test has no branch. -/
theorem respond_skipped (h : ¬ m.Looks input) :
    m.respond id (.turn input calls) = (m.receive input, []) := by
  rw [respond, iterate_act, if_pos (by simpa [Looks] using h)]

/-- A turn that is not skipped: what the calls do, and a row of the table. -/
theorem respond_looks (h : m.Looks input) :
    m.respond id (.turn input calls)
      = (((m.interrupted input calls).act id (input.reading id) input.elapsed m.state).1,
        ((m.receive input).backupElections calls).2 ++
          ((m.interrupted input calls).act id (input.reading id) input.elapsed m.state).2) := by
  rw [respond, iterate_act, if_neg (by simpa [Looks] using h)]

/-- Without calls it is the row alone. -/
theorem respond_act (h : m.Looks input) :
    m.respond id (.turn input 0)
      = (m.receive input).act id (input.reading id) input.elapsed m.state :=
  respond_looks h

/-- Only the time-out row of `IN_PROGRESS` stands up. -/
theorem act_standsUp (m : Machine) (id : UInt32) (reading : Reading) (elapsed : ℤ)
    (latched : ElectionState) :
    (.broadcast .coordAnnouncement ∈ (m.act id reading elapsed latched).2 ∨
      m.isCoordinator = false ∧ (m.act id reading elapsed latched).1.isCoordinator = true) ↔
      latched = .inProgress ∧ reading = .timeout ∧ ANSWER_MAX_WAIT_TIME ≤ elapsed := by
  cases latched with
  | init => simp [act]
  | notInProgress =>
      cases reading with
      | election senderId =>
          by_cases hid : senderId < id <;> cases hrole : m.isCoordinator <;>
            simp [act, note, hid, hrole]
      | announcement senderId => simp [act, follow]
      | answer senderId => simp [act, note]
      | timeout => simp [act, note]
      | other => simp [act, note]
  | inProgress =>
      cases reading with
      | election senderId => by_cases hid : senderId < id <;> simp [act, note, hid]
      | announcement senderId => simp [act, follow]
      | answer senderId => simp [act, note]
      | timeout =>
          by_cases hlong : ANSWER_MAX_WAIT_TIME ≤ elapsed <;> simp [act, note, hlong]
      | other => simp [act, note]
  | waitingForCoord =>
      cases reading with
      | answer senderId => by_cases hid : senderId < id <;> simp [act, note, hid]
      | announcement senderId => simp [act, follow]
      | election senderId => simp [act, note]
      | timeout => simp [act, note]
      | other => simp [act, note]

/-- When a server stands up. -/
theorem standsUp_iff :
    m.StandsUp id (.turn input calls) ↔ m.Looks input ∧ m.state = .inProgress ∧
      input.datagram = none ∧ ANSWER_MAX_WAIT_TIME ≤ input.elapsed := by
  by_cases hlooks : m.Looks input
  · have hquiet := interrupted_quiet input calls m
    have hact := (m.interrupted input calls).act_standsUp id (input.reading id) input.elapsed
      m.state
    rw [hquiet.role, Input.reading_eq_timeout] at hact
    rw [StandsUp, respond_looks hlooks, List.mem_append, or_iff_right hquiet.silent, hact,
      and_iff_right hlooks]
  · have hrole : (m.receive input).isCoordinator = m.isCoordinator := (receive_quiet input m).role
    rw [StandsUp, respond_skipped hlooks, hrole]
    simp [hlooks]

/-- `backup_election` announces nothing. -/
theorem not_standsUp_backup : ¬ m.StandsUp id .backup := by
  simp [StandsUp, respond, backupElection]

/-- An election message from a higher id makes the server wait. -/
theorem state_of_summoned (h : m.HearsHigher isValidElectionMessage id event) :
    (m.respond id event).1.state = .waitingForCoord := by
  cases event with
  | backup => exact h.elim
  | turn input calls =>
      obtain ⟨hlooks, hstate, senderId, hvalid, hhigher⟩ := h
      have hreading : input.reading id = .election senderId := Reading.of_eq_election.mpr hvalid
      rw [respond_looks hlooks, hstate, hreading]
      simp only [act, if_neg (UInt32.lt_asymm hhigher)]

/-- A server that has finished its election does not begin another one by itself. -/
theorem state_of_finished (hfinished : m.state = .notInProgress ∨ m.state = .waitingForCoord)
    (h : ¬ m.StartsElection id event) :
    (m.respond id event).1.state = .notInProgress ∨
      (m.respond id event).1.state = .waitingForCoord := by
  cases event with
  | backup => exact absurd trivial h
  | turn input calls =>
      by_cases hlooks : m.Looks input
      · obtain rfl : calls = 0 := by
          by_contra hcalls
          exact h ⟨hlooks, Or.inl (Nat.pos_of_ne_zero hcalls)⟩
        have hsame : (m.receive input).state = m.state := receive_state input m
        rw [respond_act hlooks]
        rcases hfinished with hstate | hstate
        · rw [hstate]
          cases hreading : input.reading id with
          | announcement senderId => exact Or.inl rfl
          | answer senderId => exact Or.inl (hsame.trans hstate)
          -- a lower id would start an election, a higher one is waited for
          | election senderId =>
              by_cases hid : senderId < id
              · exact absurd ⟨hlooks, Or.inr ⟨hstate, senderId, Reading.of_eq_election.mp hreading,
                  hid⟩⟩ h
              · exact Or.inr (by simp only [act, if_neg hid])
          | timeout => exact Or.inl (hsame.trans hstate)
          | other => exact Or.inl (hsame.trans hstate)
        · rw [hstate]
          cases input.reading id with
          | announcement senderId => exact Or.inl rfl
          | answer senderId =>
              simp only [act]
              split
              · exact Or.inr (hsame.trans hstate)
              · exact Or.inr rfl
          | election senderId => exact Or.inr (hsame.trans hstate)
          | timeout => exact Or.inr (hsame.trans hstate)
          | other => exact Or.inr (hsame.trans hstate)
      · rw [respond_skipped hlooks, receive_state]
        exact hfinished

end Machine

namespace Watched

variable {id : UInt32} {w w' : Watched} {event : Event}

/-- Whoever has been sent for has finished its election. -/
def Yielding (w : Watched) : Prop :=
  w.summoned = true →
    w.machine.state = .notInProgress ∨ w.machine.state = .waitingForCoord

/-- Whoever is sent for finishes its election in the same turn. -/
theorem Yielding.step (h : w.Yielding) (taken : w.step id event = some w') : w'.Yielding := by
  cases taken
  intro hsummoned
  rcases of_decide_eq_true hsummoned with hhears | ⟨hbefore, hstarts⟩
  · exact Or.inr (Machine.state_of_summoned hhears)
  · exact Machine.state_of_finished (h hbefore) hstarts

/-- In the states a server can be in, only overlooked answers are not respected.

A server that has been sent for cannot stand up, since it is not in an election; so what is left
are answers. -/
theorem Yielding.respects_event_iff (h : w.Yielding) (event : Event) :
    w.Respects id event ↔ ¬ w.Overlooking event := by
  cases event with
  | backup => exact iff_of_true (fun _ hstarts => absurd trivial hstarts) fun h => h
  | turn input calls =>
      constructor
      · rintro hrespects ⟨hnone, rfl, hlooks, hstate, hlong, hanswered⟩
        refine hrespects (Or.inl hanswered) ?_
          (Machine.standsUp_iff.mpr ⟨hlooks, hstate, hnone, hlong⟩)
        rintro ⟨-, hcalls | ⟨hidle, -⟩⟩
        · exact absurd hcalls (Nat.lt_irrefl 0)
        · rw [hstate] at hidle
          cases hidle
      · intro hoverlooking hheard hstarts hstands
        obtain ⟨hlooks, hstate, hnone, hlong⟩ := Machine.standsUp_iff.mp hstands
        rcases hheard with hanswered | hsummoned
        · refine hoverlooking ⟨hnone, ?_, hlooks, hstate, hlong, hanswered⟩
          by_contra hcalls
          exact hstarts ⟨hlooks, Or.inl (Nat.pos_of_ne_zero hcalls)⟩
        · rcases h hsummoned with hidle | hwaiting
          · exact nomatch hidle.symm.trans hstate
          · exact nomatch hwaiting.symm.trans hstate

/-- **When a server that has been outbid stands back.**  Over any sequence of datagrams,
time-outs and calls of `backup_election`: in every step the server respects what it has
heard from higher ids exactly if no step is a time-out, in `IN_PROGRESS` and after the
time to wait for answers, that overlooks an answer.

The invariant is `Yielding`: a server that a higher id has summoned is in no election any more.
With it the condition on a step and the property of the step are the same, and the rest is about
runs in general. -/
theorem respects_iff {coordinatorIp : InAddr} {lastReceivedId : UInt32} {events : List Event} :
    Runs (step id) (Respects id) (start coordinatorIp lastReceivedId) events w ↔
      Runs (step id) (fun w event => ¬ w.Overlooking event) (start coordinatorIp lastReceivedId)
        events w :=
  Runs.congr_of_invariant Yielding nofun (fun _ _ _ h taken => h.step taken)
    fun _ event h => h.respects_event_iff event

end Watched

/-! ## An answer that is overlooked -/

namespace Watched

/-- The server `10.0.0.1` begins an election, is answered by `10.0.0.2`, and hears
nothing more. -/
def answeredOnce : List Event :=
  [.turn ⟨none, 10⟩ 0,
    .turn ⟨some (0x0200000a, answerMessage (ntohl 0x0200000a)), 20⟩ 0]

/-- **An answer does not stop the candidacy.** -/
theorem answer_overlooked :
    ∃ w, Runs (step (ntohl 0x0100000a)) Always (start 0 0) answeredOnce w ∧
      w.answered = true ∧
      ¬ w.machine.StartsElection (ntohl 0x0100000a) (.turn ⟨none, 200⟩ 0) ∧
      w.machine.StandsUp (ntohl 0x0100000a) (.turn ⟨none, 200⟩ 0) := by
  have hrun : (perform (step (ntohl 0x0100000a)) (start 0 0) answeredOnce).any
      (fun w => decide (w.answered = true ∧
        ¬ w.machine.StartsElection (ntohl 0x0100000a) (.turn ⟨none, 200⟩ 0) ∧
        w.machine.StandsUp (ntohl 0x0100000a) (.turn ⟨none, 200⟩ 0))) = true := by
    decide
  obtain ⟨w, run, hw⟩ := exists_runs_of_any hrun
  exact ⟨w, run, of_decide_eq_true hw⟩

end Watched

end Election

end Brix
