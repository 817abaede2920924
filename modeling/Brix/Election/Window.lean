import Brix.Election.Candidacy

/-!
# The time an election waits

`single_socket_election` reads the clock once before its loop, into `start_time`, and
measures every election from there; none of the three places that start an election sets
it again.  An election that begins later than `answer_max_wait_time` after the loop was
entered is over at its first receive time-out, whenever that comes.

`Clocked` is the automaton with the readings of its clock, which never go back.  `since`
is a history variable: the time of the step at which the state last became `IN_PROGRESS`.
`fullWindow_iff` says which time-outs end an election before its time.

### What is load-bearing

`since` moves with the state and `startTime` never moves, and the branch that ends an election
looks at the latter.  There is no invariant that relates the two, except that the clock does not
go back; so the condition cannot be anything but a comparison of the two at the moment of the
time-out, and `Premature` is that comparison.  A step keeps the window if and only if it is not
premature (`fullWindow_step_iff`), which is why the result holds in both directions without an
invariant.
-/

namespace Brix

namespace Election

open Execution

/-- An event and the reading of the clock at it. -/
inductive Tick
  | turn (datagram : Option (InAddr × Text)) (now : ℤ) (calls : ℕ)
  | backup (now : ℤ)

/-- The reading of the clock. -/
def Tick.now : Tick → ℤ
  | .turn _ now _ => now
  | .backup now => now

/-- The event for a server that entered its loop at `startTime`. -/
def Tick.event (startTime : ℤ) : Tick → Event
  | .turn datagram now calls => .turn ⟨datagram, now - startTime⟩ calls
  | .backup _ => .backup

/-- A server and its clock. -/
structure Clocked where
  machine : Machine
  startTime : ℤ
  /-- The last reading. -/
  clock : ℤ
  /-- When the state last became `IN_PROGRESS`. -/
  since : ℤ

namespace Clocked

/-- The loop is entered at `now`. -/
def start (coordinatorIp : InAddr) (lastReceivedId : UInt32) (now : ℤ) : Clocked :=
  ⟨.start coordinatorIp lastReceivedId, now, now, now⟩

/-- One event, no earlier than the last one.

The clock never goes back; a tick with an earlier reading is no step. -/
def step (id : UInt32) (c : Clocked) (tick : Tick) : Option Clocked :=
  let next := (c.machine.respond id (tick.event c.startTime)).1
  if c.clock ≤ tick.now then
    some
      { machine := next
        startTime := c.startTime
        clock := tick.now
        since := if c.machine.state ≠ .inProgress ∧ next.state = .inProgress then tick.now
          else c.since }
  else none

/-- If the server stands up, its election has lasted `answer_max_wait_time`. -/
def FullWindow (id : UInt32) (c : Clocked) (tick : Tick) : Prop :=
  c.machine.StandsUp id (tick.event c.startTime) → ANSWER_MAX_WAIT_TIME ≤ tick.now - c.since

/-- A time-out in an election that has begun less than `answer_max_wait_time` ago, on a
server that entered its loop no less than that ago.

Before `answer_max_wait_time` has passed since the loop was entered no election ends at all, so
nothing goes wrong there. -/
def Premature (c : Clocked) : Tick → Prop
  | .turn datagram now _ => datagram = none ∧ isLoopback c.machine.ssCliaddr = false ∧
      c.machine.state = .inProgress ∧ now < c.since + ANSWER_MAX_WAIT_TIME ∧
      c.startTime + ANSWER_MAX_WAIT_TIME ≤ now
  | .backup _ => False

variable {id : UInt32} {c : Clocked} {tick : Tick}

/-- A time-out is measured from the loop's start.

`start_time` is what the source subtracts, whichever election is in progress. -/
theorem standsUp_turn {datagram : Option (InAddr × Text)} {now : ℤ} {calls : ℕ} :
    c.machine.StandsUp id (Tick.event c.startTime (.turn datagram now calls)) ↔
      datagram = none ∧ isLoopback c.machine.ssCliaddr = false ∧
        c.machine.state = .inProgress ∧ c.startTime + ANSWER_MAX_WAIT_TIME ≤ now := by
  rw [Tick.event, Machine.standsUp_iff]
  constructor
  · rintro ⟨hlooks, hstate, rfl, hlong⟩
    have hlong : ANSWER_MAX_WAIT_TIME ≤ now - c.startTime := hlong
    exact ⟨rfl, hlooks, hstate, by omega⟩
  · rintro ⟨rfl, hlooks, hstate, hlong⟩
    exact ⟨hlooks, hstate, rfl, by show _ ≤ now - c.startTime; omega⟩

/-- A step keeps the window unless it is premature. -/
theorem fullWindow_step_iff : c.FullWindow id tick ↔ ¬ c.Premature tick := by
  cases tick with
  | backup now =>
      exact iff_of_true (fun hstands => absurd hstands Machine.not_standsUp_backup) fun h => h
  | turn datagram now calls =>
      rw [FullWindow, standsUp_turn]
      constructor
      · rintro hfull ⟨hnone, hlooks, hstate, hearly, hlong⟩
        have hlasted := hfull ⟨hnone, hlooks, hstate, hlong⟩
        simp only [Tick.now] at hlasted
        omega
      · rintro hpremature ⟨hnone, hlooks, hstate, hlong⟩
        by_contra hshort
        simp only [Tick.now] at hshort
        exact hpremature ⟨hnone, hlooks, hstate, by omega, hlong⟩

/-- **When every election waits its full window.**  Over any sequence of datagrams,
time-outs and calls of `backup_election` at any times: every step at which the server
stands up comes `answer_max_wait_time` after its election began exactly if no time-out
is premature. -/
theorem fullWindow_iff {coordinatorIp : InAddr} {lastReceivedId : UInt32} {now : ℤ}
    {ticks : List Tick} :
    Runs (step id) (FullWindow id) (start coordinatorIp lastReceivedId now) ticks c ↔
      Runs (step id) (fun c tick => ¬ c.Premature tick) (start coordinatorIp lastReceivedId now)
        ticks c :=
  Runs.congr fun _ _ => fullWindow_step_iff

/-! ## The second election -/

/-- The server `10.0.0.2` enters its loop at time 0 and becomes coordinator; much later
`10.0.0.1` starts an election, which `10.0.0.2` joins. -/
def secondElection : List Tick :=
  [.turn none 10 0, .turn none 210 0,
    .turn (some (0x0100000a, electionMessage (ntohl 0x0100000a))) 5000 0]

/-- **The second election is over at once.**  It began at 5000, and ends at 5010. -/
theorem second_election_cut_short :
    ∃ c, Runs (step (ntohl 0x0200000a)) Always (start 0 0 0) secondElection c ∧
      c.machine.StandsUp (ntohl 0x0200000a) (Tick.event c.startTime (.turn none 5010 0)) ∧
      5010 - c.since < ANSWER_MAX_WAIT_TIME := by
  have hrun : (perform (step (ntohl 0x0200000a)) (start 0 0 0) secondElection).any
      (fun c => decide
        (c.machine.StandsUp (ntohl 0x0200000a) (Tick.event c.startTime (.turn none 5010 0)) ∧
          5010 - c.since < ANSWER_MAX_WAIT_TIME)) = true := by
    decide
  obtain ⟨c, run, hc⟩ := exists_runs_of_any hrun
  exact ⟨c, run, of_decide_eq_true hc⟩

end Clocked

end Election

end Brix
