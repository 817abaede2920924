import Brix.Election.Bully
import Brix.Election.Heartbeat

/-!
# Failing over

What becomes of an election, and who never gets to hold one.

* `election_decided` — three kinds of turns decide an election: an announcement is read, an
  election message from a higher id is, or the waiting time is over.  Until one of them nothing
  happens, and the first of them says how the server comes out of it
* `stranded_iff` — a coordinator that a higher id has summoned waits, and coordinates, until
  somebody announces itself; `heartbeat_tester_loop` looks at `is_coordinator` only, and so does
  not look after it

### What is load-bearing

For the first result it is `Meets`, which says for every outcome what the machine is afterwards,
with one case for no outcome at all.  A single event meets its outcome (`respond_meets`), and the
run is an induction over events without one.  Calls of `backup_election` that land in the deciding
turn make no difference to what the outcome means, because they are quiet.

For the second it is that `Stranded` mentions the heartbeat thread.  The thread that could notice
that nothing happens any more looks at `is_coordinator`, finds it set and goes back to sleep; so
the state is closed under the steps of both threads, and there is exactly one step that leaves it.
-/

namespace Brix

open Text

namespace Election

open Execution

/-- How a server comes out of an election. -/
inductive Outcome
  | leads
  | follows (source : InAddr)
  | waits
  deriving DecidableEq

namespace Machine

/-- One event. -/
def step (id : UInt32) (m : Machine) (event : Event) : Option Machine :=
  some (m.respond id event).1

/-- What a reading decides. -/
def decides (id : UInt32) (source : InAddr) (elapsed : ℤ) : Reading → Option Outcome
  | .announcement _ => some (.follows source)
  | .election senderId => if senderId < id then none else some .waits
  | .timeout => if ANSWER_MAX_WAIT_TIME ≤ elapsed then some .leads else none
  | .answer _ | .other => none

/-- What an event decides, in an election. -/
def outcome (id : UInt32) (m : Machine) : Event → Option Outcome
  | .turn input _ =>
      if m.Looks input then
        decides id (m.receive input).ssCliaddr input.elapsed (input.reading id)
      else none
  | .backup => none

/-- The election goes on. -/
structure Undecided (m : Machine) (result : Machine × List Output) : Prop where
  state : result.1.state = .inProgress
  role : result.1.isCoordinator = m.isCoordinator
  leader : result.1.coordinatorIp = m.coordinatorIp
  silent : .broadcast .coordAnnouncement ∉ result.2

/-- The server waits for another one, and is what it was. -/
structure Summoned (m : Machine) (result : Machine × List Output) : Prop where
  state : result.1.state = .waitingForCoord
  role : result.1.isCoordinator = m.isCoordinator
  leader : result.1.coordinatorIp = m.coordinatorIp
  silent : .broadcast .coordAnnouncement ∉ result.2

/-- What an outcome means. -/
def Meets (m : Machine) (result : Machine × List Output) : Option Outcome → Prop
  | some .leads => Announced result
  | some (.follows source) => Adopted source result
  | some .waits => m.Summoned result
  | none => m.Undecided result

variable {id : UInt32} {m m' : Machine} {event : Event} {input : Input} {calls : ℕ}
  {events : List Event}

/-- A row of `IN_PROGRESS`. -/
theorem act_meets (id : UInt32) (reading : Reading) (elapsed : ℤ) (hstate : m.state = .inProgress) :
    m.Meets (m.act id reading elapsed .inProgress) (decides id m.ssCliaddr elapsed reading) := by
  cases reading with
  | announcement senderId => exact ⟨List.not_mem_nil, rfl, rfl, rfl⟩
  | answer senderId => exact ⟨hstate, rfl, rfl, List.not_mem_nil⟩
  | other => exact ⟨hstate, rfl, rfl, List.not_mem_nil⟩
  | election senderId =>
      simp only [act, decides]
      by_cases hlower : senderId < id
      · rw [if_pos hlower, if_pos hlower]
        exact ⟨hstate, rfl, rfl, by simp⟩
      · rw [if_neg hlower, if_neg hlower]
        exact ⟨rfl, rfl, rfl, List.not_mem_nil⟩
  | timeout =>
      simp only [act, decides]
      by_cases hdue : ANSWER_MAX_WAIT_TIME ≤ elapsed
      · rw [if_pos hdue, if_pos hdue]
        exact ⟨List.mem_singleton_self _, rfl, rfl⟩
      · rw [if_neg hdue, if_neg hdue]
        exact ⟨hstate, rfl, rfl, List.not_mem_nil⟩

/-- What comes first in a turn, its calls, is not seen in what an outcome means. -/
theorem Meets.after {early sent : List Output} {base result : Machine} {o : Option Outcome}
    (hquiet : m.Quiet (base, early)) (h : base.Meets (result, sent) o) :
    m.Meets (result, early ++ sent) o := by
  have hsilent : .broadcast .coordAnnouncement ∉ sent →
      .broadcast .coordAnnouncement ∉ early ++ sent :=
    fun hsent hmem => (List.mem_append.mp hmem).elim hquiet.silent hsent
  match o, h with
  | some .leads, h => exact ⟨List.mem_append_right _ h.spoken, h.role, h.settled⟩
  | some (.follows source), h => exact ⟨hsilent h.silent, h.role, h.leader, h.settled⟩
  | some .waits, h =>
      exact ⟨h.state, h.role.trans hquiet.role, h.leader.trans hquiet.leader, hsilent h.silent⟩
  | none, h =>
      exact ⟨h.state, h.role.trans hquiet.role, h.leader.trans hquiet.leader, hsilent h.silent⟩

/-- An event of an election. -/
theorem respond_meets (hstate : m.state = .inProgress) (event : Event) :
    m.Meets (m.respond id event) (m.outcome id event) := by
  cases event with
  | backup => exact ⟨rfl, rfl, rfl, by simp [respond, backupElection]⟩
  | turn input calls =>
      rw [outcome]
      by_cases hlooks : m.Looks input
      · rw [if_pos hlooks, respond_looks hlooks, hstate]
        have hsource : (m.interrupted input calls).ssCliaddr = (m.receive input).ssCliaddr :=
          (backupElections_quiet calls (m.receive input)).2.1
        rw [← hsource]
        exact (act_meets id _ _ (interrupted_inProgress hstate)).after
          (interrupted_quiet input calls m)
      · rw [if_neg hlooks, respond_skipped hlooks]
        have hquiet := receive_quiet input m
        exact ⟨(receive_state input m).trans hstate, hquiet.role, hquiet.leader, hquiet.silent⟩

/-- **An election is decided by the first turn that decides anything.**  Datagrams, time-outs and
calls of `backup_election` come in any order: as long as no announcement, no election message from
a higher id and no time-out at the end of the waiting time is looked at, the election goes on, and
role and coordinator are what they were; the first of these makes the server follow, wait, or
announce itself and lead. -/
theorem election_decided (hstate : m.state = .inProgress)
    (run : Runs (step id) (fun m event => m.outcome id event = none) m events m') :
    (m'.state = .inProgress ∧ m'.isCoordinator = m.isCoordinator ∧
        m'.coordinatorIp = m.coordinatorIp) ∧
      ∀ event, m'.Meets (m'.respond id event) (m'.outcome id event) := by
  have hundecided : m'.state = .inProgress ∧ m'.isCoordinator = m.isCoordinator ∧
      m'.coordinatorIp = m.coordinatorIp := by
    refine run.invariant (fun m' => m'.state = .inProgress ∧ m'.isCoordinator = m.isCoordinator ∧
      m'.coordinatorIp = m.coordinatorIp) ⟨hstate, rfl, rfl⟩ ?_
    rintro m' event m'' ⟨hstate', hrole, hleader⟩ hnone taken
    have hmeets := @respond_meets id m' hstate' event
    rw [hnone] at hmeets
    cases taken
    exact ⟨hmeets.state, hmeets.role.trans hrole, hmeets.leader.trans hleader⟩
  exact ⟨hundecided, respond_meets hundecided.1⟩

/-- The follower of a dead coordinator, whose tester has called `backup_election`. -/
def alarmed : Machine := (backupElection ⟨.notInProgress, false, 0x0300000a, 3, 0x0300000a, 0⟩).1

/-- It is answered by a higher id, and then hears nothing more.

The hypothesis holds of the answer, and the time-out that follows announces the server. -/
theorem election_decided_alarmed : ∃ m, Runs (step 7) (fun m event => m.outcome 7 event = none)
      alarmed [.turn ⟨some (0x0400000a, answerMessage 9), 4990⟩ 0] m ∧
    Announced (m.respond 7 (.turn ⟨none, 5000⟩ 0)) := by
  have hundecided : alarmed.outcome 7 (.turn ⟨some (0x0400000a, answerMessage 9), 4990⟩ 0)
      = none := by decide +kernel
  have run : Runs (step 7) (fun m event => m.outcome 7 event = none) alarmed
      [.turn ⟨some (0x0400000a, answerMessage 9), 4990⟩ 0] _ := .single hundecided rfl
  have hmeets := (election_decided rfl run).2 (.turn ⟨none, 5000⟩ 0)
  have hdue : Machine.outcome 7
      (alarmed.respond 7 (.turn ⟨some (0x0400000a, answerMessage 9), 4990⟩ 0)).1
      (.turn ⟨none, 5000⟩ 0) = some .leads := by decide +kernel
  rw [hdue] at hmeets
  exact ⟨_, run, hmeets⟩

end Machine

/-! ## A coordinator that waits -/

namespace Threads

/-- A coordinator that waits for another one to announce itself, and whose tester is asleep.

The state that the election thread has read counts as well: its turn may be under way. -/
structure Stranded (s : Threads) : Prop where
  role : s.machine.isCoordinator = true
  state : s.machine.state = .waitingForCoord
  asleep : s.tester = .sleeping
  latched : ∀ turn ∈ s.turn, turn.2 = .waitingForCoord

/-- The election thread takes an announcement in. -/
def TakesIn (id : UInt32) (s : Threads) : ThreadAction → Prop
  | .branch => ∃ turn ∈ s.turn, ∃ senderId, turn.1.reading id = .announcement senderId
  | .receive _ | .check | .target | .test .. | .backup => False

/-- An announcement, whoever's. -/
def isAnnouncement : Reading → Bool
  | .announcement _ => true
  | .answer _ | .election _ | .timeout | .other => false

/-- The readings with which a server that waits does anything. -/
theorem isAnnouncement_iff (reading : Reading) :
    isAnnouncement reading = true ↔ ∃ senderId, reading = .announcement senderId := by
  cases reading <;> simp [isAnnouncement]

instance (id : UInt32) (s : Threads) (action : ThreadAction) : Decidable (s.TakesIn id action) :=
  match action with
  | .branch => decidable_of_iff (s.turn.any fun turn => isAnnouncement (turn.1.reading id))
      (by simp only [TakesIn, Option.any_eq_true, isAnnouncement_iff, Option.mem_def])
  | .receive _ => inferInstanceAs (Decidable False)
  | .check => inferInstanceAs (Decidable False)
  | .target => inferInstanceAs (Decidable False)
  | .test .. => inferInstanceAs (Decidable False)
  | .backup => inferInstanceAs (Decidable False)

variable {id : UInt32} {port : Int32} {limit : ℕ} {s s' : Threads} {action : ThreadAction}
  {actions : List ThreadAction}

/-- The row of `WAITING_FOR_COORD`. -/
theorem act_waiting {m : Machine} (hstate : m.state = .waitingForCoord) (reading : Reading)
    (elapsed : ℤ) :
    (∃ senderId, reading = .announcement senderId) ∧
        (m.act id reading elapsed .waitingForCoord).1.isCoordinator = false ∨
      (∀ senderId, reading ≠ .announcement senderId) ∧
        (m.act id reading elapsed .waitingForCoord).1.state = .waitingForCoord ∧
        (m.act id reading elapsed .waitingForCoord).1.isCoordinator = m.isCoordinator := by
  cases reading with
  | announcement senderId => exact Or.inl ⟨⟨senderId, rfl⟩, rfl⟩
  | answer senderId =>
      refine Or.inr ⟨fun _ h => Reading.noConfusion h, ?_⟩
      simp only [Machine.act]
      split
      · exact ⟨hstate, rfl⟩
      · exact ⟨rfl, rfl⟩
  | election senderId => exact Or.inr ⟨fun _ h => Reading.noConfusion h, hstate, rfl⟩
  | timeout => exact Or.inr ⟨fun _ h => Reading.noConfusion h, hstate, rfl⟩
  | other => exact Or.inr ⟨fun _ h => Reading.noConfusion h, hstate, rfl⟩

/-- One step.

Of the steps of the heartbeat thread only the role test is enabled, and it puts the thread back to
sleep. -/
theorem stranded_step_iff (h : s.Stranded) (taken : s.step id port limit action = some s') :
    s'.Stranded ↔ ¬ s.TakesIn id action := by
  obtain ⟨hrole, hstate, hasleep, hlatched⟩ := h
  obtain ⟨-, stepped⟩ := step_cases taken
  cases stepped with
  | skipped between loopback =>
      rename_i input
      have hsame := Machine.receive_quiet input s.machine
      exact iff_of_true ⟨hsame.role.trans hrole, (Machine.receive_state input _).trans hstate,
        hasleep, hlatched⟩ not_false
  | received between looks =>
      rename_i input
      have hsame := Machine.receive_quiet input s.machine
      refine iff_of_true ⟨hsame.role.trans hrole, (Machine.receive_state input _).trans hstate,
        hasleep, ?_⟩ not_false
      rintro turn hturn
      cases hturn
      exact hstate
  | branched within =>
      rename_i input latched
      have hwaiting : latched = .waitingForCoord := hlatched (input, latched) within
      rw [hwaiting, Machine.branch_eq]
      rcases @act_waiting id _ hstate (input.reading id) input.elapsed with
        ⟨hread, hdown⟩ | ⟨hnone, hstays, hsame⟩
      · -- an announcement takes the role away, whoever made it
        refine iff_of_false (fun h => ?_) fun h => h ⟨(input, latched), within, hread⟩
        have hup := h.role
        change (Machine.act id (input.reading id) input.elapsed s.machine _).1.isCoordinator
          = true at hup
        rw [hdown] at hup
        cases hup
      · refine iff_of_true ⟨hsame.trans hrole, hstays, hasleep, nofun⟩ ?_
        rintro ⟨turn, hturn, senderId, hreading⟩
        rw [within, Option.mem_def, Option.some.injEq] at hturn
        subst hturn
        exact hnone senderId hreading
  | coordinates asleep role => exact iff_of_true ⟨hrole, hstate, hasleep, hlatched⟩ not_false
  -- a coordinator's own test thread sleeps, so nothing below can happen
  | checked asleep role => cases role.symm.trans hrole
  | opened seen room => cases hasleep.symm.trans seen
  | ended seen full => cases hasleep.symm.trans seen
  | answered testing alive => cases hasleep.symm.trans testing
  | unanswered testing silent => cases hasleep.symm.trans testing
  | between alarmed done => cases hasleep.symm.trans alarmed
  | landed alarmed within => cases hasleep.symm.trans alarmed

/-- **Nobody looks after a coordinator that waits.**  Whatever the threads do and whatever is
received: a coordinator that waits for another server to announce itself goes on to wait, to
coordinate, and to leave its tester asleep, exactly as long as it takes no announcement in. -/
theorem stranded_iff (h : s.Stranded) :
    Runs (step id port limit) (fun s action => ¬ s.TakesIn id action) s actions s' ↔
      Runs (step id port limit) (fun s _ => s.Stranded) s actions s' ∧ s'.Stranded :=
  Runs.iff_throughout Stranded h fun _ _ _ hs taken => stranded_step_iff hs taken

/-- The server `10.0.0.2` becomes coordinator, and `10.0.0.3` begins an election. -/
def summoning : List ThreadAction :=
  [.receive ⟨none, 0⟩, .branch, .receive ⟨none, 200⟩, .branch,
    .receive ⟨some (0x0300000a, electionMessage (ntohl 0x0300000a)), 300⟩, .branch]

/-- `10.0.0.3` is not heard of again, and nothing more happens to `10.0.0.2`. -/
theorem stranded_after_summoning : ∃ s s', Runs (step (ntohl 0x0200000a) 4000 8) Always
      (start 0 0 3) summoning s ∧
    Runs (step (ntohl 0x0200000a) 4000 8) (fun s _ => s.Stranded) s
      [.check, .receive ⟨none, 90000⟩, .check, .branch] s' ∧ s'.Stranded := by
  have hrun : (perform (step (ntohl 0x0200000a) 4000 8) (start 0 0 3) summoning).any (fun s =>
      s.machine.isCoordinator && s.machine.state == .waitingForCoord && s.tester == .sleeping &&
        s.turn.isNone && (perform (guarded (step (ntohl 0x0200000a) 4000 8)
          fun s action => ¬ s.TakesIn (ntohl 0x0200000a) action) s
          [.check, .receive ⟨none, 90000⟩, .check, .branch]).isSome) = true := by
    decide +kernel
  obtain ⟨s, run, hs⟩ := exists_runs_of_any hrun
  simp only [Bool.and_eq_true, beq_iff_eq, Option.isNone_iff_eq_none] at hs
  obtain ⟨⟨⟨⟨hrole, hstate⟩, hasleep⟩, hturn⟩, hmore⟩ := hs
  obtain ⟨s', hs'⟩ := Option.isSome_iff_exists.mp hmore
  have hstranded : s.Stranded := ⟨hrole, hstate, hasleep, by simp [hturn]⟩
  exact ⟨s, s', run, (stranded_iff hstranded).mp (runs_of_perform_guarded hs')⟩

end Threads

end Election

end Brix
