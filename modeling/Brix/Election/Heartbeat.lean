import Brix.Common.Sockets
import Brix.Election.Leadership

/-!
# The heartbeat

`heartbeat.cpp`: the receiver of a server answers every datagram, and the tester of a server that
does not coordinate asks the server at `coordinator_ip` up to three times whether it is alive.  If
it is not answered it calls `backup_election`, whatever the election thread is doing.  The tester
takes any datagram for an answer, so what the receiver writes into its own makes no difference,
and the receiver is represented here by the arrivals of a test.

* `heartbeatTest` — one test, which any datagram answers
* `Threads` — the election thread and the tester thread, with their shared fields
* `Threads.serialised` — whatever the two threads do between them, `Machine.iterate` with the calls
  that land in a turn has done
* `Threads.next_test_exits_iff` — a test that is answered does not close its socket, so there are
  only so many

A turn of the election thread is two steps: up to the `switch`, which reads the state, and the
branch.  The assignments within a branch are one step.

### The design

A call of `backup_election` is one step here.  Its two statements are the assignment of the state
and a broadcast, and nothing that is said in this module is about what is sent; the shared state
after the first statement is the shared state after both.  Where the broadcasts are counted the
statements are taken apart (`Brix.Election.Outgoing`).

`events` and `landed` record what a reader of the log of this server would write down: which turns
there have been, and how many calls have fallen into each.  They are history variables, so that
the result can say of an interleaving that it is a sequence.

### What is load-bearing

Between the head of a turn and its branch the machine is no state of the sequence.  It is the last
one, with the datagram received and with the calls that have landed since, and the state that the
election thread holds in its hand is that of the last one still (`Since`).  That is exactly what
`Machine.iterate` does with its third argument, so the branch, when it comes, completes the turn;
this is the one idea in the proof of `Serial.step`.

For the sockets it is `Leaking.count`, an equation and not an inequality.  Every test opens one,
and only a test without an answer closes it.
-/

namespace Brix

open Text

namespace Election

/-- The size of the buffer, which is never looked at. -/
def MAXLINE_HEARTBEAT : ℕ := 32

/-- A server listens for probes on the port of its requests and two more. -/
def HEARTBEAT_PORT_DELTA : Int32 := 2

/-- What a test comes to: where its probes went, and its result. -/
structure Tested where
  sent : List SockAddr
  alive : Bool

/-- The loop of `heartbeat_test`, with what arrives at each attempt. -/
def heartbeatAttempts (servaddr : SockAddr) (len : Int32) : List (Option Datagram) → Tested
  | [] => ⟨[], false⟩
  | arrival :: rest =>
      let receipt := recvfrom servaddr len arrival
      match receipt.text.map (inBuffer MAXLINE_HEARTBEAT) with
      -- the buffer is not looked at
      | some _ => ⟨[servaddr], true⟩
      | none =>
          let later := heartbeatAttempts receipt.address receipt.len rest
          ⟨servaddr :: later.sent, later.alive⟩

/-- `heartbeat_test`; `len` is what its uninitialised `len` happens to be. -/
def heartbeatTest (targetIp : Text) (targetPort tries : Int32) (len : Int32)
    (arrivals : ℕ → Option Datagram) : Tested :=
  heartbeatAttempts (createSockaddr targetIp targetPort) len
    ((List.range tries.toInt.toNat).map arrivals)

/-! ## A test -/

section Test

variable {target : SockAddr} {len : Int32} {arrivals : List (Option Datagram)}

/-- An attempt that is not answered changes nothing. -/
theorem heartbeatAttempts_unanswered {arrival : Option Datagram} (h : len < 0 ∨ arrival = none)
    (rest : List (Option Datagram)) :
    heartbeatAttempts target len (arrival :: rest)
      = ⟨target :: (heartbeatAttempts target len rest).sent,
        (heartbeatAttempts target len rest).alive⟩ := by
  have hreceipt : recvfrom target len arrival = ⟨none, target, len⟩ := by
    rcases h with hlen | rfl
    · exact recvfrom_of_neg hlen arrival
    · rfl
  simp only [heartbeatAttempts, hreceipt, Option.map_none]

/-- One that is answered is the last one. -/
theorem heartbeatAttempts_answered (hlen : ¬ len < 0) (datagram : Datagram)
    (rest : List (Option Datagram)) :
    heartbeatAttempts target len (some datagram :: rest) = ⟨[target], true⟩ := by
  simp only [heartbeatAttempts, recvfrom_text hlen, Option.map_some]

/-- With a length below zero no test is answered. -/
theorem heartbeatAttempts_of_neg (hlen : len < 0) :
    heartbeatAttempts target len arrivals = ⟨List.replicate arrivals.length target, false⟩ := by
  induction arrivals with
  | nil => rfl
  | cons arrival rest ih =>
      rw [heartbeatAttempts_unanswered (Or.inl hlen), ih]
      rfl

/-- With any other, probes are sent until the first datagram. -/
theorem heartbeatAttempts_of_nonneg (hlen : ¬ len < 0) :
    heartbeatAttempts target len arrivals
      = ⟨List.replicate (min (arrivals.findIdx Option.isSome + 1) arrivals.length) target,
        arrivals.any Option.isSome⟩ := by
  induction arrivals with
  | nil => rfl
  | cons arrival rest ih =>
      cases arrival with
      | some datagram =>
          rw [heartbeatAttempts_answered hlen, List.findIdx_cons]
          simp
      | none =>
          rw [heartbeatAttempts_unanswered (Or.inr rfl), ih, List.findIdx_cons]
          simp only [Option.isSome_none, cond_false, List.length_cons, List.any_cons,
            Bool.false_or, Tested.mk.injEq, and_true]
          rw [← List.replicate_succ]
          congr 1
          omega

end Test

/-- **What a test says.**  It is answered if a datagram comes at one of its attempts, from anybody
and with anything in it, unless the length happens to be below zero. -/
theorem heartbeatTest_alive_iff (targetIp : Text) (targetPort tries len : Int32)
    (arrivals : ℕ → Option Datagram) :
    (heartbeatTest targetIp targetPort tries len arrivals).alive = true ↔
      ¬ len < 0 ∧ ∃ i < tries.toInt.toNat, arrivals i ≠ none := by
  rw [heartbeatTest]
  by_cases hlen : len < 0
  · rw [heartbeatAttempts_of_neg hlen]
    exact iff_of_false nofun fun h => h.1 hlen
  · rw [heartbeatAttempts_of_nonneg hlen]
    simp only [List.any_map, List.any_eq_true, List.mem_range, Function.comp_apply, hlen,
      not_false_eq_true, true_and, Option.isSome_iff_ne_none]

/-- No test is led astray: all of its probes go to its target, one for each attempt at most. -/
theorem heartbeatTest_sent (targetIp : Text) (targetPort tries len : Int32)
    (arrivals : ℕ → Option Datagram) :
    ∃ probes ≤ tries.toInt.toNat, (heartbeatTest targetIp targetPort tries len arrivals).sent
      = List.replicate probes (createSockaddr targetIp targetPort) := by
  rw [heartbeatTest]
  by_cases hlen : len < 0
  · rw [heartbeatAttempts_of_neg hlen]
    exact ⟨_, by simp, rfl⟩
  · rw [heartbeatAttempts_of_nonneg hlen]
    refine ⟨_, (Nat.min_le_right _ _).trans ?_, rfl⟩
    simp

/-! ## The two threads -/

/-- How far `heartbeat_tester_loop` has got. -/
inductive Tester
  /-- Asleep, or about to look at `is_coordinator`. -/
  | sleeping
  /-- It has seen that the server does not coordinate. -/
  | checked
  /-- It has read `coordinator_ip` and tests that server. -/
  | testing (target : InAddr)
  /-- It has not been answered, and is going to call `backup_election`. -/
  | alarmed
  deriving DecidableEq

/-- The socket of the test at hand. -/
def Tester.inUse : Tester → ℕ
  | .testing _ => 1
  | .sleeping | .checked | .alarmed => 0

/-- The election thread and the tester thread.  `turn` is what the election thread has received,
and the state that it has read, in the middle of a turn.  `events`, `landed`, `tests` and `called`
are history variables: the turns that are over and the calls between them, the calls in the turn at
hand, the tests with their results, and all calls. -/
structure Threads where
  machine : Machine
  turn : Option (Input × ElectionState)
  tester : Tester
  openFiles : ℕ
  exited : Bool
  events : List Event
  landed : ℕ
  tests : List (InAddr × Bool)
  called : ℕ

/-- A step of one of the threads. -/
inductive ThreadAction
  /-- The election thread: `recvfrom`, the loopback test, and the `switch` reads the state. -/
  | receive (input : Input)
  /-- The branch. -/
  | branch
  /-- The tester thread: it reads `is_coordinator`. -/
  | check
  /-- It reads `coordinator_ip`, and the test creates its socket. -/
  | target
  /-- The rest of the test. -/
  | test (len : Int32) (arrivals : ℕ → Option Datagram)
  /-- It calls `backup_election`. -/
  | backup

namespace Threads

open Execution

/-- The threads are started, by a process with that many open files. -/
def start (coordinatorIp : InAddr) (lastReceivedId : UInt32) (openFiles : ℕ) : Threads :=
  ⟨.start coordinatorIp lastReceivedId, none, .sleeping, openFiles, false, [], 0, [], 0⟩

/-- The test of `heartbeat_tester_loop`, as `start_heartbeat_tester_loop` calls it. -/
def aliveTest (port : Int32) (target : InAddr) (len : Int32) (arrivals : ℕ → Option Datagram) :
    Tested :=
  heartbeatTest (addrToString target) (port + HEARTBEAT_PORT_DELTA) 3 len arrivals

/-- One step.  `create_udp_socket` ends the process if it has `limit` open files. -/
def step (id : UInt32) (port : Int32) (limit : ℕ) (s : Threads) : ThreadAction → Option Threads
  | .receive input =>
      if s.exited = false ∧ s.turn = none then
        let m := s.machine.receive input
        if isLoopback m.ssCliaddr then
          some { s with machine := m, events := s.events ++ [.turn input 0] }
        else some { s with machine := m, turn := some (input, m.state), landed := 0 }
      else none
  | .branch =>
      match s.turn with
      | some (input, latched) =>
          if s.exited = false then
            some { s with
              machine := (s.machine.branch id (.of (input.datagram.map Prod.snd)) input.elapsed
                latched).1
              turn := none
              events := s.events ++ [.turn input s.landed] }
          else none
      | none => none
  | .check =>
      if s.exited = false ∧ s.tester = .sleeping then
        some (if s.machine.isCoordinator then s else { s with tester := .checked })
      else none
  | .target =>
      if s.exited = false ∧ s.tester = .checked then
        some (if s.openFiles < limit then
            { s with tester := .testing s.machine.coordinatorIp, openFiles := s.openFiles + 1 }
          else { s with exited := true })
      else none
  | .test len arrivals =>
      match s.tester with
      | .testing target =>
          if s.exited = false then
            let alive := (aliveTest port target len arrivals).alive
            some { s with
              tester := if alive then .sleeping else .alarmed
              -- a test that is answered returns without `close`
              openFiles := if alive then s.openFiles else s.openFiles - 1
              tests := s.tests ++ [(target, alive)] }
          else none
      | .sleeping | .checked | .alarmed => none
  | .backup =>
      if s.exited = false ∧ s.tester = .alarmed then
        some { s with
          machine := s.machine.backupElection.1
          tester := .sleeping
          events := if s.turn = none then s.events ++ [.backup] else s.events
          landed := if s.turn = none then s.landed else s.landed + 1
          called := s.called + 1 }
      else none

/-- What a step can do. -/
inductive Stepped (id : UInt32) (port : Int32) (limit : ℕ) (s : Threads) :
    ThreadAction → Threads → Prop
  | skipped {input : Input} (between : s.turn = none)
      (loopback : isLoopback (s.machine.receive input).ssCliaddr = true) :
      Stepped id port limit s (.receive input)
        { s with machine := s.machine.receive input, events := s.events ++ [.turn input 0] }
  | received {input : Input} (between : s.turn = none)
      (looks : isLoopback (s.machine.receive input).ssCliaddr = false) :
      Stepped id port limit s (.receive input)
        { s with
          machine := s.machine.receive input
          turn := some (input, s.machine.state)
          landed := 0 }
  | branched {input : Input} {latched : ElectionState} (within : s.turn = some (input, latched)) :
      Stepped id port limit s .branch
        { s with
          machine := (s.machine.branch id (.of (input.datagram.map Prod.snd)) input.elapsed
            latched).1
          turn := none
          events := s.events ++ [.turn input s.landed] }
  | coordinates (asleep : s.tester = .sleeping) (role : s.machine.isCoordinator = true) :
      Stepped id port limit s .check s
  | checked (asleep : s.tester = .sleeping) (role : s.machine.isCoordinator = false) :
      Stepped id port limit s .check { s with tester := .checked }
  | opened (seen : s.tester = .checked) (room : s.openFiles < limit) :
      Stepped id port limit s .target
        { s with tester := .testing s.machine.coordinatorIp, openFiles := s.openFiles + 1 }
  | ended (seen : s.tester = .checked) (full : limit ≤ s.openFiles) :
      Stepped id port limit s .target { s with exited := true }
  | answered {target : InAddr} {len : Int32} {arrivals : ℕ → Option Datagram}
      (testing : s.tester = .testing target)
      (alive : (aliveTest port target len arrivals).alive = true) :
      Stepped id port limit s (.test len arrivals)
        { s with tester := .sleeping, tests := s.tests ++ [(target, true)] }
  | unanswered {target : InAddr} {len : Int32} {arrivals : ℕ → Option Datagram}
      (testing : s.tester = .testing target)
      (silent : (aliveTest port target len arrivals).alive = false) :
      Stepped id port limit s (.test len arrivals)
        { s with
          tester := .alarmed
          openFiles := s.openFiles - 1
          tests := s.tests ++ [(target, false)] }
  | between (alarmed : s.tester = .alarmed) (done : s.turn = none) :
      Stepped id port limit s .backup
        { s with
          machine := s.machine.backupElection.1
          tester := .sleeping
          events := s.events ++ [.backup]
          called := s.called + 1 }
  | landed {input : Input} {latched : ElectionState} (alarmed : s.tester = .alarmed)
      (within : s.turn = some (input, latched)) :
      Stepped id port limit s .backup
        { s with
          machine := s.machine.backupElection.1
          tester := .sleeping
          landed := s.landed + 1
          called := s.called + 1 }

section Step

variable {id : UInt32} {port : Int32} {limit : ℕ} {s s' : Threads} {action : ThreadAction}

/-- The inversion lemma of `step`: nothing below unfolds it again. -/
theorem step_cases (taken : s.step id port limit action = some s') :
    s.exited = false ∧ Stepped id port limit s action s' := by
  cases action with
  | receive input =>
      simp only [step, Option.ite_none_right_eq_some] at taken
      obtain ⟨⟨hexited, hturn⟩, taken⟩ := taken
      refine ⟨hexited, ?_⟩
      split at taken
      · rename_i hloopback
        cases taken
        exact .skipped hturn hloopback
      · rename_i hlooks
        rw [Machine.receive_state] at taken
        cases taken
        exact .received hturn (Bool.eq_false_iff.mpr hlooks)
  -- the switch is taken with the state latched when the datagram was read
  | branch =>
      cases hturn : s.turn with
      | none => simp [step, hturn] at taken
      | some turn =>
          obtain ⟨input, latched⟩ := turn
          simp only [step, hturn, Option.ite_none_right_eq_some] at taken
          obtain ⟨hexited, taken⟩ := taken
          cases taken
          exact ⟨hexited, .branched hturn⟩
  | check =>
      simp only [step, Option.ite_none_right_eq_some] at taken
      obtain ⟨⟨hexited, hasleep⟩, taken⟩ := taken
      refine ⟨hexited, ?_⟩
      cases hrole : s.machine.isCoordinator with
      | true =>
          rw [if_pos hrole] at taken
          cases taken
          exact .coordinates hasleep hrole
      | false =>
          rw [if_neg (by simp [hrole])] at taken
          cases taken
          exact .checked hasleep hrole
  | target =>
      simp only [step, Option.ite_none_right_eq_some] at taken
      obtain ⟨⟨hexited, hseen⟩, taken⟩ := taken
      refine ⟨hexited, ?_⟩
      -- `socket()` fails once every file number is taken, and the process exits
      by_cases hroom : s.openFiles < limit
      · rw [if_pos hroom] at taken
        cases taken
        exact .opened hseen hroom
      · rw [if_neg hroom] at taken
        cases taken
        exact .ended hseen (not_lt.mp hroom)
  | test len arrivals =>
      cases htester : s.tester with
      | sleeping => simp [step, htester] at taken
      | checked => simp [step, htester] at taken
      | alarmed => simp [step, htester] at taken
      | testing target =>
          simp only [step, htester, Option.ite_none_right_eq_some] at taken
          obtain ⟨hexited, taken⟩ := taken
          refine ⟨hexited, ?_⟩
          cases halive : (aliveTest port target len arrivals).alive with
          | true =>
              simp only [halive, if_true] at taken
              cases taken
              exact .answered htester halive
          | false =>
              simp only [halive, Bool.false_eq_true, if_false] at taken
              cases taken
              exact .unanswered htester halive
  | backup =>
      simp only [step, Option.ite_none_right_eq_some] at taken
      obtain ⟨⟨hexited, halarmed⟩, taken⟩ := taken
      refine ⟨hexited, ?_⟩
      -- the call may fall between two turns of the loop or into one
      cases hturn : s.turn with
      | none =>
          simp only [hturn, if_true] at taken
          cases taken
          rw [← hturn]
          exact .between halarmed hturn
      | some turn =>
          obtain ⟨input, latched⟩ := turn
          simp only [hturn, reduceCtorEq, if_false] at taken
          cases taken
          rw [← hturn]
          exact .landed halarmed hturn

end Step

/-! ## The election thread, as if it were alone -/

/-- The calls of `backup_election` in a sequence of events. -/
def callsIn (events : List Event) : ℕ :=
  (events.map fun event =>
    match event with
    | .turn _ calls => calls
    | .backup => 1).sum

/-- The calls that have landed in the turn at hand. -/
def landing (s : Threads) : ℕ :=
  match s.turn with
  | some _ => s.landed
  | none => 0

/-- The tests without an answer. -/
def unanswered (s : Threads) : ℕ := s.tests.countP fun test => !test.2

/-- The tests that were answered. -/
def answeredTests (s : Threads) : ℕ := s.tests.countP fun test => test.2

/-- What the machine is in terms of the one that the last turn left. -/
def Since (s : Threads) (m : Machine) : Prop :=
  match s.turn with
  | none => s.machine = m
  | some (input, latched) => latched = m.state ∧ isLoopback (m.receive input).ssCliaddr = false ∧
      s.machine = ((m.receive input).backupElections s.landed).1

section Serial

variable {id : UInt32} {port : Int32} {limit files : ℕ} {coordinatorIp : InAddr}
  {lastReceivedId : UInt32} {s s' : Threads} {action : ThreadAction}
  {actions : List ThreadAction}

/-- Between two turns nothing lands in one. -/
theorem landing_none (h : s.turn = none) : s.landing = 0 := by
  rw [landing, h]

/-- Within a turn `landed` counts. -/
theorem landing_some {turn : Input × ElectionState} (h : s.turn = some turn) :
    s.landing = s.landed := by
  rw [landing, h]

/-- One event more. -/
theorem callsIn_concat (events : List Event) (event : Event) :
    callsIn (events ++ [event]) = callsIn events + callsIn [event] := by
  simp [callsIn]

/-- The last call instead of the first. -/
theorem backupElections_succ (calls : ℕ) (m : Machine) :
    (m.backupElections (calls + 1)).1 = (m.backupElections calls).1.backupElection.1 := by
  induction calls generalizing m with
  | zero => rfl
  | succ calls ih => exact ih m.backupElection.1

/-- The events lead to the machine. -/
def Serial (id : UInt32) (coordinatorIp : InAddr) (lastReceivedId : UInt32) (s : Threads) : Prop :=
  ∃ c, Runs (Chronicle.step id) Always (Chronicle.start coordinatorIp lastReceivedId) s.events c ∧
    s.Since c.machine

/-- The steps of the tester thread but for the call change nothing that the machine is made of. -/
theorem Serial.step (h : Serial id coordinatorIp lastReceivedId s)
    (stepped : Stepped id port limit s action s') : Serial id coordinatorIp lastReceivedId s' := by
  obtain ⟨c, run, hsince⟩ := h
  cases stepped with
  | skipped between loopback =>
      rename_i input
      rw [Since, between] at hsince
      refine ⟨⟨(c.machine.respond id (.turn input 0)).1, c.words ++ c.machine.words id _⟩,
        .snoc run trivial rfl, ?_⟩
      rw [Since, between, Machine.respond, Machine.iterate_eq, ← hsince, if_pos loopback]
  | received between looks =>
      rw [Since, between] at hsince
      refine ⟨c, run, ?_⟩
      rw [hsince] at looks
      exact ⟨by rw [hsince], looks, by rw [hsince]; rfl⟩
  | branched within =>
      rename_i input latched
      rw [Since, within] at hsince
      obtain ⟨hlatched, hlooks, hmachine⟩ := hsince
      refine ⟨⟨(c.machine.respond id (.turn input s.landed)).1, c.words ++ c.machine.words id _⟩,
        .snoc run trivial rfl, ?_⟩
      rw [Since, Machine.respond, Machine.iterate_eq, if_neg (by simp [hlooks]), Machine.turn,
        Machine.interrupted, ← hmachine, hlatched]
  | coordinates asleep role => exact ⟨c, run, hsince⟩
  | checked asleep role => exact ⟨c, run, hsince⟩
  | opened seen room => exact ⟨c, run, hsince⟩
  | ended seen full => exact ⟨c, run, hsince⟩
  | answered testing alive => exact ⟨c, run, hsince⟩
  | unanswered testing silent => exact ⟨c, run, hsince⟩
  | between alarmed done =>
      rw [Since, done] at hsince
      refine ⟨⟨(c.machine.respond id .backup).1, c.words ++ c.machine.words id _⟩,
        .snoc run trivial rfl, ?_⟩
      rw [Since, done, Machine.respond, ← hsince]
  | landed alarmed within =>
      rw [Since, within] at hsince
      obtain ⟨hlatched, hlooks, hmachine⟩ := hsince
      refine ⟨c, run, ?_⟩
      rw [Since, within]
      exact ⟨hlatched, hlooks, by rw [backupElections_succ, ← hmachine]⟩

/-- Every test without an answer has led to one call, or is about to. -/
def Justified (s : Threads) : Prop :=
  callsIn s.events + s.landing = s.called ∧
    s.called + (if s.tester = .alarmed then 1 else 0) = s.unanswered

/-- A test without an answer puts the tester on its way to a call, and the call puts it to sleep.
-/
theorem Justified.step (h : s.Justified) (stepped : Stepped id port limit s action s') :
    s'.Justified := by
  obtain ⟨hcalls, hunanswered⟩ := h
  unfold unanswered at hunanswered
  cases stepped with
  | skipped between loopback =>
      rw [landing_none between] at hcalls
      refine ⟨?_, hunanswered⟩
      rw [callsIn_concat, landing_none]
      · exact hcalls
      · exact between
  | received between looks =>
      rw [landing_none between] at hcalls
      exact ⟨hcalls, hunanswered⟩
  | branched within =>
      rw [landing_some within] at hcalls
      exact ⟨by rw [callsIn_concat]; exact hcalls, hunanswered⟩
  | coordinates asleep role => exact ⟨hcalls, hunanswered⟩
  | checked asleep role =>
      rw [asleep] at hunanswered
      exact ⟨hcalls, hunanswered⟩
  | opened seen room =>
      rw [seen] at hunanswered
      exact ⟨hcalls, hunanswered⟩
  | ended seen full => exact ⟨hcalls, hunanswered⟩
  | answered testing alive =>
      rw [testing] at hunanswered
      exact ⟨hcalls, by simpa [unanswered, List.countP_append] using hunanswered⟩
  | unanswered testing silent =>
      rw [testing] at hunanswered
      exact ⟨hcalls, by simpa [unanswered, List.countP_append] using hunanswered⟩
  -- the two steps that call: an alarm is spent for each
  | between alarmed done =>
      rw [landing_none done] at hcalls
      rw [alarmed] at hunanswered
      refine ⟨?_, hunanswered⟩
      rw [callsIn_concat, landing_none]
      · exact congrArg (· + 1) hcalls
      · exact done
  | landed alarmed within =>
      rw [landing_some within] at hcalls
      rw [alarmed] at hunanswered
      refine ⟨?_, hunanswered⟩
      rw [landing_some]
      · exact congrArg (· + 1) hcalls
      · exact within

/-- **The two threads are one machine.**  In whatever order the election thread and the tester
thread take their steps: the machine is what the turns of the election make of it, one after the
other, with the calls of `backup_election` in them and between them, and the calls are as many as
the tests that were not answered, up to one that is still to be made. -/
theorem serialised
    (run : Runs (step id port limit) Always (start coordinatorIp lastReceivedId files) actions s) :
    (∃ c, Runs (Chronicle.step id) Always (Chronicle.start coordinatorIp lastReceivedId)
        s.events c ∧ s.Since c.machine) ∧
      callsIn s.events + s.landing + (if s.tester = .alarmed then 1 else 0) = s.unanswered := by
  have hinvariant : Serial id coordinatorIp lastReceivedId s ∧ s.Justified := by
    refine run.invariant (fun s => Serial id coordinatorIp lastReceivedId s ∧ s.Justified)
      ⟨⟨.start coordinatorIp lastReceivedId, .nil, ?_⟩, rfl, rfl⟩ ?_
    · rw [Since, start]
      rfl
    rintro s action s' ⟨hserial, hjustified⟩ - taken
    exact ⟨hserial.step (step_cases taken).2, hjustified.step (step_cases taken).2⟩
  obtain ⟨hserial, hcalls, hunanswered⟩ := hinvariant
  exact ⟨hserial, by rw [hcalls, hunanswered]⟩

end Serial

/-- A server enters its loop while its tester, which nobody answers, calls `backup_election`. -/
def alarmedTurn : List ThreadAction :=
  [.receive ⟨none, 0⟩, .check, .target, .test 0 fun _ => none, .backup, .branch]

/-- The call lands between the head of the first turn and its branch. -/
theorem serialised_alarmedTurn :
    ∃ s, Runs (step 7 4000 8) Always (start 0 0 3) alarmedTurn s ∧ s.unanswered = 1 ∧
      callsIn s.events = 1 := by
  have hrun : (perform (step 7 4000 8) (start 0 0 3) alarmedTurn).any (fun s =>
      s.unanswered == 1 && s.turn.isNone && s.tester == .sleeping) = true := by
    rfl
  obtain ⟨s, run, hs⟩ := exists_runs_of_any hrun
  simp only [Bool.and_eq_true, beq_iff_eq, Option.isNone_iff_eq_none] at hs
  obtain ⟨⟨hone, hturn⟩, hasleep⟩ := hs
  have hcalls := (serialised run).2
  rw [landing_none hturn, hasleep, hone] at hcalls
  exact ⟨s, run, hone, hcalls⟩

/-! ## The sockets of the tests -/

section Sockets

variable {id : UInt32} {port : Int32} {limit files : ℕ} {coordinatorIp : InAddr}
  {lastReceivedId : UInt32} {s s' : Threads} {action : ThreadAction}
  {actions : List ThreadAction}

/-- Every test that was answered has left a socket behind.  The process has ended if a test was to
begin when there was no room for one more. -/
structure Leaking (files limit : ℕ) (s : Threads) : Prop where
  count : s.openFiles = files + s.answeredTests + s.tester.inUse
  room : s.openFiles ≤ limit
  full : s.exited = true → s.openFiles = limit ∧ s.tester.inUse = 0

/-- A test that is answered gives its socket to nobody. -/
theorem Leaking.step (h : Leaking files limit s) (hexited : s.exited = false)
    (stepped : Stepped id port limit s action s') : Leaking files limit s' := by
  obtain ⟨hcount, hroom, hfull⟩ := h
  have hrunning : ∀ {p : Prop}, s.exited = true → p := fun h => nomatch h.symm.trans hexited
  cases stepped with
  | skipped between loopback => exact ⟨hcount, hroom, hfull⟩
  | received between looks => exact ⟨hcount, hroom, hfull⟩
  | branched within => exact ⟨hcount, hroom, hfull⟩
  | coordinates asleep role => exact ⟨hcount, hroom, hfull⟩
  | checked asleep role =>
      simp only [asleep, Tester.inUse] at hcount
      exact ⟨hcount, hroom, hrunning⟩
  | opened seen room =>
      simp only [seen, Tester.inUse] at hcount
      exact ⟨congrArg (· + 1) hcount, room, hrunning⟩
  | ended seen full =>
      refine ⟨hcount, hroom, fun _ => ⟨Nat.le_antisymm hroom full, ?_⟩⟩
      rw [seen]
      rfl
  -- the socket of a test that is answered stays open
  | answered testing alive =>
      simp only [testing, Tester.inUse] at hcount
      refine ⟨?_, hroom, hrunning⟩
      rw [hcount]
      simp [answeredTests, Tester.inUse, List.countP_append]
      omega
  -- the one of a test without an answer is closed
  | unanswered testing silent =>
      simp only [testing, Tester.inUse] at hcount
      refine ⟨?_, (Nat.sub_le _ _).trans hroom, hrunning⟩
      rw [hcount]
      simp [answeredTests, Tester.inUse, List.countP_append]
  | between alarmed done =>
      simp only [alarmed, Tester.inUse] at hcount
      exact ⟨hcount, hroom, hrunning⟩
  | landed alarmed within =>
      simp only [alarmed, Tester.inUse] at hcount
      exact ⟨hcount, hroom, hrunning⟩

/-- A run. -/
theorem leaking_of_run (hfiles : files ≤ limit)
    (run : Runs (step id port limit) Always (start coordinatorIp lastReceivedId files) actions s) :
    Leaking files limit s := by
  refine run.invariant (Leaking files limit) ⟨rfl, hfiles, fun h => Bool.noConfusion h⟩ ?_
  intro s action s' h _ taken
  exact h.step (step_cases taken).1 (step_cases taken).2

/-- **A healthy coordinator is bad for its backups.**  A process that may have `limit` open files
and starts with `files` of them sees `limit - files` tests answered at most, whatever its threads
do; and the test that is to begin next ends it exactly if it has seen so many. -/
theorem next_test_exits_iff (hfiles : files ≤ limit)
    (run : Runs (step id port limit) Always (start coordinatorIp lastReceivedId files) actions s) :
    files + s.answeredTests ≤ limit ∧ (s.exited = true → files + s.answeredTests = limit) ∧
      ∀ s', s.step id port limit .target = some s' →
        (s'.exited = true ↔ files + s.answeredTests = limit) := by
  obtain ⟨hcount, hroom, hfull⟩ := leaking_of_run hfiles run
  refine ⟨by omega, fun hexited => ?_, fun s' taken => ?_⟩
  · obtain ⟨hopen, huse⟩ := hfull hexited
    omega
  · obtain ⟨hexited, stepped⟩ := step_cases taken
    cases stepped with
    | opened seen room =>
        simp only [seen, Tester.inUse] at hcount
        refine iff_of_false (by simp [hexited]) ?_
        omega
    | ended seen full =>
        simp only [seen, Tester.inUse] at hcount
        refine iff_of_true rfl ?_
        omega

end Sockets

/-- A test that is answered, and the next one. -/
def secondTest : List ThreadAction :=
  [.check, .target, .test 0 fun _ => some ⟨"ALV".toList, SockAddr.zero⟩, .check, .target]

/-- One test is too many for a process that may have one more file open. -/
theorem secondTest_exits :
    ∃ s, Runs (step 7 4000 4) Always (start 0 0 3) secondTest s ∧ s.exited = true ∧
      3 + s.answeredTests = 4 := by
  have hrun : (perform (step 7 4000 4) (start 0 0 3) secondTest).any (fun s => s.exited)
      = true := by
    rfl
  obtain ⟨s, run, hexited⟩ := exists_runs_of_any hrun
  exact ⟨s, run, hexited, (next_test_exits_iff (by decide) run).2.1 hexited⟩

end Threads

end Election

end Brix
