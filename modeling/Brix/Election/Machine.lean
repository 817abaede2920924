import Brix.Election.Messages

/-!
# The election state machine

`single_socket_election` of one server, and `backup_election`, which the heartbeat
thread calls when the coordinator does not answer.

`Machine.iterate` is one turn of the loop: receive a datagram or time out, skip what
comes from the loopback network, and switch on the state.  The heartbeat thread does
not wait for a turn to end.  A call of `backup_election` that lands after the `switch`
has read the state changes the state under the running branch, so a turn is given the
number of such calls; calls between two turns are steps of their own.

What is sent is the second component of a result.  `in_standby_mode` is written and
never read, and is left out.

### The design

The translation keeps the source's functions apart, one definition each, and puts them together in
`branch`, which is the `switch` over the state.  The state that the `switch` goes by is an
argument of its own: the source reads it once, and by the time the branch runs another thread may
have changed it.  Everything else that a branch looks at it looks at when it gets there.

A turn and the calls of `backup_election` that land in it are one step of `iterate`.  For the
role, for the coordinator and for who has announced itself this is as fine as it need be, because
a call changes nothing but the state, and it broadcasts only an election message.  Where the order
of the messages on the wire is in question, or the moment between the two statements of a call,
`Brix.Election.Outgoing` takes the statements apart, and `Spoken.perform_turn` connects the two.

### What is load-bearing

Most of what is said about elections needs to know about a turn only which of three kinds it is.
`Quiet`, `Adopted` and `Announced` are these three, and they are phrased as what a turn leaves
unchanged rather than as what it does, so that they compose: a quiet turn after quiet calls is
quiet (`Quiet.trans`).  `iterate_quiet_or_announced`, `iterate_adopted` and `iterate_init` say
that there are no others.
-/

namespace Brix

open Text

namespace Election

/-- `ElectionSwitchResult`. -/
inductive SwitchResult
  | none
  | election
  | answer
  | coordAnnouncement
  | timeout
  deriving DecidableEq, Repr

/-- What is to be returned for a message. -/
def Message.result : Message → SwitchResult
  | .election => .election
  | .answer => .answer
  | .coordAnnouncement => .coordAnnouncement

/-- `ElectionState`. -/
inductive ElectionState
  | init
  | notInProgress
  | inProgress
  | waitingForCoord
  deriving DecidableEq, Repr

/-- The fields of `RedundancyManager` that the election reads. -/
structure Machine where
  state : ElectionState
  isCoordinator : Bool
  coordinatorIp : InAddr
  lastReceivedId : UInt32
  /-- The source of the last datagram. -/
  ssCliaddr : InAddr
  currentWaitTime : ℤ
  deriving DecidableEq

/-- What a turn sends. -/
inductive Output
  /-- To everybody. -/
  | broadcast (message : Message)
  /-- `send_answer_back`. -/
  | answerBack (dest : InAddr)
  /-- `broadcast_update` of the database. -/
  | update
  deriving DecidableEq

/-- What `recvfrom` yields, and how long ago the election was started. -/
structure Input where
  datagram : Option (InAddr × Text)
  elapsed : ℤ

/-- `answer_max_wait_time`, in milliseconds. -/
def ANSWER_MAX_WAIT_TIME : ℤ := 200

/-- `(ntohl(addr) & 0xff000000) == 0x7f000000`. -/
def isLoopback (addr : InAddr) : Bool := ntohl addr &&& 0xff000000 == 0x7f000000

namespace Machine

/-- The machine when the loop is entered; two fields are not initialised. -/
def start (coordinatorIp : InAddr) (lastReceivedId : UInt32) : Machine :=
  ⟨.init, false, coordinatorIp, lastReceivedId, 0, 0⟩

/-- `promote`. -/
def promote (m : Machine) : Machine := { m with isCoordinator := true }

/-- `demote`. -/
def demote (m : Machine) : Machine := { m with isCoordinator := false }

/-- `start_election_procedure`.

The source sends the answer first; the socket is the same, but nothing is said about the order in
which the two arrive. -/
def startElectionProcedure (m : Machine) : Machine × List Output :=
  ({ m with state := .inProgress }, [.answerBack m.ssCliaddr, .broadcast .election])

/-- `backup_election`. -/
def backupElection (m : Machine) : Machine × List Output :=
  ({ m with state := .inProgress }, [.broadcast .election])

/-- `handle_election_message`. -/
def handleElectionMessage (id : UInt32) (m : Machine) : Machine × List Output :=
  if m.lastReceivedId < id then (m, [.answerBack m.ssCliaddr])
  else ({ m with state := .waitingForCoord }, [])

/-- `handle_answer_message`. -/
def handleAnswerMessage (id : UInt32) (m : Machine) : Machine :=
  if m.lastReceivedId < id then m else { m with state := .waitingForCoord }

/-- `handle_coordinator_announcement`.

It does not look at the id of the announcement: whoever announces itself is followed. -/
def handleCoordinatorAnnouncement (m : Machine) : Machine :=
  let m := { m with state := .notInProgress, coordinatorIp := m.ssCliaddr }
  if m.isCoordinator then m.demote else m

/-- `handle_in_progress_timeout`.

Nothing here asks whether an answer has been received meanwhile. -/
def handleInProgressTimeout (m : Machine) : Machine × List Output :=
  if ANSWER_MAX_WAIT_TIME ≤ m.currentWaitTime then
    let m := { m with state := .notInProgress }
    (if m.isCoordinator then m else m.promote, [.broadcast .coordAnnouncement])
  else (m, [])

/-- `ss_election_result_switch`.  The source makes each test twice. -/
def ssElectionResultSwitch (id : UInt32) (received : Reception) (m : Machine) :
    SwitchResult × Machine :=
  match isValidCoordAnnouncement id received with
  | some senderId => (.coordAnnouncement, { m with lastReceivedId := senderId })
  | none =>
      match isValidAnswer id received with
      | some senderId => (.answer, { m with lastReceivedId := senderId })
      | none =>
          match isValidElectionMessage id received with
          | some senderId => (.election, { m with lastReceivedId := senderId })
          | none => (if received.n < 0 then .timeout else .none, m)

/-- The `NOT_IN_PROGRESS` branch. -/
def notInProgress (id : UInt32) (result : SwitchResult) (m : Machine) : Machine × List Output :=
  match result with
  | .coordAnnouncement => (m.handleCoordinatorAnnouncement, [])
  | .election =>
      let update := if m.isCoordinator then [Output.update] else []
      if m.lastReceivedId < id then
        (m.startElectionProcedure.1, update ++ m.startElectionProcedure.2)
      else ({ m with state := .waitingForCoord }, update)
  | .answer | .timeout | .none => (m, [])

/-- The `IN_PROGRESS` branch. -/
def inProgress (id : UInt32) (result : SwitchResult) (m : Machine) : Machine × List Output :=
  match result with
  | .coordAnnouncement => (m.handleCoordinatorAnnouncement, [])
  | .election => m.handleElectionMessage id
  | .timeout => m.handleInProgressTimeout
  | .answer | .none => (m, [])

/-- The `WAITING_FOR_COORD` branch. -/
def waitingForCoord (id : UInt32) (result : SwitchResult) (m : Machine) : Machine :=
  match result with
  | .coordAnnouncement => m.handleCoordinatorAnnouncement
  | .answer => m.handleAnswerMessage id
  | .election | .timeout | .none => m

/-- The branch that is taken for a state. -/
def branch (id : UInt32) (received : Reception) (elapsed : ℤ) (m : Machine) :
    ElectionState → Machine × List Output
  | .init =>
      -- whatever has arrived is not looked at
      ({ m with state := .inProgress, isCoordinator := false }, [.broadcast .election])
  | .notInProgress =>
      let (result, m) := ssElectionResultSwitch id received { m with currentWaitTime := 0 }
      m.notInProgress id result
  | .inProgress =>
      let (result, m) := ssElectionResultSwitch id received { m with currentWaitTime := elapsed }
      m.inProgress id result
  | .waitingForCoord =>
      let (result, m) := ssElectionResultSwitch id received { m with currentWaitTime := 0 }
      (m.waitingForCoord id result, [])

/-- Calls of `backup_election`, one after the other. -/
def backupElections : ℕ → Machine → Machine × List Output
  | 0, m => (m, [])
  | calls + 1, m =>
      let (m', sent) := backupElections calls m.backupElection.1
      (m', m.backupElection.2 ++ sent)

/-- The source address of this turn: a timeout leaves the old one. -/
def receive (input : Input) (m : Machine) : Machine :=
  match input.datagram with
  | some (source, _) => { m with ssCliaddr := source }
  | none => m

/-- One turn of the loop, during which `calls` calls of `backup_election` land after the
state has been read. -/
def iterate (id : UInt32) (input : Input) (calls : ℕ) (m : Machine) : Machine × List Output :=
  let m := m.receive input
  if isLoopback m.ssCliaddr then (m, [])
  else
    let (m', early) := m.backupElections calls
    let (m'', sent) := m'.branch id (.of (input.datagram.map Prod.snd)) input.elapsed m.state
    (m'', early ++ sent)

/-- **What a server understands.**  A message of any kind and from any server is taken for what it
is by every other one, which notes the id in it; the sender itself takes no notice. -/
theorem ssElectionResultSwitch_text (message : Message) (senderId id : UInt32) (m : Machine) :
    m.ssElectionResultSwitch id (.of (some (message.text senderId)))
      = if senderId = id then (.none, m)
        else (message.result, { m with lastReceivedId := senderId }) := by
  have hn : ¬ (Reception.of (some (message.text senderId))).n < 0 :=
    not_lt.mpr (Int.natCast_nonneg _)
  unfold ssElectionResultSwitch isValidCoordAnnouncement isValidAnswer isValidElectionMessage
  simp only [isValid_text]
  by_cases hid : senderId = id
  · simp only [hid, ne_eq, not_true_eq_false, and_false, if_false, if_true]
    rw [hid] at hn
    rw [if_neg hn]
  · cases message with
    | election => simp [Message.tag, Message.result, hid]
    | answer => simp [Message.tag, Message.result, hid]
    | coordAnnouncement => simp [Message.tag, Message.result, hid]

/-! ## What a turn can do -/

/-- Nothing happens to the leadership: no announcement is made and none is taken in. -/
structure Quiet (m : Machine) (result : Machine × List Output) : Prop where
  silent : .broadcast .coordAnnouncement ∉ result.2
  role : result.1.isCoordinator = m.isCoordinator
  leader : result.1.coordinatorIp = m.coordinatorIp
  settled : result.1.state = .notInProgress → m.state = .notInProgress
  begun : result.1.state = .init → m.state = .init

/-- An announcement from `source` is taken in. -/
structure Adopted (source : InAddr) (result : Machine × List Output) : Prop where
  silent : .broadcast .coordAnnouncement ∉ result.2
  role : result.1.isCoordinator = false
  leader : result.1.coordinatorIp = source
  settled : result.1.state = .notInProgress

/-- The machine announces itself. -/
structure Announced (result : Machine × List Output) : Prop where
  spoken : .broadcast .coordAnnouncement ∈ result.2
  role : result.1.isCoordinator = true
  settled : result.1.state = .notInProgress

section Turn

variable {id : UInt32} {m m' : Machine} {sent : List Output} {received : Reception}
  {elapsed : ℤ} {input : Input} {calls : ℕ}

/-- Two quiet parts of a turn make a quiet one. -/
theorem Quiet.trans (h : m.Quiet (m', sent)) {result : Machine × List Output}
    (h' : m'.Quiet result) : m.Quiet (result.1, sent ++ result.2) where
  silent hmem := (List.mem_append.mp hmem).elim h.silent h'.silent
  role := h'.role.trans h.role
  leader := h'.leader.trans h.leader
  settled hstate := h.settled (h'.settled hstate)
  begun hstate := h.begun (h'.begun hstate)

/-- Calls of `backup_election` are quiet, and change the state at most. -/
theorem backupElections_quiet (calls : ℕ) (m : Machine) :
    m.Quiet (m.backupElections calls) ∧
      (m.backupElections calls).1.ssCliaddr = m.ssCliaddr ∧
      ((m.backupElections calls).1.state = .waitingForCoord → m.state = .waitingForCoord) := by
  induction calls generalizing m with
  | zero => exact ⟨⟨List.not_mem_nil, rfl, rfl, id, id⟩, rfl, id⟩
  | succ calls ih =>
      obtain ⟨hquiet, hsource, hwaiting⟩ := ih m.backupElection.1
      have hfirst : m.Quiet m.backupElection := ⟨by simp [backupElection], rfl, rfl, nofun, nofun⟩
      exact ⟨hfirst.trans hquiet, hsource, fun h => nomatch hwaiting h⟩

/-- Whether the server coordinated before or not makes no difference afterwards. -/
theorem handleCoordinatorAnnouncement_adopted {source : InAddr} (hsource : m.ssCliaddr = source) :
    Adopted source (m.handleCoordinatorAnnouncement, []) := by
  unfold handleCoordinatorAnnouncement
  constructor
  · exact List.not_mem_nil
  · cases hrole : m.isCoordinator <;> rfl
  · cases m.isCoordinator <;> exact hsource
  · cases m.isCoordinator <;> rfl

/-- A turn that reads an announcement takes it in. -/
theorem branch_adopted {senderId : UInt32} {latched : ElectionState} (hlatched : latched ≠ .init)
    (hvalid : isValidCoordAnnouncement id received = some senderId) :
    Adopted m.ssCliaddr (m.branch id received elapsed latched) := by
  have hswitch : ∀ m : Machine, m.ssElectionResultSwitch id received
      = (.coordAnnouncement, { m with lastReceivedId := senderId }) := by
    intro m
    rw [ssElectionResultSwitch, hvalid]
  cases latched with
  | init => exact absurd rfl hlatched
  | notInProgress =>
      simp only [branch, hswitch, notInProgress]
      exact handleCoordinatorAnnouncement_adopted rfl
  | inProgress =>
      simp only [branch, hswitch, inProgress]
      exact handleCoordinatorAnnouncement_adopted rfl
  | waitingForCoord =>
      simp only [branch, hswitch, waitingForCoord]
      exact handleCoordinatorAnnouncement_adopted rfl

/-- All that the switch changes is the id it may note. -/
theorem ssElectionResultSwitch_notes (id : UInt32) (received : Reception) (m : Machine) :
    ∃ lastReceivedId, (m.ssElectionResultSwitch id received).2
      = { m with lastReceivedId := lastReceivedId } := by
  unfold ssElectionResultSwitch
  split
  · exact ⟨_, rfl⟩
  · split
    · exact ⟨_, rfl⟩
    · split
      · exact ⟨_, rfl⟩
      · exact ⟨_, rfl⟩

/-- What the switch does when there is no announcement. -/
theorem ssElectionResultSwitch_of_none (hvalid : isValidCoordAnnouncement id received = none)
    (m : Machine) :
    (m.ssElectionResultSwitch id received).1 ≠ .coordAnnouncement ∧
    ∃ lastReceivedId, (m.ssElectionResultSwitch id received).2
      = { m with lastReceivedId := lastReceivedId } := by
  refine ⟨?_, ssElectionResultSwitch_notes id received m⟩
  rw [ssElectionResultSwitch, hvalid]
  split
  · rename_i h
    cases h
  · split
    · nofun
    · split
      · nofun
      · split <;> nofun

/-- No branch but the one for announcements touches role or coordinator while no election is in
progress. -/
theorem notInProgress_quiet {result : SwitchResult} (h : result ≠ .coordAnnouncement) :
    m.Quiet (m.notInProgress id result) := by
  have hsame : m.Quiet (m, []) := ⟨List.not_mem_nil, rfl, rfl, fun h => h, fun h => h⟩
  cases result with
  | coordAnnouncement => exact absurd rfl h
  | election =>
      unfold notInProgress
      have hupdate : Output.broadcast .coordAnnouncement
          ∉ if m.isCoordinator then [Output.update] else [] := by
        split <;> simp
      by_cases hid : m.lastReceivedId < id
      · rw [if_pos hid]
        refine ⟨?_, rfl, rfl, nofun, nofun⟩
        rw [List.mem_append, not_or]
        exact ⟨hupdate, by simp [startElectionProcedure]⟩
      · rw [if_neg hid]
        exact ⟨hupdate, rfl, rfl, nofun, nofun⟩
  | answer => exact hsame
  | timeout => exact hsame
  | none => exact hsame

/-- In an election the time-out at its end is the one exception. -/
theorem inProgress_quiet_or_announced {result : SwitchResult} (h : result ≠ .coordAnnouncement) :
    m.Quiet (m.inProgress id result) ∨ Announced (m.inProgress id result) := by
  have hsame : m.Quiet (m, []) := ⟨List.not_mem_nil, rfl, rfl, fun h => h, fun h => h⟩
  cases result with
  | coordAnnouncement => exact absurd rfl h
  | election =>
      left
      show m.Quiet (m.handleElectionMessage id)
      unfold handleElectionMessage
      split
      · exact ⟨by simp, rfl, rfl, fun h => h, fun h => h⟩
      · exact ⟨List.not_mem_nil, rfl, rfl, nofun, nofun⟩
  | timeout =>
      show m.Quiet m.handleInProgressTimeout ∨ Announced m.handleInProgressTimeout
      unfold handleInProgressTimeout
      split
      · right
        constructor
        · exact List.mem_singleton_self _
        · cases hrole : m.isCoordinator <;> rfl
        · cases m.isCoordinator <;> rfl
      · exact Or.inl hsame
  | answer => exact Or.inl hsame
  | none => exact Or.inl hsame

/-- A server that waits does nothing but wait, unless somebody announces itself. -/
theorem waitingForCoord_quiet {result : SwitchResult} (h : result ≠ .coordAnnouncement) :
    m.Quiet (m.waitingForCoord id result, []) := by
  have hsame : m.Quiet (m, []) := ⟨List.not_mem_nil, rfl, rfl, fun h => h, fun h => h⟩
  cases result with
  | coordAnnouncement => exact absurd rfl h
  | answer =>
      show m.Quiet (m.handleAnswerMessage id, [])
      unfold handleAnswerMessage
      split
      · exact hsame
      · exact ⟨List.not_mem_nil, rfl, rfl, nofun, nofun⟩
  | election => exact hsame
  | timeout => exact hsame
  | none => exact hsame

/-- A turn that reads no announcement is quiet, or makes one. -/
theorem branch_quiet_or_announced {latched : ElectionState}
    (hrole : latched = .init → m.isCoordinator = false)
    (hvalid : isValidCoordAnnouncement id received = none) :
    m.Quiet (m.branch id received elapsed latched) ∨
      Announced (m.branch id received elapsed latched) := by
  -- the branches work on a machine that differs in the last id and the time only
  have hforget : ∀ {lastReceivedId currentWaitTime} {result : Machine × List Output},
      { m with lastReceivedId := lastReceivedId, currentWaitTime := currentWaitTime }.Quiet result →
        m.Quiet result :=
    fun h => ⟨h.silent, h.role, h.leader, h.settled, h.begun⟩
  cases latched with
  | init => exact Or.inl ⟨by simp [branch], (hrole rfl).symm, rfl, nofun, nofun⟩
  | notInProgress =>
      obtain ⟨hresult, lastReceivedId, hm⟩ :=
        ssElectionResultSwitch_of_none hvalid { m with currentWaitTime := 0 }
      left
      show m.Quiet (notInProgress id _ (ssElectionResultSwitch id received _).2)
      rw [hm]
      exact hforget (notInProgress_quiet hresult)
  | inProgress =>
      obtain ⟨hresult, lastReceivedId, hm⟩ :=
        ssElectionResultSwitch_of_none hvalid { m with currentWaitTime := elapsed }
      show m.Quiet (inProgress id _ (ssElectionResultSwitch id received _).2) ∨
        Announced (inProgress id _ (ssElectionResultSwitch id received _).2)
      rw [hm]
      exact (inProgress_quiet_or_announced hresult).imp_left hforget
  | waitingForCoord =>
      obtain ⟨hresult, lastReceivedId, hm⟩ :=
        ssElectionResultSwitch_of_none hvalid { m with currentWaitTime := 0 }
      left
      show m.Quiet (waitingForCoord id _ (ssElectionResultSwitch id received _).2, [])
      rw [hm]
      exact hforget (waitingForCoord_quiet hresult)

/-- A machine that has not begun has begun after a turn, whatever it received. -/
theorem branch_init (hrole : m.isCoordinator = false) :
    m.Quiet (m.branch id received elapsed .init) :=
  ⟨by simp [branch], hrole.symm, rfl, nofun, nofun⟩

/-- What makes a server wait is an election message that is not from a lower id. -/
theorem notInProgress_waiting {result : SwitchResult}
    (h : (m.notInProgress id result).1.state = .waitingForCoord) :
    m.state = .waitingForCoord ∨ result = .election ∧ ¬ m.lastReceivedId < id := by
  cases result with
  | coordAnnouncement =>
      have hsettled := (handleCoordinatorAnnouncement_adopted (m := m) rfl).settled
      exact nomatch h.symm.trans hsettled
  | election =>
      by_cases hid : m.lastReceivedId < id
      · unfold notInProgress at h
        rw [if_pos hid] at h
        cases h
      · exact Or.inr ⟨rfl, hid⟩
  | answer => exact Or.inl h
  | timeout => exact Or.inl h
  | none => exact Or.inl h

/-- The same in an election; an answer does not make it wait, whatever its id. -/
theorem inProgress_waiting {result : SwitchResult}
    (h : (m.inProgress id result).1.state = .waitingForCoord) :
    m.state = .waitingForCoord ∨ result = .election ∧ ¬ m.lastReceivedId < id := by
  cases result with
  | coordAnnouncement =>
      have hsettled := (handleCoordinatorAnnouncement_adopted (m := m) rfl).settled
      exact nomatch h.symm.trans hsettled
  | election =>
      by_cases hid : m.lastReceivedId < id
      · have hsame : m.inProgress id .election = (m, [.answerBack m.ssCliaddr]) := if_pos hid
        rw [hsame] at h
        exact Or.inl h
      · exact Or.inr ⟨rfl, hid⟩
  | timeout =>
      change m.handleInProgressTimeout.1.state = .waitingForCoord at h
      unfold handleInProgressTimeout at h
      split at h
      · cases hrole : m.isCoordinator <;> simp [hrole, promote] at h
      · exact Or.inl h
  | answer => exact Or.inl h
  | none => exact Or.inl h

/-- The switch reads, and notes an id. -/
theorem ssElectionResultSwitch_state (id : UInt32) (received : Reception) (m : Machine) :
    (m.ssElectionResultSwitch id received).2.state = m.state := by
  obtain ⟨_, hnotes⟩ := ssElectionResultSwitch_notes id received m
  rw [hnotes]

/-- What is reported as an election message has been read as one. -/
theorem ssElectionResultSwitch_election (id : UInt32) (received : Reception) (m : Machine)
    (h : (m.ssElectionResultSwitch id received).1 = .election) :
    isValidElectionMessage id received
      = some (m.ssElectionResultSwitch id received).2.lastReceivedId := by
  unfold ssElectionResultSwitch at h ⊢
  split at h
  · cases h
  · split at h
    · cases h
    · split at h
      · rename_i hvalid
        exact hvalid
      · split at h <;> cases h

/-- A machine comes to wait for another server only, and for one with a higher id. -/
theorem branch_waiting {latched : ElectionState}
    (h : (m.branch id received elapsed latched).1.state = .waitingForCoord) :
    latched = .waitingForCoord ∨ m.state = .waitingForCoord ∨
      ∃ senderId, isValidElectionMessage id received = some senderId ∧ ¬ senderId < id := by
  cases latched with
  | init => cases h
  | notInProgress =>
      right
      have hstate := ssElectionResultSwitch_state id received { m with currentWaitTime := 0 }
      have helection :=
        ssElectionResultSwitch_election id received { m with currentWaitTime := 0 }
      unfold branch at h
      generalize ssElectionResultSwitch id received { m with currentWaitTime := 0 } = switched
        at h hstate helection
      rcases notInProgress_waiting h with hwaiting | ⟨hresult, hid⟩
      · exact Or.inl (hstate.symm.trans hwaiting)
      · exact Or.inr ⟨_, helection hresult, hid⟩
  | inProgress =>
      right
      have hstate := ssElectionResultSwitch_state id received { m with currentWaitTime := elapsed }
      have helection :=
        ssElectionResultSwitch_election id received { m with currentWaitTime := elapsed }
      unfold branch at h
      generalize ssElectionResultSwitch id received { m with currentWaitTime := elapsed } = switched
        at h hstate helection
      rcases inProgress_waiting h with hwaiting | ⟨hresult, hid⟩
      · exact Or.inl (hstate.symm.trans hwaiting)
      · exact Or.inr ⟨_, helection hresult, hid⟩
  | waitingForCoord => exact Or.inl rfl

/-! ## Whole turns -/

/-- To receive a datagram notes its source and nothing else. -/
theorem receive_quiet (input : Input) (m : Machine) : m.Quiet (m.receive input, []) := by
  unfold receive
  split <;> exact ⟨List.not_mem_nil, rfl, rfl, fun h => h, fun h => h⟩

/-- The state is left to the branch. -/
theorem receive_state (input : Input) (m : Machine) : (m.receive input).state = m.state := by
  unfold receive
  split <;> rfl

/-- What the calls that land in a turn leave for its branch. -/
def interrupted (input : Input) (calls : ℕ) (m : Machine) : Machine :=
  ((m.receive input).backupElections calls).1

/-- The branch of a turn. -/
def turn (id : UInt32) (input : Input) (calls : ℕ) (m : Machine) : Machine × List Output :=
  (m.interrupted input calls).branch id (.of (input.datagram.map Prod.snd)) input.elapsed m.state

/-- A turn is skipped, or is its branch after the calls that land in it. -/
theorem iterate_eq (id : UInt32) (input : Input) (calls : ℕ) (m : Machine) :
    m.iterate id input calls
      = if isLoopback (m.receive input).ssCliaddr then (m.receive input, [])
        else ((m.turn id input calls).1,
          ((m.receive input).backupElections calls).2 ++ (m.turn id input calls).2) := by
  rw [iterate, turn, ← receive_state input m]
  rfl

/-- Up to its branch a turn is quiet. -/
theorem interrupted_quiet (input : Input) (calls : ℕ) (m : Machine) :
    m.Quiet (m.interrupted input calls, ((m.receive input).backupElections calls).2) :=
  (receive_quiet input m).trans (backupElections_quiet calls (m.receive input)).1

/-- An announcement of another server is taken in, unless the machine has not begun. -/
theorem iterate_adopted {senderId : UInt32} (hstate : m.state ≠ .init)
    (hsource : isLoopback (m.receive input).ssCliaddr = false)
    (hvalid : isValidCoordAnnouncement id (.of (input.datagram.map Prod.snd)) = some senderId) :
    Adopted (m.receive input).ssCliaddr (m.iterate id input calls) := by
  have hearly := interrupted_quiet input calls m
  have hcliaddr : (m.interrupted input calls).ssCliaddr = (m.receive input).ssCliaddr :=
    (backupElections_quiet calls (m.receive input)).2.1
  have hadopted : Adopted (m.interrupted input calls).ssCliaddr (m.turn id input calls) :=
    branch_adopted hstate hvalid
  rw [iterate_eq, if_neg (by simp [hsource])]
  refine ⟨?_, hadopted.role, hadopted.leader.trans hcliaddr, hadopted.settled⟩
  rw [List.mem_append, not_or]
  exact ⟨hearly.silent, hadopted.silent⟩

/-- A machine that has not begun takes nothing in. -/
theorem iterate_init (hstate : m.state = .init) (hrole : m.isCoordinator = false) :
    m.Quiet (m.iterate id input calls) := by
  have hearly := interrupted_quiet input calls m
  have hbranch : (m.interrupted input calls).Quiet (m.turn id input calls) := by
    unfold turn
    rw [hstate]
    exact branch_init (hearly.role.trans hrole)
  rw [iterate_eq]
  split
  · exact receive_quiet input m
  · exact hearly.trans hbranch

/-- Any other turn is quiet, or ends with an announcement. -/
theorem iterate_quiet_or_announced (hrole : m.state = .init → m.isCoordinator = false)
    (hvalid : isValidCoordAnnouncement id (.of (input.datagram.map Prod.snd)) = none) :
    m.Quiet (m.iterate id input calls) ∨ Announced (m.iterate id input calls) := by
  have hearly := interrupted_quiet input calls m
  have hbranch : (m.interrupted input calls).Quiet (m.turn id input calls) ∨
      Announced (m.turn id input calls) :=
    branch_quiet_or_announced (fun hinit => hearly.role.trans (hrole hinit)) hvalid
  rw [iterate_eq]
  split
  · exact Or.inl (receive_quiet input m)
  · rcases hbranch with hquiet | hannounced
    · exact Or.inl (hearly.trans hquiet)
    · exact Or.inr ⟨List.mem_append_right _ hannounced.spoken, hannounced.role,
        hannounced.settled⟩

/-- Only an election message from a higher id makes a machine wait. -/
theorem iterate_waiting (h : (m.iterate id input calls).1.state = .waitingForCoord) :
    m.state = .waitingForCoord ∨ ∃ senderId,
      isValidElectionMessage id (.of (input.datagram.map Prod.snd)) = some senderId ∧
        ¬ senderId < id := by
  rw [iterate_eq] at h
  split at h
  · exact Or.inl ((receive_state input m).symm.trans h)
  · rcases branch_waiting h with hlatched | hinterrupted | hsender
    · exact Or.inl hlatched
    · have hwaiting := (backupElections_quiet calls (m.receive input)).2.2 hinterrupted
      exact Or.inl ((receive_state input m).symm.trans hwaiting)
    · exact Or.inr hsender

/-- `backup_election` does not broadcast the database. -/
theorem backupElections_update (calls : ℕ) (m : Machine) :
    Output.update ∉ (m.backupElections calls).2 := by
  induction calls generalizing m with
  | zero => exact List.not_mem_nil
  | succ calls ih =>
      intro hmem
      rcases List.mem_append.mp hmem with hfirst | hrest
      · exact absurd (List.mem_singleton.mp hfirst) nofun
      · exact ih m.backupElection.1 hrest

/-- The database is broadcast by the branch that handles an election message while none is in
progress, and that branch does not touch the role. -/
theorem branch_update {latched : ElectionState}
    (h : Output.update ∈ (m.branch id received elapsed latched).2) :
    m.isCoordinator = true ∧ (m.branch id received elapsed latched).1.isCoordinator = true := by
  have hswitch : ∀ m : Machine,
      (m.ssElectionResultSwitch id received).2.isCoordinator = m.isCoordinator := by
    intro m
    obtain ⟨_, hnotes⟩ := ssElectionResultSwitch_notes id received m
    rw [hnotes]
  cases latched with
  | init => exact absurd (List.mem_singleton.mp h) nofun
  | notInProgress =>
      have hbefore : { m with currentWaitTime := 0 }.isCoordinator = m.isCoordinator := rfl
      rw [← hbefore, ← hswitch { m with currentWaitTime := 0 }]
      unfold branch at h ⊢
      generalize ssElectionResultSwitch id received { m with currentWaitTime := 0 }
        = switched at h ⊢
      obtain ⟨result, switched⟩ := switched
      cases result with
      | election =>
          -- the broadcast of an update stands behind the test of the role
          have hrole : switched.isCoordinator = true := by
            by_contra hrole
            simp only [notInProgress, if_neg hrole] at h
            split at h <;> simp [startElectionProcedure] at h
          refine ⟨hrole, ?_⟩
          simp only [notInProgress]
          split
          · exact hrole
          · exact hrole
      | none => exact absurd h List.not_mem_nil
      | answer => exact absurd h List.not_mem_nil
      | coordAnnouncement => exact absurd h List.not_mem_nil
      | timeout => exact absurd h List.not_mem_nil
  | inProgress =>
      exfalso
      unfold branch at h
      generalize ssElectionResultSwitch id received { m with currentWaitTime := elapsed }
        = switched at h
      obtain ⟨result, switched⟩ := switched
      cases result with
      | election =>
          simp only [inProgress, handleElectionMessage] at h
          split at h <;> simp at h
      | timeout =>
          simp only [inProgress, handleInProgressTimeout] at h
          split at h <;> simp at h
      | none => exact absurd h List.not_mem_nil
      | answer => exact absurd h List.not_mem_nil
      | coordAnnouncement => exact absurd h List.not_mem_nil
  | waitingForCoord => exact absurd h List.not_mem_nil

/-- Only a coordinator broadcasts the database, and not in a turn that changes its role. -/
theorem iterate_update (h : Output.update ∈ (m.iterate id input calls).2) :
    m.isCoordinator = true ∧ (m.iterate id input calls).1.isCoordinator = true := by
  rw [iterate_eq] at h ⊢
  split at h
  · exact absurd h List.not_mem_nil
  · rename_i hsource
    rw [if_neg hsource]
    rcases List.mem_append.mp h with hearly | hturn
    · exact absurd hearly (backupElections_update calls _)
    · obtain ⟨hbefore, hafter⟩ := branch_update hturn
      exact ⟨(interrupted_quiet input calls m).role.symm.trans hbefore, hafter⟩

end Turn

end Machine

end Election

end Brix
