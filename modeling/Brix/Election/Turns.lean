import Brix.Election.Machine

/-!
# The election as a table

A turn depends on the datagram through little: whether it is one of the three messages
of another server, and then from which id, or whether nothing came at all.  `Reading`
is that much, `Reading.of` reads it off with the three readers in the order of
`ss_election_result_switch`, and `act` is the table of the automaton: what a turn does in
each state on each reading.  `branch_eq` says that the source's nested switches come to
this table, and everything about single turns is then read off its rows.

### The design

The table is not a second model.  `Machine.branch` is the translation of the source, with its
switches, its repeated calls of the readers and its member variables; `act` is derived from it,
and `branch_eq` is the only place where the source's own control flow is looked at.  Everything
that is proved about single turns elsewhere goes through the table, so a change of a branch in the
source has to be followed up in one row here and in the proof of `branch_eq`.

The readings are exclusive because a text has one first word (`isValid_tag_eq`).  That is why the
order in which the source tries its readers, and the fact that it tries each of them twice, can
disappear from the table.
-/

namespace Brix

namespace Election

/-- What a turn makes of what it received. -/
inductive Reading
  | announcement (senderId : UInt32)
  | answer (senderId : UInt32)
  | election (senderId : UInt32)
  /-- Nothing came in time. -/
  | timeout
  /-- Something else came. -/
  | other
  deriving DecidableEq, Repr

/-- The readers, one after the other. -/
def Reading.of (id : UInt32) (received : Reception) : Reading :=
  match isValidCoordAnnouncement id received with
  | some senderId => .announcement senderId
  | none =>
      match isValidAnswer id received with
      | some senderId => .answer senderId
      | none =>
          match isValidElectionMessage id received with
          | some senderId => .election senderId
          | none => if received.n < 0 then .timeout else .other

/-- The reading of what `recvfrom` yields. -/
def Input.reading (id : UInt32) (input : Input) : Reading :=
  .of id (.of (input.datagram.map Prod.snd))

/-- The id in a message. -/
def Reading.senderId? : Reading → Option UInt32
  | .announcement senderId => some senderId
  | .answer senderId => some senderId
  | .election senderId => some senderId
  | .timeout => none
  | .other => none

/-- What `ss_election_result_switch` returns for it. -/
def Reading.result : Reading → SwitchResult
  | .announcement _ => .coordAnnouncement
  | .answer _ => .answer
  | .election _ => .election
  | .timeout => .timeout
  | .other => .none

section Readers

variable {id senderId : UInt32} {received : Reception}

/-- A message has one tag. -/
theorem isValid_tag_eq {tag tag' : Text} {senderId' : UInt32}
    (h : isValid tag id received = some senderId) (h' : isValid tag' id received = some senderId') :
    tag = tag' := by
  unfold isValid at h h'
  split at h
  · cases h
  · rename_i hn
    rw [if_neg hn] at h'
    simp only [Option.bind_eq_bind, Option.bind_eq_some_iff] at h h'
    obtain ⟨⟨first, rest⟩, hfirst, ⟨_, rest'⟩, -, ⟨_, _⟩, -, htag⟩ := h
    obtain ⟨⟨first', _⟩, hfirst', ⟨_, _⟩, -, ⟨_, _⟩, -, htag'⟩ := h'
    rw [hfirst, Option.some.injEq, Prod.mk.injEq] at hfirst'
    simp only [Option.ite_none_right_eq_some] at htag htag'
    exact htag.1.1.symm.trans (hfirst'.1.trans htag'.1.1)

/-- The readers do not get in each other's way. -/
theorem isValid_none_of_tag_ne {tag tag' : Text} (hne : tag ≠ tag')
    (h : isValid tag id received = some senderId) : isValid tag' id received = none := by
  cases h' : isValid tag' id received with
  | none => rfl
  | some senderId' => exact absurd (isValid_tag_eq h h') hne

/-- It is enough that the reader of election messages accepts it: the other two do not. -/
theorem Reading.of_eq_election :
    Reading.of id received = .election senderId
      ↔ isValidElectionMessage id received = some senderId := by
  constructor
  · intro h
    rw [Reading.of] at h
    split at h
    · cases h
    · split at h
      · cases h
      · split at h
        · cases h
          assumption
        · split at h <;> cases h
  · intro h
    have hnot : isValidCoordAnnouncement id received = none :=
      isValid_none_of_tag_ne (by decide) h
    have hnot' : isValidAnswer id received = none := isValid_none_of_tag_ne (by decide) h
    rw [Reading.of, hnot, hnot', h]

/-- A time-out is read as one, and nothing else is. -/
theorem Input.reading_eq_timeout {id : UInt32} {input : Input} :
    input.reading id = .timeout ↔ input.datagram = none := by
  rw [Input.reading, Reading.of]
  cases hdatagram : input.datagram with
  | none =>
      have hnone : ∀ tag, isValid tag id (.of none) = none := fun tag => isValid_none tag id
      refine iff_of_true ?_ rfl
      simp only [Option.map_none, isValidCoordAnnouncement, isValidAnswer, isValidElectionMessage,
        hnone]
      rfl
  | some datagram =>
      refine iff_of_false ?_ nofun
      have hn : ¬ (Reception.of (some datagram.2)).n < 0 :=
        not_lt.mpr (Int.natCast_nonneg _)
      simp only [Option.map_some, if_neg hn]
      split
      · nofun
      · split
        · nofun
        · split <;> nofun

end Readers

namespace Machine

/-- What a turn notes of its reading before anything else.

`current_wait_time` is written in every turn, and read in one row only. -/
def note (reading : Reading) (waited : ℤ) (m : Machine) : Machine :=
  { m with
    lastReceivedId := reading.senderId?.getD m.lastReceivedId
    currentWaitTime := waited }

/-- `handle_coordinator_announcement`, whoever coordinated before. -/
def follow (m : Machine) : Machine :=
  { m with state := .notInProgress, coordinatorIp := m.ssCliaddr, isCoordinator := false }

/-- The table: the state that was read at the head of the turn, and the reading. -/
def act (id : UInt32) (reading : Reading) (elapsed : ℤ) (m : Machine) :
    ElectionState → Machine × List Output
  | .init => ({ m with state := .inProgress, isCoordinator := false }, [.broadcast .election])
  | .notInProgress =>
      match reading with
      | .announcement _ => ((m.note reading 0).follow, [])
      | .election senderId =>
          if senderId < id then
            ({ m.note reading 0 with state := .inProgress },
              (if m.isCoordinator then [.update] else []) ++
                [.answerBack m.ssCliaddr, .broadcast .election])
          else
            ({ m.note reading 0 with state := .waitingForCoord },
              if m.isCoordinator then [.update] else [])
      | .answer _ => (m.note reading 0, [])
      | .timeout => (m.note reading 0, [])
      | .other => (m.note reading 0, [])
  | .inProgress =>
      match reading with
      | .announcement _ => ((m.note reading elapsed).follow, [])
      | .election senderId =>
          if senderId < id then (m.note reading elapsed, [.answerBack m.ssCliaddr])
          else ({ m.note reading elapsed with state := .waitingForCoord }, [])
      | .timeout =>
          if ANSWER_MAX_WAIT_TIME ≤ elapsed then
            ({ m.note reading elapsed with state := .notInProgress, isCoordinator := true },
              [.broadcast .coordAnnouncement])
          else (m.note reading elapsed, [])
      | .answer _ => (m.note reading elapsed, [])
      | .other => (m.note reading elapsed, [])
  | .waitingForCoord =>
      match reading with
      | .announcement _ => ((m.note reading 0).follow, [])
      | .answer senderId =>
          (if senderId < id then m.note reading 0
            else { m.note reading 0 with state := .waitingForCoord }, [])
      | .election _ => (m.note reading 0, [])
      | .timeout => (m.note reading 0, [])
      | .other => (m.note reading 0, [])

/-- The handler has two branches, for a server that coordinates and for one that does not, and they
do the same to the state. -/
theorem handleCoordinatorAnnouncement_eq (m : Machine) :
    m.handleCoordinatorAnnouncement = m.follow := by
  unfold handleCoordinatorAnnouncement follow
  cases hrole : m.isCoordinator with
  | true => rfl
  | false => simp

/-- The comparison is made on `current_wait_time`, which the turn has just written. -/
theorem handleInProgressTimeout_eq (m : Machine) :
    m.handleInProgressTimeout
      = if ANSWER_MAX_WAIT_TIME ≤ m.currentWaitTime then
          ({ m with state := .notInProgress, isCoordinator := true },
            [.broadcast .coordAnnouncement])
        else (m, []) := by
  unfold handleInProgressTimeout
  split
  · cases hrole : m.isCoordinator with
    | true => simp
    | false => simp [promote]
  · rfl

/-- `ss_election_result_switch` reports the reading and notes the id. -/
theorem ssElectionResultSwitch_eq (id : UInt32) (received : Reception) (waited : ℤ) (m : Machine) :
    ({ m with currentWaitTime := waited } : Machine).ssElectionResultSwitch id received
      = ((Reading.of id received).result, m.note (Reading.of id received) waited) := by
  rw [ssElectionResultSwitch, Reading.of]
  cases isValidCoordAnnouncement id received with
  | some senderId => rfl
  | none =>
      cases isValidAnswer id received with
      | some senderId => rfl
      | none =>
          cases isValidElectionMessage id received with
          | some senderId => rfl
          | none =>
              by_cases hn : received.n < 0
              · simp only [if_pos hn]
                rfl
              · simp only [if_neg hn]
                rfl

/-- **The nested switches are the table.** -/
theorem branch_eq (id : UInt32) (received : Reception) (elapsed : ℤ) (m : Machine)
    (latched : ElectionState) :
    m.branch id received elapsed latched = m.act id (.of id received) elapsed latched := by
  cases latched with
  | init => rfl
  | notInProgress =>
      simp only [branch, ssElectionResultSwitch_eq]
      cases Reading.of id received with
      | announcement senderId =>
          exact congrArg (·, []) (handleCoordinatorAnnouncement_eq _)
      | answer senderId => rfl
      | election senderId => rfl
      | timeout => rfl
      | other => rfl
  | inProgress =>
      simp only [branch, ssElectionResultSwitch_eq]
      cases Reading.of id received with
      | announcement senderId =>
          exact congrArg (·, []) (handleCoordinatorAnnouncement_eq _)
      | answer senderId => rfl
      | election senderId => rfl
      | timeout => exact handleInProgressTimeout_eq _
      | other => rfl
  | waitingForCoord =>
      simp only [branch, ssElectionResultSwitch_eq]
      cases Reading.of id received with
      | announcement senderId =>
          exact congrArg (·, []) (handleCoordinatorAnnouncement_eq _)
      | answer senderId => rfl
      | election senderId => rfl
      | timeout => rfl
      | other => rfl

/-- A whole turn.

A datagram from the loopback address ends the turn before its branch, and so does a time-out as
long as that address is still in `ss_cliaddr`. -/
theorem iterate_act (id : UInt32) (input : Input) (calls : ℕ) (m : Machine) :
    m.iterate id input calls
      = if isLoopback (m.receive input).ssCliaddr then (m.receive input, [])
        else (((m.interrupted input calls).act id (input.reading id) input.elapsed m.state).1,
          ((m.receive input).backupElections calls).2 ++
            ((m.interrupted input calls).act id (input.reading id) input.elapsed m.state).2) := by
  rw [iterate_eq, turn, branch_eq]
  rfl

end Machine

end Election

end Brix
