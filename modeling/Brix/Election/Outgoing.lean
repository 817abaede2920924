import Brix.Election.Turns
import Brix.Foundation.Execution
import Mathlib.Data.List.Count

/-!
# What a server sends

Everything that a server sends has a reason: a call of `backup_election`, the election message
that it reads, or the state that it was in.  Here the accounts are kept of one server among
strangers, who may send what they like.

A turn and a call of `backup_election` are more than one step.  The election thread receives a
datagram and reads the state, and takes the branch of the state it has read some time after that;
the heartbeat thread sets the state and broadcasts the election message some time after that.
Neither holds a lock.  `Voice` is a server with its two threads in the middle of whatever they are
doing, and a `Voice.Move` is one of these four statements.  `Spoken.perform_turn` says that the
turns of `Machine.iterate` are what comes of it if a call is never interrupted.

The order of the two statements of `backup_election` matters.  Between them the server is in
`IN_PROGRESS` without having told anybody, and a time-out of the election thread that falls there
ends in an announcement before the election is broadcast (`early_announcement`).  So it is not true
that an announcement comes after an election message; it comes after an election that has been
*begun*, and a begun election is broadcast once, now or in a moment
(`election_before_announcement`).

### What is load-bearing

`Voice.Accounted` is the account of one move, and every clause of it is an inequality that adds up
over a run.  For that each of them says, besides what is sent, what is still to be sent: the
election message that the heartbeat thread has not broadcast yet (`pending`), the one of the `INIT`
branch (`opening`), and the message that the election thread has received and not yet acted upon
(`inHand`).  An announcement is paid for by `standing`, which is 1 in `IN_PROGRESS`, and which a
server gets by beginning an election and in no other way.
-/

namespace Brix

namespace Election

/-- Where the `INIT` branch has still to broadcast an election message. -/
def ElectionState.opening : ElectionState → ℕ
  | .init => 1
  | .notInProgress | .inProgress | .waitingForCoord => 0

/-- Where a time-out may end in an announcement. -/
def ElectionState.standing : ElectionState → ℕ
  | .inProgress => 1
  | .init | .notInProgress | .waitingForCoord => 0

/-- An answer, to whomever. -/
def Output.isAnswer : Output → Bool
  | .answerBack _ => true
  | .broadcast _ | .update => false

/-- The election messages in a reading. -/
def Reading.elections : Reading → ℕ
  | .election _ => 1
  | .announcement _ | .answer _ | .timeout | .other => 0

/-- Those from lower ids. -/
def Reading.lower (id : UInt32) : Reading → ℕ
  | .election senderId => if senderId < id then 1 else 0
  | .announcement _ | .answer _ | .timeout | .other => 0

namespace Machine

variable {id : UInt32} {m : Machine} {reading : Reading} {elapsed : ℤ} {latched : ElectionState}

/-- A row of the table. -/
theorem act_accounted (hstanding : latched = .inProgress → m.state = .inProgress)
    (hopening : m.state = .init → latched = .init) :
    let result := m.act id reading elapsed latched
    result.2.count (.broadcast .election) + result.1.state.opening
        ≤ latched.opening + reading.lower id ∧
      result.2.count (.broadcast .coordAnnouncement) + result.1.state.standing
        ≤ m.state.standing + result.2.count (.broadcast .election) ∧
      result.2.countP Output.isAnswer ≤ reading.lower id ∧
      result.2.count .update ≤ reading.elections := by
  have hbegun : latched ≠ .init → m.state.opening = 0 := by
    intro hlatched
    cases hstate : m.state with
    | init => exact absurd (hopening hstate) hlatched
    | notInProgress => rfl
    | inProgress => rfl
    | waitingForCoord => rfl
  -- the rows of the switch, by the state latched at the top of the turn
  cases latched with
  | init =>
      cases m.state <;>
        simp [act, ElectionState.opening, ElectionState.standing, Output.isAnswer]
  | notInProgress =>
      have hzero := hbegun (by decide)
      cases reading with
      | announcement senderId =>
          simp [act, follow, note, ElectionState.opening, ElectionState.standing]
      | answer senderId => simp [act, note, hzero]
      | timeout => simp [act, note, hzero]
      | other => simp [act, note, hzero]
      | election senderId =>
          by_cases hlower : senderId < id <;> cases hrole : m.isCoordinator <;>
            simp [act, hlower, hrole, note, ElectionState.opening, ElectionState.standing,
              List.countP_cons, Output.isAnswer, Reading.lower, Reading.elections]
  | inProgress =>
      have hzero := hbegun (by decide)
      have hone : m.state.standing = 1 := by rw [hstanding rfl]; rfl
      cases reading with
      | announcement senderId =>
          simp [act, follow, note, ElectionState.opening, ElectionState.standing]
      | answer senderId => simp [act, note, hzero]
      | other => simp [act, note, hzero]
      | timeout =>
          -- the one row that announces: it spends the candidacy that is standing
          by_cases hdue : ANSWER_MAX_WAIT_TIME ≤ elapsed
          · have hrow : m.act id .timeout elapsed .inProgress
                = ({ m.note .timeout elapsed with state := .notInProgress, isCoordinator := true },
                  [.broadcast .coordAnnouncement]) := if_pos hdue
            rw [hrow, hone]
            simp [ElectionState.opening, ElectionState.standing, Output.isAnswer]
          · simp [act, hdue, note, hzero]
      | election senderId =>
          by_cases hlower : senderId < id
          · simp [act, hlower, note, hzero, Output.isAnswer, Reading.lower]
          · simp [act, hlower, note, ElectionState.opening, ElectionState.standing]
  | waitingForCoord =>
      have hzero := hbegun (by decide)
      cases reading with
      | announcement senderId =>
          simp [act, follow, note, ElectionState.opening, ElectionState.standing]
      | answer senderId =>
          by_cases hlower : senderId < id
          · simp [act, hlower, note, hzero]
          · simp [act, hlower, note, ElectionState.opening, ElectionState.standing]
      | election senderId => simp [act, note, hzero]
      | timeout => simp [act, note, hzero]
      | other => simp [act, note, hzero]

/-- An announcement is all that a branch sends. -/
theorem act_announcement
    (h : .broadcast .coordAnnouncement ∈ (m.act id reading elapsed latched).2) :
    latched = .inProgress ∧
      (m.act id reading elapsed latched).2 = [.broadcast .coordAnnouncement] ∧
      (m.act id reading elapsed latched).1.state = .notInProgress := by
  cases latched with
  | init => simp [act] at h
  | waitingForCoord => cases reading <;> simp [act] at h
  | notInProgress =>
      cases reading with
      | election senderId =>
          simp only [act] at h
          split at h <;> split at h <;> simp at h
      | announcement senderId => simp [act] at h
      | answer senderId => simp [act] at h
      | timeout => simp [act] at h
      | other => simp [act] at h
  | inProgress =>
      cases reading with
      | timeout =>
          refine ⟨rfl, ?_⟩
          simp only [act] at h ⊢
          split
          · exact ⟨rfl, rfl⟩
          · rename_i hdue
            simp [if_neg hdue] at h
      | election senderId =>
          simp only [act] at h
          split at h <;> simp at h
      | announcement senderId => simp [act] at h
      | answer senderId => simp [act] at h
      | other => simp [act] at h

/-- A branch broadcasts one election message at most. -/
theorem act_elections_le :
    (m.act id reading elapsed latched).2.count (.broadcast .election) ≤ 1 := by
  cases latched with
  | init => simp [act]
  | waitingForCoord => cases reading <;> simp [act]
  | notInProgress =>
      cases reading with
      | election senderId =>
          by_cases hlower : senderId < id <;> cases hrole : m.isCoordinator <;>
            simp [act, hlower, hrole]
      | announcement senderId => simp [act]
      | answer senderId => simp [act]
      | timeout => simp [act]
      | other => simp [act]
  | inProgress =>
      cases reading with
      | timeout =>
          simp only [act]
          split <;> simp
      | election senderId =>
          simp only [act]
          split <;> simp
      | announcement senderId => simp [act]
      | answer senderId => simp [act]
      | other => simp [act]

end Machine

/-! ## A server with its two threads -/

/-- A server in the middle of things: its election thread may have received something and read the
state, and its heartbeat thread may be between the two statements of `backup_election`. -/
structure Voice where
  machine : Machine
  turn : Option (Input × ElectionState)
  calling : Bool

namespace Voice

/-- One statement, or as much of a turn as nobody else can interfere with. -/
inductive Move
  /-- The election thread receives something or times out, and reads the state. -/
  | receive (input : Input)
  /-- The election thread takes the branch. -/
  | branch
  /-- The heartbeat thread begins `backup_election`: `state = IN_PROGRESS`. -/
  | alarm
  /-- The heartbeat thread goes on with `broadcast_election_message`. -/
  | shout

/-- The server enters the loop. -/
def start (coordinatorIp : InAddr) (lastReceivedId : UInt32) : Voice :=
  ⟨.start coordinatorIp lastReceivedId, none, false⟩

/-- The election thread has taken its branch. -/
def close (v : Voice) (result : Machine × List Output) : Voice × List Output :=
  (⟨result.1, none, v.calling⟩, result.2)

/-- The election thread has received something: what comes from the loopback network is skipped,
and otherwise the state is read. -/
def take (v : Voice) (input : Input) : Voice :=
  let m := v.machine.receive input
  ⟨m, if isLoopback m.ssCliaddr then none else some (input, m.state), v.calling⟩

/-- One move, and what is sent in it. -/
def step (id : UInt32) (v : Voice) : Move → Option (Voice × List Output)
  | .receive input => if v.turn.isSome then none else some (v.take input, [])
  | .branch => v.turn.map fun (input, latched) => v.close
      (v.machine.branch id (.of (input.datagram.map Prod.snd)) input.elapsed latched)
  | .alarm =>
      if v.calling then none
      else some (⟨{ v.machine with state := .inProgress }, v.turn, true⟩, [])
  | .shout =>
      if v.calling then some (⟨v.machine, v.turn, false⟩, [.broadcast .election]) else none

/-- Everything a move can be. -/
inductive Step (id : UInt32) (v : Voice) : Move → Voice → List Output → Prop
  | received {input : Input} {v' : Voice} (waiting : v.turn = none)
      (state : v'.machine.state = v.machine.state) (calling : v'.calling = v.calling)
      (turn : v'.turn = none ∨ v'.turn = some (input, v.machine.state)) :
      Step id v (.receive input) v' []
  | branched {input : Input} {latched : ElectionState} {v' : Voice} {sent : List Output}
      (turn : v.turn = some (input, latched))
      (result : (v', sent) = v.close (v.machine.act id (input.reading id) input.elapsed latched)) :
      Step id v .branch v' sent
  | alarmed (quiet : v.calling = false) :
      Step id v .alarm ⟨{ v.machine with state := .inProgress }, v.turn, true⟩ []
  | shouted (calling : v.calling = true) :
      Step id v .shout ⟨v.machine, v.turn, false⟩ [.broadcast .election]

section Moves

variable {id : UInt32} {v v' : Voice} {move : Move} {sent : List Output}

/-- Every move is one of these; nothing below unfolds `step` again. -/
theorem step_cases (taken : v.step id move = some (v', sent)) : Step id v move v' sent := by
  cases move with
  | receive input =>
      rw [step] at taken
      split at taken
      · cases taken
      · rename_i hturn
        cases taken
        refine .received (by simpa using hturn) (Machine.receive_state input v.machine) rfl ?_
        have htake : (v.take input).turn = if isLoopback (v.machine.receive input).ssCliaddr
            then none else some (input, (v.machine.receive input).state) := rfl
        rw [htake, Machine.receive_state]
        split
        · exact Or.inl rfl
        · exact Or.inr rfl
  | branch =>
      obtain ⟨⟨input, latched⟩, hturn, hresult⟩ := Option.map_eq_some_iff.mp taken
      change v.close (v.machine.branch id _ input.elapsed latched) = (v', sent) at hresult
      rw [Machine.branch_eq] at hresult
      exact .branched hturn hresult.symm
  | alarm =>
      rw [step] at taken
      split at taken
      · cases taken
      · rename_i hquiet
        cases taken
        exact .alarmed (by simpa using hquiet)
  | shout =>
      rw [step] at taken
      split at taken
      · rename_i hcalling
        cases taken
        exact .shouted hcalling
      · cases taken

end Moves

/-! ## The accounts of a move -/

/-- The election message that the heartbeat thread has still to broadcast. -/
def pending (v : Voice) : ℕ := if v.calling then 1 else 0

/-- The election message of the `INIT` branch, as long as that has not been taken. -/
def opening (v : Voice) : ℕ :=
  match v.turn with
  | some (_, latched) => latched.opening
  | none => v.machine.state.opening

/-- What the election thread has received and not acted upon yet. -/
def inHand (count : Reading → ℕ) (id : UInt32) (v : Voice) : ℕ :=
  match v.turn with
  | some (input, _) => count (input.reading id)
  | none => 0

/-- What is received in a move. -/
def Move.reads (count : Reading → ℕ) (id : UInt32) : Move → ℕ
  | .receive input => count (input.reading id)
  | .branch | .alarm | .shout => 0

/-- The calls of `backup_election` that begin in a move. -/
def Move.calls : Move → ℕ
  | .alarm => 1
  | .receive _ | .branch | .shout => 0

/-- The state that the election thread has read goes on to be the state, unless the heartbeat
thread has changed it. -/
def Latched (v : Voice) : Prop :=
  ∀ input latched, v.turn = some (input, latched) →
    (latched = .inProgress → v.machine.state = .inProgress) ∧
      (v.machine.state = .init → latched = .init)

/-- What is sent in a move is accounted for by the call that begins in it, by the message that is
received in it, and by what there was still to be sent. -/
structure Accounted (id : UInt32) (v : Voice) (move : Move) (v' : Voice) (sent : List Output) :
    Prop where
  elections : sent.count (.broadcast .election) + v'.opening + v'.pending
      + v'.inHand (Reading.lower id) id
    ≤ v.opening + v.pending + v.inHand (Reading.lower id) id + move.calls
      + move.reads (Reading.lower id) id
  announcements : sent.count (.broadcast .coordAnnouncement) + v'.machine.state.standing + v.pending
    ≤ v.machine.state.standing + sent.count (.broadcast .election) + v'.pending
  answers : sent.countP Output.isAnswer + v'.inHand (Reading.lower id) id
    ≤ v.inHand (Reading.lower id) id + move.reads (Reading.lower id) id
  updates : sent.count .update + v'.inHand Reading.elections id
    ≤ v.inHand Reading.elections id + move.reads Reading.elections id

section Moves

variable {id : UInt32} {v v' : Voice} {move : Move} {sent : List Output}

/-- No turn is under way. -/
theorem latched_start (coordinatorIp : InAddr) (lastReceivedId : UInt32) :
    (start coordinatorIp lastReceivedId).Latched := nofun

/-- No move but the election thread's own changes the state it has read to another. -/
theorem Latched.step (h : v.Latched) (taken : v.step id move = some (v', sent)) : v'.Latched := by
  cases step_cases taken with
  | received waiting state calling turn =>
      intro input latched hturn
      rcases turn with hnone | hsome
      · rw [hnone] at hturn
        cases hturn
      · rw [hsome] at hturn
        cases hturn
        rw [state]
        exact ⟨fun h => h, fun h => h⟩
  | branched turn result =>
      cases result
      exact nofun
  | alarmed quiet => exact fun input latched hturn => ⟨fun _ => rfl, nofun⟩
  | shouted calling => exact h

/-- What there is in hand after something has been received. -/
theorem inHand_received (count : Reading → ℕ) (id : UInt32) {input : Input}
    {state : ElectionState} (turn : v'.turn = none ∨ v'.turn = some (input, state)) :
    v'.inHand count id ≤ (Move.receive input).reads count id := by
  unfold inHand
  rcases turn with hnone | hsome
  · rw [hnone]
    exact Nat.zero_le _
  · rw [hsome]
    exact Nat.le_refl _

/-- **One move.** -/
theorem step_accounted (h : v.Latched) (taken : v.step id move = some (v', sent)) :
    v.Accounted id move v' sent := by
  cases step_cases taken with
  | @received input _ waiting state calling turn =>
      -- nothing is sent by reading, only the reading is now in hand
      have hopening : v'.opening = v.opening := by
        unfold opening
        rw [waiting]
        rcases turn with hnone | hsome
        · rw [hnone, state]
        · rw [hsome]
      have hpending : v'.pending = v.pending := by rw [pending, calling, pending]
      have hlower := inHand_received (Reading.lower id) id turn
      have hread := inHand_received Reading.elections id turn
      constructor
      · rw [List.count_nil, hopening, hpending]
        omega
      · rw [List.count_nil, List.count_nil, state, hpending]
        omega
      · rw [List.countP_nil]
        omega
      · rw [List.count_nil]
        omega
  | @branched input latched _ _ turn result =>
      cases result
      obtain ⟨hstanding, hopening⟩ := h input latched turn
      obtain ⟨helections, hannouncements, hanswers, hupdates⟩ :=
        @Machine.act_accounted id v.machine (input.reading id) input.elapsed latched hstanding
          hopening
      -- all four bounds are those of the branch, which starts from the latched state
      have hopen : v.opening = latched.opening := by rw [opening, turn]
      have hlower : v.inHand (Reading.lower id) id = (input.reading id).lower id := by
        rw [inHand, turn]
      have hread : v.inHand Reading.elections id = (input.reading id).elections := by
        rw [inHand, turn]
      generalize v.machine.act id (input.reading id) input.elapsed latched = result
        at helections hannouncements hanswers hupdates ⊢
      constructor
      · rw [hopen, hlower]
        show result.2.count _ + result.1.state.opening + v.pending + 0
          ≤ latched.opening + v.pending + (input.reading id).lower id + 0 + 0
        omega
      · show result.2.count _ + result.1.state.standing + v.pending
          ≤ v.machine.state.standing + result.2.count _ + v.pending
        omega
      · rw [hlower]
        exact hanswers
      · rw [hread]
        exact hupdates
  | alarmed quiet =>
      have hpending : v.pending = 0 := by
        rw [pending, quiet]
        rfl
      constructor
      · rw [List.count_nil, hpending]
        show 0 + opening ⟨_, v.turn, true⟩ + 1 + v.inHand _ id
          ≤ v.opening + 0 + v.inHand _ id + 1 + 0
        -- between two turns the state is no longer `INIT`, inside one the latched state stays
        have hle : opening ⟨{ v.machine with state := .inProgress }, v.turn, true⟩ ≤ v.opening := by
          unfold opening
          cases v.turn with
          | none => exact Nat.zero_le _
          | some turn => exact Nat.le_refl _
        omega
      · rw [hpending]
        show 0 + 1 + 0 ≤ v.machine.state.standing + 0 + 1
        omega
      · exact Nat.le_of_eq (Nat.zero_add _)
      · exact Nat.le_of_eq (Nat.zero_add _)
  -- the broadcast pays for the candidacy opened a step before
  | shouted calling =>
      have hpending : v.pending = 1 := by
        rw [pending, calling]
        rfl
      constructor
      · rw [hpending]
        show 1 + v.opening + 0 + v.inHand _ id ≤ v.opening + 1 + v.inHand _ id + 0 + 0
        omega
      · rw [hpending]
        show 0 + v.machine.state.standing + 1 ≤ v.machine.state.standing + 1 + 0
        omega
      · exact Nat.le_of_eq (Nat.zero_add _)
      · exact Nat.le_of_eq (Nat.zero_add _)

end Moves

end Voice

/-! ## What it has said -/

/-- Something that a server has done: it has begun an election, or sent something. -/
inductive Entry
  | begun
  | sent (output : Output)
  deriving DecidableEq

/-- A server and all that it has done. -/
structure Spoken where
  voice : Voice
  log : List Entry

namespace Spoken

open Execution

/-- The server enters the loop. -/
def start (coordinatorIp : InAddr) (lastReceivedId : UInt32) : Spoken :=
  ⟨.start coordinatorIp lastReceivedId, []⟩

/-- An election is begun by `backup_election`, and by a branch that broadcasts it. -/
def begins (sent : List Output) : Voice.Move → Bool
  | .alarm => true
  | .branch => decide (.broadcast .election ∈ sent)
  | .receive _ | .shout => false

/-- What is done in a move. -/
def entries (move : Voice.Move) (sent : List Output) : List Entry :=
  (if begins sent move then [.begun] else []) ++ sent.map .sent

/-- One move. -/
def step (id : UInt32) (s : Spoken) (move : Voice.Move) : Option Spoken :=
  (s.voice.step id move).map fun (voice, sent) => ⟨voice, s.log ++ entries move sent⟩

/-- An election has been begun, and no announcement made since. -/
def Running (log : List Entry) : Prop :=
  ∃ before after, log = before ++ .begun :: after ∧
    .sent (.broadcast .coordAnnouncement) ∉ after

/-- Every announcement comes after the beginning of an election, and no announcement between the
two. -/
def Ordered (log : List Entry) : Prop :=
  ∀ before after, log = before ++ .sent (.broadcast .coordAnnouncement) :: after → Running before

section Log

variable {log more : List Entry}

/-- Whatever is no announcement leaves an election running. -/
theorem Running.append (h : Running log)
    (hmore : .sent (.broadcast .coordAnnouncement) ∉ more) : Running (log ++ more) := by
  obtain ⟨before, after, rfl, hafter⟩ := h
  refine ⟨before, after ++ more, by rw [List.append_assoc, List.cons_append], ?_⟩
  rw [List.mem_append, not_or]
  exact ⟨hafter, hmore⟩

/-- An election that has just begun is running. -/
theorem running_of_mem (hmem : .begun ∈ more)
    (hmore : .sent (.broadcast .coordAnnouncement) ∉ more) (log : List Entry) :
    Running (log ++ more) := by
  obtain ⟨before, after, rfl⟩ := List.append_of_mem hmem
  refine ⟨log ++ before, after, by rw [List.append_assoc], fun hafter => hmore ?_⟩
  exact List.mem_append_right _ (List.mem_cons_of_mem _ hafter)

/-- What is no announcement cannot be out of order. -/
theorem Ordered.append (h : Ordered log)
    (hmore : .sent (.broadcast .coordAnnouncement) ∉ more) : Ordered (log ++ more) := by
  intro before after heq
  rcases List.append_eq_append_iff.mp heq with ⟨gap, rfl, hgap⟩ | ⟨gap, rfl, hgap⟩
  · refine absurd ?_ hmore
    rw [hgap]
    exact List.mem_append_right _ List.mem_cons_self
  · cases gap with
    | nil =>
        rw [List.nil_append] at hgap
        refine absurd ?_ hmore
        rw [← hgap]
        exact List.mem_cons_self
    | cons entry gap =>
        rw [List.cons_append, List.cons.injEq] at hgap
        obtain ⟨rfl, -⟩ := hgap
        exact h before gap rfl

/-- An announcement is in order if an election is running. -/
theorem Ordered.concat (h : Ordered log) (hrunning : Running log) :
    Ordered (log ++ [.sent (.broadcast .coordAnnouncement)]) := by
  intro before after heq
  rcases List.eq_nil_or_concat after with rfl | ⟨init, last, rfl⟩
  · rw [← (List.append_inj' heq rfl).1]
    exact hrunning
  · have hsplit : log ++ [.sent (.broadcast .coordAnnouncement)]
        = (before ++ .sent (.broadcast .coordAnnouncement) :: init) ++ [last] := by
      rw [heq]
      simp
    exact h before init (List.append_inj' hsplit rfl).1

end Log

section Entries

variable {move : Voice.Move} {sent : List Output} {output : Output}

/-- What is sent is in the log. -/
theorem sent_mem_entries : .sent output ∈ entries move sent ↔ output ∈ sent := by
  rw [entries, List.mem_append, List.mem_map]
  split <;> simp

/-- So is the beginning of an election. -/
theorem begun_mem_entries : .begun ∈ entries move sent ↔ begins sent move = true := by
  rw [entries, List.mem_append]
  split
  · rename_i hbegins
    simp [hbegins]
  · rename_i hbegins
    simp [hbegins]

/-- Each thing sent is there as often as it is sent. -/
theorem count_sent_entries : (entries move sent).count (.sent output) = sent.count output := by
  have hinjective : Function.Injective Entry.sent := fun _ _ => Entry.sent.inj
  rw [entries, List.count_append, List.count_map_of_injective sent _ hinjective]
  split
  · exact Nat.zero_add _
  · exact Nat.zero_add _

/-- An election begins once. -/
theorem count_begun_entries :
    (entries move sent).count .begun = if begins sent move then 1 else 0 := by
  have hnone : (sent.map Entry.sent).count .begun = 0 :=
    List.count_eq_zero_of_not_mem (by simp)
  rw [entries, List.count_append, hnone]
  split
  · rfl
  · rfl

end Entries

/-- The log is in order, whoever is in `IN_PROGRESS` has begun an election since its last
announcement, and what has been begun has been broadcast but for what is pending. -/
structure Sound (s : Spoken) : Prop where
  latched : s.voice.Latched
  ordered : Ordered s.log
  running : s.voice.machine.state = .inProgress → Running s.log
  balanced : s.log.count (.sent (.broadcast .election)) + s.voice.pending = s.log.count .begun

section Steps

variable {id : UInt32} {s s' : Spoken} {move : Voice.Move} {coordinatorIp : InAddr}
  {lastReceivedId : UInt32} {moves : List Voice.Move}

/-- Nothing has been said. -/
theorem sound_start (coordinatorIp : InAddr) (lastReceivedId : UInt32) :
    (start coordinatorIp lastReceivedId).Sound where
  latched := Voice.latched_start coordinatorIp lastReceivedId
  ordered before after heq := absurd heq (by simp [start])
  running := nofun
  balanced := rfl

/-- What a move begins, it broadcasts, or the heartbeat thread is about to. -/
theorem pending_step {v v' : Voice} {sent : List Output}
    (taken : v.step id move = some (v', sent)) :
    sent.count (.broadcast .election) + v'.pending
      = v.pending + if begins sent move then 1 else 0 := by
  cases Voice.step_cases taken with
  | received waiting state calling turn =>
      rw [Voice.pending, calling]
      exact Nat.add_comm 0 v.pending
  | @branched input latched _ _ turn result =>
      cases result
      have hle := @Machine.act_elections_le id v.machine (input.reading id) input.elapsed latched
      generalize v.machine.act id (input.reading id) input.elapsed latched = result at hle ⊢
      have hcount : result.2.count (.broadcast .election)
          = if begins result.2 .branch then 1 else 0 := by
        by_cases hmem : .broadcast .election ∈ result.2
        · rw [begins, decide_eq_true hmem, if_pos rfl]
          exact Nat.le_antisymm hle (List.count_pos_iff.mpr hmem)
        · rw [begins, decide_eq_false hmem, if_neg Bool.false_ne_true]
          exact List.count_eq_zero_of_not_mem hmem
      show result.2.count _ + v.pending = v.pending + if begins result.2 .branch then 1 else 0
      rw [hcount]
      exact Nat.add_comm _ _
  | alarmed quiet =>
      have hpending : v.pending = 0 := by
        rw [Voice.pending, quiet]
        rfl
      rw [hpending]
      rfl
  | shouted calling =>
      have hpending : v.pending = 1 := by
        rw [Voice.pending, calling]
        rfl
      rw [hpending]
      rfl

/-- Whoever gets into `IN_PROGRESS` has begun an election. -/
theorem begins_of_inProgress {v v' : Voice} {sent : List Output} (h : v.Latched)
    (taken : v.step id move = some (v', sent))
    (hsilent : .broadcast .coordAnnouncement ∉ sent) (hstate : v'.machine.state = .inProgress)
    (hbefore : v.machine.state ≠ .inProgress) : begins sent move = true := by
  by_contra hnot
  have haccount := (Voice.step_accounted h taken).announcements
  have hpending := pending_step taken
  have hstanding : v.machine.state.standing = 0 := by
    cases hother : v.machine.state with
    | inProgress => exact absurd hother hbefore
    | init => rfl
    | notInProgress => rfl
    | waitingForCoord => rfl
  have hone : v'.machine.state.standing = 1 := by rw [hstate]; rfl
  rw [if_neg hnot] at hpending
  rw [List.count_eq_zero_of_not_mem hsilent] at haccount
  omega

/-- An announcement is made by a branch that has nothing else to send, in the middle of an
election. -/
theorem announced_cases {v v' : Voice} {sent : List Output} (h : v.Latched)
    (taken : v.step id move = some (v', sent))
    (hspoken : .broadcast .coordAnnouncement ∈ sent) :
    v.machine.state = .inProgress ∧ v'.machine.state = .notInProgress ∧
      entries move sent = [.sent (.broadcast .coordAnnouncement)] := by
  cases Voice.step_cases taken with
  | received waiting state calling turn => exact absurd hspoken List.not_mem_nil
  | @branched input latched _ _ turn result =>
      cases result
      obtain ⟨hlatched, hsent, hstate⟩ := Machine.act_announcement hspoken
      refine ⟨(h input latched turn).1 hlatched, hstate, ?_⟩
      show entries .branch (v.machine.act id (input.reading id) input.elapsed latched).2 = _
      rw [hsent]
      rfl
  | alarmed quiet => exact absurd hspoken List.not_mem_nil
  | shouted calling => exact absurd (List.mem_singleton.mp hspoken) nofun

/-- **One move.** -/
theorem Sound.step (h : s.Sound) (taken : s.step id move = some s') : s'.Sound := by
  obtain ⟨⟨voice, sent⟩, hvoice, rfl⟩ := Option.map_eq_some_iff.mp taken
  have hbalanced : (s.log ++ entries move sent).count (.sent (.broadcast .election))
      + voice.pending = (s.log ++ entries move sent).count .begun := by
    have hbefore := h.balanced
    have hnow := pending_step hvoice
    rw [List.count_append, List.count_append, count_sent_entries, count_begun_entries]
    omega
  by_cases hspoken : .broadcast .coordAnnouncement ∈ sent
  · obtain ⟨hstate, hsettled, hentries⟩ := announced_cases h.latched hvoice hspoken
    refine ⟨h.latched.step hvoice, ?_, fun hagain => ?_, hbalanced⟩
    · show Ordered (s.log ++ entries move sent)
      rw [hentries]
      exact h.ordered.concat (h.running hstate)
    · exact nomatch hsettled.symm.trans hagain
  · have hsilent : .sent (.broadcast .coordAnnouncement) ∉ entries move sent :=
      mt sent_mem_entries.mp hspoken
    refine ⟨h.latched.step hvoice, h.ordered.append hsilent, fun hstate => ?_, hbalanced⟩
    by_cases hbefore : s.voice.machine.state = .inProgress
    · exact (h.running hbefore).append hsilent
    · refine running_of_mem ?_ hsilent s.log
      exact begun_mem_entries.mpr (begins_of_inProgress h.latched hvoice hspoken hstate hbefore)

/-- **No announcement without an election.**  Whatever the server receives, and whenever the
heartbeat thread takes the two statements of `backup_election`: before every announcement, and
since the one before that, the server has begun an election; and it has broadcast as many election
messages as it has begun elections, but for the one that the heartbeat thread is about to. -/
theorem election_before_announcement
    (run : Runs (step id) Always (start coordinatorIp lastReceivedId) moves s) :
    Ordered s.log ∧
      s.log.count (.sent (.broadcast .election)) + s.voice.pending = s.log.count .begun := by
  have hsound : s.Sound := run.invariant Sound (sound_start coordinatorIp lastReceivedId)
    fun _ _ _ h _ taken => h.step taken
  exact ⟨hsound.ordered, hsound.balanced⟩

/-- A server that hears nothing enters the loop and announces itself, and a time-out finds its
heartbeat thread between the two statements. -/
def interruptedAlarm : List Voice.Move :=
  [.receive ⟨none, 0⟩, .branch, .receive ⟨none, 200⟩, .branch, .alarm, .receive ⟨none, 250⟩,
    .branch]

/-- **Two announcements and one election message.**

The second one comes before its election message is broadcast, but after the election it belongs to
has begun. -/
theorem early_announcement : ∃ s, Runs (step 7) Always (start 0 0) interruptedAlarm s ∧
    s.log = [.begun, .sent (.broadcast .election), .sent (.broadcast .coordAnnouncement), .begun,
      .sent (.broadcast .coordAnnouncement)] ∧
    Running [.begun, .sent (.broadcast .election), .sent (.broadcast .coordAnnouncement),
      .begun] := by
  have run : Runs (step 7) Always (start 0 0) interruptedAlarm _ := runs_of_perform rfl
  exact ⟨_, run, rfl, (election_before_announcement run).1 _ [] rfl⟩

end Steps

/-! ## Turns and calls that are not interrupted -/

section Turn

variable {id : UInt32} {m : Machine} {input : Input} {log : List Entry}

/-- What has been sent. -/
def outputs (log : List Entry) : List Output :=
  log.filterMap fun
    | .begun => none
    | .sent output => some output

/-- Logs are read in pieces. -/
theorem outputs_append (log more : List Entry) :
    outputs (log ++ more) = outputs log ++ outputs more :=
  List.filterMap_append

/-- What a move adds to the log is what it sends. -/
theorem outputs_entries (move : Voice.Move) (sent : List Output) :
    outputs (entries move sent) = sent := by
  have hsent : outputs (sent.map .sent) = sent := by
    induction sent with
    | nil => rfl
    | cons output rest ih => exact congrArg (output :: ·) ih
  rw [entries, outputs_append, hsent]
  split <;> rfl

/-- Calls of `backup_election`, each to its end. -/
theorem perform_calls (turn : Option (Input × ElectionState)) (calls : ℕ) (m : Machine)
    (log : List Entry) : ∃ log',
    perform (step id) ⟨⟨m, turn, false⟩, log⟩ (List.replicate calls [.alarm, .shout]).flatten
      = some ⟨⟨(m.backupElections calls).1, turn, false⟩, log'⟩ ∧
    outputs log' = outputs log ++ (m.backupElections calls).2 := by
  induction calls generalizing m log with
  | zero => exact ⟨log, rfl, (List.append_nil _).symm⟩
  | succ calls ih =>
      obtain ⟨log', hperform, houtputs⟩ := ih m.backupElection.1
        ((log ++ entries .alarm []) ++ entries .shout [.broadcast .election])
      refine ⟨log', hperform, houtputs.trans ?_⟩
      rw [outputs_append, outputs_append, outputs_entries, outputs_entries, List.append_nil,
        List.append_assoc]
      rfl

/-- **A turn** of `Machine.iterate`, in which whole calls of `backup_election` land after the state
has been read. -/
theorem perform_turn (hlooks : isLoopback (m.receive input).ssCliaddr = false) (calls : ℕ) : ∃ log',
    perform (step id) ⟨⟨m, none, false⟩, log⟩
        (.receive input :: ((List.replicate calls [.alarm, .shout]).flatten ++ [.branch]))
      = some ⟨⟨(m.iterate id input calls).1, none, false⟩, log'⟩ ∧
    outputs log' = outputs log ++ (m.iterate id input calls).2 := by
  obtain ⟨log', hcalls, houtputs⟩ := perform_calls (some (input, m.state)) calls (m.receive input)
    (log ++ entries (.receive input) [])
  have htake : (⟨m, none, false⟩ : Voice).take input
      = ⟨m.receive input, some (input, m.state), false⟩ := by
    rw [Voice.take, ← Machine.receive_state input m, hlooks]
    rfl
  have hreceive : step id ⟨⟨m, none, false⟩, log⟩ (.receive input)
      = some ⟨⟨m.receive input, some (input, m.state), false⟩,
          log ++ entries (.receive input) []⟩ := by
    rw [← htake]
    rfl
  have hbranch (m' : Machine) (log' : List Entry) :
      step id ⟨⟨m', some (input, m.state), false⟩, log'⟩ .branch
        = some ⟨⟨(m'.branch id (.of (input.datagram.map Prod.snd)) input.elapsed m.state).1, none,
            false⟩, log' ++ entries .branch
              (m'.branch id (.of (input.datagram.map Prod.snd)) input.elapsed m.state).2⟩ := rfl
  rw [Machine.iterate_eq, if_neg (by simp [hlooks])]
  refine ⟨log' ++ entries .branch (m.turn id input calls).2, ?_, ?_⟩
  · rw [perform, hreceive, Option.bind_some, perform_append, hcalls, Option.bind_some, perform,
      hbranch]
    rfl
  · rw [outputs_append, houtputs, outputs_append, outputs_entries, outputs_entries,
      List.append_nil, List.append_assoc]

end Turn

end Spoken

end Election

end Brix
