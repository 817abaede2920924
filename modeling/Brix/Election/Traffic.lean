import Brix.Election.Network
import Brix.Election.Outgoing
import Brix.Foundation.Cascade
import Mathlib.Algebra.BigOperators.Group.Finset.Piecewise

/-!
# How much an election sends

An election message can start another election: a server that is in none answers a lower id with a
broadcast of its own, and so may everybody with a still higher id whom that reaches.  What keeps
this from going on for ever is that a message is read once and that nobody is stirred up by a
higher id.

`Chorus` is any number of servers, each with its two threads in the middle of whatever they are
doing (`Voice`), and what is on its way between them.  A move is one statement of one thread of one
server.

The accounts of all servers are kept over a whole run: the elections that a server has broadcast,
those messages of the others that it has received, the calls of `backup_election` that have begun,
and what it has sent besides.  One move keeps them in order (`InOrder.step`), and the number of
broadcasts doubles with every id at worst (`election_traffic_bounded`).

### What is load-bearing

`InOrder.delivered` is the clause that the rest stands on: a server has received no more of
another's election messages than the other has broadcast, since a broadcast puts one message for
every server on its way and a delivery takes one away.  With it `InOrder.broadcast` bounds a
server's elections by those of the servers below it, and that is all that `Cascade.add_sum_le`
needs to know.  The terms for what is in hand or pending are what the two threads of a server may
have left undone at any one point (`Voice.Accounted`); they are only ever on the side of what is
bounded, and drop out in the end.
-/

namespace Brix

namespace Election

/-- An election message on its way from one server to another. -/
def Envelope.calling {n : ℕ} (sender server : Fin n) (envelope : Envelope n) : Bool :=
  envelope.sender = sender ∧ envelope.receiver = server ∧ envelope.message = .election

/-- The servers, and what is on its way between them. -/
structure Chorus (n : ℕ) where
  voices : Fin n → Voice
  pool : List (Envelope n)

namespace Chorus

open Execution

variable {n : ℕ}

/-- A statement of a thread. -/
inductive Move (n : ℕ)
  /-- The receiver's election thread receives a message. -/
  | deliver (envelope : Envelope n) (elapsed : ℤ)
  /-- An election thread receives nothing in time. -/
  | timeout (server : Fin n) (elapsed : ℤ)
  | branch (server : Fin n)
  | alarm (server : Fin n)
  | shout (server : Fin n)

/-- All servers are about to enter the loop. -/
def start (coordinatorIp : Fin n → InAddr) (lastReceivedId : Fin n → UInt32) : Chorus n where
  voices server := .start (coordinatorIp server) (lastReceivedId server)
  pool := []

/-- Whose statement it is, and which one. -/
def Move.statement (peers : Peers n) : Move n → Fin n × Voice.Move
  | .deliver envelope elapsed =>
      (envelope.receiver, .receive (Network.input peers envelope elapsed))
  | .timeout server elapsed => (server, .receive ⟨none, elapsed⟩)
  | .branch server => (server, .branch)
  | .alarm server => (server, .alarm)
  | .shout server => (server, .shout)

/-- What is on its way when a message has been received, if one is. -/
def Move.left (pool : List (Envelope n)) : Move n → Option (List (Envelope n))
  | .deliver envelope _ => if pool.contains envelope then some (pool.erase envelope) else none
  | .timeout .. | .branch _ | .alarm _ | .shout _ => some pool

/-- Whose move it is, how that server is afterwards and what it sends, and what else is on its
way. -/
def turn (peers : Peers n) (c : Chorus n) (move : Move n) :
    Option (Fin n × (Voice × List Output) × List (Envelope n)) :=
  let server := (move.statement peers).1
  (move.left c.pool).bind fun pool =>
    ((c.voices server).step (peers.id server) (move.statement peers).2).map fun result =>
      (server, result, pool)

/-- One statement of one thread; what is sent is on its way to whom it is for. -/
def step (peers : Peers n) (c : Chorus n) (move : Move n) : Option (Chorus n) :=
  (c.turn peers move).map fun (server, (voice, sent), pool) =>
    { voices := Function.update c.voices server voice
      pool := sent.flatMap (Network.envelopes peers server 0) ++ pool }

variable {peers : Peers n} {c c' first : Chorus n} {move : Move n} {moves : List (Move n)}
  {sender server actor : Fin n}

/-- What a server sends in a move. -/
def sentBy (peers : Peers n) (server : Fin n) (c : Chorus n) (move : Move n) : List Output :=
  match c.turn peers move with
  | some (actor, (_, sent), _) => if actor = server then sent else []
  | none => []

/-- The calls of `backup_election` on a server that begin in a move. -/
def callsOn (server : Fin n) : Move n → ℕ
  | .alarm actor => if actor = server then 1 else 0
  | .deliver .. | .timeout .. | .branch _ | .shout _ => 0

/-- The election messages of `sender` that `server` receives in a move. -/
def readFrom (sender server : Fin n) : Move n → ℕ
  | .deliver envelope _ => if Envelope.calling sender server envelope then 1 else 0
  | .timeout .. | .branch _ | .alarm _ | .shout _ => 0

/-- The servers with a lower id. -/
def lowerThan (peers : Peers n) (server : Fin n) : Finset (Fin n) :=
  Finset.univ.filter fun other => peers.id other < peers.id server

/-! ## The accounts of a run -/

/-- The elections that a server has broadcast. -/
def elections (peers : Peers n) (first : Chorus n) (moves : List (Move n)) (server : Fin n) : ℕ :=
  tally (step peers) (fun c move =>
    (sentBy peers server c move).count (.broadcast .election)) first moves

/-- Its announcements. -/
def announcements (peers : Peers n) (first : Chorus n) (moves : List (Move n))
    (server : Fin n) : ℕ :=
  tally (step peers) (fun c move =>
    (sentBy peers server c move).count (.broadcast .coordAnnouncement)) first moves

/-- Its answers. -/
def answers (peers : Peers n) (first : Chorus n) (moves : List (Move n)) (server : Fin n) : ℕ :=
  tally (step peers) (fun c move => (sentBy peers server c move).countP Output.isAnswer) first moves

/-- The broadcasts of its database that election messages have led to. -/
def updates (peers : Peers n) (first : Chorus n) (moves : List (Move n)) (server : Fin n) : ℕ :=
  tally (step peers) (fun c move => (sentBy peers server c move).count .update) first moves

/-- The calls of `backup_election` on it. -/
def backups (peers : Peers n) (first : Chorus n) (moves : List (Move n)) (server : Fin n) : ℕ :=
  tally (step peers) (fun _ move => callsOn server move) first moves

/-- The election messages of another server that it has received. -/
def reads (peers : Peers n) (first : Chorus n) (moves : List (Move n))
    (sender server : Fin n) : ℕ :=
  tally (step peers) (fun _ move => readFrom sender server move) first moves

/-- The accounts agree with each other and with where the servers are.  Every election message is
received once or is still on its way. -/
structure InOrder (peers : Peers n) (first : Chorus n) (moves : List (Move n))
    (c : Chorus n) : Prop where
  latched : ∀ server, (c.voices server).Latched
  delivered : ∀ sender server, reads peers first moves sender server
      + c.pool.countP (Envelope.calling sender server) = elections peers first moves sender
  broadcast : ∀ server, elections peers first moves server + (c.voices server).opening
      + (c.voices server).pending
      + (c.voices server).inHand (Reading.lower (peers.id server)) (peers.id server)
    ≤ backups peers first moves server + 1
      + ∑ sender ∈ lowerThan peers server, reads peers first moves sender server
  announced : ∀ server, announcements peers first moves server
      + (c.voices server).machine.state.standing
    ≤ elections peers first moves server + (c.voices server).pending
  answered : ∀ server, answers peers first moves server
      + (c.voices server).inHand (Reading.lower (peers.id server)) (peers.id server)
    ≤ ∑ sender ∈ lowerThan peers server, reads peers first moves sender server
  updated : ∀ server, updates peers first moves server
      + (c.voices server).inHand Reading.elections (peers.id server)
    ≤ ∑ sender ∈ Finset.univ.erase server, reads peers first moves sender server

/-! ## One move -/

/-- A broadcast puts one message to every server on its way. -/
theorem countP_outputs (peers : Peers n) (actor sender server : Fin n) (stamp : ℕ)
    (sent : List Output) :
    (sent.flatMap (Network.envelopes peers actor stamp)).countP (Envelope.calling sender server)
      = if actor = sender then sent.count (.broadcast .election) else 0 := by
  have hone : ∀ output, (Network.envelopes peers actor stamp output).countP
      (Envelope.calling sender server)
        = if actor = sender ∧ output = .broadcast .election then 1 else 0 := by
    intro output
    cases output with
    | broadcast message =>
        have hreceivers : (List.finRange n).count server = 1 :=
          List.count_eq_one_of_mem (List.nodup_finRange n) (List.mem_finRange server)
        rw [Network.envelopes, List.countP_map]
        by_cases hcalls : actor = sender ∧ message = .election
        · rw [if_pos ⟨hcalls.1, by rw [hcalls.2]⟩, ← hreceivers, List.count]
          refine List.countP_congr fun receiver _ => ?_
          simp [Envelope.calling, hcalls]
        · rw [if_neg (by simpa using hcalls), List.countP_eq_zero]
          intro receiver _ hcalling
          simp only [Function.comp_apply, Envelope.calling, decide_eq_true_eq] at hcalling
          exact hcalls ⟨hcalling.1, hcalling.2.2⟩
    | answerBack dest => simp [Network.envelopes, Envelope.calling]
    | update => simp [Network.envelopes]
  induction sent with
  | nil => simp
  | cons output rest ih =>
      rw [List.flatMap_cons, List.countP_append, hone, ih, List.count_cons]
      by_cases hactor : actor = sender <;> by_cases houtput : output = .broadcast .election <;>
        simp [hactor, houtput, Nat.add_comm]

/-- What a server reads of a message. -/
theorem reading_input (peers : Peers n) (envelope : Envelope n) (elapsed : ℤ) :
    ((Network.input peers envelope elapsed).reading (peers.id envelope.receiver)).elections
        = (if envelope.sender ≠ envelope.receiver ∧ envelope.message = .election then 1 else 0) ∧
      ((Network.input peers envelope elapsed).reading (peers.id envelope.receiver)).lower
          (peers.id envelope.receiver)
        = if peers.id envelope.sender < peers.id envelope.receiver ∧ envelope.message = .election
          then 1 else 0 := by
  have hread : ∀ senderId,
      (Network.input peers envelope elapsed).reading (peers.id envelope.receiver)
        = .election senderId ↔ (envelope.sender ≠ envelope.receiver ∧
        envelope.message = .election) ∧ senderId = peers.id envelope.sender := by
    intro senderId
    have htag : envelope.message.tag = "ELE".toList ↔ envelope.message = .election := by
      cases envelope.message <;> decide
    refine Reading.of_eq_election.trans ?_
    show isValid "ELE".toList _ (.of (some (envelope.message.text _))) = _ ↔ _
    rw [isValid_text, Option.ite_none_right_eq_some, htag, peers.distinct.ne_iff]
    constructor
    · rintro ⟨⟨hmessage, hne⟩, hid⟩
      exact ⟨⟨hne, hmessage⟩, (Option.some.inj hid).symm⟩
    · rintro ⟨⟨hne, hmessage⟩, rfl⟩
      exact ⟨⟨hmessage, hne⟩, rfl⟩
  by_cases hcalls : envelope.sender ≠ envelope.receiver ∧ envelope.message = .election
  · rw [(hread _).mpr ⟨hcalls, rfl⟩, if_pos hcalls]
    simp [Reading.elections, Reading.lower, hcalls.2]
  · have hnone : ∀ senderId,
        (Network.input peers envelope elapsed).reading (peers.id envelope.receiver)
          ≠ .election senderId := fun senderId h => hcalls ((hread senderId).mp h).1
    have hlower : ¬ (peers.id envelope.sender < peers.id envelope.receiver ∧
        envelope.message = .election) := by
      rintro ⟨hlt, hmessage⟩
      refine hcalls ⟨fun heq => ?_, hmessage⟩
      rw [heq] at hlt
      exact UInt32.lt_irrefl _ hlt
    rw [if_neg hcalls, if_neg hlower]
    cases hreading :
        (Network.input peers envelope elapsed).reading (peers.id envelope.receiver) with
    | election senderId => exact absurd hreading (hnone senderId)
    | announcement senderId => exact ⟨rfl, rfl⟩
    | answer senderId => exact ⟨rfl, rfl⟩
    | timeout => exact ⟨rfl, rfl⟩
    | other => exact ⟨rfl, rfl⟩

/-- The election messages that a server receives in a move, counted by their senders. -/
theorem sum_readFrom (senders : Finset (Fin n)) (envelope : Envelope n) (elapsed : ℤ) :
    ∑ sender ∈ senders, readFrom sender server (.deliver envelope elapsed)
      = if envelope.sender ∈ senders ∧ envelope.receiver = server ∧ envelope.message = .election
        then 1 else 0 := by
  have hrewrite : ∀ sender, readFrom sender server (.deliver envelope elapsed)
      = if envelope.sender = sender then
          (if envelope.receiver = server ∧ envelope.message = .election then 1 else 0) else 0 := by
    intro sender
    simp only [readFrom, Envelope.calling, decide_eq_true_eq]
    by_cases hsender : envelope.sender = sender <;> simp [hsender]
  rw [Finset.sum_congr rfl fun sender _ => hrewrite sender, Finset.sum_ite_eq, ← ite_and]

/-- What the accounts of a move are to the server whose move it is. -/
structure Charged (peers : Peers n) (move : Move n) (actor : Fin n) (statement : Voice.Move) :
    Prop where
  calls : statement.calls = callsOn actor move
  lower : statement.reads (Reading.lower (peers.id actor)) (peers.id actor)
    = ∑ sender ∈ lowerThan peers actor, readFrom sender actor move
  read : statement.reads Reading.elections (peers.id actor)
    = ∑ sender ∈ Finset.univ.erase actor, readFrom sender actor move
  others : ∀ server, server ≠ actor → callsOn server move = 0 ∧
    ∀ sender, readFrom sender server move = 0

/-- One statement is charged to the thread that takes it, and costs no other server anything. -/
theorem charged (peers : Peers n) (move : Move n) :
    Charged peers move (move.statement peers).1 (move.statement peers).2 := by
  have hsilent : ∀ {input : Input} {actor : Fin n}, input.reading (peers.id actor) = .timeout →
      (Voice.Move.receive input).reads (Reading.lower (peers.id actor)) (peers.id actor) = 0 ∧
        (Voice.Move.receive input).reads Reading.elections (peers.id actor) = 0 := by
    intro input actor hreading
    rw [Voice.Move.reads, Voice.Move.reads, hreading]
    exact ⟨rfl, rfl⟩
  cases move with
  | deliver envelope elapsed =>
      obtain ⟨helections, hlower⟩ := reading_input peers envelope elapsed
      refine ⟨rfl, ?_, ?_, fun server hne => ⟨rfl, fun sender => if_neg ?_⟩⟩
      · show _ = ∑ sender ∈ lowerThan peers envelope.receiver, readFrom sender envelope.receiver _
        rw [sum_readFrom]
        exact hlower.trans (by simp [lowerThan])
      · show _ = ∑ sender ∈ Finset.univ.erase envelope.receiver,
          readFrom sender envelope.receiver _
        rw [sum_readFrom]
        exact helections.trans (by simp)
      · intro hcalling
        simp only [Envelope.calling, decide_eq_true_eq] at hcalling
        exact hne hcalling.2.1.symm
  | timeout actor elapsed =>
      obtain ⟨hlower, hread⟩ := hsilent (Input.reading_eq_timeout.mpr rfl :
        (⟨none, elapsed⟩ : Input).reading (peers.id actor) = .timeout)
      exact ⟨rfl, hlower.trans (Finset.sum_const_zero).symm,
        hread.trans (Finset.sum_const_zero).symm, fun _ _ => ⟨rfl, fun _ => rfl⟩⟩
  | branch actor =>
      exact ⟨rfl, (Finset.sum_const_zero).symm, (Finset.sum_const_zero).symm,
        fun _ _ => ⟨rfl, fun _ => rfl⟩⟩
  | alarm actor =>
      exact ⟨(if_pos rfl).symm, (Finset.sum_const_zero).symm, (Finset.sum_const_zero).symm,
        fun _ hne => ⟨if_neg hne.symm, fun _ => rfl⟩⟩
  | shout actor =>
      exact ⟨rfl, (Finset.sum_const_zero).symm, (Finset.sum_const_zero).symm,
        fun _ _ => ⟨rfl, fun _ => rfl⟩⟩

/-- What has been received is no longer on its way. -/
theorem readFrom_left {pool : List (Envelope n)} (h : move.left c.pool = some pool)
    (sender server : Fin n) :
    readFrom sender server move + pool.countP (Envelope.calling sender server)
      = c.pool.countP (Envelope.calling sender server) := by
  cases move with
  | deliver envelope elapsed =>
      obtain ⟨hcontains, hpool⟩ := Option.ite_none_right_eq_some.mp h
      have hsent : envelope ∈ c.pool := List.contains_iff_mem.mp hcontains
      cases hpool
      rw [readFrom]
      by_cases hcalling : Envelope.calling sender server envelope = true
      · have hpos := List.countP_pos_iff.mpr ⟨envelope, hsent, hcalling⟩
        rw [if_pos hcalling, List.countP_erase, if_pos ⟨hsent, hcalling⟩]
        omega
      · rw [if_neg hcalling, List.countP_erase, if_neg (fun h => hcalling h.2)]
        omega
  | timeout actor elapsed =>
      cases h
      exact Nat.zero_add _
  | branch actor =>
      cases h
      exact Nat.zero_add _
  | alarm actor =>
      cases h
      exact Nat.zero_add _
  | shout actor =>
      cases h
      exact Nat.zero_add _

/-- **What a move does.**  One server takes a statement, and what it receives is no longer on its
way. -/
theorem step_cases (taken : c.step peers move = some c') :
    ∃ (actor : Fin n) (statement : Voice.Move) (voice : Voice) (sent : List Output)
      (pool : List (Envelope n)), Charged peers move actor statement ∧
      (c.voices actor).step (peers.id actor) statement = some (voice, sent) ∧
      move.left c.pool = some pool ∧
      (∀ server, sentBy peers server c move = if actor = server then sent else []) ∧
      c' = ⟨Function.update c.voices actor voice,
        sent.flatMap (Network.envelopes peers actor 0) ++ pool⟩ := by
  obtain ⟨⟨actor, ⟨voice, sent⟩, pool⟩, hturn, rfl⟩ := Option.map_eq_some_iff.mp taken
  obtain ⟨pool', hleft, hmap⟩ := Option.bind_eq_some_iff.mp hturn
  obtain ⟨result, hvoice, heq⟩ := Option.map_eq_some_iff.mp hmap
  cases heq
  refine ⟨_, _, voice, sent, pool, charged peers move, hvoice, hleft, fun server => ?_, rfl⟩
  rw [sentBy, hturn]

/-! ## A run -/

/-- Nothing has been sent. -/
theorem inOrder_start (coordinatorIp : Fin n → InAddr) (lastReceivedId : Fin n → UInt32) :
    InOrder peers (start coordinatorIp lastReceivedId) [] (start coordinatorIp lastReceivedId) where
  latched _ := Voice.latched_start _ _
  delivered _ _ := rfl
  broadcast server := by
    show 0 + 1 + 0 + 0 ≤ 0 + 1 + _
    omega
  announced _ := Nat.le_refl 0
  answered _ := Nat.zero_le _
  updated _ := Nat.zero_le _

/-- The accounts of a run after one move more, in which `actor` has sent something. -/
structure Continued (peers : Peers n) (first : Chorus n) (moves : List (Move n)) (move : Move n)
    (actor : Fin n) (sent : List Output) : Prop where
  elections : ∀ server, elections peers first (moves ++ [move]) server
    = Chorus.elections peers first moves server
      + (if actor = server then sent else []).count (.broadcast .election)
  announcements : ∀ server, announcements peers first (moves ++ [move]) server
    = Chorus.announcements peers first moves server
      + (if actor = server then sent else []).count (.broadcast .coordAnnouncement)
  answers : ∀ server, answers peers first (moves ++ [move]) server
    = Chorus.answers peers first moves server
      + (if actor = server then sent else []).countP Output.isAnswer
  updates : ∀ server, updates peers first (moves ++ [move]) server
    = Chorus.updates peers first moves server
      + (if actor = server then sent else []).count .update
  backups : ∀ server, backups peers first (moves ++ [move]) server
    = Chorus.backups peers first moves server + callsOn server move
  reads : ∀ sender server, reads peers first (moves ++ [move]) sender server
    = Chorus.reads peers first moves sender server + readFrom sender server move

/-- Every account is a sum over the moves. -/
theorem continued {sent : List Output} (run : Runs (step peers) Always first moves c)
    (taken : c.step peers move = some c')
    (hsent : ∀ server, sentBy peers server c move = if actor = server then sent else []) :
    Continued peers first moves move actor sent where
  elections server := hsent server ▸ run.tally_snoc taken
  announcements server := hsent server ▸ run.tally_snoc taken
  answers server := hsent server ▸ run.tally_snoc taken
  updates server := hsent server ▸ run.tally_snoc taken
  backups _ := run.tally_snoc taken
  reads _ _ := run.tally_snoc taken

/-- What is received from several servers is continued in the same way. -/
theorem Continued.sum_reads {sent : List Output}
    (h : Continued peers first moves move actor sent) (senders : Finset (Fin n))
    (server : Fin n) :
    ∑ sender ∈ senders, Chorus.reads peers first (moves ++ [move]) sender server
      = ∑ sender ∈ senders, Chorus.reads peers first moves sender server
        + ∑ sender ∈ senders, readFrom sender server move := by
  rw [← Finset.sum_add_distrib]
  exact Finset.sum_congr rfl fun sender _ => h.reads sender server

/-- The move is charged to one server; for the others, and for the messages between them,
everything is as it was. -/
theorem InOrder.step (h : InOrder peers first moves c)
    (run : Runs (step peers) Always first moves c) (taken : c.step peers move = some c') :
    InOrder peers first (moves ++ [move]) c' := by
  obtain ⟨actor, statement, voice, sent, pool, hcharged, hvoice, hleft, hsent, rfl⟩ :=
    step_cases taken
  have hcount := continued run taken hsent
  have haccount := Voice.step_accounted (h.latched actor) hvoice
  have hself : Function.update c.voices actor voice actor = voice := Function.update_self ..
  have hother : ∀ server, server ≠ actor →
      Function.update c.voices actor voice server = c.voices server :=
    fun server hne => Function.update_of_ne hne ..
  -- nobody else sends, calls or receives anything
  have hnoSum : ∀ (senders : Finset (Fin n)) server, server ≠ actor →
      ∑ sender ∈ senders, readFrom sender server move = 0 := by
    intro senders server hne
    exact Finset.sum_eq_zero fun sender _ => (hcharged.others server hne).2 sender
  refine ⟨fun server => ?_, fun sender server => ?_, fun server => ?_, fun server => ?_,
    fun server => ?_, fun server => ?_⟩
  · show (Function.update c.voices actor voice server).Latched
    by_cases hserver : server = actor
    · subst hserver
      rw [hself]
      exact (h.latched server).step hvoice
    · rw [hother server hserver]
      exact h.latched server
  · have hbefore := h.delivered sender server
    have hread := readFrom_left hleft sender server
    rw [hcount.reads, hcount.elections]
    show _ + (_ ++ pool).countP _ = _
    rw [List.countP_append, countP_outputs]
    split
    · omega
    · rw [List.count_nil]
      omega
  · have hbefore := h.broadcast server
    rw [hcount.elections, hcount.backups, hcount.sum_reads]
    show _ + (Function.update c.voices actor voice server).opening
      + (Function.update c.voices actor voice server).pending
      + (Function.update c.voices actor voice server).inHand _ _ ≤ _
    by_cases hserver : server = actor
    · subst hserver
      have hnow := haccount.elections
      rw [hcharged.calls, hcharged.lower] at hnow
      rw [if_pos rfl, hself]
      omega
    · rw [if_neg (Ne.symm hserver), hother server hserver, List.count_nil,
        (hcharged.others server hserver).1, hnoSum _ server hserver]
      omega
  · have hbefore := h.announced server
    rw [hcount.announcements, hcount.elections]
    show _ + (Function.update c.voices actor voice server).machine.state.standing
      ≤ _ + (Function.update c.voices actor voice server).pending
    by_cases hserver : server = actor
    · subst hserver
      have hnow := haccount.announcements
      rw [if_pos rfl, hself]
      omega
    · rw [if_neg (Ne.symm hserver), hother server hserver, List.count_nil, List.count_nil]
      omega
  · have hbefore := h.answered server
    rw [hcount.answers, hcount.sum_reads]
    show _ + (Function.update c.voices actor voice server).inHand _ _ ≤ _
    by_cases hserver : server = actor
    · subst hserver
      have hnow := haccount.answers
      rw [hcharged.lower] at hnow
      rw [if_pos rfl, hself]
      omega
    · rw [if_neg (Ne.symm hserver), hother server hserver, List.countP_nil,
        hnoSum _ server hserver]
      omega
  · have hbefore := h.updated server
    rw [hcount.updates, hcount.sum_reads]
    show _ + (Function.update c.voices actor voice server).inHand _ _ ≤ _
    by_cases hserver : server = actor
    · subst hserver
      have hnow := haccount.updates
      rw [hcharged.read] at hnow
      rw [if_pos rfl, hself]
      omega
    · rw [if_neg (Ne.symm hserver), hother server hserver, List.count_nil,
        hnoSum _ server hserver]
      omega

/-- A run. -/
theorem inOrder_of_run {coordinatorIp : Fin n → InAddr} {lastReceivedId : Fin n → UInt32}
    (run : Runs (step peers) Always (start coordinatorIp lastReceivedId) moves c) :
    InOrder peers (start coordinatorIp lastReceivedId) moves c := by
  have hboth : Runs (step peers) Always (start coordinatorIp lastReceivedId) moves c ∧
      InOrder peers (start coordinatorIp lastReceivedId) moves c := by
    refine run.history (fun moves c => Runs (step peers) Always
      (start coordinatorIp lastReceivedId) moves c ∧
        InOrder peers (start coordinatorIp lastReceivedId) moves c)
      ⟨.nil, inOrder_start _ _⟩ ?_
    rintro moves c move c' ⟨run, h⟩ admitted taken
    exact ⟨.snoc run admitted taken, h.step run taken⟩
  exact hboth.2

/-- A message is received at most once. -/
theorem InOrder.reads_le (h : InOrder peers first moves c) (sender server : Fin n) :
    reads peers first moves sender server ≤ elections peers first moves sender :=
  Nat.le_of_add_right_le (h.delivered sender server).le

/-- **Elections die out.**  However the threads of the servers interleave and in whatever order
their messages arrive: if `backup_election` is called `b` times in all, the `n` servers broadcast
fewer than `(1 + b) * 2 ^ n` election messages.  A server makes no more announcements than it has
broadcast election messages, but for one that its heartbeat thread is about to broadcast; it sends
no more answers than servers with lower ids have broadcast election messages, and broadcasts its
database no more often than the others have. -/
theorem election_traffic_bounded {coordinatorIp : Fin n → InAddr} {lastReceivedId : Fin n → UInt32}
    (run : Runs (step peers) Always (start coordinatorIp lastReceivedId) moves c) :
    let first := start coordinatorIp lastReceivedId
    let calls := ∑ server, backups peers first moves server
    (1 + calls) + ∑ server, elections peers first moves server ≤ (1 + calls) * 2 ^ n ∧
      ∀ server, announcements peers first moves server
          ≤ elections peers first moves server + (c.voices server).pending ∧
        answers peers first moves server
          ≤ ∑ other ∈ lowerThan peers server, elections peers first moves other ∧
        updates peers first moves server
          ≤ ∑ other ∈ Finset.univ.erase server, elections peers first moves other := by
  intro first calls
  have h : InOrder peers first moves c := inOrder_of_run run
  have hreads : ∀ (senders : Finset (Fin n)) server,
      ∑ sender ∈ senders, reads peers first moves sender server
        ≤ ∑ sender ∈ senders, elections peers first moves sender :=
    fun senders server => Finset.sum_le_sum fun sender _ => h.reads_le sender server
  refine ⟨?_, fun server => ⟨Nat.le_of_add_right_le (h.announced server),
    (Nat.le_of_add_right_le (h.answered server)).trans (hreads _ server),
    (Nat.le_of_add_right_le (h.updated server)).trans (hreads _ server)⟩⟩
  have hinjective : Function.Injective fun server => (peers.id server).toNat :=
    fun _ _ heq => peers.distinct (UInt32.toNat_inj.mp heq)
  have hcascade := Cascade.add_sum_le (f := elections peers first moves) (c := 1 + calls)
    hinjective Finset.univ fun server _ => by
      have hserver := h.broadcast server
      have hcalls : backups peers first moves server ≤ calls :=
        Finset.single_le_sum (f := backups peers first moves) (fun _ _ => Nat.zero_le _)
          (Finset.mem_univ server)
      have hlower : ∑ sender ∈ lowerThan peers server, reads peers first moves sender server
          ≤ ∑ other with (peers.id other).toNat < (peers.id server).toNat,
            elections peers first moves other := hreads _ server
      omega
  rwa [Finset.card_univ, Fintype.card_fin] at hcascade

/-- Two servers that enter their loops. -/
def twoVoices : Chorus 2 := start (fun _ => 0) fun _ => 0

/-- Server 1 has become coordinator when server 0 enters its loop, and its heartbeat thread is in
the middle of a call when a message of server 0 arrives. -/
def lateComer : List (Move 2) :=
  [.timeout 1 0, .branch 1, .timeout 1 200, .branch 1, .timeout 0 210, .branch 0, .alarm 1,
    .deliver ⟨0, 1, .election, 0⟩ 210, .shout 1, .branch 1]

/-- Three election messages, and six are allowed. -/
theorem lateComer_traffic : ∃ c, Runs (step Network.twoPeers) Always twoVoices lateComer c ∧
    2 + ∑ server, elections Network.twoPeers twoVoices lateComer server ≤ 8 ∧
    elections Network.twoPeers twoVoices lateComer 1 = 2 := by
  have hrun : (perform (step Network.twoPeers) twoVoices lateComer).any (fun _ => true) = true := by
    decide
  obtain ⟨c, run, -⟩ := exists_runs_of_any hrun
  have hbound := (election_traffic_bounded run).1
  have hcalls : ∑ server, backups Network.twoPeers twoVoices lateComer server = 1 := by decide
  change 1 + ∑ server, backups Network.twoPeers twoVoices lateComer server + _
    ≤ (1 + ∑ server, backups Network.twoPeers twoVoices lateComer server) * 2 ^ 2 at hbound
  rw [hcalls] at hbound
  exact ⟨c, run, hbound, by decide⟩

end Chorus

end Election

end Brix
