import Brix.Election.Machine
import Brix.Foundation.Execution
import Mathlib.Data.List.FinRange
import Mathlib.Data.Fintype.Basic

/-!
# Servers that elect a coordinator

Any number of servers, each with its `Machine`, and a network that loses nothing: a
message that was sent stays in the pool until it is delivered, in any order.  A
broadcast reaches every server, the sender included; an answer reaches the server with
the address it is sent to.  At any moment a server times out or its heartbeat thread
calls `backup_election`.

`announced` and `heard` are history variables.  Announcements are numbered in the order
they are made; `announced` lists who made them, latest first, `heard` is the number of
the latest one a server has made or taken in, and an envelope carries the number of the
last announcement at the time it was sent, which is its own if it is one.  No step
looks at them.

`step_cases` says what one step can do.  `coordinators_announced` is the result about
two coordinators at a time.

### The design

A network that loses nothing is no assumption about the claims that are made over it: a message
that is never delivered is as good as lost, and a claim about every order of delivery is a claim
about every pattern of loss as well.  Where something is said about finished elections the pool is
empty, and then nothing has been lost in fact.

The step is a function, and its cases are those of the source.  `Step` is the same step as it
looks to somebody who asks about leadership only: who moves, with which of the three kinds of
turns, and what becomes of the message that is received.  `step_cases` is the inversion lemma that
leads from the one to the other, and no invariant in this or any later module unfolds the function
itself.

### What is load-bearing

`Crossing` says of two coordinators that one has not heard of the other.  It survives because
becoming a coordinator and announcing oneself to everybody are one turn (`Announced`), and because
an announcement that leaves the pool either ends its receiver's coordination or is received by a
server that does not coordinate.  The latter is `Idle`: a server that has not entered the loop
would let an announcement pass, and it is not a coordinator.
-/

namespace Brix

namespace Election

/-- The servers: what `is_valid_*` and the loopback test rely on. -/
structure Peers (n : ℕ) where
  id : Fin n → UInt32
  address : Fin n → InAddr
  distinct : Function.Injective id
  notLoopback : ∀ server, isLoopback (address server) = false

/-- A message on its way. -/
structure Envelope (n : ℕ) where
  sender : Fin n
  receiver : Fin n
  message : Message
  stamp : ℕ
  deriving DecidableEq

/-- The machines and what is on its way between them. -/
structure Network (n : ℕ) where
  machines : Fin n → Machine
  pool : List (Envelope n)
  announced : List (Fin n)
  heard : Fin n → ℕ

/-- What can happen next. -/
inductive Action (n : ℕ)
  /-- A message is received, `calls` calls of `backup_election` landing in the turn. -/
  | deliver (envelope : Envelope n) (elapsed : ℤ) (calls : ℕ)
  /-- Nothing is received in time. -/
  | timeout (server : Fin n) (elapsed : ℤ) (calls : ℕ)
  /-- The heartbeat thread calls `backup_election` between two turns. -/
  | backup (server : Fin n)

namespace Network

variable {n : ℕ}

/-- All servers are about to enter the loop. -/
def start (coordinatorIp : Fin n → InAddr) (lastReceivedId : Fin n → UInt32) : Network n where
  machines server := Machine.start (coordinatorIp server) (lastReceivedId server)
  pool := []
  announced := []
  heard _ := 0

/-- The envelopes an output is put in. -/
def envelopes (peers : Peers n) (sender : Fin n) (stamp : ℕ) : Output → List (Envelope n)
  | .broadcast message =>
      (List.finRange n).map fun receiver => ⟨sender, receiver, message, stamp⟩
  | .answerBack dest =>
      ((List.finRange n).filter fun receiver => peers.address receiver = dest).map
        fun receiver => ⟨sender, receiver, .answer, stamp⟩
  | .update => []

/-- A server's step: its machine changes, and what it sends is on its way. -/
def after (peers : Peers n) (server : Fin n) (result : Machine × List Output)
    (net : Network n) : Network n :=
  let announces := Output.broadcast .coordAnnouncement ∈ result.2
  let announced := if announces then server :: net.announced else net.announced
  { machines := Function.update net.machines server result.1
    pool := result.2.flatMap (envelopes peers server announced.length) ++ net.pool
    announced := announced
    heard := if announces then Function.update net.heard server announced.length else net.heard }

/-- The message is another server's announcement, and the receiver looks at it.

A server in `INIT` receives the datagram, and looks at nothing. -/
def TakesIn (net : Network n) (envelope : Envelope n) : Prop :=
  envelope.message = .coordAnnouncement ∧ envelope.sender ≠ envelope.receiver ∧
    (net.machines envelope.receiver).state ≠ .init

instance (net : Network n) (envelope : Envelope n) : Decidable (net.TakesIn envelope) :=
  inferInstanceAs (Decidable (_ ∧ _ ∧ _))

/-- A message leaves the pool. -/
def receive (envelope : Envelope n) (net : Network n) : Network n :=
  { net with
    pool := net.pool.erase envelope
    heard := if net.TakesIn envelope then
        Function.update net.heard envelope.receiver
          (max (net.heard envelope.receiver) envelope.stamp)
      else net.heard }

/-- What a server receives of a message. -/
def input (peers : Peers n) (envelope : Envelope n) (elapsed : ℤ) : Input :=
  ⟨some (peers.address envelope.sender, envelope.message.text (peers.id envelope.sender)), elapsed⟩

/-- Whose turn an action is, what the server does in it, and the network without the
message it receives. -/
def turn (peers : Peers n) (net : Network n) :
    Action n → Option (Fin n × (Machine × List Output) × Network n)
  | .deliver envelope elapsed calls =>
      if envelope ∈ net.pool then
        some (envelope.receiver, (net.machines envelope.receiver).iterate
          (peers.id envelope.receiver) (input peers envelope elapsed) calls, net.receive envelope)
      else none
  | .timeout server elapsed calls =>
      some (server, (net.machines server).iterate (peers.id server) ⟨none, elapsed⟩ calls, net)
  | .backup server => some (server, (net.machines server).backupElection, net)

/-- A step is the turn of one server, and what it sends is added to what is on its way. -/
def step (peers : Peers n) (net : Network n) (action : Action n) : Option (Network n) :=
  (net.turn peers action).map fun (server, result, net) => net.after peers server result

/-! ## What a step can do -/

section Step

variable {peers : Peers n} {net net' : Network n} {server : Fin n}
  {result : Machine × List Output} {envelope : Envelope n} {action : Action n}

/-- A machine that has not entered the loop does not coordinate. -/
def Idle (net : Network n) : Prop :=
  ∀ server, (net.machines server).state = .init → (net.machines server).isCoordinator = false

/-- The ways of a step: a server acts by itself, or it receives a message that is no
announcement of another server, or it takes such an announcement in, or it has not
begun and lets the announcement pass. -/
inductive Step (peers : Peers n) (net : Network n) : Action n → Network n → Prop
  | own {action : Action n} {server : Fin n} {result : Machine × List Output}
      (turn : (net.machines server).Quiet result ∨ Machine.Announced result) :
      Step peers net action (net.after peers server result)
  | passed {envelope : Envelope n} {elapsed : ℤ} {calls : ℕ} {result : Machine × List Output}
      (sent : envelope ∈ net.pool)
      (other : envelope.message = .coordAnnouncement → envelope.sender = envelope.receiver)
      (turn : (net.machines envelope.receiver).Quiet result ∨ Machine.Announced result) :
      Step peers net (.deliver envelope elapsed calls)
        ((net.receive envelope).after peers envelope.receiver result)
  | adopted {envelope : Envelope n} {elapsed : ℤ} {calls : ℕ} {result : Machine × List Output}
      (sent : envelope ∈ net.pool) (takesIn : net.TakesIn envelope)
      (turn : Machine.Adopted (peers.address envelope.sender) result) :
      Step peers net (.deliver envelope elapsed calls)
        ((net.receive envelope).after peers envelope.receiver result)
  | swallowed {envelope : Envelope n} {elapsed : ℤ} {calls : ℕ} {result : Machine × List Output}
      (sent : envelope ∈ net.pool)
      (announcement : envelope.message = .coordAnnouncement ∧ envelope.sender ≠ envelope.receiver)
      (init : (net.machines envelope.receiver).state = .init)
      (turn : (net.machines envelope.receiver).Quiet result) :
      Step peers net (.deliver envelope elapsed calls)
        ((net.receive envelope).after peers envelope.receiver result)

/-- The reader of announcements on a message of the network. -/
theorem isValidCoordAnnouncement_input (peers : Peers n) (envelope : Envelope n) (elapsed : ℤ) :
    isValidCoordAnnouncement (peers.id envelope.receiver)
        (.of ((input peers envelope elapsed).datagram.map Prod.snd))
      = if envelope.message = .coordAnnouncement ∧ envelope.sender ≠ envelope.receiver
        then some (peers.id envelope.sender) else none := by
  have htag : envelope.message.tag = "CRD".toList ↔ envelope.message = .coordAnnouncement := by
    cases envelope.message <;> decide
  show isValid "CRD".toList _ (.of (some (envelope.message.text (peers.id envelope.sender)))) = _
  rw [isValid_text]
  simp only [htag, peers.distinct.ne_iff]

/-- A message that is received was on its way. -/
theorem step_deliver {elapsed : ℤ} {calls : ℕ}
    (taken : net.step peers (.deliver envelope elapsed calls) = some net') :
    envelope ∈ net.pool ∧ net' = (net.receive envelope).after peers envelope.receiver
      ((net.machines envelope.receiver).iterate (peers.id envelope.receiver)
        (input peers envelope elapsed) calls) := by
  by_cases hsent : envelope ∈ net.pool
  · rw [step, turn, if_pos hsent] at taken
    exact ⟨hsent, (Option.some.inj taken).symm⟩
  · rw [step, turn, if_neg hsent] at taken
    cases taken

/-- Every step is one of these. -/
theorem step_cases (hidle : net.Idle)
    (taken : net.step peers action = some net') : Step peers net action net' := by
  cases action with
  | deliver envelope elapsed calls =>
      obtain ⟨hsent, rfl⟩ := step_deliver taken
      have hvalid := isValidCoordAnnouncement_input peers envelope elapsed
      have hsource : isLoopback
          ((net.machines envelope.receiver).receive (input peers envelope elapsed)).ssCliaddr
            = false := peers.notLoopback envelope.sender
      by_cases hannouncement :
          envelope.message = .coordAnnouncement ∧ envelope.sender ≠ envelope.receiver
      · rw [if_pos hannouncement] at hvalid
        by_cases hinit : (net.machines envelope.receiver).state = .init
        · exact .swallowed hsent hannouncement hinit
            (Machine.iterate_init hinit (hidle _ hinit))
        · exact .adopted hsent ⟨hannouncement.1, hannouncement.2, hinit⟩
            (Machine.iterate_adopted hinit hsource hvalid)
      · rw [if_neg hannouncement] at hvalid
        refine .passed hsent (fun hmessage => ?_)
          (Machine.iterate_quiet_or_announced (hidle _) hvalid)
        by_contra hne
        exact hannouncement ⟨hmessage, hne⟩
  | timeout server elapsed calls =>
      cases taken
      exact .own (Machine.iterate_quiet_or_announced (hidle server) (isValid_none _ _))
  | backup server =>
      cases taken
      exact .own (Or.inl (Machine.backupElections_quiet 1 (net.machines server)).1)

/-! ## What is on its way -/

/-- What was on its way and is not received is still on its way. -/
theorem mem_receive {other : Envelope n} (hmem : other ∈ net.pool) (hne : other ≠ envelope) :
    other ∈ (net.receive envelope).pool :=
  (List.mem_erase_of_ne hne).mpr hmem

/-- Nothing is added by a reception. -/
theorem mem_of_mem_receive {other : Envelope n} (hmem : other ∈ (net.receive envelope).pool) :
    other ∈ net.pool :=
  List.mem_of_mem_erase hmem

/-- What holds of the machine that has moved, and of the others as they are. -/
theorem forall_after {P : Fin n → Machine → Prop} (hself : P server result.1)
    (hothers : ∀ other, other ≠ server → P other (net.machines other)) (other : Fin n) :
    P other ((net.after peers server result).machines other) :=
  (Function.forall_update_iff net.machines P).mpr ⟨hself, hothers⟩ other

/-- The machine that has moved. -/
theorem after_machines_self : (net.after peers server result).machines server = result.1 :=
  Function.update_self ..

/-- The others have not. -/
theorem after_machines_of_ne {other : Fin n} (hne : other ≠ server) :
    (net.after peers server result).machines other = net.machines other :=
  Function.update_of_ne hne ..

/-- What is on its way stays on its way while somebody moves. -/
theorem mem_after {other : Envelope n} (hmem : other ∈ net.pool) :
    other ∈ (net.after peers server result).pool :=
  List.mem_append_right _ hmem

/-- An announcement is on its way to everybody, under the next number. -/
theorem announcement_mem_after (hspoken : .broadcast .coordAnnouncement ∈ result.2)
    (receiver : Fin n) :
    ⟨server, receiver, .coordAnnouncement, net.announced.length + 1⟩
      ∈ (net.after peers server result).pool := by
  apply List.mem_append_left
  rw [if_pos hspoken, List.mem_flatMap]
  exact ⟨_, hspoken, List.mem_map.mpr ⟨receiver, List.mem_finRange receiver, rfl⟩⟩

/-- An announcement on its way was there before, or has just been made. -/
theorem mem_after_cases {other : Envelope n}
    (hmem : other ∈ (net.after peers server result).pool)
    (hmessage : other.message = .coordAnnouncement) :
    other ∈ net.pool ∨ .broadcast .coordAnnouncement ∈ result.2 ∧ other.sender = server ∧
      other.stamp = net.announced.length + 1 := by
  rcases List.mem_append.mp hmem with hnew | hold
  · obtain ⟨output, houtput, hmem⟩ := List.mem_flatMap.mp hnew
    cases output with
    | broadcast message =>
        obtain ⟨receiver, -, rfl⟩ := List.mem_map.mp hmem
        cases hmessage
        rw [if_pos houtput]
        exact Or.inr ⟨houtput, rfl, rfl⟩
    | answerBack dest =>
        obtain ⟨receiver, -, rfl⟩ := List.mem_map.mp hmem
        cases hmessage
    | update => cases hmem
  · exact Or.inl hold

/-- It is enough to look at the machine that has moved. -/
theorem Idle.after (hidle : net.Idle) {base : Network n} (hmachines : base.machines = net.machines)
    (hturn : result.1.state = .init → result.1.isCoordinator = false) :
    (base.after peers server result).Idle :=
  forall_after (P := fun _ m => m.state = .init → m.isCoordinator = false) hturn
    fun other _ => hmachines ▸ hidle other

/-- A turn that is quiet or ends with an announcement keeps a machine idle. -/
theorem Idle.turn (hidle : net.Idle)
    (hturn : (net.machines server).Quiet result ∨ Machine.Announced result)
    (hstate : result.1.state = .init) : result.1.isCoordinator = false := by
  rcases hturn with hquiet | hannounced
  · exact hquiet.role.trans (hidle server (hquiet.begun hstate))
  · exact nomatch hstate.symm.trans hannounced.settled

/-- No turn leads back to `INIT`. -/
theorem Idle.step (hidle : net.Idle) (step : Step peers net action net') : net'.Idle := by
  cases step with
  | own turn => exact hidle.after rfl (hidle.turn turn)
  | passed sent other turn => exact hidle.after rfl (hidle.turn turn)
  | adopted sent takesIn turn => exact hidle.after rfl fun _ => turn.role
  | swallowed sent announcement init turn => exact hidle.after rfl (hidle.turn (Or.inl turn))

/-! ## Two coordinators -/

/-- An announcement of `a` has not reached `b`. -/
def Announcing (net : Network n) (a b : Fin n) : Prop :=
  ∃ envelope ∈ net.pool, envelope.message = .coordAnnouncement ∧ envelope.sender = a ∧
    envelope.receiver = b

/-- Of two coordinators one has not heard of the other. -/
def Crossing (net : Network n) : Prop :=
  ∀ a b, a ≠ b → (net.machines a).isCoordinator = true → (net.machines b).isCoordinator = true →
    net.Announcing a b ∨ net.Announcing b a

/-- A server's step keeps this if it becomes coordinator with an announcement only, and
no announcement is lost that concerns a coordinator. -/
theorem Crossing.after (h : net.Crossing) {base : Network n}
    (hmachines : base.machines = net.machines)
    (hkept : ∀ envelope ∈ net.pool, envelope.message = .coordAnnouncement →
      envelope.sender ≠ envelope.receiver →
      ((base.after peers server result).machines envelope.receiver).isCoordinator = true →
      envelope ∈ base.pool)
    (hrole : result.1.isCoordinator = true →
      (net.machines server).isCoordinator = true ∨ .broadcast .coordAnnouncement ∈ result.2) :
    (base.after peers server result).Crossing := by
  intro a b hne ha hb
  -- whoever coordinates now did so before, or has just said so
  have hbefore : ∀ c, ((base.after peers server result).machines c).isCoordinator = true →
      (net.machines c).isCoordinator = true ∨
        c = server ∧ .broadcast .coordAnnouncement ∈ result.2 := by
    intro c hc
    by_cases hserver : c = server
    · subst hserver
      rw [after_machines_self] at hc
      exact (hrole hc).imp_right fun hspoken => ⟨rfl, hspoken⟩
    · rw [after_machines_of_ne hserver, hmachines] at hc
      exact Or.inl hc
  rcases hbefore a ha with ha' | ⟨rfl, hspoken⟩
  · rcases hbefore b hb with hb' | ⟨rfl, hspoken⟩
    · rcases h a b hne ha' hb' with ⟨envelope, hmem, hmessage, rfl, rfl⟩ |
        ⟨envelope, hmem, hmessage, rfl, rfl⟩
      · exact Or.inl ⟨envelope, mem_after (hkept envelope hmem hmessage hne hb), hmessage, rfl, rfl⟩
      · exact Or.inr ⟨envelope, mem_after (hkept envelope hmem hmessage hne.symm ha), hmessage,
          rfl, rfl⟩
    · exact Or.inr ⟨_, announcement_mem_after hspoken a, rfl, rfl, rfl⟩
  · exact Or.inl ⟨_, announcement_mem_after hspoken b, rfl, rfl, rfl⟩

/-- One step.

An announcement of another server is taken in, or passed by a server that has not begun; in both
cases the receiver is no coordinator afterwards. -/
theorem Crossing.step (h : net.Crossing) (hidle : net.Idle) (step : Step peers net action net') :
    net'.Crossing := by
  have hrole : ∀ {server : Fin n} {result : Machine × List Output},
      (net.machines server).Quiet result ∨ Machine.Announced result →
      result.1.isCoordinator = true → (net.machines server).isCoordinator = true ∨
        .broadcast .coordAnnouncement ∈ result.2 :=
    fun turn hresult => turn.imp (fun hquiet => hquiet.role.symm.trans hresult) (·.spoken)
  cases step with
  | own turn => exact h.after rfl (fun _ hmem _ _ _ => hmem) (hrole turn)
  | passed sent other turn =>
      refine h.after rfl (fun envelope hmem hmessage hne _ => mem_receive hmem ?_) (hrole turn)
      rintro rfl
      exact hne (other hmessage)
  | adopted sent takesIn turn =>
      refine h.after rfl (fun envelope hmem hmessage hne hreceiver => mem_receive hmem ?_)
        fun hresult => nomatch hresult.symm.trans turn.role
      -- the receiver of the announcement has stood down
      rintro rfl
      rw [after_machines_self, turn.role] at hreceiver
      cases hreceiver
  | swallowed sent announcement init turn =>
      refine h.after rfl (fun envelope hmem hmessage hne hreceiver => mem_receive hmem ?_)
        (hrole (Or.inl turn))
      -- the receiver has never coordinated
      rintro rfl
      rw [after_machines_self, turn.role, hidle _ init] at hreceiver
      cases hreceiver

end Step

open Execution

/-- **Two coordinators are about to be one.**  Whatever the servers do and in whatever
order their messages arrive, of two servers that coordinate at the same time one has
not received an announcement of the other yet.  Once no announcement is on its way
there is one coordinator at most.

`Crossing` is the first half of the statement itself, and it is an invariant because a server that
becomes coordinator announces itself to everybody in the same turn, and one that takes in an
announcement is coordinator no longer. -/
theorem coordinators_announced {peers : Peers n} {coordinatorIp : Fin n → InAddr}
    {lastReceivedId : Fin n → UInt32} {actions : List (Action n)} {net : Network n}
    (run : Runs (step peers) Always (start coordinatorIp lastReceivedId) actions net) :
    (∀ a b, a ≠ b → (net.machines a).isCoordinator = true →
      (net.machines b).isCoordinator = true → net.Announcing a b ∨ net.Announcing b a) ∧
    ((∀ envelope ∈ net.pool, envelope.message ≠ .coordAnnouncement) →
      ∀ a b, (net.machines a).isCoordinator = true → (net.machines b).isCoordinator = true →
        a = b) := by
  have hinvariant : net.Idle ∧ net.Crossing := by
    refine run.invariant (fun net => net.Idle ∧ net.Crossing) ⟨fun _ _ => rfl, ?_⟩ ?_
    · intro a b _ ha
      cases ha
    · intro net action net' h _ taken
      have hstep := step_cases h.1 taken
      exact ⟨h.1.step hstep, h.2.step h.1 hstep⟩
  refine ⟨hinvariant.2, fun hnone a b ha hb => ?_⟩
  by_contra hne
  rcases hinvariant.2 a b hne ha hb with ⟨envelope, hmem, hmessage, -⟩ |
    ⟨envelope, hmem, hmessage, -⟩
  · exact hnone envelope hmem hmessage
  · exact hnone envelope hmem hmessage

/-! ## Two servers -/

/-- `0` and `1` name a server. -/
scoped instance neZeroTwo : NeZero 2 := ⟨by decide⟩

/-- The servers `10.0.0.1` and `10.0.0.2`, whose ids are read off their addresses. -/
def twoPeers : Peers 2 where
  id server := ntohl (if server = 0 then 0x0100000a else 0x0200000a)
  address server := if server = 0 then 0x0100000a else 0x0200000a
  distinct := by decide
  notLoopback := by decide

/-- They have just been started. -/
def twoServers : Network 2 := start (fun _ => 0) (fun _ => 0)

/-- Both enter an election, hear nothing for a while and announce themselves. -/
def bothAnnounce : List (Action 2) :=
  [.timeout 0 0 0, .timeout 1 0 0, .timeout 0 200 0, .timeout 1 200 0]

/-- Neither has heard of the other, and both coordinate. -/
theorem bothAnnounce_crossing : ∃ net,
    perform (step twoPeers) twoServers bothAnnounce = some net ∧
      (net.Announcing 0 1 ∨ net.Announcing 1 0) := by
  have hrun : (perform (step twoPeers) twoServers bothAnnounce).any
      (fun net => (net.machines 0).isCoordinator && (net.machines 1).isCoordinator) = true := by
    decide
  obtain ⟨net, hnet, hboth⟩ := (Option.any_eq_true ..).mp hrun
  obtain ⟨hfirst, hsecond⟩ := Bool.and_eq_true_iff.mp hboth
  exact ⟨net, hnet, (coordinators_announced (runs_of_perform hnet)).1 0 1 (by decide) hfirst
    hsecond⟩

end Network

end Election

end Brix
