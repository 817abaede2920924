import Brix.Client.ServerAddress
import Brix.System.Bootstrap
import Brix.System.Bystanders
import Brix.System.Process

/-!
# Who is registered where

A coordinator registers everybody who looks for a server, a KIL packet removes its sender, and a
snapshot replaces everything.  The threads that do so interleave as in `Server.step`.

`Lan` is several servers and one client that looks for them.  A server that the client finds has
answered it, and has registered it before that, although not in the same breath:
`server_discovery_service` registers the client, takes a snapshot and answers, and between any two
of these a handler may remove the client and `listen_for_updates` may load a ledger that does not
have it.  `located_server_knows_client` says that nothing else can go wrong.

### What is load-bearing

`marks` is a history variable: what has been said about the client since the server was started.
The client is registered exactly if the last mark says so (`Enrolment.Sound.current`), and that
alone would do if an answer were sent in the step that registers.  It is not, and so there is a
second one: `registration` holds the marks as they were when the discovery service had last
registered the client.  An answer that is on its way is one for that registration
(`Enrolment.Sound.answering`), because the discovery service takes up no other request in between;
and whatever the marks have become since comes after it (`Enrolment.Sound.earlier`).

### The design

A server and a client's marks are one state (`Enrolment`), and several of them with the answers
that they have sent are another one (`Lan`).  The step of a server says nothing of marks:
`Server.marksOf` reads them off the step, so a run of servers with marks is a run of servers.  The
client is in none of these.  What it does is a function of the datagrams that arrive, and the
theorem asks of them only that they are answers of these servers, each as late and as often as the
network likes.
-/

namespace Brix

open Text Execution

/-- What a step says about a client. -/
inductive Mark
  | entered
  | struck
  deriving DecidableEq

/-! ## A thread -/

namespace Thread

/-- The marks that a thread's next step makes. -/
def marks (clientIp : InAddr) : Thread → List Mark
  | .greeting ip => if ip = clientIp then [.entered] else []
  | .killing params => if params.senderIp = clientIp then [.struck] else []
  | _ => []

/-- A thread of the discovery service, which sends nothing but the one answer. -/
def Greets (loc : Text) : Thread → Prop
  | .asked _ => True
  | .greeting _ => True
  | .closing chores _ => ∀ dest text, .send dest text ∈ chores → text = loc
  | _ => False

/-- The thread is yet to answer the client. -/
def Answers (clientIp : InAddr) : Thread → Prop
  | .closing chores _ => ∃ text, .send clientIp text ∈ chores
  | _ => False

section Step

variable {isCoordinator : Bool} {params : KillParams} {loc : Text} {clientIp : InAddr}
  {shared shared' : Shared} {thread thread' : Thread}

/-- Requests neither register anybody nor remove anybody. -/
theorem mem_phase_step {senderIp : InAddr} {packet : ReqPacket} {phase phase' : Phase}
    {ledger ledger' : Ledger} (hstep : phase.step senderIp packet ledger = some (phase', ledger')) :
    clientIp ∈ ledger'.records ↔ clientIp ∈ ledger.records := by
  cases phase with
  | started =>
      cases hstep
      exact Iff.rfl
  | looked client =>
      cases hstep
      exact Iff.rfl
  | checked client status =>
      cases status with
      | valid =>
          cases hstep
          exact Ledger.mem_transfer
      | duplicate =>
          cases hstep
          exact Iff.rfl
      | outOfOrder =>
          cases hstep
          exact Iff.rfl
      | noClue =>
          cases hstep
          exact Iff.rfl
  | replied reply => cases hstep

/-- **One step of a thread.**  The client is registered afterwards if a mark says so, or was if
there is none. -/
theorem mem_step (hstep : thread.step isCoordinator params loc shared = some (thread', shared')) :
    clientIp ∈ shared'.ledger.records ↔ (thread.marks clientIp).getLast?.getD
      (if clientIp ∈ shared.ledger.records then .entered else .struck) = .entered := by
  cases thread with
  | request senderIp packet phase =>
      obtain ⟨⟨phase', ledger⟩, hphase, heq⟩ := Option.map_eq_some_iff.mp hstep
      cases heq
      rw [mem_phase_step hphase]
      simp [marks]
  | kill =>
      cases hstep
      simp [marks]
  | killing params =>
      cases hstep
      show clientIp ∈ (shared.ledger.remove params.senderIp).2.records ↔ _
      rw [marks]
      by_cases hsame : params.senderIp = clientIp
      · rw [if_pos hsame, ← hsame]
        refine iff_of_false ?_ nofun
        exact Finmap.lookup_eq_none.mp (shared.ledger.lookup_remove_self params.senderIp)
      · have hmem : clientIp ∈ (shared.ledger.remove params.senderIp).2.records ↔
            clientIp ∈ shared.ledger.records := by
          rw [Finmap.mem_iff, Finmap.mem_iff, Ledger.lookup_remove_of_ne (Ne.symm hsame)]
        rw [if_neg hsame, hmem]
        simp
  | asked ip =>
      cases hstep
      simp [marks]
  | greeting ip =>
      cases hstep
      show clientIp ∈ (shared.ledger.register ip).2.records ↔ _
      rw [Ledger.mem_register, marks]
      by_cases hsame : ip = clientIp
      · simp [hsame]
      · simp [hsame, Ne.symm hsame]
  | closing chores snapshot =>
      have hledger : shared'.ledger = shared.ledger := by
        cases chores with
        | nil => cases hstep
        | cons chore rest =>
            cases chore with
            | send dest text =>
                cases hstep
                rfl
            | snapshot =>
                cases hstep
                rfl
            | broadcast =>
                cases hstep
                rfl
      rw [hledger]
      simp [marks]

/-- A thread of the discovery service stays one. -/
theorem Greets.step (h : thread.Greets loc)
    (hstep : thread.step isCoordinator params loc shared = some (thread', shared')) :
    thread'.Greets loc := by
  cases thread with
  | asked ip =>
      cases hstep
      cases isCoordinator with
      | true => exact trivial
      | false => exact fun dest text hmem => absurd hmem List.not_mem_nil
  | greeting ip =>
      cases hstep
      intro dest text hmem
      simp only [List.mem_cons, Chore.send.injEq, reduceCtorEq, List.not_mem_nil, or_false,
        false_or] at hmem
      exact hmem.2
  | closing chores snapshot =>
      cases chores with
      | nil => cases hstep
      | cons chore rest =>
          have hrest : ∀ dest text, .send dest text ∈ rest → text = loc :=
            fun dest text hmem => h dest text (List.mem_cons_of_mem _ hmem)
          cases chore with
          | send dest text =>
              cases hstep
              exact hrest
          | snapshot =>
              cases hstep
              exact hrest
          | broadcast =>
              cases hstep
              exact hrest
  | request senderIp packet phase => exact h.elim
  | kill => exact h.elim
  | killing params => exact h.elim

/-- A thread of the discovery service that is to answer the client has been to before the step, or
has just registered it. -/
theorem Greets.answers_step (h : thread.Greets loc)
    (hstep : thread.step isCoordinator params loc shared = some (thread', shared'))
    (hanswers : thread'.Answers clientIp) :
    thread.Answers clientIp ∨ thread = .greeting clientIp := by
  cases thread with
  | asked ip =>
      cases hstep
      cases isCoordinator with
      | true => exact hanswers.elim
      | false =>
          obtain ⟨text, hmem⟩ := hanswers
          exact absurd hmem List.not_mem_nil
  -- the one turn that puts an answer among the chores
  | greeting ip =>
      cases hstep
      obtain ⟨text, hmem⟩ := hanswers
      simp only [List.mem_cons, Chore.send.injEq, reduceCtorEq, List.not_mem_nil, or_false,
        false_or] at hmem
      exact Or.inr (congrArg Thread.greeting hmem.1.symm)
  | closing chores snapshot =>
      cases chores with
      | nil => cases hstep
      | cons chore rest =>
          refine Or.inl ?_
          cases chore with
          | send dest text =>
              cases hstep
              obtain ⟨text', hmem⟩ := hanswers
              exact ⟨text', List.mem_cons_of_mem _ hmem⟩
          | snapshot =>
              cases hstep
              obtain ⟨text', hmem⟩ := hanswers
              exact ⟨text', List.mem_cons_of_mem _ hmem⟩
          | broadcast =>
              cases hstep
              obtain ⟨text', hmem⟩ := hanswers
              exact ⟨text', List.mem_cons_of_mem _ hmem⟩
  | request senderIp packet phase => exact h.elim
  | kill => exact h.elim
  | killing params => exact h.elim

end Step

end Thread

/-! ## One step of a server -/

namespace Server

/-- The marks of a step.  Only threads make any, and snapshots. -/
def marksOf (selfIp : Text) (clientIp : InAddr) (s : Server) : Action → List Mark
  | .thread place => ((s.threadAt place).map (Thread.marks clientIp)).getD []
  | .load src datagram =>
      if addrToString src ≠ selfIp then
        match DbSnapshot.fromString (inBuffer MAXLINE datagram) with
        | .ok snapshot => [if clientIp ∈ snapshot.records then .entered else .struck]
        | .error _ => []
      else []
  | .receive .. => []
  | .discover _ => []
  | .election .. => []
  | .backupElection => []

section Step

variable {id : UInt32} {selfIp loc : Text} {clientIp : InAddr} {s s' : Server} {action : Action}

/-- The ledger of a snapshot holds the clients of the snapshot. -/
theorem listenForUpdates_cases {src : InAddr} {datagram : Text} {ledger ledger' : Ledger}
    (h : ledger.listenForUpdates selfIp src datagram = .ok ledger') :
    (addrToString src = selfIp ∧ ledger' = ledger) ∨
      (addrToString src ≠ selfIp ∧ ∃ snapshot,
        DbSnapshot.fromString (inBuffer MAXLINE datagram) = .ok snapshot ∧
          ledger'.records = snapshot.records) := by
  unfold Ledger.listenForUpdates at h
  split at h
  · rename_i hsrc
    split at h
    · rename_i snapshot hsnapshot
      cases h
      exact Or.inr ⟨hsrc, snapshot, hsnapshot, rfl⟩
    · cases h
  · rename_i hsrc
    cases h
    exact Or.inl ⟨not_not.mp hsrc, rfl⟩

/-- **One step.**  A client is registered afterwards if its mark says so, or was if there is
none. -/
theorem mem_step (taken : s.step id selfIp loc action = some s') :
    clientIp ∈ s'.shared.ledger.records ↔
      (s.marksOf selfIp clientIp action).getLast?.getD
        (if clientIp ∈ s.shared.ledger.records then .entered else .struck) = .entered := by
  cases action with
  | thread place =>
      obtain ⟨thread, thread', shared, hthread, hstep, rfl⟩ := step_thread taken
      rw [setThread_shared, marksOf, hthread]
      exact Thread.mem_step hstep
  | load src datagram =>
      obtain ⟨ledger, hledger, rfl⟩ := step_load taken
      rw [marksOf]
      rcases listenForUpdates_cases hledger with ⟨hsrc, hsame⟩ | ⟨hsrc, snapshot, hsnapshot,
        hrecords⟩
      · rw [if_neg (not_not.mpr hsrc), hsame]
        simp
      · rw [if_pos hsrc, hsnapshot]
        show clientIp ∈ ledger.records ↔ _
        rw [hrecords]
        simp
  | receive senderIp datagram =>
      rcases dispatch_cases (step_receive.symm.trans taken) with rfl | ⟨packet, rfl⟩ |
        ⟨packet, rfl⟩
      · simp [marksOf]
      · simp [marksOf]
      · simp [marksOf]
  | discover ip =>
      obtain ⟨-, rfl⟩ := step_discover taken
      simp [marksOf]
  | election input calls =>
      obtain rfl := step_election taken
      rw [elect_ledger]
      simp [marksOf]
  | backupElection =>
      obtain rfl := step_backupElection taken
      simp [marksOf]

/-- What a step does to the discovery service: nothing, unless it is a request or the service's
own. -/
theorem greeter_step (taken : s.step id selfIp loc action = some s') :
    s'.greeter = s.greeter ∧ action ≠ .thread .greeter ∨
      (∃ ip, s'.greeter = .asked ip ∧ action ≠ .thread .greeter) ∨
      ∃ shared, action = .thread .greeter ∧
        s.greeter.step s.machine.isCoordinator s.params loc s.shared
          = some (s'.greeter, shared) := by
  cases action with
  | thread place =>
      obtain ⟨thread, thread', shared, hthread, hstep, rfl⟩ := step_thread taken
      cases place with
      | greeter =>
          cases hthread
          exact Or.inr (Or.inr ⟨shared, rfl, hstep⟩)
      | handler i => exact Or.inl ⟨rfl, nofun⟩
  | receive senderIp datagram =>
      rcases dispatch_cases (step_receive.symm.trans taken) with rfl | ⟨packet, rfl⟩ |
        ⟨packet, rfl⟩
      · exact Or.inl ⟨rfl, nofun⟩
      · exact Or.inl ⟨rfl, nofun⟩
      · exact Or.inl ⟨rfl, nofun⟩
  | discover ip =>
      obtain ⟨-, rfl⟩ := step_discover taken
      exact Or.inr (Or.inl ⟨ip, rfl, nofun⟩)
  | load src datagram =>
      obtain ⟨ledger, -, rfl⟩ := step_load taken
      exact Or.inl ⟨rfl, nofun⟩
  | election input calls =>
      obtain rfl := step_election taken
      exact Or.inl ⟨elect_greeter _ _, nofun⟩
  | backupElection =>
      obtain rfl := step_backupElection taken
      exact Or.inl ⟨rfl, nofun⟩

end Step

end Server

/-! ## What a client is told -/

/-- The client is turned away only by a transaction that has not found it. -/
theorem transactionReply_unknown_iff (senderIp : InAddr) (packet : ReqPacket)
    (result : DbRecordResponse) :
    (transactionReply senderIp packet result).result = "SENDER_NOT_REGISTERED".toList ↔
      result.statusCode = .unknownSender := by
  unfold transactionReply
  cases result.statusCode <;> simp

/-- A transfer says that it does not know the sender of nobody else. -/
theorem Ledger.transfer_unknownSender_iff {ledger : Ledger} {senderIp receiverIp : InAddr}
    {amount : UInt64} :
    (ledger.transfer senderIp receiverIp amount).1.statusCode = .unknownSender ↔
      senderIp ∉ ledger.records := by
  rw [← Finmap.lookup_eq_none]
  constructor
  · intro hunknown
    by_contra hlookup
    obtain ⟨sender, hsender⟩ := Option.ne_none_iff_exists'.mp hlookup
    by_cases hzero : amount = 0
    · rw [hzero, transfer_balanceCheck hsender] at hunknown
      cases hunknown
    by_cases hself : senderIp = receiverIp
    · rw [← hself, transfer_self hsender hzero] at hunknown
      cases hunknown
    cases hreceiver : ledger.records.lookup receiverIp with
    | none =>
        rw [transfer_unknownReceiver hsender hzero hself hreceiver] at hunknown
        cases hunknown
    | some receiver =>
        by_cases hshort : sender.balance < amount
        · rw [transfer_insufficient hsender hself hreceiver hshort] at hunknown
          cases hunknown
        · rw [transfer_success hsender hzero hself hreceiver hshort] at hunknown
          cases hunknown
  · intro hlookup
    rw [transfer_unknownSender hlookup]

/-- Who is answered `SENDER_NOT_REGISTERED` is not registered at that moment. -/
theorem notMem_of_senderNotRegistered {senderIp : InAddr} {packet : ReqPacket} {phase : Phase}
    {ledger ledger' : Ledger} {reply : AckPacket}
    (hstep : phase.step senderIp packet ledger = some (.replied reply, ledger'))
    (hreply : reply.result = "SENDER_NOT_REGISTERED".toList) : senderIp ∉ ledger.records := by
  cases phase with
  | started => cases hstep
  | looked client => cases hstep
  | checked client status =>
      cases status with
      | valid =>
          cases hstep
          exact Ledger.transfer_unknownSender_iff.mp
            ((transactionReply_unknown_iff senderIp packet _).mp hreply)
      | duplicate =>
          cases hstep
          exact absurd hreply (show "DUPLICATE".toList ≠ "SENDER_NOT_REGISTERED".toList by decide)
      | outOfOrder =>
          cases hstep
          exact absurd hreply
            (show "OUT_OF_ORDER".toList ≠ "SENDER_NOT_REGISTERED".toList by decide)
      | noClue =>
          cases hstep
          exact absurd hreply
            (show "SERVER_ERRROR".toList ≠ "SENDER_NOT_REGISTERED".toList by decide)
  | replied reply => cases hstep

/-! ## A server over time -/

/-- A server, the marks of a client so far, and those there were when the discovery service had
last registered the client. -/
structure Enrolment where
  server : Server
  marks : List Mark
  registration : List Mark

namespace Enrolment

/-- A server that has just been started. -/
def start (coordinatorIp : InAddr) (lastReceivedId : UInt32) (stack : KillParams) : Enrolment :=
  ⟨.start coordinatorIp lastReceivedId stack, [], []⟩

/-- The discovery service is about to register the client. -/
def Registers (clientIp : InAddr) (e : Enrolment) : Server.Action → Prop
  | .thread .greeter => e.server.greeter.marks clientIp = [.entered]
  | _ => False

instance (clientIp : InAddr) (e : Enrolment) : DecidablePred (e.Registers clientIp)
  | .thread .greeter => inferInstanceAs (Decidable (_ = _))
  | .thread (.handler _) => inferInstanceAs (Decidable False)
  | .receive .. => inferInstanceAs (Decidable False)
  | .discover _ => inferInstanceAs (Decidable False)
  | .load .. => inferInstanceAs (Decidable False)
  | .election .. => inferInstanceAs (Decidable False)
  | .backupElection => inferInstanceAs (Decidable False)

/-- A step of the server, and what it says about the client. -/
def step (id : UInt32) (selfIp loc : Text) (clientIp : InAddr) (e : Enrolment)
    (action : Server.Action) : Option Enrolment :=
  (e.server.step id selfIp loc action).map fun server =>
    let marks := e.marks ++ e.server.marksOf selfIp clientIp action
    ⟨server, marks, if e.Registers clientIp action then marks else e.registration⟩

/-- The ledger says what the marks say, and the discovery service answers nobody that it has not
registered. -/
structure Sound (loc : Text) (clientIp : InAddr) (e : Enrolment) : Prop where
  current : clientIp ∈ e.server.shared.ledger.records ↔ e.marks.getLast? = some .entered
  earlier : e.registration <+: e.marks
  greets : e.server.greeter.Greets loc
  answering : e.server.greeter.Answers clientIp → ∃ before, e.registration = before ++ [.entered]

variable {id : UInt32} {selfIp loc : Text} {clientIp : InAddr} {e e' : Enrolment}
  {action : Server.Action}

/-- Nobody is registered yet, and nobody is answered. -/
theorem sound_start (loc : Text) (clientIp coordinatorIp : InAddr) (lastReceivedId : UInt32)
    (stack : KillParams) : (start coordinatorIp lastReceivedId stack).Sound loc clientIp where
  current := iff_of_false Finmap.notMem_empty nofun
  earlier := List.prefix_refl []
  greets _ _ hmem := absurd hmem List.not_mem_nil
  answering := fun ⟨_, hmem⟩ => absurd hmem List.not_mem_nil

/-- One step keeps the ledger and the marks together. -/
theorem Sound.current_step (h : e.Sound loc clientIp) {server : Server}
    (taken : e.server.step id selfIp loc action = some server) :
    clientIp ∈ server.shared.ledger.records ↔
      (e.marks ++ e.server.marksOf selfIp clientIp action).getLast? = some .entered := by
  rw [Server.mem_step taken, List.getLast?_append]
  cases hnew : (e.server.marksOf selfIp clientIp action).getLast? with
  | some mark => simp
  | none =>
      rw [Option.getD_none, Option.none_or]
      by_cases hmem : clientIp ∈ e.server.shared.ledger.records
      · rw [if_pos hmem]
        exact iff_of_true rfl (h.current.mp hmem)
      · rw [if_neg hmem]
        exact iff_of_false nofun (mt h.current.mpr hmem)

/-- **One step.** -/
theorem Sound.step (h : e.Sound loc clientIp)
    (taken : e.step id selfIp loc clientIp action = some e') : e'.Sound loc clientIp := by
  obtain ⟨server, hserver, rfl⟩ := Option.map_eq_some_iff.mp taken
  have hearlier : (if e.Registers clientIp action then
      e.marks ++ e.server.marksOf selfIp clientIp action else e.registration)
        <+: e.marks ++ e.server.marksOf selfIp clientIp action := by
    split
    · exact List.prefix_refl _
    · exact h.earlier.trans (List.prefix_append _ _)
  refine ⟨h.current_step hserver, hearlier, ?_, fun hanswers => ?_⟩
  · rcases Server.greeter_step hserver with ⟨hsame, -⟩ | ⟨ip, hasked, -⟩ | ⟨shared, -, hstep⟩
    · exact hsame ▸ h.greets
    · show server.greeter.Greets loc
      rw [hasked]
      exact trivial
    · exact h.greets.step hstep
  · change server.greeter.Answers clientIp at hanswers
    show ∃ before, (if e.Registers clientIp action then _ else e.registration) = _
    rcases Server.greeter_step hserver with ⟨hsame, hother⟩ | ⟨ip, hasked, -⟩ |
      ⟨shared, rfl, hstep⟩
    · have hregisters : ¬ e.Registers clientIp action := by
        intro hregisters
        cases action with
        | thread place =>
            cases place with
            | greeter => exact hother rfl
            | handler i => exact hregisters.elim
        | receive senderIp datagram => exact hregisters.elim
        | discover ip => exact hregisters.elim
        | load src datagram => exact hregisters.elim
        | election input calls => exact hregisters.elim
        | backupElection => exact hregisters.elim
      rw [if_neg hregisters]
      exact h.answering (hsame ▸ hanswers)
    · rw [hasked] at hanswers
      exact hanswers.elim
    · split
      · rename_i hregisters
        exact ⟨e.marks, congrArg (e.marks ++ ·) hregisters⟩
      · rename_i hregisters
        rcases h.greets.answers_step hstep hanswers with hbefore | hgreeting
        · exact h.answering hbefore
        · exact absurd (show e.server.greeter.marks clientIp = [.entered] by
            rw [hgreeting, Thread.marks, if_pos rfl]) hregisters

/-- A registered client that has not been struck since is still registered. -/
theorem Sound.mem_of_append (h : e.Sound loc clientIp) {before after : List Mark}
    (hmarks : e.marks = before ++ .entered :: after) (hstruck : .struck ∉ after) :
    clientIp ∈ e.server.shared.ledger.records := by
  refine h.current.mpr ?_
  have hentered : ∀ mark ∈ after, mark = .entered := by
    intro mark hmem
    cases mark with
    | entered => rfl
    | struck => exact absurd hmem hstruck
  rw [hmarks, List.getLast?_append_cons, List.getLast?_cons, Option.some.injEq]
  cases hlast : after.getLast? with
  | none => rfl
  | some mark => exact hentered mark (List.mem_of_getLast? hlast)

end Enrolment

/-! ## Servers, and a client that looks for one -/

/-- Servers that `main` has started. -/
structure Installation (n : ℕ) where
  id : Fin n → UInt32
  address : Fin n → InAddr
  argument : Fin n → Text
  port : Fin n → Int32
  accepted : ∀ server, serverPort (argument server) = .ok (some (port server))
  /-- What is on the stack of `packet_multiplexer`. -/
  stack : Fin n → KillParams

/-- What a server's discovery service answers. -/
def Installation.loc {n : ℕ} (setup : Installation n) (server : Fin n) : Text :=
  locReply (setup.address server) (setup.port server)

/-- An answer to the client, and the marks there were when it was registered for it. -/
structure Greeting (n : ℕ) where
  server : Fin n
  text : Text
  seen : List Mark

/-- The servers, and all that their discovery services have answered the client. -/
structure Lan (n : ℕ) where
  sites : Fin n → Enrolment
  replies : List (Greeting n)

namespace Lan

variable {n : ℕ}

/-- All servers have just been started. -/
def start (setup : Installation n) (coordinatorIp : Fin n → InAddr)
    (lastReceivedId : Fin n → UInt32) : Lan n where
  sites server := .start (coordinatorIp server) (lastReceivedId server) (setup.stack server)
  replies := []

/-- What a server answers the client in a step. -/
def repliesTo (clientIp : InAddr) (server : Fin n) (site : Enrolment) :
    Server.Action → List (Greeting n)
  | .thread .greeter =>
      match site.server.greeter with
      | .closing (.send dest text :: _) _ =>
          if dest = clientIp then [⟨server, text, site.registration⟩] else []
      | _ => []
  | _ => []

/-- A step at one of the servers. -/
def step (setup : Installation n) (clientIp : InAddr) (lan : Lan n)
    (action : Fin n × Server.Action) : Option (Lan n) :=
  let (server, action) := action
  let site := lan.sites server
  (site.step (setup.id server) (addrToString (setup.address server)) (setup.loc server) clientIp
    action).map fun site' =>
      { sites := Function.update lan.sites server site'
        replies := lan.replies ++ repliesTo clientIp server site action }

/-- An answer is its server's, and the client had been registered for it. -/
structure Genuine (setup : Installation n) (lan : Lan n) (reply : Greeting n) : Prop where
  text : reply.text = setup.loc reply.server
  entered : ∃ before, reply.seen = before ++ [.entered]
  earlier : reply.seen <+: (lan.sites reply.server).marks

/-- The servers are sound, and all answers are genuine. -/
structure Sound (setup : Installation n) (clientIp : InAddr) (lan : Lan n) : Prop where
  sites : ∀ server, (lan.sites server).Sound (setup.loc server) clientIp
  replies : ∀ reply ∈ lan.replies, lan.Genuine setup reply

section Steps

variable {setup : Installation n} {clientIp : InAddr} {lan lan' : Lan n}
  {action : Fin n × Server.Action} {server : Fin n} {site : Enrolment} {reply : Greeting n}

/-- At the start there is no answer. -/
theorem sound_start (coordinatorIp : Fin n → InAddr) (lastReceivedId : Fin n → UInt32) :
    (start setup coordinatorIp lastReceivedId).Sound setup clientIp where
  sites _ := Enrolment.sound_start _ _ _ _ _
  replies _ hmem := absurd hmem List.not_mem_nil

/-- A new answer. -/
theorem mem_repliesTo {act : Server.Action} (h : site.Sound (setup.loc server) clientIp)
    (hmem : reply ∈ repliesTo clientIp server site act) :
    reply.server = server ∧ reply.text = setup.loc server ∧
      (∃ before, reply.seen = before ++ [.entered]) ∧ reply.seen <+: site.marks := by
  unfold repliesTo at hmem
  split at hmem
  · split at hmem
    · rename_i dest text rest snapshot hgreeter
      rw [List.mem_ite_nil_right] at hmem
      obtain ⟨rfl, hmem⟩ := hmem
      obtain rfl := List.mem_singleton.mp hmem
      have hgreets := h.greets
      have hanswering := h.answering
      rw [hgreeter] at hgreets hanswering
      exact ⟨rfl, hgreets dest text List.mem_cons_self,
        hanswering ⟨text, List.mem_cons_self⟩, h.earlier⟩
    · exact absurd hmem List.not_mem_nil
  · exact absurd hmem List.not_mem_nil

/-- **One step at one of the servers.** -/
theorem Sound.step (h : lan.Sound setup clientIp)
    (taken : lan.step setup clientIp action = some lan') : lan'.Sound setup clientIp := by
  obtain ⟨server, act⟩ := action
  obtain ⟨site', hsite', rfl⟩ := Option.map_eq_some_iff.mp taken
  -- marks are only ever added
  have hmarks : (lan.sites server).marks <+: site'.marks := by
    obtain ⟨_, -, rfl⟩ := Option.map_eq_some_iff.mp hsite'
    exact List.prefix_append _ _
  have hlater : ∀ other, (lan.sites other).marks
      <+: (Function.update lan.sites server site' other).marks := by
    intro other
    by_cases hother : other = server
    · subst hother
      rw [Function.update_self]
      exact hmarks
    · rw [Function.update_of_ne hother]
  constructor
  · intro other
    by_cases hother : other = server
    · subst hother
      show (Function.update lan.sites other site' other).Sound (setup.loc other) clientIp
      rw [Function.update_self]
      exact (h.sites other).step hsite'
    · show (Function.update lan.sites server site' other).Sound (setup.loc other) clientIp
      rw [Function.update_of_ne hother]
      exact h.sites other
  · intro reply hmem
    rcases List.mem_append.mp hmem with hold | hnew
    · obtain ⟨htext, hentered, hearlier⟩ := h.replies reply hold
      exact ⟨htext, hentered, hearlier.trans (hlater reply.server)⟩
    · obtain ⟨hserver, htext, hentered, hearlier⟩ := mem_repliesTo (h.sites server) hnew
      refine ⟨hserver ▸ htext, hentered, ?_⟩
      rw [← hserver] at hearlier
      exact hearlier.trans (hlater reply.server)

end Steps

end Lan

/-! ## What the client finds -/

/-- A server's answer fits the client's buffer. -/
theorem inBuffer_locReply {selfIp : InAddr} {port : Int32} (hlow : 0 ≤ port.toInt)
    (hhigh : port.toInt ≤ 65535) :
    inBuffer Discovery.MAXLINE (locReply selfIp port) = locReply selfIp port := by
  have hdigits : (showNat (port.toInt.toNat + 1)).length ≤ 5 :=
    length_showNat_le (by decide) (by omega)
  have hip := length_addrToString_le selfIp
  have hnul : '\x00' ∉ showNat (port.toInt.toNat + 1) := notMem_showNat (by decide) _
  refine inBuffer_of_length_le ?_ ?_
  · rw [locReply, serverDiscoveryReply, (showInt_requestsPort hlow hhigh).2]
    generalize showNat (port.toInt.toNat + 1) = portStr at hnul
    simp [nul_notMem_addrToString selfIp, hnul]
  · rw [locReply, serverDiscoveryReply, (showInt_requestsPort hlow hhigh).2, Discovery.MAXLINE]
    simp only [List.length_append, List.length_cons, String.length_toList]
    have htag : "LOC".length = 3 := rfl
    have hend : "END".length = 3 := rfl
    omega

/-- What the client makes of a server's answer, if it can be read. -/
theorem answer_locReply {datagram : Datagram} {selfIp : InAddr} {port : Int32}
    {found : Text × Int32} (hlow : 0 ≤ port.toInt) (hhigh : port.toInt ≤ 65535)
    (htext : datagram.text = locReply selfIp port) (hanswer : datagram.answer = some found) :
    found = (addrToString selfIp, port + 1) := by
  obtain ⟨ipStr, requestPort⟩ := found
  rw [Datagram.answer, htext, inBuffer_locReply hlow hhigh] at hanswer
  have htaken := Server.ok_of_toOption hanswer
  have hne : port ≠ 65535 := fun hport => not_extract_locReply hport ipStr requestPort htaken
  have hlt : port.toInt < 65535 := by
    refine lt_of_le_of_ne hhigh fun heq => hne (Int32.toInt_inj.mp ?_)
    rw [heq]
    rfl
  have hspace : (locReply selfIp port).head? ≠ some ' ' := by
    simp [locReply, serverDiscoveryReply]
  rw [extract_of_isLocation (isLocation_locReply hlow hlt) hspace] at htaken
  exact (Except.ok.inj htaken).symm

/-- A search that succeeds has read one of its first five arrivals. -/
theorem Locating.exists_of_found {locationServicePort : Int32} {search : Locating}
    {found : Text × Int32} (h : search.found locationServicePort = some found) :
    ∃ i < 5, ∃ datagram, search.arrivals i = some datagram ∧ datagram.answer = some found := by
  rw [Locating.found, clientDiscoveryProtocol_found] at h
  split at h
  · cases h
  · obtain ⟨arrival, hmem, hanswer⟩ := List.exists_of_findSome?_eq_some h
    obtain ⟨i, hi, rfl⟩ := List.mem_map.mp hmem
    obtain ⟨datagram, harrival, hanswer⟩ := Option.bind_eq_some_iff.mp hanswer
    exact ⟨i, List.mem_range.mp hi, datagram, harrival, hanswer⟩

namespace Lan

/-- The server `10.0.0.1`. -/
def lower : Fin 2 := ⟨0, Nat.two_pos⟩

/-- The server `10.0.0.2`. -/
def higher : Fin 2 := ⟨1, Nat.one_lt_two⟩

/-- Both are on port 4000. -/
def twoInstalled : Installation 2 where
  id server := ntohl (if server = lower then 0x0100000a else 0x0200000a)
  address server := if server = lower then 0x0100000a else 0x0200000a
  argument _ := "4000".toList
  port _ := 4000
  accepted _ := by rfl
  stack _ := ⟨0, ⟨-1⟩⟩

/-- The second one is elected.  The client looks for a server twice, and is struck by a snapshot
that does not have it after it has been registered and before it is answered. -/
def struckBeforeAnswer : List (Fin 2 × Server.Action) :=
  [(higher, .election ⟨none, 0⟩ 0), (higher, .election ⟨none, 200⟩ 0), (lower, .discover 7),
    (lower, .thread .greeter), (higher, .discover 7), (higher, .thread .greeter),
    (higher, .thread .greeter), (higher, .load 0x0100000a "0 0 0 # ".toList),
    (higher, .thread .greeter), (higher, .thread .greeter)]

/-- One answer arrives, after a timeout. -/
def answeredLate : Locating :=
  ⟨16, fun i => if i = 1 then some ⟨"LOC 10.0.0.2 4001 END".toList,
    createSockaddr "10.0.0.2".toList 4000⟩ else none, [], 0⟩

/-- The answer to the client's first request, when a handler has found it to be the next one. -/
def firstReply (lan : Lan 2) : AckPacket :=
  transactionReply 7 ⟨1, 0, 0⟩ ((lan.sites higher).server.shared.ledger.transfer 7 0 0).1

end Lan

end Brix
