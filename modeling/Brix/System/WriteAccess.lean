import Brix.System.Bystanders
import Brix.System.Process

/-!
# Who writes

A server that is not the coordinator should take its ledger from the one that is, and keep quiet.
Only the discovery service looks at `is_coordinator`, and it looks once.  The REQ and KIL handlers
do what they are asked to, whatever the server's role is, and they do it when they get to it: a
request that was received by a coordinator may be carried out and broadcast by a server that is
none any more.

* `Server.Abstains` — what a server that is no coordinator should do with a step
* `Thread.Writes` — a thread that is about to change the ledger
* `Thread.Underway` — a thread that has a broadcast ahead of it
* `only_coordinator_writes` — the runs in which a server abstains
* `exists_astray` — why no other run can be trusted

### What is load-bearing

`Server.Spared` asks for two things, one of the threads and one of the election: while the server
is not the coordinator no thread finds anything to write, and the role is not taken away under a
thread that is underway.  The second one is what makes an invariant of it.  A broadcast comes
several steps after the write that has led to it, and what the role is at the broadcast is not
decided by the thread; `Settled` says that a server that is not the coordinator has no thread
underway, and it survives a step exactly because a thread gets underway by writing, or by having
seen the role, and in no other way (`Thread.step_quiet`).
-/

namespace Brix

open Text Execution Election

/-! ## What changes a ledger -/

namespace Ledger

variable {ledger : Ledger} {senderIp receiverIp clientIp : InAddr} {amount : UInt64}

/-- A transfer that is a success changes it. -/
theorem transfer_ne_of_success
    (hsuccess : (ledger.transfer senderIp receiverIp amount).1.statusCode = .success) :
    (ledger.transfer senderIp receiverIp amount).2 ≠ ledger :=
  transfer_ne_of_counts (Or.inl hsuccess)

/-- A removal changes the ledger if there is somebody to remove. -/
theorem remove_ne_iff : (ledger.remove clientIp).2 ≠ ledger ↔ clientIp ∈ ledger.records := by
  cases hclient : ledger.records.lookup clientIp with
  | none =>
      rw [remove_notFound hclient]
      exact iff_of_false (fun h => h rfl) (Finmap.lookup_eq_none.mp hclient)
  | some client =>
      refine iff_of_true (fun hsame => ?_) (Finmap.mem_of_lookup_eq_some hclient)
      have hremoved := lookup_remove_self ledger clientIp
      rw [hsame, hclient] at hremoved
      cases hremoved

/-- It is a success in the same cases. -/
theorem remove_success_iff :
    (ledger.remove clientIp).1.statusCode = .success ↔ clientIp ∈ ledger.records := by
  cases hclient : ledger.records.lookup clientIp with
  | none =>
      rw [remove_notFound hclient]
      exact iff_of_false nofun (Finmap.lookup_eq_none.mp hclient)
  | some client =>
      rw [remove_success hclient]
      exact iff_of_true rfl (Finmap.mem_of_lookup_eq_some hclient)

end Ledger

/-! ## A thread -/

namespace Thread

/-- The thread is about to change the ledger: it has found a request to be the next one of a
client, which names an amount and another client, or it is about to remove a client. -/
def Writes (ledger : Ledger) : Thread → Prop
  | .request senderIp packet (.checked _ .valid) =>
      senderIp ∈ ledger.records ∧ packet.transferAmount ≠ 0 ∧ senderIp ≠ packet.receiverIp ∧
        packet.receiverIp ∈ ledger.records
  | .killing params => params.senderIp ∈ ledger.records
  | _ => False

/-- The thread has a broadcast ahead of it: it has written, or it has seen that the server is the
coordinator and is about to. -/
def Underway : Thread → Prop
  | .greeting _ => True
  | .closing chores _ => .broadcast ∈ chores
  | _ => False

instance (ledger : Ledger) : DecidablePred (Writes ledger)
  | .request _ _ (.checked _ .valid) => inferInstanceAs (Decidable (_ ∧ _ ∧ _ ∧ _))
  | .request _ _ (.checked _ .duplicate) => inferInstanceAs (Decidable False)
  | .request _ _ (.checked _ .outOfOrder) => inferInstanceAs (Decidable False)
  | .request _ _ (.checked _ .noClue) => inferInstanceAs (Decidable False)
  | .request _ _ .started => inferInstanceAs (Decidable False)
  | .request _ _ (.looked _) => inferInstanceAs (Decidable False)
  | .request _ _ (.replied _) => inferInstanceAs (Decidable False)
  | .killing params => inferInstanceAs (Decidable (params.senderIp ∈ ledger.records))
  | .kill => inferInstanceAs (Decidable False)
  | .asked _ => inferInstanceAs (Decidable False)
  | .greeting _ => inferInstanceAs (Decidable False)
  | .closing .. => inferInstanceAs (Decidable False)

instance : DecidablePred Underway
  | .greeting _ => inferInstanceAs (Decidable True)
  | .closing chores _ => inferInstanceAs (Decidable (.broadcast ∈ chores))
  | .request .. => inferInstanceAs (Decidable False)
  | .kill => inferInstanceAs (Decidable False)
  | .killing _ => inferInstanceAs (Decidable False)
  | .asked _ => inferInstanceAs (Decidable False)

/-- A thread that has nothing to do has no broadcast ahead of it. -/
theorem not_underway_idle : ¬ idle.Underway := List.not_mem_nil

/-- Whether a request handler will broadcast is decided by its transaction. -/
theorem not_underway_request (senderIp : InAddr) (packet : ReqPacket) (phase : Phase) :
    ¬ (request senderIp packet phase).Underway := fun h => h

/-- Whether a KIL handler will is decided by its removal. -/
theorem not_underway_kill : ¬ kill.Underway := fun h => h

/-- The greeter has not looked at the role yet. -/
theorem not_underway_asked (clientIp : InAddr) : ¬ (asked clientIp).Underway := fun h => h

/-- A thread that has just answered a request is underway if the answer is `SUCCESS`. -/
theorem underway_replied {senderIp : InAddr} {packet : ReqPacket} {reply : AckPacket} :
    (after senderIp packet (.replied reply)).Underway ↔ reply.result = "SUCCESS".toList := by
  show Chore.broadcast ∈ (if reply.result = "SUCCESS".toList then _ else []) ++ [_] ↔ _
  split
  · rename_i hsuccess
    exact iff_of_true (List.mem_append_left _ (List.mem_cons_of_mem _ List.mem_cons_self)) hsuccess
  · rename_i hother
    exact iff_of_false (fun h => nomatch List.mem_singleton.mp h) hother

/-- A KIL handler that has removed somebody is underway. -/
theorem underway_afterKill {senderIp : InAddr} {packet : KilPacket} {ledger : Ledger} :
    (afterKill senderIp packet ledger).Underway ↔ senderIp ∈ ledger.records := by
  rw [← Ledger.remove_success_iff]
  show Chore.broadcast ∈ _ :: (if (ledger.remove senderIp).1.statusCode = .success then _ else [])
    ↔ _
  split
  · rename_i hsuccess
    exact iff_of_true (List.mem_cons_of_mem _ (List.mem_cons_of_mem _ List.mem_cons_self)) hsuccess
  · rename_i hother
    exact iff_of_false (fun h => nomatch List.mem_singleton.mp h) hother

section Step

variable {params : KillParams} {loc : Text} {shared shared' : Shared} {thread thread' : Thread}

/-- A request handler that finds nothing to write. -/
theorem step_quiet_request {senderIp : InAddr} {packet : ReqPacket} {phase phase' : Phase}
    {ledger ledger' : Ledger} (hspared : ¬ (request senderIp packet phase).Writes ledger)
    (hstep : phase.step senderIp packet ledger = some (phase', ledger')) :
    ledger' = ledger ∧ ¬ (after senderIp packet phase').Underway := by
  cases phase with
  | started =>
      cases hstep
      exact ⟨rfl, fun h => h⟩
  | looked client =>
      cases hstep
      exact ⟨rfl, fun h => h⟩
  | checked client status =>
      cases status with
      | valid =>
          cases hstep
          have hsame := not_not.mp (mt Ledger.transfer_ne_iff.mp hspared)
          refine ⟨hsame, fun hunderway => ?_⟩
          have hsuccess := underway_replied.mp hunderway
          exact Ledger.transfer_ne_of_success ((transactionReply_success_iff _ _ _).mp hsuccess)
            hsame
      | duplicate =>
          cases hstep
          exact ⟨rfl, mt underway_replied.mp
            (show "DUPLICATE".toList ≠ "SUCCESS".toList by decide)⟩
      | outOfOrder =>
          cases hstep
          exact ⟨rfl, mt underway_replied.mp
            (show "OUT_OF_ORDER".toList ≠ "SUCCESS".toList by decide)⟩
      | noClue =>
          cases hstep
          exact ⟨rfl, mt underway_replied.mp
            (show "SERVER_ERRROR".toList ≠ "SUCCESS".toList by decide)⟩
  | replied reply => cases hstep

/-- **One step of a thread** on a server that is not the coordinator: one that is not underway
and finds nothing to write leaves everything as it is, and does not get underway. -/
theorem step_quiet (hspared : ¬ thread.Writes shared.ledger) (hquiet : ¬ thread.Underway)
    (hstep : thread.step false params loc shared = some (thread', shared')) :
    shared' = shared ∧ ¬ thread'.Underway := by
  cases thread with
  | request senderIp packet phase =>
      obtain ⟨⟨phase', ledger⟩, hphase, heq⟩ := Option.map_eq_some_iff.mp hstep
      cases heq
      obtain ⟨rfl, hquiet'⟩ := step_quiet_request hspared hphase
      exact ⟨rfl, hquiet'⟩
  | kill =>
      cases hstep
      exact ⟨rfl, fun h => h⟩
  | killing params =>
      cases hstep
      have hsame := not_not.mp (mt Ledger.remove_ne_iff.mp hspared)
      refine ⟨?_, mt underway_afterKill.mp hspared⟩
      rw [hsame]
  | asked clientIp =>
      cases hstep
      exact ⟨rfl, not_underway_idle⟩
  | greeting clientIp => exact absurd trivial hquiet
  | closing chores snapshot =>
      cases chores with
      | nil => cases hstep
      | cons chore rest =>
          cases chore with
          | send dest text =>
              cases hstep
              exact ⟨rfl, fun h => hquiet (List.mem_cons_of_mem _ h)⟩
          | snapshot =>
              cases hstep
              exact ⟨rfl, fun h => hquiet (List.mem_cons_of_mem _ h)⟩
          | broadcast => exact absurd List.mem_cons_self hquiet

end Step

end Thread

/-! ## The server -/

namespace Server

/-- While it is not the coordinator, the server's ledger changes through `load_snapshot` only,
and the server does not call `broadcast_update`. -/
def Abstains (id : UInt32) (selfIp loc : Text) (s : Server) (action : Action) : Prop :=
  ∀ s', s.step id selfIp loc action = some s' →
    s.machine.isCoordinator = false ∨ s'.machine.isCoordinator = false →
      (s'.shared.ledger = s.shared.ledger ∨ ∃ src datagram, action = .load src datagram) ∧
        s'.shared.updates = s.shared.updates

/-- While the server is not the coordinator no thread finds anything to write, and the server
does not cease to be the coordinator under a thread that is underway.

The first condition is on the thread that takes the step, the second on all threads at the moment
at which the role is taken away. -/
def Spared (id : UInt32) (s : Server) : Action → Prop
  | .thread place => s.machine.isCoordinator = false →
      ∀ thread ∈ s.threadAt place, ¬ thread.Writes s.shared.ledger
  | .election input calls => s.machine.isCoordinator = true →
      (s.machine.iterate id input calls).1.isCoordinator = false →
        ∀ thread ∈ s.threads, ¬ thread.Underway
  | _ => True

instance (id : UInt32) (s : Server) : DecidablePred (s.Spared id)
  | .thread _ => inferInstanceAs (Decidable (_ → _))
  | .election .. => inferInstanceAs (Decidable (_ → _ → _))
  | .receive .. => inferInstanceAs (Decidable True)
  | .discover _ => inferInstanceAs (Decidable True)
  | .load .. => inferInstanceAs (Decidable True)
  | .backupElection => inferInstanceAs (Decidable True)

/-- A server that is not the coordinator has no thread underway.

This is the invariant: it says of a demoted server that nothing is left over from the time before.
-/
def Settled (s : Server) : Prop :=
  s.machine.isCoordinator = false → ∀ thread ∈ s.threads, ¬ thread.Underway

section Step

variable {id : UInt32} {selfIp loc : Text} {s s' : Server} {action : Action}

/-- No thread has anything to do. -/
theorem settled_start (coordinatorIp : InAddr) (lastReceivedId : UInt32) (stack : KillParams) :
    (start coordinatorIp lastReceivedId stack).Settled := by
  intro _ thread hthread
  rw [List.mem_singleton.mp hthread]
  exact Thread.not_underway_idle

/-- A server that is not the coordinator before a turn, or after it, broadcasts nothing in it. -/
theorem filter_update_eq_nil {m : Machine} {input : Input} {calls : ℕ}
    (hrole : m.isCoordinator = false ∨ (m.iterate id input calls).1.isCoordinator = false) :
    (m.iterate id input calls).2.filter (· = .update) = [] := by
  rw [List.filter_eq_nil_iff]
  intro output hmem hupdate
  rw [of_decide_eq_true hupdate] at hmem
  obtain ⟨hbefore, hafter⟩ := Machine.iterate_update hmem
  rcases hrole with hrole | hrole
  · rw [hbefore] at hrole
    cases hrole
  · rw [hafter] at hrole
    cases hrole

/-- A step of a thread on a server that is not the coordinator. -/
theorem Settled.step_thread (h : s.Settled) {place : Place} (spared : s.Spared id (.thread place))
    (hrole : s.machine.isCoordinator = false)
    (taken : s.step id selfIp loc (.thread place) = some s') :
    s'.shared = s.shared ∧ ∀ other ∈ s'.threads, ¬ other.Underway := by
  obtain ⟨thread, thread', shared, hthread, hstep, rfl⟩ := Server.step_thread taken
  rw [hrole] at hstep
  obtain ⟨rfl, hquiet⟩ := Thread.step_quiet (spared hrole thread hthread)
    (h hrole thread (mem_threads_iff.mpr ⟨place, hthread⟩)) hstep
  exact ⟨setThread_shared _ _ _,
    forall_threads_setThread (P := fun thread => ¬ thread.Underway) hquiet (h hrole) place⟩

/-- A server that is settled abstains. -/
theorem Settled.abstains (h : s.Settled) (spared : s.Spared id action) :
    s.Abstains id selfIp loc action := by
  intro s' taken hrole
  cases action with
  | receive senderIp datagram =>
      rcases dispatch_cases (step_receive.symm.trans taken) with rfl | ⟨packet, rfl⟩ | ⟨packet, rfl⟩
      · exact ⟨Or.inl rfl, rfl⟩
      · exact ⟨Or.inl rfl, rfl⟩
      · exact ⟨Or.inl rfl, rfl⟩
  | discover clientIp =>
      obtain ⟨-, rfl⟩ := Server.step_discover taken
      exact ⟨Or.inl rfl, rfl⟩
  | thread place =>
      have hbefore : s.machine.isCoordinator = false := by
        rcases hrole with hbefore | hafter
        · exact hbefore
        · obtain ⟨_, _, _, _, _, rfl⟩ := Server.step_thread taken
          rwa [setThread_machine] at hafter
      obtain ⟨hshared, -⟩ := h.step_thread spared hbefore taken
      rw [hshared]
      exact ⟨Or.inl rfl, rfl⟩
  | load src datagram =>
      obtain ⟨ledger, -, rfl⟩ := Server.step_load taken
      exact ⟨Or.inr ⟨src, datagram, rfl⟩, rfl⟩
  | election input calls =>
      obtain rfl := step_election taken
      rw [elect_machine] at hrole
      exact ⟨Or.inl (elect_ledger _ _), elect_updates (filter_update_eq_nil hrole)⟩
  | backupElection =>
      obtain rfl := step_backupElection taken
      exact ⟨Or.inl rfl, rfl⟩

/-- **One step**, and the server is settled still. -/
theorem Settled.step (h : s.Settled) (spared : s.Spared id action)
    (taken : s.step id selfIp loc action = some s') : s'.Settled := by
  intro hrole
  cases action with
  | receive senderIp datagram =>
      rcases dispatch_cases (step_receive.symm.trans taken) with rfl | ⟨packet, rfl⟩ | ⟨packet, rfl⟩
      · exact h hrole
      · exact forall_threads_append (P := fun thread => ¬ thread.Underway)
          (Thread.not_underway_request senderIp packet .started) (h hrole)
      · exact forall_threads_append (P := fun thread => ¬ thread.Underway)
          Thread.not_underway_kill (h hrole)
  | discover clientIp =>
      obtain ⟨-, rfl⟩ := Server.step_discover taken
      exact forall_threads_setThread (P := fun thread => ¬ thread.Underway)
        (Thread.not_underway_asked clientIp) (h hrole) .greeter
  | thread place =>
      have hbefore : s.machine.isCoordinator = false := by
        obtain ⟨_, _, _, _, _, rfl⟩ := Server.step_thread taken
        rwa [setThread_machine] at hrole
      exact (h.step_thread spared hbefore taken).2
  | load src datagram =>
      obtain ⟨ledger, -, rfl⟩ := Server.step_load taken
      exact h hrole
  | election input calls =>
      obtain rfl := step_election taken
      rw [elect_machine] at hrole
      rw [elect_threads]
      -- the step that gives the role up is the one the condition is about
      cases hbefore : s.machine.isCoordinator with
      | false => exact h hbefore
      | true => exact spared hbefore hrole
  | backupElection =>
      obtain rfl := step_backupElection taken
      exact h hrole

end Step

/-- **When only the coordinator writes.**  Any datagrams, any turns of the election and any
interleaving of the threads: in a run whose every step is spared, the ledger of a server that is
not the coordinator changes through `load_snapshot` only and is never broadcast.

The conclusion is about every step of the run, as the hypothesis is. -/
theorem only_coordinator_writes {id : UInt32} {selfIp loc : Text} {coordinatorIp : InAddr}
    {lastReceivedId : UInt32} {stack : KillParams} {actions : List Action} {s : Server}
    (run : Runs (step id selfIp loc) (Spared id) (start coordinatorIp lastReceivedId stack)
      actions s) :
    Runs (step id selfIp loc) (Abstains id selfIp loc)
      (start coordinatorIp lastReceivedId stack) actions s ∧
      s.Settled := by
  induction run with
  | nil => exact ⟨.nil, settled_start coordinatorIp lastReceivedId stack⟩
  | snoc _ spared taken ih =>
      obtain ⟨run, hsettled⟩ := ih
      exact ⟨.snoc run (hsettled.abstains spared) taken, hsettled.step spared taken⟩

/-- The server is elected. -/
def election : List Action := [.election ⟨none, 0⟩ 0, .election ⟨none, 200⟩ 0]

/-- A client is registered. -/
def registration (clientIp : InAddr) : List Action :=
  .discover clientIp :: List.replicate 5 (.thread .greeter)

/-- Another server is elected, and a client that has not noticed asks for its balance. -/
def demotionAndRequest : List Action :=
  .election ⟨some (5, "CRD 9 END".toList), 0⟩ 0 :: .receive 1 "REQ 1 2.0.0.0 0 END".toList ::
    List.replicate 4 (.thread (.handler 0))

/-- A coordinator that registers a client, is demoted, and has nothing to write any more. -/
theorem only_coordinator_writes_demoted : ∃ s,
    Runs (step 7 (addrToString 4) []) (Abstains 7 (addrToString 4) []) (start 0 0 ⟨0, ⟨-1⟩⟩)
      (election ++ registration 1 ++ demotionAndRequest) s ∧
    s.machine.isCoordinator = false ∧ s.shared.updates.length = 1 := by
  have hrun : (perform (guarded (step 7 (addrToString 4) []) (Spared 7)) (start 0 0 ⟨0, ⟨-1⟩⟩)
      (election ++ registration 1 ++ demotionAndRequest)).any (fun s =>
        !s.machine.isCoordinator && s.shared.updates.length == 1) = true := by
    decide +kernel
  obtain ⟨s, run, hs⟩ := exists_runs_of_any_guarded hrun
  rw [Bool.and_eq_true, Bool.not_eq_true', beq_iff_eq] at hs
  exact ⟨s, (only_coordinator_writes run).1, hs⟩

/-- Two clients, as a coordinator broadcasts them. -/
def twoClientsUpdate : Action :=
  .load 3 "0 0 200000 # 1.0.0.0 100000 0 ; 2.0.0.0 100000 0 ; ".toList

/-- A client asks for a transfer, and the handler has a snapshot of what it has done. -/
def transferRequest : List Action :=
  .receive 1 "REQ 1 2.0.0.0 40 END".toList :: List.replicate 4 (.thread (.handler 0))

/-- The server is not the coordinator and is about to broadcast its ledger, with a transfer. -/
def broadcastsNext (s : Server) : Bool :=
  !s.machine.isCoordinator && s.shared.ledger.totals.numTransactions == 1 &&
    (s.step 7 (addrToString 4) [] (.thread (.handler 0))).any fun s' =>
      s'.shared.updates.length != s.shared.updates.length

/-- The next step of the handler is a broadcast. -/
theorem not_abstains_of_broadcastsNext {s : Server} (h : s.broadcastsNext = true) :
    s.shared.ledger.totals.numTransactions = 1 ∧
      ¬ s.Abstains 7 (addrToString 4) [] (.thread (.handler 0)) := by
  rw [broadcastsNext, Bool.and_eq_true, Bool.and_eq_true, Bool.not_eq_true', beq_iff_eq] at h
  obtain ⟨⟨hrole, htransfer⟩, hnext⟩ := h
  obtain ⟨s', taken, hupdates⟩ := (Option.any_eq_true ..).mp hnext
  refine ⟨htransfer, fun habstains => ?_⟩
  rw [(habstains s' taken (Or.inl hrole)).2] at hupdates
  exact absurd hupdates (by simp)

/-- **A request at a backup.**  The server has never been the coordinator; it has carried out the
transfer and is about to broadcast its own ledger. -/
theorem backup_writes : ∃ s,
    Runs (step 7 (addrToString 4) []) Always (start 0 0 ⟨0, ⟨-1⟩⟩)
      (twoClientsUpdate :: transferRequest) s ∧
    s.shared.ledger.totals.numTransactions = 1 ∧
    ¬ s.Abstains 7 (addrToString 4) [] (.thread (.handler 0)) := by
  have hrun : (perform (step 7 (addrToString 4) []) (start 0 0 ⟨0, ⟨-1⟩⟩)
      (twoClientsUpdate :: transferRequest)).any broadcastsNext = true := by
    decide +kernel
  obtain ⟨s, run, hs⟩ := exists_runs_of_any hrun
  exact ⟨s, run, not_abstains_of_broadcastsNext hs⟩

/-- **A request at a coordinator**, which is carried out by a coordinator too.  Another server is
elected before it is broadcast. -/
theorem demoted_broadcasts : ∃ s,
    Runs (step 7 (addrToString 4) []) Always (start 0 0 ⟨0, ⟨-1⟩⟩)
      (election ++ registration 1 ++ registration 2 ++ transferRequest
        ++ [.election ⟨some (5, "CRD 9 END".toList), 0⟩ 0]) s ∧
    s.shared.ledger.totals.numTransactions = 1 ∧
    ¬ s.Abstains 7 (addrToString 4) [] (.thread (.handler 0)) := by
  have hrun : (perform (step 7 (addrToString 4) []) (start 0 0 ⟨0, ⟨-1⟩⟩)
      (election ++ registration 1 ++ registration 2 ++ transferRequest
        ++ [.election ⟨some (5, "CRD 9 END".toList), 0⟩ 0])).any broadcastsNext = true := by
    decide +kernel
  obtain ⟨s, run, hs⟩ := exists_runs_of_any hrun
  exact ⟨s, run, not_abstains_of_broadcastsNext hs⟩

/-! ## Why no other run can be trusted -/

section Astray

variable {id : UInt32} {selfIp loc : Text} {s s' : Server} {place : Place}

/-- The server is not the coordinator, and a thread changes the ledger or broadcasts it. -/
theorem not_abstains_thread {thread thread' : Thread} {shared : Shared}
    (hrole : s.machine.isCoordinator = false) (hthread : s.threadAt place = some thread)
    (hstep : thread.step s.machine.isCoordinator s.params loc s.shared = some (thread', shared))
    (hwrites : shared.ledger ≠ s.shared.ledger ∨ shared.updates ≠ s.shared.updates) :
    ¬ s.Abstains id selfIp loc (.thread place) := by
  intro habstains
  have taken : s.step id selfIp loc (.thread place)
      = some ({ s with shared := shared }.setThread thread' place) := by
    rw [step, hthread, Option.bind_some, hstep]
    rfl
  obtain ⟨hledger, hupdates⟩ := habstains _ taken (Or.inl hrole)
  rw [setThread_shared] at hledger hupdates
  rcases hwrites with hchanged | hbroadcast
  · rcases hledger with hsame | ⟨_, _, hload⟩
    · exact hchanged hsame
    · cases hload
  · exact hbroadcast hupdates

/-- A thread that is about to write does. -/
theorem not_abstains_of_writes {thread : Thread} (hrole : s.machine.isCoordinator = false)
    (hthread : s.threadAt place = some thread) (hwrites : thread.Writes s.shared.ledger) :
    ¬ s.Abstains id selfIp loc (.thread place) := by
  cases thread with
  | request senderIp packet phase =>
      cases phase with
      | checked client status =>
          cases status with
          | valid =>
              exact not_abstains_thread hrole hthread rfl
                (Or.inl (Ledger.transfer_ne_iff.mpr hwrites))
          | duplicate => exact hwrites.elim
          | outOfOrder => exact hwrites.elim
          | noClue => exact hwrites.elim
      | started => exact hwrites.elim
      | looked client => exact hwrites.elim
      | replied reply => exact hwrites.elim
  | killing params =>
      exact not_abstains_thread hrole hthread rfl (Or.inl (Ledger.remove_ne_iff.mpr hwrites))
  | kill => exact hwrites.elim
  | asked clientIp => exact hwrites.elim
  | greeting clientIp => exact hwrites.elim
  | closing chores snapshot => exact hwrites.elim

variable (id selfIp loc)

/-- A thread moves on. -/
theorem run_thread {thread thread' : Thread} {shared : Shared}
    (hthread : s.threadAt place = some thread)
    (hstep : thread.step s.machine.isCoordinator s.params loc s.shared = some (thread', shared)) :
    ∃ s', s.step id selfIp loc (.thread place) = some s' ∧ s'.threadAt place = some thread' ∧
      s'.machine = s.machine := by
  have hthread' : threadAt { s with shared := shared } place = some thread := by
    cases place with
    | greeter => exact hthread
    | handler i => exact hthread
  refine ⟨{ s with shared := shared }.setThread thread' place, ?_,
    threadAt_setThread_self hthread', setThread_machine _ _ _⟩
  rw [step, hthread, Option.bind_some, hstep]
  rfl

/-- Whatever the thread does before, it comes to its broadcast. -/
theorem astray_of_closing {chores : List Chore} (hbroadcast : .broadcast ∈ chores)
    (hrole : s.machine.isCoordinator = false) {snapshot : DbSnapshot}
    (hthread : s.threadAt place = some (.closing chores snapshot)) :
    ∃ n s', Runs (step id selfIp loc) Always s (List.replicate n (.thread place)) s' ∧
      ¬ s'.Abstains id selfIp loc (.thread place) := by
  induction chores generalizing s snapshot with
  | nil => exact absurd hbroadcast List.not_mem_nil
  | cons chore rest ih =>
      have later {thread' : Thread} {shared : Shared} {snapshot' : DbSnapshot}
          (hother : Chore.broadcast ≠ chore) (hclosing : thread' = .closing rest snapshot')
          (hstep : (Thread.closing (chore :: rest) snapshot).step s.machine.isCoordinator s.params
            loc s.shared = some (thread', shared)) :
          ∃ n s', Runs (step id selfIp loc) Always s (List.replicate n (.thread place)) s' ∧
            ¬ s'.Abstains id selfIp loc (.thread place) := by
        obtain ⟨s₁, taken, hthread₁, hmachine⟩ := run_thread id selfIp loc hthread hstep
        rw [hclosing] at hthread₁
        obtain ⟨n, s', run, hastray⟩ := ih ((List.mem_cons.mp hbroadcast).resolve_left hother)
          (hmachine ▸ hrole) hthread₁
        exact ⟨n + 1, s', run.cons trivial taken, hastray⟩
      cases chore with
      | send dest text => exact later nofun rfl rfl
      | snapshot => exact later nofun rfl rfl
      | broadcast =>
          exact ⟨0, s, .nil, not_abstains_thread hrole hthread rfl
            (Or.inr fun h => List.cons_ne_nil _ _ (List.append_right_eq_self.mp h))⟩

/-- A thread that is underway when the server is not the coordinator. -/
theorem astray_of_underway {thread : Thread} (hrole : s.machine.isCoordinator = false)
    (hthread : s.threadAt place = some thread) (hunderway : thread.Underway) :
    ∃ n s', Runs (step id selfIp loc) Always s (List.replicate n (.thread place)) s' ∧
      ¬ s'.Abstains id selfIp loc (.thread place) := by
  cases thread with
  | closing chores snapshot => exact astray_of_closing id selfIp loc hunderway hrole hthread
  | greeting clientIp =>
      obtain ⟨s₁, taken, hthread₁, hmachine⟩ := run_thread id selfIp loc hthread rfl
      have hbroadcast : Chore.broadcast ∈ [.snapshot, .send clientIp loc, .broadcast] := by simp
      obtain ⟨n, s', run, hastray⟩ := astray_of_closing id selfIp loc hbroadcast
        (hmachine ▸ hrole) hthread₁
      exact ⟨n + 1, s', run.cons trivial taken, hastray⟩
  | request senderIp packet phase => exact hunderway.elim
  | kill => exact hunderway.elim
  | killing params => exact hunderway.elim
  | asked clientIp => exact hunderway.elim

/-- The server has just ceased to be the coordinator. -/
theorem astray_of_elect {turn : Machine × List Output} {thread : Thread}
    (hrole : turn.1.isCoordinator = false) (hthread : thread ∈ s.threads)
    (hunderway : thread.Underway) :
    ∃ place n s', Runs (step id selfIp loc) Always (s.elect turn)
        (List.replicate n (.thread place)) s' ∧
      ¬ s'.Abstains id selfIp loc (.thread place) := by
  rw [← elect_threads s turn, mem_threads_iff] at hthread
  obtain ⟨place, hthread⟩ := hthread
  exact ⟨place, astray_of_underway id selfIp loc hrole hthread hunderway⟩

/-- **The conditions are what it takes.**  A step that is not spared either is one in which the
server does not abstain, or leads to one by steps of one thread alone. -/
theorem exists_astray {action : Action} (hnot : ¬ s.Spared id action) :
    ¬ s.Abstains id selfIp loc action ∨
      ∃ place n s', Runs (step id selfIp loc) Always s
          (action :: List.replicate n (.thread place)) s' ∧
        ¬ s'.Abstains id selfIp loc (.thread place) := by
  cases action with
  | thread place =>
      obtain ⟨hrole, hwrites⟩ := Classical.not_imp.mp hnot
      obtain ⟨thread, hwrites⟩ := not_forall.mp hwrites
      obtain ⟨hthread, hwrites⟩ := Classical.not_imp.mp hwrites
      exact Or.inl (not_abstains_of_writes hrole hthread (not_not.mp hwrites))
  | election input calls =>
      have taken : s.step id selfIp loc (.election input calls)
          = some (s.elect (s.machine.iterate id input calls)) := by
        rw [step]
      obtain ⟨-, hdemoted⟩ := Classical.not_imp.mp hnot
      obtain ⟨hrole, hunderway⟩ := Classical.not_imp.mp hdemoted
      obtain ⟨thread, hunderway⟩ := not_forall.mp hunderway
      obtain ⟨hthread, hunderway⟩ := Classical.not_imp.mp hunderway
      obtain ⟨place, n, s', run, hastray⟩ := astray_of_elect id selfIp loc hrole hthread
        (not_not.mp hunderway)
      exact Or.inr ⟨place, n, s', run.cons trivial taken, hastray⟩
  | receive senderIp datagram => exact absurd trivial hnot
  | discover clientIp => exact absurd trivial hnot
  | load src datagram => exact absurd trivial hnot
  | backupElection => exact absurd trivial hnot

end Astray

end Server

end Brix
