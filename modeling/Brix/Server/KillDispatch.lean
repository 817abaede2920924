import Brix.Server.ConcurrentRequests
import Brix.Server.Multiplexer
import Mathlib.Data.List.Perm.Basic

/-!
# The parameters of a kill thread

`packet_multiplexer` starts a `process_kill_packet` thread for every KIL packet and hands it the
address of `params`, a variable of the loop, where the REQ path hands over a block of its own from
`malloc`.  The thread copies `params` when it gets to run.  If another KIL packet has been parsed
by then, the copy is the other client's, and the other client is removed.

* `KillServer` — the loop's variable, the threads, and who was to be and who has been removed
* `KillServer.OnTime` — a thread that copies `params` finds its own client there
* `eachOwn_iff` — which is what it takes for every thread to remove its own client
* `removed_perm_received` — and then the removed clients are those that have asked for it
-/

namespace Brix

open Text Execution

/-- `process_kill_packet_params`, but for the socket. -/
structure KillParams where
  senderIp : InAddr
  packet : KilPacket
  deriving DecidableEq

/-- How far a `process_kill_packet` thread has got. -/
inductive KillPhase
  | created
  | copied (params : KillParams)
  | done (clientIp : InAddr)
  deriving DecidableEq

/-- A thread, and the sender of the datagram that it was started for. -/
structure KillThread where
  senderIp : InAddr
  phase : KillPhase
  deriving DecidableEq

/-- The server: `params`, whatever is there before the first KIL packet, the threads in the order
of their creation, the senders of the datagrams received and the clients for which
`remove_client` was called, latest first. -/
structure KillServer where
  ledger : Ledger
  params : KillParams
  threads : List KillThread
  received : List InAddr
  removed : List InAddr

/-- Before the first KIL packet. -/
def KillServer.start (ledger : Ledger) (stack : KillParams) : KillServer :=
  ⟨ledger, stack, [], [], []⟩

/-- A turn of the loop, or a step of a thread. -/
inductive KillAction
  | receive (senderIp : InAddr) (datagram : Text)
  | thread (i : ℕ)

/-- A thread moves on. -/
def KillServer.setThread (s : KillServer) (i : ℕ) (th : KillThread) : KillServer :=
  { s with threads := s.threads.set i th }

/-- The KIL branch of `packet_multiplexer`. -/
def KillServer.dispatch (s : KillServer) (senderIp : InAddr) (packet : KilPacket) : KillServer :=
  { s with
    params := ⟨senderIp, packet⟩
    threads := s.threads ++ [⟨senderIp, .created⟩]
    received := senderIp :: s.received }

/-- `process_kill_packet`: the copy comes first, and the rest is taken as one step. -/
def KillServer.kill (s : KillServer) (i : ℕ) (th : KillThread) : Option KillServer :=
  match th.phase with
  | .created => some (s.setThread i { th with phase := .copied s.params })
  | .copied params =>
      some { s.setThread i { th with phase := .done params.senderIp } with
        ledger := (processKillPacket params.senderIp params.packet s.ledger).ledger
        removed := params.senderIp :: s.removed }
  | .done _ => none

/-- Well-formed KIL datagrams are received, and threads run. -/
def KillServer.step (s : KillServer) : KillAction → Option KillServer
  | .receive senderIp datagram =>
      if packetType (inBuffer MAX_PACKET_SIZE datagram) = .kil then
        (toKilPacket (inBuffer MAX_PACKET_SIZE datagram)).toOption.map (s.dispatch senderIp)
      else none
  | .thread i => s.threads[i]?.bind (s.kill i)

/-- A thread that copies `params` finds its own client there: no KIL packet of another client has
been parsed since the one that it was started for, or that client's was parsed last. -/
def KillServer.OnTime (s : KillServer) : KillAction → Prop
  | .receive _ _ => True
  | .thread i => ∀ th, s.threads[i]? = some th → th.phase = .created →
      s.params.senderIp = th.senderIp

/-! ## Steps -/

section Steps

variable {s s' : KillServer} {action : KillAction}

/-- Everything a step can be. -/
theorem KillServer.step_cases (taken : s.step action = some s') :
    (∃ senderIp datagram packet, action = .receive senderIp datagram ∧
      s' = s.dispatch senderIp packet) ∨
    (∃ i th, action = .thread i ∧ s.threads[i]? = some th ∧ th.phase = .created ∧
      s' = s.setThread i { th with phase := .copied s.params }) ∨
    (∃ i th params, action = .thread i ∧ s.threads[i]? = some th ∧ th.phase = .copied params ∧
      s' = { s.setThread i { th with phase := .done params.senderIp } with
        ledger := (processKillPacket params.senderIp params.packet s.ledger).ledger
        removed := params.senderIp :: s.removed }) := by
  cases action with
  | receive senderIp datagram =>
      rw [KillServer.step, Option.ite_none_right_eq_some, Option.map_eq_some_iff] at taken
      obtain ⟨-, packet, -, rfl⟩ := taken
      exact Or.inl ⟨senderIp, datagram, packet, rfl, rfl⟩
  | thread i =>
      rw [KillServer.step, Option.bind_eq_some_iff] at taken
      obtain ⟨th, hthread, taken⟩ := taken
      unfold KillServer.kill at taken
      cases hphase : th.phase with
      | created =>
          rw [hphase] at taken
          exact Or.inr (Or.inl ⟨i, th, rfl, hthread, hphase, (Option.some.inj taken).symm⟩)
      | copied params =>
          rw [hphase] at taken
          exact Or.inr (Or.inr ⟨i, th, params, rfl, hthread, hphase, (Option.some.inj taken).symm⟩)
      | done clientIp =>
          rw [hphase] at taken
          cases taken

end Steps

/-! ## Whose client -/

/-- The thread deals with its own client, as far as it has got. -/
def KillThread.Own (th : KillThread) : Prop :=
  match th.phase with
  | .created => True
  | .copied params => params.senderIp = th.senderIp
  | .done clientIp => clientIp = th.senderIp

/-- So do all threads. -/
def KillServer.EachOwn (s : KillServer) : Prop := ∀ th ∈ s.threads, th.Own

/-- The client that a thread has yet to remove. -/
def KillThread.pending (th : KillThread) : List InAddr :=
  match th.phase with
  | .created => [th.senderIp]
  | .copied _ => [th.senderIp]
  | .done _ => []

section Own

variable {s s' : KillServer} {action : KillAction} {i : ℕ} {th th' : KillThread}

/-- What holds of all threads after one has moved on, -/
theorem forall_mem_set (hthread : s.threads[i]? = some th) (P : KillThread → Prop) :
    (∀ x ∈ (s.setThread i th').threads, P x) ↔
      P th' ∧ ∀ x ∈ s.threads.eraseIdx i, P x := by
  obtain ⟨hi, -⟩ := List.getElem?_eq_some_iff.mp hthread
  show (∀ x ∈ s.threads.set i th', P x) ↔ _
  rw [← List.forall_mem_cons]
  exact ⟨fun h x hx => h x ((List.set_perm_cons_eraseIdx hi th').mem_iff.mpr hx),
    fun h x hx => h x ((List.set_perm_cons_eraseIdx hi th').mem_iff.mp hx)⟩

/-- and before. -/
theorem forall_mem_threads (hthread : s.threads[i]? = some th) (P : KillThread → Prop) :
    (∀ x ∈ s.threads, P x) ↔ P th ∧ ∀ x ∈ s.threads.eraseIdx i, P x := by
  obtain ⟨hi, rfl⟩ := List.getElem?_eq_some_iff.mp hthread
  rw [← List.forall_mem_cons]
  exact ⟨fun h x hx => h x ((List.getElem_cons_eraseIdx_perm hi).mem_iff.mp hx),
    fun h x hx => h x ((List.getElem_cons_eraseIdx_perm hi).mem_iff.mpr hx)⟩

/-- **One step.**  The threads go on dealing with their own clients exactly if the step is on
time. -/
theorem KillServer.eachOwn_step (taken : s.step action = some s') :
    s'.EachOwn ↔ s.EachOwn ∧ s.OnTime action := by
  unfold KillServer.EachOwn
  rcases KillServer.step_cases taken with ⟨senderIp, datagram, packet, rfl, rfl⟩ |
    ⟨i, th, rfl, hthread, hphase, rfl⟩ | ⟨i, th, params, rfl, hthread, hphase, rfl⟩
  · simp [KillServer.dispatch, KillServer.OnTime, KillThread.Own, or_imp, forall_and]
  · have hown : th.Own := by
      rw [KillThread.Own, hphase]
      trivial
    have htime : s.OnTime (.thread i) ↔ s.params.senderIp = th.senderIp := by
      simp [KillServer.OnTime, hthread, hphase]
    rw [forall_mem_set hthread, forall_mem_threads hthread, htime, and_iff_right hown]
    exact and_comm
  · have hown : th.Own ↔ params.senderIp = th.senderIp := by
      rw [KillThread.Own, hphase]
    have htime : s.OnTime (.thread i) := by
      simp [KillServer.OnTime, hthread, hphase]
    rw [and_iff_left htime, forall_mem_threads hthread, hown]
    exact forall_mem_set hthread _

/-- Who is removed, and who is yet to be. -/
theorem flatMap_pending_set (hthread : s.threads[i]? = some th) (th' : KillThread) :
    (th.pending ++ (s.setThread i th').threads.flatMap KillThread.pending).Perm
      (th'.pending ++ s.threads.flatMap KillThread.pending) := by
  obtain ⟨hi, rfl⟩ := List.getElem?_eq_some_iff.mp hthread
  have hset := (List.set_perm_cons_eraseIdx hi th').flatMap_right KillThread.pending
  have hget := (List.getElem_cons_eraseIdx_perm hi).flatMap_right KillThread.pending
  rw [List.flatMap_cons] at hset hget
  have hswap := List.perm_append_comm_assoc s.threads[i].pending th'.pending
    ((s.threads.eraseIdx i).flatMap KillThread.pending)
  exact ((hset.append_left _).trans hswap).trans (hget.append_left _)

end Own

/-- The clients that have been removed and those that are yet to be are the senders of what has
been received. -/
def KillServer.Balanced (s : KillServer) : Prop :=
  (s.removed ++ s.threads.flatMap KillThread.pending).Perm s.received

/-- One step, as long as the threads deal with their own clients. -/
theorem KillServer.Balanced.step {s s' : KillServer} {action : KillAction} (h : s.Balanced)
    (hown : s.EachOwn) (taken : s.step action = some s') : s'.Balanced := by
  rcases KillServer.step_cases taken with ⟨senderIp, datagram, packet, rfl, rfl⟩ |
    ⟨i, th, rfl, hthread, hphase, rfl⟩ | ⟨i, th, params, rfl, hthread, hphase, rfl⟩
  · show (s.removed ++ (s.threads ++ [_]).flatMap KillThread.pending).Perm (senderIp :: s.received)
    rw [List.flatMap_append, ← List.append_assoc]
    exact (List.perm_append_singleton senderIp _).trans (h.cons senderIp)
  · have hpending : th.pending = [th.senderIp] := by
      rw [KillThread.pending, hphase]
    have hset := flatMap_pending_set hthread { th with phase := .copied s.params }
    rw [hpending] at hset
    exact ((List.perm_append_left_iff _).mp hset |>.append_left s.removed).trans h
  · have hpending : th.pending = [th.senderIp] := by
      rw [KillThread.pending, hphase]
    have hsender : params.senderIp = th.senderIp := by
      have hth := hown th (List.mem_of_getElem? hthread)
      rwa [KillThread.Own, hphase] at hth
    obtain ⟨clientIp, packet⟩ := params
    obtain rfl : clientIp = th.senderIp := hsender
    have hset := flatMap_pending_set hthread { th with phase := .done th.senderIp }
    rw [hpending] at hset
    refine List.Perm.trans ?_ h
    show (th.senderIp :: s.removed ++ (s.setThread i _).threads.flatMap _).Perm _
    rw [List.cons_append]
    exact (List.perm_middle.symm).trans (hset.append_left s.removed)

/-! ## Runs -/

section Runs

variable {ledger : Ledger} {stack : KillParams} {actions : List KillAction} {s : KillServer}

/-- **When every thread removes its own client.**  In the runs whose every copy is on time, and
in no others. -/
theorem eachOwn_iff :
    Runs KillServer.step KillServer.OnTime (KillServer.start ledger stack) actions s ↔
      Runs KillServer.step Always (KillServer.start ledger stack) actions s ∧ s.EachOwn :=
  Runs.iff_and_end KillServer.EachOwn (fun _ hth => absurd hth List.not_mem_nil)
    fun _ _ _ taken => KillServer.eachOwn_step taken

/-- **Each KIL removes its own sender.**  For every sequence of KIL datagrams and every
interleaving of the loop with the threads, as long as every copy is on time: the clients that have
been removed are among the senders, each as often as it has asked at most, and when all threads
are through they are the senders.

Each thread is counted by its sender until it has removed a client, and by that client afterwards;
on time, the two are the same (`flatMap_pending_set`). -/
theorem removed_perm_received
    (run : Runs KillServer.step KillServer.OnTime (KillServer.start ledger stack) actions s) :
    (s.removed : Multiset InAddr) ≤ s.received ∧
      ((∀ th ∈ s.threads, ∃ clientIp, th.phase = .done clientIp) →
        (s.removed : Multiset InAddr) = s.received) := by
  have hbalanced : s.Balanced := by
    have hinit : (KillServer.start ledger stack).EachOwn := fun _ hth => absurd hth List.not_mem_nil
    refine (run.invariant (fun s => s.EachOwn ∧ s.Balanced) ⟨hinit, .nil⟩ ?_).2
    rintro s action s' ⟨hown, hbalanced⟩ admitted taken
    exact ⟨(KillServer.eachOwn_step taken).mpr ⟨hown, admitted⟩, hbalanced.step hown taken⟩
  constructor
  · exact (List.sublist_append_left ..).subperm.trans hbalanced.subperm
  · intro hdone
    have hnone : s.threads.flatMap KillThread.pending = [] := by
      refine List.flatMap_eq_nil_iff.mpr fun th hth => ?_
      obtain ⟨clientIp, hphase⟩ := hdone th hth
      rw [KillThread.pending, hphase]
    rw [KillServer.Balanced, hnone, List.append_nil] at hbalanced
    exact Multiset.coe_eq_coe.mpr hbalanced

end Runs

/-! ## Two customers at once -/

/-- A KIL packet. -/
def kilDatagram : Text := "KIL END".toList

/-- The second packet is parsed before the first thread runs. -/
def overwrittenParams : List KillAction :=
  [.receive 1 kilDatagram, .receive 2 kilDatagram, .thread 0, .thread 0, .thread 1, .thread 1]

/-- **Client 2 is removed twice, and client 1 not at all.** -/
theorem overwritten_params_removed : ∃ s,
    Runs KillServer.step Always (KillServer.start twoNewClients ⟨0, ⟨-1⟩⟩) overwrittenParams s ∧
    (∀ th ∈ s.threads, ∃ clientIp, th.phase = .done clientIp) ∧
    1 ∈ s.ledger.records ∧ (s.removed : Multiset InAddr) ≠ s.received := by
  have hrun : (perform KillServer.step (KillServer.start twoNewClients ⟨0, ⟨-1⟩⟩)
      overwrittenParams).any (fun s => decide
        (s.threads = [⟨1, .done 2⟩, ⟨2, .done 2⟩] ∧ 1 ∈ s.ledger.records ∧
          (s.removed : Multiset InAddr) ≠ s.received)) = true := by
    decide +kernel
  obtain ⟨s, run, hremoved⟩ := exists_runs_of_any hrun
  obtain ⟨hthreads, hrecord, hremoved⟩ := of_decide_eq_true hremoved
  refine ⟨s, run, ?_, hrecord, hremoved⟩
  rw [hthreads]
  simp

/-- The first thread copies its parameters in time. -/
def copiedInTime : List KillAction :=
  [.receive 1 kilDatagram, .thread 0, .receive 2 kilDatagram, .thread 1, .thread 1, .thread 0]

/-- Then both clients are removed. -/
theorem copied_in_time_removed : ∃ s,
    Runs KillServer.step KillServer.OnTime (KillServer.start twoNewClients ⟨0, ⟨-1⟩⟩)
      copiedInTime s ∧
    (s.removed : Multiset InAddr) = s.received := by
  have hrun : (perform KillServer.step (KillServer.start twoNewClients ⟨0, ⟨-1⟩⟩)
      copiedInTime).any (fun s => decide (s.threads = [⟨1, .done 1⟩, ⟨2, .done 2⟩])) = true := by
    decide +kernel
  obtain ⟨s, run, hthreads⟩ := exists_runs_of_any hrun
  have hthreads := of_decide_eq_true hthreads
  have hown : s.EachOwn := by
    unfold KillServer.EachOwn
    rw [hthreads]
    simp [KillThread.Own]
  have hontime := eachOwn_iff.mpr ⟨run, hown⟩
  refine ⟨s, hontime, (removed_perm_received hontime).2 ?_⟩
  rw [hthreads]
  simp

end Brix
