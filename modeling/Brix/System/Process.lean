import Brix.Election.Machine
import Brix.Server.KillDispatch
import Brix.System.Replication

/-!
# One server process

A server is one process with many threads.  The election has one, the discovery service has one,
the multiplexer has one that starts another for every packet it can read, and `listen_for_updates`
has one.  They share the ledger, which looks after itself, and `is_coordinator`, which nobody
guards: the election thread writes it and the discovery thread reads it, whenever it likes.

`Server.step` lets them interleave.  What is one step here is what one call does under the locks
of `DbManager`, one `sendto`, one `recvfrom`, or one look at a variable that others write:

* `process_req_packet` looks its client up, checks the packet, makes its transaction, takes a
  snapshot and broadcasts it if that was a success, and answers;
* `process_kill_packet` copies its parameters, removes the client, answers, takes a snapshot and
  broadcasts it;
* `server_discovery_service` receives a request, looks at `is_coordinator`, registers the client,
  takes a snapshot, answers and broadcasts.

A turn of the election is one step.  Nobody else writes the role, and a turn that broadcasts the
database leaves the role as it is (`Machine.iterate_update`), so nothing that is said below about
the role and the ledger could tell the difference.

### The design

The three kinds of threads do the same three things at the end, each in an order of its own.  So
a thread that is through with the ledger is a list of what it has left to do (`Chore`), and the
orders stand side by side in `Thread.after`, `Thread.afterKill` and `Thread.afterGreeting`.

The greeter is one thread that takes up one request after the other; a request that arrives
meanwhile waits in the socket.  Handlers are as many as there were packets.  Both are found by
their `Place`, and whatever is said of a thread is said of it wherever it is.

### What is load-bearing

The inversion lemmas of `Server.step`, one for each action, are all that the modules above this
one know about it.  A step of a thread is the one to look at: it reads the role and `params` at
the moment of the step and not when the thread was started, it changes the shared ledger at most,
and it replaces the thread at its own place (`step_thread`).
-/

namespace Brix

open Text Execution Election

/-! ## A thread -/

/-- Something that a thread has left to do. -/
inductive Chore
  /-- `sendto`, of an answer. -/
  | send (dest : InAddr) (text : Text)
  /-- `get_db_snapshot`. -/
  | snapshot
  /-- `broadcast_update`. -/
  | broadcast
  deriving DecidableEq

/-- How far a thread is. -/
inductive Thread
  /-- `process_req_packet`, on its way to an answer. -/
  | request (senderIp : InAddr) (packet : ReqPacket) (phase : Phase)
  /-- `process_kill_packet`, about to copy its parameters. -/
  | kill
  /-- `process_kill_packet`, about to remove the client. -/
  | killing (params : KillParams)
  /-- `server_discovery_service`, with a request. -/
  | asked (clientIp : InAddr)
  /-- `server_discovery_service`, which has found the server to be the coordinator. -/
  | greeting (clientIp : InAddr)
  /-- Through with the ledger; `snapshot` is the thread's variable, empty until it is assigned. -/
  | closing (chores : List Chore) (snapshot : DbSnapshot)

/-- What the threads share, but for `is_coordinator` and `params`. -/
structure Shared where
  ledger : Ledger
  /-- What `broadcast_update` was called with. -/
  updates : List DbSnapshot

namespace Thread

/-- Through with the ledger. -/
def closeWith (chores : List Chore) : Thread := .closing chores DbManager.empty.getDbSnapshot

/-- Nothing to do. -/
def idle : Thread := closeWith []

/-- A thread that has nothing to do: it has returned, or waits for a datagram. -/
def Idle : Thread → Prop
  | .closing [] _ => True
  | _ => False

instance : DecidablePred Idle
  | .closing [] _ => inferInstanceAs (Decidable True)
  | .closing (_ :: _) _ => inferInstanceAs (Decidable False)
  | .request .. => inferInstanceAs (Decidable False)
  | .kill => inferInstanceAs (Decidable False)
  | .killing _ => inferInstanceAs (Decidable False)
  | .asked _ => inferInstanceAs (Decidable False)
  | .greeting _ => inferInstanceAs (Decidable False)

/-- `process_req_packet` goes on from a phase: it broadcasts a success before it answers.

The text of the answer decides whether there is a broadcast, as in the source. -/
def after (senderIp : InAddr) (packet : ReqPacket) : Phase → Thread
  | .replied reply => closeWith
      ((if reply.result = "SUCCESS".toList then [.snapshot, .broadcast] else [])
        ++ [.send senderIp reply.toText])
  | phase => .request senderIp packet phase

/-- `process_kill_packet` answers before it broadcasts. -/
def afterKill (senderIp : InAddr) (packet : KilPacket) (ledger : Ledger) : Thread :=
  closeWith (.send senderIp (processKillPacket senderIp packet ledger).reply.toText ::
    if (ledger.remove senderIp).1.statusCode = .success then [.snapshot, .broadcast] else [])

/-- `server_discovery_service` has its snapshot before it answers. -/
def afterGreeting (loc : Text) (clientIp : InAddr) : Thread :=
  closeWith [.snapshot, .send clientIp loc, .broadcast]

/-- A thread's next step.  It is given what it can read besides: the role, the `params` of the
multiplexer's loop, and the text of a LOC answer. -/
def step (isCoordinator : Bool) (params : KillParams) (loc : Text) (shared : Shared) :
    Thread → Option (Thread × Shared)
  | .request senderIp packet phase =>
      (phase.step senderIp packet shared.ledger).map fun (phase', ledger) =>
        (after senderIp packet phase', { shared with ledger := ledger })
  | .kill => some (.killing params, shared)
  | .killing ⟨senderIp, packet⟩ => some (afterKill senderIp packet shared.ledger,
      { shared with ledger := (shared.ledger.remove senderIp).2 })
  | .asked clientIp => some (if isCoordinator then .greeting clientIp else idle, shared)
  | .greeting clientIp => some (afterGreeting loc clientIp,
      { shared with ledger := (shared.ledger.register clientIp).2 })
  | .closing (.send _ _ :: rest) snapshot => some (.closing rest snapshot, shared)
  | .closing (.snapshot :: rest) _ =>
      some (.closing rest shared.ledger.toDbManager.getDbSnapshot, shared)
  | .closing (.broadcast :: rest) snapshot =>
      some (.closing rest snapshot, { shared with updates := shared.updates ++ [snapshot] })
  | .closing [] _ => none

end Thread

/-! ## The process -/

/-- Where a thread is found. -/
inductive Place
  | greeter
  | handler (i : ℕ)
  deriving DecidableEq

/-- The server: its election, what its threads share, `params` of `packet_multiplexer`, the
handlers in the order in which they were started, and the discovery service. -/
structure Server where
  machine : Machine
  shared : Shared
  params : KillParams
  handlers : List Thread
  greeter : Thread

namespace Server

/-- A server that has just been started, with what it will know of its network and what is on the
stack of `packet_multiplexer`. -/
def start (coordinatorIp : InAddr) (lastReceivedId : UInt32) (stack : KillParams) : Server :=
  ⟨.start coordinatorIp lastReceivedId, ⟨.empty, []⟩, stack, [], .idle⟩

/-- What can happen to a server. -/
inductive Action
  /-- `packet_multiplexer` receives a datagram. -/
  | receive (senderIp : InAddr) (datagram : Text)
  /-- `server_discovery_service` receives a datagram. -/
  | discover (clientIp : InAddr)
  /-- A thread takes a step. -/
  | thread (place : Place)
  /-- `listen_for_updates` receives a datagram. -/
  | load (src : InAddr) (datagram : Text)
  | election (input : Input) (calls : ℕ)
  | backupElection

/-- The thread at a place. -/
def threadAt (s : Server) : Place → Option Thread
  | .greeter => some s.greeter
  | .handler i => s.handlers[i]?

/-- All of them. -/
def threads (s : Server) : List Thread := s.greeter :: s.handlers

/-- The thread at a place becomes another. -/
def setThread (s : Server) (thread : Thread) : Place → Server
  | .greeter => { s with greeter := thread }
  | .handler i => { s with handlers := s.handlers.set i thread }

/-- The body of the `packet_multiplexer` loop, up to the start of a handler.  Nothing catches what
`to_KIL_Packet` throws, and the process ends.

A handler of a KIL packet is started with a pointer to `params`, which the next KIL packet
overwrites. -/
def dispatch (s : Server) (senderIp : InAddr) (datagram : Text) : Option Server :=
  let text := inBuffer MAX_PACKET_SIZE datagram
  match packetType text with
  | .req =>
      match toReqPacket text with
      | .ok packet =>
          some { s with handlers := s.handlers ++ [.request senderIp packet .started] }
      | .error _ => some s
  | .kil => (toKilPacket text).toOption.map fun packet =>
      { s with params := ⟨senderIp, packet⟩, handlers := s.handlers ++ [.kill] }
  | _ => some s

/-- A turn of the election: the machine changes, and `broadcast_update(get_db_snapshot())` is
called if the turn says so. -/
def elect (s : Server) (turn : Machine × List Output) : Server :=
  { s with
    machine := turn.1
    shared.updates := s.shared.updates
      ++ (turn.2.filter (· = .update)).map fun _ => s.shared.ledger.toDbManager.getDbSnapshot }

/-- One step; there is no next state where the process ends. -/
def step (id : UInt32) (selfIp loc : Text) (s : Server) : Action → Option Server
  | .receive senderIp datagram => s.dispatch senderIp datagram
  | .discover clientIp =>
      if s.greeter.Idle then some { s with greeter := .asked clientIp } else none
  | .thread place => (s.threadAt place).bind fun thread =>
      (thread.step s.machine.isCoordinator s.params loc s.shared).map fun (thread', shared) =>
        { s with shared := shared }.setThread thread' place
  | .load src datagram =>
      (s.shared.ledger.listenForUpdates selfIp src datagram).toOption.map fun ledger =>
        { s with shared.ledger := ledger }
  | .election input calls => some (s.elect (s.machine.iterate id input calls))
  | .backupElection => some { s with machine := s.machine.backupElection.1 }

/-! ## What a step can be -/

section Steps

variable {id : UInt32} {selfIp loc : Text} {s s' : Server} {place other : Place}
  {thread thread' : Thread}

/-- The election does not notice what a thread does. -/
@[simp] theorem setThread_machine (s : Server) (thread : Thread) (place : Place) :
    (s.setThread thread place).machine = s.machine := by
  cases place <;> rfl

/-- What a thread shares is changed separately. -/
@[simp] theorem setThread_shared (s : Server) (thread : Thread) (place : Place) :
    (s.setThread thread place).shared = s.shared := by
  cases place <;> rfl

/-- Only the multiplexer writes `params`. -/
@[simp] theorem setThread_params (s : Server) (thread : Thread) (place : Place) :
    (s.setThread thread place).params = s.params := by
  cases place <;> rfl

/-- The thread is there if there was one. -/
theorem threadAt_setThread_self (h : s.threadAt place = some thread) :
    (s.setThread thread' place).threadAt place = some thread' := by
  cases place with
  | greeter => rfl
  | handler i =>
      obtain ⟨hi, -⟩ := List.getElem?_eq_some_iff.mp h
      exact List.getElem?_set_self hi

/-- A thread is found at its place. -/
theorem mem_threads_iff : thread ∈ s.threads ↔ ∃ place, s.threadAt place = some thread := by
  rw [threads, List.mem_cons, List.mem_iff_getElem?]
  constructor
  · rintro (rfl | ⟨i, hi⟩)
    · exact ⟨.greeter, rfl⟩
    · exact ⟨.handler i, hi⟩
  · rintro ⟨_ | i, h⟩
    · exact Or.inl (Option.some.inj h).symm
    · exact Or.inr ⟨i, h⟩

/-- What holds of the new thread and of the others as they were holds of all. -/
theorem forall_threads_setThread {P : Thread → Prop} (hnew : P thread)
    (hothers : ∀ other ∈ s.threads, P other) (place : Place) :
    ∀ other ∈ (s.setThread thread place).threads, P other := by
  intro other hmem
  cases place with
  | greeter =>
      rcases List.mem_cons.mp hmem with rfl | hhandler
      · exact hnew
      · exact hothers other (List.mem_cons_of_mem _ hhandler)
  | handler i =>
      rcases List.mem_cons.mp hmem with rfl | hhandler
      · exact hothers _ List.mem_cons_self
      · rcases List.mem_or_eq_of_mem_set hhandler with hold | rfl
        · exact hothers other (List.mem_cons_of_mem _ hold)
        · exact hnew

/-- The same for a handler that has just been started. -/
theorem forall_threads_append {P : Thread → Prop} {params : KillParams} (hnew : P thread)
    (hothers : ∀ other ∈ s.threads, P other) :
    ∀ other ∈ Server.threads { s with params := params, handlers := s.handlers ++ [thread] },
      P other := by
  intro other hmem
  rcases List.mem_cons.mp hmem with rfl | hhandler
  · exact hothers _ List.mem_cons_self
  · rcases List.mem_append.mp hhandler with hold | hnew'
    · exact hothers other (List.mem_cons_of_mem _ hold)
    · rw [List.mem_singleton.mp hnew']
      exact hnew

/-- A datagram leaves everything as it is but for a new handler, and `params` if it is a KIL
packet. -/
theorem dispatch_cases {senderIp : InAddr} {datagram : Text}
    (h : s.dispatch senderIp datagram = some s') :
    s' = s ∨
      (∃ packet, s' = { s with handlers := s.handlers ++ [.request senderIp packet .started] }) ∨
      ∃ packet, s' = { s with
        params := ⟨senderIp, packet⟩, handlers := s.handlers ++ [.kill] } := by
  simp only [dispatch] at h
  split at h
  · split at h
    · rename_i packet _
      cases h
      exact Or.inr (Or.inl ⟨packet, rfl⟩)
    · cases h
      exact Or.inl rfl
  · obtain ⟨packet, -, rfl⟩ := Option.map_eq_some_iff.mp h
    exact Or.inr (Or.inr ⟨packet, rfl⟩)
  · cases h
    exact Or.inl rfl

/-- A datagram on the request port is dispatched. -/
theorem step_receive {senderIp : InAddr} {datagram : Text} :
    s.step id selfIp loc (.receive senderIp datagram) = s.dispatch senderIp datagram := rfl

/-- A discovery request is taken up if the last one has been dealt with. -/
theorem step_discover {clientIp : InAddr}
    (h : s.step id selfIp loc (.discover clientIp) = some s') :
    s.greeter.Idle ∧ s' = s.setThread (.asked clientIp) .greeter := by
  rw [step] at h
  split at h
  · rename_i hidle
    exact ⟨hidle, (Option.some.inj h).symm⟩
  · cases h

/-- A step that exists has thrown nothing. -/
theorem ok_of_toOption {ε α : Type} {result : Except ε α} {a : α}
    (h : result.toOption = some a) : result = .ok a := by
  cases result with
  | ok b =>
      cases h
      rfl
  | error fault => cases h

/-- A snapshot changes the ledger only. -/
theorem step_load {src : InAddr} {datagram : Text}
    (h : s.step id selfIp loc (.load src datagram) = some s') :
    ∃ ledger, s.shared.ledger.listenForUpdates selfIp src datagram = .ok ledger ∧
      s' = { s with shared.ledger := ledger } := by
  rw [step, Option.map_eq_some_iff] at h
  obtain ⟨ledger, hledger, rfl⟩ := h
  exact ⟨ledger, ok_of_toOption hledger, rfl⟩

/-- A turn is always possible. -/
theorem step_election {input : Input} {calls : ℕ}
    (h : s.step id selfIp loc (.election input calls) = some s') :
    s' = s.elect (s.machine.iterate id input calls) := by
  rw [step] at h
  exact (Option.some.inj h).symm

/-- So is a call of `backup_election`. -/
theorem step_backupElection (h : s.step id selfIp loc .backupElection = some s') :
    s' = { s with machine := s.machine.backupElection.1 } := by
  rw [step] at h
  exact (Option.some.inj h).symm

/-- A turn of the election does nothing to the threads. -/
theorem elect_threads (s : Server) (turn : Machine × List Output) :
    (s.elect turn).threads = s.threads := rfl

/-- Nor to the greeter. -/
theorem elect_greeter (s : Server) (turn : Machine × List Output) :
    (s.elect turn).greeter = s.greeter := rfl

/-- The machine is that of the turn. -/
theorem elect_machine (s : Server) (turn : Machine × List Output) :
    (s.elect turn).machine = turn.1 := rfl

/-- The ledger is left alone. -/
theorem elect_ledger (s : Server) (turn : Machine × List Output) :
    (s.elect turn).shared.ledger = s.shared.ledger := rfl

/-- A turn that does not say so broadcasts nothing. -/
theorem elect_updates {turn : Machine × List Output}
    (hsilent : turn.2.filter (· = .update) = []) :
    (s.elect turn).shared.updates = s.shared.updates := by
  rw [elect, hsilent]
  exact List.append_nil _

/-- The step of a thread. -/
theorem step_thread (h : s.step id selfIp loc (.thread place) = some s') :
    ∃ thread thread' shared, s.threadAt place = some thread ∧
      thread.step s.machine.isCoordinator s.params loc s.shared = some (thread', shared) ∧
      s' = { s with shared := shared }.setThread thread' place := by
  rw [step] at h
  obtain ⟨thread, hthread, h⟩ := Option.bind_eq_some_iff.mp h
  obtain ⟨⟨thread', shared⟩, hstep, rfl⟩ := Option.map_eq_some_iff.mp h
  exact ⟨thread, thread', shared, hthread, hstep, rfl⟩

end Steps

end Server

end Brix
