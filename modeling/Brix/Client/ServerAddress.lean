import Brix.Client.Discovery
import Brix.Client.RequestDispatcher
import Brix.Foundation.Execution

/-!
# Where the requests go

`servaddr` of the request dispatcher is what `sendto` sends a request to, and what `recvfrom`
writes the source of an answer to, up to a length that nobody sets.  Besides,
`locate_request_server` builds it from the outputs of a search also if the search has failed and
left them as they were, uninitialised.

* `Dispatching` — the class with `servaddr`, the steps of its constructor and of
  `dispatch_request`
* `Dispatching.Keeps` — no step writes anything else to `servaddr`
* `servaddr_located_iff` — which is what it takes for the requests to go to the server that was
  found last

### What is load-bearing

Nothing in the source sets `len` before `recvfrom`, so a model has to take what happens to be in
it as an input, and the same goes for the outputs of a search that has failed.  The results
quantify over these inputs; where a condition mentions them it does so because the program depends
on them.
-/

namespace Brix

open Text Execution

/-- What a call of `locate_request_server` meets: the uninitialised `len` of the search, what
arrives at each of its attempts, and what the uninitialised `request_server_ip` and
`request_server_port` hold. -/
structure Locating where
  len : Int32
  arrivals : ℕ → Option Datagram
  leftoverIp : Text
  leftoverPort : Int32

namespace Locating

/-- The outputs of `client_discovery_protocol`, if it returns 0. -/
def found (locationServicePort : Int32) (d : Locating) : Option (Text × Int32) :=
  (clientDiscoveryProtocol "255.255.255.255".toList locationServicePort 5 d.len d.arrivals).found

/-- One of the five broadcasts has an answer that can be read. -/
def Answered (d : Locating) : Prop :=
  ¬ d.len < 0 ∧ ∃ i < 5, ∃ datagram, d.arrivals i = some datagram ∧ datagram.answer ≠ none

/-- The server is found, or what the outputs hold anyway amounts to `servaddr`. -/
def Keeps (servaddr : SockAddr) (d : Locating) : Prop :=
  d.Answered ∨ createSockaddr d.leftoverIp d.leftoverPort = servaddr

/-- A search finds nothing exactly if no arrival answers it. -/
theorem found_eq_none_iff {locationServicePort : Int32} (d : Locating) :
    d.found locationServicePort = none ↔ ¬ d.Answered := by
  rw [found, clientDiscoveryProtocol_found, Answered, not_and]
  split
  · rename_i hlen
    exact iff_of_true rfl fun h => absurd hlen h
  · rename_i hlen
    rw [List.findSome?_eq_none_iff, imp_iff_right hlen]
    constructor
    · rintro hnone ⟨i, hi, datagram, harrival, hanswer⟩
      have hmem := List.mem_map_of_mem (f := d.arrivals) (List.mem_range.mpr hi)
      have hbind := hnone (d.arrivals i) hmem
      rw [harrival] at hbind
      exact hanswer hbind
    · intro hnone arrival harrival
      obtain ⟨i, hi, rfl⟩ := List.mem_map.mp harrival
      cases hcase : d.arrivals i with
      | none => rfl
      | some datagram =>
          by_contra hanswer
          exact hnone ⟨i, List.mem_range.mp hi, datagram, hcase, hanswer⟩

end Locating

/-- `locate_request_server`: the new `servaddr`. -/
def locateRequestServer (locationServicePort : Int32) (d : Locating) : SockAddr :=
  match d.found locationServicePort with
  | some (requestServerIp, requestServerPort) =>
      createSockaddr requestServerIp requestServerPort
  | none => createSockaddr d.leftoverIp d.leftoverPort

/-- The request dispatcher, its call of `dispatch_request` with its `len`, what has been sent
where, latest first, and the server that was found last. -/
structure Dispatching where
  constructed : Bool
  servaddr : SockAddr
  request : Request
  dispatcher : Dispatcher
  len : Int32
  sent : List (Text × SockAddr)
  located : SockAddr

/-- A turn of the constructor or of the request thread.  `receive` is a datagram or a timeout,
with what the search meets that a timeout leads to. -/
inductive DispatchAction
  | construct (d : Locating)
  | dispatch (request : Request) (len : Int32)
  | send
  | receive (arrival : Option Datagram) (d : Locating)

/-- `dispatch_request` is through, or has not been called yet. -/
def Dispatcher.Over (d : Dispatcher) : Prop :=
  d.waiting = false ∧ (d.returned = true ∨ RequestDispatcher.MAX_RETRIES ≤ d.retries)

instance (d : Dispatcher) : Decidable d.Over := inferInstanceAs (Decidable (_ ∧ _))

namespace Dispatching

/-- Before the constructor, as far as `memset`. -/
def start : Dispatching :=
  ⟨false, SockAddr.zero, ⟨0, 0, .error⟩, ⟨1, 0, false, true⟩, 0, [], SockAddr.zero⟩

/-- `locate_request_server` is called. -/
def locate (locationServicePort : Int32) (d : Locating) (s : Dispatching) : Dispatching :=
  { s with
    servaddr := locateRequestServer locationServicePort d
    located :=
      match d.found locationServicePort with
      | some (requestServerIp, requestServerPort) =>
          createSockaddr requestServerIp requestServerPort
      | none => s.located }

/-- The constructor, and the request thread.  A request of type `ERROR` does not get into the
queue. -/
def step (locationServicePort : Int32) (s : Dispatching) : DispatchAction → Option Dispatching
  | .construct d =>
      if s.constructed then none
      else some { s.locate locationServicePort d with constructed := true }
  | .dispatch request len =>
      if s.constructed ∧ s.dispatcher.Over ∧ request.type ≠ .error then
        some { s with
          request := request
          len := len
          dispatcher := Dispatcher.start s.dispatcher.currentRequest }
      else none
  | .send =>
      (s.dispatcher.send s.request).map fun out =>
        { s with dispatcher := out.2, sent := (out.1, s.servaddr) :: s.sent }
  | .receive arrival d =>
      let receipt := recvfrom s.servaddr s.len arrival
      let s := { s with servaddr := receipt.address, len := receipt.len }
      match receipt.text with
      | some text => (s.dispatcher.receive text).map fun dispatcher =>
          { s with dispatcher := dispatcher }
      | none => s.dispatcher.timeout.map fun dispatcher =>
          { s with dispatcher := dispatcher }.locate locationServicePort d

/-- The next request goes to the server that was found last. -/
def OnTarget (s : Dispatching) : Prop := s.servaddr = s.located

instance (s : Dispatching) : Decidable s.OnTarget := inferInstanceAs (Decidable (_ = _))

/-- What a step writes to `servaddr` is a server that was found, or what is there: a search
succeeds or its outputs hold the address anyway, and a datagram comes from that address, as far as
`len` lets its source through. -/
def Keeps (s : Dispatching) : DispatchAction → Prop
  | .construct d => d.Keeps s.servaddr
  | .dispatch _ _ => True
  | .send => True
  | .receive none d => d.Keeps s.servaddr
  | .receive (some datagram) d =>
      if s.len < 0 then d.Keeps s.servaddr
      else ∀ i : Fin 16, (i.val : ℤ) < s.len.toInt → datagram.source i = s.servaddr i

section Steps

variable {locationServicePort : Int32} {s s' : Dispatching} {action : DispatchAction}

/-- A search, from a state where the address is right. -/
theorem onTarget_locate (hs : s.OnTarget) (d : Locating) :
    (s.locate locationServicePort d).OnTarget ↔ d.Keeps s.servaddr := by
  unfold OnTarget locate locateRequestServer Locating.Keeps
  cases hfound : d.found locationServicePort with
  | none =>
      have hanswered := (Locating.found_eq_none_iff d).mp hfound
      rw [or_iff_right hanswered, hs]
  | some found =>
      have hanswered : d.Answered := by
        by_contra hanswered
        rw [(Locating.found_eq_none_iff d).mpr hanswered] at hfound
        cases hfound
      exact iff_of_true rfl (Or.inl hanswered)

/-- **One step.**  From a state where the address is right, it stays right exactly if the step
keeps it.

Each action is looked at by itself.  Where `locate_request_server` is called the address is set
anew from what the search has left, and where a datagram is received as many bytes of it are
overwritten as the length says. -/
theorem onTarget_step (hs : s.OnTarget) (taken : s.step locationServicePort action = some s') :
    s'.OnTarget ↔ s.Keeps action := by
  cases action with
  | construct d =>
      rw [step, Option.ite_none_left_eq_some, Option.some.injEq] at taken
      obtain ⟨-, rfl⟩ := taken
      exact onTarget_locate hs d
  | dispatch request len =>
      rw [step, Option.ite_none_right_eq_some, Option.some.injEq] at taken
      obtain ⟨-, rfl⟩ := taken
      exact iff_of_true hs trivial
  | send =>
      rw [step, Option.map_eq_some_iff] at taken
      obtain ⟨out, -, rfl⟩ := taken
      exact iff_of_true hs trivial
  | receive arrival d =>
      cases arrival with
      | none =>
          obtain ⟨dispatcher, -, rfl⟩ := Option.map_eq_some_iff.mp taken
          exact onTarget_locate (s := { s with dispatcher := dispatcher }) hs d
      | some datagram =>
          -- a negative `len` makes `recvfrom` fail, else it writes that many bytes of `servaddr`
          by_cases hlen : s.len < 0
          · have hreceipt : recvfrom s.servaddr s.len (some datagram) = ⟨none, s.servaddr, s.len⟩ :=
              if_pos hlen
            simp only [step, hreceipt] at taken
            obtain ⟨dispatcher, -, rfl⟩ := Option.map_eq_some_iff.mp taken
            rw [Keeps, if_pos hlen]
            exact onTarget_locate (s := { s with dispatcher := dispatcher }) hs d
          · have hreceipt : recvfrom s.servaddr s.len (some datagram) =
                ⟨some datagram.text, fun i => if (i.val : ℤ) < s.len.toInt then datagram.source i
                  else s.servaddr i, 16⟩ := if_neg hlen
            simp only [step, hreceipt] at taken
            obtain ⟨dispatcher, -, rfl⟩ := Option.map_eq_some_iff.mp taken
            rw [Keeps, if_neg hlen, OnTarget, ← hs, funext_iff]
            refine forall_congr' fun i => ?_
            exact ite_eq_right_iff

end Steps

/-! ## Runs -/

/-- **When the requests go to the server.**  Any requests, and any datagrams, timeouts and searches
in any order: in all states of a run the next request goes to the server that was found last,
exactly if all its steps keep the address.

The equivalence is one of runs: the condition on the steps on the one side and the property of the
states on the other.  `Runs.iff_throughout` takes it from the equivalence for one step, which is
all that there is to prove here. -/
theorem servaddr_located_iff {locationServicePort : Int32} {actions : List DispatchAction}
    {s : Dispatching} :
    Runs (step locationServicePort) Keeps start actions s ↔
      Runs (step locationServicePort) (fun s _ => s.OnTarget) start actions s ∧ s.OnTarget :=
  Runs.iff_throughout OnTarget rfl fun _ _ _ hs taken => onTarget_step hs taken

/-! ## Two ways to lose the server -/

/-- A server answers from its discovery port. -/
def answered : Locating :=
  ⟨16, fun _ => some ⟨"LOC 10.1.1.20 4001 END".toList, createSockaddr "10.1.1.20".toList 4000⟩,
    [], 0⟩

/-- Nobody does. -/
def unanswered : Locating := ⟨16, fun _ => none, [], 0⟩

/-- A request is sent twice, with one arrival in between. -/
def sentTwice (arrival : Option Datagram) : List DispatchAction :=
  [.construct answered, .dispatch ⟨1, 10, .req⟩ 16, .send, .receive arrival unanswered, .send]

/-- A datagram from somewhere else. -/
def strayDatagram : Datagram := ⟨"HELLO".toList, createSockaddr "10.1.1.99".toList 9999⟩

/-- **Two requests that do not go to the server.**  One goes to where a stray datagram has come
from; the other to what a failed search has left, here an empty address and port 0. -/
theorem requests_go_astray :
    (∃ s, Runs (step 4000) Always start (sentTwice (some strayDatagram)) s ∧ ¬ s.OnTarget ∧
      s.sent.map Prod.snd = [strayDatagram.source, s.located]) ∧
    ∃ s, Runs (step 4000) Always start (sentTwice none) s ∧ ¬ s.OnTarget ∧
      s.sent.map Prod.snd = [createSockaddr [] 0, s.located] := by
  have hstray : (perform (step 4000) start (sentTwice (some strayDatagram))).any (fun s => decide
      (¬ s.OnTarget ∧ s.sent.map Prod.snd = [strayDatagram.source, s.located])) = true := by
    decide +kernel
  have hfailed : (perform (step 4000) start (sentTwice none)).any (fun s => decide
      (¬ s.OnTarget ∧ s.sent.map Prod.snd = [createSockaddr [] 0, s.located])) = true := by
    decide +kernel
  obtain ⟨s, run, hs⟩ := exists_runs_of_any hstray
  obtain ⟨s', run', hs'⟩ := exists_runs_of_any hfailed
  exact ⟨⟨s, run, of_decide_eq_true hs⟩, s', run', of_decide_eq_true hs'⟩

end Dispatching

end Brix
