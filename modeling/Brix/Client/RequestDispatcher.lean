import Brix.Common.Packets

/-!
# The client's request dispatcher

`dispatch_request` and `handle_response` of `client_request_transfer.cpp`.  A request
is sent up to `MAX_RETRIES` times.  Every attempt writes the packet anew, with the
`current_request` of the moment, and then waits for one datagram or a timeout.

Any answer that can be read moves `current_request`, whatever it answers and whether
or not it is a success: to the number after the one it carries.  So an attempt that
follows an answer which is not a success asks for the same transfer under another
number.

The loop is given as its three moves, `send`, `receive` and `timeout`.  They leave out
`servaddr`, as if there were one server; `Client.ServerAddress` adds it.

### What is load-bearing

`current_request` is the only thing that the client remembers between two requests, and it is
written from the network.  That is what makes the client recover from a wrong number, and it is
what makes a repeated request a new one: after a `DUPLICATE` the next attempt no longer carries
the number of the attempt that was applied.
-/

namespace Brix

open Text

/-- `request_t::RequestType`. -/
inductive RequestType
  | req
  | kill
  | error
  deriving DecidableEq, Repr

/-- `request_t`. -/
structure Request where
  destIp : InAddr
  transferAmount : UInt64
  type : RequestType
  deriving DecidableEq

namespace RequestDispatcher

/-- The size of the receive buffer. -/
def MAXLINE : ℕ := 2048

/-- How often a request is sent. -/
def MAX_RETRIES : ℕ := 5

/-- `serialized_request`. -/
def serialize (request : Request) (currentRequest : Int32) : Text :=
  match request.type with
  | .req => (ReqPacket.mk currentRequest.toInt64 request.destIp request.transferAmount).toText
  | .kill => "KIL END".toList
  | .error => []

/-- `handle_response`: the new `current_request`, and whether the request is done. -/
def handleResponse (response : AckPacket) : Int32 × Bool :=
  ((response.seqNum + 1).toInt32,
    response.result = "SUCCESS".toList || response.result = "BALANCE_CHECK".toList ||
      response.result = "KILL".toList)

end RequestDispatcher

/-- Where `dispatch_request` is in its loop. -/
structure Dispatcher where
  currentRequest : Int32
  retries : ℕ
  /-- It has sent the request and waits in `recvfrom`. -/
  waiting : Bool
  /-- It has returned on a success. -/
  returned : Bool
  deriving DecidableEq

namespace Dispatcher

open RequestDispatcher

/-- `dispatch_request` is called. -/
def start (currentRequest : Int32) : Dispatcher := ⟨currentRequest, 0, false, false⟩

/-- Begin an attempt: the datagram that is sent. -/
def send (request : Request) (d : Dispatcher) : Option (Text × Dispatcher) :=
  if d.waiting ∨ d.returned ∨ MAX_RETRIES ≤ d.retries then none
  else some (serialize request d.currentRequest,
    { d with retries := d.retries + 1, waiting := true })

/-- A datagram arrives.  One that is no ACK packet ends the attempt and nothing else. -/
def receive (datagram : Text) (d : Dispatcher) : Option Dispatcher :=
  if d.waiting then
    match toAckPacket (inBuffer RequestDispatcher.MAXLINE datagram) with
    | .ok response =>
        let (currentRequest, success) := handleResponse response
        some { d with currentRequest := currentRequest, waiting := false, returned := success }
    | .error _ => some { d with waiting := false }
  else none

/-- Nothing arrives in time; the client goes on to look for the server. -/
def timeout (d : Dispatcher) : Option Dispatcher :=
  if d.waiting then some { d with waiting := false } else none

end Dispatcher

end Brix
