import Brix.Client.UserInput
import Brix.Foundation.Execution

/-!
# The queue between `main` and the request dispatcher

`main` calls `queue_request` for what it reads, and at the end for a KILL, and then deletes the
dispatcher; the dispatcher's thread runs `process_requests`.  Both take the mutex to change
`request_queue`, and neither takes it to look: `process_requests` tests `is_alive` and whether
the queue is empty, in its loop condition and again in the body, while the other thread pushes
and then clears `is_alive`.

The model has a step for every access to what the threads share.  `Orderly` is the invariant:
what has been queued is what has been dispatched, what the dispatcher has in hand, and what is
in the queue, and each place in `process_requests` has learnt something about the queue that
`main` cannot change any more (`DispatcherThread.Knows`).

* `ClientThreads` — the two threads and what they share
* `loses_nothing` — every request that is queued is dispatched, once and in order
* `joined_of_stuck`, `length_le_remaining` — both threads come to their ends

### What is load-bearing

`process_requests` looks at the queue without the mutex, so what it has seen may not be true any
more when it goes on.  What saves it is that each of the two threads changes the queue in one
direction only: `main` only pushes, the dispatcher only pops.  A queue that the dispatcher has
seen to have something in it still has; and one that it has seen empty after `is_alive` was
cleared stays empty, since `main` clears it after its last push.  `DispatcherThread.Knows` has one
clause for each place in the loop, and each of them is of one of these two kinds, so the other
thread cannot falsify it.

The order of the two tests in the loop condition matters.  Were the queue tested before
`is_alive`, a request might be pushed in between, and it would never be dispatched.
-/

namespace Brix

open Text Execution

/-! ## What `main` queues -/

/-- The request that `main` queues at the end. -/
def Request.kill : Request := ⟨0, 0, .kill⟩

/-- `queue_test`: its calls of `queue_request`, or the exception of `from_string`. -/
def queueTest (testString : Text) : Except Fault (List Request) :=
  let targetIp := match tokens testString with
    | _ :: ip :: _ => ip
    | _ => "10.33.1.2".toList
  (Request.fromString (targetIp ++ " 1".toList)).map (List.replicate 100000)

/-- The calls of `queue_request` for a line of input. -/
def lineCalls (input : Text) : Except Fault (List Request) :=
  if input.take 4 = "TEST".toList then queueTest input
  else (Request.fromString input).map fun request => [request]

/-- The calls of `queue_request` that `main` makes, if no exception ends it. -/
def mainCalls (inputs : List Text) : Except Fault (List Request) :=
  (inputs.mapM lineCalls).map fun calls => calls.flatten ++ [Request.kill]

/-- The requests among the calls that are queued. -/
def queuedRequests (calls : List Request) : List Request :=
  calls.filter fun request => request.type ≠ .error

/-! ## The two threads -/

/-- Where `main` is. -/
inductive MainThread
  /-- These calls of `queue_request` are still to be made, and then the destructor's. -/
  | calling (calls : List Request)
  /-- In `queue_request`, with the mutex. -/
  | pushing (request : Request) (calls : List Request)
  | unlocking (calls : List Request)
  /-- In the destructor: `is_alive` is cleared. -/
  | joining
  | joined
  deriving DecidableEq

/-- Where `process_requests` is. -/
inductive DispatcherThread
  /-- In the loop condition: `is_alive ||`, and `!request_queue.empty()`. -/
  | testAlive
  | testEmpty
  /-- In the body: `if (request_queue.empty())`. -/
  | testAgain
  | locking
  /-- `request_queue.front()`, with the mutex. -/
  | taking
  | popping (request : Request)
  | unlocking (request : Request)
  | dispatching (request : Request)
  /-- The socket is closed and the mutex destroyed. -/
  | returned
  /-- `front` or `pop` of an empty queue. -/
  | undefined
  deriving DecidableEq

/-- The threads and what they share. -/
structure ClientThreads where
  isAlive : Bool
  requestQueue : List Request
  /-- Whether the mutex is taken. -/
  requestQueueLock : Bool
  main : MainThread
  dispatcher : DispatcherThread
  /-- What has been pushed so far. -/
  queued : List Request
  /-- What `dispatch_request` has been called for so far. -/
  dispatched : List Request
  deriving DecidableEq

/-- Whose step it is. -/
inductive ClientThread
  | main
  | dispatcher
  deriving DecidableEq

namespace ClientThreads

/-- The dispatcher has been constructed, and `main` is going to make these calls. -/
def start (calls : List Request) : ClientThreads :=
  ⟨true, [], false, .calling calls, .testAlive, [], []⟩

/-- A step of `main`. -/
def stepMain (c : ClientThreads) : Option ClientThreads :=
  match c.main with
  | .calling [] => some { c with isAlive := false, main := .joining }
  | .calling (request :: calls) =>
      if request.type = .error then some { c with main := .calling calls }
      else if c.requestQueueLock then none
      else some { c with requestQueueLock := true, main := .pushing request calls }
  | .pushing request calls =>
      some { c with
        requestQueue := c.requestQueue ++ [request]
        queued := c.queued ++ [request]
        main := .unlocking calls }
  | .unlocking calls => some { c with requestQueueLock := false, main := .calling calls }
  | .joining => if c.dispatcher = .returned then some { c with main := .joined } else none
  | .joined => none

/-- A step of `process_requests`. -/
def stepDispatcher (c : ClientThreads) : Option ClientThreads :=
  match c.dispatcher with
  | .testAlive =>
      some { c with dispatcher := if c.isAlive then .testAgain else .testEmpty }
  | .testEmpty =>
      some { c with dispatcher := if c.requestQueue = [] then .returned else .testAgain }
  | .testAgain =>
      -- `sched_yield` if it is
      some { c with dispatcher := if c.requestQueue = [] then .testAlive else .locking }
  | .locking =>
      if c.requestQueueLock then none
      else some { c with requestQueueLock := true, dispatcher := .taking }
  | .taking =>
      match c.requestQueue with
      | request :: _ => some { c with dispatcher := .popping request }
      | [] => some { c with dispatcher := .undefined }
  | .popping request =>
      match c.requestQueue with
      | _ :: rest => some { c with requestQueue := rest, dispatcher := .unlocking request }
      | [] => some { c with dispatcher := .undefined }
  | .unlocking request =>
      some { c with requestQueueLock := false, dispatcher := .dispatching request }
  | .dispatching request =>
      some { c with dispatched := c.dispatched ++ [request], dispatcher := .testAlive }
  | .returned => none
  | .undefined => none

/-- A step of either thread. -/
def step (c : ClientThreads) : ClientThread → Option ClientThreads
  | .main => c.stepMain
  | .dispatcher => c.stepDispatcher

/-! ## What a step can do -/

/-- The steps of `main`. -/
inductive MainStep (c : ClientThreads) : ClientThreads → Prop
  | skip {request : Request} {calls : List Request} (place : c.main = .calling (request :: calls))
      (error : request.type = .error) : MainStep c { c with main := .calling calls }
  | lock {request : Request} {calls : List Request} (place : c.main = .calling (request :: calls))
      (noError : request.type ≠ .error) (free : c.requestQueueLock = false) :
      MainStep c { c with requestQueueLock := true, main := .pushing request calls }
  | push {request : Request} {calls : List Request} (place : c.main = .pushing request calls) :
      MainStep c
        { c with
          requestQueue := c.requestQueue ++ [request]
          queued := c.queued ++ [request]
          main := .unlocking calls }
  | unlock {calls : List Request} (place : c.main = .unlocking calls) :
      MainStep c { c with requestQueueLock := false, main := .calling calls }
  | delete (place : c.main = .calling []) :
      MainStep c { c with isAlive := false, main := .joining }
  | join (place : c.main = .joining) (ended : c.dispatcher = .returned) :
      MainStep c { c with main := .joined }

/-- The steps of `process_requests`. -/
inductive DispatcherStep (c : ClientThreads) : ClientThreads → Prop
  | alive (place : c.dispatcher = .testAlive) (alive : c.isAlive = true) :
      DispatcherStep c { c with dispatcher := .testAgain }
  | notAlive (place : c.dispatcher = .testAlive) (dead : c.isAlive = false) :
      DispatcherStep c { c with dispatcher := .testEmpty }
  | leave (place : c.dispatcher = .testEmpty) (empty : c.requestQueue = []) :
      DispatcherStep c { c with dispatcher := .returned }
  | stay (place : c.dispatcher = .testEmpty) (nonempty : c.requestQueue ≠ []) :
      DispatcherStep c { c with dispatcher := .testAgain }
  | yield (place : c.dispatcher = .testAgain) (empty : c.requestQueue = []) :
      DispatcherStep c { c with dispatcher := .testAlive }
  | find (place : c.dispatcher = .testAgain) (nonempty : c.requestQueue ≠ []) :
      DispatcherStep c { c with dispatcher := .locking }
  | lock (place : c.dispatcher = .locking) (free : c.requestQueueLock = false) :
      DispatcherStep c { c with requestQueueLock := true, dispatcher := .taking }
  | front {request : Request} (place : c.dispatcher = .taking)
      (head : c.requestQueue.head? = some request) :
      DispatcherStep c { c with dispatcher := .popping request }
  | pop {request : Request} (place : c.dispatcher = .popping request)
      (nonempty : c.requestQueue ≠ []) :
      DispatcherStep c
        { c with requestQueue := c.requestQueue.tail, dispatcher := .unlocking request }
  | unlock {request : Request} (place : c.dispatcher = .unlocking request) :
      DispatcherStep c { c with requestQueueLock := false, dispatcher := .dispatching request }
  | dispatch {request : Request} (place : c.dispatcher = .dispatching request) :
      DispatcherStep c
        { c with dispatched := c.dispatched ++ [request], dispatcher := .testAlive }
  | undefined (place : c.dispatcher = .taking ∨ ∃ request, c.dispatcher = .popping request)
      (empty : c.requestQueue = []) : DispatcherStep c { c with dispatcher := .undefined }

section Cases

variable {c c' : ClientThreads} {thread : ClientThread}

/-- The steps of `main`, one constructor for each. -/
theorem stepMain_cases (taken : c.stepMain = some c') : MainStep c c' := by
  cases hmain : c.main with
  | calling calls =>
      cases calls with
      | nil =>
          simp only [stepMain, hmain] at taken
          cases taken
          exact .delete hmain
      | cons request calls =>
          simp only [stepMain, hmain] at taken
          by_cases herror : request.type = .error
          · rw [if_pos herror] at taken
            cases taken
            exact .skip hmain herror
          · rw [if_neg herror, Option.ite_none_left_eq_some] at taken
            obtain ⟨hfree, taken⟩ := taken
            cases taken
            exact .lock hmain herror (Bool.eq_false_iff.mpr hfree)
  | pushing request calls =>
      simp only [stepMain, hmain] at taken
      cases taken
      exact .push hmain
  | unlocking calls =>
      simp only [stepMain, hmain] at taken
      cases taken
      exact .unlock hmain
  | joining =>
      simp only [stepMain, hmain, Option.ite_none_right_eq_some] at taken
      obtain ⟨hended, taken⟩ := taken
      cases taken
      exact .join hmain hended
  | joined =>
      simp only [stepMain, hmain] at taken
      cases taken

/-- Those of the dispatcher's thread. -/
theorem stepDispatcher_cases (taken : c.stepDispatcher = some c') : DispatcherStep c c' := by
  cases hplace : c.dispatcher with
  | testAlive =>
      simp only [stepDispatcher, hplace] at taken
      cases taken
      by_cases halive : c.isAlive = true
      · rw [if_pos halive]
        exact .alive hplace halive
      · rw [if_neg halive]
        exact .notAlive hplace (Bool.eq_false_iff.mpr halive)
  | testEmpty =>
      simp only [stepDispatcher, hplace] at taken
      cases taken
      by_cases hempty : c.requestQueue = []
      · rw [if_pos hempty]
        exact .leave hplace hempty
      · rw [if_neg hempty]
        exact .stay hplace hempty
  | testAgain =>
      simp only [stepDispatcher, hplace] at taken
      cases taken
      by_cases hempty : c.requestQueue = []
      · rw [if_pos hempty]
        exact .yield hplace hempty
      · rw [if_neg hempty]
        exact .find hplace hempty
  | locking =>
      simp only [stepDispatcher, hplace, Option.ite_none_left_eq_some] at taken
      obtain ⟨hfree, taken⟩ := taken
      cases taken
      exact .lock hplace (Bool.eq_false_iff.mpr hfree)
  -- `front()` and `pop()` of an empty queue are undefined behaviour
  | taking =>
      simp only [stepDispatcher, hplace] at taken
      cases hqueue : c.requestQueue with
      | nil =>
          rw [hqueue] at taken
          cases taken
          have hundefined := DispatcherStep.undefined (Or.inl hplace) hqueue
          rwa [hqueue] at hundefined
      | cons request rest =>
          rw [hqueue] at taken
          cases taken
          have hhead : c.requestQueue.head? = some request := by
            rw [hqueue]
            rfl
          have hfront := DispatcherStep.front hplace hhead
          rwa [hqueue] at hfront
  | popping request =>
      simp only [stepDispatcher, hplace] at taken
      cases hqueue : c.requestQueue with
      | nil =>
          rw [hqueue] at taken
          cases taken
          have hundefined := DispatcherStep.undefined (Or.inr ⟨request, hplace⟩) hqueue
          rwa [hqueue] at hundefined
      | cons head rest =>
          rw [hqueue] at taken
          cases taken
          have hpop := DispatcherStep.pop hplace (by rw [hqueue]; nofun)
          rwa [hqueue] at hpop
  | unlocking request =>
      simp only [stepDispatcher, hplace] at taken
      cases taken
      exact .unlock hplace
  | dispatching request =>
      simp only [stepDispatcher, hplace] at taken
      cases taken
      exact .dispatch hplace
  | returned =>
      simp only [stepDispatcher, hplace] at taken
      cases taken
  | undefined =>
      simp only [stepDispatcher, hplace] at taken
      cases taken

/-- **What a step can do.** -/
theorem step_cases (taken : c.step thread = some c') : MainStep c c' ∨ DispatcherStep c c' := by
  cases thread with
  | main => exact Or.inl (stepMain_cases taken)
  | dispatcher => exact Or.inr (stepDispatcher_cases taken)

end Cases

end ClientThreads

/-! ## The invariant -/

/-- What `main` is still going to queue. -/
def MainThread.toQueue : MainThread → List Request
  | .calling calls => queuedRequests calls
  | .pushing request calls => request :: queuedRequests calls
  | .unlocking calls => queuedRequests calls
  | .joining => []
  | .joined => []

/-- Whether `main` has cleared `is_alive`. -/
def MainThread.deletes : MainThread → Bool
  | .joining => true
  | .joined => true
  | _ => false

/-- Whether `main` has the mutex. -/
def MainThread.holdsLock : MainThread → Bool
  | .pushing _ _ => true
  | .unlocking _ => true
  | _ => false

/-- The destructor comes after the last call. -/
theorem MainThread.toQueue_of_deletes {main : MainThread} (h : main.deletes = true) :
    main.toQueue = [] := by
  cases main with
  | joining => rfl
  | joined => rfl
  | _ => cases h

/-- What has left the queue and not been dispatched. -/
def DispatcherThread.inHand : DispatcherThread → List Request
  | .unlocking request => [request]
  | .dispatching request => [request]
  | _ => []

/-- Whether the dispatcher has the mutex. -/
def DispatcherThread.holdsLock : DispatcherThread → Bool
  | .taking => true
  | .popping _ => true
  | .unlocking _ => true
  | .undefined => true
  | _ => false

/-- What a place in `process_requests` says about `is_alive` and the queue. -/
def DispatcherThread.Knows (isAlive : Bool) (requestQueue : List Request) :
    DispatcherThread → Prop
  | .testAlive => True
  | .testEmpty => isAlive = false
  | .testAgain => True
  | .locking => requestQueue ≠ []
  | .taking => requestQueue ≠ []
  | .popping request => requestQueue.head? = some request
  | .unlocking _ => True
  | .dispatching _ => True
  | .returned => isAlive = false ∧ requestQueue = []
  | .undefined => False

section Knowledge

variable {dispatcher : DispatcherThread} {requestQueue : List Request}

/-- What the dispatcher knows is not changed by a push. -/
theorem DispatcherThread.Knows.push (h : dispatcher.Knows true requestQueue) (request : Request) :
    dispatcher.Knows true (requestQueue ++ [request]) := by
  cases dispatcher with
  | testAlive => trivial
  | testEmpty => exact nomatch h
  | testAgain => trivial
  | locking => exact List.append_ne_nil_of_left_ne_nil h _
  | taking => exact List.append_ne_nil_of_left_ne_nil h _
  | popping taken =>
      have hhead : requestQueue.head? = some taken := h
      show (requestQueue ++ [request]).head? = some taken
      rw [List.head?_append, hhead]
      rfl
  | unlocking taken => trivial
  | dispatching taken => trivial
  | returned => exact nomatch h.1
  | undefined => exact h

/-- Nor by the destructor. -/
theorem DispatcherThread.Knows.clear {isAlive : Bool} (h : dispatcher.Knows isAlive requestQueue) :
    dispatcher.Knows false requestQueue := by
  cases dispatcher with
  | testAlive => trivial
  | testEmpty => rfl
  | testAgain => trivial
  | locking => exact h
  | taking => exact h
  | popping taken => exact h
  | unlocking taken => trivial
  | dispatching taken => trivial
  | returned => exact ⟨rfl, h.2⟩
  | undefined => exact h

end Knowledge

namespace ClientThreads

/-- Every request is in one place, and in its turn. -/
structure Orderly (calls : List Request) (c : ClientThreads) : Prop where
  conserved : c.queued = c.dispatched ++ c.dispatcher.inHand ++ c.requestQueue
  toQueue : queuedRequests calls = c.queued ++ c.main.toQueue
  isAlive : c.isAlive = !c.main.deletes
  knows : c.dispatcher.Knows c.isAlive c.requestQueue

/-- The mutex is taken by one of the threads at most. -/
structure Locked (c : ClientThreads) : Prop where
  taken : c.requestQueueLock = (c.main.holdsLock || c.dispatcher.holdsLock)
  exclusive : (c.main.holdsLock && c.dispatcher.holdsLock) = false

section Steps

variable {calls : List Request} {c c' : ClientThreads} {thread : ClientThread}

/-- Nothing has been queued. -/
theorem orderly_start (calls : List Request) : (start calls).Orderly calls where
  conserved := rfl
  toQueue := rfl
  isAlive := rfl
  knows := trivial

/-- A step of `main`. -/
theorem Orderly.mainStep (h : c.Orderly calls) (step : MainStep c c') : c'.Orderly calls := by
  obtain ⟨hconserved, htoQueue, hisAlive, hknows⟩ := h
  cases step with
  | skip place error =>
      rw [place] at htoQueue hisAlive
      refine ⟨hconserved, ?_, hisAlive, hknows⟩
      rw [htoQueue]
      simp [MainThread.toQueue, queuedRequests, error]
  | lock place noError free =>
      rw [place] at htoQueue hisAlive
      refine ⟨hconserved, ?_, hisAlive, hknows⟩
      rw [htoQueue]
      simp [MainThread.toQueue, queuedRequests, noError]
  | @push request rest place =>
      rw [place] at htoQueue hisAlive
      -- `main` has not cleared `is_alive`, so the dispatcher counts on nothing that a push changes
      have halive : c.isAlive = true := hisAlive
      refine ⟨?_, ?_, hisAlive, ?_⟩
      · show c.queued ++ [request] = _
        rw [hconserved, List.append_assoc _ c.requestQueue]
      · rw [htoQueue]
        simp [MainThread.toQueue]
      · show c.dispatcher.Knows c.isAlive (c.requestQueue ++ [request])
        rw [halive] at hknows ⊢
        exact hknows.push request
  | unlock place =>
      rw [place] at htoQueue hisAlive
      exact ⟨hconserved, htoQueue, hisAlive, hknows⟩
  | delete place =>
      rw [place] at htoQueue
      exact ⟨hconserved, htoQueue, rfl, hknows.clear⟩
  | join place ended =>
      rw [place] at htoQueue hisAlive
      exact ⟨hconserved, htoQueue, hisAlive, hknows⟩

/-- A step of `process_requests`. -/
theorem Orderly.dispatcherStep (h : c.Orderly calls) (step : DispatcherStep c c') :
    c'.Orderly calls := by
  obtain ⟨hconserved, htoQueue, hisAlive, hknows⟩ := h
  cases step with
  | alive place alive =>
      rw [place] at hconserved
      exact ⟨hconserved, htoQueue, hisAlive, trivial⟩
  | notAlive place dead =>
      rw [place] at hconserved
      exact ⟨hconserved, htoQueue, hisAlive, dead⟩
  | leave place empty =>
      rw [place] at hconserved hknows
      exact ⟨hconserved, htoQueue, hisAlive, hknows, empty⟩
  | stay place nonempty =>
      rw [place] at hconserved
      exact ⟨hconserved, htoQueue, hisAlive, trivial⟩
  | yield place empty =>
      rw [place] at hconserved
      exact ⟨hconserved, htoQueue, hisAlive, trivial⟩
  | find place nonempty =>
      rw [place] at hconserved
      exact ⟨hconserved, htoQueue, hisAlive, nonempty⟩
  | lock place free =>
      rw [place] at hconserved hknows
      exact ⟨hconserved, htoQueue, hisAlive, hknows⟩
  | front place head =>
      rw [place] at hconserved
      exact ⟨hconserved, htoQueue, hisAlive, head⟩
  | @pop request place nonempty =>
      rw [place] at hconserved hknows
      have hhead : c.requestQueue.head? = some request := hknows
      refine ⟨?_, htoQueue, hisAlive, trivial⟩
      show c.queued = c.dispatched ++ [request] ++ c.requestQueue.tail
      rw [hconserved, List.append_assoc _ [request], List.singleton_append,
        List.cons_head?_tail hhead]
      simp [DispatcherThread.inHand]
  | unlock place =>
      rw [place] at hconserved
      exact ⟨hconserved, htoQueue, hisAlive, trivial⟩
  | @dispatch request place =>
      rw [place] at hconserved
      refine ⟨?_, htoQueue, hisAlive, trivial⟩
      show c.queued = c.dispatched ++ [request] ++ [] ++ c.requestQueue
      rw [hconserved, List.append_nil]
      rfl
  | undefined place empty =>
      -- a place with the mutex knows that the queue is not empty
      exfalso
      rcases place with place | ⟨request, place⟩
      · rw [place] at hknows
        exact hknows empty
      · rw [place, empty] at hknows
        cases hknows

/-- A step of one thread is checked against what the other one knows. -/
theorem Orderly.step (h : c.Orderly calls) (taken : c.step thread = some c') :
    c'.Orderly calls := by
  rcases step_cases taken with hmain | hdispatcher
  · exact h.mainStep hmain
  · exact h.dispatcherStep hdispatcher

/-- Once `is_alive` is cleared, `main` is in the destructor. -/
theorem Orderly.deletes (h : c.Orderly calls) (hdead : c.isAlive = false) :
    c.main.deletes = true := by
  have hisAlive := h.isAlive
  rw [hdead] at hisAlive
  exact Bool.not_eq_eq_eq_not.mp hisAlive.symm

/-- Nobody has the mutex. -/
theorem locked_start (calls : List Request) : (start calls).Locked := ⟨rfl, rfl⟩

/-- A step that is none on the mutex. -/
theorem Locked.congr (h : c.Locked) (hlock : c'.requestQueueLock = c.requestQueueLock)
    (hmain : c'.main.holdsLock = c.main.holdsLock)
    (hdispatcher : c'.dispatcher.holdsLock = c.dispatcher.holdsLock) : c'.Locked := by
  refine ⟨?_, ?_⟩
  · rw [hlock, hmain, hdispatcher, h.taken]
  · rw [hmain, hdispatcher, h.exclusive]

/-- `main` has the mutex where it should, -/
theorem Locked.mainStep (h : c.Locked) (step : MainStep c c') : c'.Locked := by
  cases step with
  | skip place error => exact h.congr rfl (by rw [place]; rfl) rfl
  | lock place noError free =>
      have htaken := h.taken
      rw [place, free] at htaken
      exact ⟨rfl, htaken.symm⟩
  | push place => exact h.congr rfl (by rw [place]; rfl) rfl
  | unlock place =>
      have hexclusive := h.exclusive
      rw [place] at hexclusive
      exact ⟨hexclusive.symm, rfl⟩
  | delete place => exact h.congr rfl (by rw [place]; rfl) rfl
  | join place ended => exact h.congr rfl (by rw [place]; rfl) rfl

/-- and so has the dispatcher, -/
theorem Locked.dispatcherStep (h : c.Locked) (step : DispatcherStep c c') : c'.Locked := by
  cases step with
  | alive place alive => exact h.congr rfl rfl (by rw [place]; rfl)
  | notAlive place dead => exact h.congr rfl rfl (by rw [place]; rfl)
  | leave place empty => exact h.congr rfl rfl (by rw [place]; rfl)
  | stay place nonempty => exact h.congr rfl rfl (by rw [place]; rfl)
  | yield place empty => exact h.congr rfl rfl (by rw [place]; rfl)
  | find place nonempty => exact h.congr rfl rfl (by rw [place]; rfl)
  | lock place free =>
      have hmain : c.main.holdsLock = false := by
        have htaken := h.taken
        rw [place, free] at htaken
        exact (Bool.or_eq_false_iff.mp htaken.symm).1
      exact ⟨(Bool.or_true _).symm, by rw [hmain]; rfl⟩
  | front place head => exact h.congr rfl rfl (by rw [place]; rfl)
  | pop place nonempty => exact h.congr rfl rfl (by rw [place]; rfl)
  | unlock place =>
      have hmain : c.main.holdsLock = false := by
        have hexclusive := h.exclusive
        rw [place] at hexclusive
        exact (Bool.and_true _).symm.trans hexclusive
      exact ⟨by rw [hmain]; rfl, Bool.and_false _⟩
  | dispatch place => exact h.congr rfl rfl (by rw [place]; rfl)
  | undefined place empty =>
      refine h.congr rfl rfl ?_
      rcases place with place | ⟨request, place⟩
      · rw [place]
        rfl
      · rw [place]
        rfl

/-- whoever moves. -/
theorem Locked.step (h : c.Locked) (taken : c.step thread = some c') : c'.Locked := by
  rcases step_cases taken with hmain | hdispatcher
  · exact h.mainStep hmain
  · exact h.dispatcherStep hdispatcher

/-- Left alone, the steps of a call are `queue_request`. -/
theorem queueRequest_alone {request : Request} (place : c.main = .calling (request :: calls))
    (free : c.requestQueueLock = false) :
    ∃ n c', perform step c (List.replicate n .main) = some c' ∧ c'.main = .calling calls ∧
      c'.requestQueueLock = false ∧
      c'.requestQueue = RequestDispatcher.queueRequest request c.requestQueue := by
  by_cases herror : request.type = .error
  · refine ⟨1, { c with main := .calling calls }, ?_, rfl, free, ?_⟩
    · simp [perform, step, stepMain, place, herror]
    · rw [RequestDispatcher.queueRequest, if_pos herror]
  · refine ⟨3, { c with
        requestQueueLock := false
        requestQueue := c.requestQueue ++ [request]
        queued := c.queued ++ [request]
        main := .calling calls }, ?_, rfl, rfl, ?_⟩
    · simp [perform, step, stepMain, place, herror, free]
    · rw [RequestDispatcher.queueRequest, if_neg herror]

end Steps

/-! ## Nothing is lost -/

section Runs

variable {calls : List Request} {schedule : List ClientThread} {c c' : ClientThreads}

/-- At any point of any run, -/
theorem orderly_of_run (run : Runs step Always (start calls) schedule c) : c.Orderly calls :=
  run.invariant (Orderly calls) (orderly_start calls) fun _ _ _ h _ taken => h.step taken

/-- the mutex included. -/
theorem locked_of_run (run : Runs step Always (start calls) schedule c) : c.Locked :=
  run.invariant Locked (locked_start calls) fun _ _ _ h _ taken => h.step taken

/-- What `main` queues ends with the KILL. -/
theorem getLast_queuedRequests {inputs : List Text} (h : mainCalls inputs = .ok calls) :
    (queuedRequests calls).getLast? = some Request.kill := by
  unfold mainCalls at h
  cases hlines : inputs.mapM lineCalls with
  | error problem =>
      rw [hlines] at h
      cases h
  | ok lines =>
      rw [hlines] at h
      cases h
      rw [queuedRequests, List.filter_append]
      exact List.getLast?_concat ..

/-- **Nothing is lost between `main` and the dispatcher.**  For any calls of `queue_request`,
followed by the destructor, and any interleaving with `process_requests`: what has been dispatched
is at all times the beginning of what has been queued, no request is taken from an empty queue,
and once `process_requests` has returned everything has been dispatched, the KILL of `main` as
the last. -/
theorem loses_nothing (run : Runs step Always (start calls) schedule c) :
    (c.dispatched <+: c.queued ∧ c.queued <+: queuedRequests calls) ∧
      c.dispatcher ≠ .undefined ∧
      (c.dispatcher = .returned → c.dispatched = queuedRequests calls ∧
        ∀ inputs, mainCalls inputs = .ok calls →
          c.dispatched.getLast? = some Request.kill) := by
  have horderly := orderly_of_run run
  have hconserved := horderly.conserved
  have htoQueue := horderly.toQueue
  have hknows := horderly.knows
  refine ⟨⟨?_, ?_⟩, fun hundefined => ?_, fun hreturned => ?_⟩
  · rw [hconserved, List.append_assoc]
    exact List.prefix_append ..
  · rw [htoQueue]
    exact List.prefix_append ..
  · rw [hundefined] at hknows
    exact hknows
  · rw [hreturned] at hknows hconserved
    obtain ⟨hdead, hempty⟩ := hknows
    have hdone : c.main.toQueue = [] := MainThread.toQueue_of_deletes (horderly.deletes hdead)
    have hall : c.dispatched = queuedRequests calls := by
      rw [htoQueue, hconserved, hdone, hempty]
      simp [DispatcherThread.inHand]
    refine ⟨hall, fun inputs hinputs => ?_⟩
    rw [hall, getLast_queuedRequests hinputs]

/-- A payment, a line that is none, and the end of the input. -/
def threeCalls : List Request := [⟨33554442, 5, .req⟩, Request.error, Request.kill]

/-- The dispatcher looks first and finds nothing; when it looks again, `main` is through. -/
def lateLook : List ClientThread :=
  List.replicate 2 .dispatcher ++ List.replicate 8 .main ++ List.replicate 18 .dispatcher

/-- The dispatcher looks at the queue for the last time after `main` is through. -/
theorem loses_nothing_threeCalls :
    ∃ c, Runs step Always (start threeCalls) lateLook c ∧ c.dispatched <+: c.queued ∧
      c.dispatched = queuedRequests threeCalls ∧
      c.dispatched.getLast? = some Request.kill := by
  have hinputs : mainCalls ["10.0.0.2 5".toList, "nonsense".toList] = .ok threeCalls := by
    decide +kernel
  have hrun : (perform step (start threeCalls) lateLook).any
      (fun c => decide (c.dispatcher = .returned)) = true := by
    decide
  obtain ⟨c, run, hc⟩ := exists_runs_of_any hrun
  obtain ⟨⟨hbeginning, -⟩, -, hreturned⟩ := loses_nothing run
  obtain ⟨hall, hlast⟩ := hreturned (of_decide_eq_true hc)
  exact ⟨c, run, hbeginning, hall, hlast _ hinputs⟩

/-! ## The end -/

/-- Where `main` can be without a next step. -/
theorem main_of_blocked (h : c.stepMain = none) :
    (c.main.holdsLock = false ∧ c.main.deletes = false ∧ c.requestQueueLock = true) ∨
      (c.main = .joining ∧ c.dispatcher ≠ .returned) ∨ c.main = .joined := by
  cases hmain : c.main with
  | calling calls =>
      cases calls with
      | nil => simp [stepMain, hmain] at h
      | cons request calls =>
          by_cases herror : request.type = .error
          · simp [stepMain, hmain, herror] at h
          · simp only [stepMain, hmain, if_neg herror, ite_eq_left_iff] at h
            refine Or.inl ⟨rfl, rfl, ?_⟩
            by_contra hfree
            exact nomatch h hfree
  | pushing request calls => simp [stepMain, hmain] at h
  | unlocking calls => simp [stepMain, hmain] at h
  | joining =>
      simp only [stepMain, hmain, ite_eq_right_iff] at h
      exact Or.inr (Or.inl ⟨rfl, fun hended => nomatch h hended⟩)
  | joined => exact Or.inr (Or.inr rfl)

/-- The same for `process_requests`. -/
theorem dispatcher_of_blocked (h : c.stepDispatcher = none) :
    (c.dispatcher = .locking ∧ c.requestQueueLock = true) ∨ c.dispatcher = .returned ∨
      c.dispatcher = .undefined := by
  cases hplace : c.dispatcher with
  | locking =>
      simp only [stepDispatcher, hplace, ite_eq_left_iff] at h
      refine Or.inl ⟨rfl, ?_⟩
      by_contra hfree
      exact nomatch h hfree
  | taking => cases hqueue : c.requestQueue <;> simp [stepDispatcher, hplace, hqueue] at h
  | popping request => cases hqueue : c.requestQueue <;> simp [stepDispatcher, hplace, hqueue] at h
  | returned => exact Or.inr (Or.inl rfl)
  | undefined => exact Or.inr (Or.inr rfl)
  | testAlive => simp [stepDispatcher, hplace] at h
  | testEmpty => simp [stepDispatcher, hplace] at h
  | testAgain => simp [stepDispatcher, hplace] at h
  | unlocking request => simp [stepDispatcher, hplace] at h
  | dispatching request => simp [stepDispatcher, hplace] at h

/-- **No thread waits in vain.**  If neither can take a step, both have come to their ends. -/
theorem joined_of_stuck (run : Runs step Always (start calls) schedule c)
    (hstuck : ∀ thread, c.step thread = none) : c.main = .joined ∧ c.dispatcher = .returned := by
  have horderly := orderly_of_run run
  have hknows := horderly.knows
  have htaken := (locked_of_run run).taken
  rcases dispatcher_of_blocked (hstuck .dispatcher) with ⟨hplace, hlock⟩ | hplace | hplace
  · -- the dispatcher waits for the mutex, which is then with `main`
    rw [hplace, hlock] at htaken
    have hholds : c.main.holdsLock = true := (Bool.or_false _).symm.trans htaken.symm
    rcases main_of_blocked (hstuck .main) with ⟨hfree, -⟩ | ⟨hmain, -⟩ | hmain
    · exact nomatch hfree.symm.trans hholds
    · rw [hmain] at hholds
      cases hholds
    · rw [hmain] at hholds
      cases hholds
  · rw [hplace] at hknows
    rcases main_of_blocked (hstuck .main) with ⟨-, hmain, -⟩ | ⟨-, hended⟩ | hmain
    · exact nomatch hmain.symm.trans (horderly.deletes hknows.1)
    · exact absurd hplace hended
    · exact ⟨hmain, hplace⟩
  · rw [hplace] at hknows
    exact hknows.elim

/-- A bound to the steps that are left once `is_alive` is cleared. -/
def remaining (c : ClientThreads) : ℕ :=
  10 * c.requestQueue.length + (if c.main = .joined then 0 else 1) +
    match c.dispatcher with
    | .testAlive => 9
    | .testEmpty => 8
    | .testAgain => if c.requestQueue = [] then 10 else 7
    | .locking => 6
    | .taking => 5
    | .popping _ => 4
    | .unlocking _ => 11
    | .dispatching _ => 10
    | .returned => 0
    | .undefined => 0

/-- In the destructor `main` only waits. -/
theorem MainStep.remaining_lt (step : MainStep c c') (h : c.main.deletes = true) :
    c'.isAlive = c.isAlive ∧ c'.remaining < c.remaining := by
  cases step with
  | join place ended => exact ⟨rfl, by simp [remaining, place]⟩
  | skip place error =>
      rw [place] at h
      cases h
  | lock place noError free =>
      rw [place] at h
      cases h
  | push place =>
      rw [place] at h
      cases h
  | unlock place =>
      rw [place] at h
      cases h
  | delete place =>
      rw [place] at h
      cases h

/-- The dispatcher only goes back to its loop condition to come out of it, or a request later. -/
theorem DispatcherStep.remaining_lt (step : DispatcherStep c c') (hdead : c.isAlive = false) :
    c'.isAlive = c.isAlive ∧ c'.remaining < c.remaining := by
  cases step with
  | alive place alive => exact nomatch hdead.symm.trans alive
  | notAlive place dead => exact ⟨rfl, by simp [remaining, place]⟩
  | leave place empty => exact ⟨rfl, by simp [remaining, place]⟩
  | stay place nonempty => exact ⟨rfl, by simp [remaining, place, nonempty]⟩
  | yield place empty => exact ⟨rfl, by simp [remaining, place, empty]⟩
  | find place nonempty => exact ⟨rfl, by simp [remaining, place, nonempty]⟩
  | lock place free => exact ⟨rfl, by simp [remaining, place]⟩
  | front place head => exact ⟨rfl, by simp [remaining, place]⟩
  | pop place nonempty =>
      have hpos := List.length_pos_iff.mpr nonempty
      refine ⟨rfl, ?_⟩
      simp only [remaining, place, List.length_tail]
      omega
  | unlock place => exact ⟨rfl, by simp [remaining, place]⟩
  | dispatch place => exact ⟨rfl, by simp [remaining, place]⟩
  | undefined place empty =>
      refine ⟨rfl, ?_⟩
      rcases place with place | ⟨request, place⟩
      · simp [remaining, place]
      · simp [remaining, place]

/-- Once `is_alive` is cleared every step brings the end nearer. -/
theorem Orderly.remaining_lt (h : c.Orderly calls) (hdead : c.isAlive = false)
    {thread : ClientThread} (taken : c.step thread = some c') :
    c'.isAlive = c.isAlive ∧ c'.remaining < c.remaining := by
  rcases step_cases taken with hmain | hdispatcher
  · exact hmain.remaining_lt (h.deletes hdead)
  · exact hdispatcher.remaining_lt hdead

/-- **The dispatcher does not go on for ever.**  There is a bound to the steps that are taken once
`is_alive` is cleared, and the last one leaves both threads at their ends (`joined_of_stuck`). -/
theorem length_le_remaining (run : Runs step Always (start calls) schedule c)
    (hdead : c.isAlive = false) {more : List ClientThread}
    (run' : Runs step Always c more c') : more.length ≤ c.remaining := by
  have hbound := run'.length_add_le (fun c => c.Orderly calls ∧ c.isAlive = false) remaining
    ⟨orderly_of_run run, hdead⟩ ?_
  · omega
  · intro c thread c' h taken
    obtain ⟨hsame, hless⟩ := h.1.remaining_lt h.2 taken
    exact ⟨⟨h.1.step taken, hsame.trans h.2⟩, hless⟩

end Runs

end ClientThreads

end Brix
