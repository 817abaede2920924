import Brix.Foundation.Accounts
import Mathlib.Algebra.BigOperators.Group.Finset.Piecewise

/-!
# What calls have in hand

Threads move a stock from one place of a memory to another, in several accesses: in between, the
calls have some of it in hand.  They also bring some in from outside, and take some out.  If a call
has nothing in hand when it takes a mutex or gives one back, and moves all that it has taken, then
nothing gets lost between the threads, whatever their accesses do in between.

* `Stock` — what there is in a memory, and what an access brings in and takes out
* `Carries` — code with so much in hand
* `exists_inHand` — what is in the memory, what is in hand and what has been taken out make up
  what there was and what has been brought in

### What is load-bearing

Natural numbers are subtracted nowhere.  What is in the memory, in hand and paid out is one side
of an equation, what there was and what was brought in is the other, and an access moves a part
from one term to another on the same side or adds to both.  What a call has in hand is determined
by the code that it has left (`Carries`), not recorded in the configuration, so no step of the
model knows about it.
-/

namespace LockProgram

open Execution

universe u v

variable {Mem Mutex Result Call Tid : Type u} {M : Type v}

/-- A stock, how much of it an access brings in or takes out for good, and who can have some in
hand.  Accesses need only be right as long as the stock is below its capacity. -/
structure Stock (Mem Mutex Call : Type u) where
  stored : Mem → ℕ
  broughtIn : Call → Mem → Mem → ℕ
  takenOut : Call → Mem → Mem → ℕ
  mayCarry : Call → Set Mutex → ℕ → Prop
  capacity : ℕ

variable (B : Books Mem Mutex Call M) (S : Stock Mem Mutex Call)

/-- Code with `n` in hand, whatever others do to what it has not locked. -/
def Carries (call : Call) : Prog Mem Mutex Result → Set Mutex → Mem → ℕ → Prop
  | .ret _, _, _, n => n = 0
  | .lock mutex next, held, mem, n => n = 0 ∧ ∀ mem', B.Agree held mem mem' → B.valid held mem' →
      Carries call next (insert mutex held) mem' 0
  | .unlock mutex next, held, mem, n => n = 0 ∧ Carries call next (held \ {mutex}) mem 0
  | .access update next, held, mem, n => (n ≠ 0 → S.mayCarry call held n) ∧
      ∀ mem', B.Agree held mem mem' → B.valid held mem' → ∃ n',
        (S.stored mem' + n < S.capacity →
          S.stored (update mem') + n' + S.takenOut call mem' (update mem')
            = S.stored mem' + n + S.broughtIn call mem' (update mem')) ∧
        Carries call (next mem') held (update mem') n'

section Rules

variable {B S} {held : Set Mutex} {mem mem' : Mem} {n : ℕ} {call : Call}
  {prog : Prog Mem Mutex Result}

/-- What a call has in hand does not depend on what others change. -/
theorem Carries.congr (h : Carries B S call prog held mem n) (hagree : B.Agree held mem mem') :
    Carries B S call prog held mem' n := by
  induction prog generalizing held mem n with
  | ret result => exact h
  | lock mutex next ih => exact ⟨h.1, fun mem'' hagree' => h.2 mem'' (hagree.trans hagree')⟩
  | unlock mutex next ih => exact ⟨h.1, ih h.2 (hagree.mono Set.sdiff_subset)⟩
  | access update next ih => exact ⟨h.1, fun mem'' hagree' => h.2 mem'' (hagree.trans hagree')⟩

/-- Something in hand is in the right hands. -/
theorem Carries.mayCarry (h : Carries B S call prog held mem n) (hn : n ≠ 0) :
    S.mayCarry call held n := by
  cases prog with
  | ret result => exact absurd h hn
  | lock mutex next => exact absurd h.1 hn
  | unlock mutex next => exact absurd h.1 hn
  | access update next => exact h.1 hn

end Rules

/-! ## Runs -/

/-- What the threads have in hand. -/
structure InHand (c : Config Mem Mutex Result Call Tid) (inHand : Tid → ℕ) : Prop where
  idle : ∀ t, (c.thread t).active = none → inHand t = 0
  carried : ∀ t call prog, (c.thread t).active = some (call, prog) →
    Carries B S call prog (c.holds t) c.mem (inHand t)

/-- What the next step of a thread counts. -/
def stepCount (count : Call → Mem → Mem → ℕ) (c : Config Mem Mutex Result Call Tid) (t : Tid) : ℕ :=
  match (c.thread t).active with
  | some (call, .access update _) => count call c.mem (update c.mem)
  | _ => 0

variable {B S}

/-- Nobody has anything in hand. -/
theorem inHand_start (mem : Mem) (calls : Tid → List Call) :
    InHand B S (Config.start mem calls : Config Mem Mutex Result Call Tid) fun _ => 0 :=
  ⟨fun _ _ => rfl, fun _ _ _ hactive => absurd hactive (Option.some_ne_none _).symm⟩

variable [DecidableEq Tid] {c c' : Config Mem Mutex Result Call Tid} {t : Tid} {inHand : Tid → ℕ}

/-- A thread moves on. -/
theorem InHand.advance (h : InHand B S c inHand) {n : ℕ}
    (hthreads : ∀ u, u ≠ t → c'.thread u = c.thread u)
    (hholds : ∀ u, u ≠ t → c'.holds u = c.holds u)
    (hmem : ∀ u, u ≠ t → B.Agree (c.holds u) c.mem c'.mem)
    (hidle : (c'.thread t).active = none → n = 0)
    (hcarried : ∀ call prog, (c'.thread t).active = some (call, prog) →
      Carries B S call prog (c'.holds t) c'.mem n) :
    InHand B S c' (Function.update inHand t n) := by
  refine ⟨fun u hu => ?_, fun u call prog hu => ?_⟩
  · by_cases hut : u = t
    · rw [hut] at hu
      rw [hut, Function.update_self]
      exact hidle hu
    · rw [hthreads u hut] at hu
      rw [Function.update_of_ne hut]
      exact h.idle u hu
  · by_cases hut : u = t
    · rw [hut] at hu
      rw [hut, Function.update_self]
      exact hcarried call prog hu
    · rw [hthreads u hut] at hu
      rw [Function.update_of_ne hut, hholds u hut]
      exact (h.carried u call prog hu).congr (hmem u hut)

variable [DecidableEq Mutex] {body : Call → Prog Mem Mutex Result}

/-- **One step.**  What a thread takes from the memory it has in hand then, but for what comes from
outside or goes there. -/
theorem InHand.step [AddCommGroup M] (h : InHand B S c inHand)
    (hbody : ∀ call mem, Carries B S call (body call) ∅ mem 0)
    (tidy : c.Tidy) (hvalid : B.Valid c) (hsettled : Asserts (Settled B) c)
    (taken : LockProgram.step body c t = some c') :
    ∃ n, InHand B S c' (Function.update inHand t n) ∧
      (S.stored c.mem + inHand t < S.capacity →
        S.stored c'.mem + n + stepCount S.takenOut c t
          = S.stored c.mem + inHand t + stepCount S.broughtIn c t) := by
  have hthreads : ∀ {c : Config Mem Mutex Result Call Tid} {th} u, u ≠ t →
      (c.setThread t th).thread u = c.thread u := fun u hut => Config.setThread_of_ne _ hut _
  rcases step_cases taken with ⟨call, rest, hactive, hpending, rfl⟩ | ⟨call, result, hactive, rfl⟩ |
    ⟨call, mutex, next, hactive, hfree, rfl⟩ | ⟨call, mutex, next, hactive, rfl⟩ |
    ⟨call, update, next, hactive, rfl⟩
  · -- a call begins empty-handed
    refine ⟨0, h.advance hthreads (fun _ _ => rfl) (fun u _ => .refl _ c.mem) (fun _ => rfl)
      fun call' prog hactive' => ?_, fun _ => ?_⟩
    · rw [Config.setThread_self] at hactive'
      cases hactive'
      show Carries B S call (body call) (c.holds t) c.mem 0
      rw [tidy.idle t hactive]
      exact hbody call c.mem
    · rw [h.idle t hactive, stepCount, stepCount, hactive]
      rfl
  · -- and returns so
    have hzero : inHand t = 0 := h.carried t call _ hactive
    refine ⟨0, h.advance hthreads (fun _ _ => rfl) (fun u _ => .refl _ c.mem) (fun _ => rfl)
      fun call' prog hactive' => ?_, fun _ => ?_⟩
    · rw [Config.setThread_self] at hactive'
      cases hactive'
    · rw [hzero, stepCount, stepCount, hactive]
      rfl
  · -- nothing is carried across a lock
    obtain ⟨hzero, hnext⟩ := h.carried t call _ hactive
    refine ⟨0, h.advance hthreads (fun u hut => Config.holds_lock_of_ne hfree hut)
      (fun u _ => .refl _ c.mem) (fun _ => rfl) fun call' prog hactive' => ?_, fun _ => ?_⟩
    · rw [Config.setThread_self] at hactive'
      cases hactive'
      have hlocked := hnext c.mem (.refl _ c.mem) (hvalid t)
      rw [← Config.holds_lock] at hlocked
      exact hlocked
    · rw [hzero, stepCount, stepCount, hactive]
      rfl
  · -- nor across an unlock
    obtain ⟨hzero, hnext⟩ := h.carried t call _ hactive
    refine ⟨0, h.advance hthreads
      (fun u hut => Config.holds_unlock_of_ne (tidy.mine t call mutex next hactive) hut)
      (fun u _ => .refl _ c.mem) (fun _ => rfl) fun call' prog hactive' => ?_, fun _ => ?_⟩
    · rw [Config.setThread_self] at hactive'
      cases hactive'
      rw [← Config.holds_unlock] at hnext
      exact hnext
    · rw [hzero, stepCount, stepCount, hactive]
      rfl
  · -- only an access changes what is in hand, by what it takes out or puts back
    obtain ⟨n, hcount, hnext⟩ :=
      (h.carried t call _ hactive).2 c.mem (.refl _ c.mem) (hvalid t)
    obtain ⟨debt, hsettles⟩ := hsettled t call _ hactive
    have hframe := (hsettles c.mem (.refl _ c.mem) (hvalid t)).1
    refine ⟨n, h.advance hthreads (fun _ _ => rfl)
      (fun u hut => hframe.agree (c.disjoint_holds hut)) (fun hidle => ?_)
      fun call' prog hactive' => ?_, fun hcapacity => ?_⟩
    · rw [Config.setThread_self] at hidle
      cases hidle
    · rw [Config.setThread_self] at hactive'
      cases hactive'
      exact hnext
    · rw [stepCount, stepCount, hactive]
      exact hcount hcapacity

/-- **Runs.**  What is stored, what is in hand and what has been taken out make up what was stored
at first and what has been brought in. -/
theorem exists_inHand [AddCommGroup M] [Fintype Tid] {mem : Mem} {calls : Tid → List Call}
    (hbody : ∀ call mem, Carries B S call (body call) ∅ mem 0)
    (hgood : ∀ {schedule c},
      Runs (LockProgram.step body) Always (Config.start mem calls) schedule c →
        c.Tidy ∧ B.Valid c ∧ Asserts (Settled B) c) {schedule : List Tid}
    (run : Runs (LockProgram.step body) Always (Config.start mem calls) schedule c)
    (hcapacity : S.stored mem
      + tally (LockProgram.step body) (stepCount S.broughtIn) (Config.start mem calls) schedule
        < S.capacity) :
    ∃ inHand, InHand B S c inHand ∧
      S.stored c.mem + ∑ t, inHand t
        + tally (LockProgram.step body) (stepCount S.takenOut) (Config.start mem calls) schedule
      = S.stored mem + tally (LockProgram.step body) (stepCount S.broughtIn)
          (Config.start mem calls) schedule := by
  induction run with
  | nil => exact ⟨fun _ => 0, inHand_start mem calls, by simp [tally, Config.start]⟩
  | @snoc schedule c c' t run _ taken ih =>
      rw [run.tally_snoc taken] at hcapacity
      obtain ⟨inHand, h, hstored⟩ := ih (by omega)
      obtain ⟨tidy, hvalid, hsettled⟩ := hgood run
      obtain ⟨n, hnext, hstep⟩ := h.step hbody tidy hvalid hsettled taken
      have hbefore := Finset.add_sum_erase Finset.univ inHand (Finset.mem_univ t)
      have hafter := Finset.sum_update_of_mem (Finset.mem_univ t) inHand n
      rw [Finset.sdiff_singleton_eq_erase] at hafter
      have hmoved := hstep (by omega)
      refine ⟨Function.update inHand t n, hnext, ?_⟩
      rw [run.tally_snoc taken, run.tally_snoc taken, hafter]
      omega

end LockProgram
