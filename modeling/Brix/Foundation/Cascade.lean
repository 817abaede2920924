import Mathlib.Algebra.Order.BigOperators.Group.Finset
import Mathlib.Data.Finset.Max
import Mathlib.Tactic.Ring

/-!
# Cascades

Something happens a number of times to each of finitely many members, and it happens to a member
at most `c` times by itself and once for each time it happens to a lower one.  Then it doubles
with every member: all in all it happens fewer than `c * 2 ^ card` times.

The induction removes the greatest member.  It is bounded by all the others, nobody is bounded by
it, and the others are a cascade among themselves.
-/

namespace Cascade

variable {ι κ : Type*} [LinearOrder κ] {rank : ι → κ} {f : ι → ℕ} {c : ℕ}

/-- The bound, for members that are told apart by their ranks. -/
theorem add_sum_le (hrank : Function.Injective rank) (s : Finset ι)
    (h : ∀ i ∈ s, f i ≤ c + ∑ j ∈ s with rank j < rank i, f j) :
    c + ∑ i ∈ s, f i ≤ c * 2 ^ s.card := by
  classical
  induction s using Finset.induction_on_max_value rank with
  | empty => simp
  | insert top s hnotMem hmax ih =>
      have hbelow : ∀ i ∈ s, rank i < rank top := by
        intro i hi
        refine lt_of_le_of_ne (hmax i hi) fun heq => hnotMem ?_
        rw [← hrank heq]
        exact hi
      -- nobody is affected by the new member, and it is affected by all others
      have hothers : ∀ i ∈ s, f i ≤ c + ∑ j ∈ s with rank j < rank i, f j := by
        intro i hi
        have hi' := h i (Finset.mem_insert_of_mem hi)
        rwa [Finset.filter_insert, if_neg (hbelow i hi).asymm] at hi'
      have htop : f top ≤ c + ∑ j ∈ s, f j := by
        have htop' := h top (Finset.mem_insert_self top s)
        rwa [Finset.filter_insert, if_neg (lt_irrefl _), Finset.filter_true_of_mem hbelow] at htop'
      have hdouble := ih hothers
      rw [Finset.sum_insert hnotMem, Finset.card_insert_of_notMem hnotMem]
      calc c + (f top + ∑ i ∈ s, f i) ≤ 2 * (c + ∑ i ∈ s, f i) := by omega
        _ ≤ 2 * (c * 2 ^ s.card) := Nat.mul_le_mul_left 2 hdouble
        _ = c * 2 ^ (s.card + 1) := by ring

end Cascade
