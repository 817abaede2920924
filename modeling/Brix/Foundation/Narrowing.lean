import Mathlib.Tactic.Linarith

/-!
# Integers narrowed to a width

A conversion to a signed type of `m = 2 ^ w` values keeps `Int.bmod x m` of an integer `x` and
forgets `Int.bdiv x m`: which of the stretches of `m` integers around the multiples of `m` it was
in.  Narrowed integers compare as the integers do, and are as far apart, exactly if what is
forgotten does not matter.

### What is load-bearing

`Int.bmod` is the value that is kept and `Int.bdiv` is what is lost, and an integer is put
together from the two.  A difference of two narrowed integers is off by `m` times the difference
of what was lost, a comparison goes wrong if that is not zero and the integers are on the wrong
sides; so both results come from one equation, and no case distinction on signs is made.
-/

namespace Narrowing

variable {m : ℕ} {x y : ℤ}

/-- Two pairs of integers compare the same way. -/
structure SameOrder (a b x y : ℤ) : Prop where
  eq_iff : a = b ↔ x = y
  lt_iff : a < b ↔ x < y
  gt_iff : b < a ↔ y < x

/-- The order of a pair may be asked for from either end. -/
theorem SameOrder.symm {a b : ℤ} (h : SameOrder a b x y) : SameOrder b a y x where
  eq_iff := by rw [eq_comm, h.eq_iff, eq_comm]
  lt_iff := h.gt_iff
  gt_iff := h.lt_iff

/-- Two integers with `x < y` compare like `a` and `b` if `a < b`, and not otherwise. -/
theorem sameOrder_iff_of_lt {a b : ℤ} (h : x < y) : SameOrder a b x y ↔ a < b := by
  constructor
  · intro hsame
    exact hsame.lt_iff.mpr h
  · intro hlt
    exact ⟨iff_of_false hlt.ne h.ne, iff_of_true hlt h, iff_of_false hlt.asymm h.asymm⟩

/-- An integer of a lower stretch is smaller. -/
theorem lt_of_bdiv_lt (hm : 0 < m) (h : x.bdiv m < y.bdiv m) : x < y := by
  have hx := Int.bmod_lt (x := x) hm
  have hy := Int.le_bmod (x := y) hm
  have hstep : (m : ℤ) * x.bdiv m + m ≤ m * y.bdiv m := by
    have hmul := mul_le_mul_of_nonneg_left (Int.add_one_le_of_lt h) (Int.natCast_nonneg m)
    rwa [mul_add, mul_one] at hmul
  have hxsum := Int.bdiv_add_bmod x m
  have hysum := Int.bdiv_add_bmod y m
  omega

/-- Narrowed integers are as far apart as the integers exactly if they are in one stretch. -/
theorem bmod_sub_bmod_iff (hm : 0 < m) :
    y.bmod m - x.bmod m = y - x ↔ x.bdiv m = y.bdiv m := by
  have hxsum := Int.bdiv_add_bmod x m
  have hysum := Int.bdiv_add_bmod y m
  constructor
  · intro h
    have hmul : (m : ℤ) * x.bdiv m = m * y.bdiv m := by omega
    exact mul_left_cancel₀ (by omega) hmul
  · intro h
    rw [h] at hxsum
    omega

/-- **Comparing narrowed integers.**  It is right for two integers of one stretch, and for two
others if the one of the higher stretch is the greater one when narrowed, too. -/
theorem sameOrder_bmod_iff (hm : 0 < m) :
    SameOrder (x.bmod m) (y.bmod m) x y ↔
      x.bdiv m = y.bdiv m ∨ (x.bdiv m < y.bdiv m ∧ x.bmod m < y.bmod m) ∨
        (y.bdiv m < x.bdiv m ∧ y.bmod m < x.bmod m) := by
  rcases lt_trichotomy (x.bdiv m) (y.bdiv m) with hlt | heq | hgt
  · rw [sameOrder_iff_of_lt (lt_of_bdiv_lt hm hlt)]
    simp [hlt, hlt.ne, hlt.asymm]
  · have hdiff := (bmod_sub_bmod_iff hm).mpr heq
    exact iff_of_true ⟨by omega, by omega, by omega⟩ (Or.inl heq)
  · have hsymm : SameOrder (x.bmod m) (y.bmod m) x y ↔ SameOrder (y.bmod m) (x.bmod m) y x :=
      ⟨SameOrder.symm, SameOrder.symm⟩
    rw [hsymm, sameOrder_iff_of_lt (lt_of_bdiv_lt hm hgt)]
    simp [hgt, hgt.ne', hgt.asymm]

end Narrowing
