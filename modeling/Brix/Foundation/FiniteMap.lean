import Mathlib.Data.Finmap
import Mathlib.Algebra.BigOperators.Group.Multiset.Basic
import Mathlib.Algebra.Order.BigOperators.Group.Multiset
import Mathlib.Tactic.Linarith

/-!
# Totals over finite maps

A finite map is Mathlib's `Finmap` with a constant family: extensional equality,
no iteration order.  What the library does not have is the accounting of a
quantity carried by the values, `Finmap.total f m = Σ_{(k, v) ∈ m} f v`, and how
the map operations move it.  The sum is taken in `ℕ`, so the identities hold with
no bound on the values.
-/

namespace Finmap

variable {K V : Type*} [DecidableEq K]

/-- Putting an erased entry back restores the map. -/
theorem insert_erase_self {m : Finmap fun _ : K => V} {k : K} {v : V}
    (h : m.lookup k = some v) : (m.erase k).insert k v = m := by
  refine ext_lookup fun k' => ?_
  by_cases hk : k' = k
  · subst hk
    rw [lookup_insert, h]
  · rw [lookup_insert_of_ne _ hk, lookup_erase_ne hk]

/-- Overwriting a key forgets what was stored under it. -/
theorem insert_erase_insert {m : Finmap fun _ : K => V} {k : K} {v : V} :
    (m.erase k).insert k v = m.insert k v := by
  refine ext_lookup fun k' => ?_
  by_cases hk : k' = k
  · subst hk
    rw [lookup_insert, lookup_insert]
  · rw [lookup_insert_of_ne _ hk, lookup_insert_of_ne _ hk, lookup_erase_ne hk]

/-- The keys after an insertion. -/
@[simp] theorem keys_insert (m : Finmap fun _ : K => V) (k : K) (v : V) :
    (m.insert k v).keys = Insert.insert k m.keys := by
  ext k'
  simp [mem_keys, mem_insert]

/-- The sum of `f` over the values of the map. -/
def total (f : V → ℕ) (m : Finmap fun _ : K => V) : ℕ :=
  (m.entries.map fun entry => f entry.2).sum

variable (f : V → ℕ)

/-- A new entry adds its own share. -/
theorem total_insert_of_notMem {m : Finmap fun _ : K => V} {k : K} (h : k ∉ m)
    (v : V) : total f (m.insert k v) = f v + total f m := by
  rw [total, total, entries_insert_of_notMem h, Multiset.map_cons, Multiset.sum_cons]

/-- Erasing a present key takes its value's share out of the total. -/
theorem total_erase_add {m : Finmap fun _ : K => V} {k : K} {v : V}
    (h : m.lookup k = some v) : total f (m.erase k) + f v = total f m := by
  have hinsert := total_insert_of_notMem f (m := m.erase k) notMem_erase_self v
  rw [insert_erase_self h] at hinsert
  omega

/-- Overwriting a present key exchanges the old share for the new one. -/
theorem total_insert_add {m : Finmap fun _ : K => V} {k : K} {old : V}
    (h : m.lookup k = some old) (v : V) :
    total f (m.insert k v) + f old = total f m + f v := by
  have herase := total_erase_add f h
  have hinsert := total_insert_of_notMem f (m := m.erase k) notMem_erase_self v
  rw [insert_erase_insert] at hinsert
  omega

/-- No entry has more than all of them. -/
theorem le_total {m : Finmap fun _ : K => V} {k : K} {v : V}
    (h : m.lookup k = some v) : f v ≤ total f m := by
  have := total_erase_add f h
  omega

/-- Two different keys together hold no more than the total. -/
theorem add_le_total {m : Finmap fun _ : K => V} {k k' : K} {v v' : V}
    (hne : k ≠ k') (h : m.lookup k = some v) (h' : m.lookup k' = some v') :
    f v + f v' ≤ total f m := by
  have herase := total_erase_add f h
  have hrest : f v' ≤ total f (m.erase k) :=
    le_total f (by rwa [lookup_erase_ne hne.symm])
  omega

/-- Moving `amount` of the measured quantity between two different keys leaves
the total alone. -/
theorem total_move {m : Finmap fun _ : K => V} {k k' : K} {v v' w w' : V}
    {amount : ℕ} (hne : k ≠ k') (h : m.lookup k = some v)
    (h' : m.lookup k' = some v') (hw : f w + amount = f v)
    (hw' : f w' = f v' + amount) :
    total f ((m.insert k w).insert k' w') = total f m := by
  have hfirst := total_insert_add f h w
  have hlookup : (m.insert k w).lookup k' = some v' := by
    rwa [lookup_insert_of_ne _ hne.symm]
  have hsecond := total_insert_add f hlookup w'
  omega

omit [DecidableEq K] in
/-- There is one entry for each key. -/
theorem card_entries (m : Finmap fun _ : K => V) : Multiset.card m.entries = m.keys.card :=
  (Multiset.card_map ..).symm

/-- If no share is above `k`. -/
theorem total_le_card_mul {m : Finmap fun _ : K => V} {k : ℕ}
    (h : ∀ key v, m.lookup key = some v → f v ≤ k) : total f m ≤ m.keys.card * k := by
  rw [← card_entries, total, ← Nat.nsmul_eq_mul, ← Multiset.card_map fun entry => f entry.2]
  refine Multiset.sum_le_card_nsmul _ k fun share hshare => ?_
  obtain ⟨⟨key, v⟩, hmem, rfl⟩ := Multiset.mem_map.mp hshare
  exact h key v (lookup_eq_some_iff.mpr hmem)

/-- If no share is below `k`. -/
theorem card_mul_le_total {m : Finmap fun _ : K => V} {k : ℕ}
    (h : ∀ key v, m.lookup key = some v → k ≤ f v) : m.keys.card * k ≤ total f m := by
  rw [← card_entries, total, ← Nat.nsmul_eq_mul, ← Multiset.card_map fun entry => f entry.2]
  refine Multiset.card_nsmul_le_sum fun share hshare => ?_
  obtain ⟨⟨key, v⟩, hmem, rfl⟩ := Multiset.mem_map.mp hshare
  exact h key v (lookup_eq_some_iff.mpr hmem)

end Finmap
