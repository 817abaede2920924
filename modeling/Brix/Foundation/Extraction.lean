import Brix.Foundation.Text

/-!
# What a stream gives up

`iss >> word` and `iss >> n` skip whitespace, take the longest run of characters that will do, and
leave the rest in the stream.  Both are given here by the texts that they succeed on, with what
they extract and what they leave.

* `span_iff` — a longest run, and what is behind it
* `extractWord_eq_some_iff`, `extractUnsigned_eq_some_iff` — the texts on which extraction succeeds

### The design

Stream extraction is greedy, and what it leaves behind is determined by what it takes.  So the
facts are equivalences with the whole text on one side: a text is a blank stretch, the longest
run, and a rest that does not continue the run.  Several extractions in a row compose by putting
the rest of one in the place of the text of the next.
-/

namespace Text

/-- Whitespace, or nothing. -/
def IsBlank (t : Text) : Prop := ∀ c ∈ t, isSpace c = true

/-- A sign, or none. -/
def IsSign (t : Text) : Prop := t = [] ∨ t = ['+'] ∨ t = ['-']

/-- The longest run of some characters, and what is behind it. -/
theorem span_iff {α : Type} {p : α → Bool} {s run rest : List α} :
    (s.takeWhile p = run ∧ s.dropWhile p = rest) ↔
      s = run ++ rest ∧ (∀ a ∈ run, p a = true) ∧ ∀ a ∈ rest.head?, p a = false := by
  constructor
  · rintro ⟨rfl, rfl⟩
    refine ⟨List.takeWhile_append_dropWhile.symm, fun a ha => List.mem_takeWhile_imp ha,
      fun a ha => ?_⟩
    have hne : s.dropWhile p ≠ [] := by
      intro hnil
      rw [hnil] at ha
      cases ha
    rw [List.head?_eq_some_head hne] at ha
    cases ha
    exact List.head_dropWhile_not p hne
  · rintro ⟨rfl, hrun, hrest⟩
    rw [List.takeWhile_append_of_pos hrun, List.dropWhile_append_of_pos hrun]
    cases rest with
    | nil => exact ⟨List.append_nil run, rfl⟩
    | cons a rest =>
        have ha : ¬ p a = true := Bool.eq_false_iff.mp (hrest a rfl)
        rw [List.takeWhile_cons_of_neg ha, List.dropWhile_cons_of_neg ha]
        exact ⟨List.append_nil run, rfl⟩

/-- Whitespace is skipped. -/
theorem dropWhile_isSpace_eq_iff {s start : Text} :
    s.dropWhile isSpace = start ↔ ∃ blank, s = blank ++ start ∧ IsBlank blank ∧
      ∀ c ∈ start.head?, isSpace c = false := by
  constructor
  · intro h
    obtain ⟨hs, hblank, hstart⟩ := span_iff.mp ⟨rfl, h⟩
    exact ⟨_, hs, hblank, hstart⟩
  · rintro ⟨blank, hs, hblank, hstart⟩
    exact (span_iff.mpr ⟨hs, hblank, hstart⟩).2

/-- **Extraction of a word.** -/
theorem extractWord_eq_some_iff {s word rest : Text} :
    extractWord s = some (word, rest) ↔ ∃ blank, s = blank ++ (word ++ rest) ∧ IsBlank blank ∧
      IsWord word ∧ ∀ c ∈ rest.head?, isSpace c = true := by
  constructor
  · intro h
    obtain ⟨blank, hs, hblank, hstart⟩ :=
      dropWhile_isSpace_eq_iff.mp (Eq.refl (s.dropWhile isSpace))
    unfold extractWord at h
    generalize s.dropWhile isSpace = start at h hs hstart
    simp only [Option.ite_none_left_eq_some, Option.some.injEq, Prod.mk.injEq] at h
    obtain ⟨hne, hspan⟩ := h
    obtain ⟨hword, hrun, hrest⟩ := span_iff.mp hspan
    simp only [Bool.not_eq_eq_eq_not, Bool.not_true, Bool.not_false] at hrun hrest
    refine ⟨blank, hword ▸ hs, hblank, ⟨?_, hrun⟩, hrest⟩
    rintro rfl
    -- the first character is no whitespace
    cases start with
    | nil => exact hne rfl
    | cons c start =>
        have hc := hrest c (by rw [← List.nil_append rest, ← hword]; rfl)
        rw [hstart c rfl] at hc
        cases hc
  · rintro ⟨blank, rfl, hblank, hword, hrest⟩
    have hdrop : (blank ++ (word ++ rest)).dropWhile isSpace = word ++ rest := by
      rw [List.dropWhile_append_of_pos hblank]
      exact dropWhile_isSpace hword rest
    have hstart : extractWord (blank ++ (word ++ rest)) = extractWord (word ++ rest) := by
      unfold extractWord
      rw [hdrop, dropWhile_isSpace hword rest]
    rw [hstart]
    exact extractWord_word hword hrest

/-- The sign, and what follows it. -/
theorem exists_sign (s : Text) : ∃ sign, IsSign sign ∧ s = sign ++ (scanSign s).2 ∧
    ((scanSign s).1 = true ↔ sign = ['-']) := by
  cases s with
  | nil => exact ⟨[], Or.inl rfl, rfl, by decide⟩
  | cons c rest =>
      rw [scanSign]
      by_cases hminus : c = '-'
      · rw [if_pos hminus, hminus]
        exact ⟨['-'], Or.inr (Or.inr rfl), rfl, iff_of_true rfl rfl⟩
      rw [if_neg hminus]
      by_cases hplus : c = '+'
      · rw [if_pos hplus, hplus]
        exact ⟨['+'], Or.inr (Or.inl rfl), rfl, iff_of_false Bool.false_ne_true (by decide)⟩
      · rw [if_neg hplus]
        exact ⟨[], Or.inl rfl, rfl, iff_of_false Bool.false_ne_true (by decide)⟩

/-- A sign in front of a numeral is found as what it is. -/
theorem scanSign_append {sign digits rest : Text} (hsign : IsSign sign)
    (hdigits : IsNatural digits) :
    scanSign (sign ++ (digits ++ rest)) = (decide (sign = ['-']), digits ++ rest) := by
  rcases hsign with rfl | rfl | rfl
  · obtain ⟨c, tail, rfl⟩ := List.exists_cons_of_ne_nil hdigits.1
    have hc : c.isDigit = true := hdigits.2 c List.mem_cons_self
    have hminus : c ≠ '-' := by
      rintro rfl
      exact absurd hc (by decide)
    have hplus : c ≠ '+' := by
      rintro rfl
      exact absurd hc (by decide)
    rw [List.nil_append, List.cons_append, scanSign, if_neg hminus, if_neg hplus]
    rfl
  · rfl
  · rfl

/-- A numeral is a word. -/
theorem isWord_numeral {sign digits : Text} (hsign : IsSign sign) (hdigits : IsNatural digits) :
    IsWord (sign ++ digits) := by
  refine ⟨List.append_ne_nil_of_right_ne_nil sign hdigits.1, fun c hc => ?_⟩
  rcases List.mem_append.mp hc with hc | hc
  · rcases hsign with rfl | rfl | rfl
    · cases hc
    · rw [List.mem_singleton.mp hc]
      decide
    · rw [List.mem_singleton.mp hc]
      decide
  · exact isSpace_of_isDigit (hdigits.2 c hc)

/-- **Extraction of an unsigned number.**  It may have a sign, and whatever is no digit may follow
it at once. -/
theorem extractUnsigned_eq_some_iff {s rest : Text} {n : UInt32} :
    extractUnsigned s = some (n, rest) ↔ ∃ blank sign digits,
      s = blank ++ (sign ++ (digits ++ rest)) ∧ IsBlank blank ∧ IsSign sign ∧ IsNatural digits ∧
      (∀ c ∈ rest.head?, c.isDigit = false) ∧ naturalValue digits < 2 ^ 32 ∧
      n = if sign = ['-'] then 0 - UInt32.ofNat (naturalValue digits)
        else UInt32.ofNat (naturalValue digits) := by
  constructor
  · intro h
    obtain ⟨blank, hs, hblank, -⟩ := dropWhile_isSpace_eq_iff.mp (Eq.refl (s.dropWhile isSpace))
    obtain ⟨sign, hsign, hstart, hnegative⟩ := exists_sign (s.dropWhile isSpace)
    unfold extractUnsigned at h
    generalize scanSign (s.dropWhile isSpace) = scan at h hstart hnegative
    obtain ⟨negative, tail⟩ := scan
    simp only [Option.ite_none_left_eq_some, Option.some.injEq, Prod.mk.injEq, not_or,
      Nat.not_le] at h
    obtain ⟨⟨hne, hfits⟩, hn, hrest⟩ := h
    obtain ⟨htail, hdigits, hend⟩ := span_iff.mp ⟨rfl, hrest⟩
    refine ⟨blank, sign, _, ?_, hblank, hsign, ⟨hne, hdigits⟩, hend, hfits, ?_⟩
    · rw [← htail, ← hstart]
      exact hs
    · rw [← hn]
      exact if_congr hnegative rfl rfl
  · rintro ⟨blank, sign, digits, rfl, hblank, hsign, hdigits, hrest, hfits, rfl⟩
    have hdrop : (blank ++ (sign ++ (digits ++ rest))).dropWhile isSpace
        = sign ++ (digits ++ rest) := by
      rw [List.dropWhile_append_of_pos hblank, ← List.append_assoc]
      exact dropWhile_isSpace (isWord_numeral hsign hdigits) rest
    obtain ⟨hrun, hleft⟩ := span_iff.mpr ⟨rfl, hdigits.2, hrest⟩
    unfold extractUnsigned
    rw [hdrop, scanSign_append hsign hdigits]
    have hread : ¬ (digits = [] ∨ 2 ^ 32 ≤ Nat.ofDigitChars 10 digits 0) :=
      not_or.mpr ⟨hdigits.1, Nat.not_le.mpr hfits⟩
    simp only [hrun, hleft, if_neg hread, decide_eq_true_eq]
    rfl

end Text
