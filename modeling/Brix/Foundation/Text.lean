import Mathlib.Data.List.Basic
import Mathlib.Data.List.Induction
import Mathlib.Data.List.TakeWhile
import Mathlib.Tactic.IntervalCases
import Mathlib.Tactic.Linarith

/-!
# C strings, token streams and decimal numbers

A `std::string` is the list of its characters.  This file gives the pieces of the
C++ standard library that a whitespace-separated text protocol is made of:

* `tokens` — what a loop of `iss >> token` collects from an `istringstream`;
* `showNat`, `showInt` — what `operator<<` and `std::to_string` print;
* `stoi`, `stol`, `stoul` — the throwing conversions, each a prefix scan
  (`scanDecimal`) followed by the range check of its type;
* `strtok`, `atoi` — the same jobs as C does them;
* `index` — unchecked `operator[]` on a vector, whose out-of-bounds read is
  undefined behaviour and is recorded as such.

The facts a codec proof needs are `tokens_word_space` (a word followed by a blank
is the next token), the round trips `stoi_showInt`, `stol_showInt` and
`stoul_showNat`, and `tokens_prefix`: cutting a text anywhere drops a suffix of
its tokens and may shorten the last one that is left.

### The design

A text is a list of characters because everything that is done to it here is done from the front.
Conversions return `Except`, with the exception that the source would see; an out-of-bounds read
is a fault of its own, so that a result which excludes it says so.

What the library functions accept and what a grammar allows are kept apart.  `scanDecimal` is the
function, which stops at the first character it does not like; `IsNatural`, `IsInteger` and
`IsSigned` are the texts that are numerals as a whole.  A claim that a reader accepts exactly the
well-formed texts is a claim that the two agree, and often they do not.
-/

/-- A byte string, character by character. -/
abbrev Text := List Char

namespace Text

/-- How a call can fail to return: the two exceptions of the numeric conversions,
and a read outside an object. -/
inductive Fault
  | invalidArgument
  | outOfRange
  | undefinedBehaviour
  deriving DecidableEq, Repr

/-- What a sequence of calls that returned went through. -/
theorem bind_eq_ok {ε α β : Type} {x : Except ε α} {f : α → Except ε β} {b : β} :
    (x >>= f) = .ok b ↔ ∃ a, x = .ok a ∧ f a = .ok b := by
  cases x with
  | error e => exact ⟨fun h => (nomatch h), fun ⟨_, h, _⟩ => (nomatch h)⟩
  | ok a => exact ⟨fun h => ⟨a, rfl, h⟩, fun ⟨_, h, h'⟩ => by cases h; exact h'⟩

/-- `std::isspace` in the C locale. -/
def isSpace (c : Char) : Bool :=
  c == ' ' || c == '\t' || c == '\n' || c == '\x0b' || c == '\x0c' || c == '\r'

/-! ## Tokens -/

/-- A word is a nonempty text without whitespace. -/
def IsWord (w : Text) : Prop := w ≠ [] ∧ ∀ c ∈ w, isSpace c = false

-- decided along the text; the characters are finitely many, but too many to try
instance (w : Text) : Decidable (IsWord w) :=
  @instDecidableAnd _ _ _ (List.decidableBAll (fun c => isSpace c = false) w)

/-- A word has no blank in it. -/
theorem IsWord.notMem {w : Text} (hw : IsWord w) {c : Char} (hc : isSpace c = true) : c ∉ w := by
  intro hmem
  rw [hw.2 c hmem] at hc
  cases hc

/-- The token collected so far, if there is one. -/
def flush (word : Text) : List Text := if word = [] then [] else [word]

/-- The tokens of a text whose current token already starts with `word`. -/
def tokensFrom (word : Text) : Text → List Text
  | [] => flush word
  | c :: rest =>
      if isSpace c then flush word ++ tokensFrom [] rest
      else tokensFrom (word ++ [c]) rest

/-- What `while (iss >> token) tokens.push_back(token);` collects. -/
def tokens (s : Text) : List Text := tokensFrom [] s

/-- Nothing has no tokens. -/
@[simp] theorem tokens_nil : tokens [] = [] := rfl

/-- Characters of the current token accumulate. -/
theorem tokensFrom_append {w : Text} (hw : ∀ c ∈ w, isSpace c = false)
    (word rest : Text) : tokensFrom word (w ++ rest) = tokensFrom (word ++ w) rest := by
  induction w generalizing word with
  | nil => simp
  | cons c w ih =>
      have hc : isSpace c = false := hw c List.mem_cons_self
      have htail : ∀ d ∈ w, isSpace d = false := fun d hd => hw d (List.mem_cons_of_mem _ hd)
      rw [List.cons_append, tokensFrom, if_neg (by simp [hc]), ih htail]
      simp

/-- A word followed by a blank is the next token. -/
theorem tokens_word_space {w : Text} (hw : IsWord w) {c : Char} (hc : isSpace c = true)
    (rest : Text) : tokens (w ++ c :: rest) = w :: tokens rest := by
  rw [tokens, tokensFrom_append hw.2, List.nil_append, tokensFrom, if_pos hc, flush,
    if_neg hw.1]
  rfl

/-- A word at the end of the text is the last token. -/
theorem tokens_word {w : Text} (hw : IsWord w) : tokens w = [w] := by
  have h := tokensFrom_append hw.2 [] []
  rw [List.append_nil, List.nil_append] at h
  rw [tokens, h, tokensFrom, flush, if_neg hw.1]

/-- A word and the blank after it. -/
def field (word : Text) : Text := word ++ [' ']

/-- A field is a token. -/
theorem tokens_field {word : Text} (hword : IsWord word) (rest : Text) :
    tokens (field word ++ rest) = word :: tokens rest := by
  rw [field, List.append_assoc]
  exact tokens_word_space hword (by decide) rest

/-- A token that has been started stays the head and only grows. -/
private theorem tokensFrom_head {word : Text} (hne : word ≠ []) (s : Text) :
    ∃ grown rest, tokensFrom word s = grown :: rest ∧ word <+: grown := by
  induction s generalizing word with
  | nil => exact ⟨word, [], by rw [tokensFrom, flush, if_neg hne], List.prefix_rfl⟩
  | cons c s ih =>
      rw [tokensFrom]
      split
      · exact ⟨word, tokensFrom [] s, by rw [flush, if_neg hne]; rfl, List.prefix_rfl⟩
      · have hgrown : word ++ [c] ≠ [] := by simp
        obtain ⟨grown, rest, heq, hpre⟩ := ih hgrown
        exact ⟨grown, rest, heq, (List.prefix_append word [c]).trans hpre⟩

/-- **Cutting a text.**  A prefix of a text has no token at all, or its tokens are
those of the whole text up to some token, of which it may have lost the end. -/
theorem tokens_prefix {p s : Text} (h : p <+: s) :
    tokens p = [] ∨ ∃ before cut word after,
      tokens s = before ++ word :: after ∧ tokens p = before ++ [cut] ∧ cut <+: word := by
  obtain ⟨q, rfl⟩ := h
  -- the induction carries the token that is open where `p` starts
  have hgen : ∀ (p word : Text), tokensFrom word p = [] ∨ ∃ before cut full after,
      tokensFrom word (p ++ q) = before ++ full :: after ∧
        tokensFrom word p = before ++ [cut] ∧ cut <+: full := by
    intro p
    induction p with
    | nil =>
        intro word
        by_cases hne : word = []
        · exact Or.inl (by rw [tokensFrom, flush, if_pos hne])
        · obtain ⟨grown, rest, heq, hpre⟩ := tokensFrom_head hne q
          exact Or.inr ⟨[], word, grown, rest, heq,
            by rw [tokensFrom, flush, if_neg hne]; rfl, hpre⟩
    | cons c p ih =>
        intro word
        rw [List.cons_append, tokensFrom, tokensFrom]
        split
        · rcases ih [] with hnil | ⟨before, cut, full, after, hfull, hcut, hpre⟩
          · by_cases hne : word = []
            · exact Or.inl (by rw [hnil, flush, if_pos hne]; rfl)
            · refine Or.inr ⟨[], word, word, tokensFrom [] (p ++ q), ?_, ?_, List.prefix_rfl⟩
              · rw [flush, if_neg hne]; rfl
              · rw [hnil, flush, if_neg hne]; rfl
          · refine Or.inr ⟨flush word ++ before, cut, full, after, ?_, ?_, hpre⟩
            · rw [hfull, List.append_assoc]
            · rw [hcut, List.append_assoc]
        · exact ih (word ++ [c])
  exact hgen p []

/-- A cut text has no more tokens than the whole. -/
theorem length_tokens_le_of_prefix {p s : Text} (h : p <+: s) :
    (tokens p).length ≤ (tokens s).length := by
  rcases tokens_prefix h with hnil | ⟨before, cut, word, after, hs, hp, -⟩
  · rw [hnil]
    exact Nat.zero_le _
  · rw [hs, hp]
    simp

/-- Every character of a text that is not whitespace is in one of its tokens. -/
theorem exists_token_of_mem {s : Text} {c : Char} (hc : isSpace c = false) (h : c ∈ s) :
    ∃ w ∈ tokens s, c ∈ w := by
  have hflush : ∀ word : Text, c ∈ word → ∃ w ∈ flush word, c ∈ w := by
    intro word hmem
    refine ⟨word, ?_, hmem⟩
    rw [flush, if_neg (List.ne_nil_of_mem hmem)]
    exact List.mem_singleton_self word
  have hgen : ∀ s word : Text, c ∈ word ∨ c ∈ s → ∃ w ∈ tokensFrom word s, c ∈ w := by
    intro s
    induction s with
    | nil =>
        intro word hmem
        exact hflush word (hmem.resolve_right (by simp))
    | cons d rest ih =>
        intro word hmem
        rw [tokensFrom]
        split
        · rename_i hd
          rcases hmem with hmem | hmem
          · obtain ⟨w, hw, hcw⟩ := hflush word hmem
            exact ⟨w, List.mem_append_left _ hw, hcw⟩
          · have hne : c ≠ d := by
              rintro rfl
              rw [hc] at hd
              cases hd
            obtain ⟨w, hw, hcw⟩ := ih [] (Or.inr ((List.mem_cons.mp hmem).resolve_left hne))
            exact ⟨w, List.mem_append_right _ hw, hcw⟩
        · refine ih (word ++ [d]) ?_
          rcases hmem with hmem | hmem
          · exact Or.inl (List.mem_append_left _ hmem)
          · rcases List.mem_cons.mp hmem with rfl | hmem
            · exact Or.inl (by simp)
            · exact Or.inr hmem
  exact hgen s [] (Or.inr h)

/-- What repeated calls of `strtok` collect, with a delimiter that stays the same. -/
def strtok (delimiter : Char) (s : Text) : List Text :=
  (s.splitOn delimiter).filter fun word => !word.isEmpty

/-- The first token of a text that does not begin with the delimiter is at its front. -/
theorem strtok_starts {delimiter c : Char} {rest word : Text} {words : List Text}
    (hc : c ≠ delimiter) (h : strtok delimiter (c :: rest) = word :: words) :
    word <+: c :: rest := by
  obtain ⟨first, others, hsplit⟩ := List.exists_cons_of_ne_nil (List.splitOn_ne_nil delimiter rest)
  have hall : (c :: rest).splitOn delimiter = (c :: first) :: others := by
    rw [List.splitOn_cons_eq_if_modifyHead, if_neg (by simpa using hc), hsplit]
    rfl
  have hword : word = c :: first := by
    rw [strtok, hall, List.filter_cons_of_pos (by simp)] at h
    exact (List.cons.inj h).1.symm
  have hjoin : [delimiter].intercalate ((c :: rest).splitOn delimiter) = c :: rest :=
    List.intercalate_splitOn delimiter
  rw [hall] at hjoin
  rw [hword, ← hjoin]
  cases others with
  | nil => exact ⟨[], (List.append_nil _).trans List.intercalate_singleton.symm⟩
  | cons second others =>
      rw [List.intercalate_cons_cons, List.append_assoc]
      exact List.prefix_append _ _

/-! ## Receive buffers -/

/-- What a C function is shown of a text: it ends at the first NUL. -/
def cString (s : Text) : Text := s.takeWhile (· ≠ '\x00')

/-- Without a NUL a C string is the whole text. -/
theorem cString_of_notMem {s : Text} (h : '\x00' ∉ s) : cString s = s :=
  List.takeWhile_eq_self_iff.mpr fun c hc => by
    simp only [decide_eq_true_eq]
    rintro rfl
    exact h hc

/-- What a receive buffer of `size` bytes holds of a datagram, read as a C string. -/
def inBuffer (size : ℕ) (datagram : Text) : Text :=
  (datagram.take size).takeWhile (· ≠ '\x00')

/-- A text without a NUL is cut by the buffer only. -/
theorem inBuffer_of_notMem {size : ℕ} {datagram : Text} (h : '\x00' ∉ datagram.take size) :
    inBuffer size datagram = datagram.take size :=
  cString_of_notMem h

/-- A text without a NUL that fits is received as it was sent. -/
theorem inBuffer_of_length_le {size : ℕ} {datagram : Text} (hnul : '\x00' ∉ datagram)
    (hlength : datagram.length ≤ size) : inBuffer size datagram = datagram := by
  rw [inBuffer_of_notMem fun hmem => hnul (List.mem_of_mem_take hmem),
    List.take_of_length_le hlength]

/-! ## Decimal numbers -/

/-- How an unsigned number is printed. -/
def showNat (n : ℕ) : Text := Nat.toDigits 10 n

/-- How a signed number is printed. -/
def showInt (z : ℤ) : Text := if z < 0 then '-' :: showNat z.natAbs else showNat z.natAbs

/-- A numeral consists of digits, -/
theorem isDigit_of_mem_showNat {n : ℕ} {c : Char} (h : c ∈ showNat n) : c.isDigit = true :=
  Nat.isDigit_of_mem_toDigits (by decide) (by decide) h

/-- and of nothing else, -/
theorem notMem_showNat {c : Char} (hc : c.isDigit = false) (n : ℕ) : c ∉ showNat n := by
  intro hmem
  rw [isDigit_of_mem_showNat hmem] at hc
  cases hc

/-- and is never empty. -/
theorem showNat_ne_nil (n : ℕ) : showNat n ≠ [] := Nat.toDigits_ne_nil

/-- A digit is no blank. -/
theorem isSpace_of_isDigit {c : Char} (h : c.isDigit = true) : isSpace c = false := by
  by_contra hspace
  rw [Bool.not_eq_false] at hspace
  simp only [isSpace, Bool.or_eq_true, beq_iff_eq] at hspace
  rcases hspace with ((((rfl | rfl) | rfl) | rfl) | rfl) | rfl <;> revert h <;> decide

/-- A numeral is a word. -/
theorem isWord_showNat (n : ℕ) : IsWord (showNat n) :=
  ⟨showNat_ne_nil n, fun _ hc => isSpace_of_isDigit (isDigit_of_mem_showNat hc)⟩

/-- So is a signed one. -/
theorem isWord_showInt (z : ℤ) : IsWord (showInt z) := by
  rw [showInt]
  split
  · refine ⟨by simp, fun c hc => ?_⟩
    rcases List.mem_cons.mp hc with rfl | hc
    · decide
    · exact (isWord_showNat _).2 c hc
  · exact isWord_showNat _

/-- A number below a power of ten has as many digits at most. -/
theorem length_showNat_le {n k : ℕ} (hk : 0 < k) (h : n < 10 ^ k) :
    (showNat n).length ≤ k :=
  (Nat.length_toDigits_le_iff (by decide) hk).mpr h

/-- A sign is one more. -/
theorem length_showInt_le {z : ℤ} {k : ℕ} (hk : 0 < k) (h : z.natAbs < 10 ^ k) :
    (showInt z).length ≤ k + 1 := by
  have hdigits := length_showNat_le hk h
  rw [showInt]
  split
  · rw [List.length_cons]
    omega
  · omega

/-- Printing loses nothing: the digits name the number. -/
@[simp] theorem ofDigitChars_showNat (n : ℕ) : Nat.ofDigitChars 10 (showNat n) 0 = n :=
  Nat.ofDigitChars_ten_toDigits

/-- An optional sign: whether it is a minus, and what follows it. -/
def scanSign : Text → Bool × Text
  | [] => (false, [])
  | c :: rest => if c = '-' then (true, rest) else if c = '+' then (false, rest)
      else (false, c :: rest)

/-- The scan of `strtol` and `strtoul`: skip whitespace, read an optional sign and
the longest run of digits; `none` when there is no digit. -/
def scanDecimal (s : Text) : Option (Bool × ℕ) :=
  let sign := scanSign (s.dropWhile isSpace)
  let digits := sign.2.takeWhile Char.isDigit
  if digits = [] then none else some (sign.1, Nat.ofDigitChars 10 digits 0)

/-- The value a scan stands for. -/
def signed : Bool × ℕ → ℤ
  | (true, n) => -n
  | (false, n) => n

/-- `std::stoi`. -/
def stoi (s : Text) : Except Fault Int32 :=
  match scanDecimal s with
  | none => .error .invalidArgument
  | some scan =>
      if -2 ^ 31 ≤ signed scan ∧ signed scan < 2 ^ 31 then .ok (Int32.ofInt (signed scan))
      else .error .outOfRange

/-- `std::stol`, for a 64-bit `long`. -/
def stol (s : Text) : Except Fault Int64 :=
  match scanDecimal s with
  | none => .error .invalidArgument
  | some scan =>
      if -2 ^ 63 ≤ signed scan ∧ signed scan < 2 ^ 63 then .ok (Int64.ofInt (signed scan))
      else .error .outOfRange

/-- `std::stoul`, for a 64-bit `unsigned long`; a minus sign negates modulo `2 ^ 64`. -/
def stoul (s : Text) : Except Fault UInt64 :=
  match scanDecimal s with
  | none => .error .invalidArgument
  | some (negative, n) =>
      if n < 2 ^ 64 then .ok (if negative then 0 - UInt64.ofNat n else UInt64.ofNat n)
      else .error .outOfRange

/-- `atoi`: the scan saturates at the bounds of a 64-bit `long`, which is narrowed then. -/
def atoi (s : Text) : Int32 :=
  match scanDecimal s with
  | none => 0
  | some scan => Int32.ofInt (max (-2 ^ 63) (min (2 ^ 63 - 1) (signed scan)))

/-- A run of digits that ends where the text ends or a non-digit follows. -/
theorem takeWhile_digits {digits rest : Text} (hdigits : ∀ c ∈ digits, c.isDigit = true)
    (hrest : ∀ c ∈ rest.head?, c.isDigit = false) :
    (digits ++ rest).takeWhile Char.isDigit = digits := by
  rw [List.takeWhile_append_of_pos (by simpa using hdigits)]
  cases rest with
  | nil => simp
  | cons c rest => simp [hrest c (by simp)]

/-- Digits are scanned as the number that they are, -/
theorem scanDecimal_digits {digits : Text} (hne : digits ≠ [])
    (hdigits : ∀ c ∈ digits, c.isDigit = true) :
    scanDecimal digits = some (false, Nat.ofDigitChars 10 digits 0) := by
  obtain ⟨c, rest, rfl⟩ := List.exists_cons_of_ne_nil hne
  have hc := hdigits c List.mem_cons_self
  have hdrop : (c :: rest).dropWhile isSpace = c :: rest := by
    rw [List.dropWhile_cons_of_neg (by simp [isSpace_of_isDigit hc])]
  have htake : (c :: rest).takeWhile Char.isDigit = c :: rest :=
    List.takeWhile_eq_self_iff.mpr hdigits
  have hminus : c ≠ '-' := by rintro rfl; exact absurd hc (by decide)
  have hplus : c ≠ '+' := by rintro rfl; exact absurd hc (by decide)
  have hsign : scanSign (c :: rest) = (false, c :: rest) := by
    rw [scanSign, if_neg hminus, if_neg hplus]
  simp only [scanDecimal, hdrop, hsign, htake, if_neg hne]

/-- after a sign, -/
theorem scanDecimal_sign {sign : Char} {negative : Bool} (hspace : isSpace sign = false)
    (hsign : ∀ rest, scanSign (sign :: rest) = (negative, rest)) {digits : Text}
    (hne : digits ≠ []) (hdigits : ∀ c ∈ digits, c.isDigit = true) :
    scanDecimal (sign :: digits) = some (negative, Nat.ofDigitChars 10 digits 0) := by
  have hdrop : (sign :: digits).dropWhile isSpace = sign :: digits :=
    List.dropWhile_cons_of_neg (by simp [hspace])
  have htake : digits.takeWhile Char.isDigit = digits :=
    List.takeWhile_eq_self_iff.mpr hdigits
  simp only [scanDecimal, hdrop, hsign, htake, if_neg hne]

/-- which may be a minus -/
theorem scanDecimal_minus {digits : Text} (hne : digits ≠ [])
    (hdigits : ∀ c ∈ digits, c.isDigit = true) :
    scanDecimal ('-' :: digits) = some (true, Nat.ofDigitChars 10 digits 0) :=
  scanDecimal_sign rfl (fun _ => rfl) hne hdigits

/-- or a plus. -/
theorem scanDecimal_plus {digits : Text} (hne : digits ≠ [])
    (hdigits : ∀ c ∈ digits, c.isDigit = true) :
    scanDecimal ('+' :: digits) = some (false, Nat.ofDigitChars 10 digits 0) :=
  scanDecimal_sign rfl (fun _ => rfl) hne hdigits

/-- What is printed is scanned. -/
theorem scanDecimal_showNat (n : ℕ) : scanDecimal (showNat n) = some (false, n) := by
  rw [scanDecimal_digits (showNat_ne_nil n) fun _ hc => isDigit_of_mem_showNat hc,
    ofDigitChars_showNat]

/-- The scan reads back what was printed. -/
theorem scanDecimal_showInt (z : ℤ) :
    ∃ scan, scanDecimal (showInt z) = some scan ∧ signed scan = z := by
  rw [showInt]
  split
  · refine ⟨(true, z.natAbs), ?_, by simp only [signed]; omega⟩
    rw [scanDecimal_minus (showNat_ne_nil _) fun _ hc => isDigit_of_mem_showNat hc,
      ofDigitChars_showNat]
  · exact ⟨(false, z.natAbs), scanDecimal_showNat _, by simp only [signed]; omega⟩

/-- An `int` survives the round trip, -/
theorem stoi_showInt {z : ℤ} (h : -2 ^ 31 ≤ z ∧ z < 2 ^ 31) :
    stoi (showInt z) = .ok (Int32.ofInt z) := by
  obtain ⟨scan, hscan, rfl⟩ := scanDecimal_showInt z
  simp only [stoi, hscan, if_pos h]

/-- A printed `int` is read back. -/
theorem stoi_showInt_toInt (n : Int32) : stoi (showInt n.toInt) = .ok n := by
  rw [stoi_showInt ⟨n.le_toInt, n.toInt_lt⟩, Int32.ofInt_toInt]

/-- and so does a number that is one, -/
theorem stoi_showNat {n : ℕ} (h : n < 2 ^ 31) :
    stoi (showNat n) = .ok (Int32.ofInt n) := by
  have hrange : -2 ^ 31 ≤ (n : ℤ) ∧ (n : ℤ) < 2 ^ 31 := by omega
  simp only [stoi, scanDecimal_showNat, signed]
  exact if_pos hrange

/-- a `long`, -/
theorem stol_showInt {z : ℤ} (h : -2 ^ 63 ≤ z ∧ z < 2 ^ 63) :
    stol (showInt z) = .ok (Int64.ofInt z) := by
  obtain ⟨scan, hscan, rfl⟩ := scanDecimal_showInt z
  simp only [stol, hscan, if_pos h]

/-- A printed `long` is read back. -/
theorem stol_showInt_toInt (n : Int64) : stol (showInt n.toInt) = .ok n := by
  rw [stol_showInt ⟨n.le_toInt, n.toInt_lt⟩, Int64.ofInt_toInt]

/-- and an `unsigned long`. -/
theorem stoul_showNat {n : ℕ} (h : n < 2 ^ 64) :
    stoul (showNat n) = .ok (UInt64.ofNat n) := by
  simp only [stoul, scanDecimal_showNat, if_pos h]
  rfl

/-- An unsigned decimal numeral. -/
def IsNatural (t : Text) : Prop := t ≠ [] ∧ ∀ c ∈ t, c.isDigit = true

instance (t : Text) : Decidable (IsNatural t) :=
  haveI : Decidable (∀ c ∈ t, c.isDigit = true) := List.decidableBAll _ t
  inferInstanceAs (Decidable (_ ∧ _))

/-- The value of a numeral. -/
def naturalValue (t : Text) : ℕ := Nat.ofDigitChars 10 t 0

/-- A decimal numeral with an optional minus sign. -/
def IsInteger : Text → Prop
  | '-' :: digits => IsNatural digits
  | digits => IsNatural digits

/-- Its value. -/
def integerValue : Text → ℤ
  | '-' :: digits => -naturalValue digits
  | digits => naturalValue digits

/-- What is printed is a numeral. -/
theorem isNatural_showNat (n : ℕ) : IsNatural (showNat n) :=
  ⟨showNat_ne_nil n, fun _ hc => isDigit_of_mem_showNat hc⟩

/-- A numeral has no sign. -/
theorem IsNatural.head_ne_minus {t : Text} (h : IsNatural t) (digits : Text) :
    t ≠ '-' :: digits := by
  rintro rfl
  exact absurd (h.2 '-' List.mem_cons_self) (by decide)

/-- Without a sign the two values agree. -/
theorem IsNatural.integerValue {t : Text} (h : IsNatural t) :
    integerValue t = naturalValue t := by
  unfold Text.integerValue
  split
  · exact absurd rfl (h.head_ne_minus _)
  · rfl

/-- A numeral without a sign is one with an optional sign. -/
theorem IsNatural.isInteger {t : Text} (h : IsNatural t) : IsInteger t := by
  unfold IsInteger
  split
  · exact absurd rfl (h.head_ne_minus _)
  · exact h

/-- What is printed is a signed numeral. -/
theorem isInteger_showInt (z : ℤ) : IsInteger (showInt z) := by
  unfold showInt
  split
  · exact isNatural_showNat _
  · exact (isNatural_showNat _).isInteger

/-- An integer numeral is made of digits and a minus sign. -/
theorem IsInteger.isDigit_or {t : Text} (h : IsInteger t) {c : Char} (hc : c ∈ t) :
    c.isDigit = true ∨ c = '-' := by
  unfold IsInteger at h
  split at h
  · rcases List.mem_cons.mp hc with rfl | hc
    · exact Or.inr rfl
    · exact Or.inl (h.2 c hc)
  · exact Or.inl (h.2 c hc)

/-- There is no NUL in a numeral. -/
theorem IsInteger.nul_notMem {t : Text} (h : IsInteger t) : '\x00' ∉ t := by
  intro hmem
  rcases h.isDigit_or hmem with hdigit | hminus
  · exact absurd hdigit (by decide)
  · exact absurd hminus (by decide)

/-- The scan reads a whole numeral. -/
theorem scanDecimal_of_isInteger {t : Text} (h : IsInteger t) :
    ∃ scan, scanDecimal t = some scan ∧ signed scan = integerValue t := by
  unfold IsInteger at h
  unfold integerValue
  split at h
  · exact ⟨_, scanDecimal_minus h.1 h.2, rfl⟩
  · exact ⟨_, scanDecimal_digits h.1 h.2, rfl⟩

/-- The values an `int` can take. -/
def FitsInt (t : Text) : Prop := -2 ^ 31 ≤ integerValue t ∧ integerValue t < 2 ^ 31

instance (t : Text) : Decidable (FitsInt t) := inferInstanceAs (Decidable (_ ∧ _))

/-- A numeral in range is read as its value. -/
theorem stoi_of_fitsInt {t : Text} (h : IsInteger t) (hfits : FitsInt t) :
    stoi t = .ok (Int32.ofInt (integerValue t)) := by
  obtain ⟨scan, hscan, hvalue⟩ := scanDecimal_of_isInteger h
  rw [FitsInt, ← hvalue] at hfits
  simp only [stoi, hscan, ← hvalue, if_pos hfits]

/-- `stoi` reads a numeral exactly if it fits. -/
theorem stoi_isOk_iff {t : Text} (h : IsInteger t) : (∃ n, stoi t = .ok n) ↔ FitsInt t := by
  constructor
  · rintro ⟨n, hn⟩
    obtain ⟨scan, hscan, hvalue⟩ := scanDecimal_of_isInteger h
    by_contra hfits
    rw [FitsInt, ← hvalue] at hfits
    simp only [stoi, hscan, if_neg hfits] at hn
    cases hn
  · exact fun hfits => ⟨_, stoi_of_fitsInt h hfits⟩

/-- What `stol` returns: the value of the number that the text begins with. -/
theorem stol_eq_ok_iff {t : Text} {n : Int64} :
    stol t = .ok n ↔ ∃ scan, scanDecimal t = some scan ∧ n.toInt = signed scan := by
  have hlow := n.le_toInt
  have hhigh := n.toInt_lt
  cases hscan : scanDecimal t with
  | none => simp [stol, hscan]
  | some scan =>
      simp only [stol, hscan, Option.some.injEq, exists_eq_left']
      constructor
      · intro h
        split at h
        · rename_i hfits
          cases h
          exact Int64.toInt_ofInt_of_le hfits.1 hfits.2
        · cases h
      · intro h
        rw [if_pos (by omega), ← h, Int64.ofInt_toInt]

/-- What `stoul` returns. -/
theorem stoul_eq_ok_iff {t : Text} {n : UInt64} :
    stoul t = .ok n ↔ ∃ scan, scanDecimal t = some scan ∧ scan.2 < 2 ^ 64 ∧
      n = if scan.1 then 0 - UInt64.ofNat scan.2 else UInt64.ofNat scan.2 := by
  cases hscan : scanDecimal t with
  | none => simp [stoul, hscan]
  | some scan =>
      simp only [stoul, hscan, Option.some.injEq, exists_eq_left']
      constructor
      · intro h
        split at h
        · rename_i hfits
          exact ⟨hfits, (Except.ok.inj h).symm⟩
        · cases h
      · rintro ⟨hfits, rfl⟩
        exact if_pos hfits

/-- Of an unsigned numeral `stoul` returns the value. -/
theorem stoul_natural_iff {t : Text} (h : IsNatural t) {n : UInt64} :
    stoul t = .ok n ↔ n.toNat = naturalValue t := by
  rw [stoul_eq_ok_iff, scanDecimal_digits h.1 h.2]
  simp only [Option.some.injEq, exists_eq_left']
  constructor
  · rintro ⟨hfits, rfl⟩
    exact (UInt64.toNat_ofNat_of_lt' hfits)
  · intro hvalue
    have hfits : naturalValue t < 2 ^ 64 := hvalue ▸ n.toNat_lt
    refine ⟨hfits, UInt64.toNat_inj.mp (hvalue.trans ?_)⟩
    exact (UInt64.toNat_ofNat_of_lt' hfits).symm

/-- `stoul` reads an unsigned numeral exactly if it fits. -/
theorem stoul_isOk_iff {t : Text} (h : IsNatural t) :
    (∃ n, stoul t = .ok n) ↔ naturalValue t < 2 ^ 64 := by
  simp only [stoul_natural_iff h]
  constructor
  · rintro ⟨n, hn⟩
    rw [← hn]
    exact n.toNat_lt
  · intro hfits
    exact ⟨UInt64.ofNat (naturalValue t), UInt64.toNat_ofNat_of_lt' hfits⟩

/-- `atoi` of an unsigned numeral that fits. -/
theorem atoi_of_isNatural {t : Text} (h : IsNatural t) (hfits : naturalValue t < 2 ^ 31) :
    (atoi t).toInt = naturalValue t := by
  have hscan : scanDecimal t = some (false, naturalValue t) := scanDecimal_digits h.1 h.2
  have hvalue : max (-2 ^ 63) (min (2 ^ 63 - 1) (signed (false, naturalValue t)))
      = (naturalValue t : ℤ) := by
    rw [signed]
    omega
  simp only [atoi, hscan, hvalue]
  exact Int32.toInt_ofInt_of_le (by omega) (by omega)

/-- A digit is how its value is printed. -/
theorem digitChar_toNat_sub {c : Char} (h : c.isDigit = true) :
    Nat.digitChar (c.toNat - '0'.toNat) = c ∧ c.toNat - '0'.toNat < 10 := by
  simp only [Char.isDigit, ge_iff_le, UInt32.le_iff_toNat_le, Bool.and_eq_true,
    decide_eq_true_eq] at h
  have hlow : 48 ≤ c.toNat := h.1
  have hhigh : c.toNat ≤ 57 := h.2
  have hzero : '0'.toNat = 48 := rfl
  refine ⟨?_, by omega⟩
  obtain ⟨n, hn⟩ : ∃ n, c.toNat = 48 + n := ⟨c.toNat - 48, by omega⟩
  have hc : c = Char.ofNat (48 + n) := by rw [← hn, Char.ofNat_toNat]
  rw [hn, hc, hzero, Nat.add_sub_cancel_left]
  have hlt : n < 10 := by omega
  clear hn hc
  interval_cases n <;> rfl

/-- The value of a numeral with one digit more. -/
theorem naturalValue_concat (t : Text) (c : Char) :
    naturalValue (t ++ [c]) = 10 * naturalValue t + (c.toNat - '0'.toNat) := by
  rw [naturalValue, Nat.ofDigitChars_append, Nat.ofDigitChars_cons, Nat.ofDigitChars_nil]
  rfl

/-- A numeral without a leading zero is how its value is printed. -/
theorem showNat_naturalValue {t : Text} (h : IsNatural t)
    (hzero : t.head? = some '0' → t = ['0']) : showNat (naturalValue t) = t := by
  induction t using List.reverseRecOn with
  | nil => exact absurd rfl h.1
  | append_singleton t c ih =>
      obtain ⟨hdigit, hlt⟩ := digitChar_toNat_sub (h.2 c (by simp))
      rw [naturalValue_concat]
      by_cases hnil : t = []
      · subst hnil
        rw [naturalValue, Nat.ofDigitChars_nil, Nat.mul_zero, Nat.zero_add, showNat,
          Nat.toDigits_of_lt_base hlt, hdigit]
        rfl
      · have hhead : (t ++ [c]).head? = t.head? := List.head?_append_of_ne_nil _ hnil
        have hnozero : t.head? ≠ some '0' := by
          intro hfirst
          have hsingle := hzero (hhead.trans hfirst)
          have hlength := congrArg List.length hsingle
          have hpos := List.length_pos_iff.mpr hnil
          rw [List.length_append, List.length_singleton, List.length_singleton] at hlength
          omega
        have hshow := ih ⟨hnil, fun d hd => h.2 d (List.mem_append_left _ hd)⟩
          fun hfirst => absurd hfirst hnozero
        have hpos : 0 < naturalValue t := by
          rcases Nat.eq_zero_or_pos (naturalValue t) with hvalue | hpos
          · rw [hvalue] at hshow
            rw [← hshow] at hnozero
            exact absurd rfl hnozero
          · exact hpos
        rw [showNat, Nat.toDigits_of_base_le (by decide) (by omega),
          show (10 * naturalValue t + (c.toNat - '0'.toNat)) / 10 = naturalValue t by omega,
          show (10 * naturalValue t + (c.toNat - '0'.toNat)) % 10 = c.toNat - '0'.toNat by omega,
          hdigit]
        exact congrArg (· ++ [c]) hshow

/-- What is left of a printed number whose last digit is lost is another number. -/
theorem naturalValue_lt_of_prefix {n : ℕ} {cut : Text} (hne : cut ≠ [])
    (hstarts : cut <+: showNat n) (hproper : cut ≠ showNat n) : naturalValue cut < n := by
  obtain ⟨lost, hlost⟩ := hstarts
  have hlost_ne : lost ≠ [] := by
    rintro rfl
    exact hproper (by simpa using hlost)
  have hvalue : n = 10 ^ lost.length * naturalValue cut + Nat.ofDigitChars 10 lost 0 := by
    rw [← ofDigitChars_showNat n, ← hlost, Nat.ofDigitChars_append,
      Nat.ofDigitChars_eq_ofDigitChars_zero]
    rfl
  have hlength : 0 < lost.length := List.length_pos_iff.mpr hlost_ne
  have hpow : 10 ≤ 10 ^ lost.length := Nat.le_self_pow (by omega) 10
  have hgrow : 10 * naturalValue cut ≤ 10 ^ lost.length * naturalValue cut :=
    Nat.mul_le_mul_right _ hpow
  rcases Nat.eq_zero_or_pos n with rfl | hpos
  · -- zero is a single digit, of which nothing is left
    have hone : (showNat 0).length = 1 := by decide
    have hcut := List.length_pos_iff.mpr hne
    rw [← hlost, List.length_append] at hone
    omega
  · omega

/-! ## Unchecked indexing -/

/-- `tokens[i]`: reading past the end is undefined behaviour. -/
def index (ts : List Text) (i : ℕ) : Except Fault Text :=
  match ts[i]? with
  | some t => .ok t
  | none => .error .undefinedBehaviour

/-- An index within bounds finds what is there. -/
theorem index_eq_ok {ts : List Text} {i : ℕ} {t : Text} :
    index ts i = .ok t ↔ ts[i]? = some t := by
  unfold index
  cases ts[i]? <;> simp

/-! ## Extraction from a stream -/

/-- `iss >> word`: the next token and what follows it. -/
def extractWord (s : Text) : Option (Text × Text) :=
  let start := s.dropWhile isSpace
  if start = [] then none
  else some (start.takeWhile fun c => !isSpace c, start.dropWhile fun c => !isSpace c)

/-- `iss >> n` for an `unsigned int`: whitespace is skipped, a minus sign negates modulo
`2 ^ 32`, and the stream stays behind the last digit. -/
def extractUnsigned (s : Text) : Option (UInt32 × Text) :=
  let (negative, start) := scanSign (s.dropWhile isSpace)
  let digits := start.takeWhile Char.isDigit
  let value := Nat.ofDigitChars 10 digits 0
  if digits = [] ∨ 2 ^ 32 ≤ value then none
  else some (if negative then 0 - UInt32.ofNat value else UInt32.ofNat value,
    start.dropWhile Char.isDigit)

/-- A word begins with no blank. -/
theorem dropWhile_isSpace {word : Text} (hword : IsWord word) (rest : Text) :
    (word ++ rest).dropWhile isSpace = word ++ rest := by
  obtain ⟨hne, hspace⟩ := hword
  obtain ⟨c, tail, rfl⟩ := List.exists_cons_of_ne_nil hne
  exact List.dropWhile_cons_of_neg (by simp [hspace c List.mem_cons_self])

/-- A word is extracted, up to the whitespace after it or the end of the stream. -/
theorem extractWord_word {word rest : Text} (hword : IsWord word)
    (hrest : ∀ c ∈ rest.head?, isSpace c = true) :
    extractWord (word ++ rest) = some (word, rest) := by
  have hdrop : (word ++ rest).dropWhile isSpace = word ++ rest := dropWhile_isSpace hword rest
  have hne : word ++ rest ≠ [] := List.append_ne_nil_of_left_ne_nil hword.1 rest
  have htail : (rest.takeWhile fun c => !isSpace c) = [] ∧
      (rest.dropWhile fun c => !isSpace c) = rest := by
    cases rest with
    | nil => exact ⟨rfl, rfl⟩
    | cons c rest => simp [hrest c rfl]
  have hword' : ∀ c ∈ word, (!isSpace c) = true := fun c hc => by rw [hword.2 c hc]; rfl
  rw [extractWord, hdrop]
  show (if word ++ rest = [] then none else _) = _
  rw [if_neg hne, List.takeWhile_append_of_pos hword', List.dropWhile_append_of_pos hword',
    htail.1, htail.2, List.append_nil]

/-- A printed number is extracted. -/
theorem extractUnsigned_showNat {n : ℕ} (hn : n < 2 ^ 32) {rest : Text}
    (hrest : ∀ c ∈ rest.head?, c.isDigit = false) :
    extractUnsigned (' ' :: (showNat n ++ rest)) = some (UInt32.ofNat n, rest) := by
  have hdigits : ∀ c ∈ showNat n, c.isDigit = true := fun _ hc => isDigit_of_mem_showNat hc
  have hdrop : (' ' :: (showNat n ++ rest)).dropWhile isSpace = showNat n ++ rest := by
    rw [List.dropWhile_cons_of_pos (by decide)]
    exact dropWhile_isSpace (isWord_showNat n) rest
  have hsign : scanSign (showNat n ++ rest) = (false, showNat n ++ rest) := by
    obtain ⟨c, tail, hshow⟩ := List.exists_cons_of_ne_nil (showNat_ne_nil n)
    have hc : c.isDigit = true := hdigits c (hshow ▸ List.mem_cons_self)
    have hminus : c ≠ '-' := by rintro rfl; exact absurd hc (by decide)
    have hplus : c ≠ '+' := by rintro rfl; exact absurd hc (by decide)
    rw [hshow, List.cons_append, scanSign, if_neg hminus, if_neg hplus]
  have hleft : (showNat n ++ rest).dropWhile Char.isDigit = rest := by
    rw [List.dropWhile_append_of_pos hdigits]
    cases rest with
    | nil => rfl
    | cons c rest => exact List.dropWhile_cons_of_neg (by simp [hrest c rfl])
  rw [extractUnsigned, hdrop, hsign]
  show (if (showNat n ++ rest).takeWhile Char.isDigit = [] ∨ _ then none else _) = _
  rw [takeWhile_digits hdigits hrest, ofDigitChars_showNat,
    if_neg (not_or.mpr ⟨showNat_ne_nil n, Nat.not_le.mpr hn⟩), hleft]
  rfl

end Text
