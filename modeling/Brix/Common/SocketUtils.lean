import Brix.Foundation.Text

/-!
# Addresses

`in_addr_t` is the 32-bit word in network byte order; on the little-endian
targets the program is built for, the first octet of the dotted form is the low
byte.  `addrToString` is `addr_to_string` (that is, `inet_ntop`), and `inetAddr`
is glibc's `inet_addr` with everything it accepts: one to four parts, each
decimal, octal after a leading `0` or hexadecimal after `0x`, the last part
filling the remaining bytes, trailing whitespace allowed, and `INADDR_NONE` — a
valid address word — for every text it rejects.

`inetAddr_addrToString` is the round trip, for every one of the `2 ^ 32` words.

### The design

`inet_addr` is modelled with all that it accepts, although the program writes addresses in one
form only, because what it reads comes from users and from the network.  A request whose receiver
is `10.2` names the client `10.0.0.2`, and a receiver that is no address at all names the client
`255.255.255.255`; results about what is read would be false if the model were stricter than the
library.
-/

namespace Brix

open Text

/-- `in_addr_t`. -/
abbrev InAddr := UInt32

/-- What `inet_addr` returns on an error: also the word of `255.255.255.255`. -/
def INADDR_NONE : InAddr := 0xffffffff

/-- Byte `i` of the word, that is, octet `i` of the dotted form. -/
def octet (addr : InAddr) (i : ℕ) : ℕ := addr.toNat / 256 ^ i % 256

/-- `ntohl`: the octets read as one number, first octet first. -/
def ntohl (addr : InAddr) : UInt32 :=
  UInt32.ofNat (octet addr 0 * 256 ^ 3 + octet addr 1 * 256 ^ 2 + octet addr 2 * 256
    + octet addr 3)

/-- `addr_to_string`. -/
def addrToString (addr : InAddr) : Text :=
  showNat (octet addr 0) ++ '.' :: (showNat (octet addr 1) ++ '.' ::
    (showNat (octet addr 2) ++ '.' :: showNat (octet addr 3)))

/-- The digits `strtoul(cp, &endp, 0)` takes after a first character that is a
digit, their base, and what is left: `0x` counts only before a hexadecimal
digit. -/
def scanBase : Text → ℕ × Text
  | '0' :: x :: d :: rest =>
      if (x = 'x' ∨ x = 'X') ∧ (d.isDigit ∨ 'a' ≤ d.toLower ∧ d.toLower ≤ 'f') then
        (16, d :: rest)
      else (8, '0' :: x :: d :: rest)
  | '0' :: rest => (8, '0' :: rest)
  | s => (10, s)

/-- The value of a character as a digit, `255` when it is none. -/
def digitValue (c : Char) : ℕ :=
  if c.isDigit then c.toNat - '0'.toNat
  else if 'a' ≤ c.toLower ∧ c.toLower ≤ 'f' then c.toLower.toNat - 'a'.toNat + 10
  else 255

/-- One part of an address: its value and what follows it.  The first character
must be a digit and the value must fit in 32 bits. -/
def scanPart (s : Text) : Option (ℕ × Text) :=
  match s with
  | [] => none
  | c :: _ =>
      if c.isDigit then
        let (base, body) := scanBase s
        let digits := body.takeWhile fun c => digitValue c < base
        let value := digits.foldl (fun acc c => base * acc + digitValue c) 0
        if value < 2 ^ 32 then some (value, body.drop digits.length) else none
      else none

/-- The parts of an address with at most `dots` dots: the leading octets and the
value of the last part. -/
def scanParts : ℕ → Text → Option (List ℕ × ℕ)
  | dots, s =>
      (scanPart s).bind fun (value, rest) =>
        match rest with
        | [] => some ([], value)
        | c :: more =>
            if c = '.' then
              match dots with
              | 0 => none
              | dots + 1 =>
                  if 255 < value then none
                  else (scanParts dots more).map fun (octets, last) => (value :: octets, last)
            else if isSpace c then some ([], value) else none

/-- `inet_addr`, of a `c_str()`. -/
def inetAddr (s : Text) : InAddr :=
  match scanParts 3 (cString s) with
  | none => INADDR_NONE
  | some (octets, last) =>
      let width := 4 - octets.length
      if last < 256 ^ width then
        let low := (List.range width).map fun i => last / 256 ^ (width - 1 - i) % 256
        UInt32.ofNat ((octets ++ low).foldr (fun byte acc => byte + 256 * acc) 0)
      else INADDR_NONE

/-! ## The round trip -/

/-- An octet is a byte. -/
theorem octet_lt (addr : InAddr) (i : ℕ) : octet addr i < 256 :=
  Nat.mod_lt _ (by decide)

/-- The value of a decimal digit, -/
theorem digitValue_of_isDigit {c : Char} (h : c.isDigit = true) :
    digitValue c = c.toNat - '0'.toNat := by
  rw [digitValue, if_pos h]

/-- which is below ten. -/
theorem digitValue_lt_ten {c : Char} (h : c.isDigit = true) : digitValue c < 10 := by
  rw [digitValue_of_isDigit h]
  exact (digitChar_toNat_sub h).2

/-- A printed positive number does not start with a zero. -/
theorem showNat_head {n : ℕ} (hn : 0 < n) :
    ∃ c rest, showNat n = c :: rest ∧ c ≠ '0' := by
  induction n using Nat.strong_induction_on with
  | _ n ih =>
      by_cases hlt : n < 10
      · refine ⟨n.digitChar, [], Nat.toDigits_of_lt_base hlt, ?_⟩
        interval_cases n <;> decide
      · obtain ⟨c, rest, heq, hc⟩ := ih (n / 10) (by omega) (by omega)
        refine ⟨c, rest ++ [Nat.digitChar (n % 10)], ?_, hc⟩
        rw [showNat, Nat.toDigits_of_base_le (by decide) (by omega)]
        rw [showNat] at heq
        rw [heq]
        rfl

/-- What may follow a part without being read as more digits. -/
def EndsPart (rest : Text) : Prop := ∀ c ∈ rest.head?, c = '.'

/-- A part that does not begin with a zero is decimal. -/
theorem scanBase_of_ne_zero {c : Char} (hc : c ≠ '0') (rest : Text) :
    scanBase (c :: rest) = (10, c :: rest) := by
  unfold scanBase
  split
  · rename_i heq
    exact absurd (List.cons.inj heq).1 hc
  · rename_i heq
    exact absurd (List.cons.inj heq).1 hc
  · rfl

/-- A zero by itself is one as well. -/
theorem scanPart_zero {rest : Text} (hrest : EndsPart rest) :
    scanPart ('0' :: rest) = some (0, rest) := by
  cases rest with
  | nil => rfl
  | cons c rest =>
      obtain rfl : c = '.' := hrest c (by simp)
      cases rest <;> simp [scanPart, scanBase, digitValue]

/-- A printed part is scanned back. -/
theorem scanPart_showNat {n : ℕ} (hn : n < 2 ^ 32) {rest : Text} (hrest : EndsPart rest) :
    scanPart (showNat n ++ rest) = some (n, rest) := by
  rcases Nat.eq_zero_or_pos n with rfl | hpos
  · exact scanPart_zero hrest
  · obtain ⟨c, tail, heq, hc⟩ := showNat_head hpos
    have hdigits : ∀ d ∈ showNat n, d.isDigit = true := fun d hd => isDigit_of_mem_showNat hd
    have hdigit : c.isDigit = true := hdigits c (by rw [heq]; exact List.mem_cons_self)
    have htake : (showNat n ++ rest).takeWhile (fun d => decide (digitValue d < 10))
        = showNat n := by
      rw [List.takeWhile_append_of_pos fun d hd => by
        simpa using digitValue_lt_ten (hdigits d hd)]
      cases rest with
      | nil => simp
      | cons d rest =>
          obtain rfl : d = '.' := hrest d (by simp)
          simp [digitValue]
    have hvalue : (showNat n).foldl (fun acc d => 10 * acc + digitValue d) 0 = n := by
      calc (showNat n).foldl (fun acc d => 10 * acc + digitValue d) 0
          = Nat.ofDigitChars 10 (showNat n) 0 := by
            rw [Nat.ofDigitChars_eq_foldl]
            exact List.foldl_ext _ _ 0 fun acc d hd => by
              rw [digitValue_of_isDigit (hdigits d hd)]
        _ = n := ofDigitChars_showNat n
    have hscan : scanBase (showNat n ++ rest) = (10, showNat n ++ rest) := by
      rw [heq, List.cons_append]
      exact scanBase_of_ne_zero hc _
    have hunfold : scanPart (showNat n ++ rest) =
        if n < 2 ^ 32 then some (n, (showNat n ++ rest).drop (showNat n).length) else none := by
      conv_lhs => rw [heq, List.cons_append, scanPart]
      rw [if_pos hdigit, ← List.cons_append, ← heq, hscan]
      simp only [htake, hvalue]
    rw [hunfold, if_pos hn, List.drop_left]

/-- One part more, -/
theorem scanParts_dot {n : ℕ} (hn : n < 256) (dots : ℕ) (more : Text) :
    scanParts (dots + 1) (showNat n ++ '.' :: more)
      = (scanParts dots more).map fun (octets, last) => (n :: octets, last) := by
  have hscan : scanPart (showNat n ++ '.' :: more) = some (n, '.' :: more) :=
    scanPart_showNat (by omega) fun c hc => by simpa using hc.symm
  rw [scanParts, hscan]
  simp [show ¬ 255 < n by omega]

/-- and the last one. -/
theorem scanParts_last {n : ℕ} (hn : n < 256) (dots : ℕ) :
    scanParts dots (showNat n) = some ([], n) := by
  have hscan : scanPart (showNat n ++ []) = some (n, []) :=
    scanPart_showNat (by omega) fun c hc => by simp at hc
  rw [List.append_nil] at hscan
  rw [scanParts, hscan]
  rfl

/-- A printed address is made of digits and dots. -/
theorem isDigit_or_of_mem_addrToString {addr : InAddr} {c : Char} (hc : c ∈ addrToString addr) :
    c.isDigit = true ∨ c = '.' := by
  simp only [addrToString, List.mem_append, List.mem_cons] at hc
  rcases hc with hc | rfl | hc | rfl | hc | rfl | hc
  · exact Or.inl (isDigit_of_mem_showNat hc)
  · exact Or.inr rfl
  · exact Or.inl (isDigit_of_mem_showNat hc)
  · exact Or.inr rfl
  · exact Or.inl (isDigit_of_mem_showNat hc)
  · exact Or.inr rfl
  · exact Or.inl (isDigit_of_mem_showNat hc)

/-- A written address can be put into a C string. -/
theorem nul_notMem_addrToString (addr : InAddr) : '\x00' ∉ addrToString addr := by
  intro hmem
  rcases isDigit_or_of_mem_addrToString hmem with hdigit | hdot
  · exact absurd hdigit (by decide)
  · exact absurd hdot (by decide)

/-- The four octets determine the word. -/
theorem octets_toNat (addr : InAddr) :
    octet addr 0 + 256 * (octet addr 1 + 256 * (octet addr 2 + 256 * octet addr 3))
      = addr.toNat := by
  have hlt := addr.toNat_lt
  simp only [octet]
  omega

/-- **`inet_addr` inverts `inet_ntop`** on every 32-bit address, the error value
`255.255.255.255` included. -/
@[simp] theorem inetAddr_addrToString (addr : InAddr) : inetAddr (addrToString addr) = addr := by
  have hparts : scanParts 3 (addrToString addr)
      = some ([octet addr 0, octet addr 1, octet addr 2], octet addr 3) := by
    rw [addrToString, scanParts_dot (octet_lt addr 0), scanParts_dot (octet_lt addr 1),
      scanParts_dot (octet_lt addr 2), scanParts_last (octet_lt addr 3)]
    rfl
  have hlast := octet_lt addr 3
  rw [inetAddr, cString_of_notMem (nul_notMem_addrToString addr), hparts]
  simp only [List.length_cons, List.length_nil, Nat.reduceAdd, Nat.reduceSub, pow_one,
    if_pos hlast]
  have hsum := octets_toNat addr
  have hword : (([octet addr 0, octet addr 1, octet addr 2] ++
      (List.range 1).map fun i => octet addr 3 / 256 ^ (1 - 1 - i) % 256).foldr
        (fun byte acc => byte + 256 * acc) 0) = addr.toNat := by
    simp only [List.range_succ, List.range_zero, List.nil_append, List.map_cons, List.map_nil,
      List.cons_append, List.foldr_cons, List.foldr_nil, Nat.sub_self, pow_zero, Nat.div_one,
      Nat.mod_eq_of_lt hlast, Nat.mul_zero, Nat.add_zero]
    exact hsum
  rw [hword, UInt32.ofNat_toNat]

/-- A printed address is one token. -/
theorem isWord_addrToString (addr : InAddr) : IsWord (addrToString addr) := by
  refine ⟨by simp [addrToString, showNat_ne_nil], fun c hc => ?_⟩
  rcases isDigit_or_of_mem_addrToString hc with hdigit | rfl
  · exact isSpace_of_isDigit hdigit
  · rfl

/-- It has fifteen characters at most. -/
theorem length_addrToString_le (addr : InAddr) : (addrToString addr).length ≤ 15 := by
  have hoctet : ∀ i, (showNat (octet addr i)).length ≤ 3 := fun i =>
    length_showNat_le (by omega) ((octet_lt addr i).trans (by omega))
  have h₀ := hoctet 0
  have h₁ := hoctet 1
  have h₂ := hoctet 2
  have h₃ := hoctet 3
  simp only [addrToString, List.length_append, List.length_cons]
  omega

end Brix
