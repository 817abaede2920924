import Brix.Common.SocketUtils
import Mathlib.Data.Fintype.Basic

/-!
# Socket addresses

A `struct sockaddr_in` is its sixteen bytes: the family, the port in network byte order, the
address, and padding.  `recvfrom` writes as many bytes of the source's into the caller's buffer
as the length allows that the caller has put in, which is the caller's business to do.

### The design

The bytes are there because of the length.  A caller that does not set it before `recvfrom` gets
as many bytes of the source as the value that happens to be in it allows, and the rest of the
address stays as it was; so an address may end up half overwritten, and none of its fields need be
what anybody has written.  A negative length makes the call fail.
-/

namespace Brix

open Text

/-- `struct sockaddr_in`. -/
abbrev SockAddr := Fin 16 → UInt8

/-- `memset(&addr, 0, sizeof(addr))`. -/
def SockAddr.zero : SockAddr := fun _ => 0

/-- `create_sockaddr`; `htons` keeps the low 16 bits of the port. -/
def createSockaddr (ip : Text) (port : Int32) : SockAddr := fun i =>
  let word := (port.toInt % 2 ^ 16).toNat
  match i.val with
  | 0 => 2
  | 1 => 0
  | 2 => UInt8.ofNat (word / 256)
  | 3 => UInt8.ofNat word
  | n => if n < 8 then UInt8.ofNat (octet (inetAddr ip) (n - 4)) else 0

/-- One octet of an address as `inet_pton` reads it: no leading zero. -/
def ptonOctet (word : Text) : Option ℕ :=
  if IsNatural word ∧ naturalValue word ≤ 255 ∧ (word.head? = some '0' → word = ['0']) then
    some (naturalValue word)
  else none

/-- `inet_pton` with `AF_INET`; `none` for a result other than 1. -/
def inetPton (s : Text) : Option InAddr :=
  match (s.splitOn '.').mapM ptonOctet with
  | some [a, b, c, d] => some (UInt32.ofNat (a + 256 * (b + 256 * (c + 256 * d))))
  | _ => none

/-- `inet_pton` takes an octet in one form only. -/
theorem ptonOctet_eq_some_iff {word : Text} {n : ℕ} :
    ptonOctet word = some n ↔ n ≤ 255 ∧ word = showNat n := by
  unfold ptonOctet
  constructor
  · intro h
    split at h
    · rename_i hword
      obtain ⟨hnatural, hfits, hzero⟩ := hword
      cases h
      exact ⟨hfits, (showNat_naturalValue hnatural hzero).symm⟩
    · cases h
  · rintro ⟨hfits, rfl⟩
    have hvalue : naturalValue (showNat n) = n := ofDigitChars_showNat n
    have hzero : (showNat n).head? = some '0' → showNat n = ['0'] := by
      intro hhead
      rcases Nat.eq_zero_or_pos n with rfl | hpos
      · rfl
      · obtain ⟨c, rest, heq, hc⟩ := showNat_head hpos
        rw [heq] at hhead
        exact absurd (Option.some.inj hhead) hc
    rw [hvalue, if_pos ⟨isNatural_showNat n, hfits, hzero⟩]

/-- What a list was printed from, if every item can be read back. -/
theorem eq_map_of_mapM {α β : Type} {read : α → Option β} {print : β → α} {fits : β → Prop}
    (hread : ∀ a b, read a = some b → fits b ∧ a = print b) {as : List α} {bs : List β}
    (h : as.mapM read = some bs) : as = bs.map print ∧ ∀ b ∈ bs, fits b := by
  induction as generalizing bs with
  | nil =>
      cases h
      exact ⟨rfl, by simp⟩
  | cons a as ih =>
      rw [List.mapM_cons] at h
      obtain ⟨b, hb, h⟩ := Option.bind_eq_some_iff.mp h
      obtain ⟨bs', hbs', h⟩ := Option.bind_eq_some_iff.mp h
      cases h
      obtain ⟨hfits, rfl⟩ := hread a b hb
      obtain ⟨rfl, hrest⟩ := ih hbs'
      exact ⟨rfl, List.forall_mem_cons.mpr ⟨hfits, hrest⟩⟩

/-- The word of four octets. -/
theorem octet_ofOctets {a b c d : ℕ} (ha : a ≤ 255) (hb : b ≤ 255) (hc : c ≤ 255) (hd : d ≤ 255) :
    octet (UInt32.ofNat (a + 256 * (b + 256 * (c + 256 * d)))) 0 = a ∧
      octet (UInt32.ofNat (a + 256 * (b + 256 * (c + 256 * d)))) 1 = b ∧
      octet (UInt32.ofNat (a + 256 * (b + 256 * (c + 256 * d)))) 2 = c ∧
      octet (UInt32.ofNat (a + 256 * (b + 256 * (c + 256 * d)))) 3 = d := by
  simp only [octet, UInt32.toNat_ofNat']
  omega

/-- **`inet_pton` accepts what `inet_ntop` prints**, and nothing else. -/
theorem inetPton_eq_some_iff {s : Text} {addr : InAddr} :
    inetPton s = some addr ↔ s = addrToString addr := by
  constructor
  · intro h
    unfold inetPton at h
    split at h
    · rename_i a b c d hoctets
      cases h
      have hjoin : ['.'].intercalate (s.splitOn '.') = s := List.intercalate_splitOn '.'
      obtain ⟨hwords, hfits⟩ := eq_map_of_mapM (fun _ _ => ptonOctet_eq_some_iff.mp) hoctets
      simp only [List.forall_mem_cons] at hfits
      obtain ⟨h₀, h₁, h₂, h₃⟩ := octet_ofOctets hfits.1 hfits.2.1 hfits.2.2.1 hfits.2.2.2.1
      rw [← hjoin, hwords, addrToString, h₀, h₁, h₂, h₃]
      simp only [List.map_cons, List.map_nil, List.intercalate_cons_cons,
        List.intercalate_singleton, List.append_assoc]
      rfl
    · cases h
  · rintro rfl
    have hdot : ∀ n, '.' ∉ showNat n := notMem_showNat (by decide)
    have hsplit : (addrToString addr).splitOn '.' = [showNat (octet addr 0),
        showNat (octet addr 1), showNat (octet addr 2), showNat (octet addr 3)] := by
      rw [addrToString, List.splitOn_append_cons_self_of_not_mem (hdot _),
        List.splitOn_append_cons_self_of_not_mem (hdot _),
        List.splitOn_append_cons_self_of_not_mem (hdot _), List.splitOn_eq_singleton (hdot _)]
    have hpton : ∀ i, ptonOctet (showNat (octet addr i)) = some (octet addr i) := fun i =>
      ptonOctet_eq_some_iff.mpr ⟨Nat.le_of_lt_succ (octet_lt addr i), rfl⟩
    have hoctets : ((addrToString addr).splitOn '.').mapM ptonOctet
        = some [octet addr 0, octet addr 1, octet addr 2, octet addr 3] := by
      rw [hsplit]
      simp only [List.mapM_cons, List.mapM_nil, hpton]
      rfl
    rw [inetPton, hoctets]
    show some (UInt32.ofNat _) = _
    rw [octets_toNat, UInt32.ofNat_toNat]

/-- A datagram on its way to a socket. -/
structure Datagram where
  text : Text
  source : SockAddr

/-- What a call of `recvfrom` leaves: the text that was read, or `none` for a result of -1, the
address buffer, and the length. -/
structure Receipt where
  text : Option Text
  address : SockAddr
  len : Int32

/-- `recvfrom` into an address buffer, with the length that the caller has put in.  `none`
arrives where the time is up.  A length below zero is an error, of which the datagram falls
victim. -/
def recvfrom (address : SockAddr) (len : Int32) : Option Datagram → Receipt
  | none => ⟨none, address, len⟩
  | some datagram =>
      if len < 0 then ⟨none, address, len⟩
      else ⟨some datagram.text, fun i => if (i.val : ℤ) < len.toInt then datagram.source i
        else address i, 16⟩

section Receiving

variable {address : SockAddr} {len : Int32} {datagram : Datagram}

/-- With a length below zero nothing is received. -/
theorem recvfrom_of_neg (hlen : len < 0) (arrival : Option Datagram) :
    recvfrom address len arrival = ⟨none, address, len⟩ := by
  cases arrival with
  | none => rfl
  | some datagram => exact if_pos hlen

/-- With any other the datagram is, -/
theorem recvfrom_text (hlen : ¬ len < 0) :
    (recvfrom address len (some datagram)).text = some datagram.text := by
  rw [recvfrom, if_neg hlen]

/-- and the length is that of an address from then on. -/
theorem recvfrom_len (hlen : ¬ len < 0) :
    (recvfrom address len (some datagram)).len = 16 := by
  rw [recvfrom, if_neg hlen]

/-- The address buffer is left as it was if the source agrees with it in the bytes that the
length lets through. -/
theorem recvfrom_address_eq_iff (hlen : ¬ len < 0) :
    (recvfrom address len (some datagram)).address = address ↔
      ∀ i : Fin 16, (i.val : ℤ) < len.toInt → datagram.source i = address i := by
  rw [recvfrom, if_neg hlen, funext_iff]
  refine forall_congr' fun i => ?_
  show (if (i.val : ℤ) < len.toInt then datagram.source i else address i) = address i ↔ _
  by_cases hi : (i.val : ℤ) < len.toInt
  · rw [if_pos hi, imp_iff_right hi]
  · rw [if_neg hi]
    exact iff_of_true rfl fun h => absurd h hi

end Receiving

end Brix
