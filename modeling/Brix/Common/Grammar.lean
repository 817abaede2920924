import Brix.Common.Packets
import Brix.Common.Sockets

/-!
# The grammar of requests

What a REQ datagram should look like, and what `to_REQ_Packet` takes for one.  The reader
counts the tokens and checks the two keywords.  For the rest it relies on conversions that stop
at the first character they do not like (`stol`, `stoul`), that negate what has a minus sign in
front (`stoul`), or that have no way to say no (`inet_addr`).

* `IsReq` — the grammar, with the packet that a text stands for
* `Misread` — the texts outside of it that are read all the same
* `toReqPacket_exact_iff` — the reader is exact on all other texts

### What is load-bearing

The reader is compared with the grammar token by token, since the keywords and the number of
tokens are checked rightly.  For each of the three others there is a lemma that says what the
conversion does on a numeral or an address that is one (`stol_isSigned_iff`, `stoul_natural_iff`,
`inetAddr_addrToString`), and `Misread` is the rest: the conversion succeeds, and the token is not
of that form.  That such a text does read as something is what makes the condition exact
(`exists_toReqPacket_of_misread`).
-/

namespace Brix

open Text

/-! ## Numerals with a sign -/

/-- A decimal numeral with an optional sign. -/
def IsSigned : Text → Prop
  | [] => False
  | c :: rest => if c = '-' ∨ c = '+' then IsNatural rest else IsNatural (c :: rest)

/-- Its value. -/
def signedValue : Text → ℤ
  | [] => 0
  | c :: rest => if c = '-' then -naturalValue rest
      else if c = '+' then naturalValue rest else naturalValue (c :: rest)

/-- The scan reads a whole numeral. -/
theorem scanDecimal_of_isSigned {t : Text} (h : IsSigned t) :
    ∃ scan, scanDecimal t = some scan ∧ signed scan = signedValue t := by
  cases t with
  | nil => exact h.elim
  | cons c rest =>
      simp only [IsSigned] at h
      simp only [signedValue]
      by_cases hminus : c = '-'
      · subst hminus
        rw [if_pos (Or.inl rfl)] at h
        exact ⟨_, scanDecimal_minus h.1 h.2, rfl⟩
      by_cases hplus : c = '+'
      · subst hplus
        rw [if_pos (Or.inr rfl)] at h
        exact ⟨_, scanDecimal_plus h.1 h.2, rfl⟩
      rw [if_neg (not_or.mpr ⟨hminus, hplus⟩)] at h
      refine ⟨_, scanDecimal_digits h.1 h.2, ?_⟩
      rw [if_neg hminus, if_neg hplus]
      rfl

/-- Of a numeral `stol` returns the value. -/
theorem stol_isSigned_iff {t : Text} (h : IsSigned t) {n : Int64} :
    stol t = .ok n ↔ n.toInt = signedValue t := by
  obtain ⟨scan, hscan, hvalue⟩ := scanDecimal_of_isSigned h
  rw [stol_eq_ok_iff, hscan, ← hvalue]
  simp only [Option.some.injEq, exists_eq_left']

/-! ## Requests -/

/-- What the reader makes of a text. -/
theorem toReqPacket_eq_ok_iff {text : Text} {packet : ReqPacket} :
    toReqPacket text = .ok packet ↔ ∃ seqNum receiverIp transferAmount,
      tokens text = ["REQ".toList, seqNum, receiverIp, transferAmount, "END".toList] ∧
      stol seqNum = .ok packet.seqNum ∧ inetAddr receiverIp = packet.receiverIp ∧
      stoul transferAmount = .ok packet.transferAmount := by
  unfold toReqPacket
  constructor
  · intro h
    split at h
    · rename_i keyword seqNum receiverIp transferAmount tail htokens
      split at h
      · cases h
      · rename_i hkeywords
        obtain ⟨hreq, hend⟩ := not_or.mp hkeywords
        obtain rfl := not_not.mp hreq
        obtain rfl := not_not.mp hend
        obtain ⟨n, hn, h⟩ := bind_eq_ok.mp h
        obtain ⟨amount, hamount, h⟩ := bind_eq_ok.mp h
        cases h
        exact ⟨seqNum, receiverIp, transferAmount, htokens, hn, rfl, hamount⟩
    · cases h
  · rintro ⟨seqNum, receiverIp, transferAmount, htokens, hn, hip, hamount⟩
    rw [htokens]
    simp only [ne_eq, not_true_eq_false, or_self, if_false, hn, hamount, hip]
    rfl

/-- The grammar of requests: `REQ`, a signed number, a dotted-quad address, an unsigned number
and `END`; the numbers fit their fields. -/
def IsReq (text : Text) (packet : ReqPacket) : Prop :=
  ∃ seqNum receiverIp transferAmount,
    tokens text = ["REQ".toList, seqNum, receiverIp, transferAmount, "END".toList] ∧
    (IsSigned seqNum ∧ signedValue seqNum = packet.seqNum.toInt) ∧
    inetPton receiverIp = some packet.receiverIp ∧
    (IsNatural transferAmount ∧ naturalValue transferAmount = packet.transferAmount.toNat)

/-- A text with the keywords of a request whose number and amount only begin with numbers that
fit, the latter perhaps with a sign, or whose address is none. -/
def Misread (text : Text) : Prop :=
  ∃ seqNum receiverIp transferAmount,
    tokens text = ["REQ".toList, seqNum, receiverIp, transferAmount, "END".toList] ∧
    (∃ scan, scanDecimal seqNum = some scan ∧ -2 ^ 63 ≤ signed scan ∧ signed scan < 2 ^ 63) ∧
    (∃ scan, scanDecimal transferAmount = some scan ∧ scan.2 < 2 ^ 64) ∧
    ¬ (IsSigned seqNum ∧ inetPton receiverIp ≠ none ∧ IsNatural transferAmount)

/-- What is in the grammar is read as it should be. -/
theorem toReqPacket_of_isReq {text : Text} {packet : ReqPacket} (h : IsReq text packet) :
    toReqPacket text = .ok packet := by
  obtain ⟨seqNum, receiverIp, transferAmount, htokens, ⟨hsigned, hseq⟩, hip, hnatural, hamount⟩ := h
  obtain rfl := inetPton_eq_some_iff.mp hip
  exact toReqPacket_eq_ok_iff.mpr ⟨seqNum, _, transferAmount, htokens,
    (stol_isSigned_iff hsigned).mpr hseq.symm, inetAddr_addrToString _,
    (stoul_natural_iff hnatural).mpr hamount.symm⟩

/-- What is read is in the grammar, if it is not misread. -/
theorem isReq_of_toReqPacket {text : Text} {packet : ReqPacket} (hread : ¬ Misread text)
    (h : toReqPacket text = .ok packet) : IsReq text packet := by
  obtain ⟨seqNum, receiverIp, transferAmount, htokens, hseq, hip, hamount⟩ :=
    toReqPacket_eq_ok_iff.mp h
  obtain ⟨scan, hscan, hvalue⟩ := stol_eq_ok_iff.mp hseq
  obtain ⟨scan', hscan', hfits, -⟩ := stoul_eq_ok_iff.mp hamount
  have hlow := packet.seqNum.le_toInt
  have hhigh := packet.seqNum.toInt_lt
  obtain ⟨hsigned, haddress, hnatural⟩ : IsSigned seqNum ∧ inetPton receiverIp ≠ none ∧
      IsNatural transferAmount := by
    by_contra hnot
    exact hread ⟨seqNum, receiverIp, transferAmount, htokens, ⟨scan, hscan, by omega, by omega⟩,
      ⟨scan', hscan', hfits⟩, hnot⟩
  obtain ⟨addr, haddr⟩ := Option.ne_none_iff_exists'.mp haddress
  obtain rfl := inetPton_eq_some_iff.mp haddr
  rw [inetAddr_addrToString] at hip
  exact ⟨seqNum, _, transferAmount, htokens,
    ⟨hsigned, ((stol_isSigned_iff hsigned).mp hseq).symm⟩, hip ▸ haddr,
    hnatural, ((stoul_natural_iff hnatural).mp hamount).symm⟩

/-- What is misread is read, and as something. -/
theorem exists_toReqPacket_of_misread {text : Text} (h : Misread text) :
    ∃ packet, toReqPacket text = .ok packet ∧ ¬ IsReq text packet := by
  obtain ⟨seqNum, receiverIp, transferAmount, htokens, ⟨scan, hscan, hlow, hhigh⟩,
    ⟨scan', hscan', hfits⟩, hnot⟩ := h
  refine ⟨⟨Int64.ofInt (signed scan), inetAddr receiverIp, _⟩,
    toReqPacket_eq_ok_iff.mpr ⟨seqNum, receiverIp, transferAmount, htokens,
      stol_eq_ok_iff.mpr ⟨scan, hscan, Int64.toInt_ofInt_of_le hlow hhigh⟩, rfl,
      stoul_eq_ok_iff.mpr ⟨scan', hscan', hfits, rfl⟩⟩, ?_⟩
  rintro ⟨_, _, _, htokens', ⟨hsigned, -⟩, hip, hnatural, -⟩
  rw [htokens] at htokens'
  cases htokens'
  exact hnot ⟨hsigned, by rw [hip]; simp, hnatural⟩

/-- **What `to_REQ_Packet` accepts.**  A text is read as the packet it stands for, and not at all
if it stands for none, exactly if it is not misread. -/
theorem toReqPacket_exact_iff (text : Text) :
    (∀ packet, toReqPacket text = .ok packet ↔ IsReq text packet) ↔ ¬ Misread text := by
  constructor
  · intro hexact hmisread
    obtain ⟨packet, hread, hnot⟩ := exists_toReqPacket_of_misread hmisread
    exact hnot ((hexact packet).mp hread)
  · intro hread packet
    exact ⟨isReq_of_toReqPacket hread, toReqPacket_of_isReq⟩

/-- **A negative amount** is a payment of almost 2⁶⁴, trailing garbage is dropped, and a bad
address is the broadcast address. -/
theorem toReqPacket_misreads :
    (toReqPacket "REQ 1 10.0.0.2 -1 END".toList = .ok ⟨1, 33554442, 18446744073709551615⟩ ∧
      ¬ IsReq "REQ 1 10.0.0.2 -1 END".toList ⟨1, 33554442, 18446744073709551615⟩) ∧
    (toReqPacket "REQ 1st 10.0.0.2 100k END".toList = .ok ⟨1, 33554442, 100⟩ ∧
      ¬ IsReq "REQ 1st 10.0.0.2 100k END".toList ⟨1, 33554442, 100⟩) ∧
    (toReqPacket "REQ 1 10.0.0.256 100 END".toList = .ok ⟨1, INADDR_NONE, 100⟩ ∧
      ¬ IsReq "REQ 1 10.0.0.256 100 END".toList ⟨1, INADDR_NONE, 100⟩) := by
  have hnegative : tokens "REQ 1 10.0.0.2 -1 END".toList = ["REQ".toList, "1".toList,
      "10.0.0.2".toList, "-1".toList, "END".toList] := by decide +kernel
  have hgarbage : tokens "REQ 1st 10.0.0.2 100k END".toList = ["REQ".toList, "1st".toList,
      "10.0.0.2".toList, "100k".toList, "END".toList] := by decide +kernel
  have haddress : tokens "REQ 1 10.0.0.256 100 END".toList = ["REQ".toList, "1".toList,
      "10.0.0.256".toList, "100".toList, "END".toList] := by decide +kernel
  refine ⟨⟨?_, ?_⟩, ⟨?_, ?_⟩, ⟨?_, ?_⟩⟩
  · exact toReqPacket_eq_ok_iff.mpr ⟨_, _, _, hnegative,
      stol_eq_ok_iff.mpr ⟨(false, 1), by decide +kernel⟩, by decide +kernel,
      stoul_eq_ok_iff.mpr ⟨(true, 1), by decide +kernel⟩⟩
  · rintro ⟨_, _, _, htokens, -, -, hnatural, -⟩
    rw [hnegative] at htokens
    cases htokens
    exact absurd hnatural (by decide)
  · exact toReqPacket_eq_ok_iff.mpr ⟨_, _, _, hgarbage,
      stol_eq_ok_iff.mpr ⟨(false, 1), by decide +kernel⟩, by decide +kernel,
      stoul_eq_ok_iff.mpr ⟨(false, 100), by decide +kernel⟩⟩
  · rintro ⟨_, _, _, htokens, -, -, hnatural, -⟩
    rw [hgarbage] at htokens
    cases htokens
    exact absurd hnatural (by decide)
  · exact toReqPacket_eq_ok_iff.mpr ⟨_, _, _, haddress,
      stol_eq_ok_iff.mpr ⟨(false, 1), by decide +kernel⟩, by decide +kernel,
      stoul_eq_ok_iff.mpr ⟨(false, 100), by decide +kernel⟩⟩
  · rintro ⟨_, _, _, htokens, -, hip, -⟩
    rw [haddress] at htokens
    cases htokens
    have hnone : inetPton "10.0.0.256".toList = none := by decide +kernel
    rw [hnone] at hip
    cases hip

end Brix
