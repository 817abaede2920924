import Brix.Client.RequestDispatcher
import Brix.Common.Grammar

/-!
# What the user types

`request_t::from_string` makes a request of an input line, and `queue_request` drops the ones
that are none.  The line has to have two tokens; what they are is left to `inet_addr`, which
cannot say no, and to `stoul`, of whose two exceptions one is caught.

* `Request.fromString` — the reader
* `IsPayment` — the lines that ask for a payment
* `Request.readsRightly_iff` — which lines are read rightly

### What is load-bearing

`std::stoul` throws two exceptions, for a token that is no number and for one that is too large,
and the `catch` names the first.  The second leaves `from_string`, and nothing above it catches it
either: `queue_request` does not, and `main` does not, so the program ends before it has queued
its KILL.
-/

namespace Brix

open Text

/-- The request that is none. -/
def Request.error : Request := ⟨0, 0, .error⟩

/-- `request_t::from_string`.  `std::out_of_range` leaves the `try` block, and the program. -/
def Request.fromString (input : Text) : Except Fault Request :=
  match tokens input with
  | [destIp, transferAmount] =>
      match stoul transferAmount with
      | .ok transferAmount => .ok ⟨inetAddr destIp, transferAmount, .req⟩
      | .error .invalidArgument => .ok Request.error
      | .error .outOfRange => .error .outOfRange
      | .error .undefinedBehaviour => .error .undefinedBehaviour
  | _ => .ok Request.error

/-- `queue_request`. -/
def RequestDispatcher.queueRequest (request : Request) (requestQueue : List Request) :
    List Request :=
  if request.type = .error then requestQueue else requestQueue ++ [request]

/-- The lines that ask for a payment: a dotted-quad address and an unsigned number that fits. -/
def IsPayment (input : Text) (destIp : InAddr) (transferAmount : UInt64) : Prop :=
  ∃ ip amount, tokens input = [ip, amount] ∧ inetPton ip = some destIp ∧
    IsNatural amount ∧ naturalValue amount = transferAmount.toNat

namespace Request

/-- A line that asks for a payment makes a request of it; any other is an error, and leaves the
queue as it is. -/
structure ReadsRightly (input : Text) : Prop where
  returns : ∃ request, fromString input = .ok request
  payment : ∀ destIp transferAmount, fromString input = .ok ⟨destIp, transferAmount, .req⟩ ↔
    IsPayment input destIp transferAmount
  dropped : (∀ destIp transferAmount, ¬ IsPayment input destIp transferAmount) →
    ∃ request, fromString input = .ok request ∧ request.type = .error ∧
      ∀ requestQueue, RequestDispatcher.queueRequest request requestQueue = requestQueue

variable {input ip amount : Text}

/-- A line of any other number of tokens. -/
theorem fromString_of_ne (h : ∀ ip amount, tokens input ≠ [ip, amount]) :
    fromString input = .ok error := by
  unfold fromString
  split
  · rename_i ip amount htokens
    exact absurd htokens (h ip amount)
  · rfl

/-- A second token without a number in it makes the line one that asks for nothing. -/
theorem fromString_of_none (htokens : tokens input = [ip, amount])
    (hscan : scanDecimal amount = none) : fromString input = .ok error := by
  have hstoul : stoul amount = .error .invalidArgument := by simp only [stoul, hscan]
  rw [fromString, htokens]
  simp only [hstoul]

/-- One with a number that is too large is thrown out of. -/
theorem fromString_of_large (htokens : tokens input = [ip, amount]) {scan : Bool × ℕ}
    (hscan : scanDecimal amount = some scan) (hlarge : ¬ scan.2 < 2 ^ 64) :
    fromString input = .error .outOfRange := by
  have hstoul : stoul amount = .error .outOfRange := by simp only [stoul, hscan, if_neg hlarge]
  rw [fromString, htokens]
  simp only [hstoul]

/-- Any other is an amount, whatever the first token may be. -/
theorem fromString_of_stoul (htokens : tokens input = [ip, amount]) {transferAmount : UInt64}
    (hstoul : stoul amount = .ok transferAmount) :
    fromString input = .ok ⟨inetAddr ip, transferAmount, .req⟩ := by
  rw [fromString, htokens]
  simp only [hstoul]

/-- Of two tokens it is known whether they ask for a payment. -/
theorem exists_isPayment_iff (htokens : tokens input = [ip, amount]) :
    (∃ destIp transferAmount, IsPayment input destIp transferAmount) ↔
      inetPton ip ≠ none ∧ IsNatural amount ∧ naturalValue amount < 2 ^ 64 := by
  constructor
  · rintro ⟨destIp, transferAmount, ip', amount', htokens', hip, hnatural, hvalue⟩
    rw [htokens] at htokens'
    cases htokens'
    refine ⟨by rw [hip]; simp, hnatural, ?_⟩
    rw [hvalue]
    exact transferAmount.toNat_lt
  · rintro ⟨hip, hnatural, hfits⟩
    obtain ⟨destIp, hip⟩ := Option.ne_none_iff_exists'.mp hip
    exact ⟨destIp, UInt64.ofNat (naturalValue amount), ip, amount, htokens, hip, hnatural,
      (UInt64.toNat_ofNat_of_lt' hfits).symm⟩

/-- A payment is read as one. -/
theorem fromString_of_isPayment {destIp : InAddr} {transferAmount : UInt64}
    (h : IsPayment input destIp transferAmount) :
    fromString input = .ok ⟨destIp, transferAmount, .req⟩ := by
  obtain ⟨ip, amount, htokens, hip, hnatural, hvalue⟩ := h
  obtain rfl := inetPton_eq_some_iff.mp hip
  have hread := fromString_of_stoul htokens ((stoul_natural_iff hnatural).mpr hvalue.symm)
  rwa [inetAddr_addrToString] at hread

/-- A payment is read rightly. -/
theorem readsRightly_of_isPayment
    (h : ∃ destIp transferAmount, IsPayment input destIp transferAmount) :
    ReadsRightly input := by
  obtain ⟨destIp, transferAmount, hpayment⟩ := h
  have hread := fromString_of_isPayment hpayment
  refine ⟨⟨_, hread⟩, fun destIp' transferAmount' => ⟨fun h => ?_, fromString_of_isPayment⟩,
    fun hnone => absurd hpayment (hnone destIp transferAmount)⟩
  rw [hread] at h
  cases h
  exact hpayment

/-- An error is right for a line that asks for no payment. -/
theorem readsRightly_of_error (hread : fromString input = .ok error)
    (hnone : ¬ ∃ destIp transferAmount, IsPayment input destIp transferAmount) :
    ReadsRightly input := by
  refine ⟨⟨error, hread⟩, fun destIp transferAmount => ?_,
    fun _ => ⟨error, hread, rfl, fun requestQueue => rfl⟩⟩
  rw [hread]
  exact iff_of_false (by simp [error]) fun h => hnone ⟨destIp, transferAmount, h⟩

/-- A request that is made of a line that asks for none is wrong. -/
theorem not_readsRightly {destIp : InAddr} {transferAmount : UInt64}
    (hread : fromString input = .ok ⟨destIp, transferAmount, .req⟩)
    (hnone : ¬ ∃ destIp transferAmount, IsPayment input destIp transferAmount) :
    ¬ ReadsRightly input :=
  fun h => hnone ⟨destIp, transferAmount, (h.payment destIp transferAmount).mp hread⟩

/-- **Which lines are read rightly.**  All but those of two tokens the second of which begins
with a number, and which ask for no payment. -/
theorem readsRightly_iff (input : Text) :
    ReadsRightly input ↔ ∀ ip amount, tokens input = [ip, amount] →
      scanDecimal amount = none ∨
        (inetPton ip ≠ none ∧ IsNatural amount ∧ naturalValue amount < 2 ^ 64) := by
  -- any other number of words is refused, and rightly so
  by_cases hpair : ∃ ip amount, tokens input = [ip, amount]
  · obtain ⟨ip, amount, htokens⟩ := hpair
    have hcondition : (∀ ip' amount', tokens input = [ip', amount'] → scanDecimal amount' = none ∨
          (inetPton ip' ≠ none ∧ IsNatural amount' ∧ naturalValue amount' < 2 ^ 64)) ↔
        (scanDecimal amount = none ∨
          ∃ destIp transferAmount, IsPayment input destIp transferAmount) := by
      rw [exists_isPayment_iff htokens]
      constructor
      · exact fun h => h ip amount htokens
      · intro h ip' amount' htokens'
        rw [htokens] at htokens'
        cases htokens'
        exact h
    rw [hcondition]
    cases hscan : scanDecimal amount with
    | none =>
        refine iff_of_true (readsRightly_of_error (fromString_of_none htokens hscan) ?_)
          (Or.inl rfl)
        rw [exists_isPayment_iff htokens]
        rintro ⟨-, hnatural, -⟩
        rw [scanDecimal_digits hnatural.1 hnatural.2] at hscan
        cases hscan
    | some scan =>
        by_cases hpayment : ∃ destIp transferAmount, IsPayment input destIp transferAmount
        · exact iff_of_true (readsRightly_of_isPayment hpayment) (Or.inr hpayment)
        · refine iff_of_false ?_ (by simp [hpayment])
          by_cases hfits : scan.2 < 2 ^ 64
          · have hstoul := stoul_eq_ok_iff.mpr ⟨scan, hscan, hfits, rfl⟩
            exact not_readsRightly (fromString_of_stoul htokens hstoul) hpayment
          · intro h
            obtain ⟨request, hreturns⟩ := h.returns
            rw [fromString_of_large htokens hscan hfits] at hreturns
            cases hreturns
  · have hne : ∀ ip amount, tokens input ≠ [ip, amount] :=
      fun ip amount htokens => hpair ⟨ip, amount, htokens⟩
    refine iff_of_true (readsRightly_of_error (fromString_of_ne hne) ?_)
      fun ip amount htokens => absurd htokens (hne ip amount)
    rintro ⟨_, _, ip, amount, htokens, -⟩
    exact hne ip amount htokens

/-- **An amount of 2⁶⁴** ends the program, and a negative one is a payment of almost as much. -/
theorem fromString_misreads :
    fromString "10.0.0.2 18446744073709551616".toList = .error .outOfRange ∧
      fromString "10.0.0.2 -1".toList = .ok ⟨33554442, 18446744073709551615, .req⟩ ∧
      ∀ destIp transferAmount, ¬ IsPayment "10.0.0.2 -1".toList destIp transferAmount := by
  have hlarge : tokens "10.0.0.2 18446744073709551616".toList
      = ["10.0.0.2".toList, "18446744073709551616".toList] := by decide +kernel
  have hnegative : tokens "10.0.0.2 -1".toList = ["10.0.0.2".toList, "-1".toList] := by
    decide +kernel
  have hip : inetAddr "10.0.0.2".toList = 33554442 := by decide +kernel
  have hscan : scanDecimal "18446744073709551616".toList = some (false, 18446744073709551616) := by
    decide +kernel
  refine ⟨fromString_of_large hlarge hscan (by decide), ?_, ?_⟩
  · rw [← hip]
    exact fromString_of_stoul hnegative
      (stoul_eq_ok_iff.mpr ⟨(true, 1), by decide +kernel, by decide, by decide⟩)
  · rintro destIp transferAmount ⟨ip, amount, htokens, -, hnatural, -⟩
    rw [hnegative] at htokens
    cases htokens
    exact absurd hnatural (by decide)

end Request

end Brix
