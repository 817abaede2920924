import Brix.Election.Machine
import Brix.Foundation.Extraction

/-!
# What passes for an election message

Anybody may send a datagram to the election port.  `is_valid_election_message`, `is_valid_answer`
and `is_valid_coord_announcement` read a tag, a number and a word from the stream and look at no
more: there may be whitespace in front, a sign before the number, none before `END`, and anything
behind it.  A minus sign makes a small id a very large one.

* `PassesFor` — the texts that are taken for a message with a tag and an id
* `isValid_eq_some_iff` — a reader accepts these and no others
* `switch_exact` — what `ss_election_result_switch` makes of any datagram

### What is load-bearing

A text has at most one reading: its first word is its tag, and the three tags differ.  So the
order in which the switch tries its readers cannot be seen from outside, and the result can be
stated for each kind of message by itself.
-/

namespace Brix

open Text

namespace Election

/-- The id that is read: a minus sign negates it modulo `2 ^ 32`. -/
def readId (sign digits : Text) : UInt32 :=
  if sign = ['-'] then 0 - UInt32.ofNat (naturalValue digits)
  else UInt32.ofNat (naturalValue digits)

/-- A text that is taken for a message with the tag, from the server with the id. -/
def PassesFor (tag : Text) (senderId : UInt32) (text : Text) : Prop :=
  ∃ before between sign digits gap rest,
    text = before ++ (tag ++ (between ++ (sign ++ (digits ++ (gap ++ ("END".toList ++ rest)))))) ∧
    IsBlank before ∧ IsBlank between ∧ between ≠ [] ∧ IsSign sign ∧ IsNatural digits ∧
    naturalValue digits < 2 ^ 32 ∧ senderId = readId sign digits ∧ IsBlank gap ∧
    ∀ c ∈ rest.head?, isSpace c = true

section Readers

variable {tag : Text} {id senderId : UInt32} {received : Reception}

/-- What a reader extracts, one after the other. -/
theorem isValid_eq_some_extract :
    isValid tag id received = some senderId ↔ 0 < received.n ∧ senderId ≠ id ∧
      ∃ afterTag afterId afterEnd, extractWord received.buffer = some (tag, afterTag) ∧
        extractUnsigned afterTag = some (senderId, afterId) ∧
        extractWord afterId = some ("END".toList, afterEnd) := by
  unfold isValid
  rw [Option.ite_none_left_eq_some, not_le]
  simp only [Option.bind_eq_bind, Option.bind_eq_some_iff, Option.ite_none_right_eq_some,
    Prod.exists, Option.some.injEq]
  constructor
  · rintro ⟨hn, first, afterTag, hfirst, found, afterId, hfound, last, afterEnd, hlast,
      ⟨rfl, rfl, hid⟩, rfl⟩
    exact ⟨hn, hid, afterTag, afterId, afterEnd, hfirst, hfound, hlast⟩
  · rintro ⟨hn, hid, afterTag, afterId, afterEnd, hfirst, hfound, hlast⟩
    exact ⟨hn, tag, afterTag, hfirst, senderId, afterId, hfound, _, afterEnd, hlast,
      ⟨rfl, rfl, hid⟩, rfl⟩

/-- **What a reader accepts.** -/
theorem isValid_eq_some_iff (htag : IsWord tag) :
    isValid tag id received = some senderId ↔
      0 < received.n ∧ senderId ≠ id ∧ PassesFor tag senderId received.buffer := by
  rw [isValid_eq_some_extract]
  refine and_congr_right fun _ => and_congr_right fun _ => ?_
  simp only [extractWord_eq_some_iff, extractUnsigned_eq_some_iff]
  constructor
  · rintro ⟨afterTag, afterId, afterEnd, ⟨before, htext, hbefore, -, hspace⟩,
      ⟨between, sign, digits, rfl, hbetween, hsign, hdigits, -, hfits, hid⟩,
      ⟨gap, rfl, hgap, -, hend⟩⟩
    refine ⟨before, between, sign, digits, gap, afterEnd, htext, hbefore, hbetween, ?_, hsign,
      hdigits, hfits, hid, hgap, hend⟩
    -- the tag ends at whitespace
    rintro rfl
    have hword := isWord_numeral hsign hdigits
    obtain ⟨c, tail, hcons⟩ := List.exists_cons_of_ne_nil hword.1
    have hc : isSpace c = true := by
      refine hspace c ?_
      rw [List.nil_append, ← List.append_assoc, hcons]
      rfl
    exact absurd hc (Bool.eq_false_iff.mp (hword.2 c (hcons ▸ List.mem_cons_self)))
  · rintro ⟨before, between, sign, digits, gap, rest, htext, hbefore, hbetween, hne, hsign,
      hdigits, hfits, hid, hgap, hend⟩
    refine ⟨_, _, rest, ⟨before, htext, hbefore, htag, fun c hc => ?_⟩,
      ⟨between, sign, digits, rfl, hbetween, hsign, hdigits, fun c hc => ?_, hfits, hid⟩,
      ⟨gap, rfl, hgap, by decide, hend⟩⟩
    · rw [List.head?_append_of_ne_nil _ hne] at hc
      exact hbetween c (List.mem_of_mem_head? hc)
    · -- neither whitespace nor `END` goes on with a digit
      cases gap with
      | nil =>
          cases hc
          rfl
      | cons blank gap =>
          obtain rfl : blank = c := Option.some.inj hc
          refine Bool.eq_false_iff.mpr fun hdigit => ?_
          have hspace := hgap blank List.mem_cons_self
          rw [isSpace_of_isDigit hdigit] at hspace
          cases hspace

/-- A text has one tag. -/
theorem isValid_of_ne {tag' : Text} (h : isValid tag id received = some senderId)
    (hne : tag' ≠ tag) : isValid tag' id received = none := by
  obtain ⟨-, -, afterTag, -, -, hfirst, -, -⟩ := isValid_eq_some_extract.mp h
  refine Option.eq_none_iff_forall_ne_some.mpr fun senderId' h' => ?_
  obtain ⟨-, -, afterTag', -, -, hfirst', -, -⟩ := isValid_eq_some_extract.mp h'
  rw [hfirst] at hfirst'
  cases hfirst'
  exact hne rfl

end Readers

/-! ## What a server makes of a datagram -/

/-- A tag has no blank in it. -/
theorem Message.isWord_tag (message : Message) : IsWord message.tag := by
  cases message <;> decide

/-- The tags tell the kinds of messages apart, -/
theorem Message.tag_injective {message message' : Message} (h : message.tag = message'.tag) :
    message = message' := by
  cases message <;> cases message' <;> first | rfl | exact absurd h (by decide)

/-- no kind is reported as nothing, -/
theorem Message.result_ne_none (message : Message) : message.result ≠ .none := by
  cases message <;> decide

/-- and no two as the same. -/
theorem Message.result_injective {message message' : Message}
    (h : message.result = message'.result) : message = message' := by
  cases message <;> cases message' <;> first | rfl | exact absurd h (by decide)

/-- A text that passes for a message is not empty. -/
theorem PassesFor.ne_nil {tag text : Text} {senderId : UInt32}
    (h : PassesFor tag senderId text) : text ≠ [] := by
  obtain ⟨before, between, sign, digits, gap, rest, rfl, -, -, hne, -⟩ := h
  refine List.append_ne_nil_of_right_ne_nil before (List.append_ne_nil_of_right_ne_nil tag ?_)
  exact List.append_ne_nil_of_left_ne_nil hne _

/-- A reader accepts a datagram that passes for its message, and is not from the server itself. -/
theorem isValid_datagram_iff (message : Message) {id senderId : UInt32} {datagram : Text} :
    isValid message.tag id (.of (some datagram)) = some senderId ↔
      senderId ≠ id ∧ PassesFor message.tag senderId (inBuffer ELECTION_MAXLINE datagram) := by
  rw [isValid_eq_some_iff message.isWord_tag]
  refine and_iff_right_of_imp fun h => ?_
  show 0 < ((datagram.take ELECTION_MAXLINE).length : ℤ)
  rw [Int.natCast_pos]
  refine List.length_pos_of_ne_nil fun hnil => h.2.ne_nil ?_
  show (datagram.take ELECTION_MAXLINE).takeWhile (· ≠ '\x00') = []
  rw [hnil]
  rfl

/-- The switch, for a message that one of the readers accepts. -/
theorem switch_of_valid {message : Message} {id senderId : UInt32} {received : Reception}
    (h : isValid message.tag id received = some senderId) (m : Machine) :
    m.ssElectionResultSwitch id received
      = (message.result, { m with lastReceivedId := senderId }) := by
  have hother : ∀ message' : Message, message' ≠ message →
      isValid message'.tag id received = none :=
    fun message' hne => isValid_of_ne h fun htag => hne (Message.tag_injective htag)
  unfold Machine.ssElectionResultSwitch isValidCoordAnnouncement isValidAnswer
    isValidElectionMessage
  cases message with
  | coordAnnouncement =>
      have h : isValid "CRD".toList id received = some senderId := h
      rw [h]
      rfl
  | answer =>
      have h : isValid "ANS".toList id received = some senderId := h
      have hcoord : isValid "CRD".toList id received = none :=
        hother .coordAnnouncement (by decide)
      rw [hcoord, h]
      rfl
  | election =>
      have h : isValid "ELE".toList id received = some senderId := h
      have hcoord : isValid "CRD".toList id received = none :=
        hother .coordAnnouncement (by decide)
      have hanswer : isValid "ANS".toList id received = none := hother .answer (by decide)
      rw [hcoord, hanswer, h]
      rfl

/-- The switch, for a datagram that no reader accepts. -/
theorem switch_of_not_valid {id : UInt32} {datagram : Text}
    (h : ∀ message : Message, isValid message.tag id (.of (some datagram)) = none)
    (m : Machine) : m.ssElectionResultSwitch id (.of (some datagram)) = (.none, m) := by
  have hcoord : isValid "CRD".toList id (.of (some datagram)) = none := h .coordAnnouncement
  have hanswer : isValid "ANS".toList id (.of (some datagram)) = none := h .answer
  have helection : isValid "ELE".toList id (.of (some datagram)) = none := h .election
  have hn : ¬ (Reception.of (some datagram)).n < 0 := Int.not_lt.mpr (Int.natCast_nonneg _)
  unfold Machine.ssElectionResultSwitch isValidCoordAnnouncement isValidAnswer
    isValidElectionMessage
  rw [hcoord, hanswer, helection]
  show (if (Reception.of (some datagram)).n < 0 then SwitchResult.timeout else .none, m) = _
  rw [if_neg hn]

/-- **What a server makes of a datagram, whoever has sent it.**  It takes it for a message exactly
if it passes for one with an id that is not its own, notes that id, and takes no notice of any
other datagram. -/
theorem switch_exact (id : UInt32) (datagram : Text) (m : Machine) :
    (∀ (message : Message) (senderId : UInt32),
      m.ssElectionResultSwitch id (.of (some datagram))
          = (message.result, { m with lastReceivedId := senderId }) ↔
        senderId ≠ id ∧
          PassesFor message.tag senderId (inBuffer ELECTION_MAXLINE datagram)) ∧
    (m.ssElectionResultSwitch id (.of (some datagram)) = (.none, m) ↔
      ∀ (message : Message) (senderId : UInt32),
        PassesFor message.tag senderId (inBuffer ELECTION_MAXLINE datagram) → senderId = id) := by
  simp only [← isValid_datagram_iff]
  by_cases hvalid : ∀ message : Message, isValid message.tag id (.of (some datagram)) = none
  · rw [switch_of_not_valid hvalid]
    refine ⟨fun message senderId => ?_, iff_of_true rfl fun message senderId hpasses => ?_⟩
    · rw [hvalid message]
      refine iff_of_false (fun h => ?_) fun h => Option.some_ne_none senderId h.symm
      exact message.result_ne_none (Prod.mk.inj h).1.symm
    · by_contra hne
      have hsome := (isValid_datagram_iff message).mpr ⟨hne, hpasses⟩
      rw [hvalid message] at hsome
      cases hsome
  · obtain ⟨message', hmessage'⟩ := not_forall.mp hvalid
    obtain ⟨senderId', h⟩ := Option.ne_none_iff_exists'.mp hmessage'
    rw [switch_of_valid h]
    refine ⟨fun message senderId => ⟨fun heq => ?_, fun h' => ?_⟩, iff_of_false ?_ ?_⟩
    · obtain ⟨hresult, hm⟩ := Prod.mk.inj heq
      obtain rfl := Message.result_injective hresult
      obtain rfl : senderId' = senderId := congrArg Machine.lastReceivedId hm
      exact h
    · -- no other reader accepts it
      obtain rfl : message = message' := by
        by_contra hne
        have hnone := isValid_of_ne h fun htag => hne (Message.tag_injective htag)
        rw [h'] at hnone
        cases hnone
      rw [h] at h'
      rw [Option.some.inj h']
    · exact fun heq => message'.result_ne_none (Prod.mk.inj heq).1
    · intro hall
      obtain ⟨hne, hpasses⟩ := (isValid_datagram_iff message').mp h
      exact hne (hall message' senderId' hpasses)

end Election

end Brix
