import Brix.Common.SocketUtils

/-!
# Election messages

The three messages of `single_socket_election.cpp`, `ELE`, `ANS` and `CRD`.  Each
server writes its own three once, in the constructor of `RedundancyManager`, and
sends nothing else; it reads whatever arrives with `is_valid_election_message`,
`is_valid_answer` and `is_valid_coord_announcement`, which differ in the tag they look
for only.  `isValid_text` says that they tell the messages of other servers apart and
take no notice of one's own.

### The design

The three readers of the source are the same but for a tag.  `isValid` is what they have in
common, and the readers are its instances, each under its own name.  The buffer is read as a
stream: a word, a number and a word, and nothing after that is looked at, so a reader accepts more
than what any server writes.  What it accepts exactly is the subject of `Brix.Election.Grammar`.
-/

namespace Brix

open Text

namespace Election

/-- `MAXLINE` of the election, the size of the receive buffer. -/
def ELECTION_MAXLINE : ℕ := 128

/-- The kinds of messages. -/
inductive Message
  | election
  | answer
  | coordAnnouncement
  deriving DecidableEq, Repr

/-- How the messages of a server are written: `TYPE <id> END`. -/
def written (tag : Text) (id : UInt32) : Text :=
  tag ++ ' ' :: (showNat id.toNat ++ " END".toList)

/-- `election_message`. -/
def electionMessage (id : UInt32) : Text := written "ELE".toList id

/-- `answer_message`. -/
def answerMessage (id : UInt32) : Text := written "ANS".toList id

/-- `coord_announcement_message`. -/
def coordAnnouncementMessage (id : UInt32) : Text := written "CRD".toList id

/-- The datagram of a message. -/
def Message.text : Message → UInt32 → Text
  | .election => electionMessage
  | .answer => answerMessage
  | .coordAnnouncement => coordAnnouncementMessage

/-- The result of `recvfrom`: the number of bytes, or `-1`, and the buffer as a C string. -/
structure Reception where
  n : ℤ
  buffer : Text

/-- What is received of a datagram, or when none comes in time. -/
def Reception.of : Option Text → Reception
  | some datagram => ⟨(datagram.take ELECTION_MAXLINE).length, inBuffer ELECTION_MAXLINE datagram⟩
  | none => ⟨-1, []⟩

/-- What the three readers have in common: the id in a message with this tag that is
not from the server itself. -/
def isValid (tag : Text) (id : UInt32) (received : Reception) : Option UInt32 :=
  if received.n ≤ 0 then none
  else do
    let (first, rest) ← extractWord received.buffer
    let (senderId, rest) ← extractUnsigned rest
    let (last, _) ← extractWord rest
    if first = tag ∧ last = "END".toList ∧ senderId ≠ id then some senderId else none

/-- `is_valid_answer`. -/
def isValidAnswer (id : UInt32) (received : Reception) : Option UInt32 :=
  isValid "ANS".toList id received

/-- `is_valid_coord_announcement`. -/
def isValidCoordAnnouncement (id : UInt32) (received : Reception) : Option UInt32 :=
  isValid "CRD".toList id received

/-- `is_valid_election_message`. -/
def isValidElectionMessage (id : UInt32) (received : Reception) : Option UInt32 :=
  isValid "ELE".toList id received

/-! ## What is written is read -/

/-- A time-out is read by none of them. -/
theorem isValid_none (tag : Text) (id : UInt32) : isValid tag id (.of none) = none :=
  if_pos (by decide)

/-- A reader takes a message exactly if it has the tag and is from another server. -/
theorem isValid_written {tag : Text} (htag : IsWord tag) (hlength : tag.length = 3)
    (hnul : '\x00' ∉ tag) (tag' : Text) (id senderId : UInt32) :
    isValid tag' id (.of (some (written tag senderId)))
      = if tag = tag' ∧ senderId ≠ id then some senderId else none := by
  have hdigits : (showNat senderId.toNat).length ≤ 10 :=
    length_showNat_le (by decide) (Nat.lt_of_lt_of_le senderId.toNat_lt (by decide))
  have hfits : (written tag senderId).length ≤ ELECTION_MAXLINE := by
    simp only [written, List.length_append, List.length_cons, hlength, ELECTION_MAXLINE]
    have hend : (" END".toList).length = 4 := rfl
    omega
  have hnul' : '\x00' ∉ written tag senderId := by
    simp only [written, List.mem_append, List.mem_cons, not_or]
    exact ⟨hnul, by decide, notMem_showNat (by decide) _, by decide⟩
  have hn : ¬ (Reception.of (some (written tag senderId))).n ≤ 0 := by
    show ¬ (((written tag senderId).take ELECTION_MAXLINE).length : ℤ) ≤ 0
    rw [List.take_of_length_le hfits]
    simp only [written, List.length_append, List.length_cons]
    omega
  have hbuffer : (Reception.of (some (written tag senderId))).buffer = written tag senderId :=
    inBuffer_of_length_le hnul' hfits
  have hfirst : extractWord (written tag senderId)
      = some (tag, ' ' :: (showNat senderId.toNat ++ " END".toList)) :=
    extractWord_word htag fun c hc => by cases hc; decide
  have hid : extractUnsigned (' ' :: (showNat senderId.toNat ++ " END".toList))
      = some (senderId, " END".toList) := by
    rw [extractUnsigned_showNat senderId.toNat_lt fun c hc => by cases hc; decide]
    simp
  have hlast : extractWord " END".toList = some ("END".toList, []) := by decide
  simp only [isValid, if_neg hn, hbuffer, hfirst, hid, hlast, Option.bind_eq_bind,
    Option.bind_some, true_and]

/-- The tag of a kind of messages. -/
def Message.tag : Message → Text
  | .election => "ELE".toList
  | .answer => "ANS".toList
  | .coordAnnouncement => "CRD".toList

/-- The messages differ in their tag. -/
theorem Message.text_eq (message : Message) (id : UInt32) :
    message.text id = written message.tag id := by
  cases message <;> rfl

/-- A server reads the messages of the others as what they are and none of its own. -/
theorem isValid_text (message : Message) (tag : Text) (id senderId : UInt32) :
    isValid tag id (.of (some (message.text senderId)))
      = if message.tag = tag ∧ senderId ≠ id then some senderId else none := by
  rw [message.text_eq]
  apply isValid_written
  · cases message <;> decide
  · cases message <;> rfl
  · cases message <;> decide

end Election

end Brix
