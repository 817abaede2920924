import Brix.Common.Grammar
import Brix.Server.RequestHandler

/-!
# The packet multiplexer

The loop of `packet_multiplexer` over the datagrams it receives.  The kind of a packet is
told by its first three characters; whether it can be read, by all of its tokens and
numbers; whether it is a packet, by the grammar (`IsReq`, `WellFormedKil`).  The three do
not agree, and each gap between them is a way to go wrong.

* `BrokenKil` — looks like a KIL packet and is none.  `to_KIL_Packet` throws, and while the
  call of `to_REQ_Packet` a few lines above stands in a `try` block, this call stands in
  none: the process ends.
* `MisreadReq` — looks like a REQ packet, is none, and is read all the same, because the
  conversions of `to_REQ_Packet` stop at the first character they do not like.  A handler
  is started and may move money.

A datagram that looks like a REQ packet and cannot be read is reported and dropped, as it
should be.  `stays_up_iff` says that the two kinds above are all that can go wrong.

What carries the induction over the loop is `packetMultiplexer_right_iff`: whether a turn
is right depends on its datagram alone, not on who has sent it or on the ledger, so
nothing that happened in earlier turns can matter.
-/

namespace Brix

open Text

/-- A KIL packet: the keywords `KIL` and `END`, with no space in front and nothing besides. -/
def WellFormedKil (text : Text) : Prop :=
  packetType text = .kil ∧ tokens text = ["KIL".toList, "END".toList]

/-- A REQ packet or a KIL packet. -/
def WellFormedPacket (text : Text) : Prop := (∃ packet, IsReq text packet) ∨ WellFormedKil text

/-- A datagram that looks like a KIL packet and is none. -/
def BrokenKil (datagram : Text) : Prop :=
  packetType (inBuffer MAX_PACKET_SIZE datagram) = .kil ∧
    tokens (inBuffer MAX_PACKET_SIZE datagram) ≠ ["KIL".toList, "END".toList]

instance (datagram : Text) : Decidable (BrokenKil datagram) := inferInstanceAs (Decidable (_ ∧ _))

/-- A datagram that looks like a REQ packet, is none, and is read as one. -/
def MisreadReq (datagram : Text) : Prop :=
  packetType (inBuffer MAX_PACKET_SIZE datagram) = .req ∧
    Misread (inBuffer MAX_PACKET_SIZE datagram)

/-! ## One datagram -/

/-- What starts a handler is a packet, or is misread as one. -/
theorem wellFormed_of_handled {senderIp : InAddr} {datagram : Text} {ledger : Ledger}
    {handled : Handled}
    (h : packetMultiplexer senderIp datagram ledger = .ok (some handled)) :
    WellFormedPacket (inBuffer MAX_PACKET_SIZE datagram) ∨ MisreadReq datagram := by
  unfold MisreadReq
  unfold packetMultiplexer at h
  generalize inBuffer MAX_PACKET_SIZE datagram = text at h ⊢
  cases htype : packetType text with
  | req =>
      simp only [htype] at h
      split at h
      · rename_i packet hpacket
        by_cases hmisread : Misread text
        · exact Or.inr ⟨rfl, hmisread⟩
        · exact Or.inl (Or.inl ⟨packet, isReq_of_toReqPacket hmisread hpacket⟩)
      · cases h
  | kil =>
      simp only [htype, toKilPacket] at h
      split at h
      · cases h
      · rename_i htokens
        exact Or.inl (Or.inr ⟨htype, not_not.mp htokens⟩)
  | ack =>
      simp only [htype] at h
      cases h
  | err =>
      simp only [htype] at h
      cases h

/-- What is misread starts a handler, and is no packet. -/
theorem MisreadReq.handled {datagram : Text} (h : MisreadReq datagram) (senderIp : InAddr)
    (ledger : Ledger) :
    ¬ WellFormedPacket (inBuffer MAX_PACKET_SIZE datagram) ∧
      ∃ handled, packetMultiplexer senderIp datagram ledger = .ok (some handled) := by
  obtain ⟨htype, hmisread⟩ := h
  obtain ⟨packet, hpacket, hnot⟩ := exists_toReqPacket_of_misread hmisread
  constructor
  · rintro (⟨packet', hreq⟩ | ⟨hkil, -⟩)
    · -- the reader would have read that other packet
      have hsame := toReqPacket_of_isReq hreq
      rw [hpacket] at hsame
      cases hsame
      exact hnot hreq
    · rw [htype] at hkil
      cases hkil
  · refine ⟨processReqPacket senderIp packet ledger, ?_⟩
    unfold packetMultiplexer
    simp only [htype, hpacket]

/-- A turn of the loop ends normally except on a broken KIL packet. -/
theorem packetMultiplexer_isOk_iff (senderIp : InAddr) (datagram : Text) (ledger : Ledger) :
    (∃ handled, packetMultiplexer senderIp datagram ledger = .ok handled) ↔
      ¬ BrokenKil datagram := by
  unfold packetMultiplexer BrokenKil
  generalize inBuffer MAX_PACKET_SIZE datagram = text
  cases htype : packetType text with
  | req =>
      simp only [htype]
      refine iff_of_true ?_ nofun
      split
      · exact ⟨_, rfl⟩
      · exact ⟨_, rfl⟩
  | kil =>
      simp only [htype, toKilPacket, true_and, not_not]
      constructor
      · rintro ⟨handled, h⟩
        by_contra htokens
        rw [if_pos htokens] at h
        cases h
      · intro htokens
        rw [if_neg (not_not.mpr htokens)]
        exact ⟨_, rfl⟩
  | ack =>
      simp only [htype]
      exact iff_of_true ⟨_, rfl⟩ nofun
  | err =>
      simp only [htype]
      exact iff_of_true ⟨_, rfl⟩ nofun

/-! ## The loop -/

/-- A turn that ended normally: what was received, and what the handler did if one was
started. -/
structure Turn where
  senderIp : InAddr
  datagram : Text
  before : Ledger
  handled : Option Handled

/-- The ledger after a turn. -/
def Turn.after (turn : Turn) : Ledger := turn.handled.elim turn.before Handled.ledger

/-- The loop of `packet_multiplexer`, for the datagrams it receives. -/
def multiplex : Ledger → List (InAddr × Text) → Except Fault (List Turn × Ledger)
  | ledger, [] => .ok ([], ledger)
  | ledger, (senderIp, datagram) :: rest => do
      let handled ← packetMultiplexer senderIp datagram ledger
      let turn : Turn := ⟨senderIp, datagram, ledger, handled⟩
      let (turns, final) ← multiplex turn.after rest
      return (turn :: turns, final)

/-- What is no packet starts no handler and leaves the ledger as it is. -/
def Turn.Right (turn : Turn) : Prop :=
  ¬ WellFormedPacket (inBuffer MAX_PACKET_SIZE turn.datagram) →
    turn.handled = none ∧ turn.after = turn.before

/-- Every turn ends normally and is right. -/
def StaysUp (ledger : Ledger) (datagrams : List (InAddr × Text)) : Prop :=
  ∃ turns final, multiplex ledger datagrams = .ok (turns, final) ∧ ∀ turn ∈ turns, turn.Right

/-- **One turn.** -/
theorem packetMultiplexer_right_iff (senderIp : InAddr) (datagram : Text) (ledger : Ledger) :
    (∃ handled, packetMultiplexer senderIp datagram ledger = .ok handled ∧
      Turn.Right ⟨senderIp, datagram, ledger, handled⟩) ↔
      ¬ BrokenKil datagram ∧ ¬ MisreadReq datagram := by
  rw [← packetMultiplexer_isOk_iff senderIp datagram ledger]
  constructor
  · rintro ⟨handled, hone, hright⟩
    refine ⟨⟨handled, hone⟩, fun hmisread => ?_⟩
    obtain ⟨hnot, handled', hone'⟩ := hmisread.handled senderIp ledger
    obtain rfl : handled = some handled' := Except.ok.inj (hone.symm.trans hone')
    obtain ⟨hnone, -⟩ := hright hnot
    cases hnone
  · rintro ⟨⟨handled, hone⟩, hread⟩
    refine ⟨handled, hone, fun hnot => ?_⟩
    cases handled with
    | none => exact ⟨rfl, rfl⟩
    | some handled => exact absurd ((wellFormed_of_handled hone).resolve_right hread) hnot

/-- The first datagram, and the others in the ledger that it leaves. -/
theorem staysUp_cons_iff (ledger : Ledger) (senderIp : InAddr) (datagram : Text)
    (rest : List (InAddr × Text)) :
    StaysUp ledger ((senderIp, datagram) :: rest) ↔
      ∃ handled, (packetMultiplexer senderIp datagram ledger = .ok handled ∧
          Turn.Right ⟨senderIp, datagram, ledger, handled⟩) ∧
        StaysUp (Turn.after ⟨senderIp, datagram, ledger, handled⟩) rest := by
  constructor
  · rintro ⟨turns, final, hrun, hturns⟩
    obtain ⟨handled, hone, hrun⟩ := bind_eq_ok.mp hrun
    obtain ⟨⟨later, last⟩, hrest, hrun⟩ := bind_eq_ok.mp hrun
    cases hrun
    obtain ⟨hright, hlater⟩ := List.forall_mem_cons.mp hturns
    exact ⟨handled, ⟨hone, hright⟩, later, _, hrest, hlater⟩
  · rintro ⟨handled, ⟨hone, hright⟩, turns, final, hrest, hturns⟩
    refine ⟨⟨senderIp, datagram, ledger, handled⟩ :: turns, final, ?_,
      List.forall_mem_cons.mpr ⟨hright, hturns⟩⟩
    rw [multiplex, hone]
    show (do let (turns, final) ← multiplex _ rest; _) = _
    rw [hrest]
    rfl

/-- **When the server stays up.**  For any datagrams from anybody: exactly if none of
them is a broken KIL packet, and none is misread as a REQ packet.

The induction is on the datagrams, with the ledger left open: by `packetMultiplexer_right_iff` a
turn is right or wrong whatever the ledger is. -/
theorem stays_up_iff (ledger : Ledger) (datagrams : List (InAddr × Text)) :
    StaysUp ledger datagrams ↔
      ∀ received ∈ datagrams, ¬ BrokenKil received.2 ∧ ¬ MisreadReq received.2 := by
  induction datagrams generalizing ledger with
  | nil => exact iff_of_true ⟨[], ledger, rfl, nofun⟩ nofun
  | cons received rest ih =>
      obtain ⟨senderIp, datagram⟩ := received
      rw [staysUp_cons_iff, List.forall_mem_cons,
        ← packetMultiplexer_right_iff senderIp datagram ledger]
      constructor
      · rintro ⟨handled, hone, hrest⟩
        exact ⟨⟨handled, hone⟩, (ih _).mp hrest⟩
      · rintro ⟨⟨handled, hone⟩, hrest⟩
        exact ⟨handled, hone, (ih _).mpr hrest⟩

/-- **Three letters bring the server down.** -/
theorem kil_brings_server_down : ¬ StaysUp Ledger.empty [(1, "KIL".toList)] := by
  rintro ⟨turns, final, hrun, -⟩
  obtain ⟨handled, hone, -⟩ := bind_eq_ok.mp hrun
  have hbroken : BrokenKil "KIL".toList := by decide
  exact (packetMultiplexer_isOk_iff 1 _ Ledger.empty).mp ⟨handled, hone⟩ hbroken

end Brix
