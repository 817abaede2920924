import Brix.Server.RequestHandler

/-!
# Request handlers at work together

`packet_multiplexer` starts a thread for every REQ datagram, copies of one datagram
included.  The threads interleave between the steps of `Phase.step`, and clients
register and leave meanwhile.

The record a handler checks its packet against is read before `make_transaction`
takes any lock and is not looked at again, so two handlers of copies of one datagram
can both find it to be the next one and both move the money: `copies_move_twice`.
What keeps money from moving twice is that a handler that moves it still has the
sender's next number at that moment, and that the record's counter does not start
over (`Requests.Admitted`); `moves_at_most_once` is the result for such runs.

### What is load-bearing

`Counted` has a second half that no result mentions: a number that has moved money lies behind the
sender's counter.  It is what makes the first half an invariant, for a handler that is about to
move money has the next number, which no number behind the counter can be.  The comparison is made
after narrowing to `int`, where different counters stay different (`toInt32_injective`), so
nothing has to be assumed about the size of the numbers but that the counter does not start over.

A removal takes a client's history with it, and a client that registers again begins with a
counter of zero: `movesSince` counts from the last removal on.
-/

namespace Brix

open Execution

/-- A REQ datagram: who sent it and what it says. -/
structure Arrival where
  senderIp : InAddr
  packet : ReqPacket

/-- What happens to a sender: money of its moves, or it is removed. -/
inductive Event
  | moved (senderIp : InAddr) (seqNum : Int64)
  | removed (clientIp : InAddr)
  deriving DecidableEq

/-- A server with one handler for each arrival. -/
structure Requests (Tid : Type) where
  ledger : Ledger
  phase : Tid → Phase
  /-- What has happened, latest first. -/
  log : List Event

/-- No handler has begun. -/
def Requests.start {Tid : Type} (ledger : Ledger) : Requests Tid := ⟨ledger, fun _ => .started, []⟩

/-- A handler takes a step, or a client registers or leaves. -/
inductive RequestsAction (Tid : Type)
  | handler (t : Tid)
  | register (clientIp : InAddr)
  | remove (clientIp : InAddr)

/-- The transfer of an arrival. -/
def Arrival.transfer (arrival : Arrival) (ledger : Ledger) : DbRecordResponse × Ledger :=
  ledger.transfer arrival.senderIp arrival.packet.receiverIp arrival.packet.transferAmount

/-- What a handler's next step does to its sender. -/
def Phase.event (arrival : Arrival) (ledger : Ledger) : Phase → List Event
  | .checked _ .valid =>
      if (arrival.transfer ledger).1.statusCode = .success then
        [.moved arrival.senderIp arrival.packet.seqNum]
      else []
  | _ => []

section System

variable {Tid : Type} [DecidableEq Tid] (arrivals : Tid → Arrival)

/-- A handler takes a step of its own, and registrations and removals are done at once. -/
def Requests.step (s : Requests Tid) : RequestsAction Tid → Option (Requests Tid)
  | .handler t =>
      ((s.phase t).step (arrivals t).senderIp (arrivals t).packet s.ledger).map
        fun (phase, ledger) =>
          { ledger := ledger
            phase := Function.update s.phase t phase
            log := (s.phase t).event (arrivals t) s.ledger ++ s.log }
  | .register clientIp => some { s with ledger := (s.ledger.register clientIp).2 }
  | .remove clientIp =>
      some { s with ledger := (s.ledger.remove clientIp).2, log := .removed clientIp :: s.log }

/-- How often a sender's money has moved under a number since it was last removed. -/
def movesSince (senderIp : InAddr) (seqNum : Int64) : List Event → ℕ
  | [] => 0
  | .moved ip seq :: rest =>
      (if ip = senderIp ∧ seq = seqNum then 1 else 0) + movesSince senderIp seqNum rest
  | .removed ip :: rest => if ip = senderIp then 0 else movesSince senderIp seqNum rest

/-- The step is not one that goes wrong: a handler about to make its transaction finds
a record whose counter can still go up, and, if the ledger covers the transfer, one
whose next number its packet still has. -/
def Requests.Admitted (s : Requests Tid) : RequestsAction Tid → Prop
  | .handler t => ∀ client, s.phase t = .checked client .valid → ∀ record,
      s.ledger.records.lookup (arrivals t).senderIp = some record →
      record.lastRequest.toNat + 1 < 2 ^ 32 ∧
      (s.ledger.Covers (arrivals t).senderIp (arrivals t).packet.receiverIp
          (arrivals t).packet.transferAmount →
        checkPacketStatus (arrivals t).packet record = .valid)
  | _ => True

/-- A sender's numbers that have been used lie behind its counter, and none has been
used twice. -/
def Requests.Counted (s : Requests Tid) : Prop :=
  ∀ ip seq, movesSince ip seq s.log ≤ 1 ∧
    (0 < movesSince ip seq s.log → ∃ record, s.ledger.records.lookup ip = some record ∧
      ∃ n ≤ record.lastRequest, n.toInt32 = seq.toInt32)

/-- A packet that is found to be the next one has that number, as an `int`. -/
theorem eq_of_checkPacketStatus {packet : ReqPacket} {client : ClientRecord}
    (h : checkPacketStatus packet client = .valid) :
    packet.seqNum.toInt32 = (client.lastRequest + 1).toInt32 := by
  unfold checkPacketStatus at h
  by_contra hne
  simp only [if_neg hne] at h
  split at h <;> cases h

/-- Narrowing to `int` loses no information. -/
theorem toInt32_injective {m n : UInt32} (h : m.toInt32 = n.toInt32) : m = n :=
  congrArg Int32.toUInt32 h

variable {arrivals}

omit [DecidableEq Tid] in
/-- A counter that went up, or stayed, has the old numbers behind it. -/
theorem Requests.Counted.behind {s : Requests Tid} (h : s.Counted) {ip : InAddr} {seq : Int64}
    (hpos : 0 < movesSince ip seq s.log) {ledger : Ledger}
    (hkept : ∀ record, s.ledger.records.lookup ip = some record →
      ∃ record', ledger.records.lookup ip = some record' ∧
        record.lastRequest ≤ record'.lastRequest) :
    ∃ record, ledger.records.lookup ip = some record ∧
      ∃ n ≤ record.lastRequest, n.toInt32 = seq.toInt32 := by
  obtain ⟨record, hrecord, n, hn, hseq⟩ := (h ip seq).2 hpos
  obtain ⟨record', hrecord', hle⟩ := hkept record hrecord
  exact ⟨record', hrecord', n, UInt32.le_trans hn hle, hseq⟩

omit [DecidableEq Tid] in
/-- The step that moves money, or tries to. -/
theorem Requests.Counted.transfer {s : Requests Tid} (h : s.Counted) {t : Tid}
    {client : ClientRecord} (hphase : s.phase t = .checked client .valid)
    (hadmitted : s.Admitted arrivals (.handler t)) (phase : Tid → Phase) :
    Requests.Counted ⟨((arrivals t).transfer s.ledger).2, phase,
      (Phase.checked client .valid).event (arrivals t) s.ledger ++ s.log⟩ := by
  have hadmitted := hadmitted client hphase
  generalize arrivals t = arrival at hadmitted ⊢
  -- the sender's counter goes up by one at most, and does not start over
  have hup : ∀ ip record, s.ledger.records.lookup ip = some record →
      ∃ record', (arrival.transfer s.ledger).2.records.lookup ip = some record' ∧
        record.lastRequest ≤ record'.lastRequest := by
    intro ip record hrecord
    obtain ⟨record', hrecord', hlast⟩ : ∃ record',
        (arrival.transfer s.ledger).2.records.lookup ip = some record' ∧
        (record'.lastRequest = record.lastRequest ∨
          ip = arrival.senderIp ∧ record'.lastRequest = record.lastRequest + 1) :=
      Ledger.lookup_transfer hrecord
    refine ⟨record', hrecord', ?_⟩
    rcases hlast with hlast | ⟨rfl, hlast⟩
    · rw [hlast]
      exact UInt32.le_refl _
    · have hroom := (hadmitted record hrecord).1
      rw [hlast, UInt32.le_iff_toNat_le, UInt32.toNat_add]
      simp
      omega
  intro ip seq
  by_cases hmoves : (arrival.transfer s.ledger).1.statusCode = .success
  · have hevent : (Phase.checked client .valid).event arrival s.ledger
        = [.moved arrival.senderIp arrival.packet.seqNum] := if_pos hmoves
    obtain ⟨hcovers, sender, sender', hsender, hsender', hlast⟩ :=
      Ledger.lookup_transfer_sender hmoves
    obtain ⟨hroom, hvalid⟩ := hadmitted sender hsender
    have hseq := eq_of_checkPacketStatus (hvalid hcovers)
    rw [hevent]
    by_cases hsame : arrival.senderIp = ip ∧ arrival.packet.seqNum = seq
    · obtain ⟨rfl, rfl⟩ := hsame
      have hunused : movesSince arrival.senderIp arrival.packet.seqNum s.log = 0 := by
        by_contra hused
        obtain ⟨record, hrecord, n, hn, hnseq⟩ := (h _ _).2 (Nat.pos_of_ne_zero hused)
        rw [hsender] at hrecord
        cases hrecord
        have hnext := toInt32_injective (hnseq.trans hseq)
        rw [hnext, UInt32.le_iff_toNat_le, UInt32.toNat_add] at hn
        simp at hn
        omega
      refine ⟨?_, fun _ => ⟨sender', hsender', sender.lastRequest + 1, ?_, hseq.symm⟩⟩
      · simp [movesSince, hunused]
      · rw [hlast]
        exact UInt32.le_refl _
    · have hcount : movesSince ip seq
          ([.moved arrival.senderIp arrival.packet.seqNum] ++ s.log) = movesSince ip seq s.log := by
        simp [movesSince, hsame]
      rw [hcount]
      exact ⟨(h ip seq).1, fun hpos => h.behind hpos (hup ip)⟩
  · have hevent : (Phase.checked client .valid).event arrival s.ledger = [] := if_neg hmoves
    rw [hevent, List.nil_append]
    exact ⟨(h ip seq).1, fun hpos => h.behind hpos (hup ip)⟩

omit [DecidableEq Tid] in
/-- Nothing has happened yet. -/
theorem Requests.counted_start (ledger : Ledger) : (Requests.start ledger : Requests Tid).Counted :=
  fun _ _ => ⟨Nat.zero_le 1, fun h => absurd h (Nat.lt_irrefl 0)⟩

/-- One admitted step. -/
theorem Requests.Counted.step {s s' : Requests Tid} (h : s.Counted) {action : RequestsAction Tid}
    (hadmitted : s.Admitted arrivals action) (taken : s.step arrivals action = some s') :
    s'.Counted := by
  cases action with
  | register clientIp =>
      cases taken
      exact fun ip seq => ⟨(h ip seq).1, fun hpos => h.behind hpos fun record hrecord =>
        ⟨record, Ledger.lookup_register hrecord, UInt32.le_refl _⟩⟩
  | remove clientIp =>
      cases taken
      intro ip seq
      by_cases hip : clientIp = ip
      · simp [movesSince, hip]
      · have hcount : movesSince ip seq (.removed clientIp :: s.log) = movesSince ip seq s.log :=
          if_neg hip
        show movesSince ip seq (.removed clientIp :: s.log) ≤ 1 ∧ _
        rw [hcount]
        exact ⟨(h ip seq).1, fun hpos => h.behind hpos fun record hrecord =>
          ⟨record, by rw [Ledger.lookup_remove_of_ne (Ne.symm hip), hrecord], UInt32.le_refl _⟩⟩
  | handler t =>
      rw [Requests.step] at taken
      cases hphase : s.phase t with
      | started =>
          rw [hphase] at taken
          cases taken
          exact h
      | looked client =>
          rw [hphase] at taken
          cases taken
          exact h
      | replied reply =>
          rw [hphase] at taken
          cases taken
      | checked client status =>
          rw [hphase] at taken
          cases status with
          | valid =>
              cases taken
              exact h.transfer hphase hadmitted _
          | duplicate => cases taken; exact h
          | outOfOrder => cases taken; exact h
          | noClue => cases taken; exact h

/-- **When money moves once.**  Any number of handlers for any datagrams, copies
included, interleaved in any order with clients that register and leave: as long as
every handler about to make its transaction finds a counter with room, and still has
the next number if the transfer is covered, every number of a sender moves money at
most once while the sender stays registered.

Nothing is assumed of the schedule but that, and in particular nothing of which handler was started
first: a copy may overtake its original. -/
theorem moves_at_most_once {ledger : Ledger} {actions : List (RequestsAction Tid)}
    {s : Requests Tid}
    (run : Runs (Requests.step arrivals) (Requests.Admitted arrivals) (Requests.start ledger)
      actions s) (ip : InAddr) (seq : Int64) : movesSince ip seq s.log ≤ 1 :=
  (run.invariant Requests.Counted (Requests.counted_start ledger)
    (fun _ _ _ h hadmitted taken => h.step hadmitted taken) ip seq).1

end System

/-! ## Two copies of one datagram -/

/-- Clients 1 and 2 have just been registered. -/
def twoNewClients : Ledger := ((Ledger.empty.register 1).2.register 2).2

/-- Client 1 sends 40 to client 2 as its first request. -/
def firstRequest : Arrival := ⟨1, ⟨1, 2, 40⟩⟩

/-- Each handler checks its copy before the other one makes its transaction. -/
def bothChecked : List (RequestsAction Bool) :=
  [.handler false, .handler false, .handler true, .handler true, .handler false, .handler true]

/-- **Copies of one datagram can move its money twice.** -/
theorem copies_move_twice : ∃ s : Requests Bool,
    Runs (Requests.step fun _ => firstRequest) (fun _ _ => True) (Requests.start twoNewClients)
      bothChecked s ∧ movesSince 1 1 s.log = 2 := by
  have hrun : (perform (Requests.step fun _ => firstRequest) (Requests.start twoNewClients)
      bothChecked).any (fun s => movesSince 1 1 s.log == 2) = true := by
    decide
  obtain ⟨s, run, htwice⟩ := exists_runs_of_any hrun
  exact ⟨s, run, eq_of_beq htwice⟩

/-- One handler is done before the other one checks its copy. -/
def oneAfterTheOther : List (RequestsAction Bool) :=
  [.handler false, .handler false, .handler false, .handler true, .handler true, .handler true]

/-- Then the money moves once. -/
theorem copies_move_once : ∃ s : Requests Bool,
    perform (Requests.step fun _ => firstRequest) (Requests.start twoNewClients) oneAfterTheOther
      = some s ∧ movesSince 1 1 s.log ≤ 1 := by
  have run : ∃ s : Requests Bool,
      perform (Requests.step fun _ => firstRequest) (Requests.start twoNewClients) oneAfterTheOther
        = some s ∧
      Runs (Requests.step fun _ => firstRequest) (Requests.Admitted fun _ => firstRequest)
        (Requests.start twoNewClients) oneAfterTheOther s := by
    refine ⟨_, rfl, .cons ?_ rfl (.cons ?_ rfl (.cons ?_ rfl (.cons ?_ rfl (.cons ?_ rfl
      (.cons ?_ rfl .nil)))))⟩
    · intro client hphase
      cases hphase
    · intro client hphase
      cases hphase
    · intro client hphase record hrecord
      have hfound : twoNewClients.records.lookup 1 = some ⟨1, 100000, 0⟩ := by decide
      obtain rfl : (⟨1, 100000, 0⟩ : ClientRecord) = record :=
        Option.some.inj (hfound.symm.trans hrecord)
      exact ⟨by decide, fun _ => by decide⟩
    · intro client hphase
      cases hphase
    · intro client hphase
      cases hphase
    · intro client hphase
      exact absurd (Phase.checked.inj hphase).2 (by decide)
  obtain ⟨s, hs, run⟩ := run
  exact ⟨s, hs, moves_at_most_once run 1 1⟩

end Brix
