import Brix.Election.Candidacy

/-!
# Whom an idle server follows

`is_coordinator` and `coordinator_ip` are what the rest of the server goes by: the heartbeat
tester probes `coordinator_ip` whenever the server does not coordinate, and `coordinator_ip` is
not initialised.

`words` is a history variable: the announcements that the server has made and those that it has
accepted, in their order.  Every event leaves the history alone or adds one word to it
(`respond_cases`), and role and target are what the last word says (`Chronicle.Meaningful`),
the target as soon as the server is idle.

### What is load-bearing

The target is right only when the server is idle.  In an election `coordinator_ip` is what it was
before, and a server that has announced itself leaves it as it was too, so `Meaningful.target`
asks for both: the state, and that the server does not coordinate.  It is enough, because a server
becomes idle in two ways only, by accepting an announcement and by making one, and the former sets
the target and the latter the role.
-/

namespace Brix

namespace Election

open Execution

/-- An announcement, as the server sees it. -/
inductive Word
  /-- The server has announced itself. -/
  | announced
  /-- It has called `handle_coordinator_announcement` for a datagram from this address. -/
  | accepted (source : InAddr)
  deriving DecidableEq

/-- The server has announced itself and has accepted no announcement since. -/
def Leads (words : List Word) : Prop :=
  ∃ before after, words = before ++ .announced :: after ∧ ∀ source, .accepted source ∉ after

/-- The last announcement that the server has accepted is from this address, and it has made none
since. -/
def Follows (words : List Word) (source : InAddr) : Prop :=
  ∃ before after, words = before ++ .accepted source :: after ∧
    (∀ source', .accepted source' ∉ after) ∧ .announced ∉ after

namespace Machine

/-- The source of the announcement that an event has the server accept.

A datagram from the loopback network is not looked at, nor is anything in `INIT`. -/
def accepts (id : UInt32) (m : Machine) : Event → Option InAddr
  | .turn ⟨some (source, text), _⟩ _ =>
      if isLoopback source = false ∧ m.state ≠ .init ∧
        isValidCoordAnnouncement id (.of (some text)) ≠ none then some source else none
  | .turn ⟨none, _⟩ _ => none
  | .backup => none

/-- What an event adds to the history. -/
def words (id : UInt32) (m : Machine) (event : Event) : List Word :=
  (if .broadcast .coordAnnouncement ∈ (m.respond id event).2 then [.announced] else []) ++
    ((m.accepts id event).map Word.accepted).toList

end Machine

/-- A server and the announcements it has made and accepted. -/
structure Chronicle where
  machine : Machine
  words : List Word

namespace Chronicle

/-- The server enters the loop. -/
def start (coordinatorIp : InAddr) (lastReceivedId : UInt32) : Chronicle :=
  ⟨.start coordinatorIp lastReceivedId, []⟩

/-- One event. -/
def step (id : UInt32) (c : Chronicle) (event : Event) : Option Chronicle :=
  some ⟨(c.machine.respond id event).1, c.words ++ c.machine.words id event⟩

/-- Role and target are what the last word says.  A server that has not begun does not
coordinate. -/
structure Meaningful (c : Chronicle) : Prop where
  role : c.machine.isCoordinator = true ↔ Leads c.words
  target : c.machine.state = .notInProgress → c.machine.isCoordinator = false →
    Follows c.words c.machine.coordinatorIp
  begun : c.machine.state = .init → c.machine.isCoordinator = false

end Chronicle

/-! ## The last word -/

section Words

variable {words : List Word} {source : InAddr}

/-- Whoever has said nothing does not lead. -/
theorem not_leads_nil : ¬ Leads [] := by
  rintro ⟨before, after, h, -⟩
  simp at h

/-- Whoever has just announced itself leads. -/
theorem leads_concat_announced : Leads (words ++ [.announced]) :=
  ⟨words, [], rfl, by simp⟩

/-- Whoever has just accepted an announcement follows its source. -/
theorem follows_concat_accepted : Follows (words ++ [.accepted source]) source :=
  ⟨words, [], rfl, by simp, by simp⟩

/-- Whoever has just accepted an announcement does not lead. -/
theorem not_leads_concat_accepted : ¬ Leads (words ++ [.accepted source]) := by
  rintro ⟨before, after, h, hnone⟩
  rcases List.eq_nil_or_concat after with rfl | ⟨init, last, rfl⟩
  · have hlast := (List.append_inj' h rfl).2
    simp at hlast
  · have hsplit : words ++ [.accepted source] = (before ++ .announced :: init) ++ [last] := by
      rw [h]
      simp
    obtain rfl : Word.accepted source = last := by
      simpa using (List.append_inj' hsplit rfl).2
    exact hnone source (by simp)

end Words

/-! ## One event -/

namespace Machine

variable {id : UInt32} {m : Machine} {input : Input} {calls : ℕ} {event : Event} {source : InAddr}

/-- An announcement of one's own is the only word of its event. -/
theorem words_of_spoken (h : .broadcast .coordAnnouncement ∈ (m.respond id event).2)
    (hnone : m.accepts id event = none) : m.words id event = [.announced] := by
  rw [words, if_pos h, hnone]
  rfl

/-- Otherwise an event adds what it has the server accept, if anything. -/
theorem words_of_silent (h : .broadcast .coordAnnouncement ∉ (m.respond id event).2) :
    m.words id event = ((m.accepts id event).map Word.accepted).toList := by
  rw [words, if_neg h, List.nil_append]

/-- An accepted announcement is taken in. -/
theorem respond_of_accepts (h : m.accepts id event = some source) :
    Adopted source (m.respond id event) := by
  cases event with
  | backup => cases h
  | turn input calls =>
      obtain ⟨datagram, elapsed⟩ := input
      cases datagram with
      | none => cases h
      | some datagram =>
          obtain ⟨origin, text⟩ := datagram
          rw [accepts, Option.ite_none_right_eq_some] at h
          obtain ⟨⟨hsource, hstate, hvalid⟩, heq⟩ := h
          cases heq
          obtain ⟨senderId, hvalid⟩ := Option.ne_none_iff_exists'.mp hvalid
          have hadopted : Adopted (m.receive ⟨some (source, text), elapsed⟩).ssCliaddr
              (m.iterate id ⟨some (source, text), elapsed⟩ calls) :=
            iterate_adopted hstate hsource hvalid
          exact hadopted

/-- Any other event is quiet, or ends with an announcement of one's own. -/
theorem respond_of_accepts_none (hbegun : m.state = .init → m.isCoordinator = false)
    (h : m.accepts id event = none) :
    m.Quiet (m.respond id event) ∨ Announced (m.respond id event) := by
  cases event with
  | backup => exact Or.inl (backupElections_quiet 1 m).1
  | turn input calls =>
      obtain ⟨datagram, elapsed⟩ := input
      cases datagram with
      | none => exact iterate_quiet_or_announced hbegun (isValid_none _ _)
      | some datagram =>
          obtain ⟨source, text⟩ := datagram
          rw [accepts, ite_eq_right_iff] at h
          by_cases hloopback : isLoopback source = true
          · left
            have hskipped : ¬ m.Looks ⟨some (source, text), elapsed⟩ := by
              simp [Looks, receive, hloopback]
            rw [respond_skipped hskipped]
            exact receive_quiet _ m
          by_cases hstate : m.state = .init
          · exact Or.inl (iterate_init hstate (hbegun hstate))
          refine iterate_quiet_or_announced hbegun ?_
          by_contra hvalid
          have haccepted := h ⟨Bool.eq_false_iff.mpr hloopback, hstate, hvalid⟩
          exact absurd haccepted (Option.some_ne_none source)

/-- **What an event says.** -/
theorem respond_cases (hbegun : m.state = .init → m.isCoordinator = false) (event : Event) :
    (m.Quiet (m.respond id event) ∧ m.words id event = []) ∨
      (Announced (m.respond id event) ∧ m.words id event = [.announced]) ∨
      ∃ source, Adopted source (m.respond id event) ∧ m.words id event = [.accepted source] := by
  cases haccepts : m.accepts id event with
  | some source =>
      have hadopted := respond_of_accepts haccepts
      refine Or.inr (Or.inr ⟨source, hadopted, ?_⟩)
      rw [words_of_silent hadopted.silent, haccepts]
      rfl
  | none =>
      rcases respond_of_accepts_none hbegun haccepts with hquiet | hannounced
      · refine Or.inl ⟨hquiet, ?_⟩
        rw [words_of_silent hquiet.silent, haccepts]
        rfl
      · exact Or.inr (Or.inl ⟨hannounced, words_of_spoken hannounced.spoken haccepts⟩)

end Machine

namespace Chronicle

variable {id : UInt32} {c c' : Chronicle} {event : Event} {coordinatorIp : InAddr}
  {lastReceivedId : UInt32} {events : List Event}

/-- `coordinator_ip` is not initialised, and the server is not idle. -/
theorem meaningful_start : (start coordinatorIp lastReceivedId).Meaningful where
  role := iff_of_false (by simp [start, Machine.start]) not_leads_nil
  target h := nomatch h
  begun _ := rfl

/-- One event.

A quiet event adds no word, and it changes neither role nor target nor makes the server idle. -/
theorem Meaningful.step (h : c.Meaningful) (taken : c.step id event = some c') :
    c'.Meaningful := by
  cases taken
  rcases c.machine.respond_cases h.begun event with ⟨hquiet, hwords⟩ | ⟨hannounced, hwords⟩ |
    ⟨source, hadopted, hwords⟩
  · refine ⟨?_, fun hstate hrole => ?_, fun hstate => ?_⟩
    · rw [hquiet.role, hwords, List.append_nil]
      exact h.role
    · rw [hquiet.leader, hwords, List.append_nil]
      exact h.target (hquiet.settled hstate) (hquiet.role.symm.trans hrole)
    · rw [hquiet.role]
      exact h.begun (hquiet.begun hstate)
  · refine ⟨?_, fun _ hrole => ?_, fun hstate => ?_⟩
    · rw [hwords]
      exact iff_of_true hannounced.role leads_concat_announced
    · exact nomatch hrole.symm.trans hannounced.role
    · exact nomatch hstate.symm.trans hannounced.settled
  · refine ⟨?_, fun _ _ => ?_, fun _ => hadopted.role⟩
    · rw [hwords, hadopted.role]
      exact iff_of_false nofun not_leads_concat_accepted
    · rw [hwords, hadopted.leader]
      exact follows_concat_accepted

/-- A run. -/
theorem meaningful_of_run
    (run : Runs (step id) Always (start coordinatorIp lastReceivedId) events c) :
    c.Meaningful :=
  run.invariant Meaningful meaningful_start fun _ _ _ h _ taken => h.step taken

/-- **Role and target are meaningful.**  Over any sequence of datagrams, time-outs and calls of
`backup_election`: the server coordinates exactly if it has announced itself and has accepted no
announcement since, and if it is idle and does not coordinate, `coordinator_ip` is where the last
announcement that it has accepted came from, and it has made none since.

`Meaningful` has one clause more, which the first turn needs.  The clause about the target is only
about an idle server, because a server in its first election has accepted nobody yet, and
`coordinator_ip` is whatever it was. -/
theorem role_and_target
    (run : Runs (step id) Always (start coordinatorIp lastReceivedId) events c) :
    (c.machine.isCoordinator = true ↔ Leads c.words) ∧
      (c.machine.state = .notInProgress → c.machine.isCoordinator = false →
        Follows c.words c.machine.coordinatorIp) :=
  ⟨(meaningful_of_run run).role, (meaningful_of_run run).target⟩

/-- The server `10.0.0.1` announces itself, and then `10.0.0.2` does. -/
def deposed : List Event :=
  [.turn ⟨none, 10⟩ 0, .turn ⟨none, 210⟩ 0,
    .turn ⟨some (0x0200000a, coordAnnouncementMessage (ntohl 0x0200000a)), 220⟩ 0]

/-- It does not lead any more, and follows the other one. -/
theorem role_and_target_deposed :
    ∃ c, Runs (step (ntohl 0x0100000a)) Always (start 0 0) deposed c ∧
      ¬ Leads c.words ∧ Follows c.words 0x0200000a := by
  have hrun : (perform (step (ntohl 0x0100000a)) (start 0 0) deposed).any
      (fun c => decide (c.machine.state = .notInProgress ∧ c.machine.isCoordinator = false ∧
        c.machine.coordinatorIp = 0x0200000a)) = true := by
    decide
  obtain ⟨c, run, hc⟩ := exists_runs_of_any hrun
  obtain ⟨hidle, hrole, hip⟩ := of_decide_eq_true hc
  obtain ⟨hleads, hfollows⟩ := role_and_target run
  refine ⟨c, run, fun h => ?_, ?_⟩
  · exact nomatch hrole.symm.trans (hleads.mpr h)
  · rw [← hip]
    exact hfollows hidle hrole

end Chronicle

end Election

end Brix
