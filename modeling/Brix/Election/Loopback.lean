import Brix.Election.Candidacy

/-!
# Datagrams from the loopback network

The loop skips a turn whose source address is in `127.0.0.0/8`.  The address is tested
before the result of `recvfrom`, and a time-out leaves the address of the last datagram
in place: after a datagram from the loopback network the time-outs are skipped too, until
another datagram comes.

`Machine.trace` is what a sequence of receive outcomes shows: state, role and what is
sent, at every outcome that is not itself a loopback datagram.  `trace_eq_iff` says
exactly when it is the same without those datagrams.  The two runs are compared by
`Alike`: they may differ in the last source address and the wait time only.

### What is load-bearing

The two runs cannot be equal, since `ss_cliaddr` differs from the first loopback datagram on.
What they can be is `Alike`, and the question is what looks at the difference: the loopback test
does, in the turns in which nothing is received.  `Shadowed` therefore says of the source that it
is the same in both runs, or is a loopback address in the first one only; in the latter case the
next turn is skipped in the first run if it is a time-out, and sets both sources if it is a
datagram.

A skipped time-out is harmless unless something was due, and if something was due the other run
sends it (`act_timeout_due`), so that the traces differ from there.  That makes the condition
exact.
-/

namespace Brix

namespace Election

/-- The outcome is a datagram from the loopback network. -/
def Input.fromLoopback (input : Input) : Bool :=
  input.datagram.any fun datagram => isLoopback datagram.1

/-- What is seen of a server after an outcome. -/
structure Showing where
  state : ElectionState
  isCoordinator : Bool
  sent : List Output
  deriving DecidableEq

namespace Machine

/-- What is seen of a result. -/
def showing (result : Machine × List Output) : Showing :=
  ⟨result.1.state, result.1.isCoordinator, result.2⟩

/-- What a sequence of outcomes shows. -/
def trace (id : UInt32) : Machine → List Input → List Showing
  | _, [] => []
  | m, input :: rest =>
      if input.fromLoopback then trace id (m.iterate id input 0).1 rest
      else showing (m.iterate id input 0) :: trace id (m.iterate id input 0).1 rest

/-- A time-out that is skipped although something was due: the first election, or the end
of one. -/
def Misses (m : Machine) (input : Input) : Prop :=
  input.datagram = none ∧ isLoopback m.ssCliaddr = true ∧
    (m.state = .init ∨ m.state = .inProgress ∧ ANSWER_MAX_WAIT_TIME ≤ input.elapsed)

/-- No outcome of the sequence is missed. -/
def MissesNone (id : UInt32) : Machine → List Input → Prop
  | _, [] => True
  | m, input :: rest => ¬ m.Misses input ∧ MissesNone id (m.iterate id input 0).1 rest

/-- Equal but for the last source address and the wait time. -/
structure Alike (m m' : Machine) : Prop where
  state : m.state = m'.state
  isCoordinator : m.isCoordinator = m'.isCoordinator
  coordinatorIp : m.coordinatorIp = m'.coordinatorIp
  lastReceivedId : m.lastReceivedId = m'.lastReceivedId

/-- A run that has seen loopback datagrams, and the one that has not: the first one's
source address is that of a loopback datagram, or the second one's. -/
structure Shadowed (m m' : Machine) : Prop where
  alike : m.Alike m'
  outside : isLoopback m'.ssCliaddr = false
  source : isLoopback m.ssCliaddr = true ∨ m.ssCliaddr = m'.ssCliaddr

variable {id : UInt32} {m m' : Machine} {input : Input} {elapsed : ℤ}

/-- For a datagram it is its source that counts. -/
theorem fromLoopback_some {source : InAddr} {text : Text}
    (h : input.datagram = some (source, text)) : input.fromLoopback = isLoopback source := by
  rw [Input.fromLoopback, h, Option.any_some]

/-- A time-out is from nobody. -/
theorem fromLoopback_none (h : input.datagram = none) : input.fromLoopback = false := by
  rw [Input.fromLoopback, h, Option.any_none]

/-- A time-out leaves the last source in place. -/
theorem receive_none (h : input.datagram = none) : m.receive input = m := by
  rw [receive, h]

/-- A datagram replaces it. -/
theorem receive_some {source : InAddr} {text : Text} (h : input.datagram = some (source, text)) :
    m.receive input = { m with ssCliaddr := source } := by
  rw [receive, h]

/-- A loopback datagram shows nothing, and leaves its source behind. -/
theorem iterate_fromLoopback (id : UInt32) (m : Machine) (h : input.fromLoopback = true) :
    ∃ source, isLoopback source = true ∧
      m.iterate id input 0 = ({ m with ssCliaddr := source }, []) := by
  cases hdatagram : input.datagram with
  | none => exact absurd ((fromLoopback_none hdatagram).symm.trans h) nofun
  | some datagram =>
      obtain ⟨source, text⟩ := datagram
      rw [fromLoopback_some hdatagram] at h
      rw [iterate_act, receive_some hdatagram, if_pos h]
      exact ⟨source, h, rfl⟩

/-- A reading is noted over the wait time. -/
theorem Alike.note_eq (h : m.Alike m') (hsource : m.ssCliaddr = m'.ssCliaddr) (reading : Reading)
    (waited : ℤ) : m.note reading waited = m'.note reading waited := by
  simp only [note, Machine.mk.injEq]
  exact ⟨h.state, h.isCoordinator, h.coordinatorIp, by rw [h.lastReceivedId], hsource, trivial⟩

/-- But for the first election, the table does not look at the wait time. -/
theorem Alike.act_eq {latched : ElectionState} (h : m.Alike m')
    (hsource : m.ssCliaddr = m'.ssCliaddr) (hlatched : latched ≠ .init) (id : UInt32)
    (reading : Reading) (elapsed : ℤ) :
    m.act id reading elapsed latched = m'.act id reading elapsed latched := by
  cases latched with
  | init => exact absurd rfl hlatched
  | notInProgress => simp only [Machine.act, h.note_eq hsource, h.isCoordinator, hsource]
  | inProgress => simp only [Machine.act, h.note_eq hsource, hsource]
  | waitingForCoord => simp only [Machine.act, h.note_eq hsource]

/-- The table leaves the source alone. -/
theorem act_ssCliaddr (id : UInt32) (reading : Reading) (elapsed : ℤ) (m : Machine)
    (latched : ElectionState) : (m.act id reading elapsed latched).1.ssCliaddr = m.ssCliaddr := by
  cases latched with
  | init => rfl
  | notInProgress =>
      cases reading with
      | election senderId =>
          simp only [Machine.act]
          split <;> rfl
      | _ => rfl
  | inProgress =>
      cases reading with
      | election senderId =>
          simp only [Machine.act]
          split <;> rfl
      | timeout =>
          simp only [Machine.act]
          split <;> rfl
      | _ => rfl
  | waitingForCoord =>
      cases reading with
      | answer senderId =>
          simp only [Machine.act]
          split <;> rfl
      | _ => rfl

/-- The table does to both the same. -/
theorem Alike.act (h : m.Alike m') (hsource : m.ssCliaddr = m'.ssCliaddr) (id : UInt32)
    (reading : Reading) (elapsed : ℤ) (latched : ElectionState) :
    (m.act id reading elapsed latched).2 = (m'.act id reading elapsed latched).2 ∧
      (m.act id reading elapsed latched).1.Alike (m'.act id reading elapsed latched).1 := by
  by_cases hinit : latched = .init
  · subst hinit
    exact ⟨rfl, rfl, rfl, h.coordinatorIp, h.lastReceivedId⟩
  · rw [h.act_eq hsource hinit]
    exact ⟨rfl, rfl, rfl, rfl, rfl⟩

/-- A time-out at which nothing is due shows nothing, and leaves the machine alike. -/
theorem act_timeout (id : UInt32) (hinit : m.state ≠ .init)
    (hlong : m.state = .inProgress → ¬ ANSWER_MAX_WAIT_TIME ≤ elapsed) :
    (m.act id .timeout elapsed m.state).2 = [] ∧
      m.Alike (m.act id .timeout elapsed m.state).1 := by
  cases hstate : m.state with
  | init => exact absurd hstate hinit
  | notInProgress => exact ⟨rfl, rfl, rfl, rfl, rfl⟩
  | inProgress =>
      simp only [act, if_neg (hlong hstate)]
      exact ⟨trivial, rfl, rfl, rfl, rfl⟩
  | waitingForCoord => exact ⟨rfl, rfl, rfl, rfl, rfl⟩

/-- A time-out at which something is due sends something. -/
theorem act_timeout_due
    (h : m.state = .init ∨ m.state = .inProgress ∧ ANSWER_MAX_WAIT_TIME ≤ elapsed) :
    (m.act id .timeout elapsed m.state).2 ≠ [] := by
  rcases h with hstate | ⟨hstate, hlong⟩
  · rw [hstate]
    exact List.cons_ne_nil _ _
  · rw [hstate]
    simp only [act, if_pos hlong]
    exact List.cons_ne_nil _ _

/-- A turn of a machine whose source address is outside the loopback network. -/
theorem iterate_outside (h : isLoopback (m.receive input).ssCliaddr = false) :
    m.iterate id input 0 = (m.receive input).act id (input.reading id) input.elapsed m.state :=
  respond_act h

/-- A time-out that is skipped. -/
theorem iterate_skipped (hdatagram : input.datagram = none)
    (hskipped : isLoopback m.ssCliaddr = true) : m.iterate id input 0 = (m, []) := by
  rw [iterate_act, receive_none hdatagram, if_pos hskipped]

/-- A time-out that is not. -/
theorem iterate_timeout (hdatagram : input.datagram = none)
    (houtside : isLoopback m.ssCliaddr = false) :
    m.iterate id input 0 = m.act id .timeout input.elapsed m.state := by
  have hreading : input.reading id = .timeout := Input.reading_eq_timeout.mpr hdatagram
  rw [iterate_outside (by rw [receive_none hdatagram, houtside]), receive_none hdatagram, hreading]

/-- What is seen of two results that are alike and send the same is the same. -/
theorem Alike.showing_eq {result result' : Machine × List Output} (h : result.1.Alike result'.1)
    (hsent : result.2 = result'.2) : showing result = showing result' := by
  rw [showing, showing, h.state, h.isCoordinator, hsent]

/-- Likeness is transitive. -/
theorem Alike.trans {m'' : Machine} (h : m.Alike m') (h' : m'.Alike m'') : m.Alike m'' :=
  ⟨h.state.trans h'.state, h.isCoordinator.trans h'.isCoordinator,
    h.coordinatorIp.trans h'.coordinatorIp, h.lastReceivedId.trans h'.lastReceivedId⟩

/-- The second run has not had this outcome. -/
theorem Shadowed.fromLoopback (h : m.Shadowed m') (hloopback : input.fromLoopback = true) :
    (m.iterate id input 0).1.Shadowed m' := by
  obtain ⟨source, hsource, heq⟩ := iterate_fromLoopback id m hloopback
  rw [heq]
  exact ⟨⟨h.alike.state, h.alike.isCoordinator, h.alike.coordinatorIp, h.alike.lastReceivedId⟩,
    h.outside, Or.inl hsource⟩

/-- Two machines with the same source outside the loopback network. -/
theorem Alike.iterate (h : m.Alike m')
    (hsource : (m.receive input).ssCliaddr = (m'.receive input).ssCliaddr)
    (hreceive : (m.receive input).Alike (m'.receive input))
    (houtside : isLoopback (m'.receive input).ssCliaddr = false) :
    (m.iterate id input 0).1.Shadowed (m'.iterate id input 0).1 ∧
      showing (m.iterate id input 0) = showing (m'.iterate id input 0) := by
  rw [iterate_outside (hsource ▸ houtside), iterate_outside houtside, h.state]
  obtain ⟨hsent, halike⟩ := hreceive.act hsource id (input.reading id) input.elapsed m'.state
  refine ⟨⟨halike, ?_, Or.inr ?_⟩, halike.showing_eq hsent⟩
  · rw [act_ssCliaddr, houtside]
  · rw [act_ssCliaddr, act_ssCliaddr, hsource]

/-- Any other outcome that is not missed shows the same in both runs. -/
theorem Shadowed.step (id : UInt32) (h : m.Shadowed m') (houtside : input.fromLoopback = false)
    (hseen : ¬ m.Misses input) :
    (m.iterate id input 0).1.Shadowed (m'.iterate id input 0).1 ∧
      showing (m.iterate id input 0) = showing (m'.iterate id input 0) := by
  cases hdatagram : input.datagram with
  | some datagram =>
      obtain ⟨source, text⟩ := datagram
      rw [fromLoopback_some hdatagram] at houtside
      refine h.alike.iterate ?_ ?_ ?_
      · rw [receive_some hdatagram, receive_some hdatagram]
      · rw [receive_some hdatagram, receive_some hdatagram]
        exact ⟨h.alike.state, h.alike.isCoordinator, h.alike.coordinatorIp, h.alike.lastReceivedId⟩
      · rw [receive_some hdatagram]
        exact houtside
  | none =>
      rcases h.source with hskipped | hsame
      · -- the first run skips the time-out, at which nothing is due in the second
        have hinit : m'.state ≠ .init := fun hinit =>
          hseen ⟨hdatagram, hskipped, Or.inl (h.alike.state.trans hinit)⟩
        have hlong : m'.state = .inProgress → ¬ ANSWER_MAX_WAIT_TIME ≤ input.elapsed :=
          fun hprogress hlong => hseen
            ⟨hdatagram, hskipped, Or.inr ⟨h.alike.state.trans hprogress, hlong⟩⟩
        obtain ⟨hsent, halike⟩ := act_timeout id hinit hlong
        rw [iterate_skipped hdatagram hskipped, iterate_timeout hdatagram h.outside]
        have hboth : m.Alike (m'.act id .timeout input.elapsed m'.state).1 := h.alike.trans halike
        refine ⟨⟨hboth, ?_, Or.inl hskipped⟩, hboth.showing_eq hsent.symm⟩
        rw [act_ssCliaddr, h.outside]
      · refine h.alike.iterate ?_ ?_ ?_
        · rw [receive_none hdatagram, receive_none hdatagram, hsame]
        · rw [receive_none hdatagram, receive_none hdatagram]
          exact h.alike
        · rw [receive_none hdatagram, h.outside]

/-- An outcome that is missed shows in the second run only. -/
theorem Shadowed.misses (h : m.Shadowed m') (hmissed : m.Misses input) :
    showing (m.iterate id input 0) ≠ showing (m'.iterate id input 0) := by
  obtain ⟨hdatagram, hskipped, hdue⟩ := hmissed
  rw [h.alike.state] at hdue
  rw [iterate_skipped hdatagram hskipped, iterate_timeout hdatagram h.outside]
  intro hsame
  exact act_timeout_due hdue (congrArg Showing.sent hsame).symm

/-- The two runs, compared outcome by outcome.

The induction is on the outcomes of the first run; a loopback datagram advances it alone. -/
theorem Shadowed.traces_agree (h : m.Shadowed m') (inputs : List Input) :
    trace id m inputs = trace id m' (inputs.filter fun input => !input.fromLoopback) ↔
      MissesNone id m inputs := by
  induction inputs generalizing m m' with
  | nil => exact iff_of_true rfl trivial
  | cons input rest ih =>
      rw [trace, MissesNone]
      cases hloopback : input.fromLoopback with
      | true =>
          have hseen : ¬ m.Misses input := fun hmissed =>
            absurd ((fromLoopback_none hmissed.1).symm.trans hloopback) nofun
          rw [if_pos rfl, List.filter_cons_of_neg (by simp [hloopback]), and_iff_right hseen]
          exact ih (h.fromLoopback hloopback)
      | false =>
          rw [if_neg nofun, List.filter_cons_of_pos (by simp [hloopback]), trace, hloopback,
            if_neg nofun, List.cons.injEq]
          by_cases hmissed : m.Misses input
          · exact iff_of_false (fun hsame => h.misses hmissed hsame.1) fun hnone =>
              hnone.1 hmissed
          · obtain ⟨hnext, hshows⟩ := h.step id hloopback hmissed
            rw [and_iff_right hshows, and_iff_right hmissed]
            exact ih hnext

/-- `ss_cliaddr` is zero to begin with, and zero is not in the loopback network. -/
theorem isLoopback_zero : isLoopback 0 = false := by decide

/-- Both runs begin alike. -/
theorem shadowed_start (coordinatorIp : InAddr) (lastReceivedId : UInt32) :
    (start coordinatorIp lastReceivedId).Shadowed (start coordinatorIp lastReceivedId) where
  alike := ⟨rfl, rfl, rfl, rfl⟩
  outside := isLoopback_zero
  source := Or.inr rfl

/-- **When loopback traffic has no influence.**  The loop shows the same with and without
its loopback datagrams exactly if no time-out is missed: none that comes after one of
them, before any other datagram, in `INIT` or at the end of an election.

The two runs are compared datagram by datagram.  `Shadowed` says that they agree in everything but
the address that was received last, and a time-out is the only event that looks at it. -/
theorem trace_eq_iff {coordinatorIp : InAddr} {lastReceivedId : UInt32} (inputs : List Input) :
    trace id (start coordinatorIp lastReceivedId) inputs
        = trace id (start coordinatorIp lastReceivedId)
            (inputs.filter fun input => !input.fromLoopback) ↔
      MissesNone id (start coordinatorIp lastReceivedId) inputs :=
  (shadowed_start coordinatorIp lastReceivedId).traces_agree inputs

/-! ## An election that does not end -/

/-- An election begins, a datagram comes from `127.0.0.1`, and the time-out after it is
the one at which the election is over. -/
def loopbackLast : List Input :=
  [⟨none, 10⟩, ⟨some (0x0100007f, electionMessage 7), 150⟩, ⟨none, 200⟩]

/-- **One ignored datagram keeps the election from ending.** -/
theorem loopback_influences :
    trace (ntohl 0x0100000a) (start 0 0) loopbackLast
      ≠ trace (ntohl 0x0100000a) (start 0 0)
          (loopbackLast.filter fun input => !input.fromLoopback) := by
  decide

end Machine

end Election

end Brix
