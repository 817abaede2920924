import Mathlib.Data.List.Basic

/-!
# Runs of a partial step function

A system is a step function `step : State → Action → Option State`; `none` says
that the action is not enabled.  `Runs step ok start actions state` is a run from
`start` that performs `actions`, each of them admitted by `ok` in the state it is
performed in.  The full set of runs is the instance `ok := Always`.

Every safety result is an instance of one of the two rules here:
`Runs.invariant` for a property of the state, `Runs.history` for a property of
the state together with what has been done.

### The design

The step is a function and not a relation.  Whatever is nondeterministic about a system, what
arrives and when, who moves, what a variable happens to contain, is in the action; so a run is
determined by where it begins and what is done, it can be computed (`perform`), and a
counterexample is a list of actions that the kernel runs.

The predicate `ok` stands where a hypothesis about a run would.  It is evaluated in the state
before the step, with the action in hand, and never sees what becomes of it.  A result about all
runs has `Always`; a result about the runs in which nothing goes wrong has the condition there,
and a result that says what a condition is equivalent to compares two sets of runs with the same
actions.
-/

namespace Execution

variable {State Action : Type*}

/-- The guard that admits every action. -/
def Always : State → Action → Prop := fun _ _ => True

/-- Runs whose every step is admitted by `ok` in the state before it. -/
inductive Runs (step : State → Action → Option State)
    (ok : State → Action → Prop) (start : State) : List Action → State → Prop
  | nil : Runs step ok start [] start
  | snoc {actions : List Action} {state state' : State} {action : Action}
      (run : Runs step ok start actions state) (admitted : ok state action)
      (taken : step state action = some state') :
      Runs step ok start (actions ++ [action]) state'

/-- Perform a list of actions, stopping at the first one that is not enabled. -/
def perform (step : State → Action → Option State) :
    State → List Action → Option State
  | state, [] => some state
  | state, action :: rest => (step state action).bind fun next => perform step next rest

variable {step : State → Action → Option State}
  {ok ok' : State → Action → Prop} {start state : State} {actions : List Action}

namespace Runs

/-- What one admitted step preserves, a whole run preserves. -/
theorem invariant (I : State → Prop) (init : I start)
    (preserved : ∀ s a s', I s → ok s a → step s a = some s' → I s')
    (run : Runs step ok start actions state) : I state := by
  induction run with
  | nil => exact init
  | snoc _ admitted taken ih => exact preserved _ _ _ ih admitted taken

/-- The same rule for a property of the state and the actions that led to it. -/
theorem history (I : List Action → State → Prop) (init : I [] start)
    (preserved : ∀ as s a s', I as s → ok s a → step s a = some s' →
      I (as ++ [a]) s')
    (run : Runs step ok start actions state) : I actions state := by
  induction run with
  | nil => exact init
  | snoc _ admitted taken ih => exact preserved _ _ _ _ ih admitted taken

/-- A weaker guard admits the same run. -/
theorem mono (weaker : ∀ s a, ok s a → ok' s a)
    (run : Runs step ok start actions state) : Runs step ok' start actions state := by
  induction run with
  | nil => exact .nil
  | snoc _ admitted taken ih => exact .snoc ih (weaker _ _ admitted) taken

/-- Any run is one without a guard. -/
theorem toAlways (run : Runs step ok start actions state) :
    Runs step Always start actions state :=
  run.mono fun _ _ _ => trivial

/-- Two guards that admit the same steps admit the same runs. -/
theorem congr (same : ∀ s a, ok s a ↔ ok' s a) :
    Runs step ok start actions state ↔ Runs step ok' start actions state :=
  ⟨mono fun s a => (same s a).mp, mono fun s a => (same s a).mpr⟩

/-- Two guards that an invariant of the system makes equivalent admit the same runs. -/
theorem congr_of_invariant (I : State → Prop) (init : I start)
    (preserved : ∀ s a s', I s → step s a = some s' → I s')
    (same : ∀ s a, I s → (ok s a ↔ ok' s a)) :
    Runs step ok start actions state ↔ Runs step ok' start actions state := by
  have hinvariant : ∀ {ok} {actions} {state}, Runs step ok start actions state → I state :=
    fun run => run.invariant I init fun s a s' h _ taken => preserved s a s' h taken
  constructor
  · intro run
    induction run with
    | nil => exact .nil
    | snoc run admitted taken ih =>
        exact .snoc ih ((same _ _ (hinvariant run)).mp admitted) taken
  · intro run
    induction run with
    | nil => exact .nil
    | snoc run admitted taken ih =>
        exact .snoc ih ((same _ _ (hinvariant run)).mpr admitted) taken

/-- If a property survives exactly the admitted steps, the runs of admitted steps are those that
end with it. -/
theorem iff_and_end (I : State → Prop) (init : I start)
    (same : ∀ s a s', step s a = some s' → (I s' ↔ I s ∧ ok s a)) :
    Runs step ok start actions state ↔ Runs step Always start actions state ∧ I state := by
  constructor
  · intro run
    refine ⟨run.toAlways, run.invariant I init ?_⟩
    exact fun s a s' hs admitted taken => (same s a s' taken).mpr ⟨hs, admitted⟩
  · rintro ⟨run, hstate⟩
    induction run with
    | nil => exact .nil
    | snoc run _ taken ih =>
        obtain ⟨hbefore, admitted⟩ := (same _ _ _ taken).mp hstate
        exact .snoc (ih hbefore) admitted taken

/-- If a property survives exactly the admitted steps as long as it holds, the runs of admitted
steps are those that have it in each of their states. -/
theorem iff_throughout (I : State → Prop) (init : I start)
    (same : ∀ s a s', I s → step s a = some s' → (I s' ↔ ok s a)) :
    Runs step ok start actions state ↔
      Runs step (fun s _ => I s) start actions state ∧ I state := by
  constructor
  · intro run
    induction run with
    | nil => exact ⟨.nil, init⟩
    | snoc _ admitted taken ih =>
        obtain ⟨run, hstate⟩ := ih
        exact ⟨.snoc run hstate taken, (same _ _ _ hstate taken).mpr admitted⟩
  · rintro ⟨run, hend⟩
    induction run with
    | nil => exact .nil
    | snoc _ hstate taken ih => exact .snoc (ih hstate) ((same _ _ _ hstate taken).mp hend) taken

/-- If every step brings a measure down, a run takes no more steps than its start measures. -/
theorem length_add_le (I : State → Prop) (measure : State → ℕ) (init : I start)
    (decreases : ∀ s a s', I s → step s a = some s' → I s' ∧ measure s' < measure s)
    (run : Runs step ok start actions state) :
    I state ∧ actions.length + measure state ≤ measure start := by
  induction run with
  | nil => exact ⟨init, by simp⟩
  | snoc _ _ taken ih =>
      obtain ⟨hstate, hlength⟩ := ih
      obtain ⟨hnext, hless⟩ := decreases _ _ _ hstate taken
      refine ⟨hnext, ?_⟩
      rw [List.length_append, List.length_singleton]
      omega

/-- Two runs, end to end. -/
theorem append {middle : State} {more : List Action}
    (run : Runs step ok start actions middle)
    (run' : Runs step ok middle more state) :
    Runs step ok start (actions ++ more) state := by
  induction run' with
  | nil => simpa using run
  | snoc _ admitted taken ih =>
      rw [← List.append_assoc]
      exact .snoc ih admitted taken

/-- One step is a run. -/
theorem single {next : State} {action : Action} (admitted : ok start action)
    (taken : step start action = some next) : Runs step ok start [action] next :=
  show Runs step ok start ([] ++ [action]) next from .snoc .nil admitted taken

/-- A run that goes on from a first step. -/
theorem cons {next : State} {action : Action} (admitted : ok start action)
    (taken : step start action = some next) (run : Runs step ok next actions state) :
    Runs step ok start (action :: actions) state :=
  (single admitted taken).append run

end Runs

/-- Two lists of actions, one after the other. -/
theorem perform_append (start : State) (actions more : List Action) :
    perform step start (actions ++ more)
      = (perform step start actions).bind fun middle => perform step middle more := by
  induction actions generalizing start with
  | nil => rfl
  | cons action rest ih =>
      rw [List.cons_append, perform, perform, Option.bind_assoc]
      exact congrArg _ (funext ih)

/-- Performing a list of actions is a run. -/
theorem runs_of_perform (h : perform step start actions = some state) :
    Runs step Always start actions state := by
  induction actions generalizing start with
  | nil =>
      cases h
      exact .nil
  | cons action rest ih =>
      rw [perform, Option.bind_eq_some_iff] at h
      obtain ⟨next, taken, h⟩ := h
      exact .cons trivial taken (ih h)

/-- A run, with something that can be computed of the state it ends in. -/
theorem exists_runs_of_any {found : State → Bool}
    (h : (perform step start actions).any found = true) :
    ∃ state, Runs step Always start actions state ∧ found state = true := by
  obtain ⟨state, hperform, hfound⟩ := (Option.any_eq_true ..).mp h
  exact ⟨state, runs_of_perform hperform, hfound⟩

/-- The step function that refuses what `ok` does not admit. -/
def guarded (step : State → Action → Option State) (ok : State → Action → Prop)
    [∀ state action, Decidable (ok state action)] : State → Action → Option State :=
  fun state action => if ok state action then step state action else none

/-- Performing a list of actions under the guard is an admitted run. -/
theorem runs_of_perform_guarded [∀ state action, Decidable (ok state action)]
    (h : perform (guarded step ok) start actions = some state) :
    Runs step ok start actions state := by
  induction actions generalizing start with
  | nil =>
      cases h
      exact .nil
  | cons action rest ih =>
      rw [perform, Option.bind_eq_some_iff] at h
      obtain ⟨next, taken, h⟩ := h
      unfold guarded at taken
      split at taken
      · rename_i admitted
        exact .cons admitted taken (ih h)
      · cases taken

/-- The same under the guard. -/
theorem exists_runs_of_any_guarded [∀ state action, Decidable (ok state action)]
    {found : State → Bool} (h : (perform (guarded step ok) start actions).any found = true) :
    ∃ state, Runs step ok start actions state ∧ found state = true := by
  obtain ⟨state, hperform, hfound⟩ := (Option.any_eq_true ..).mp h
  exact ⟨state, runs_of_perform_guarded hperform, hfound⟩

/-- How often something happens while a list of actions is performed. -/
def tally (step : State → Action → Option State) (count : State → Action → ℕ) :
    State → List Action → ℕ
  | _, [] => 0
  | state, action :: rest => count state action +
      match step state action with
      | some next => tally step count next rest
      | none => 0

/-- What is counted over a run adds up. -/
theorem Runs.tally_append {count : State → Action → ℕ}
    (run : Runs step ok start actions state) (more : List Action) :
    tally step count start (actions ++ more)
      = tally step count start actions + tally step count state more := by
  induction run generalizing more with
  | nil => exact (Nat.zero_add _).symm
  | snoc _ _ taken ih =>
      rw [List.append_assoc, ih, ih, Nat.add_assoc]
      simp only [List.singleton_append, tally, taken, Nat.add_zero]

/-- A run, one step longer. -/
theorem Runs.tally_snoc {count : State → Action → ℕ} {next : State} {action : Action}
    (run : Runs step ok start actions state) (taken : step state action = some next) :
    tally step count start (actions ++ [action])
      = tally step count start actions + count state action := by
  rw [run.tally_append]
  simp only [tally, taken, Nat.add_zero]

end Execution
