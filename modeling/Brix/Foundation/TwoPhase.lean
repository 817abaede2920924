import Brix.Foundation.LockProgram
import Mathlib.Data.List.Nodup

/-!
# Two-phase locking

Calls that pass a gate.  A call takes the gate mutex first, takes the mutexes of
whatever it is going to touch while it holds the gate, and takes no more of them after
it has given the gate back.  The gate is free again long before the call is done, so
many calls are under way at any time.

* `Protection` — which mutexes protect the memory, and what may be touched under them
* `TwoPhase` — a call's code keeps to this, and what it reads decides nothing that
  somebody else can change
* `finishAll` — what is left of some calls, run to the end one after the other
* `serialisable` — every interleaving does what the calls do in the order in which they
  have passed the gate

A call is judged by its verdict and not by its whole result: a result may contain what
was read after the last mutex had been given back.

The proof runs the calls that have passed the gate to their ends, in order, at any point
of a run.  That gives the same verdicts and the same memory at every point
(`finishAll_access`), at the first one because nothing has happened and at the last one
because nothing is left to do.

### The design

The usual argument orders calls by their conflicts.  Here the gate is an order already, and it is
the order in which calls take it; what has to be shown is that it does not matter how far each of
them has got.  `finish` runs code to its end by itself and ignores its mutexes, and `finishAll`
does so for a list of codes, one after the other.  Both are total functions, so the statement that
nothing has changed is an equation.

### What is load-bearing

`finishAll_access` is the one step of the argument.  A call in the middle of the list takes an
access now instead of in its turn.  It may be moved past the calls before it, because they have
passed the gate and so hold the mutexes of all that they are going to touch, and those are not the
mutexes that this call holds (`Past`, `Protection.Apart`).  That a call never takes another mutex
after it has given the gate back is used exactly here: what it is going to touch it must be
holding now.
-/

namespace LockProgram

universe u v

variable {Mem Mutex Result Call Tid : Type u} {Verdict : Type v}

/-! ## To the end -/

/-- Run code to its end, whoever holds the mutexes. -/
def Prog.finish : Prog Mem Mutex Result → Mem → Result × Mem
  | .ret result, mem => (result, mem)
  | .lock _ next, mem => next.finish mem
  | .unlock _ next, mem => next.finish mem
  | .access update next, mem => (next mem).finish (update mem)

/-- A call that runs by itself runs to its end. -/
theorem Prog.finish_of_solo [DecidableEq Mutex] {prog : Prog Mem Mutex Result} {mem mem' : Mem}
    {held held' : Finset Mutex} {result : Result}
    (h : prog.solo mem held = some (result, mem', held')) : prog.finish mem = (result, mem') := by
  induction prog generalizing mem held with
  | ret result =>
      cases h
      rfl
  | lock mutex next ih =>
      rw [Prog.solo] at h
      split at h
      · cases h
      · exact ih h
  | unlock mutex next ih => exact ih h
  | access update next ih => exact ih mem h

variable (verdict : Result → Verdict)

/-- The verdict of a call, and the memory it leaves. -/
def Prog.outcome (prog : Prog Mem Mutex Result) (mem : Mem) : Verdict × Mem :=
  (verdict (prog.finish mem).1, (prog.finish mem).2)

/-- Run some calls to their ends, one after the other. -/
def finishAll : List (Prog Mem Mutex Result) → Mem → List Verdict × Mem
  | [], mem => ([], mem)
  | prog :: rest, mem =>
      ((prog.outcome verdict mem).1 :: (finishAll rest (prog.outcome verdict mem).2).1,
        (finishAll rest (prog.outcome verdict mem).2).2)

variable {verdict}

/-- A list is finished in two parts. -/
theorem finishAll_append (progs progs' : List (Prog Mem Mutex Result)) (mem : Mem) :
    finishAll verdict (progs ++ progs') mem
      = ((finishAll verdict progs mem).1
          ++ (finishAll verdict progs' (finishAll verdict progs mem).2).1,
        (finishAll verdict progs' (finishAll verdict progs mem).2).2) := by
  induction progs generalizing mem with
  | nil => rfl
  | cons prog rest ih =>
      rw [List.cons_append, finishAll, ih]
      rfl

/-- Code may be replaced by code with the same outcomes. -/
theorem finishAll_congr {order : List Tid} {progs progs' : Tid → Prog Mem Mutex Result}
    (h : ∀ t ∈ order, (progs t).outcome verdict = (progs' t).outcome verdict) :
    finishAll verdict (order.map progs) = finishAll verdict (order.map progs') := by
  funext mem
  induction order generalizing mem with
  | nil => rfl
  | cons t rest ih =>
      rw [List.forall_mem_cons] at h
      rw [List.map_cons, List.map_cons, finishAll, finishAll, h.1, ih h.2]

/-- Calls that have returned. -/
theorem finishAll_ret (results : List Result) (mem : Mem) :
    finishAll verdict (results.map (Prog.ret : Result → Prog Mem Mutex Result)) mem
      = (results.map verdict, mem) := by
  induction results with
  | nil => rfl
  | cons result rest ih =>
      rw [List.map_cons, finishAll]
      show (verdict result :: (finishAll verdict (rest.map Prog.ret) mem).1,
        (finishAll verdict (rest.map Prog.ret) mem).2) = _
      rw [ih]
      rfl

/-! ## Protection -/

/-- What protects a memory: the gate, the mutexes that a call takes in its first phase,
and the updates that may be made under some mutexes.  Updates that are made under
different ones do not get in each other's way, as long as the memory is valid. -/
structure Protection (Mem Mutex : Type u) where
  gate : Mutex
  guarded : Mutex → Prop
  valid : Mem → Prop
  touches : Set Mutex → (Mem → Mem) → Prop
  valid_update : ∀ {held update mem}, touches held update → valid mem → valid (update mem)
  commute : ∀ {held held' update update' mem},
    (∀ mutex, guarded mutex → mutex ∈ held → mutex ∉ held') → touches held update →
      touches held' update' → valid mem → update (update' mem) = update' (update mem)

variable {P : Protection Mem Mutex}

/-- No guarded mutex is on both sides. -/
def Protection.Apart (P : Protection Mem Mutex) (held held' : Set Mutex) : Prop :=
  ∀ mutex, P.guarded mutex → mutex ∈ held → mutex ∉ held'

/-- To have nothing in common is symmetric. -/
theorem Protection.Apart.symm {held held' : Set Mutex} (h : P.Apart held held') :
    P.Apart held' held :=
  fun mutex hguarded hmem hmem' => h mutex hguarded hmem' hmem

/-- Fewer mutexes have less in common. -/
theorem Protection.Apart.mono {held held' held'' : Set Mutex} (h : P.Apart held held')
    (hsub : held'' ⊆ held) : P.Apart held'' held' :=
  fun mutex hguarded hmem => h mutex hguarded (hsub hmem)

/-- A mutex that is not guarded makes no difference. -/
theorem Protection.Apart.insert {held held' : Set Mutex} (h : P.Apart held held') {mutex : Mutex}
    (hfree : ¬ P.guarded mutex) : P.Apart (insert mutex held) held' := by
  intro mutex' hguarded hmem
  rcases hmem with rfl | hmem
  · exact absurd hguarded hfree
  · exact h mutex' hguarded hmem

variable (P verdict)

/-- What follows does not depend on what others may do to the memory before it is read. -/
def Steady (held : Set Mutex) (next : Mem → Prog Mem Mutex Result) : Prop :=
  ∀ held' update, P.Apart held held' → P.touches held' update → ∀ mem, P.valid mem →
    ∀ mem', P.valid mem' →
      (next (update mem)).outcome verdict mem' = (next mem).outcome verdict mem'

/-- Code that takes guarded mutexes only while it holds the gate, never takes the gate,
and touches what the mutexes it holds protect. -/
def TwoPhase : Prog Mem Mutex Result → Set Mutex → Prop
  | .ret _, _ => True
  | .lock mutex next, held =>
      mutex ≠ P.gate ∧ (P.guarded mutex → P.gate ∈ held) ∧ TwoPhase next (insert mutex held)
  | .unlock mutex next, held => mutex ∈ held ∧ TwoPhase next (held \ {mutex})
  | .access update next, held =>
      P.touches held update ∧ Steady verdict P held next ∧
        ∀ mem, P.valid mem → TwoPhase (next mem) held

variable {P verdict} {held held' : Set Mutex} {prog : Prog Mem Mutex Result} {mem : Mem}

/-- Code that is finished leaves the memory valid, -/
theorem TwoPhase.valid (h : TwoPhase verdict P prog held) (hvalid : P.valid mem) :
    P.valid (prog.finish mem).2 := by
  induction prog generalizing held mem with
  | ret result => exact hvalid
  | lock mutex next ih => exact ih h.2.2 hvalid
  | unlock mutex next ih => exact ih h.2 hvalid
  | access update next ih => exact ih mem (h.2.2 mem hvalid) (P.valid_update h.1 hvalid)

/-- An update made before a call past the gate might as well be made after it. -/
theorem TwoPhase.outcome_update (h : TwoPhase verdict P prog held) (hgate : P.gate ∉ held)
    {update : Mem → Mem} (hapart : P.Apart held held') (htouches : P.touches held' update)
    (hvalid : P.valid mem) :
    prog.outcome verdict (update mem)
      = ((prog.outcome verdict mem).1, update (prog.outcome verdict mem).2) := by
  induction prog generalizing held mem with
  | ret result => rfl
  | lock mutex next ih =>
      obtain ⟨hne, hguarded, hnext⟩ := h
      refine ih hnext ?_ (hapart.insert fun hmutex => hgate (hguarded hmutex)) hvalid
      rintro (heq | hmem)
      · exact hne heq.symm
      · exact hgate hmem
  | unlock mutex next ih =>
      exact ih h.2 (fun hmem => hgate hmem.1) (hapart.mono Set.sdiff_subset) hvalid
  | access update' next ih =>
      obtain ⟨htouches', hsteady, hnext⟩ := h
      show (next (update mem)).outcome verdict (update' (update mem)) = _
      rw [P.commute hapart htouches' htouches hvalid,
        hsteady held' update hapart htouches mem hvalid _
          (P.valid_update htouches (P.valid_update htouches' hvalid))]
      exact ih mem (hnext mem hvalid) hgate hapart (P.valid_update htouches' hvalid)

/-- What a call past the gate does makes no difference to others. -/
theorem TwoPhase.steady_finish (h : TwoPhase verdict P prog held) (hgate : P.gate ∉ held)
    {next : Mem → Prog Mem Mutex Result} (hsteady : Steady verdict P held' next)
    (hapart : P.Apart held' held) (hvalid : P.valid mem) {mem' : Mem} (hvalid' : P.valid mem') :
    (next (prog.finish mem).2).outcome verdict mem' = (next mem).outcome verdict mem' := by
  induction prog generalizing held mem with
  | ret result => rfl
  | lock mutex rest ih =>
      obtain ⟨hne, hguarded, hrest⟩ := h
      refine ih hrest ?_ (hapart.symm.insert fun hmutex => hgate (hguarded hmutex)).symm hvalid
      rintro (heq | hmem)
      · exact hne heq.symm
      · exact hgate hmem
  | unlock mutex rest ih =>
      exact ih h.2 (fun hmem => hgate hmem.1) (hapart.symm.mono Set.sdiff_subset).symm hvalid
  | access update rest ih =>
      obtain ⟨htouches, -, hrest⟩ := h
      exact (ih mem (hrest mem hvalid) hgate hapart (P.valid_update htouches hvalid)).trans
        (hsteady held update hapart htouches mem hvalid mem' hvalid')

/-! ## The calls that have passed the gate -/

/-- The code is past the gate and holds none of some mutexes. -/
def Past (verdict : Result → Verdict) (P : Protection Mem Mutex) (held' : Set Mutex)
    (prog : Prog Mem Mutex Result) : Prop :=
  ∃ held, TwoPhase verdict P prog held ∧ P.gate ∉ held ∧ P.Apart held held'

/-- and so does a list of codes. -/
theorem finishAll_valid {progs : List (Prog Mem Mutex Result)}
    (h : ∀ prog ∈ progs, Past verdict P held' prog) (hvalid : P.valid mem) :
    P.valid (finishAll verdict progs mem).2 := by
  induction progs generalizing mem with
  | nil => exact hvalid
  | cons prog rest ih =>
      rw [List.forall_mem_cons] at h
      obtain ⟨⟨held, hphase, -, -⟩, hrest⟩ := h
      exact ih hrest (hphase.valid hvalid)

/-- A change under other mutexes may be made before or after all of them. -/
theorem finishAll_update {progs : List (Prog Mem Mutex Result)} {update : Mem → Mem}
    (h : ∀ prog ∈ progs, Past verdict P held' prog) (htouches : P.touches held' update)
    (hvalid : P.valid mem) :
    finishAll verdict progs (update mem)
      = ((finishAll verdict progs mem).1, update (finishAll verdict progs mem).2) := by
  induction progs generalizing mem with
  | nil => rfl
  | cons prog rest ih =>
      rw [List.forall_mem_cons] at h
      obtain ⟨⟨held, hphase, hgate, hapart⟩, hrest⟩ := h
      have hlater := ih hrest (hphase.valid hvalid)
      rw [finishAll, hphase.outcome_update hgate hapart htouches hvalid]
      show (_ :: (finishAll verdict rest (update (prog.finish mem).2)).1,
        (finishAll verdict rest (update (prog.finish mem).2)).2) = _
      rw [hlater]
      rfl

/-- What code under other mutexes goes on with is not changed by them. -/
theorem finishAll_steady {progs : List (Prog Mem Mutex Result)}
    {next : Mem → Prog Mem Mutex Result} (h : ∀ prog ∈ progs, Past verdict P held' prog)
    (hsteady : Steady verdict P held' next) (hvalid : P.valid mem) {mem' : Mem}
    (hvalid' : P.valid mem') :
    (next (finishAll verdict progs mem).2).outcome verdict mem'
      = (next mem).outcome verdict mem' := by
  induction progs generalizing mem with
  | nil => rfl
  | cons prog rest ih =>
      rw [List.forall_mem_cons] at h
      obtain ⟨⟨held, hphase, hgate, hapart⟩, hrest⟩ := h
      exact (ih hrest (hphase.valid hvalid)).trans
        (hphase.steady_finish hgate hsteady hapart.symm hvalid hvalid')

/-- An access that a call makes now is one that it makes in its turn. -/
theorem finishAll_access {before after : List (Prog Mem Mutex Result)} {update : Mem → Mem}
    {next : Mem → Prog Mem Mutex Result} (h : ∀ prog ∈ before, Past verdict P held' prog)
    (hphase : TwoPhase verdict P (.access update next) held') (hvalid : P.valid mem) :
    finishAll verdict (before ++ next mem :: after) (update mem)
      = finishAll verdict (before ++ .access update next :: after) mem := by
  obtain ⟨htouches, hsteady, -⟩ := hphase
  have hvalid' := finishAll_valid h hvalid
  have hsame : (next mem).outcome verdict (update (finishAll verdict before mem).2)
      = (Prog.access update next).outcome verdict (finishAll verdict before mem).2 :=
    (finishAll_steady h hsteady hvalid (P.valid_update htouches hvalid')).symm
  rw [finishAll_append, finishAll_append, finishAll_update h htouches hvalid, finishAll,
    finishAll, hsame]

/-! ## Runs -/

/-- A thread that has not passed the gate: it is about to make its call, or to run the
call's code. -/
def Thread.Waiting (body : Call → Prog Mem Mutex Result) (call : Call)
    (th : Thread Mem Mutex Result Call) : Prop :=
  th = ⟨none, [call], []⟩ ∨ th = ⟨some (call, body call), [], []⟩

/-- A thread that has, with what is left of its call. -/
def Thread.Under (call : Call) (prog : Prog Mem Mutex Result)
    (th : Thread Mem Mutex Result Call) : Prop :=
  th = ⟨some (call, prog), [], []⟩ ∨
    ∃ result, prog = .ret result ∧ th = ⟨none, [], [(call, result)]⟩

/-- A thread that has not begun is at the beginning of its call. -/
theorem Thread.Waiting.of_active {body : Call → Prog Mem Mutex Result} {call call' : Call}
    {th : Thread Mem Mutex Result Call} (h : th.Waiting body call)
    (hactive : th.active = some (call', prog)) :
    th = ⟨some (call, prog), [], []⟩ ∧ call' = call ∧ prog = body call := by
  rcases h with rfl | rfl
  · cases hactive
  · cases hactive
    exact ⟨rfl, rfl, rfl⟩

/-- A thread that is under way is in its call. -/
theorem Thread.Under.of_active {call call' : Call} {prog' : Prog Mem Mutex Result}
    {th : Thread Mem Mutex Result Call} (h : th.Under call prog)
    (hactive : th.active = some (call', prog')) :
    th = ⟨some (call, prog'), [], []⟩ ∧ call' = call ∧ prog' = prog := by
  rcases h with rfl | ⟨result, -, rfl⟩
  · cases hactive
    exact ⟨rfl, rfl, rfl⟩
  · cases hactive

variable [DecidableEq Mutex] [DecidableEq Tid]

/-- The thread, if its next step takes the gate. -/
def passes (gate : Mutex) (c : Config Mem Mutex Result Call Tid) (t : Tid) : List Tid :=
  match (c.thread t).active with
  | some (_, .lock mutex _) => if mutex = gate then [t] else []
  | _ => []

/-- The threads in the order in which they take the gate. -/
def gateOrder (body : Call → Prog Mem Mutex Result) (gate : Mutex) :
    Config Mem Mutex Result Call Tid → List Tid → List Tid
  | _, [] => []
  | c, t :: rest => passes gate c t ++
      match step body c t with
      | some c' => gateOrder body gate c' rest
      | none => []

variable {body : Call → Prog Mem Mutex Result} {c c' : Config Mem Mutex Result Call Tid} {t : Tid}

/-- Later calls come later in the order. -/
theorem gateOrder_append {gate : Mutex} {ok : Config Mem Mutex Result Call Tid → Tid → Prop}
    {first : Config Mem Mutex Result Call Tid} {schedule : List Tid}
    (run : Execution.Runs (step body) ok first schedule c) (more : List Tid) :
    gateOrder body gate first (schedule ++ more)
      = gateOrder body gate first schedule ++ gateOrder body gate c more := by
  induction run generalizing more with
  | nil => rfl
  | snoc _ _ taken ih =>
      rw [List.append_assoc, ih, ih, List.append_assoc]
      simp only [List.singleton_append, gateOrder, taken, List.append_nil]

/-- A run, one step longer. -/
theorem gateOrder_snoc {gate : Mutex} {ok : Config Mem Mutex Result Call Tid → Tid → Prop}
    {first : Config Mem Mutex Result Call Tid} {schedule : List Tid}
    (run : Execution.Runs (step body) ok first schedule c) (taken : step body c t = some c') :
    gateOrder body gate first (schedule ++ [t])
      = gateOrder body gate first schedule ++ passes gate c t := by
  rw [gateOrder_append run]
  simp only [gateOrder, taken, List.append_nil]

/-- Where a run has got to: the threads that have passed the gate, in order, and what is
left of every call.  Running the rest of their calls to the end gives what running all of
these calls gives, whatever has happened already. -/
structure Serialised (verdict : Result → Verdict) (P : Protection Mem Mutex)
    (body : Call → Prog Mem Mutex Result) (calls : Tid → Call) (first : Mem)
    (c : Config Mem Mutex Result Call Tid) (order : List Tid)
    (progs : Tid → Prog Mem Mutex Result) : Prop where
  nodup : order.Nodup
  waiting : ∀ t, t ∉ order → (c.thread t).Waiting body (calls t) ∧ progs t = body (calls t) ∧
    c.holds t = ∅
  under : ∀ t ∈ order, (c.thread t).Under (calls t) (progs t) ∧
    TwoPhase verdict P (progs t) (c.holds t)
  last : ∀ t, c.holder P.gate = some t → order.getLast? = some t
  valid : P.valid c.mem
  same : finishAll verdict (order.map progs) c.mem
    = finishAll verdict (order.map fun t => body (calls t)) first

/-- Every call starts at the gate. -/
def Gated (verdict : Result → Verdict) (P : Protection Mem Mutex)
    (body : Call → Prog Mem Mutex Result) (call : Call) : Prop :=
  ∃ next, body call = .lock P.gate next ∧ TwoPhase verdict P next {P.gate}

variable {calls : Tid → Call} {first : Mem} {order : List Tid}
  {progs : Tid → Prog Mem Mutex Result} {next : Prog Mem Mutex Result}

omit [DecidableEq Mutex] [DecidableEq Tid] in
/-- Nobody has passed the gate. -/
theorem serialised_start (hvalid : P.valid first) :
    Serialised verdict P body calls first (Config.start first fun t => [calls t]) []
      fun t => body (calls t) where
  nodup := List.nodup_nil
  waiting _ _ := ⟨Or.inl rfl, rfl, Set.eq_empty_of_forall_notMem fun _ => nofun⟩
  under _ h := absurd h List.not_mem_nil
  last _ := nofun
  valid := hvalid
  same := rfl

omit [DecidableEq Mutex] in
/-- A thread that has passed the gate moves on. -/
theorem Serialised.advance (h : Serialised verdict P body calls first c order progs)
    (hmem : t ∈ order) {th : Thread Mem Mutex Result Call}
    (hself : c'.thread t = th) (hunder : th.Under (calls t) next)
    (hothers : ∀ u, u ≠ t → c'.thread u = c.thread u)
    (hphase : TwoPhase verdict P next (c'.holds t))
    (hholds : ∀ u, u ≠ t → c'.holds u = c.holds u)
    (hgate : ∀ u, c'.holder P.gate = some u → c.holder P.gate = some u) (hvalid : P.valid c'.mem)
    (hsame : finishAll verdict (order.map (Function.update progs t next)) c'.mem
      = finishAll verdict (order.map progs) c.mem) :
    Serialised verdict P body calls first c' order (Function.update progs t next) where
  nodup := h.nodup
  waiting u hu := by
    have hut : u ≠ t := fun heq => hu (heq ▸ hmem)
    rw [hothers u hut, hholds u hut, Function.update_of_ne hut]
    exact h.waiting u hu
  under u hu := by
    by_cases hut : u = t
    · rw [hut, Function.update_self, hself]
      exact ⟨hunder, hphase⟩
    · rw [hothers u hut, hholds u hut, Function.update_of_ne hut]
      exact h.under u hu
  last u hu := h.last u (hgate u hu)
  valid := hvalid
  same := hsame.trans h.same

omit [DecidableEq Mutex] in
/-- It may move on to code with the same outcome. -/
theorem finishAll_update_prog
    (h : next.outcome verdict = (progs t).outcome verdict) (order : List Tid) :
    finishAll verdict (order.map (Function.update progs t next))
      = finishAll verdict (order.map progs) := by
  refine finishAll_congr fun u _ => ?_
  by_cases hut : u = t
  · rw [hut, Function.update_self, h]
  · rw [Function.update_of_ne hut]

omit [DecidableEq Mutex] [DecidableEq Tid] in
/-- The calls before one that is about to access the memory are past the gate. -/
theorem Serialised.past (h : Serialised verdict P body calls first c order progs)
    {before after : List Tid} (horder : order = before ++ t :: after) :
    ∀ prog ∈ before.map progs, Past verdict P (c.holds t) prog := by
  intro prog hprog
  obtain ⟨u, hu, rfl⟩ := List.mem_map.mp hprog
  have hnodup := h.nodup
  rw [horder, List.nodup_append] at hnodup
  have hne : u ≠ t := hnodup.2.2 u hu t List.mem_cons_self
  have hmem : u ∈ order := by
    rw [horder]
    exact List.mem_append_left _ hu
  refine ⟨c.holds u, (h.under u hmem).2, fun hgate => ?_, fun mutex _ hmine hyours => ?_⟩
  · -- the holder of the gate is the last one
    have hlast := h.last u hgate
    rw [horder, List.getLast?_append_of_ne_nil _ (List.cons_ne_nil _ _)] at hlast
    exact hnodup.2.2 u hu u (List.mem_of_getLast? hlast) rfl
  · exact hne (Option.some.inj (Eq.trans (Eq.symm hmine) hyours))

omit [DecidableEq Mutex] in
/-- A thread begins its call. -/
theorem Serialised.begin (h : Serialised verdict P body calls first c order progs) {call : Call}
    {rest : List Call} (hactive : (c.thread t).active = none)
    (hpending : (c.thread t).pending = call :: rest) :
    Serialised verdict P body calls first
      (c.setThread t ((c.thread t).begin call (body call) rest)) order progs := by
  have hfresh : t ∉ order := by
    intro hmem
    rcases (h.under t hmem).1 with hth | ⟨result, -, hth⟩
    · rw [hth] at hactive
      cases hactive
    · rw [hth] at hpending
      cases hpending
  refine ⟨h.nodup, fun u hu => ?_, fun u hu => ?_, h.last, h.valid, h.same⟩
  · by_cases hut : u = t
    · obtain ⟨hwaiting, hprog, hholds⟩ := h.waiting t hfresh
      rw [hut]
      refine ⟨?_, hprog, hholds⟩
      rw [Config.setThread_self]
      rcases hwaiting with hth | hth
      · rw [hth] at hpending ⊢
        cases hpending
        exact Or.inr rfl
      · rw [hth] at hactive
        cases hactive
    · rw [Config.setThread_of_ne _ hut]
      exact h.waiting u hu
  · have hut : u ≠ t := fun heq => hfresh (heq ▸ hu)
    rw [Config.setThread_of_ne _ hut]
    exact h.under u hu

omit [DecidableEq Mutex] [DecidableEq Tid] in
/-- A thread that does something has passed the gate, or does so now. -/
theorem Serialised.of_active (h : Serialised verdict P body calls first c order progs)
    (hgated : ∀ t, Gated verdict P body (calls t)) {call : Call} {prog : Prog Mem Mutex Result}
    (hactive : (c.thread t).active = some (call, prog)) :
    c.thread t = ⟨some (calls t, prog), [], []⟩ ∧ call = calls t ∧
      ((t ∈ order ∧ prog = progs t ∧ TwoPhase verdict P prog (c.holds t)) ∨
        (t ∉ order ∧ c.holds t = ∅ ∧ progs t = prog ∧
          ∃ next, prog = .lock P.gate next ∧ TwoPhase verdict P next {P.gate})) := by
  by_cases hmem : t ∈ order
  · obtain ⟨hunder, hphase⟩ := h.under t hmem
    obtain ⟨hth, hcall, rfl⟩ := hunder.of_active hactive
    exact ⟨hth, hcall, Or.inl ⟨hmem, rfl, hphase⟩⟩
  · obtain ⟨hwaiting, hprog, hholds⟩ := h.waiting t hmem
    obtain ⟨hth, hcall, rfl⟩ := hwaiting.of_active hactive
    exact ⟨hth, hcall, Or.inr ⟨hmem, hholds, hprog, hgated t⟩⟩

/-- A thread takes the gate. -/
theorem Serialised.enter (h : Serialised verdict P body calls first c order progs)
    (hfresh : t ∉ order) (hth : c.thread t = ⟨some (calls t, .lock P.gate next), [], []⟩)
    (hfree : c.holder P.gate = none) (hholds : c.holds t = ∅)
    (hprog : progs t = .lock P.gate next) (hphase : TwoPhase verdict P next {P.gate}) :
    Serialised verdict P body calls first
      ((c.setHolder P.gate (some t)).setThread t ((c.thread t).at (calls t) next)) (order ++ [t])
      (Function.update progs t next) := by
  have hself : (c.setHolder P.gate (some t)).holds t = {P.gate} := by
    rw [Config.holds_lock, hholds, insert_empty_eq]
  constructor
  · exact List.nodup_append.mpr ⟨h.nodup, List.nodup_singleton t, fun u hu u' hu' heq =>
      hfresh (List.mem_singleton.mp hu' ▸ heq ▸ hu)⟩
  · intro u hu
    rw [List.mem_append, List.mem_singleton, not_or] at hu
    rw [Config.setThread_of_ne _ hu.2, Function.update_of_ne hu.2]
    show _ ∧ _ ∧ (c.setHolder P.gate (some t)).holds u = ∅
    rw [Config.holds_lock_of_ne hfree hu.2]
    exact h.waiting u hu.1
  · intro u hu
    by_cases hut : u = t
    · rw [hut, Config.setThread_self, Function.update_self, hth]
      refine ⟨Or.inl rfl, ?_⟩
      show TwoPhase verdict P next ((c.setHolder P.gate (some t)).holds t)
      rw [hself]
      exact hphase
    · have hmem : u ∈ order := by
        rw [List.mem_append, List.mem_singleton] at hu
        exact hu.resolve_right hut
      rw [Config.setThread_of_ne _ hut, Function.update_of_ne hut]
      show _ ∧ TwoPhase verdict P (progs u) ((c.setHolder P.gate (some t)).holds u)
      rw [Config.holds_lock_of_ne hfree hut]
      exact h.under u hmem
  · -- the gate was free, so the thread that holds it is the last of the order
    intro u hu
    change Function.update c.holder P.gate (some t) P.gate = some u at hu
    rw [Function.update_self] at hu
    rw [List.getLast?_concat, hu]
  · exact h.valid
  · -- taking the gate is no part of what a call makes of the memory
    have hsame : next.outcome verdict = (progs t).outcome verdict := by
      rw [hprog]
      rfl
    show finishAll verdict ((order ++ [t]).map _) c.mem = _
    rw [finishAll_update_prog hsame, List.map_append, List.map_append, finishAll_append,
      finishAll_append, h.same, List.map_singleton, List.map_singleton, (h.waiting t hfresh).2.1]

/-- **One step.**  Whoever takes the gate comes last in the order; otherwise the order
stays as it is. -/
theorem Serialised.step (h : Serialised verdict P body calls first c order progs)
    (hgated : ∀ t, Gated verdict P body (calls t)) (taken : step body c t = some c') :
    ∃ progs', Serialised verdict P body calls first c' (order ++ passes P.gate c t) progs' := by
  rcases step_cases taken with ⟨call, rest, hactive, hpending, rfl⟩ | ⟨call, result, hactive, rfl⟩ |
    ⟨call, mutex, next, hactive, hfree, rfl⟩ | ⟨call, mutex, next, hactive, rfl⟩ |
    ⟨call, update, next, hactive, rfl⟩
  · -- a call begins
    simp only [passes, hactive, List.append_nil]
    exact ⟨progs, h.begin hactive hpending⟩
  · -- a call returns
    obtain ⟨hth, rfl, ⟨hmem, hprog, -⟩ | ⟨-, -, -, next, hlock, -⟩⟩ := h.of_active hgated hactive
    · simp only [passes, hactive, List.append_nil]
      refine ⟨Function.update progs t (.ret result), h.advance hmem (Config.setThread_self ..) ?_
        (fun u hut => Config.setThread_of_ne _ hut _) trivial (fun _ _ => rfl) (fun _ => id)
        h.valid (congrFun (finishAll_update_prog (congrArg _ hprog) order) _)⟩
      rw [hth]
      exact Or.inr ⟨result, rfl, rfl⟩
    · cases hlock
  · -- a mutex is taken: the gate places the thread in the order, any other leaves it there
    obtain ⟨hth, rfl, ⟨hmem, hprog, hphase⟩ | ⟨hfresh, hholds, hprog, next', hlock, hphase⟩⟩ :=
      h.of_active hgated hactive
    · obtain ⟨hne, -, hnext⟩ := hphase
      rw [← Config.holds_lock] at hnext
      simp only [passes, hactive, if_neg hne, List.append_nil]
      refine ⟨_, h.advance hmem (Config.setThread_self ..) (Or.inl ?_)
        (fun u hut => Config.setThread_of_ne _ hut _) hnext
        (fun u hut => Config.holds_lock_of_ne hfree hut) (fun u hu => ?_)
        h.valid (congrFun (finishAll_update_prog ?_ order) _)⟩
      · rw [hth]
        rfl
      · exact (Function.update_of_ne (Ne.symm hne) ..).symm.trans hu
      · rw [← hprog]
        rfl
    · cases hlock
      simp only [passes, hactive, if_true]
      exact ⟨_, h.enter hfresh hth hfree hholds hprog hphase⟩
  · -- a mutex is given back
    obtain ⟨hth, rfl, ⟨hmem, hprog, hphase⟩ | ⟨-, -, -, next', hlock, -⟩⟩ :=
      h.of_active hgated hactive
    · obtain ⟨hmine, hnext⟩ := hphase
      rw [← Config.holds_unlock] at hnext
      simp only [passes, hactive, List.append_nil]
      refine ⟨_, h.advance hmem (Config.setThread_self ..) (Or.inl ?_)
        (fun u hut => Config.setThread_of_ne _ hut _) hnext
        (fun u hut => Config.holds_unlock_of_ne hmine hut) (fun u hu => ?_)
        h.valid (congrFun (finishAll_update_prog ?_ order) _)⟩
      · rw [hth]
        rfl
      · have hgate : P.gate ∈ (c.setHolder mutex none).holds u := hu
        rw [Config.holds_unlock] at hgate
        exact hgate.1
      · rw [← hprog]
        rfl
    · cases hlock
  · -- an access: it is moved past the rests of all calls that come before it in the order
    obtain ⟨hth, rfl, ⟨hmem, hprog, hphase⟩ | ⟨-, -, -, next', hlock, -⟩⟩ :=
      h.of_active hgated hactive
    · simp only [passes, hactive, List.append_nil]
      refine ⟨_, h.advance hmem (Config.setThread_self ..) (Or.inl ?_)
        (fun u hut => Config.setThread_of_ne _ hut _) (hphase.2.2 c.mem h.valid)
        (fun _ _ => rfl) (fun _ => id) (P.valid_update hphase.1 h.valid) ?_⟩
      · rw [hth]
        rfl
      · obtain ⟨before, after, horder⟩ := List.append_of_mem hmem
        have hnodup := h.nodup
        rw [horder, List.nodup_append] at hnodup
        obtain ⟨-, hafter, hdisjoint⟩ := hnodup
        have hsame : ∀ order : List Tid, t ∉ order →
            order.map (Function.update progs t (next c.mem)) = order.map progs :=
          fun order hnot => List.map_congr_left fun u hu =>
            Function.update_of_ne (ne_of_mem_of_not_mem hu hnot) _ _
        rw [horder, List.map_append, List.map_append, List.map_cons, List.map_cons,
          hsame before fun hu => hdisjoint t hu t List.mem_cons_self rfl,
          hsame after (List.nodup_cons.mp hafter).1, Function.update_self, ← hprog]
        exact finishAll_access (h.past horder) hphase h.valid
    · cases hlock

/-- **Two-phase locking serialises.**  Any threads, each with one call that keeps to the
two phases, interleaved in any way until all of them are done: every thread has passed
the gate once, and the memory and all the verdicts are those of the calls run one at a
time in the order in which they have passed it. -/
theorem serialisable {ok : Config Mem Mutex Result Call Tid → Tid → Prop} {schedule : List Tid}
    (hgated : ∀ t, Gated verdict P body (calls t)) (hvalid : P.valid first)
    (run : Execution.Runs (LockProgram.step body) ok (Config.start first fun t => [calls t])
      schedule c)
    (hcomplete : ∀ t, ¬ Unfinished c t) {order : List Tid}
    (horder : order = gateOrder body P.gate (Config.start first fun t => [calls t]) schedule) :
    (order.Nodup ∧ ∀ t, t ∈ order) ∧
    ∃ results : Tid → Result, (∀ t, (c.thread t).finished = [(calls t, results t)]) ∧
      finishAll verdict (order.map fun t => body (calls t)) first
        = (order.map fun t => verdict (results t), c.mem) := by
  obtain ⟨progs, h⟩ : ∃ progs, Serialised verdict P body calls first c order progs := by
    subst horder
    clear hcomplete
    induction run with
    | nil => exact ⟨_, serialised_start hvalid⟩
    | snoc run _ taken ih =>
        obtain ⟨progs, h⟩ := ih
        rw [gateOrder_snoc run taken]
        exact h.step hgated taken
  -- a call that has returned has passed the gate
  have hall : ∀ t, t ∈ order := by
    intro t
    by_contra hmem
    refine hcomplete t ?_
    rcases (h.waiting t hmem).1 with hth | hth
    · exact Or.inr (by rw [hth]; exact List.cons_ne_nil _ _)
    · exact Or.inl (by rw [hth]; rfl)
  have hdone : ∀ t, ∃ result, progs t = .ret result ∧
      (c.thread t).finished = [(calls t, result)] := by
    intro t
    rcases (h.under t (hall t)).1 with hth | ⟨result, hret, hth⟩
    · exact absurd (Or.inl (by rw [hth]; rfl)) (hcomplete t)
    · exact ⟨result, hret, by rw [hth]⟩
  -- nothing is left of any call, so finishing them in order changes nothing any more
  choose results hret hfinished using hdone
  refine ⟨⟨h.nodup, hall⟩, results, hfinished, ?_⟩
  rw [← h.same, show progs = fun t => .ret (results t) from funext hret]
  have hresults := @finishAll_ret Mem Mutex Result Verdict verdict (order.map results) c.mem
  rw [List.map_map, List.map_map] at hresults
  exact hresults

end LockProgram
