import Mathlib.Data.List.Destutter
import Mathlib.Logic.Function.Basic

/-!
# Guarded runs of partial machines

A machine is a partial step function over labelled actions: an action that is
not enabled in a state has no successor.  This module fixes the run of a list
of actions, what it means for a property to hold in every state such a run
passes through, and what it means for every step of the run to meet a guard.

The main rule, `throughout_iff_guarded`, says when the two agree: if a guarded
step keeps an invariant and an unguarded step leaves a state that violates the
property, then a run satisfies the property throughout exactly when each of
its steps meets the guard.  A state that keeps a family of tasks is updated at
the task that moves.
-/

namespace Foundation

/-- A partial step function; a disabled action yields `none`. -/
abbrev Machine (state action : Type) : Type :=
  state -> action -> Option state

namespace Machine

variable {state action : Type}

/-!
## Runs
-/

theorem of_disabled_if {p : Prop} [Decidable p] {next : Option state}
    {t : state} (h : (if p then none else next) = some t) :
    ¬ p ∧ next = some t := by
  by_cases hp : p
  · rw [if_pos hp] at h
    cases h
  · rw [if_neg hp] at h
    exact ⟨hp, h⟩

theorem of_enabled_if {p : Prop} [Decidable p] {next : Option state}
    {t : state} (h : (if p then next else none) = some t) :
    p ∧ next = some t := by
  by_cases hp : p
  · rw [if_pos hp] at h
    exact ⟨hp, h⟩
  · rw [if_neg hp] at h
    cases h

/-- Perform a list of actions in order, failing at the first disabled one. -/
def run (M : Machine state action) : state -> List action -> Option state
  | s, [] => some s
  | s, a :: rest => (M s a).bind fun t => run M t rest

theorem run_cons (M : Machine state action) (s : state) (a : action)
    (rest : List action) :
    run M s (a :: rest) = (M s a).bind fun t => run M t rest := rfl

theorem run_cons_of_step {M : Machine state action} {s t : state} {a : action}
    (hstep : M s a = some t) (rest : List action) :
    run M s (a :: rest) = run M t rest := by
  rw [run_cons, hstep]
  rfl

theorem run_cons_some {M : Machine state action} {s u : state} {a : action}
    {rest : List action} (h : run M s (a :: rest) = some u) :
    exists t, M s a = some t ∧ run M t rest = some u := by
  rw [run_cons] at h
  exact Option.bind_eq_some_iff.mp h

theorem run_append_of_run {M : Machine state action} {s t : state}
    {pre : List action} (hrun : run M s pre = some t) (rest : List action) :
    run M s (pre ++ rest) = run M t rest := by
  induction pre generalizing s with
  | nil =>
      cases hrun
      rfl
  | cons a pre ih =>
      rcases run_cons_some hrun with ⟨u, hstep, hpre⟩
      rw [List.cons_append, run_cons_of_step hstep]
      exact ih hpre

theorem run_append_some {M : Machine state action} {s u : state}
    {pre rest : List action} (hrun : run M s (pre ++ rest) = some u) :
    exists t, run M s pre = some t ∧ run M t rest = some u := by
  induction pre generalizing s with
  | nil => exact ⟨s, rfl, hrun⟩
  | cons a pre ih =>
      rcases run_cons_some hrun with ⟨t, hstep, hpre⟩
      rcases ih hpre with ⟨v, hfirst, hrest⟩
      exact ⟨v, (run_cons_of_step hstep pre).trans hfirst, hrest⟩

theorem run_invariant {M : Machine state action} {I : state -> Prop}
    (hkeep : forall s a t, I s -> M s a = some t -> I t)
    {s u : state} {acts : List action} (hs : I s)
    (hrun : run M s acts = some u) : I u := by
  induction acts generalizing s with
  | nil =>
      cases hrun
      exact hs
  | cons a rest ih =>
      rcases run_cons_some hrun with ⟨t, hstep, hrest⟩
      exact ih (hkeep s a t hs hstep) hrest

def passed (M : Machine state action) : state -> List action -> List state
  | _, [] => []
  | s, a :: rest => (M s a).elim [] fun t => t :: passed M t rest

theorem passed_cons_of_step {M : Machine state action} {s t : state}
    {a : action} (hstep : M s a = some t) (rest : List action) :
    passed M s (a :: rest) = t :: passed M t rest := by
  rw [passed, hstep]
  rfl

section simulation

variable {state' action' : Type}

/-- The labels of the steps of a run, where they have any. -/
def labels (M : Machine state action)
    (label : state -> action -> Option action') :
    state -> List action -> List action'
  | _, [] => []
  | s, a :: rest =>
      (label s a).toList ++ (M s a).elim [] fun t => labels M label t rest

/--
A step is one of another machine by its label, between what its states stand
for; without a label it leaves that as it is.
-/
def Simulates (M : Machine state action) (N : Machine state' action')
    (f : state -> state') (label : state -> action -> Option action') : Prop :=
  forall s a t, M s a = some t ->
    (label s a).elim (f t = f s) fun b => N (f s) b = some (f t)

variable {M : Machine state action} {N : Machine state' action'}
  {f : state -> state'} {label : state -> action -> Option action'}

theorem labels_cons_of_step {s t : state} {a : action}
    (hstep : M s a = some t) (rest : List action) :
    labels M label s (a :: rest) =
      (label s a).toList ++ labels M label t rest := by
  rw [labels, hstep]
  rfl

theorem run_labels (h : Simulates M N f label) {s u : state}
    {acts : List action} (hrun : run M s acts = some u) :
    run N (f s) (labels M label s acts) = some (f u) := by
  induction acts generalizing s with
  | nil =>
      cases hrun
      rfl
  | cons a rest ih =>
      rcases run_cons_some hrun with ⟨t, hstep, hrest⟩
      have hsim := h s a t hstep
      rw [labels_cons_of_step hstep]
      cases hlabel : label s a with
      | some b =>
          rw [hlabel] at hsim
          exact (run_cons_of_step hsim _).trans (ih hrest)
      | none =>
          rw [hlabel] at hsim
          rw [← hsim]
          exact ih hrest

/--
Where no step of the other machine leaves a state as it is, its run passes
through what the states of the run stand for, repetitions left out.
-/
theorem passed_labels [DecidableEq state'] (h : Simulates M N f label)
    (hmoves : forall p b q, N p b = some q -> p ≠ q) {s u : state}
    {acts : List action} (hrun : run M s acts = some u) :
    f s :: passed N (f s) (labels M label s acts) =
      (f s :: (passed M s acts).map f).destutter (· ≠ ·) := by
  rw [List.destutter_cons']
  induction acts generalizing s with
  | nil => rfl
  | cons a rest ih =>
      rcases run_cons_some hrun with ⟨t, hstep, hrest⟩
      have hsim := h s a t hstep
      rw [labels_cons_of_step hstep, passed_cons_of_step hstep, List.map_cons]
      cases hlabel : label s a with
      | some b =>
          rw [hlabel] at hsim
          rw [List.destutter'_cons_pos _ (hmoves _ b _ hsim), ← ih hrest]
          exact congrArg (f s :: ·) (passed_cons_of_step hsim _)
      | none =>
          rw [hlabel] at hsim
          rw [List.destutter'_cons_neg _ (not_not.mpr hsim.symm), ← hsim]
          exact ih hrest

end simulation

/-- What the steps of a run add up to. -/
def total (M : Machine state action) (amount : state -> action -> Nat) :
    state -> List action -> Nat
  | _, [] => 0
  | s, a :: rest =>
      amount s a + (M s a).elim 0 fun t => total M amount t rest

theorem total_cons_of_step {M : Machine state action}
    {amount : state -> action -> Nat} {s t : state} {a : action}
    (hstep : M s a = some t) (rest : List action) :
    total M amount s (a :: rest) = amount s a + total M amount t rest := by
  rw [total, hstep]
  rfl

theorem run_relates {M : Machine state action}
    {amount : state -> action -> Nat} {R : state -> Nat -> state -> Prop}
    (hrefl : forall s, R s 0 s)
    (htrans : forall s t u m n, R s m t -> R t n u -> R s (m + n) u)
    (hstep : forall s a t, M s a = some t -> R s (amount s a) t)
    {s u : state} {acts : List action} (hrun : run M s acts = some u) :
    R s (total M amount s acts) u := by
  induction acts generalizing s with
  | nil =>
      cases hrun
      exact hrefl _
  | cons a rest ih =>
      rcases run_cons_some hrun with ⟨t, hfirst, hrest⟩
      rw [total_cons_of_step hfirst]
      exact htrans s t u _ _ (hstep s a t hfirst) (ih hrest)

/-!
## Properties and guards along a run
-/

/-- The property holds in every state the run passes through. -/
def Throughout (M : Machine state action) (P : state -> Prop) (s : state)
    (acts : List action) : Prop :=
  forall pre t, pre <+: acts -> run M s pre = some t -> P t

/-- Every step the run takes meets the guard in the state it is taken from. -/
def Guarded (M : Machine state action) (G : state -> action -> Prop) (s : state)
    (acts : List action) : Prop :=
  forall pre a t u, pre ++ [a] <+: acts -> run M s pre = some t ->
    M t a = some u -> G t a

/-- The relation holds between the states before and after every step. -/
def Stepwise (M : Machine state action) (R : state -> action -> state -> Prop)
    (s : state) (acts : List action) : Prop :=
  forall pre a t u, pre ++ [a] <+: acts -> run M s pre = some t ->
    M t a = some u -> R t a u

theorem throughout_nil (M : Machine state action) (P : state -> Prop)
    (s : state) : Throughout M P s [] <-> P s := by
  constructor
  · intro h
    exact h [] s (List.prefix_refl []) rfl
  · intro hs pre t hpre hrun
    have hnil : pre = [] := List.prefix_nil.mp hpre
    subst pre
    cases hrun
    exact hs

theorem throughout_cons (M : Machine state action) (P : state -> Prop)
    (s : state) (a : action) (rest : List action) :
    Throughout M P s (a :: rest) <->
      P s ∧ forall t, M s a = some t -> Throughout M P t rest := by
  constructor
  · intro h
    constructor
    · exact h [] s (List.nil_prefix) rfl
    · intro t hstep pre u hpre hrun
      apply h (a :: pre) u (List.cons_prefix_cons.mpr ⟨rfl, hpre⟩)
      rw [run_cons_of_step hstep]
      exact hrun
  · intro h pre u hpre hrun
    cases pre with
    | nil =>
        cases hrun
        exact h.left
    | cons b pre =>
        rcases List.cons_prefix_cons.mp hpre with ⟨rfl, hpre'⟩
        rcases run_cons_some hrun with ⟨t, hstep, hrest⟩
        exact h.right t hstep pre u hpre' hrest

theorem guarded_nil (M : Machine state action) (G : state -> action -> Prop)
    (s : state) : Guarded M G s [] := by
  intro pre a t u hpre
  have hnil : pre ++ [a] = [] := List.prefix_nil.mp hpre
  simp at hnil

theorem guarded_cons (M : Machine state action) (G : state -> action -> Prop)
    (s : state) (a : action) (rest : List action) :
    Guarded M G s (a :: rest) <->
      forall t, M s a = some t -> G s a ∧ Guarded M G t rest := by
  constructor
  · intro h t hstep
    constructor
    · exact h [] a s t (by simp) rfl hstep
    · intro pre b u v hpre hrun hlast
      refine h (a :: pre) b u v (List.cons_prefix_cons.mpr ⟨rfl, hpre⟩) ?_ hlast
      rw [run_cons_of_step hstep]
      exact hrun
  · intro h pre b u v hpre hrun hlast
    cases pre with
    | nil =>
        have hb : b = a := (List.cons_prefix_cons.mp hpre).left
        cases hrun
        subst b
        exact (h v hlast).left
    | cons c pre =>
        rcases List.cons_prefix_cons.mp hpre with ⟨rfl, hpre'⟩
        rcases run_cons_some hrun with ⟨t, hstep, hrest⟩
        exact (h t hstep).right pre b u v hpre' hrest hlast

theorem Guarded.cons {M : Machine state action} {G : state -> action -> Prop}
    {s t : state} {a : action} {rest : List action} (hstep : M s a = some t)
    (hguard : G s a) (hrest : Guarded M G t rest) :
    Guarded M G s (a :: rest) := by
  rw [guarded_cons]
  intro u hu
  cases hstep.symm.trans hu
  exact ⟨hguard, hrest⟩

theorem Guarded.of_prefix {M : Machine state action}
    {G : state -> action -> Prop} {s : state} {pre acts : List action}
    (h : Guarded M G s acts) (hpre : pre <+: acts) : Guarded M G s pre := by
  intro first a t u hfirst
  exact h first a t u (hfirst.trans hpre)

theorem Guarded.append {M : Machine state action}
    {G : state -> action -> Prop} {s : state} {pre rest : List action}
    (hpre : Guarded M G s pre)
    (hrest : forall t, run M s pre = some t -> Guarded M G t rest) :
    Guarded M G s (pre ++ rest) := by
  induction pre generalizing s with
  | nil => exact hrest s rfl
  | cons a pre ih =>
      rw [guarded_cons] at hpre
      rw [List.cons_append, guarded_cons]
      intro t hstep
      rcases hpre t hstep with ⟨hguard, hlater⟩
      refine ⟨hguard, ih hlater ?_⟩
      intro u hrun
      exact hrest u ((run_cons_of_step hstep pre).trans hrun)

theorem guarded_of_mem {M : Machine state action} {Q : action -> Prop}
    {acts : List action} (hacts : forall a, a ∈ acts -> Q a) (s : state) :
    Guarded M (fun _ a => Q a) s acts := by
  intro pre a t u hpre _ _
  exact hacts a (hpre.mem (List.mem_append_right _ (List.mem_singleton_self a)))

theorem Throughout.last {M : Machine state action} {P : state -> Prop}
    {s t : state} {acts : List action} (h : Throughout M P s acts)
    (hrun : run M s acts = some t) : P t :=
  h acts t (List.prefix_refl acts) hrun

theorem throughout_of_guarded {M : Machine state action} {I : state -> Prop}
    {G : state -> action -> Prop}
    (hkeep : forall s a t, I s -> M s a = some t -> G s a -> I t)
    {s : state} {acts : List action} (hs : I s)
    (hguarded : Guarded M G s acts) : Throughout M I s acts := by
  induction acts generalizing s with
  | nil => exact (throughout_nil M I s).mpr hs
  | cons a rest ih =>
      rw [guarded_cons] at hguarded
      rw [throughout_cons]
      constructor
      · exact hs
      · intro t hstep
        rcases hguarded t hstep with ⟨hguard, hrest⟩
        exact ih (hkeep s a t hs hstep hguard) hrest

/--
Exactness of a guard.  `J` is the invariant that carries the argument: it
implies the property, guarded steps keep it, and an unguarded step from it
leaves a state without the property.
-/
theorem throughout_iff_guarded {M : Machine state action}
    {J P : state -> Prop} {G : state -> action -> Prop}
    (hproperty : forall s, J s -> P s)
    (hkeep : forall s a t, J s -> M s a = some t -> G s a -> J t)
    (hbreak : forall s a t, J s -> M s a = some t -> ¬ G s a -> ¬ P t)
    {s : state} (hs : J s) (acts : List action) :
    Throughout M P s acts <-> Guarded M G s acts := by
  induction acts generalizing s with
  | nil =>
      rw [throughout_nil]
      constructor
      · intro _
        exact guarded_nil M G s
      · intro _
        exact hproperty s hs
  | cons a rest ih =>
      rw [throughout_cons, guarded_cons]
      constructor
      · intro h t hstep
        have hrest : Throughout M P t rest := h.right t hstep
        have hPt : P t := hrest [] t List.nil_prefix rfl
        have hguard : G s a := by
          by_contra hnot
          exact hbreak s a t hs hstep hnot hPt
        exact ⟨hguard, (ih (hkeep s a t hs hstep hguard)).mp hrest⟩
      · intro h
        constructor
        · exact hproperty s hs
        · intro t hstep
          rcases h t hstep with ⟨hguard, hrest⟩
          exact (ih (hkeep s a t hs hstep hguard)).mpr hrest

/--
Exactness of a guard for a relation between the states around a step: under an
invariant that every step keeps, the relation and the guard agree on a step.
-/
theorem stepwise_iff_guarded {M : Machine state action} {J : state -> Prop}
    {R : state -> action -> state -> Prop} {G : state -> action -> Prop}
    (hkeep : forall s a t, J s -> M s a = some t -> J t)
    (hexact : forall s a t, J s -> M s a = some t -> (R s a t <-> G s a))
    {s : state} (hs : J s) (acts : List action) :
    Stepwise M R s acts <-> Guarded M G s acts := by
  constructor
  · intro h pre a t u hpre hrun hstep
    exact (hexact t a u (run_invariant hkeep hs hrun) hstep).mp
      (h pre a t u hpre hrun hstep)
  · intro h pre a t u hpre hrun hstep
    exact (hexact t a u (run_invariant hkeep hs hrun) hstep).mpr
      (h pre a t u hpre hrun hstep)

/--
Exactness of a guard whose violation may show later only: a run satisfies the
property throughout, whatever actions of a kind follow at any point of it,
exactly when each of its steps meets the guard.  `S` is kept by every step, `I`
by guarded steps from `S`, and actions of the kind meet the guard.
-/
theorem throughout_extended_iff_guarded {M : Machine state action}
    {S I P : state -> Prop} {G : state -> action -> Prop} {C : action -> Prop}
    (hshape : forall s a t, S s -> M s a = some t -> S t)
    (hkeep : forall s a t, I s -> S s -> M s a = some t -> G s a -> I t)
    (hproperty : forall s, I s -> P s) (hkind : forall s a, C a -> G s a)
    (hbreak : forall s a t, S s -> M s a = some t -> ¬ G s a ->
      exists later u, (forall b, b ∈ later -> C b) ∧
        run M t later = some u ∧ ¬ P u)
    {s : state} (hS : S s) (hI : I s) (acts : List action) :
    (forall pre later, pre <+: acts -> (forall a, a ∈ later -> C a) ->
        Throughout M P s (pre ++ later)) <->
      Guarded M G s acts := by
  constructor
  · intro h pre a t u hpre hrun hstep
    by_contra hnot
    have ht : S t := run_invariant hshape hS hrun
    rcases hbreak t a u ht hstep hnot with ⟨later, v, hlater, hrest, hbad⟩
    have hwhole : run M s ((pre ++ [a]) ++ later) = some v := by
      rw [List.append_assoc, run_append_of_run hrun]
      exact (run_cons_of_step hstep later).trans hrest
    exact hbad ((h (pre ++ [a]) later hpre hlater).last hwhole)
  · intro h pre later hpre hlater
    have hfollows : forall t, Guarded M G t later := by
      intro t first a u v hfirst _ _
      apply hkind
      apply hlater
      exact hfirst.mem (List.mem_append_right _ (List.mem_singleton_self a))
    have hwhole : Guarded M G s (pre ++ later) :=
      (h.of_prefix hpre).append fun t _ => hfollows t
    have hboth : forall t a u, (I t ∧ S t) -> M t a = some u -> G t a ->
        I u ∧ S u := by
      intro t a u ht hstep hguard
      exact ⟨hkeep t a u ht.left ht.right hstep hguard,
        hshape t a u ht.right hstep⟩
    intro first t hfirst hrun
    exact hproperty t
      (throughout_of_guarded hboth ⟨hI, hS⟩ hwhole first t hfirst hrun).left

/-!
## Guards that look at the steps before

A guard may also look at what is remembered of the steps before, as far as the
actions and the states they were taken from tell it.
-/

section remembering

variable {memory : Type}

/-- Every step the run takes meets the guard with what is then remembered. -/
def GuardedWith (M : Machine state action)
    (next : memory -> state -> action -> memory)
    (G : memory -> state -> action -> Prop) :
    memory -> state -> List action -> Prop
  | _, _, [] => True
  | m, s, a :: rest =>
      forall t, M s a = some t ->
        G m s a ∧ GuardedWith M next G (next m s a) t rest

/--
A guard on the states agrees along a run with one on what is remembered, if they
agree on every step under a relation that guarded steps keep.
-/
theorem guarded_iff_guardedWith {M : Machine state action}
    {next : memory -> state -> action -> memory}
    {H : state -> action -> Prop} {G : memory -> state -> action -> Prop}
    {J : memory -> state -> Prop}
    (hexact : forall m s a t, J m s -> M s a = some t -> (H s a <-> G m s a))
    (hkeep : forall m s a t, J m s -> M s a = some t -> H s a ->
      J (next m s a) t)
    {m : memory} {s : state} (hs : J m s) (acts : List action) :
    Guarded M H s acts <-> GuardedWith M next G m s acts := by
  induction acts generalizing m s with
  | nil => exact iff_of_true (guarded_nil M H s) trivial
  | cons a rest ih =>
      rw [guarded_cons, GuardedWith]
      constructor
      · intro h t hstep
        rcases h t hstep with ⟨hguard, hrest⟩
        exact ⟨(hexact m s a t hs hstep).mp hguard,
          (ih (hkeep m s a t hs hstep hguard)).mp hrest⟩
      · intro h t hstep
        rcases h t hstep with ⟨hguard, hrest⟩
        have hmet := (hexact m s a t hs hstep).mpr hguard
        exact ⟨hmet, (ih (hkeep m s a t hs hstep hmet)).mpr hrest⟩

end remembering

end Machine

/-!
## Families of tasks
-/

theorem of_update_eq_some {key value : Type} [DecidableEq key]
    {tasks : key -> Option value} {moved other : key} {v w : value}
    (h : Function.update tasks moved (some v) other = some w) :
    (other = moved ∧ w = v) ∨ (other ≠ moved ∧ tasks other = some w) := by
  by_cases hsame : other = moved
  · subst other
    rw [Function.update_self] at h
    exact Or.inl ⟨rfl, (Option.some.inj h).symm⟩
  · rw [Function.update_of_ne hsame] at h
    exact Or.inr ⟨hsame, h⟩

theorem of_update_none_eq_some {key value : Type} [DecidableEq key]
    {tasks : key -> Option value} {ended other : key} {v : value}
    (h : Function.update tasks ended none other = some v) :
    other ≠ ended ∧ tasks other = some v := by
  by_cases hsame : other = ended
  · subst other
    rw [Function.update_self] at h
    cases h
  · rw [Function.update_of_ne hsame] at h
    exact ⟨hsame, h⟩

end Foundation
