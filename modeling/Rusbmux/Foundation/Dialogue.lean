import Rusbmux.Foundation.Machine

/-!
# Tasks that make calls

A task makes calls to what is around it, one at a time, and goes on with their
replies.  Its log lists the calls with their replies.  The rules below turn an
invariant of the log and the place of the task into what every call of a run had
behind it.
-/

namespace Foundation

structure Dialogue (place call reply : Type) where
  call : place -> Option call
  resume : place -> reply -> Option place

namespace Dialogue

variable {place call reply : Type}

abbrev Log (call reply : Type) : Type := List (call × reply)

structure Conversation (place call reply : Type) where
  place : place
  log : Log call reply := []

def step (D : Dialogue place call reply) :
    Machine (Conversation place call reply) reply := fun s r =>
  (D.call s.place).bind fun c =>
    (D.resume s.place r).map fun p => { place := p, log := s.log ++ [(c, r)] }

variable {D : Dialogue place call reply}

theorem step_eq_some {s t : Conversation place call reply} {r : reply}
    (h : D.step s r = some t) :
    exists c p, D.call s.place = some c ∧ D.resume s.place r = some p ∧
      t = { place := p, log := s.log ++ [(c, r)] } := by
  rcases Option.bind_eq_some_iff.mp h with ⟨c, hcall, hrest⟩
  rcases Option.map_eq_some_iff.mp hrest with ⟨p, hresume, ht⟩
  exact ⟨c, p, hcall, hresume, ht.symm⟩

theorem step_of_resume {s : Conversation place call reply} {p q : place}
    {c : call} {r : reply} (hs : s.place = p) (hcall : D.call p = some c)
    (hresume : D.resume p r = some q) :
    exists t, D.step s r = some t ∧ t.place = q ∧ t.log = s.log ++ [(c, r)] := by
  subst hs
  refine ⟨{ place := q, log := s.log ++ [(c, r)] }, ?_, rfl, rfl⟩
  unfold step
  rw [hcall, hresume]
  rfl

def Keeps (D : Dialogue place call reply)
    (I : Log call reply -> place -> Prop) : Prop :=
  forall log p c r q, I log p -> D.call p = some c -> D.resume p r = some q ->
    I (log ++ [(c, r)]) q

theorem run_keeps {I : Log call reply -> place -> Prop} (hkeeps : D.Keeps I)
    {s t : Conversation place call reply} {replies : List reply}
    (hs : I s.log s.place) (hrun : Machine.run D.step s replies = some t) :
    I t.log t.place := by
  refine Machine.run_invariant (I := fun u => I u.log u.place) ?_ hs hrun
  intro u r v hu hstep
  rcases step_eq_some hstep with ⟨c, p, hcall, hresume, rfl⟩
  exact hkeeps u.log u.place c r p hu hcall hresume

/-!
## What the calls of a log have behind them
-/

def Justified (J : Log call reply -> call -> Prop) (log : Log call reply) :
    Prop :=
  forall before c r later, log = before ++ (c, r) :: later -> J before c

theorem justified_nil (J : Log call reply -> call -> Prop) :
    Justified J [] := by
  intro before c r later h
  cases before <;> cases h

theorem Justified.append {J : Log call reply -> call -> Prop}
    {log : Log call reply} (h : Justified J log) {c : call} (hc : J log c)
    (r : reply) : Justified J (log ++ [(c, r)]) := by
  intro before d s later heq
  rcases List.eq_nil_or_concat later with rfl | ⟨later, last, rfl⟩
  · rcases List.append_inj' heq rfl with ⟨rfl, hlast⟩
    cases hlast
    exact hc
  · rw [List.concat_eq_append, ← List.cons_append, ← List.append_assoc] at heq
    exact h before d s later (List.append_inj' heq rfl).left

/--
If an invariant implies a condition on the next call, then every call of a run
met the condition when it was made.
-/
theorem run_justified {I : Log call reply -> place -> Prop}
    (hkeeps : D.Keeps I) {J : Log call reply -> call -> Prop}
    (hcalls : forall log p c, I log p -> D.call p = some c -> J log c)
    {p : place} (hp : I [] p) {t : Conversation place call reply}
    {replies : List reply}
    (hrun : Machine.run D.step { place := p } replies = some t) :
    Justified J t.log := by
  have hboth : D.Keeps fun log q => I log q ∧ Justified J log := by
    intro log q c r q' h hcall hresume
    exact ⟨hkeeps log q c r q' h.left hcall hresume,
      h.right.append (hcalls log q c h.left hcall) r⟩
  exact (run_keeps hboth (s := { place := p }) ⟨hp, justified_nil J⟩ hrun).right

end Dialogue

end Foundation
