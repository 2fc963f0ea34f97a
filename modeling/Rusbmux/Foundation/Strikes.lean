import Mathlib.Data.List.Basic

/-!
# Failures that are made up for

Some events of a log are failures, and some make up for the failures before
them.  A failure stands as long as nothing has made up for it, and a failure
that comes while another one stands is a second strike.  The rules below say
what one more event does to either.
-/

namespace Foundation
namespace Strikes

variable {event : Type}

def Standing (fails mends : event -> Prop) (log : List event) : Prop :=
  exists before failure after, log = before ++ failure :: after ∧
    fails failure ∧ forall e, e ∈ after -> ¬ mends e

def StruckTwice (fails mends : event -> Prop) (log : List event) : Prop :=
  exists before failure after, log = before ++ failure :: after ∧
    fails failure ∧ Standing fails mends before

variable {fails mends : event -> Prop}

theorem split_concat {log before after : List event} {last e : event}
    (h : log ++ [last] = before ++ e :: after) :
    (after = [] ∧ before = log ∧ e = last) ∨
      exists rest, after = rest ++ [last] ∧ log = before ++ e :: rest := by
  rcases List.eq_nil_or_concat after with rfl | ⟨rest, other, rfl⟩
  · rcases List.append_inj' h rfl with ⟨rfl, hlast⟩
    cases hlast
    exact Or.inl ⟨rfl, rfl, rfl⟩
  · rw [List.concat_eq_append, ← List.cons_append, ← List.append_assoc] at h
    rcases List.append_inj' h rfl with ⟨hlog, hlast⟩
    cases hlast
    exact Or.inr ⟨rest, List.concat_eq_append, hlog⟩

theorem standing_concat (log : List event) (e : event) :
    Standing fails mends (log ++ [e]) <->
      fails e ∨ (Standing fails mends log ∧ ¬ mends e) := by
  constructor
  · rintro ⟨before, failure, after, hlog, hfails, hafter⟩
    rcases split_concat hlog with ⟨_, _, rfl⟩ | ⟨rest, rfl, hold⟩
    · exact Or.inl hfails
    · right
      constructor
      · refine ⟨before, failure, rest, hold, hfails, ?_⟩
        intro other hmem
        exact hafter other (List.mem_append_left _ hmem)
      · exact hafter e (List.mem_append_right _ (List.mem_singleton_self e))
  · rintro (hfails | ⟨⟨before, failure, after, rfl, hfails, hafter⟩, hmends⟩)
    · exact ⟨log, e, [], rfl, hfails, List.forall_mem_nil _⟩
    · refine ⟨before, failure, after ++ [e], ?_, hfails, ?_⟩
      · rw [List.append_assoc]
        rfl
      · intro other hmem
        rcases List.mem_append.mp hmem with hmem | hmem
        · exact hafter other hmem
        · rw [List.mem_singleton.mp hmem]
          exact hmends

theorem struckTwice_concat (log : List event) (e : event) :
    StruckTwice fails mends (log ++ [e]) <->
      StruckTwice fails mends log ∨
        (fails e ∧ Standing fails mends log) := by
  constructor
  · rintro ⟨before, failure, after, hlog, hfails, hstanding⟩
    rcases split_concat hlog with ⟨_, rfl, rfl⟩ | ⟨rest, _, hold⟩
    · exact Or.inr ⟨hfails, hstanding⟩
    · exact Or.inl ⟨before, failure, rest, hold, hfails, hstanding⟩
  · rintro (⟨before, failure, after, rfl, hfails, hstanding⟩ |
      ⟨hfails, hstanding⟩)
    · refine ⟨before, failure, after ++ [e], ?_, hfails, hstanding⟩
      rw [List.append_assoc]
      rfl
    · exact ⟨log, e, [], rfl, hfails, hstanding⟩

theorem not_standing_of_none {log : List event}
    (h : forall e, e ∈ log -> ¬ fails e) : ¬ Standing fails mends log := by
  rintro ⟨before, failure, after, rfl, hfails, _⟩
  exact h failure (List.mem_append_right _ List.mem_cons_self) hfails

theorem not_struckTwice_of_none {log : List event}
    (h : forall e, e ∈ log -> ¬ fails e) : ¬ StruckTwice fails mends log := by
  rintro ⟨before, failure, after, rfl, hfails, _⟩
  exact h failure (List.mem_append_right _ List.mem_cons_self) hfails

end Strikes
end Foundation
