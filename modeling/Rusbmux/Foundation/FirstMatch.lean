import Mathlib.Data.List.Basic

/-!
# The first match

A search of a list that stops at the first element with an outcome.  A list that
has its elements in no particular order, as a directory or a set has, is
searched with the same outcome in every order exactly if all the outcomes that
could be found are the same.
-/

namespace Foundation
namespace FirstMatch

variable {alpha beta : Type}

/-- All outcomes that a search could stop at are the same. -/
def Agree (f : alpha -> Option beta) (l : List alpha) : Prop :=
  forall x y b c, x ∈ l -> y ∈ l -> f x = some b -> f y = some c -> b = c

def OrderFree (f : alpha -> Option beta) (l : List alpha) : Prop :=
  forall l' : List alpha, l'.Perm l -> l'.findSome? f = l.findSome? f

theorem findSome?_of_perm {f : alpha -> Option beta} {l l' : List alpha}
    (hperm : l'.Perm l) (hnone : l.findSome? f = none) :
    l'.findSome? f = none := by
  apply List.findSome?_eq_none_iff.mpr
  intro x hx
  exact List.findSome?_eq_none_iff.mp hnone x (hperm.mem_iff.mp hx)

theorem exists_perm_findSome? {f : alpha -> Option beta} {l : List alpha}
    {x : alpha} {b : beta} (hx : x ∈ l) (hfx : f x = some b) :
    exists l' : List alpha, l'.Perm l ∧ l'.findSome? f = some b := by
  rcases List.append_of_mem hx with ⟨before, after, rfl⟩
  refine ⟨x :: (before ++ after), List.perm_middle.symm, ?_⟩
  rw [List.findSome?_cons, hfx]

theorem findSome?_eq_some_of_agree {f : alpha -> Option beta} {l : List alpha}
    (h : Agree f l) {x : alpha} {b : beta} (hx : x ∈ l) (hfx : f x = some b) :
    l.findSome? f = some b := by
  cases hfound : l.findSome? f with
  | none =>
      have hnone := List.findSome?_eq_none_iff.mp hfound x hx
      cases hfx.symm.trans hnone
  | some c =>
      rcases List.exists_of_findSome?_eq_some hfound with ⟨y, hy, hfy⟩
      rw [h x y b c hx hy hfx hfy]

theorem orderFree_iff (f : alpha -> Option beta) (l : List alpha) :
    OrderFree f l <-> Agree f l := by
  constructor
  · intro h x y b c hx hy hfx hfy
    rcases exists_perm_findSome? hx hfx with ⟨first, hfirst, hb⟩
    rcases exists_perm_findSome? hy hfy with ⟨second, hsecond, hc⟩
    have hsame : some b = some c := by
      rw [← hb, h first hfirst, ← h second hsecond, hc]
    exact Option.some.inj hsame
  · intro h l' hperm
    cases hfound : l.findSome? f with
    | none => exact findSome?_of_perm hperm hfound
    | some b =>
        rcases List.exists_of_findSome?_eq_some hfound with ⟨x, hx, hfx⟩
        have hagree : Agree f l' := by
          intro y z c d hy hz
          exact h y z c d (hperm.mem_iff.mp hy) (hperm.mem_iff.mp hz)
        exact findSome?_eq_some_of_agree hagree (hperm.mem_iff.mpr hx) hfx

end FirstMatch
end Foundation
