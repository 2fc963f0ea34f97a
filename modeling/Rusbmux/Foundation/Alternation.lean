import Mathlib.Data.List.Chain

/-!
# Alternating logs

Some events of a log open or close a key.  The marks of one key alternate when
every closing closes what was opened and nothing is opened twice.  The rules
below say what appending an event does to a log whose marks alternate for every
key, given the keys that are open.  The marks go on alternating exactly if each
event opens a key that is not open or closes one that is.
-/

namespace Foundation

/-!
## Marks of one key
-/

def Alternates (marks : List Bool) : Prop :=
  marks.head? ≠ some false ∧ marks.IsChain (· ≠ ·)

def isOpen (marks : List Bool) : Bool :=
  marks.getLast?.getD false

theorem alternates_nil : Alternates [] := by
  constructor
  · simp
  · exact List.isChain_nil

@[simp] theorem isOpen_nil : isOpen [] = false := rfl

@[simp] theorem isOpen_concat (marks : List Bool) (mark : Bool) :
    isOpen (marks ++ [mark]) = mark := by
  simp [isOpen]

theorem alternates_concat (marks : List Bool) (mark : Bool) :
    Alternates (marks ++ [mark]) <->
      Alternates marks ∧ mark = !isOpen marks := by
  cases hlast : marks.getLast? with
  | none =>
      have hnil : marks = [] := List.getLast?_eq_none_iff.mp hlast
      subst marks
      cases mark <;> simp [Alternates, isOpen]
  | some last =>
      have hmarks : marks ≠ [] := by
        intro hnil
        rw [hnil] at hlast
        cases hlast
      have hhead : (marks ++ [mark]).head? = marks.head? :=
        List.head?_append_of_ne_nil marks hmarks
      have hopen : isOpen marks = last := by
        simp [isOpen, hlast]
      unfold Alternates
      rw [hhead, hopen, List.isChain_append]
      cases last <;> cases mark <;> simp [hlast]

/-!
## Logs over many keys
-/

section Logs

variable {event key : Type} [DecidableEq key]
variable {mark : event -> Option (key × Bool)}

def markFor (mark : event -> Option (key × Bool)) (k : key) (e : event) :
    Option Bool :=
  match mark e with
  | some (other, b) => if other = k then some b else none
  | none => none

def marksOf (mark : event -> Option (key × Bool)) (k : key)
    (log : List event) : List Bool :=
  log.filterMap (markFor mark k)

def Alternating (mark : event -> Option (key × Bool)) (log : List event)
    (opened : List key) : Prop :=
  forall k, Alternates (marksOf mark k log) ∧
    (isOpen (marksOf mark k log) = true <-> k ∈ opened)

theorem markFor_self {k : key} {b : Bool} {e : event}
    (h : mark e = some (k, b)) : markFor mark k e = some b := by
  simp [markFor, h]

theorem markFor_of_ne {k other : key} {b : Bool} {e : event}
    (h : mark e = some (other, b)) (hne : k ≠ other) :
    markFor mark k e = none := by
  simp [markFor, h, hne.symm]

theorem marksOf_concat_some {k : key} {e : event} {b : Bool}
    (h : markFor mark k e = some b) (log : List event) :
    marksOf mark k (log ++ [e]) = marksOf mark k log ++ [b] := by
  simp [marksOf, List.filterMap_append, h]

theorem marksOf_concat_none {k : key} {e : event}
    (h : markFor mark k e = none) (log : List event) :
    marksOf mark k (log ++ [e]) = marksOf mark k log := by
  simp [marksOf, List.filterMap_append, h]

namespace Alternating

variable {log : List event} {opened : List key}

theorem nil : Alternating mark [] [] := by
  intro k
  constructor
  · exact alternates_nil
  · simp [marksOf]

theorem unmarked (h : Alternating mark log opened) {e : event}
    (he : mark e = none) : Alternating mark (log ++ [e]) opened := by
  intro k
  have hnone : markFor mark k e = none := by
    simp [markFor, he]
  rw [marksOf_concat_none hnone]
  exact h k

theorem marked (h : Alternating mark log opened) {e : event} {k : key}
    {b : Bool} (he : mark e = some (k, b))
    (hdue : b = !isOpen (marksOf mark k log)) {opened' : List key}
    (hself : b = true <-> k ∈ opened')
    (hothers : forall other, other ≠ k ->
      (other ∈ opened <-> other ∈ opened')) :
    Alternating mark (log ++ [e]) opened' := by
  intro other
  by_cases hother : other = k
  · subst other
    rw [marksOf_concat_some (markFor_self he), isOpen_concat]
    exact ⟨(alternates_concat _ _).mpr ⟨(h k).left, hdue⟩, hself⟩
  · rw [marksOf_concat_none (markFor_of_ne he hother), ← hothers other hother]
    exact h other

theorem opening (h : Alternating mark log opened) {e : event} {k : key}
    (he : mark e = some (k, true)) (hk : k ∉ opened) :
    Alternating mark (log ++ [e]) (k :: opened) := by
  have hclosed : isOpen (marksOf mark k log) ≠ true := by
    intro hopen
    exact hk ((h k).right.mp hopen)
  apply h.marked he
  · simpa using hclosed
  · simp
  · intro other hother
    simp [hother]

theorem closing (h : Alternating mark log opened) {e : event} {k : key}
    (he : mark e = some (k, false)) (hk : k ∈ opened) :
    Alternating mark (log ++ [e]) (opened.filter fun other => other ≠ k) := by
  apply h.marked he
  · rw [(h k).right.mpr hk]
    rfl
  · simp
  · intro other hother
    simp [hother]

theorem not_alternates_of_closing (h : Alternating mark log opened) {e : event}
    {k : key} (he : mark e = some (k, false)) (hk : k ∉ opened) :
    ¬ Alternates (marksOf mark k (log ++ [e])) := by
  rw [marksOf_concat_some (markFor_self he), alternates_concat]
  intro hboth
  have hopen : isOpen (marksOf mark k log) = true := by
    simpa using hboth.right
  exact hk ((h k).right.mp hopen)

theorem not_alternates_of_opening (h : Alternating mark log opened) {e : event}
    {k : key} (he : mark e = some (k, true)) (hk : k ∈ opened) :
    ¬ Alternates (marksOf mark k (log ++ [e])) := by
  rw [marksOf_concat_some (markFor_self he), alternates_concat]
  intro hboth
  rw [(h k).right.mpr hk] at hboth
  cases hboth.right

end Alternating

/-!
## Logs that go on
-/

/-- The event opens a key that is not open, or it closes one that is. -/
def Admits (mark : event -> Option (key × Bool)) (opened : List key)
    (e : event) : Prop :=
  match mark e with
  | some (k, true) => k ∉ opened
  | some (k, false) => k ∈ opened
  | none => True

def openNext (mark : event -> Option (key × Bool)) (opened : List key)
    (e : event) : List key :=
  match mark e with
  | some (k, true) => k :: opened
  | some (k, false) => opened.filter fun other => other ≠ k
  | none => opened

/-- Each of the events is admitted after those before it. -/
def Fits (mark : event -> Option (key × Bool)) :
    List key -> List event -> Prop
  | _, [] => True
  | opened, e :: rest =>
      Admits mark opened e ∧ Fits mark (openNext mark opened e) rest

theorem alternates_of_append {marks more : List Bool}
    (h : Alternates (marks ++ more)) : Alternates marks := by
  induction more using List.reverseRecOn with
  | nil =>
      rw [List.append_nil] at h
      exact h
  | append_singleton more last ih =>
      rw [← List.append_assoc] at h
      exact ih ((alternates_concat _ _).mp h).left

theorem alternates_marksOf_of_append {k : key} {log more : List event}
    (h : Alternates (marksOf mark k (log ++ more))) :
    Alternates (marksOf mark k log) := by
  rw [marksOf, List.filterMap_append] at h
  exact alternates_of_append h

namespace Alternating

variable {log : List event} {opened : List key}

theorem next (h : Alternating mark log opened) {e : event}
    (he : Admits mark opened e) :
    Alternating mark (log ++ [e]) (openNext mark opened e) := by
  unfold Admits at he
  unfold openNext
  cases hmark : mark e with
  | none => exact h.unmarked hmark
  | some opening =>
      rcases opening with ⟨k, b⟩
      rw [hmark] at he
      cases b with
      | true => exact h.opening hmark he
      | false => exact h.closing hmark he

theorem not_alternates_of_not_admits (h : Alternating mark log opened)
    {e : event} (he : ¬ Admits mark opened e) :
    exists k, ¬ Alternates (marksOf mark k (log ++ [e])) := by
  unfold Admits at he
  cases hmark : mark e with
  | none =>
      rw [hmark] at he
      exact absurd trivial he
  | some opening =>
      rcases opening with ⟨k, b⟩
      rw [hmark] at he
      cases b with
      | true =>
          exact ⟨k, h.not_alternates_of_opening hmark (not_not.mp he)⟩
      | false => exact ⟨k, h.not_alternates_of_closing hmark he⟩

theorem append (h : Alternating mark log opened) {events : List event}
    (hfits : Fits mark opened events) :
    Alternating mark (log ++ events) (events.foldl (openNext mark) opened) := by
  induction events generalizing log opened with
  | nil =>
      rw [List.append_nil]
      exact h
  | cons e rest ih =>
      have hrest := ih (h.next hfits.left) hfits.right
      rw [List.append_assoc] at hrest
      exact hrest

theorem alternates_append_iff (h : Alternating mark log opened)
    (events : List event) :
    (forall k, Alternates (marksOf mark k (log ++ events))) <->
      Fits mark opened events := by
  constructor
  · intro halternates
    induction events generalizing log opened with
    | nil => trivial
    | cons e rest ih =>
        have hadmits : Admits mark opened e := by
          by_contra hnot
          rcases h.not_alternates_of_not_admits hnot with ⟨k, hk⟩
          apply hk
          have hall := halternates k
          rw [List.append_cons] at hall
          exact alternates_marksOf_of_append hall
        refine ⟨hadmits, ih (h.next hadmits) ?_⟩
        intro k
        rw [← List.append_cons]
        exact halternates k
  · intro hfits k
    exact (h.append hfits k).left

theorem of_mem_iff (h : Alternating mark log opened) {opened' : List key}
    (hmem : forall k, k ∈ opened <-> k ∈ opened') :
    Alternating mark log opened' := by
  intro k
  rw [← hmem]
  exact h k

end Alternating

/-!
## Batches

Many keys are opened one after another, or many are closed.
-/

section Batches

variable {keyOf : event -> key} {events : List event} {opened : List key}

theorem fits_append {more : List event} :
    Fits mark opened (events ++ more) <->
      Fits mark opened events ∧
        Fits mark (events.foldl (openNext mark) opened) more := by
  induction events generalizing opened with
  | nil => simp [Fits]
  | cons e rest ih => simp [Fits, ih, and_assoc]

theorem openNext_opening {e : event} {k : key} (h : mark e = some (k, true)) :
    openNext mark opened e = k :: opened := by
  simp [openNext, h]

theorem openNext_closing {e : event} {k : key} (h : mark e = some (k, false)) :
    openNext mark opened e = opened.filter fun other => other ≠ k := by
  simp [openNext, h]

theorem mem_openings
    (hmark : forall e, e ∈ events -> mark e = some (keyOf e, true))
    (k : key) :
    k ∈ events.foldl (openNext mark) opened <->
      k ∈ opened ∨ k ∈ events.map keyOf := by
  induction events generalizing opened with
  | nil => simp
  | cons e rest ih =>
      rw [List.foldl_cons, openNext_opening (hmark e List.mem_cons_self),
        ih fun other hother => hmark other (List.mem_cons_of_mem _ hother),
        List.map_cons, List.mem_cons, List.mem_cons]
      tauto

theorem mem_closings
    (hmark : forall e, e ∈ events -> mark e = some (keyOf e, false))
    (k : key) :
    k ∈ events.foldl (openNext mark) opened <->
      k ∈ opened ∧ k ∉ events.map keyOf := by
  induction events generalizing opened with
  | nil => simp
  | cons e rest ih =>
      rw [List.foldl_cons, openNext_closing (hmark e List.mem_cons_self),
        ih fun other hother => hmark other (List.mem_cons_of_mem _ hother),
        List.map_cons, List.mem_cons, List.mem_filter, decide_eq_true_eq]
      tauto

theorem fits_openings
    (hmark : forall e, e ∈ events -> mark e = some (keyOf e, true))
    (hnodup : (events.map keyOf).Nodup)
    (hnew : forall k, k ∈ events.map keyOf -> k ∉ opened) :
    Fits mark opened events := by
  induction events generalizing opened with
  | nil => trivial
  | cons e rest ih =>
      have he := hmark e List.mem_cons_self
      rw [List.map_cons, List.nodup_cons] at hnodup
      constructor
      · simpa [Admits, he] using hnew (keyOf e) List.mem_cons_self
      · have hrest := fun other hother =>
          hmark other (List.mem_cons_of_mem e hother)
        apply ih hrest hnodup.right
        intro k hk
        rw [openNext_opening he, List.mem_cons]
        intro hopen
        rcases hopen with hsame | hopen
        · rw [hsame] at hk
          exact hnodup.left hk
        · exact hnew k (List.mem_cons_of_mem _ hk) hopen

theorem fits_closings
    (hmark : forall e, e ∈ events -> mark e = some (keyOf e, false))
    (hnodup : (events.map keyOf).Nodup)
    (hopened : forall k, k ∈ events.map keyOf -> k ∈ opened) :
    Fits mark opened events := by
  induction events generalizing opened with
  | nil => trivial
  | cons e rest ih =>
      have he := hmark e List.mem_cons_self
      rw [List.map_cons, List.nodup_cons] at hnodup
      constructor
      · simpa [Admits, he] using hopened (keyOf e) List.mem_cons_self
      · have hrest := fun other hother =>
          hmark other (List.mem_cons_of_mem e hother)
        apply ih hrest hnodup.right
        intro k hk
        rw [openNext_closing he, List.mem_filter, decide_eq_true_eq]
        constructor
        · exact hopened k (List.mem_cons_of_mem _ hk)
        · intro hsame
          rw [hsame] at hk
          exact hnodup.left hk

end Batches

end Logs

end Foundation
