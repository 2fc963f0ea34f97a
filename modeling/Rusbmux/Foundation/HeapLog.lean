import Mathlib.Data.List.Induction

/-!
# What is done to allocated objects

A program that frees its memory by hand leaves a log of what it did to its
objects.  The log is sound if every object is allocated once, and used and freed
only between its allocation and the first time it is freed.
-/

namespace Foundation

inductive HeapEvent (obj : Type) where
  | alloc (o : obj)
  | use (o : obj)
  | free (o : obj)
deriving DecidableEq, Repr

namespace HeapLog

variable {obj : Type}

/-- The object was allocated and not freed. -/
def Live (log : List (HeapEvent obj)) (o : obj) : Prop :=
  .alloc o ∈ log ∧ .free o ∉ log

def Allowed (log : List (HeapEvent obj)) : HeapEvent obj -> Prop
  | .alloc o => .alloc o ∉ log
  | .use o => Live log o
  | .free o => Live log o

def SoundFrom : List (HeapEvent obj) -> List (HeapEvent obj) -> Prop
  | _, [] => True
  | log, e :: rest => Allowed log e ∧ SoundFrom (log ++ [e]) rest

def Sound (log : List (HeapEvent obj)) : Prop :=
  SoundFrom [] log

instance [DecidableEq obj] (log : List (HeapEvent obj)) (o : obj) :
    Decidable (Live log o) :=
  inferInstanceAs (Decidable (_ ∧ _))

instance [DecidableEq obj] (log : List (HeapEvent obj)) (e : HeapEvent obj) :
    Decidable (Allowed log e) :=
  match e with
  | .alloc o => inferInstanceAs (Decidable (.alloc o ∉ log))
  | .use o => inferInstanceAs (Decidable (Live log o))
  | .free o => inferInstanceAs (Decidable (Live log o))

instance decidableSoundFrom [DecidableEq obj] :
    forall log later : List (HeapEvent obj), Decidable (SoundFrom log later)
  | _, [] => .isTrue trivial
  | log, e :: rest =>
      have := decidableSoundFrom (log ++ [e]) rest
      inferInstanceAs (Decidable (Allowed log e ∧ SoundFrom (log ++ [e]) rest))

instance [DecidableEq obj] (log : List (HeapEvent obj)) :
    Decidable (Sound log) :=
  inferInstanceAs (Decidable (SoundFrom [] log))

@[simp]
theorem soundFrom_nil (log : List (HeapEvent obj)) : SoundFrom log [] :=
  trivial

@[simp]
theorem soundFrom_cons (log : List (HeapEvent obj)) (e : HeapEvent obj)
    (rest : List (HeapEvent obj)) :
    SoundFrom log (e :: rest) <->
      Allowed log e ∧ SoundFrom (log ++ [e]) rest :=
  Iff.rfl

theorem soundFrom_append (log first later : List (HeapEvent obj)) :
    SoundFrom log (first ++ later) <->
      SoundFrom log first ∧ SoundFrom (log ++ first) later := by
  induction first generalizing log with
  | nil => simp
  | cons e first ih =>
      rw [List.cons_append, soundFrom_cons, soundFrom_cons, ih, and_assoc,
        List.append_assoc]
      rfl

theorem sound_append (log later : List (HeapEvent obj)) :
    Sound (log ++ later) <-> Sound log ∧ SoundFrom log later :=
  soundFrom_append [] log later

theorem Sound.count_free_le_one [DecidableEq obj] {log : List (HeapEvent obj)}
    (h : Sound log) (o : obj) : log.count (.free o) <= 1 := by
  induction log using List.reverseRecOn with
  | nil => simp
  | append_singleton log e ih =>
      rcases (sound_append log [e]).mp h with ⟨hlog, hlast⟩
      rw [List.count_append, List.count_singleton]
      by_cases he : e = .free o
      · subst e
        have hlive : Live log o := ((soundFrom_cons log _ []).mp hlast).left
        rw [List.count_eq_zero.mpr hlive.right]
        simp
      · rw [if_neg (by simpa using he)]
        exact ih hlog

/-!
## Allocations and frees alone
-/

def HeapEvent.isUse : HeapEvent obj -> Bool
  | .use _ => true
  | .alloc _ | .free _ => false

def managed (log : List (HeapEvent obj)) : List (HeapEvent obj) :=
  log.filter fun e => ¬ HeapEvent.isUse e

@[simp]
theorem alloc_mem_managed (log : List (HeapEvent obj)) (o : obj) :
    .alloc o ∈ managed log <-> .alloc o ∈ log := by
  simp [managed, HeapEvent.isUse]

@[simp]
theorem free_mem_managed (log : List (HeapEvent obj)) (o : obj) :
    .free o ∈ managed log <-> .free o ∈ log := by
  simp [managed, HeapEvent.isUse]

theorem count_free_managed [DecidableEq obj] (log : List (HeapEvent obj))
    (o : obj) : (managed log).count (.free o) = log.count (.free o) := by
  apply List.count_filter
  rfl

theorem managed_append (log later : List (HeapEvent obj)) :
    managed (log ++ later) = managed log ++ managed later :=
  List.filter_append ..

theorem allowed_managed (log : List (HeapEvent obj)) (e : HeapEvent obj) :
    Allowed (managed log) e <-> Allowed log e := by
  cases e <;> simp [Allowed, Live]

theorem soundFrom_managed {log later : List (HeapEvent obj)}
    (h : SoundFrom log later) : SoundFrom (managed log) (managed later) := by
  induction later generalizing log with
  | nil => exact soundFrom_nil _
  | cons e rest ih =>
      rcases (soundFrom_cons log e rest).mp h with ⟨hfirst, hrest⟩
      have hlater := ih hrest
      rw [managed_append] at hlater
      cases e with
      | use o =>
          rw [show managed [HeapEvent.use o] = [] from rfl,
            List.append_nil] at hlater
          exact hlater
      | alloc o => exact ⟨(allowed_managed log _).mpr hfirst, hlater⟩
      | free o => exact ⟨(allowed_managed log _).mpr hfirst, hlater⟩

end HeapLog
end Foundation
