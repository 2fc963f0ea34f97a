import Mathlib.Data.List.Basic

/-!
# Computations that write messages

A computation that writes messages one after another and then returns a value or
fails.  What was written before a failure stays written.
-/

namespace Foundation

structure Transcript (message error value : Type) where
  written : List message
  result : Except error value

namespace Transcript

variable {message error error' alpha beta : Type}

instance : Monad (Transcript message error) where
  pure v := { written := [], result := .ok v }
  bind t f :=
    match t.result with
    | .ok v =>
        { written := t.written ++ (f v).written, result := (f v).result }
    | .error e => { written := t.written, result := .error e }

def send (m : message) : Transcript message error Unit where
  written := [m]
  result := .ok ()

def lift (r : Except error alpha) : Transcript message error alpha where
  written := []
  result := r

def fail (e : error) : Transcript message error alpha :=
  lift (.error e)

def attempt (t : Transcript message error alpha) :
    Transcript message error' (Except error alpha) where
  written := t.written
  result := .ok t.result

def mapError (f : error -> error') (t : Transcript message error alpha) :
    Transcript message error' alpha where
  written := t.written
  result := t.result.mapError f

/-!
## What is written
-/

@[simp] theorem written_attempt_bind (t : Transcript message error alpha)
    (f : Except error alpha -> Transcript message error' beta) :
    (attempt t >>= f).written = t.written ++ (f t.result).written := rfl

theorem written_bind (t : Transcript message error alpha)
    (f : alpha -> Transcript message error beta) :
    (t >>= f).written =
      match t.result with
      | .ok v => t.written ++ (f v).written
      | .error _ => t.written := by
  rcases t with ⟨written, result⟩
  cases result <;> rfl

theorem result_bind_of_ok {t : Transcript message error alpha} {a : alpha}
    (f : alpha -> Transcript message error beta) (h : t.result = .ok a) :
    (t >>= f).result = (f a).result := by
  rcases t with ⟨written, result⟩
  cases h
  rfl

theorem result_bind_eq_ok {t : Transcript message error alpha}
    {f : alpha -> Transcript message error beta} {v : beta}
    (h : (t >>= f).result = .ok v) :
    exists a, t.result = .ok a ∧ (f a).result = .ok v := by
  rcases t with ⟨written, result⟩
  cases result with
  | ok a => exact ⟨a, rfl, h⟩
  | error e => cases h

theorem lift_ok_bind (v : alpha) (f : alpha -> Transcript message error beta) :
    (lift (.ok v) >>= f) = f v := rfl

/-!
## A part of the messages
-/

def keep (p : message -> Bool) (t : Transcript message error alpha) :
    Transcript message error alpha where
  written := t.written.filter p
  result := t.result

theorem keep_bind (p : message -> Bool) (t : Transcript message error alpha)
    (f : alpha -> Transcript message error beta) :
    keep p (t >>= f) = keep p t >>= fun v => keep p (f v) := by
  rcases t with ⟨written, result⟩
  cases result with
  | error e => rfl
  | ok v =>
      show Transcript.mk ((written ++ (f v).written).filter p) (f v).result = _
      rw [List.filter_append]
      rfl

/-!
## Computations that write only messages with a property
-/

def WritesOnly (P : message -> Prop) (t : Transcript message error alpha) :
    Prop :=
  forall m, m ∈ t.written -> P m

namespace WritesOnly

variable {P : message -> Prop}

theorem pure (v : alpha) :
    WritesOnly P (pure v : Transcript message error alpha) := by
  intro m hm
  cases hm

theorem send {m : message} (h : P m) :
    WritesOnly P (send m : Transcript message error Unit) := by
  intro n hn
  rw [List.mem_singleton.mp hn]
  exact h

theorem lift (r : Except error alpha) :
    WritesOnly P (lift r : Transcript message error alpha) := by
  intro m hm
  cases hm

theorem fail (e : error) :
    WritesOnly P (fail e : Transcript message error alpha) :=
  lift _

theorem bind {t : Transcript message error alpha}
    {f : alpha -> Transcript message error beta} (ht : WritesOnly P t)
    (hf : forall v, WritesOnly P (f v)) : WritesOnly P (t >>= f) := by
  intro m hm
  rw [written_bind] at hm
  cases hresult : t.result with
  | error e =>
      rw [hresult] at hm
      exact ht m hm
  | ok v =>
      rw [hresult] at hm
      rcases List.mem_append.mp hm with hm | hm
      · exact ht m hm
      · exact hf v m hm

theorem attempt {t : Transcript message error alpha} (h : WritesOnly P t) :
    WritesOnly P
      (attempt t : Transcript message error' (Except error alpha)) :=
  h

theorem mapError {t : Transcript message error alpha} (f : error -> error')
    (h : WritesOnly P t) : WritesOnly P (t.mapError f) :=
  h

end WritesOnly

end Transcript

end Foundation
