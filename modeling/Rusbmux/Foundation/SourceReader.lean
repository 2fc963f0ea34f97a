import Rusbmux.Foundation.ByteReader

/-!
# Readers of a source that may wait

A source gives its bytes by filling buffers, and once it has no more of them it
either waits for ever or fails with an error of its own.  A reader of such a
source follows a reader of the bytes if it returns the same values and the same
errors up to the end of the bytes, where it ends as the source does.
-/

namespace Foundation

inductive SourceOutcome (source error value : Type) where
  | ok (value : value) (rest : source)
  | error (err : error) (rest : source)
  | waits
  | panicked

structure SourceReader (source error value : Type) where
  run : source -> SourceOutcome source error value

namespace SourceReader

variable {source error alpha beta : Type}

instance : Monad (SourceReader source error) where
  pure v := { run := fun s => .ok v s }
  bind r f :=
    { run := fun s =>
        match r.run s with
        | .ok v rest => (f v).run rest
        | .error e rest => .error e rest
        | .waits => .waits
        | .panicked => .panicked }

def throw (e : error) : SourceReader source error alpha where
  run := fun s => .error e s

def ofExcept : Except error alpha -> SourceReader source error alpha
  | .ok v => pure v
  | .error e => throw e

def orPanic : Option alpha -> SourceReader source error alpha
  | some v => pure v
  | none => { run := fun _ => .panicked }

/-!
## Following a reader of the bytes
-/

/--
What a source stands for: the bytes that it still gives, what a reader of bytes
reports at their end, and the error of the source there, if it has one.  These
errors are told from those of the readers themselves.
-/
structure View (source error : Type) where
  holds : source -> List UInt8 -> Prop
  ends : error -> Bool
  ending : { e : error // ends e = true }
  last : Option { e : error // ends e = true }

inductive Agrees (V : View source error) :
    SourceOutcome source error alpha -> Outcome error alpha -> Prop where
  | ok {v : alpha} {s : source} {rest : List UInt8} (h : V.holds s rest) :
      Agrees V (.ok v s) (.ok v rest)
  | error {e : error} {s : source} {rest : List UInt8} (he : V.ends e = false)
      (h : V.holds s rest) :
      Agrees V (.error e s) (.error e rest)
  | waits {rest : List UInt8} (h : V.last = none) :
      Agrees V .waits (.error V.ending.val rest)
  | ended {e : { e : error // V.ends e = true }} {s : source}
      {rest : List UInt8} (h : V.last = some e) :
      Agrees V (.error e.val s) (.error V.ending.val rest)
  | panicked : Agrees V .panicked .panicked

def Follows (V : View source error) (c : SourceReader source error alpha)
    (r : Reader error alpha) : Prop :=
  forall s bytes, V.holds s bytes -> Agrees V (c.run s) (r.run bytes)

variable {V : View source error}

theorem follows_pure (v : alpha) :
    Follows V (pure v : SourceReader source error alpha) (pure v) := by
  intro s bytes h
  exact .ok h

theorem follows_throw {e : error} (he : V.ends e = false) :
    Follows V (throw e : SourceReader source error alpha) (Reader.throw e) := by
  intro s bytes h
  exact .error he h

theorem follows_ofExcept {result : Except error alpha}
    (hresult : forall e, result = .error e -> V.ends e = false) :
    Follows V (ofExcept result) (Reader.ofExcept result) := by
  cases result with
  | ok v => exact follows_pure v
  | error e => exact follows_throw (hresult e rfl)

theorem follows_orPanic (result : Option alpha) :
    Follows V (orPanic result) (Reader.orPanic result) := by
  intro s bytes h
  cases result with
  | none => exact .panicked
  | some v => exact .ok h

theorem follows_bind {c : SourceReader source error alpha}
    {r : Reader error alpha} {f : alpha -> SourceReader source error beta}
    {g : alpha -> Reader error beta} (hfirst : Follows V c r)
    (hrest : forall v, Follows V (f v) (g v)) :
    Follows V (c >>= f) (r >>= g) := by
  intro s bytes h
  have hrun := hfirst s bytes h
  rw [Reader.run_bind]
  show Agrees V (match c.run s with
    | .ok v rest => (f v).run rest
    | .error e rest => .error e rest
    | .waits => .waits
    | .panicked => .panicked) _
  generalize c.run s = outcome at hrun ⊢
  generalize r.run bytes = result at hrun ⊢
  cases hrun with
  | ok hholds => exact hrest _ _ _ hholds
  | error he hholds => exact .error he hholds
  | waits hlast => exact .waits hlast
  | ended hlast => exact .ended hlast
  | panicked => exact .panicked

/-!
## Reading again and again
-/

inductive LoopEnd (error : Type) where
  | unfinished
  | waits
  | failed (err : error)
  | panicked
deriving DecidableEq, Repr

def rounds (c : SourceReader source error alpha) (tolerate : error -> Bool) :
    Nat -> source -> List (Except error alpha) × LoopEnd error
  | 0, _ => ([], .unfinished)
  | n + 1, s =>
      match c.run s with
      | .ok v rest =>
          let (results, last) := rounds c tolerate n rest
          (.ok v :: results, last)
      | .error e rest =>
          if tolerate e then
            let (results, last) := rounds c tolerate n rest
            (.error e :: results, last)
          else
            ([], .failed e)
      | .waits => ([], .waits)
      | .panicked => ([], .panicked)

end SourceReader

namespace Reader

variable {error alpha : Type}

open SourceReader (LoopEnd)

def rounds (r : Reader error alpha) (tolerate : error -> Bool) :
    Nat -> List UInt8 -> List (Except error alpha) × LoopEnd error
  | 0, _ => ([], .unfinished)
  | n + 1, s =>
      match r.run s with
      | .ok v rest =>
          let (results, last) := rounds r tolerate n rest
          (.ok v :: results, last)
      | .error e rest =>
          if tolerate e then
            let (results, last) := rounds r tolerate n rest
            (.error e :: results, last)
          else
            ([], .failed e)
      | .panicked => ([], .panicked)

end Reader

namespace SourceReader

variable {source error alpha : Type} {V : View source error}

def View.endOf (V : View source error) : LoopEnd error -> LoopEnd error
  | .failed _ => V.last.elim .waits fun e => .failed e.val
  | e => e

/--
A loop that gives up at the end of the bytes has the results that they have, and
ends as they do or as the source does after them.
-/
theorem rounds_follows {c : SourceReader source error alpha}
    {r : Reader error alpha} (hfollows : Follows V c r) (n : Nat) {s : source}
    {bytes : List UInt8} (h : V.holds s bytes) :
    c.rounds (fun e => !V.ends e) n s =
      Prod.map id V.endOf (r.rounds (fun e => !V.ends e) n bytes) := by
  induction n generalizing s bytes with
  | zero => rfl
  | succ n ih =>
      have hrun := hfollows s bytes h
      unfold SourceReader.rounds Reader.rounds
      generalize c.run s = outcome at hrun ⊢
      generalize r.run bytes = result at hrun ⊢
      cases hrun with
      | ok hholds =>
          simp only [ih hholds]
          rfl
      | error he hholds =>
          simp only [ih hholds, he, Bool.not_false, if_true]
          rfl
      | waits hnone =>
          simp only [V.ending.property, Bool.not_true, Bool.false_eq_true,
            if_false, Prod.map_apply, View.endOf, hnone, Option.elim_none]
          rfl
      | @ended e _ _ hsome =>
          simp only [V.ending.property, e.property, Bool.not_true,
            Bool.false_eq_true, if_false, Prod.map_apply, View.endOf, hsome,
            Option.elim_some]
          rfl
      | panicked => rfl

end SourceReader

end Foundation
