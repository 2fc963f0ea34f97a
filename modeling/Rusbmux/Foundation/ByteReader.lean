import Mathlib.Data.List.Basic
import Mathlib.Tactic.Ring

/-!
# Readers of finite byte streams

A reader takes the bytes that are still to come and either returns a value, or
fails, or stops the program.  In the first two cases it says which bytes it left
in the stream: a failure that leaves bytes behind is not the same as one that
does not, since the caller may go on reading.

The words at the end are the fixed-width integers that framing formats put in
their headers, read from a list of bytes in either byte order.
-/

namespace Foundation

inductive Outcome (error value : Type) where
  | ok (value : value) (rest : List UInt8)
  | error (err : error) (rest : List UInt8)
  | panicked
deriving DecidableEq, Repr

structure Reader (error value : Type) where
  run : List UInt8 -> Outcome error value

namespace Reader

variable {error alpha beta : Type}

instance : Monad (Reader error) where
  pure v := { run := fun s => .ok v s }
  bind r f :=
    { run := fun s =>
        match r.run s with
        | .ok v rest => (f v).run rest
        | .error e rest => .error e rest
        | .panicked => .panicked }

def throw (e : error) : Reader error alpha where
  run := fun s => .error e s

def ofExcept : Except error alpha -> Reader error alpha
  | .ok v => pure v
  | .error e => throw e

def orPanic : Option alpha -> Reader error alpha
  | some v => pure v
  | none => { run := fun _ => .panicked }

/--
Read exactly the given number of bytes.  A stream that ends before that has
been read to its end and reports `ending`.
-/
def readExact (ending : error) (n : Nat) : Reader error (List UInt8) where
  run := fun s =>
    if n <= s.length then .ok (s.take n) (s.drop n) else .error ending []

def remaining : Reader error (List UInt8) where
  run := fun s => .ok s s

/-- Take bytes by indexing, which stops the program past the end. -/
def indexed (n : Nat) : Reader error (List UInt8) where
  run := fun s => if n <= s.length then .ok (s.take n) (s.drop n) else .panicked

/-!
## Composition
-/

@[simp] theorem run_pure (v : alpha) (s : List UInt8) :
    (pure v : Reader error alpha).run s = .ok v s := rfl

theorem run_bind (r : Reader error alpha) (f : alpha -> Reader error beta)
    (s : List UInt8) :
    (r >>= f).run s =
      match r.run s with
      | .ok v rest => (f v).run rest
      | .error e rest => .error e rest
      | .panicked => .panicked := rfl

theorem run_bind_of_ok {r : Reader error alpha} {s rest : List UInt8} {v : alpha}
    (h : r.run s = .ok v rest) (f : alpha -> Reader error beta) :
    (r >>= f).run s = (f v).run rest := by
  rw [run_bind, h]

theorem run_bind_of_error {r : Reader error alpha} {s rest : List UInt8}
    {e : error} (h : r.run s = .error e rest) (f : alpha -> Reader error beta) :
    (r >>= f).run s = .error e rest := by
  rw [run_bind, h]

theorem run_bind_of_panicked {r : Reader error alpha} {s : List UInt8}
    (h : r.run s = .panicked) (f : alpha -> Reader error beta) :
    (r >>= f).run s = .panicked := by
  rw [run_bind, h]

@[simp] theorem run_ofExcept_ok (v : alpha) (s : List UInt8) :
    (ofExcept (.ok v) : Reader error alpha).run s = .ok v s := rfl

@[simp] theorem run_orPanic_some (v : alpha) (s : List UInt8) :
    (orPanic (some v) : Reader error alpha).run s = .ok v s := rfl

theorem run_readExact_of_le {n : Nat} {s : List UInt8} (ending : error)
    (h : n <= s.length) :
    (readExact ending n).run s = .ok (s.take n) (s.drop n) := by
  simp [readExact, h]

theorem run_readExact_of_lt {n : Nat} {s : List UInt8} (ending : error)
    (h : s.length < n) :
    (readExact ending n).run s = .error ending [] := by
  simp [readExact, Nat.not_le.mpr h]

theorem run_readExact_append {n : Nat} {front : List UInt8} (ending : error)
    (h : front.length = n) (back : List UInt8) :
    (readExact ending n).run (front ++ back) = .ok front back := by
  subst h
  rw [run_readExact_of_le ending (by simp), List.take_left, List.drop_left]

@[simp] theorem run_remaining (s : List UInt8) :
    (remaining : Reader error (List UInt8)).run s = .ok s s := rfl

theorem run_indexed_of_le {n : Nat} {s : List UInt8} (h : n <= s.length) :
    (indexed n : Reader error (List UInt8)).run s =
      .ok (s.take n) (s.drop n) := by
  simp [indexed, h]

theorem run_indexed_of_lt {n : Nat} {s : List UInt8} (h : s.length < n) :
    (indexed n : Reader error (List UInt8)).run s = .panicked := by
  simp [indexed, Nat.not_le.mpr h]

/-!
## What a reader accepts
-/

@[simp] theorem run_pure_eq_ok_iff {v w : alpha} {s rest : List UInt8} :
    (pure v : Reader error alpha).run s = .ok w rest <-> v = w ∧ s = rest := by
  rw [run_pure, Outcome.ok.injEq]

@[simp] theorem run_throw_eq_ok_iff {e : error} {w : alpha}
    {s rest : List UInt8} :
    (throw e : Reader error alpha).run s = .ok w rest <-> False := by
  simp [throw]

@[simp] theorem run_orPanic_eq_ok_iff {o : Option alpha} {w : alpha}
    {s rest : List UInt8} :
    (orPanic o : Reader error alpha).run s = .ok w rest <->
      o = some w ∧ s = rest := by
  cases o with
  | none => simp [orPanic]
  | some v => rw [run_orPanic_some, Outcome.ok.injEq, Option.some.injEq]

@[simp] theorem run_readExact_eq_ok_iff {ending : error} {n : Nat}
    {s bytes rest : List UInt8} :
    (readExact ending n).run s = .ok bytes rest <->
      n <= s.length ∧ s.take n = bytes ∧ s.drop n = rest := by
  by_cases h : n <= s.length
  · rw [run_readExact_of_le ending h, Outcome.ok.injEq]
    exact (and_iff_right h).symm
  · rw [run_readExact_of_lt ending (Nat.not_le.mp h)]
    simp [h]

@[simp] theorem run_indexed_eq_ok_iff {n : Nat} {s bytes rest : List UInt8} :
    (indexed n : Reader error (List UInt8)).run s = .ok bytes rest <->
      n <= s.length ∧ s.take n = bytes ∧ s.drop n = rest := by
  by_cases h : n <= s.length
  · rw [run_indexed_of_le h, Outcome.ok.injEq]
    exact (and_iff_right h).symm
  · rw [run_indexed_of_lt (Nat.not_le.mp h)]
    simp [h]

theorem run_bind_eq_ok_iff {r : Reader error alpha}
    {f : alpha -> Reader error beta} {s rest : List UInt8} {w : beta} :
    (r >>= f).run s = .ok w rest <->
      exists v mid, r.run s = .ok v mid ∧ (f v).run mid = .ok w rest := by
  constructor
  · intro h
    rw [run_bind] at h
    cases hr : r.run s with
    | ok v mid =>
        rw [hr] at h
        exact ⟨v, mid, rfl, h⟩
    | error e mid =>
        rw [hr] at h
        cases h
    | panicked =>
        rw [hr] at h
        cases h
  · intro h
    rcases h with ⟨v, mid, hv, hw⟩
    rw [run_bind_of_ok hv]
    exact hw

def Consumes (r : Reader error alpha) (s : List UInt8) (v : alpha)
    (k : Nat) : Prop :=
  k <= s.length ∧ r.run s = .ok v (s.drop k)

end Reader

/-!
## Words
-/

def leNat : List UInt8 -> Nat
  | [] => 0
  | b :: rest => b.toNat + 256 * leNat rest

def beNat (bytes : List UInt8) : Nat :=
  leNat bytes.reverse

def leBytes : Nat -> Nat -> List UInt8
  | 0, _ => []
  | width + 1, n => .ofNat n :: leBytes width (n / 256)

theorem leBytes_length (width n : Nat) : (leBytes width n).length = width := by
  induction width generalizing n with
  | zero => rfl
  | succ width ih => rw [leBytes, List.length_cons, ih]

theorem leNat_leBytes {width n : Nat} (h : n < 256 ^ width) :
    leNat (leBytes width n) = n := by
  induction width generalizing n with
  | zero =>
      have hn : n = 0 := by simpa using h
      rw [hn]
      rfl
  | succ width ih =>
      have hrest : n / 256 < 256 ^ width := by
        rw [pow_succ] at h
        omega
      rw [leBytes, leNat, ih hrest, UInt8.toNat_ofNat']
      change n % 256 + 256 * (n / 256) = n
      exact Nat.mod_add_div n 256

def beBytes (width n : Nat) : List UInt8 :=
  (leBytes width n).reverse

theorem beBytes_length (width n : Nat) : (beBytes width n).length = width := by
  rw [beBytes, List.length_reverse, leBytes_length]

theorem leNat_lt (bytes : List UInt8) : leNat bytes < 256 ^ bytes.length := by
  induction bytes with
  | nil => simp [leNat]
  | cons b rest ih =>
      have hb : b.toNat < 256 := b.toNat_lt
      rw [leNat, List.length_cons, pow_succ]
      omega

theorem beNat_lt (bytes : List UInt8) : beNat bytes < 256 ^ bytes.length := by
  simpa [beNat] using leNat_lt bytes.reverse

def field (bytes : List UInt8) (offset width : Nat) : List UInt8 :=
  (bytes.drop offset).take width

theorem field_length_le (bytes : List UInt8) (offset width : Nat) :
    (field bytes offset width).length <= width := by
  simp [field]

theorem field_take {bytes : List UInt8} {offset width n : Nat}
    (h : offset + width <= n) :
    field (bytes.take n) offset width = field bytes offset width := by
  rw [field, field, List.drop_take, List.take_take, Nat.min_eq_left (by omega)]

theorem field_append_of_le {front : List UInt8} {offset width : Nat}
    (h : offset + width <= front.length) (back : List UInt8) :
    field (front ++ back) offset width = field front offset width := by
  rw [field, field, List.drop_append_of_le_length (by omega),
    List.take_append_of_le_length (by simp; omega)]

theorem leNat_field_lt (bytes : List UInt8) (offset width : Nat) :
    leNat (field bytes offset width) < 256 ^ width := by
  apply Nat.lt_of_lt_of_le (leNat_lt _)
  exact Nat.pow_le_pow_right (by decide) (field_length_le bytes offset width)

theorem beNat_field_lt (bytes : List UInt8) (offset width : Nat) :
    beNat (field bytes offset width) < 256 ^ width := by
  apply Nat.lt_of_lt_of_le (beNat_lt _)
  exact Nat.pow_le_pow_right (by decide) (field_length_le bytes offset width)

end Foundation
