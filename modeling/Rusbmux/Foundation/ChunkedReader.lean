import Rusbmux.Foundation.ByteReader

/-!
# Readers of streams that arrive in chunks

One read of a source returns a part of the next chunk, so a reader that wants an
exact number of bytes reads in a loop.  Such a reader simulates a reader of the
whole stream if the two agree on every split of the stream into chunks; the
rules below show this for a reader from its parts.
-/

namespace Foundation

/-- What one read can return; an empty read would be the end of the stream. -/
abbrev Chunk := { bytes : List UInt8 // bytes ≠ [] }

namespace Chunk

def bytes (source : List Chunk) : List UInt8 :=
  source.flatMap Subtype.val

theorem bytes_cons (c : Chunk) (source : List Chunk) :
    bytes (c :: source) = c.val ++ bytes source := rfl

def leave (c : Chunk) (n : Nat) (h : n < c.val.length) : Chunk :=
  ⟨c.val.drop n, List.drop_eq_nil_iff.not.mpr (Nat.not_le.mpr h)⟩

/--
The loop of reads that fills a buffer of the given size, or `none` if the stream
ends before.
-/
def fill : List Chunk -> Nat -> Option (List UInt8 × List Chunk)
  | source, 0 => some ([], source)
  | [], _ + 1 => none
  | c :: source, n + 1 =>
      if h : n + 1 < c.val.length then
        some (c.val.take (n + 1), c.leave (n + 1) h :: source)
      else
        (fill source (n + 1 - c.val.length)).map fun filled =>
          (c.val ++ filled.fst, filled.snd)

theorem fill_eq_some {source rest : List Chunk} {n : Nat}
    {filled : List UInt8} (h : fill source n = some (filled, rest)) :
    filled.length = n ∧ filled ++ bytes rest = bytes source := by
  induction source generalizing n filled rest with
  | nil =>
      cases n with
      | zero =>
          cases h
          exact ⟨rfl, rfl⟩
      | succ n => cases h
  | cons c source ih =>
      cases n with
      | zero =>
          cases h
          exact ⟨rfl, rfl⟩
      | succ n =>
          unfold fill at h
          split at h
          · rename_i hlt
            cases h
            constructor
            · exact List.length_take_of_le (Nat.le_of_lt hlt)
            · rw [bytes_cons, bytes_cons, ← List.append_assoc]
              exact congrArg (· ++ bytes source)
                (List.take_append_drop (n + 1) c.val)
          · rename_i hle
            rcases Option.map_eq_some_iff.mp h with ⟨⟨more, rest'⟩, hmore, heq⟩
            cases heq
            rcases ih hmore with ⟨hlength, hbytes⟩
            constructor
            · rw [List.length_append, hlength]
              omega
            · rw [bytes_cons, List.append_assoc, hbytes]

theorem fill_eq_none {source : List Chunk} {n : Nat}
    (h : fill source n = none) : (bytes source).length < n := by
  induction source generalizing n with
  | nil =>
      cases n with
      | zero => cases h
      | succ n => exact Nat.succ_pos n
  | cons c source ih =>
      cases n with
      | zero => cases h
      | succ n =>
          unfold fill at h
          split at h
          · cases h
          · rename_i hle
            have hrest := ih (Option.map_eq_none_iff.mp h)
            rw [bytes_cons, List.length_append]
            omega

end Chunk

inductive ChunkedOutcome (error value : Type) where
  | ok (value : value) (rest : List Chunk)
  | error (err : error) (rest : List Chunk)
  | panicked

def ChunkedOutcome.joined {error value : Type} :
    ChunkedOutcome error value -> Outcome error value
  | .ok v rest => .ok v (Chunk.bytes rest)
  | .error e rest => .error e (Chunk.bytes rest)
  | .panicked => .panicked

structure ChunkedReader (error value : Type) where
  run : List Chunk -> ChunkedOutcome error value

namespace ChunkedReader

variable {error alpha beta : Type}

instance : Monad (ChunkedReader error) where
  pure v := { run := fun source => .ok v source }
  bind r f :=
    { run := fun source =>
        match r.run source with
        | .ok v rest => (f v).run rest
        | .error e rest => .error e rest
        | .panicked => .panicked }

def throw (e : error) : ChunkedReader error alpha where
  run := fun source => .error e source

def ofExcept : Except error alpha -> ChunkedReader error alpha
  | .ok v => pure v
  | .error e => throw e

def orPanic : Option alpha -> ChunkedReader error alpha
  | some v => pure v
  | none => { run := fun _ => .panicked }

def readExact (ending : error) (n : Nat) :
    ChunkedReader error (List UInt8) where
  run := fun source =>
    match Chunk.fill source n with
    | some (filled, rest) => .ok filled rest
    | none => .error ending []

/-!
## Simulation
-/

def Simulates (c : ChunkedReader error alpha) (r : Reader error alpha) : Prop :=
  forall source, (c.run source).joined = r.run (Chunk.bytes source)

theorem simulates_pure (v : alpha) :
    Simulates (pure v : ChunkedReader error alpha) (pure v) := by
  intro source
  rfl

theorem simulates_throw (e : error) :
    Simulates (throw e : ChunkedReader error alpha) (Reader.throw e) := by
  intro source
  rfl

theorem simulates_ofExcept (result : Except error alpha) :
    Simulates (ofExcept result) (Reader.ofExcept result) := by
  cases result with
  | ok v => exact simulates_pure v
  | error e => exact simulates_throw e

theorem simulates_orPanic (result : Option alpha) :
    Simulates (orPanic result : ChunkedReader error alpha)
      (Reader.orPanic result) := by
  intro source
  cases result with
  | none => rfl
  | some v => rfl

theorem simulates_bind {c : ChunkedReader error alpha}
    {r : Reader error alpha} {f : alpha -> ChunkedReader error beta}
    {g : alpha -> Reader error beta} (hfirst : Simulates c r)
    (hrest : forall v, Simulates (f v) (g v)) :
    Simulates (c >>= f) (r >>= g) := by
  intro source
  have hrun := hfirst source
  rw [Reader.run_bind, ← hrun]
  show ChunkedOutcome.joined (match c.run source with
    | .ok v rest => (f v).run rest
    | .error e rest => .error e rest
    | .panicked => .panicked) = _
  cases c.run source with
  | ok v rest => exact hrest v rest
  | error e rest => rfl
  | panicked => rfl

theorem simulates_readExact (ending : error) (n : Nat) :
    Simulates (readExact ending n) (Reader.readExact ending n) := by
  intro source
  unfold readExact
  cases hfill : Chunk.fill source n with
  | none =>
      simp only [hfill]
      exact (Reader.run_readExact_of_lt ending (Chunk.fill_eq_none hfill)).symm
  | some filled =>
      rcases filled with ⟨filled, rest⟩
      rcases Chunk.fill_eq_some hfill with ⟨hlength, hbytes⟩
      simp only [hfill]
      rw [← hbytes, Reader.run_readExact_of_le ending (by
        rw [List.length_append, hlength]
        exact Nat.le_add_right _ _)]
      subst hlength
      rw [List.take_left, List.drop_left]
      rfl

/-!
## Reading one value after another
-/

/--
The values that a number of calls return, up to the first call that returns
none, and what that call does.
-/
def readMany (c : ChunkedReader error alpha) :
    Nat -> List Chunk -> List alpha × Option (ChunkedOutcome error alpha)
  | 0, _ => ([], none)
  | n + 1, source =>
      match c.run source with
      | .ok v rest =>
          match readMany c n rest with
          | (values, last) => (v :: values, last)
      | .error e rest => ([], some (.error e rest))
      | .panicked => ([], some .panicked)

theorem joined_eq_ok {outcome : ChunkedOutcome error alpha} {v : alpha}
    {rest : List UInt8} (h : outcome.joined = .ok v rest) :
    exists source, outcome = .ok v source ∧ Chunk.bytes source = rest := by
  cases outcome with
  | ok w source =>
      cases h
      exact ⟨source, rfl, rfl⟩
  | error e source => cases h
  | panicked => cases h

theorem joined_eq_error {outcome : ChunkedOutcome error alpha} {e : error}
    {rest : List UInt8} (h : outcome.joined = .error e rest) :
    exists source, outcome = .error e source ∧ Chunk.bytes source = rest := by
  cases outcome with
  | ok w source => cases h
  | error e source =>
      cases h
      exact ⟨source, rfl, rfl⟩
  | panicked => cases h

theorem bytes_eq_nil {source : List Chunk} (h : Chunk.bytes source = []) :
    source = [] := by
  cases source with
  | nil => rfl
  | cons c source =>
      rw [Chunk.bytes_cons] at h
      exact absurd (List.append_eq_nil_iff.mp h).left c.property

/--
A stream of encoded values is read back value by value, in whatever chunks it
arrives, if each value is read off the front of what follows it.
-/
theorem readMany_flatMap {c : ChunkedReader error alpha}
    {r : Reader error alpha} (hsimulates : Simulates c r) {ending : error}
    (hend : r.run [] = .error ending []) {encode : alpha -> List UInt8}
    {values : List alpha}
    (hread : forall v, v ∈ values -> forall later,
      r.run (encode v ++ later) = .ok v later)
    {source : List Chunk}
    (hsource : Chunk.bytes source = values.flatMap encode)
    {n : Nat} (hn : values.length < n) :
    readMany c n source = (values, some (.error ending [])) := by
  induction values generalizing source n with
  | nil =>
      cases n with
      | zero => cases hn
      | succ n =>
          have hrun := hsimulates source
          rw [hsource] at hrun
          rcases joined_eq_error (hrun.trans hend) with ⟨rest, hout, hrest⟩
          unfold readMany
          rw [hout, bytes_eq_nil hrest]
  | cons v values ih =>
      cases n with
      | zero => cases hn
      | succ n =>
          have hrun := hsimulates source
          rw [hsource, List.flatMap_cons,
            hread v List.mem_cons_self (values.flatMap encode)] at hrun
          rcases joined_eq_ok hrun with ⟨rest, hout, hrest⟩
          have hmore := ih
            (fun w hw => hread w (List.mem_cons_of_mem v hw)) hrest
            (Nat.lt_of_succ_lt_succ hn)
          unfold readMany
          simp only [hout, hmore]

end ChunkedReader

end Foundation
