import Rusbmux.Foundation.ChunkedReader

/-!
# Reading until a value is found

A loop that reads values off a stream and drops them until it finds one it was
waiting for.  Errors end the loop.  The number of rounds is given in advance; a
loop whose reads take at least a byte has enough of them if there is one for
every byte.
-/

namespace Foundation
namespace ChunkedReader

variable {error alpha beta : Type}

def readUntil (c : ChunkedReader error alpha) (pick : alpha -> Option beta) :
    Nat -> List Chunk -> Option (ChunkedOutcome error beta)
  | 0, _ => none
  | n + 1, source =>
      match c.run source with
      | .ok v rest =>
          match pick v with
          | some b => some (.ok b rest)
          | none => readUntil c pick n rest
      | .error e rest => some (.error e rest)
      | .panicked => some .panicked

variable {c : ChunkedReader error alpha} {r : Reader error alpha}
  {pick : alpha -> Option beta}

theorem readUntil_of_none {v : alpha} {source rest : List Chunk}
    (hrun : c.run source = .ok v rest) (hpick : pick v = none) (n : Nat) :
    readUntil c pick (n + 1) source = readUntil c pick n rest := by
  rw [readUntil, hrun]
  simp only [hpick]

theorem readUntil_of_some {v : alpha} {b : beta} {source rest : List Chunk}
    (hrun : c.run source = .ok v rest) (hpick : pick v = some b) (n : Nat) :
    readUntil c pick (n + 1) source = some (.ok b rest) := by
  rw [readUntil, hrun]
  simp only [hpick]

theorem readUntil_ends
    (htakes : forall source v rest, c.run source = .ok v rest ->
      (Chunk.bytes rest).length < (Chunk.bytes source).length)
    {n : Nat} {source : List Chunk} (hn : (Chunk.bytes source).length < n) :
    exists outcome, readUntil c pick n source = some outcome := by
  induction n generalizing source with
  | zero => cases hn
  | succ n ih =>
      cases hrun : c.run source with
      | ok v rest =>
          cases hpick : pick v with
          | some b => exact ⟨_, readUntil_of_some hrun hpick n⟩
          | none =>
              rw [readUntil_of_none hrun hpick]
              have hless := htakes source v rest hrun
              exact ih (by omega)
      | error e rest => exact ⟨_, by rw [readUntil, hrun]⟩
      | panicked => exact ⟨_, by rw [readUntil, hrun]⟩

/--
The values in front of the one that is waited for are dropped, in whatever
chunks they arrive, and what follows it is left.
-/
theorem readUntil_flatMap (hsimulates : Simulates c r)
    {encode : alpha -> List UInt8} {skipped : List alpha} {v : alpha} {b : beta}
    (hread : forall w, w ∈ skipped ++ [v] -> forall later,
      r.run (encode w ++ later) = .ok w later)
    (hskip : forall w, w ∈ skipped -> pick w = none) (hpick : pick v = some b)
    {later : List UInt8} {source : List Chunk}
    (hsource : Chunk.bytes source =
      skipped.flatMap encode ++ (encode v ++ later))
    {n : Nat} (hn : skipped.length < n) :
    exists rest, readUntil c pick n source = some (.ok b rest) ∧
      Chunk.bytes rest = later := by
  induction skipped generalizing source n with
  | nil =>
      cases n with
      | zero => cases hn
      | succ n =>
          have hrun := hsimulates source
          rw [hsource, List.flatMap_nil, List.nil_append,
            hread v (List.mem_singleton_self v)] at hrun
          rcases joined_eq_ok hrun with ⟨rest, hout, hrest⟩
          exact ⟨rest, readUntil_of_some hout hpick n, hrest⟩
  | cons w skipped ih =>
      cases n with
      | zero => cases hn
      | succ n =>
          have hrun := hsimulates source
          rw [hsource, List.flatMap_cons, List.append_assoc,
            hread w List.mem_cons_self] at hrun
          rcases joined_eq_ok hrun with ⟨rest, hout, hrest⟩
          rw [readUntil_of_none hout (hskip w List.mem_cons_self)]
          exact ih (fun u hu => hread u (List.mem_cons_of_mem w hu))
            (fun u hu => hskip u (List.mem_cons_of_mem w hu)) hrest
            (Nat.lt_of_succ_lt_succ hn)

end ChunkedReader
end Foundation
