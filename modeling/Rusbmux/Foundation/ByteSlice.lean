import Mathlib.Data.Option.Basic

/-!
# Slices of a string by byte offsets

A string is cut at a byte offset into what comes before it and what comes after
it.  Both parts are strings again only when the offset does not fall inside a
character; there is no slice otherwise.
-/

namespace Foundation
namespace ByteSlice

abbrev IsBoundary (s : String) (n : Nat) : Prop :=
  String.Pos.Raw.IsValid s ⟨n⟩

def sliceTo (s : String) (n : Nat) : Option String :=
  if h : IsBoundary s n then some (s.sliceTo ⟨⟨n⟩, h⟩).copy else none

def sliceFrom (s : String) (n : Nat) : Option String :=
  if h : IsBoundary s n then some (s.sliceFrom ⟨⟨n⟩, h⟩).copy else none

variable {s front back : String} {n : Nat}

theorem exists_slices (h : IsBoundary s n) :
    exists front back, sliceTo s n = some front ∧
      sliceFrom s n = some back ∧ s = front ++ back ∧
        front.utf8ByteSize = n := by
  have hsplits := String.Pos.splits (s := s) ⟨⟨n⟩, h⟩
  refine ⟨_, _, dif_pos h, dif_pos h, hsplits.eq_append, ?_⟩
  have hoffset := congrArg String.Pos.Raw.byteIdx hsplits.offset_eq_rawEndPos
  exact hoffset.symm

theorem isBoundary_append (front back : String) :
    IsBoundary (front ++ back) front.utf8ByteSize :=
  String.Pos.Raw.isValid_iff_exists_append.mpr ⟨front, back, rfl, rfl⟩

theorem splits_append (h : IsBoundary (front ++ back) front.utf8ByteSize) :
    String.Pos.Splits (s := front ++ back) ⟨⟨front.utf8ByteSize⟩, h⟩ front
      back where
  eq_append := rfl
  offset_eq_rawEndPos := rfl

theorem sliceTo_append (front back : String) :
    sliceTo (front ++ back) front.utf8ByteSize = some front := by
  have h := isBoundary_append front back
  unfold sliceTo
  rw [dif_pos h]
  exact congrArg some ((String.Pos.splits _).eq_left (splits_append h))

theorem sliceFrom_append (front back : String) :
    sliceFrom (front ++ back) front.utf8ByteSize = some back := by
  have h := isBoundary_append front back
  unfold sliceFrom
  rw [dif_pos h]
  exact congrArg some ((String.Pos.splits _).eq_right (splits_append h))

theorem sliceTo_eq_none (h : ¬ IsBoundary s n) : sliceTo s n = none :=
  dif_neg h

end ByteSlice
end Foundation
