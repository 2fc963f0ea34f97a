import Mathlib.Data.List.Basic

/-!
# Conduits

A conduit takes items in, keeps some of them and gives items out in the order in
which they came.  A step of it is described by the items it kept before, those it
took in, those it gave out and those it keeps afterwards.  Nothing is lost,
repeated or put out of order if the first two together are the last two.
-/

namespace Foundation

variable {item : Type}

def Passes (kept taken given left : List item) : Prop :=
  kept ++ taken = given ++ left

namespace Passes

variable {kept taken given left : List item}

theorem idle (kept : List item) : Passes kept [] [] kept :=
  List.append_nil kept

theorem splits (taken : List item) (n : Nat) :
    Passes [] taken (taken.take n) (taken.drop n) :=
  (List.take_append_drop n taken).symm

theorem releases (kept : List item) (n : Nat) :
    Passes kept [] (kept.take n) (kept.drop n) := by
  show kept ++ [] = _
  rw [List.append_nil, List.take_append_drop]

theorem conserves {takenBefore givenBefore : List item}
    (hbefore : givenBefore ++ kept = takenBefore)
    (h : Passes kept taken given left) :
    givenBefore ++ given ++ left = takenBefore ++ taken := by
  rw [← hbefore, List.append_assoc, List.append_assoc, h]

end Passes

end Foundation
