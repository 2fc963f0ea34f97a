import Rusbmux.Foundation.ByteSlice

/-!
# The UDID of a serial number

`to_udid` and `to_udid_owned` of `utils.rs`, and `AnyDeviceInfo::udid` of the
USB backend, which uses them.  Both functions test the length of the serial
number in bytes and cut it at byte eight, which may lie inside a character.
-/

namespace Rusbmux

open Foundation
open Foundation.ByteSlice

abbrev MayPanic (alpha : Type) : Type :=
  Option alpha

inductive Cow where
  | borrowed (s : String)
  | owned (s : String)
deriving DecidableEq, Repr

def Cow.intoOwned : Cow -> String
  | borrowed s => s
  | owned s => s

namespace Utils

def toUdid (serialNumber : String) : MayPanic Cow :=
  if serialNumber.utf8ByteSize = 24 then do
    let newSerialNum := "" ++ (<- sliceTo serialNumber 8)
    let newSerialNum := newSerialNum.push '-'
    let newSerialNum := newSerialNum ++ (<- sliceFrom serialNumber 8)
    some (.owned newSerialNum)
  else
    some (.borrowed serialNumber)

def toUdidOwned (serialNumber : String) : MayPanic String :=
  if serialNumber.utf8ByteSize = 24 then do
    let newSerialNum := "" ++ (<- sliceTo serialNumber 8)
    let newSerialNum := newSerialNum.push '-'
    let newSerialNum := newSerialNum ++ (<- sliceFrom serialNumber 8)
    some newSerialNum
  else
    some serialNumber

end Utils

inductive AnyDeviceInfo where
  | nusb (serialNumber : Option String)
  | rusb (serialNumber : Option String)
deriving DecidableEq, Repr

namespace AnyDeviceInfo

def serialNumber : AnyDeviceInfo -> Option String
  | nusb serialNumber => serialNumber
  | rusb serialNumber => serialNumber

def udid : AnyDeviceInfo -> MayPanic (Option Cow)
  | nusb serialNumber => serialNumber.mapM Utils.toUdid
  | rusb serialNumber =>
      serialNumber.mapM fun s => (Utils.toUdidOwned s).map Cow.owned

end AnyDeviceInfo

namespace Utils

/-!
## What the functions return
-/

variable {s : String}

/-- A serial number of 24 bytes has no character across byte eight. -/
def CutsBetween (serialNumber : String) : Prop :=
  serialNumber.utf8ByteSize = 24 -> IsBoundary serialNumber 8

instance (serialNumber : String) : Decidable (CutsBetween serialNumber) :=
  inferInstanceAs (Decidable (_ -> _))

theorem toUdid_intoOwned (s : String) :
    (toUdid s).map Cow.intoOwned = toUdidOwned s := by
  unfold toUdid toUdidOwned
  split
  · cases sliceTo s 8 with
    | none => rfl
    | some front =>
        cases sliceFrom s 8 with
        | none => rfl
        | some back => rfl
  · rfl

theorem toUdid_of_ne (h : s.utf8ByteSize ≠ 24) :
    toUdid s = some (.borrowed s) :=
  if_neg h

theorem toUdid_of_not_isBoundary (h : s.utf8ByteSize = 24)
    (hinside : ¬ IsBoundary s 8) : toUdid s = none := by
  unfold toUdid
  rw [if_pos h, sliceTo_eq_none hinside]
  rfl

theorem toUdid_append {front back : String}
    (h : (front ++ back).utf8ByteSize = 24) (hfront : front.utf8ByteSize = 8) :
    toUdid (front ++ back) = some (.owned (front ++ ("-" ++ back))) := by
  have hto : sliceTo (front ++ back) 8 = some front := by
    rw [← hfront]
    exact sliceTo_append front back
  have hfrom : sliceFrom (front ++ back) 8 = some back := by
    rw [← hfront]
    exact sliceFrom_append front back
  have hpush : ("" ++ front).push '-' ++ back = front ++ ("-" ++ back) := by
    rw [String.empty_append, String.push_eq_append, String.append_assoc]
    rfl
  unfold toUdid
  rw [if_pos h, hto, hfrom, ← hpush]
  rfl

theorem toUdid_eq_none_iff : toUdid s = none <-> ¬ CutsBetween s := by
  by_cases h : s.utf8ByteSize = 24
  · by_cases hcut : IsBoundary s 8
    · rcases exists_slices hcut with ⟨front, back, _, _, rfl, hfront⟩
      rw [toUdid_append h hfront]
      exact ⟨fun hnone => (nomatch hnone),
        fun hnot => absurd (fun _ => hcut) hnot⟩
    · rw [toUdid_of_not_isBoundary h hcut]
      exact ⟨fun _ hcuts => hcut (hcuts h), fun _ => rfl⟩
  · rw [toUdid_of_ne h]
    exact ⟨fun hnone => (nomatch hnone), fun hnot => absurd (absurd · h) hnot⟩

theorem toUdidOwned_eq_none_iff : toUdidOwned s = none <-> ¬ CutsBetween s := by
  rw [← toUdid_intoOwned, Option.map_eq_none_iff]
  exact toUdid_eq_none_iff

/-!
## Getting the serial number back
-/

def removeDash (udid : String) : Option String := do
  let front <- sliceTo udid 8
  match (<- sliceFrom udid 8).toList with
  | '-' :: back => some (front ++ .ofList back)
  | _ => none

theorem removeDash_append {front : String} (hfront : front.utf8ByteSize = 8)
    (back : String) : removeDash (front ++ ("-" ++ back)) =
      some (front ++ back) := by
  have hto := sliceTo_append front ("-" ++ back)
  have hfrom := sliceFrom_append front ("-" ++ back)
  rw [hfront] at hto hfrom
  have hlist : ("-" ++ back).toList = '-' :: back.toList :=
    String.toList_append
  unfold removeDash
  rw [hto, hfrom]
  show (match ("-" ++ back).toList with
    | '-' :: back => some (front ++ String.ofList back)
    | _ => none) = _
  rw [hlist]
  show some (front ++ String.ofList back.toList) = _
  rw [String.ofList_toList]

/-- What is promised of the UDID of a serial number. -/
structure Normalises (serialNumber : String) : Prop where
  returns : toUdid serialNumber ≠ none ∧ toUdidOwned serialNumber ≠ none
  agree : (toUdid serialNumber).map Cow.intoOwned = toUdidOwned serialNumber
  unchanged : serialNumber.utf8ByteSize ≠ 24 ->
    toUdid serialNumber = some (.borrowed serialNumber)
  restored : serialNumber.utf8ByteSize = 24 ->
    exists udid, toUdid serialNumber = some (.owned udid) ∧
      removeDash udid = some serialNumber
  distinct : forall other, serialNumber.utf8ByteSize = 24 ->
    other.utf8ByteSize = 24 -> other ≠ serialNumber ->
      toUdid other ≠ toUdid serialNumber

theorem exists_restored (h : s.utf8ByteSize = 24) (hcut : IsBoundary s 8) :
    exists udid, toUdid s = some (.owned udid) ∧ removeDash udid = some s := by
  rcases exists_slices hcut with ⟨front, back, _, _, rfl, hfront⟩
  exact ⟨_, toUdid_append h hfront, removeDash_append hfront back⟩

theorem eq_of_toUdid_eq {other : String} {udid : Cow}
    (h : s.utf8ByteSize = 24) (hother : other.utf8ByteSize = 24)
    (hs : toUdid s = some udid) (hsame : toUdid other = some udid) :
    other = s := by
  have hcuts : forall t, toUdid t = some udid -> CutsBetween t := by
    intro t ht
    by_contra hnot
    rw [toUdid_eq_none_iff.mpr hnot] at ht
    cases ht
  rcases exists_restored h (hcuts s hs h) with ⟨first, hfirst, hback⟩
  rcases exists_restored hother (hcuts other hsame hother) with
    ⟨second, hsecond, hotherBack⟩
  cases hfirst.symm.trans hs
  cases hsecond.symm.trans hsame
  exact Option.some.inj (hotherBack.symm.trans hback)

theorem normalises_of_cutsBetween (h : CutsBetween s) : Normalises s := by
  have hreturns : toUdid s ≠ none := fun hnone =>
    toUdid_eq_none_iff.mp hnone h
  refine ⟨⟨hreturns, fun hnone => toUdidOwned_eq_none_iff.mp hnone h⟩,
    toUdid_intoOwned s, toUdid_of_ne,
    fun hsize => exists_restored hsize (h hsize), ?_⟩
  intro other hsize hother hne hsame
  cases hs : toUdid s with
  | none => exact hreturns hs
  | some udid => exact hne (eq_of_toUdid_eq hsize hother hs (hsame.trans hs))

/--
The UDID of a serial number is what is promised, unless the serial number has 24
bytes with a character across byte eight, for which both functions panic.
-/
theorem normalises_iff (serialNumber : String) :
    Normalises serialNumber <-> CutsBetween serialNumber := by
  constructor
  · intro h
    by_contra hnot
    exact h.returns.left (toUdid_eq_none_iff.mpr hnot)
  · exact normalises_of_cutsBetween

/-- A serial number of 24 bytes whose eighth character has two. -/
theorem not_normalises_acrossByteEight :
    ¬ Normalises "0000810é001E0A1B2C3D4E5" := by
  intro h
  exact h.returns.left (by decide)

end Utils

namespace AnyDeviceInfo

theorem mapM_eq_none_iff (f : String -> MayPanic Cow) (s : Option String) :
    s.mapM f = none <-> exists t, s = some t ∧ f t = none := by
  cases s with
  | none =>
      constructor
      · intro h
        cases h
      · rintro ⟨t, ht, _⟩
        cases ht
  | some t =>
      show (f t).map some = none <-> _
      rw [Option.map_eq_none_iff]
      constructor
      · intro hf
        exact ⟨t, rfl, hf⟩
      · rintro ⟨u, hu, hf⟩
        cases hu
        exact hf

theorem udid_eq_none_iff (info : AnyDeviceInfo) :
    info.udid = none <->
      exists serialNumber, info.serialNumber = some serialNumber ∧
        ¬ Utils.CutsBetween serialNumber := by
  cases info with
  | nusb reported =>
      have hudid := mapM_eq_none_iff Utils.toUdid reported
      simp only [Utils.toUdid_eq_none_iff] at hudid
      exact hudid
  | rusb reported =>
      have hudid := mapM_eq_none_iff
        (fun s => (Utils.toUdidOwned s).map Cow.owned) reported
      simp only [Option.map_eq_none_iff, Utils.toUdidOwned_eq_none_iff] at hudid
      exact hudid

end AnyDeviceInfo

end Rusbmux
