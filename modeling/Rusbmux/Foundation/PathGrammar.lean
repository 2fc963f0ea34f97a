import Mathlib.Data.List.Basic

/-!
# Path grammars

The texts of paths as two families of platforms read them, what joining a path
to another gives, and the components of a path.  A path may start with a drive
on one of them; the paths of shares and devices, which start with two
separators, are left out.

The main rule, `directlyInside_join_iff`, says when a joined name of one piece
stays in the directory it is joined to.
-/

namespace Foundation

inductive PathStyle where
  | unix
  | windows
deriving DecidableEq, Repr

namespace PathStyle

def isSeparator : PathStyle -> Char -> Bool
  | unix, c => c = '/'
  | windows, c => c = '/' || c = '\\'

def mainSeparator : PathStyle -> Char
  | unix => '/'
  | windows => '\\'

def drive : PathStyle -> List Char -> Option Char
  | windows, letter :: ':' :: _ =>
      if letter.isAlpha then some letter.toUpper else none
  | _, _ => none

def afterDrive (style : PathStyle) (path : List Char) : List Char :=
  if (style.drive path).isSome then path.drop 2 else path

def hasRoot (style : PathStyle) (path : List Char) : Bool :=
  (style.afterDrive path).head?.any style.isSeparator

def isAbsolute (style : PathStyle) (path : List Char) : Bool :=
  match style with
  | unix => hasRoot unix path
  | windows => hasRoot windows path && (drive windows path).isSome

def needsSeparator (style : PathStyle) (base : List Char) : Bool :=
  (base.getLast?.any fun c => !style.isSeparator c) &&
    !((style.drive base).isSome && base.length = 2)

/--
An absolute path and a path with a drive replace what they are joined to; a path
with a root but no drive replaces all but the drive.
-/
def join (style : PathStyle) (base path : List Char) : List Char :=
  if style.isAbsolute path || (style.drive path).isSome then path
  else if style.hasRoot path then
    base.take (base.length - (style.afterDrive base).length) ++ path
  else if style.needsSeparator base then base ++ style.mainSeparator :: path
  else base ++ path

/-!
## Components
-/

inductive Part where
  | curDir
  | parentDir
  | normal (name : List Char)
deriving DecidableEq, Repr

structure Components where
  drive : Option Char
  root : Bool
  parts : List Part
deriving DecidableEq, Repr

def part : List Char -> Option Part
  | [] | ['.'] => none
  | ['.', '.'] => some .parentDir
  | name => some (.normal name)

def pieces (style : PathStyle) (path : List Char) : List (List Char) :=
  (style.afterDrive path).splitOnP style.isSeparator

def leading (style : PathStyle) (path : List Char) : List Part :=
  if !style.hasRoot path && (style.pieces path).head? = some ['.'] then
    [.curDir]
  else []

def components (style : PathStyle) (path : List Char) : Components where
  drive := style.drive path
  root := style.hasRoot path
  parts := style.leading path ++ (style.pieces path).filterMap part

def DirectlyInside (style : PathStyle) (base path : List Char) : Prop :=
  exists name, style.components path =
    { style.components base with
      parts := (style.components base).parts ++ [.normal name] }

theorem part_of_length {name : List Char} (h : 2 < name.length) :
    part name = some (.normal name) := by
  match name, h with
  | _ :: _ :: _ :: _, _ => simp [part]

/-!
## Joining a name
-/

variable {style : PathStyle} {base name : List Char}

def IsPlain (style : PathStyle) (name : List Char) : Prop :=
  forall c, c ∈ name -> style.isSeparator c = false

theorem isSeparator_mainSeparator (style : PathStyle) :
    style.isSeparator style.mainSeparator = true := by
  cases style <;> rfl

theorem IsPlain.afterDrive (h : style.IsPlain name) :
    style.IsPlain (style.afterDrive name) := by
  intro c hc
  unfold PathStyle.afterDrive at hc
  split at hc
  · exact h c (List.mem_of_mem_drop hc)
  · exact h c hc

theorem IsPlain.hasRoot (h : style.IsPlain name) :
    style.hasRoot name = false := by
  unfold PathStyle.hasRoot
  cases hhead : (style.afterDrive name).head? with
  | none => rfl
  | some c => exact h.afterDrive c (List.mem_of_mem_head? hhead)

theorem IsPlain.isAbsolute (h : style.IsPlain name) :
    style.isAbsolute name = false := by
  cases style with
  | unix => exact h.hasRoot
  | windows =>
      unfold PathStyle.isAbsolute
      rw [h.hasRoot]
      rfl

theorem drive_cons_cons (style : PathStyle) (first second : Char)
    (rest : List Char) :
    style.drive (first :: second :: rest) = style.drive [first, second] := by
  cases style with
  | unix => rfl
  | windows =>
      by_cases hcolon : second = ':'
      · subst hcolon
        rfl
      · simp [drive, hcolon]

theorem drive_append_extension (path : List Char) {first second : Char}
    (hfirst : first ≠ ':') (hsecond : second ≠ ':') (rest : List Char) :
    style.drive (path ++ first :: second :: rest) = style.drive path := by
  cases style with
  | unix => rfl
  | windows =>
      match path with
      | [] => simp [drive, hsecond]
      | [letter] => simp [drive, hfirst]
      | letter :: colon :: more =>
          rw [List.cons_append, List.cons_append, drive_cons_cons,
            drive_cons_cons _ letter colon more]

theorem join_of_drive (hdrive : (style.drive name).isSome = true) :
    style.join base name = name := by
  unfold join
  rw [hdrive, Bool.or_true, if_pos rfl]

theorem join_of_plain (hplain : style.IsPlain name)
    (hdrive : style.drive name = none)
    (hbase : style.needsSeparator base = true) :
    style.join base name = base ++ style.mainSeparator :: name := by
  unfold join
  rw [hplain.isAbsolute, hdrive, hplain.hasRoot, hbase]
  rfl

section Append

variable (hbase : style.needsSeparator base = true) (rest : List Char)
include hbase

theorem ne_nil_of_needsSeparator : base ≠ [] := by
  intro hnil
  subst hnil
  cases hbase

theorem drive_append :
    style.drive (base ++ style.mainSeparator :: rest) = style.drive base := by
  cases base with
  | nil => exact absurd rfl (ne_nil_of_needsSeparator hbase)
  | cons first more =>
      cases style with
      | unix => rfl
      | windows =>
          cases more with
          | nil => rfl
          | cons second more =>
              rw [List.cons_append, List.cons_append, drive_cons_cons,
                drive_cons_cons _ first second more]

theorem afterDrive_append :
    style.afterDrive (base ++ style.mainSeparator :: rest) =
      style.afterDrive base ++ style.mainSeparator :: rest := by
  unfold afterDrive
  rw [drive_append hbase]
  split
  · rename_i hdrive
    have hlong : 2 <= base.length := by
      unfold drive at hdrive
      split at hdrive
      · simp
      · cases hdrive
    rw [List.drop_append_of_le_length hlong]
  · rfl

theorem afterDrive_ne_nil : style.afterDrive base ≠ [] := by
  intro hnil
  unfold afterDrive at hnil
  split at hnil
  · rename_i hdrive
    have hlength : 2 <= base.length := by
      unfold drive at hdrive
      split at hdrive
      · simp
      · cases hdrive
    have hshort := List.drop_eq_nil_iff.mp hnil
    have htwo : base.length = 2 := Nat.le_antisymm hshort hlength
    unfold needsSeparator at hbase
    rw [hdrive, htwo] at hbase
    simp at hbase
  · exact ne_nil_of_needsSeparator hbase hnil

theorem hasRoot_append :
    style.hasRoot (base ++ style.mainSeparator :: rest) =
      style.hasRoot base := by
  unfold hasRoot
  rw [afterDrive_append hbase,
    List.head?_append_of_ne_nil _ (afterDrive_ne_nil hbase)]

theorem pieces_append (hrest : style.IsPlain rest) :
    style.pieces (base ++ style.mainSeparator :: rest) =
      style.pieces base ++ [rest] := by
  unfold pieces
  rw [afterDrive_append hbase,
    List.splitOnP_append_cons _ _ (isSeparator_mainSeparator style),
    List.splitOnP_eq_singleton hrest]

theorem leading_append (hrest : style.IsPlain rest) :
    style.leading (base ++ style.mainSeparator :: rest) =
      style.leading base := by
  have hpieces : style.pieces base ≠ [] := List.splitOnP_ne_nil _ _
  unfold leading
  rw [hasRoot_append hbase, pieces_append hbase rest hrest,
    List.head?_append_of_ne_nil _ hpieces]

theorem components_append (hrest : style.IsPlain rest)
    (hname : part rest = some (.normal rest)) :
    style.components (base ++ style.mainSeparator :: rest) =
      { style.components base with
        parts := (style.components base).parts ++ [.normal rest] } := by
  unfold components
  rw [drive_append hbase, hasRoot_append hbase,
    leading_append hbase rest hrest, pieces_append hbase rest hrest,
    List.filterMap_append, List.append_assoc]
  simp [hname]

end Append

/--
A name of one piece that is joined to a directory from the root stays in it
exactly if it does not start with a drive.
-/
theorem directlyInside_join_iff (hplain : style.IsPlain name)
    (hname : part name = some (.normal name))
    (hbase : style.needsSeparator base = true)
    (hroot : style.hasRoot base = true) :
    style.DirectlyInside base (style.join base name) <->
      style.drive name = none := by
  constructor
  · intro hinside
    by_contra hsome
    have hdrive : (style.drive name).isSome = true :=
      Option.isSome_iff_ne_none.mpr hsome
    rw [join_of_drive hdrive] at hinside
    rcases hinside with ⟨other, hcomponents⟩
    have hsame : style.hasRoot name = style.hasRoot base :=
      congrArg Components.root hcomponents
    rw [hplain.hasRoot, hroot] at hsame
    cases hsame
  · intro hdrive
    rw [join_of_plain hplain hdrive hbase]
    exact ⟨name, components_append hbase name hplain hname⟩

end PathStyle

end Foundation
