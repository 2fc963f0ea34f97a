import Mathlib.Data.List.Basic
import Mathlib.Logic.Function.Basic

/-!
# A name of a file system

One name of a directory and the files it has stood for.  A file that is open
stays what it is when its name is removed or given to a new file, and two
openings of one file write over each other from its start.
-/

namespace Foundation

structure NamedFile (byte : Type) where
  name : Option Nat
  files : Nat -> List byte
  created : Nat

namespace NamedFile

variable {byte : Type}

def start (content : Option (List byte)) : NamedFile byte where
  name := content.map fun _ => 0
  files _ := content.getD []
  created := 1

def read (f : NamedFile byte) : Option (List byte) :=
  f.name.map f.files

def target (f : NamedFile byte) : Nat :=
  f.name.getD f.created

def truncate (f : NamedFile byte) : NamedFile byte where
  name := some f.target
  files := Function.update f.files f.target []
  created := if f.name.isSome then f.created else f.created + 1

def overlay (data content : List byte) : List byte :=
  data ++ content.drop data.length

def write (f : NamedFile byte) (file : Nat) (data : List byte) :
    NamedFile byte :=
  { f with files := Function.update f.files file (overlay data (f.files file)) }

def unlink (f : NamedFile byte) : NamedFile byte :=
  { f with name := none }

@[simp] theorem truncate_name (f : NamedFile byte) :
    f.truncate.name = some f.target := rfl

@[simp] theorem write_name (f : NamedFile byte) (file : Nat)
    (data : List byte) : (f.write file data).name = f.name := rfl

@[simp] theorem overlay_nil (content : List byte) :
    overlay [] content = content := rfl

theorem overlay_of_length_le {data content : List byte}
    (h : content.length <= data.length) : overlay data content = data := by
  unfold overlay
  rw [List.drop_eq_nil_of_le h, List.append_nil]

theorem read_write_named {f : NamedFile byte} {file : Nat} {data : List byte}
    (hname : f.name = some file)
    (hlength : (f.files file).length <= data.length) :
    (f.write file data).read = some data := by
  unfold read
  rw [write_name, hname]
  show some (Function.update f.files file _ file) = _
  rw [Function.update_self, overlay_of_length_le hlength]

theorem read_write_other {f : NamedFile byte} {file : Nat} (data : List byte)
    (hname : f.name ≠ some file) : (f.write file data).read = f.read := by
  unfold read
  rw [write_name]
  cases hother : f.name with
  | none => rfl
  | some other =>
      have hne : other ≠ file := by
        intro heq
        rw [hother, heq] at hname
        exact hname rfl
      show some (Function.update f.files file _ other) = _
      rw [Function.update_of_ne hne]
      rfl

theorem read_write_nil (f : NamedFile byte) (file : Nat) :
    (f.write file []).read = f.read := by
  unfold read write
  rw [overlay_nil, Function.update_eq_self]

end NamedFile

end Foundation
