import Rusbmux.Foundation.PathGrammar
import Rusbmux.Handler.Handlers

/-!
# Where pair records are

The files that requests with a pair record id or a UDID read, write and remove,
on each platform.  `check_pair_record_id` refuses separators, so the name of a
record is one piece of a path; on Windows it may still start with a drive.
-/

namespace Rusbmux
namespace Handler

open Foundation

inductive Platform where
  | macos
  | linux
  | windows
deriving DecidableEq, Repr

namespace Platform

def style : Platform -> PathStyle
  | macos | linux => .unix
  | windows => .windows

def lockdownPath : Platform -> String
  | macos => "/var/db/lockdown"
  | linux => "/var/lib/lockdown"
  | windows => "C:\\ProgramData\\Apple\\Lockdown"

def lockdownFile (p : Platform) (name : String) : String :=
  String.ofList (p.style.join p.lockdownPath.toList name.toList)

def recordPath (p : Platform) (pairRecordId : String) : String :=
  p.lockdownFile s!"{pairRecordId}.plist"

theorem needsSeparator_lockdownPath (p : Platform) :
    p.style.needsSeparator p.lockdownPath.toList = true := by
  cases p <;> decide +kernel

theorem hasRoot_lockdownPath (p : Platform) :
    p.style.hasRoot p.lockdownPath.toList = true := by
  cases p <;> decide +kernel

end Platform

variable {Ip : Type}

def Host.on (host : Host Ip) (p : Platform) : Host Ip :=
  { host with lockdownPath := p.lockdownFile }

theorem recordPath_on (host : Host Ip) (p : Platform) (id : String) :
    recordPath (host.on p) id = p.recordPath id := rfl

/-!
## The files a request touches
-/

def Host.withFiles (host : Host Ip)
    (fsWrite : String -> List UInt8 -> Except IoError Unit)
    (fsRemoveFile : String -> Except IoError Unit)
    (fsRead : String -> Except IoError (List UInt8)) : Host Ip :=
  { host with fsWrite := fsWrite, fsRemoveFile := fsRemoveFile, fsRead := fsRead }

section Touches

variable {host : Host Ip} {id : String}
variable {fsWrite : String -> List UInt8 -> Except IoError Unit}
variable {fsRemoveFile : String -> Except IoError Unit}
variable {fsRead : String -> Except IoError (List UInt8)}

theorem handleSavePairRecord_withFiles
    (h : fsWrite (recordPath host id) = host.fsWrite (recordPath host id))
    (data : List UInt8) (deviceId : Option UInt64) (tag : UInt32) :
    handleSavePairRecord (host.withFiles fsWrite fsRemoveFile fsRead) id data
        deviceId tag =
      handleSavePairRecord host id data deviceId tag := by
  have hsave : savePairRecord (host.withFiles fsWrite fsRemoveFile fsRead) id
      data deviceId tag = savePairRecord host id data deviceId tag := by
    unfold savePairRecord
    rw [← h]
    rfl
  unfold handleSavePairRecord
  rw [hsave]
  rfl

theorem handleReadPairRecord_withFiles
    (h : fsRead (recordPath host id) = host.fsRead (recordPath host id))
    (tag : UInt32) :
    handleReadPairRecord (host.withFiles fsWrite fsRemoveFile fsRead) id tag =
      handleReadPairRecord host id tag := by
  have hread : readPairRecord (host.withFiles fsWrite fsRemoveFile fsRead) id
      tag = readPairRecord host id tag := by
    unfold readPairRecord
    rw [← h]
    rfl
  unfold handleReadPairRecord
  rw [hread]
  rfl

theorem handleDeletePairRecord_withFiles
    (h : fsRemoveFile (recordPath host id) =
      host.fsRemoveFile (recordPath host id)) (tag : UInt32) :
    handleDeletePairRecord (host.withFiles fsWrite fsRemoveFile fsRead) id tag =
      handleDeletePairRecord host id tag := by
  have hdelete : deletePairRecord (host.withFiles fsWrite fsRemoveFile fsRead)
      id = deletePairRecord host id := by
    unfold deletePairRecord
    rw [← h]
    rfl
  unfold handleDeletePairRecord
  rw [hdelete]
  rfl

theorem handleAddDevice_withFiles
    (h : fsRead (recordPath host id) = host.fsRead (recordPath host id))
    (ip : Ip) (force : Bool) (tag : UInt32) :
    handleAddDevice (host.withFiles fsWrite fsRemoveFile fsRead) ip id force
        tag =
      handleAddDevice host ip id force tag := by
  have hpairing : readPairing (host.withFiles fsWrite fsRemoveFile fsRead) id =
      readPairing host id := by
    unfold readPairing
    rw [← h]
    rfl
  unfold handleAddDevice addDevice
  rw [hpairing]
  rfl

end Touches

/-!
## Records in the lockdown directory
-/

/-- An id that is not refused names a file directly in the directory. -/
def RecordContained (p : Platform) (id : String) : Prop :=
  checkPairRecordId id = .ok () ->
    p.style.DirectlyInside p.lockdownPath.toList (p.recordPath id).toList

def extension : List Char :=
  ['.', 'p', 'l', 'i', 's', 't']

theorem toList_recordPath (p : Platform) (id : String) :
    (p.recordPath id).toList =
      p.style.join p.lockdownPath.toList (id.toList ++ extension) := by
  unfold Platform.recordPath Platform.lockdownFile
  rw [String.toList_ofList]
  congr 1
  simp [toString, extension]

theorem not_mem_of_checked {id : String}
    (h : checkPairRecordId id = .ok ()) :
    '/' ∉ id.toList ∧ '\\' ∉ id.toList := by
  unfold checkPairRecordId at h
  split at h
  · cases h
  · rename_i hrefused
    constructor
    · intro hmem
      apply hrefused
      simp [containsText, List.singleton_infix_iff, hmem]
    · intro hmem
      apply hrefused
      simp [containsText, List.singleton_infix_iff, hmem]

theorem isPlain_of_checked (style : PathStyle) {id : String}
    (h : checkPairRecordId id = .ok ()) :
    style.IsPlain (id.toList ++ extension) := by
  rcases not_mem_of_checked h with ⟨hslash, hbackslash⟩
  intro c hc
  have hne : c ≠ '/' ∧ c ≠ '\\' := by
    constructor
    · intro hsep
      subst hsep
      simp [hslash, extension] at hc
    · intro hsep
      subst hsep
      simp [hbackslash, extension] at hc
  cases style with
  | unix => simp [PathStyle.isSeparator, hne.left]
  | windows => simp [PathStyle.isSeparator, hne.left, hne.right]

theorem directlyInside_recordPath_iff (p : Platform) {id : String}
    (h : checkPairRecordId id = .ok ()) :
    p.style.DirectlyInside p.lockdownPath.toList (p.recordPath id).toList <->
      p.style.drive id.toList = none := by
  have hlong : 2 < (id.toList ++ extension).length := by
    rw [List.length_append]
    exact Nat.lt_of_lt_of_le (by decide : 2 < extension.length)
      (Nat.le_add_left _ _)
  have hdrive : p.style.drive (id.toList ++ extension) =
      p.style.drive id.toList :=
    PathStyle.drive_append_extension id.toList (by decide) (by decide) _
  rw [toList_recordPath, PathStyle.directlyInside_join_iff
    (isPlain_of_checked p.style h) (PathStyle.part_of_length hlong)
    p.needsSeparator_lockdownPath p.hasRoot_lockdownPath, hdrive]

/--
The file of an id that is not refused is directly in the lockdown directory of
the platform, exactly if the id does not start with a drive of the platform.
-/
theorem recordContained_iff (p : Platform) (id : String) :
    RecordContained p id <->
      (checkPairRecordId id = .ok () -> p.style.drive id.toList = none) := by
  unfold RecordContained
  constructor
  · intro hcontained hchecked
    exact (directlyInside_recordPath_iff p hchecked).mp (hcontained hchecked)
  · intro hdrive hchecked
    exact (directlyInside_recordPath_iff p hchecked).mpr (hdrive hchecked)

/-- On Windows an id that starts with a drive leads out of the directory. -/
theorem not_recordContained_drive :
    ¬ forall p id, RecordContained p id := by
  intro h
  have hchecked : checkPairRecordId "D:evil" = .ok () := by decide +kernel
  have hdrive := (directlyInside_recordPath_iff .windows hchecked).mp
    (h .windows "D:evil" hchecked)
  have hstarts : PathStyle.drive .windows "D:evil".toList = some 'D' := by
    decide +kernel
  rw [show Platform.style .windows = .windows from rfl, hstarts] at hdrive
  cases hdrive

end Handler
end Rusbmux
