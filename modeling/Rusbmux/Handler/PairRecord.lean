import Rusbmux.Error
import Rusbmux.Foundation.Machine
import Rusbmux.Foundation.NamedFile

/-!
# Saving a pair record under preflight runs

The record of one device, which clients save and preflight runs read, remove
when they cannot parse it, and write after they paired.  Writing a file is to
open it, which truncates it, and then to write its bytes from its start; the
requests and the runs interleave between these steps.  How an operation on the
file system or the pairing ends is part of the action.
-/

namespace Rusbmux
namespace Handler

open Foundation
open Rusbmux.Parser

inductive Writer where
  | save
  | preflight
deriving DecidableEq, Repr

structure Written where
  task : Nat
  writer : Writer
  data : List UInt8
deriving DecidableEq, Repr

inductive RecordPhase where
  | opening (writer : Writer) (data : List UInt8)
  | writing (writer : Writer) (data : List UInt8) (file : Nat)
  | answering
  | reading
  | removing
  | pairing
  | ended
deriving DecidableEq, Repr

structure RecordRun where
  record : NamedFile UInt8
  tasks : Nat -> Option RecordPhase := fun _ => none
  written : List Written := []
  /-- The saves that were answered with OK. -/
  answered : List Nat := []

def Writer.afterwards : Writer -> RecordPhase
  | .save => .answering
  | .preflight => .ended

def RecordPhase.isWork : RecordPhase -> Bool
  | .opening _ _ | .writing _ _ _ | .reading | .removing | .pairing => true
  | .answering | .ended => false

namespace RecordRun

inductive Action where
  | save (task : Nat) (data : List UInt8)
  | preflight (task : Nat)
  | openFile (task : Nat) (outcome : Except IoError Unit)
  | write (task : Nat)
  | writeFails (task : Nat) (err : IoError) (n : Nat)
  | answer (task : Nat) (outcome : Except IoError Unit)
  | readRecord (task : Nat) (outcome : Except IoError Unit)
  | removeRecord (task : Nat) (outcome : Except IoError Unit)
  | paired (task : Nat)
      (result : Except RusbmuxError (Option (List UInt8)))
  | cancel (task : Nat)

def start (record : Option (List UInt8)) : RecordRun where
  record := .start record

def moveTo (s : RecordRun) (task : Nat) (phase : RecordPhase) : RecordRun :=
  { s with tasks := Function.update s.tasks task (some phase) }

def spawn (s : RecordRun) (task : Nat) (phase : RecordPhase) : Option RecordRun :=
  match s.tasks task with
  | none => some (s.moveTo task phase)
  | some _ => none

def openFile (s : RecordRun) (task : Nat) (outcome : Except IoError Unit) :
    Option RecordRun :=
  match s.tasks task, outcome with
  | some (.opening writer data), .ok () =>
      some { s.moveTo task (.writing writer data s.record.target) with
        record := s.record.truncate }
  | some (.opening _ _), .error _ => some (s.moveTo task .ended)
  | _, _ => none

def write (s : RecordRun) (task : Nat) : Option RecordRun :=
  match s.tasks task with
  | some (.writing writer data file) =>
      some { s.moveTo task writer.afterwards with
        record := s.record.write file data
        written :=
          { task := task, writer := writer, data := data } :: s.written }
  | _ => none

def writeFails (s : RecordRun) (task n : Nat) : Option RecordRun :=
  match s.tasks task with
  | some (.writing _ data file) =>
      some { s.moveTo task .ended with
        record := s.record.write file (data.take n) }
  | _ => none

def answer (s : RecordRun) (task : Nat) (outcome : Except IoError Unit) :
    Option RecordRun :=
  match s.tasks task, outcome with
  | some .answering, .ok () =>
      some { s.moveTo task .ended with answered := task :: s.answered }
  | some .answering, .error _ => some (s.moveTo task .ended)
  | _, _ => none

variable (pairingFile : List UInt8 -> Except String String)

def readRecord (s : RecordRun) (task : Nat) (outcome : Except IoError Unit) :
    Option RecordRun :=
  match s.tasks task, outcome with
  | some .reading, .ok () =>
      match s.record.read with
      | none => some (s.moveTo task .pairing)
      | some bytes =>
          match pairingFile bytes with
          | .ok _ => some (s.moveTo task .pairing)
          | .error _ => some (s.moveTo task .removing)
  | some .reading, .error _ => some (s.moveTo task .ended)
  | _, _ => none

def removeRecord (s : RecordRun) (task : Nat) (outcome : Except IoError Unit) :
    Option RecordRun :=
  match s.tasks task, outcome with
  | some .removing, .ok () =>
      match s.record.name with
      | none => some (s.moveTo task .ended)
      | some _ => some { s.moveTo task .pairing with record := s.record.unlink }
  | some .removing, .error _ => some (s.moveTo task .ended)
  | _, _ => none

def paired (s : RecordRun) (task : Nat)
    (result : Except RusbmuxError (Option (List UInt8))) : Option RecordRun :=
  match s.tasks task, result with
  | some .pairing, .ok (some data) =>
      some (s.moveTo task (.opening .preflight data))
  | some .pairing, .ok none | some .pairing, .error _ =>
      some (s.moveTo task .ended)
  | _, _ => none

def cancel (s : RecordRun) (task : Nat) : Option RecordRun :=
  match s.tasks task with
  | some .reading | some .pairing => some (s.moveTo task .ended)
  | _ => none

def step : Machine RecordRun Action := fun s a =>
  match a with
  | .save task data => s.spawn task (.opening .save data)
  | .preflight task => s.spawn task .reading
  | .openFile task outcome => s.openFile task outcome
  | .write task => s.write task
  | .writeFails task _ n => s.writeFails task n
  | .answer task outcome => s.answer task outcome
  | .readRecord task outcome => s.readRecord pairingFile task outcome
  | .removeRecord task outcome => s.removeRecord task outcome
  | .paired task result => s.paired task result
  | .cancel task => s.cancel task

/-!
## What the operations can do
-/

section Operations

variable {s t : RecordRun} {task : Nat}

theorem spawn_eq_some {phase : RecordPhase} (hstep : s.spawn task phase = some t) :
    s.tasks task = none ∧ t = s.moveTo task phase := by
  unfold spawn at hstep
  split at hstep
  · rename_i hnone
    exact ⟨hnone, (Option.some.inj hstep).symm⟩
  · cases hstep

theorem openFile_cases {outcome : Except IoError Unit}
    (hstep : s.openFile task outcome = some t) :
    exists writer data, s.tasks task = some (.opening writer data) ∧
      (t = { s.moveTo task (.writing writer data s.record.target) with
          record := s.record.truncate } ∨
        t = s.moveTo task .ended) := by
  unfold openFile at hstep
  split at hstep
  · rename_i writer data htask
    exact ⟨writer, data, htask, Or.inl (Option.some.inj hstep).symm⟩
  · rename_i writer data err htask
    exact ⟨writer, data, htask, Or.inr (Option.some.inj hstep).symm⟩
  · cases hstep

theorem write_eq_some (hstep : s.write task = some t) :
    exists writer data file,
      s.tasks task = some (.writing writer data file) ∧
        t = { s.moveTo task writer.afterwards with
          record := s.record.write file data
          written :=
            { task := task, writer := writer, data := data } :: s.written } := by
  unfold write at hstep
  split at hstep
  · rename_i writer data file htask
    exact ⟨writer, data, file, htask, (Option.some.inj hstep).symm⟩
  · cases hstep

theorem writeFails_eq_some {n : Nat} (hstep : s.writeFails task n = some t) :
    exists writer data file,
      s.tasks task = some (.writing writer data file) ∧
        t = { s.moveTo task .ended with
          record := s.record.write file (data.take n) } := by
  unfold writeFails at hstep
  split at hstep
  · rename_i writer data file htask
    exact ⟨writer, data, file, htask, (Option.some.inj hstep).symm⟩
  · cases hstep

theorem answer_cases {outcome : Except IoError Unit}
    (hstep : s.answer task outcome = some t) :
    s.tasks task = some .answering ∧
      (t = { s.moveTo task .ended with answered := task :: s.answered } ∨
        t = s.moveTo task .ended) := by
  unfold answer at hstep
  split at hstep
  · rename_i htask
    exact ⟨htask, Or.inl (Option.some.inj hstep).symm⟩
  · rename_i htask
    exact ⟨htask, Or.inr (Option.some.inj hstep).symm⟩
  · cases hstep

theorem readRecord_cases {outcome : Except IoError Unit}
    (hstep : s.readRecord pairingFile task outcome = some t) :
    s.tasks task = some .reading ∧
      (t = s.moveTo task .pairing ∨ t = s.moveTo task .ended ∨
        (t = s.moveTo task .removing ∧ exists bytes err,
          s.record.read = some bytes ∧ pairingFile bytes = .error err)) := by
  unfold readRecord at hstep
  split at hstep
  · rename_i htask
    refine ⟨htask, ?_⟩
    split at hstep
    · exact Or.inl (Option.some.inj hstep).symm
    · rename_i bytes hread
      split at hstep
      · exact Or.inl (Option.some.inj hstep).symm
      · rename_i err hunparsed
        cases hstep
        exact Or.inr (Or.inr ⟨rfl, bytes, err, hread, hunparsed⟩)
  · rename_i htask
    exact ⟨htask, Or.inr (Or.inl (Option.some.inj hstep).symm)⟩
  · cases hstep

theorem removeRecord_cases {outcome : Except IoError Unit}
    (hstep : s.removeRecord task outcome = some t) :
    s.tasks task = some .removing ∧
      (t = s.moveTo task .ended ∨
        (outcome = .ok () ∧
          t = { s.moveTo task .pairing with record := s.record.unlink })) := by
  unfold removeRecord at hstep
  split at hstep
  · rename_i htask
    refine ⟨htask, ?_⟩
    split at hstep
    · exact Or.inl (Option.some.inj hstep).symm
    · exact Or.inr ⟨rfl, (Option.some.inj hstep).symm⟩
  · rename_i htask
    exact ⟨htask, Or.inl (Option.some.inj hstep).symm⟩
  · cases hstep

theorem paired_cases {result : Except RusbmuxError (Option (List UInt8))}
    (hstep : s.paired task result = some t) :
    s.tasks task = some .pairing ∧
      ((exists data, result = .ok (some data) ∧
          t = s.moveTo task (.opening .preflight data)) ∨
        t = s.moveTo task .ended) := by
  unfold paired at hstep
  split at hstep
  · rename_i data htask
    exact ⟨htask, Or.inl ⟨data, rfl, (Option.some.inj hstep).symm⟩⟩
  · rename_i htask
    exact ⟨htask, Or.inr (Option.some.inj hstep).symm⟩
  · rename_i htask
    exact ⟨htask, Or.inr (Option.some.inj hstep).symm⟩
  · cases hstep

theorem cancel_eq_some (hstep : s.cancel task = some t) :
    (s.tasks task = some .reading ∨ s.tasks task = some .pairing) ∧
      t = s.moveTo task .ended := by
  unfold cancel at hstep
  split at hstep
  · rename_i htask
    exact ⟨Or.inl htask, (Option.some.inj hstep).symm⟩
  · rename_i htask
    exact ⟨Or.inr htask, (Option.some.inj hstep).symm⟩
  · cases hstep

end Operations

/-!
## Durability
-/

def Quiet (s : RecordRun) : Prop :=
  forall task phase, s.tasks task = some phase -> phase.isWork = false

def sinceSaveOf (task : Nat) : List Written -> List (List UInt8)
  | [] => []
  | w :: rest =>
      w.data :: if w.task = task ∧ w.writer = .save then []
        else sinceSaveOf task rest

/-- The record holds what the answered save or a later write left complete. -/
def Durable (s : RecordRun) : Prop :=
  s.Quiet -> forall task, task ∈ s.answered ->
    exists data, data ∈ sinceSaveOf task s.written ∧
      s.record.read = some data

def SaveDone (s : RecordRun) : Prop :=
  exists w, w ∈ s.written ∧ w.writer = .save

def sinceLastSave : List Written -> List (List UInt8)
  | [] => []
  | w :: rest => w.data :: if w.writer = .save then [] else sinceLastSave rest

def Whole (s : RecordRun) : Prop :=
  exists data, data ∈ sinceLastSave s.written ∧ s.record.read = some data

def Writes (s : RecordRun) (task : Nat) : Prop :=
  exists writer data file, s.tasks task = some (.writing writer data file) ∧
    s.record.name = some file

def OtherWrites (s : RecordRun) (task : Nat) : Prop :=
  exists other, other ≠ task ∧ s.Writes other

def Covers (s : RecordRun) (file : Nat) (data : List UInt8) : Prop :=
  s.record.name = some file ∧
    (s.record.files file).length <= data.length

/--
From the first save on, while no other write to the record is open: a write that
goes through covers the record, or is of a preflight run and leaves a whole
record alone; a write that fails leaves a whole record alone; and no preflight
run removes the record.
-/
def KeepsRecord (s : RecordRun) : Action -> Prop
  | .write task =>
      forall writer data file,
        s.tasks task = some (.writing writer data file) ->
        writer = .save ∨ s.SaveDone ->
          s.Covers file data ∨ s.OtherWrites task ∨
            (writer = .preflight ∧ s.record.name ≠ some file ∧ s.Whole)
  | .writeFails task _ n =>
      forall writer data file,
        s.tasks task = some (.writing writer data file) -> s.SaveDone ->
          s.OtherWrites task ∨
            ((data.take n = [] ∨ s.record.name ≠ some file) ∧ s.Whole)
  | .removeRecord _ (.ok ()) => ¬ s.SaveDone
  | .save _ _ | .preflight _ | .openFile _ _ | .answer _ _ | .readRecord _ _
  | .removeRecord _ (.error _) | .paired _ _ | .cancel _ => True

def Done (s : RecordRun) (task : Nat) : Prop :=
  exists w, w ∈ s.written ∧ w.task = task ∧ w.writer = .save

structure Invariant (s : RecordRun) : Prop where
  answered : forall task, task ∈ s.answered -> s.Done task
  answering : forall task, s.tasks task = some .answering -> s.Done task
  recoverable : s.SaveDone -> s.Whole ∨ exists task, s.Writes task

theorem sinceLastSave_subset {task : Nat} {written : List Written}
    (hdone : exists w, w ∈ written ∧ w.task = task ∧ w.writer = .save) :
    sinceLastSave written ⊆ sinceSaveOf task written := by
  induction written with
  | nil => exact List.nil_subset _
  | cons w rest ih =>
      unfold sinceLastSave sinceSaveOf
      apply List.cons_subset_cons
      by_cases hsave : w.writer = .save
      · rw [if_pos hsave]
        exact List.nil_subset _
      · rw [if_neg hsave, if_neg fun h => hsave h.right]
        rcases hdone with ⟨v, hv, htask, hwriter⟩
        rcases List.mem_cons.mp hv with rfl | hv
        · exact absurd hwriter hsave
        · exact ih ⟨v, hv, htask, hwriter⟩

theorem tasks_moveTo_self (s : RecordRun) (task : Nat) (phase : RecordPhase) :
    (s.moveTo task phase).tasks task = some phase :=
  Function.update_self _ _ _

theorem tasks_moveTo_of_ne (s : RecordRun) {task other : Nat} (phase : RecordPhase)
    (h : other ≠ task) : (s.moveTo task phase).tasks other = s.tasks other :=
  Function.update_of_ne h _ _

theorem tasks_moveTo_eq_some {s : RecordRun} {task other : Nat}
    {phase p : RecordPhase}
    (h : (s.moveTo task phase).tasks other = some p) :
    (other = task ∧ p = phase) ∨ (other ≠ task ∧ s.tasks other = some p) :=
  of_update_eq_some h

theorem OtherWrites.stay {s t : RecordRun} {task : Nat} {phase : RecordPhase}
    (h : s.OtherWrites task) (htasks : t.tasks = (s.moveTo task phase).tasks)
    (hname : t.record.name = s.record.name) : exists other, t.Writes other := by
  rcases h with ⟨other, hother, writer, data, file, hwriting, hfile⟩
  refine ⟨other, writer, data, file, ?_, ?_⟩
  · rw [htasks, tasks_moveTo_of_ne s phase hother]
    exact hwriting
  · rw [hname]
    exact hfile

theorem otherWrites_of_writes {s : RecordRun} {task : Nat}
    (hidle : ¬ s.Writes task) (h : exists other, s.Writes other) :
    s.OtherWrites task := by
  rcases h with ⟨other, hother⟩
  refine ⟨other, ?_, hother⟩
  intro hsame
  exact hidle (hsame ▸ hother)

theorem not_writes_of_phase {s : RecordRun} {task : Nat}
    {phase : Option RecordPhase}
    (htask : s.tasks task = phase)
    (hphase : forall writer data file,
      phase ≠ some (.writing writer data file)) : ¬ s.Writes task := by
  intro hwrites
  rcases hwrites with ⟨writer, data, file, hwriting, _⟩
  rw [htask] at hwriting
  exact hphase writer data file hwriting

namespace Invariant

variable {s t : RecordRun}

theorem init (record : Option (List UInt8)) : Invariant (start record) where
  answered := fun _ h => by cases h
  answering := fun _ h => by cases h
  recoverable := by
    intro hdone
    rcases hdone with ⟨w, hw, _⟩
    cases hw

theorem durable (h : Invariant s) : s.Durable := by
  intro hquiet task htask
  have hdone := h.answered task htask
  have hsaved : s.SaveDone := by
    rcases hdone with ⟨w, hw, _, hsave⟩
    exact ⟨w, hw, hsave⟩
  rcases h.recoverable hsaved with ⟨data, hdata, hread⟩ | ⟨other, hwrites⟩
  · exact ⟨data, sinceLastSave_subset hdone hdata, hread⟩
  · rcases hwrites with ⟨writer, data, file, hwriting, _⟩
    exact absurd (hquiet other _ hwriting) (by simp [RecordPhase.isWork])

theorem unwritten (h : Invariant s) {task : Nat} {phase : RecordPhase}
    (htasks : t.tasks = (s.moveTo task phase).tasks)
    (hwritten : t.written = s.written)
    (hphase : phase ≠ .answering)
    (hanswered : forall other, other ∈ t.answered ->
      other ∈ s.answered ∨ s.tasks other = some .answering)
    (hrecoverable : s.SaveDone -> t.Whole ∨ exists other, t.Writes other) :
    Invariant t := by
  have hdone : forall other, s.Done other -> t.Done other := by
    intro other hother
    unfold Done
    rw [hwritten]
    exact hother
  constructor
  · intro other hother
    rcases hanswered other hother with hother | hother
    · exact hdone other (h.answered other hother)
    · exact hdone other (h.answering other hother)
  · intro other hother
    rw [htasks] at hother
    rcases tasks_moveTo_eq_some hother with ⟨_, hsame⟩ | ⟨_, hstill⟩
    · exact absurd hsame.symm hphase
    · exact hdone other (h.answering other hstill)
  · intro hsaved
    apply hrecoverable
    unfold SaveDone at hsaved
    rw [hwritten] at hsaved
    exact hsaved

theorem moves (h : Invariant s) {task : Nat} {phase : RecordPhase}
    (hidle : ¬ s.Writes task) (htasks : t.tasks = (s.moveTo task phase).tasks)
    (hrecord : t.record = s.record) (hwritten : t.written = s.written)
    (hphase : phase ≠ .answering)
    (hanswered : forall other, other ∈ t.answered ->
      other ∈ s.answered ∨ s.tasks other = some .answering) :
    Invariant t := by
  apply h.unwritten htasks hwritten hphase hanswered
  intro hsaved
  rcases h.recoverable hsaved with hwhole | hwrites
  · apply Or.inl
    unfold Whole
    rw [hwritten, hrecord]
    exact hwhole
  · apply Or.inr
    apply (otherWrites_of_writes hidle hwrites).stay htasks
    rw [hrecord]

theorem moved (h : Invariant s) {task : Nat} {phase : RecordPhase}
    (hidle : ¬ s.Writes task) (hphase : phase ≠ .answering) :
    Invariant (s.moveTo task phase) :=
  h.moves hidle rfl rfl rfl hphase fun _ ha => Or.inl ha

theorem spawn (h : Invariant s) {task : Nat} {phase : RecordPhase}
    (hphase : phase ≠ .answering) (hstep : s.spawn task phase = some t) :
    Invariant t := by
  rcases spawn_eq_some hstep with ⟨hnone, rfl⟩
  exact h.moved (not_writes_of_phase hnone nofun) hphase

theorem openFile (h : Invariant s) {task : Nat} {outcome : Except IoError Unit}
    (hstep : s.openFile task outcome = some t) : Invariant t := by
  rcases openFile_cases hstep with ⟨writer, data, htask, rfl | rfl⟩
  · refine h.unwritten rfl rfl nofun (fun _ ha => Or.inl ha) ?_
    intro _
    apply Or.inr
    exact ⟨task, writer, data, s.record.target, tasks_moveTo_self _ _ _, rfl⟩
  · exact h.moved (not_writes_of_phase htask nofun) nofun

theorem answer (h : Invariant s) {task : Nat} {outcome : Except IoError Unit}
    (hstep : s.answer task outcome = some t) : Invariant t := by
  rcases answer_cases hstep with ⟨htask, rfl | rfl⟩
  · refine h.moves (not_writes_of_phase htask nofun) rfl rfl rfl nofun ?_
    intro other hother
    rcases List.mem_cons.mp hother with rfl | hother
    · exact Or.inr htask
    · exact Or.inl hother
  · exact h.moved (not_writes_of_phase htask nofun) nofun

theorem readRecord {pairingFile : List UInt8 -> Except String String}
    (h : Invariant s) {task : Nat} {outcome : Except IoError Unit}
    (hstep : s.readRecord pairingFile task outcome = some t) :
    Invariant t := by
  rcases readRecord_cases pairingFile hstep with ⟨htask, hnext⟩
  have hidle : ¬ s.Writes task := not_writes_of_phase htask nofun
  rcases hnext with rfl | rfl | ⟨rfl, _⟩
  · exact h.moved hidle nofun
  · exact h.moved hidle nofun
  · exact h.moved hidle nofun

theorem paired (h : Invariant s) {task : Nat}
    {result : Except RusbmuxError (Option (List UInt8))}
    (hstep : s.paired task result = some t) : Invariant t := by
  rcases paired_cases hstep with ⟨htask, ⟨data, _, rfl⟩ | rfl⟩
  · exact h.moved (not_writes_of_phase htask nofun) nofun
  · exact h.moved (not_writes_of_phase htask nofun) nofun

theorem cancel (h : Invariant s) {task : Nat}
    (hstep : s.cancel task = some t) : Invariant t := by
  rcases cancel_eq_some hstep with ⟨htask | htask, rfl⟩
  · exact h.moved (not_writes_of_phase htask nofun) nofun
  · exact h.moved (not_writes_of_phase htask nofun) nofun

theorem removeRecord (h : Invariant s) {task : Nat}
    {outcome : Except IoError Unit}
    (hstep : s.removeRecord task outcome = some t)
    (hguard : s.KeepsRecord (.removeRecord task outcome)) : Invariant t := by
  rcases removeRecord_cases hstep with ⟨htask, rfl | ⟨rfl, rfl⟩⟩
  · exact h.moved (not_writes_of_phase htask nofun) nofun
  · refine h.unwritten rfl rfl nofun (fun _ ha => Or.inl ha) ?_
    intro hsaved
    exact absurd hsaved hguard

theorem writeFails (h : Invariant s) {task n : Nat} {err : IoError}
    (hstep : s.writeFails task n = some t)
    (hguard : s.KeepsRecord (.writeFails task err n)) : Invariant t := by
  rcases writeFails_eq_some hstep with ⟨writer, data, file, htask, rfl⟩
  refine h.unwritten rfl rfl nofun (fun _ ha => Or.inl ha) ?_
  intro hsaved
  rcases hguard writer data file htask hsaved with hother | ⟨hkept, hwhole⟩
  · exact Or.inr (hother.stay rfl rfl)
  · apply Or.inl
    rcases hwhole with ⟨last, hlast, hread⟩
    refine ⟨last, hlast, ?_⟩
    rw [← hread]
    rcases hkept with hnothing | hname
    · show (s.record.write file (data.take n)).read = _
      rw [hnothing, NamedFile.read_write_nil]
    · exact NamedFile.read_write_other _ hname

theorem write (h : Invariant s) {task : Nat} (hstep : s.write task = some t)
    (hguard : s.KeepsRecord (.write task)) : Invariant t := by
  rcases write_eq_some hstep with ⟨writer, data, file, htask, rfl⟩
  constructor
  · intro other hother
    rcases h.answered other hother with ⟨w, hw, hdone⟩
    exact ⟨w, List.mem_cons_of_mem _ hw, hdone⟩
  · intro other hother
    rcases tasks_moveTo_eq_some hother with ⟨rfl, hphase⟩ | ⟨_, hstill⟩
    · refine ⟨_, List.mem_cons_self, rfl, ?_⟩
      cases writer with
      | save => rfl
      | preflight => cases hphase
    · rcases h.answering other hstill with ⟨w, hw, hdone⟩
      exact ⟨w, List.mem_cons_of_mem _ hw, hdone⟩
  · intro hsaved
    have hneeds : writer = .save ∨ s.SaveDone := by
      rcases hsaved with ⟨w, hw, hsave⟩
      rcases List.mem_cons.mp hw with rfl | hw
      · exact Or.inl hsave
      · exact Or.inr ⟨w, hw, hsave⟩
    rcases hguard writer data file htask hneeds with
      ⟨hname, hlength⟩ | hother | ⟨hwriter, hname, hwhole⟩
    · apply Or.inl
      exact ⟨data, List.mem_cons_self,
        NamedFile.read_write_named hname hlength⟩
    · exact Or.inr (hother.stay rfl rfl)
    · apply Or.inl
      rcases hwhole with ⟨last, hlast, hread⟩
      refine ⟨last, ?_, ?_⟩
      · show last ∈ data :: if writer = .save then [] else _
        rw [hwriter, if_neg nofun]
        exact List.mem_cons_of_mem _ hlast
      · rw [← hread]
        exact NamedFile.read_write_other _ hname

end Invariant

variable {pairingFile : List UInt8 -> Except String String}

theorem invariant_step {s t : RecordRun} {a : Action} (h : Invariant s)
    (hstep : step pairingFile s a = some t) (hguard : s.KeepsRecord a) :
    Invariant t := by
  cases a with
  | save task data =>
      refine h.spawn ?_ hstep
      nofun
  | preflight task =>
      refine h.spawn ?_ hstep
      nofun
  | openFile task outcome => exact h.openFile hstep
  | write task => exact h.write hstep hguard
  | writeFails task err n => exact h.writeFails hstep hguard
  | answer task outcome => exact h.answer hstep
  | readRecord task outcome => exact h.readRecord hstep
  | removeRecord task outcome => exact h.removeRecord hstep hguard
  | paired task result => exact h.paired hstep
  | cancel task => exact h.cancel hstep

/--
In a run whose steps keep the record, whatever was there at the start, a quiet
record holds what the answered save or a later write left complete.
-/
theorem durable_of_keepsRecord (record : Option (List UInt8))
    {acts : List Action}
    (hguarded : Machine.Guarded (step pairingFile) KeepsRecord (start record)
      acts) :
    Machine.Throughout (step pairingFile) Durable (start record) acts := by
  intro pre t hpre hrun
  exact (Machine.throughout_of_guarded
    (fun _ _ _ h hstep hguard => invariant_step h hstep hguard)
    (Invariant.init record) hguarded pre t hpre hrun).durable

def nonemptyPairingFile (bytes : List UInt8) : Except String String :=
  if bytes.isEmpty then .error "unexpected end of file" else .ok ""

def twoSaves : List Action :=
  [.save 1 [60, 112, 62], .save 2 [60, 112, 47, 62], .preflight 3,
    .openFile 1 (.ok ()), .openFile 2 (.ok ()), .write 1, .write 2,
    .readRecord 3 (.ok ()), .answer 2 (.ok ()), .answer 1 (.ok ())]

theorem keepsRecord_twoSaves :
    Machine.Guarded (step nonemptyPairingFile) KeepsRecord (start none)
      twoSaves := by
  refine .cons rfl trivial (.cons rfl trivial (.cons rfl trivial
    (.cons rfl trivial (.cons rfl trivial (.cons rfl ?_ (.cons rfl ?_ ?_))))))
  · intro writer data file htask _
    cases htask
    exact Or.inl ⟨rfl, Nat.zero_le _⟩
  · intro writer data file htask _
    cases htask
    exact Or.inl ⟨rfl, by decide⟩
  · exact .cons rfl trivial (.cons rfl trivial (.cons rfl trivial
      (Machine.guarded_nil _ _ _)))

theorem durable_of_keepsRecord_twoSaves :
    Machine.Throughout (step nonemptyPairingFile) Durable (start none)
      twoSaves :=
  durable_of_keepsRecord none keepsRecord_twoSaves

/--
A preflight run reads the record while a save has truncated it, and removes it
after the save was answered with OK.
-/
def removedSave : List Action :=
  [.save 1 [60, 112, 62], .openFile 1 (.ok ()),
    .preflight 2, .readRecord 2 (.ok ()),
    .write 1, .answer 1 (.ok ()),
    .removeRecord 2 (.ok ()), .paired 2 (.ok none)]

theorem not_durable_removedSave :
    ¬ forall record acts,
      Machine.Throughout (step nonemptyPairingFile) Durable (start record)
        acts := by
  intro h
  have hlast := (h none removedSave).last rfl
  have hquiet := hlast ?_ 1 (List.mem_singleton_self 1)
  · rcases hquiet with ⟨data, _, hread⟩
    cases hread
  · intro task phase hphase
    match task, hphase with
    | 1, hsave =>
        cases hsave
        rfl
    | 2, hrun =>
        cases hrun
        rfl

end RecordRun

end Handler
end Rusbmux
