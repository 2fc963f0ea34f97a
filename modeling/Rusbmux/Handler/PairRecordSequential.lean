import Rusbmux.Handler.PairRecord

/-!
# Pair records saved one after the other

A record is lost only when saves and preflight runs overlap, a write fails, or
what is written is no pairing file.  Runs without these keep every saved record:
a preflight run that reads a saved record finds it whole, parses it, and removes
nothing.
-/

namespace Rusbmux
namespace Handler

open Foundation
open Rusbmux.Parser

namespace RecordRun

variable (pairingFile : List UInt8 -> Except String String)

def Parses (data : List UInt8) : Prop :=
  exists macAddress, pairingFile data = .ok macAddress

/--
Saves and preflight runs follow one another, no write fails, and what is written
can be parsed.
-/
def Sequential (s : RecordRun) : Action -> Prop
  | .save _ data => s.Quiet ∧ Parses pairingFile data
  | .preflight _ => s.Quiet
  | .writeFails _ _ _ => False
  | .paired _ (.ok (some data)) => Parses pairingFile data
  | .openFile _ _ | .write _ | .answer _ _ | .readRecord _ _
  | .removeRecord _ _ | .paired _ (.ok none) | .paired _ (.error _)
  | .cancel _ => True

def toWrite : RecordPhase -> Option (List UInt8)
  | .opening _ data | .writing _ data _ => some data
  | .answering | .reading | .removing | .pairing | .ended => none

structure Ordered (s : RecordRun) : Prop where
  alone : forall task other p q, s.tasks task = some p ->
    s.tasks other = some q -> p.isWork = true -> q.isWork = true ->
      task = other
  opened : forall task writer data file,
    s.tasks task = some (.writing writer data file) ->
      s.record.name = some file ∧ s.record.files file = []
  parses : forall task phase data, s.tasks task = some phase ->
    toWrite phase = some data -> Parses pairingFile data
  removing : s.SaveDone -> forall task, s.tasks task ≠ some .removing
  saved : s.SaveDone -> (forall task, ¬ s.Writes task) ->
    exists data, data ∈ sinceLastSave s.written ∧
      s.record.read = some data ∧ Parses pairingFile data

variable {pairingFile}

namespace Ordered

variable {s t : RecordRun}

theorem init (record : Option (List UInt8)) :
    Ordered pairingFile (start record) where
  alone := fun _ _ _ _ h => by cases h
  opened := fun _ _ _ _ h => by cases h
  parses := fun _ _ _ h => by cases h
  removing := by
    intro hdone
    rcases hdone with ⟨w, hw, _⟩
    cases hw
  saved := by
    intro hdone
    rcases hdone with ⟨w, hw, _⟩
    cases hw

theorem alone_moveTo (h : Ordered pairingFile s) {task : Nat} {phase : RecordPhase}
    (hwork : phase.isWork = true -> s.Quiet ∨
      exists p, s.tasks task = some p ∧ p.isWork = true)
    {one other : Nat} {p q : RecordPhase}
    (hone : (s.moveTo task phase).tasks one = some p)
    (hother : (s.moveTo task phase).tasks other = some q)
    (hp : p.isWork = true) (hq : q.isWork = true) : one = other := by
  have hstays : forall k r, k ≠ task -> s.tasks k = some r ->
      r.isWork = true -> phase.isWork = true -> False := by
    intro k r hk htask hr hphase
    rcases hwork hphase with hquiet | ⟨before, hbefore, hworked⟩
    · rw [hquiet k r htask] at hr
      cases hr
    · exact hk (h.alone k task r before htask hbefore hr hworked)
  rcases tasks_moveTo_eq_some hone with ⟨hfirst, rfl⟩ | ⟨hfirst, hstill⟩
  · rcases tasks_moveTo_eq_some hother with ⟨hsecond, _⟩ | ⟨hsecond, hother⟩
    · exact hfirst.trans hsecond.symm
    · exact (hstays other q hsecond hother hq hp).elim
  · rcases tasks_moveTo_eq_some hother with ⟨_, rfl⟩ | ⟨_, hother⟩
    · exact (hstays one p hfirst hstill hp hq).elim
    · exact h.alone one other p q hstill hother hp hq

theorem moves (h : Ordered pairingFile s) {task : Nat} {phase : RecordPhase}
    (hwork : phase.isWork = true -> s.Quiet ∨
      exists p, s.tasks task = some p ∧ p.isWork = true)
    (hidle : ¬ s.Writes task)
    (hnot : forall writer data file, phase ≠ .writing writer data file)
    (hparses : forall data, toWrite phase = some data ->
      Parses pairingFile data)
    (hremoving : s.SaveDone -> phase ≠ .removing)
    (htasks : t.tasks = (s.moveTo task phase).tasks)
    (hrecord : t.record = s.record) (hwritten : t.written = s.written) :
    Ordered pairingFile t := by
  constructor
  · intro one other p q hone hother
    rw [htasks] at hone hother
    exact h.alone_moveTo hwork hone hother
  · intro other writer data file hwriting
    rw [htasks] at hwriting
    rw [hrecord]
    rcases tasks_moveTo_eq_some hwriting with ⟨_, hsame⟩ | ⟨_, hstill⟩
    · exact absurd hsame.symm (hnot writer data file)
    · exact h.opened other writer data file hstill
  · intro other p data hp hdata
    rw [htasks] at hp
    rcases tasks_moveTo_eq_some hp with ⟨_, rfl⟩ | ⟨_, hstill⟩
    · exact hparses data hdata
    · exact h.parses other p data hstill hdata
  · intro hdone other hother
    unfold SaveDone at hdone
    rw [hwritten] at hdone
    rw [htasks] at hother
    rcases tasks_moveTo_eq_some hother with ⟨_, hsame⟩ | ⟨_, hstill⟩
    · exact hremoving hdone hsame.symm
    · exact h.removing hdone other hstill
  · intro hdone hnone
    unfold SaveDone at hdone
    rw [hwritten] at hdone
    rw [hwritten, hrecord]
    apply h.saved hdone
    intro other hwrites
    rcases (otherWrites_of_writes hidle ⟨other, hwrites⟩).stay htasks
      (by rw [hrecord]) with ⟨still, hstill⟩
    exact hnone still hstill

theorem ends (h : Ordered pairingFile s) {task : Nat}
    (hidle : ¬ s.Writes task)
    (htasks : t.tasks = (s.moveTo task .ended).tasks)
    (hrecord : t.record = s.record) (hwritten : t.written = s.written) :
    Ordered pairingFile t := by
  refine h.moves ?_ hidle ?_ ?_ ?_ htasks hrecord hwritten
  · intro hwork
    cases hwork
  · nofun
  · nofun
  · nofun

theorem no_other {task other : Nat} (h : Ordered pairingFile s) {p q : RecordPhase}
    (htask : s.tasks task = some p) (hp : p.isWork = true)
    (hother : other ≠ task) (hq : s.tasks other = some q) :
    q.isWork = false := by
  cases hwork : q.isWork with
  | false => rfl
  | true => exact absurd (h.alone other task q p hq htask hwork hp) hother

theorem openFile (h : Ordered pairingFile s) {task : Nat}
    {outcome : Except IoError Unit}
    (hstep : s.openFile task outcome = some t) : Ordered pairingFile t := by
  rcases openFile_cases hstep with ⟨writer, data, htask, rfl | rfl⟩
  · have hothers : forall other q, other ≠ task -> s.tasks other = some q ->
        q.isWork = false :=
      fun other q hother hq => h.no_other htask rfl hother hq
    constructor
    · intro one other p q hone hother
      exact h.alone_moveTo (fun _ => Or.inr ⟨_, htask, rfl⟩) hone hother
    · intro other writer' data' file hwriting
      rcases tasks_moveTo_eq_some hwriting with ⟨_, hphase⟩ | ⟨hne, hstill⟩
      · cases hphase
        exact ⟨rfl, Function.update_self _ _ _⟩
      · exact absurd (hothers other _ hne hstill)
          (by simp [RecordPhase.isWork])
    · intro other p data' hp hdata
      rcases tasks_moveTo_eq_some hp with ⟨_, rfl⟩ | ⟨_, hstill⟩
      · exact h.parses _ _ data' htask hdata
      · exact h.parses other p data' hstill hdata
    · intro hdone other hother
      rcases tasks_moveTo_eq_some hother with ⟨_, hphase⟩ | ⟨_, hstill⟩
      · cases hphase
      · exact h.removing hdone other hstill
    · intro _ hnone
      exact absurd
        ⟨writer, data, s.record.target, tasks_moveTo_self _ _ _, rfl⟩
        (hnone task)
  · have hidle : ¬ s.Writes task := by
      apply not_writes_of_phase htask
      intro writer' data' file hphase
      cases hphase
    exact h.ends hidle rfl rfl rfl

theorem write (h : Ordered pairingFile s) {task : Nat}
    (hstep : s.write task = some t) : Ordered pairingFile t := by
  rcases write_eq_some hstep with ⟨writer, data, file, htask, rfl⟩
  have hrest : writer.afterwards.isWork = false := by
    cases writer <;> rfl
  have hothers : forall other q, other ≠ task -> s.tasks other = some q ->
      q.isWork = false :=
    fun other q hother hq => h.no_other htask rfl hother hq
  have hquiet : (s.moveTo task writer.afterwards).Quiet := by
    intro other q hq
    rcases tasks_moveTo_eq_some hq with ⟨_, rfl⟩ | ⟨hne, hstill⟩
    · exact hrest
    · exact hothers other q hne hstill
  constructor
  · intro one other p q hone _ hp _
    rw [hquiet one p hone] at hp
    cases hp
  · intro other writer' data' file' hwriting
    exact absurd (hquiet other _ hwriting) (by simp [RecordPhase.isWork])
  · intro other p data' hp hdata
    have hrested := hquiet other p hp
    cases p with
    | opening _ _ | writing _ _ _ => cases hrested
    | answering | reading | removing | pairing | ended => cases hdata
  · intro _ other hother
    exact absurd (hquiet other _ hother) (by simp [RecordPhase.isWork])
  · intro _ _
    rcases h.opened task writer data file htask with ⟨hname, hempty⟩
    refine ⟨data, List.mem_cons_self, ?_, h.parses task _ data htask rfl⟩
    apply NamedFile.read_write_named hname
    rw [hempty]
    exact Nat.zero_le _

theorem readRecord (h : Ordered pairingFile s) {task : Nat}
    {outcome : Except IoError Unit}
    (hstep : s.readRecord pairingFile task outcome = some t) :
    Ordered pairingFile t := by
  rcases readRecord_cases pairingFile hstep with ⟨htask, hnext⟩
  have hidle := not_writes_of_phase htask nofun
  have hwork : s.Quiet ∨ exists p, s.tasks task = some p ∧ p.isWork = true :=
    Or.inr ⟨_, htask, rfl⟩
  rcases hnext with rfl | rfl | ⟨rfl, bytes, err, hread, hunparsed⟩
  · refine h.moves (fun _ => hwork) hidle ?_ ?_ ?_ rfl rfl rfl
    · nofun
    · nofun
    · nofun
  · exact h.ends hidle rfl rfl rfl
  · refine h.moves (fun _ => hwork) hidle ?_ ?_ ?_ rfl rfl rfl
    · nofun
    · nofun
    · intro hdone
      -- Nobody writes beside this run, so what it could not parse was saved.
      have hnone : forall other, ¬ s.Writes other := by
        intro other hwrites
        rcases hwrites with ⟨writer, data, file, hwriting, _⟩
        have hsame := h.alone other task _ _ hwriting htask rfl rfl
        rw [hsame, htask] at hwriting
        cases hwriting
      rcases h.saved hdone hnone with ⟨data, _, hdata, macAddress, hparses⟩
      rw [hread] at hdata
      cases hdata
      rw [hunparsed] at hparses
      cases hparses

theorem removeRecord (h : Ordered pairingFile s) {task : Nat}
    {outcome : Except IoError Unit}
    (hstep : s.removeRecord task outcome = some t) :
    Ordered pairingFile t := by
  rcases removeRecord_cases hstep with ⟨htask, rfl | ⟨rfl, rfl⟩⟩
  · exact h.ends (not_writes_of_phase htask nofun) rfl rfl rfl
  · have hnot : ¬ s.SaveDone := fun hdone => h.removing hdone task htask
    constructor
    · intro one other p q hone hother
      exact h.alone_moveTo (fun _ => Or.inr ⟨_, htask, rfl⟩) hone hother
    · intro other writer data file hwriting
      rcases tasks_moveTo_eq_some hwriting with ⟨_, hphase⟩ | ⟨hne, hstill⟩
      · cases hphase
      · exact absurd (h.no_other htask rfl hne hstill)
          (by simp [RecordPhase.isWork])
    · intro other p data hp hdata
      rcases tasks_moveTo_eq_some hp with ⟨_, rfl⟩ | ⟨_, hstill⟩
      · cases hdata
      · exact h.parses other p data hstill hdata
    · intro hdone
      exact absurd hdone hnot
    · intro hdone
      exact absurd hdone hnot

theorem paired (h : Ordered pairingFile s) {task : Nat}
    {result : Except RusbmuxError (Option (List UInt8))}
    (hstep : s.paired task result = some t)
    (hparses : s.Sequential pairingFile (.paired task result)) :
    Ordered pairingFile t := by
  rcases paired_cases hstep with ⟨htask, ⟨data, rfl, rfl⟩ | rfl⟩
  · refine h.moves (fun _ => Or.inr ⟨_, htask, rfl⟩)
      (not_writes_of_phase htask nofun) ?_ ?_ ?_ rfl rfl rfl
    · nofun
    · intro other hother
      cases hother
      exact hparses
    · nofun
  · exact h.ends (not_writes_of_phase htask nofun) rfl rfl rfl

theorem cancel (h : Ordered pairingFile s) {task : Nat}
    (hstep : s.cancel task = some t) : Ordered pairingFile t := by
  rcases cancel_eq_some hstep with ⟨htask | htask, rfl⟩
  · exact h.ends (not_writes_of_phase htask nofun) rfl rfl rfl
  · exact h.ends (not_writes_of_phase htask nofun) rfl rfl rfl

theorem answer (h : Ordered pairingFile s) {task : Nat}
    {outcome : Except IoError Unit}
    (hstep : s.answer task outcome = some t) : Ordered pairingFile t := by
  rcases answer_cases hstep with ⟨htask, rfl | rfl⟩
  · exact h.ends (not_writes_of_phase htask nofun) rfl rfl rfl
  · exact h.ends (not_writes_of_phase htask nofun) rfl rfl rfl

theorem save (h : Ordered pairingFile s) {task : Nat} {data : List UInt8}
    (hquiet : s.Quiet) (hparses : Parses pairingFile data)
    (hstep : s.spawn task (.opening .save data) = some t) :
    Ordered pairingFile t := by
  rcases spawn_eq_some hstep with ⟨hnone, rfl⟩
  refine h.moves (fun _ => Or.inl hquiet) (not_writes_of_phase hnone nofun)
    ?_ ?_ ?_ rfl rfl rfl
  · nofun
  · intro other hother
    cases hother
    exact hparses
  · nofun

theorem preflight (h : Ordered pairingFile s) {task : Nat}
    (hquiet : s.Quiet) (hstep : s.spawn task .reading = some t) :
    Ordered pairingFile t := by
  rcases spawn_eq_some hstep with ⟨hnone, rfl⟩
  refine h.moves (fun _ => Or.inl hquiet) (not_writes_of_phase hnone nofun)
    ?_ ?_ ?_ rfl rfl rfl
  · nofun
  · nofun
  · nofun

theorem keepsRecord (h : Ordered pairingFile s) {a : Action}
    (hstep : step pairingFile s a = some t)
    (hsequential : s.Sequential pairingFile a) : s.KeepsRecord a := by
  cases a with
  | write task =>
      intro writer data file htask _
      rcases h.opened task writer data file htask with ⟨hname, hempty⟩
      apply Or.inl
      refine ⟨hname, ?_⟩
      rw [hempty]
      exact Nat.zero_le _
  | writeFails task err n => exact hsequential.elim
  | removeRecord task outcome =>
      cases outcome with
      | ok _ =>
          intro hdone
          have hremove : s.removeRecord task (.ok ()) = some t := hstep
          exact h.removing hdone task (removeRecord_cases hremove).left
      | error _ => trivial
  | save _ _ | preflight _ | openFile _ _ | answer _ _ | readRecord _ _
  | paired _ _ | cancel _ => trivial

theorem sequential_step (h : Ordered pairingFile s) {a : Action}
    (hstep : step pairingFile s a = some t)
    (hsequential : s.Sequential pairingFile a) : Ordered pairingFile t := by
  cases a with
  | save task data => exact h.save hsequential.left hsequential.right hstep
  | preflight task => exact h.preflight hsequential hstep
  | openFile task outcome => exact h.openFile hstep
  | write task => exact h.write hstep
  | writeFails task err n => exact hsequential.elim
  | answer task outcome => exact h.answer hstep
  | readRecord task outcome => exact h.readRecord hstep
  | removeRecord task outcome => exact h.removeRecord hstep
  | paired task result => exact h.paired hstep hsequential
  | cancel task => exact h.cancel hstep

end Ordered

theorem durable_of_sequential (record : Option (List UInt8))
    {acts : List Action}
    (hguarded : Machine.Guarded (step pairingFile) (Sequential pairingFile)
      (start record) acts) :
    Machine.Throughout (step pairingFile) Durable (start record) acts := by
  intro pre t hpre hrun
  refine (Machine.throughout_of_guarded
    (I := fun s : RecordRun => s.Invariant ∧ Ordered pairingFile s) ?_
    ⟨Invariant.init record, Ordered.init record⟩ hguarded pre t hpre
    hrun).left.durable
  intro s a t h hstep hsequential
  have hkeeps := h.right.keepsRecord hstep hsequential
  exact ⟨invariant_step h.left hstep hkeeps,
    h.right.sequential_step hstep hsequential⟩

end RecordRun

end Handler
end Rusbmux
