import Mathlib.Logic.Function.Basic
import Rusbmux.Foundation.Machine
import Rusbmux.Handler.Handlers
import Rusbmux.Parser.UsbMuxRoundTrip

/-!
# The system BUID under concurrent calls

`read_system_buid` as the steps it awaits one after the other: it asks whether
the configuration is there and then writes a new one or reads the one there is.
Any number of calls, for clients or for preflight runs, interleave with the
requests and the preflight steps that write or remove a file of the lockdown
directory under a name of their own.
-/

namespace Rusbmux
namespace Handler

open Foundation
open Rusbmux.Parser
open Rusbmux.Plist

inductive WriteOutcome where
  | done
  | failed (err : IoError) (written : Option Nat)
deriving DecidableEq, Repr

/-- What a write puts into the file, if it opens it. -/
def WriteOutcome.written (data : List UInt8) :
    WriteOutcome -> Option (List UInt8)
  | .done => some data
  | .failed _ none => none
  | .failed _ (some n) => some (data.take n)

def WriteOutcome.leaves (before : Option (List UInt8)) (data : List UInt8)
    (outcome : WriteOutcome) : Option (List UInt8) :=
  (outcome.written data).or before

structure BuidCalls where
  /-- `SystemConfiguration.plist`, if it is there. -/
  config : Option (List UInt8)
  /-- What a call was told of the file before its next step. -/
  calls : Nat -> Option Bool := fun _ => none
  returned : List String := []
  /-- The configuration that the first successful call left. -/
  established : Option (List UInt8) := none

namespace BuidCalls

inductive Action where
  | tryExists (call : Nat) (answer : Except IoError Bool)
  | write (call : Nat) (uuid : String) (outcome : WriteOutcome)
  | writeDropped (call : Nat) (uuid : String)
  | read (call : Nat) (outcome : Except IoError Unit)
  | drop (call : Nat)
  | savePairRecord (pairRecordId : String) (data : List UInt8)
      (outcome : WriteOutcome)
  | deletePairRecord (pairRecordId : String) (outcome : Except IoError Unit)
  | preflightRemove (udid : String) (outcome : Except IoError Unit)
  | preflightWrite (udid : String) (data : List UInt8) (outcome : WriteOutcome)

variable {Ip : Type} (host : Host Ip)

def newConfig (uuid : String) : List UInt8 :=
  host.format.toXmlBytes (.dictionary [("SystemBUID", .string uuid.toUpper)])

def storedBuid (bytes : List UInt8) : Except RusbmuxError String := do
  let config <- (host.format.fromBytes bytes).mapError .plist
  buidOf config

def finish (s : BuidCalls) (call : Nat) : BuidCalls :=
  { s with calls := Function.update s.calls call none }

def succeed (s : BuidCalls) (call : Nat) (buid : String) : BuidCalls :=
  { s.finish call with
    returned := buid :: s.returned
    established := s.established.or s.config }

def tryExists (s : BuidCalls) (call : Nat) (answer : Except IoError Bool) :
    Option BuidCalls :=
  match s.calls call, answer with
  | some _, _ => none
  | none, .ok found =>
      if found = s.config.isSome then
        some { s with calls := Function.update s.calls call (some found) }
      else
        none
  | none, .error _ =>
      some { s with calls := Function.update s.calls call (some false) }

def write (s : BuidCalls) (call : Nat) (uuid : String)
    (outcome : WriteOutcome) : Option BuidCalls :=
  if s.calls call = some false ∧ uuid.toUpper ∉ s.returned then
    let t :=
      { s with config := outcome.leaves s.config (newConfig host uuid) }
    match outcome with
    | .done => some (t.succeed call uuid.toUpper)
    | .failed _ _ => some (t.finish call)
  else
    none

def writeDropped (s : BuidCalls) (call : Nat) (uuid : String) :
    Option BuidCalls :=
  if s.calls call = some false then
    some (finish { s with config := some (newConfig host uuid) } call)
  else
    none

def readBuid (s : BuidCalls) (outcome : Except IoError Unit) :
    Option String :=
  match outcome, s.config with
  | .ok (), some bytes => (storedBuid host bytes).toOption
  | .ok (), none | .error _, _ => none

def read (s : BuidCalls) (call : Nat) (outcome : Except IoError Unit) :
    Option BuidCalls :=
  if s.calls call = some true then
    match s.readBuid host outcome with
    | some buid => some (s.succeed call buid)
    | none => some (s.finish call)
  else
    none

def writeFile (s : BuidCalls) (path : String) (data : List UInt8)
    (outcome : WriteOutcome) : BuidCalls :=
  if path = configPath host then
    { s with config := outcome.leaves s.config data }
  else
    s

def removeFile (s : BuidCalls) (path : String) (outcome : Except IoError Unit) :
    BuidCalls :=
  match outcome with
  | .ok () => if path = configPath host then { s with config := none } else s
  | .error _ => s

def savePairRecord (s : BuidCalls) (pairRecordId : String) (data : List UInt8)
    (outcome : WriteOutcome) : BuidCalls :=
  match checkPairRecordId pairRecordId with
  | .ok () => s.writeFile host (recordPath host pairRecordId) data outcome
  | .error _ => s

def deletePairRecord (s : BuidCalls) (pairRecordId : String)
    (outcome : Except IoError Unit) : BuidCalls :=
  match checkPairRecordId pairRecordId with
  | .ok () => s.removeFile host (recordPath host pairRecordId) outcome
  | .error _ => s

def step : Machine BuidCalls Action := fun s a =>
  match a with
  | .tryExists call answer => s.tryExists call answer
  | .write call uuid outcome => s.write host call uuid outcome
  | .writeDropped call uuid => s.writeDropped host call uuid
  | .read call outcome => s.read host call outcome
  | .drop call => some (s.finish call)
  | .savePairRecord pairRecordId data outcome =>
      some (s.savePairRecord host pairRecordId data outcome)
  | .deletePairRecord pairRecordId outcome =>
      some (s.deletePairRecord host pairRecordId outcome)
  | .preflightRemove udid outcome =>
      some (s.removeFile host (recordPath host udid) outcome)
  | .preflightWrite udid data outcome =>
      some (s.writeFile host (recordPath host udid) data outcome)

/-- The calls that succeeded returned the same BUID. -/
def Agree (s : BuidCalls) : Prop :=
  forall b c, b ∈ s.returned -> c ∈ s.returned -> b = c

/--
What is written, if a BUID can be read from it, has that of the configuration
which the first successful call left.
-/
def HasEstablished (s : BuidCalls) (written : Option (List UInt8)) : Prop :=
  forall first bytes buid, s.established = some first ->
    written = some bytes -> storedBuid host bytes = .ok buid ->
      storedBuid host first = .ok buid

/--
Once a call has succeeded no other creates the configuration, and nothing else
writes one with another BUID.
-/
def KeepsEstablished (s : BuidCalls) : Action -> Prop
  | .write _ _ .done => s.established = none
  | .write _ uuid (.failed err count) =>
      s.HasEstablished host
        ((WriteOutcome.failed err count).written (newConfig host uuid))
  | .writeDropped _ uuid => s.HasEstablished host (some (newConfig host uuid))
  | .savePairRecord name data outcome =>
      checkPairRecordId name = .ok () ->
        recordPath host name = configPath host ->
          s.HasEstablished host (outcome.written data)
  | .preflightWrite udid data outcome =>
      recordPath host udid = configPath host ->
        s.HasEstablished host (outcome.written data)
  | .tryExists _ _ | .read _ _ | .drop _ | .deletePairRecord _ _
  | .preflightRemove _ _ => True

/-- A call that is told what is there, and reads it. -/
def Asks : Action -> Prop
  | .tryExists _ (.ok _) | .read _ _ => True
  | _ => False

/-- The library reads a configuration back as it wrote it. -/
def ReadsConfig (F : Format) : Prop :=
  forall id, F.fromBytes (F.toXmlBytes
      (.dictionary [("SystemBUID", .string id)])) =
    .ok (.dictionary [("SystemBUID", .string id)])

/-!
## Agreement
-/

variable {host}

theorem storedBuid_newConfig (hformat : ReadsConfig host.format)
    (uuid : String) :
    storedBuid host (newConfig host uuid) = .ok uuid.toUpper := by
  unfold storedBuid newConfig
  rw [hformat]
  rfl

/--
Every run: a BUID that was returned is the established one, and there are calls
that have not begun.
-/
structure Shape (host : Host Ip) (s : BuidCalls) : Prop where
  used : forall first, s.established = some first ->
    exists b, b ∈ s.returned ∧ storedBuid host first = .ok b
  idle : exists call, forall other, call <= other -> s.calls other = none

structure Invariant (host : Host Ip) (s : BuidCalls) : Prop where
  stored : forall b, b ∈ s.returned ->
    exists first, s.established = some first ∧ storedBuid host first = .ok b
  current : s.HasEstablished host s.config

theorem HasEstablished.leaves {s : BuidCalls} {data : List UInt8}
    {outcome : WriteOutcome} (hbefore : s.HasEstablished host s.config)
    (hwritten : s.HasEstablished host (outcome.written data)) :
    s.HasEstablished host (outcome.leaves s.config data) := by
  unfold WriteOutcome.leaves
  cases hout : outcome.written data with
  | none => exact hbefore
  | some bytes =>
      rw [hout] at hwritten
      exact hwritten

theorem readBuid_eq_some {s : BuidCalls} {outcome : Except IoError Unit}
    {buid : String} (h : s.readBuid host outcome = some buid) :
    exists bytes, s.config = some bytes ∧
      storedBuid host bytes = .ok buid := by
  unfold readBuid at h
  split at h
  · rename_i bytes hconfig
    refine ⟨bytes, hconfig, ?_⟩
    cases hstored : storedBuid host bytes with
    | ok b =>
        rw [hstored] at h
        rw [Option.some.inj h]
    | error err =>
        rw [hstored] at h
        cases h
  · cases h
  · cases h

/-!
### What every run keeps
-/

namespace Shape

variable {s t : BuidCalls}

theorem init (config : Option (List UInt8)) :
    Shape host { config := config } where
  used := nofun
  idle := ⟨0, fun _ _ => rfl⟩

theorem of_eq (h : Shape host s) (hreturned : t.returned = s.returned)
    (hestablished : t.established = s.established)
    (hcalls : t.calls = s.calls) : Shape host t := by
  constructor
  · rw [hreturned, hestablished]
    exact h.used
  · rw [hcalls]
    exact h.idle

theorem idle_update (h : Shape host s) (call : Nat) (phase : Option Bool) :
    exists bound, forall other, bound <= other ->
      Function.update s.calls call phase other = none := by
  rcases h.idle with ⟨bound, hidle⟩
  refine ⟨max bound (call + 1), ?_⟩
  intro other hother
  have hne : other ≠ call := by omega
  rw [Function.update_of_ne hne]
  exact hidle other (by omega)

theorem of_config (h : Shape host s) (config : Option (List UInt8)) :
    Shape host { s with config := config } :=
  h.of_eq rfl rfl rfl

theorem finish (h : Shape host s) (call : Nat) :
    Shape host (s.finish call) where
  used := h.used
  idle := h.idle_update call none

theorem succeed (h : Shape host s) {call : Nat} {buid : String}
    {bytes : List UInt8} (hconfig : s.config = some bytes)
    (hbytes : storedBuid host bytes = .ok buid) :
    Shape host (s.succeed call buid) where
  used := by
    intro first hfirst
    change s.established.or s.config = some first at hfirst
    cases hestablished : s.established with
    | none =>
        rw [hestablished, hconfig] at hfirst
        cases hfirst
        exact ⟨buid, List.mem_cons_self, hbytes⟩
    | some other =>
        rw [hestablished] at hfirst
        cases hfirst
        rcases h.used first hestablished with ⟨b, hb, hstored⟩
        exact ⟨b, List.mem_cons_of_mem _ hb, hstored⟩
  idle := h.idle_update call none

theorem writeFile (h : Shape host s) (path : String) (data : List UInt8)
    (outcome : WriteOutcome) :
    Shape host (s.writeFile host path data outcome) := by
  unfold BuidCalls.writeFile
  split
  · exact h.of_config _
  · exact h

theorem removeFile (h : Shape host s) (path : String)
    (outcome : Except IoError Unit) :
    Shape host (s.removeFile host path outcome) := by
  unfold BuidCalls.removeFile
  split
  · split
    · exact h.of_eq rfl rfl rfl
    · exact h
  · exact h

theorem tryExists (h : Shape host s) {call : Nat}
    {answer : Except IoError Bool} (hstep : s.tryExists call answer = some t) :
    Shape host t := by
  unfold BuidCalls.tryExists at hstep
  split at hstep
  · cases hstep
  · cases (Machine.of_enabled_if hstep).right
    exact ⟨h.used, h.idle_update call _⟩
  · cases hstep
    exact ⟨h.used, h.idle_update call _⟩

theorem step (hformat : ReadsConfig host.format) {a : Action}
    (h : Shape host s) (hstep : BuidCalls.step host s a = some t) :
    Shape host t := by
  cases a with
  | tryExists call answer => exact h.tryExists hstep
  | write call uuid outcome =>
      have ht := (Machine.of_enabled_if hstep).right
      cases outcome with
      | done =>
          cases ht
          exact (h.of_config _).succeed rfl (storedBuid_newConfig hformat uuid)
      | failed err count =>
          cases ht
          exact (h.of_config _).finish call
  | writeDropped call uuid =>
      cases (Machine.of_enabled_if hstep).right
      exact (h.of_config _).finish call
  | read call outcome =>
      have ht := (Machine.of_enabled_if hstep).right
      cases hbuid : s.readBuid host outcome with
      | some buid =>
          simp only [hbuid] at ht
          cases ht
          rcases readBuid_eq_some hbuid with ⟨bytes, hconfig, hstored⟩
          exact h.succeed hconfig hstored
      | none =>
          simp only [hbuid] at ht
          cases ht
          exact h.finish call
  | drop call =>
      cases hstep
      exact h.finish call
  | savePairRecord name data outcome =>
      cases hstep
      unfold savePairRecord
      split
      · exact h.writeFile _ _ _
      · exact h
  | deletePairRecord name outcome =>
      cases hstep
      unfold deletePairRecord
      split
      · exact h.removeFile _ _
      · exact h
  | preflightRemove udid outcome =>
      cases hstep
      exact h.removeFile _ _
  | preflightWrite udid data outcome =>
      cases hstep
      exact h.writeFile _ _ _

theorem exists_read (h : Shape host s) {bytes : List UInt8} {buid : String}
    (hconfig : s.config = some bytes)
    (hstored : storedBuid host bytes = .ok buid) :
    exists later t, (forall a, a ∈ later -> Asks a) ∧
      Machine.run (BuidCalls.step host) s later = some t ∧
      t.returned = buid :: s.returned := by
  rcases h.idle with ⟨call, hidle⟩
  let told : BuidCalls :=
    { s with calls := Function.update s.calls call (some true) }
  have hasks : BuidCalls.step host s (.tryExists call (.ok true)) =
      some told := by
    show s.tryExists call (.ok true) = some told
    have hthere : true = s.config.isSome := by
      rw [hconfig]
      rfl
    unfold BuidCalls.tryExists
    rw [hidle call (Nat.le_refl call)]
    exact if_pos hthere
  have hread : BuidCalls.step host told (.read call (.ok ())) =
      some (told.succeed call buid) := by
    have htold : told.calls call = some true := Function.update_self _ _ _
    have hbuid : told.readBuid host (.ok ()) = some buid := by
      unfold readBuid
      rw [show told.config = some bytes from hconfig]
      show (storedBuid host bytes).toOption = some buid
      rw [hstored]
      rfl
    show told.read host call (.ok ()) = _
    unfold BuidCalls.read
    rw [if_pos htold, hbuid]
  refine ⟨[.tryExists call (.ok true), .read call (.ok ())],
    told.succeed call buid, ?_, ?_, rfl⟩
  · intro a ha
    rcases List.mem_cons.mp ha with rfl | ha
    · trivial
    · rw [List.mem_singleton.mp ha]
      trivial
  · rw [Machine.run_cons_of_step hasks]
    exact Machine.run_cons_of_step hread []

theorem exists_not_agree (h : Shape host s) (ht : Shape host t)
    {written : Option (List UInt8)} (hreturned : t.returned = s.returned)
    (hconfig : written.isSome = true -> t.config = written)
    (hother : ¬ s.HasEstablished host written) :
    exists later u, (forall a, a ∈ later -> Asks a) ∧
      Machine.run (BuidCalls.step host) t later = some u ∧ ¬ u.Agree := by
  unfold HasEstablished at hother
  simp only [not_forall] at hother
  rcases hother with ⟨first, bytes, buid, hfirst, hwritten, hstored, hne⟩
  rcases h.used first hfirst with ⟨b, hb, hestablished⟩
  rw [hwritten] at hconfig
  rcases ht.exists_read (hconfig rfl) hstored with
    ⟨later, u, hlater, hrun, hafter⟩
  refine ⟨later, u, hlater, hrun, ?_⟩
  intro hagree
  have hsame : b = buid := by
    apply hagree
    · rw [hafter, hreturned]
      exact List.mem_cons_of_mem _ hb
    · rw [hafter]
      exact List.mem_cons_self
  rw [hsame] at hestablished
  exact hne hestablished

end Shape

/-!
### What guarded runs keep
-/

namespace Invariant

variable {s t : BuidCalls}

theorem init (config : Option (List UInt8)) :
    Invariant host { config := config } where
  stored := nofun
  current := nofun

theorem agree (h : Invariant host s) : s.Agree := by
  intro b c hb hc
  rcases h.stored b hb with ⟨first, hfirst, hstored⟩
  rcases h.stored c hc with ⟨other, hother, hstored'⟩
  rw [hfirst] at hother
  cases hother
  rw [hstored] at hstored'
  exact Except.ok.inj hstored'

theorem of_eq (h : Invariant host s) (hreturned : t.returned = s.returned)
    (hestablished : t.established = s.established)
    (hcurrent : s.HasEstablished host t.config) : Invariant host t := by
  constructor
  · rw [hreturned, hestablished]
    exact h.stored
  · unfold HasEstablished
    rw [hestablished]
    exact hcurrent

theorem of_config (h : Invariant host s) {config : Option (List UInt8)}
    (hcurrent : s.HasEstablished host config) :
    Invariant host { s with config := config } :=
  h.of_eq rfl rfl hcurrent

theorem finish (h : Invariant host s) (call : Nat) :
    Invariant host (s.finish call) :=
  h.of_eq rfl rfl h.current

theorem succeed (h : Invariant host s) {call : Nat} {buid : String}
    {bytes : List UInt8} (hconfig : s.config = some bytes)
    (hbytes : storedBuid host bytes = .ok buid) :
    Invariant host (s.succeed call buid) := by
  cases hestablished : s.established with
  | none =>
      have hafter : (s.succeed call buid).established = some bytes := by
        show s.established.or s.config = some bytes
        rw [hestablished, hconfig]
        rfl
      constructor
      · intro b hb
        refine ⟨bytes, hafter, ?_⟩
        rcases List.mem_cons.mp hb with rfl | hb
        · exact hbytes
        · rcases h.stored b hb with ⟨first, hfirst, _⟩
          rw [hestablished] at hfirst
          cases hfirst
      · intro first other buid' hfirst hother hstored
        rw [hafter] at hfirst
        cases hfirst
        rw [show (s.succeed call buid).config = some bytes from hconfig]
          at hother
        cases hother
        exact hstored
  | some first =>
      have hafter : (s.succeed call buid).established = s.established := by
        show s.established.or s.config = s.established
        rw [hestablished]
        rfl
      constructor
      · intro b hb
        refine ⟨first, hafter.trans hestablished, ?_⟩
        rcases List.mem_cons.mp hb with rfl | hb
        · exact h.current first bytes b hestablished hconfig hbytes
        · rcases h.stored b hb with ⟨other, hother, hstored⟩
          rw [hestablished] at hother
          cases hother
          exact hstored
      · unfold HasEstablished
        rw [hafter]
        exact h.current

theorem create (h : Invariant host s) {call : Nat} {buid : String}
    {bytes : List UInt8} (hnone : s.established = none)
    (hbytes : storedBuid host bytes = .ok buid) :
    Invariant host ({ s with config := some bytes }.succeed call buid) := by
  have hfree : s.HasEstablished host (some bytes) := by
    intro first _ _ hfirst
    rw [hnone] at hfirst
    cases hfirst
  exact (h.of_config hfree).succeed rfl hbytes

theorem writeFile (h : Invariant host s) {path : String} {data : List UInt8}
    {outcome : WriteOutcome}
    (hguard : path = configPath host ->
      s.HasEstablished host (outcome.written data)) :
    Invariant host (s.writeFile host path data outcome) := by
  unfold BuidCalls.writeFile
  split
  · rename_i hpath
    exact h.of_config (h.current.leaves (hguard hpath))
  · exact h

theorem removeFile (h : Invariant host s) (path : String)
    (outcome : Except IoError Unit) :
    Invariant host (s.removeFile host path outcome) := by
  unfold BuidCalls.removeFile
  split
  · split
    · exact h.of_eq rfl rfl nofun
    · exact h
  · exact h

theorem tryExists (h : Invariant host s) {call : Nat}
    {answer : Except IoError Bool} (hstep : s.tryExists call answer = some t) :
    Invariant host t := by
  unfold BuidCalls.tryExists at hstep
  split at hstep
  · cases hstep
  · cases (Machine.of_enabled_if hstep).right
    exact h.of_eq rfl rfl h.current
  · cases hstep
    exact h.of_eq rfl rfl h.current

end Invariant

theorem invariant_step (hformat : ReadsConfig host.format) {s t : BuidCalls}
    {a : Action} (h : Invariant host s) (hstep : step host s a = some t)
    (hguard : s.KeepsEstablished host a) : Invariant host t := by
  cases a with
  | tryExists call answer => exact h.tryExists hstep
  | write call uuid outcome =>
      have ht := (Machine.of_enabled_if hstep).right
      cases outcome with
      | done =>
          cases ht
          exact h.create hguard (storedBuid_newConfig hformat uuid)
      | failed err count =>
          cases ht
          exact (h.of_config (h.current.leaves hguard)).finish call
  | writeDropped call uuid =>
      cases (Machine.of_enabled_if hstep).right
      exact (h.of_config hguard).finish call
  | read call outcome =>
      have ht := (Machine.of_enabled_if hstep).right
      cases hbuid : s.readBuid host outcome with
      | some buid =>
          simp only [hbuid] at ht
          cases ht
          rcases readBuid_eq_some hbuid with ⟨bytes, hconfig, hstored⟩
          exact h.succeed hconfig hstored
      | none =>
          simp only [hbuid] at ht
          cases ht
          exact h.finish call
  | drop call =>
      cases hstep
      exact h.finish call
  | savePairRecord name data outcome =>
      cases hstep
      unfold savePairRecord
      split
      · rename_i hchecked
        exact h.writeFile (hguard hchecked)
      · exact h
  | deletePairRecord name outcome =>
      cases hstep
      unfold deletePairRecord
      split
      · exact h.removeFile _ _
      · exact h
  | preflightRemove udid outcome =>
      cases hstep
      exact h.removeFile _ _
  | preflightWrite udid data outcome =>
      cases hstep
      exact h.writeFile hguard

/-!
### Steps that do not meet the guard
-/

theorem writeFile_returned {s : BuidCalls} (path : String) (data : List UInt8)
    (outcome : WriteOutcome) :
    (s.writeFile host path data outcome).returned = s.returned := by
  unfold writeFile
  split <;> rfl

theorem writeFile_config {s : BuidCalls} {path : String}
    (hpath : path = configPath host) (data : List UInt8)
    (outcome : WriteOutcome)
    (hsome : (outcome.written data).isSome = true) :
    (s.writeFile host path data outcome).config = outcome.written data := by
  unfold writeFile WriteOutcome.leaves
  rw [if_pos hpath]
  exact Option.or_of_isSome hsome

theorem exists_not_agree_of_replaced (hformat : ReadsConfig host.format)
    {s t : BuidCalls} {a : Action} (h : Shape host s)
    (hstep : step host s a = some t) (hguard : ¬ s.KeepsEstablished host a) :
    exists later u, (forall b, b ∈ later -> Asks b) ∧
      Machine.run (step host) t later = some u ∧ ¬ u.Agree := by
  have hafter : Shape host t := h.step hformat hstep
  cases a with
  | write call uuid outcome =>
      rcases Machine.of_enabled_if hstep with ⟨henabled, ht⟩
      cases outcome with
      | done =>
          cases ht
          refine ⟨[], _, nofun, rfl, ?_⟩
          intro hagree
          apply hguard
          cases hestablished : s.established with
          | none => exact hestablished
          | some first =>
              rcases h.used first hestablished with ⟨b, hb, _⟩
              have hsame : uuid.toUpper = b :=
                hagree _ _ List.mem_cons_self (List.mem_cons_of_mem _ hb)
              exact absurd (hsame ▸ hb) henabled.right
      | failed err count =>
          cases ht
          exact h.exists_not_agree hafter rfl
            (fun hsome => Option.or_of_isSome hsome) hguard
  | writeDropped call uuid =>
      cases (Machine.of_enabled_if hstep).right
      exact h.exists_not_agree hafter rfl (fun _ => rfl) hguard
  | savePairRecord name data outcome =>
      cases hstep
      have hbad : checkPairRecordId name = .ok () ∧
          recordPath host name = configPath host ∧
            ¬ s.HasEstablished host (outcome.written data) := by
        simpa only [KeepsEstablished, Classical.not_imp] using hguard
      rcases hbad with ⟨hchecked, hpath, hother⟩
      unfold savePairRecord at hafter ⊢
      rw [hchecked] at hafter ⊢
      exact h.exists_not_agree hafter (writeFile_returned _ _ _)
        (writeFile_config hpath data outcome) hother
  | preflightWrite udid data outcome =>
      cases hstep
      have hbad : recordPath host udid = configPath host ∧
          ¬ s.HasEstablished host (outcome.written data) := by
        simpa only [KeepsEstablished, Classical.not_imp] using hguard
      rcases hbad with ⟨hpath, hother⟩
      exact h.exists_not_agree hafter (writeFile_returned _ _ _)
        (writeFile_config hpath data outcome) hother
  | tryExists _ _ | read _ _ | drop _ | deletePairRecord _ _
  | preflightRemove _ _ => exact absurd trivial hguard

theorem keepsEstablished_of_asks {s : BuidCalls} {a : Action}
    (hasks : Asks a) : s.KeepsEstablished host a := by
  cases a with
  | tryExists _ _ | read _ _ => trivial
  | write _ _ _ | writeDropped _ _ | drop _ | savePairRecord _ _ _
  | deletePairRecord _ _ | preflightRemove _ _ | preflightWrite _ _ _ =>
      cases hasks

/--
The calls that succeed return the same BUID in every state of a run, and of the
calls that may read after it, exactly when, once a call has succeeded, no call
creates the configuration again and nothing writes one with another BUID.
-/
theorem agree_throughout (hformat : ReadsConfig host.format)
    (config : Option (List UInt8)) (acts : List Action) :
    (forall pre later, pre <+: acts -> (forall a, a ∈ later -> Asks a) ->
        Machine.Throughout (step host) Agree { config := config }
          (pre ++ later)) <->
      Machine.Guarded (step host) (KeepsEstablished host)
        { config := config } acts :=
  Machine.throughout_extended_iff_guarded
    (fun _ _ _ h hstep => h.step hformat hstep)
    (fun _ _ _ h _ hstep hguard => invariant_step hformat h hstep hguard)
    (fun _ h => h.agree)
    (fun _ _ => keepsEstablished_of_asks)
    (fun _ _ _ h hstep hguard =>
      exists_not_agree_of_replaced hformat h hstep hguard)
    (Shape.init config) (Invariant.init config) acts

/-!
## Two calls that both create the configuration
-/

def utf8 (text : String) : List UInt8 :=
  text.toUTF8.data.toList

def ofUtf8 (bytes : List UInt8) : Option String :=
  String.fromUTF8? ⟨bytes.toArray⟩

theorem ofUtf8_utf8 (text : String) : ofUtf8 (utf8 text) = some text := by
  unfold ofUtf8 utf8 String.fromUTF8?
  have hvalid : text.toUTF8.IsValidUTF8 := text.isValidUTF8
  exact dif_pos hvalid

def configFront : String :=
  "<?xml version=\"1.0\" encoding=\"UTF-8\"?>\n" ++
  "<!DOCTYPE plist PUBLIC \"-//Apple//DTD PLIST 1.0//EN\" " ++
  "\"http://www.apple.com/DTDs/PropertyList-1.0.dtd\">\n" ++
  "<plist version=\"1.0\">\n<dict>\n\t<key>SystemBUID</key>\n\t<string>"

def configBack : String :=
  "</string>\n</dict>\n</plist>"

def idOfConfig (text : String) : Option String :=
  let rest := text.toList.drop configFront.length
  let id := String.ofList (rest.take (rest.length - configBack.length))
  if configFront ++ id ++ configBack = text then some id else none

theorem idOfConfig_text (id : String) :
    idOfConfig (configFront ++ id ++ configBack) = some id := by
  have hid : String.ofList
      (((configFront ++ id ++ configBack).toList.drop configFront.length).take
        (((configFront ++ id ++ configBack).toList.drop
          configFront.length).length - configBack.length)) = id := by
    simp [String.toList_append, ← String.length_toList]
  unfold idOfConfig
  simp only [hid, if_true]

def configFormat : Format where
  fromBytes bytes :=
    match (ofUtf8 bytes).bind idOfConfig with
    | some id => .ok (.dictionary [("SystemBUID", .string id)])
    | none => .error ⟨"unexpected end of file"⟩
  toXmlBytes
    | .dictionary [("SystemBUID", .string id)] =>
        utf8 (configFront ++ id ++ configBack)
    | _ => []

theorem readsConfig_configFormat : ReadsConfig configFormat := by
  intro id
  show (match (ofUtf8 (utf8 (configFront ++ id ++ configBack))).bind
      idOfConfig with
    | some id => _
    | none => _) = _
  rw [ofUtf8_utf8, Option.bind_some, idOfConfig_text]

def emptyHost : Host Unit where
  format := configFormat
  addresses := UsbMuxRequest.loopback
  lockdownPath name := "/var/lib/lockdown/" ++ name
  fsWrite _ _ := .ok ()
  fsRemoveFile _ := .error { kind := .notFound }
  fsRead _ := .error { kind := .notFound }
  fsTryExists _ := .ok false
  newUuid := "6ba7b810-9dad-11d1-80b4-00c04fd430c8"
  pairingFile _ := .error "unexpected response"
  networkAddress _ := [127, 0, 0, 1]
  nextDeviceId := 1
  newNetwork _ := .error (.io { kind := .connectionRefused })
  connectedDevices := []
  receiverCount := 0
  deviceConnect _ _ := .error (.io { kind := .connectionRefused })
  relay _ _ := .ok ()
  hotplugEvents := []

def bothCreate : List Action :=
  [.tryExists 1 (.ok false), .tryExists 2 (.ok false),
    .write 1 "6ba7b810-9dad-11d1-80b4-00c04fd430c8" .done,
    .write 2 "6ba7b811-9dad-11d1-80b4-00c04fd430c8" .done]

theorem run_bothCreate :
    exists t, Machine.run (step emptyHost) { config := none } bothCreate =
        some t ∧
      t.returned = ["6BA7B811-9DAD-11D1-80B4-00C04FD430C8",
        "6BA7B810-9DAD-11D1-80B4-00C04FD430C8"] := by
  have hreturned : (Machine.run (step emptyHost) { config := none }
      bothCreate).map returned =
        some ["6BA7B811-9DAD-11D1-80B4-00C04FD430C8",
          "6BA7B810-9DAD-11D1-80B4-00C04FD430C8"] := by
    decide +kernel
  exact Option.map_eq_some_iff.mp hreturned

theorem not_agree_bothCreate :
    ¬ forall config acts,
      Machine.Throughout (step emptyHost) Agree { config := config } acts := by
  intro h
  rcases run_bothCreate with ⟨t, hrun, hreturned⟩
  have hagree := (h none bothCreate).last hrun
    "6BA7B811-9DAD-11D1-80B4-00C04FD430C8"
    "6BA7B810-9DAD-11D1-80B4-00C04FD430C8" (by simp [hreturned])
    (by simp [hreturned])
  exact absurd hagree (by decide)

theorem agree_throughout_bothCreate :
    (forall pre later, pre <+: bothCreate -> (forall a, a ∈ later -> Asks a) ->
        Machine.Throughout (step emptyHost) Agree { config := none }
          (pre ++ later)) <->
      Machine.Guarded (step emptyHost) (KeepsEstablished emptyHost)
        { config := none } bothCreate :=
  agree_throughout readsConfig_configFormat none bothCreate

/-!
## A call on its own
-/

section Solo

variable {s : BuidCalls} {call : Nat}

def soloWrite (host : Host Ip) : WriteOutcome :=
  match host.fsWrite (configPath host) (newConfig host host.newUuid) with
  | .ok () => .done
  | .error err => .failed err none

def soloSteps (host : Host Ip) (call : Nat) : List Action :=
  [.tryExists call (host.fsTryExists (configPath host)),
    if configExists host then
      .read call ((host.fsRead (configPath host)).map fun _ => ())
    else
      .write call host.newUuid (soloWrite host)]

theorem tryExists_solo (hidle : s.calls call = none)
    (hexists : forall found, host.fsTryExists (configPath host) = .ok found ->
      found = s.config.isSome) :
    s.tryExists call (host.fsTryExists (configPath host)) =
      some { s with
        calls := Function.update s.calls call (some (configExists host)) } := by
  unfold tryExists configExists
  rw [hidle]
  cases hanswer : host.fsTryExists (configPath host) with
  | ok found => exact if_pos (hexists found hanswer)
  | error err => rfl

theorem read_solo (htold : s.calls call = some true)
    (hread : forall bytes, host.fsRead (configPath host) = .ok bytes ->
      s.config = some bytes) :
    exists t, s.read host call
        ((host.fsRead (configPath host)).map fun _ => ()) = some t ∧
      t.returned = ((host.fsRead (configPath host)).mapError .io >>=
        storedBuid host).toOption.toList ++ s.returned := by
  unfold read
  rw [if_pos htold]
  cases hbytes : host.fsRead (configPath host) with
  | error err => exact ⟨s.finish call, rfl, rfl⟩
  | ok bytes =>
      have hbuid : s.readBuid host (.ok ()) =
          (storedBuid host bytes).toOption := by
        unfold readBuid
        rw [hread bytes hbytes]
      show exists t, (match s.readBuid host (.ok ()) with
        | some buid => some (s.succeed call buid)
        | none => some (s.finish call)) = some t ∧
          t.returned = (storedBuid host bytes).toOption.toList ++ s.returned
      rw [hbuid]
      cases storedBuid host bytes with
      | ok buid => exact ⟨s.succeed call buid, rfl, rfl⟩
      | error err => exact ⟨s.finish call, rfl, rfl⟩

theorem write_solo (htold : s.calls call = some false)
    (hfresh : host.newUuid.toUpper ∉ s.returned) :
    exists t, s.write host call host.newUuid (soloWrite host) = some t ∧
      t.returned = ((host.fsWrite (configPath host)
          (newConfig host host.newUuid)).mapError RusbmuxError.io >>=
        fun _ => .ok host.newUuid.toUpper).toOption.toList ++ s.returned := by
  unfold write soloWrite
  rw [if_pos ⟨htold, hfresh⟩]
  cases host.fsWrite (configPath host) (newConfig host host.newUuid) with
  | ok _ => exact ⟨_, rfl, rfl⟩
  | error err => exact ⟨_, rfl, rfl⟩

theorem run_solo (hidle : s.calls call = none)
    (hexists : forall found, host.fsTryExists (configPath host) = .ok found ->
      found = s.config.isSome)
    (hread : forall bytes, host.fsRead (configPath host) = .ok bytes ->
      s.config = some bytes)
    (hfresh : host.newUuid.toUpper ∉ s.returned) :
    exists t, Machine.run (step host) s (soloSteps host call) = some t ∧
      t.returned = (readSystemBuid host).toOption.toList ++ s.returned := by
  let told : BuidCalls := { s with
    calls := Function.update s.calls call (some (configExists host)) }
  have hfirst : step host s
      (.tryExists call (host.fsTryExists (configPath host))) = some told :=
    tryExists_solo hidle hexists
  have htold : told.calls call = some (configExists host) :=
    Function.update_self _ _ _
  unfold soloSteps readSystemBuid
  rw [Machine.run_cons_of_step hfirst]
  cases hfound : configExists host with
  | true =>
      rw [hfound] at htold
      rcases read_solo htold hread with ⟨t, hread, hreturned⟩
      have hlast : step host told
          (.read call ((host.fsRead (configPath host)).map fun _ => ())) =
            some t := hread
      exact ⟨t, Machine.run_cons_of_step hlast [], hreturned⟩
  | false =>
      rw [hfound] at htold
      rcases write_solo htold hfresh with ⟨t, hwrite, hreturned⟩
      have hlast : step host told
          (.write call host.newUuid (soloWrite host)) = some t := hwrite
      exact ⟨t, Machine.run_cons_of_step hlast [], hreturned⟩

end Solo

/-!
## Runs that spare the configuration
-/

/--
An action that leaves a configuration alone: the check gets an answer, and no
record goes by the configuration's name.
-/
def Spares (host : Host Ip) : Action -> Prop
  | .tryExists _ answer => exists found, answer = .ok found
  | .savePairRecord name _ _ | .deletePairRecord name _
  | .preflightRemove name _ | .preflightWrite name _ _ =>
      recordPath host name ≠ configPath host
  | .write _ _ _ | .writeDropped _ _ | .read _ _ | .drop _ => True

structure Spared (host : Host Ip) (bytes : List UInt8) (s : BuidCalls) :
    Prop where
  there : s.config = some bytes
  told : forall call, s.calls call ≠ some false
  stored : forall b, b ∈ s.returned -> storedBuid host bytes = .ok b

namespace Spared

variable {bytes : List UInt8} {s t : BuidCalls}

theorem agree (h : Spared host bytes s) : s.Agree := by
  intro b c hb hc
  have hstored := h.stored b hb
  rw [h.stored c hc] at hstored
  exact (Except.ok.inj hstored).symm

theorem told_update (h : Spared host bytes s) {call : Nat}
    {phase : Option Bool} (hphase : phase ≠ some false) (other : Nat) :
    Function.update s.calls call phase other ≠ some false := by
  by_cases hother : other = call
  · subst other
    rw [Function.update_self]
    exact hphase
  · rw [Function.update_of_ne hother]
    exact h.told other

theorem finish (h : Spared host bytes s) (call : Nat) :
    Spared host bytes (s.finish call) where
  there := h.there
  told := h.told_update nofun
  stored := h.stored

theorem succeed (h : Spared host bytes s) {call : Nat} {buid : String}
    (hbuid : storedBuid host bytes = .ok buid) :
    Spared host bytes (s.succeed call buid) where
  there := h.there
  told := h.told_update nofun
  stored := by
    intro b hb
    rcases List.mem_cons.mp hb with rfl | hb
    · exact hbuid
    · exact h.stored b hb

theorem tryExists (h : Spared host bytes s) {call : Nat} {found : Bool}
    (hstep : s.tryExists call (.ok found) = some t) :
    Spared host bytes t := by
  unfold BuidCalls.tryExists at hstep
  split at hstep
  · cases hstep
  · rename_i hanswer
    cases hanswer
    rcases Machine.of_enabled_if hstep with ⟨hfound, ht⟩
    cases ht
    rw [h.there] at hfound
    subst found
    exact ⟨h.there, h.told_update nofun, h.stored⟩
  · rename_i hanswer
    cases hanswer

theorem read (h : Spared host bytes s) {call : Nat}
    {outcome : Except IoError Unit}
    (hstep : s.read host call outcome = some t) : Spared host bytes t := by
  have ht := (Machine.of_enabled_if hstep).right
  cases hbuid : s.readBuid host outcome with
  | some buid =>
      simp only [hbuid] at ht
      cases ht
      rcases readBuid_eq_some hbuid with ⟨other, hother, hstored⟩
      rw [h.there] at hother
      cases hother
      exact h.succeed hstored
  | none =>
      simp only [hbuid] at ht
      cases ht
      exact h.finish call

theorem writeFile_eq {path : String} (hpath : path ≠ configPath host)
    (data : List UInt8) (outcome : WriteOutcome) :
    s.writeFile host path data outcome = s :=
  if_neg hpath

theorem removeFile_eq {path : String} (hpath : path ≠ configPath host)
    (outcome : Except IoError Unit) :
    s.removeFile host path outcome = s := by
  unfold removeFile
  split
  · exact if_neg hpath
  · rfl

end Spared

theorem spared_step {bytes : List UInt8} {s t : BuidCalls} {a : Action}
    (h : Spared host bytes s) (hstep : step host s a = some t)
    (hspares : Spares host a) : Spared host bytes t := by
  cases a with
  | tryExists call answer =>
      rcases hspares with ⟨found, rfl⟩
      exact h.tryExists hstep
  | write call uuid outcome =>
      exact absurd (Machine.of_enabled_if hstep).left.left (h.told call)
  | writeDropped call uuid =>
      exact absurd (Machine.of_enabled_if hstep).left (h.told call)
  | read call outcome => exact h.read hstep
  | drop call =>
      cases hstep
      exact h.finish call
  | savePairRecord pairRecordId data outcome =>
      cases hstep
      unfold savePairRecord
      split
      · rw [Spared.writeFile_eq hspares]
        exact h
      · exact h
  | deletePairRecord pairRecordId outcome =>
      cases hstep
      unfold deletePairRecord
      split
      · rw [Spared.removeFile_eq hspares]
        exact h
      · exact h
  | preflightRemove udid outcome =>
      cases hstep
      rw [Spared.removeFile_eq hspares]
      exact h
  | preflightWrite udid data outcome =>
      cases hstep
      rw [Spared.writeFile_eq hspares]
      exact h

theorem agree_of_spared (bytes : List UInt8) {acts : List Action}
    (hacts : forall a, a ∈ acts -> Spares host a) :
    Machine.Throughout (step host) Agree { config := some bytes } acts := by
  have hspared : Spared host bytes { config := some bytes } :=
    ⟨rfl, fun _ => nofun, fun _ hb => by cases hb⟩
  intro pre t hpre hrun
  exact (Machine.throughout_of_guarded
    (fun _ _ _ h hstep hspares => spared_step h hstep hspares) hspared
    (Machine.guarded_of_mem hacts _) pre t hpre hrun).agree

end BuidCalls

end Handler
end Rusbmux
