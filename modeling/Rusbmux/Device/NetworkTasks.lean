import Rusbmux.Error
import Rusbmux.Foundation.Dialogue
import Rusbmux.Foundation.Strikes

/-!
# Opening a network device

`NetworkDevice::new` with the calls that it makes, and the heartbeat task that
it leaves behind, which closes the device.  What the device and the file system
answer is not restricted.  The task is aborted when the device is dropped, so it
may stop after any reply.
-/

namespace Rusbmux
namespace Device

open Foundation

/-- What `NetworkDevice::new` is given. -/
structure NetworkOpen (Ip : Type) where
  addr : Ip × Option Ip
  scopeId : Option UInt32
  udid : String
  /-- `lockdown_path.join(name)`. -/
  lockdownFile : String -> String

structure TcpProvider (Ip : Type) where
  addr : Ip
  scopeId : Option UInt32
  label : String
deriving DecidableEq

namespace NetworkOpen

variable {Ip : Type} (o : NetworkOpen Ip)

def pairingPath : String :=
  o.lockdownFile s!"{o.udid}.plist"

def heartbeatProvider (ip : Ip) : TcpProvider Ip where
  addr := ip
  scopeId := o.scopeId
  label := s!"rusbmux_{o.udid}_heartbeat_client"

def assertionProvider (ip : Ip) : TcpProvider Ip where
  addr := ip
  scopeId := o.scopeId
  label := s!"rusbmux_{o.udid}_power_assertion"

end NetworkOpen

inductive NetworkCall (Ip : Type) where
  | readPairingFile (path : String)
  /-- `HeartbeatClient::connect`. -/
  | connectHeartbeat (provider : TcpProvider Ip)
  /-- `Assertion::connect`. -/
  | connectAssertion (provider : TcpProvider Ip)
  | createAssertion (timeout : Nat)
  | sleep (seconds : Nat)
  | getMarco (interval : UInt64)
  | sendPolo

inductive NetworkReply where
  | done
  /-- What the reply to the request has under `ErrorKey`. -/
  | errorKey (error : String)
  | marco (interval : UInt64)
  | failed (err : RusbmuxError)
  | idevice (err : String)
deriving DecidableEq

inductive Beat where
  | marco (interval : UInt64) (failed : Bool)
  | polo (interval : UInt64) (failed : Bool)

inductive NetworkTask (Ip : Type) where
  | readingFile
  | connecting
  | connectingSecond (second : Ip) (firstError : String)
  | readingFileAgain (addr : Ip)
  | connectingAssertion (addr : Ip)
  | creatingAssertion (addr : Ip)
  /-- `new` returns an error. -/
  | failed (err : RusbmuxError)
  | beating (addr : Ip) (beat : Beat)
  | closed (addr : Ip)
  | panicked (addr : Ip)

namespace NetworkTask

variable {Ip : Type}

def assertionTimeout : Nat := 20 * 60

def call (o : NetworkOpen Ip) : NetworkTask Ip -> Option (NetworkCall Ip)
  | readingFile => some (.readPairingFile o.pairingPath)
  | connecting => some (.connectHeartbeat (o.heartbeatProvider o.addr.fst))
  | connectingSecond second _ =>
      some (.connectHeartbeat (o.heartbeatProvider second))
  | readingFileAgain _ => some (.readPairingFile o.pairingPath)
  | connectingAssertion addr =>
      some (.connectAssertion (o.assertionProvider addr))
  | creatingAssertion _ => some (.createAssertion assertionTimeout)
  | beating _ (.marco interval _) => some (.getMarco interval)
  | beating _ (.polo _ _) => some .sendPolo
  | failed _ | closed _ | panicked _ => none

def firstInterval : UInt64 := 15

def beatFails (addr : Ip) (failed : Bool) (beat : Beat) : NetworkTask Ip :=
  if failed then closed addr else beating addr beat

def marcoCame (checks : Bool) (addr : Ip) (interval : UInt64) :
    NetworkTask Ip :=
  if checks && decide (2 ^ 64 <= interval.toNat + 5) then panicked addr
  else beating addr (.polo (interval + 5) false)

def resume (checks : Bool) (o : NetworkOpen Ip) :
    NetworkTask Ip -> NetworkReply -> Option (NetworkTask Ip)
  | readingFile, .done => some connecting
  | readingFile, .failed err => some (failed err)
  | connecting, .done => some (readingFileAgain o.addr.fst)
  | connecting, .idevice firstError =>
      match o.addr.snd with
      | some second => some (connectingSecond second firstError)
      | none => some (failed (.idevice firstError))
  | connectingSecond second _, .done => some (readingFileAgain second)
  | connectingSecond _ firstError, .idevice _ =>
      some (failed (.idevice firstError))
  | readingFileAgain addr, .done => some (connectingAssertion addr)
  | readingFileAgain _, .failed err => some (failed err)
  | connectingAssertion addr, .done => some (creatingAssertion addr)
  | connectingAssertion _, .idevice err => some (failed (.idevice err))
  | creatingAssertion addr, .done =>
      some (beating addr (.marco firstInterval false))
  | creatingAssertion _, .errorKey error =>
      some (failed (.powerAssertion error))
  | creatingAssertion _, .failed err => some (failed err)
  | beating addr (.marco _ _), .marco interval =>
      some (marcoCame checks addr interval)
  | beating addr (.marco interval hasFailed), .idevice _ =>
      some (beatFails addr hasFailed (.polo interval true))
  | beating addr (.polo interval hasFailed), .done =>
      some (beating addr (.marco interval hasFailed))
  | beating addr (.polo interval hasFailed), .idevice _ =>
      some (beatFails addr hasFailed (.marco interval true))
  | _, _ => none

def task (checks : Bool) (o : NetworkOpen Ip) :
    Dialogue (NetworkTask Ip) (NetworkCall Ip) NetworkReply where
  call := call o
  resume := resume checks o

/-!
## One reply
-/

def isOpening : NetworkTask Ip -> Bool
  | readingFile | connecting | connectingSecond _ _ | readingFileAgain _
  | connectingAssertion _ | creatingAssertion _ => true
  | failed _ | beating _ _ | closed _ | panicked _ => false

inductive Moves (checks : Bool) (o : NetworkOpen Ip) :
    NetworkTask Ip -> NetworkCall Ip -> NetworkReply -> NetworkTask Ip ->
      Prop where
  | fails {p : NetworkTask Ip} (hp : p.isOpening = true) (c : NetworkCall Ip)
      (r : NetworkReply) (err : RusbmuxError) : Moves checks o p c r (failed err)
  | fileRead : Moves checks o readingFile (.readPairingFile o.pairingPath) .done
      connecting
  | connected : Moves checks o connecting
      (.connectHeartbeat (o.heartbeatProvider o.addr.fst)) .done
      (readingFileAgain o.addr.fst)
  | firstFailed {second : Ip} (hsecond : o.addr.snd = some second)
      (err : String) : Moves checks o connecting
      (.connectHeartbeat (o.heartbeatProvider o.addr.fst)) (.idevice err)
      (connectingSecond second err)
  | secondConnected (second : Ip) (err : String) :
      Moves checks o (connectingSecond second err)
        (.connectHeartbeat (o.heartbeatProvider second)) .done
        (readingFileAgain second)
  | fileReadAgain (addr : Ip) : Moves checks o (readingFileAgain addr)
      (.readPairingFile o.pairingPath) .done (connectingAssertion addr)
  | assertionConnected (addr : Ip) : Moves checks o (connectingAssertion addr)
      (.connectAssertion (o.assertionProvider addr)) .done
      (creatingAssertion addr)
  | created (addr : Ip) : Moves checks o (creatingAssertion addr)
      (.createAssertion assertionTimeout) .done
      (beating addr (.marco firstInterval false))
  | marco (addr : Ip) (asked : UInt64) (hasFailed : Bool) (interval : UInt64) :
      Moves checks o (beating addr (.marco asked hasFailed)) (.getMarco asked)
        (.marco interval) (marcoCame checks addr interval)
  | noMarco (addr : Ip) (asked : UInt64) (hasFailed : Bool) (err : String) :
      Moves checks o (beating addr (.marco asked hasFailed)) (.getMarco asked)
        (.idevice err) (beatFails addr hasFailed (.polo asked true))
  | polo (addr : Ip) (interval : UInt64) (hasFailed : Bool) :
      Moves checks o (beating addr (.polo interval hasFailed)) .sendPolo .done
        (beating addr (.marco interval hasFailed))
  | noPolo (addr : Ip) (interval : UInt64) (hasFailed : Bool) (err : String) :
      Moves checks o (beating addr (.polo interval hasFailed)) .sendPolo
        (.idevice err) (beatFails addr hasFailed (.marco interval true))

theorem moves_of_resume {checks : Bool} {o : NetworkOpen Ip}
    {p q : NetworkTask Ip} {c : NetworkCall Ip} {r : NetworkReply}
    (hcall : call o p = some c) (hresume : resume checks o p r = some q) :
    Moves checks o p c r q := by
  cases p with
  | failed err => cases hcall
  | closed addr => cases hcall
  | panicked addr => cases hcall
  | readingFile =>
      cases hcall
      cases r <;> cases hresume
      · exact .fileRead
      · exact .fails rfl _ _ _
  | connecting =>
      cases hcall
      cases r with
      | done =>
          cases hresume
          exact .connected
      | idevice err =>
          unfold resume at hresume
          cases hsecond : o.addr.snd with
          | none =>
              rw [hsecond] at hresume
              cases hresume
              exact .fails rfl _ _ _
          | some second =>
              rw [hsecond] at hresume
              cases hresume
              exact .firstFailed hsecond err
      | _ => cases hresume
  | connectingSecond second err =>
      cases hcall
      cases r <;> cases hresume
      · exact .secondConnected second err
      · exact .fails rfl _ _ _
  | readingFileAgain addr =>
      cases hcall
      cases r <;> cases hresume
      · exact .fileReadAgain addr
      · exact .fails rfl _ _ _
  | connectingAssertion addr =>
      cases hcall
      cases r <;> cases hresume
      · exact .assertionConnected addr
      · exact .fails rfl _ _ _
  | creatingAssertion addr =>
      cases hcall
      cases r <;> cases hresume
      · exact .created addr
      · exact .fails rfl _ _ _
      · exact .fails rfl _ _ _
  | beating addr beat =>
      cases beat with
      | marco asked hasFailed =>
          cases hcall
          cases r <;> cases hresume
          · exact .marco addr asked hasFailed _
          · exact .noMarco addr asked hasFailed _
      | polo interval hasFailed =>
          cases hcall
          cases r <;> cases hresume
          · exact .polo addr interval hasFailed
          · exact .noPolo addr interval hasFailed _

/-!
## What the calls have behind them
-/

abbrev Log (Ip : Type) : Type := Dialogue.Log (NetworkCall Ip) NetworkReply

def intervalOf : NetworkCall Ip × NetworkReply -> Option UInt64
  | (.getMarco _, .marco interval) => some interval
  | _ => none

def intervalAfter (log : Log Ip) : UInt64 :=
  (log.filterMap intervalOf).getLast?.elim firstInterval fun i => i + 5

theorem intervalAfter_concat (log : Log Ip)
    (e : NetworkCall Ip × NetworkReply) :
    intervalAfter (log ++ [e]) =
      (intervalOf e).elim (intervalAfter log) fun i => i + 5 := by
  unfold intervalAfter
  rw [List.filterMap_append]
  cases hinterval : intervalOf e with
  | none =>
      rw [List.filterMap_cons_none hinterval, List.filterMap_nil,
        List.append_nil]
      rfl
  | some interval =>
      rw [List.filterMap_cons_some hinterval, List.filterMap_nil,
        List.getLast?_concat]
      rfl

section Calls

variable (o : NetworkOpen Ip)

def FileRead (log : Log Ip) : Prop :=
  (.readPairingFile o.pairingPath, .done) ∈ log

def Reached (log : Log Ip) (addr : Ip) : Prop :=
  (.connectHeartbeat (o.heartbeatProvider addr), .done) ∈ log

def FirstFailed (log : Log Ip) : Prop :=
  exists err,
    (.connectHeartbeat (o.heartbeatProvider o.addr.fst), .idevice err) ∈ log

def AssertionHeld (log : Log Ip) : Prop :=
  (.createAssertion assertionTimeout, .done) ∈ log

def AfterMarco (log : Log Ip) : Prop :=
  exists before interval reply, log = before ++ [(.getMarco interval, reply)]

/-- What a call has behind it. -/
def Allowed (log : Log Ip) : NetworkCall Ip -> Prop
  | .readPairingFile path => path = o.pairingPath
  | .connectHeartbeat provider =>
      FileRead o log ∧
        (provider = o.heartbeatProvider o.addr.fst ∨
          exists second, o.addr.snd = some second ∧ FirstFailed o log ∧
            provider = o.heartbeatProvider second)
  | .connectAssertion provider =>
      exists addr, Reached o log addr ∧ provider = o.assertionProvider addr
  | .createAssertion timeout =>
      timeout = assertionTimeout ∧ exists addr, Reached o log addr ∧
        (.connectAssertion (o.assertionProvider addr), .done) ∈ log
  | .getMarco interval =>
      AssertionHeld log ∧ interval = intervalAfter log
  | .sendPolo => AssertionHeld log ∧ AfterMarco log
  | .sleep _ => False

def Told (log : Log Ip) : NetworkTask Ip -> Prop
  | readingFile | failed _ | closed _ | panicked _ => True
  | connecting => FileRead o log
  | connectingSecond second _ =>
      FileRead o log ∧ o.addr.snd = some second ∧ FirstFailed o log
  | readingFileAgain addr | connectingAssertion addr => Reached o log addr
  | creatingAssertion addr =>
      Reached o log addr ∧
        (.connectAssertion (o.assertionProvider addr), .done) ∈ log
  | beating _ (.marco interval _) =>
      AssertionHeld log ∧ interval = intervalAfter log
  | beating _ (.polo interval _) =>
      AssertionHeld log ∧ interval = intervalAfter log ∧ AfterMarco log

end Calls

variable {o : NetworkOpen Ip} {checks : Bool}

theorem intervalAfter_concat_of_none {log : Log Ip}
    {e : NetworkCall Ip × NetworkReply} (h : intervalOf e = none) :
    intervalAfter (log ++ [e]) = intervalAfter log := by
  rw [intervalAfter_concat, h]
  rfl

theorem intervalAfter_marco (log : Log Ip) (asked interval : UInt64) :
    intervalAfter (log ++ [(.getMarco asked, .marco interval)]) =
      interval + 5 := by
  rw [intervalAfter_concat]
  rfl

def isBeat : NetworkCall Ip × NetworkReply -> Bool
  | (.getMarco _, _) | (.sendPolo, _) => true
  | _ => false

def Quiet (log : Log Ip) (p : NetworkTask Ip) : Prop :=
  p.isOpening = true -> forall e, e ∈ log -> isBeat e = false

theorem isOpening_marcoCame (checks : Bool) (addr : Ip) (interval : UInt64) :
    (marcoCame checks addr interval).isOpening = false := by
  unfold marcoCame
  split
  · rfl
  · rfl

theorem isOpening_beatFails (addr : Ip) (hasFailed : Bool) (beat : Beat) :
    (beatFails addr hasFailed beat).isOpening = false := by
  cases hasFailed with
  | false => rfl
  | true => rfl

theorem Moves.opening {p q : NetworkTask Ip} {c : NetworkCall Ip}
    {r : NetworkReply} (h : Moves checks o p c r q) (hq : q.isOpening = true) :
    p.isOpening = true ∧ isBeat (c, r) = false := by
  cases h with
  | fails hp err => cases hq
  | marco addr asked hasFailed interval =>
      rw [isOpening_marcoCame] at hq
      cases hq
  | noMarco addr asked hasFailed err =>
      rw [isOpening_beatFails] at hq
      cases hq
  | noPolo addr interval hasFailed err =>
      rw [isOpening_beatFails] at hq
      cases hq
  | created addr => cases hq
  | polo addr interval hasFailed => cases hq
  | _ => exact ⟨rfl, rfl⟩

theorem quiet_keeps (checks : Bool) (o : NetworkOpen Ip) :
    (task checks o).Keeps Quiet := by
  intro log p c r q hquiet hcall hresume hq
  rcases (moves_of_resume hcall hresume).opening hq with ⟨hp, hbeat⟩
  intro e hmem
  rcases List.mem_append.mp hmem with hmem | hmem
  · exact hquiet hp e hmem
  · rw [List.mem_singleton.mp hmem]
    exact hbeat

theorem intervalAfter_of_quiet {log : Log Ip}
    (h : forall e, e ∈ log -> isBeat e = false) :
    intervalAfter log = firstInterval := by
  have hnone : log.filterMap intervalOf = [] := by
    rw [List.filterMap_eq_nil_iff]
    rintro ⟨c, r⟩ hmem
    have hbeat := h (c, r) hmem
    cases c with
    | getMarco interval => cases hbeat
    | _ => rfl
  unfold intervalAfter
  rw [hnone]
  rfl

theorem told_beatFails {log : Log Ip} {addr : Ip} {beat : Beat}
    (h : Told o log (beating addr beat)) (hasFailed : Bool) :
    Told o log (beatFails addr hasFailed beat) := by
  cases hasFailed with
  | true => exact trivial
  | false => exact h

theorem told_keeps (checks : Bool) (o : NetworkOpen Ip) :
    (task checks o).Keeps fun log p => Told o log p ∧ Quiet log p := by
  intro log p c r q hboth hcall hresume
  refine ⟨?_, quiet_keeps checks o log p c r q hboth.right hcall hresume⟩
  have htold := hboth.left
  have hold : forall {e : NetworkCall Ip × NetworkReply}, e ∈ log ->
      e ∈ log ++ [(c, r)] := List.mem_append_left _
  have hnew : (c, r) ∈ log ++ [(c, r)] :=
    List.mem_append_right _ (List.mem_singleton_self _)
  cases moves_of_resume hcall hresume with
  | fails hp err => exact trivial
  | fileRead => exact hnew
  | connected => exact hnew
  | firstFailed hsecond err => exact ⟨hold htold, hsecond, err, hnew⟩
  | secondConnected second err => exact hnew
  | fileReadAgain addr => exact hold htold
  | assertionConnected addr => exact ⟨hold htold, hnew⟩
  | created addr =>
      refine ⟨hnew, ?_⟩
      rw [intervalAfter_concat_of_none rfl]
      exact (intervalAfter_of_quiet (hboth.right rfl)).symm
  | marco addr asked hasFailed interval =>
      unfold marcoCame
      split
      · exact trivial
      · exact ⟨hold htold.left, (intervalAfter_marco log asked interval).symm,
          log, asked, _, rfl⟩
  | noMarco addr asked hasFailed err =>
      apply told_beatFails
      refine ⟨hold htold.left, ?_, log, asked, _, rfl⟩
      rw [intervalAfter_concat_of_none rfl]
      exact htold.right
  | polo addr interval hasFailed =>
      refine ⟨hold htold.left, ?_⟩
      rw [intervalAfter_concat_of_none rfl]
      exact htold.right.left
  | noPolo addr interval hasFailed err =>
      apply told_beatFails
      refine ⟨hold htold.left, ?_⟩
      rw [intervalAfter_concat_of_none rfl]
      exact htold.right.left

theorem allowed_of_told {log : Log Ip} {p : NetworkTask Ip}
    {c : NetworkCall Ip} (h : Told o log p) (hcall : call o p = some c) :
    Allowed o log c := by
  cases p with
  | failed err => cases hcall
  | closed addr => cases hcall
  | panicked addr => cases hcall
  | readingFile =>
      cases hcall
      rfl
  | connecting =>
      cases hcall
      exact ⟨h, Or.inl rfl⟩
  | connectingSecond second err =>
      cases hcall
      exact ⟨h.left, Or.inr ⟨second, h.right.left, h.right.right, rfl⟩⟩
  | readingFileAgain addr =>
      cases hcall
      rfl
  | connectingAssertion addr =>
      cases hcall
      exact ⟨addr, h, rfl⟩
  | creatingAssertion addr =>
      cases hcall
      exact ⟨rfl, addr, h⟩
  | beating addr beat =>
      cases beat with
      | marco interval hasFailed =>
          cases hcall
          exact h
      | polo interval hasFailed =>
          cases hcall
          exact ⟨h.left, h.right.right⟩

/--
Whatever the device and the file system answer: the second address is tried only
after the first has failed, the power assertion is asked for at the address that
was reached, and the heartbeats go on from it, each with its interval.
-/
theorem taskCalls_allowed (checks : Bool) (o : NetworkOpen Ip)
    {replies : List NetworkReply}
    {t : Dialogue.Conversation (NetworkTask Ip) (NetworkCall Ip) NetworkReply}
    (hrun : Machine.run (task checks o).step { place := readingFile } replies =
      some t) :
    Dialogue.Justified (Allowed o) t.log :=
  Dialogue.run_justified (p := readingFile) (told_keeps checks o)
    (fun _ _ _ h hcall => allowed_of_told h.left hcall)
    ⟨trivial, fun _ => List.forall_mem_nil _⟩ hrun

def secondAddress : NetworkOpen String where
  addr := ("fe80::1", some "192.168.0.7")
  scopeId := some 4
  udid := "00008101"
  lockdownFile name := "/var/lib/lockdown/" ++ name

def oneMarco : List NetworkReply :=
  [.done, .idevice "connection refused", .done, .done, .done, .done, .marco 10,
    .idevice "broken pipe", .idevice "timed out"]

def oneMarcoEnd :
    Dialogue.Conversation (NetworkTask String) (NetworkCall String)
      NetworkReply :=
  (Machine.run (task true secondAddress).step { place := readingFile }
    oneMarco).getD { place := readingFile }

theorem run_oneMarco :
    Machine.run (task true secondAddress).step { place := readingFile }
      oneMarco = some oneMarcoEnd := rfl

/-!
## When a device is closed
-/

def fails : NetworkCall Ip × NetworkReply -> Prop
  | (.getMarco _, .idevice _) | (.sendPolo, .idevice _) => True
  | _ => False

def mends : NetworkCall Ip × NetworkReply -> Prop
  | (.getMarco _, .marco _) => True
  | _ => False

def FailedTwice (log : Log Ip) : Prop :=
  Strikes.StruckTwice fails mends log

def Noted (log : Log Ip) : NetworkTask Ip -> Prop
  | closed _ => FailedTwice log
  | beating _ (.marco _ hasFailed) | beating _ (.polo _ hasFailed) =>
      ¬ FailedTwice log ∧
        (hasFailed = true <-> Strikes.Standing fails mends log)
  | readingFile | connecting | connectingSecond _ _ | readingFileAgain _
  | connectingAssertion _ | creatingAssertion _ | failed _ | panicked _ =>
      ¬ FailedTwice log

theorem not_fails_of_quiet {log : Log Ip}
    (h : forall e, e ∈ log -> isBeat e = false) (e : NetworkCall Ip × NetworkReply)
    (hmem : e ∈ log) : ¬ fails e := by
  rcases e with ⟨c, r⟩
  have hbeat := h (c, r) hmem
  cases c with
  | getMarco interval => cases hbeat
  | sendPolo => cases hbeat
  | _ => exact fun hfails => hfails

theorem not_failedTwice_concat {log : Log Ip}
    {e : NetworkCall Ip × NetworkReply} (h : ¬ FailedTwice log)
    (he : fails e -> ¬ Strikes.Standing fails mends log) :
    ¬ FailedTwice (log ++ [e]) := by
  unfold FailedTwice
  rw [Strikes.struckTwice_concat]
  rintro (htwice | ⟨hfails, hstanding⟩)
  · exact h htwice
  · exact he hfails hstanding

theorem noted_beatFails {log : Log Ip} {e : NetworkCall Ip × NetworkReply}
    (hfails : fails e) {hasFailed : Bool} (htwice : ¬ FailedTwice log)
    (hnoted : hasFailed = true <-> Strikes.Standing fails mends log)
    (addr : Ip) (interval : UInt64) :
    Noted (log ++ [e]) (beatFails addr hasFailed (.marco interval true)) ∧
      Noted (log ++ [e]) (beatFails addr hasFailed (.polo interval true)) := by
  cases hasFailed with
  | true =>
      have hclosed : FailedTwice (log ++ [e]) :=
        (Strikes.struckTwice_concat log e).mpr
          (Or.inr ⟨hfails, hnoted.mp rfl⟩)
      exact ⟨hclosed, hclosed⟩
  | false =>
      have hopen : ¬ FailedTwice (log ++ [e]) := by
        apply not_failedTwice_concat htwice
        intro _ hstanding
        cases hnoted.mpr hstanding
      have hstands : true = true <->
          Strikes.Standing fails mends (log ++ [e]) := by
        rw [Strikes.standing_concat]
        exact ⟨fun _ => Or.inl hfails, fun _ => rfl⟩
      exact ⟨⟨hopen, hstands⟩, ⟨hopen, hstands⟩⟩

theorem noted_opening {log : Log Ip} {p q : NetworkTask Ip}
    {e : NetworkCall Ip × NetworkReply} (hnoted : Noted log p)
    (hquiet : Quiet log p) (hp : p.isOpening = true)
    (hq : ¬ FailedTwice (log ++ [e]) -> Noted (log ++ [e]) q) :
    Noted (log ++ [e]) q := by
  apply hq
  apply not_failedTwice_concat
  · cases p with
    | beating addr beat => cases hp
    | closed addr => cases hp
    | _ => exact hnoted
  · intro _
    exact Strikes.not_standing_of_none (not_fails_of_quiet (hquiet hp))

theorem noted_keeps (checks : Bool) (o : NetworkOpen Ip) :
    (task checks o).Keeps fun log p => Noted log p ∧ Quiet log p := by
  intro log p c r q hboth hcall hresume
  refine ⟨?_, quiet_keeps checks o log p c r q hboth.right hcall hresume⟩
  have hnoted := hboth.left
  cases moves_of_resume hcall hresume with
  | fails hp err => exact noted_opening hnoted hboth.right hp fun h => h
  | created addr =>
      apply noted_opening hnoted hboth.right rfl
      intro htwice
      refine ⟨htwice, ?_⟩
      rw [Strikes.standing_concat]
      have hstanding : ¬ Strikes.Standing fails mends log :=
        Strikes.not_standing_of_none (not_fails_of_quiet (hboth.right rfl))
      constructor
      · intro h
        cases h
      · rintro (hfails | ⟨h, _⟩)
        · exact hfails.elim
        · exact absurd h hstanding
  | marco addr asked hasFailed interval =>
      have htwice : ¬ FailedTwice (log ++
          [(.getMarco asked, .marco interval)]) :=
        not_failedTwice_concat hnoted.left fun h => h.elim
      unfold marcoCame
      split
      · exact htwice
      · refine ⟨htwice, ?_⟩
        rw [Strikes.standing_concat]
        constructor
        · intro h
          cases h
        · rintro (hfails | ⟨_, hmends⟩)
          · exact hfails.elim
          · exact absurd trivial hmends
  | noMarco addr asked hasFailed err =>
      have hfails : fails ((.getMarco asked, .idevice err) :
          NetworkCall Ip × NetworkReply) := trivial
      exact (noted_beatFails hfails hnoted.left hnoted.right addr asked).right
  | polo addr interval hasFailed =>
      refine ⟨not_failedTwice_concat hnoted.left fun h => h.elim, ?_⟩
      rw [Strikes.standing_concat, hnoted.right]
      constructor
      · intro h
        exact Or.inr ⟨h, fun hmends => hmends⟩
      · rintro (hfails | ⟨h, _⟩)
        · exact hfails.elim
        · exact h
  | noPolo addr interval hasFailed err =>
      have hfails : fails ((.sendPolo, .idevice err) :
          NetworkCall Ip × NetworkReply) := trivial
      exact (noted_beatFails hfails hnoted.left hnoted.right addr interval).left
  | _ => exact noted_opening hnoted hboth.right rfl fun h => h

/--
The heartbeat task closes the device exactly at the second of two failures that
no marco comes between; a polo makes up for nothing.
-/
theorem closed_iff (checks : Bool) (o : NetworkOpen Ip)
    {replies : List NetworkReply}
    {t : Dialogue.Conversation (NetworkTask Ip) (NetworkCall Ip) NetworkReply}
    (hrun : Machine.run (task checks o).step { place := readingFile } replies =
      some t) :
    (exists addr, t.place = closed addr) <-> FailedTwice t.log := by
  have hnone : ¬ FailedTwice ([] : Log Ip) :=
    Strikes.not_struckTwice_of_none (List.forall_mem_nil _)
  have hstart : Noted ([] : Log Ip) (readingFile : NetworkTask Ip) ∧
      Quiet ([] : Log Ip) (readingFile : NetworkTask Ip) :=
    ⟨hnone, fun _ => List.forall_mem_nil _⟩
  have hnoted := (Dialogue.run_keeps (noted_keeps checks o)
    (s := { place := readingFile }) hstart hrun).left
  constructor
  · rintro ⟨addr, hclosed⟩
    rw [hclosed] at hnoted
    exact hnoted
  · intro htwice
    cases hplace : t.place with
    | closed addr => exact ⟨addr, rfl⟩
    | beating addr beat =>
        rw [hplace] at hnoted
        cases beat with
        | marco interval hasFailed => exact absurd htwice hnoted.left
        | polo interval hasFailed => exact absurd htwice hnoted.left
    | _ =>
        rw [hplace] at hnoted
        exact absurd htwice hnoted

theorem closed_iff_oneMarco :
    oneMarcoEnd.place = closed "192.168.0.7" ∧
      ((exists addr, oneMarcoEnd.place = closed addr) <->
        FailedTwice oneMarcoEnd.log) :=
  ⟨rfl, closed_iff true secondAddress run_oneMarco⟩

end NetworkTask

end Device
end Rusbmux
