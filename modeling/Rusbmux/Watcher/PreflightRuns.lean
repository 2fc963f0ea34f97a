import Rusbmux.Watcher.PreflightPairing

/-!
# Runs of the preflight task

What the pairing of the preflight task adds up to over a whole run, and that it
goes through the phases that the task of `Watcher.Preflight` does.
-/

namespace Rusbmux
namespace Watcher
namespace Pairing

open Foundation

variable {file : Type}

/-!
## Requests and attempts
-/

def isAnswer : PreflightCall file × PreflightReply file -> Bool
  | (.setValue _ _, _) => true
  | _ => false

def isRequest : PreflightCall file × PreflightReply file -> Bool
  | (.receiveNotification, .text name) => name = requestHostBuid
  | _ => false

def isAttempt : PreflightCall file × PreflightReply file -> Bool
  | (.pairOnce _ _, _) => true
  | _ => false

def isTimeout : PreflightCall file × PreflightReply file -> Bool
  | (.receiveNotification, .timeout) => true
  | _ => false

/-- The answers that the task has still to make. -/
def owedAnswers : Pairing file -> Nat
  | readingFile | removingFile | readingBuid _ | connecting _ _
  | gettingType _ _ | startingSession _ _ | reconnecting _ | settingBuid _
  | answeringRequest _ => 1
  | _ => 0

def owedAttempts : Pairing file -> Nat
  | readingFile | removingFile | readingBuid _ | connecting _ _
  | gettingType _ _ | startingSession _ _ | reconnecting _ | settingBuid _
  | gettingVersion _ | gettingClass _ _ | pairing _ _ | askingAgain _ => 1
  | _ => 0

def extraAttempts : Pairing file -> Nat
  | verifying _ | writingFile _ | ended _ => 1
  | _ => 0

structure Accounted (log : Log file) (p : Pairing file) : Prop where
  answers : log.countP isAnswer + owedAnswers p <= log.countP isRequest + 1
  requests : (forall result, p ≠ .ended result) ->
    log.countP isRequest + 1 <= log.countP isAnswer + owedAnswers p
  attempts : log.countP isAttempt + owedAttempts p <=
    log.countP isTimeout + 1 + extraAttempts p
  timeouts : (forall result, p ≠ .ended result) ->
    log.countP isTimeout + 1 <= log.countP isAttempt + owedAttempts p

structure Balanced (p : Pairing file)
    (e : PreflightCall file × PreflightReply file) (q : Pairing file) :
    Prop where
  answers : (isAnswer e).toNat + owedAnswers q <=
    (isRequest e).toNat + owedAnswers p
  requests : (forall result, q ≠ .ended result) ->
    (isRequest e).toNat + owedAnswers p <= (isAnswer e).toNat + owedAnswers q
  attempts : (isAttempt e).toNat + owedAttempts q + extraAttempts p <=
    (isTimeout e).toNat + owedAttempts p + extraAttempts q
  timeouts : (forall result, q ≠ .ended result) ->
    (isTimeout e).toNat + owedAttempts p <= (isAttempt e).toNat + owedAttempts q

theorem countP_append_single {alpha : Type} (f : alpha -> Bool)
    (xs : List alpha) (x : alpha) :
    (xs ++ [x]).countP f = xs.countP f + (f x).toNat := by
  rw [List.countP_append, List.countP_singleton]
  cases f x <;> rfl

theorem requestPair_ne : requestPair ≠ requestHostBuid := by decide

theorem isAnswer_le_owed {H : PreflightHost file} {p : Pairing file}
    {c : PreflightCall file} (hcall : call H p = some c)
    (r : PreflightReply file) : (isAnswer (c, r)).toNat <= owedAnswers p := by
  cases p <;> cases hcall <;> first | exact Nat.zero_le _ | exact Nat.le_refl _

theorem isAttempt_le_owed {H : PreflightHost file} {p : Pairing file}
    {c : PreflightCall file} (hcall : call H p = some c)
    (r : PreflightReply file) :
    (isAttempt (c, r)).toNat + extraAttempts p <= owedAttempts p + 1 := by
  cases p <;> cases hcall <;> simp [isAttempt, owedAttempts, extraAttempts]

theorem balanced_of_resume {H : PreflightHost file} {p q : Pairing file}
    {c : PreflightCall file} {r : PreflightReply file}
    (hcall : call H p = some c) (hresume : resume H p r = some q) :
    Balanced p (c, r) q := by
  cases moves_of_resume hresume with
  | ends p r result =>
      have hanswer := isAnswer_le_owed hcall r
      have hattempt := isAttempt_le_owed hcall r
      constructor
      · exact Nat.le_add_left_of_le hanswer
      · intro hopen
        exact absurd rfl (hopen result)
      · show _ + 0 + extraAttempts p <= _ + owedAttempts p + 1
        omega
      · intro hopen
        exact absurd rfl (hopen result)
  | _ =>
      have hne := requestPair_ne
      cases hcall
      constructor <;> simp [isAnswer, isRequest, isAttempt, isTimeout,
        owedAnswers, owedAttempts, extraAttempts, *]

theorem accounted_keeps (H : PreflightHost file) :
    (task H).Keeps Accounted := by
  intro log p c r q h hcall hresume
  have hbalance := balanced_of_resume hcall hresume
  have hopen : forall result, p ≠ .ended result := by
    rintro result rfl
    cases hcall
  have hrequests := h.requests hopen
  have htimeouts := h.timeouts hopen
  have hanswers := h.answers
  have hattempts := h.attempts
  constructor
  · have hnext := hbalance.answers
    rw [countP_append_single, countP_append_single]
    omega
  · intro hq
    have hnext := hbalance.requests hq
    rw [countP_append_single, countP_append_single]
    omega
  · have hnext := hbalance.attempts
    rw [countP_append_single, countP_append_single]
    omega
  · intro hq
    have hnext := hbalance.timeouts hq
    rw [countP_append_single, countP_append_single]
    omega

/--
Whatever the device and the user do, the task has answered every request for
the BUID when it waits for the next notification, and has tried to pair once
before it waited and once for every 30 seconds without a notification.
-/
theorem waiting_accounted {H : PreflightHost file}
    {replies : List (PreflightReply file)}
    {t : Dialogue.Conversation (Pairing file) (PreflightCall file)
      (PreflightReply file)}
    (hrun : Machine.run (task H).step { place := .readingFile } replies =
      some t) :
    t.log.countP isAnswer <= t.log.countP isRequest + 1 ∧
      t.log.countP isAttempt <= t.log.countP isTimeout + 2 ∧
      forall buid, t.place = .waitingForRequest buid ->
        t.log.countP isAnswer = t.log.countP isRequest + 1 ∧
          t.log.countP isAttempt = t.log.countP isTimeout + 1 := by
  have hstart : Accounted ([] : Log file) .readingFile := by
    constructor <;> simp [owedAnswers, owedAttempts]
  have h := Dialogue.run_keeps (accounted_keeps H)
    (s := { place := .readingFile }) hstart hrun
  have hextra : extraAttempts t.place <= 1 := by
    cases t.place <;> simp [extraAttempts]
  have hanswers := h.answers
  have hattempts := h.attempts
  refine ⟨by omega, by omega, ?_⟩
  intro buid hplace
  have hopen : forall result, t.place ≠ .ended result := by
    rw [hplace]
    nofun
  have hrequests := h.requests hopen
  have htimeouts := h.timeouts hopen
  rw [hplace] at hanswers hattempts hrequests htimeouts
  exact ⟨Nat.le_antisymm hanswers hrequests,
    Nat.le_antisymm hattempts htimeouts⟩

theorem waiting_accounted_slowUser :
    let t := slowUserEnd
    t.log.countP isAnswer <= t.log.countP isRequest + 1 ∧
      t.log.countP isAttempt <= t.log.countP isTimeout + 2 ∧
      forall buid, t.place = .waitingForRequest buid ->
        t.log.countP isAnswer = t.log.countP isRequest + 1 ∧
          t.log.countP isAttempt = t.log.countP isTimeout + 1 :=
  waiting_accounted run_slowUser

/-!
## The phases of the task
-/

/-- The phase that `PreflightTask` has for a place. -/
def phase : Pairing file -> PreflightTask
  | readingFile => .readingFile
  | removingFile => .removingFile
  | readingBuid saved => .readingBuid saved.isSome
  | connecting saved _ => .connecting saved.isSome
  | gettingType saved _ => .gettingType saved.isSome
  | startingSession _ _ => .startingSession
  | reconnecting _ => .reconnecting
  | settingBuid _ => .settingBuid
  | gettingVersion _ => .gettingVersion
  | gettingClass _ major => .gettingClass major
  | pairing _ supportNotifications => .pairing supportNotifications
  | startingService _ => .startingService
  | connectingNotifications _ _ => .connectingNotifications
  | observing _ => .observing
  | waitingForRequest _ | answeringRequest _ | askingAgain _ =>
      .waitingForRequest
  | pairingAgain _ => .pairingAgain
  | verifying _ => .verifying
  | writingFile _ => .writingFile
  | ended _ => .ended

/--
The answer that `PreflightTask` has for a reply; a reply that the waiting task
waits on after has none.
-/
def answer (H : PreflightHost file) :
    Pairing file -> PreflightReply file -> Option PreflightAnswer
  | readingFile, .data data =>
      match H.fromBytes data with
      | .ok _ => some .ok
      | .error _ => some .unparsable
  | readingFile, .failed (.io err) =>
      if err.kind = .notFound then some .notFound else some .failed
  | gettingType _ _, .text type => some (.type type)
  | startingSession _ _, .idevice .invalidHostId => some .invalidHostId
  | startingSession _ _, .idevice (.rustls _) => some .corrupted
  | startingSession _ _, .idevice (.tlsBuilderFailed _) => some .corrupted
  | startingSession _ _, .idevice (.pemParseFailed _) => some .corrupted
  | gettingVersion _, .value value =>
      some (value.asString.elim .failed fun productVersion =>
        .version (productVersionMajor productVersion))
  | gettingClass _ _, .value value =>
      some (value.asString.elim .failed .deviceClass)
  | pairing _ _, .idevice .passwordProtected => some .dialogPending
  | pairing _ _, .idevice .pairingDialogResponsePending => some .dialogPending
  | waitingForRequest _, .text name =>
      if name = requestPair then some .ok else none
  | waitingForRequest _, .timeout => none
  | answeringRequest _, .done => none
  | askingAgain _, .idevice .userDeniedPairing => some .failed
  | askingAgain _, _ => none
  | verifying pairingFile, .done =>
      match H.serialize pairingFile with
      | .ok _ => some .ok
      | .error _ => some .failed
  | _, .failed _ | _, .idevice _ => some .failed
  | _, _ => some .ok

theorem phase_of_resume {H : PreflightHost file} {p q : Pairing file}
    {r : PreflightReply file} (h : resume H p r = some q) :
    (answer H p r).elim (phase q = phase p) fun a =>
      PreflightTask.next (phase p) a = some (phase q) := by
  revert h
  fun_cases resume H p r with
  | case9 saved buid type htype =>
      rintro ⟨rfl⟩
      exact if_pos htype
  | case10 buid type htype saved | case11 buid type htype =>
      rintro ⟨rfl⟩
      exact if_neg htype
  -- the errors that the task does not tell from the rest
  | case39 buid err herr =>
      rintro ⟨rfl⟩
      cases err <;> first | rfl | exact absurd rfl herr
  | case49 saved buid err | case54 buid supportNotifications err =>
      rintro ⟨rfl⟩
      cases err <;> first | rfl | simp at *
  | _ =>
      intro h
      cases h <;> simp [answer, phase, PreflightTask.next, *]

/--
The phases that a run of the task passes through, repetitions left out, are
those of the run of `PreflightTask` on the answers that its replies are.
-/
theorem run_phases {H : PreflightHost file}
    {replies : List (PreflightReply file)}
    {t : Dialogue.Conversation (Pairing file) (PreflightCall file)
      (PreflightReply file)}
    (hrun : Machine.run (task H).step { place := .readingFile } replies =
      some t) :
    let answers := Machine.labels (task H).step (fun s => answer H s.place)
      { place := .readingFile } replies
    Machine.run PreflightTask.next .readingFile answers =
        some (phase t.place) ∧
      .readingFile :: Machine.passed PreflightTask.next .readingFile answers =
        (.readingFile :: (Machine.passed (task H).step
          { place := .readingFile } replies).map
            fun s => phase s.place).destutter (· ≠ ·) := by
  have hsimulates : Machine.Simulates (task H).step PreflightTask.next
      (fun s => phase s.place) (fun s => answer H s.place) := by
    intro s r u hstep
    rcases Dialogue.step_eq_some hstep with ⟨c, p, hcall, hresume, rfl⟩
    exact phase_of_resume hresume
  exact ⟨Machine.run_labels hsimulates hrun,
    Machine.passed_labels hsimulates (fun _ _ _ => PreflightTask.ne_of_next)
      hrun⟩

theorem run_phases_slowUser :
    let answers := Machine.labels (task rawHost).step
      (fun s => answer rawHost s.place) { place := .readingFile } slowUser
    Machine.run PreflightTask.next .readingFile answers =
        some (phase slowUserEnd.place) ∧
      .readingFile :: Machine.passed PreflightTask.next .readingFile answers =
        (.readingFile :: (Machine.passed (task rawHost).step
          { place := .readingFile } slowUser).map
            fun s => phase s.place).destutter (· ≠ ·) :=
  run_phases run_slowUser

/-!
## A user that trusts the host
-/

/-- What can happen while the task waits, with what it leads to. -/
inductive WaitRound (file : Type) where
  | notified (name : String)
  | buidRequested
  | timedOut (reply : PreflightReply file)

def WaitRound.replies : WaitRound file -> List (PreflightReply file)
  | notified name => [.text name]
  | buidRequested => [.text requestHostBuid, .done]
  | timedOut reply => [.timeout, reply]

/-- The user has not denied, and the device has not failed. -/
def WaitRound.Goes : WaitRound file -> Prop
  | notified name => name ≠ requestPair ∧ name ≠ requestHostBuid
  | buidRequested => True
  | timedOut reply => (exists pairingFile, reply = .file pairingFile) ∨
      exists err, reply = .idevice err ∧ err ≠ .userDeniedPairing

theorem resume_asking {H : PreflightHost file} (buid : String)
    {reply : PreflightReply file} (h : (WaitRound.timedOut reply).Goes) :
    resume H (.askingAgain buid) reply = some (.waitingForRequest buid) := by
  rcases h with ⟨pairingFile, rfl⟩ | ⟨err, rfl, herr⟩
  · rfl
  · cases err with
    | userDeniedPairing => exact absurd rfl herr
    | _ => rfl

variable {H : PreflightHost file} {buid : String}
  {s : Dialogue.Conversation (Pairing file) (PreflightCall file)
    (PreflightReply file)}

theorem step_to {p q : Pairing file} {c : PreflightCall file}
    {r : PreflightReply file} (hs : s.place = p) (hcall : call H p = some c)
    (hresume : resume H p r = some q) :
    exists t, (task H).step s r = some t ∧ t.place = q ∧
      t.log = s.log ++ [(c, r)] :=
  Dialogue.step_of_resume (D := task H) hs hcall hresume

theorem run_round (hs : s.place = .waitingForRequest buid)
    {round : WaitRound file} (h : round.Goes) :
    exists t, Machine.run (task H).step s round.replies = some t ∧
      t.place = .waitingForRequest buid := by
  cases round with
  | notified name =>
      have hnext : resume H (.waitingForRequest buid) (.text name) =
          some (.waitingForRequest buid) := by
        simp only [resume, if_neg h.left, if_neg h.right]
      rcases step_to hs rfl hnext with ⟨t, hstep, ht, _⟩
      exact ⟨t, Machine.run_cons_of_step hstep [], ht⟩
  | buidRequested =>
      have hnext : resume H (.waitingForRequest buid) (.text requestHostBuid) =
          some (.answeringRequest buid) := by
        simp only [resume, if_neg requestPair_ne.symm, if_pos]
      rcases step_to hs rfl hnext with ⟨t, hstep, ht, _⟩
      rcases step_to (r := .done) ht rfl rfl with ⟨u, hlast, hu, _⟩
      refine ⟨u, (Machine.run_cons_of_step hstep _).trans ?_, hu⟩
      exact Machine.run_cons_of_step hlast []
  | timedOut reply =>
      rcases step_to (H := H) (r := .timeout) hs rfl rfl with ⟨t, hstep, ht, _⟩
      rcases step_to ht rfl (resume_asking buid h) with ⟨u, hlast, hu, _⟩
      refine ⟨u, (Machine.run_cons_of_step hstep _).trans ?_, hu⟩
      exact Machine.run_cons_of_step hlast []

theorem run_rounds (hs : s.place = .waitingForRequest buid)
    {rounds : List (WaitRound file)}
    (hgo : forall round, round ∈ rounds -> round.Goes) :
    exists t,
      Machine.run (task H).step s (rounds.flatMap WaitRound.replies) = some t ∧
        t.place = .waitingForRequest buid := by
  induction rounds generalizing s with
  | nil => exact ⟨s, rfl, hs⟩
  | cons round rest ih =>
      rcases run_round hs (hgo round List.mem_cons_self) with ⟨t, hrun, ht⟩
      rcases ih ht (fun r hr => hgo r (List.mem_cons_of_mem _ hr)) with
        ⟨u, hrest, hu⟩
      refine ⟨u, ?_, hu⟩
      rw [List.flatMap_cons, Machine.run_append_of_run hrun]
      exact hrest

/--
However long the user takes and whatever the attempts in the meantime return,
once the device asks to be paired with, the file of the attempt that follows is
verified and written, and the task ends without an error.
-/
theorem trusted_writes (hs : s.place = .waitingForRequest buid)
    {rounds : List (WaitRound file)}
    (hgo : forall round, round ∈ rounds -> round.Goes) {pairingFile : file}
    {data : List UInt8} (hdata : H.serialize pairingFile = .ok data) :
    exists t before,
      Machine.run (task H).step s (rounds.flatMap WaitRound.replies ++
          [.text requestPair, .file pairingFile, .done, .done]) = some t ∧
        t.place = .ended (.ok ()) ∧
        t.log = before ++ [(.pairOnce H.hostId buid, .file pairingFile),
          (.startSession pairingFile, .done), (.writeFile data, .done)] := by
  rcases run_rounds hs hgo with ⟨t, hrun, ht⟩
  have hpaired : resume H (.waitingForRequest buid) (.text requestPair) =
      some (.pairingAgain buid) := by
    simp only [resume, if_pos]
  have hverified : resume H (.verifying pairingFile) .done =
      some (.writingFile data) := by
    simp only [resume, hdata]
  rcases step_to ht rfl hpaired with ⟨u, hfirst, hu, _⟩
  rcases step_to (r := .file pairingFile) hu rfl rfl with
    ⟨v, hsecond, hv, hpairing⟩
  rcases step_to hv rfl hverified with ⟨w, hthird, hw, hsession⟩
  rcases step_to (r := .done) hw rfl rfl with ⟨x, hlast, hx, hwritten⟩
  refine ⟨x, u.log, ?_, hx, ?_⟩
  · rw [Machine.run_append_of_run hrun, Machine.run_cons_of_step hfirst,
      Machine.run_cons_of_step hsecond, Machine.run_cons_of_step hthird,
      Machine.run_cons_of_step hlast]
    rfl
  · rw [hwritten, hsession, hpairing, List.append_assoc, List.append_assoc]
    rfl

def slowRounds : List (WaitRound (List UInt8)) :=
  [.buidRequested, .timedOut (.file [9])]

theorem goes_slowRounds :
    forall round, round ∈ slowRounds -> round.Goes := by
  intro round hmem
  rcases List.mem_cons.mp hmem with rfl | hmem
  · trivial
  · rw [List.mem_singleton.mp hmem]
    exact Or.inl ⟨[9], rfl⟩

theorem trusted_writes_slowRounds :
    exists t before,
      Machine.run (task rawHost).step { place := .waitingForRequest "BUID" }
          (slowRounds.flatMap WaitRound.replies ++
            [.text requestPair, .file [1, 2], .done, .done]) = some t ∧
        t.place = .ended (.ok ()) ∧
        t.log = before ++ [(.pairOnce rawHost.hostId "BUID", .file [1, 2]),
          (.startSession [1, 2], .done), (.writeFile [1, 2], .done)] :=
  trusted_writes rfl goes_slowRounds rfl

end Pairing
end Watcher
end Rusbmux
