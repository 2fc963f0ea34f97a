import Rusbmux.Device.Registrations

/-!
# Who removes which registration

Only own entries are removed in a run exactly if `register` never takes a port
that somebody may still unregister.  `next_source_port` only comes back to a
port after it has wrapped around, which the run at the end makes it do.
-/

namespace Rusbmux
namespace Device

open Foundation

namespace Registrations

variable {s t : Registrations}

/-!
## Taking a port that somebody may still unregister
-/

theorem mem_removed {port : UInt16} {tx : Nat} {entry : PacketEntry}
    (hget : s.router.get port = some entry) :
    (tx, entry.tx) ∈ (s.unregisterFor port tx).removed := by
  unfold unregisterFor
  rw [hget]
  exact List.mem_append_right _ (List.mem_singleton_self _)

theorem removed_closeEntry (s : Registrations) (entry : Option PacketEntry)
    (tx : Nat) : (s.closeEntry entry tx).removed = s.removed := by
  rcases closeEntry_cases s entry tx with hsame | ⟨e, other, _, _, hclosed⟩
  · rw [hsame]
  · rw [hclosed]
    rfl

theorem step_inPhase {tx : Nat} {conn : Registration}
    {phase : RegistrationPhase} (next : Registration -> Registrations)
    (hconn : s.conns[tx]? = some conn) (hphase : conn.phase = phase) :
    s.inPhase tx phase next = some (next conn) := by
  rw [← hphase]
  exact inPhase_of_get next hconn

theorem get_update {tx : Nat} {conn : Registration}
    {f : Registration -> Registration} (hconn : s.conns[tx]? = some conn) :
    (s.update tx f).conns[tx]? = some (f conn) := by
  show (s.conns.modify tx f)[tx]? = _
  rw [List.getElem?_modify_eq, hconn]
  rfl

theorem removes_of_claims {tx : Nat} {port : UInt16} {entry : PacketEntry}
    (hget : s.router.get port = some entry) (hclaims : s.Claims tx port) :
    exists later t, (forall a, a ∈ later -> TowardsUnregister a) ∧
      Machine.run step s later = some t ∧ (tx, entry.tx) ∈ t.removed := by
  have hone : forall {s t : Registrations} {a : Action},
      TowardsUnregister a -> step s a = some t ->
        (forall b, b ∈ [a] -> TowardsUnregister b) ∧
          Machine.run step s [a] = some t := by
    intro s t a ha hstep
    constructor
    · intro b hb
      rw [List.mem_singleton.mp hb]
      exact ha
    · exact Machine.run_cons_of_step hstep []
  have htwo : forall {t u : Registrations} {a b : Action},
      TowardsUnregister a -> TowardsUnregister b -> step s a = some t ->
        step t b = some u ->
          (forall c, c ∈ [a, b] -> TowardsUnregister c) ∧
            Machine.run step s [a, b] = some u := by
    intro t u a b ha hb hfirst hsecond
    constructor
    · intro c hc
      rcases List.mem_cons.mp hc with rfl | hc
      · exact ha
      · rw [List.mem_singleton.mp hc]
        exact hb
    · exact (Machine.run_cons_of_step hfirst [b]).trans
        (Machine.run_cons_of_step hsecond [])
  rcases hclaims with ⟨conn, hconn, rfl, hgoes⟩ | hsome
  · cases hphase : conn.phase with
    | finished => exact absurd hphase hgoes
    | failed =>
        rcases hone (a := .unregister tx) trivial
          (step_inPhase _ hconn hphase) with ⟨hall, hrun⟩
        exact ⟨_, _, hall, hrun, mem_removed hget⟩
    | opened =>
        rcases hone (a := .cleanupConn tx) trivial
          (step_inPhase _ hconn hphase) with ⟨hall, hrun⟩
        refine ⟨_, _, hall, hrun, ?_⟩
        rw [removed_closeEntry]
        exact mem_removed hget
    | performing =>
        rcases htwo (a := .fail tx) (b := .unregister tx) trivial trivial
          (step_inPhase _ hconn hphase)
          (step_inPhase _ (get_update hconn) rfl) with ⟨hall, hrun⟩
        exact ⟨_, _, hall, hrun, mem_removed hget⟩
    | attaching =>
        have hattach := step_inPhase (fun conn =>
          update { s with router := s.router.attachConn conn.port tx } tx
            fun conn => conn.enter .opened) hconn hphase
        rcases htwo (a := .attachConn tx) (b := .cleanupConn tx) trivial trivial
          hattach (step_inPhase _ (get_update hconn) rfl) with ⟨hall, hrun⟩
        have hattached : (s.router.attachConn conn.port tx).get conn.port =
            some { entry with conn := some tx } := by
          rw [PacketRouter.get_attachConn, hget, Option.map_some,
            if_pos (PacketRouter.mem_of_get hget).right]
        refine ⟨_, _, hall, hrun, ?_⟩
        rw [removed_closeEntry]
        show (tx, PacketEntry.tx { entry with conn := some tx }) ∈ _
        exact mem_removed hattached
  · have hstep : step s .routeUnregisters =
        some { s.unregisterFor port tx with unregistering := none } := by
      show s.unregistering.map _ = _
      rw [hsome]
      rfl
    rcases hone (a := .routeUnregisters) trivial hstep with ⟨hall, hrun⟩
    exact ⟨_, _, hall, hrun, mem_removed hget⟩

theorem Shape.lt_of_claims (h : s.Shape) {tx : Nat} {port : UInt16}
    (hclaims : s.Claims tx port) : tx < s.conns.length := by
  rcases hclaims with ⟨conn, hconn, _, _⟩ | hsome
  · exact (List.getElem?_eq_some_iff.mp hconn).fst
  · exact h.unregistering_lt port tx hsome

theorem claims_taken {tx : Nat} {port : UInt16} (h : s.Shape)
    (hclaims : s.Claims tx port) (task : Nat) :
    (s.taken task port).Claims tx port := by
  have hlt : tx < s.conns.length := h.lt_of_claims hclaims
  rcases hclaims with ⟨conn, hconn, hport, hgoes⟩ | hsome
  · refine Or.inl ⟨conn, ?_, hport, hgoes⟩
    show (s.conns ++ [_])[tx]? = some conn
    rw [List.getElem?_append_left hlt]
    exact hconn
  · exact Or.inr hsome

theorem get_taken (task : Nat) (port : UInt16) :
    (s.taken task port).router.get port =
      some { port := port, tx := s.conns.length } :=
  List.find?_cons_of_pos (decide_eq_true rfl)

theorem not_onlyOwn_of_taken {tx task : Nat} {port : UInt16} (h : s.Shape)
    (hclaims : s.Claims tx port) :
    exists later u, (forall a, a ∈ later -> TowardsUnregister a) ∧
      Machine.run step (s.taken task port) later = some u ∧ ¬ u.OnlyOwn := by
  rcases removes_of_claims (get_taken task port) (claims_taken h hclaims task)
    with ⟨later, u, hall, hrun, hmem⟩
  refine ⟨later, u, hall, hrun, ?_⟩
  intro honly
  have hsame : s.conns.length = tx := honly.left tx s.conns.length hmem
  have hlt : tx < s.conns.length := h.lt_of_claims hclaims
  omega

theorem not_onlyOwn_of_claimed {a : Action} (h : s.Shape)
    (hstep : step s a = some t) (hnot : ¬ s.Unclaimed a) :
    exists later u, (forall b, b ∈ later -> TowardsUnregister b) ∧
      Machine.run step t later = some u ∧ ¬ u.OnlyOwn := by
  cases a with
  | advance task =>
      have hclaimed : exists port left tx,
          s.calls task = some (.probing port left) ∧
            s.router.get port = none ∧ s.Claims tx port := by
        by_contra hnone
        apply hnot
        intro port left hcall hget tx hclaims
        exact hnone ⟨port, left, tx, hcall, hget, hclaims⟩
      rcases hclaimed with ⟨port, left, tx, hcall, hget, hclaims⟩
      have ht : t = s.taken task port := by
        change s.advance task = some t at hstep
        unfold advance at hstep
        rw [hcall] at hstep
        simp only [probe_of_get_none hget] at hstep
        exact (Option.some.inj hstep).symm
      rw [ht]
      exact not_onlyOwn_of_taken h hclaims
  | register task => exact absurd trivial hnot
  | fail tx => exact absurd trivial hnot
  | giveUp tx => exact absurd trivial hnot
  | unregister tx => exact absurd trivial hnot
  | succeed tx => exact absurd trivial hnot
  | attachConn tx => exact absurd trivial hnot
  | cleanupConn tx => exact absurd trivial hnot
  | close tx => exact absurd trivial hnot
  | drop tx => exact absurd trivial hnot
  | routeFails port => exact absurd trivial hnot
  | routeUnregisters => exact absurd trivial hnot
  | remove port => exact absurd trivial hnot
  | clear => exact absurd trivial hnot

theorem unclaimed_of_towards {a : Action} (ha : TowardsUnregister a) :
    s.Unclaimed a := by
  cases a with
  | advance task => cases ha
  | register task => exact trivial
  | fail tx => exact trivial
  | giveUp tx => exact trivial
  | unregister tx => exact trivial
  | succeed tx => exact trivial
  | attachConn tx => exact trivial
  | cleanupConn tx => exact trivial
  | close tx => exact trivial
  | drop tx => exact trivial
  | routeFails port => exact trivial
  | routeUnregisters => exact trivial
  | remove port => exact trivial
  | clear => exact trivial

/--
In a run, whoever goes on to unregister at any point of it, only own entries are
removed and closed if and only if every port is taken unclaimed.
-/
theorem onlyOwn_iff_unclaimed (actions : List Action) :
    (forall pre later, pre <+: actions ->
      (forall a, a ∈ later -> TowardsUnregister a) ->
        Machine.Throughout step OnlyOwn {} (pre ++ later)) <->
      Machine.Guarded step Unclaimed {} actions := by
  apply Machine.throughout_extended_iff_guarded (S := Shape) (I := Owned)
  · intro s a t h hstep
    exact h.step hstep
  · intro s a t h hshape hstep hguard
    exact h.step hshape hstep hguard
  · intro s h
    exact h.onlyOwn
  · intro s a ha
    exact unclaimed_of_towards ha
  · intro s a t h hstep hnot
    exact not_onlyOwn_of_claimed h hstep hnot
  · exact Shape.init
  · exact Owned.init

/-!
## A port that comes back
-/

namespace Wrapping

def registerOnce : List Action :=
  [.register 0, .advance 0, .advance 0, .advance 0]

def givenUp : Nat -> Nat -> List Action
  | _, 0 => []
  | first, count + 1 =>
      registerOnce ++ .giveUp first :: givenUp (first + 1) count

def opening : List Action :=
  registerOnce ++ [.succeed 0, .attachConn 0, .remove 1]

structure Quiet (s : Registrations) (count : Nat) (next : UInt16) : Prop where
  idle : s.calls 0 = none
  next_eq : s.router.nextSourcePort = next
  dead : forall entry, entry ∈ s.router.routes -> s.alive entry.tx = false
  first : s.conns[0]? = some { port := 1, phase := .opened }
  count_eq : s.conns.length = count

theorem cleanupDead_of_dead
    (hdead : forall entry, entry ∈ s.router.routes ->
      s.alive entry.tx = false) : (s.router.cleanupDead s.alive).routes = [] := by
  apply List.filter_eq_nil_iff.mpr
  intro entry hmem
  rw [hdead entry hmem]
  exact Bool.false_ne_true

def nextPort (s : Registrations) : UInt16 :=
  if s.router.nextSourcePort = 0 then 1 else s.router.nextSourcePort

def drawn (s : Registrations) : Registrations :=
  setCall { s with
    router := { s.router.cleanupDead s.alive with
      nextSourcePort := s.router.nextSourcePort + 1 } } 0
    (some (.probing (nextPort s) (PacketRouter.maxSourcePortProbes - 1)))

theorem run_drawn (hidle : s.calls 0 = none) (rest : List Action) :
    Machine.run step s (.register 0 :: .advance 0 :: .advance 0 :: rest) =
      Machine.run step (drawn s) rest := by
  have hregister : step s (.register 0) =
      some (s.setCall 0 (some .cleaning)) := by
    unfold step
    simp only [hidle]
  have htwice : Machine.run step (s.setCall 0 (some .cleaning))
      [.advance 0, .advance 0] = some (drawn s) := by
    calc
      _ = some { drawn s with
            calls := Function.update (Function.update (Function.update s.calls 0
              (some .cleaning)) 0 (some (.drawing
                PacketRouter.maxSourcePortProbes))) 0 (some (.probing
                  (nextPort s) (PacketRouter.maxSourcePortProbes - 1))) } := rfl
      _ = some (drawn s) := by
          unfold drawn setCall
          simp only [Function.update_idem]
  exact (Machine.run_cons_of_step hregister _).trans
    (Machine.run_append_of_run htwice rest)

theorem run_registerOnce (hidle : s.calls 0 = none)
    (hdead : forall entry, entry ∈ s.router.routes ->
      s.alive entry.tx = false) :
    exists t, Machine.run step s registerOnce = some t ∧ t.calls 0 = none ∧
      t.router =
        { routes := [{ port := nextPort s, tx := s.conns.length }]
          nextSourcePort := s.router.nextSourcePort + 1 } ∧
      t.conns = s.conns ++ [{ port := nextPort s }] := by
  have hroutes : (drawn s).router.routes = [] := cleanupDead_of_dead hdead
  have hget : (drawn s).router.get (nextPort s) = none := by
    unfold PacketRouter.get
    rw [hroutes]
    rfl
  have hprobe : step (drawn s) (.advance 0) =
      some ((drawn s).taken 0 (nextPort s)) :=
    congrArg some (probe_of_get_none hget)
  refine ⟨(drawn s).taken 0 (nextPort s), ?_, rfl, ?_, rfl⟩
  · exact (run_drawn hidle _).trans (Machine.run_cons_of_step hprobe [])
  · show PacketRouter.mk (_ :: (drawn s).router.routes) _ = _
    rw [hroutes]
    rfl

theorem quiet_givenUp {count : Nat} {next : UInt16} (h : Quiet s count next)
    (hnext : next ≠ 0) :
    exists t, Machine.run step s (registerOnce ++ [.giveUp count]) = some t ∧
      Quiet t (count + 1) (next + 1) := by
  rcases run_registerOnce h.idle h.dead with
    ⟨u, hrun, hidle, hrouter, hconns⟩
  have hport : nextPort s = next := by
    unfold nextPort
    rw [h.next_eq, if_neg hnext]
  have hget : u.conns[count]? = some { port := nextPort s } := by
    rw [hconns, ← h.count_eq, List.getElem?_concat_length]
  have hstep : step u (.giveUp count) =
      some (u.update count fun conn => conn.enter .finished) :=
    step_inPhase _ hget rfl
  refine ⟨u.update count fun conn => conn.enter .finished, ?_, ?_⟩
  · exact (Machine.run_append_of_run hrun _).trans
      (Machine.run_cons_of_step hstep [])
  · constructor
    · exact hidle
    · show u.router.nextSourcePort = next + 1
      rw [hrouter, h.next_eq]
    · intro entry hmem
      change entry ∈ u.router.routes at hmem
      rw [hrouter] at hmem
      rw [List.mem_singleton.mp hmem, h.count_eq]
      show (u.conns.modify count _)[count]?.any _ = false
      rw [List.getElem?_modify_eq, hget]
      rfl
    · have hlt : 0 < s.conns.length :=
        (List.getElem?_eq_some_iff.mp h.first).fst
      have hne : count ≠ 0 := by
        rw [← h.count_eq]
        exact Nat.ne_of_gt hlt
      show (u.conns.modify count _)[0]? = _
      rw [List.getElem?_modify_ne _ _ hne, hconns, List.getElem?_append_left hlt]
      exact h.first
    · show (u.conns.modify count _).length = count + 1
      rw [List.length_modify, hconns, List.length_append, h.count_eq]
      rfl

theorem quiet_run_givenUp (rest : Nat) {count next : Nat}
    (h : Quiet s count (.ofNat next)) (hpos : 0 < next)
    (hbound : next + rest <= 65536) :
    exists t, Machine.run step s (givenUp count rest) = some t ∧
      Quiet t (count + rest) (.ofNat (next + rest)) := by
  induction rest generalizing s count next with
  | zero => exact ⟨s, rfl, h⟩
  | succ rest ih =>
      have hne : UInt16.ofNat next ≠ 0 := by
        intro hzero
        have hmod : next % 65536 = 0 := congrArg UInt16.toNat hzero
        omega
      rcases quiet_givenUp h hne with ⟨u, hfirst, hquiet⟩
      have hsucc : UInt16.ofNat next + 1 = .ofNat (next + 1) := by
        rw [UInt16.ofNat_add]
        rfl
      rw [hsucc] at hquiet
      rcases ih hquiet (Nat.succ_pos next) (by omega) with ⟨t, hrun, hlast⟩
      refine ⟨t, ?_, ?_⟩
      · show Machine.run step s (registerOnce ++ ([.giveUp count] ++
          givenUp (count + 1) rest)) = some t
        rw [← List.append_assoc, Machine.run_append_of_run hfirst]
        exact hrun
      · rw [Nat.add_assoc, Nat.add_comm 1 rest] at hlast
        rw [Nat.add_assoc, Nat.add_comm 1 rest] at hlast
        exact hlast

theorem quiet_opening :
    exists s, Machine.run step {} opening = some s ∧ Quiet s 1 (.ofNat 2) := by
  refine ⟨_, rfl, rfl, rfl, ?_, rfl, rfl⟩
  intro entry hmem
  cases hmem

end Wrapping

/-- The port of an open connection comes back, and its cleanup hits another. -/
theorem not_onlyOwn_wrapped :
    ¬ forall actions, Machine.Throughout step OnlyOwn {} actions := by
  intro h
  rcases Wrapping.quiet_opening with ⟨s, hopening, hquiet⟩
  rcases Wrapping.quiet_run_givenUp 65534 hquiet (by decide) (by decide) with
    ⟨t, hwrapping, hwrapped⟩
  rcases Wrapping.run_registerOnce hwrapped.idle hwrapped.dead with
    ⟨u, hregister, _, hrouter, hconns⟩
  have hport : Wrapping.nextPort t = 1 := by
    unfold Wrapping.nextPort
    rw [hwrapped.next_eq]
    rfl
  have hget : u.router.get 1 = some { port := 1, tx := t.conns.length } := by
    rw [hrouter, hport]
    rfl
  have hfirst : u.conns[0]? = some { port := 1, phase := .opened } := by
    rw [hconns, List.getElem?_append_left]
    · exact hwrapped.first
    · rw [hwrapped.count_eq]
      decide
  have hclaims : u.Claims 0 1 := Or.inl ⟨_, hfirst, rfl, nofun⟩
  rcases removes_of_claims hget hclaims with ⟨later, v, _, hlater, hmem⟩
  have hrun : Machine.run step {} (Wrapping.opening ++
      (Wrapping.givenUp 1 65534 ++ (Wrapping.registerOnce ++ later))) =
        some v := by
    rw [Machine.run_append_of_run hopening, Machine.run_append_of_run hwrapping,
      Machine.run_append_of_run hregister]
    exact hlater
  have hsame : t.conns.length = 0 := ((h _).last hrun).left 0 _ hmem
  rw [hwrapped.count_eq] at hsame
  exact absurd hsame (by decide)

end Registrations

end Device
end Rusbmux
