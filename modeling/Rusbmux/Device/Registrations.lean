import Mathlib.Data.List.Nodup
import Rusbmux.Device.Demultiplexing

/-!
# Registrations and their connections

The connections that register with the router and unregister from it, with every
operation on the routes as a step of its own.  An entry is found by its port
alone: `UsbDevice::connect` after a failed handshake, `route` after a failed
send and `cleanup_conn` unregister the port that they know, whatever is
registered under it by then.  What they remove and close is recorded.
-/

namespace Rusbmux
namespace Device

open Foundation

inductive RegisterCall where
  | cleaning
  | drawing (left : Nat)
  | probing (port : UInt16) (left : Nat)
deriving DecidableEq, Repr

inductive RegistrationPhase where
  | performing
  /-- The handshake has failed, and `connect` unregisters next. -/
  | failed
  /-- The handshake is done, and `connect` attaches the connection next. -/
  | attaching
  | opened
  | finished
deriving DecidableEq, Repr

structure Registration where
  port : UInt16
  phase : RegistrationPhase := .performing
  dropped : Bool := false
deriving DecidableEq, Repr

structure Registrations where
  router : PacketRouter := {}
  conns : List Registration := []
  calls : Nat -> Option RegisterCall := fun _ => none
  /-- `route` has failed to send to the registration, and unregisters next. -/
  unregistering : Option (UInt16 × Nat) := none
  /-- On behalf of which connection whose entry was removed. -/
  removed : List (Nat × Nat) := []
  /-- Which connection `cleanup_conn` closed for the one it was given. -/
  closed : List (Nat × Nat) := []

namespace Registration

def enter (conn : Registration) (phase : RegistrationPhase) : Registration :=
  { conn with phase := phase }

def drop (conn : Registration) : Registration :=
  { conn with dropped := true }

def isAlive (conn : Registration) : Bool :=
  match conn.phase with
  | .failed => false
  | .finished => false
  | _ => true

def isOpened (conn : Registration) : Bool :=
  match conn.phase with
  | .attaching => true
  | .opened => true
  | _ => false

end Registration

namespace Registrations

inductive Action where
  | register (task : Nat)
  /-- `register` goes on by one operation. -/
  | advance (task : Nat)
  | fail (tx : Nat)
  | giveUp (tx : Nat)
  | unregister (tx : Nat)
  | succeed (tx : Nat)
  | attachConn (tx : Nat)
  | cleanupConn (tx : Nat)
  | close (tx : Nat)
  | drop (tx : Nat)
  /-- `route` finds that the receiver behind the port is gone. -/
  | routeFails (port : UInt16)
  | routeUnregisters
  /-- The reader loop has got an RST, or `take_all_conns` takes the entry. -/
  | remove (port : UInt16)
  | clear

def alive (s : Registrations) (tx : Nat) : Bool :=
  s.conns[tx]?.any Registration.isAlive

def inPhase (s : Registrations) (tx : Nat) (phase : RegistrationPhase)
    (next : Registration -> Registrations) : Option Registrations :=
  match s.conns[tx]? with
  | some conn => if conn.phase = phase then some (next conn) else none
  | none => none

def update (s : Registrations) (tx : Nat) (f : Registration -> Registration) :
    Registrations :=
  { s with conns := s.conns.modify tx f }

def setCall (s : Registrations) (task : Nat) (call : Option RegisterCall) :
    Registrations :=
  { s with calls := Function.update s.calls task call }

def unregisterFor (s : Registrations) (port : UInt16) (tx : Nat) :
    Registrations :=
  { s with
    router := s.router.unregister port
    removed := s.removed ++
      ((s.router.get port).map fun entry => (tx, entry.tx)).toList }

def closeEntry (s : Registrations) (entry : Option PacketEntry) (tx : Nat) :
    Registrations :=
  match entry.bind fun entry => entry.conn with
  | some other =>
      if s.conns[other]?.any fun conn => conn.isOpened && !conn.dropped then
        { s.update other Registration.drop with
          closed := s.closed ++ [(tx, other)] }
      else s
  | none => s

def probe (s : Registrations) (task : Nat) (port : UInt16) (left : Nat) :
    Registrations :=
  match s.router.get port with
  | some _ => s.setCall task (some (.drawing left))
  | none =>
      setCall { s with
        router := { s.router with
          routes := { port := port, tx := s.conns.length } :: s.router.routes }
        conns := s.conns ++ [{ port := port }] } task none

def draw (s : Registrations) (task : Nat) : Nat -> Registrations
  | 0 => s.setCall task none
  | left + 1 =>
      let sp := s.router.nextSourcePort
      setCall { s with router := { s.router with nextSourcePort := sp + 1 } }
        task (some (.probing (if sp = 0 then 1 else sp) left))

def advance (s : Registrations) (task : Nat) : Option Registrations :=
  match s.calls task with
  | none => none
  | some .cleaning =>
      some (setCall { s with router := s.router.cleanupDead s.alive } task
        (some (.drawing PacketRouter.maxSourcePortProbes)))
  | some (.drawing left) => some (s.draw task left)
  | some (.probing port left) => some (s.probe task port left)

def step : Machine Registrations Action := fun s a =>
  match a with
  | .register task =>
      match s.calls task with
      | none => some (s.setCall task (some .cleaning))
      | some _ => none
  | .advance task => s.advance task
  | .fail tx =>
      s.inPhase tx .performing fun _ => s.update tx fun conn =>
        conn.enter .failed
  | .giveUp tx =>
      s.inPhase tx .performing fun _ => s.update tx fun conn =>
        conn.enter .finished
  | .unregister tx =>
      s.inPhase tx .failed fun conn =>
        (s.unregisterFor conn.port tx).update tx fun conn =>
          conn.enter .finished
  | .succeed tx =>
      s.inPhase tx .performing fun _ => s.update tx fun conn =>
        conn.enter .attaching
  | .attachConn tx =>
      s.inPhase tx .attaching fun conn =>
        update { s with router := s.router.attachConn conn.port tx } tx
          fun conn => conn.enter .opened
  | .cleanupConn tx =>
      s.inPhase tx .opened fun conn =>
        (s.unregisterFor conn.port tx).closeEntry (s.router.get conn.port) tx
  | .close tx => s.inPhase tx .opened fun _ => s.update tx Registration.drop
  | .drop tx =>
      s.inPhase tx .opened fun _ => s.update tx fun conn =>
        conn.enter .finished
  | .routeFails port =>
      match s.unregistering, s.router.get port with
      | none, some entry =>
          if s.alive entry.tx then none
          else some { s with unregistering := some (port, entry.tx) }
      | _, _ => none
  | .routeUnregisters =>
      s.unregistering.map fun held =>
        { s.unregisterFor held.fst held.snd with unregistering := none }
  | .remove port => some { s with router := s.router.unregister port }
  | .clear => some { s with router := s.router.clear }

/-- Every connection only had its own entry removed, and only closed itself. -/
def OnlyOwn (s : Registrations) : Prop :=
  (forall tx other, (tx, other) ∈ s.removed -> other = tx) ∧
    forall tx other, (tx, other) ∈ s.closed -> other = tx

def Claims (s : Registrations) (tx : Nat) (port : UInt16) : Prop :=
  (exists conn, s.conns[tx]? = some conn ∧ conn.port = port ∧
      conn.phase ≠ .finished) ∨
    s.unregistering = some (port, tx)

/-- `register` only takes a port that nobody may still unregister. -/
def Unclaimed (s : Registrations) (a : Action) : Prop :=
  match a with
  | .advance task =>
      forall port left, s.calls task = some (.probing port left) ->
        s.router.get port = none -> forall tx, ¬ s.Claims tx port
  | _ => True

/-- A step with which a connection goes on to where it unregisters. -/
def TowardsUnregister : Action -> Prop
  | .fail _ => True
  | .unregister _ => True
  | .succeed _ => True
  | .attachConn _ => True
  | .cleanupConn _ => True
  | .routeUnregisters => True
  | _ => False

/-!
## Single operations
-/

variable {s t : Registrations}

theorem inPhase_eq_some {tx : Nat} {phase : RegistrationPhase}
    {next : Registration -> Registrations}
    (hstep : s.inPhase tx phase next = some t) :
    exists conn, s.conns[tx]? = some conn ∧ conn.phase = phase ∧
      t = next conn := by
  unfold inPhase at hstep
  split at hstep
  · rename_i conn hconn
    rcases Machine.of_enabled_if hstep with ⟨hphase, hnext⟩
    exact ⟨conn, hconn, hphase, (Option.some.inj hnext).symm⟩
  · cases hstep

theorem inPhase_of_get {tx : Nat} {conn : Registration}
    (next : Registration -> Registrations) (hconn : s.conns[tx]? = some conn) :
    s.inPhase tx conn.phase next = some (next conn) := by
  unfold inPhase
  rw [hconn]
  exact if_pos rfl

theorem closeEntry_cases (s : Registrations) (entry : Option PacketEntry)
    (tx : Nat) :
    s.closeEntry entry tx = s ∨
      exists e other, entry = some e ∧ e.conn = some other ∧
        s.closeEntry entry tx =
          { s.update other Registration.drop with
            closed := s.closed ++ [(tx, other)] } := by
  unfold closeEntry
  split
  · rename_i other hother
    rcases Option.bind_eq_some_iff.mp hother with ⟨e, rfl, hconn⟩
    split
    · exact Or.inr ⟨e, other, rfl, hconn, rfl⟩
    · exact Or.inl rfl
  · exact Or.inl rfl

theorem mem_routes_attachConn {r : PacketRouter} {port : UInt16} {conn : Nat}
    {entry : PacketEntry} (hmem : entry ∈ (r.attachConn port conn).routes) :
    exists before, before ∈ r.routes ∧ before.port = entry.port ∧
      before.tx = entry.tx ∧
      (entry.conn = before.conn ∨
        entry.port = port ∧ entry.conn = some conn) := by
  rcases List.mem_map.mp hmem with ⟨before, hbefore, rfl⟩
  by_cases hport : before.port = port
  · rw [if_pos hport]
    exact ⟨before, hbefore, rfl, rfl, Or.inr ⟨hport, rfl⟩⟩
  · rw [if_neg hport]
    exact ⟨before, hbefore, rfl, rfl, Or.inl rfl⟩

/-!
## The routes and the connections
-/

structure Shape (s : Registrations) : Prop where
  ports_nodup : (s.router.routes.map PacketEntry.port).Nodup
  entry_lt : forall entry, entry ∈ s.router.routes ->
    entry.tx < s.conns.length
  unregistering_lt : forall port tx, s.unregistering = some (port, tx) ->
    tx < s.conns.length

structure Owned (s : Registrations) : Prop where
  own : forall (tx : Nat) (conn : Registration), s.conns[tx]? = some conn ->
    conn.phase ≠ .finished -> forall entry, entry ∈ s.router.routes ->
      entry.port = conn.port -> entry.tx = tx
  route : forall port tx, s.unregistering = some (port, tx) ->
    forall entry, entry ∈ s.router.routes -> entry.port = port -> entry.tx = tx
  attached : forall entry, entry ∈ s.router.routes ->
    forall other, entry.conn = some other -> other = entry.tx
  onlyOwn : s.OnlyOwn

theorem Shape.init : Shape {} where
  ports_nodup := List.nodup_nil
  entry_lt := by
    intro entry hmem
    cases hmem
  unregistering_lt := by
    intro port tx hsome
    cases hsome

theorem Owned.init : Owned {} where
  own := by
    intro tx conn hconn
    cases hconn
  route := by
    intro port tx hsome
    cases hsome
  attached := by
    intro entry hmem
    cases hmem
  onlyOwn := by
    constructor
    · intro tx other hmem
      cases hmem
    · intro tx other hmem
      cases hmem

structure Settles (s t : Registrations) : Prop where
  length_eq : t.conns.length = s.conns.length
  ports : (t.router.routes.map PacketEntry.port).Sublist
    (s.router.routes.map PacketEntry.port)
  routes : forall entry, entry ∈ t.router.routes ->
    exists before, before ∈ s.router.routes ∧ before.port = entry.port ∧
      before.tx = entry.tx ∧
      (entry.conn = before.conn ∨
        exists tx, s.Claims tx entry.port ∧ entry.conn = some tx)
  conns : forall (tx : Nat) (conn : Registration), t.conns[tx]? = some conn ->
    conn.phase ≠ .finished ->
      exists before, s.conns[tx]? = some before ∧ before.port = conn.port ∧
        before.phase ≠ .finished
  unregistering : forall port tx, t.unregistering = some (port, tx) ->
    s.unregistering = some (port, tx) ∨
      exists entry, entry ∈ s.router.routes ∧ entry.port = port ∧
        entry.tx = tx
  removed : forall tx other, (tx, other) ∈ t.removed ->
    (tx, other) ∈ s.removed ∨
      exists entry, entry ∈ s.router.routes ∧ s.Claims tx entry.port ∧
        entry.tx = other
  closed : forall tx other, (tx, other) ∈ t.closed ->
    (tx, other) ∈ s.closed ∨
      exists entry, entry ∈ s.router.routes ∧ s.Claims tx entry.port ∧
        entry.conn = some other

theorem Shape.settles (h : s.Shape) (hsettles : s.Settles t) : t.Shape where
  ports_nodup := hsettles.ports.nodup h.ports_nodup
  entry_lt := by
    intro entry hmem
    rcases hsettles.routes entry hmem with ⟨before, hbefore, _, htx, _⟩
    rw [hsettles.length_eq, ← htx]
    exact h.entry_lt before hbefore
  unregistering_lt := by
    intro port tx hsome
    rw [hsettles.length_eq]
    rcases hsettles.unregistering port tx hsome with hold |
      ⟨entry, hentry, _, rfl⟩
    · exact h.unregistering_lt port tx hold
    · exact h.entry_lt entry hentry

theorem Shape.entry_eq (h : s.Shape) {d e : PacketEntry}
    (hd : d ∈ s.router.routes) (he : e ∈ s.router.routes)
    (hport : d.port = e.port) : d = e :=
  List.inj_on_of_nodup_map h.ports_nodup hd he hport

theorem Owned.of_claims (h : s.Owned) {tx : Nat} {entry : PacketEntry}
    (hmem : entry ∈ s.router.routes) (hclaims : s.Claims tx entry.port) :
    entry.tx = tx := by
  rcases hclaims with ⟨conn, hconn, hport, hgoes⟩ | hsome
  · exact h.own tx conn hconn hgoes entry hmem hport.symm
  · exact h.route entry.port tx hsome entry hmem rfl

theorem Owned.settles (h : s.Owned) (hshape : s.Shape)
    (hsettles : s.Settles t) : t.Owned where
  own := by
    intro tx conn hconn hphase entry hmem hport
    rcases hsettles.conns tx conn hconn hphase with
      ⟨before, hbefore, hsame, hgoes⟩
    rcases hsettles.routes entry hmem with ⟨old, hold, holdPort, holdTx, _⟩
    rw [← holdTx]
    exact h.own tx before hbefore hgoes old hold
      (holdPort.trans (hport.trans hsame.symm))
  route := by
    intro port tx hsome entry hmem hport
    rcases hsettles.routes entry hmem with ⟨old, hold, holdPort, holdTx, _⟩
    rw [← holdTx]
    rcases hsettles.unregistering port tx hsome with hbefore |
      ⟨failed, hfailed, hfailedPort, rfl⟩
    · exact h.route port tx hbefore old hold (holdPort.trans hport)
    · rw [hshape.entry_eq hold hfailed
        (holdPort.trans (hport.trans hfailedPort.symm))]
  attached := by
    intro entry hmem other hother
    rcases hsettles.routes entry hmem with
      ⟨old, hold, holdPort, holdTx, hsame | ⟨tx, hclaims, hnew⟩⟩
    · rw [← holdTx]
      exact h.attached old hold other (hsame.symm.trans hother)
    · cases hnew.symm.trans hother
      rw [← holdPort] at hclaims
      rw [← holdTx]
      exact (h.of_claims hold hclaims).symm
  onlyOwn := by
    constructor
    · intro tx other hmem
      rcases hsettles.removed tx other hmem with hold |
        ⟨entry, hentry, hclaims, rfl⟩
      · exact h.onlyOwn.left tx other hold
      · exact h.of_claims hentry hclaims
    · intro tx other hmem
      rcases hsettles.closed tx other hmem with hold |
        ⟨entry, hentry, hclaims, hother⟩
      · exact h.onlyOwn.right tx other hold
      · rw [h.attached entry hentry other hother]
        exact h.of_claims hentry hclaims

/-!
## Steps that take no port
-/

theorem Settles.of_sublist {router : PacketRouter}
    {calls : Nat -> Option RegisterCall}
    (hroutes : router.routes.Sublist s.router.routes) :
    s.Settles { s with router := router, calls := calls } where
  length_eq := rfl
  ports := hroutes.map PacketEntry.port
  routes := fun entry hmem =>
    ⟨entry, hroutes.subset hmem, rfl, rfl, Or.inl rfl⟩
  conns := fun _ conn hconn hphase => ⟨conn, hconn, rfl, hphase⟩
  unregistering := fun _ _ hsome => Or.inl hsome
  removed := fun _ _ hmem => Or.inl hmem
  closed := fun _ _ hmem => Or.inl hmem

theorem Settles.refl (s : Registrations) : s.Settles s :=
  Settles.of_sublist (List.Sublist.refl _)

theorem Settles.update (h : s.Settles t) (tx : Nat)
    {f : Registration -> Registration}
    (hport : forall conn, (f conn).port = conn.port)
    (hphase : forall conn, t.conns[tx]? = some conn ->
      conn.phase = .finished -> (f conn).phase = .finished) :
    s.Settles (t.update tx f) where
  length_eq := (List.length_modify ..).trans h.length_eq
  ports := h.ports
  routes := h.routes
  conns := by
    intro ty conn hconn hgoes
    change (t.conns.modify tx f)[ty]? = some conn at hconn
    rw [List.getElem?_modify] at hconn
    rcases Option.map_eq_some_iff.mp hconn with ⟨mid, hmid, rfl⟩
    have hsame : (if tx = ty then f mid else mid).port = mid.port := by
      split
      · exact hport mid
      · rfl
    have hmidGoes : mid.phase ≠ .finished := by
      intro hfinished
      apply hgoes
      split
      · rename_i htx
        subst htx
        exact hphase mid hmid hfinished
      · exact hfinished
    rw [hsame]
    exact h.conns ty mid hmid hmidGoes
  unregistering := h.unregistering
  removed := h.removed
  closed := h.closed

theorem Settles.enter (h : s.Settles t) {tx : Nat} {conn : Registration}
    (hconn : t.conns[tx]? = some conn) (hgoes : conn.phase ≠ .finished)
    (phase : RegistrationPhase) :
    s.Settles (t.update tx fun conn => conn.enter phase) := by
  apply h.update
  · intro _
    rfl
  · intro before hbefore hfinished
    cases hconn.symm.trans hbefore
    exact absurd hfinished hgoes

theorem Settles.unregisterFor {port : UInt16} {tx : Nat}
    (hclaims : s.Claims tx port) : s.Settles (s.unregisterFor port tx) where
  length_eq := rfl
  ports := List.filter_sublist.map PacketEntry.port
  routes := fun entry hmem =>
    ⟨entry, List.mem_of_mem_filter hmem, rfl, rfl, Or.inl rfl⟩
  conns := fun _ conn hconn hphase => ⟨conn, hconn, rfl, hphase⟩
  unregistering := fun _ _ hsome => Or.inl hsome
  removed := by
    intro ty other hmem
    rcases List.mem_append.mp hmem with hold | hnew
    · exact Or.inl hold
    · rcases Option.map_eq_some_iff.mp (Option.mem_toList.mp hnew) with
        ⟨entry, hget, hsame⟩
      cases hsame
      rcases PacketRouter.mem_of_get hget with ⟨hentry, rfl⟩
      exact Or.inr ⟨entry, hentry, hclaims, rfl⟩
  closed := fun _ _ hmem => Or.inl hmem

theorem ports_attachConn (r : PacketRouter) (port : UInt16) (conn : Nat) :
    (r.attachConn port conn).routes.map PacketEntry.port =
      r.routes.map PacketEntry.port := by
  unfold PacketRouter.attachConn
  rw [List.map_map]
  apply List.map_congr_left
  intro entry _
  show (if entry.port = port then { entry with conn := some conn }
    else entry).port = entry.port
  split
  · rfl
  · rfl

theorem Settles.attachConn {port : UInt16} {tx : Nat}
    (hclaims : s.Claims tx port) :
    s.Settles { s with router := s.router.attachConn port tx } where
  length_eq := rfl
  ports := by
    rw [ports_attachConn]
  routes := by
    intro entry hmem
    rcases mem_routes_attachConn hmem with
      ⟨before, hbefore, hport, htx, hsame | ⟨rfl, hnew⟩⟩
    · exact ⟨before, hbefore, hport, htx, Or.inl hsame⟩
    · exact ⟨before, hbefore, hport, htx, Or.inr ⟨tx, hclaims, hnew⟩⟩
  conns := fun _ conn hconn hphase => ⟨conn, hconn, rfl, hphase⟩
  unregistering := fun _ _ hsome => Or.inl hsome
  removed := fun _ _ hmem => Or.inl hmem
  closed := fun _ _ hmem => Or.inl hmem

theorem Settles.closeEntry (h : s.Settles t) {entry : Option PacketEntry}
    {tx : Nat} (hentry : forall e, entry = some e ->
      e ∈ s.router.routes ∧ s.Claims tx e.port) :
    s.Settles (t.closeEntry entry tx) := by
  rcases closeEntry_cases t entry tx with hsame |
    ⟨e, other, he, hother, hclosed⟩
  · rw [hsame]
    exact h
  · rw [hclosed]
    have hdrop : s.Settles (t.update other Registration.drop) :=
      h.update other (fun _ => rfl) fun _ _ hfinished => hfinished
    exact
      { hdrop with
        closed := by
          intro ty closed hmem
          rcases List.mem_append.mp hmem with hold | hnew
          · exact h.closed ty closed hold
          · cases List.mem_singleton.mp hnew
            rcases hentry e he with ⟨hmemE, hclaims⟩
            exact Or.inr ⟨e, hmemE, hclaims, hother⟩ }

theorem Settles.routeFails {port : UInt16} {entry : PacketEntry}
    (hget : s.router.get port = some entry) :
    s.Settles { s with unregistering := some (port, entry.tx) } :=
  { Settles.refl s with
    unregistering := by
      intro other tx hsome
      cases hsome
      rcases PacketRouter.mem_of_get hget with ⟨hmem, hport⟩
      exact Or.inr ⟨entry, hmem, hport, rfl⟩ }

theorem Settles.routeUnregisters {port : UInt16} {tx : Nat}
    (hsome : s.unregistering = some (port, tx)) :
    s.Settles { s.unregisterFor port tx with unregistering := none } :=
  { Settles.unregisterFor (Or.inr hsome) with
    unregistering := by
      intro other ty hnone
      cases hnone }

/-!
## Taking a port
-/

def taken (s : Registrations) (task : Nat) (port : UInt16) : Registrations :=
  setCall { s with
    router := { s.router with
      routes := { port := port, tx := s.conns.length } :: s.router.routes }
    conns := s.conns ++ [{ port := port }] } task none

theorem Shape.taken (h : s.Shape) {port : UInt16} (task : Nat)
    (hget : s.router.get port = none) : (s.taken task port).Shape where
  ports_nodup := by
    refine List.nodup_cons.mpr ⟨?_, h.ports_nodup⟩
    intro hmem
    rcases List.mem_map.mp hmem with ⟨entry, hentry, hport⟩
    exact PacketRouter.not_mem_of_get hget hentry hport
  entry_lt := by
    intro entry hmem
    show entry.tx < (s.conns ++ [_]).length
    rw [List.length_append]
    rcases List.mem_cons.mp hmem with rfl | hold
    · exact Nat.lt_succ_self _
    · exact Nat.lt_succ_of_lt (h.entry_lt entry hold)
  unregistering_lt := by
    intro other tx hsome
    show tx < (s.conns ++ [_]).length
    rw [List.length_append]
    exact Nat.lt_succ_of_lt (h.unregistering_lt other tx hsome)

theorem Owned.taken (h : s.Owned) {port : UInt16} (task : Nat)
    (hget : s.router.get port = none) (hfree : forall tx, ¬ s.Claims tx port) :
    (s.taken task port).Owned where
  own := by
    intro tx conn hconn hgoes entry hmem hport
    change (s.conns ++ [_])[tx]? = some conn at hconn
    by_cases hlt : tx < s.conns.length
    · rw [List.getElem?_append_left hlt] at hconn
      rcases List.mem_cons.mp hmem with rfl | hold
      · exact absurd (Or.inl ⟨conn, hconn, hport.symm, hgoes⟩) (hfree tx)
      · exact h.own tx conn hconn hgoes entry hold hport
    · rw [List.getElem?_append_right (Nat.not_lt.mp hlt)] at hconn
      have hnew := List.mem_singleton.mp (List.mem_of_getElem? hconn)
      have htx : tx = s.conns.length := by
        have hindex := (List.getElem?_eq_some_iff.mp hconn).fst
        rw [List.length_singleton] at hindex
        omega
      rcases List.mem_cons.mp hmem with rfl | hold
      · exact htx.symm
      · rw [hnew] at hport
        exact absurd hport (PacketRouter.not_mem_of_get hget hold)
  route := by
    intro other tx hsome entry hmem hport
    rcases List.mem_cons.mp hmem with rfl | hold
    · change port = other at hport
      subst hport
      exact absurd (Or.inr hsome) (hfree tx)
    · exact h.route other tx hsome entry hold hport
  attached := by
    intro entry hmem other hother
    rcases List.mem_cons.mp hmem with rfl | hold
    · cases hother
    · exact h.attached entry hold other hother
  onlyOwn := h.onlyOwn

theorem probe_of_get_none {task left : Nat} {port : UInt16}
    (hget : s.router.get port = none) :
    s.probe task port left = s.taken task port := by
  unfold probe
  rw [hget]
  rfl

theorem advance_cases {task : Nat} (hstep : s.advance task = some t) :
    s.Settles t ∨
      exists port left, s.calls task = some (.probing port left) ∧
        s.router.get port = none ∧ t = s.taken task port := by
  unfold advance at hstep
  split at hstep
  · cases hstep
  · cases hstep
    exact Or.inl (Settles.of_sublist List.filter_sublist)
  · rename_i left hcall
    cases hstep
    cases left with
    | zero => exact Or.inl (Settles.of_sublist (List.Sublist.refl _))
    | succ left => exact Or.inl (Settles.of_sublist (List.Sublist.refl _))
  · rename_i port left hcall
    cases hstep
    cases hget : s.router.get port with
    | some entry =>
        have hprobe : s.probe task port left =
            s.setCall task (some (.drawing left)) := by
          unfold probe
          rw [hget]
        rw [hprobe]
        exact Or.inl (Settles.of_sublist (List.Sublist.refl _))
    | none =>
        exact Or.inr ⟨port, left, hcall, hget, probe_of_get_none hget⟩

theorem claims_of_phase {tx : Nat} {conn : Registration}
    {phase : RegistrationPhase} (hconn : s.conns[tx]? = some conn)
    (hphase : conn.phase = phase) (hne : phase ≠ .finished) :
    conn.phase ≠ .finished ∧ s.Claims tx conn.port := by
  rw [← hphase] at hne
  exact ⟨hne, Or.inl ⟨conn, hconn, rfl, hne⟩⟩

theorem step_cases {a : Action} (hstep : step s a = some t) :
    s.Settles t ∨
      exists task port left, a = .advance task ∧
        s.calls task = some (.probing port left) ∧
        s.router.get port = none ∧ t = s.taken task port := by
  cases a with
  | register task =>
      change (match s.calls task with
        | none => some (s.setCall task (some .cleaning))
        | some _ => none) = some t at hstep
      split at hstep
      · cases hstep
        exact Or.inl (Settles.of_sublist (List.Sublist.refl _))
      · cases hstep
  | advance task =>
      rcases advance_cases hstep with hsettles |
        ⟨port, left, hcall, hget, rfl⟩
      · exact Or.inl hsettles
      · exact Or.inr ⟨task, port, left, rfl, hcall, hget, rfl⟩
  | fail tx =>
      rcases inPhase_eq_some hstep with ⟨conn, hconn, hphase, rfl⟩
      have hgoes := (claims_of_phase hconn hphase nofun).left
      exact Or.inl ((Settles.refl s).enter hconn hgoes .failed)
  | giveUp tx =>
      rcases inPhase_eq_some hstep with ⟨conn, hconn, hphase, rfl⟩
      have hgoes := (claims_of_phase hconn hphase nofun).left
      exact Or.inl ((Settles.refl s).enter hconn hgoes .finished)
  | unregister tx =>
      rcases inPhase_eq_some hstep with ⟨conn, hconn, hphase, rfl⟩
      rcases claims_of_phase hconn hphase nofun with ⟨hgoes, hclaims⟩
      exact Or.inl ((Settles.unregisterFor hclaims).enter hconn hgoes .finished)
  | succeed tx =>
      rcases inPhase_eq_some hstep with ⟨conn, hconn, hphase, rfl⟩
      have hgoes := (claims_of_phase hconn hphase nofun).left
      exact Or.inl ((Settles.refl s).enter hconn hgoes .attaching)
  | attachConn tx =>
      rcases inPhase_eq_some hstep with ⟨conn, hconn, hphase, rfl⟩
      rcases claims_of_phase hconn hphase nofun with ⟨hgoes, hclaims⟩
      exact Or.inl ((Settles.attachConn hclaims).enter hconn hgoes .opened)
  | cleanupConn tx =>
      rcases inPhase_eq_some hstep with ⟨conn, hconn, hphase, rfl⟩
      have hclaims := (claims_of_phase hconn hphase nofun).right
      apply Or.inl
      apply (Settles.unregisterFor hclaims).closeEntry
      intro entry hget
      rcases PacketRouter.mem_of_get hget with ⟨hmem, hport⟩
      rw [hport]
      exact ⟨hmem, hclaims⟩
  | close tx =>
      rcases inPhase_eq_some hstep with ⟨conn, _, _, rfl⟩
      exact Or.inl ((Settles.refl s).update tx (fun _ => rfl)
        fun _ _ hfinished => hfinished)
  | drop tx =>
      rcases inPhase_eq_some hstep with ⟨conn, hconn, hphase, rfl⟩
      have hgoes := (claims_of_phase hconn hphase nofun).left
      exact Or.inl ((Settles.refl s).enter hconn hgoes .finished)
  | routeFails port =>
      change (match s.unregistering, s.router.get port with
        | none, some entry =>
            if s.alive entry.tx then none
            else some { s with unregistering := some (port, entry.tx) }
        | _, _ => none) = some t at hstep
      split at hstep
      · rename_i entry _ hget
        rcases Machine.of_disabled_if hstep with ⟨_, hnext⟩
        cases hnext
        exact Or.inl (Settles.routeFails hget)
      · cases hstep
  | routeUnregisters =>
      rcases Option.map_eq_some_iff.mp hstep with ⟨held, hsome, rfl⟩
      exact Or.inl (Settles.routeUnregisters hsome)
  | remove port =>
      cases hstep
      exact Or.inl (Settles.of_sublist List.filter_sublist)
  | clear =>
      cases hstep
      exact Or.inl (Settles.of_sublist (List.nil_sublist _))

theorem Shape.step {a : Action} (h : s.Shape) (hstep : step s a = some t) :
    t.Shape := by
  rcases step_cases hstep with hsettles | ⟨task, port, left, _, _, hget, rfl⟩
  · exact h.settles hsettles
  · exact h.taken task hget

theorem Owned.step {a : Action} (h : s.Owned) (hshape : s.Shape)
    (hstep : step s a = some t) (hguard : s.Unclaimed a) : t.Owned := by
  rcases step_cases hstep with hsettles |
    ⟨task, port, left, rfl, hcall, hget, rfl⟩
  · exact h.settles hshape hsettles
  · exact h.taken task hget (hguard port left hcall hget)

end Registrations

end Device
end Rusbmux
