import Rusbmux.Watcher.ServiceResolution

/-!
# Which network devices are connected

The loop of `watch_network` with the services that it resolves itself, each
against the pairing files that are saved at the time.
-/

namespace Rusbmux
namespace Watcher

open Foundation
open Rusbmux.Device (IpAddr Ipv4Addr Ipv6Addr Target)

namespace Resolution

def addrs (rd : Resolution) : List IpAddr :=
  rd.addr.fst :: rd.addr.snd.toList

def watched (t : Target) (rd : Resolution) (addr : IpAddr) :
    ResolvedDevice where
  networkAddress := t.networkAddress addr (some rd.scopeId)
  scopeId := rd.scopeId
  macAddress := rd.macAddress
  serviceName := rd.serviceName
  udid := rd.udid

end Resolution

namespace NetworkDiscovery

inductive Action where
  | resolved (rs : ResolvedService) (dir : LockdownDir) (id : UInt64)
      (opened : Except RusbmuxError IpAddr)
  | removed (name : String)
  | cancel (id : UInt64)
  | pickUp (id : UInt64)
  | closeBrowser
  | finish

section Runs

variable (t : Target) (T : TxtRecords)

def resolvedStep (s : NetworkWatch) (rs : ResolvedService) (dir : LockdownDir)
    (id : UInt64) (opened : Except RusbmuxError IpAddr) : Option NetworkWatch :=
  match resolveService T dir rs, opened with
  | none, _ => NetworkWatch.step s (.resolved none id (.ok ()))
  | some rd, .error err =>
      NetworkWatch.step s
        (.resolved (some (rd.watched t rd.addr.fst)) id (.error err))
  | some rd, .ok addr =>
      if addr ∈ rd.addrs then
        NetworkWatch.step s (.resolved (some (rd.watched t addr)) id (.ok ()))
      else
        none

def step : Machine NetworkWatch Action := fun s a =>
  match a with
  | .resolved rs dir id opened => resolvedStep t T s rs dir id opened
  | .removed name => NetworkWatch.step s (.removed name)
  | .cancel id => NetworkWatch.step s (.cancel id)
  | .pickUp id => NetworkWatch.step s (.pickUp id)
  | .closeBrowser => NetworkWatch.step s .closeBrowser
  | .finish => NetworkWatch.step s .finish

/--
The addresses that a device may be reached at, with the interface: one of IPv6,
or one of IPv4 on the interface of IPv6 if there is one.
-/
inductive Reached (addresses : List ScopedIp) : IpAddr -> UInt32 -> Prop where
  | v6 {addr : Ipv6Addr} {scope : UInt32} (h : .v6 addr scope ∈ addresses) :
      Reached addresses (.v6 addr) scope
  | beside {addr : Ipv6Addr} {scope : UInt32} {other : Ipv4Addr}
      {interfaceIds : List UInt32} (h6 : .v6 addr scope ∈ addresses)
      (h4 : .v4 other interfaceIds ∈ addresses) :
      Reached addresses (.v4 other) scope
  | v4 {addr : Ipv4Addr} {interfaceIds : List UInt32}
      (hnone : forall other scope, .v6 other scope ∉ addresses)
      (h4 : .v4 addr interfaceIds ∈ addresses) :
      Reached addresses (.v4 addr) (interfaceIds.head?.getD 0)

/-- The device is the one of a service that a saved pairing file vouches for. -/
structure Paired (rs : ResolvedService) (dir : LockdownDir) (addr : IpAddr)
    (dev : NetworkDevice) : Prop where
  saved : exists entries entry file, dir = some entries ∧
    some entry ∈ entries ∧ toStr (fileStem entry.name) = some dev.udid ∧
    entry.pairingFile = some file ∧ Vouches T rs file
  macAddress : dev.macAddress = macOfName rs.fullname
  serviceName : dev.serviceName = rs.fullname
  address : exists scope, Reached rs.addresses addr scope ∧
    dev.scopeId = some scope ∧
    dev.networkAddress = t.networkAddress addr (some scope)

variable {t T} {s u : NetworkWatch}

theorem mem_of_ipv6 {addresses : List ScopedIp} {addr : IpAddr}
    {scope : UInt32}
    (h : addresses.findSome? ScopedIp.ipv6 = some (addr, scope)) :
    exists ip, addr = .v6 ip ∧ .v6 ip scope ∈ addresses := by
  rcases List.exists_of_findSome?_eq_some h with ⟨found, hmem, hfound⟩
  cases found with
  | v4 ip interfaceIds => cases hfound
  | v6 ip scopeId =>
      cases hfound
      exact ⟨ip, rfl, hmem⟩

theorem mem_of_ipv4 {addresses : List ScopedIp} {addr : IpAddr}
    {scope : UInt32}
    (h : addresses.findSome? ScopedIp.ipv4 = some (addr, scope)) :
    exists ip interfaceIds, addr = .v4 ip ∧ .v4 ip interfaceIds ∈ addresses ∧
      scope = interfaceIds.head?.getD 0 := by
  rcases List.exists_of_findSome?_eq_some h with ⟨found, hmem, hfound⟩
  cases found with
  | v4 ip interfaceIds =>
      cases hfound
      exact ⟨ip, interfaceIds, rfl, hmem, rfl⟩
  | v6 ip scopeId => cases hfound

theorem reached_of_addressOf {addresses : List ScopedIp}
    {first : IpAddr × Option IpAddr} {scope : UInt32} {addr : IpAddr}
    (h : addressOf addresses = some (first, scope))
    (haddr : addr ∈ first.fst :: first.snd.toList) :
    Reached addresses addr scope := by
  unfold addressOf at h
  cases hv6 : addresses.findSome? ScopedIp.ipv6 with
  | some v6 =>
      rcases mem_of_ipv6 hv6 with ⟨ip, hip, hmem⟩
      cases hv4 : addresses.findSome? ScopedIp.ipv4 with
      | some v4 =>
          rcases mem_of_ipv4 hv4 with ⟨other, interfaceIds, hother, hmem4, _⟩
          rw [hv6, hv4] at h
          cases h
          rcases List.mem_cons.mp haddr with rfl | hsecond
          · rw [hip]
            exact .v6 hmem
          · rw [List.mem_singleton.mp hsecond, hother]
            exact .beside hmem hmem4
      | none =>
          rw [hv6, hv4] at h
          cases h
          rw [List.mem_singleton.mp haddr, hip]
          exact .v6 hmem
  | none =>
      cases hv4 : addresses.findSome? ScopedIp.ipv4 with
      | none =>
          rw [hv6, hv4] at h
          cases h
      | some v4 =>
          rcases mem_of_ipv4 hv4 with
            ⟨other, interfaceIds, hother, hmem4, hscope⟩
          rw [hv6, hv4] at h
          cases h
          rw [List.mem_singleton.mp haddr, hother, hscope]
          refine .v4 ?_ hmem4
          intro ip scope hmem
          have hnone := List.findSome?_eq_none_iff.mp hv6 _ hmem
          cases hnone

theorem paired_of_resolved {rs : ResolvedService} {dir : LockdownDir}
    {rd : Resolution} {addr : IpAddr} (id : UInt64)
    (h : resolveService T dir rs = some rd) (haddr : addr ∈ rd.addrs) :
    Paired t T rs dir addr ((rd.watched t addr).device id) := by
  rcases Option.bind_eq_some_iff.mp h with ⟨⟨first, scope⟩, hfirst, hrd⟩
  rcases Option.map_eq_some_iff.mp hrd with ⟨udid, hudid, rfl⟩
  refine ⟨?_, rfl, rfl,
    ⟨scope, reached_of_addressOf hfirst haddr, rfl, rfl⟩⟩
  cases dir with
  | none =>
      rw [udidOf_eq] at hudid
      cases hudid
  | some entries =>
      rw [udidOf_some] at hudid
      rcases List.exists_of_findSome?_eq_some hudid with ⟨entry, hmem, hentry⟩
      rcases entryUdid_eq_some.mp hentry with ⟨file, hsaved, hvouches⟩
      rcases Option.bind_eq_some_iff.mp hsaved with ⟨found, rfl, hfound⟩
      rcases Option.bind_eq_some_iff.mp hfound with ⟨name, hname, hfile⟩
      rcases Option.map_eq_some_iff.mp hfile with ⟨other, hother, hpair⟩
      cases hpair
      exact ⟨entries, found, file, rfl, hmem, hname, hother, hvouches⟩

theorem handedOut_of_resolved {rd : ResolvedDevice} {id : UInt64}
    {opened : Except RusbmuxError Unit}
    (hstep : s.resolved rd id opened = some u) {dev : NetworkDevice}
    (hdev : dev ∈ u.log.handedOut) :
    dev ∈ s.log.handedOut ∨ (opened = .ok () ∧ dev = rd.device id) := by
  unfold NetworkWatch.resolved at hstep
  split at hstep
  · cases hstep
    exact Or.inl hdev
  · rcases Machine.of_disabled_if hstep with ⟨_, hopened⟩
    cases opened with
    | error err =>
        cases hopened
        exact Or.inl hdev
    | ok done =>
        cases hopened
        rcases List.mem_cons.mp hdev with rfl | hdev
        · exact Or.inr ⟨rfl, rfl⟩
        · exact Or.inl hdev

theorem handedOut_disconnect (macAddress : String) (cause : Cause) :
    (s.disconnect macAddress cause).log.handedOut = s.log.handedOut := by
  unfold NetworkWatch.disconnect
  cases s.devicesIdMap macAddress with
  | none => rfl
  | some id => rfl

theorem step_paired {a : Action} (hstep : step t T s a = some u)
    {dev : NetworkDevice} (hdev : dev ∈ u.log.handedOut) :
    dev ∈ s.log.handedOut ∨
      exists rs dir addr, a = .resolved rs dir dev.id (.ok addr) ∧
        Paired t T rs dir addr dev := by
  cases a with
  | resolved rs dir id opened =>
      unfold step resolvedStep at hstep
      cases hresolved : resolveService T dir rs with
      | none =>
          simp only [hresolved] at hstep
          cases (Machine.of_disabled_if hstep).right
          exact Or.inl hdev
      | some rd =>
          cases opened with
          | error err =>
              simp only [hresolved] at hstep
              rcases handedOut_of_resolved (Machine.of_disabled_if hstep).right
                hdev with hold | ⟨hopened, _⟩
              · exact Or.inl hold
              · cases hopened
          | ok addr =>
              simp only [hresolved] at hstep
              rcases Machine.of_enabled_if hstep with ⟨haddr, hstep⟩
              rcases handedOut_of_resolved (Machine.of_disabled_if hstep).right
                hdev with hold | ⟨_, rfl⟩
              · exact Or.inl hold
              · exact Or.inr ⟨rs, dir, addr, rfl,
                  paired_of_resolved id hresolved haddr⟩
  | removed name =>
      cases (Machine.of_disabled_if hstep).right
      rw [handedOut_disconnect] at hdev
      exact Or.inl hdev
  | cancel id =>
      cases (Machine.of_disabled_if hstep).right
      exact Or.inl hdev
  | pickUp id =>
      rcases NetworkWatch.pickUp_eq_some hstep with ⟨canceler, _, rfl⟩
      rw [handedOut_disconnect] at hdev
      exact Or.inl hdev
  | closeBrowser =>
      cases hstep
      exact Or.inl hdev
  | finish =>
      cases (Machine.of_enabled_if hstep).right
      exact Or.inl hdev

theorem run_paired {actions : List Action}
    (hrun : Machine.run (step t T) s actions = some u) {dev : NetworkDevice}
    (hdev : dev ∈ u.log.handedOut) :
    dev ∈ s.log.handedOut ∨
      exists rs dir addr, .resolved rs dir dev.id (.ok addr) ∈ actions ∧
        Paired t T rs dir addr dev := by
  induction actions generalizing s with
  | nil =>
      cases hrun
      exact Or.inl hdev
  | cons a rest ih =>
      rcases Machine.run_cons_some hrun with ⟨middle, hstep, hrest⟩
      rcases ih hrest with hmiddle | ⟨rs, dir, addr, hmem, hpaired⟩
      · rcases step_paired hstep hmiddle with
          hold | ⟨rs, dir, addr, rfl, hpaired⟩
        · exact Or.inl hold
        · exact Or.inr ⟨rs, dir, addr, List.mem_cons_self, hpaired⟩
      · exact Or.inr ⟨rs, dir, addr, List.mem_cons_of_mem a hmem, hpaired⟩

/--
Every device that is connected at some time was that of a service which a
pairing file, saved under its UDID when it was resolved, vouched for.
-/
theorem handedOut_paired {actions : List Action}
    (hrun : Machine.run (step t T) {} actions = some u) {dev : NetworkDevice}
    (hdev : dev ∈ u.log.handedOut) :
    exists rs dir addr, .resolved rs dir dev.id (.ok addr) ∈ actions ∧
      Paired t T rs dir addr dev := by
  rcases run_paired hrun hdev with hold | hpaired
  · cases hold
  · exact hpaired

end Runs

/-!
A phone without tags, which is found at two addresses and reached at the second.
-/

def plainRecords : TxtRecords where
  getPropertyVal := fun properties key =>
    (properties.find? fun p => p.key.toLower = key.toLower).map TxtProperty.val
  decodeAuthTag := fun _ => none
  deriveAuthTag := fun _ _ => []

def homeAddress : Ipv4Addr where
  octets := [192, 168, 1, 7]
  length := rfl

def linkLocal : Ipv6Addr where
  octets := [0xfe, 0x80, 0, 0, 0, 0, 0, 0, 0, 0, 0, 0, 0, 0, 0, 1]
  length := rfl

def phoneService : ResolvedService where
  fullname := "a4:83:e7:00:00:01@fe80::1._apple-mobdev2._tcp.local."
  addresses := [.v4 homeAddress [2], .v6 linkLocal 2]
  properties := []

def savedPhone : LockdownDir :=
  some [none,
    some ⟨"SystemConfiguration.plist".toUTF8.data.toList, none⟩,
    some ⟨"00008110.plist".toUTF8.data.toList,
      some ⟨"host", "a4:83:e7:00:00:01"⟩⟩]

def phoneFound : List Action :=
  [.resolved phoneService savedPhone 7 (.ok (.v4 homeAddress)), .cancel 7,
    .pickUp 7]

def connectedPhone : NetworkDevice where
  id := 7
  udid := "00008110"
  macAddress := "a4:83:e7:00:00:01"
  serviceName := phoneService.fullname
  scopeId := some 2
  networkAddress :=
    (Target.mk .linux .little).networkAddress (.v4 homeAddress) (some 2)

def phoneLost : NetworkWatch :=
  (Machine.run (step ⟨.linux, .little⟩ plainRecords) {} phoneFound).getD {}

theorem run_phoneFound :
    Machine.run (step ⟨.linux, .little⟩ plainRecords) {} phoneFound =
      some phoneLost := rfl

theorem handedOut_phoneLost : phoneLost.log.handedOut = [connectedPhone] := rfl

theorem handedOut_paired_phoneFound :
    exists rs dir addr,
      .resolved rs dir connectedPhone.id (.ok addr) ∈ phoneFound ∧
        Paired ⟨.linux, .little⟩ plainRecords rs dir addr connectedPhone :=
  handedOut_paired run_phoneFound
    (handedOut_phoneLost ▸ List.mem_singleton_self connectedPhone)

end NetworkDiscovery

end Watcher
end Rusbmux
