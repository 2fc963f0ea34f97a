import Rusbmux.Device.NetworkAddress
import Rusbmux.Foundation.FirstMatch
import Rusbmux.Watcher.NetworkWatch

/-!
# Resolving a service to a paired device

`resolve_service` of `watcher/network.rs`: which of the addresses of a service
are tried, and which of the saved pairing files belongs to it.  A service that
comes with an identifier and an authentication tag has to match one of them with
a pairing file, any other one is known by the MAC address in its name.  The
directory of the pairing files may be different each time it is read.
-/

namespace Rusbmux
namespace Watcher

open Foundation
open Rusbmux.Device (IpAddr Ipv4Addr Ipv6Addr)

structure PairingFile where
  hostId : String
  wifiMacAddress : String
deriving DecidableEq, Repr

/-- An entry of the directory, with its pairing file if it is a valid one. -/
structure DirEntry where
  name : List UInt8
  pairingFile : Option PairingFile
deriving DecidableEq, Repr

abbrev LockdownDir : Type :=
  Option (List (Option DirEntry))

/-- An address of a service with the interfaces it was found on. -/
inductive ScopedIp where
  | v4 (addr : Ipv4Addr) (interfaceIds : List UInt32)
  | v6 (addr : Ipv6Addr) (scopeId : UInt32)
deriving DecidableEq

structure TxtProperty where
  key : String
  val : Option (List UInt8)
deriving DecidableEq, Repr

structure ResolvedService where
  fullname : String
  addresses : List ScopedIp
  properties : List TxtProperty

/-- What the libraries for mDNS make of the records of a service. -/
structure TxtRecords where
  getPropertyVal : List TxtProperty -> String -> Option (Option (List UInt8))
  decodeAuthTag : List UInt8 -> Option (List UInt8)
  deriveAuthTag : List UInt8 -> List UInt8 -> List UInt8

def fileStem (name : List UInt8) : List UInt8 :=
  let dot := '.'.toNat.toUInt8
  let before := (name.reverse.dropWhile (· ≠ dot)).drop 1
  if before.isEmpty then name else before.reverse

def toStr (bytes : List UInt8) : Option String :=
  String.fromUTF8? ⟨bytes.toArray⟩

def DirEntry.saved (entry : DirEntry) : Option (String × PairingFile) :=
  (toStr (fileStem entry.name)).bind fun udid =>
    entry.pairingFile.map fun file => (udid, file)

def getSavedPairingFiles (dir : LockdownDir) : List (String × PairingFile) :=
  match dir with
  | none => []
  | some entries => (entries.filterMap id).filterMap DirEntry.saved

section Resolution

variable (T : TxtRecords)

/-- The saved file has the tag of one of those that the service has sent. -/
def tagMatches (identifier : List UInt8) (decodedTags : List (List UInt8))
    (saved : String × PairingFile) : Option String :=
  if T.deriveAuthTag saved.snd.hostId.toUTF8.data.toList identifier ∈
      decodedTags then
    some saved.fst
  else
    none

def findUdidFromTxt (identifier : List UInt8) (authTags : List (List UInt8))
    (dir : LockdownDir) : Option String :=
  if authTags.isEmpty then none
  else
    let decodedTags := authTags.filterMap T.decodeAuthTag
    if decodedTags.isEmpty then none
    else
      (getSavedPairingFiles dir).findSome?
        (tagMatches T identifier decodedTags)

def macMatches (macAddress : String) (saved : String × PairingFile) :
    Option String :=
  if macAddress = saved.snd.wifiMacAddress then some saved.fst else none

def getUdidFromMacAddr (macAddress : String) (dir : LockdownDir) :
    Option String :=
  (getSavedPairingFiles dir).findSome? (macMatches macAddress)

def ScopedIp.ipv6 : ScopedIp -> Option (IpAddr × UInt32)
  | v6 addr scopeId => some (.v6 addr, scopeId)
  | v4 _ _ => none

def ScopedIp.ipv4 : ScopedIp -> Option (IpAddr × UInt32)
  | v4 addr interfaceIds => some (.v4 addr, interfaceIds.head?.getD 0)
  | v6 _ _ => none

def preferred (ipv6 ipv4 : Option (IpAddr × UInt32)) :
    Option ((IpAddr × Option IpAddr) × UInt32) :=
  match ipv6, ipv4 with
  | some (v6, scope), some (v4, _) => some ((v6, some v4), scope)
  | some (v6, scope), none => some ((v6, none), scope)
  | none, some (v4, scope) => some ((v4, none), scope)
  | none, none => none

def addressOf (addresses : List ScopedIp) :
    Option ((IpAddr × Option IpAddr) × UInt32) :=
  preferred (addresses.findSome? ScopedIp.ipv6)
    (addresses.findSome? ScopedIp.ipv4)

namespace ResolvedService

def authTags (rs : ResolvedService) : List (List UInt8) :=
  (rs.properties.filter fun p =>
    p.key = "authTag" || p.key.startsWith "authTag#").filterMap TxtProperty.val

def identifier (rs : ResolvedService) : Option (List UInt8) :=
  (T.getPropertyVal rs.properties "identifier").join

end ResolvedService

structure Resolution where
  addr : IpAddr × Option IpAddr
  scopeId : UInt32
  macAddress : String
  serviceName : String
  udid : String
deriving DecidableEq

def udidOf (dir : LockdownDir) (rs : ResolvedService) : Option String :=
  match rs.identifier T, rs.authTags with
  | some ident, tag :: tags => findUdidFromTxt T ident (tag :: tags) dir
  | _, _ => getUdidFromMacAddr (macOfName rs.fullname) dir

/-- A name without an `@` is taken for a MAC address as a whole. -/
def resolveService (dir : LockdownDir) (rs : ResolvedService) :
    Option Resolution :=
  (addressOf rs.addresses).bind fun (addr, scopeId) =>
    (udidOf T dir rs).map fun udid =>
      { addr := addr
        scopeId := scopeId
        macAddress := macOfName rs.fullname
        serviceName := rs.fullname
        udid := udid }

end Resolution

/-!
## The saved file that vouches for a service
-/

section Vouching

variable (T : TxtRecords)

def ResolvedService.IsTagged (rs : ResolvedService) : Prop :=
  rs.identifier T ≠ none ∧ rs.authTags ≠ []

/--
A tag of the service is the one of the file, or the service has sent none and
is named by the MAC address of the file.
-/
structure Vouches (rs : ResolvedService) (file : PairingFile) : Prop where
  byTag : rs.IsTagged T -> exists ident tag, rs.identifier T = some ident ∧
    tag ∈ rs.authTags ∧ T.decodeAuthTag tag =
      some (T.deriveAuthTag file.hostId.toUTF8.data.toList ident)
  byMac : ¬ rs.IsTagged T -> macOfName rs.fullname = file.wifiMacAddress

def vouched (rs : ResolvedService) (saved : String × PairingFile) :
    Option String :=
  match rs.identifier T, rs.authTags with
  | some ident, tag :: tags =>
      tagMatches T ident ((tag :: tags).filterMap T.decodeAuthTag) saved
  | _, _ => macMatches (macOfName rs.fullname) saved

variable {T} {rs : ResolvedService}

theorem tagMatches_eq_some {ident : List UInt8} {tags : List (List UInt8)}
    {saved : String × PairingFile} {udid : String} :
    tagMatches T ident tags saved = some udid <->
      T.deriveAuthTag saved.snd.hostId.toUTF8.data.toList ident ∈ tags ∧
        saved.fst = udid := by
  unfold tagMatches
  rw [Option.ite_none_right_eq_some, Option.some.injEq]

theorem macMatches_eq_some {macAddress : String}
    {saved : String × PairingFile} {udid : String} :
    macMatches macAddress saved = some udid <->
      macAddress = saved.snd.wifiMacAddress ∧ saved.fst = udid := by
  unfold macMatches
  rw [Option.ite_none_right_eq_some, Option.some.injEq]

theorem vouched_eq_some {saved : String × PairingFile} {udid : String} :
    vouched T rs saved = some udid <->
      Vouches T rs saved.snd ∧ saved.fst = udid := by
  unfold vouched
  cases hident : rs.identifier T with
  | none =>
      have hplain : ¬ rs.IsTagged T := fun h => h.left hident
      rw [macMatches_eq_some]
      constructor
      · rintro ⟨hmac, hudid⟩
        exact ⟨⟨fun h => absurd h hplain, fun _ => hmac⟩, hudid⟩
      · rintro ⟨hvouches, hudid⟩
        exact ⟨hvouches.byMac hplain, hudid⟩
  | some ident =>
      cases htags : rs.authTags with
      | nil =>
          have hplain : ¬ rs.IsTagged T := fun h => h.right htags
          rw [macMatches_eq_some]
          constructor
          · rintro ⟨hmac, hudid⟩
            exact ⟨⟨fun h => absurd h hplain, fun _ => hmac⟩, hudid⟩
          · rintro ⟨hvouches, hudid⟩
            exact ⟨hvouches.byMac hplain, hudid⟩
      | cons first tags =>
          have htagged : rs.IsTagged T := by
            constructor
            · rw [hident]
              exact Option.some_ne_none ident
            · rw [htags]
              exact List.cons_ne_nil first tags
          rw [tagMatches_eq_some, List.mem_filterMap, ← htags]
          constructor
          · rintro ⟨⟨tag, htag, hdecoded⟩, hudid⟩
            refine ⟨⟨fun _ => ⟨ident, tag, hident, htag, hdecoded⟩, ?_⟩, hudid⟩
            intro hplain
            exact absurd htagged hplain
          · rintro ⟨hvouches, hudid⟩
            rcases hvouches.byTag htagged with
              ⟨other, tag, hother, htag, hdecoded⟩
            cases hident.symm.trans hother
            exact ⟨⟨tag, htag, hdecoded⟩, hudid⟩

theorem findUdidFromTxt_cons (ident tag : List UInt8) (tags : List (List UInt8))
    (dir : LockdownDir) :
    findUdidFromTxt T ident (tag :: tags) dir =
      (getSavedPairingFiles dir).findSome?
        (tagMatches T ident ((tag :: tags).filterMap T.decodeAuthTag)) := by
  unfold findUdidFromTxt
  cases hdecoded : (tag :: tags).filterMap T.decodeAuthTag with
  | nil =>
      refine Eq.symm (List.findSome?_eq_none_iff.mpr ?_)
      intro saved _
      exact if_neg List.not_mem_nil
  | cons first decoded => rfl

theorem udidOf_eq (dir : LockdownDir) :
    udidOf T dir rs = (getSavedPairingFiles dir).findSome? (vouched T rs) := by
  unfold udidOf vouched
  cases rs.identifier T with
  | none => rfl
  | some ident =>
      cases rs.authTags with
      | nil => rfl
      | cons tag tags => exact findUdidFromTxt_cons ident tag tags dir

end Vouching

/-!
## The order of a directory and of a set of addresses
-/

section Orders

variable (T : TxtRecords)

def entryUdid (rs : ResolvedService) (entry : Option DirEntry) :
    Option String :=
  (entry.bind DirEntry.saved).bind (vouched T rs)

def ScopedIp.ipv4Addr (addr : ScopedIp) : Option IpAddr :=
  addr.ipv4.map Prod.fst

structure AddressesAgree (addresses : List ScopedIp) : Prop where
  ipv6 : FirstMatch.Agree ScopedIp.ipv6 addresses
  ipv4Addr : FirstMatch.Agree ScopedIp.ipv4Addr addresses
  ipv4 : addresses.findSome? ScopedIp.ipv6 = none ->
    FirstMatch.Agree ScopedIp.ipv4 addresses

variable {T} {rs : ResolvedService}

theorem udidOf_some (entries : List (Option DirEntry)) :
    udidOf T (some entries) rs = entries.findSome? (entryUdid T rs) := by
  rw [udidOf_eq]
  show ((entries.filterMap id).filterMap DirEntry.saved).findSome? _ = _
  rw [← List.head?_filterMap, ← List.head?_filterMap, List.filterMap_filterMap,
    List.filterMap_filterMap]
  congr 2
  funext entry
  cases entry with
  | none => rfl
  | some entry => rfl

theorem entryUdid_eq_some {entry : Option DirEntry} {udid : String} :
    entryUdid T rs entry = some udid <->
      exists file, entry.bind DirEntry.saved = some (udid, file) ∧
        Vouches T rs file := by
  unfold entryUdid
  rw [Option.bind_eq_some_iff]
  constructor
  · rintro ⟨⟨name, file⟩, hsaved, hvouched⟩
    rcases vouched_eq_some.mp hvouched with ⟨hvouches, rfl⟩
    exact ⟨file, hsaved, hvouches⟩
  · rintro ⟨file, hsaved, hvouches⟩
    exact ⟨(udid, file), hsaved, vouched_eq_some.mpr ⟨hvouches, rfl⟩⟩

theorem preferred_some_inj {v6 v6' : IpAddr × UInt32}
    {v4 v4' : Option (IpAddr × UInt32)} :
    preferred (some v6) v4 = preferred (some v6') v4' <->
      v6 = v6' ∧ v4.map Prod.fst = v4'.map Prod.fst := by
  rcases v6 with ⟨ip, scope⟩
  rcases v6' with ⟨ip', scope'⟩
  cases v4 with
  | none =>
      cases v4' with
      | none => simp [preferred]
      | some other => simp [preferred]
  | some first =>
      cases v4' with
      | none => simp [preferred]
      | some other =>
          simp only [preferred, Option.map_some, Option.some.injEq,
            Prod.mk.injEq]
          tauto

theorem preferred_none_inj {v4 v4' : Option (IpAddr × UInt32)} :
    preferred none v4 = preferred none v4' <-> v4 = v4' := by
  cases v4 with
  | none =>
      cases v4' with
      | none => simp [preferred]
      | some other => simp [preferred]
  | some first =>
      cases v4' with
      | none => simp [preferred]
      | some other =>
          rcases first with ⟨ip, scope⟩
          rcases other with ⟨ip', scope'⟩
          simp [preferred]

theorem findSome?_ipv4Addr (addresses : List ScopedIp) :
    addresses.findSome? ScopedIp.ipv4Addr =
      (addresses.findSome? ScopedIp.ipv4).map Prod.fst :=
  (List.map_findSome? (f := ScopedIp.ipv4) (g := Prod.fst)).symm

theorem addressOf_orderFree_iff (addresses : List ScopedIp) :
    (forall other : List ScopedIp, other.Perm addresses ->
        addressOf other = addressOf addresses) <->
      AddressesAgree addresses := by
  unfold addressOf
  cases hv6 : addresses.findSome? ScopedIp.ipv6 with
  | none =>
      have hother : forall other : List ScopedIp, other.Perm addresses ->
          other.findSome? ScopedIp.ipv6 = none :=
        fun other hperm => FirstMatch.findSome?_of_perm hperm hv6
      constructor
      · intro h
        have hv4 : FirstMatch.OrderFree ScopedIp.ipv4 addresses := by
          intro other hperm
          have hsame := h other hperm
          rw [hother other hperm] at hsame
          exact preferred_none_inj.mp hsame
        refine ⟨(FirstMatch.orderFree_iff _ _).mp ?_,
          (FirstMatch.orderFree_iff _ _).mp ?_,
          fun _ => (FirstMatch.orderFree_iff _ _).mp hv4⟩
        · intro other hperm
          rw [hother other hperm, hv6]
        · intro other hperm
          rw [findSome?_ipv4Addr, findSome?_ipv4Addr, hv4 other hperm]
      · intro h other hperm
        rw [hother other hperm]
        exact congrArg _ ((FirstMatch.orderFree_iff _ _).mpr (h.ipv4 hv6)
          other hperm)
  | some v6 =>
      constructor
      · intro h
        have hboth : forall other : List ScopedIp, other.Perm addresses ->
            other.findSome? ScopedIp.ipv6 = some v6 ∧
              other.findSome? ScopedIp.ipv4Addr =
                addresses.findSome? ScopedIp.ipv4Addr := by
          intro other hperm
          have hsame := h other hperm
          cases hother : other.findSome? ScopedIp.ipv6 with
          | none =>
              have hnone := FirstMatch.findSome?_of_perm hperm.symm hother
              cases hv6.symm.trans hnone
          | some w6 =>
              rw [hother] at hsame
              rcases preferred_some_inj.mp hsame with ⟨rfl, hv4⟩
              rw [findSome?_ipv4Addr, findSome?_ipv4Addr]
              exact ⟨rfl, hv4⟩
        refine ⟨(FirstMatch.orderFree_iff _ _).mp ?_,
          (FirstMatch.orderFree_iff _ _).mp ?_, ?_⟩
        · intro other hperm
          rw [(hboth other hperm).left, hv6]
        · intro other hperm
          exact (hboth other hperm).right
        · intro hnone
          cases hv6.symm.trans hnone
      · intro h other hperm
        have hsame := (FirstMatch.orderFree_iff _ _).mpr h.ipv6 other hperm
        have hv4 := (FirstMatch.orderFree_iff _ _).mpr h.ipv4Addr other hperm
        rw [findSome?_ipv4Addr, findSome?_ipv4Addr] at hv4
        rw [hsame, hv6]
        exact preferred_some_inj.mpr ⟨rfl, hv4⟩

theorem addressOf_eq_none_of_perm {addresses other : List ScopedIp}
    (hperm : other.Perm addresses) (hnone : addressOf addresses = none) :
    addressOf other = none := by
  unfold addressOf at hnone ⊢
  cases hv6 : addresses.findSome? ScopedIp.ipv6 with
  | some v6 =>
      rw [hv6] at hnone
      cases hv4 : addresses.findSome? ScopedIp.ipv4 with
      | none =>
          rw [hv4] at hnone
          cases hnone
      | some v4 =>
          rw [hv4] at hnone
          cases hnone
  | none =>
      cases hv4 : addresses.findSome? ScopedIp.ipv4 with
      | some v4 =>
          rw [hv6, hv4] at hnone
          cases hnone
      | none =>
          rw [FirstMatch.findSome?_of_perm hperm hv6,
            FirstMatch.findSome?_of_perm hperm hv4]
          rfl

theorem resolveService_eq_none {dir : LockdownDir} :
    resolveService T dir rs = none <->
      addressOf rs.addresses = none ∨ udidOf T dir rs = none := by
  unfold resolveService
  cases addressOf rs.addresses with
  | none => simp
  | some addr => simp

theorem resolveService_inj {dir dir' : LockdownDir} {addresses : List ScopedIp}
    (hsome : resolveService T dir rs ≠ none) :
    resolveService T dir' { rs with addresses := addresses } =
        resolveService T dir rs <->
      addressOf addresses = addressOf rs.addresses ∧
        udidOf T dir' rs = udidOf T dir rs := by
  have hsame : udidOf T dir' { rs with addresses := addresses } =
      udidOf T dir' rs := rfl
  rcases not_or.mp (mt resolveService_eq_none.mpr hsome) with ⟨haddr, hudid⟩
  rcases Option.ne_none_iff_exists'.mp haddr with ⟨⟨addr, scopeId⟩, haddr⟩
  rcases Option.ne_none_iff_exists'.mp hudid with ⟨udid, hudid⟩
  unfold resolveService
  rw [hsame, haddr, hudid]
  cases addressOf addresses with
  | none => simp
  | some other =>
      cases udidOf T dir' rs with
      | none => simp
      | some name => simp [Prod.ext_iff, and_assoc]

/--
The order in which a directory is read and a set of addresses is walked does not
matter for a service exactly if it is resolved in no order at all, or all saved
files that vouch for it have one name and all its addresses that could be picked
are the same.
-/
theorem resolveService_orderFree_iff (T : TxtRecords)
    (entries : List (Option DirEntry)) (rs : ResolvedService) :
    (forall (entries' : List (Option DirEntry)) (addresses' : List ScopedIp),
        entries'.Perm entries -> addresses'.Perm rs.addresses ->
        resolveService T (some entries') { rs with addresses := addresses' } =
          resolveService T (some entries) rs) <->
      resolveService T (some entries) rs = none ∨
        (FirstMatch.Agree (entryUdid T rs) entries ∧
          AddressesAgree rs.addresses) := by
  by_cases hnone : resolveService T (some entries) rs = none
  · refine iff_of_true ?_ (Or.inl hnone)
    intro entries' addresses' hentries haddresses
    rw [hnone, resolveService_eq_none]
    rcases resolveService_eq_none.mp hnone with haddr | hudid
    · exact Or.inl (addressOf_eq_none_of_perm haddresses haddr)
    · rw [udidOf_some] at hudid
      have hother := FirstMatch.findSome?_of_perm hentries hudid
      rw [← udidOf_some] at hother
      exact Or.inr hother
  · rw [or_iff_right hnone, ← FirstMatch.orderFree_iff,
      ← addressOf_orderFree_iff]
    constructor
    · intro h
      constructor
      · intro entries' hentries
        have hsame := h entries' rs.addresses hentries (List.Perm.refl _)
        rw [← udidOf_some, ← udidOf_some]
        exact ((resolveService_inj hnone).mp hsame).right
      · intro addresses' haddresses
        have hsame := h entries addresses' (List.Perm.refl _) haddresses
        exact ((resolveService_inj hnone).mp hsame).left
    · rintro ⟨hnames, haddr⟩ entries' addresses' hentries haddresses
      refine (resolveService_inj hnone).mpr ⟨haddr addresses' haddresses, ?_⟩
      rw [udidOf_some, udidOf_some]
      exact hnames entries' hentries

end Orders

end Watcher
end Rusbmux
