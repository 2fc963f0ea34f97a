import Rusbmux.Parser.UsbMuxRequest

/-!
# Reading a written request back

`fromPlist_intoPlist` says what the reader makes of a written request, whatever
its variant and fields are: the program name is gone, since it is written and
read under different keys, and the two bytes of a port have changed places,
since only the reader takes ports to be in network order.  A device id from 2^63
on is written as a negative number, which is no device id to the reader.
-/

namespace Rusbmux
namespace Parser

open Plist

/-!
## Values
-/

theorem decodeUnsigned_ofNat {alpha : Type} {bound n : Nat}
    (ofNat : Nat -> alpha) (expected : String) (hn : n < bound)
    (hfits : n < 2 ^ 64) :
    decodeUnsigned bound ofNat expected (.integer (.ofNat n hfits)) =
      .ok (ofNat n) := by
  have hrange : 0 <= (Integer.ofNat n hfits).value ∧
      (Integer.ofNat n hfits).value < bound := by
    change 0 <= (n : Int) ∧ (n : Int) < bound
    omega
  change (if _ then Except.ok (ofNat n) else _) = _
  exact if_pos hrange

theorem decodeU8_unsigned8 (n : UInt8) : decodeU8 (unsigned8 n) = .ok n := by
  apply (decodeUnsigned_ofNat _ _ n.toNat_lt _).trans
  rw [UInt8.ofNat_toNat]

theorem decodeU32_unsigned32 (n : UInt32) :
    decodeU32 (unsigned32 n) = .ok n := by
  apply (decodeUnsigned_ofNat _ _ n.toNat_lt _).trans
  rw [UInt32.ofNat_toNat]

theorem decodeU64_of_lt {n : UInt64} (hn : n.toNat < 2 ^ 63) :
    decodeU64 (unsigned64 n) = .ok n := by
  have hvalue : (Integer.ofBits n).value = n.toNat := if_pos hn
  have hrange : 0 <= (Integer.ofBits n).value ∧
      (Integer.ofBits n).value < (2 ^ 64 : Nat) := by
    rw [hvalue]
    omega
  apply (if_pos hrange).trans
  rw [hvalue, Int.toNat_natCast, UInt64.ofNat_toNat]

theorem decodeU64_of_le {n : UInt64} (hn : 2 ^ 63 <= n.toNat) :
    exists e, decodeU64 (unsigned64 n) = .error e := by
  have hvalue : (Integer.ofBits n).value = n.toNat - 2 ^ 64 :=
    if_neg (Nat.not_lt.mpr hn)
  have hrange : ¬ (0 <= (Integer.ofBits n).value ∧
      (Integer.ofBits n).value < (2 ^ 64 : Nat)) := by
    have hlt := n.toNat_lt
    rw [hvalue]
    omega
  exact ⟨_, if_neg hrange⟩

theorem deserializePortNumber_unsigned16 (n : UInt16) :
    deserializePortNumber (unsigned16 n) = .ok (toBe n) := by
  unfold deserializePortNumber unsigned16
  simp only [Value.asUnsignedInteger, Integer.asUnsigned_ofNat,
    UInt16.ofNat_toNat]

theorem toBe_eq_self_iff (n : UInt16) :
    toBe n = n <-> n.toNat / 256 = n.toNat % 256 := by
  have hn : n.toNat < 65536 := n.toNat_lt
  have hswap : (toBe n).toNat = n.toNat % 256 * 256 + n.toNat / 256 := by
    unfold toBe
    rw [UInt16.toNat_ofNat']
    apply Nat.mod_eq_of_lt
    omega
  rw [← UInt16.toNat_inj, hswap]
  omega

/-!
## Common fields
-/

namespace UsbMuxCommon

theorem scan_optionalEntry {alpha : Type} {key : String}
    {toValue : alpha -> Value} (update : Option alpha -> UsbMuxCommon)
    (hfill : forall v,
      fill (update none) (toValue v) key = .ok (update (some v)))
    (o : Option alpha) (rest : Entries) :
    scan (update none) (optionalEntry key toValue o ++ rest) =
      scan (update o) rest := by
  cases o with
  | none => rfl
  | some v =>
      change (fill (update none) (toValue v) key >>= fun common =>
        scan common rest) = _
      rw [hfill v]
      rfl

def received (common : UsbMuxCommon) : UsbMuxCommon :=
  { common with progName := none }

theorem scan_encodeCommon (common : UsbMuxCommon) :
    scan {} (UsbMuxRequest.encodeCommon common) = .ok common.received := by
  rcases common with ⟨bundleId, clientVersionString, connType, processId,
    progName, libusbmuxVersion⟩
  unfold UsbMuxRequest.encodeCommon
  rw [← List.append_nil (optionalEntry "kLibUSBMuxVersion" _ _)]
  refine (scan_optionalEntry (fun b => ⟨b, none, none, none, none, none⟩)
    (fun v => rfl) _ _).trans ?_
  refine (scan_optionalEntry (fun c => ⟨bundleId, c, none, none, none, none⟩)
    (fun v => rfl) _ _).trans ?_
  refine (scan_optionalEntry
    (fun t => ⟨bundleId, clientVersionString, t, none, none, none⟩)
    (fun v => ?_) _ _).trans ?_
  · change (decodeU8 (unsigned8 v)).map some >>= _ = _
    rw [decodeU8_unsigned8]
    rfl
  refine (scan_optionalEntry
    (fun p => ⟨bundleId, clientVersionString, connType, p, none, none⟩)
    (fun v => ?_) _ _).trans ?_
  · change (decodeU32 (unsigned32 v)).map some >>= _ = _
    rw [decodeU32_unsigned32]
    rfl
  -- the reader has no field under the key the program name is written to
  refine (scan_optionalEntry
    (fun _ => ⟨bundleId, clientVersionString, connType, processId, none, none⟩)
    (fun v => rfl) _ _).trans ?_
  refine (scan_optionalEntry
    (fun l => ⟨bundleId, clientVersionString, connType, processId, none, l⟩)
    (fun v => ?_) _ _).trans ?_
  · change (decodeU8 (unsigned8 v)).map some >>= _ = _
    rw [decodeU8_unsigned8]
    rfl
  rfl

end UsbMuxCommon

/-!
## Own fields
-/

def commonKeys : List String :=
  ["BundleID", "ClientVersionString", "ConnType", "ProcessID", "ProgramName",
    "kLibUSBMuxVersion"]

theorem fst_mem_of_optionalEntry {alpha : Type} {key : String}
    {toValue : alpha -> Value} {o : Option alpha} {entry : String × Value}
    (h : entry ∈ optionalEntry key toValue o) : entry.fst = key := by
  cases o with
  | none => cases h
  | some v =>
      rw [List.mem_singleton.mp h]

theorem fst_mem_commonKeys {common : UsbMuxCommon} {entry : String × Value}
    (h : entry ∈ UsbMuxRequest.encodeCommon common) :
    entry.fst ∈ commonKeys := by
  unfold UsbMuxRequest.encodeCommon at h
  simp only [List.mem_append] at h
  unfold commonKeys
  rcases h with h | h | h | h | h | h <;>
    simp [fst_mem_of_optionalEntry h]

theorem slotOf_commonKeys (variant : Variant) {key : String}
    (h : key ∈ commonKeys) : variant.slotOf key = none := by
  revert key
  cases variant <;> decide

namespace OwnFields

variable {Ip : Type} (A : IpFormat Ip) (variant : Variant)

theorem scan_of_no_slot (fields : OwnFields Ip) {entries : Entries}
    (h : forall entry, entry ∈ entries -> variant.slotOf entry.fst = none) :
    scan A variant fields entries = .ok (fields, entries) := by
  induction entries with
  | nil => rfl
  | cons entry rest ih =>
      rcases entry with ⟨key, v⟩
      have hkey : variant.slotOf key = none := h (key, v) List.mem_cons_self
      have hrest := ih fun entry hentry =>
        h entry (List.mem_cons_of_mem _ hentry)
      unfold scan
      rw [hkey]
      simp only [hrest]
      rfl

theorem scan_encodeCommon (fields : OwnFields Ip) (common : UsbMuxCommon) :
    scan A variant fields (UsbMuxRequest.encodeCommon common) =
      .ok (fields, UsbMuxRequest.encodeCommon common) :=
  scan_of_no_slot A variant fields fun _ hentry =>
    slotOf_commonKeys variant (fst_mem_commonKeys hentry)

theorem scan_cons_of_error {fields : OwnFields Ip} {key : String} {v : Value}
    {slot : Slot} {e : DecodeError} (hslot : variant.slotOf key = some slot)
    (hfill : fill A fields v slot = .error e) (rest : Entries) :
    scan A variant fields ((key, v) :: rest) = .error e := by
  rw [scan, hslot]
  simp only [hfill]
  rfl

theorem scan_cons {fields next : OwnFields Ip} {key : String} {v : Value}
    {slot : Slot} (hslot : variant.slotOf key = some slot)
    (hfill : fill A fields v slot = .ok next) (rest : Entries) :
    scan A variant fields ((key, v) :: rest) = scan A variant next rest := by
  rw [scan, hslot]
  simp only [hfill]
  rfl

end OwnFields

/-!
## Requests
-/

namespace UsbMuxRequest

variable {Ip : Type} (A : IpFormat Ip)

def variant : UsbMuxRequest Ip -> Variant
  | listen _ => .listen
  | listDevices _ => .listDevices
  | listListeners _ => .listListeners
  | readBUID _ => .readBUID
  | readPairRecord _ _ => .readPairRecord
  | savePairRecord _ _ _ _ => .savePairRecord
  | deletePairRecord _ _ => .deletePairRecord
  | connect _ _ _ => .connect
  | addDevice _ _ _ _ => .addDevice

def received : UsbMuxRequest Ip -> UsbMuxRequest Ip
  | listen common => listen common.received
  | listDevices common => listDevices common.received
  | listListeners common => listListeners common.received
  | readBUID common => readBUID common.received
  | readPairRecord common pairRecordId =>
      readPairRecord common.received pairRecordId
  | savePairRecord common pairRecordId pairRecordData deviceId =>
      savePairRecord common.received pairRecordId pairRecordData deviceId
  | deletePairRecord common pairRecordId =>
      deletePairRecord common.received pairRecordId
  | connect common deviceId port =>
      connect common.received deviceId (toBe port)
  | addDevice common ip udid force => addDevice common.received ip udid force

theorem decode_messageType (request : UsbMuxRequest Ip) :
    Variant.decode (.string request.messageType) = .ok request.variant := by
  cases request <;> rfl

theorem takeTag_cons (tag : Value) {rest : Entries}
    (h : forall entry, entry ∈ rest -> entry.fst ≠ "MessageType") :
    takeTag (("MessageType", tag) :: rest) = .ok (tag, rest) := by
  have hnone : rest.filter (fun entry => entry.fst = "MessageType") = [] := by
    rw [List.filter_eq_nil_iff]
    intro entry hentry
    simpa using h entry hentry
  have hall : rest.filter (fun entry => entry.fst ≠ "MessageType") = rest := by
    rw [List.filter_eq_self]
    intro entry hentry
    simpa using h entry hentry
  unfold takeTag
  rw [List.filter_cons_of_pos (by simp), hnone, List.filter_cons_of_neg (by simp),
    hall]

theorem fst_mem_ownEntries {request : UsbMuxRequest Ip}
    {entry : String × Value} (h : entry ∈ request.ownEntries A) :
    entry.fst ∈ ["PairRecordID", "PairRecordData", "DeviceID", "PortNumber",
      "IP", "UDID", "Force"] := by
  cases request with
  | listen common => cases h
  | listDevices common => cases h
  | listListeners common => cases h
  | readBUID common => cases h
  | readPairRecord common pairRecordId =>
      rw [List.mem_singleton.mp h]
      simp
  | savePairRecord common pairRecordId pairRecordData deviceId =>
      simp only [ownEntries, List.mem_cons] at h
      rcases h with rfl | rfl | h
      · simp
      · simp
      · simp [fst_mem_of_optionalEntry h]
  | deletePairRecord common pairRecordId =>
      rw [List.mem_singleton.mp h]
      simp
  | connect common deviceId port =>
      simp only [ownEntries, List.mem_cons, List.not_mem_nil, or_false] at h
      rcases h with rfl | rfl <;> simp
  | addDevice common ip udid force =>
      simp only [ownEntries, List.mem_cons, List.not_mem_nil, or_false] at h
      rcases h with rfl | rfl | rfl <;> simp

theorem takeTag_intoPlist (request : UsbMuxRequest Ip) (tag : Value) :
    takeTag (("MessageType", tag) ::
        (request.ownEntries A ++ encodeCommon request.common)) =
      .ok (tag, request.ownEntries A ++ encodeCommon request.common) := by
  apply takeTag_cons
  intro entry hentry heq
  rcases List.mem_append.mp hentry with hown | hcommon
  · have hkeys := fst_mem_ownEntries A hown
    rw [heq] at hkeys
    revert hkeys
    decide
  · have hkeys := fst_mem_commonKeys hcommon
    rw [heq] at hkeys
    revert hkeys
    decide

def ownFields : UsbMuxRequest Ip -> OwnFields Ip
  | listen _ | listDevices _ | listListeners _ | readBUID _ => {}
  | readPairRecord _ pairRecordId | deletePairRecord _ pairRecordId =>
      { pairRecordId := some pairRecordId }
  | savePairRecord _ pairRecordId pairRecordData deviceId =>
      { pairRecordId := some pairRecordId
        pairRecordData := some pairRecordData
        deviceId := deviceId }
  | connect _ deviceId port =>
      { deviceId := some deviceId, port := some (toBe port) }
  | addDevice _ ip udid force =>
      { ip := some ip, udid := some udid, force := some force }

theorem fill_deviceId (fields : OwnFields Ip) {deviceId : UInt64}
    (hlt : deviceId.toNat < 2 ^ 63) (h : fields.deviceId = none) :
    fields.fill A (unsigned64 deviceId) .deviceId =
      .ok { fields with deviceId := some deviceId } := by
  unfold OwnFields.fill once
  rw [h]
  simp only [decodeU64_of_lt hlt]
  rfl

theorem fill_deviceId_of_le (fields : OwnFields Ip) {deviceId : UInt64}
    (hle : 2 ^ 63 <= deviceId.toNat) (h : fields.deviceId = none) :
    exists e, fields.fill A (unsigned64 deviceId) .deviceId = .error e := by
  rcases decodeU64_of_le hle with ⟨e, he⟩
  refine ⟨e, ?_⟩
  unfold OwnFields.fill once
  rw [h]
  simp only [he]
  rfl

theorem fill_port (fields : OwnFields Ip) (port : UInt16)
    (h : fields.port = none) :
    fields.fill A (unsigned16 port) .port =
      .ok { fields with port := some (toBe port) } := by
  unfold OwnFields.fill once
  rw [h]
  simp only [deserializePortNumber_unsigned16]
  rfl

theorem fill_ip (fields : OwnFields Ip) (ip : Ip) (h : fields.ip = none) :
    fields.fill A (.string (A.toString ip)) .ip =
      .ok { fields with ip := some ip } := by
  unfold OwnFields.fill once
  rw [h]
  simp only [decodeIp, A.parse_toString]
  rfl

def deviceId? : UsbMuxRequest Ip -> Option UInt64
  | savePairRecord _ _ _ deviceId => deviceId
  | connect _ deviceId _ => some deviceId
  | _ => none

def IdFits (request : UsbMuxRequest Ip) : Prop :=
  forall deviceId, request.deviceId? = some deviceId -> deviceId.toNat < 2 ^ 63

theorem scan_ownEntries {request : UsbMuxRequest Ip} (h : request.IdFits) :
    OwnFields.scan A request.variant {}
        (request.ownEntries A ++ encodeCommon request.common) =
      .ok (request.ownFields, encodeCommon request.common) := by
  cases request with
  | listen common => exact OwnFields.scan_encodeCommon A _ _ _
  | listDevices common => exact OwnFields.scan_encodeCommon A _ _ _
  | listListeners common => exact OwnFields.scan_encodeCommon A _ _ _
  | readBUID common => exact OwnFields.scan_encodeCommon A _ _ _
  | readPairRecord common pairRecordId =>
      apply (OwnFields.scan_cons A _ rfl rfl _).trans
      exact OwnFields.scan_encodeCommon A _ _ _
  | savePairRecord common pairRecordId pairRecordData deviceId =>
      apply (OwnFields.scan_cons A _ rfl rfl _).trans
      apply (OwnFields.scan_cons A _ rfl rfl _).trans
      cases deviceId with
      | none => exact OwnFields.scan_encodeCommon A _ _ _
      | some deviceId =>
          refine (OwnFields.scan_cons A _ rfl
            (fill_deviceId A _ (h deviceId rfl) rfl) _).trans ?_
          exact OwnFields.scan_encodeCommon A _ _ _
  | deletePairRecord common pairRecordId =>
      apply (OwnFields.scan_cons A _ rfl rfl _).trans
      exact OwnFields.scan_encodeCommon A _ _ _
  | connect common deviceId port =>
      refine (OwnFields.scan_cons A _ rfl
        (fill_deviceId A _ (h deviceId rfl) rfl) _).trans ?_
      apply (OwnFields.scan_cons A _ rfl (fill_port A _ port rfl) _).trans
      exact OwnFields.scan_encodeCommon A _ _ _
  | addDevice common ip udid force =>
      apply (OwnFields.scan_cons A _ rfl (fill_ip A _ ip rfl) _).trans
      apply (OwnFields.scan_cons A _ rfl rfl _).trans
      apply (OwnFields.scan_cons A _ rfl rfl _).trans
      exact OwnFields.scan_encodeCommon A _ _ _

theorem scan_ownEntries_of_le {request : UsbMuxRequest Ip} {deviceId : UInt64}
    (hid : request.deviceId? = some deviceId) (hle : 2 ^ 63 <= deviceId.toNat) :
    exists e, OwnFields.scan A request.variant {}
      (request.ownEntries A ++ encodeCommon request.common) = .error e := by
  cases request with
  | savePairRecord common pairRecordId pairRecordData written =>
      cases hid
      rcases fill_deviceId_of_le A
        { pairRecordId := some pairRecordId
          pairRecordData := some pairRecordData } hle rfl with ⟨e, he⟩
      refine ⟨e, ?_⟩
      apply (OwnFields.scan_cons A _ rfl rfl _).trans
      apply (OwnFields.scan_cons A _ rfl rfl _).trans
      exact OwnFields.scan_cons_of_error A _ rfl he _
  | connect common written port =>
      cases hid
      rcases fill_deviceId_of_le A {} hle rfl with ⟨e, he⟩
      exact ⟨e, OwnFields.scan_cons_of_error A _ rfl he _⟩
  | _ => cases hid

theorem build_ownFields (request : UsbMuxRequest Ip) :
    build request.ownFields (encodeCommon request.common) request.variant =
      .ok request.received := by
  cases request <;>
    simp only [build, ownFields, variant, common, required, received,
      UsbMuxCommon.scan_encodeCommon] <;>
    rfl

theorem fromPlist_eq_bind (request : UsbMuxRequest Ip) :
    fromPlist A (request.intoPlist A) =
      OwnFields.scan A request.variant {}
          (request.ownEntries A ++ encodeCommon request.common) >>=
        fun scanned => build scanned.fst scanned.snd request.variant := by
  unfold fromPlist intoPlist
  simp only [takeTag_intoPlist]
  change (Variant.decode _ >>= fun variant => _) = _
  rw [decode_messageType]
  rfl

theorem fromPlist_intoPlist {request : UsbMuxRequest Ip} (h : request.IdFits) :
    fromPlist A (request.intoPlist A) = .ok request.received := by
  rw [fromPlist_eq_bind, scan_ownEntries A h]
  exact build_ownFields request

theorem fromPlist_intoPlist_of_not_idFits {request : UsbMuxRequest Ip}
    (h : ¬ request.IdFits) :
    exists e, fromPlist A (request.intoPlist A) = .error e := by
  unfold IdFits at h
  push Not at h
  rcases h with ⟨deviceId, hid, hle⟩
  rcases scan_ownEntries_of_le A hid hle with ⟨e, he⟩
  refine ⟨e, ?_⟩
  rw [fromPlist_eq_bind, he]
  rfl

/-!
## When the request comes back unchanged
-/

/--
What is written carries no program name, a port only as it is read, and a device
id only as the number that it is.
-/
def ReadsBack (request : UsbMuxRequest Ip) : Prop :=
  request.common.progName = none ∧
    (forall common deviceId port, request = connect common deviceId port ->
      port.toNat / 256 = port.toNat % 256) ∧
    request.IdFits

theorem UsbMuxCommon.received_eq_iff (common : UsbMuxCommon) :
    common.received = common <-> common.progName = none := by
  rcases common with ⟨bundleId, clientVersionString, connType, processId,
    progName, libusbmuxVersion⟩
  simp [UsbMuxCommon.received, eq_comm]

theorem received_eq_iff (request : UsbMuxRequest Ip) :
    request.received = request <->
      request.common.progName = none ∧
        forall common deviceId port, request = connect common deviceId port ->
          port.toNat / 256 = port.toNat % 256 := by
  rw [← UsbMuxCommon.received_eq_iff]
  cases request <;>
    simp [received, common, ← toBe_eq_self_iff]

/-- A request is read back as it was written exactly in these cases. -/
theorem fromPlist_intoPlist_iff (request : UsbMuxRequest Ip) :
    fromPlist A (request.intoPlist A) = .ok request <-> request.ReadsBack := by
  unfold ReadsBack
  by_cases h : request.IdFits
  · rw [fromPlist_intoPlist A h, Except.ok.injEq, received_eq_iff]
    exact and_congr_right' (and_iff_left h).symm
  · rcases fromPlist_intoPlist_of_not_idFits A h with ⟨e, he⟩
    rw [he]
    refine iff_of_false (fun herr => ?_) fun hread => h hread.right.right
    cases herr

def loopback : IpFormat Unit where
  toString _ := "127.0.0.1"
  parse text := if text = "127.0.0.1" then some () else none
  parse_toString _ := rfl

/-- A connection to the lockdown port is read back with its bytes swapped. -/
theorem not_fromPlist_intoPlist_connect :
    ¬ forall (Ip : Type) (A : IpFormat Ip) (request : UsbMuxRequest Ip),
      fromPlist A (request.intoPlist A) = .ok request := by
  intro h
  have hconnect := h Unit loopback (.connect {} 1 62078)
  rw [fromPlist_intoPlist loopback fun deviceId hid => by
    cases hid
    decide] at hconnect
  have hport := Except.ok.inj hconnect
  revert hport
  decide

end UsbMuxRequest

end Parser
end Rusbmux
