import Rusbmux.Foundation.Machine
import Rusbmux.Parser.DeviceMuxRoundTrip

/-!
# Writing packets to a device

`start_writer_loop` of `device/usb.rs`, next to the counter of received packets
that the reader loop keeps for it.  The loop gives every packet with a V2 header
its numbers and writes the headers from a buffer that it uses again and again,
and the payload after them.  It counts the packets in sixteen bits without a
check, so what happens when they have run out depends on the build: with checks
of its own the build stops the loop, without them it starts again at zero.
-/

namespace Rusbmux
namespace Device

open Foundation
open Rusbmux.Parser

inductive WriteAll where
  | done
  | failed (written : Nat)
deriving DecidableEq, Repr

namespace WriteAll

def isOk : WriteAll -> Bool
  | done => true
  | failed _ => false

def taken (data : List UInt8) : WriteAll -> List UInt8
  | done => data
  | failed written => data.take written

end WriteAll

structure WriterLoop where
  hbuf : List UInt8 :=
    List.replicate (UsbDevicePacketHeaderV2.size + TcpHeader.minLen) 0
  sendSeq : UInt16 := 1
  recvSeq : UInt16 := 0
  packets : List UsbDevicePacket := []
  /-- What was written since the last `submit_end`. -/
  current : List UInt8 := []
  /-- What was written before each `submit_end`. -/
  transfers : List (List UInt8) := []

namespace WriterLoop

/-- `send_seq += 1`, where a build with overflow checks panics. -/
def increment (checks : Bool) (n : UInt16) : Option UInt16 :=
  if checks = true ∧ n.toNat + 1 = 2 ^ 16 then none else some (n + 1)

def copyFromSlice (buf : List UInt8) (start stop : Nat) (src : List UInt8) :
    Option (List UInt8) :=
  if src.length = stop - start then
    some (buf.take start ++ src ++ buf.drop stop)
  else
    none

def number (checks : Bool) (s : WriterLoop) (packet : UsbDevicePacket) :
    Option (WriterLoop × UsbDevicePacket) :=
  match packet.header with
  | .v1 _ => some ({ s with packets := s.packets ++ [packet] }, packet)
  | .v2 h =>
      let numbered := { packet with
        header := .v2 { h with sendSeq := s.sendSeq, recvSeq := s.recvSeq } }
      (increment checks s.sendSeq).map fun next =>
        ({ s with sendSeq := next, packets := s.packets ++ [numbered] },
          numbered)

def headerBytes (C : TcpHeaderCodec) (hbuf : List UInt8)
    (packet : UsbDevicePacket) : Option (List UInt8 × List UInt8) :=
  match packet.header with
  | .v1 h => some (hbuf, h.encode)
  | .v2 h =>
      (copyFromSlice hbuf 0 UsbDevicePacketHeaderV2.size h.encode).bind fun hbuf =>
        match packet.tcpHdr with
        | some tcpHdr =>
            (copyFromSlice hbuf UsbDevicePacketHeaderV2.size hbuf.length
              (C.toBytes tcpHdr)).map fun hbuf => (hbuf, hbuf)
        | none => some (hbuf, hbuf.take UsbDevicePacketHeaderV2.size)

/-- The writes of a packet; after a failed header the loop goes on at once. -/
def writeOut (C : TcpHeaderCodec) (s : WriterLoop) (packet : UsbDevicePacket)
    (header payload : WriteAll) : Option WriterLoop :=
  (headerBytes C s.hbuf packet).map fun (hbuf, written) =>
    if header.isOk then
      { s with
        hbuf := hbuf
        current := []
        transfers := s.transfers ++
          [s.current ++ written ++ payload.taken packet.payload.encode] }
    else
      { s with hbuf := hbuf, current := s.current ++ header.taken written }

def writePacket (checks : Bool) (C : TcpHeaderCodec) (s : WriterLoop)
    (packet : UsbDevicePacket) (header payload : WriteAll) :
    Option WriterLoop :=
  (s.number checks packet).bind fun (s, packet) =>
    s.writeOut C packet header payload

inductive Action where
  | receive
  | write (build : UsbDevicePacket.Build) (header payload : WriteAll)

def step (checks : Bool) (C : TcpHeaderCodec) (F : Plist.Format) :
    Machine WriterLoop Action := fun s a =>
  match a with
  | .receive => some { s with recvSeq := s.recvSeq + 1 }
  | .write build header payload =>
      s.writePacket checks C (build.packet F) header payload

def start : WriterLoop := {}

/-!
## The packets with their numbers
-/

def renumberHeader (k r : Nat) : UsbDevicePacketHeader -> UsbDevicePacketHeader
  | .v1 h => .v1 h
  | .v2 h => .v2 { h with sendSeq := .ofNat k, recvSeq := .ofNat r }

def renumber (k r : Nat) (packet : UsbDevicePacket) : UsbDevicePacket :=
  { packet with header := renumberHeader k r packet.header }

def isV2 : UsbDevicePacketHeader -> Bool
  | .v1 _ => false
  | .v2 _ => true

def sendSeq? : UsbDevicePacketHeader -> Option UInt16
  | .v1 _ => none
  | .v2 h => some h.sendSeq

def Action.isV2 (F : Plist.Format) : Action -> Bool
  | .receive => false
  | .write build _ _ => WriterLoop.isV2 (build.packet F).header

def renumbered (F : Plist.Format) :
    Nat -> Nat -> List Action -> List UsbDevicePacket
  | _, _, [] => []
  | n, r, .receive :: rest => renumbered F n (r + 1) rest
  | n, r, .write build header payload :: rest =>
      renumber (n + 1) r (build.packet F) ::
        renumbered F
          (n + ((Action.write build header payload).isV2 F).toNat) r rest

structure Plain (packet : UsbDevicePacket) : Prop where
  options : forall tcpHdr, packet.tcpHdr = some tcpHdr -> tcpHdr.options = []
  v1 : isV2 packet.header = false -> packet.tcpHdr = none

theorem Plain.of_none {packet : UsbDevicePacket}
    (hnone : packet.tcpHdr = none) : Plain packet where
  options := by
    intro tcpHdr htcp
    cases hnone.symm.trans htcp
  v1 := fun _ => hnone

theorem Plain.of_tcp {packet : UsbDevicePacket} {tcpHdr : TcpHeader}
    (hheader : isV2 packet.header = true) (htcp : packet.tcpHdr = some tcpHdr)
    (hoptions : tcpHdr.options = []) : Plain packet where
  options := by
    intro other hother
    cases htcp.symm.trans hother
    exact hoptions
  v1 := by
    rw [hheader]
    nofun

theorem plain_packet (F : Plist.Format) (build : UsbDevicePacket.Build) :
    Plain (build.packet F) := by
  cases build with
  | flag parts => exact Plain.of_tcp rfl rfl rfl
  | bytes parts value => exact Plain.of_tcp rfl rfl rfl
  | plist parts value => exact Plain.of_tcp rfl rfl rfl
  | version major minor => exact Plain.of_none rfl
  | setup value => exact Plain.of_none rfl
  | sequencedSetup sendSeq recvSeq value => exact Plain.of_none rfl

theorem Plain.renumber {packet : UsbDevicePacket} (h : Plain packet)
    (k r : Nat) : Plain (renumber k r packet) where
  options := h.options
  v1 := by
    intro hv1
    apply h.v1
    cases hheader : packet.header with
    | v1 header => rfl
    | v2 header =>
        unfold WriterLoop.renumber renumberHeader at hv1
        rw [hheader] at hv1
        cases hv1

/-!
## The header buffer
-/

theorem copyFromSlice_front {buf src : List UInt8} (size : Nat)
    (hlength : src.length = size) :
    copyFromSlice buf 0 size src = some (src ++ buf.drop size) := by
  unfold copyFromSlice
  rw [Nat.sub_zero, if_pos hlength]
  rfl

theorem copyFromSlice_back {front back src : List UInt8} {size : Nat}
    (hsize : front.length = size) (hlength : src.length = back.length) :
    copyFromSlice (front ++ back) size (front ++ back).length src =
      some (front ++ src) := by
  subst hsize
  unfold copyFromSlice
  rw [List.length_append, Nat.add_sub_cancel_left, if_pos hlength,
    List.take_left, List.drop_eq_nil_of_le (by rw [List.length_append]),
    List.append_nil]

theorem headerBytes_of_plain (C : TcpHeaderCodec) {hbuf : List UInt8}
    {packet : UsbDevicePacket} (hplain : Plain packet)
    (hlength : hbuf.length = UsbDevicePacketHeaderV2.size + TcpHeader.minLen) :
    exists hbuf', headerBytes C hbuf packet =
        some (hbuf', packet.header.encode ++ packet.tcpHdr.elim [] C.toBytes) ∧
      hbuf'.length = UsbDevicePacketHeaderV2.size + TcpHeader.minLen := by
  unfold headerBytes
  cases hheader : packet.header with
  | v1 h =>
      have hnone := hplain.v1 (by rw [hheader]; rfl)
      refine ⟨hbuf, ?_, hlength⟩
      rw [hnone]
      show some (hbuf, h.encode) = some (hbuf, h.encode ++ [])
      rw [List.append_nil]
  | v2 h =>
      have hencode : h.encode.length = UsbDevicePacketHeaderV2.size :=
        UsbDevicePacketHeader.encode_length (.v2 h)
      have hback : (hbuf.drop UsbDevicePacketHeaderV2.size).length =
          TcpHeader.minLen := by
        rw [List.length_drop, hlength, Nat.add_sub_cancel_left]
      simp only [copyFromSlice_front _ hencode, Option.bind_some]
      cases htcp : packet.tcpHdr with
      | none =>
          refine ⟨h.encode ++ hbuf.drop UsbDevicePacketHeaderV2.size, ?_, ?_⟩
          · show some (_, List.take _ _) = some (_, h.encode ++ [])
            rw [List.append_nil, List.take_left' hencode]
          · rw [List.length_append, hencode, hback]
      | some tcpHdr =>
          have hsize := C.toBytes_length (hplain.options tcpHdr htcp)
          refine ⟨h.encode ++ C.toBytes tcpHdr, ?_, ?_⟩
          · show Option.map _ (copyFromSlice _ UsbDevicePacketHeaderV2.size _ _) = _
            rw [copyFromSlice_back hencode (hsize.trans hback.symm)]
            rfl
          · rw [List.length_append, hencode, hsize]

/-!
## One step
-/

structure Tracks (s : WriterLoop) (n r : Nat) : Prop where
  hbuf : s.hbuf.length = UsbDevicePacketHeaderV2.size + TcpHeader.minLen
  sendSeq : s.sendSeq = .ofNat (n + 1)
  recvSeq : s.recvSeq = .ofNat r

theorem tracks_start : Tracks start 0 0 :=
  ⟨rfl, rfl, rfl⟩

theorem Tracks.toNat_sendSeq {s : WriterLoop} {n r : Nat} (h : Tracks s n r)
    (hfew : n + 1 < 2 ^ 16) : s.sendSeq.toNat = n + 1 := by
  rw [h.sendSeq]
  exact UInt16.toNat_ofNat_of_lt' hfew

theorem increment_eq_none {checks : Bool} {n : UInt16} :
    increment checks n = none <-> checks = true ∧ n.toNat + 1 = 2 ^ 16 := by
  unfold increment
  split
  · rename_i h
    exact ⟨fun _ => h, fun _ => rfl⟩
  · rename_i h
    exact ⟨nofun, fun hpanics => absurd hpanics h⟩

theorem increment_eq_some {checks : Bool} {n next : UInt16}
    (h : increment checks n = some next) : next = n + 1 := by
  rcases Machine.of_disabled_if h with ⟨_, hnext⟩
  exact (Option.some.inj hnext).symm

theorem ofNat_add_one (n : Nat) : UInt16.ofNat n + 1 = .ofNat (n + 1) :=
  (UInt16.ofNat_add n 1).symm

theorem number_eq_some {checks : Bool} {s t : WriterLoop} {n r : Nat}
    {packet numbered : UsbDevicePacket} (h : Tracks s n r)
    (hnumber : s.number checks packet = some (t, numbered)) :
    Tracks t (n + (isV2 packet.header).toNat) r ∧
      numbered = renumber (n + 1) r packet ∧
      t.packets = s.packets ++ [renumber (n + 1) r packet] ∧
      t.current = s.current ∧ t.transfers = s.transfers := by
  unfold number at hnumber
  unfold renumber
  cases hheader : packet.header with
  | v1 header =>
      simp only [hheader] at hnumber
      cases hnumber
      have hsame : { packet with
          header := renumberHeader (n + 1) r (.v1 header) } = packet := by
        cases packet
        cases hheader
        rfl
      rw [hsame]
      exact ⟨⟨h.hbuf, h.sendSeq, h.recvSeq⟩, rfl, rfl, rfl, rfl⟩
  | v2 header =>
      simp only [hheader] at hnumber
      rcases Option.map_eq_some_iff.mp hnumber with ⟨next, hnext, hpair⟩
      cases hpair
      rw [h.sendSeq, h.recvSeq]
      refine ⟨⟨h.hbuf, ?_, rfl⟩, rfl, rfl, rfl, rfl⟩
      rw [increment_eq_some hnext, h.sendSeq, ofNat_add_one]
      rfl

theorem number_eq_none {checks : Bool} {s : WriterLoop}
    {packet : UsbDevicePacket} :
    s.number checks packet = none <->
      isV2 packet.header = true ∧ checks = true ∧
        s.sendSeq.toNat + 1 = 2 ^ 16 := by
  unfold number
  cases hheader : packet.header with
  | v1 header =>
      constructor
      · nofun
      · intro h
        cases h.left
  | v2 header =>
      simp only [Option.map_eq_none_iff, increment_eq_none]
      constructor
      · intro h
        exact ⟨rfl, h⟩
      · intro h
        exact h.right

theorem writeOut_eq_some (C : TcpHeaderCodec) {s : WriterLoop} {n r : Nat}
    {packet : UsbDevicePacket} (h : Tracks s n r) (hplain : Plain packet)
    (header payload : WriteAll) :
    exists t, s.writeOut C packet header payload = some t ∧ Tracks t n r ∧
      t.packets = s.packets ∧
      (header.isOk = true -> payload.isOk = true -> t.current = [] ∧
        t.transfers = s.transfers ++ [s.current ++ packet.encode C]) := by
  rcases headerBytes_of_plain C hplain h.hbuf with ⟨hbuf, hwritten, hlength⟩
  unfold writeOut
  rw [hwritten]
  cases header with
  | failed written => exact ⟨_, rfl, ⟨hlength, h.sendSeq, h.recvSeq⟩, rfl, nofun⟩
  | done =>
      refine ⟨_, rfl, ⟨hlength, h.sendSeq, h.recvSeq⟩, rfl, ?_⟩
      intro _ hpayload
      cases payload with
      | failed written => cases hpayload
      | done =>
          refine ⟨rfl, ?_⟩
          unfold UsbDevicePacket.encode
          simp only [List.append_assoc]
          rfl

def Action.received : Action -> Nat
  | .receive => 1
  | .write _ _ _ => 0

def Action.succeeds : Action -> Bool
  | .receive => true
  | .write _ header payload => header.isOk && payload.isOk

section Runs

variable (checks : Bool) (C : TcpHeaderCodec) (F : Plist.Format)

theorem writePacket_cases {s : WriterLoop} {n r : Nat} (h : Tracks s n r)
    {packet : UsbDevicePacket} (hplain : Plain packet)
    (header payload : WriteAll) :
    (s.writePacket checks C packet header payload = none ∧
        isV2 packet.header = true ∧ checks = true ∧
        s.sendSeq.toNat + 1 = 2 ^ 16) ∨
      exists t, s.writePacket checks C packet header payload = some t ∧
        Tracks t (n + (isV2 packet.header).toNat) r ∧
        t.packets = s.packets ++ [renumber (n + 1) r packet] ∧
        (header.isOk = true -> payload.isOk = true -> t.current = [] ∧
          t.transfers = s.transfers ++
            [s.current ++ (renumber (n + 1) r packet).encode C]) := by
  unfold writePacket
  cases hnumber : s.number checks packet with
  | none => exact Or.inl ⟨rfl, number_eq_none.mp hnumber⟩
  | some found =>
      right
      rcases found with ⟨t, numbered⟩
      rcases number_eq_some h hnumber with
        ⟨htracks, rfl, hpackets, hcurrent, htransfers⟩
      rcases writeOut_eq_some C htracks (hplain.renumber (n + 1) r) header
        payload with ⟨u, hout, hu, hsame, hwritten⟩
      refine ⟨u, hout, hu, hsame.trans hpackets, ?_⟩
      rw [← hcurrent, ← htransfers]
      exact hwritten

structure Does (n r : Nat) (s : WriterLoop) (a : Action) (t : WriterLoop) :
    Prop where
  tracks : Tracks t (n + (a.isV2 F).toNat) (r + a.received)
  packets : t.packets = s.packets ++ renumbered F n r [a]
  transfers : a.succeeds = true -> s.current = [] -> t.current = [] ∧
    t.transfers = s.transfers ++
      (renumbered F n r [a]).map (UsbDevicePacket.encode C)

theorem step_cases {s : WriterLoop} {n r : Nat} (h : Tracks s n r)
    (a : Action) :
    (step checks C F s a = none ∧ a.isV2 F = true ∧ checks = true ∧
        s.sendSeq.toNat + 1 = 2 ^ 16) ∨
      exists t, step checks C F s a = some t ∧ Does C F n r s a t := by
  cases a with
  | receive =>
      right
      refine ⟨_, rfl, ⟨h.hbuf, h.sendSeq, ?_⟩, ?_, ?_⟩
      · rw [h.recvSeq, ofNat_add_one]
        rfl
      · exact (List.append_nil _).symm
      · intro _ hcurrent
        exact ⟨hcurrent, (List.append_nil _).symm⟩
  | write build header payload =>
      rcases writePacket_cases checks C h (plain_packet F build) header payload
        with hstops | ⟨t, hwrite, htracks, hpackets, hwritten⟩
      · exact Or.inl hstops
      · right
        refine ⟨t, hwrite, htracks, hpackets, ?_⟩
        intro hsucceeds hcurrent
        rcases Bool.and_eq_true_iff.mp hsucceeds with ⟨hheader, hpayload⟩
        have hdone := hwritten hheader hpayload
        rw [hcurrent] at hdone
        exact hdone

theorem step_eq_some {s t : WriterLoop} {n r : Nat} {a : Action}
    (h : Tracks s n r) (hstep : step checks C F s a = some t) :
    Does C F n r s a t := by
  rcases step_cases checks C F h a with ⟨hnone, _⟩ | ⟨u, hsome, hdoes⟩
  · cases hnone.symm.trans hstep
  · cases hsome.symm.trans hstep
    exact hdoes

theorem renumbered_cons (n r : Nat) (a : Action) (rest : List Action) :
    renumbered F n r (a :: rest) = renumbered F n r [a] ++
      renumbered F (n + (a.isV2 F).toNat) (r + a.received) rest := by
  cases a with
  | receive => rfl
  | write build header payload => rfl

/-!
## Whole runs
-/

def written (actions : List Action) : Nat :=
  actions.countP (Action.isV2 F)

theorem written_cons (a : Action) (rest : List Action) :
    written F (a :: rest) = (a.isV2 F).toNat + written F rest := by
  unfold written
  rw [List.countP_cons, Nat.add_comm]
  cases a.isV2 F with
  | true => rfl
  | false => rfl

theorem run_packets {s u : WriterLoop} {n r : Nat} {actions : List Action}
    (h : Tracks s n r) (hrun : Machine.run (step checks C F) s actions = some u) :
    u.packets = s.packets ++ renumbered F n r actions := by
  induction actions generalizing s n r with
  | nil =>
      cases hrun
      exact (List.append_nil _).symm
  | cons a rest ih =>
      rcases Machine.run_cons_some hrun with ⟨t, hstep, hrest⟩
      have hdoes := step_eq_some checks C F h hstep
      rw [ih hdoes.tracks hrest, hdoes.packets,
        renumbered_cons F n r a rest, List.append_assoc]

theorem run_transfers {s u : WriterLoop} {n r : Nat} {actions : List Action}
    (h : Tracks s n r) (hcurrent : s.current = [])
    (hsucceeds : forall a, a ∈ actions -> a.succeeds = true)
    (hrun : Machine.run (step checks C F) s actions = some u) :
    u.current = [] ∧ u.transfers = s.transfers ++
      (renumbered F n r actions).map (UsbDevicePacket.encode C) := by
  induction actions generalizing s n r with
  | nil =>
      cases hrun
      exact ⟨hcurrent, (List.append_nil _).symm⟩
  | cons a rest ih =>
      rcases Machine.run_cons_some hrun with ⟨t, hstep, hrest⟩
      have hdoes := step_eq_some checks C F h hstep
      rcases hdoes.transfers (hsucceeds a List.mem_cons_self) hcurrent with
        ⟨hclosed, htransfers⟩
      rcases ih hdoes.tracks hclosed
        (fun b hb => hsucceeds b (List.mem_cons_of_mem a hb)) hrest with
        ⟨hlast, hall⟩
      refine ⟨hlast, ?_⟩
      rw [hall, htransfers, renumbered_cons F n r a rest, List.map_append,
        List.append_assoc]

/-- The next number is not the last one. -/
def Fits (s : WriterLoop) (a : Action) : Prop :=
  a.isV2 F = true -> s.sendSeq.toNat + 1 < 2 ^ 16

theorem fits_of_checked {s t : WriterLoop} {a : Action}
    (hstep : step true C F s a = some t) : Fits F s a := by
  cases a with
  | receive => nofun
  | write build header payload =>
      intro hv2
      by_contra hlast
      have hmax := s.sendSeq.toNat_lt
      have hnone := number_eq_none.mpr ⟨hv2, rfl, Nat.le_antisymm hmax
        (Nat.le_of_not_lt hlast)⟩
      have hstops : s.writePacket true C (build.packet F) header payload =
          none := by
        unfold writePacket
        rw [hnone]
        rfl
      cases hstops.symm.trans hstep

theorem run_unchecked {s : WriterLoop} {n r : Nat} (h : Tracks s n r)
    (actions : List Action) :
    exists u, Machine.run (step false C F) s actions = some u := by
  induction actions generalizing s n r with
  | nil => exact ⟨s, rfl⟩
  | cons a rest ih =>
      rcases step_cases false C F h a with ⟨_, _, hchecks, _⟩ | ⟨t, hstep, hdoes⟩
      · cases hchecks
      · rw [Machine.run_cons_of_step hstep]
        exact ih hdoes.tracks

theorem run_guarded_iff {s : WriterLoop} {n r : Nat} (h : Tracks s n r)
    (hfew : n + 1 < 2 ^ 16) (actions : List Action) :
    ((exists u, Machine.run (step checks C F) s actions = some u) ∧
        Machine.Guarded (step checks C F) (Fits F) s actions) <->
      n + written F actions + 1 < 2 ^ 16 := by
  induction actions generalizing s n r with
  | nil =>
      constructor
      · intro _
        exact hfew
      · intro _
        exact ⟨⟨s, rfl⟩, Machine.guarded_nil _ _ s⟩
  | cons a rest ih =>
      have hnext := h.toNat_sendSeq hfew
      rw [written_cons, ← Nat.add_assoc]
      rcases step_cases checks C F h a with
        ⟨hnone, hv2, _, hlast⟩ | ⟨t, hstep, hdoes⟩
      · constructor
        · rintro ⟨⟨u, hrun⟩, _⟩
          rcases Machine.run_cons_some hrun with ⟨t, hsome, _⟩
          cases hnone.symm.trans hsome
        · intro hshort
          rw [hv2] at hshort
          change n + 1 + _ + 1 < 2 ^ 16 at hshort
          omega
      · rw [Machine.run_cons_of_step hstep, Machine.guarded_cons]
        by_cases hfits : Fits F s a
        · have hlater : n + (a.isV2 F).toNat + 1 < 2 ^ 16 := by
            cases hv2 : a.isV2 F with
            | false => exact hfew
            | true =>
                have hroom := hfits hv2
                rw [hnext] at hroom
                exact hroom
          rw [← ih hdoes.tracks hlater]
          constructor
          · rintro ⟨hrun, hguard⟩
            exact ⟨hrun, (hguard t hstep).right⟩
          · rintro ⟨hrun, hguard⟩
            refine ⟨hrun, ?_⟩
            intro t' ht'
            cases hstep.symm.trans ht'
            exact ⟨hfits, hguard⟩
        · have hlast : a.isV2 F = true ∧ 2 ^ 16 <= n + 1 + 1 := by
            rw [← hnext]
            unfold Fits at hfits
            push Not at hfits
            exact hfits
          constructor
          · rintro ⟨_, hguard⟩
            exact absurd (hguard t hstep).left hfits
          · intro hshort
            rw [hlast.left] at hshort
            change n + 1 + _ + 1 < 2 ^ 16 at hshort
            have hpast := hlast.right
            omega

theorem run_checked_iff {s : WriterLoop} {n r : Nat} (h : Tracks s n r)
    (hfew : n + 1 < 2 ^ 16) (actions : List Action) :
    (exists u, Machine.run (step true C F) s actions = some u) <->
      n + written F actions + 1 < 2 ^ 16 := by
  rw [← run_guarded_iff true C F h hfew actions]
  constructor
  · intro hrun
    refine ⟨hrun, ?_⟩
    intro pre b t u _ _ hstep
    exact fits_of_checked C F hstep
  · intro h
    exact h.left

def numbers (packets : List UsbDevicePacket) : List UInt16 :=
  packets.filterMap fun packet => sendSeq? packet.header

theorem numbers_cons_v1 (k r : Nat) {packet : UsbDevicePacket}
    (hv1 : isV2 packet.header = false) (rest : List UsbDevicePacket) :
    numbers (renumber k r packet :: rest) = numbers rest := by
  unfold numbers renumber
  cases hheader : packet.header with
  | v1 h => rfl
  | v2 h =>
      rw [hheader] at hv1
      cases hv1

theorem numbers_cons_v2 (k r : Nat) {packet : UsbDevicePacket}
    (hv2 : isV2 packet.header = true) (rest : List UsbDevicePacket) :
    numbers (renumber k r packet :: rest) = .ofNat k :: numbers rest := by
  unfold numbers renumber
  cases hheader : packet.header with
  | v1 h =>
      rw [hheader] at hv2
      cases hv2
  | v2 h => rfl

theorem numbers_renumbered (n r : Nat) (actions : List Action) :
    numbers (renumbered F n r actions) =
      (List.range' (n + 1) (written F actions)).map UInt16.ofNat := by
  induction actions generalizing n r with
  | nil => rfl
  | cons a rest ih =>
      rw [written_cons]
      cases a with
      | receive =>
          rw [renumbered, ih, Action.isV2, Bool.toNat_false, Nat.zero_add]
      | write build header payload =>
          rw [renumbered]
          cases hv2 : (Action.write build header payload).isV2 F with
          | false =>
              rw [numbers_cons_v1 (n + 1) r hv2, ih, Bool.toNat_false,
                Nat.zero_add, Nat.add_zero]
          | true =>
              rw [numbers_cons_v2 (n + 1) r hv2, ih, Bool.toNat_true,
                Nat.add_comm 1, List.range'_succ, List.map_cons]

end Runs

/-!
## The numbers and the wire format
-/

/--
Every packet with a V2 header carries its number, modulo `2 ^ 16`, and counting
it has not overflowed.
-/
structure NumbersRight (checks : Bool) (C : TcpHeaderCodec) (F : Plist.Format)
    (actions : List Action) : Prop where
  fits : Machine.Guarded (step checks C F) (Fits F) start actions
  carries : exists u, Machine.run (step checks C F) start actions = some u ∧
    numbers u.packets = (List.range' 1 (written F actions)).map UInt16.ofNat

/--
The counter of the loop holds out, whatever comes of the writes, exactly if fewer
than 65535 packets with a V2 header are written.
-/
theorem numbersRight_iff (checks : Bool) (C : TcpHeaderCodec)
    (F : Plist.Format) (actions : List Action) :
    NumbersRight checks C F actions <-> written F actions < 65535 := by
  have hguarded := run_guarded_iff checks C F tracks_start (by decide) actions
  rw [Nat.zero_add, Nat.add_lt_iff_lt_sub_right] at hguarded
  rw [show 65535 = 2 ^ 16 - 1 by decide, ← hguarded]
  constructor
  · rintro ⟨hfits, u, hrun, _⟩
    exact ⟨⟨u, hrun⟩, hfits⟩
  · rintro ⟨⟨u, hrun⟩, hfits⟩
    refine ⟨hfits, u, hrun, ?_⟩
    rw [run_packets checks C F tracks_start hrun]
    exact numbers_renumbered F 0 0 actions

def setups (n : Nat) : List Action :=
  List.replicate n (.write (.setup [7]) .done .done)

theorem written_setups (F : Plist.Format) (n : Nat) :
    written F (setups n) = n := by
  unfold written setups
  rw [List.countP_replicate]
  exact if_pos rfl

theorem not_run_setups (C : TcpHeaderCodec) (F : Plist.Format) :
    ¬ exists u, Machine.run (step true C F) start (setups 65535) = some u := by
  rw [run_checked_iff C F tracks_start (by decide), written_setups]
  decide

theorem not_numbersRight_setups :
    ¬ forall (checks : Bool) (C : TcpHeaderCodec) (F : Plist.Format)
      (actions : List Action), NumbersRight checks C F actions := by
  intro h
  rcases (h true .standard UsbDevicePacket.withoutPlists
    (setups 65535)).carries with ⟨u, hrun, _⟩
  exact not_run_setups _ _ ⟨u, hrun⟩

/-- Packet by packet, the wire has what the one-shot encoder makes of it. -/
def WireFormat (checks : Bool) (C : TcpHeaderCodec) (F : Plist.Format)
    (actions : List Action) : Prop :=
  exists u, Machine.run (step checks C F) start actions = some u ∧
    u.current = [] ∧
    u.transfers = (renumbered F 0 0 actions).map (UsbDevicePacket.encode C)

/--
If all writes succeed, the loop writes the packets as the encoder does, with their
numbers and each in a transfer of its own, exactly if the numbers last or the
build has no checks.
-/
theorem wireFormat_iff (checks : Bool) (C : TcpHeaderCodec) (F : Plist.Format)
    (actions : List Action)
    (hsucceeds : forall a, a ∈ actions -> a.succeeds = true) :
    WireFormat checks C F actions <->
      checks = false ∨ written F actions < 65535 := by
  have hruns : WireFormat checks C F actions <->
      exists u, Machine.run (step checks C F) start actions = some u := by
    constructor
    · rintro ⟨u, hrun, _⟩
      exact ⟨u, hrun⟩
    · rintro ⟨u, hrun⟩
      exact ⟨u, hrun,
        run_transfers checks C F tracks_start rfl hsucceeds hrun⟩
  rw [hruns]
  cases checks with
  | false =>
      constructor
      · intro _
        exact Or.inl rfl
      · intro _
        exact run_unchecked C F tracks_start actions
  | true =>
      rw [run_checked_iff C F tracks_start (by decide), Nat.zero_add]
      simp only [Bool.true_eq_false, false_or]
      omega

/-- The first packets to a device, after one was received from it. -/
theorem wireFormat_iff_firstPackets :
    WireFormat true .standard UsbDevicePacket.withoutPlists
        (.receive :: UsbDevicePacket.firstPackets.map (.write · .done .done)) <->
      true = false ∨
        written UsbDevicePacket.withoutPlists (.receive ::
          UsbDevicePacket.firstPackets.map (.write · .done .done)) < 65535 :=
  wireFormat_iff true .standard UsbDevicePacket.withoutPlists _ (by decide)

theorem not_wireFormat_setups :
    ¬ forall (checks : Bool) (C : TcpHeaderCodec) (F : Plist.Format)
      (actions : List Action),
      (forall a, a ∈ actions -> a.succeeds = true) ->
        WireFormat checks C F actions := by
  intro h
  rcases h true .standard UsbDevicePacket.withoutPlists (setups 65535)
    (fun a ha => by rw [List.eq_of_mem_replicate ha]; rfl) with ⟨u, hrun, _⟩
  exact not_run_setups _ _ ⟨u, hrun⟩

end WriterLoop

end Device
end Rusbmux
