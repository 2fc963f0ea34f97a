import Rusbmux.Device.WriterLoop
import Rusbmux.Error
import Rusbmux.Foundation.ReadUntil
import Rusbmux.Foundation.Transcript
import Rusbmux.Parser.DeviceMuxFraming

/-!
# Opening a USB device

`UsbDevice::new_with_disconnect_tx` up to the point where it starts the reader
and the writer loop.  A device that was in use before may still send packets of
its old connections, so everything is dropped until it answers with its version.
What the loops read and write afterwards continues the two streams of the
endpoints.
-/

namespace Rusbmux
namespace Device

open Foundation
open Rusbmux.Parser

inductive EndpointWrite where
  | done
  | failed (written : Nat) (err : IoError)
deriving DecidableEq, Repr

/-- The device that is opened, with what its operations come to. -/
structure OpenHost where
  udid : Option String
  opened : Except RusbmuxError Unit := .ok ()
  endpoint : Except RusbmuxError Unit := .ok ()
  versionWrite : EndpointWrite := .done
  versionFlush : Except IoError Unit := .ok ()
  source : List Chunk
  ending : Option IoError := none
  setupWrite : EndpointWrite := .done
  setupFlush : Except IoError Unit := .ok ()

inductive OpenError where
  | failed (err : RusbmuxError)
  | panicked
deriving DecidableEq, Repr

/-- What the loops are started with. -/
structure OpenedDevice where
  id : UInt64
  udid : String
  version : UsbDevicePacketVersion
  source : List Chunk

abbrev Opening (alpha : Type) : Type :=
  Transcript (List UInt8) OpenError alpha

namespace Opening

def writeAll (data : List UInt8) : EndpointWrite -> Opening Unit
  | .done => .send data
  | .failed written err =>
      { written := [data.take written], result := .error (.failed (.io err)) }

def flush (result : Except IoError Unit) : Opening Unit :=
  .lift (result.mapError fun err => .failed (.io err))

end Opening

def versionPacket : UsbDevicePacket :=
  (UsbDevicePacket.builder.headerVersion.payloadVersion 2 0).buildVersion

def setupPacket : UsbDevicePacket :=
  (UsbDevicePacket.builder.headerSetup.payloadBytes [0x07]).buildSetup

def versionOf (packet : UsbDevicePacket) : Option UsbDevicePacketVersion :=
  match packet.payload with
  | .version v => some v
  | _ => none

def noVersion : RusbmuxError :=
  .unexpectedPacket "Expected to receive a version packet within 3s"

def readVersion (E : TcpHeaderReader) (host : OpenHost) :
    Option (ChunkedOutcome ParseError UsbDevicePacketVersion) :=
  ChunkedReader.readUntil
    (UsbDevicePacket.fromChunks E
      (host.ending.getD { kind := .unexpectedEof }))
    versionOf ((Chunk.bytes host.source).length + 1) host.source

def awaitVersion (E : TcpHeaderReader) (host : OpenHost) :
    Except OpenError (UsbDevicePacketVersion × List Chunk) :=
  match readVersion E host with
  | some (.ok v rest) => .ok (v, rest)
  | some (.error err _) =>
      -- a read at the end of what has arrived waits until the time is over
      if err.isIo ∧ host.ending = none then .error (.failed noVersion)
      else .error (.failed (.parse err))
  | some .panicked => .error .panicked
  | none => .error (.failed noVersion)

def openDevice (C : TcpHeaderCodec) (host : OpenHost) (id : UInt64) :
    Opening OpenedDevice := do
  let udid <- .lift (match host.udid with
    | some udid => .ok udid
    | none => .error
        (.failed (.invalidData "USB device has no serial number")))
  .lift (host.opened.mapError .failed)
  .lift (host.endpoint.mapError .failed)
  Opening.writeAll (versionPacket.encode C) host.versionWrite
  Opening.flush host.versionFlush
  let (version, source) <- .lift (awaitVersion C.toTcpHeaderReader host)
  Opening.writeAll (setupPacket.encode C) host.setupWrite
  Opening.flush host.setupFlush
  return { id := id, udid := udid, version := version, source := source }

/-!
## Streams of packets
-/

theorem readMany_wellFramed (C : TcpHeaderCodec) (ending : IoError)
    {packets : List UsbDevicePacket}
    (hframed : forall p, p ∈ packets ->
      exists protocol, UsbDevicePacket.WellFramed protocol p)
    {source : List Chunk}
    (hsource : Chunk.bytes source =
      packets.flatMap (UsbDevicePacket.encode C))
    {n : Nat} (hn : packets.length < n) :
    (UsbDevicePacket.fromChunks C.toTcpHeaderReader ending).readMany n source =
      (packets, some (.error (.io ending) [])) := by
  have hread : forall packet, packet ∈ packets -> forall later,
      (UsbDevicePacket.fromReader C.toTcpHeaderReader ending).run
        (packet.encode C ++ later) = .ok packet later := by
    intro packet hmem later
    rcases hframed packet hmem with ⟨protocol, hpacket⟩
    exact hpacket.fromReader_encode C ending later
  exact ChunkedReader.readMany_flatMap
    (UsbDevicePacket.fromChunks_simulates C.toTcpHeaderReader ending) rfl hread
    hsource hn

/-!
## Waiting for the version
-/

theorem fromChunks_takes {E : TcpHeaderReader} {ending : IoError}
    {source rest : List Chunk} {packet : UsbDevicePacket}
    (h : (UsbDevicePacket.fromChunks E ending).run source = .ok packet rest) :
    (Chunk.bytes rest).length < (Chunk.bytes source).length := by
  have hjoined := UsbDevicePacket.fromChunks_simulates E ending source
  rw [h] at hjoined
  have hagrees := UsbDevicePacket.fromReader_verdict E ending
    (Chunk.bytes source)
  rw [← hjoined] at hagrees
  rcases frameVerdict_cases E (Chunk.bytes source) with
    hends | ⟨n, hrejected⟩ | ⟨p, _, hheaders, hlength, _, hverdict⟩
  · rw [hends] at hagrees
    cases hagrees
  · rw [hrejected] at hagrees
    rcases hagrees with ⟨e, -, herror⟩
    cases herror
  · have hmin : 0 < headersLen p := by
      cases p <;> decide
    rw [hverdict] at hagrees
    split at hagrees
    · cases hagrees
    · rcases hagrees with ⟨packet', hok, -⟩
      injection hok with _ hrest
      rw [hrest, List.length_drop]
      omega

theorem readVersion_ends (E : TcpHeaderReader) (host : OpenHost) :
    exists outcome, readVersion E host = some outcome :=
  ChunkedReader.readUntil_ends (fun _ _ _ h => fromChunks_takes h)
    (Nat.lt_succ_self _)

/-- Packets that the device may send, and that are no versions. -/
structure Stale (packet : UsbDevicePacket) : Prop where
  framed : exists protocol, UsbDevicePacket.WellFramed protocol packet
  noVersion : versionOf packet = none

theorem encode_length_pos (C : TcpHeaderCodec) (packet : UsbDevicePacket) :
    0 < (packet.encode C).length := by
  have hsize : 0 < packet.header.size := by
    cases packet.header with
    | v1 h => exact Nat.zero_lt_succ 7
    | v2 h => exact Nat.zero_lt_succ 15
  unfold UsbDevicePacket.encode
  rw [List.length_append, List.length_append,
    UsbDevicePacketHeader.encode_length]
  omega

theorem length_le_flatMap_encode (C : TcpHeaderCodec)
    (packets : List UsbDevicePacket) :
    packets.length <= (packets.flatMap (UsbDevicePacket.encode C)).length := by
  induction packets with
  | nil => exact Nat.le_refl 0
  | cons packet rest ih =>
      have hpos := encode_length_pos C packet
      rw [List.flatMap_cons, List.length_append, List.length_cons]
      omega

theorem awaitVersion_of_stale (C : TcpHeaderCodec) {host : OpenHost}
    {stale : List UsbDevicePacket} (hstale : forall p, p ∈ stale -> Stale p)
    {reply : UsbDevicePacket} {version : UsbDevicePacketVersion}
    (hreply : exists protocol, UsbDevicePacket.WellFramed protocol reply)
    (hversion : versionOf reply = some version) {later : List UInt8}
    (hsource : Chunk.bytes host.source =
      stale.flatMap (UsbDevicePacket.encode C) ++ (reply.encode C ++ later)) :
    exists rest, awaitVersion C.toTcpHeaderReader host = .ok (version, rest) ∧
      Chunk.bytes rest = later := by
  have hread : forall packet, packet ∈ stale ++ [reply] -> forall later,
      (UsbDevicePacket.fromReader C.toTcpHeaderReader
          (host.ending.getD { kind := .unexpectedEof })).run
        (packet.encode C ++ later) = .ok packet later := by
    intro packet hmem later
    have hframed : exists protocol,
        UsbDevicePacket.WellFramed protocol packet := by
      rcases List.mem_append.mp hmem with hmem | hmem
      · exact (hstale packet hmem).framed
      · rw [List.mem_singleton.mp hmem]
        exact hreply
    rcases hframed with ⟨protocol, hframed⟩
    exact hframed.fromReader_encode C _ later
  have hrounds : stale.length < (Chunk.bytes host.source).length + 1 := by
    have hlength := length_le_flatMap_encode C stale
    rw [hsource, List.length_append]
    omega
  rcases ChunkedReader.readUntil_flatMap
    (UsbDevicePacket.fromChunks_simulates C.toTcpHeaderReader
      (host.ending.getD { kind := .unexpectedEof }))
    hread (fun packet hmem => (hstale packet hmem).noVersion) hversion hsource
    hrounds with ⟨rest, hfound, hrest⟩
  refine ⟨rest, ?_, hrest⟩
  unfold awaitVersion readVersion
  rw [hfound]

/-!
## Handing over to the loops
-/

/-- Every operation on the device and its endpoints succeeds. -/
structure OpenHost.Works (host : OpenHost) : Prop where
  opened : host.opened = .ok ()
  endpoint : host.endpoint = .ok ()
  versionWrite : host.versionWrite = .done
  versionFlush : host.versionFlush = .ok ()
  setupWrite : host.setupWrite = .done
  setupFlush : host.setupFlush = .ok ()

theorem openDevice_of_version (C : TcpHeaderCodec) {host : OpenHost}
    {udid : String} (hudid : host.udid = some udid) (hworks : host.Works)
    {version : UsbDevicePacketVersion} {rest : List Chunk}
    (hversion : awaitVersion C.toTcpHeaderReader host = .ok (version, rest))
    (id : UInt64) :
    openDevice C host id =
      { written := [versionPacket.encode C, setupPacket.encode C]
        result := .ok
          { id := id, udid := udid, version := version, source := rest } } := by
  unfold openDevice
  rw [hudid, hworks.opened, hworks.endpoint, hworks.versionWrite,
    hworks.versionFlush, hversion, hworks.setupWrite, hworks.setupFlush]
  rfl

/--
A device that still sends packets of old connections is opened with the version
it answers, after exactly the two packets that open it, and the reader loop
reads the packets behind the version, whatever chunks they come in and however
many of their bytes had already arrived.
-/
theorem openDevice_handsOver (C : TcpHeaderCodec) {host : OpenHost}
    {udid : String} (hudid : host.udid = some udid) (hworks : host.Works)
    {stale : List UsbDevicePacket} (hstale : forall p, p ∈ stale -> Stale p)
    {reply : UsbDevicePacket} {version : UsbDevicePacketVersion}
    (hreply : exists protocol, UsbDevicePacket.WellFramed protocol reply)
    (hversion : versionOf reply = some version) {later : List UInt8}
    (hsource : Chunk.bytes host.source =
      stale.flatMap (UsbDevicePacket.encode C) ++ (reply.encode C ++ later))
    (id : UInt64) :
    exists rest,
      openDevice C host id =
          { written := [versionPacket.encode C, setupPacket.encode C]
            result := .ok
              { id := id, udid := udid, version := version, source := rest } } ∧
        forall (packets : List UsbDevicePacket) (further : List Chunk),
          (forall p, p ∈ packets ->
            exists protocol, UsbDevicePacket.WellFramed protocol p) ->
          later ++ Chunk.bytes further =
            packets.flatMap (UsbDevicePacket.encode C) ->
          forall ending n, packets.length < n ->
            (UsbDevicePacket.fromChunks C.toTcpHeaderReader ending).readMany n
                (rest ++ further) =
              (packets, some (.error (.io ending) [])) := by
  rcases awaitVersion_of_stale C hstale hreply hversion hsource with
    ⟨rest, hawait, hrest⟩
  refine ⟨rest, openDevice_of_version C hudid hworks hawait id, ?_⟩
  intro packets further hframed hbytes ending n hn
  apply readMany_wellFramed C ending hframed _ hn
  rw [← hbytes, ← hrest]
  exact List.flatMap_append

/-!
## What the device reads
-/

theorem wellFramed_versionPacket :
    exists protocol, UsbDevicePacket.WellFramed protocol versionPacket :=
  (UsbDevicePacket.Build.version 2 0).wellFramed UsbDevicePacket.withoutPlists
    (by decide)

theorem wellFramed_setupPacket :
    exists protocol, UsbDevicePacket.WellFramed protocol setupPacket :=
  (UsbDevicePacket.Build.setup [0x07]).wellFramed UsbDevicePacket.withoutPlists
    (by decide)

theorem wellFramed_renumber {protocol : UsbDevicePacketProtocol}
    {packet : UsbDevicePacket}
    (h : UsbDevicePacket.WellFramed protocol packet) (k r : Nat) :
    UsbDevicePacket.WellFramed protocol (WriterLoop.renumber k r packet) := by
  rcases packet with ⟨header, tcpHdr, payload⟩
  rcases h with ⟨hheader, htcp, hlength, hpayload⟩
  cases hheader with
  | v1 length => exact ⟨.v1 length, htcp, hlength, hpayload⟩
  | v2 hne length sendSeq recvSeq =>
      exact ⟨.v2 hne length _ _, htcp, hlength, hpayload⟩

/-- The packet of an action is not longer than its length field can say. -/
def WriterLoop.Action.Framed (F : Plist.Format) :
    WriterLoop.Action -> Prop
  | .receive => True
  | .write build _ _ => (build.packet F).framedSize < 2 ^ 32

instance (F : Plist.Format) : DecidablePred (WriterLoop.Action.Framed F)
  | .receive => .isTrue trivial
  | .write build _ _ =>
      inferInstanceAs (Decidable ((build.packet F).framedSize < 2 ^ 32))

theorem wellFramed_renumbered {F : Plist.Format}
    {actions : List WriterLoop.Action}
    (hframed : forall a, a ∈ actions -> a.Framed F) (n r : Nat)
    {packet : UsbDevicePacket}
    (hmem : packet ∈ WriterLoop.renumbered F n r actions) :
    exists protocol, UsbDevicePacket.WellFramed protocol packet := by
  induction actions generalizing n r with
  | nil => cases hmem
  | cons a rest ih =>
      have hrest := fun b hb => hframed b (List.mem_cons_of_mem a hb)
      cases a with
      | receive => exact ih hrest n (r + 1) hmem
      | write build header payload =>
          rcases List.mem_cons.mp hmem with rfl | hmem
          · have hsize := hframed _ List.mem_cons_self
            rcases build.wellFramed F hsize with ⟨protocol, hbuild⟩
            exact ⟨protocol, wellFramed_renumber hbuild _ _⟩
          · exact ih hrest _ r hmem

theorem writeAll_eq_ok {data : List UInt8} {write : EndpointWrite}
    (h : (Opening.writeAll data write).result = .ok ()) :
    Opening.writeAll data write = .send data := by
  cases write with
  | done => rfl
  | failed written err => cases h

theorem written_of_opened {C : TcpHeaderCodec} {host : OpenHost} {id : UInt64}
    {opened : OpenedDevice}
    (h : (openDevice C host id).result = .ok opened) :
    (openDevice C host id).written =
      [versionPacket.encode C, setupPacket.encode C] := by
  unfold openDevice at h ⊢
  rcases Transcript.result_bind_eq_ok h with ⟨udid, hudid, h⟩
  rcases Transcript.result_bind_eq_ok h with ⟨_, hopen, h⟩
  rcases Transcript.result_bind_eq_ok h with ⟨_, hendpoint, h⟩
  rcases Transcript.result_bind_eq_ok h with ⟨_, hversion, h⟩
  rcases Transcript.result_bind_eq_ok h with ⟨_, hflush, h⟩
  rcases Transcript.result_bind_eq_ok h with ⟨found, hawait, h⟩
  rcases Transcript.result_bind_eq_ok h with ⟨_, hsetup, h⟩
  rcases Transcript.result_bind_eq_ok h with ⟨_, hlast, h⟩
  rw [writeAll_eq_ok hversion, writeAll_eq_ok hsetup]
  simp only [Transcript.written_bind, hudid, hopen, hendpoint, hflush, hawait,
    hlast]
  rfl

/--
From the bytes of a device's whole life, in whatever chunks they arrive, it
reads the version packet, the setup packet and then the packets of the writer
loop, and those with a V2 header are numbered from zero without a gap.
-/
theorem device_reads (C : TcpHeaderCodec) (F : Plist.Format)
    {host : OpenHost} {id : UInt64} {opened : OpenedDevice}
    (hopened : (openDevice C host id).result = .ok opened)
    {checks : Bool} {actions : List WriterLoop.Action} {u : WriterLoop}
    (hrun : Machine.run (WriterLoop.step checks C F) WriterLoop.start actions =
      some u)
    (hsucceeds : forall a, a ∈ actions -> a.succeeds = true)
    (hframed : forall a, a ∈ actions -> a.Framed F) {source : List Chunk}
    (hsource : Chunk.bytes source =
      (openDevice C host id).written.flatten ++ u.transfers.flatten)
    (ending : IoError) {n : Nat} (hn : u.packets.length + 2 < n) :
    (UsbDevicePacket.fromChunks C.toTcpHeaderReader ending).readMany n source =
        (versionPacket :: setupPacket :: u.packets,
          some (.error (.io ending) [])) ∧
      WriterLoop.numbers (versionPacket :: setupPacket :: u.packets) =
        (List.range (WriterLoop.written F actions + 1)).map UInt16.ofNat := by
  have hpackets : u.packets = WriterLoop.renumbered F 0 0 actions :=
    WriterLoop.run_packets checks C F WriterLoop.tracks_start hrun
  have htransfers : u.transfers =
      u.packets.map (UsbDevicePacket.encode C) := by
    rw [hpackets]
    exact (WriterLoop.run_transfers checks C F WriterLoop.tracks_start rfl
      hsucceeds hrun).right
  constructor
  · have hwell : forall packet,
        packet ∈ versionPacket :: setupPacket :: u.packets ->
          exists protocol, UsbDevicePacket.WellFramed protocol packet := by
      intro packet hmem
      rcases List.mem_cons.mp hmem with rfl | hmem
      · exact wellFramed_versionPacket
      rcases List.mem_cons.mp hmem with rfl | hmem
      · exact wellFramed_setupPacket
      · rw [hpackets] at hmem
        exact wellFramed_renumbered hframed 0 0 hmem
    apply readMany_wellFramed C ending hwell _ hn
    rw [hsource, written_of_opened hopened, htransfers, ← List.flatMap_def,
      List.flatMap_cons, List.flatMap_cons, List.flatten_cons,
      List.flatten_cons, List.flatten_nil, List.append_nil, List.append_assoc]
  · show 0 :: WriterLoop.numbers u.packets = _
    rw [hpackets, WriterLoop.numbers_renumbered, List.range_eq_range',
      List.range'_succ]
    rfl

/-!
## A device with a packet of an old connection
-/

def stalePacket : UsbDevicePacket :=
  (UsbDevicePacket.Build.bytes
    { sendSeq := 4, recvSeq := 9, sourcePort := 62078, destinationPort := 1
      sequenceNumber := 3, acknowledgmentNumber := 7, flags := .ack }
    [1, 2]).packet UsbDevicePacket.withoutPlists

def staleHost : OpenHost where
  udid := some "00008030"
  source :=
    [⟨stalePacket.encode .standard ++
        (versionPacket.encode .standard).take 3, nofun⟩,
      ⟨(versionPacket.encode .standard).drop 3 ++
        (stalePacket.encode .standard).take 20, nofun⟩]

theorem openDevice_handsOver_stale :
    exists rest,
      openDevice .standard staleHost 1 =
          { written :=
              [versionPacket.encode .standard, setupPacket.encode .standard]
            result := .ok
              { id := 1, udid := "00008030", version := .new 2 0 0
                source := rest } } ∧
        (UsbDevicePacket.fromChunks TcpHeaderCodec.standard.toTcpHeaderReader
            UsbDevicePacket.earlyEof).readMany 2
          (rest ++ [⟨(stalePacket.encode .standard).drop 20, nofun⟩]) =
          ([stalePacket],
            some (.error (.io UsbDevicePacket.earlyEof) [])) := by
  have hframed : exists protocol,
      UsbDevicePacket.WellFramed protocol stalePacket :=
    UsbDevicePacket.Build.wellFramed UsbDevicePacket.withoutPlists _
      (by decide)
  have hudid : staleHost.udid = some "00008030" := rfl
  have hstale : forall p, p ∈ [stalePacket] -> Stale p :=
    List.forall_mem_singleton.mpr ⟨hframed, rfl⟩
  rcases openDevice_handsOver .standard hudid ⟨rfl, rfl, rfl, rfl, rfl, rfl⟩
    hstale wellFramed_versionPacket rfl rfl 1 with ⟨rest, hopened, hreads⟩
  exact ⟨rest, hopened, hreads [stalePacket] _
    (List.forall_mem_singleton.mpr hframed) rfl _ 2 (by decide)⟩

def twoWrites : List WriterLoop.Action :=
  [.receive, .write (.setup [7]) .done .done, .receive,
    .write (.version 2 0) .done .done]

def twoWritten : WriterLoop :=
  (Machine.run (WriterLoop.step true .standard UsbDevicePacket.withoutPlists)
    WriterLoop.start twoWrites).getD WriterLoop.start

def twoWrittenBytes : List UInt8 :=
  (openDevice .standard staleHost 1).written.flatten ++
    twoWritten.transfers.flatten

theorem device_reads_twoWrites :
    (UsbDevicePacket.fromChunks TcpHeaderCodec.standard.toTcpHeaderReader
        UsbDevicePacket.earlyEof).readMany 5
      [⟨twoWrittenBytes.take 30, nofun⟩, ⟨twoWrittenBytes.drop 30, nofun⟩] =
        (versionPacket :: setupPacket :: twoWritten.packets,
          some (.error (.io UsbDevicePacket.earlyEof) [])) ∧
      WriterLoop.numbers (versionPacket :: setupPacket :: twoWritten.packets) =
        (List.range 2).map UInt16.ofNat := by
  have hopened : exists opened,
      (openDevice .standard staleHost 1).result = .ok opened :=
    ⟨_, rfl⟩
  have hrun : Machine.run
      (WriterLoop.step true .standard UsbDevicePacket.withoutPlists)
      WriterLoop.start twoWrites = some twoWritten := rfl
  rcases hopened with ⟨opened, hopened⟩
  exact device_reads .standard UsbDevicePacket.withoutPlists hopened hrun
    (by decide) (by decide) rfl UsbDevicePacket.earlyEof (by decide)

end Device
end Rusbmux
