import Rusbmux.Conn.Sequence
import Mathlib.Data.List.Infix

/-!
# The window of the device

What a device has acknowledged and the window it announces give the right edge
of what it is ready to take.  A connection only knows the acknowledgment number
modulo `2 ^ 32`; as long as the edge never moves back, the number of bytes that
can be sent stays within it whenever it was computed.
-/

namespace Rusbmux

open Rusbmux.Parser

/-!
## Device behaviour

The acknowledgment number without wraparound is a function of the packets that
have come from the device.
-/

def lastWindow (initial : UInt16) (packets : List UsbDevicePacket) : UInt16 :=
  packets.foldl (fun window packet =>
    packet.tcpHdr.elim window fun tcpHdr => tcpHdr.windowSize) initial

theorem lastWindow_append (initial : UInt16) (packets : List UsbDevicePacket)
    (packet : UsbDevicePacket) :
    lastWindow initial (packets ++ [packet]) =
      packet.tcpHdr.elim (lastWindow initial packets) fun tcpHdr =>
        tcpHdr.windowSize := by
  rw [lastWindow, List.foldl_append]
  rfl

def windowBytes (initial : UInt16) (packets : List UsbDevicePacket) : Nat :=
  (lastWindow initial packets).toNat <<< 8

def rightEdge (acknowledged : List UsbDevicePacket -> Nat) (initial : UInt16)
    (packets : List UsbDevicePacket) : Nat :=
  acknowledged packets + windowBytes initial packets

structure Advertises (acknowledged : List UsbDevicePacket -> Nat)
    (initial : UInt16) (before : List UsbDevicePacket)
    (packet : UsbDevicePacket) : Prop where
  number : forall tcpHdr, packet.tcpHdr = some tcpHdr ->
    tcpHdr.acknowledgmentNumber = .ofNat (acknowledged (before ++ [packet]))
  silent : packet.tcpHdr = none ->
    acknowledged (before ++ [packet]) = acknowledged before
  edge : rightEdge acknowledged initial before <=
    rightEdge acknowledged initial (before ++ [packet])

/-- The right edge never moves back. -/
def KeepsEdge (acknowledged : List UsbDevicePacket -> Nat) (initial : UInt16)
    (packets : List UsbDevicePacket) : Prop :=
  forall before packet, before ++ [packet] <+: packets ->
    Advertises acknowledged initial before packet

theorem KeepsEdge.of_prefix {acknowledged : List UsbDevicePacket -> Nat}
    {initial : UInt16} {front packets : List UsbDevicePacket}
    (h : KeepsEdge acknowledged initial packets) (hfront : front <+: packets) :
    KeepsEdge acknowledged initial front :=
  fun before packet hpre => h before packet (hpre.trans hfront)

/-!
## Bytes that can be sent
-/

theorem toNat_windowShift (window : UInt16) :
    (window.toUInt32 <<< 8).toNat = window.toNat <<< 8 := by
  have hlt : window.toNat < 65536 := window.toNat_lt
  have hshift : window.toNat <<< 8 = window.toNat * 256 := Nat.shiftLeft_eq _ _
  rw [UInt32.toNat_shiftLeft, UInt16.toNat_toUInt32, hshift]
  show (window.toNat <<< 8) % 2 ^ 32 = _
  rw [hshift]
  exact Nat.mod_eq_of_lt (by omega)

theorem toNat_unacked {sent acknowledged : Nat} (hle : acknowledged <= sent)
    (hlt : sent - acknowledged < 2 ^ 32) :
    (UInt32.ofNat sent - UInt32.ofNat acknowledged).toNat =
      sent - acknowledged := by
  rw [UInt32.toNat_sub, UInt32.toNat_ofNat', UInt32.toNat_ofNat']
  omega

theorem calcSendableBytes_within {sent acknowledged : Nat} {window : UInt16}
    (h : sent <= acknowledged + window.toNat <<< 8) :
    sent + UsbDeviceConn.calcSendableBytes (.ofNat sent) window
      (.ofNat acknowledged) <= acknowledged + window.toNat <<< 8 := by
  have hlt : window.toNat < 65536 := window.toNat_lt
  have hshift : window.toNat <<< 8 = window.toNat * 256 := Nat.shiftLeft_eq _ _
  have hwindow := toNat_windowShift window
  unfold UsbDeviceConn.calcSendableBytes
  simp only
  split
  · rename_i hgt
    have hdiff : (window.toUInt32 <<< 8 -
        (UInt32.ofNat sent - UInt32.ofNat acknowledged)).toNat =
          window.toNat <<< 8 -
            (UInt32.ofNat sent - UInt32.ofNat acknowledged).toNat := by
      rw [UInt32.toNat_sub_of_le _ _ (UInt32.le_of_lt hgt), hwindow]
    have hmin := Nat.min_le_left
      (window.toUInt32 <<< 8 -
        (UInt32.ofNat sent - UInt32.ofNat acknowledged)).toNat
      maxPacketPayloadSize
    rw [hdiff] at hmin
    rw [hdiff]
    by_cases hle : acknowledged <= sent
    · have hunacked := toNat_unacked hle (by omega)
      have hunacked_lt : (UInt32.ofNat sent -
          UInt32.ofNat acknowledged).toNat < window.toNat <<< 8 := by
        rw [← hwindow]
        exact hgt
      omega
    · omega
  · exact h

/--
What a connection knows about its device: `sent` bytes are on their way or have
arrived, and what it has computed to be sendable does not pass the edge.
-/
structure UsbDeviceConn.WithinEdge (conn : UsbDeviceConn) (sent : Nat)
    (acknowledged : Nat) (window : UInt16) : Prop where
  sentBytes : conn.sentBytes = .ofNat sent
  lastReceived : conn.deviceLastReceivedBytes = .ofNat acknowledged
  lastWindow : conn.deviceLastWindowSize = window
  sendable : sent + conn.sendableBytes <= acknowledged + window.toNat <<< 8
  small : conn.sendableBytes <= maxPacketPayloadSize

namespace UsbDeviceConn.WithinEdge

variable {conn : UsbDeviceConn} {sent acknowledged : Nat} {window : UInt16}

theorem ofHandshake (sourcePort destinationPort : UInt16)
    (tcpHdr : TcpHeader) :
    (UsbDeviceConn.ofHandshake sourcePort destinationPort
      (.ofSynAck tcpHdr)).WithinEdge tcpHdr.acknowledgmentNumber.toNat
        tcpHdr.acknowledgmentNumber.toNat tcpHdr.windowSize := by
  have hnumber : tcpHdr.acknowledgmentNumber =
      .ofNat tcpHdr.acknowledgmentNumber.toNat := UInt32.ofNat_toNat.symm
  have hwithin := calcSendableBytes_within (Nat.le_add_right
    tcpHdr.acknowledgmentNumber.toNat (tcpHdr.windowSize.toNat <<< 8))
  rw [← hnumber] at hwithin
  exact ⟨hnumber, hnumber, rfl, hwithin, calcSendableBytes_le _ _ _⟩

theorem updateSendableBytes (h : conn.WithinEdge sent acknowledged window) :
    conn.updateSendableBytes.WithinEdge sent acknowledged window := by
  have hsent : sent <= acknowledged + window.toNat <<< 8 :=
    Nat.le_trans (Nat.le_add_right _ _) h.sendable
  refine ⟨h.sentBytes, h.lastReceived, h.lastWindow, ?_,
    calcSendableBytes_le _ _ _⟩
  show sent + calcSendableBytes conn.sentBytes conn.deviceLastWindowSize
    conn.deviceLastReceivedBytes <= _
  rw [h.sentBytes, h.lastWindow, h.lastReceived]
  exact calcSendableBytes_within hsent

theorem setDropped (h : conn.WithinEdge sent acknowledged window) :
    conn.setDropped.WithinEdge sent acknowledged window :=
  ⟨h.sentBytes, h.lastReceived, h.lastWindow, h.sendable, h.small⟩

theorem packetSent (h : conn.WithinEdge sent acknowledged window)
    {packet : UsbDevicePacket}
    (hfits : sent + packet.payload.len <= acknowledged + window.toNat <<< 8) :
    (conn.packetSent packet).WithinEdge (sent + packet.payload.len)
      acknowledged window := by
  have hcount : conn.sentBytes + .ofNat packet.payload.len =
      .ofNat (sent + packet.payload.len) := by
    rw [h.sentBytes, UInt32.ofNat_add]
  refine ⟨hcount, h.lastReceived, h.lastWindow, ?_, calcSendableBytes_le _ _ _⟩
  show sent + packet.payload.len + calcSendableBytes
    (conn.sentBytes + .ofNat packet.payload.len) conn.deviceLastWindowSize
      conn.deviceLastReceivedBytes <= _
  rw [hcount, h.lastWindow, h.lastReceived]
  exact calcSendableBytes_within hfits

end UsbDeviceConn.WithinEdge

/-!
## A connection and its device
-/

/-- The device behaviour that a run of a connection is measured against. -/
structure DeviceWindow where
  /-- The acknowledgment number without wraparound. -/
  acknowledged : List UsbDevicePacket -> Nat
  initial : UInt16

namespace DeviceWindow

def sentTotal (D : DeviceWindow) (sent : List UsbDevicePacket) : Nat :=
  D.acknowledged [] + payloadTotal sent

def edge (D : DeviceWindow) (received : List UsbDevicePacket) : Nat :=
  rightEdge D.acknowledged D.initial received

/--
No data packet is too large, and the bytes sent and not yet acknowledged fit
into the window announced last.
-/
structure FlowControlled (D : DeviceWindow)
    (received sent : List UsbDevicePacket) : Prop where
  small : forall packet, packet ∈ sent ->
    packet.payload.len <= maxPacketPayloadSize
  inFlight : D.sentTotal sent - D.acknowledged received <=
    windowBytes D.initial received

structure Keeps (D : DeviceWindow) (conn : UsbDeviceConn)
    (received sent : List UsbDevicePacket) : Prop where
  conn : conn.WithinEdge (D.sentTotal sent) (D.acknowledged received)
    (lastWindow D.initial received)
  small : forall packet, packet ∈ sent ->
    packet.payload.len <= maxPacketPayloadSize

structure CanSend (D : DeviceWindow) (received sent : List UsbDevicePacket)
    (n : Nat) : Prop where
  fits : D.sentTotal sent + n <= D.edge received
  small : n <= maxPacketPayloadSize

variable {D : DeviceWindow} {conn : UsbDeviceConn}
  {received sent : List UsbDevicePacket}

theorem sentTotal_append (D : DeviceWindow) (sent : List UsbDevicePacket)
    (packet : UsbDevicePacket) :
    D.sentTotal (sent ++ [packet]) = D.sentTotal sent + packet.payload.len := by
  rw [sentTotal, payloadTotal_append_singleton, ← Nat.add_assoc]
  rfl

theorem Keeps.controls (h : D.Keeps conn received sent) :
    D.FlowControlled received sent where
  small := h.small
  inFlight := by
    have hsent : D.sentTotal sent <=
        D.acknowledged received + windowBytes D.initial received :=
      Nat.le_trans (Nat.le_add_right _ _) h.conn.sendable
    omega

theorem Keeps.canSend (h : D.Keeps conn received sent) {n : Nat}
    (hn : n <= conn.sendableBytes) : D.CanSend received sent n where
  fits := Nat.le_trans (Nat.add_le_add_left hn _) h.conn.sendable
  small := Nat.le_trans hn h.conn.small

theorem CanSend.mono {n m : Nat} (h : D.CanSend received sent n)
    (hle : m <= n) : D.CanSend received sent m where
  fits := Nat.le_trans (Nat.add_le_add_left hle _) h.fits
  small := Nat.le_trans hle h.small

theorem CanSend.packetReceived {n : Nat} {packet : UsbDevicePacket}
    (h : D.CanSend received sent n)
    (hadvertises : Advertises D.acknowledged D.initial received packet) :
    D.CanSend (received ++ [packet]) sent n where
  fits := Nat.le_trans h.fits hadvertises.edge
  small := h.small

theorem CanSend.flagSent {n : Nat} {packet : UsbDevicePacket}
    (h : D.CanSend received sent n) (hflag : packet.payload.len = 0) :
    D.CanSend received (sent ++ [packet]) n where
  fits := by
    rw [sentTotal_append, hflag]
    exact h.fits
  small := h.small

theorem Keeps.updateStates (h : D.Keeps conn received sent)
    {packet : UsbDevicePacket}
    (hadvertises : Advertises D.acknowledged D.initial received packet) :
    D.Keeps (conn.updateStates packet) (received ++ [packet]) sent where
  conn := by
    have hedge : D.sentTotal sent + conn.sendableBytes <=
        D.acknowledged (received ++ [packet]) +
          windowBytes D.initial (received ++ [packet]) :=
      Nat.le_trans h.conn.sendable hadvertises.edge
    unfold UsbDeviceConn.updateStates
    cases hhdr : packet.tcpHdr with
    | none =>
        have hwindow : lastWindow D.initial (received ++ [packet]) =
            lastWindow D.initial received := by
          rw [lastWindow_append, hhdr]
          rfl
        rw [hadvertises.silent hhdr, hwindow]
        exact h.conn
    | some tcpHdr =>
        have hwindow : lastWindow D.initial (received ++ [packet]) =
            tcpHdr.windowSize := by
          rw [lastWindow_append, hhdr]
          rfl
        exact ⟨h.conn.sentBytes, hadvertises.number tcpHdr hhdr, hwindow.symm,
          hedge, h.conn.small⟩
  small := h.small

theorem Keeps.updateSendableBytes (h : D.Keeps conn received sent) :
    D.Keeps conn.updateSendableBytes received sent where
  conn := h.conn.updateSendableBytes
  small := h.small

theorem Keeps.setDropped (h : D.Keeps conn received sent) :
    D.Keeps conn.setDropped received sent where
  conn := h.conn.setDropped
  small := h.small

theorem small_append {packet : UsbDevicePacket}
    (h : forall p, p ∈ sent -> p.payload.len <= maxPacketPayloadSize)
    (hpacket : packet.payload.len <= maxPacketPayloadSize) :
    forall p, p ∈ sent ++ [packet] ->
      p.payload.len <= maxPacketPayloadSize := by
  intro p hp
  rcases List.mem_append.mp hp with hold | hnew
  · exact h p hold
  · rw [List.mem_singleton.mp hnew]
    exact hpacket

theorem Keeps.flagSent (h : D.Keeps conn received sent)
    {packet : UsbDevicePacket} (hflag : packet.payload.len = 0) :
    D.Keeps conn received (sent ++ [packet]) where
  conn := by
    rw [sentTotal_append, hflag]
    exact h.conn
  small := by
    apply small_append h.small
    rw [hflag]
    exact Nat.zero_le _

theorem Keeps.packetSent (h : D.Keeps conn received sent)
    {packet : UsbDevicePacket}
    (hsend : D.CanSend received sent packet.payload.len) :
    D.Keeps (conn.packetSent packet) received (sent ++ [packet]) where
  conn := by
    rw [sentTotal_append]
    exact h.conn.packetSent hsend.fits
  small := small_append h.small hsend.small

theorem keeps_ofHandshake (sourcePort destinationPort : UInt16)
    (tcpHdr : TcpHeader) (acknowledged : List UsbDevicePacket -> Nat)
    (hacknowledged : acknowledged [] = tcpHdr.acknowledgmentNumber.toNat) :
    Keeps ⟨acknowledged, tcpHdr.windowSize⟩
      (.ofHandshake sourcePort destinationPort (.ofSynAck tcpHdr)) [] [] where
  conn := by
    have hconn := UsbDeviceConn.WithinEdge.ofHandshake sourcePort
      destinationPort tcpHdr
    rw [← hacknowledged] at hconn
    exact hconn
  small := fun _ h => nomatch h

end DeviceWindow

end Rusbmux
