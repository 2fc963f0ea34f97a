import Rusbmux.Foundation.ReadLoop
import Rusbmux.Parser.UsbMux

/-!
# Reading packets from a client

`handle_client` reads one packet after another.  It ends when the client has
gone away and goes on after every other error, starting the next read wherever
the refused one stopped.  Whether it goes on after a packet is up to the handler
of that packet.
-/

namespace Rusbmux
namespace Handler

open Foundation
open Rusbmux.Parser

/-- The errors after which the client loop reads on. -/
def readsOnAfter : ParseError -> Bool
  | .io err =>
      !(err.kind = .unexpectedEof || err.kind = .connectionReset ||
        err.kind = .brokenPipe)
  | _ => true

theorem readsOnAfter_of_not_isIo (e : ParseError) (h : (!e.isIo) = true) :
    readsOnAfter e = true := by
  cases e with
  | io err => cases h
  | plist err => rfl
  | tcpHeaderSlice err => rfl
  | invalidData message => rfl

/--
On a stream of complete packets, every read of `handle_client` takes exactly
one packet, with a value or an error that is not an input/output error, and so
starts at the first byte of a packet.
-/
def KeepsPackets (F : Plist.Format) (ending : IoError)
    (stay : UsbMuxPacket -> Bool) (frames : List ClientFrame)
    (tail : List UInt8) : Prop :=
  ReadLoop.KeepsBoundaries (UsbMuxPacket.fromReader F ending) stay
    readsOnAfter (fun err => !err.isIo) (frames.map ClientFrame.bytes) tail

theorem consumesExactly_iff (F : Plist.Format) (ending : IoError)
    (f : ClientFrame) (later : List UInt8) :
    ReadLoop.ConsumesExactly (UsbMuxPacket.fromReader F ending)
        (fun err => !err.isIo) f.bytes later <->
      f.ReadToEnd := by
  unfold ClientFrame.ReadToEnd
  by_cases hknown :
      (exists version, clientVersion f.bytes = some version) ∧
        exists msgType, clientMsgType f.bytes = some msgType
  · rcases hknown with ⟨⟨version, hversion⟩, msgType, hmsgType⟩
    refine iff_of_true ?_
      (Or.inl ⟨⟨version, hversion⟩, msgType, hmsgType⟩)
    rcases f.fromReader_of_known later F ending hversion hmsgType with
      hok | ⟨e, he, hrun⟩
    · exact Or.inl hok
    · exact Or.inr ⟨e, by simp [he], hrun⟩
  · have hunknown :
        clientVersion f.bytes = none ∨ clientMsgType f.bytes = none := by
      cases hversion : clientVersion f.bytes with
      | none => exact Or.inl rfl
      | some version =>
          cases hmsgType : clientMsgType f.bytes with
          | none => exact Or.inr rfl
          | some msgType =>
              exact absurd ⟨⟨version, hversion⟩, msgType, hmsgType⟩ hknown
    rcases f.fromReader_of_unknown later F ending hunknown with ⟨e, he, hrun⟩
    unfold ReadLoop.ConsumesExactly
    rw [hrun]
    constructor
    · intro h
      rcases h with ⟨packet, hok⟩ | ⟨e', _, herr⟩
      · cases hok
      · injection herr with _ hrest
        exact Or.inr ((drop_append_eq_right_iff f.size_le).mp hrest).symm
    · intro h
      rcases h with hwords | hlen
      · exact absurd hwords hknown
      · refine Or.inr ⟨e, by simp [he], ?_⟩
        rw [(drop_append_eq_right_iff f.size_le).mpr hlen.symm]

theorem keepsPackets_iff (F : Plist.Format) (ending : IoError)
    (stay : UsbMuxPacket -> Bool) (frames : List ClientFrame)
    (tail : List UInt8) :
    KeepsPackets F ending stay frames tail <->
      forall f, f ∈ frames -> f.ReadToEnd :=
  ReadLoop.keepsBoundaries_map_iff _ stay readsOnAfter_of_not_isIo
    ClientFrame.bytes (consumesExactly_iff F ending) frames tail

def unknownVersion : ClientFrame where
  bytes := [20, 0, 0, 0, 2, 0, 0, 0, 8, 0, 0, 0, 1, 0, 0, 0, 16, 0, 0, 0]
  length_eq := rfl
  size_le := by decide

/-- A packet of an unknown version is refused with its payload left unread. -/
theorem not_keepsPackets_unknownVersion :
    ¬ forall (F : Plist.Format) (ending : IoError)
      (stay : UsbMuxPacket -> Bool) (frames : List ClientFrame)
      (tail : List UInt8), KeepsPackets F ending stay frames tail := by
  intro h
  have hconsumes := (h
    { fromBytes := fun _ => .error ⟨"unexpected end of file"⟩
      toXmlBytes := fun _ => [] }
    { kind := .unexpectedEof } (fun _ => true) [unknownVersion] [] []
    unknownVersion.bytes [] rfl).left
  rcases hconsumes with ⟨packet, hok⟩ | ⟨e, _, herr⟩
  · cases hok
  · cases herr

end Handler
end Rusbmux
