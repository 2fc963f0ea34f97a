import Rusbmux.Handler.Connect

/-!
# From the client to the device

The bytes read from the client leave in payloads that are never longer than what
the device could take when the round of `select!` began.  What does not fit
stays in `read_buf` for the next round, whichever branch completes in between:
`client_read` touches the buffer only when it completes.  An empty result is the
end of the client's stream, since the buffer is only read from when it holds
something and a round is only joined when something can be sent.
-/

namespace Rusbmux
namespace Handler

open Foundation
open Rusbmux.Parser

def Phase.isClosing : Phase -> Bool
  | .closing _ => true
  | .selecting _ _ | .forwarding _ | .uploading _ | .returned _ => false

namespace Relay

/--
The client's socket yields the bytes of the stream in order, in pieces of any
length, and nothing only at its end.
-/
def ReadsFrom (stream : List UInt8) (s : Relay) : Action -> Prop
  | .clientRead (.ok chunk) =>
      s.readBuf = [] ->
        s.clientRead ++ chunk <+: stream ∧
          (chunk = [] -> s.clientRead = stream)
  | .clientRead (.error _) | .shutdown | .recvPacket _ _ | .recvDisconnected
  | .recvAck _ | .clientWrite _ | .sendBytes _ | .sendRst _ => True

/-- Nothing the client has sent is lost, repeated or reordered. -/
structure Uploaded (stream : List UInt8) (s : Relay) : Prop where
  balance : s.uploads.flatten ++ s.readBuf = s.clientRead
  ofStream : s.clientRead <+: stream
  closing : s.phase.isClosing = true -> s.uploads.flatten = stream

/--
A step passes at most one payload to `send_bytes`, which is not empty and fits
into what could be sent when it was read.
-/
def UploadsWithin (s t : Relay) : Prop :=
  t.uploads = s.uploads ∨
    exists recv sendable payload, s.phase = .selecting recv sendable ∧
      t.uploads = s.uploads ++ [payload] ∧
      payload ≠ [] ∧ payload.length <= sendable

/-- The loop begins to close only when a read at the end of file returns. -/
def ClosesAtEof (s : Relay) (a : Action) (t : Relay) : Prop :=
  t.phase.isClosing = true ->
    s.phase.isClosing = true ∨ (a = .clientRead (.ok []) ∧ s.readBuf = [])

/-!
## Steps that leave the uploads alone
-/

structure SameUploads (s t : Relay) : Prop where
  uploads : t.uploads = s.uploads
  readBuf : t.readBuf = s.readBuf
  clientRead : t.clientRead = s.clientRead
  closing : t.phase.isClosing = true -> s.phase.isClosing = true

namespace SameUploads

variable {s t : Relay}

theorem refl (s : Relay) : SameUploads s s :=
  ⟨rfl, rfl, rfl, fun h => h⟩

theorem of_open (huploads : t.uploads = s.uploads)
    (hreadBuf : t.readBuf = s.readBuf) (hread : t.clientRead = s.clientRead)
    (hopen : t.phase.isClosing = false) : SameUploads s t where
  uploads := huploads
  readBuf := hreadBuf
  clientRead := hread
  closing := by
    intro hclosing
    rw [hopen] at hclosing
    cases hclosing

theorem uploaded {stream : List UInt8} (hsame : SameUploads s t)
    (h : Uploaded stream s) : Uploaded stream t where
  balance := by
    rw [hsame.uploads, hsame.readBuf, hsame.clientRead]
    exact h.balance
  ofStream := by
    rw [hsame.clientRead]
    exact h.ofStream
  closing := by
    intro hclosing
    rw [hsame.uploads]
    exact h.closing (hsame.closing hclosing)

end SameUploads

theorem clientSend_sameUploads {s u : Relay} (payload : List UInt8)
    (huploads : u.uploads = s.uploads) (hreadBuf : u.readBuf = s.readBuf)
    (hread : u.clientRead = s.clientRead) :
    SameUploads s (u.clientSend payload) := by
  unfold clientSend
  cases payload with
  | nil => exact SameUploads.of_open huploads hreadBuf hread rfl
  | cons b rest => exact SameUploads.of_open huploads hreadBuf hread rfl

theorem ack_sameUploads {s u : Relay} (response tcpAck : UsbDevicePacket)
    (sendable : Nat) (answer : SendAnswer)
    (huploads : u.uploads = s.uploads) (hreadBuf : u.readBuf = s.readBuf)
    (hread : u.clientRead = s.clientRead) :
    SameUploads s (u.ack response tcpAck sendable answer) := by
  cases answer with
  | sent => exact clientSend_sameUploads _ huploads hreadBuf hread
  | full => exact SameUploads.of_open huploads hreadBuf hread rfl
  | disconnected => exact SameUploads.of_open huploads hreadBuf hread rfl

theorem shutdown_sameUploads {s t : Relay} (hstep : s.shutdown = some t) :
    SameUploads s t := by
  rcases shutdown_eq_some hstep with ⟨_, _, _, rfl⟩
  exact SameUploads.of_open rfl rfl rfl rfl

theorem recvPacket_sameUploads {s t : Relay} {packet : UsbDevicePacket}
    {answer : SendAnswer} (hstep : s.recvPacket packet answer = some t) :
    SameUploads s t := by
  rcases recvPacket_eq_some hstep with ⟨sendable, _, rfl⟩
  exact ack_sameUploads packet _ sendable answer rfl rfl rfl

theorem recvDisconnected_sameUploads {s t : Relay}
    (hstep : s.recvDisconnected = some t) : SameUploads s t := by
  rcases recvDisconnected_eq_some hstep with ⟨_, _, rfl⟩
  exact SameUploads.of_open rfl rfl rfl rfl

theorem recvAck_sameUploads {s t : Relay} {answer : SendAnswer}
    (hstep : s.recvAck answer = some t) : SameUploads s t := by
  rcases recvAck_eq_some hstep with ⟨response, tcpAck, sendable, _, rfl⟩
  exact ack_sameUploads response tcpAck sendable answer rfl rfl rfl

theorem writeClient_sameUploads {s t : Relay} {answer : Except IoError Nat}
    (hstep : s.writeClient answer = some t) : SameUploads s t := by
  rcases writeClient_cases hstep with
    ⟨rest, _, ⟨err, _, rfl⟩ | ⟨n, _, _, rfl⟩⟩
  · exact SameUploads.of_open rfl rfl rfl rfl
  · exact clientSend_sameUploads _ rfl rfl rfl

theorem sendBytes_sameUploads {s t : Relay} {answer : SendAnswer}
    (hstep : s.sendBytes answer = some t) : SameUploads s t := by
  rcases sendBytes_cases hstep with
    ⟨packet, _, ⟨_, rfl⟩ | ⟨_, rfl⟩ | ⟨_, rfl⟩⟩
  · exact SameUploads.of_open rfl rfl rfl rfl
  · exact SameUploads.refl t
  · exact SameUploads.of_open rfl rfl rfl rfl

theorem sendRst_sameUploads {s t : Relay} {answer : SendAnswer}
    (hstep : s.sendRst answer = some t) : SameUploads s t := by
  rcases sendRst_cases hstep with
    ⟨rstPacket, _, ⟨_, rfl⟩ | ⟨_, rfl⟩ | ⟨_, rfl⟩⟩
  · exact SameUploads.of_open rfl rfl rfl rfl
  · exact SameUploads.refl t
  · exact SameUploads.of_open rfl rfl rfl rfl

/-!
## The branch of the client
-/

theorem clientPacket_of_empty {s : Relay} {sendable : Nat}
    (hempty : s.readBuf = []) :
    s.clientPacket sendable =
      { s with phase := .closing (s.conn.buildFlag .rst) } := by
  unfold clientPacket
  simp only [hempty, List.length_nil, Nat.min_zero, List.take_nil,
    List.drop_nil, List.isEmpty_nil, if_true]

theorem clientPacket_of_nonempty {s : Relay} {sendable : Nat}
    (hsendable : 0 < sendable) (hbuf : s.readBuf ≠ []) :
    exists payload rest, s.readBuf = payload ++ rest ∧ payload ≠ [] ∧
      payload.length <= sendable ∧
      s.clientPacket sendable =
        { s with
          readBuf := rest
          uploads := s.uploads ++ [payload]
          phase := .uploading (s.conn.buildBytes payload) } := by
  have hlength : 0 < s.readBuf.length := List.length_pos_iff.mpr hbuf
  have hmin : 0 < min sendable s.readBuf.length :=
    Nat.lt_min.mpr ⟨hsendable, hlength⟩
  have hpayload : s.readBuf.take (min sendable s.readBuf.length) ≠ [] := by
    rw [← List.length_pos_iff, List.length_take]
    exact Nat.lt_min.mpr ⟨hmin, hlength⟩
  refine ⟨_, _, (List.take_append_drop _ _).symm, hpayload, ?_, ?_⟩
  · exact Nat.le_trans (List.length_take_le _ _) (Nat.min_le_left _ _)
  · unfold clientPacket
    simp only [List.isEmpty_iff]
    rw [if_neg hpayload]

theorem uploaded_clientPacket {stream : List UInt8} {s : Relay}
    {sendable : Nat} (hsendable : 0 < sendable) (hbuf : s.readBuf ≠ [])
    (hbalance : s.uploads.flatten ++ s.readBuf = s.clientRead)
    (hstream : s.clientRead <+: stream) :
    Uploaded stream (s.clientPacket sendable) := by
  rcases clientPacket_of_nonempty hsendable hbuf with
    ⟨payload, rest, hsplit, _, _, hpacket⟩
  rw [hpacket]
  refine ⟨?_, hstream, fun h => nomatch h⟩
  show (s.uploads ++ [payload]).flatten ++ rest = s.clientRead
  rw [← hbalance, hsplit, List.flatten_append, List.flatten_singleton,
    List.append_assoc]

theorem uploaded_readClient {stream : List UInt8} {s t : Relay}
    {answer : Except IoError (List UInt8)} (h : Uploaded stream s)
    (hstep : s.readClient answer = some t)
    (hreads : s.ReadsFrom stream (.clientRead answer)) :
    Uploaded stream t := by
  rcases readClient_cases hstep with
    ⟨recv, sendable, _, hsendable, hbuffered | hfailed | hread⟩
  · rcases hbuffered with ⟨hbuf, rfl⟩
    exact uploaded_clientPacket hsendable hbuf h.balance h.ofStream
  · rcases hfailed with ⟨err, _, rfl⟩
    exact ⟨h.balance, h.ofStream, fun hclosing => nomatch hclosing⟩
  · rcases hread with ⟨chunk, hempty, rfl, rfl⟩
    rcases hreads hempty with ⟨hstream, heof⟩
    have hflatten : s.uploads.flatten = s.clientRead := by
      have hbalance := h.balance
      rw [hempty, List.append_nil] at hbalance
      exact hbalance
    cases chunk with
    | nil =>
        rw [clientPacket_of_empty rfl]
        refine ⟨?_, hstream, ?_⟩
        · show s.uploads.flatten ++ [] = s.clientRead ++ []
          rw [hflatten]
        · intro _
          exact hflatten.trans (heof rfl)
    | cons b rest =>
        apply uploaded_clientPacket hsendable (List.cons_ne_nil b rest)
        · show s.uploads.flatten ++ b :: rest = s.clientRead ++ b :: rest
          rw [hflatten]
        · exact hstream

theorem clientPacket_uploadsWithin {s u : Relay} {recv : RecvFuture}
    {sendable : Nat} (hphase : s.phase = .selecting recv sendable)
    (hsendable : 0 < sendable) (huploads : u.uploads = s.uploads) :
    UploadsWithin s (u.clientPacket sendable) := by
  cases hbuf : u.readBuf with
  | nil =>
      rw [clientPacket_of_empty hbuf]
      exact Or.inl huploads
  | cons b rest =>
      have hnonempty : u.readBuf ≠ [] := by
        rw [hbuf]
        exact List.cons_ne_nil b rest
      rcases clientPacket_of_nonempty hsendable hnonempty with
        ⟨payload, rest, _, hpayload, hlength, hpacket⟩
      rw [hpacket]
      right
      refine ⟨recv, sendable, payload, hphase, ?_, hpayload, hlength⟩
      show u.uploads ++ [payload] = s.uploads ++ [payload]
      rw [huploads]

theorem readClient_uploadsWithin {s t : Relay}
    {answer : Except IoError (List UInt8)}
    (hstep : s.readClient answer = some t) : UploadsWithin s t := by
  rcases readClient_cases hstep with
    ⟨recv, sendable, hphase, hsendable, hbuffered | hfailed | hread⟩
  · rcases hbuffered with ⟨_, rfl⟩
    exact clientPacket_uploadsWithin hphase hsendable rfl
  · rcases hfailed with ⟨err, _, rfl⟩
    exact Or.inl rfl
  · rcases hread with ⟨chunk, _, _, rfl⟩
    exact clientPacket_uploadsWithin hphase hsendable rfl

theorem readClient_closesAtEof {s t : Relay}
    {answer : Except IoError (List UInt8)}
    (hstep : s.readClient answer = some t) :
    ClosesAtEof s (.clientRead answer) t := by
  intro hclosing
  rcases readClient_cases hstep with
    ⟨recv, sendable, _, hsendable, hbuffered | hfailed | hread⟩
  · rcases hbuffered with ⟨hbuf, rfl⟩
    rcases clientPacket_of_nonempty hsendable hbuf with
      ⟨payload, rest, _, _, _, hpacket⟩
    rw [hpacket] at hclosing
    cases hclosing
  · rcases hfailed with ⟨err, _, rfl⟩
    cases hclosing
  · rcases hread with ⟨chunk, hempty, rfl, rfl⟩
    cases chunk with
    | nil => exact Or.inr ⟨rfl, hempty⟩
    | cons b rest =>
        rcases clientPacket_of_nonempty (s := { s with
            readBuf := b :: rest
            clientRead := s.clientRead ++ b :: rest })
          hsendable (List.cons_ne_nil b rest) with
          ⟨payload, rest', _, _, _, hpacket⟩
        rw [hpacket] at hclosing
        cases hclosing

/-!
## Runs
-/

theorem step_sameUploads {s t : Relay} {a : Action}
    (hstep : step s a = some t) :
    SameUploads s t ∨ exists answer, a = .clientRead answer := by
  cases a with
  | shutdown => exact Or.inl (shutdown_sameUploads hstep)
  | recvPacket packet answer => exact Or.inl (recvPacket_sameUploads hstep)
  | recvDisconnected => exact Or.inl (recvDisconnected_sameUploads hstep)
  | recvAck answer => exact Or.inl (recvAck_sameUploads hstep)
  | clientRead answer => exact Or.inr ⟨answer, rfl⟩
  | clientWrite answer => exact Or.inl (writeClient_sameUploads hstep)
  | sendBytes answer => exact Or.inl (sendBytes_sameUploads hstep)
  | sendRst answer => exact Or.inl (sendRst_sameUploads hstep)

theorem uploaded_step {stream : List UInt8} {s t : Relay} {a : Action}
    (h : Uploaded stream s) (hstep : step s a = some t)
    (hreads : s.ReadsFrom stream a) : Uploaded stream t := by
  rcases step_sameUploads hstep with hsame | ⟨answer, rfl⟩
  · exact hsame.uploaded h
  · exact uploaded_readClient h hstep hreads

theorem step_uploadsWithin {s t : Relay} {a : Action}
    (hstep : step s a = some t) : UploadsWithin s t := by
  rcases step_sameUploads hstep with hsame | ⟨answer, rfl⟩
  · exact Or.inl hsame.uploads
  · exact readClient_uploadsWithin hstep

theorem step_closesAtEof {s t : Relay} {a : Action}
    (hstep : step s a = some t) : ClosesAtEof s a t := by
  rcases step_sameUploads hstep with hsame | ⟨answer, rfl⟩
  · exact fun hclosing => Or.inl (hsame.closing hclosing)
  · exact readClient_closesAtEof hstep

theorem uploaded_init (stream : List UInt8) (conn : UsbDeviceConn) :
    Uploaded stream (Relay.init conn) where
  balance := rfl
  ofStream := List.nil_prefix
  closing := fun h => nomatch h

/--
Whatever the windows, the pieces the client's bytes are read in and the branches
that complete: the payloads passed to `send_bytes` are the client's bytes, each
payload fits, and the connection is closed for the client only after its last
byte.
-/
theorem uploads_exact (conn : UsbDeviceConn) (stream : List UInt8)
    (actions : List Action)
    (hreads : Machine.Guarded step (ReadsFrom stream) (Relay.init conn)
      actions) :
    Machine.Throughout step (Uploaded stream) (Relay.init conn) actions ∧
      Machine.Stepwise step
        (fun s a t => UploadsWithin s t ∧ ClosesAtEof s a t)
        (Relay.init conn) actions := by
  constructor
  · exact Machine.throughout_of_guarded (fun _ _ _ => uploaded_step)
      (uploaded_init stream conn) hreads
  · intro pre a t u _ _ hstep
    exact ⟨step_uploadsWithin hstep, step_closesAtEof hstep⟩

def twoBytes : List Action :=
  [.clientRead (.ok [0x07, 0x08]), .sendBytes .sent, .clientRead (.ok [])]

theorem twoBytes_reads :
    Machine.Guarded step (ReadsFrom [0x07, 0x08])
      (Relay.init (.opened 62078 1)) twoBytes := by
  unfold twoBytes
  rw [Machine.guarded_cons]
  intro s hs
  cases hs
  refine ⟨fun _ => ⟨List.prefix_refl _, fun h => nomatch h⟩, ?_⟩
  rw [Machine.guarded_cons]
  intro s hs
  cases hs
  refine ⟨trivial, ?_⟩
  rw [Machine.guarded_cons]
  intro s hs
  cases hs
  exact ⟨fun _ => ⟨List.prefix_refl _, fun _ => rfl⟩,
    Machine.guarded_nil _ _ _⟩

theorem uploads_exact_twoBytes :
    Machine.Throughout step (Uploaded [0x07, 0x08])
        (Relay.init (.opened 62078 1)) twoBytes ∧
      Machine.Stepwise step
        (fun s a t => UploadsWithin s t ∧ ClosesAtEof s a t)
        (Relay.init (.opened 62078 1)) twoBytes :=
  uploads_exact (.opened 62078 1) [0x07, 0x08] twoBytes twoBytes_reads

end Relay

end Handler
end Rusbmux
