import Rusbmux.Parser.DeviceMuxFraming

/-!
# Device mux packets in slices

`UsbDevicePacket::from_slice`, the parser of bytes that are all there, beside
`from_reader`, the parser of a stream.  Each finds the headers in its own way:
the one indexes the slice where the other reads, and leaves the length of the
TCP header to the packet library where the other always reads twenty bytes.
-/

namespace Rusbmux
namespace Parser

open Foundation

/-!
## The parser
-/

namespace UsbDevicePacketHeader

def asV2 : UsbDevicePacketHeader -> Option UsbDevicePacketHeaderV2
  | v1 _ => none
  | v2 h => some h

def fromSlice : Reader ParseError UsbDevicePacketHeader := do
  let s <- Reader.remaining
  if s.length < 4 then
    Reader.throw (.invalidData "slice too short for header")
  else do
    let protocol <- Reader.ofExcept (UsbDevicePacketProtocol.new (field s 0 4))
    match protocol with
    | .version => do
        let h <- Reader.indexed UsbDevicePacketHeaderV1.size
        pure (v1 (.decode h))
    | .tcp | .setup | .control => do
        let h <- Reader.indexed UsbDevicePacketHeaderV2.size
        pure (v2 (.decode h))

end UsbDevicePacketHeader

namespace UsbDevicePacket

section

variable (E : TcpHeaderReader) (display : TcpHeaderSliceError -> String)

def tcpHeaderFromSlice : Reader ParseError (Option TcpHeader) where
  run := fun s =>
    match E.fromSlice s with
    | .ok (h, rest) => .ok (some h) rest
    | .error err =>
        .error (.invalidData
          s!"failed to parse TCP header from slice: {display err}") s

def tcpHeaderFromPacket (header : UsbDevicePacketHeader)
    (protocol : UsbDevicePacketProtocol) :
    Reader ParseError (Option TcpHeader) :=
  if protocol = .tcp ∧ header.asV2.isSome then
    tcpHeaderFromSlice E display
  else
    pure none

def payloadFromSlice (consumed : Nat) (header : UsbDevicePacketHeader)
    (protocol : UsbDevicePacketProtocol) (tcpHdr : Option TcpHeader) :
    Reader ParseError UsbDevicePacketPayload :=
  let tcpHdrLen := tcpHdr.elim 0 TcpHeader.headerLen
  let totalHeaderLen := header.size + tcpHdrLen
  let totalLength := header.getLength.toNat
  if totalLength < totalHeaderLen then
    Reader.throw (.invalidData
      s!"packet length {totalLength} is less than header size {totalHeaderLen}")
  else do
    let payloadLen <- Reader.orPanic (usizeSub totalLength totalHeaderLen)
    let s <- Reader.remaining
    if payloadLen > s.length then
      Reader.throw (.invalidData
        (s!"packet length {totalLength} exceeds remaining slice length " ++
          s!"{s.length + consumed}"))
    else do
      let payload <- Reader.indexed payloadLen
      Reader.orPanic (UsbDevicePacketPayload.decode payload protocol)

def fromSlice : Reader ParseError UsbDevicePacket := do
  let orig <- Reader.remaining
  let header <- UsbDevicePacketHeader.fromSlice
  let protocol <- Reader.orPanic header.getProtocol
  let s <- Reader.remaining
  let consumed <- Reader.orPanic (usizeSub orig.length s.length)
  let tcpHdr <- tcpHeaderFromPacket E display header protocol
  let payload <- payloadFromSlice consumed header protocol tcpHdr
  pure { header := header, tcpHdr := tcpHdr, payload := payload }

end

end UsbDevicePacket

/-!
## The TCP header reader

All that is assumed of the packet library: the header has the length that its
data offset gives, and is read from those bytes alone.
-/

def dataOffset (bytes : List UInt8) : Nat :=
  beNat (field bytes 12 1) / 16

namespace TcpHeaderReader

def HoldsHeader (bytes : List UInt8) : Prop :=
  TcpHeader.minLen <= bytes.length ∧ 5 <= dataOffset bytes ∧
    4 * dataOffset bytes <= bytes.length

structure ByDataOffset (E : TcpHeaderReader) : Prop where
  reads : forall bytes,
    (exists parsed, E.fromSlice bytes = .ok parsed) <-> HoldsHeader bytes
  splits : forall bytes hdr rest, E.fromSlice bytes = .ok (hdr, rest) ->
    hdr.headerLen = 4 * dataOffset bytes ∧
      rest = bytes.drop (4 * dataOffset bytes)
  reads_take : forall bytes hdr rest, E.fromSlice bytes = .ok (hdr, rest) ->
    E.fromSlice (bytes.take hdr.headerLen) = .ok (hdr, [])

theorem parse_take {words : Nat} (h : 5 <= words) (bytes : List UInt8) :
    parse words (bytes.take (4 * words)) = parse words bytes := by
  have hfield : forall offset width, offset + width <= 4 * words ->
      field (bytes.take (4 * words)) offset width = field bytes offset width :=
    fun offset width hle => field_take hle
  have hoptions : TcpHeader.minLen + (4 * words - TcpHeader.minLen) <=
      4 * words := by
    show 20 + (4 * words - 20) <= 4 * words
    omega
  unfold parse
  rw [hfield 0 2 (by omega), hfield 2 2 (by omega), hfield 4 4 (by omega),
    hfield 8 4 (by omega), hfield 12 1 (by omega), hfield 13 1 (by omega),
    hfield 14 2 (by omega), hfield 16 2 (by omega), hfield 18 2 (by omega),
    hfield _ _ hoptions]

theorem parse_headerLen {words : Nat} {bytes : List UInt8} (h : 5 <= words)
    (hroom : 4 * words <= bytes.length) :
    (parse words bytes).headerLen = 4 * words := by
  show 20 + (field bytes 20 (4 * words - 20)).length = 4 * words
  rw [field, List.length_take, List.length_drop]
  omega

theorem fromSliceStandard_eq_ok_iff {bytes : List UInt8}
    {parsed : TcpHeader × List UInt8} :
    fromSliceStandard bytes = .ok parsed <->
      HoldsHeader bytes ∧ parsed =
        (parse (dataOffset bytes) bytes,
          bytes.drop (4 * dataOffset bytes)) := by
  unfold fromSliceStandard HoldsHeader
  change (if bytes.length < TcpHeader.minLen then _
    else if dataOffset bytes < 5 then _
    else if bytes.length < 4 * dataOffset bytes then _
    else Except.ok (parse (dataOffset bytes) bytes,
      bytes.drop (4 * dataOffset bytes))) = _ <-> _
  by_cases hmin : bytes.length < TcpHeader.minLen
  · simp [hmin]
  by_cases hwords : dataOffset bytes < 5
  · simp [hmin, hwords]
  by_cases hroom : bytes.length < 4 * dataOffset bytes
  · simp [hmin, hwords, hroom]
  simp only [if_neg hmin, if_neg hwords, if_neg hroom, Except.ok.injEq]
  have hholds := And.intro (Nat.not_lt.mp hmin)
    (And.intro (Nat.not_lt.mp hwords) (Nat.not_lt.mp hroom))
  exact ⟨fun h => ⟨hholds, h.symm⟩, fun h => h.right.symm⟩

theorem HoldsHeader.take {bytes : List UInt8} (h : HoldsHeader bytes) :
    HoldsHeader (bytes.take (4 * dataOffset bytes)) ∧
      dataOffset (bytes.take (4 * dataOffset bytes)) = dataOffset bytes := by
  rcases h with ⟨_, hwords, hroom⟩
  have hlength : (bytes.take (4 * dataOffset bytes)).length =
      4 * dataOffset bytes := by
    rw [List.length_take, Nat.min_eq_left hroom]
  have hoffset : dataOffset (bytes.take (4 * dataOffset bytes)) =
      dataOffset bytes := by
    have hle : 12 + 1 <= 4 * dataOffset bytes := by omega
    unfold dataOffset at hle ⊢
    rw [field_take hle]
  unfold HoldsHeader
  rw [hoffset, hlength]
  exact ⟨⟨Nat.mul_le_mul_left 4 hwords, hwords, Nat.le_refl _⟩, rfl⟩

theorem standard_byDataOffset : ByDataOffset standard where
  reads := by
    intro bytes
    constructor
    · intro h
      rcases h with ⟨parsed, hparsed⟩
      exact (fromSliceStandard_eq_ok_iff.mp hparsed).left
    · intro h
      exact ⟨_, fromSliceStandard_eq_ok_iff.mpr ⟨h, rfl⟩⟩
  splits := by
    intro bytes hdr rest h
    rcases fromSliceStandard_eq_ok_iff.mp h with ⟨hholds, hparsed⟩
    injection hparsed with hhdr hrest
    rw [hhdr]
    exact ⟨parse_headerLen hholds.right.left hholds.right.right, hrest⟩
  reads_take := by
    intro bytes hdr rest h
    rcases fromSliceStandard_eq_ok_iff.mp h with ⟨hholds, hparsed⟩
    injection hparsed with hhdr _
    have hheader : hdr.headerLen = 4 * dataOffset bytes := by
      rw [hhdr]
      exact parse_headerLen hholds.right.left hholds.right.right
    apply fromSliceStandard_eq_ok_iff.mpr
    rw [hheader, hholds.take.right, parse_take hholds.right.left,
      List.drop_take_self, hhdr]
    exact ⟨hholds.take.left, rfl⟩

end TcpHeaderReader

/-!
## Headers
-/

namespace UsbDevicePacketHeader

theorem fromSlice_of_short {s : List UInt8} (h : s.length < 4) :
    fromSlice.run s =
      .error (.invalidData "slice too short for header") s := by
  unfold fromSlice
  rw [Reader.run_bind_of_ok (Reader.run_remaining s), if_pos h]
  rfl

theorem fromSlice_of_unknown {s : List UInt8} (hlen : 4 <= s.length)
    (hp : frameProtocol s = none) :
    exists err, fromSlice.run s = .error err s := by
  have hnew : UsbDevicePacketProtocol.new (field s 0 4) =
      .error (.invalidData
        s!"`{protocolWord s}` is not a valid device mux protocol") := by
    change UsbDevicePacketProtocol.ofNat? (beNat (field s 0 4)) = none at hp
    unfold UsbDevicePacketProtocol.new
    rw [hp]
    rfl
  unfold fromSlice
  rw [Reader.run_bind_of_ok (Reader.run_remaining s),
    if_neg (Nat.not_lt.mpr hlen), hnew]
  exact ⟨_, rfl⟩

theorem run_indexed_header (p : UsbDevicePacketProtocol) (n : Nat)
    (s : List UInt8) (make : List UInt8 -> UsbDevicePacketHeader)
    (hsize : n = sizeOf p) (hmake : make (s.take n) = headerOf p s) :
    (do
      let h <- Reader.indexed n
      pure (make h) : Reader ParseError UsbDevicePacketHeader).run s =
      if s.length < sizeOf p then .panicked
      else .ok (headerOf p s) (s.drop (sizeOf p)) := by
  rw [← hsize]
  by_cases hcut : s.length < n
  · rw [if_pos hcut]
    exact Reader.run_bind_of_panicked (Reader.run_indexed_of_lt hcut) _
  · rw [if_neg hcut, Reader.run_bind_of_ok
      (Reader.run_indexed_of_le (Nat.not_lt.mp hcut)), hmake]
    rfl

theorem fromSlice_of_known {s : List UInt8} {p : UsbDevicePacketProtocol}
    (hlen : 4 <= s.length) (hp : frameProtocol s = some p) :
    fromSlice.run s =
      if s.length < sizeOf p then .panicked
      else .ok (headerOf p s) (s.drop (sizeOf p)) := by
  have hnew : UsbDevicePacketProtocol.new (field s 0 4) = .ok p := by
    change UsbDevicePacketProtocol.ofNat? (beNat (field s 0 4)) = some p at hp
    unfold UsbDevicePacketProtocol.new
    rw [hp]
  unfold fromSlice
  rw [Reader.run_bind_of_ok (Reader.run_remaining s),
    if_neg (Nat.not_lt.mpr hlen), hnew,
    Reader.run_bind_of_ok (Reader.run_ofExcept_ok _ _)]
  cases p with
  | version =>
      exact run_indexed_header .version _ s (fun h => v1 (.decode h)) rfl rfl
  | control =>
      exact run_indexed_header .control _ s (fun h => v2 (.decode h)) rfl rfl
  | setup =>
      exact run_indexed_header .setup _ s (fun h => v2 (.decode h)) rfl rfl
  | tcp =>
      exact run_indexed_header .tcp _ s (fun h => v2 (.decode h)) rfl rfl

theorem fromSlice_of_header {s : List UInt8} {p : UsbDevicePacketProtocol}
    (h : HeaderAt s p) :
    fromSlice.run s = .ok (headerOf p s) (s.drop (sizeOf p)) := by
  have hlen : 4 <= s.length := by
    apply Nat.le_trans _ h.right
    cases p <;> decide
  rw [fromSlice_of_known hlen h.left, if_neg (Nat.not_lt.mpr h.right)]

theorem headerAt_of_fromReader {ending : IoError} {s rest : List UInt8}
    {header : UsbDevicePacketHeader}
    (h : (fromReader ending).run s = .ok header rest) :
    exists p, HeaderAt s p := by
  by_cases hlen : UsbDevicePacketHeaderV1.size <= s.length
  · cases hp : frameProtocol s with
    | none =>
        rcases fromReader_of_unknown ending hlen hp with ⟨err, _, hrun⟩
        rw [hrun] at h
        cases h
    | some p =>
        by_cases hcut : s.length < sizeOf p
        · rw [fromReader_of_known ending hlen hp, if_pos hcut] at h
          cases h
        · exact ⟨p, hp, Nat.not_lt.mp hcut⟩
  · rw [fromReader_of_short ending (Nat.lt_of_not_le hlen)] at h
    cases h

theorem headerAt_of_fromSlice {s rest : List UInt8}
    {header : UsbDevicePacketHeader} (h : fromSlice.run s = .ok header rest) :
    exists p, HeaderAt s p := by
  by_cases hlen : 4 <= s.length
  · cases hp : frameProtocol s with
    | none =>
        rcases fromSlice_of_unknown hlen hp with ⟨err, hrun⟩
        rw [hrun] at h
        cases h
    | some p =>
        by_cases hcut : s.length < sizeOf p
        · rw [fromSlice_of_known hlen hp, if_pos hcut] at h
          cases h
        · exact ⟨p, hp, Nat.not_lt.mp hcut⟩
  · rw [fromSlice_of_short (Nat.lt_of_not_le hlen)] at h
    cases h

end UsbDevicePacketHeader

/-!
## Payloads
-/

namespace UsbDevicePacket

def TakesPayload (header : UsbDevicePacketHeader)
    (protocol : UsbDevicePacketProtocol) (tcpHdr : Option TcpHeader)
    (s : List UInt8) (payload : UsbDevicePacketPayload)
    (rest : List UInt8) : Prop :=
  exists n, usizeSub header.getLength.toNat
      (header.size + tcpHdr.elim 0 TcpHeader.headerLen) = some n ∧
    (n <= s.length ∧ s.drop n = rest) ∧
    UsbDevicePacketPayload.decode (s.take n) protocol = some payload

theorem usizeSub_eq_none {a b : Nat} (h : a < b) : usizeSub a b = none := by
  unfold usizeSub
  rw [if_neg (Nat.not_le.mpr h)]

theorem readPayload_eq_ok_iff {ending : IoError}
    {header : UsbDevicePacketHeader} {protocol : UsbDevicePacketProtocol}
    {tcpHdr : Option TcpHeader} {s rest : List UInt8}
    {payload : UsbDevicePacketPayload} :
    (readPayload ending header protocol tcpHdr).run s = .ok payload rest <->
      TakesPayload header protocol tcpHdr s payload rest := by
  unfold readPayload TakesPayload
  by_cases hlt : header.getLength.toNat <
      header.size + tcpHdr.elim 0 TcpHeader.headerLen
  · simp [if_pos hlt, usizeSub_eq_none hlt]
  · simp [if_neg hlt, Reader.run_bind_eq_ok_iff]

theorem run_payload_eq_ok_iff {err : ParseError} {n : Nat}
    {protocol : UsbDevicePacketProtocol} {s rest : List UInt8}
    {payload : UsbDevicePacketPayload} :
    (if n > s.length then Reader.throw err
      else do
        let bytes <- Reader.indexed n
        Reader.orPanic (UsbDevicePacketPayload.decode bytes protocol)).run s =
        .ok payload rest <->
      (n <= s.length ∧ s.drop n = rest) ∧
        UsbDevicePacketPayload.decode (s.take n) protocol = some payload := by
  by_cases hroom : n > s.length
  · simp [hroom]
  · simp [hroom, Reader.run_bind_eq_ok_iff]

theorem payloadFromSlice_eq_ok_iff {consumed : Nat}
    {header : UsbDevicePacketHeader} {protocol : UsbDevicePacketProtocol}
    {tcpHdr : Option TcpHeader} {s rest : List UInt8}
    {payload : UsbDevicePacketPayload} :
    (payloadFromSlice consumed header protocol tcpHdr).run s =
        .ok payload rest <->
      TakesPayload header protocol tcpHdr s payload rest := by
  unfold payloadFromSlice TakesPayload
  by_cases hlt : header.getLength.toNat <
      header.size + tcpHdr.elim 0 TcpHeader.headerLen
  · simp [if_pos hlt, usizeSub_eq_none hlt]
  · rw [if_neg hlt, Reader.run_bind_eq_ok_iff]
    constructor
    · intro h
      rcases h with ⟨n, mid, hn, hrest⟩
      rcases Reader.run_orPanic_eq_ok_iff.mp hn with ⟨hsub, rfl⟩
      exact ⟨n, hsub, run_payload_eq_ok_iff.mp hrest⟩
    · intro h
      rcases h with ⟨n, hn, hrest⟩
      exact ⟨n, s, Reader.run_orPanic_eq_ok_iff.mpr ⟨hn, rfl⟩,
        run_payload_eq_ok_iff.mpr hrest⟩

/-!
## Packets
-/

/-- The packet after its mux header, by the step that finds the TCP header. -/
def Completes (findTcpHdr : Reader ParseError (Option TcpHeader))
    (s : List UInt8) (p : UsbDevicePacketProtocol) (packet : UsbDevicePacket)
    (rest : List UInt8) : Prop :=
  exists tcpHdr payload mid,
    findTcpHdr.run (s.drop (UsbDevicePacketHeader.sizeOf p)) =
        .ok tcpHdr mid ∧
      TakesPayload (headerOf p s) p tcpHdr mid payload rest ∧
      packet =
        { header := headerOf p s, tcpHdr := tcpHdr, payload := payload }

theorem run_headers_eq_ok_iff
    {findTcpHdr : Reader ParseError (Option TcpHeader)}
    {findPayload : Option TcpHeader -> Reader ParseError UsbDevicePacketPayload}
    {s rest : List UInt8} {p : UsbDevicePacketProtocol}
    {packet : UsbDevicePacket}
    (hpayload : forall tcpHdr mid payload rest,
      (findPayload tcpHdr).run mid = .ok payload rest <->
        TakesPayload (headerOf p s) p tcpHdr mid payload rest) :
    (do
      let tcpHdr <- findTcpHdr
      let payload <- findPayload tcpHdr
      pure { header := headerOf p s, tcpHdr := tcpHdr, payload := payload } :
        Reader ParseError UsbDevicePacket).run
        (s.drop (UsbDevicePacketHeader.sizeOf p)) = .ok packet rest <->
      Completes findTcpHdr s p packet rest := by
  constructor
  · intro h
    rcases Reader.run_bind_eq_ok_iff.mp h with ⟨tcpHdr, mid, htcp, hafter⟩
    rcases Reader.run_bind_eq_ok_iff.mp hafter with
      ⟨payload, _, hpay, hpure⟩
    rcases Reader.run_pure_eq_ok_iff.mp hpure with ⟨hpacket, rfl⟩
    exact ⟨tcpHdr, payload, mid, htcp, (hpayload _ _ _ _).mp hpay,
      hpacket.symm⟩
  · intro h
    rcases h with ⟨tcpHdr, payload, mid, htcp, hpay, hpacket⟩
    rw [Reader.run_bind_of_ok htcp,
      Reader.run_bind_of_ok ((hpayload _ _ _ _).mpr hpay), hpacket]
    rfl

theorem fromReader_eq_ok_iff {E : TcpHeaderReader} {ending : IoError}
    {s rest : List UInt8} {packet : UsbDevicePacket} :
    (fromReader E ending).run s = .ok packet rest <->
      exists p, UsbDevicePacketHeader.HeaderAt s p ∧
        Completes (readTcpHeader E ending p) s p packet rest := by
  have hrun : forall p, UsbDevicePacketHeader.HeaderAt s p ->
      ((fromReader E ending).run s = .ok packet rest <->
        Completes (readTcpHeader E ending p) s p packet rest) := by
    intro p hp
    rw [fromReader_of_headerAt E ending hp]
    exact run_headers_eq_ok_iff fun _ _ _ _ => readPayload_eq_ok_iff
  constructor
  · intro h
    rcases Reader.run_bind_eq_ok_iff.mp h with ⟨header, mid, hheader, _⟩
    rcases UsbDevicePacketHeader.headerAt_of_fromReader hheader with ⟨p, hp⟩
    exact ⟨p, hp, (hrun p hp).mp h⟩
  · intro h
    rcases h with ⟨p, hp, hcompletes⟩
    exact (hrun p hp).mpr hcompletes

theorem fromSlice_of_headerAt (E : TcpHeaderReader)
    (display : TcpHeaderSliceError -> String) {s : List UInt8}
    {p : UsbDevicePacketProtocol} (hp : UsbDevicePacketHeader.HeaderAt s p) :
    (fromSlice E display).run s =
      (do
        let tcpHdr <- tcpHeaderFromPacket E display (headerOf p s) p
        let payload <- payloadFromSlice
          (s.length - (s.drop (UsbDevicePacketHeader.sizeOf p)).length)
          (headerOf p s) p tcpHdr
        pure { header := headerOf p s, tcpHdr := tcpHdr, payload := payload } :
          Reader ParseError UsbDevicePacket).run
        (s.drop (UsbDevicePacketHeader.sizeOf p)) := by
  have hle : (s.drop (UsbDevicePacketHeader.sizeOf p)).length <= s.length := by
    rw [List.length_drop]
    exact Nat.sub_le _ _
  have hsub : usizeSub s.length
      (s.drop (UsbDevicePacketHeader.sizeOf p)).length =
        some (s.length - (s.drop (UsbDevicePacketHeader.sizeOf p)).length) :=
    if_pos hle
  unfold fromSlice
  rw [Reader.run_bind_of_ok (Reader.run_remaining s),
    Reader.run_bind_of_ok (UsbDevicePacketHeader.fromSlice_of_header hp),
    headerOf_getProtocol, hp.left,
    Reader.run_bind_of_ok (Reader.run_orPanic_some _ _),
    Reader.run_bind_of_ok (Reader.run_remaining _), hsub,
    Reader.run_bind_of_ok (Reader.run_orPanic_some _ _)]

theorem fromSlice_eq_ok_iff {E : TcpHeaderReader}
    {display : TcpHeaderSliceError -> String} {s rest : List UInt8}
    {packet : UsbDevicePacket} :
    (fromSlice E display).run s = .ok packet rest <->
      exists p, UsbDevicePacketHeader.HeaderAt s p ∧
        Completes (tcpHeaderFromPacket E display (headerOf p s) p) s p packet
          rest := by
  have hrun : forall p, UsbDevicePacketHeader.HeaderAt s p ->
      ((fromSlice E display).run s = .ok packet rest <->
        Completes (tcpHeaderFromPacket E display (headerOf p s) p) s p packet
          rest) := by
    intro p hp
    rw [fromSlice_of_headerAt E display hp]
    exact run_headers_eq_ok_iff fun _ _ _ _ => payloadFromSlice_eq_ok_iff
  constructor
  · intro h
    rcases Reader.run_bind_eq_ok_iff.mp h with ⟨_, _, hfirst, hafter⟩
    cases hfirst
    rcases Reader.run_bind_eq_ok_iff.mp hafter with ⟨header, _, hheader, _⟩
    rcases UsbDevicePacketHeader.headerAt_of_fromSlice hheader with ⟨p, hp⟩
    exact ⟨p, hp, (hrun p hp).mp h⟩
  · intro h
    rcases h with ⟨p, hp, hcompletes⟩
    exact (hrun p hp).mpr hcompletes

/-!
## The TCP header in a stream and in a slice
-/

section

variable {E : TcpHeaderReader} {ending : IoError}
  {display : TcpHeaderSliceError -> String}

theorem tcpHeaderFromSlice_eq_ok_iff {s rest : List UInt8}
    {tcpHdr : Option TcpHeader} :
    (tcpHeaderFromSlice E display).run s = .ok tcpHdr rest <->
      exists hdr, E.fromSlice s = .ok (hdr, rest) ∧ some hdr = tcpHdr := by
  cases hparse : E.fromSlice s with
  | error err => simp [tcpHeaderFromSlice, hparse]
  | ok parsed => grind [tcpHeaderFromSlice]

theorem readTcpHeader_eq_ok_iff {s rest : List UInt8}
    {tcpHdr : Option TcpHeader} :
    (readTcpHeader E ending .tcp).run s = .ok tcpHdr rest <->
      (TcpHeader.minLen <= s.length ∧ s.drop TcpHeader.minLen = rest) ∧
        exists hdr after,
          E.fromSlice (s.take TcpHeader.minLen) = .ok (hdr, after) ∧
            some hdr = tcpHdr := by
  cases hparse : E.fromSlice (s.take TcpHeader.minLen) with
  | error err =>
      simp [readTcpHeader, Reader.run_bind_eq_ok_iff, hparse, Except.mapError,
        Reader.ofExcept]
  | ok parsed =>
      rcases parsed with ⟨hdr, after⟩
      simp [readTcpHeader, Reader.run_bind_eq_ok_iff, hparse, Except.mapError,
        Reader.ofExcept, and_assoc]

theorem dataOffset_take (s : List UInt8) :
    dataOffset (s.take TcpHeader.minLen) = dataOffset s := by
  unfold dataOffset
  rw [field_take (by decide)]

theorem dataOffset_of_readTcpHeader (hE : E.ByDataOffset) {s rest : List UInt8}
    {tcpHdr : Option TcpHeader}
    (h : (readTcpHeader E ending .tcp).run s = .ok tcpHdr rest) :
    dataOffset s = 5 := by
  rcases readTcpHeader_eq_ok_iff.mp h with ⟨_, hdr, after, hparse, _⟩
  rcases (hE.reads _).mp ⟨_, hparse⟩ with ⟨_, hwords, hroom⟩
  rw [dataOffset_take] at hwords hroom
  have hlen : (s.take TcpHeader.minLen).length <= 20 := List.length_take_le _ _
  omega

theorem fromSlice_of_readTcpHeader (hE : E.ByDataOffset) {s rest : List UInt8}
    {tcpHdr : Option TcpHeader}
    (h : (readTcpHeader E ending .tcp).run s = .ok tcpHdr rest) :
    (tcpHeaderFromSlice E display).run s = .ok tcpHdr rest := by
  have hoffset := dataOffset_of_readTcpHeader hE h
  rcases readTcpHeader_eq_ok_iff.mp h with
    ⟨⟨hroom, hrest⟩, hdr, after, hparse, htcp⟩
  have hholds : TcpHeaderReader.HoldsHeader s := by
    unfold TcpHeaderReader.HoldsHeader
    rw [hoffset]
    exact ⟨hroom, Nat.le_refl _, hroom⟩
  rcases (hE.reads s).mpr hholds with ⟨⟨hdr', rest'⟩, hwhole⟩
  rcases hE.splits s hdr' rest' hwhole with ⟨hheader, hsplit⟩
  rw [hoffset] at hheader hsplit
  have hsame := hE.reads_take s hdr' rest' hwhole
  rw [hheader] at hsame
  have heq := hparse.symm.trans hsame
  injection heq with hpair
  injection hpair with hhdr _
  have hafter : rest' = rest := hsplit.trans hrest
  rw [hafter] at hwhole
  apply tcpHeaderFromSlice_eq_ok_iff.mpr
  exact ⟨hdr', hwhole, by rw [← hhdr, htcp]⟩

theorem readTcpHeader_of_fromSlice (hE : E.ByDataOffset) {s rest : List UInt8}
    {tcpHdr : Option TcpHeader} (hoffset : dataOffset s <= 5)
    (h : (tcpHeaderFromSlice E display).run s = .ok tcpHdr rest) :
    (readTcpHeader E ending .tcp).run s = .ok tcpHdr rest := by
  rcases tcpHeaderFromSlice_eq_ok_iff.mp h with ⟨hdr, hparse, htcp⟩
  rcases (hE.reads s).mp ⟨_, hparse⟩ with ⟨hroom, hwords, _⟩
  have hfive : dataOffset s = 5 := Nat.le_antisymm hoffset hwords
  rcases hE.splits s hdr rest hparse with ⟨hheader, hsplit⟩
  rw [hfive] at hheader hsplit
  have hsame := hE.reads_take s hdr rest hparse
  rw [hheader] at hsame
  exact readTcpHeader_eq_ok_iff.mpr
    ⟨⟨hroom, hsplit.symm⟩, hdr, [], hsame, htcp⟩

theorem tcpHeaderFromPacket_of_ne (ending : IoError)
    (header : UsbDevicePacketHeader)
    {p : UsbDevicePacketProtocol} (hp : p ≠ .tcp) :
    tcpHeaderFromPacket E display header p = readTcpHeader E ending p := by
  unfold tcpHeaderFromPacket
  rw [if_neg fun h => hp h.left]
  cases p with
  | tcp => exact absurd rfl hp
  | version => rfl
  | control => rfl
  | setup => rfl

theorem tcpHeaderFromPacket_tcp (s : List UInt8) :
    tcpHeaderFromPacket E display (headerOf .tcp s) .tcp =
      tcpHeaderFromSlice E display :=
  if_pos ⟨rfl, rfl⟩

/-!
## Agreement
-/

theorem fromSlice_of_fromReader (hE : E.ByDataOffset) {b rest : List UInt8}
    {packet : UsbDevicePacket}
    (h : (fromReader E ending).run b = .ok packet rest) :
    (fromSlice E display).run b = .ok packet rest := by
  rcases fromReader_eq_ok_iff.mp h with ⟨p, hp, hcompletes⟩
  apply fromSlice_eq_ok_iff.mpr ⟨p, hp, _⟩
  by_cases htcp : p = .tcp
  · subst htcp
    rcases hcompletes with ⟨tcpHdr, payload, mid, hread, hafter⟩
    rw [tcpHeaderFromPacket_tcp]
    exact ⟨tcpHdr, payload, mid,
      fromSlice_of_readTcpHeader hE hread, hafter⟩
  · rw [tcpHeaderFromPacket_of_ne ending _ htcp]
    exact hcompletes

/-- A whole TCP packet whose TCP header has options. -/
def HasOptions (b : List UInt8) : Prop :=
  let words := dataOffset (b.drop UsbDevicePacketHeaderV2.size)
  frameProtocol b = some .tcp ∧ 5 < words ∧
    UsbDevicePacketHeaderV2.size + 4 * words <= lengthWord b ∧
    lengthWord b <= b.length

theorem usizeSub_eq_some_iff {a b n : Nat} :
    usizeSub a b = some n <-> b <= a ∧ a - b = n := by
  unfold usizeSub
  by_cases h : b <= a
  · rw [if_pos h, Option.some.injEq]
    exact (and_iff_right h).symm
  · simp [h]

theorem length_after_tcp (hE : E.ByDataOffset) {b mid : List UInt8}
    {hdr : TcpHeader}
    (hparse : E.fromSlice (b.drop UsbDevicePacketHeaderV2.size) =
      .ok (hdr, mid)) :
    let taken := UsbDevicePacketHeaderV2.size +
      4 * dataOffset (b.drop UsbDevicePacketHeaderV2.size)
    (headerOf .tcp b).size + hdr.headerLen = taken ∧ mid = b.drop taken ∧
      taken <= b.length := by
  rcases hE.splits _ hdr mid hparse with ⟨hheader, hsplit⟩
  rcases (hE.reads _).mp ⟨_, hparse⟩ with ⟨hmin, _, hroom⟩
  rw [List.length_drop] at hmin hroom
  rw [List.drop_drop] at hsplit
  change 20 <= b.length - UsbDevicePacketHeaderV2.size at hmin
  intro taken
  refine ⟨?_, hsplit, ?_⟩
  · rw [hheader]
    rfl
  · show UsbDevicePacketHeaderV2.size + _ <= b.length
    omega

theorem bounds_of_takesPayload (hE : E.ByDataOffset) {b mid rest : List UInt8}
    {hdr : TcpHeader} {payload : UsbDevicePacketPayload}
    (hparse : E.fromSlice (b.drop UsbDevicePacketHeaderV2.size) =
      .ok (hdr, mid))
    (h : TakesPayload (headerOf .tcp b) .tcp (some hdr) mid payload rest) :
    UsbDevicePacketHeaderV2.size +
        4 * dataOffset (b.drop UsbDevicePacketHeaderV2.size) <= lengthWord b ∧
      lengthWord b <= b.length := by
  rcases length_after_tcp hE hparse with ⟨hsize, hmid, htaken⟩
  rcases h with ⟨n, hsub, ⟨hroom, _⟩, _⟩
  rw [headerOf_getLength] at hsub
  rcases usizeSub_eq_some_iff.mp hsub with ⟨hcover, hn⟩
  change (headerOf .tcp b).size + hdr.headerLen <= _ at hcover
  change _ - ((headerOf .tcp b).size + hdr.headerLen) = n at hn
  rw [hsize] at hcover hn
  rw [hmid, List.length_drop] at hroom
  exact ⟨hcover, by omega⟩

theorem takesPayload_of_bounds (hE : E.ByDataOffset) {b mid : List UInt8}
    {hdr : TcpHeader}
    (hparse : E.fromSlice (b.drop UsbDevicePacketHeaderV2.size) =
      .ok (hdr, mid))
    (hcover : UsbDevicePacketHeaderV2.size +
        4 * dataOffset (b.drop UsbDevicePacketHeaderV2.size) <= lengthWord b)
    (hthere : lengthWord b <= b.length) :
    exists payload, TakesPayload (headerOf .tcp b) .tcp (some hdr) mid payload
      (b.drop (lengthWord b)) := by
  rcases length_after_tcp hE hparse with ⟨hsize, hmid, htaken⟩
  have hsub : usizeSub (headerOf .tcp b).getLength.toNat
      ((headerOf .tcp b).size + hdr.headerLen) =
        some (lengthWord b - (UsbDevicePacketHeaderV2.size +
          4 * dataOffset (b.drop UsbDevicePacketHeaderV2.size))) := by
    rw [headerOf_getLength, hsize]
    exact usizeSub_eq_some_iff.mpr ⟨hcover, rfl⟩
  refine ⟨_, _, hsub, ⟨?_, ?_⟩, rfl⟩
  · rw [hmid, List.length_drop]
    omega
  · rw [hmid, List.drop_drop, Nat.add_sub_cancel' hcover]

theorem fromReader_of_fromSlice (hE : E.ByDataOffset) {b rest : List UInt8}
    {packet : UsbDevicePacket} (hoptions : ¬ HasOptions b)
    (h : (fromSlice E display).run b = .ok packet rest) :
    (fromReader E ending).run b = .ok packet rest := by
  rcases fromSlice_eq_ok_iff.mp h with ⟨p, hp, hcompletes⟩
  apply fromReader_eq_ok_iff.mpr ⟨p, hp, _⟩
  by_cases htcp : p = .tcp
  · subst htcp
    rw [tcpHeaderFromPacket_tcp] at hcompletes
    rcases hcompletes with ⟨tcpHdr, payload, mid, hslice, hpay, hpacket⟩
    rcases tcpHeaderFromSlice_eq_ok_iff.mp hslice with ⟨hdr, hparse, rfl⟩
    have hoffset : dataOffset (b.drop UsbDevicePacketHeaderV2.size) <= 5 := by
      by_contra hmore
      exact hoptions ⟨hp.left, Nat.lt_of_not_le hmore,
        bounds_of_takesPayload hE hparse hpay⟩
    exact ⟨some hdr, payload, mid,
      readTcpHeader_of_fromSlice hE hoffset hslice, hpay, hpacket⟩
  · rw [tcpHeaderFromPacket_of_ne ending _ htcp] at hcompletes
    exact hcompletes

variable (ending display) in
theorem fromSlice_of_hasOptions (hE : E.ByDataOffset) {b : List UInt8}
    (h : HasOptions b) :
    exists packet,
      (fromSlice E display).run b = .ok packet (b.drop (lengthWord b)) ∧
        forall rest, (fromReader E ending).run b ≠ .ok packet rest := by
  rcases h with ⟨hp, hwords, hcover, hthere⟩
  have hlen := Nat.le_trans hcover hthere
  have hheader : UsbDevicePacketHeader.HeaderAt b .tcp :=
    ⟨hp, Nat.le_trans (Nat.le_add_right _ _) hlen⟩
  have hholds : TcpHeaderReader.HoldsHeader
      (b.drop UsbDevicePacketHeaderV2.size) := by
    unfold TcpHeaderReader.HoldsHeader
    rw [List.length_drop]
    change 20 <= _ ∧ _
    omega
  rcases (hE.reads _).mpr hholds with ⟨⟨hdr, mid⟩, hparse⟩
  rcases takesPayload_of_bounds hE hparse hcover hthere with ⟨payload, hpay⟩
  have hslice : (fromSlice E display).run b =
      .ok { header := headerOf .tcp b, tcpHdr := some hdr, payload := payload }
        (b.drop (lengthWord b)) := by
    apply fromSlice_eq_ok_iff.mpr ⟨.tcp, hheader, _⟩
    rw [tcpHeaderFromPacket_tcp]
    exact ⟨some hdr, payload, mid,
      tcpHeaderFromSlice_eq_ok_iff.mpr ⟨hdr, hparse, rfl⟩, hpay, rfl⟩
  have hstream : forall packet rest,
      (fromReader E ending).run b ≠ .ok packet rest := by
    intro packet rest hread
    rcases fromReader_eq_ok_iff.mp hread with ⟨p, hp', hcompletes⟩
    have htcp : p = .tcp := Option.some.inj (hp'.left.symm.trans hp)
    subst htcp
    rcases hcompletes with ⟨tcpHdr, payload', mid', hfind, _⟩
    have hfive := dataOffset_of_readTcpHeader hE hfind
    change dataOffset (b.drop UsbDevicePacketHeaderV2.size) = 5 at hfive
    rw [hfive] at hwords
    exact Nat.lt_irrefl 5 hwords
  exact ⟨_, hslice, hstream _⟩

/-!
## Inputs that are too short
-/

/-- The slice ends after its protocol and inside its mux header. -/
def CutHeader (b : List UInt8) : Prop :=
  4 <= b.length ∧
    exists p, frameProtocol b = some p ∧
      b.length < UsbDevicePacketHeader.sizeOf p

def announcedLen (b : List UInt8) : UsbDevicePacketProtocol -> Nat
  | .tcp => UsbDevicePacketHeaderV2.size + max TcpHeader.minLen
      (4 * dataOffset (b.drop UsbDevicePacketHeaderV2.size))
  | p => UsbDevicePacketHeader.sizeOf p

def TooShort (b : List UInt8) : Prop :=
  b.length < 4 ∨
    exists p, frameProtocol b = some p ∧ b.length < announcedLen b p

theorem fromSlice_of_headerError {b rest : List UInt8} {err : ParseError}
    (h : UsbDevicePacketHeader.fromSlice.run b = .error err rest) :
    (fromSlice E display).run b = .error err rest := by
  unfold fromSlice
  rw [Reader.run_bind_of_ok (Reader.run_remaining b)]
  exact Reader.run_bind_of_error h _

theorem fromSlice_of_cutHeader {b : List UInt8} (h : CutHeader b) :
    (fromSlice E display).run b = .panicked := by
  rcases h with ⟨hlen, p, hp, hcut⟩
  have hheader := UsbDevicePacketHeader.fromSlice_of_known hlen hp
  rw [if_pos hcut] at hheader
  unfold fromSlice
  rw [Reader.run_bind_of_ok (Reader.run_remaining b)]
  exact Reader.run_bind_of_panicked hheader _

theorem tooShort_of_cutHeader {b : List UInt8} (h : CutHeader b) :
    TooShort b := by
  rcases h with ⟨_, p, hp, hcut⟩
  have hless : b.length < announcedLen b p := by
    cases p with
    | version => exact hcut
    | control => exact hcut
    | setup => exact hcut
    | tcp => exact Nat.lt_of_lt_of_le hcut (Nat.le_add_right _ _)
  exact Or.inr ⟨p, hp, hless⟩

theorem fromSlice_of_cutTcp (hE : E.ByDataOffset) {b : List UInt8}
    (hp : UsbDevicePacketHeader.HeaderAt b .tcp)
    (hcut : b.length < announcedLen b .tcp) :
    exists err rest, (fromSlice E display).run b = .error err rest := by
  cases hparse : E.fromSlice (b.drop UsbDevicePacketHeaderV2.size) with
  | ok parsed =>
      rcases (hE.reads _).mp ⟨parsed, hparse⟩ with ⟨hmin, _, hroom⟩
      rw [List.length_drop] at hmin hroom
      have hmax := Nat.max_le.mpr ⟨hmin, hroom⟩
      have hheader : UsbDevicePacketHeaderV2.size <= b.length := hp.right
      have hannounced := Nat.add_le_of_le_sub' hheader hmax
      exact absurd hcut (Nat.not_lt.mpr hannounced)
  | error err =>
      have htcp : (tcpHeaderFromSlice E display).run
          (b.drop UsbDevicePacketHeaderV2.size) =
          .error (.invalidData
            s!"failed to parse TCP header from slice: {display err}")
            (b.drop UsbDevicePacketHeaderV2.size) := by
        simp only [tcpHeaderFromSlice, hparse]
      rw [fromSlice_of_headerAt E display hp, tcpHeaderFromPacket_tcp]
      exact ⟨_, _, Reader.run_bind_of_error htcp _⟩

theorem fromSlice_of_tooShort (hE : E.ByDataOffset) {b : List UInt8}
    (hshort : TooShort b) (hcut : ¬ CutHeader b) :
    exists err rest, (fromSlice E display).run b = .error err rest := by
  by_cases hlen : b.length < 4
  · exact ⟨_, _, fromSlice_of_headerError
      (UsbDevicePacketHeader.fromSlice_of_short hlen)⟩
  · rcases hshort with hless | ⟨p, hp, hless⟩
    · exact absurd hless hlen
    · have hsize : UsbDevicePacketHeader.sizeOf p <= b.length := by
        by_contra hmore
        exact hcut ⟨Nat.not_lt.mp hlen, p, hp, Nat.lt_of_not_le hmore⟩
      cases p with
      | version => exact absurd hsize (Nat.not_le.mpr hless)
      | control => exact absurd hsize (Nat.not_le.mpr hless)
      | setup => exact absurd hsize (Nat.not_le.mpr hless)
      | tcp => exact fromSlice_of_cutTcp hE ⟨hp, hsize⟩ hless

end

/-!
## When the parsers agree
-/

/-- The parsers accept the same, and a slice that is too short is refused. -/
def ParsersAgree (E : TcpHeaderReader) (ending : IoError)
    (display : TcpHeaderSliceError -> String) (b : List UInt8) : Prop :=
  (forall packet k, (fromSlice E display).Consumes b packet k <->
      (fromReader E ending).Consumes b packet k) ∧
    (TooShort b ->
      exists err rest, (fromSlice E display).run b = .error err rest)

theorem parsersAgree_iff (E : TcpHeaderReader) (hE : E.ByDataOffset)
    (ending : IoError) (display : TcpHeaderSliceError -> String)
    (b : List UInt8) :
    ParsersAgree E ending display b <-> ¬ CutHeader b ∧ ¬ HasOptions b := by
  constructor
  · intro h
    constructor
    · intro hcut
      rcases h.right (tooShort_of_cutHeader hcut) with ⟨err, rest, hrun⟩
      rw [fromSlice_of_cutHeader hcut] at hrun
      cases hrun
    · intro hoptions
      rcases fromSlice_of_hasOptions ending display hE hoptions with
        ⟨packet, hslice, hstream⟩
      have hconsumes : (fromSlice E display).Consumes b packet (lengthWord b) :=
        ⟨hoptions.right.right.right, hslice⟩
      exact hstream _ ((h.left packet (lengthWord b)).mp hconsumes).right
  · intro h
    rcases h with ⟨hcut, hoptions⟩
    constructor
    · intro packet k
      constructor
      · intro hslice
        exact ⟨hslice.left,
          fromReader_of_fromSlice hE hoptions hslice.right⟩
      · intro hstream
        exact ⟨hstream.left, fromSlice_of_fromReader hE hstream.right⟩
    · intro hshort
      exact fromSlice_of_tooShort hE hshort hcut

def emptySegment : List UInt8 :=
  [0, 0, 0, 6, 0, 0, 0, 36, 0xfe, 0xed, 0xfa, 0xce, 0, 1, 0, 1] ++
    [0xf2, 0x7e, 0, 1, 0, 0, 0, 1, 0, 0, 0, 1, 0x50, 0x10, 2, 0, 0, 0, 0, 0]

theorem parsersAgree_iff_emptySegment :
    ParsersAgree .standard { kind := .unexpectedEof } (fun _ => "")
      emptySegment := by
  apply (parsersAgree_iff .standard TcpHeaderReader.standard_byDataOffset
    { kind := .unexpectedEof } (fun _ => "") emptySegment).mpr
  constructor
  · intro h
    rcases h with ⟨_, p, _, hless⟩
    cases p <;> exact absurd hless (by decide)
  · intro h
    exact absurd h.right.left (by decide)

/-- Four bytes with a protocol that the device uses stop the program. -/
theorem not_parsersAgree_protocolOnly :
    ¬ ParsersAgree .standard { kind := .unexpectedEof } (fun _ => "")
      [0, 0, 0, 0] := by
  intro h
  have hcut : CutHeader [0, 0, 0, 0] :=
    ⟨by decide, .version, by decide, by decide⟩
  rcases h.right (tooShort_of_cutHeader hcut) with ⟨err, rest, hrun⟩
  rw [fromSlice_of_cutHeader hcut] at hrun
  cases hrun

end UsbDevicePacket

end Parser
end Rusbmux
