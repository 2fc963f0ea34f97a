import Rusbmux.Parser.DeviceMux

/-!
# What a device frame's words say about reading it

`UsbDevicePacket.fromReader` reads a frame in several steps, and each step can
fail with a different number of bytes taken from the stream.  The verdict below
is computed from the words of the frame alone; `fromReader_verdict` shows that
it is what the reader does, for every stream and every TCP header reader.
-/

namespace Rusbmux
namespace Parser

open Foundation

/-!
## The words of a frame
-/

def protocolWord (s : List UInt8) : Nat :=
  beNat (field s 0 4)

def lengthWord (s : List UInt8) : Nat :=
  beNat (field s 4 4)

def frameProtocol (s : List UInt8) : Option UsbDevicePacketProtocol :=
  UsbDevicePacketProtocol.ofNat? (protocolWord s)

def tcpSlice (s : List UInt8) : List UInt8 :=
  field s UsbDevicePacketHeaderV2.size TcpHeader.minLen

def headersLen : UsbDevicePacketProtocol -> Nat
  | .version => UsbDevicePacketHeaderV1.size
  | .control | .setup => UsbDevicePacketHeaderV2.size
  | .tcp => UsbDevicePacketHeaderV2.size + TcpHeader.minLen

def tcpReadable (E : TcpHeaderReader) (p : UsbDevicePacketProtocol)
    (s : List UInt8) : Bool :=
  match p with
  | .tcp => (E.fromSlice (tcpSlice s)).isOk
  | _ => true

def payloadFits (p : UsbDevicePacketProtocol) (s : List UInt8) : Bool :=
  match p with
  | .version =>
      lengthWord s = UsbDevicePacketHeaderV1.size + UsbDevicePacketVersion.size
  | _ => true

inductive FrameVerdict where
  | ends
  | rejected (taken : Nat)
  | misSized
  | accepted (p : UsbDevicePacketProtocol) (taken : Nat)
deriving DecidableEq, Repr

def frameVerdict (E : TcpHeaderReader) (s : List UInt8) : FrameVerdict :=
  if s.length < UsbDevicePacketHeaderV1.size then .ends
  else
    match frameProtocol s with
    | none => .rejected UsbDevicePacketHeaderV1.size
    | some p =>
        if s.length < headersLen p then .ends
        else if tcpReadable E p s = false then .rejected (headersLen p)
        else if lengthWord s < headersLen p then .rejected (headersLen p)
        else if s.length < lengthWord s then .ends
        else if payloadFits p s = false then .misSized
        else .accepted p (lengthWord s)

/-!
## Cases of the verdict
-/

theorem frameVerdict_cases (E : TcpHeaderReader) (s : List UInt8) :
    frameVerdict E s = .ends ∨
      (exists n, frameVerdict E s = .rejected n) ∨
      exists p, frameProtocol s = some p ∧ headersLen p <= lengthWord s ∧
        lengthWord s <= s.length ∧ tcpReadable E p s = true ∧
        frameVerdict E s =
          if payloadFits p s = false then .misSized
          else .accepted p (lengthWord s) := by
  unfold frameVerdict
  by_cases hshort : s.length < UsbDevicePacketHeaderV1.size
  · exact Or.inl (if_pos hshort)
  rw [if_neg hshort]
  cases hp : frameProtocol s with
  | none => exact Or.inr (Or.inl ⟨_, rfl⟩)
  | some p =>
      simp only
      by_cases hends : s.length < headersLen p
      · exact Or.inl (if_pos hends)
      rw [if_neg hends]
      cases hreadable : tcpReadable E p s with
      | false => exact Or.inr (Or.inl ⟨_, if_pos rfl⟩)
      | true =>
          rw [if_neg (by simp)]
          by_cases hlt : lengthWord s < headersLen p
          · exact Or.inr (Or.inl ⟨_, if_pos hlt⟩)
          rw [if_neg hlt]
          by_cases hcut : s.length < lengthWord s
          · exact Or.inl (if_pos hcut)
          rw [if_neg hcut]
          exact Or.inr (Or.inr ⟨p, rfl, Nat.not_lt.mp hlt, Nat.not_lt.mp hcut,
            hreadable, rfl⟩)

theorem headerV1_le_headersLen (p : UsbDevicePacketProtocol) :
    UsbDevicePacketHeaderV1.size <= headersLen p := by
  cases p <;> decide

theorem frameVerdict_of_complete (E : TcpHeaderReader) {s : List UInt8}
    {p : UsbDevicePacketProtocol} (hp : frameProtocol s = some p)
    (hcover : headersLen p <= lengthWord s)
    (hthere : lengthWord s <= s.length) :
    frameVerdict E s =
      if tcpReadable E p s = false then .rejected (headersLen p)
      else if payloadFits p s = false then .misSized
      else .accepted p (lengthWord s) := by
  have hheaders : headersLen p <= s.length := Nat.le_trans hcover hthere
  have height := Nat.le_trans (headerV1_le_headersLen p) hheaders
  unfold frameVerdict
  rw [if_neg (Nat.not_lt.mpr height), hp]
  simp only
  rw [if_neg (Nat.not_lt.mpr hheaders), if_neg (Nat.not_lt.mpr hcover),
    if_neg (Nat.not_lt.mpr hthere)]

theorem frameVerdict_of_unknown (E : TcpHeaderReader) {s : List UInt8}
    (hp : frameProtocol s = none)
    (hlen : UsbDevicePacketHeaderV1.size <= s.length) :
    frameVerdict E s = .rejected UsbDevicePacketHeaderV1.size := by
  unfold frameVerdict
  rw [if_neg (Nat.not_lt.mpr hlen), hp]

def MisSizedVersion (s : List UInt8) : Prop :=
  frameProtocol s = some .version ∧
    UsbDevicePacketHeaderV1.size <= lengthWord s ∧
    lengthWord s <= s.length ∧
    lengthWord s ≠ UsbDevicePacketHeaderV1.size + UsbDevicePacketVersion.size

def VersionFrame (s : List UInt8) : Prop :=
  frameProtocol s = some .version ∧ lengthWord s <= s.length ∧
    lengthWord s = UsbDevicePacketHeaderV1.size + UsbDevicePacketVersion.size

theorem payloadFits_eq_false_iff (p : UsbDevicePacketProtocol)
    (s : List UInt8) :
    payloadFits p s = false <->
      p = .version ∧ lengthWord s ≠
        UsbDevicePacketHeaderV1.size + UsbDevicePacketVersion.size := by
  cases p <;> simp [payloadFits]

theorem frameVerdict_eq_misSized_iff (E : TcpHeaderReader) (s : List UInt8) :
    frameVerdict E s = .misSized <-> MisSizedVersion s := by
  constructor
  · intro h
    rcases frameVerdict_cases E s with hends | ⟨n, hrejected⟩ |
      ⟨p, hp, hcover, hthere, _, hverdict⟩
    · rw [hends] at h
      cases h
    · rw [hrejected] at h
      cases h
    · rw [hverdict] at h
      by_cases hfits : payloadFits p s = false
      · rcases (payloadFits_eq_false_iff p s).mp hfits with ⟨rfl, hsize⟩
        exact ⟨hp, hcover, hthere, hsize⟩
      · rw [if_neg hfits] at h
        cases h
  · intro h
    rcases h with ⟨hp, hcover, hthere, hsize⟩
    rw [frameVerdict_of_complete E hp hcover hthere,
      if_neg (by simp [tcpReadable]),
      if_pos ((payloadFits_eq_false_iff _ s).mpr ⟨rfl, hsize⟩)]

theorem frameVerdict_eq_accepted_version_iff (E : TcpHeaderReader)
    (s : List UInt8) (taken : Nat) :
    frameVerdict E s = .accepted .version taken <->
      VersionFrame s ∧ taken = lengthWord s := by
  constructor
  · intro h
    rcases frameVerdict_cases E s with hends | ⟨n, hrejected⟩ |
      ⟨p, hp, _, hthere, _, hverdict⟩
    · rw [hends] at h
      cases h
    · rw [hrejected] at h
      cases h
    · rw [hverdict] at h
      by_cases hfits : payloadFits p s = false
      · rw [if_pos hfits] at h
        cases h
      · rw [if_neg hfits] at h
        cases h
        refine ⟨⟨hp, hthere, ?_⟩, rfl⟩
        by_contra hsize
        exact hfits ((payloadFits_eq_false_iff _ s).mpr ⟨rfl, hsize⟩)
  · intro h
    rcases h with ⟨⟨hp, hthere, hsize⟩, rfl⟩
    have hcover : headersLen .version <= lengthWord s := by
      rw [hsize]
      decide
    rw [frameVerdict_of_complete E hp hcover hthere,
      if_neg (by simp [tcpReadable]), if_neg]
    intro hfits
    exact ((payloadFits_eq_false_iff _ s).mp hfits).right hsize

/-!
## The header
-/

theorem toNat_lengthWord (s : List UInt8) :
    (UInt32.ofNat (lengthWord s)).toNat = lengthWord s := by
  have hlt : lengthWord s < 256 ^ 4 := beNat_field_lt s 4 4
  rw [UInt32.toNat_ofNat']
  exact Nat.mod_eq_of_lt hlt

theorem fromU32Unchecked_protocolWord (s : List UInt8) :
    UsbDevicePacketProtocol.fromU32Unchecked (.ofNat (protocolWord s)) =
      frameProtocol s := by
  have hlt : protocolWord s < 256 ^ 4 := beNat_field_lt s 0 4
  unfold UsbDevicePacketProtocol.fromU32Unchecked frameProtocol
  rw [UInt32.toNat_ofNat']
  exact congrArg UsbDevicePacketProtocol.ofNat? (Nat.mod_eq_of_lt hlt)

def headerOf : UsbDevicePacketProtocol -> List UInt8 -> UsbDevicePacketHeader
  | .version, s => .v1 (.decode (s.take UsbDevicePacketHeaderV1.size))
  | _, s => .v2 (.decode (s.take UsbDevicePacketHeaderV2.size))

theorem headerOf_getProtocol (p : UsbDevicePacketProtocol) (s : List UInt8) :
    (headerOf p s).getProtocol = frameProtocol s := by
  have hv1 : field (s.take UsbDevicePacketHeaderV1.size) 0 4 = field s 0 4 :=
    field_take (by decide)
  have hv2 : field (s.take UsbDevicePacketHeaderV2.size) 0 4 = field s 0 4 :=
    field_take (by decide)
  rw [← fromU32Unchecked_protocolWord]
  cases p <;>
    simp [headerOf, UsbDevicePacketHeader.getProtocol,
      UsbDevicePacketHeaderV1.decode, UsbDevicePacketHeaderV2.decode,
      hv1, hv2, protocolWord]

theorem headerOf_getLength (p : UsbDevicePacketProtocol) (s : List UInt8) :
    (headerOf p s).getLength.toNat = lengthWord s := by
  have hv1 : field (s.take UsbDevicePacketHeaderV1.size) 4 4 = field s 4 4 :=
    field_take (by decide)
  have hv2 : field (s.take UsbDevicePacketHeaderV2.size) 4 4 = field s 4 4 :=
    field_take (by decide)
  rw [← toNat_lengthWord]
  cases p <;>
    simp [headerOf, UsbDevicePacketHeader.getLength,
      UsbDevicePacketHeaderV1.decode, UsbDevicePacketHeaderV2.decode,
      hv1, hv2, lengthWord]

namespace UsbDevicePacketHeader

def sizeOf : UsbDevicePacketProtocol -> Nat
  | .version => UsbDevicePacketHeaderV1.size
  | _ => UsbDevicePacketHeaderV2.size

theorem headerOf_size (p : UsbDevicePacketProtocol) (s : List UInt8) :
    (headerOf p s).size = sizeOf p := by
  cases p <;> rfl

theorem fromReader_of_short (ending : IoError) {s : List UInt8}
    (h : s.length < UsbDevicePacketHeaderV1.size) :
    (fromReader ending).run s = .error (.io ending) [] := by
  unfold fromReader
  exact Reader.run_bind_of_error (Reader.run_readExact_of_lt _ h) _

theorem new_first (s : List UInt8) :
    UsbDevicePacketProtocol.new
        (field (s.take UsbDevicePacketHeaderV1.size) 0 4) =
      match frameProtocol s with
      | some p => .ok p
      | none => .error (.invalidData
          s!"`{protocolWord s}` is not a valid device mux protocol") := by
  rw [field_take (by decide)]
  rfl

theorem fromReader_of_unknown (ending : IoError) {s : List UInt8}
    (hlen : UsbDevicePacketHeaderV1.size <= s.length)
    (hp : frameProtocol s = none) :
    exists e : ParseError, e.isIo = false ∧
      (fromReader ending).run s =
        .error e (s.drop UsbDevicePacketHeaderV1.size) := by
  refine ⟨.invalidData s!"`{protocolWord s}` is not a valid device mux protocol",
    rfl, ?_⟩
  unfold fromReader
  rw [Reader.run_bind_of_ok (Reader.run_readExact_of_le _ hlen)]
  rw [new_first, hp]
  rfl

theorem run_second_half (ending : IoError) {s : List UInt8}
    (hlen : UsbDevicePacketHeaderV1.size <= s.length) :
    (do
      let second <- Reader.readExact (ParseError.io ending)
        (UsbDevicePacketHeaderV2.size - UsbDevicePacketHeaderV1.size)
      pure (v2 (.decode (s.take UsbDevicePacketHeaderV1.size ++ second))) :
        Reader ParseError UsbDevicePacketHeader).run
        (s.drop UsbDevicePacketHeaderV1.size) =
      if s.length < UsbDevicePacketHeaderV2.size then .error (.io ending) []
      else .ok (.v2 (.decode (s.take UsbDevicePacketHeaderV2.size)))
        (s.drop UsbDevicePacketHeaderV2.size) := by
  have hdrop : (s.drop UsbDevicePacketHeaderV1.size).length = s.length - 8 := by
    simp [UsbDevicePacketHeaderV1.size]
  change 8 <= s.length at hlen
  by_cases hshort : s.length < UsbDevicePacketHeaderV2.size
  · rw [if_pos hshort]
    change s.length < 16 at hshort
    refine Reader.run_bind_of_error (Reader.run_readExact_of_lt _ ?_) _
    show _ < 8
    omega
  · rw [if_neg hshort]
    change ¬ s.length < 16 at hshort
    rw [Reader.run_bind_of_ok (Reader.run_readExact_of_le _ (by
      show 8 <= _
      omega))]
    have htake : s.take UsbDevicePacketHeaderV1.size ++
        (s.drop UsbDevicePacketHeaderV1.size).take
          (UsbDevicePacketHeaderV2.size - UsbDevicePacketHeaderV1.size) =
        s.take UsbDevicePacketHeaderV2.size :=
      (List.take_add (l := s) (i := 8) (j := 8)).symm
    rw [htake, List.drop_drop]
    rfl

theorem fromReader_of_known (ending : IoError) {s : List UInt8}
    {p : UsbDevicePacketProtocol}
    (hlen : UsbDevicePacketHeaderV1.size <= s.length)
    (hp : frameProtocol s = some p) :
    (fromReader ending).run s =
      if s.length < sizeOf p then .error (.io ending) []
      else .ok (headerOf p s) (s.drop (sizeOf p)) := by
  unfold fromReader
  rw [Reader.run_bind_of_ok (Reader.run_readExact_of_le _ hlen)]
  rw [new_first, hp, Reader.run_bind_of_ok (Reader.run_ofExcept_ok _ _)]
  cases p with
  | version =>
      have hnot : ¬ s.length < sizeOf .version := Nat.not_lt.mpr hlen
      rw [if_neg hnot]
      rfl
  | control => exact run_second_half ending hlen
  | setup => exact run_second_half ending hlen
  | tcp => exact run_second_half ending hlen

def HeaderAt (s : List UInt8) (p : UsbDevicePacketProtocol) : Prop :=
  frameProtocol s = some p ∧ sizeOf p <= s.length

theorem fromReader_of_header (ending : IoError) {s : List UInt8}
    {p : UsbDevicePacketProtocol} (h : HeaderAt s p) :
    (fromReader ending).run s = .ok (headerOf p s) (s.drop (sizeOf p)) := by
  have hlen : UsbDevicePacketHeaderV1.size <= s.length := by
    apply Nat.le_trans _ h.right
    cases p <;> decide
  rw [fromReader_of_known ending hlen h.left, if_neg (Nat.not_lt.mpr h.right)]

theorem headerAt_of_headersLen {s : List UInt8} {p : UsbDevicePacketProtocol}
    (hp : frameProtocol s = some p) (hlen : headersLen p <= s.length) :
    HeaderAt s p := by
  have hle : sizeOf p <= headersLen p := by
    cases p <;> decide
  exact ⟨hp, Nat.le_trans hle hlen⟩

end UsbDevicePacketHeader

/-!
## The TCP header and the payload
-/

namespace UsbDevicePacket

theorem readTcpHeader_run (E : TcpHeaderReader) (ending : IoError)
    {s : List UInt8} (p : UsbDevicePacketProtocol)
    (hlen : headersLen p <= s.length) :
    (tcpReadable E p s = false ->
      exists e : ParseError, e.isIo = false ∧
        (readTcpHeader E ending p).run
            (s.drop (UsbDevicePacketHeader.sizeOf p)) =
          .error e (s.drop (headersLen p))) ∧
    (tcpReadable E p s = true ->
      exists tcpHdr : Option TcpHeader,
        UsbDevicePacketHeader.sizeOf p + tcpHdr.elim 0 TcpHeader.headerLen =
          headersLen p ∧
        (readTcpHeader E ending p).run
            (s.drop (UsbDevicePacketHeader.sizeOf p)) =
          .ok tcpHdr (s.drop (headersLen p))) := by
  cases p with
  | version =>
      constructor
      · intro h
        cases h
      · intro _
        exact ⟨none, rfl, rfl⟩
  | control =>
      constructor
      · intro h
        cases h
      · intro _
        exact ⟨none, rfl, rfl⟩
  | setup =>
      constructor
      · intro h
        cases h
      · intro _
        exact ⟨none, rfl, rfl⟩
  | tcp =>
      change 36 <= s.length at hlen
      have hread :
          (Reader.readExact (ParseError.io ending) TcpHeader.minLen).run
              (s.drop UsbDevicePacketHeaderV2.size) =
            .ok (tcpSlice s) (s.drop (headersLen .tcp)) := by
        have hroom : TcpHeader.minLen <=
            (s.drop UsbDevicePacketHeaderV2.size).length := by
          rw [List.length_drop]
          show 20 <= s.length - 16
          omega
        rw [Reader.run_readExact_of_le _ hroom, List.drop_drop]
        rfl
      have hslice : (tcpSlice s).length = TcpHeader.minLen := by
        simp [tcpSlice, field, UsbDevicePacketHeaderV2.size, TcpHeader.minLen]
        omega
      constructor
      · intro hbad
        cases hparse : E.fromSlice (tcpSlice s) with
        | ok parsed =>
            simp [tcpReadable, hparse, Except.isOk, Except.toBool] at hbad
        | error e =>
            refine ⟨.tcpHeaderSlice e, rfl, ?_⟩
            unfold readTcpHeader
            show (Reader.readExact _ _ >>= _).run
              (s.drop UsbDevicePacketHeaderV2.size) = _
            rw [Reader.run_bind_of_ok hread, hparse]
            rfl
      · intro hgood
        cases hparse : E.fromSlice (tcpSlice s) with
        | error e =>
            simp [tcpReadable, hparse, Except.isOk, Except.toBool] at hgood
        | ok parsed =>
            refine ⟨some parsed.fst, ?_, ?_⟩
            · show 16 + parsed.fst.headerLen = 36
              rw [E.headerLen_of_minLen hslice hparse]
              rfl
            · unfold readTcpHeader
              show (Reader.readExact _ _ >>= _).run
                (s.drop UsbDevicePacketHeaderV2.size) = _
              rw [Reader.run_bind_of_ok hread, hparse]
              rfl

end UsbDevicePacket

namespace UsbDevicePacketPayload

def isVersion : UsbDevicePacketPayload -> Bool
  | version _ => true
  | _ => false

/--
Decoding only panics on a version payload of another size: the indexing of a
control payload stays inside the slice its length was matched on.
-/
theorem decode_eq_none_iff (payload : List UInt8)
    (p : UsbDevicePacketProtocol) :
    decode payload p = none <->
      p = .version ∧ payload.length ≠ UsbDevicePacketVersion.size := by
  cases p with
  | version =>
      unfold decode
      rw [Option.map_eq_none_iff, UsbDevicePacketVersion.decode_eq_none_iff]
      simp
  | setup => simp [decode]
  | tcp => simp [decode]
  | control =>
      rcases payload with _ | ⟨code, _ | ⟨b, rest⟩⟩
      · simp [decode]
      · simp [decode]
      · simp [decode, sliceFrom]

theorem decode_isVersion {payload : List UInt8} {p : UsbDevicePacketProtocol}
    {v : UsbDevicePacketPayload} (h : decode payload p = some v) :
    v.isVersion = true <-> p = .version := by
  cases p with
  | version =>
      rcases Option.map_eq_some_iff.mp h with ⟨record, _, rfl⟩
      simp [isVersion]
  | setup =>
      cases h
      simp [isVersion]
  | tcp =>
      cases h
      simp [isVersion]
  | control =>
      rcases payload with _ | ⟨code, _ | ⟨b, rest⟩⟩
      · cases h
        simp [isVersion]
      · cases h
        simp [isVersion]
      · cases h
        simp [isVersion]

end UsbDevicePacketPayload

namespace UsbDevicePacket

theorem readPayload_of_lt (ending : IoError) {s : List UInt8}
    (rest : List UInt8) {p : UsbDevicePacketProtocol}
    {tcpHdr : Option TcpHeader}
    (hsize : UsbDevicePacketHeader.sizeOf p +
      tcpHdr.elim 0 TcpHeader.headerLen = headersLen p)
    (hlt : lengthWord s < headersLen p) :
    exists e : ParseError, e.isIo = false ∧
      (readPayload ending (headerOf p s) p tcpHdr).run rest =
        .error e rest := by
  unfold readPayload
  simp only [UsbDevicePacketHeader.headerOf_size, headerOf_getLength, hsize,
    if_pos hlt]
  exact ⟨_, rfl, rfl⟩

theorem readPayload_of_le (ending : IoError) {s rest : List UInt8}
    {p : UsbDevicePacketProtocol} {tcpHdr : Option TcpHeader}
    (hsize : UsbDevicePacketHeader.sizeOf p +
      tcpHdr.elim 0 TcpHeader.headerLen = headersLen p)
    (hle : headersLen p <= lengthWord s) :
    (readPayload ending (headerOf p s) p tcpHdr).run rest =
      (do
        let payload <- Reader.readExact (ParseError.io ending)
          (lengthWord s - headersLen p)
        Reader.orPanic (UsbDevicePacketPayload.decode payload p)).run rest := by
  unfold readPayload
  simp only [UsbDevicePacketHeader.headerOf_size, headerOf_getLength, hsize,
    if_neg (Nat.not_lt.mpr hle)]
  have hsub : usizeSub (lengthWord s) (headersLen p) =
      some (lengthWord s - headersLen p) := by
    simp [usizeSub, hle]
  rw [hsub, Reader.run_bind_of_ok (Reader.run_orPanic_some _ _)]

/-!
## The verdict is what the reader does
-/

def AgreesWith (ending : IoError) (s : List UInt8)
    (out : Outcome ParseError UsbDevicePacket) : FrameVerdict -> Prop
  | .ends => out = .error (.io ending) []
  | .rejected n =>
      exists e : ParseError, e.isIo = false ∧ out = .error e (s.drop n)
  | .misSized => out = .panicked
  | .accepted p n =>
      exists packet : UsbDevicePacket, out = .ok packet (s.drop n) ∧
        (packet.payload.isVersion = true <-> p = .version)

theorem fromReader_of_headerAt (E : TcpHeaderReader) (ending : IoError)
    {s : List UInt8} {p : UsbDevicePacketProtocol}
    (h : UsbDevicePacketHeader.HeaderAt s p) :
    (fromReader E ending).run s =
      (do
        let tcpHdr <- readTcpHeader E ending p
        let payload <- readPayload ending (headerOf p s) p tcpHdr
        pure { header := headerOf p s, tcpHdr := tcpHdr, payload := payload } :
          Reader ParseError UsbDevicePacket).run
        (s.drop (UsbDevicePacketHeader.sizeOf p)) := by
  unfold fromReader
  rw [Reader.run_bind_of_ok
      (UsbDevicePacketHeader.fromReader_of_header ending h),
    headerOf_getProtocol, h.left,
    Reader.run_bind_of_ok (Reader.run_orPanic_some _ _)]

theorem run_payload_verdict (ending : IoError) {s : List UInt8}
    {p : UsbDevicePacketProtocol} (tcpHdr : Option TcpHeader)
    (hle : headersLen p <= lengthWord s) (hlen : headersLen p <= s.length) :
    AgreesWith ending s
      ((do
        let payload <- (do
          let payload <- Reader.readExact (ParseError.io ending)
            (lengthWord s - headersLen p)
          Reader.orPanic (UsbDevicePacketPayload.decode payload p))
        pure { header := headerOf p s, tcpHdr := tcpHdr, payload := payload } :
          Reader ParseError UsbDevicePacket).run (s.drop (headersLen p)))
      (if s.length < lengthWord s then .ends
        else if payloadFits p s = false then .misSized
        else .accepted p (lengthWord s)) := by
  have hrest : (s.drop (headersLen p)).length = s.length - headersLen p :=
    List.length_drop
  by_cases hshort : s.length < lengthWord s
  · rw [if_pos hshort]
    have hread := Reader.run_readExact_of_lt (ParseError.io ending)
      (show (s.drop (headersLen p)).length < lengthWord s - headersLen p by
        omega)
    exact Reader.run_bind_of_error (Reader.run_bind_of_error hread _) _
  · rw [if_neg hshort]
    have hread := Reader.run_readExact_of_le (ParseError.io ending)
      (show lengthWord s - headersLen p <= (s.drop (headersLen p)).length by
        omega)
    have hdrop : (s.drop (headersLen p)).drop (lengthWord s - headersLen p) =
        s.drop (lengthWord s) := by
      rw [List.drop_drop]
      congr 1
      omega
    have hpayload : ((s.drop (headersLen p)).take
        (lengthWord s - headersLen p)).length = lengthWord s - headersLen p := by
      rw [List.length_take]
      omega
    have hfits : payloadFits p s = false <->
        p = .version ∧ lengthWord s - headersLen p ≠
          UsbDevicePacketVersion.size := by
      cases p with
      | version =>
          change 8 <= lengthWord s at hle
          show decide (lengthWord s = 20) = false <->
            _ ∧ lengthWord s - 8 ≠ 12
          simp
          omega
      | control => simp [payloadFits]
      | setup => simp [payloadFits]
      | tcp => simp [payloadFits]
    cases hdecode : UsbDevicePacketPayload.decode
        ((s.drop (headersLen p)).take (lengthWord s - headersLen p)) p with
    | none =>
        have hbad := (UsbDevicePacketPayload.decode_eq_none_iff _ _).mp hdecode
        rw [hpayload] at hbad
        rw [if_pos (hfits.mpr hbad)]
        refine Reader.run_bind_of_panicked ?_ _
        rw [Reader.run_bind_of_ok hread, hdecode]
        rfl
    | some v =>
        have hgood : ¬ payloadFits p s = false := by
          intro hbad
          have hnone := (UsbDevicePacketPayload.decode_eq_none_iff
            ((s.drop (headersLen p)).take (lengthWord s - headersLen p)) p).mpr
              (by rw [hpayload]; exact hfits.mp hbad)
          rw [hdecode] at hnone
          cases hnone
        rw [if_neg hgood]
        refine ⟨{ header := headerOf p s, tcpHdr := tcpHdr, payload := v },
          ?_, UsbDevicePacketPayload.decode_isVersion hdecode⟩
        have hinner := Reader.run_bind_of_ok hread fun payload =>
          (Reader.orPanic (UsbDevicePacketPayload.decode payload p) :
            Reader ParseError UsbDevicePacketPayload)
        rw [hdecode, Reader.run_orPanic_some, hdrop] at hinner
        rw [Reader.run_bind_of_ok hinner, Reader.run_pure]

theorem fromReader_of_cut (E : TcpHeaderReader) (ending : IoError)
    {s : List UInt8} {p : UsbDevicePacketProtocol}
    (height : UsbDevicePacketHeaderV1.size <= s.length)
    (hp : frameProtocol s = some p) (hcut : s.length < headersLen p) :
    (fromReader E ending).run s = .error (.io ending) [] := by
  by_cases hmux : s.length < UsbDevicePacketHeader.sizeOf p
  · have hheader :=
      UsbDevicePacketHeader.fromReader_of_known ending height hp
    rw [if_pos hmux] at hheader
    unfold fromReader
    exact Reader.run_bind_of_error hheader _
  · -- only a TCP frame has headers after the mux header
    have htcp : p = .tcp := by
      cases p with
      | tcp => rfl
      | version => exact absurd hcut hmux
      | control => exact absurd hcut hmux
      | setup => exact absurd hcut hmux
    subst p
    have hread := Reader.run_readExact_of_lt (ParseError.io ending)
      (show (s.drop UsbDevicePacketHeaderV2.size).length < TcpHeader.minLen by
        rw [List.length_drop]
        change ¬ s.length < 16 at hmux
        change s.length < 36 at hcut
        show s.length - 16 < 20
        omega)
    rw [fromReader_of_headerAt E ending ⟨hp, Nat.not_lt.mp hmux⟩]
    exact Reader.run_bind_of_error (Reader.run_bind_of_error hread _) _

theorem fromReader_verdict (E : TcpHeaderReader) (ending : IoError)
    (s : List UInt8) :
    AgreesWith ending s ((fromReader E ending).run s) (frameVerdict E s) := by
  unfold frameVerdict
  by_cases hshort : s.length < UsbDevicePacketHeaderV1.size
  · rw [if_pos hshort]
    unfold fromReader
    exact Reader.run_bind_of_error
      (UsbDevicePacketHeader.fromReader_of_short ending hshort) _
  · rw [if_neg hshort]
    have height : UsbDevicePacketHeaderV1.size <= s.length :=
      Nat.not_lt.mp hshort
    cases hp : frameProtocol s with
    | none =>
        rcases UsbDevicePacketHeader.fromReader_of_unknown ending height hp with
          ⟨e, he, hheader⟩
        refine ⟨e, he, ?_⟩
        unfold fromReader
        exact Reader.run_bind_of_error hheader _
    | some p =>
        by_cases hends : s.length < headersLen p
        · simp only [if_pos hends]
          exact fromReader_of_cut E ending height hp hends
        · simp only [if_neg hends]
          have hlen : headersLen p <= s.length := Nat.not_lt.mp hends
          rcases readTcpHeader_run E ending p hlen with ⟨hbad, hgood⟩
          rw [fromReader_of_headerAt E ending
            (UsbDevicePacketHeader.headerAt_of_headersLen hp hlen)]
          cases hreadable : tcpReadable E p s with
          | false =>
              rcases hbad hreadable with ⟨e, he, hrun⟩
              exact ⟨e, he, Reader.run_bind_of_error hrun _⟩
          | true =>
              rcases hgood hreadable with ⟨tcpHdr, hsize, hrun⟩
              rw [Reader.run_bind_of_ok hrun]
              by_cases hlt : lengthWord s < headersLen p
              · rcases readPayload_of_lt ending (s.drop (headersLen p))
                  hsize hlt with ⟨e, he, hpayload⟩
                rw [if_pos hlt]
                exact ⟨e, he, Reader.run_bind_of_error hpayload _⟩
              · rw [if_neg hlt]
                have hle : headersLen p <= lengthWord s := Nat.not_lt.mp hlt
                have hverdict := run_payload_verdict ending tcpHdr hle hlen
                rw [Reader.run_bind] at hverdict ⊢
                rw [readPayload_of_le ending hsize hle]
                exact hverdict

end UsbDevicePacket

/-!
## Complete frames
-/

def minFrameLen (s : List UInt8) : Nat :=
  (frameProtocol s).elim UsbDevicePacketHeaderV1.size headersLen

/--
A frame whose length word is its length and covers its fixed headers, whatever
its protocol word, its TCP header and its payload are.
-/
structure DeviceFrame where
  bytes : List UInt8
  length_eq : lengthWord bytes = bytes.length
  minFrameLen_le : minFrameLen bytes <= bytes.length

namespace DeviceFrame

theorem headerV1_le (f : DeviceFrame) :
    UsbDevicePacketHeaderV1.size <= f.bytes.length := by
  refine Nat.le_trans ?_ f.minFrameLen_le
  unfold minFrameLen
  cases frameProtocol f.bytes with
  | none => exact Nat.le_refl _
  | some p => exact headerV1_le_headersLen p

/--
The frame is read to its end: by its protocol and headers, or because the
reader refuses it after exactly its length.
-/
def ReadToEnd (E : TcpHeaderReader) (f : DeviceFrame) : Prop :=
  match frameProtocol f.bytes with
  | none => f.bytes.length = UsbDevicePacketHeaderV1.size
  | some .version =>
      f.bytes.length =
        UsbDevicePacketHeaderV1.size + UsbDevicePacketVersion.size
  | some .tcp =>
      (exists parsed, E.fromSlice (tcpSlice f.bytes) = .ok parsed) ∨
        f.bytes.length = UsbDevicePacketHeaderV2.size + TcpHeader.minLen
  | some _ => True

/-!
### A frame at the front of a stream has the words it has on its own
-/

theorem frameProtocol_append (f : DeviceFrame) (later : List UInt8) :
    frameProtocol (f.bytes ++ later) = frameProtocol f.bytes := by
  have height : 8 <= f.bytes.length := f.headerV1_le
  unfold frameProtocol protocolWord
  rw [field_append_of_le (by omega)]

theorem lengthWord_append (f : DeviceFrame) (later : List UInt8) :
    lengthWord (f.bytes ++ later) = f.bytes.length := by
  have height : 8 <= f.bytes.length := f.headerV1_le
  rw [← f.length_eq]
  unfold lengthWord
  rw [field_append_of_le (by omega)]

theorem headersLen_le (f : DeviceFrame) {p : UsbDevicePacketProtocol}
    (hp : frameProtocol f.bytes = some p) :
    headersLen p <= f.bytes.length := by
  have hmin := f.minFrameLen_le
  unfold minFrameLen at hmin
  rw [hp] at hmin
  exact hmin

theorem tcpReadable_append (E : TcpHeaderReader) (f : DeviceFrame)
    {p : UsbDevicePacketProtocol} (hp : frameProtocol f.bytes = some p)
    (later : List UInt8) :
    tcpReadable E p (f.bytes ++ later) = tcpReadable E p f.bytes := by
  cases p with
  | version => rfl
  | control => rfl
  | setup => rfl
  | tcp =>
      have hlen : 36 <= f.bytes.length := f.headersLen_le hp
      have hslice : tcpSlice (f.bytes ++ later) = tcpSlice f.bytes :=
        field_append_of_le hlen later
      unfold tcpReadable
      rw [hslice]

end DeviceFrame

end Parser
end Rusbmux
