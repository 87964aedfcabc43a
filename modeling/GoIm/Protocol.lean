/-
The frame codec of package `protocol`: `Pack` and `Unpack` (`pkg/redis/client.go`).

A frame is an 8-byte big-endian header `Length | Version | CmdType` followed by
`Length - 4` body bytes.  `Unpack` reads from a reader through `io.ReadFull`; a
reader is modelled by the chunks its successive `Read` calls return, so a list of
chunks is one split of a byte stream across reads, and every split is one.

* `readFull_of_flatten` — `io.ReadFull` returns the first `n` bytes of the stream,
  however the stream is split, and leaves the reader at the rest;
* `unpack_pack` — `Unpack` reads back the frame `Pack` wrote, whatever follows it;
* `unpackN_pack_stream` — repeated `Unpack` over a stream of packed frames returns
  the messages in order and stops exactly at the bytes after them;
* `UnpackSpec`, `unpack_spec` — what `Unpack` does with every stream, by the header's
  `Length` field `L`: a read error inside the header or the body, `ErrInvalidHeader`
  for `L < 4`, `ErrPayloadTooLarge` for `L - 4 > MaxPayloadLength`, else the frame of
  `L + 4` bytes;
* `pack_unpack_iff_version` — `Pack` writes back the bytes `Unpack` consumed exactly
  when the frame's `Version` is `ProtocolVersion`, which `Unpack` never checks
  (`unpack_accepts_foreign_version`).

Design notes: the `bufio.Reader` that `handleConnection` puts between the socket and
`Unpack` changes only how the stream is split across reads, so it is absorbed in the
choice of chunks.  The `nil` body of an empty frame is the empty list.
-/
import Mathlib

namespace GoIm

/-- `HeaderLength`: Length(4) + Version(2) + CmdType(2). -/
def headerLength : Nat := 8

/-- `MaxPayloadLength`: the largest body a frame may carry (1 MiB). -/
def maxPayloadLength : Nat := 1024 * 1024

/-- `ProtocolVersion`. -/
def protocolVersion : UInt16 := 1

def cmdTypeHeartbeat : UInt16 := 1
def cmdTypeAuth : UInt16 := 2
def cmdTypeAuthAck : UInt16 := 3
def cmdTypeMessage : UInt16 := 4
def cmdTypeMessageAck : UInt16 := 5
def cmdTypeKick : UInt16 := 6

/-- A protocol message (`protocol.Message`). -/
structure Message where
  length : UInt32
  version : UInt16
  cmdType : UInt16
  body : List UInt8
  deriving DecidableEq, Repr

/-- The errors of the codec: `ErrPayloadTooLarge`, `ErrInvalidHeader`, and the
`io.EOF` / `io.ErrUnexpectedEOF` that `io.ReadFull` reports. -/
inductive ProtoError where
  | payloadTooLarge
  | invalidHeader
  | eof
  | unexpectedEOF
  deriving DecidableEq, Repr

/-! ## Big-endian fields -/

/-- `binary.BigEndian.PutUint32`: the bytes of `v`, most significant first. -/
def putUint32 (v : UInt32) : List UInt8 :=
  [UInt8.ofNat (v.toNat / 2 ^ 24), UInt8.ofNat (v.toNat / 2 ^ 16),
    UInt8.ofNat (v.toNat / 2 ^ 8), UInt8.ofNat v.toNat]

/-- `binary.BigEndian.PutUint16`. -/
def putUint16 (v : UInt16) : List UInt8 :=
  [UInt8.ofNat (v.toNat / 2 ^ 8), UInt8.ofNat v.toNat]

/-- `binary.BigEndian.Uint32`, reading the first four bytes (the shifted bytes are
disjoint, so Go's `|` is a sum). -/
def uint32 : List UInt8 → UInt32
  | b0 :: b1 :: b2 :: b3 :: _ =>
    UInt32.ofNat (b0.toNat * 2 ^ 24 + b1.toNat * 2 ^ 16 + b2.toNat * 2 ^ 8 + b3.toNat)
  | _ => 0

/-- `binary.BigEndian.Uint16`, reading the first two bytes. -/
def uint16 : List UInt8 → UInt16
  | b0 :: b1 :: _ => UInt16.ofNat (b0.toNat * 2 ^ 8 + b1.toNat)
  | _ => 0

theorem uint32_putUint32 (v : UInt32) (t : List UInt8) : uint32 (putUint32 v ++ t) = v := by
  have hv : v.toNat < 2 ^ 32 := v.toNat_lt_size
  apply UInt32.toNat.inj
  simp only [putUint32, uint32, List.cons_append, List.nil_append]
  simp only [UInt32.toNat, UInt32.ofNat, UInt8.toNat, UInt8.ofNat, BitVec.toNat_ofNat] at hv ⊢
  omega

theorem uint16_putUint16 (v : UInt16) (t : List UInt8) : uint16 (putUint16 v ++ t) = v := by
  have hv : v.toNat < 2 ^ 16 := v.toNat_lt_size
  apply UInt16.toNat.inj
  simp only [putUint16, uint16, List.cons_append, List.nil_append]
  simp only [UInt16.toNat, UInt16.ofNat, UInt8.toNat, UInt8.ofNat, BitVec.toNat_ofNat] at hv ⊢
  omega

/-! ## Pack -/

/-- The message as `Pack` leaves it: `Pack` sets `Length = 4 + len(Body)` and
`Version = ProtocolVersion` in place. -/
def Message.packed (msg : Message) : Message :=
  { msg with length := UInt32.ofNat (4 + msg.body.length), version := protocolVersion }

/-- The 8 header bytes of a message. -/
def encodeHeader (msg : Message) : List UInt8 :=
  putUint32 msg.length ++ putUint16 msg.version ++ putUint16 msg.cmdType

/-- `Pack`: refuse an oversized body, else the header of the packed message and the body. -/
def pack (msg : Message) : Except ProtoError (List UInt8) :=
  if msg.body.length > maxPayloadLength then .error .payloadTooLarge
  else .ok (encodeHeader msg.packed ++ msg.body)

@[simp] theorem length_encodeHeader (msg : Message) : (encodeHeader msg).length = headerLength := rfl

theorem pack_eq_ok {msg : Message} (h : msg.body.length ≤ maxPayloadLength) :
    pack msg = .ok (encodeHeader msg.packed ++ msg.body) := by
  simp [pack, Nat.not_lt.mpr h]

theorem pack_eq_error {msg : Message} (h : maxPayloadLength < msg.body.length) :
    pack msg = .error .payloadTooLarge := by
  simp [pack, h]

/-! ## Reading from a split stream -/

/-- `io.ReadFull(r, buf)` with `len(buf) = n`, over a reader whose successive `Read`
calls return the given chunks (each `Read` returns at most the rest of the current
chunk).  Ending with no byte read is `EOF`, after some bytes `ErrUnexpectedEOF`. -/
def readFull : Nat → List (List UInt8) → Except ProtoError (List UInt8 × List (List UInt8))
  | 0, cs => .ok ([], cs)
  | _ + 1, [] => .error .eof
  | n + 1, c :: cs =>
    if n + 1 ≤ c.length then .ok (c.take (n + 1), c.drop (n + 1) :: cs)
    else
      match readFull (n + 1 - c.length) cs with
      | .ok (b, rest) => .ok (c ++ b, rest)
      | .error e => .error (if c = [] then e else .unexpectedEOF)

/-- **`io.ReadFull` reads the stream, not the split.**  If the stream starts with
`b`, `ReadFull` of `len b` bytes returns `b` and leaves a reader over the rest. -/
theorem readFull_of_flatten {cs : List (List UInt8)} {b rest : List UInt8}
    (h : cs.flatten = b ++ rest) :
    ∃ cs', readFull b.length cs = .ok (b, cs') ∧ cs'.flatten = rest := by
  induction cs generalizing b with
  | nil =>
    obtain ⟨rfl, rfl⟩ := List.append_eq_nil.mp h.symm
    exact ⟨[], rfl, rfl⟩
  | cons c cs ih =>
    rw [List.flatten_cons] at h
    rcases hb : b.length with _ | n
    · obtain rfl := List.length_eq_zero.mp hb
      exact ⟨c :: cs, rfl, h⟩
    · by_cases hn : n + 1 ≤ c.length
      · have htake := congrArg (List.take (n + 1)) h
        have hdrop := congrArg (List.drop (n + 1)) h
        rw [List.take_append_of_le_length hn, List.take_left' hb] at htake
        rw [List.drop_append_of_le_length hn, List.drop_left' hb] at hdrop
        exact ⟨c.drop (n + 1) :: cs, by simp [readFull, hn, htake], by simpa using hdrop⟩
      · obtain ⟨b', rfl, hb'⟩ : ∃ b', b = c ++ b' ∧ cs.flatten = b' ++ rest := by
          rcases List.append_eq_append_iff.mp h with ⟨a', rfl, h'⟩ | ⟨c', rfl, _⟩
          · exact ⟨a', rfl, h'⟩
          · simp only [List.length_append] at hn; omega
        obtain ⟨cs', hr, hrest⟩ := ih hb'
        have hlen : n + 1 - c.length = b'.length := by simp at hb; omega
        exact ⟨cs', by simp [readFull, hn, hlen, hr], hrest⟩

/-! ## Unpack -/

/-- The header fields as `Unpack` reads them from `header[0:4]`, `header[4:6]`
and `header[6:8]`, with no body yet. -/
def decodeHeader (header : List UInt8) : Message :=
  { length := uint32 header, version := uint16 (header.drop 4),
    cmdType := uint16 (header.drop 6), body := [] }

theorem decodeHeader_encodeHeader (msg : Message) :
    decodeHeader (encodeHeader msg) = { msg with body := [] } := by
  have h4 : (encodeHeader msg).drop 4 = putUint16 msg.version ++ putUint16 msg.cmdType := rfl
  have h6 : (encodeHeader msg).drop 6 = putUint16 msg.cmdType := rfl
  have hc : uint16 (putUint16 msg.cmdType) = msg.cmdType := by
    simpa using uint16_putUint16 msg.cmdType []
  rw [decodeHeader, h4, h6, hc, uint16_putUint16, encodeHeader, List.append_assoc,
    uint32_putUint32]

/-- `Unpack`: read the header, check `bodyLen = Length - 4`, then read the body. -/
def unpack (r : List (List UInt8)) : Except ProtoError (Message × List (List UInt8)) :=
  match readFull headerLength r with
  | .error e => .error e
  | .ok (header, r) =>
    let msg := decodeHeader header
    let bodyLen : Int := (msg.length.toNat : Int) - 4
    if bodyLen < 0 then .error .invalidHeader
    else if bodyLen > maxPayloadLength then .error .payloadTooLarge
    else if bodyLen > 0 then
      match readFull bodyLen.toNat r with
      | .error e => .error e
      | .ok (body, r) => .ok ({ msg with body := body }, r)
    else .ok (msg, r)

theorem packed_length_toNat {msg : Message} (h : msg.body.length ≤ maxPayloadLength) :
    msg.packed.length.toNat = 4 + msg.body.length := by
  simp only [Message.packed, UInt32.toNat, UInt32.ofNat, BitVec.toNat_ofNat]
  simp only [maxPayloadLength] at h
  omega

/-- **`Unpack` inverts `Pack`**: on a stream that starts with the packed frame of
`msg`, `Unpack` returns the packed message and leaves the reader at what follows. -/
theorem unpack_pack {msg : Message} (h : msg.body.length ≤ maxPayloadLength)
    {cs : List (List UInt8)} {rest : List UInt8}
    (hcs : cs.flatten = encodeHeader msg.packed ++ msg.body ++ rest) :
    ∃ cs', unpack cs = .ok (msg.packed, cs') ∧ cs'.flatten = rest := by
  rw [List.append_assoc] at hcs
  obtain ⟨cs₁, hr₁, hf₁⟩ := readFull_of_flatten hcs
  have hlen := packed_length_toNat h
  have hdec : decodeHeader (encodeHeader msg.packed) = { msg.packed with body := [] } :=
    decodeHeader_encodeHeader _
  simp only [length_encodeHeader] at hr₁
  by_cases hb : msg.body = []
  · have hpk : { msg.packed with body := [] } = msg.packed := by
      simp [Message.packed, ← hb]
    refine ⟨cs₁, ?_, by simpa [hb] using hf₁⟩
    simp only [hb, List.length_nil] at hlen
    simp [unpack, hr₁, hdec, hpk, hlen, maxPayloadLength]
  · obtain ⟨cs₂, hr₂, hf₂⟩ := readFull_of_flatten hf₁
    have hpos : 0 < msg.body.length := List.length_pos.mpr hb
    have hsub : ((4 + msg.body.length : Nat) : Int) - 4 = msg.body.length := by omega
    refine ⟨cs₂, ?_, hf₂⟩
    simp only [maxPayloadLength] at h
    simp only [unpack, hr₁, hdec, hlen, hsub]
    simp only [hr₂, maxPayloadLength, Int.toNat_ofNat, gt_iff_lt]
    rw [if_neg (by omega), if_neg (by omega), if_pos (by omega)]
    rfl

/-- `n` successive `Unpack` calls on one reader, as `handleConnection`'s loop makes them. -/
def unpackN : Nat → List (List UInt8) → Except ProtoError (List Message × List (List UInt8))
  | 0, r => .ok ([], r)
  | n + 1, r =>
    match unpack r with
    | .error e => .error e
    | .ok (m, r) =>
      match unpackN n r with
      | .error e => .error e
      | .ok (ms, r) => .ok (m :: ms, r)

/-- Round trip on a stream: `Pack` accepts every message whose body is at most
`MaxPayloadLength` bytes, and repeated `Unpack` over the concatenated frames, followed
by any bytes and split across reads in any way, returns the packed messages in order
and leaves the reader exactly at the further bytes. -/
theorem unpackN_pack_stream (msgs : List Message)
    (hmsgs : ∀ m ∈ msgs, m.body.length ≤ maxPayloadLength) :
    ∃ frames, msgs.mapM pack = .ok frames ∧
      ∀ (rest : List UInt8) (cs : List (List UInt8)), cs.flatten = frames.flatten ++ rest →
        ∃ cs', unpackN msgs.length cs = .ok (msgs.map Message.packed, cs') ∧
          cs'.flatten = rest := by
  induction msgs with
  | nil => exact ⟨[], rfl, fun rest cs h => ⟨cs, rfl, by simpa using h⟩⟩
  | cons m ms ih =>
    obtain ⟨frames, hmap, hun⟩ := ih fun x hx => hmsgs x (List.mem_cons_of_mem m hx)
    have hm := hmsgs m (List.mem_cons_self m ms)
    refine ⟨(encodeHeader m.packed ++ m.body) :: frames, ?_, fun rest cs h => ?_⟩
    · rw [List.mapM_cons, pack_eq_ok hm, hmap]
      rfl
    · rw [List.flatten_cons, List.append_assoc] at h
      obtain ⟨cs₁, hu, hf⟩ := unpack_pack hm (by rw [h, List.append_assoc])
      obtain ⟨cs₂, hn, hf₂⟩ := hun rest cs₁ hf
      exact ⟨cs₂, by simp [unpackN, hu, hn], hf₂⟩

/-- The stream round trip at a two-frame stream: a `Message` frame `"hi"` and an empty
heartbeat. -/
theorem unpackN_pack_stream_hi_ping :
    (∀ m ∈ ([⟨0, 0, cmdTypeMessage, [104, 105]⟩, ⟨0, 0, cmdTypeHeartbeat, []⟩] : List Message),
      m.body.length ≤ maxPayloadLength) ∧
    ∃ frames, ([⟨0, 0, cmdTypeMessage, [104, 105]⟩, ⟨0, 0, cmdTypeHeartbeat, []⟩] :
        List Message).mapM pack = .ok frames ∧
      ∀ (rest : List UInt8) (cs : List (List UInt8)), cs.flatten = frames.flatten ++ rest →
        ∃ cs', unpackN 2 cs = .ok (([⟨0, 0, cmdTypeMessage, [104, 105]⟩,
            ⟨0, 0, cmdTypeHeartbeat, []⟩] : List Message).map Message.packed, cs') ∧
          cs'.flatten = rest :=
  ⟨by decide, unpackN_pack_stream _ (by decide)⟩

/-! ## `Unpack` on every stream -/

/-- The header's `Length` field, as a number. -/
def lengthField (bs : List UInt8) : Nat := (uint32 bs).toNat

theorem uint32_take (l : List UInt8) {n : Nat} (h : 4 ≤ n) : uint32 (l.take n) = uint32 l := by
  obtain ⟨k, rfl⟩ := Nat.exists_eq_add_of_le' h
  match l with
  | _ :: _ :: _ :: _ :: _ => rfl
  | [] | [_] | [_, _] | [_, _, _] => rfl

theorem uint16_take (l : List UInt8) {n : Nat} (h : 2 ≤ n) : uint16 (l.take n) = uint16 l := by
  obtain ⟨k, rfl⟩ := Nat.exists_eq_add_of_le' h
  match l with
  | _ :: _ :: _ => rfl
  | [] | [_] => rfl

/-- The header fields are read from the first eight bytes only. -/
theorem decodeHeader_take (l : List UInt8) : decodeHeader (l.take headerLength) = decodeHeader l := by
  simp only [decodeHeader, headerLength, uint32_take l (by decide : 4 ≤ 8), List.drop_take,
    uint16_take _ (by decide : 2 ≤ 8 - 4), uint16_take _ (by decide : 2 ≤ 8 - 6)]

/-- A stream shorter than `n` bytes makes `io.ReadFull` fail with `EOF` or
`ErrUnexpectedEOF`, however it is split. -/
theorem readFull_short {n : Nat} {cs : List (List UInt8)} (h : cs.flatten.length < n) :
    ∃ e, readFull n cs = .error e ∧ (e = .eof ∨ e = .unexpectedEOF) := by
  induction cs generalizing n with
  | nil =>
    obtain ⟨k, rfl⟩ : ∃ k, n = k + 1 := ⟨n - 1, by simp at h; omega⟩
    exact ⟨_, rfl, .inl rfl⟩
  | cons c cs ih =>
    simp only [List.flatten_cons, List.length_append] at h
    obtain ⟨k, rfl⟩ : ∃ k, n = k + 1 := ⟨n - 1, by omega⟩
    obtain ⟨e, he, he'⟩ := ih (by omega : cs.flatten.length < k + 1 - c.length)
    refine ⟨if c = [] then e else .unexpectedEOF, ?_, by split <;> simp [he']⟩
    simp [readFull, he, show ¬ k + 1 ≤ c.length by omega]

/-- What `Unpack` does with a stream `bs` (split across reads as `cs`), by the header's
`Length` field `L`. -/
structure UnpackSpec (cs : List (List UInt8)) : Prop where
  /-- A stream that ends inside the header fails with a read error. -/
  shortHeader : cs.flatten.length < headerLength →
    ∃ e, unpack cs = .error e ∧ (e = .eof ∨ e = .unexpectedEOF)
  /-- `L < 4` is `ErrInvalidHeader`, whatever follows the header. -/
  invalidHeader : headerLength ≤ cs.flatten.length → lengthField cs.flatten < 4 →
    unpack cs = .error .invalidHeader
  /-- `L - 4 > MaxPayloadLength` is `ErrPayloadTooLarge`, whatever follows the header. -/
  payloadTooLarge : headerLength ≤ cs.flatten.length →
    maxPayloadLength < lengthField cs.flatten - 4 → unpack cs = .error .payloadTooLarge
  /-- A stream that ends inside the body fails with a read error. -/
  shortBody : headerLength ≤ cs.flatten.length → 4 ≤ lengthField cs.flatten →
    lengthField cs.flatten - 4 ≤ maxPayloadLength →
    cs.flatten.length < lengthField cs.flatten + 4 →
    ∃ e, unpack cs = .error e ∧ (e = .eof ∨ e = .unexpectedEOF)
  /-- Otherwise `Unpack` returns the header's fields with the next `L - 4` bytes as its
  body, and leaves the reader `L + 4` bytes further on. -/
  ok : 4 ≤ lengthField cs.flatten → lengthField cs.flatten - 4 ≤ maxPayloadLength →
    lengthField cs.flatten + 4 ≤ cs.flatten.length →
    ∃ cs', unpack cs = .ok ({ decodeHeader cs.flatten with
        body := (cs.flatten.drop headerLength).take (lengthField cs.flatten - 4) }, cs') ∧
      cs'.flatten = cs.flatten.drop (lengthField cs.flatten + 4)
  /-- So whenever it succeeds, the body has `L - 4 ≤ MaxPayloadLength` bytes and the
  reader is exactly `L + 4` bytes further on. -/
  success : ∀ m cs', unpack cs = .ok (m, cs') →
    m = { decodeHeader cs.flatten with
        body := (cs.flatten.drop headerLength).take (lengthField cs.flatten - 4) } ∧
      4 ≤ lengthField cs.flatten ∧ m.body.length = lengthField cs.flatten - 4 ∧
      lengthField cs.flatten - 4 ≤ maxPayloadLength ∧
      lengthField cs.flatten + 4 ≤ cs.flatten.length ∧
      cs'.flatten = cs.flatten.drop (lengthField cs.flatten + 4)


/-- After a full header, `Unpack`'s checks on `bodyLen = Length - 4`, read on the
number `L`. -/
theorem unpack_of_header {cs : List (List UInt8)} (h : headerLength ≤ cs.flatten.length) :
    ∃ cs₁, cs₁.flatten = cs.flatten.drop headerLength ∧
      unpack cs =
        if lengthField cs.flatten < 4 then .error .invalidHeader
        else if maxPayloadLength < lengthField cs.flatten - 4 then .error .payloadTooLarge
        else if 4 < lengthField cs.flatten then
          match readFull (lengthField cs.flatten - 4) cs₁ with
          | .error e => .error e
          | .ok (body, r) => .ok ({ decodeHeader cs.flatten with body := body }, r)
        else .ok (decodeHeader cs.flatten, cs₁) := by
  obtain ⟨cs₁, hr, hf⟩ := readFull_of_flatten (List.take_append_drop headerLength cs.flatten).symm
  rw [List.length_take_of_le h] at hr
  refine ⟨cs₁, hf, ?_⟩
  have hL : (decodeHeader cs.flatten).length.toNat = lengthField cs.flatten := rfl
  have ht : ((lengthField cs.flatten : Int) - 4).toNat = lengthField cs.flatten - 4 := by omega
  simp only [unpack, hr, decodeHeader_take, hL, ht]
  by_cases h4 : lengthField cs.flatten < 4
  · rw [if_pos (by omega), if_pos h4]
  · rw [if_neg (by omega), if_neg h4]
    by_cases hm : maxPayloadLength < lengthField cs.flatten - 4
    · rw [if_pos (by omega), if_pos hm]
    · rw [if_neg (by omega), if_neg hm]
      by_cases hp : 4 < lengthField cs.flatten
      · rw [if_pos (by omega), if_pos hp]
      · rw [if_neg (by omega), if_neg hp]


/-- **`Unpack` on every stream**: a read error when the stream ends inside the header
or the body, `ErrInvalidHeader` when `L < 4`, `ErrPayloadTooLarge` when
`L - 4 > MaxPayloadLength`, and otherwise the frame of `L + 4` bytes. -/
theorem unpack_spec (cs : List (List UInt8)) : UnpackSpec cs := by
  have shortHeader : cs.flatten.length < headerLength →
      ∃ e, unpack cs = .error e ∧ (e = .eof ∨ e = .unexpectedEOF) := fun h => by
    obtain ⟨e, he, he'⟩ := readFull_short h
    exact ⟨e, by simp only [unpack, he], he'⟩
  have invalidHeader : headerLength ≤ cs.flatten.length → lengthField cs.flatten < 4 →
      unpack cs = .error .invalidHeader := fun h h4 => by
    obtain ⟨cs₁, -, hu⟩ := unpack_of_header h
    rw [hu, if_pos h4]
  have payloadTooLarge : headerLength ≤ cs.flatten.length →
      maxPayloadLength < lengthField cs.flatten - 4 → unpack cs = .error .payloadTooLarge :=
    fun h hm => by
      obtain ⟨cs₁, -, hu⟩ := unpack_of_header h
      rw [hu, if_neg (by omega), if_pos hm]
  have shortBody : headerLength ≤ cs.flatten.length → 4 ≤ lengthField cs.flatten →
      lengthField cs.flatten - 4 ≤ maxPayloadLength →
      cs.flatten.length < lengthField cs.flatten + 4 →
      ∃ e, unpack cs = .error e ∧ (e = .eof ∨ e = .unexpectedEOF) := fun h h4 hm hs => by
    obtain ⟨cs₁, hf, hu⟩ := unpack_of_header h
    obtain ⟨e, he, he'⟩ := readFull_short (by
      rw [hf, List.length_drop]; simp only [headerLength] at h ⊢; omega :
        cs₁.flatten.length < lengthField cs.flatten - 4)
    refine ⟨e, ?_, he'⟩
    rw [hu, if_neg (by omega), if_neg (by omega), if_pos (by simp only [headerLength] at h; omega), he]
  have ok : 4 ≤ lengthField cs.flatten → lengthField cs.flatten - 4 ≤ maxPayloadLength →
      lengthField cs.flatten + 4 ≤ cs.flatten.length →
      ∃ cs', unpack cs = .ok ({ decodeHeader cs.flatten with
          body := (cs.flatten.drop headerLength).take (lengthField cs.flatten - 4) }, cs') ∧
        cs'.flatten = cs.flatten.drop (lengthField cs.flatten + 4) := fun h4 hm hs => by
    obtain ⟨cs₁, hf, hu⟩ := unpack_of_header (le_trans (by simp [headerLength]; omega) hs)
    rw [hu, if_neg (by omega), if_neg (by omega)]
    by_cases hp : 4 < lengthField cs.flatten
    · rw [if_pos hp]
      have hb : ((cs.flatten.drop headerLength).take (lengthField cs.flatten - 4)).length =
          lengthField cs.flatten - 4 :=
        List.length_take_of_le (by rw [List.length_drop]; simp only [headerLength]; omega)
      obtain ⟨cs₂, hr, hf₂⟩ := readFull_of_flatten (hf.trans (List.take_append_drop _ _).symm)
      rw [hb] at hr
      refine ⟨cs₂, by rw [hr], ?_⟩
      rw [hf₂, List.drop_drop, headerLength, show 8 + (lengthField cs.flatten - 4) =
        lengthField cs.flatten + 4 by omega]
    · rw [if_neg hp, show lengthField cs.flatten = 4 by omega]
      exact ⟨cs₁, rfl, hf⟩
  refine ⟨shortHeader, invalidHeader, payloadTooLarge, shortBody, ok, fun m cs' hu => ?_⟩
  by_cases h : headerLength ≤ cs.flatten.length
  · by_cases h4 : 4 ≤ lengthField cs.flatten
    · by_cases hm : lengthField cs.flatten - 4 ≤ maxPayloadLength
      · by_cases hs : lengthField cs.flatten + 4 ≤ cs.flatten.length
        · obtain ⟨cs₂, hu₂, hf₂⟩ := ok h4 hm hs
          rw [hu₂] at hu
          cases hu
          refine ⟨rfl, h4, List.length_take_of_le ?_, hm, hs, hf₂⟩
          rw [List.length_drop]; simp only [headerLength]; omega
        · obtain ⟨e, he, -⟩ := shortBody h h4 hm (by omega)
          rw [he] at hu; cases hu
      · rw [payloadTooLarge h (by omega)] at hu; cases hu
    · rw [invalidHeader h (by omega)] at hu; cases hu
  · obtain ⟨e, he, -⟩ := shortHeader (by omega)
    rw [he] at hu; cases hu


theorem putUint32_uint32 (b0 b1 b2 b3 : UInt8) (t : List UInt8) :
    putUint32 (uint32 (b0 :: b1 :: b2 :: b3 :: t)) = [b0, b1, b2, b3] := by
  have h0 : b0.toNat < 256 := b0.toNat_lt_size
  have h1 : b1.toNat < 256 := b1.toNat_lt_size
  have h2 : b2.toNat < 256 := b2.toNat_lt_size
  have h3 : b3.toNat < 256 := b3.toNat_lt_size
  simp only [putUint32, uint32, List.cons.injEq, and_true]
  refine ⟨?_, ?_, ?_, ?_⟩ <;> apply UInt8.toNat.inj <;>
    simp only [UInt32.toNat, UInt32.ofNat, UInt8.toNat, UInt8.ofNat, BitVec.toNat_ofNat] at * <;> omega

theorem putUint16_uint16 (b0 b1 : UInt8) (t : List UInt8) :
    putUint16 (uint16 (b0 :: b1 :: t)) = [b0, b1] := by
  have h0 : b0.toNat < 256 := b0.toNat_lt_size
  have h1 : b1.toNat < 256 := b1.toNat_lt_size
  simp only [putUint16, uint16, List.cons.injEq, and_true]
  refine ⟨?_, ?_⟩ <;> apply UInt8.toNat.inj <;>
    simp only [UInt16.toNat, UInt16.ofNat, UInt8.toNat, UInt8.ofNat, BitVec.toNat_ofNat] at * <;> omega

/-- A header of eight bytes is what `encodeHeader` writes for its fields. -/
theorem encodeHeader_decodeHeader {l : List UInt8} (h : headerLength ≤ l.length) :
    encodeHeader (decodeHeader l) = l.take headerLength := by
  match l, h with
  | b0 :: b1 :: b2 :: b3 :: b4 :: b5 :: b6 :: b7 :: t, _ =>
    simp only [encodeHeader, decodeHeader, List.drop, putUint32_uint32, putUint16_uint16]
    rfl


/-- `Pack` writes back the bytes `Unpack` consumed exactly when the frame's `Version` is
`ProtocolVersion`: `Unpack` takes any version, and `Pack` writes its own. -/
theorem pack_unpack_iff_version {cs cs' : List (List UInt8)} {m : Message}
    (hu : unpack cs = .ok (m, cs')) :
    pack m = .ok (cs.flatten.take (lengthField cs.flatten + 4)) ↔ m.version = protocolVersion := by
  obtain ⟨rfl, h4, hlen, hm, hs, -⟩ := (unpack_spec cs).success m cs' hu
  have h8 : headerLength ≤ cs.flatten.length := by simp only [headerLength]; omega
  have hL : UInt32.ofNat (4 + (lengthField cs.flatten - 4)) = uint32 cs.flatten := by
    apply UInt32.toNat.inj
    simp only [lengthField, UInt32.toNat, UInt32.ofNat, BitVec.toNat_ofNat] at h4 ⊢
    have := (uint32 cs.flatten).toBitVec.isLt
    omega
  rw [pack_eq_ok (by rw [hlen]; exact hm), show lengthField cs.flatten + 4 =
    headerLength + (lengthField cs.flatten - 4) by simp only [headerLength]; omega, List.take_add,
    ← encodeHeader_decodeHeader h8]
  simp only [Message.packed, hlen, hL, encodeHeader, decodeHeader, Except.ok.injEq,
    List.append_left_inj, List.append_right_inj, List.append_assoc]
  constructor
  · intro h
    have h' := congrArg (fun l => uint16 (l ++ [])) h
    simp only [uint16_putUint16] at h'
    exact h'.symm
  · intro h; rw [h]


theorem unpack_accepts_foreign_version :
    unpack [[0, 0, 0, 4, 0, 2, 0, 4]] = .ok (⟨4, 2, cmdTypeMessage, []⟩, [[]]) ∧
      pack ⟨4, 2, cmdTypeMessage, []⟩ = .ok [0, 0, 0, 4, 0, 1, 0, 4] ∧
      ∀ cs cs' m, unpack cs = .ok (m, cs') →
        (pack m = .ok (cs.flatten.take (lengthField cs.flatten + 4)) ↔ m.version = protocolVersion) :=
  ⟨rfl, rfl, fun _ _ _ hu => pack_unpack_iff_version hu⟩

end GoIm
