import SmfRpc.Wire.Header

/-!
# `rpc_recv_context::parse_header` and `parse_payload`

`src/core/rpc_recv_context.cc` reads a frame in two steps.  `parse_header`
asks the input stream for exactly `sizeof(rpc::header)` bytes, copies them into
a header and runs four checks on it; `parse_payload` then asks for exactly
`header.size` bytes and runs four more.  Either step answers `std::nullopt` on
the first check that fails.

The stream is the list of bytes it will still deliver before its end.
`readExactly` is seastar's `input_stream::read_exactly`: it answers `n` bytes,
or every byte that is left when the stream ends first.  Each parse step is then
a pure function of the stream, returning its answer and what is left, and the
continuation that checks the buffer is its own definition (`parseHeaderBuffer`,
`parsePayloadBody`), so that the stream plumbing and the checks can be reasoned
about apart.

The results here are of two kinds.

* Forward: a header followed by its payload is accepted and leaves the rest of
  the stream untouched (`parseHeader_toBytes`, `parsePayload_append`).
* Postconditions: exactly which headers and bodies pass, over all 2^8 to
  2^32 values of each field (`validateHeader_eq_some`,
  `parsePayloadBody_eq_some`), and what every context the two steps answer
  satisfies (`Accepted`, `parse_accepted`).  The compression check compares a
  *signed* byte with `compression_flags_MAX`, so it bounds the field from
  above only (`parse_accepts_negative_compression`).
* Completeness: every header and payload that meet `Accepted`'s conditions
  are read back (`parse_complete`).
-/

namespace Smf

open Rpc

/-- `seastar::input_stream::read_exactly`: `n` bytes, or all that is left when
the stream ends first, and the rest of the stream. -/
def readExactly (n : Nat) (s : List UInt8) : List UInt8 × List UInt8 :=
  (s.take n, s.drop n)

/-- `max_flatbuffers_size()`: `FLATBUFFERS_MAX_BUFFER_SIZE`, `2^31 - 1`, the
largest buffer a flatbuffers vector can hold. -/
def maxFlatbuffersSize : UInt32 := 2 ^ 31 - 1

@[simp] theorem maxFlatbuffersSize_toNat : maxFlatbuffersSize.toNat = 2 ^ 31 - 1 := by
  decide

namespace RpcRecvContext

/-! ## The header -/

/-- The rewrite at the end of `parse_header`: a header that asks for no
compression at all is read as one that names none. -/
def disabledAsNone (hdr : Header) : Header :=
  if hdr.compression = CompressionFlags.disabled.toInt8 then
    { hdr with compression := CompressionFlags.none.toInt8 }
  else hdr

/-- The four field checks of `parse_header` on the copied struct, in source
order, and the final rewrite. -/
def validateHeader (hdr : Header) : Option Header :=
  if hdr.size = 0 then none
  else if hdr.compression > compressionFlagsMax then none
  else if hdr.checksum ≤ 0 then none
  else if hdr.«meta» ≤ 0 then none
  else some (disabledAsNone hdr)

/-- The continuation of `parse_header` on the buffer that `read_exactly`
answered: the size check, the `memcpy`, and the field checks. -/
def parseHeaderBuffer (header : List UInt8) : Option Header :=
  if kHeaderSize ≠ header.length then none
  else validateHeader (Header.ofBytes header)

/-- `rpc_recv_context::parse_header`: read the sixteen header bytes and check
them. -/
def parseHeader (s : List UInt8) : Option Header × List UInt8 :=
  let (header, rest) := readExactly kHeaderSize s
  (parseHeaderBuffer header, rest)

@[simp] theorem disabledAsNone_size (hdr : Header) : (disabledAsNone hdr).size = hdr.size := by
  unfold disabledAsNone; split <;> rfl

@[simp] theorem disabledAsNone_checksum (hdr : Header) :
    (disabledAsNone hdr).checksum = hdr.checksum := by
  unfold disabledAsNone; split <;> rfl

@[simp] theorem disabledAsNone_meta (hdr : Header) :
    (disabledAsNone hdr).«meta» = hdr.«meta» := by
  unfold disabledAsNone; split <;> rfl

@[simp] theorem disabledAsNone_bitflags (hdr : Header) :
    (disabledAsNone hdr).bitflags = hdr.bitflags := by
  unfold disabledAsNone; split <;> rfl

@[simp] theorem disabledAsNone_session (hdr : Header) :
    (disabledAsNone hdr).session = hdr.session := by
  unfold disabledAsNone; split <;> rfl

/-- Exactly the headers with a non-zero size, checksum and meta, and a
compression byte at most `compression_flags_MAX`, pass the checks. -/
theorem validateHeader_eq_some {raw hdr : Header} :
    validateHeader raw = some hdr ↔
      raw.size ≠ 0 ∧ raw.compression ≤ compressionFlagsMax ∧ raw.checksum ≠ 0 ∧
        raw.«meta» ≠ 0 ∧ hdr = disabledAsNone raw := by
  unfold validateHeader
  by_cases hs : raw.size = 0
  · simp [hs]
  by_cases hc : raw.compression > compressionFlagsMax
  · simp only [hs, hc, if_false, if_true, reduceCtorEq, false_iff]
    exact fun h => absurd h.2.1 (Int8.not_le.mpr hc)
  by_cases hk : raw.checksum ≤ 0
  · simp [hs, hc, UInt32.le_zero_iff.mp hk]
  by_cases hm : raw.«meta» ≤ 0
  · simp [hs, hc, hk, UInt32.le_zero_iff.mp hm]
  simp only [hs, hc, hk, hm, if_false, Option.some.injEq]
  constructor
  · rintro rfl
    exact ⟨hs, Int8.not_lt.mp hc, fun h => hk (h ▸ UInt32.le_refl _),
      fun h => hm (h ▸ UInt32.le_refl _), rfl⟩
  · rintro ⟨-, -, -, -, rfl⟩
    rfl

theorem parseHeader_eq (s : List UInt8) :
    parseHeader s = (parseHeaderBuffer (s.take kHeaderSize), s.drop kHeaderSize) := rfl

/-- A buffer passes when it is whole and the header it holds passes. -/
theorem parseHeaderBuffer_eq_some {buf : List UInt8} {hdr : Header} :
    parseHeaderBuffer buf = some hdr ↔
      buf.length = kHeaderSize ∧ validateHeader (Header.ofBytes buf) = some hdr := by
  unfold parseHeaderBuffer
  split_ifs with h
  · simp only [false_iff, not_and]
    exact fun h' => absurd h'.symm h
  · simp only [ne_eq, Decidable.not_not] at h
    simp [h]

/-- A header followed by anything is read as the checks on that header, and
the rest of the stream is left. -/
theorem parseHeader_toBytes (h : Header) (rest : List UInt8) :
    parseHeader (h.toBytes ++ rest) = (validateHeader h, rest) := by
  simp [parseHeader, readExactly, parseHeaderBuffer, List.take_left', List.drop_left']

/-! ## The payload -/

section Payload

variable (xxh64 : List UInt8 → UInt64)

/-- The continuation of `parse_payload` on the body that `read_exactly`
answered: the length, the flatbuffers bound, the payload-headers bit and the
checksum. -/
def parsePayloadBody (hdr : Header) (body : List UInt8) : Option RpcRecvContext :=
  if hdr.size.toNat ≠ body.length then none
  else if hdr.size > maxFlatbuffersSize then none
  else if hdr.bitflags &&& headerBitFlagsHasPayloadHeaders ≠ 0 then none
  else if rpcChecksumPayload xxh64 body (UInt32.ofNat body.length) ≠ hdr.checksum then none
  else some { header := hdr, payload := body }

/-- `rpc_recv_context::parse_payload`: read `hdr.size` bytes and check them. -/
def parsePayload (hdr : Header) (s : List UInt8) : Option RpcRecvContext × List UInt8 :=
  let (body, rest) := readExactly hdr.size.toNat s
  (parsePayloadBody xxh64 hdr body, rest)

/-- Exactly the bodies of the declared size, within the flatbuffers bound,
without payload headers and with a matching checksum are accepted, and the
context holds the header unchanged. -/
theorem parsePayloadBody_eq_some {hdr : Header} {body : List UInt8} {ctx : RpcRecvContext} :
    parsePayloadBody xxh64 hdr body = some ctx ↔
      hdr.size.toNat = body.length ∧ hdr.size ≤ maxFlatbuffersSize ∧
        hdr.bitflags &&& headerBitFlagsHasPayloadHeaders = 0 ∧
        rpcChecksumPayload xxh64 body (UInt32.ofNat body.length) = hdr.checksum ∧
        ctx = { header := hdr, payload := body } := by
  unfold parsePayloadBody
  by_cases hl : hdr.size.toNat = body.length
  · by_cases hm : hdr.size > maxFlatbuffersSize
    · simp only [hl, hm, ne_eq, not_true_eq_false, if_false, if_true, reduceCtorEq,
        false_iff]
      exact fun h => absurd h.2.1 (UInt32.not_le.mpr hm)
    · simp only [hl, hm, UInt32.not_lt.mp hm, ne_eq, not_true_eq_false, if_false, true_and]
      split_ifs <;> simp_all [eq_comm]
  · simp [hl]

theorem parsePayload_eq (hdr : Header) (s : List UInt8) :
    parsePayload xxh64 hdr s =
      (parsePayloadBody xxh64 hdr (s.take hdr.size.toNat), s.drop hdr.size.toNat) := rfl

/-- A body of the declared size followed by anything is read as the checks on
that body, and the rest of the stream is left. -/
theorem parsePayload_append (hdr : Header) (body rest : List UInt8)
    (h : body.length = hdr.size.toNat) :
    parsePayload xxh64 hdr (body ++ rest) = (parsePayloadBody xxh64 hdr body, rest) := by
  simp [parsePayload, readExactly, List.take_left' h, List.drop_left' h]

end Payload

/-! ## What an accepted frame satisfies -/

section Accepted

variable (xxh64 : List UInt8 → UInt64)

/-- The postcondition of the two parse steps, field by field.  The
compression byte is bounded above by `compression_flags_MAX` and is never
`disabled`; nothing bounds it below. -/
structure Accepted (ctx : RpcRecvContext) : Prop where
  compression_le : ctx.header.compression ≤ compressionFlagsMax
  compression_ne_disabled : ctx.header.compression ≠ CompressionFlags.disabled.toInt8
  size_eq : ctx.header.size.toNat = ctx.payload.length
  size_pos : 1 ≤ ctx.payload.length
  size_le : ctx.payload.length ≤ 2 ^ 31 - 1
  checksum_eq : ctx.header.checksum = rpcChecksumPayload xxh64 ctx.payload ctx.header.size
  checksum_ne : ctx.header.checksum ≠ 0
  meta_ne : ctx.header.«meta» ≠ 0
  no_payload_headers : ctx.header.bitflags &&& headerBitFlagsHasPayloadHeaders = 0

/-- After the rewrite, the compression byte is at most `compression_flags_MAX`
and is not `disabled`. -/
theorem disabledAsNone_compression {raw : Header} (h : raw.compression ≤ compressionFlagsMax) :
    (disabledAsNone raw).compression ≤ compressionFlagsMax ∧
      (disabledAsNone raw).compression ≠ CompressionFlags.disabled.toInt8 := by
  unfold disabledAsNone
  split
  · exact ⟨(by decide : CompressionFlags.none.toInt8 ≤ compressionFlagsMax),
      (by decide : CompressionFlags.none.toInt8 ≠ CompressionFlags.disabled.toInt8)⟩
  · rename_i hd
    exact ⟨h, hd⟩

/-- A body that `parse_payload` accepts after a header that passed
`parse_header`'s checks gives an `Accepted` context. -/
theorem parsePayloadBody_accepted {hdr : Header} {body : List UInt8} {ctx : RpcRecvContext}
    (hsz : hdr.size ≠ 0) (hcm : hdr.compression ≤ compressionFlagsMax)
    (hd : hdr.compression ≠ CompressionFlags.disabled.toInt8)
    (hck : hdr.checksum ≠ 0) (hmt : hdr.«meta» ≠ 0)
    (hp : parsePayloadBody xxh64 hdr body = some ctx) : Accepted xxh64 ctx := by
  obtain ⟨hl, hmax, hbits, hsum, rfl⟩ := (parsePayloadBody_eq_some xxh64).mp hp
  have hle : hdr.size.toNat ≤ 2 ^ 31 - 1 := by
    simpa using UInt32.le_iff_toNat_le.mp hmax
  have hpos : hdr.size.toNat ≠ 0 := fun h0 => hsz (UInt32.toNat_inj.mp (by simpa using h0))
  have hofNat : UInt32.ofNat body.length = hdr.size := by
    rw [← hl, UInt32.ofNat_toNat]
  refine ⟨hcm, hd, hl, ?_, ?_, ?_, hck, hmt, hbits⟩
  · show 1 ≤ body.length
    omega
  · show body.length ≤ 2 ^ 31 - 1
    omega
  · show hdr.checksum = rpcChecksumPayload xxh64 body hdr.size
    rw [← hsum, hofNat]

/-- Every context that `parse_payload` answers after `parse_header`, on any
byte stream, satisfies `Accepted`. -/
theorem parse_accepted {s s₁ s₂ : List UInt8} {hdr : Header} {ctx : RpcRecvContext}
    (hh : parseHeader s = (some hdr, s₁)) (hp : parsePayload xxh64 hdr s₁ = (some ctx, s₂)) :
    Accepted xxh64 ctx := by
  rw [parseHeader_eq, Prod.mk.injEq] at hh
  obtain ⟨-, hbuf⟩ := parseHeaderBuffer_eq_some.mp hh.1
  obtain ⟨hsz, hcm, hck, hmt, rfl⟩ := validateHeader_eq_some.mp hbuf
  rw [parsePayload_eq, Prod.mk.injEq] at hp
  have hcomp := disabledAsNone_compression hcm
  exact parsePayloadBody_accepted xxh64 (by simpa using hsz) hcomp.1 hcomp.2
    (by simpa using hck) (by simpa using hmt) hp.1

/-- Every header that meets `Accepted`'s conditions, followed by a payload
that matches it, is read back as that header and payload.  A header naming
`disabled` is read back as naming `none`. -/
theorem parse_complete (hdr : Header) (body rest : List UInt8)
    (hsize : hdr.size.toNat = body.length) (hpos : 1 ≤ body.length)
    (hmax : body.length ≤ 2 ^ 31 - 1)
    (hcomp : hdr.compression = CompressionFlags.none.toInt8 ∨
      hdr.compression = CompressionFlags.disabled.toInt8 ∨
      hdr.compression = CompressionFlags.zstd.toInt8 ∨
      hdr.compression = CompressionFlags.lz4.toInt8)
    (hsum : hdr.checksum = rpcChecksumPayload xxh64 body hdr.size)
    (hck : hdr.checksum ≠ 0) (hmt : hdr.«meta» ≠ 0)
    (hbits : hdr.bitflags &&& headerBitFlagsHasPayloadHeaders = 0) :
    parseHeader (hdr.toBytes ++ body ++ rest) = (some (disabledAsNone hdr), body ++ rest) ∧
      parsePayload xxh64 (disabledAsNone hdr) (body ++ rest) =
        (some { header := disabledAsNone hdr, payload := body }, rest) := by
  have hsz : hdr.size ≠ 0 := by
    intro h0
    rw [h0] at hsize
    simp at hsize
    omega
  have hle : hdr.compression ≤ compressionFlagsMax := by
    rcases hcomp with h | h | h | h <;> rw [h] <;> decide
  have hvalid : validateHeader hdr = some (disabledAsNone hdr) :=
    validateHeader_eq_some.mpr ⟨hsz, hle, hck, hmt, rfl⟩
  refine ⟨by rw [List.append_assoc, parseHeader_toBytes, hvalid], ?_⟩
  rw [parsePayload_append xxh64 _ _ _ (by simpa using hsize.symm)]
  have hofNat : UInt32.ofNat body.length = hdr.size := by
    rw [← hsize, UInt32.ofNat_toNat]
  refine congrArg (·, rest) ((parsePayloadBody_eq_some xxh64).mpr ⟨by simpa using hsize, ?_, ?_, ?_, rfl⟩)
  · apply UInt32.le_iff_toNat_le.mpr
    simpa [hsize] using hmax
  · simpa using hbits
  · simp [hofNat, hsum]

/-- The header of the frame `ff 00 0000 01000000 <checksum> 01000000`
followed by the one payload byte `00`: a compression byte of `0xff`, that is
`-1`, a size of one and a meta of one. -/
@[simps] def negativeCompressionHeader : Header where
  compression := -1
  bitflags := 0
  session := 0
  size := 1
  checksum := rpcChecksumPayload xxh64 [0] 1
  «meta» := 1

/-- The frame with compression byte `-1` passes both steps as it is, and the
context names a compression that `compression_flags` does not declare. -/
theorem parse_accepts_negative_compression (hc : rpcChecksumPayload xxh64 [0] 1 ≠ 0) :
    parseHeader ((negativeCompressionHeader xxh64).toBytes ++ [0]) =
        (some (negativeCompressionHeader xxh64), [0]) ∧
      parsePayload xxh64 (negativeCompressionHeader xxh64) [0] =
        (some { header := negativeCompressionHeader xxh64, payload := [0] }, []) ∧
      ∀ f : CompressionFlags, (negativeCompressionHeader xxh64).compression ≠ f.toInt8 := by
  have hkeep : disabledAsNone (negativeCompressionHeader xxh64) = negativeCompressionHeader xxh64 := by
    unfold disabledAsNone
    rw [if_neg (by simp; decide)]
  have hv : validateHeader (negativeCompressionHeader xxh64) = some (negativeCompressionHeader xxh64) :=
    validateHeader_eq_some.mpr ⟨by simp, by simp; decide, hc, by simp, hkeep.symm⟩
  refine ⟨by rw [parseHeader_toBytes, hv], ?_, ?_⟩
  · rw [show ([0] : List UInt8) = [0] ++ [] from rfl, parsePayload_append xxh64 _ _ _ rfl]
    exact congrArg (·, []) ((parsePayloadBody_eq_some xxh64).mpr
      ⟨rfl, by simp; decide, by simp, rfl, rfl⟩)
  · intro f
    cases f <;> simp <;> decide

/-- `parse_accepts_negative_compression` with a hash whose low 32 bits on the
payload `00` are not zero. -/
theorem parse_accepts_negative_compression_length :
    rpcChecksumPayload (fun bs => UInt64.ofNat bs.length) [0] 1 ≠ 0 ∧
      parseHeader ((negativeCompressionHeader (fun bs => UInt64.ofNat bs.length)).toBytes ++ [0]) =
        (some (negativeCompressionHeader (fun bs => UInt64.ofNat bs.length)), [0]) :=
  have hc : rpcChecksumPayload (fun bs => UInt64.ofNat bs.length) [0] 1 ≠ 0 := by decide
  ⟨hc, (parse_accepts_negative_compression _ hc).1⟩

end Accepted

end RpcRecvContext

end Smf
