import SmfRpc.Compression.Codec
import SmfRpc.Wire.Envelope

/-!
# The compression filters

`lz4_filter.cc` and `zstd_filter.cc` are one pair of filters written twice:
an outgoing filter that compresses a letter's body when its compression is
`none` and its body is longer than `min_compression_size`, and an incoming
filter that decompresses a context whose compression is the filter's own
algorithm.  Both restamp size and checksum with `checksum_rpc`.
`compressionFilter` and `decompressionFilter` are that pair over a codec and
its flag; the four filters are its instances.

The round trip (`filter_round_trip`) takes the compressed letter through
the reader's `parse_header` and `parse_payload` and back through the incoming
filter.  It holds whenever the codec's `uncompress` undoes its `compress`, the
compressed body fits a flatbuffers vector, and `parse_header` lets the letter
through: a request id, and a checksum of the compressed body that is not
zero.  The filters skip what they are not for, with one asymmetry: the
outgoing filter skips every letter whose compression is not `none`, while the
incoming filter decompresses every context whose compression is its own
algorithm, whoever set it (`lz4_filters_change_lz4_envelope`).

An incoming lz4 payload of fewer than four bytes passes `parse_payload` and
reaches `lz4_fast_codec::uncompress`, which reads it past its end
(`lz4_decompression_reads_past_end`).
-/

namespace Smf

open Rpc RpcRecvContext

section Filters

variable (xxh64 : List UInt8 → UInt64)

/-- The outgoing compression filter over a codec's `compress` and its
compression flag. -/
def compressionFilter (compress : List UInt8 → Except CodecError (List UInt8))
    (flag : CompressionFlags) (minCompressionSize : UInt32) (e : RpcEnvelope) :
    Except CodecError RpcEnvelope :=
  if e.letter.header.compression ≠ CompressionFlags.none.toInt8 then .ok e
  else if e.letter.body.length ≤ minCompressionSize.toNat then .ok e
  else do
    let body ← compress e.letter.body
    let header := { e.letter.header with compression := flag.toInt8 }
    pure ⟨{ header := checksumRpc xxh64 header body (UInt32.ofNat body.length), body }⟩

/-- The incoming decompression filter over a codec's `uncompress` and its
compression flag. -/
def decompressionFilter (uncompress : List UInt8 → Except CodecError (List UInt8))
    (flag : CompressionFlags) (ctx : RpcRecvContext) : Except CodecError RpcRecvContext :=
  if ctx.header.compression = flag.toInt8 then do
    let payload ← uncompress ctx.payload
    let header := { ctx.header with compression := CompressionFlags.none.toInt8 }
    pure { header := checksumRpc xxh64 header payload (UInt32.ofNat payload.length), payload }
  else .ok ctx

/-- `lz4_compression_filter::operator()`. -/
def lz4CompressionFilter (api : Lz4Api) (minCompressionSize : UInt32) :
    RpcEnvelope → Except CodecError RpcEnvelope :=
  compressionFilter xxh64 (Lz4FastCodec.compress api) .lz4 minCompressionSize

/-- `lz4_decompression_filter::operator()`. -/
def lz4DecompressionFilter (api : Lz4Api) : RpcRecvContext → Except CodecError RpcRecvContext :=
  decompressionFilter xxh64 (Lz4FastCodec.uncompress api) .lz4

/-- `zstd_compression_filter::operator()`. -/
def zstdCompressionFilter (api : ZstdApi) (minCompressionSize : UInt32) :
    RpcEnvelope → Except CodecError RpcEnvelope :=
  compressionFilter xxh64 (ZstdCodec.compress api) .zstd minCompressionSize

/-- `zstd_decompression_filter::operator()`. -/
def zstdDecompressionFilter (api : ZstdApi) : RpcRecvContext → Except CodecError RpcRecvContext :=
  decompressionFilter xxh64 (ZstdCodec.uncompress api) .zstd

/-! ## The pair over any codec -/

variable {compress uncompress : List UInt8 → Except CodecError (List UInt8)}
  {flag : CompressionFlags} {minCompressionSize : UInt32}

/-- The outgoing filter leaves a letter alone when its compression is not
`none` or its body is short. -/
theorem compressionFilter_skip (e : RpcEnvelope)
    (h : e.letter.header.compression ≠ CompressionFlags.none.toInt8 ∨
      e.letter.body.length ≤ minCompressionSize.toNat) :
    compressionFilter xxh64 compress flag minCompressionSize e = .ok e := by
  unfold compressionFilter
  rcases h with hc | hs
  · rw [if_pos hc]
  · by_cases hc : e.letter.header.compression ≠ CompressionFlags.none.toInt8
    · rw [if_pos hc]
    · rw [if_neg hc, if_pos hs]

/-- The incoming filter leaves a context alone when its compression is not
the filter's own. -/
theorem decompressionFilter_skip (ctx : RpcRecvContext)
    (h : ctx.header.compression ≠ flag.toInt8) :
    decompressionFilter xxh64 uncompress flag ctx = .ok ctx := by
  simp [decompressionFilter, h]

/-- The letter the outgoing filter makes of a long uncompressed body: the
compressed body, the filter's flag, and size and checksum restamped. -/
def compressedLetter (flag : CompressionFlags) (l : RpcLetter) (body : List UInt8) : RpcLetter :=
  { header := checksumRpc xxh64 { l.header with compression := flag.toInt8 } body
      (UInt32.ofNat body.length), body }

theorem compressionFilter_compress (e : RpcEnvelope)
    (hnone : e.letter.header.compression = CompressionFlags.none.toInt8)
    (hlong : minCompressionSize.toNat < e.letter.body.length) {body : List UInt8}
    (hc : compress e.letter.body = .ok body) :
    compressionFilter xxh64 compress flag minCompressionSize e =
      .ok ⟨compressedLetter xxh64 flag e.letter body⟩ := by
  simp only [compressionFilter, hnone, ne_eq, not_true_eq_false, if_false, hc]
  rw [if_neg (by omega)]
  rfl

/-- What the incoming filter answers for a context with its own flag whose
payload the codec restores. -/
theorem decompressionFilter_uncompress (ctx : RpcRecvContext)
    (hflag : ctx.header.compression = flag.toInt8) {payload : List UInt8}
    (hu : uncompress ctx.payload = .ok payload) :
    decompressionFilter xxh64 uncompress flag ctx =
      .ok { header := checksumRpc xxh64
              { ctx.header with compression := CompressionFlags.none.toInt8 } payload
              (UInt32.ofNat payload.length), payload } := by
  simp only [decompressionFilter, hflag, if_true, hu]
  rfl

/-- What the round trip gives back.  The outgoing filter makes a letter with
the filter's flag, the size and checksum of its body, and the sent session,
meta and bitflags.  The reader's two steps take its frame off the stream,
whatever follows it: `parse_header` reads the header as it was sent, and
`parse_payload` the body.  The incoming filter then gives the sent header with
compression `none`, size and checksum of the body, and the body. -/
def RoundTrips (compressF : RpcEnvelope → Except CodecError RpcEnvelope)
    (decompressF : RpcRecvContext → Except CodecError RpcRecvContext) (flag : CompressionFlags)
    (e : RpcEnvelope) : Prop :=
  ∃ l : RpcLetter, compressF e = .ok ⟨l⟩ ∧
    l.header.compression = flag.toInt8 ∧ l.header.size.toNat = l.body.length ∧
    l.header.checksum = rpcChecksumPayload xxh64 l.body l.header.size ∧
    l.header.session = e.letter.header.session ∧ l.header.«meta» = e.letter.header.«meta» ∧
    l.header.bitflags = e.letter.header.bitflags ∧
    ∃ ctx, (∀ rest, parseHeader (l.frame ++ rest) = (some l.header, l.body ++ rest) ∧
        parsePayload xxh64 l.header (l.body ++ rest) = (some ctx, rest)) ∧
      decompressF ctx = .ok
        { header := (checksumRpc xxh64 e.letter.header e.letter.body
            (UInt32.ofNat e.letter.body.length)), payload := e.letter.body }

/-- The round trip over any codec whose `uncompress` undoes its `compress`,
for a flag other than `disabled`, which the reader turns into `none`; a
request id and a compressed body that `parse_header` lets through, a body that
fits a flatbuffers vector, and a header without payload headers. -/
theorem filter_round_trip (e : RpcEnvelope) (hflag : flag ≠ .disabled)
    (hnone : e.letter.header.compression = CompressionFlags.none.toInt8)
    (hlong : minCompressionSize.toNat < e.letter.body.length)
    (hbits : e.letter.header.bitflags &&& headerBitFlagsHasPayloadHeaders = 0)
    (hmeta : e.letter.header.«meta» ≠ 0)
    {body : List UInt8} (hc : compress e.letter.body = .ok body)
    (hu : uncompress body = .ok e.letter.body) (hpos : 0 < body.length)
    (hfit : body.length ≤ 2 ^ 31 - 1)
    (hck : (compressedLetter xxh64 flag e.letter body).header.checksum ≠ 0) :
    RoundTrips xxh64 (compressionFilter xxh64 compress flag minCompressionSize)
      (decompressionFilter xxh64 uncompress flag) flag e := by
  set l := compressedLetter xxh64 flag e.letter body with hl
  have hsize : l.header.size.toNat = body.length := by
    simp only [hl, compressedLetter, checksumRpc_size]
    exact UInt32.toNat_ofNat_of_lt' (by simp [UInt32.size]; omega)
  have hsum : l.header.checksum = rpcChecksumPayload xxh64 l.body l.header.size := by
    simp [hl, compressedLetter, rpcChecksumPayload]
  -- the reader keeps every flag but `disabled`
  have hcomp : l.header.compression = flag.toInt8 := by simp [hl, compressedLetter, checksumRpc]
  have hkeep : disabledAsNone l.header = l.header := by
    unfold disabledAsNone
    rw [if_neg (by rw [hcomp]; cases flag <;> simp_all [CompressionFlags.toInt8])]
  have hread : ∀ rest, parseHeader (l.frame ++ rest) = (some l.header, l.body ++ rest) ∧
      parsePayload xxh64 l.header (l.body ++ rest) = (some ⟨l.header, body⟩, rest) := by
    intro rest
    have h := parse_complete xxh64 l.header l.body rest hsize hpos hfit
      (by rw [hcomp]; cases flag <;> simp) hsum hck hmeta hbits
    rw [hkeep] at h
    exact h
  refine ⟨l, compressionFilter_compress xxh64 e hnone hlong hc, hcomp, hsize, hsum, rfl, rfl, rfl,
    ⟨l.header, body⟩, hread, ?_⟩
  rw [decompressionFilter_uncompress xxh64 _ hcomp hu]
  -- the compression byte goes back to `none`, the byte the letter was sent with
  simp [hl, compressedLetter, checksumRpc, ← hnone]

/-- The pair leaves alone a letter whose compression is neither `none` nor the
filter's own algorithm, and a short uncompressed one, on both sides of the
wire. -/
theorem filters_skip (e : RpcEnvelope) (hflag : flag ≠ .none)
    (h : (e.letter.header.compression ≠ CompressionFlags.none.toInt8 ∧
        e.letter.header.compression ≠ flag.toInt8) ∨
      (e.letter.header.compression = CompressionFlags.none.toInt8 ∧
        e.letter.body.length ≤ minCompressionSize.toNat)) :
    compressionFilter xxh64 compress flag minCompressionSize e = .ok e ∧
      decompressionFilter xxh64 uncompress flag e.letter.received = .ok e.letter.received := by
  refine ⟨compressionFilter_skip xxh64 e (h.imp (·.1) (·.2)), decompressionFilter_skip xxh64 _ ?_⟩
  -- the reader turns `disabled` into `none`, and neither is the filter's flag
  have hne : CompressionFlags.none.toInt8 ≠ flag.toInt8 := by
    cases flag <;> simp_all [CompressionFlags.toInt8]
  simp only [RpcLetter.received, disabledAsNone]
  split
  · exact hne
  · rcases h with ⟨-, hf⟩ | ⟨hn, -⟩
    · exact hf
    · rw [hn]
      exact hne

end Filters

/-! ## The lz4 and zstd filters -/

section Instances

variable (xxh64 : List UInt8 → UInt64)

/-- The lz4 pair round-trips every long uncompressed body of at most
`LZ4_MAX_INPUT_SIZE` bytes, with a request id, whose compressed letter has a
checksum that is not zero. -/
theorem lz4_filter_round_trip {api : Lz4Api} (hapi : api.Lawful) (minCompressionSize : UInt32)
    (e : RpcEnvelope) (hnone : e.letter.header.compression = CompressionFlags.none.toInt8)
    (hlong : minCompressionSize.toNat < e.letter.body.length)
    (hmax : e.letter.body.length ≤ lz4MaxInputSize)
    (hbits : e.letter.header.bitflags &&& headerBitFlagsHasPayloadHeaders = 0)
    (hmeta : e.letter.header.«meta» ≠ 0)
    (hck : ∀ l, lz4CompressionFilter xxh64 api minCompressionSize e = .ok ⟨l⟩ →
      l.header.checksum ≠ 0) :
    RoundTrips xxh64 (lz4CompressionFilter xxh64 api minCompressionSize)
      (lz4DecompressionFilter xxh64 api) .lz4 e := by
  have hfit := Lz4FastCodec.length_compressed_le hapi hmax
  have hc := Lz4FastCodec.compress_eq hapi hmax
  exact filter_round_trip xxh64 e (by decide) hnone hlong hbits hmeta hc
    (Lz4FastCodec.uncompress_compress hapi (by omega) hmax) (by simp) (by simp; omega)
    (hck _ (compressionFilter_compress xxh64 e hnone hlong hc))

/-- The zstd pair round-trips every long uncompressed body below `2 ^ 32`
bytes whose frame fits a flatbuffers vector, with a request id, whose
compressed letter has a checksum that is not zero. -/
theorem zstd_filter_round_trip {api : ZstdApi} (hapi : api.Lawful) (minCompressionSize : UInt32)
    (e : RpcEnvelope) (hnone : e.letter.header.compression = CompressionFlags.none.toInt8)
    (hlong : minCompressionSize.toNat < e.letter.body.length)
    (hmax : e.letter.body.length < 2 ^ 32)
    (hfit : (api.compressed e.letter.body).2.length ≤ 2 ^ 31 - 1)
    (hbits : e.letter.header.bitflags &&& headerBitFlagsHasPayloadHeaders = 0)
    (hmeta : e.letter.header.«meta» ≠ 0)
    (hck : ∀ l, zstdCompressionFilter xxh64 api minCompressionSize e = .ok ⟨l⟩ →
      l.header.checksum ≠ 0) :
    RoundTrips xxh64 (zstdCompressionFilter xxh64 api minCompressionSize)
      (zstdDecompressionFilter xxh64 api) .zstd e := by
  have hc := ZstdCodec.compress_eq hapi hmax
  exact filter_round_trip xxh64 e (by decide) hnone hlong hbits hmeta hc
    (ZstdCodec.uncompress_compress hapi hmax)
    (List.length_pos_of_ne_nil (hapi.compressed_ne_nil _ hmax)) hfit
    (hck _ (compressionFilter_compress xxh64 e hnone hlong hc))

/-- The compression filters, amended: each pair round-trips a long
uncompressed body whose compressed form fits a flatbuffers vector, in a
header with a request id and without payload headers, when the compressed
letter's checksum is not zero, so that `parse_header` lets it through; and
each pair leaves alone a letter whose compression is neither `none` nor its
own algorithm, and a short uncompressed one. -/
theorem compression_filters_round_trip {lz4 : Lz4Api} (hlz4 : lz4.Lawful) {zstd : ZstdApi}
    (hzstd : zstd.Lawful) (minCompressionSize : UInt32) (e : RpcEnvelope) :
    (e.letter.header.compression = CompressionFlags.none.toInt8 →
      minCompressionSize.toNat < e.letter.body.length →
      e.letter.body.length ≤ lz4MaxInputSize →
      e.letter.header.bitflags &&& headerBitFlagsHasPayloadHeaders = 0 →
      e.letter.header.«meta» ≠ 0 →
      (∀ l, lz4CompressionFilter xxh64 lz4 minCompressionSize e = .ok ⟨l⟩ →
        l.header.checksum ≠ 0) →
      RoundTrips xxh64 (lz4CompressionFilter xxh64 lz4 minCompressionSize)
        (lz4DecompressionFilter xxh64 lz4) .lz4 e) ∧
    (e.letter.header.compression = CompressionFlags.none.toInt8 →
      minCompressionSize.toNat < e.letter.body.length →
      e.letter.body.length < 2 ^ 32 →
      (zstd.compressed e.letter.body).2.length ≤ 2 ^ 31 - 1 →
      e.letter.header.bitflags &&& headerBitFlagsHasPayloadHeaders = 0 →
      e.letter.header.«meta» ≠ 0 →
      (∀ l, zstdCompressionFilter xxh64 zstd minCompressionSize e = .ok ⟨l⟩ →
        l.header.checksum ≠ 0) →
      RoundTrips xxh64 (zstdCompressionFilter xxh64 zstd minCompressionSize)
        (zstdDecompressionFilter xxh64 zstd) .zstd e) ∧
    ((e.letter.header.compression ≠ CompressionFlags.none.toInt8 ∧
          e.letter.header.compression ≠ CompressionFlags.lz4.toInt8) ∨
        (e.letter.header.compression = CompressionFlags.none.toInt8 ∧
          e.letter.body.length ≤ minCompressionSize.toNat) →
      lz4CompressionFilter xxh64 lz4 minCompressionSize e = .ok e ∧
        lz4DecompressionFilter xxh64 lz4 e.letter.received = .ok e.letter.received) ∧
    ((e.letter.header.compression ≠ CompressionFlags.none.toInt8 ∧
          e.letter.header.compression ≠ CompressionFlags.zstd.toInt8) ∨
        (e.letter.header.compression = CompressionFlags.none.toInt8 ∧
          e.letter.body.length ≤ minCompressionSize.toNat) →
      zstdCompressionFilter xxh64 zstd minCompressionSize e = .ok e ∧
        zstdDecompressionFilter xxh64 zstd e.letter.received = .ok e.letter.received) :=
  ⟨lz4_filter_round_trip xxh64 hlz4 minCompressionSize e,
    zstd_filter_round_trip xxh64 hzstd minCompressionSize e,
    filters_skip xxh64 e (by decide), filters_skip xxh64 e (by decide)⟩

/-- The amended round trip with the stored codecs, for a two-byte body and
no threshold. -/
theorem compression_filters_round_trip_stored :
    let hdr : Header := { compression := 0, bitflags := 0, session := 7, size := 2,
                          checksum := 2, «meta» := 1 }
    let e : RpcEnvelope := ⟨{ header := hdr, body := [5, 6] }⟩
    let xxh64 := fun bs : List UInt8 => UInt64.ofNat bs.length
    storedLz4.Lawful ∧ storedZstd.Lawful ∧
      RoundTrips xxh64 (lz4CompressionFilter xxh64 storedLz4 0)
        (lz4DecompressionFilter xxh64 storedLz4) .lz4 e ∧
      RoundTrips xxh64 (zstdCompressionFilter xxh64 storedZstd 0)
        (zstdDecompressionFilter xxh64 storedZstd) .zstd e := by
  intro hdr e xxh64
  have h := compression_filters_round_trip xxh64 storedLz4_lawful storedZstd_lawful 0 e
  -- the compressed letters, whose checksums are the lengths of their bodies
  have hlz4 : ∀ l, lz4CompressionFilter xxh64 storedLz4 0 e = .ok ⟨l⟩ → l.header.checksum ≠ 0 := by
    intro l hl
    rw [lz4CompressionFilter, compressionFilter_compress xxh64 e rfl (by decide)
      (Lz4FastCodec.compress_eq storedLz4_lawful (by decide))] at hl
    cases hl
    decide
  have hzstd : ∀ l, zstdCompressionFilter xxh64 storedZstd 0 e = .ok ⟨l⟩ → l.header.checksum ≠ 0 := by
    intro l hl
    rw [zstdCompressionFilter, compressionFilter_compress xxh64 e rfl (by decide)
      (ZstdCodec.compress_eq storedZstd_lawful (by decide))] at hl
    cases hl
    decide
  exact ⟨storedLz4_lawful, storedZstd_lawful,
    h.1 rfl (by decide) (by decide) (by decide) (by decide) hlz4,
    h.2.1 rfl (by decide) (by decide) (by decide) (by decide) (by decide) hzstd⟩

/-- An envelope already marked lz4 passes the outgoing filter untouched, but
the incoming filter decompresses it: with the stored LZ4, the body
`02000000 00 07 08` comes back as `07 08`. -/
theorem lz4_filters_change_lz4_envelope :
    let hdr : Header := { compression := CompressionFlags.lz4.toInt8, bitflags := 0,
                          session := 0, size := 7, checksum := 7, «meta» := 1 }
    let e : RpcEnvelope := ⟨{ header := hdr, body := [2, 0, 0, 0, 0, 7, 8] }⟩
    let xxh64 := fun bs : List UInt8 => UInt64.ofNat bs.length
    storedLz4.Lawful ∧ lz4CompressionFilter xxh64 storedLz4 0 e = .ok e ∧
      lz4DecompressionFilter xxh64 storedLz4 e.letter.received ≠ .ok e.letter.received := by
  intro hdr e xxh64
  refine ⟨storedLz4_lawful, compressionFilter_skip xxh64 e (.inl (by decide)), ?_⟩
  decide

/-- An lz4 payload of one to three bytes that `parse_header` and
`parse_payload` accept reaches `lz4_fast_codec::uncompress`, which reads it
past its end; the compressed size it would pass on is negative. -/
theorem lz4_decompression_reads_past_end (api : Lz4Api) {s s₁ s₂ : List UInt8} {hdr : Header}
    {ctx : RpcRecvContext} (hh : parseHeader s = (some hdr, s₁))
    (hp : parsePayload xxh64 hdr s₁ = (some ctx, s₂))
    (hlz4 : ctx.header.compression = CompressionFlags.lz4.toInt8)
    (hshort : ctx.payload.length < 4) :
    1 ≤ ctx.payload.length ∧
      lz4DecompressionFilter xxh64 api ctx = .error (.readPastEnd ctx.payload.length) ∧
      lz4CompressedSize ctx.payload.length = ctx.payload.length - 4 := by
  refine ⟨(parse_accepted xxh64 hh hp).size_pos, ?_, lz4CompressedSize_of_lt hshort⟩
  simp only [lz4DecompressionFilter, decompressionFilter, hlz4, if_true,
    Lz4FastCodec.uncompress_of_length_lt api hshort]
  rfl

/-- The one-byte lz4 payload `00`, with the length of the bytes as the hash. -/
theorem lz4_decompression_reads_past_end_one_byte :
    let hdr : Header := { compression := CompressionFlags.lz4.toInt8, bitflags := 0,
                          session := 0, size := 1, checksum := 1, «meta» := 1 }
    let xxh64 := fun bs : List UInt8 => UInt64.ofNat bs.length
    parseHeader (hdr.toBytes ++ [0]) = (some hdr, [0]) ∧
      parsePayload xxh64 hdr [0] = (some ⟨hdr, [0]⟩, []) ∧
      lz4DecompressionFilter xxh64 storedLz4 ⟨hdr, [0]⟩ = .error (.readPastEnd 1) := by
  intro hdr xxh64
  have hh : parseHeader (hdr.toBytes ++ [0]) = (some hdr, [0]) := by decide
  have hp : parsePayload xxh64 hdr [0] = (some ⟨hdr, [0]⟩, []) := by decide
  exact ⟨hh, hp, (lz4_decompression_reads_past_end xxh64 storedLz4 hh hp rfl (by decide)).2.1⟩

end Instances

end Smf
