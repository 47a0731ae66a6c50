import SmfRpc.Lib.LittleEndian
import Mathlib.Tactic.IntervalCases

/-!
# `zstd_codec` and `lz4_fast_codec`

`src/core/compression.cc` wraps two third-party libraries.  Their functions
are not modelled: `Lz4Api` and `ZstdApi` are the functions the codecs call,
with the arguments and results the C signatures give them, and
`Lz4Api.Lawful` and `ZstdApi.Lawful` state what the codecs rely on, each
field one documented promise of the library.  What is modelled is smf's own
code around them: the buffer sizes, the `int` and `size_t` conversions, the
four-byte length prefix of the lz4 framing, the trims, and every
`LOG_THROW_IF`.

A codec call answers its bytes, or how it failed: an exception, named by the
condition that `LOG_THROW_IF` quotes in its message, or a read past the end
of the input, where the C++ code has undefined behaviour.

`lz4_fast_codec::uncompress` reads the prefix with `read_le<uint32_t>` before
it looks at the size, so an input of fewer than four bytes is read past its
end (`Lz4FastCodec.uncompress_of_length_lt`), and `sz - 4` wraps in `size_t`
and comes to `int` as a negative count (`lz4CompressedSize_of_lt`).
-/

namespace Smf

open LittleEndian

/-- How a codec call fails. -/
inductive CodecError where
  /-- `LOG_THROW_IF` threw; its message quotes the condition that held. -/
  | thrown (condition : String)
  /-- The call read the byte at `index`, past the end of its input. -/
  | readPastEnd (index : Nat)
  deriving DecidableEq, Repr

/-- `seastar::read_le<uint32_t>(p)`: the four bytes at `p`, lowest first. -/
def readLeU32 (data : List UInt8) : Except CodecError UInt32 :=
  if 4 ≤ data.length then .ok (UInt32.ofNat (leValue (data.take 4)))
  else .error (.readPastEnd data.length)

/-- `seastar::write_le<uint32_t>(p, v)`. -/
def writeLeU32 (v : UInt32) : List UInt8 := leBytes 4 v.toNat

@[simp] theorem length_writeLeU32 (v : UInt32) : (writeLeU32 v).length = 4 := by
  simp [writeLeU32]

theorem readLeU32_writeLeU32 (v : UInt32) (rest : List UInt8) :
    readLeU32 (writeLeU32 v ++ rest) = .ok v := by
  have hv : v.toNat < 256 ^ 4 := v.toNat_lt
  simp [readLeU32, writeLeU32, leValue_leBytes_of_lt hv]

/-! ## LZ4 -/

/-- `LZ4_MAX_INPUT_SIZE`, as `compression.cc` defines it where `lz4.h` does
not. -/
def lz4MaxInputSize : Nat := 0x7E000000

/-- The LZ4 block functions `lz4_fast_codec` calls, over C `int`s.  The
source pointer is given as the bytes from it on; each call answers its
return value and the bytes it wrote at the destination. -/
structure Lz4Api where
  /-- `LZ4_compressBound(inputSize)`. -/
  lz4CompressBound : Int → Int
  /-- `LZ4_compress_default(src, dst, srcSize, dstCapacity)`. -/
  lz4CompressDefault : List UInt8 → Int → Int → Int × List UInt8
  /-- `LZ4_decompress_safe(src, dst, compressedSize, dstCapacity)`. -/
  lz4DecompressSafe : List UInt8 → Int → Int → Int × List UInt8

/-- What LZ4 answers for `src` given `LZ4_compressBound` bytes of room: the
call `lz4_fast_codec::compress` makes for an input that fits an `int`. -/
def Lz4Api.compressed (api : Lz4Api) (src : List UInt8) : Int × List UInt8 :=
  api.lz4CompressDefault src src.length (api.lz4CompressBound src.length)

/-- What `lz4_fast_codec` relies on of LZ4, for inputs of at most
`LZ4_MAX_INPUT_SIZE` bytes. -/
structure Lz4Api.Lawful (api : Lz4Api) : Prop where
  /-- `LZ4_compressBound` is the documented `n + n / 255 + 16`, or less. -/
  compressBound_le : ∀ n : Nat, n ≤ lz4MaxInputSize → api.lz4CompressBound n ≤ n + n / 255 + 16
  /-- Compression into `LZ4_compressBound` bytes succeeds and writes as many
  bytes as it answers, at most the capacity. -/
  compress_ok : ∀ src : List UInt8, src.length ≤ lz4MaxInputSize →
    0 < (api.compressed src).1 ∧ (api.compressed src).1 ≤ api.lz4CompressBound src.length ∧
      ((api.compressed src).2.length : Int) = (api.compressed src).1
  /-- Decompression of the compressed bytes, with their exact size and the
  original size as capacity, gives back the input. -/
  decompress_compress : ∀ src : List UInt8, src.length ≤ lz4MaxInputSize →
    api.lz4DecompressSafe (api.compressed src).2 (api.compressed src).1 src.length =
      ((src.length : Int), src)

/-- An LZ4 that stores its input behind a zero token byte.  It keeps every
promise of `Lz4Api.Lawful`, so the promises can all be kept at once. -/
def storedLz4 : Lz4Api where
  lz4CompressBound n := n + n / 255 + 16
  lz4CompressDefault src size cap :=
    if size = src.length ∧ size + 1 ≤ cap then (size + 1, 0 :: src) else (0, [])
  lz4DecompressSafe src compressedSize cap :=
    if 1 ≤ compressedSize ∧ compressedSize ≤ src.length ∧ compressedSize - 1 ≤ cap then
      (compressedSize - 1, (src.take compressedSize.toNat).drop 1)
    else (-1, [])

theorem storedLz4_compressed (src : List UInt8) :
    storedLz4.compressed src = ((src.length : Int) + 1, 0 :: src) := by
  have hroom : (src.length : Int) + 1 ≤ src.length + src.length / 255 + 16 := by omega
  unfold Lz4Api.compressed storedLz4
  dsimp only
  rw [if_pos ⟨rfl, hroom⟩]

theorem storedLz4_lawful : storedLz4.Lawful where
  compressBound_le _ _ := le_refl _
  compress_ok src _ := by
    rw [storedLz4_compressed]
    simp only [storedLz4, List.length_cons, Nat.cast_add, Nat.cast_one, and_true]
    omega
  decompress_compress src _ := by
    rw [storedLz4_compressed]
    simp [storedLz4]

/-- A `std::size_t` converted to the `int` parameter of an LZ4 function. -/
def sizeToInt (n : Nat) : Int := (Int32.ofNat n).toInt

theorem sizeToInt_of_lt {n : Nat} (h : n < 2 ^ 31) : sizeToInt n = n :=
  Int32.toInt_ofNat_of_lt h

/-- The `compressedSize` that `uncompress(data, sz)` passes: `sz - 4`,
computed in `std::size_t` and converted to `int`. -/
def lz4CompressedSize (sz : Nat) : Int := sizeToInt (UInt64.ofNat sz - 4).toNat

namespace Lz4FastCodec

variable (api : Lz4Api)

/-- `lz4_fast_codec::compress`: a buffer of `LZ4_compressBound(size) + 4`
bytes, the compressed data at offset 4, the size written little-endian at
offset 0, trimmed to the compressed size plus 4. -/
def compress (data : List UInt8) : Except CodecError (List UInt8) :=
  let size := sizeToInt data.length
  let maxDstSize := api.lz4CompressBound size
  let (compressedDataSize, dst) := api.lz4CompressDefault data size maxDstSize
  if compressedDataSize < 0 then .error (.thrown "compressed_data_size < 0")
  else if compressedDataSize = 0 then .error (.thrown "compressed_data_size == 0")
  else .ok (writeLeU32 (UInt32.ofNat data.length) ++ dst.take compressedDataSize.toNat)

/-- `lz4_fast_codec::uncompress`: the original size from the prefix, then
`LZ4_decompress_safe` from offset 4 into a buffer of that size, trimmed to
what it answers. -/
def uncompress (data : List UInt8) : Except CodecError (List UInt8) := do
  let orig ← readLeU32 data
  let (decompressedSize, out) :=
    api.lz4DecompressSafe (data.drop 4) (lz4CompressedSize data.length) orig.toInt32.toInt
  if decompressedSize < 0 then throw (.thrown "decompressed_size < 0")
  else if decompressedSize = 0 then throw (.thrown "decompressed_size == 0")
  else pure (out.take decompressedSize.toNat)

end Lz4FastCodec

/-! ### `compressedSize` -/

theorem lz4CompressedSize_of_le {sz : Nat} (h4 : 4 ≤ sz) (h : sz < 2 ^ 31) :
    lz4CompressedSize sz = (sz - 4 : Nat) := by
  have hsub : (UInt64.ofNat sz - 4).toNat = sz - 4 := by
    rw [UInt64.toNat_sub, UInt64.toNat_ofNat_of_lt' (by simp [UInt64.size]; omega)]
    simp only [UInt64.reduceToNat]
    omega
  rw [lz4CompressedSize, hsub, sizeToInt_of_lt (by omega)]

/-- Below four bytes, `sz - 4` wraps around in `std::size_t`, and the `int`
it becomes is the negative `sz - 4`. -/
theorem lz4CompressedSize_of_lt {sz : Nat} (h : sz < 4) : lz4CompressedSize sz = sz - 4 := by
  interval_cases sz <;> decide

/-- An input of fewer than four bytes is read past its end:
`read_le<uint32_t>` runs before anything looks at the size. -/
theorem Lz4FastCodec.uncompress_of_length_lt (api : Lz4Api) {data : List UInt8}
    (h : data.length < 4) :
    Lz4FastCodec.uncompress api data = .error (.readPastEnd data.length) := by
  have hr : readLeU32 data = .error (.readPastEnd data.length) := by
    simp only [readLeU32]
    rw [if_neg (by omega)]
  simp only [Lz4FastCodec.uncompress, hr]
  rfl

/-! ### The codec under a lawful LZ4 -/

section Lawful

variable {api : Lz4Api} (hapi : api.Lawful)
include hapi

/-- What LZ4 writes for `src` is at most the documented bound, and as long as
it says. -/
theorem Lz4Api.Lawful.compressed_length {src : List UInt8}
    (hlen : src.length ≤ lz4MaxInputSize) :
    0 < (api.compressed src).2.length ∧
      (api.compressed src).2.length ≤ src.length + src.length / 255 + 16 ∧
      ((api.compressed src).2.length : Int) = (api.compressed src).1 := by
  obtain ⟨hpos, hle, hlen'⟩ := hapi.compress_ok src hlen
  have hb := hapi.compressBound_le src.length hlen
  have hbound : ((api.compressed src).2.length : Int) ≤ src.length + src.length / 255 + 16 := by
    calc ((api.compressed src).2.length : Int) = (api.compressed src).1 := hlen'
      _ ≤ api.lz4CompressBound src.length := hle
      _ ≤ src.length + src.length / 255 + 16 := hb
  omega

/-- `compress` writes the length prefix and the bytes LZ4 answers. -/
theorem Lz4FastCodec.compress_eq {src : List UInt8} (hlen : src.length ≤ lz4MaxInputSize) :
    Lz4FastCodec.compress api src =
      .ok (writeLeU32 (UInt32.ofNat src.length) ++ (api.compressed src).2) := by
  obtain ⟨hpos, -, hlen'⟩ := hapi.compressed_length hlen
  have hsz : sizeToInt src.length = src.length :=
    sizeToInt_of_lt (by unfold lz4MaxInputSize at hlen; omega)
  have hc : api.lz4CompressDefault src src.length (api.lz4CompressBound src.length) =
      api.compressed src := rfl
  simp only [Lz4FastCodec.compress, hsz, hc]
  generalize api.compressed src = r at hpos hlen' ⊢
  obtain ⟨n, dst⟩ := r
  simp only at hpos hlen' ⊢
  have hnn : ¬ n < 0 := by omega
  have hne : ¬ n = 0 := by omega
  simp only [hnn, hne, if_false]
  rw [List.take_of_length_le (by omega)]

/-- The framed output of `compress` fits a flatbuffers vector. -/
theorem Lz4FastCodec.length_compressed_le {src : List UInt8}
    (hlen : src.length ≤ lz4MaxInputSize) :
    4 + (api.compressed src).2.length ≤ 2 ^ 31 - 1 := by
  obtain ⟨-, hle, -⟩ := hapi.compressed_length hlen
  unfold lz4MaxInputSize at hlen
  omega

/-- `uncompress` gives back what `compress` was given. -/
theorem Lz4FastCodec.uncompress_compress {src : List UInt8} (hpos : 0 < src.length)
    (hlen : src.length ≤ lz4MaxInputSize) :
    Lz4FastCodec.uncompress api (writeLeU32 (UInt32.ofNat src.length) ++ (api.compressed src).2) =
      .ok src := by
  obtain ⟨-, hle, hlen'⟩ := hapi.compressed_length hlen
  unfold lz4MaxInputSize at hlen
  -- the prefix holds the length and is passed as the capacity
  have hpre : (UInt32.ofNat src.length).toInt32.toInt = src.length := by
    rw [UInt32.toInt32_ofNat', Int32.toInt_ofNat_of_lt (by omega)]
  -- the compressed size passed is the length of LZ4's output
  have hcs : lz4CompressedSize (4 + (api.compressed src).2.length) = (api.compressed src).1 := by
    rw [lz4CompressedSize_of_le (by omega) (by omega)]
    omega
  have hdrop : (writeLeU32 (UInt32.ofNat src.length) ++ (api.compressed src).2).drop 4 =
      (api.compressed src).2 := List.drop_left' (length_writeLeU32 _)
  have hpos' : ¬ (src.length : Int) < 0 := by omega
  have hne : src ≠ [] := List.ne_nil_of_length_pos hpos
  simp only [Lz4FastCodec.uncompress, readLeU32_writeLeU32, bind, Except.bind,
    List.length_append, length_writeLeU32, hdrop, hcs, hpre, hapi.decompress_compress src hlen]
  simp [hpos', hne]
  rfl

end Lawful

/-! ## Zstandard -/

/-- `ZSTD_CONTENTSIZE_UNKNOWN`. -/
def zstdContentSizeUnknown : UInt64 := 0 - 1

/-- `ZSTD_CONTENTSIZE_ERROR`. -/
def zstdContentSizeError : UInt64 := 0 - 2

/-- The zstd functions `zstd_codec` calls, over `size_t`.  Each call answers
its return value and the bytes it wrote at the destination. -/
structure ZstdApi where
  /-- `ZSTD_compressBound(srcSize)`. -/
  zstdCompressBound : Nat → Nat
  /-- `ZSTD_compress(dst, dstCapacity, src, srcSize, 3)`, with the source and
  the capacity. -/
  zstdCompress : List UInt8 → Nat → UInt64 × List UInt8
  /-- `ZSTD_isError(code)`. -/
  zstdIsError : UInt64 → Bool
  /-- `ZSTD_findDecompressedSize(src, srcSize)`. -/
  zstdFindDecompressedSize : List UInt8 → UInt64
  /-- `ZSTD_decompress(dst, dstCapacity, src, srcSize)`, with the source and the
  capacity. -/
  zstdDecompress : List UInt8 → UInt64 → UInt64 × List UInt8

/-- What zstd answers for `src` given `ZSTD_compressBound` bytes of room: the
call `zstd_codec::compress` makes. -/
def ZstdApi.compressed (api : ZstdApi) (src : List UInt8) : UInt64 × List UInt8 :=
  api.zstdCompress src (api.zstdCompressBound src.length)

/-- What `zstd_codec` relies on of zstd, for inputs below `2 ^ 32` bytes. -/
structure ZstdApi.Lawful (api : ZstdApi) : Prop where
  /-- Compression into `ZSTD_compressBound` bytes succeeds and writes as many
  bytes as it answers. -/
  compress_ok : ∀ src : List UInt8, src.length < 2 ^ 32 →
    api.zstdIsError (api.compressed src).1 = false ∧
      (api.compressed src).2.length = (api.compressed src).1.toNat
  /-- A frame records its content size. -/
  findDecompressedSize_compress : ∀ src : List UInt8, src.length < 2 ^ 32 →
    api.zstdFindDecompressedSize (api.compressed src).2 = UInt64.ofNat src.length
  /-- Decompression with the content size as capacity gives back the input. -/
  decompress_compress : ∀ src : List UInt8, src.length < 2 ^ 32 →
    api.zstdDecompress (api.compressed src).2 (UInt64.ofNat src.length) =
      (UInt64.ofNat src.length, src)
  /-- A frame is never empty: it starts with the magic number `0xFD2FB528`. -/
  compressed_ne_nil : ∀ src : List UInt8, src.length < 2 ^ 32 → (api.compressed src).2 ≠ []

/-- A zstd that stores its input behind an eight-byte content size.  It keeps
every promise of `ZstdApi.Lawful`, so the promises can all be kept at once. -/
def storedZstd : ZstdApi where
  zstdCompressBound n := n + 8
  zstdCompress src cap :=
    if src.length + 8 ≤ cap then (UInt64.ofNat (src.length + 8), leBytes 8 src.length ++ src)
    else (0 - 1, [])
  zstdIsError code := code == 0 - 1
  zstdFindDecompressedSize frame :=
    if 8 ≤ frame.length then UInt64.ofNat (leValue (frame.take 8)) else zstdContentSizeError
  zstdDecompress frame cap :=
    if 8 ≤ frame.length ∧ (frame.drop 8).length ≤ cap.toNat then
      (UInt64.ofNat (frame.drop 8).length, frame.drop 8)
    else (0 - 1, [])

theorem storedZstd_compressed (src : List UInt8) :
    storedZstd.compressed src = (UInt64.ofNat (src.length + 8), leBytes 8 src.length ++ src) := by
  simp [ZstdApi.compressed, storedZstd]

theorem storedZstd_lawful : storedZstd.Lawful where
  compress_ok src hsrc := by
    have hsz : (UInt64.ofNat (src.length + 8)).toNat = src.length + 8 :=
      UInt64.toNat_ofNat_of_lt' (by simp [UInt64.size]; omega)
    -- the size is far below the error code `2 ^ 64 - 1`
    have hne : UInt64.ofNat (src.length + 8) ≠ 0 - 1 := by
      intro h
      have hnat := congrArg UInt64.toNat h
      rw [hsz, show ((0 : UInt64) - 1).toNat = 2 ^ 64 - 1 from by decide] at hnat
      omega
    rw [storedZstd_compressed]
    refine ⟨beq_eq_false_iff_ne.mpr hne, ?_⟩
    rw [hsz, List.length_append, length_leBytes]
    omega
  findDecompressedSize_compress src hsrc := by
    have hv : src.length < 256 ^ 8 := by omega
    rw [storedZstd_compressed]
    simp [storedZstd, leValue_leBytes_of_lt hv]
  decompress_compress src hsrc := by
    have hsz : (UInt64.ofNat src.length).toNat = src.length :=
      UInt64.toNat_ofNat_of_lt' (by simp [UInt64.size]; omega)
    have hdrop : (leBytes 8 src.length ++ src).drop 8 = src :=
      List.drop_left' (length_leBytes 8 _)
    rw [storedZstd_compressed]
    simp only [storedZstd, hdrop, hsz, List.length_append, length_leBytes]
    rw [if_pos (by omega)]
  compressed_ne_nil src _ := by
    rw [storedZstd_compressed]
    exact List.append_ne_nil_of_left_ne_nil (List.ne_nil_of_length_pos (by simp [length_leBytes])) _

namespace ZstdCodec

variable (api : ZstdApi)

/-- `zstd_codec::compress`: a buffer of `ZSTD_compressBound(sz)` bytes,
trimmed to the compressed size. -/
def compress (data : List UInt8) : Except CodecError (List UInt8) :=
  let bodySize := api.zstdCompressBound data.length
  let (zstdCompressedSize, dst) := api.zstdCompress data bodySize
  if api.zstdIsError zstdCompressedSize then .error (.thrown "zstd_err != 0")
  else .ok (dst.take zstdCompressedSize.toNat)

/-- `zstd_codec::uncompress`: the content size from the frame, a buffer of
that size, and `ZSTD_decompress` into it. -/
def uncompress (data : List UInt8) : Except CodecError (List UInt8) :=
  let zstdSize := api.zstdFindDecompressedSize data
  if zstdSize = zstdContentSizeError then
    .error (.thrown "zstd_size == ZSTD_CONTENTSIZE_ERROR")
  else if zstdSize = zstdContentSizeUnknown then
    .error (.thrown "zstd_size == ZSTD_CONTENTSIZE_UNKNOWN")
  else
    let (sizeDecompressed, out) := api.zstdDecompress data zstdSize
    if zstdSize ≠ sizeDecompressed then .error (.thrown "zstd_size != size_decompressed")
    else .ok (out.take zstdSize.toNat)

end ZstdCodec

section Lawful

variable {api : ZstdApi} (hapi : api.Lawful)
include hapi

/-- `compress` answers the bytes zstd wrote. -/
theorem ZstdCodec.compress_eq {src : List UInt8} (hsrc : src.length < 2 ^ 32) :
    ZstdCodec.compress api src = .ok (api.compressed src).2 := by
  obtain ⟨herr, hlen⟩ := hapi.compress_ok src hsrc
  have hc : api.zstdCompress src (api.zstdCompressBound src.length) = api.compressed src := rfl
  simp only [ZstdCodec.compress, hc]
  generalize api.compressed src = r at herr hlen ⊢
  obtain ⟨n, dst⟩ := r
  simp only at herr hlen ⊢
  simp only [herr, Bool.false_eq_true, if_false]
  rw [List.take_of_length_le (by omega)]

/-- `uncompress` gives back what `compress` was given. -/
theorem ZstdCodec.uncompress_compress {src : List UInt8} (hlen : src.length < 2 ^ 32) :
    ZstdCodec.uncompress api (api.compressed src).2 = .ok src := by
  have hsz : (UInt64.ofNat src.length).toNat = src.length :=
    UInt64.toNat_ofNat_of_lt' (by simp [UInt64.size]; omega)
  -- a length below `2 ^ 32` is neither of the two reserved values
  have herr : UInt64.ofNat src.length ≠ zstdContentSizeError := by
    intro h
    have hnat := congrArg UInt64.toNat h
    rw [hsz, show zstdContentSizeError.toNat = 2 ^ 64 - 2 from by decide] at hnat
    omega
  have hunk : UInt64.ofNat src.length ≠ zstdContentSizeUnknown := by
    intro h
    have hnat := congrArg UInt64.toNat h
    rw [hsz, show zstdContentSizeUnknown.toNat = 2 ^ 64 - 1 from by decide] at hnat
    omega
  simp only [ZstdCodec.uncompress, hapi.findDecompressedSize_compress src hlen, herr, hunk,
    if_false, hapi.decompress_compress src hlen, ne_eq, not_true_eq_false, hsz]
  rw [List.take_of_length_le (le_refl _)]

end Lawful

end Smf
