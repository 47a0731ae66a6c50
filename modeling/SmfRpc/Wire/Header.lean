import SmfRpc.Lib.LittleEndian

/-!
# The wire header, letters and the payload checksum

`src/core/rpc.fbs` declares the 16-byte `smf::rpc::header` struct that every
frame starts with:

```
[ 8 bits compression | 8 bits bitflags | 16 bits session
| 32 bits size | 32 bits checksum | 32 bits meta ]
```

`compression` is the enum `compression_flags:byte`, so the field is a *signed*
byte and a header read off the wire may hold any of its 256 values, not only
the four declared ones.  `Header.compression` is therefore an `Int8`, and
`CompressionFlags` names the declared values through `CompressionFlags.toInt8`.

`rpc_envelope::send` writes the header with a `memcpy` of the struct and
`rpc_recv_context::parse_header` reads it back with a `memcpy` into a struct.
Flatbuffers structs are stored little-endian, so both copies are
`Header.toBytes` and `Header.ofBytes` below, and `ofBytes_toBytes` is the
round trip of the two copies.

`rpc_checksum_payload` (`src/include/smf/rpc_header_utils.h`) masks an
`XXH64` hash to its low 32 bits.  xxHash is a third-party library, so every
definition that checksums takes the hash function `xxh64` as an argument and
nothing is assumed about it.

What the model leaves out: `rpc_letter::dynamic_headers`, which
`rpc_envelope::send` never writes, and the connection limits and remote
address that `rpc_recv_context` carries for the server's own use.
-/

namespace Smf

open LittleEndian

namespace Rpc

/-- The declared values of `compression_flags` in `rpc.fbs`. -/
inductive CompressionFlags where
  | none
  | disabled
  | zstd
  | lz4
  deriving DecidableEq, Repr

/-- The byte that stands for each declared value, as `flatc` numbers them. -/
def CompressionFlags.toInt8 : CompressionFlags → Int8
  | .none => 0
  | .disabled => 1
  | .zstd => 2
  | .lz4 => 3

/-- `compression_flags_MAX`, the largest declared value. -/
def compressionFlagsMax : Int8 := CompressionFlags.lz4.toInt8

/-- `header_bit_flags_has_payload_headers`, bit 0 of `bitflags`. -/
def headerBitFlagsHasPayloadHeaders : UInt8 := 1

/-- `smf::rpc::header`, field by field, with the source's field widths. -/
structure Header where
  compression : Int8
  bitflags : UInt8
  session : UInt16
  size : UInt32
  checksum : UInt32
  «meta» : UInt32
  deriving DecidableEq, Repr

/-- `sizeof(rpc::header)`: `kRPCHeaderSize` and `rpc_envelope::kHeaderSize`. -/
def kHeaderSize : Nat := 16

/-- The sixteen bytes a `memcpy` of the struct copies on a little-endian
machine. -/
def Header.toBytes (h : Header) : List UInt8 :=
  [h.compression.toUInt8, h.bitflags] ++ leBytes 2 h.session.toNat ++
    leBytes 4 h.size.toNat ++ leBytes 4 h.checksum.toNat ++
    leBytes 4 h.«meta».toNat

/-- The struct a `memcpy` of sixteen bytes fills in. -/
def Header.ofBytes (bs : List UInt8) : Header where
  compression := (bs.getD 0 0).toInt8
  bitflags := bs.getD 1 0
  session := UInt16.ofNat (leValue ((bs.drop 2).take 2))
  size := UInt32.ofNat (leValue ((bs.drop 4).take 4))
  checksum := UInt32.ofNat (leValue ((bs.drop 8).take 4))
  «meta» := UInt32.ofNat (leValue ((bs.drop 12).take 4))

@[simp] theorem Header.length_toBytes (h : Header) : h.toBytes.length = kHeaderSize := by
  simp [Header.toBytes, kHeaderSize]

/-- Copying a header out and back in gives the same header. -/
@[simp] theorem Header.ofBytes_toBytes (h : Header) : Header.ofBytes h.toBytes = h := by
  have hs := h.session.toNat_lt
  have hz := h.size.toNat_lt
  have hc := h.checksum.toNat_lt
  have hm := h.«meta».toNat_lt
  simp [Header.ofBytes, Header.toBytes, List.drop_append,
    List.drop_of_length_le, List.take_of_length_le, hs, hz, hc, hm]

end Rpc

open Rpc

/-- `rpc_letter`: a header and the body it describes. -/
structure RpcLetter where
  header : Header
  body : List UInt8
  deriving DecidableEq, Repr

/-- `rpc_letter::size`: the header struct and the body. -/
def RpcLetter.size (l : RpcLetter) : Nat := kHeaderSize + l.body.length

/-- `rpc_envelope`: what a client sends and a server replies with. -/
structure RpcEnvelope where
  letter : RpcLetter
  deriving DecidableEq, Repr

/-- `rpc_recv_context`: a parsed header and the payload read after it. -/
structure RpcRecvContext where
  header : Header
  payload : List UInt8
  deriving DecidableEq, Repr

/-- `rpc_recv_context::session`. -/
def RpcRecvContext.session (ctx : RpcRecvContext) : UInt16 := ctx.header.session

/-- `rpc_recv_context::request_id`, the `meta` field on the server side. -/
def RpcRecvContext.requestId (ctx : RpcRecvContext) : UInt32 := ctx.header.«meta»

section Checksum

variable (xxh64 : List UInt8 → UInt64)

/-- `rpc_checksum_payload`: the low 32 bits of `XXH64` over the first `size`
bytes of the payload. -/
def rpcChecksumPayload (payload : List UInt8) (size : UInt32) : UInt32 :=
  (xxh64 (payload.take size.toNat)).toUInt32

/-- `checksum_rpc`: stamp the checksum and the size of a payload on a
header. -/
def checksumRpc (hdr : Header) (payload : List UInt8) (size : UInt32) : Header :=
  { hdr with checksum := rpcChecksumPayload xxh64 payload size, size := size }

@[simp] theorem checksumRpc_size (hdr : Header) (payload : List UInt8) (size : UInt32) :
    (checksumRpc xxh64 hdr payload size).size = size := rfl

@[simp] theorem checksumRpc_checksum (hdr : Header) (payload : List UInt8) (size : UInt32) :
    (checksumRpc xxh64 hdr payload size).checksum = rpcChecksumPayload xxh64 payload size := rfl

end Checksum

end Smf
