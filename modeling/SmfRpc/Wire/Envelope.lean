import SmfRpc.Wire.RecvContext

/-!
# `rpc_envelope::send` and the framing round trip

`rpc_envelope::send` (`src/core/rpc_envelope.cc`) is three asynchronous steps
on an output stream: write the sixteen header bytes, write the body, flush.
`RpcEnvelope.send` is that list of stream operations, and `written` is the
byte string a list of operations leaves on the wire; a flush adds no byte.

A reader of one connection alternates `parse_header` and `parse_payload` and
stops at the first step that answers `std::nullopt`; `readFrames` is that
loop, run for a given number of frames.

The round trip (`readFrames_sendAll`) needs every letter to be finalised by
`checksum_rpc` over its body and to pass the receiver's checks.  One of those
checks is not implied by the sender's side: `parse_header` rejects a checksum
of zero, and `checksum_rpc` stores a zero whenever the low 32 bits of `XXH64`
of the body are zero.  `Finalised` is what `checksum_rpc` and the sender
establish; the round trip takes the non-zero checksum as a hypothesis of its
own, and `readFrames_zero_checksum` shows a finalised letter that the reader
refuses when the hash is zero.
-/

namespace Smf

open Rpc RpcRecvContext

/-- One operation on a `seastar::output_stream<char>`. -/
inductive OutputEvent where
  | write (bytes : List UInt8)
  | flush
  deriving DecidableEq, Repr

/-- The bytes one operation puts on the wire. -/
def OutputEvent.bytes : OutputEvent → List UInt8
  | .write bs => bs
  | .flush => []

/-- The bytes a sequence of operations puts on the wire, in order. -/
def written (evs : List OutputEvent) : List UInt8 := evs.flatMap OutputEvent.bytes

@[simp] theorem written_nil : written [] = [] := rfl

@[simp] theorem written_cons (e : OutputEvent) (evs : List OutputEvent) :
    written (e :: evs) = e.bytes ++ written evs := rfl

@[simp] theorem written_append (evs evs' : List OutputEvent) :
    written (evs ++ evs') = written evs ++ written evs' := by
  simp [written]

/-- `rpc_envelope::send`: the `memcpy`'d header, the body, then a flush. -/
def RpcEnvelope.send (e : RpcEnvelope) : List OutputEvent :=
  [.write e.letter.header.toBytes, .write e.letter.body, .flush]

/-- The frame of a letter: its header bytes, then its body. -/
def RpcLetter.frame (l : RpcLetter) : List UInt8 := l.header.toBytes ++ l.body

@[simp] theorem written_send (e : RpcEnvelope) : written e.send = e.letter.frame := by
  simp [RpcEnvelope.send, RpcLetter.frame, OutputEvent.bytes]

/-- Letters sent one after another, each with `rpc_envelope::send`. -/
def sendAll (ls : List RpcLetter) : List OutputEvent :=
  ls.flatMap fun l => RpcEnvelope.send ⟨l⟩

/-- The bytes of letters sent one after another are their frames, in order. -/
theorem written_sendAll (ls : List RpcLetter) : written (sendAll ls) = ls.flatMap RpcLetter.frame := by
  induction ls with
  | nil => rfl
  | cons l ls ih =>
    simp only [sendAll, List.flatMap_cons, written_append, written_send] at ih ⊢
    rw [ih]

section Read

variable (xxh64 : List UInt8 → UInt64)

/-- Alternate `parse_header` and `parse_payload` for at most `n` frames,
stopping at the first step that fails.  The answer is the contexts read and
what is left of the stream. -/
def readFrames : Nat → List UInt8 → List RpcRecvContext × List UInt8
  | 0, s => ([], s)
  | n + 1, s =>
    match parseHeader s with
    | (none, s') => ([], s')
    | (some hdr, s') =>
      match parsePayload xxh64 hdr s' with
      | (none, s'') => ([], s'')
      | (some ctx, s'') =>
        let (ctxs, rest) := readFrames n s''
        (ctx :: ctxs, rest)

/-- What the sender guarantees of a letter: `checksum_rpc` stamped its size
and checksum over its body, the body fits a flatbuffers vector, the request id
is set, no payload headers are announced, and the compression byte is one of
the declared values. -/
structure Finalised (l : RpcLetter) : Prop where
  size_eq : l.header.size.toNat = l.body.length
  checksum_eq : l.header.checksum = rpcChecksumPayload xxh64 l.body l.header.size
  body_pos : 0 < l.body.length
  body_le : l.body.length ≤ 2 ^ 31 - 1
  meta_ne : l.header.«meta» ≠ 0
  bitflags_eq : l.header.bitflags = 0
  compression_mem : ∃ f : CompressionFlags, l.header.compression = f.toInt8

/-- What the reader answers for a letter: the header as sent, except that
`disabled` is read as `none`, and the body. -/
def RpcLetter.received (l : RpcLetter) : RpcRecvContext :=
  { header := disabledAsNone l.header, payload := l.body }

/-- One finalised frame with a non-zero checksum is read back, and the rest of
the stream is left for the next read. -/
theorem readFrames_frame (n : Nat) (l : RpcLetter) (rest : List UInt8)
    (hl : Finalised xxh64 l) (hck : l.header.checksum ≠ 0) :
    readFrames xxh64 (n + 1) (l.frame ++ rest) =
      (l.received :: (readFrames xxh64 n rest).1, (readFrames xxh64 n rest).2) := by
  have hcomp : l.header.compression = CompressionFlags.none.toInt8 ∨
      l.header.compression = CompressionFlags.disabled.toInt8 ∨
      l.header.compression = CompressionFlags.zstd.toInt8 ∨
      l.header.compression = CompressionFlags.lz4.toInt8 := by
    obtain ⟨f, hf⟩ := hl.compression_mem
    cases f <;> simp [hf]
  have hbits : l.header.bitflags &&& headerBitFlagsHasPayloadHeaders = 0 := by
    rw [hl.bitflags_eq]
    decide
  obtain ⟨hh, hp⟩ := parse_complete xxh64 l.header l.body rest hl.size_eq
    hl.body_pos hl.body_le hcomp hl.checksum_eq hck hl.meta_ne hbits
  rw [readFrames, RpcLetter.frame, hh]
  simp only [hp]
  rfl

/-- The framing round trip: finalised letters with non-zero checksums, sent in
order to one stream, are read back in order, one context per letter, and the
stream is used up. -/
theorem readFrames_sendAll (ls : List RpcLetter) (hls : ∀ l ∈ ls, Finalised xxh64 l)
    (hck : ∀ l ∈ ls, l.header.checksum ≠ 0) :
    readFrames xxh64 ls.length (written (sendAll ls)) = (ls.map RpcLetter.received, []) := by
  rw [written_sendAll]
  induction ls with
  | nil => rfl
  | cons l ls ih =>
    have hrest := ih (fun l' hl' => hls l' (List.mem_cons_of_mem l hl'))
      (fun l' hl' => hck l' (List.mem_cons_of_mem l hl'))
    rw [List.length_cons, List.flatMap_cons,
      readFrames_frame xxh64 _ l _ (hls l List.mem_cons_self) (hck l List.mem_cons_self), hrest]
    rfl

end Read

/-- Two letters, with a one-byte and a two-byte body and the length of the
bytes as the hash: both are finalised with non-zero checksums, and the reader
takes the stream apart at the end of the first frame. -/
theorem readFrames_sendAll_two :
    let ls : List RpcLetter :=
      [{ header := { compression := 0, bitflags := 0, session := 7, size := 1,
                     checksum := 1, «meta» := 1 },
         body := [0] },
       { header := { compression := 2, bitflags := 0, session := 8, size := 2,
                     checksum := 2, «meta» := 9 },
         body := [5, 6] }]
    let xxh64 := fun bs : List UInt8 => UInt64.ofNat bs.length
    (∀ l ∈ ls, Finalised xxh64 l) ∧ (∀ l ∈ ls, l.header.checksum ≠ 0) ∧
      readFrames xxh64 ls.length (written (sendAll ls)) = (ls.map RpcLetter.received, []) := by
  intro ls xxh64
  have hfin : ∀ l ∈ ls, Finalised xxh64 l := by
    intro l hl
    simp only [ls, List.mem_cons, List.not_mem_nil, or_false] at hl
    rcases hl with rfl | rfl
    · exact ⟨rfl, by decide, by decide, by decide, by decide, rfl, ⟨.none, rfl⟩⟩
    · exact ⟨rfl, by decide, by decide, by decide, by decide, rfl, ⟨.zstd, rfl⟩⟩
  have hck : ∀ l ∈ ls, l.header.checksum ≠ 0 := by decide
  exact ⟨hfin, hck, readFrames_sendAll xxh64 ls hfin hck⟩

/-- With `XXH64` the constant zero function, the one-byte letter below is
finalised by `checksum_rpc` with a checksum of zero, and the reader refuses
its header instead of answering one context. -/
theorem readFrames_zero_checksum :
    let l : RpcLetter :=
      { header := { compression := 0, bitflags := 0, session := 0, size := 1,
                    checksum := 0, «meta» := 1 },
        body := [0] }
    Finalised (fun _ => 0) l ∧
      readFrames (fun _ => 0) 1 (written (sendAll [l])) ≠ ([l.received], []) := by
  intro l
  refine ⟨⟨rfl, rfl, by decide, by decide, by decide, rfl, ⟨.none, rfl⟩⟩, ?_⟩
  decide

end Smf
