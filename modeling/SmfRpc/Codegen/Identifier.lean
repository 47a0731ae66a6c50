import Mathlib.Data.UInt

/-!
# `file_name_identifier`

`src/smfc/cpp_generator.cc`: the name of a schema file, without its path and
extension, made into the identifier of the include guard
`SMF_<id>_INCLUDED`.  Letters and digits are upper-cased, `_` is kept, and
every other byte becomes `_` and its two lowercase hex digits.

The name is a `std::string`, so the model works on its bytes.  `char` is
signed: `c >> 4` of a byte above `0x7f` shifts in ones, which `& 0xf` masks
off, so the two digits are the byte's own.  `isalnum` and `toupper` are those
of the "C" locale, in which no byte above `0x7f` is a letter or a digit.

The map loses the case of letters, and `_21` is both the escape of `!` and
the name `_21` itself (`file_name_identifier_not_injective`).  What it keeps:
on names with no `_`, two names give one identifier exactly when they agree up
to case (`fileNameIdentifier_eq_iff`), by a decoding that undoes it
(`unescape_fileNameIdentifier`).
-/

namespace SmfGen

namespace Utils

/-- `isalnum` in the "C" locale. -/
def isAlnum (c : UInt8) : Bool :=
  (48 ≤ c && c ≤ 57) || (65 ≤ c && c ≤ 90) || (97 ≤ c && c ≤ 122)

/-- `toupper` in the "C" locale. -/
def toUpper (c : UInt8) : UInt8 := if 97 ≤ c && c ≤ 122 then c - 32 else c

/-- `static char hex[] = "0123456789abcdef"`, indexed. -/
def hex (i : UInt8) : UInt8 := ("0123456789abcdef".toList.map Char.toUInt8).getD i.toNat 0

/-- What one byte of the name becomes. -/
def escapeByte (c : UInt8) : List UInt8 :=
  if isAlnum c then [toUpper c]
  else if c = 95 then [c]
  else [95, hex ((c >>> 4) &&& 0xf), hex (c &&& 0xf)]

/-- `utils::file_name_identifier`. -/
def fileNameIdentifier (filename : List UInt8) : List UInt8 := filename.flatMap escapeByte

/-! ## Decoding -/

/-- The value of a hex digit `hex` writes. -/
def hexValue (d : UInt8) : UInt8 := if d ≤ 57 then d - 48 else d - 87

/-- Undo the escapes: `_` and two hex digits back to one byte. -/
def unescape : List UInt8 → List UInt8
  | 95 :: h :: l :: rest => (hexValue h * 16 + hexValue l) :: unescape rest
  | c :: rest => c :: unescape rest
  | [] => []

/-- A property of bytes checked on each of the 256 of them. -/
theorem forall_uint8 {P : UInt8 → Prop} (h : ∀ n < 256, P (UInt8.ofNat n)) (c : UInt8) : P c := by
  have := h c.toNat c.toNat_lt
  rwa [UInt8.ofNat_toNat] at this

theorem hexValue_hex {i : UInt8} (h : i < 16) : hexValue (hex i) = i :=
  forall_uint8 (P := fun i => i < 16 → hexValue (hex i) = i) (by decide +kernel) i h

theorem nibbles (c : UInt8) : hexValue (hex ((c >>> 4) &&& 0xf)) * 16 + hexValue (hex (c &&& 0xf)) = c := by
  have hhi : (c >>> 4) &&& 0xf < 16 := by
    rw [UInt8.lt_iff_toNat_lt, UInt8.toNat_and]
    exact lt_of_le_of_lt Nat.and_le_right (by decide)
  have hlo : c &&& 0xf < 16 := by
    rw [UInt8.lt_iff_toNat_lt, UInt8.toNat_and]
    exact lt_of_le_of_lt Nat.and_le_right (by decide)
  rw [hexValue_hex hhi, hexValue_hex hlo]
  apply UInt8.toNat_inj.mp
  have hc : c.toNat < 256 := c.toNat_lt
  simp only [UInt8.toNat_add, UInt8.toNat_mul, UInt8.toNat_and, UInt8.toNat_shiftRight]
  simp [Nat.shiftRight_eq_div_pow, Nat.and_two_pow_sub_one_eq_mod _ 4]
  omega

theorem toUpper_ne_underscore (c : UInt8) (h : isAlnum c = true) : toUpper c ≠ 95 :=
  forall_uint8 (P := fun c => isAlnum c = true → toUpper c ≠ 95) (by decide +kernel) c h

/-- Outside the name's own underscores, the escapes come apart again, with
letters upper-cased. -/
theorem unescape_escapeByte (c : UInt8) (hc : c ≠ 95) (rest : List UInt8) :
    unescape (escapeByte c ++ rest) = toUpper c :: unescape rest := by
  unfold escapeByte
  by_cases ha : isAlnum c = true
  · rw [if_pos ha, List.singleton_append]
    cases rest with
    | nil => simp [unescape]
    | cons d rest =>
      have hu := toUpper_ne_underscore c ha
      cases rest with
      | nil => simp [unescape, hu]
      | cons d' rest => simp [unescape, hu]
  · -- only letters change case
    have hup : toUpper c = c :=
      forall_uint8 (P := fun c => ¬isAlnum c = true → toUpper c = c) (by decide +kernel) c ha
    rw [if_neg ha, if_neg hc, hup]
    simp only [List.cons_append, List.nil_append, unescape]
    rw [nibbles]

theorem unescape_fileNameIdentifier {s : List UInt8} (hs : 95 ∉ s) :
    unescape (fileNameIdentifier s) = s.map toUpper := by
  induction s with
  | nil => rfl
  | cons c s ih =>
    simp only [List.mem_cons, not_or] at hs
    rw [fileNameIdentifier, List.flatMap_cons, unescape_escapeByte c (Ne.symm hs.1),
      ← fileNameIdentifier, ih hs.2, List.map_cons]

theorem escapeByte_toUpper (c : UInt8) : escapeByte (toUpper c) = escapeByte c :=
  forall_uint8 (P := fun c => escapeByte (toUpper c) = escapeByte c) (by decide +kernel) c

theorem fileNameIdentifier_map_toUpper (s : List UInt8) :
    fileNameIdentifier (s.map toUpper) = fileNameIdentifier s := by
  simp [fileNameIdentifier, List.flatMap_map, escapeByte_toUpper]

/-! ## Include guards -/

/-- Two names give one include guard: `a` and `A` (bytes `0x61` and `0x41`),
and `_21` and `!` (`0x5f 0x32 0x31` and `0x21`). -/
theorem file_name_identifier_not_injective :
    [0x61] ≠ ([0x41] : List UInt8) ∧ fileNameIdentifier [0x61] = fileNameIdentifier [0x41] ∧
      [0x5f, 0x32, 0x31] ≠ ([0x21] : List UInt8) ∧
        fileNameIdentifier [0x5f, 0x32, 0x31] = fileNameIdentifier [0x21] := by
  decide

/-- On names with no `_`, two names give one include guard exactly when they
agree up to the case of their letters. -/
theorem fileNameIdentifier_eq_iff {s t : List UInt8} (hs : 95 ∉ s) (ht : 95 ∉ t) :
    fileNameIdentifier s = fileNameIdentifier t ↔ s.map toUpper = t.map toUpper := by
  constructor
  · intro h
    rw [← unescape_fileNameIdentifier hs, ← unescape_fileNameIdentifier ht, h]
  · intro h
    rw [← fileNameIdentifier_map_toUpper s, h, fileNameIdentifier_map_toUpper]

/-- `rpc.fbs` and `RPC.fbs` (bytes of `rpc` and `RPC`) share a guard. -/
theorem fileNameIdentifier_eq_iff_rpc :
    95 ∉ ([0x72, 0x70, 0x63] : List UInt8) ∧ 95 ∉ ([0x52, 0x50, 0x43] : List UInt8) ∧
      (fileNameIdentifier [0x72, 0x70, 0x63] = fileNameIdentifier [0x52, 0x50, 0x43] ↔
        [0x72, 0x70, 0x63].map toUpper = [0x52, 0x50, 0x43].map toUpper) :=
  ⟨by decide, by decide, fileNameIdentifier_eq_iff (by decide) (by decide)⟩

end Utils

end SmfGen
