import SmfRpc.Codegen.Identifier
import SmfRpc.Codegen.Calls

/-!
# The schema smfc generates from

`src/smfc/generator.h`, `smf_service.h`, `smf_method.h` and `crc.h`: what the
generators read of a parsed flatbuffers schema, and the ids of services and
methods.

The flatbuffers parser is not modelled: `Parser` holds the parts of
`flatbuffers::Parser` that `generator` reads, as the parser leaves them.  A
`std::string` is a `List Char`; where the code hashes or escapes the bytes of
one, `utf8` gives them.

A service's id is the CRC-32 of its name, and a method's the CRC-32 of
`name:input:output`; a request for a method carries the two xored.

`boost::algorithm::join` and flatbuffers' `StripPath` and `StripExtension`
belong to other libraries.  `StringUtil` takes them as parameters, with the
laws the proofs use, and every result of the generators holds for any
`StringUtil`; the instance `StringUtil.reference` is what the examples run
with.
-/

namespace SmfGen

/-! ## Bytes and numbers -/

/-- The bytes of a `std::string` holding `s` in UTF-8. -/
def utf8 (s : List Char) : List UInt8 := s.flatMap String.utf8EncodeChar

/-- One step of the reflected CRC-32 division: the remainder shifted down a
bit, with the reversed polynomial `0xEDB88320` added when the bit shifted out
was set. -/
def crcShift (c : UInt32) : UInt32 := if c &&& 1 = 1 then (c >>> 1) ^^^ 0xEDB88320 else c >>> 1

/-- The remainder after one more byte. -/
def crcByte (c : UInt32) (b : UInt8) : UInt32 := Nat.iterate crcShift 8 (c ^^^ b.toUInt32)

/-- `smf_gen::crc32(data, length)`: `boost::crc_32_type`, the reflected CRC-32
with initial remainder and final xor `0xFFFFFFFF`. -/
def crc32 (data : List UInt8) : UInt32 := data.foldl crcByte 0xFFFFFFFF ^^^ 0xFFFFFFFF

example : crc32 (utf8 "123456789".toList) = 0xCBF43926 := by decide +kernel

/-- `std::to_string` of an unsigned number. -/
def toStdString (n : Nat) : List Char := Nat.toDigits 10 n

/-! ## The string functions of other libraries -/

/-- The string functions the generators take from other libraries:
`boost::algorithm::join(parts, sep)`, and flatbuffers' `StripPath` and
`StripExtension`.  They are not modelled.  What the proofs use of them is that
none writes a character that its arguments lack, and that `join` writes the
separator between two parts. -/
class StringUtil where
  join : List (List Char) → List Char → List Char
  stripPath : List Char → List Char
  stripExtension : List Char → List Char
  not_mem_join {c : Char} {parts : List (List Char)} {sep : List Char} :
    (∀ part ∈ parts, c ∉ part) → c ∉ sep → c ∉ join parts sep
  join_contains_sep (a b : List Char) (rest : List (List Char)) (sep : List Char) :
    sep <:+: join (a :: b :: rest) sep
  not_mem_stripPath {c : Char} {s : List Char} : c ∉ s → c ∉ stripPath s
  not_mem_stripExtension {c : Char} {s : List Char} : c ∉ s → c ∉ stripExtension s

export StringUtil (join stripPath stripExtension)

/-- The three functions as boost and flatbuffers define them: the parts with
the separator between each two; what follows the last `/` or `\`; and what
precedes the last `.`, if there is one.  The examples run with these. -/
instance StringUtil.reference : StringUtil where
  join parts sep := sep.intercalate parts
  stripPath filepath := (filepath.reverse.takeWhile fun c => c ≠ '/' ∧ c ≠ '\\').reverse
  stripExtension filepath :=
    if '.' ∈ filepath then ((filepath.reverse.dropWhile (· ≠ '.')).drop 1).reverse else filepath
  not_mem_join {c parts sep} hparts hsep := by
    induction parts with
    | nil => exact List.not_mem_nil
    | cons part parts ih =>
      have hp := hparts part List.mem_cons_self
      have ih := ih fun q hq => hparts q (List.mem_cons_of_mem part hq)
      cases parts with
      | nil => simpa using hp
      | cons q qs =>
        rw [List.intercalate_cons_cons]
        simp only [List.mem_append, not_or]
        exact ⟨⟨hp, hsep⟩, ih⟩
  join_contains_sep a b rest sep := by
    rw [List.intercalate_cons_cons]
    exact ⟨a, _, rfl⟩
  not_mem_stripPath h hm := h (List.mem_reverse.mp ((List.takeWhile_sublist _).subset
    (List.mem_reverse.mp hm)))
  not_mem_stripExtension {c s} h := by
    split
    · intro hm
      exact h (List.mem_reverse.mp ((List.dropWhile_sublist _).subset
        ((List.drop_sublist _ _).subset (List.mem_reverse.mp hm))))
    · exact h

/-! ## The parsed schema -/

/-- A `flatbuffers::StructDef`: its namespace and its name. -/
structure StructDef where
  namespaceComponents : List (List Char)
  name : List Char
  deriving DecidableEq, Repr

/-- A `flatbuffers::RPCCall`. -/
structure RpcCall where
  name : List Char
  request : StructDef
  response : StructDef
  deriving DecidableEq, Repr

/-- A `flatbuffers::ServiceDef`.  `generated` is set on the services of
included files. -/
structure ServiceDef where
  name : List Char
  namespaceComponents : List (List Char)
  calls : List RpcCall
  generated : Bool
  deriving DecidableEq, Repr

/-- What `generator` reads of a `flatbuffers::Parser`: `services_`, the
components of `current_namespace_`, and the keys of `included_files_` in the
map's order. -/
structure Parser where
  services : List ServiceDef
  currentNamespace : List (List Char)
  includedFiles : List (List Char)
  deriving DecidableEq, Repr

/-! ## `smf_method` and `smf_service` -/

section Names

variable [StringUtil]

/-- `smf_method::type(sd, language::cpp)`: the namespace and the name, joined
by `::`. -/
def cppType (sd : StructDef) : List Char := join (sd.namespaceComponents ++ [sd.name]) "::".toList

/-- `smf_method::type(sd, language::python)`: the namespace, then the name
twice, the type inside its module, joined by `.`. -/
def pythonType (sd : StructDef) : List Char :=
  join (sd.namespaceComponents ++ [sd.name, sd.name]) ".".toList

/-- `language` (`src/smfc/language.h`). -/
inductive Language where
  | none
  | cpp
  | go
  | python
  | all
  deriving DecidableEq, Repr

/-- `smf_method::type(sd, lang)`, which throws for a language without a
generator. -/
def typeName (sd : StructDef) : Language → Except String (List Char)
  | .cpp => .ok (cppType sd)
  | .go => .ok sd.name
  | .python => .ok (pythonType sd)
  | _ => .error "Unknown language for the method.h"

/-- An `smf_method`: the call, and the name and id of its service. -/
structure SmfMethod where
  call : RpcCall
  serviceName : List Char
  serviceId : UInt32
  deriving DecidableEq, Repr

namespace SmfMethod

def name (m : SmfMethod) : List Char := m.call.name

def inputTypeName (m : SmfMethod) : List Char := cppType m.call.request

def outputTypeName (m : SmfMethod) : List Char := cppType m.call.response

/-- The method's id: the CRC-32 of `name:input_type:output_type`. -/
def methodId (m : SmfMethod) : UInt32 :=
  crc32 (utf8 (m.name ++ ':' :: m.inputTypeName ++ ':' :: m.outputTypeName))

end SmfMethod

/-- An `smf_service`, over its `ServiceDef`. -/
structure SmfService where
  service : ServiceDef
  deriving DecidableEq, Repr

namespace SmfService

def name (s : SmfService) : List Char := s.service.name

/-- The service's id: the CRC-32 of its name. -/
def serviceId (s : SmfService) : UInt32 := crc32 (utf8 s.name)

/-- `methods()`: one `smf_method` per call, with this service's name and id. -/
def methods (s : SmfService) : List SmfMethod := s.service.calls.map fun c => ⟨c, s.name, s.serviceId⟩

end SmfService

/-! ## `generator` -/

/-- A `generator`: the parser and `input_filename`. -/
structure Generator where
  parser : Parser
  inputFilename : List Char
  deriving DecidableEq, Repr

namespace Generator

/-- `services()`: the services of the file itself, not of the files it
includes. -/
def services (g : Generator) : List SmfService :=
  (g.parser.services.filter fun s => !s.generated).map SmfService.mk

/-- `package()`: `GetFullyQualifiedName("")` of the current namespace. -/
def package (g : Generator) : List Char := join g.parser.currentNamespace ".".toList

def packageParts (g : Generator) : List (List Char) := g.parser.currentNamespace

def inputFilenameWithoutExt (g : Generator) : List Char := stripExtension (stripPath g.inputFilename)

end Generator

end Names

/-! ## Names -/

/-- `utils::file_name_identifier`, on the bytes of the name; the identifier is
ASCII. -/
def fileNameIdentifierOf (filename : List Char) : List Char :=
  (Utils.fileNameIdentifier (utf8 filename)).map fun b => Char.ofNat b.toNat

/-- `utils::is_camel_case`: an upper-case letter somewhere. -/
def isCamelCase (s : List Char) : Bool := s.any Char.isUpper

/-- `utils::lower_vec`: the parts joined, letters lower-cased. -/
def lowerVec (vec : List (List Char)) : List Char :=
  vec.flatten.map fun c => if c.isAlphanum then c.toLower else c

/-- `s[0] = toupper(s[0])`. -/
def upperFirst : List Char → List Char
  | [] => []
  | c :: cs => c.toUpper :: cs

/-- `utils::proper_postfix_token(s, postfix)`. -/
def properPostfixToken (s post : List Char) : List Char :=
  if isCamelCase s then upperFirst s ++ upperFirst post else lowerVec [s, ['_'], post]

/-- `utils::proper_prefix_token(prefix, s)`. -/
def properPrefixToken (pre s : List Char) : List Char :=
  if isCamelCase s then upperFirst pre ++ upperFirst s else lowerVec [pre, ['_'], s]

/-- `vars[key] = value`. -/
def setVar (vars : Vars) (key : String) (value : List Char) : Vars :=
  AssocList.set vars key.toList value

/-! ## Names the printer substitutes as they are -/

/-- A name with no `'$'`, which would send the printer's loop back into it,
and no line break or NUL, which would change how it is written. -/
def PlainName (s : List Char) : Prop := '$' ∉ s ∧ '\n' ∉ s ∧ '\x00' ∉ s

instance (s : List Char) : Decidable (PlainName s) := inferInstanceAs (Decidable (_ ∧ _ ∧ _))

/-- The names of a `StructDef` are plain. -/
def StructDef.Plain (sd : StructDef) : Prop :=
  (∀ c ∈ sd.namespaceComponents, PlainName c) ∧ PlainName sd.name

instance (sd : StructDef) : Decidable sd.Plain := inferInstanceAs (Decidable (_ ∧ _))

def RpcCall.Plain (call : RpcCall) : Prop :=
  PlainName call.name ∧ call.request.Plain ∧ call.response.Plain

instance (call : RpcCall) : Decidable call.Plain := inferInstanceAs (Decidable (_ ∧ _ ∧ _))

def ServiceDef.Plain (s : ServiceDef) : Prop :=
  PlainName s.name ∧ (∀ c ∈ s.namespaceComponents, PlainName c) ∧ ∀ call ∈ s.calls, call.Plain

instance (s : ServiceDef) : Decidable s.Plain := inferInstanceAs (Decidable (_ ∧ _ ∧ _))

/-- Every name a generator substitutes: the file names hold no `'$'`, and the
names of the schema are plain. -/
def Generator.Plain (g : Generator) : Prop :=
  '$' ∉ g.inputFilename ∧ (∀ f ∈ g.parser.includedFiles, '$' ∉ f) ∧
    (∀ part ∈ g.parser.currentNamespace, '$' ∉ part) ∧ ∀ s ∈ g.parser.services, s.Plain

instance (g : Generator) : Decidable g.Plain := inferInstanceAs (Decidable (_ ∧ _ ∧ _ ∧ _))

theorem dollar_not_mem_toStdString (n : Nat) : '$' ∉ toStdString n := fun h =>
  absurd (Nat.isDigit_of_mem_toDigits (by decide) (by decide) h) (by decide)

theorem toUpper_ne_dollar {c : Char} (h : c ≠ '$') : c.toUpper ≠ '$' := by
  unfold Char.toUpper
  split
  · rename_i hc
    intro he
    have hv := congrArg Char.val he
    simp only [Char.reduceVal] at hv hc
    grind
  · exact h

theorem toLower_ne_dollar {c : Char} (h : c ≠ '$') : c.toLower ≠ '$' := by
  unfold Char.toLower
  split
  · rename_i hc
    intro he
    have hv := congrArg Char.val he
    simp only [Char.reduceVal] at hv hc
    grind
  · exact h

theorem dollar_not_mem_upperFirst {s : List Char} (h : '$' ∉ s) : '$' ∉ upperFirst s := by
  cases s with
  | nil => exact List.not_mem_nil
  | cons c cs =>
    simp only [List.mem_cons, not_or] at h
    simp only [upperFirst, List.mem_cons, not_or]
    exact ⟨Ne.symm (toUpper_ne_dollar (Ne.symm h.1)), h.2⟩

theorem dollar_not_mem_lowerVec {vec : List (List Char)} (h : ∀ s ∈ vec, '$' ∉ s) :
    '$' ∉ lowerVec vec := by
  simp only [lowerVec, List.mem_map, List.mem_flatten, not_exists, not_and]
  rintro c ⟨s, hs, hc⟩ he
  split at he
  · exact toLower_ne_dollar (fun hd => h s hs (hd ▸ hc)) he
  · exact h s hs (he ▸ hc)

theorem dollar_not_mem_properPrefixToken {pre s : List Char} (hpre : '$' ∉ pre) (hs : '$' ∉ s) :
    '$' ∉ properPrefixToken pre s := by
  unfold properPrefixToken
  split
  · simp only [List.mem_append, not_or]
    exact ⟨dollar_not_mem_upperFirst hpre, dollar_not_mem_upperFirst hs⟩
  · apply dollar_not_mem_lowerVec
    simp only [List.mem_cons, List.not_mem_nil, or_false]
    rintro x (rfl | rfl | rfl) <;> first | exact hpre | exact hs | decide

theorem dollar_not_mem_properPostfixToken {s post : List Char} (hs : '$' ∉ s) (hpost : '$' ∉ post) :
    '$' ∉ properPostfixToken s post := by
  unfold properPostfixToken
  split
  · simp only [List.mem_append, not_or]
    exact ⟨dollar_not_mem_upperFirst hs, dollar_not_mem_upperFirst hpost⟩
  · apply dollar_not_mem_lowerVec
    simp only [List.mem_cons, List.not_mem_nil, or_false]
    rintro x (rfl | rfl | rfl) <;> first | exact hs | exact hpost | decide

/-- A byte read as a character keeps its code. -/
theorem toNat_ofNat_byte (b : UInt8) : (Char.ofNat b.toNat).toNat = b.toNat := by
  have hv : b.toNat.isValidChar := Or.inl (by have := b.toNat_lt; omega)
  rw [Char.ofNat, dif_pos hv]
  rfl

/-- The identifier of a name is letters, digits and `_`: no `'$'`. -/
theorem dollar_not_mem_fileNameIdentifierOf (s : List Char) : '$' ∉ fileNameIdentifierOf s := by
  have hbyte : ∀ c, (36 : UInt8) ∉ Utils.escapeByte c :=
    Utils.forall_uint8 (P := fun c => (36 : UInt8) ∉ Utils.escapeByte c) (by decide +kernel)
  simp only [fileNameIdentifierOf, Utils.fileNameIdentifier, List.mem_map, List.mem_flatMap,
    not_exists, not_and]
  rintro b ⟨c, -, hb⟩ he
  have hcode := congrArg Char.toNat he
  rw [toNat_ofNat_byte] at hcode
  have hb36 : b = 36 := UInt8.toNat_inj.mp hcode
  exact hbyte c (hb36 ▸ hb)

end SmfGen
