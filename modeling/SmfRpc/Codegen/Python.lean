import SmfRpc.Lib.OrderedSet
import SmfRpc.Server.Router
import SmfRpc.Codegen.Header

/-!
# `python_generator`

`src/smfc/python_generator.cc` and `python_generator.h`: the python client
smfc writes for a schema, `<name>_smf_client.py`, indented by four spaces.
As for the C++ header, each function of the generator is the list of calls it
makes on the printer.  `generate_header_includes` collects the module of
every response type in a `std::set`, and aborts with `LOG_IF(FATAL)` on a
type name without a `.`.

* `generateHeaderIncludes_eq_some`: the includes never abort, and import
  the modules of the response types as the `std::set` holds them, each once
  and in increasing order (`generateHeaderIncludes_eq`).
* `gen_eq_some`: on a plain schema the generator runs to the end, every
  substitution within five iterations.
* `client_calls_route`: the request id each client method sends, written in
  decimal, is one that the router of a C++ server with the generated classes
  registered answers with that method, when the ids of the methods differ.

The template decodes every reply with `GetRootAsPutResponse`, whatever the
method's response type.
-/

namespace SmfGen

open PrinterCall

namespace PythonGenerator

section

variable [StringUtil]

/-- `python_public_name`: `s[0] = std::toupper(s[0])`. -/
def pythonPublicName (s : List Char) : List Char := upperFirst s

/-- `print_client_method`. -/
def printClientMethod (method : SmfMethod) : List PrinterCall :=
  let vars := setVar [] "MethodName" (pythonPublicName method.name)
  let vars := setVar vars "MethodID" (toStdString method.methodId.toNat)
  let vars := setVar vars "ServiceID" (toStdString method.serviceId.toNat)
  let vars := setVar vars "OutType" (pythonType method.call.response)
  let vars := setVar vars "RequestID" (toStdString (method.serviceId ^^^ method.methodId).toNat)
  [print vars "async def $MethodName$(self, x):\n",
    indent,
    print vars "# request id = $ServiceID$ ^ $MethodID$\n",
    print vars "buf, status = await self._conn.call(x, $RequestID$)\n",
    print vars "return $OutType$.GetRootAsPutResponse(buf, 0), status\n",
    outdent]

/-- The body of the loop of `print_client` for the method at index `i`: the
method one level in, and a blank line when another follows. -/
def clientMethod (n : Nat) (method : SmfMethod) (i : Nat) : List PrinterCall :=
  [indent] ++ printClientMethod method ++ [outdent] ++
    (if i + 1 < n then [printText "\n"] else [])

/-- `print_client`: the class and its constructor, then the methods. -/
def printClient (service : SmfService) : List PrinterCall :=
  let vars := setVar [] "InterfaceName" (pythonPublicName service.name)
  let vars := setVar vars "ClientName" (pythonPublicName service.name ++ "Client".toList)
  let vars := setVar vars "ServiceID" (toStdString service.serviceId.toNat)
  [print vars "class $ClientName$:\n",
    indent,
    printText "def __init__(self, conn):\n",
    indent,
    printText "self._conn = conn\n\n",
    outdent,
    outdent] ++
  service.methods.zipIdx.flatMap fun (method, i) => clientMethod service.methods.length method i

variable (g : Generator)

/-- `generate_header_prologue`. -/
def generateHeaderPrologue : List PrinterCall :=
  let vars := setVar [] "filename" g.inputFilename
  [printText "# Generated by smfc.\n",
    printText "# Any local changes WILL BE LOST.\n",
    print vars "# source: $filename$\n\n"]

/-- `type.substr(0, type.rfind("."))`: what precedes the last `.`. -/
def substrToLastDot (type : List Char) : List Char :=
  ((type.reverse.dropWhile (· ≠ '.')).drop 1).reverse

/-- The module of a type; `none` when it has no `.`, where
`LOG_IF(FATAL, point == std::string::npos)` aborts. -/
def moduleOf (type : List Char) : Option (List Char) :=
  if '.' ∈ type then some (substrToLastDot type) else none

/-- The modules of the response types, in the order of the two loops of
`generate_header_includes`; `none` at the first type without a `.`. -/
def responseModules : Option (List (List Char)) :=
  (g.services.flatMap SmfService.methods).mapM fun method => moduleOf (pythonType method.call.response)

/-- The lines of one module, `print("import ")`, `print(import.c_str())`,
`print("\n")`. -/
def importLine (module : List Char) : List PrinterCall :=
  [printText "import ", printText (String.ofList (SmfPrinter.cStr module)), printText "\n"]

/-- `generate_header_includes`: the modules in a `std::set`, an `import` line
for each in the set's order, and a blank line. -/
def generateHeaderIncludes : Option (List PrinterCall) :=
  (responseModules g).map fun modules =>
    (OrderedSet.ofList modules).flatMap importLine ++ [printText "\n"]

/-- `generate_header_services`. -/
def generateHeaderServices : List PrinterCall := g.services.flatMap printClient

/-- The calls of `python_generator::gen`, with the includes' calls. -/
def calls (includes : List PrinterCall) : List PrinterCall :=
  generateHeaderPrologue g ++ includes ++ generateHeaderServices g

/-- The printer of the constructor: `set_indent_char(' ')`,
`set_indent_step(4)`. -/
def printer : SmfPrinter := { indentChar := ' ', indentStep := 4 }

/-- `python_generator::gen`, up to `save_conents_to_file()`: `none` when the
includes abort, or a call does not end within `fuel` iterations. -/
def gen (fuel : Nat) : Option SmfPrinter :=
  (generateHeaderIncludes g).bind fun includes => runAll fuel printer (calls g includes)

/-! ## The includes -/

/-- A python type name is joined from at least two parts: it has a `.`. -/
theorem dot_mem_pythonType (sd : StructDef) : '.' ∈ pythonType sd := by
  obtain ⟨a, b, l, hl⟩ : ∃ a b l, sd.namespaceComponents ++ [sd.name, sd.name] = a :: b :: l := by
    cases sd.namespaceComponents with
    | nil => exact ⟨_, _, [], rfl⟩
    | cons x xs =>
      obtain ⟨b, l, hbl⟩ := List.exists_cons_of_ne_nil
        (show xs ++ [sd.name, sd.name] ≠ [] by simp)
      exact ⟨x, b, l, by rw [List.cons_append, hbl]⟩
  obtain ⟨pre, post, hjoin⟩ := StringUtil.join_contains_sep a b l ".".toList
  rw [pythonType, hl, ← hjoin]
  simp

omit [StringUtil] in
theorem mapM_eq_some_map {α β : Type} {f : α → Option β} {h : α → β} {l : List α}
    (hf : ∀ x ∈ l, f x = some (h x)) : l.mapM f = some (l.map h) := by
  induction l with
  | nil => rfl
  | cons x l ih =>
    rw [List.mapM_cons, hf x List.mem_cons_self, ih fun y hy => hf y (List.mem_cons_of_mem x hy)]
    rfl

/-- The modules `generate_header_includes` inserts, in the loops' order. -/
def modules : List (List Char) :=
  (g.services.flatMap SmfService.methods).map fun method =>
    substrToLastDot (pythonType method.call.response)

/-- `LOG_IF(FATAL)` never fires: every response type has its module. -/
theorem generateHeaderIncludes_eq_some :
    generateHeaderIncludes g = some ((OrderedSet.ofList (modules g)).flatMap importLine ++
      [printText "\n"]) := by
  have hmods : responseModules g = some (modules g) :=
    mapM_eq_some_map fun method _ => if_pos (dot_mem_pythonType method.call.response)
  rw [generateHeaderIncludes, hmods]
  rfl

/-- The includes never abort, and import the module of each response type
once, in increasing order. -/
theorem generateHeaderIncludes_eq :
    ∃ imports : List (List Char),
      generateHeaderIncludes g = some (imports.flatMap importLine ++ [printText "\n"]) ∧
      imports.Pairwise (· < ·) ∧
      ∀ module, module ∈ imports ↔
        ∃ srv ∈ g.services, ∃ m ∈ srv.methods, module = substrToLastDot (pythonType m.call.response) := by
  refine ⟨OrderedSet.ofList (modules g), generateHeaderIncludes_eq_some g,
    OrderedSet.pairwise_ofList _, fun module => ?_⟩
  rw [OrderedSet.mem_ofList, modules, List.mem_map]
  simp only [List.mem_flatMap]
  constructor
  · rintro ⟨m, ⟨srv, hsrv, hm⟩, rfl⟩
    exact ⟨srv, hsrv, m, hm, rfl⟩
  · rintro ⟨srv, hsrv, m, hm, rfl⟩
    exact ⟨m, ⟨srv, hsrv, hm⟩, rfl⟩

/-! ## Every pass runs to the end -/

theorem dollar_not_mem_pythonType {sd : StructDef} (h : sd.Plain) : '$' ∉ pythonType sd := by
  refine StringUtil.not_mem_join (fun part hpart => ?_) (by decide)
  simp only [List.mem_append, List.mem_cons, List.not_mem_nil, or_false] at hpart
  rcases hpart with hpart | rfl | rfl
  · exact (h.1 part hpart).1
  · exact h.2.1
  · exact h.2.1

theorem wellFormed_printClientMethod {m : SmfMethod} (hp : m.call.Plain) :
    WellFormed (printClientMethod m) := by
  refine ⟨fun _ => rfl, ?_⟩
  simp only [printClientMethod, List.forall_mem_cons, mapOk_print, mapOk_indent, mapOk_outdent,
    List.not_mem_nil, IsEmpty.forall_iff, implies_true, and_true, true_and, and_self]
  exact varsOk_setVar (varsOk_setVar (varsOk_setVar (varsOk_setVar (varsOk_setVar varsOk_nil
    "MethodName" (dollar_not_mem_upperFirst (SmfMethod.dollar_not_mem_name hp)))
    "MethodID" (dollar_not_mem_toStdString _)) "ServiceID" (dollar_not_mem_toStdString _))
    "OutType" (dollar_not_mem_pythonType hp.2.2)) "RequestID" (dollar_not_mem_toStdString _)

theorem wellFormed_clientMethod (n : Nat) {m : SmfMethod} (hp : m.call.Plain) (i : Nat) :
    WellFormed (clientMethod n m i) := by
  have hblank : WellFormed (if i + 1 < n then [printText "\n"] else []) := by
    split
    · exact wellFormed_nil.printText_cons _
    · exact wellFormed_nil
  refine WellFormed.append ⟨(wellFormed_printClientMethod hp).balanced.indented, ?_⟩ hblank
  simp only [List.mem_cons, List.mem_append, List.not_mem_nil, or_false]
  rintro c ((rfl | hc) | rfl)
  · trivial
  · exact (wellFormed_printClientMethod hp).mapOk c hc
  · trivial

theorem wellFormed_printClient {srv : SmfService} (h : srv.service.Plain) :
    WellFormed (printClient srv) := by
  have hname := dollar_not_mem_upperFirst (SmfService.dollar_not_mem_name h)
  have hv := varsOk_setVar (varsOk_setVar (varsOk_setVar varsOk_nil "InterfaceName" hname)
    "ClientName" (show '$' ∉ pythonPublicName srv.name ++ "Client".toList by simpa [pythonPublicName] using hname))
    "ServiceID" (dollar_not_mem_toStdString srv.serviceId.toNat)
  refine WellFormed.append ⟨fun _ => rfl, ?_⟩ (WellFormed.flatMap fun mi hmi => ?_)
  · simp only [List.forall_mem_cons, mapOk_print, mapOk_printText, mapOk_indent, mapOk_outdent,
      List.not_mem_nil, IsEmpty.forall_iff, implies_true, and_true]
    exact hv
  · -- a method of the loop is one of the service's
    have hm : mi.1 ∈ srv.methods := List.mem_of_getElem? (List.mem_zipIdx_iff_getElem?.mp hmi)
    exact wellFormed_clientMethod _ (plain_of_mem_methods h hm).1 _

omit [StringUtil] in
theorem wellFormed_importLines (imports : List (List Char)) :
    WellFormed (imports.flatMap importLine ++ [printText "\n"]) := by
  -- every call of the import lines is a `printText`
  have htext : ∀ c ∈ imports.flatMap importLine ++ [printText "\n"], ∃ t, c = printText t := by
    simp only [List.mem_append, List.mem_flatMap, importLine, List.mem_cons, List.not_mem_nil,
      or_false]
    rintro c (⟨_, -, rfl | rfl | rfl⟩ | rfl) <;> exact ⟨_, rfl⟩
  refine ⟨balanced_of_flat fun c hc => ?_, fun c hc => ?_⟩
  · obtain ⟨t, rfl⟩ := htext c hc
    exact ⟨PrinterCall.noConfusion, PrinterCall.noConfusion⟩
  · obtain ⟨t, rfl⟩ := htext c hc
    exact mapOk_printText

theorem wellFormed_calls (hg : g.Plain) (imports : List (List Char)) :
    WellFormed (calls g (imports.flatMap importLine ++ [printText "\n"])) := by
  have hprologue : WellFormed (generateHeaderPrologue g) := by
    refine ⟨fun _ => rfl, ?_⟩
    simp only [generateHeaderPrologue, List.forall_mem_cons, mapOk_print, mapOk_printText,
      List.not_mem_nil, IsEmpty.forall_iff, implies_true, and_true, true_and]
    exact varsOk_setVar varsOk_nil "filename" hg.1
  exact (hprologue.append (wellFormed_importLines imports)).append
    (WellFormed.flatMap fun srv hsrv => wellFormed_printClient (plain_of_mem_services hg hsrv))

/-- No template of the python generator holds more than four escape
characters. -/
theorem dollars_le_four (imports : List (List Char)) :
    ∀ c ∈ calls g (imports.flatMap importLine ++ [printText "\n"]), c.dollars ≤ 4 := by
  have hmethod : ∀ m, ∀ c ∈ printClientMethod m, c.dollars ≤ 4 := by
    intro m c hc
    simp only [printClientMethod, List.mem_cons, List.not_mem_nil, or_false] at hc
    rcases hc with rfl | rfl | rfl | rfl | rfl | rfl
    all_goals first | exact Nat.zero_le _ | (rw [dollars_print]; decide +kernel)
  intro c hc
  simp only [calls, generateHeaderPrologue, generateHeaderServices, printClient, clientMethod,
    importLine, List.mem_append, List.mem_cons, List.mem_flatMap, List.not_mem_nil, or_false] at hc
  rcases hc with ((rfl | rfl | rfl) | ⟨_, -, rfl | rfl | rfl⟩ | rfl) |
    ⟨srv, -, (rfl | rfl | rfl | rfl | rfl | rfl | rfl) | ⟨mi, -, ((rfl | hc) | rfl) | hc⟩⟩
  all_goals first
    | exact Nat.zero_le _
    | (rw [dollars_print]; decide +kernel)
    | exact hmethod mi.1 c hc
    | skip
  · split at hc
    · rw [List.mem_singleton.mp hc]
      exact Nat.zero_le _
    · cases hc

theorem wellFormed_gen_calls (hg : g.Plain) :
    WellFormed (calls g ((OrderedSet.ofList (modules g)).flatMap importLine ++ [printText "\n"])) :=
  wellFormed_calls g hg _

/-- On every plain schema, with fuel for four placeholders, the python
generator runs to the last call. -/
theorem gen_eq_some (hg : g.Plain) {fuel : Nat} (hfuel : 4 < fuel) :
    ∃ out, gen g fuel = some { printer with out := out } := by
  have hwf := wellFormed_gen_calls g hg
  obtain ⟨t, ht⟩ := PrinterCall.runAll_eq_some hfuel (hwf.safe (dollars_le_four g _)) (p := printer)
    rfl (hwf.balanced printer.indentLevel)
  refine ⟨t, ?_⟩
  rw [gen, generateHeaderIncludes_eq_some, Option.bind_some, ht]
  rfl

/-! ## The request a client method sends -/

omit [StringUtil] in
theorem plainName_toStdString (n : Nat) : PlainName (toStdString n) := by
  have hdigit : ∀ c ∈ toStdString n, c.isDigit = true :=
    fun _ h => Nat.isDigit_of_mem_toDigits (by decide) (by decide) h
  exact ⟨fun h => absurd (hdigit _ h) (by decide), fun h => absurd (hdigit _ h) (by decide),
    fun h => absurd (hdigit _ h) (by decide)⟩

/-- The line of a client method that sends the request, with its request id
in the map it is printed with. -/
theorem callLine_mem_calls {srv : SmfService} (hsrv : srv ∈ g.services) {m : SmfMethod}
    (hm : m ∈ srv.methods) (includes : List PrinterCall) :
    ∃ vars : Vars, vars.lookup "RequestID".toList = some (toStdString m.requestId.toNat) ∧
      print vars "buf, status = await self._conn.call(x, $RequestID$)\n" ∈ calls g includes := by
  obtain ⟨i, hi⟩ := List.mem_iff_getElem?.mp hm
  have hmi : (m, i) ∈ srv.methods.zipIdx := List.mem_zipIdx_iff_getElem?.mpr hi
  -- the fourth call of `print_client_method`
  have hline : print _ "buf, status = await self._conn.call(x, $RequestID$)\n" ∈ printClientMethod m :=
    List.mem_cons_of_mem _ (List.mem_cons_of_mem _ (List.mem_cons_of_mem _ List.mem_cons_self))
  refine ⟨_, ?_, List.mem_append_right _ (List.mem_flatMap.mpr ⟨srv, hsrv, List.mem_append_right _
    (List.mem_flatMap.mpr ⟨(m, i), hmi, List.mem_append_left _ (List.mem_append_left _
      (List.mem_append_right _ hline))⟩)⟩)⟩
  simp [setVar, SmfMethod.requestId]

/-- What the python client writes for each method: the request goes out with
the method's request id, in decimal. -/
theorem gen_callLine {srv : SmfService} (hg : g.Plain) (hsrv : srv ∈ g.services) {m : SmfMethod}
    (hm : m ∈ srv.methods) {fuel : Nat} (hfuel : 4 < fuel) :
    ∃ p, gen g fuel = some p ∧ "buf, status = await self._conn.call(x, ".toList ++
      toStdString m.requestId.toNat ++ ")\n".toList <:+: p.out := by
  obtain ⟨vars, hval, hmem⟩ := callLine_mem_calls g hsrv hm
    ((OrderedSet.ofList (modules g)).flatMap importLine ++ [printText "\n"])
  obtain ⟨pre, post, hsplit⟩ := List.append_of_mem hmem
  have hwf := wellFormed_gen_calls g hg
  have hsafe := hwf.safe (dollars_le_four g _)
  have hl := hwf.balanced printer.indentLevel
  rw [hsplit] at hsafe hl
  have htmpl : "buf, status = await self._conn.call(x, $RequestID$)\n".toList =
      "buf, status = await self._conn.call(x, ".toList ++ '$' ::
        ("RequestID".toList ++ '$' :: (")".toList ++ ['\n'])) := by
    rfl
  obtain ⟨r, hr, hinfix⟩ := runAll_line_infix hfuel hsafe rfl hl htmpl (by decide) (by decide)
    (by decide) hval (plainName_toStdString _)
  refine ⟨r, ?_, ?_⟩
  · rw [gen, generateHeaderIncludes_eq_some, Option.bind_some, hsplit]
    exact hr
  · rw [show ")\n".toList = ")".toList ++ ['\n'] from rfl, ← List.append_assoc]
    exact hinfix

/-- The python client and the C++ server agree on the routes: on a plain
schema whose methods have request ids that differ, every method of the
python client sends its request with an id that the router of a C++ server
with the generated classes registered answers with the same method. -/
theorem client_calls_route (hg : g.Plain) (hd : (g.services.flatMap SmfService.caseLabels).Nodup)
    {fuel : Nat} (hfuel : 4 < fuel) :
    ∃ p, gen g fuel = some p ∧ ∀ srv ∈ g.services, ∀ m ∈ srv.methods, ∃ requestId : UInt32,
      "buf, status = await self._conn.call(x, ".toList ++ toStdString requestId.toNat ++
        ")\n".toList <:+: p.out ∧ (router g.services).getHandleForRequest requestId = some m := by
  obtain ⟨out, hout⟩ := gen_eq_some g hg hfuel
  refine ⟨_, hout, fun srv hsrv m hm => ⟨m.requestId, ?_, getHandleForRequest_router_of_nodup hd hsrv hm⟩⟩
  -- `gen` has one result: the one the line is written in
  obtain ⟨r, hr, hinfix⟩ := gen_callLine g hg hsrv hm hfuel
  rw [hout, Option.some_inj] at hr
  rw [hr]
  exact hinfix

end

theorem client_calls_route_two_services :
    CppGenerator.twoServices.Plain ∧
      (CppGenerator.twoServices.services.flatMap SmfService.caseLabels).Nodup ∧ 4 < 5 ∧
      ∃ p, gen CppGenerator.twoServices 5 = some p ∧ ∀ srv ∈ CppGenerator.twoServices.services,
        ∀ m ∈ srv.methods, ∃ requestId : UInt32,
          "buf, status = await self._conn.call(x, ".toList ++ toStdString requestId.toNat ++
            ")\n".toList <:+: p.out ∧
          (router CppGenerator.twoServices.services).getHandleForRequest requestId = some m :=
  ⟨by decide +kernel, by decide +kernel, by decide,
    client_calls_route CppGenerator.twoServices (by decide +kernel) (by decide +kernel) (by decide)⟩

end PythonGenerator

end SmfGen
