import SmfRpc.Codegen.Lines
import SmfRpc.Codegen.Python

/-!
# `go_generator`

`src/smfc/go_generator.cc` and `go_generator.h`: the Go server and client
smfc writes for a schema, `<package>/<name>.smf.fb.go`, indented by tabs.  As
for the other generators, each function is the list of calls it makes on the
printer.  The loops of `print_server` and `print_server_jump_table` keep
setting one `std::map` (`loopCalls`), so the calls after the interface's loop
see the entries its last turn left.

* `gen_isSome_iff`: on a plain schema the generator runs to the end exactly
  when the schema has a namespace.  Without one, `package_parts().back()`
  reads the last element of an empty vector, which is undefined; the model
  stops there.
* `writesLines_printServerJumpTable`: the text of `MethodHandle`, line by
  line: one `case S ^ M:` per method, in the schema's order, returning the
  method's raw handler, then `default:` returning `nil`
  (`methodHandleLines`).  `gen_methodHandle` puts it in the generated file.
* `client_reaches_method`: the raw method of every Go client sends
  `S^M`, the ids the Go server's jump table lists for the same method, and
  the router of a C++ server with the generated classes registered answers
  that request id with the same method, when the ids of the methods differ.
-/

namespace SmfGen

open PrinterCall

namespace GoGenerator

section

variable [StringUtil]

/-- `go_public_name`: `s[0] = std::toupper(s[0])`. -/
def goPublicName (s : List Char) : List Char := upperFirst s

/-- `"Raw" + go_public_name(name)`, the name of a method's raw handler. -/
def rawMethodName (m : SmfMethod) : List Char := "Raw".toList ++ goPublicName m.name

/-- `vars["InterfaceName"] + "Service"`. -/
def serviceName (name : List Char) : List Char := goPublicName name ++ "Service".toList

/-- `vars["InterfaceName"] + "Client"`. -/
def clientName (name : List Char) : List Char := goPublicName name ++ "Client".toList

/-- The map of `print_server_method`.  `input_type_name(language::go)` is the
request type's name, without its namespace. -/
def serverMethodVars (method : SmfMethod) : Vars :=
  let vars := setVar [] "InterfaceName" (goPublicName method.serviceName)
  let vars := setVar vars "ServiceName" (serviceName method.serviceName)
  let vars := setVar vars "MethodID" (toStdString method.methodId.toNat)
  let vars := setVar vars "RawMethodName" (rawMethodName method)
  let vars := setVar vars "MethodName" (goPublicName method.name)
  setVar vars "InType" method.call.request.name

/-- `print_server_method`. -/
def printServerMethod (method : SmfMethod) : List PrinterCall :=
  let vars := serverMethodVars method
  [print vars "func (s *$ServiceName$) $RawMethodName$(ctx context.Context, req []byte) ([]byte, error) \x7b\n",
    indent,
    print vars "return s.$InterfaceName$.$MethodName$(ctx, GetRootAs$InType$(req, 0))\n",
    outdent,
    printText "\x7d\n\n"]

/-- The map `print_server` and `print_server_jump_table` both start from. -/
def serviceVars (service : SmfService) : Vars :=
  let vars := setVar [] "InterfaceName" (goPublicName service.name)
  let vars := setVar vars "ServiceName" (serviceName service.name)
  setVar vars "ServiceID" (toStdString service.serviceId.toNat)

/-- One turn of the loop of `print_server_jump_table` sets these entries. -/
def jumpTableSet (vars : Vars) (m : SmfMethod) : Vars :=
  let vars := setVar vars "MethodID" (toStdString m.methodId.toNat)
  setVar vars "RawMethodName" (rawMethodName m)

/-- The calls of one turn of the loop of `print_server_jump_table`. -/
def jumpTableCase (vars : Vars) : List PrinterCall :=
  [print vars "case $ServiceID$ ^ $MethodID$:\n",
    indent,
    print vars "return s.$RawMethodName$\n",
    outdent]

/-- `print_server_jump_table`. -/
def printServerJumpTable (service : SmfService) : List PrinterCall :=
  [print (serviceVars service) "func (s *$ServiceName$) MethodHandle(id uint32) smf.RawHandle \x7b\n",
    indent,
    printText "switch id \x7b\n"] ++
  loopCalls jumpTableSet jumpTableCase (serviceVars service) service.methods ++
  [printText "default:\n",
    indent,
    printText "return nil\n",
    outdent,
    printText "\x7d\n",
    outdent,
    printText "\x7d\n\n"]

/-- One turn of the interface's loop of `print_server` sets these entries. -/
def interfaceSet (vars : Vars) (m : SmfMethod) : Vars :=
  let vars := setVar vars "MethodName" (goPublicName m.name)
  setVar vars "InType" m.call.request.name

/-- The call of one turn of the interface's loop of `print_server`. -/
def interfaceMethod (vars : Vars) : List PrinterCall :=
  [print vars "$MethodName$(context.Context, *$InType$) ([]byte, error)\n"]

/-- `print_server`: the interface, the service's type, its constructor, its
name and id, the jump table, then the methods. -/
def printServer (service : SmfService) : List PrinterCall :=
  let vars := serviceVars service
  -- the calls after the interface's loop see the map its last turn leaves
  let after := service.methods.foldl interfaceSet vars
  [print vars "\n// $InterfaceName$ - $InterfaceName$ Server interface\n",
    print vars "type $InterfaceName$ interface \x7b\n",
    indent] ++
  loopCalls interfaceSet interfaceMethod vars service.methods ++
  [outdent,
    printText "\x7d\n\n",
    print after "type $ServiceName$ struct \x7b\n",
    indent,
    print after "$InterfaceName$\n",
    outdent,
    printText "\x7d\n\n",
    print after "func New$ServiceName$(s $InterfaceName$) *$ServiceName$ \x7b\n",
    indent,
    print after "return &$ServiceName$\x7b$InterfaceName$: s\x7d\n",
    outdent,
    printText "\x7d\n\n",
    print after "func (s *$ServiceName$) ServiceName() string \x7b\n",
    indent,
    print after "return \"$InterfaceName$\"\n",
    outdent,
    printText "\x7d\n\n",
    print after "func (s *$ServiceName$) ServiceID() uint32 \x7b\n",
    indent,
    print after "return $ServiceID$\n",
    outdent,
    printText "\x7d\n\n"] ++
  printServerJumpTable service ++
  service.methods.flatMap printServerMethod

/-- The map of `print_client_method`. -/
def clientMethodVars (method : SmfMethod) : Vars :=
  let vars := setVar [] "InterfaceName" (goPublicName method.serviceName)
  let vars := setVar vars "ClientName" (clientName method.serviceName)
  let vars := setVar vars "MethodID" (toStdString method.methodId.toNat)
  let vars := setVar vars "ServiceID" (toStdString method.serviceId.toNat)
  let vars := setVar vars "RawMethodName" (rawMethodName method)
  let vars := setVar vars "MethodName" (goPublicName method.name)
  setVar vars "OutputType" method.call.response.name

/-- `print_client_method`: the typed method, then the raw one that sends the
request. -/
def printClientMethod (method : SmfMethod) : List PrinterCall :=
  let vars := clientMethodVars method
  [print vars "func (s *$ClientName$) $MethodName$(ctx context.Context, req []byte) (*$OutputType$, error) \x7b\n",
    indent,
    print vars "res, err := s.$RawMethodName$(ctx, req)\nif err != nil \x7b\n",
    indent,
    printText "return nil, err\n",
    outdent,
    printText "\x7d\n",
    print vars "return GetRootAs$OutputType$(res, 0), nil\n",
    outdent,
    printText "\x7d\n\n",
    print vars "func (s *$ClientName$) $RawMethodName$(ctx context.Context, req []byte) ([]byte, error) \x7b\n",
    indent,
    print vars "return s.Client.SendRecv(req, $ServiceID$^$MethodID$)\n",
    outdent,
    printText "\x7d\n"]

/-- `print_client`: the client's type and constructor, then the methods. -/
def printClient (service : SmfService) : List PrinterCall :=
  let vars := setVar [] "InterfaceName" (goPublicName service.name)
  let vars := setVar vars "ClientName" (clientName service.name)
  let vars := setVar vars "ServiceID" (toStdString service.serviceId.toNat)
  [printText "// Client\n",
    print vars "type $ClientName$ struct \x7b\n",
    indent,
    print vars "*smf.Client\n",
    outdent,
    printText "\x7d\n\n",
    print vars "func New$ClientName$(c *smf.Client) *$ClientName$ \x7b\n",
    indent,
    print vars "return &$ClientName$\x7bClient: c\x7d\n",
    outdent,
    printText "\x7d\n\n"] ++
  service.methods.flatMap printClientMethod

variable (g : Generator)

/-- `generate_header_prologue`; `none` when the schema has no namespace, where
`package_parts().back()` reads the last element of an empty vector. -/
def generateHeaderPrologue : Option (List PrinterCall) :=
  g.packageParts.getLast?.map fun last =>
    let vars := setVar [] "filename" g.inputFilename
    let vars := setVar vars "package" last
    [printText "// Generated by smfc.\n",
      printText "// Any local changes WILL BE LOST.\n",
      print vars "// source: $filename$\n",
      print vars "package $package$\n\n"]

/-- `generate_header_includes`. -/
def generateHeaderIncludes : List PrinterCall :=
  [printText "import (\n",
    indent,
    printText "\"context\"\n\"github.com/smfrpc/smf-go/src/smf\"\n",
    outdent,
    printText ")\n"]

/-- `generate_header_services`: every server, then every client. -/
def generateHeaderServices : List PrinterCall :=
  g.services.flatMap printServer ++ g.services.flatMap printClient

/-- The calls of `go_generator::gen`, with the prologue's calls. -/
def calls (prologue : List PrinterCall) : List PrinterCall :=
  prologue ++ generateHeaderIncludes ++ generateHeaderServices g

/-- The printer of the constructor: `set_indent_char('\t')`,
`set_indent_step(1)`. -/
def printer : SmfPrinter := { indentChar := '\t', indentStep := 1 }

/-- `go_generator::gen`, up to `create_directories` and
`save_conents_to_file()`: `none` when the prologue reads past the namespace,
or a call does not end within `fuel` iterations. -/
def gen (fuel : Nat) : Option SmfPrinter :=
  (generateHeaderPrologue g).bind fun prologue => runAll fuel printer (calls g prologue)


/-! ## Names the printer substitutes as they are -/

omit [StringUtil] in
theorem toUpper_ne_of_lt {c d : Char} (hd : d.val < 65) (h : c ≠ d) : c.toUpper ≠ d := by
  unfold Char.toUpper
  split
  · rename_i hc
    intro he
    have hv := congrArg Char.val he
    simp only [Char.reduceVal] at hv hc
    grind
  · exact h

omit [StringUtil] in
theorem plainName_append {a b : List Char} (ha : PlainName a) (hb : PlainName b) :
    PlainName (a ++ b) := by
  simp only [PlainName, List.mem_append, not_or]
  exact ⟨⟨ha.1, hb.1⟩, ⟨ha.2.1, hb.2.1⟩, ⟨ha.2.2, hb.2.2⟩⟩

omit [StringUtil] in
/-- Upper-casing the first letter keeps a name plain: the escape character,
the line break and NUL are none of them letters. -/
theorem plainName_goPublicName {s : List Char} (h : PlainName s) : PlainName (goPublicName s) := by
  cases s with
  | nil => exact h
  | cons c cs =>
    simp only [PlainName, List.mem_cons, not_or] at h
    simp only [goPublicName, upperFirst, PlainName, List.mem_cons, not_or]
    exact ⟨⟨Ne.symm (toUpper_ne_of_lt (by decide) (Ne.symm h.1.1)), h.1.2⟩,
      ⟨Ne.symm (toUpper_ne_of_lt (by decide) (Ne.symm h.2.1.1)), h.2.1.2⟩,
      ⟨Ne.symm (toUpper_ne_of_lt (by decide) (Ne.symm h.2.2.1)), h.2.2.2⟩⟩

omit [StringUtil] in
theorem plainName_rawMethodName {m : SmfMethod} (hp : m.call.Plain) : PlainName (rawMethodName m) :=
  plainName_append (by decide) (plainName_goPublicName hp.1)

omit [StringUtil] in
theorem plainName_serviceName {name : List Char} (h : PlainName name) : PlainName (serviceName name) :=
  plainName_append (plainName_goPublicName h) (by decide)

omit [StringUtil] in
theorem plainName_clientName {name : List Char} (h : PlainName name) : PlainName (clientName name) :=
  plainName_append (plainName_goPublicName h) (by decide)

omit [StringUtil] in
/-- The methods of a service carry its name and id. -/
theorem method_of_mem_methods {srv : SmfService} {m : SmfMethod} (hm : m ∈ srv.methods) :
    m.serviceName = srv.name ∧ m.serviceId = srv.serviceId := by
  obtain ⟨call, -, rfl⟩ := List.mem_map.mp hm
  exact ⟨rfl, rfl⟩


/-! ## Every pass runs to the end -/

omit [StringUtil] in
theorem varsOk_serviceVars {srv : SmfService} (h : srv.service.Plain) : VarsOk (serviceVars srv) :=
  have hname : PlainName srv.name := h.1
  varsOk_setVar (varsOk_setVar (varsOk_setVar varsOk_nil "InterfaceName" (plainName_goPublicName hname).1)
    "ServiceName" (plainName_serviceName hname).1) "ServiceID"
    (dollar_not_mem_toStdString srv.serviceId.toNat)

section Method

variable {m : SmfMethod} (hp : m.call.Plain) (hs : PlainName m.serviceName)
include hp hs

theorem varsOk_serverMethodVars : VarsOk (serverMethodVars m) :=
  have hname : PlainName m.name := hp.1
  varsOk_setVar (varsOk_setVar (varsOk_setVar (varsOk_setVar (varsOk_setVar
    (varsOk_setVar varsOk_nil "InterfaceName" (plainName_goPublicName hs).1)
    "ServiceName" (plainName_serviceName hs).1) "MethodID" (dollar_not_mem_toStdString m.methodId.toNat))
    "RawMethodName" (plainName_rawMethodName hp).1) "MethodName" (plainName_goPublicName hname).1)
    "InType" hp.2.1.2.1

theorem varsOk_clientMethodVars : VarsOk (clientMethodVars m) :=
  have hname : PlainName m.name := hp.1
  varsOk_setVar (varsOk_setVar (varsOk_setVar (varsOk_setVar (varsOk_setVar
    (varsOk_setVar (varsOk_setVar varsOk_nil "InterfaceName" (plainName_goPublicName hs).1)
    "ClientName" (plainName_clientName hs).1) "MethodID" (dollar_not_mem_toStdString m.methodId.toNat))
    "ServiceID" (dollar_not_mem_toStdString m.serviceId.toNat)) "RawMethodName" (plainName_rawMethodName hp).1)
    "MethodName" (plainName_goPublicName hname).1) "OutputType" hp.2.2.2.1

theorem wellFormed_printServerMethod : WellFormed (printServerMethod m) :=
  ⟨fun _ => rfl, by simp [printServerMethod, varsOk_serverMethodVars hp hs]⟩

theorem wellFormed_printClientMethod : WellFormed (printClientMethod m) :=
  ⟨fun _ => rfl, by simp [printClientMethod, varsOk_clientMethodVars hp hs]⟩

end Method

omit [StringUtil] in
/-- The methods of a plain service are plain, and carry its plain name. -/
theorem plain_method {srv : SmfService} (h : srv.service.Plain) {m : SmfMethod} (hm : m ∈ srv.methods) :
    m.call.Plain ∧ PlainName m.serviceName := by
  have hname : PlainName srv.name := h.1
  rw [← (method_of_mem_methods hm).1] at hname
  exact ⟨(plain_of_mem_methods h hm).1, hname⟩

theorem varsOk_jumpTableSet {v : Vars} (hv : VarsOk v) {m : SmfMethod} (hp : m.call.Plain) :
    VarsOk (jumpTableSet v m) :=
  varsOk_setVar (varsOk_setVar hv "MethodID" (dollar_not_mem_toStdString m.methodId.toNat))
    "RawMethodName" (plainName_rawMethodName hp).1

omit [StringUtil] in
theorem varsOk_interfaceSet {v : Vars} (hv : VarsOk v) {m : SmfMethod} (hp : m.call.Plain) :
    VarsOk (interfaceSet v m) :=
  have hname : PlainName m.name := hp.1
  varsOk_setVar (varsOk_setVar hv "MethodName" (plainName_goPublicName hname).1) "InType" hp.2.1.2.1

theorem wellFormed_printServerJumpTable {srv : SmfService} (h : srv.service.Plain) :
    WellFormed (printServerJumpTable srv) := by
  have hv := varsOk_serviceVars h
  have hloop : WellFormed (loopCalls jumpTableSet jumpTableCase (serviceVars srv) srv.methods) :=
    PrinterCall.WellFormed.loopCalls (P := VarsOk)
      (fun v m hm hv => varsOk_jumpTableSet hv (plain_of_mem_methods h hm).1)
      (fun v hv => ⟨fun _ => rfl, by simp [jumpTableCase, hv]⟩) hv
  exact WellFormed.insert ⟨fun _ => rfl, by simp [hv]⟩ hloop

/-- `print_server` is the interface, the type, the constructor, the name and
the id of the service, then the jump table, then the methods; the first part
comes back to its indentation. -/
theorem printServer_split {srv : SmfService} (h : srv.service.Plain) :
    ∃ head, printServer srv = head ++ printServerJumpTable srv ++ srv.methods.flatMap printServerMethod ∧
      WellFormed head := by
  have hv := varsOk_serviceVars h
  have hset : ∀ v, ∀ m ∈ srv.methods, VarsOk v → VarsOk (interfaceSet v m) :=
    fun v m hm hv => varsOk_interfaceSet hv (plain_of_mem_methods h hm).1
  have hloop : WellFormed (loopCalls interfaceSet interfaceMethod (serviceVars srv) srv.methods) :=
    PrinterCall.WellFormed.loopCalls hset (fun v hv => ⟨fun _ => rfl, by simp [interfaceMethod, hv]⟩) hv
  -- the calls after the loop print with the map it leaves
  have hafter : VarsOk (srv.methods.foldl interfaceSet (serviceVars srv)) := foldl_set_of hset hv
  exact ⟨_, rfl, WellFormed.insert ⟨fun _ => rfl, by simp [hv, hafter]⟩ hloop⟩

theorem wellFormed_printServer {srv : SmfService} (h : srv.service.Plain) : WellFormed (printServer srv) := by
  obtain ⟨head, hsplit, hhead⟩ := printServer_split h
  rw [hsplit]
  exact (hhead.append (wellFormed_printServerJumpTable h)).append (WellFormed.flatMap fun m hm =>
    wellFormed_printServerMethod (plain_method h hm).1 (plain_method h hm).2)

theorem wellFormed_printClient {srv : SmfService} (h : srv.service.Plain) : WellFormed (printClient srv) := by
  have hname : PlainName srv.name := h.1
  have hv := varsOk_setVar (varsOk_setVar (varsOk_setVar varsOk_nil "InterfaceName"
    (plainName_goPublicName hname).1) "ClientName" (plainName_clientName hname).1)
    "ServiceID" (dollar_not_mem_toStdString srv.serviceId.toNat)
  exact WellFormed.append ⟨fun _ => rfl, by simp [hv]⟩ (WellFormed.flatMap fun m hm =>
    wellFormed_printClientMethod (plain_method h hm).1 (plain_method h hm).2)

omit [StringUtil] in
theorem wellFormed_generateHeaderIncludes : WellFormed generateHeaderIncludes :=
  ⟨fun _ => rfl, by simp [generateHeaderIncludes]⟩

theorem wellFormed_calls (hg : g.Plain) {prologue : List PrinterCall} (hpro : WellFormed prologue) :
    WellFormed (calls g prologue) :=
  (hpro.append wellFormed_generateHeaderIncludes).append
    ((WellFormed.flatMap fun _ hsrv => wellFormed_printServer (plain_of_mem_services hg hsrv)).append
      (WellFormed.flatMap fun _ hsrv => wellFormed_printClient (plain_of_mem_services hg hsrv)))

/-! No template of the Go generator holds more than six escape characters. -/

theorem dollars_printServerMethod (m : SmfMethod) : ∀ c ∈ printServerMethod m, c.dollars ≤ 6 := by
  simp only [printServerMethod, List.forall_mem_cons, List.not_mem_nil, IsEmpty.forall_iff,
    implies_true, and_true, dollars_printText, dollars_indent, dollars_outdent, Nat.zero_le, true_and]
  and_intros
  all_goals exact dollars_print_ofList_le (by decide)

omit [StringUtil] in
theorem dollars_jumpTableCase (vars : Vars) : ∀ c ∈ jumpTableCase vars, c.dollars ≤ 6 := by
  simp only [jumpTableCase, List.forall_mem_cons, List.not_mem_nil, IsEmpty.forall_iff,
    implies_true, and_true, dollars_indent, dollars_outdent, Nat.zero_le, true_and]
  and_intros
  all_goals exact dollars_print_ofList_le (by decide)

omit [StringUtil] in
theorem dollars_interfaceMethod (vars : Vars) : ∀ c ∈ interfaceMethod vars, c.dollars ≤ 6 := by
  simp only [interfaceMethod, List.forall_mem_cons, List.not_mem_nil, IsEmpty.forall_iff,
    implies_true, and_true]
  exact dollars_print_ofList_le (by decide)

theorem dollars_printServer (srv : SmfService) : ∀ c ∈ printServer srv, c.dollars ≤ 6 := by
  simp only [printServer, printServerJumpTable, List.forall_mem_append, List.forall_mem_flatMap,
    List.forall_mem_cons, List.not_mem_nil, IsEmpty.forall_iff, implies_true, and_true,
    dollars_printText, dollars_indent, dollars_outdent, Nat.zero_le, true_and]
  and_intros
  all_goals first
    | exact dollars_print_ofList_le (by decide)
    | exact dollars_le_loopCalls dollars_interfaceMethod
    | exact dollars_le_loopCalls dollars_jumpTableCase
    | exact fun m _ => dollars_printServerMethod m

theorem dollars_printClientMethod (m : SmfMethod) : ∀ c ∈ printClientMethod m, c.dollars ≤ 6 := by
  simp only [printClientMethod, List.forall_mem_cons, List.not_mem_nil, IsEmpty.forall_iff,
    implies_true, and_true, dollars_printText, dollars_indent, dollars_outdent, Nat.zero_le, true_and]
  and_intros
  all_goals exact dollars_print_ofList_le (by decide)

theorem dollars_printClient (srv : SmfService) : ∀ c ∈ printClient srv, c.dollars ≤ 6 := by
  simp only [printClient, List.forall_mem_append, List.forall_mem_flatMap, List.forall_mem_cons,
    List.not_mem_nil, IsEmpty.forall_iff, implies_true, and_true, dollars_printText, dollars_indent,
    dollars_outdent, Nat.zero_le, true_and]
  and_intros
  all_goals first
    | exact dollars_print_ofList_le (by decide)
    | exact fun m _ => dollars_printClientMethod m

theorem dollars_calls {prologue : List PrinterCall} (hpro : ∀ c ∈ prologue, c.dollars ≤ 6) :
    ∀ c ∈ calls g prologue, c.dollars ≤ 6 := by
  simp only [calls, generateHeaderIncludes, generateHeaderServices, List.forall_mem_append,
    List.forall_mem_flatMap, List.forall_mem_cons, List.not_mem_nil, IsEmpty.forall_iff,
    implies_true, and_true, dollars_printText, dollars_indent, dollars_outdent, Nat.zero_le]
  exact ⟨hpro, fun srv _ => dollars_printServer srv, fun srv _ => dollars_printClient srv⟩

/-! ## The prologue, and the whole file -/

omit [StringUtil] in
theorem generateHeaderPrologue_isSome : (generateHeaderPrologue g).isSome ↔ g.packageParts ≠ [] := by
  rw [generateHeaderPrologue, Option.isSome_map, List.getLast?_isSome]

omit [StringUtil] in
/-- The prologue's map holds the file name and the last part of the
namespace, both free of `'$'`. -/
theorem generateHeaderPrologue_spec (hg : g.Plain) {prologue : List PrinterCall}
    (h : generateHeaderPrologue g = some prologue) :
    WellFormed prologue ∧ ∀ c ∈ prologue, c.dollars ≤ 6 := by
  rw [generateHeaderPrologue] at h
  obtain ⟨last, hlast, rfl⟩ := Option.map_eq_some_iff.mp h
  have hv := varsOk_setVar (varsOk_setVar varsOk_nil "filename" hg.1) "package"
    (hg.2.2.1 last (List.mem_of_getLast? hlast))
  refine ⟨⟨fun _ => rfl, by simp [hv]⟩, ?_⟩
  simp only [List.forall_mem_cons, List.not_mem_nil, IsEmpty.forall_iff, implies_true, and_true,
    dollars_printText, Nat.zero_le, true_and]
  and_intros
  all_goals exact dollars_print_ofList_le (by decide)

/-- With a prologue, and fuel for six escape characters, every call of the
file runs to the end. -/
theorem runAll_calls (hg : g.Plain) {prologue : List PrinterCall}
    (hpro : generateHeaderPrologue g = some prologue) {fuel : Nat} (hfuel : 6 < fuel) :
    ∃ out, runAll fuel printer (calls g prologue) = some { printer with out := out } := by
  obtain ⟨hwf, hdollars⟩ := generateHeaderPrologue_spec g hg hpro
  have hcalls := wellFormed_calls g hg hwf
  exact PrinterCall.runAll_eq_some hfuel (hcalls.safe (dollars_calls g hdollars)) rfl
    (hcalls.balanced printer.indentLevel)

theorem gen_eq_some (hg : g.Plain) (hns : g.packageParts ≠ []) {fuel : Nat} (hfuel : 6 < fuel) :
    ∃ prologue out, generateHeaderPrologue g = some prologue ∧
      gen g fuel = some { printer with out := out } := by
  obtain ⟨prologue, hpro⟩ := Option.isSome_iff_exists.mp ((generateHeaderPrologue_isSome g).mpr hns)
  obtain ⟨out, hout⟩ := runAll_calls g hg hpro hfuel
  exact ⟨prologue, out, hpro, by rw [gen, hpro, Option.bind_some, hout]⟩

/-- On a plain schema, with fuel for six escape characters, the Go generator
runs to the end exactly when the schema has a namespace. -/
theorem gen_isSome_iff (hg : g.Plain) {fuel : Nat} (hfuel : 6 < fuel) :
    (gen g fuel).isSome ↔ g.packageParts ≠ [] := by
  constructor
  · -- without a namespace the prologue stops the run
    intro hsome hnil
    have hpro : generateHeaderPrologue g = none := by
      rw [generateHeaderPrologue, hnil]
      rfl
    rw [gen, hpro, Option.bind_none] at hsome
    exact Bool.false_ne_true hsome
  · intro hns
    obtain ⟨_, out, -, hout⟩ := gen_eq_some g hg hns hfuel
    rw [hout]
    rfl

end

theorem gen_isSome_iff_two_services :
    CppGenerator.twoServices.Plain ∧ 6 < 7 ∧
      ((gen CppGenerator.twoServices 7).isSome ↔ CppGenerator.twoServices.packageParts ≠ []) :=
  ⟨by decide +kernel, by decide, gen_isSome_iff CppGenerator.twoServices (by decide +kernel) (by decide)⟩

section

variable [StringUtil] (g : Generator)

/-! ## The jump table -/

/-- The lines of one method in the `switch` of `MethodHandle`, at their
depths: its case, `S ^ M` with the ids in decimal, returning its raw
handler. -/
def caseLines (srv : SmfService) (m : SmfMethod) : List (Nat × List Char) :=
  [(1, "case ".toList ++ toStdString srv.serviceId.toNat ++ " ^ ".toList ++
      toStdString m.methodId.toNat ++ ":".toList),
    (2, "return s.".toList ++ rawMethodName m)]

/-- The text of `MethodHandle`, line by line: a case for each method, in the
schema's order, then a default that returns `nil`. -/
def methodHandleLines (srv : SmfService) : List (Nat × List Char) :=
  [(0, "func (s *".toList ++ serviceName srv.name ++ ") MethodHandle(id uint32) smf.RawHandle \x7b".toList),
    (1, "switch id \x7b".toList)] ++
  srv.methods.flatMap (caseLines srv) ++
  [(1, "default:".toList), (2, "return nil".toList), (1, "\x7d".toList), (0, "\x7d".toList), (0, [])]

/-- One turn of the loop writes the method's case, from a map that holds the
service's id. -/
theorem writesLines_jumpTableCase {srv : SmfService} (h : srv.service.Plain) {fuel : Nat}
    (hfuel : 4 < fuel) {v : Vars} (hv : VarsOk v)
    (hsid : v.lookup "ServiceID".toList = some (toStdString srv.serviceId.toNat)) {m : SmfMethod}
    (hm : m ∈ srv.methods) : WritesLines fuel (jumpTableCase (jumpTableSet v m)) 1 1 (caseLines srv m) := by
  have hp := (plain_of_mem_methods h hm).1
  have hw := varsOk_jumpTableSet hv hp
  -- the turn sets the method's entries and keeps the service's id
  have hsid' : (jumpTableSet v m).lookup "ServiceID".toList = some (toStdString srv.serviceId.toNat) := by
    simpa [jumpTableSet, setVar] using hsid
  have hmid : (jumpTableSet v m).lookup "MethodID".toList = some (toStdString m.methodId.toNat) := by
    simp [jumpTableSet, setVar]
  have hraw : (jumpTableSet v m).lookup "RawMethodName".toList = some (rawMethodName m) := by
    simp [jumpTableSet, setVar]
  rw [jumpTableCase, caseLines]
  refine WritesLines.print_cons hw [.text "case ".toList, .hole "ServiceID".toList, .text " ^ ".toList,
    .hole "MethodID".toList, .text ":".toList] (String.toList_ofList.trans (by decide)) ?_
    (count_ofList_lt (by decide) hfuel) ?_ ?_
  · simp only [List.forall_mem_cons, List.not_mem_nil, IsEmpty.forall_iff, implies_true, and_true]
    exact ⟨Piece.plain_text (by decide),
      Piece.plain_hole (by decide) hsid' (PythonGenerator.plainName_toStdString _),
      Piece.plain_text (by decide),
      Piece.plain_hole (by decide) hmid (PythonGenerator.plainName_toStdString _),
      Piece.plain_text (by decide)⟩
  · simp only [List.flatMap_cons, List.flatMap_nil, Piece.fill_text, Piece.fill_hole hsid',
      Piece.fill_hole hmid, List.append_nil, List.append_assoc]
  refine WritesLines.indent_cons (WritesLines.print_cons hw [.text "return s.".toList,
    .hole "RawMethodName".toList] (String.toList_ofList.trans (by decide)) ?_
    (count_ofList_lt (by decide) hfuel) ?_ (WritesLines.outdent_cons (WritesLines.nil 1)))
  · simp only [List.forall_mem_cons, List.not_mem_nil, IsEmpty.forall_iff, implies_true, and_true]
    exact ⟨Piece.plain_text (by decide), Piece.plain_hole (by decide) hraw (plainName_rawMethodName hp)⟩
  · simp only [List.flatMap_cons, List.flatMap_nil, Piece.fill_text, Piece.fill_hole hraw,
      List.append_nil]

/-- `print_server_jump_table` writes `MethodHandle`: its cases come from the
loop, each turn keeping the service's id in the map. -/
theorem writesLines_printServerJumpTable {srv : SmfService} (h : srv.service.Plain) {fuel : Nat}
    (hfuel : 4 < fuel) : WritesLines fuel (printServerJumpTable srv) 0 0 (methodHandleLines srv) := by
  have hv := varsOk_serviceVars h
  have hsn : (serviceVars srv).lookup "ServiceName".toList = some (serviceName srv.name) := by
    simp [serviceVars, setVar]
  have hsid : (serviceVars srv).lookup "ServiceID".toList = some (toStdString srv.serviceId.toNat) := by
    simp [serviceVars, setVar]
  -- the invariant of the loop: the map holds no escape character, and the service's id
  have hloop : WritesLines fuel (loopCalls jumpTableSet jumpTableCase (serviceVars srv) srv.methods) 1 1
      (srv.methods.flatMap (caseLines srv)) := by
    refine WritesLines.loopCalls
      (P := fun v => VarsOk v ∧ v.lookup "ServiceID".toList = some (toStdString srv.serviceId.toNat))
      (fun v m hm hP => ⟨varsOk_jumpTableSet hP.1 (plain_of_mem_methods h hm).1, ?_⟩)
      (fun v m hm hP => writesLines_jumpTableCase h hfuel hP.1 hP.2 hm) ⟨hv, hsid⟩
    simpa [jumpTableSet, setVar] using hP.2
  rw [printServerJumpTable, methodHandleLines, List.append_assoc, List.append_assoc]
  refine WritesLines.print_cons hv [.text "func (s *".toList, .hole "ServiceName".toList,
    .text ") MethodHandle(id uint32) smf.RawHandle \x7b".toList] (String.toList_ofList.trans (by decide)) ?_
    (count_ofList_lt (by decide) hfuel) ?_
    (WritesLines.indent_cons (WritesLines.printText_cons (by decide) (by decide) (hloop.append ?_)))
  · simp only [List.forall_mem_cons, List.not_mem_nil, IsEmpty.forall_iff, implies_true, and_true]
    exact ⟨Piece.plain_text (by decide), Piece.plain_hole (by decide) hsn (plainName_serviceName h.1),
      Piece.plain_text (by decide)⟩
  · simp only [List.flatMap_cons, List.flatMap_nil, Piece.fill_text, Piece.fill_hole hsn,
      List.append_nil, List.append_assoc]
  -- `default:`, then the ends of the `switch` and of the function
  exact WritesLines.printText_cons (by decide) (by decide) (WritesLines.indent_cons
    (WritesLines.printText_cons (by decide) (by decide) (WritesLines.outdent_cons
    (WritesLines.printText_cons (by decide) (by decide) (WritesLines.outdent_cons
    ((WritesLines.printText ["\x7d".toList, []] (List.cons_ne_nil _ _) (by decide) (by decide) 0).cons
      (WritesLines.nil 0)))))))

/-- The Go file of a plain schema holds the `MethodHandle` of every service. -/
theorem runAll_methodHandle (hg : g.Plain) {prologue : List PrinterCall}
    (hpro : generateHeaderPrologue g = some prologue) {fuel : Nat} (hfuel : 6 < fuel)
    {srv : SmfService} (hsrv : srv ∈ g.services) :
    ∃ r, runAll fuel printer (calls g prologue) = some r ∧
      render '\t' 1 (methodHandleLines srv) <:+: r.out := by
  have h := plain_of_mem_services hg hsrv
  obtain ⟨hwf, hdollars⟩ := generateHeaderPrologue_spec g hg hpro
  obtain ⟨ss₁, ss₂, hss⟩ := List.append_of_mem hsrv
  obtain ⟨head, hhead, hwhead⟩ := printServer_split h
  -- the calls before the jump table come back to the first indentation
  have hbefore : WellFormed (prologue ++ generateHeaderIncludes ++ ss₁.flatMap printServer ++ head) :=
    ((hwf.append wellFormed_generateHeaderIncludes).append (WellFormed.flatMap fun s hs =>
      wellFormed_printServer (plain_of_mem_services hg (hss ▸ List.mem_append_left _ hs)))).append hwhead
  have hsplit : calls g prologue = (prologue ++ generateHeaderIncludes ++ ss₁.flatMap printServer ++ head) ++
      printServerJumpTable srv ++ (srv.methods.flatMap printServerMethod ++ ss₂.flatMap printServer ++
        (ss₁ ++ srv :: ss₂).flatMap printClient) := by
    rw [calls, generateHeaderServices, hss]
    simp only [List.flatMap_append, List.flatMap_cons, hhead, List.append_assoc]
  have hcalls := wellFormed_calls g hg hwf
  have hsafe := hcalls.safe (dollars_calls g hdollars)
  have hl := hcalls.balanced printer.indentLevel
  rw [hsplit] at hsafe hl ⊢
  exact runAll_lines_infix hfuel hsafe rfl hl (hbefore.balanced 0)
    (writesLines_printServerJumpTable h (by omega))

/-- The Go file of every plain schema with a namespace holds, for every
service, `MethodHandle` with a case for each method in the schema's order, and
a default that returns `nil`. -/
theorem gen_methodHandle (hg : g.Plain) (hns : g.packageParts ≠ []) {fuel : Nat} (hfuel : 6 < fuel) :
    ∃ p, gen g fuel = some p ∧ ∀ srv ∈ g.services, render '\t' 1 (methodHandleLines srv) <:+: p.out := by
  obtain ⟨prologue, out, hpro, hout⟩ := gen_eq_some g hg hns hfuel
  refine ⟨_, hout, fun srv hsrv => ?_⟩
  obtain ⟨r, hr, hinfix⟩ := runAll_methodHandle g hg hpro hfuel hsrv
  -- the run has one result: the one the table is written in
  rw [gen, hpro, Option.bind_some, hr, Option.some_inj] at hout
  rw [← hout]
  exact hinfix

end

theorem gen_methodHandle_two_services :
    CppGenerator.twoServices.Plain ∧ CppGenerator.twoServices.packageParts ≠ [] ∧ 6 < 7 ∧
      ∃ p, gen CppGenerator.twoServices 7 = some p ∧ ∀ srv ∈ CppGenerator.twoServices.services,
        render '\t' 1 (methodHandleLines srv) <:+: p.out :=
  ⟨by decide +kernel, by decide, by decide,
    gen_methodHandle CppGenerator.twoServices (by decide +kernel) (by decide) (by decide)⟩

section

variable [StringUtil] (g : Generator)

/-! ## The client's raw methods -/

/-- The raw method the Go client writes for `m`, line by line: it sends the
request with `S^M`, the ids of the method's service and of the method in
decimal. -/
def rawClientLines (m : SmfMethod) : List (Nat × List Char) :=
  [(0, "func (s *".toList ++ clientName m.serviceName ++ ") ".toList ++ rawMethodName m ++
      "(ctx context.Context, req []byte) ([]byte, error) \x7b".toList),
    (1, "return s.Client.SendRecv(req, ".toList ++ toStdString m.serviceId.toNat ++ "^".toList ++
      toStdString m.methodId.toNat ++ ")".toList),
    (0, "\x7d".toList)]

/-- The last five calls of `print_client_method` write the raw method. -/
theorem writesLines_rawClientMethod {m : SmfMethod} (hp : m.call.Plain) (hs : PlainName m.serviceName)
    {fuel : Nat} (hfuel : 4 < fuel) :
    WritesLines fuel ((printClientMethod m).drop 10) 0 0 (rawClientLines m) := by
  have hv := varsOk_clientMethodVars hp hs
  have hcn : (clientMethodVars m).lookup "ClientName".toList = some (clientName m.serviceName) := by
    simp [clientMethodVars, setVar]
  have hraw : (clientMethodVars m).lookup "RawMethodName".toList = some (rawMethodName m) := by
    simp [clientMethodVars, setVar]
  have hsid : (clientMethodVars m).lookup "ServiceID".toList = some (toStdString m.serviceId.toNat) := by
    simp [clientMethodVars, setVar]
  have hmid : (clientMethodVars m).lookup "MethodID".toList = some (toStdString m.methodId.toNat) := by
    simp [clientMethodVars, setVar]
  rw [rawClientLines]
  refine WritesLines.print_cons hv [.text "func (s *".toList, .hole "ClientName".toList, .text ") ".toList,
    .hole "RawMethodName".toList, .text "(ctx context.Context, req []byte) ([]byte, error) \x7b".toList]
    (String.toList_ofList.trans (by decide)) ?_ (count_ofList_lt (by decide) hfuel) ?_ ?_
  · simp only [List.forall_mem_cons, List.not_mem_nil, IsEmpty.forall_iff, implies_true, and_true]
    exact ⟨Piece.plain_text (by decide), Piece.plain_hole (by decide) hcn (plainName_clientName hs),
      Piece.plain_text (by decide), Piece.plain_hole (by decide) hraw (plainName_rawMethodName hp),
      Piece.plain_text (by decide)⟩
  · simp only [List.flatMap_cons, List.flatMap_nil, Piece.fill_text, Piece.fill_hole hcn,
      Piece.fill_hole hraw, List.append_nil, List.append_assoc]
  -- the request goes out with the two ids, one level in
  refine WritesLines.indent_cons (WritesLines.print_cons hv [.text "return s.Client.SendRecv(req, ".toList,
    .hole "ServiceID".toList, .text "^".toList, .hole "MethodID".toList, .text ")".toList]
    (String.toList_ofList.trans (by decide)) ?_ (count_ofList_lt (by decide) hfuel) ?_
    (WritesLines.outdent_cons (WritesLines.printText_cons (by decide) (by decide) (WritesLines.nil 0))))
  · simp only [List.forall_mem_cons, List.not_mem_nil, IsEmpty.forall_iff, implies_true, and_true]
    exact ⟨Piece.plain_text (by decide),
      Piece.plain_hole (by decide) hsid (PythonGenerator.plainName_toStdString _),
      Piece.plain_text (by decide),
      Piece.plain_hole (by decide) hmid (PythonGenerator.plainName_toStdString _),
      Piece.plain_text (by decide)⟩
  · simp only [List.flatMap_cons, List.flatMap_nil, Piece.fill_text, Piece.fill_hole hsid,
      Piece.fill_hole hmid, List.append_nil, List.append_assoc]

/-- `print_client` is the client's type and constructor, then the methods; the
first part comes back to its indentation. -/
theorem printClient_split {srv : SmfService} (h : srv.service.Plain) :
    ∃ head, printClient srv = head ++ srv.methods.flatMap printClientMethod ∧ WellFormed head := by
  have hname : PlainName srv.name := h.1
  have hv := varsOk_setVar (varsOk_setVar (varsOk_setVar varsOk_nil "InterfaceName"
    (plainName_goPublicName hname).1) "ClientName" (plainName_clientName hname).1)
    "ServiceID" (dollar_not_mem_toStdString srv.serviceId.toNat)
  exact ⟨_, rfl, ⟨fun _ => rfl, by simp [hv]⟩⟩

/-- The Go file of a plain schema holds the raw method of every client
method. -/
theorem runAll_rawClientMethod (hg : g.Plain) {prologue : List PrinterCall}
    (hpro : generateHeaderPrologue g = some prologue) {fuel : Nat} (hfuel : 6 < fuel)
    {srv : SmfService} (hsrv : srv ∈ g.services) {m : SmfMethod} (hm : m ∈ srv.methods) :
    ∃ r, runAll fuel printer (calls g prologue) = some r ∧ render '\t' 1 (rawClientLines m) <:+: r.out := by
  have h := plain_of_mem_services hg hsrv
  obtain ⟨hwf, hdollars⟩ := generateHeaderPrologue_spec g hg hpro
  obtain ⟨ss₁, ss₂, hss⟩ := List.append_of_mem hsrv
  obtain ⟨ms₁, ms₂, hms⟩ := List.append_of_mem hm
  obtain ⟨head, hhead, hwhead⟩ := printClient_split h
  -- the method's calls up to its raw method, which start and end at the first indentation
  obtain ⟨typed, raw, hsplitm, htyped, hraw⟩ : ∃ typed raw, printClientMethod m = typed ++ raw ∧
      Balanced typed ∧ WritesLines fuel raw 0 0 (rawClientLines m) :=
    ⟨_, _, (List.take_append_drop 10 _).symm, fun _ => rfl,
      writesLines_rawClientMethod (plain_method h hm).1 (plain_method h hm).2 (by omega)⟩
  have hcalls := wellFormed_calls g hg hwf
  have hbefore : Balanced (prologue ++ generateHeaderIncludes ++ g.services.flatMap printServer ++
      ss₁.flatMap printClient ++ head ++ ms₁.flatMap printClientMethod ++ typed) := by
    have hclients := (WellFormed.flatMap fun s hs =>
      wellFormed_printClient (plain_of_mem_services hg (hss ▸ List.mem_append_left _ hs))).balanced
    have hmethods := (WellFormed.flatMap fun x hx => wellFormed_printClientMethod
      (plain_method h (hms ▸ List.mem_append_left _ hx)).1
      (plain_method h (hms ▸ List.mem_append_left _ hx)).2).balanced
    exact (((((hwf.append wellFormed_generateHeaderIncludes).append (WellFormed.flatMap fun _ hs =>
      wellFormed_printServer (plain_of_mem_services hg hs))).balanced.append hclients).append
      hwhead.balanced).append hmethods).append htyped
  have hsplit : calls g prologue = (prologue ++ generateHeaderIncludes ++ g.services.flatMap printServer ++
      ss₁.flatMap printClient ++ head ++ ms₁.flatMap printClientMethod ++ typed) ++ raw ++
      (ms₂.flatMap printClientMethod ++ ss₂.flatMap printClient) := by
    rw [calls, generateHeaderServices]
    nth_rewrite 2 [hss]
    simp only [List.flatMap_append, List.flatMap_cons, hhead, hms, hsplitm, List.append_assoc]
  have hsafe := hcalls.safe (dollars_calls g hdollars)
  have hl := hcalls.balanced printer.indentLevel
  rw [hsplit] at hsafe hl ⊢
  exact runAll_lines_infix hfuel hsafe rfl hl (hbefore 0) hraw

/-- The Go client and the servers agree on the routes.  On a plain schema
with a namespace, the raw method of every Go client method sends `S^M`, the
decimal ids that the Go server's `MethodHandle` lists in the method's case,
and where the request ids of the methods differ, the router of a C++ server
with the generated classes registered answers `S ^^^ M` with the same
method. -/
theorem client_reaches_method (hg : g.Plain) (hns : g.packageParts ≠ [])
    (hd : (g.services.flatMap SmfService.caseLabels).Nodup) {fuel : Nat} (hfuel : 6 < fuel) :
    ∃ p, gen g fuel = some p ∧ ∀ srv ∈ g.services, ∀ m ∈ srv.methods,
      render '\t' 1 [(1, "return s.Client.SendRecv(req, ".toList ++ toStdString srv.serviceId.toNat ++
        "^".toList ++ toStdString m.methodId.toNat ++ ")".toList)] <:+: p.out ∧
      render '\t' 1 (caseLines srv m) <:+: p.out ∧
      (router g.services).getHandleForRequest (srv.serviceId ^^^ m.methodId) = some m := by
  obtain ⟨prologue, out, hpro, hout⟩ := gen_eq_some g hg hns hfuel
  have hrun : runAll fuel printer (calls g prologue) = some { printer with out := out } := by
    rw [gen, hpro, Option.bind_some] at hout
    exact hout
  refine ⟨_, hout, fun srv hsrv m hm => ⟨?_, ?_, ?_⟩⟩
  · -- the line sits in the raw method of the client
    obtain ⟨r, hr, hinfix⟩ := runAll_rawClientMethod g hg hpro hfuel hsrv hm
    rw [hrun, Option.some_inj] at hr
    rw [hr, ← (method_of_mem_methods hm).2]
    refine List.IsInfix.trans ?_ hinfix
    refine ⟨render '\t' 1 ((rawClientLines m).take 1), render '\t' 1 [(0, "\x7d".toList)], ?_⟩
    rw [← render_append, ← render_append]
    rfl
  · -- the case sits in the server's jump table
    obtain ⟨r, hr, hinfix⟩ := runAll_methodHandle g hg hpro hfuel hsrv
    rw [hrun, Option.some_inj] at hr
    rw [hr]
    refine List.IsInfix.trans ?_ hinfix
    have hcase := render_infix_flatMap '\t' 1 (f := caseLines srv) hm
    rw [methodHandleLines, render_append, render_append]
    exact hcase.trans (List.infix_append _ _ _)
  · rw [← (method_of_mem_methods hm).2]
    exact getHandleForRequest_router_of_nodup hd hsrv hm

end

theorem client_reaches_method_two_services :
    CppGenerator.twoServices.Plain ∧ CppGenerator.twoServices.packageParts ≠ [] ∧
      (CppGenerator.twoServices.services.flatMap SmfService.caseLabels).Nodup ∧ 6 < 7 ∧
      ∃ p, gen CppGenerator.twoServices 7 = some p ∧ ∀ srv ∈ CppGenerator.twoServices.services,
        ∀ m ∈ srv.methods,
          render '\t' 1 [(1, "return s.Client.SendRecv(req, ".toList ++ toStdString srv.serviceId.toNat ++
            "^".toList ++ toStdString m.methodId.toNat ++ ")".toList)] <:+: p.out ∧
          render '\t' 1 (caseLines srv m) <:+: p.out ∧
          (router CppGenerator.twoServices.services).getHandleForRequest (srv.serviceId ^^^ m.methodId) =
            some m :=
  ⟨by decide +kernel, by decide, by decide +kernel, by decide,
    client_reaches_method CppGenerator.twoServices (by decide +kernel) (by decide) (by decide +kernel)
      (by decide)⟩

end GoGenerator

end SmfGen
