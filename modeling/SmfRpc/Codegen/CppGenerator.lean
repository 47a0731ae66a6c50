import SmfRpc.Codegen.Schema

/-!
# `cpp_generator`

`src/smfc/cpp_generator.cc` and `cpp_generator.h`: the C++ header smfc writes
for a schema, `<name>.smf.fb.h`.  Each function of the generator is the list
of calls it makes on the printer (`PrinterCall`), in the order the source
makes them, with the same maps and templates; `CppGenerator.gen` runs them
all on a new printer, whose text is the file's contents.

`generate_header_prologue_forward_decl_external` runs its loop over the
services inside a second loop over the services, so the `std::operator<<`
definitions of all services come once per service
(`header_repeats_ostream_operators` in `SmfRpc.Codegen.Header`).
-/

namespace SmfGen

open PrinterCall

variable [StringUtil]

/-! ## The service classes -/

/-- The loop of `print_header_service_ctor_dtor`: one
`rpc_service_method_handle` per method, from index `i` on, with the map the
loop keeps setting. -/
def ctorDtorMethods (max : Nat) : Vars → Nat → List SmfMethod → List PrinterCall
  | _, _, [] => []
  | vars, i, method :: methods =>
    let vars := setVar vars "MethodName" method.name
    let vars := setVar vars "RawMethodName" (properPrefixToken "raw".toList method.name)
    let vars := setVar vars "InType" method.inputTypeName
    let vars := setVar vars "OutType" method.outputTypeName
    let vars := setVar vars "MethodId" (toStdString method.methodId.toNat)
    [printText "smf::rpc_service_method_handle(\n",
      indent,
      printText "[this](smf::rpc_recv_context c) -> seastar::future<smf::rpc_envelope> \x7b\n",
      indent,
      printText "// Session accounting\nauto session_id = c.session();\n",
      print vars "return $RawMethodName$(std::move(c)).then([session_id](smf::rpc_envelope e) \x7b\n",
      indent,
      printText "e.letter.header.mutate_session(session_id);\nreturn seastar::make_ready_future<smf::rpc_envelope>(std::move(e));\n",
      outdent,
      printText (if i < max - 1 then "\x7d);\x7d),\n" else "\x7d);\x7d)\n"),
      outdent,
      outdent] ++ ctorDtorMethods max vars (i + 1) methods

/-- `print_header_service_ctor_dtor`. -/
def printHeaderServiceCtorDtor (service : SmfService) : List PrinterCall :=
  let vars := setVar [] "Service" service.name
  [print vars "virtual ~$Service$() = default;\n",
    print vars "$Service$() : handles_\x7b\x7b\n",
    indent] ++
  ctorDtorMethods service.methods.length vars 0 service.methods ++
  [outdent,
    printText "\x7d\x7d \x7b\x7d\n"]

/-- `print_header_service_handle_request_id`: one `case` per method. -/
def printHeaderServiceHandleRequestId (service : SmfService) : List PrinterCall :=
  [printText "virtual smf::rpc_service_method_handle *\nmethod_for_request_id(uint32_t idx) override final \x7b\n",
    indent,
    printText "switch(idx)\x7b\n",
    indent] ++
  (service.methods.zipIdx.map fun (method, i) =>
    let vars := setVar [] "ServiceID" (toStdString method.serviceId.toNat)
    let vars := setVar vars "MethodId" (toStdString method.methodId.toNat)
    let vars := setVar vars "VectorIdx" (toStdString i)
    print vars "case ($ServiceID$ ^ $MethodId$): return &handles_[$VectorIdx$];\n") ++
  [printText "default: return nullptr;\n",
    outdent,
    printText "\x7d\n",
    outdent,
    printText "\x7d\n"]

/-- `print_header_service_handles`. -/
def printHeaderServiceHandles (service : SmfService) : List PrinterCall :=
  let vars := setVar [] "ServiceHandleSize" (toStdString service.methods.length)
  [print vars "virtual const std::array<smf::rpc_service_method_handle, $ServiceHandleSize$> &\nmethods() final \x7b\n",
    indent,
    printText "return handles_;\n",
    outdent,
    printText "\x7d\n"]

/-- `print_header_service_method`: the typed method, which answers 501, and
the raw one that the handle calls. -/
def printHeaderServiceMethod (method : SmfMethod) : List PrinterCall :=
  let vars := setVar [] "RawMethodName" (properPrefixToken "raw".toList method.name)
  let vars := setVar vars "MethodName" method.name
  let vars := setVar vars "MethodId" (toStdString method.methodId.toNat)
  let vars := setVar vars "InType" method.inputTypeName
  let vars := setVar vars "OutType" method.outputTypeName
  [print vars "inline virtual\nseastar::future<smf::rpc_typed_envelope<$OutType$>>\n",
    print vars "$MethodName$(smf::rpc_recv_typed_context<$InType$> &&rec) \x7b\n",
    indent,
    print vars "using out_type = $OutType$;\nusing env_t = smf::rpc_typed_envelope<out_type>;\nenv_t data;\n// User should override this method.\n//\n// Helpful for clients to set the status.\n// Typically follows HTTP style. Not imposed by smf whatsoever.\n// i.e. 501 == Method not implemented\ndata.envelope.set_status(501);\nreturn seastar::make_ready_future<env_t>(std::move(data));\n",
    outdent,
    printText "\x7d\n",
    print vars "inline virtual\nseastar::future<smf::rpc_envelope>\n",
    print vars "$RawMethodName$(smf::rpc_recv_context &&c) \x7b\n",
    indent,
    print vars "using inner_t = $InType$;\nusing input_t = smf::rpc_recv_typed_context<inner_t>;\nusing mid_t = smf::rpc_typed_envelope<$OutType$>;\nreturn $MethodName$(input_t(std::move(c))).then([this](mid_t x) \x7b\n",
    indent,
    printText "return seastar::make_ready_future<smf::rpc_envelope>(x.serialize_data());\n",
    outdent,
    printText "\x7d);\n",
    outdent,
    printText "\x7d\n"]

/-- `print_header_service`. -/
def printHeaderService (service : SmfService) : List PrinterCall :=
  let vars := setVar [] "Service" service.name
  let vars := setVar vars "ServiceID" (toStdString service.serviceId.toNat)
  let vars := setVar vars "ServiceHandleSize" (toStdString service.methods.length)
  [print vars "class $Service$: public smf::rpc_service \x7b\n",
    printText " private:\n",
    print vars "  std::array<smf::rpc_service_method_handle, $ServiceHandleSize$> handles_;\n",
    printText " public:\n",
    indent] ++
  printHeaderServiceCtorDtor service ++
  [printText "virtual const char *\nservice_name() const override final \x7b\n",
    indent,
    print vars "return \"$Service$\";\n",
    outdent,
    printText "\x7d\n",
    printText "virtual uint32_t\nservice_id() const override final \x7b\n",
    indent,
    print vars "return $ServiceID$;\n",
    outdent,
    printText "\x7d\n",
    printText "virtual std::ostream &\nprint(std::ostream &o) const override final \x7b\n",
    indent,
    printText "return o << *this;\n",
    outdent,
    printText "\x7d\n"] ++
  printHeaderServiceHandles service ++
  printHeaderServiceHandleRequestId service ++
  service.methods.flatMap printHeaderServiceMethod ++
  [outdent,
    print vars "\x7d; // end of service: $Service$\n"]

/-! ## The client classes -/

/-- `print_header_client_method`: the method sets the request id to the
service's id xored with the method's. -/
def printHeaderClientMethod (method : SmfMethod) : List PrinterCall :=
  let vars := setVar [] "RawMethodName" (properPrefixToken "raw".toList method.name)
  let vars := setVar vars "MethodName" method.name
  let vars := setVar vars "MethodID" (toStdString method.methodId.toNat)
  let vars := setVar vars "ServiceID" (toStdString method.serviceId.toNat)
  let vars := setVar vars "ServiceName" method.serviceName
  let vars := setVar vars "InType" method.inputTypeName
  let vars := setVar vars "OutType" method.outputTypeName
  [print vars "inline virtual\nseastar::future<smf::rpc_recv_typed_context<$OutType$>>\n$MethodName$(smf::rpc_typed_envelope<$InType$> x) \x7b\n",
    print vars "  return $MethodName$(x.serialize_data());\n",
    printText "\x7d\n",
    print vars "inline virtual\nseastar::future<smf::rpc_recv_typed_context<$OutType$>>\n$MethodName$(smf::rpc_envelope e) \x7b\n",
    indent,
    print vars "/// ServiceID: $ServiceID$\n/// MethodID:  $MethodID$\ne.set_request_id($ServiceID$ ^ $MethodID$);\nreturn send<$OutType$>(std::move(e));\n",
    outdent,
    printText "\x7d\n"]

/-- `print_header_client`. -/
def printHeaderClient (service : SmfService) : List PrinterCall :=
  let vars := setVar [] "ClientName" (properPostfixToken service.name "client".toList)
  let vars := setVar vars "ServiceID" (toStdString service.serviceId.toNat)
  [print vars "class $ClientName$: ",
    printText "public smf::rpc_client \x7b\n",
    indent,
    printText "public:\n",
    indent,
    print vars "explicit $ClientName$(seastar::ipv4_addr server_addr)\n:smf::rpc_client(std::move(server_addr)) \x7b\x7d\n",
    print vars "explicit $ClientName$(smf::rpc_client_opts o)\n:smf::rpc_client(std::move(o)) \x7b\x7d\n",
    print vars "$ClientName$($ClientName$ &&o) = default;\n",
    print vars "virtual ~$ClientName$() = default;\n",
    printText "virtual const char *name() const final \x7b\n",
    indent,
    print vars "return \"$ClientName$\";\n",
    outdent,
    printText "\x7d\n"] ++
  service.methods.flatMap printHeaderClientMethod ++
  [outdent,
    print vars "\x7d; // end of rpc client: $ClientName$\n",
    outdent]

/-! ## `std::operator<<` -/

/-- `service->raw_service()->defined_namespace->components` and the name,
joined by `::`. -/
def fqdnService (service : SmfService) : List Char :=
  join (service.service.namespaceComponents ++ [service.name]) "::".toList

/-- The loop of `print_std_ostream_services`: one line per method, from index
`i` on, with a separator before every line but the first. -/
def ostreamMethods : Vars → Nat → List SmfMethod → List PrinterCall
  | _, _, [] => []
  | vars, i, method :: methods =>
    let vars' := setVar vars "MethodName" method.name
    let vars' := setVar vars' "InType" method.inputTypeName
    let vars' := setVar vars' "OutType" method.outputTypeName
    let vars' := setVar vars' "MethodId" (toStdString method.methodId.toNat)
    (if i ≠ 0 then [printText "o << \", \";\n"] else []) ++
      print vars' "o << \"method=\x7bid=$MethodId$, fn=$MethodName$($InType$):$OutType$\x7d\";\n" :: ostreamMethods vars' (i + 1) methods

/-- `print_std_ostream_services`: `operator<<` for the service, in namespace
`std`. -/
def printStdOstreamServices (service : SmfService) : List PrinterCall :=
  let vars := setVar [] "FQDNService" (fqdnService service)
  let vars := setVar vars "ServiceID" (toStdString service.serviceId.toNat)
  let vars := setVar vars "ServiceHandleSize" (toStdString service.methods.length)
  [printText "namespace std \x7b\n",
    indent,
    print vars "inline ostream& operator<<(ostream &o, const $FQDNService$ &s) \x7b\n",
    indent,
    print vars "o << \"$FQDNService$=\x7btotal_handles=$ServiceHandleSize$,\";\n"] ++
  ostreamMethods vars 0 service.methods ++
  [printText "return o << \"\x7d\";\n",
    outdent,
    printText "\x7d\n",
    outdent,
    printText "\x7d // namespace std\n"]

/-! ## The passes of `gen` -/

namespace CppGenerator

variable (g : Generator)

/-- `message_header_ext()`. -/
def messageHeaderExt : List Char := "_generated.h".toList

/-- The loop of `generate_header_prologue` over `included_files()`, skipping
the input file, with the map it leaves. -/
def transitiveFbs (inputFilename : List Char) : Vars → List (List Char) → List PrinterCall × Vars
  | vars, [] => ([], vars)
  | vars, header :: headers =>
    if header = inputFilename then transitiveFbs inputFilename vars headers
    else
      let vars := setVar vars "header" header
      let rest := transitiveFbs inputFilename vars headers
      (print vars "// transitive fbs: $header$\n" :: rest.1, rest.2)

/-- `generate_header_prologue`. -/
def generateHeaderPrologue : List PrinterCall :=
  let vars := setVar [] "filename" g.inputFilename
  let vars := setVar vars "filename_identifier" (fileNameIdentifierOf g.inputFilenameWithoutExt)
  let vars := setVar vars "filename_base" g.inputFilenameWithoutExt
  let vars := setVar vars "message_header_ext" messageHeaderExt
  let transitive := transitiveFbs g.inputFilename vars g.parser.includedFiles
  let vars := transitive.2
  [printText "// Generated by smfc.\n",
    printText "// Any local changes WILL BE LOST.\n",
    print vars "// source: $filename$\n"] ++
  transitive.1 ++
  [printText "#pragma once\n",
    print vars "#ifndef SMF_$filename_identifier$_INCLUDED\n",
    print vars "#define SMF_$filename_identifier$_INCLUDED\n\n"]

/-- The loop of `generate_header_prologue_includes`, with the map it leaves. -/
def includeHeaders : Vars → List (List Char) → List PrinterCall × Vars
  | vars, [] => ([], vars)
  | vars, hdr :: hdrs =>
    let vars := setVar vars "header" hdr
    let rest := includeHeaders vars hdrs
    (print vars "#include <$header$>\n" :: rest.1, rest.2)

/-- The `headers` of `generate_header_prologue_includes`. -/
def prologueHeaders : List (List Char) :=
  ["ostream", "seastar/core/sstring.hh", "smf/rpc_service.h", "smf/rpc_client.h",
    "smf/rpc_recv_typed_context.h", "smf/rpc_typed_envelope.h", "smf/log.h"].map String.toList

/-- `generate_header_prologue_includes`. -/
def generateHeaderPrologueIncludes : List PrinterCall :=
  let includes := includeHeaders [] prologueHeaders
  let vars := setVar includes.2 "filename" g.inputFilename
  let vars := setVar vars "filename_identifier" (fileNameIdentifierOf g.inputFilenameWithoutExt)
  let vars := setVar vars "filename_base" g.inputFilenameWithoutExt
  let vars := setVar vars "message_header_ext" messageHeaderExt
  includes.1 ++
  [printText "\n",
    print vars "#include \"$filename_base$$message_header_ext$\"\n\n"]

/-- `generate_header_prologue_forward_decl_external`: a loop over the
services inside a loop over the services. -/
def generateHeaderPrologueForwardDeclExternal : List PrinterCall :=
  g.services.flatMap (fun _ => g.services.flatMap printStdOstreamServices) ++
  [printText "\n"]

/-- `generate_header_prologue_forward_decl`. -/
def generateHeaderPrologueForwardDecl : List PrinterCall :=
  g.services.flatMap (fun srv =>
    let vars := setVar [] "Service" srv.name
    let vars := setVar vars "ClientName" (properPostfixToken srv.name "client".toList)
    [print vars "class $Service$;\n",
      print vars "class $ClientName$;\n"]) ++
  [printText "\n"]

/-- The loop of `generate_header_prologue_namespace` over the package's parts,
with the map it keeps setting. -/
def namespaceOpen : Vars → List (List Char) → List PrinterCall
  | _, [] => []
  | vars, part :: parts =>
    let vars := setVar vars "part" part
    print vars "namespace $part$ \x7b\n" :: namespaceOpen vars parts

/-- `generate_header_prologue_namespace`. -/
def generateHeaderPrologueNamespace : List PrinterCall :=
  if g.package ≠ [] then namespaceOpen [] g.packageParts ++ [printText "\n"] else []

/-- The loop of `generate_header_epilogue_namespace` over the package's parts
in reverse, with the map it leaves. -/
def namespaceClose : Vars → List (List Char) → List PrinterCall × Vars
  | vars, [] => ([], vars)
  | vars, part :: parts =>
    let vars := setVar vars "part" part
    let rest := namespaceClose vars parts
    (print vars "\x7d  // namespace $part$\n" :: rest.1, rest.2)

/-- `generate_header_epilogue_namespace`. -/
def generateHeaderEpilogueNamespace : List PrinterCall :=
  let vars := setVar [] "filename" g.inputFilename
  let vars := setVar vars "filename_identifier" (fileNameIdentifierOf g.inputFilenameWithoutExt)
  if g.package ≠ [] then
    let close := namespaceClose vars g.packageParts.reverse
    close.1 ++ [print close.2 "\n", print close.2 "\n"]
  else [print vars "\n"]

/-- `generate_header_epilogue`. -/
def generateHeaderEpilogue : List PrinterCall :=
  let vars := setVar [] "filename" g.inputFilename
  let vars := setVar vars "filename_identifier" (fileNameIdentifierOf g.inputFilenameWithoutExt)
  [printText "\n\n",
    print vars "#endif  // SMF_$filename_identifier$_INCLUDED\n"]

/-- `generate_header_services`: the server class and the client class of
each service. -/
def generateHeaderServices : List PrinterCall :=
  g.services.flatMap fun srv =>
    printHeaderService srv ++ [printText "\n"] ++ printHeaderClient srv ++ [printText "\n"]

/-- The calls of `cpp_generator::gen`, pass after pass. -/
def calls : List PrinterCall :=
  generateHeaderPrologue g ++
  generateHeaderPrologueIncludes g ++
  generateHeaderPrologueNamespace g ++
  generateHeaderPrologueForwardDecl g ++
  generateHeaderEpilogueNamespace g ++
  generateHeaderPrologueForwardDeclExternal g ++
  generateHeaderPrologueNamespace g ++
  generateHeaderServices g ++
  generateHeaderEpilogueNamespace g ++
  generateHeaderEpilogue g

/-- `cpp_generator::gen`, up to `save_conents_to_file()`: the printer after
every pass, whose text is what the file receives. -/
def gen (fuel : Nat) : Option SmfPrinter := runAll fuel {} (calls g)

end CppGenerator

end SmfGen
