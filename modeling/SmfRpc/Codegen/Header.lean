import SmfRpc.Codegen.CppGenerator

/-!
# The header smfc writes

What `cpp_generator::gen` writes for a schema whose names are plain
(`Generator.Plain`).  Every pass comes back to its indentation and substitutes
values free of `'$'` (`wellFormed_calls`), so with fuel for the template with
the most placeholders the generator runs to the end.

`generate_header_prologue_forward_decl_external` runs its loop over the
services inside a second loop over the services: the header holds the
`std::operator<<` definitions of all services once per service
(`header_repeats_ostream_operators`), so with two services every `operator<<`
is defined twice in one translation unit.
-/

namespace SmfGen

open PrinterCall

/-! ## Values free of `'$'` -/

theorem varsOk_setVar {vars : Vars} (h : VarsOk vars) (key : String) {v : List Char}
    (hv : '$' ∉ v) : VarsOk (setVar vars key v) :=
  h.set key.toList hv

theorem plainName_colons : PlainName "::".toList := by decide

theorem dollar_not_mem_raw {s : List Char} (h : '$' ∉ s) :
    '$' ∉ properPrefixToken "raw".toList s :=
  dollar_not_mem_properPrefixToken (by decide) h

theorem dollar_not_mem_client {s : List Char} (h : '$' ∉ s) :
    '$' ∉ properPostfixToken s "client".toList :=
  dollar_not_mem_properPostfixToken h (by decide)

theorem SmfMethod.dollar_not_mem_name {m : SmfMethod} (h : m.call.Plain) : '$' ∉ m.name := h.1.1

theorem SmfService.dollar_not_mem_name {srv : SmfService} (h : srv.service.Plain) :
    '$' ∉ srv.name :=
  h.1.1

/-- The services of a plain generator are plain. -/
theorem plain_of_mem_services {g : Generator} (hg : g.Plain) {srv : SmfService}
    (hs : srv ∈ g.services) : srv.service.Plain := by
  obtain ⟨s, hmem, rfl⟩ := List.mem_map.mp hs
  exact hg.2.2.2 s (List.mem_filter.mp hmem).1

/-- The methods of a plain service are plain, and carry its name. -/
theorem plain_of_mem_methods {srv : SmfService} (h : srv.service.Plain) {m : SmfMethod}
    (hm : m ∈ srv.methods) : m.call.Plain ∧ '$' ∉ m.serviceName := by
  obtain ⟨call, hc, rfl⟩ := List.mem_map.mp hm
  exact ⟨h.2.2 call hc, h.1.1⟩

/-! The names the generator joins with `boost::algorithm::join`, and from here
on everything it writes, depend on the string functions. -/

section

variable [StringUtil]

theorem PlainName.join {parts : List (List Char)} {sep : List Char}
    (hparts : ∀ part ∈ parts, PlainName part) (hsep : PlainName sep) :
    PlainName (join parts sep) :=
  ⟨StringUtil.not_mem_join (fun part h => (hparts part h).1) hsep.1,
    StringUtil.not_mem_join (fun part h => (hparts part h).2.1) hsep.2.1,
    StringUtil.not_mem_join (fun part h => (hparts part h).2.2) hsep.2.2⟩

theorem StructDef.Plain.cppType {sd : StructDef} (h : sd.Plain) : PlainName (cppType sd) := by
  refine PlainName.join ?_ plainName_colons
  simp only [List.mem_append, List.mem_singleton]
  rintro part (hp | rfl)
  · exact h.1 part hp
  · exact h.2

theorem plainName_fqdnService {srv : SmfService} (h : srv.service.Plain) :
    PlainName (fqdnService srv) := by
  refine PlainName.join ?_ plainName_colons
  simp only [List.mem_append, List.mem_singleton]
  rintro part (hp | rfl)
  · exact h.2.1 part hp
  · exact h.1

namespace SmfMethod

variable {m : SmfMethod} (h : m.call.Plain)
include h

theorem dollar_not_mem_inputTypeName : '$' ∉ m.inputTypeName := h.2.1.cppType.1

theorem dollar_not_mem_outputTypeName : '$' ∉ m.outputTypeName := h.2.2.cppType.1

end SmfMethod

/-! ## Every pass runs to the end -/

theorem wellFormed_ctorDtorMethods (max : Nat) {vars : Vars} (hv : VarsOk vars) (i : Nat)
    {methods : List SmfMethod} (hm : ∀ m ∈ methods, m.call.Plain) :
    WellFormed (ctorDtorMethods max vars i methods) := by
  induction methods generalizing vars i with
  | nil => exact wellFormed_nil
  | cons m ms ih =>
    have hp := hm m List.mem_cons_self
    -- the map after the five assignments of this iteration, which the rest goes on from
    have hname := SmfMethod.dollar_not_mem_name hp
    have hv' := varsOk_setVar (varsOk_setVar (varsOk_setVar (varsOk_setVar
      (varsOk_setVar hv "MethodName" hname) "RawMethodName" (dollar_not_mem_raw hname))
      "InType" (SmfMethod.dollar_not_mem_inputTypeName hp))
      "OutType" (SmfMethod.dollar_not_mem_outputTypeName hp))
      "MethodId" (dollar_not_mem_toStdString m.methodId.toNat)
    rw [ctorDtorMethods]
    exact WellFormed.append ⟨fun _ => rfl, by simpa using hv'⟩
      (ih hv' (i + 1) fun m' h => hm m' (List.mem_cons_of_mem m h))

theorem wellFormed_printHeaderServiceCtorDtor {srv : SmfService} (h : srv.service.Plain) :
    WellFormed (printHeaderServiceCtorDtor srv) := by
  have hv := varsOk_setVar varsOk_nil "Service" (SmfService.dollar_not_mem_name h)
  simp only [printHeaderServiceCtorDtor]
  exact WellFormed.insert ⟨fun _ => rfl, by simp [hv]⟩
    (wellFormed_ctorDtorMethods _ hv 0 fun m hm => (plain_of_mem_methods h hm).1)

theorem wellFormed_printHeaderServiceHandleRequestId (srv : SmfService) :
    WellFormed (printHeaderServiceHandleRequestId srv) := by
  simp only [printHeaderServiceHandleRequestId]
  refine WellFormed.insert ⟨fun _ => rfl, by simp⟩ ⟨balanced_of_flat ?_, ?_⟩
  -- one `case` line per method, each a `print`
  all_goals
    simp only [List.mem_map, forall_exists_index, and_imp]
    rintro c ⟨m, i⟩ - rfl
  · exact ⟨nofun, nofun⟩
  · exact varsOk_setVar (varsOk_setVar (varsOk_setVar varsOk_nil "ServiceID"
      (dollar_not_mem_toStdString _)) "MethodId" (dollar_not_mem_toStdString _))
      "VectorIdx" (dollar_not_mem_toStdString i)

omit [StringUtil] in
theorem wellFormed_printHeaderServiceHandles (srv : SmfService) :
    WellFormed (printHeaderServiceHandles srv) := by
  refine ⟨fun _ => rfl, ?_⟩
  simp only [printHeaderServiceHandles, List.forall_mem_cons, mapOk_print, mapOk_printText,
    mapOk_indent, mapOk_outdent, List.not_mem_nil, IsEmpty.forall_iff, implies_true, and_true]
  exact varsOk_setVar varsOk_nil "ServiceHandleSize" (dollar_not_mem_toStdString _)

theorem wellFormed_printHeaderServiceMethod {m : SmfMethod} (hp : m.call.Plain) :
    WellFormed (printHeaderServiceMethod m) := by
  refine ⟨fun _ => rfl, ?_⟩
  simp only [printHeaderServiceMethod, List.forall_mem_cons, mapOk_print, mapOk_printText,
    mapOk_indent, mapOk_outdent, List.not_mem_nil, IsEmpty.forall_iff, implies_true, and_true,
    true_and, and_self]
  have hname := SmfMethod.dollar_not_mem_name hp
  exact varsOk_setVar (varsOk_setVar (varsOk_setVar (varsOk_setVar (varsOk_setVar varsOk_nil
    "RawMethodName" (dollar_not_mem_raw hname)) "MethodName" hname)
    "MethodId" (dollar_not_mem_toStdString _)) "InType" (SmfMethod.dollar_not_mem_inputTypeName hp))
    "OutType" (SmfMethod.dollar_not_mem_outputTypeName hp)

theorem wellFormed_printHeaderService {srv : SmfService} (h : srv.service.Plain) :
    WellFormed (printHeaderService srv) := by
  have hv := varsOk_setVar (varsOk_setVar (varsOk_setVar varsOk_nil
    "Service" (SmfService.dollar_not_mem_name h)) "ServiceID"
    (dollar_not_mem_toStdString srv.serviceId.toNat))
    "ServiceHandleSize" (dollar_not_mem_toStdString srv.methods.length)
  simp only [printHeaderService]
  -- the blocks of the class body, the last one first
  refine WellFormed.insert ?_
    (WellFormed.flatMap fun m hm => wellFormed_printHeaderServiceMethod (plain_of_mem_methods h hm).1)
  refine WellFormed.insert ?_ (wellFormed_printHeaderServiceHandleRequestId srv)
  refine WellFormed.insert ?_ (wellFormed_printHeaderServiceHandles srv)
  rw [List.append_assoc]
  exact WellFormed.insert ⟨fun _ => rfl, by simp [hv]⟩ (wellFormed_printHeaderServiceCtorDtor h)

theorem wellFormed_printHeaderClientMethod {m : SmfMethod} (hp : m.call.Plain)
    (hs : '$' ∉ m.serviceName) : WellFormed (printHeaderClientMethod m) := by
  refine ⟨fun _ => rfl, ?_⟩
  simp only [printHeaderClientMethod, List.forall_mem_cons, mapOk_print, mapOk_printText,
    mapOk_indent, mapOk_outdent, List.not_mem_nil, IsEmpty.forall_iff, implies_true, and_true,
    true_and, and_self]
  have hname := SmfMethod.dollar_not_mem_name hp
  exact varsOk_setVar (varsOk_setVar (varsOk_setVar (varsOk_setVar (varsOk_setVar
    (varsOk_setVar (varsOk_setVar varsOk_nil "RawMethodName" (dollar_not_mem_raw hname))
    "MethodName" hname) "MethodID" (dollar_not_mem_toStdString _))
    "ServiceID" (dollar_not_mem_toStdString _)) "ServiceName" hs)
    "InType" (SmfMethod.dollar_not_mem_inputTypeName hp))
    "OutType" (SmfMethod.dollar_not_mem_outputTypeName hp)

theorem wellFormed_printHeaderClient {srv : SmfService} (h : srv.service.Plain) :
    WellFormed (printHeaderClient srv) := by
  have hv := varsOk_setVar (varsOk_setVar varsOk_nil
    "ClientName" (dollar_not_mem_client (SmfService.dollar_not_mem_name h)))
    "ServiceID" (dollar_not_mem_toStdString srv.serviceId.toNat)
  simp only [printHeaderClient]
  exact WellFormed.insert ⟨fun _ => rfl, by simpa using hv⟩ (WellFormed.flatMap fun m hm =>
    wellFormed_printHeaderClientMethod (plain_of_mem_methods h hm).1 (plain_of_mem_methods h hm).2)

theorem wellFormed_ostreamMethods {vars : Vars} (hv : VarsOk vars) (i : Nat)
    {methods : List SmfMethod} (hm : ∀ m ∈ methods, m.call.Plain) :
    WellFormed (ostreamMethods vars i methods) := by
  induction methods generalizing vars i with
  | nil => exact wellFormed_nil
  | cons m ms ih =>
    have hp := hm m List.mem_cons_self
    have hv' := varsOk_setVar (varsOk_setVar (varsOk_setVar (varsOk_setVar hv
      "MethodName" (SmfMethod.dollar_not_mem_name hp))
      "InType" (SmfMethod.dollar_not_mem_inputTypeName hp))
      "OutType" (SmfMethod.dollar_not_mem_outputTypeName hp))
      "MethodId" (dollar_not_mem_toStdString m.methodId.toNat)
    -- the separator is there from the second method on
    have hsep : WellFormed (if i ≠ 0 then [.printText "o << \", \";\n"] else []) := by
      split
      · exact wellFormed_nil.printText_cons _
      · exact wellFormed_nil
    rw [ostreamMethods]
    exact hsep.append ((ih hv' (i + 1) fun m' h => hm m' (List.mem_cons_of_mem m h)).print_cons hv' _)

theorem wellFormed_printStdOstreamServices {srv : SmfService} (h : srv.service.Plain) :
    WellFormed (printStdOstreamServices srv) := by
  have hv := varsOk_setVar (varsOk_setVar (varsOk_setVar varsOk_nil
    "FQDNService" (plainName_fqdnService h).1) "ServiceID"
    (dollar_not_mem_toStdString srv.serviceId.toNat))
    "ServiceHandleSize" (dollar_not_mem_toStdString srv.methods.length)
  simp only [printStdOstreamServices]
  exact WellFormed.insert ⟨fun _ => rfl, by simp [hv]⟩
    (wellFormed_ostreamMethods hv 0 fun m hm => (plain_of_mem_methods h hm).1)

/-! ## The text of `std::operator<<` -/

omit [StringUtil] in
/-- A one-line template with one placeholder, whose value is a plain name,
writes the line with the name in place, after the indentation. -/
theorem print_line (p : SmfPrinter) (hp : p.escapeChar = '$') {vars : Vars} (hv : VarsOk vars)
    {pre key post v : List Char} (hpre : PlainName pre) (hkey : '$' ∉ key)
    (hpost : PlainName post) (hval : vars.lookup key = some v) (hvp : PlainName v) {fuel : Nat}
    (hfuel : (pre ++ '$' :: (key ++ '$' :: (post ++ ['\n']))).count '$' < fuel) :
    p.print fuel vars (pre ++ '$' :: (key ++ '$' :: (post ++ ['\n']))) =
      some { p with out := p.out ++ p.pad ++ (pre ++ v ++ post ++ ['\n']) } := by
  have hpost' : '$' ∉ post ++ ['\n'] := by simp [hpost.1]
  have hline : '\n' ∉ pre ++ v ++ post := by simp [hpre.2.1, hvp.2.1, hpost.2.1]
  have hnul : '\x00' ∉ pre ++ v ++ post ++ ['\n'] := by simp [hpre.2.2, hvp.2.2, hpost.2.2]
  rw [SmfPrinter.print_eq p (by rw [hp]; exact hv) (by rw [hp]; exact hfuel), hp,
    SmfPrinter.expand_split hpre.1 hkey, hval]
  -- after the value, the rest of the line holds no placeholder
  simp only [SmfPrinter.expand_of_not_mem hpost']
  rw [← List.append_assoc, ← List.append_assoc, SmfPrinter.cStr_of_not_mem hnul,
    SmfPrinter.printStr_line p hline, hp]

omit [StringUtil] in
/-- In a run of calls that all end their loops and never outdent below zero,
a one-placeholder line whose value is a plain name stands in the text with
the value in place. -/
theorem runAll_line_infix {fuel k : Nat} (hfuel : k < fuel) {pre post : List PrinterCall}
    {vars : Vars} {t : String} (hsafe : ∀ c ∈ pre ++ print vars t :: post, Safe k c)
    {p : SmfPrinter} (hp : p.escapeChar = '$') {l : Nat}
    (hl : levels p.indentLevel (pre ++ print vars t :: post) = some l)
    {lpre key lpost v : List Char} (ht : t.toList = lpre ++ '$' :: (key ++ '$' :: (lpost ++ ['\n'])))
    (hlpre : PlainName lpre) (hkey : '$' ∉ key) (hlpost : PlainName lpost)
    (hval : vars.lookup key = some v) (hv : PlainName v) :
    ∃ r, runAll fuel p (pre ++ print vars t :: post) = some r ∧
      lpre ++ v ++ lpost ++ ['\n'] <:+: r.out := by
  rw [levels_append] at hl
  obtain ⟨l₁, hl₁, hlpost'⟩ := Option.bind_eq_some_iff.mp hl
  -- the calls before the line
  obtain ⟨t₁, ht₁⟩ := PrinterCall.runAll_eq_some hfuel
    (fun c hc => hsafe c (List.mem_append_left _ hc)) hp hl₁
  -- the line itself, on the printer the calls before it leave
  obtain ⟨hvars, hcount⟩ : Safe k (print vars t) :=
    hsafe _ (List.mem_append_right _ List.mem_cons_self)
  set p₁ : SmfPrinter := { p with out := p.out ++ t₁, indentLevel := l₁ } with hp₁
  have hline := print_line p₁ hp hvars hlpre hkey hlpost hval hv
    (show (lpre ++ '$' :: (key ++ '$' :: (lpost ++ ['\n']))).count '$' < fuel by rw [← ht]; omega)
  set line := lpre ++ v ++ lpost ++ ['\n']
  -- the calls after it, from the indentation the line leaves
  obtain ⟨t₃, ht₃⟩ := PrinterCall.runAll_eq_some hfuel
    (p := { p₁ with out := p₁.out ++ p₁.pad ++ line })
    (fun c hc => hsafe c (List.mem_append_right _ (List.mem_cons_of_mem _ hc))) hp hlpost'
  refine ⟨{ p₁ with out := p₁.out ++ p₁.pad ++ line ++ t₃, indentLevel := l }, ?_,
    ⟨p₁.out ++ p₁.pad, t₃, ?_⟩⟩
  · rw [runAll_append, ht₁, Option.bind_some, runAll_cons]
    show (SmfPrinter.print p₁ fuel vars t.toList).bind _ = _
    rw [ht, hline, Option.bind_some]
    exact ht₃
  · simp only [List.append_assoc]

/-- What `print_std_ostream_services` writes from the first indentation holds
the first line of the service's `operator<<`, with its fully qualified name. -/
theorem runAll_printStdOstreamServices {srv : SmfService} (h : srv.service.Plain) {fuel : Nat}
    (hfuel : maxDollars (printStdOstreamServices srv) < fuel) (o : List Char) :
    ∃ t, runAll fuel { out := o } (printStdOstreamServices srv) = some { out := o ++ t } ∧
      "  inline ostream& operator<<(ostream &o, const ".toList ++ fqdnService srv ++
        " &s) \x7b\n".toList <:+: t := by
  obtain ⟨t, ht⟩ := (wellFormed_printStdOstreamServices h).runAll_eq_some hfuel (p := { out := o }) rfl
  refine ⟨t, ht, ?_⟩
  set vars := setVar (setVar (setVar [] "FQDNService" (fqdnService srv)) "ServiceID"
    (toStdString srv.serviceId.toNat)) "ServiceHandleSize" (toStdString srv.methods.length) with hvars
  have hv : VarsOk vars := varsOk_setVar (varsOk_setVar (varsOk_setVar varsOk_nil
    "FQDNService" (plainName_fqdnService h).1) "ServiceID" (dollar_not_mem_toStdString _))
    "ServiceHandleSize" (dollar_not_mem_toStdString _)
  -- the first three calls: the namespace, the indentation, and the operator's first line
  obtain ⟨rest, hsplit⟩ : ∃ rest, printStdOstreamServices srv =
      [.printText "namespace std \x7b\n", .indent,
        .print vars "inline ostream& operator<<(ostream &o, const $FQDNService$ &s) \x7b\n"] ++ rest :=
    ⟨_, rfl⟩
  have htmpl : "inline ostream& operator<<(ostream &o, const $FQDNService$ &s) \x7b\n".toList =
      "inline ostream& operator<<(ostream &o, const ".toList ++ '$' ::
        ("FQDNService".toList ++ '$' :: (" &s) \x7b".toList ++ ['\n'])) := by
    rfl
  have hmem : PrinterCall.print vars
      "inline ostream& operator<<(ostream &o, const $FQDNService$ &s) \x7b\n" ∈
      printStdOstreamServices srv := by
    rw [hsplit]
    simp
  have hcount := dollars_le_maxDollars hmem
  rw [dollars, htmpl] at hcount
  have hlookup : vars.lookup "FQDNService".toList = some (fqdnService srv) := by
    simp [hvars, setVar]
  have hline := print_line ((({ out := o } : SmfPrinter).printStr "namespace std \x7b\n".toList).indent)
    rfl hv (by decide) (by decide) (by decide) hlookup (plainName_fqdnService h)
    (Nat.lt_of_le_of_lt hcount hfuel)
  rw [hsplit] at ht
  simp only [List.cons_append, List.nil_append, runAll_cons, run, Option.bind_some] at ht
  rw [htmpl, hline, Option.bind_some] at ht
  -- the rest only writes after the operator's first line
  obtain ⟨s, hs⟩ := runAll_out_prefix ht
  have hpad : (({ out := o } : SmfPrinter).printStr "namespace std \x7b\n".toList).indent.pad =
      [' ', ' '] := rfl
  have hpre : "  inline ostream& operator<<(ostream &o, const ".toList =
      [' ', ' '] ++ "inline ostream& operator<<(ostream &o, const ".toList := rfl
  have hpost : " &s) \x7b\n".toList = " &s) \x7b".toList ++ ['\n'] := rfl
  rw [hpad] at hs
  simp only [SmfPrinter.indent, SmfPrinter.printStr, List.append_assoc] at hs
  -- before the operator's first line stands the namespace line
  refine ⟨({ out := o } : SmfPrinter).pad ++
    SmfPrinter.indentLines ({ out := o } : SmfPrinter).pad "namespace std \x7b\n".toList, s, ?_⟩
  rw [hpre, hpost]
  simp only [List.append_assoc]
  exact List.append_cancel_left hs

/-- The loop over the services of
`generate_header_prologue_forward_decl_external` writes the first line of every
service's `operator<<`. -/
theorem runAll_ostreamServices {srvs : List SmfService} (h : ∀ srv ∈ srvs, srv.service.Plain)
    {fuel : Nat} (hfuel : maxDollars (srvs.flatMap printStdOstreamServices) < fuel) (o : List Char) :
    ∃ t, runAll fuel { out := o } (srvs.flatMap printStdOstreamServices) = some { out := o ++ t } ∧
      ∀ srv ∈ srvs, "  inline ostream& operator<<(ostream &o, const ".toList ++ fqdnService srv ++
        " &s) \x7b\n".toList <:+: t := by
  induction srvs generalizing o with
  | nil => exact ⟨[], by simp, fun _ h => absurd h List.not_mem_nil⟩
  | cons srv srvs ih =>
    rw [List.flatMap_cons] at hfuel ⊢
    obtain ⟨t₁, ht₁, hline⟩ := runAll_printStdOstreamServices (h srv List.mem_cons_self)
      (Nat.lt_of_le_of_lt (maxDollars_le fun c hc => List.mem_append_left _ hc) hfuel) o
    obtain ⟨t₂, ht₂, hlines⟩ := ih (fun s hs => h s (List.mem_cons_of_mem srv hs))
      (Nat.lt_of_le_of_lt (maxDollars_le fun c hc => List.mem_append_right _ hc) hfuel) (o ++ t₁)
    refine ⟨t₁ ++ t₂, ?_, ?_⟩
    · rw [runAll_append, ht₁, Option.bind_some, ht₂, List.append_assoc]
    · intro s hs
      rcases List.mem_cons.mp hs with rfl | hs
      · exact List.infix_append_of_infix_left hline
      · exact List.infix_append_of_infix_right (hlines s hs)

end

/-! ## The passes of `gen` -/

namespace CppGenerator

variable {g : Generator}

theorem dollar_not_mem_messageHeaderExt : '$' ∉ messageHeaderExt := by decide

theorem dollar_not_mem_prologueHeaders : ∀ hdr ∈ prologueHeaders, '$' ∉ hdr := by decide

section

variable [StringUtil]

theorem dollar_not_mem_inputFilenameWithoutExt (hg : g.Plain) : '$' ∉ g.inputFilenameWithoutExt :=
  StringUtil.not_mem_stripExtension (StringUtil.not_mem_stripPath hg.1)

/-- The map the prologue and the epilogues start from: the file name and its
identifier. -/
theorem varsOk_filename (hg : g.Plain) :
    VarsOk (setVar (setVar [] "filename" g.inputFilename) "filename_identifier"
      (fileNameIdentifierOf g.inputFilenameWithoutExt)) :=
  varsOk_setVar (varsOk_setVar varsOk_nil "filename" hg.1) "filename_identifier"
    (dollar_not_mem_fileNameIdentifierOf _)

omit [StringUtil] in
theorem wellFormed_transitiveFbs (inputFilename : List Char) {vars : Vars} (hv : VarsOk vars)
    {headers : List (List Char)} (hh : ∀ hdr ∈ headers, '$' ∉ hdr) :
    WellFormed (transitiveFbs inputFilename vars headers).1 ∧
      VarsOk (transitiveFbs inputFilename vars headers).2 := by
  induction headers generalizing vars with
  | nil => exact ⟨wellFormed_nil, hv⟩
  | cons hdr hdrs ih =>
    have hrest := fun {vars} (hv : VarsOk vars) =>
      ih hv fun h' hm => hh h' (List.mem_cons_of_mem hdr hm)
    rw [transitiveFbs]
    split
    · exact hrest hv
    · have hv' := varsOk_setVar hv "header" (hh hdr List.mem_cons_self)
      exact ⟨(hrest hv').1.print_cons hv' _, (hrest hv').2⟩

theorem wellFormed_generateHeaderPrologue (hg : g.Plain) :
    WellFormed (generateHeaderPrologue g) := by
  have hv := varsOk_setVar (varsOk_setVar (varsOk_filename hg)
    "filename_base" (dollar_not_mem_inputFilenameWithoutExt hg))
    "message_header_ext" dollar_not_mem_messageHeaderExt
  obtain ⟨hfbs, hv'⟩ := wellFormed_transitiveFbs g.inputFilename hv hg.2.1
  simp only [generateHeaderPrologue]
  exact WellFormed.insert ⟨fun _ => rfl, by simpa using hv'⟩ hfbs

omit [StringUtil] in
theorem wellFormed_includeHeaders {vars : Vars} (hv : VarsOk vars) {hdrs : List (List Char)}
    (hh : ∀ hdr ∈ hdrs, '$' ∉ hdr) :
    WellFormed (includeHeaders vars hdrs).1 ∧ VarsOk (includeHeaders vars hdrs).2 := by
  induction hdrs generalizing vars with
  | nil => exact ⟨wellFormed_nil, hv⟩
  | cons hdr hdrs ih =>
    have hv' := varsOk_setVar hv "header" (hh hdr List.mem_cons_self)
    have hrest := ih hv' fun h' hm => hh h' (List.mem_cons_of_mem hdr hm)
    exact ⟨hrest.1.print_cons hv' _, hrest.2⟩

theorem wellFormed_generateHeaderPrologueIncludes (hg : g.Plain) :
    WellFormed (generateHeaderPrologueIncludes g) := by
  obtain ⟨hinc, hv⟩ := wellFormed_includeHeaders varsOk_nil dollar_not_mem_prologueHeaders
  -- the map the includes leave, with the file's names set again
  have hv' := varsOk_setVar (varsOk_setVar (varsOk_setVar (varsOk_setVar hv
    "filename" hg.1) "filename_identifier"
    (dollar_not_mem_fileNameIdentifierOf g.inputFilenameWithoutExt))
    "filename_base" (dollar_not_mem_inputFilenameWithoutExt hg))
    "message_header_ext" dollar_not_mem_messageHeaderExt
  exact hinc.append ((wellFormed_nil.print_cons hv' _).printText_cons _)

theorem wellFormed_generateHeaderPrologueForwardDeclExternal (hg : g.Plain) :
    WellFormed (generateHeaderPrologueForwardDeclExternal g) :=
  (WellFormed.flatMap fun _ _ => WellFormed.flatMap fun _ hs =>
    wellFormed_printStdOstreamServices (plain_of_mem_services hg hs)).append
    (wellFormed_nil.printText_cons _)

omit [StringUtil] in
theorem wellFormed_generateHeaderPrologueForwardDecl (hg : g.Plain) :
    WellFormed (generateHeaderPrologueForwardDecl g) := by
  refine (WellFormed.flatMap fun srv hs => ?_).append (wellFormed_nil.printText_cons _)
  have hname := SmfService.dollar_not_mem_name (plain_of_mem_services hg hs)
  have hv := varsOk_setVar (varsOk_setVar varsOk_nil "Service" hname)
    "ClientName" (dollar_not_mem_client hname)
  exact (wellFormed_nil.print_cons hv _).print_cons hv _

omit [StringUtil] in
theorem wellFormed_namespaceOpen {vars : Vars} (hv : VarsOk vars) {parts : List (List Char)}
    (hp : ∀ part ∈ parts, '$' ∉ part) : WellFormed (namespaceOpen vars parts) := by
  induction parts generalizing vars with
  | nil => exact wellFormed_nil
  | cons part parts ih =>
    have hv' := varsOk_setVar hv "part" (hp part List.mem_cons_self)
    exact (ih hv' fun q hq => hp q (List.mem_cons_of_mem part hq)).print_cons hv' _

theorem wellFormed_generateHeaderPrologueNamespace (hg : g.Plain) :
    WellFormed (generateHeaderPrologueNamespace g) := by
  unfold generateHeaderPrologueNamespace
  split
  · exact (wellFormed_namespaceOpen varsOk_nil hg.2.2.1).append (wellFormed_nil.printText_cons _)
  · exact wellFormed_nil

omit [StringUtil] in
theorem wellFormed_namespaceClose {vars : Vars} (hv : VarsOk vars) {parts : List (List Char)}
    (hp : ∀ part ∈ parts, '$' ∉ part) :
    WellFormed (namespaceClose vars parts).1 ∧ VarsOk (namespaceClose vars parts).2 := by
  induction parts generalizing vars with
  | nil => exact ⟨wellFormed_nil, hv⟩
  | cons part parts ih =>
    have hv' := varsOk_setVar hv "part" (hp part List.mem_cons_self)
    have hrest := ih hv' fun q hq => hp q (List.mem_cons_of_mem part hq)
    exact ⟨hrest.1.print_cons hv' _, hrest.2⟩

theorem wellFormed_generateHeaderEpilogueNamespace (hg : g.Plain) :
    WellFormed (generateHeaderEpilogueNamespace g) := by
  have hv := varsOk_filename hg
  unfold generateHeaderEpilogueNamespace
  split
  · obtain ⟨hclose, hv'⟩ := wellFormed_namespaceClose hv fun part hp =>
      hg.2.2.1 part (List.mem_reverse.mp hp)
    exact hclose.append ((wellFormed_nil.print_cons hv' _).print_cons hv' _)
  · exact wellFormed_nil.print_cons hv _

theorem wellFormed_generateHeaderEpilogue (hg : g.Plain) :
    WellFormed (generateHeaderEpilogue g) :=
  (wellFormed_nil.print_cons (varsOk_filename hg) _).printText_cons _

theorem wellFormed_generateHeaderServices (hg : g.Plain) :
    WellFormed (generateHeaderServices g) :=
  WellFormed.flatMap fun _ hs =>
    have h := plain_of_mem_services hg hs
    (((wellFormed_printHeaderService h).append (wellFormed_nil.printText_cons _)).append
      (wellFormed_printHeaderClient h)).append (wellFormed_nil.printText_cons _)

/-- Every pass of `gen` comes back to its indentation and substitutes values
free of `'$'`. -/
theorem wellFormed_calls (hg : g.Plain) : WellFormed (calls g) :=
  have hns := wellFormed_generateHeaderPrologueNamespace hg
  have hend := wellFormed_generateHeaderEpilogueNamespace hg
  (((((((((wellFormed_generateHeaderPrologue hg).append
    (wellFormed_generateHeaderPrologueIncludes hg)).append hns).append
    (wellFormed_generateHeaderPrologueForwardDecl hg)).append hend).append
    (wellFormed_generateHeaderPrologueForwardDeclExternal hg)).append hns).append
    (wellFormed_generateHeaderServices hg)).append hend).append
    (wellFormed_generateHeaderEpilogue hg)

/-- On every plain schema, with fuel for the template with the most
placeholders, `gen` runs to the last call. -/
theorem gen_eq_some (hg : g.Plain) {fuel : Nat} (hfuel : maxDollars (calls g) < fuel) :
    ∃ t, gen g fuel = some { out := t } :=
  (wellFormed_calls hg).runAll_eq_some hfuel (p := {}) rfl

/-- `generate_header_prologue_forward_decl_external` runs its loop over the
services once per service: the header holds the text that loop writes, with
the first line of every service's `operator<<`, as many times as there are
services. -/
theorem header_repeats_ostream_operators (g : Generator) (hg : g.Plain) (fuel : Nat)
    (hfuel : maxDollars (calls g) < fuel) :
    ∃ out pre block post, (gen g fuel).map SmfPrinter.out = some out ∧
      out = pre ++ (List.replicate g.services.length block).flatten ++ post ∧
      ∀ srv ∈ g.services, "  inline ostream& operator<<(ostream &o, const ".toList ++
        fqdnService srv ++ " &s) \x7b\n".toList <:+: block := by
  have hns := wellFormed_generateHeaderPrologueNamespace hg
  have hend := wellFormed_generateHeaderEpilogueNamespace hg
  -- the passes before the nested loop, the nested loop, and the passes after it
  have hcalls : calls g = (generateHeaderPrologue g ++ generateHeaderPrologueIncludes g ++
      generateHeaderPrologueNamespace g ++ generateHeaderPrologueForwardDecl g ++
      generateHeaderEpilogueNamespace g) ++
      g.services.flatMap (fun _ => g.services.flatMap printStdOstreamServices) ++
      ([.printText "\n"] ++ (generateHeaderPrologueNamespace g ++ generateHeaderServices g ++
        generateHeaderEpilogueNamespace g ++ generateHeaderEpilogue g)) := by
    simp only [calls, generateHeaderPrologueForwardDeclExternal, List.append_assoc]
  have hbefore := ((((wellFormed_generateHeaderPrologue hg).append
    (wellFormed_generateHeaderPrologueIncludes hg)).append hns).append
    (wellFormed_generateHeaderPrologueForwardDecl hg)).append hend
  have hafter := (wellFormed_nil.printText_cons "\n").append
    (((hns.append (wellFormed_generateHeaderServices hg)).append hend).append
      (wellFormed_generateHeaderEpilogue hg))
  -- every part of the calls needs no more fuel than the whole
  have hsub : ∀ {cs : List PrinterCall}, (∀ c ∈ cs, c ∈ calls g) → maxDollars cs < fuel :=
    fun hcs => Nat.lt_of_le_of_lt (maxDollars_le hcs) hfuel
  obtain ⟨tA, htA⟩ := hbefore.runAll_eq_some (p := {}) (hsub fun c hc => by
    rw [hcalls]
    exact List.mem_append_left _ (List.mem_append_left _ hc)) rfl
  replace htA : _ = some ({ out := tA } : SmfPrinter) := htA
  obtain ⟨tX, htX, hlines⟩ := runAll_ostreamServices (fun _ hs => plain_of_mem_services hg hs)
    (hsub fun c hc => by
      obtain ⟨srv, hsrv, -⟩ := List.mem_flatMap.mp hc
      rw [hcalls]
      exact List.mem_append_left _ (List.mem_append_right _ (List.mem_flatMap.mpr ⟨srv, hsrv, hc⟩)))
    tA
  have hrep := runAll_replicate htX g.services.length
  obtain ⟨tB, htB⟩ := hafter.runAll_eq_some
    (p := { out := tA ++ (List.replicate g.services.length tX).flatten })
    (hsub fun c hc => by
      rw [hcalls]
      exact List.mem_append_right _ hc) rfl
  refine ⟨tA ++ (List.replicate g.services.length tX).flatten ++ tB, tA, tX, tB, ?_, rfl, hlines⟩
  -- the loop over the services, run once per service, is the replicated block
  have hconst : g.services.flatMap (fun _ => g.services.flatMap printStdOstreamServices) =
      (List.replicate g.services.length (g.services.flatMap printStdOstreamServices)).flatten := by
    simp [List.flatMap]
  rw [gen, hcalls, hconst, runAll_append, runAll_append, htA, Option.bind_some, hrep,
    Option.bind_some, htB]
  rfl

end

/-- A schema of two services, `Greeter` and `Storage`, in namespace `demo`. -/
def twoServices : Generator where
  parser :=
    { services :=
        [⟨"Greeter".toList, ["demo".toList],
          [⟨"Hello".toList, ⟨["demo".toList], "Req".toList⟩, ⟨["demo".toList], "Resp".toList⟩⟩], false⟩,
        ⟨"Storage".toList, ["demo".toList],
          [⟨"Put".toList, ⟨["demo".toList], "Req".toList⟩, ⟨["demo".toList], "Resp".toList⟩⟩], false⟩]
      currentNamespace := ["demo".toList]
      includedFiles := ["demo.fbs".toList] }
  inputFilename := "demo.fbs".toList

theorem header_repeats_ostream_operators_two_services :
    twoServices.Plain ∧ twoServices.services.length = 2 ∧
      ∃ out pre block post,
        (gen twoServices (maxDollars (calls twoServices) + 1)).map
          SmfPrinter.out = some out ∧
        out = pre ++ (List.replicate twoServices.services.length block).flatten ++ post ∧
        ∀ srv ∈ twoServices.services, "  inline ostream& operator<<(ostream &o, const ".toList ++
          fqdnService srv ++ " &s) \x7b\n".toList <:+: block :=
  ⟨by decide +kernel, rfl,
    header_repeats_ostream_operators twoServices (by decide +kernel) _ (Nat.lt_add_one _)⟩

end CppGenerator

end SmfGen
