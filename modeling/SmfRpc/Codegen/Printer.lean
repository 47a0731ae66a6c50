import SmfRpc.Lib.Loop
import SmfRpc.Lib.AssocList

/-!
# `smf_printer`

`src/smfc/smf_printer.h`: the text buffer the code generators write to.
`print(vars, string_template)` replaces the placeholders `$key$` of the
template by their values in `vars`, then writes the result line by line, each
line after the current indentation.

A `std::string` is a `List Char`.  The printer only looks for `'$'` and
`'\n'`, which no byte of a multi-byte UTF-8 sequence equals, so for UTF-8 text
this reads the same as the bytes the C++ code scans.

The substitution loop searches from the start of the string after every
replacement, so it scans again the text a value brought in.  `substitute`
runs it with fuel (`Loop.run`); `expand` is one left-to-right pass.  When no
value holds the escape character the two agree (`substitute_eq_expand`);
when a value holds its own placeholder, the loop never ends
(`substitute_self_reference`).
-/

namespace SmfGen

open AssocList

/-- The `std::map<std::string, std::string>` of a `print` call. -/
abbrev Vars := List (List Char × List Char)

/-- `smf_printer`: the text written so far and the indentation.  `indent_`
(`indentLevel`) is an `int32_t`; the generators nest it a few levels deep, and `outdent` asserts
it stays non-negative, so a `Nat` holds every value it takes. -/
structure SmfPrinter where
  escapeChar : Char := '$'
  out : List Char := []
  indentLevel : Nat := 0
  indentChar : Char := ' '
  indentStep : UInt16 := 2
  deriving DecidableEq, Repr

namespace SmfPrinter

/-! ## Placeholders -/

/-- One iteration of the loop of `print(vars, string_template)`: the first
escape character, the next one after it, and the value of the key between
them in place of the placeholder.  `none` leaves the loop: no escape
character, an unclosed placeholder, or an unknown key. -/
def substituteStep (escape : Char) (vars : Vars) (s : List Char) : Option (List Char) := do
  let pos ← s.idxOf? escape
  let pos2 ← ((s.drop (pos + 1)).idxOf? escape).map (· + (pos + 1))
  let v ← vars.lookup ((s.drop (pos + 1)).take (pos2 - pos - 1))
  pure (s.take pos ++ v ++ s.drop (pos2 + 1))

/-- The `while` loop of `print(vars, string_template)`, with at most `fuel`
iterations. -/
def substitute (fuel : Nat) (escape : Char) (vars : Vars) (t : List Char) : Option (List Char) :=
  Loop.run (substituteStep escape vars) fuel t

/-- One left-to-right pass over a template: each known placeholder replaced by
its value, whose text is not scanned again; the rest copied from the first
unclosed or unknown placeholder on.  `key` is the name read so far inside a
placeholder. -/
def expandFrom (escape : Char) (vars : Vars) : Option (List Char) → List Char → List Char
  | none, [] => []
  | some key, [] => escape :: key
  | none, c :: cs => if c = escape then expandFrom escape vars (some []) cs
      else c :: expandFrom escape vars none cs
  | some key, c :: cs =>
    if c = escape then
      match vars.lookup key with
      | some v => v ++ expandFrom escape vars none cs
      | none => escape :: key ++ escape :: cs
    else expandFrom escape vars (some (key ++ [c])) cs

/-- The single pass over a whole template. -/
def expand (escape : Char) (vars : Vars) (t : List Char) : List Char := expandFrom escape vars none t

/-! ## Lines -/

/-- What `print(const char *s)` writes after the first indentation: each
later line of `s` after `pad` as well. -/
def indentLines (pad : List Char) : List Char → List Char
  | [] => []
  | c :: cs =>
    if c = '\n' then c :: (if cs = [] then [] else pad ++ indentLines pad cs)
    else c :: indentLines pad cs

/-- The indentation of a line: `indent_ * indent_step_` copies of
`indent_char_`. -/
def pad (p : SmfPrinter) : List Char := List.replicate (p.indentLevel * p.indentStep.toNat) p.indentChar

/-- `smf_printer::print(const char *s)`. -/
def printStr (p : SmfPrinter) (s : List Char) : SmfPrinter :=
  { p with out := p.out ++ p.pad ++ indentLines p.pad s }

/-- `s.c_str()` read as a C string: up to the first NUL. -/
def cStr (s : List Char) : List Char := s.takeWhile (· ≠ '\x00')

/-- `smf_printer::print(vars, string_template)`; `none` when the loop has not
ended within `fuel` iterations. -/
def print (p : SmfPrinter) (fuel : Nat) (vars : Vars) (stringTemplate : List Char) :
    Option SmfPrinter :=
  (substitute fuel p.escapeChar vars stringTemplate).map fun s => p.printStr (cStr s)

/-- `smf_printer::indent`. -/
def indent (p : SmfPrinter) : SmfPrinter := { p with indentLevel := p.indentLevel + 1 }

/-- `smf_printer::outdent`: `assert(indent_ >= 0)` after the decrement. -/
def outdent (p : SmfPrinter) : Option SmfPrinter :=
  if p.indentLevel = 0 then none else some { p with indentLevel := p.indentLevel - 1 }

/-! ## Splitting at the escape character -/

section Split

variable {α : Type} [DecidableEq α] {e : α}

theorem idxOf?_append_cons {pre : List α} (h : e ∉ pre) (rest : List α) :
    (pre ++ e :: rest).idxOf? e = some pre.length := by
  induction pre with
  | nil => simp [List.idxOf?_cons]
  | cons a pre ih =>
    have ha : (a == e) = false := by
      simp only [List.mem_cons, not_or] at h
      simpa using Ne.symm h.1
    rw [List.cons_append, List.idxOf?_cons, ha, if_neg Bool.false_ne_true,
      ih (fun h' => h (List.mem_cons_of_mem a h'))]
    rfl

theorem eq_append_of_idxOf? {s : List α} {i : Nat} (h : s.idxOf? e = some i) :
    ∃ pre rest, s = pre ++ e :: rest ∧ e ∉ pre ∧ pre.length = i := by
  induction s generalizing i with
  | nil => cases h
  | cons a s ih =>
    rw [List.idxOf?_cons] at h
    by_cases ha : a = e
    · subst ha
      simp only [beq_self_eq_true, if_true, Option.some.injEq] at h
      exact ⟨[], s, rfl, List.not_mem_nil, h⟩
    · have ha' : (a == e) = false := by simpa using ha
      rw [ha', if_neg Bool.false_ne_true] at h
      obtain ⟨j, hj, rfl⟩ := Option.map_eq_some_iff.mp h
      obtain ⟨pre, rest, rfl, hpre, rfl⟩ := ih hj
      refine ⟨a :: pre, rest, rfl, ?_, rfl⟩
      simp only [List.mem_cons, not_or]
      exact ⟨Ne.symm ha, hpre⟩

/-- A list that holds `e` splits at its first `e`. -/
theorem exists_split_of_mem {s : List α} (h : e ∈ s) :
    ∃ pre rest, s = pre ++ e :: rest ∧ e ∉ pre := by
  obtain ⟨i, hi⟩ := Option.isSome_iff_exists.mp (List.isSome_idxOf?.mpr h)
  obtain ⟨pre, rest, hs, hpre, -⟩ := eq_append_of_idxOf? hi
  exact ⟨pre, rest, hs, hpre⟩

end Split

/-! ## One iteration -/

section Step

variable {e : Char} {vars : Vars}

/-- The iteration on a string whose first placeholder is `key`, closed and
known: the value in place of the placeholder. -/
theorem substituteStep_split {pre key post v : List Char} (hpre : e ∉ pre) (hkey : e ∉ key)
    (hv : vars.lookup key = some v) :
    substituteStep e vars (pre ++ e :: (key ++ e :: post)) = some (pre ++ v ++ post) := by
  have hdrop : (pre ++ e :: (key ++ e :: post)).drop (pre.length + 1) = key ++ e :: post := by
    simp
  simp only [substituteStep, idxOf?_append_cons hpre, hdrop, idxOf?_append_cons hkey,
    Option.bind_eq_bind, Option.bind_some, Option.map_some]
  have htake : (key ++ e :: post).take (key.length + (pre.length + 1) - pre.length - 1) = key := by
    rw [show key.length + (pre.length + 1) - pre.length - 1 = key.length by omega]
    simp
  rw [htake, hv]
  simp [show key.length + (pre.length + 1) + 1 = pre.length + 1 + (key.length + 1) by omega,
    ← List.drop_drop]

theorem substituteStep_unknown {pre key post : List Char} (hpre : e ∉ pre) (hkey : e ∉ key)
    (hv : vars.lookup key = none) :
    substituteStep e vars (pre ++ e :: (key ++ e :: post)) = none := by
  have hdrop : (pre ++ e :: (key ++ e :: post)).drop (pre.length + 1) = key ++ e :: post := by
    simp
  have htake : (key ++ e :: post).take (key.length + (pre.length + 1) - pre.length - 1) = key := by
    rw [show key.length + (pre.length + 1) - pre.length - 1 = key.length by omega]
    simp
  simp [substituteStep, idxOf?_append_cons hpre, hdrop, idxOf?_append_cons hkey, htake, hv]

theorem substituteStep_unclosed {pre rest : List Char} (hpre : e ∉ pre) (hrest : e ∉ rest) :
    substituteStep e vars (pre ++ e :: rest) = none := by
  have hdrop : (pre ++ e :: rest).drop (pre.length + 1) = rest := by simp
  have hnone : rest.idxOf? e = none := List.idxOf?_eq_none_iff.mpr hrest
  simp [substituteStep, idxOf?_append_cons hpre, hdrop, hnone]

theorem substituteStep_of_not_mem {s : List Char} (h : e ∉ s) : substituteStep e vars s = none := by
  simp [substituteStep, List.idxOf?_eq_none_iff.mpr h]

/-- Every iteration that goes on replaces a first placeholder, closed and
known, by its value. -/
theorem exists_split_of_substituteStep {s s' : List Char} (h : substituteStep e vars s = some s') :
    ∃ pre key post v, s = pre ++ e :: (key ++ e :: post) ∧ e ∉ pre ∧ e ∉ key ∧
      vars.lookup key = some v ∧ s' = pre ++ v ++ post := by
  cases hpos : s.idxOf? e with
  | none => simp [substituteStep, hpos] at h
  | some pos =>
    obtain ⟨pre, rest, rfl, hpre, rfl⟩ := eq_append_of_idxOf? hpos
    by_cases hrest : e ∈ rest
    · obtain ⟨key, post, rfl, hkey⟩ := exists_split_of_mem hrest
      cases hv : vars.lookup key with
      | none => rw [substituteStep_unknown hpre hkey hv] at h; cases h
      | some v =>
        rw [substituteStep_split hpre hkey hv] at h
        exact ⟨pre, key, post, v, rfl, hpre, hkey, hv, (Option.some.inj h).symm⟩
    · rw [substituteStep_unclosed hpre hrest] at h
      cases h

end Step

/-! ## The loop and the single pass -/

section Expand

variable {e : Char} {vars : Vars}

theorem expandFrom_none_append {x : List Char} (hx : e ∉ x) (y : List Char) :
    expandFrom e vars none (x ++ y) = x ++ expandFrom e vars none y := by
  induction x with
  | nil => rfl
  | cons c x ih =>
    simp only [List.mem_cons, not_or] at hx
    rw [List.cons_append, expandFrom, if_neg (Ne.symm hx.1), ih hx.2, List.cons_append]

theorem expandFrom_some_append {x : List Char} (hx : e ∉ x) (key y : List Char) :
    expandFrom e vars (some key) (x ++ y) = expandFrom e vars (some (key ++ x)) y := by
  induction x generalizing key with
  | nil => simp
  | cons c x ih =>
    simp only [List.mem_cons, not_or] at hx
    rw [List.cons_append, expandFrom, if_neg (Ne.symm hx.1), ih hx.2]
    simp

/-- The pass copies a template up to its first placeholder, then goes on
after the value, or copies the rest when the key is unknown. -/
theorem expand_split {pre key post : List Char} (hpre : e ∉ pre) (hkey : e ∉ key) :
    expand e vars (pre ++ e :: (key ++ e :: post)) =
      pre ++ match vars.lookup key with
        | some v => v ++ expand e vars post
        | none => e :: (key ++ e :: post) := by
  rw [expand, expandFrom_none_append hpre, expandFrom, if_pos rfl, expandFrom_some_append hkey,
    List.nil_append, expandFrom, if_pos rfl]
  cases vars.lookup key <;> simp [expand]

theorem expand_unclosed {pre rest : List Char} (hpre : e ∉ pre) (hrest : e ∉ rest) :
    expand e vars (pre ++ e :: rest) = pre ++ e :: rest := by
  rw [expand, expandFrom_none_append hpre, expandFrom, if_pos rfl,
    ← List.append_nil rest, expandFrom_some_append hrest]
  simp [expandFrom]

theorem expand_of_not_mem {s : List Char} (h : e ∉ s) : expand e vars s = s := by
  rw [← List.append_nil s, expand, expandFrom_none_append h]
  rfl

/-- Where the loop leaves, the pass changes nothing. -/
theorem expand_of_substituteStep_none {s : List Char} (h : substituteStep e vars s = none) :
    expand e vars s = s := by
  by_cases hs : e ∈ s
  · obtain ⟨pre, rest, rfl, hpre⟩ := exists_split_of_mem hs
    by_cases hrest : e ∈ rest
    · obtain ⟨key, post, rfl, hkey⟩ := exists_split_of_mem hrest
      cases hv : vars.lookup key with
      | none => rw [expand_split hpre hkey, hv]
      | some v => rw [substituteStep_split hpre hkey hv] at h; cases h
    · exact expand_unclosed hpre hrest
  · exact expand_of_not_mem hs

/-- With values free of the escape character, an iteration keeps what the
pass gives and drops two escape characters. -/
theorem expand_substituteStep (hv : ∀ kv ∈ vars, e ∉ kv.2) {s s' : List Char}
    (h : substituteStep e vars s = some s') :
    expand e vars s' = expand e vars s ∧ s'.count e < s.count e := by
  obtain ⟨pre, key, post, v, rfl, hpre, hkey, hlook, rfl⟩ := exists_split_of_substituteStep h
  have hve : e ∉ v := hv (key, v) (mem_of_lookup_eq_some hlook)
  refine ⟨?_, ?_⟩
  · rw [expand_split hpre hkey, hlook, List.append_assoc, expand, expandFrom_none_append hpre,
      expandFrom_none_append hve]
    rfl
  · simp only [List.count_append, List.count_cons_self, List.count_eq_zero_of_not_mem hpre,
      List.count_eq_zero_of_not_mem hkey, List.count_eq_zero_of_not_mem hve]
    omega

/-- When no value holds the escape character, the loop ends within one
iteration per pair of escape characters, with what one left-to-right pass
gives. -/
theorem substitute_eq_expand (hv : ∀ kv ∈ vars, e ∉ kv.2) {t : List Char} {fuel : Nat}
    (hfuel : t.count e < fuel) : substitute fuel e vars t = some (expand e vars t) := by
  have hstep : ∀ s s', expand e vars s = expand e vars t → substituteStep e vars s = some s' →
      expand e vars s' = expand e vars t ∧ s'.count e < s.count e := fun s s' hs h => by
    rw [← hs]
    exact expand_substituteStep hv h
  obtain ⟨r, hr⟩ := Loop.run_of_measure (List.count e) hstep (s := t) rfl
  have hr' := Loop.run_mono hr (show t.count e + 1 ≤ fuel by omega)
  obtain ⟨hexp, hnone⟩ := Loop.run_induction (fun s s' hs h => (hstep s s' hs h).1) hr' rfl
  rw [substitute, hr', ← hexp, expand_of_substituteStep_none hnone]

/-- A value that holds its own placeholder, after text free of the escape
character, brings the placeholder back every time it replaces it: the loop
never ends. -/
theorem substitute_self_reference {key a b : List Char} (hkey : e ∉ key) (ha : e ∉ a)
    (hv : vars.lookup key = some (a ++ e :: (key ++ e :: b))) {x y : List Char} (hx : e ∉ x)
    (fuel : Nat) : substitute fuel e vars (x ++ e :: (key ++ e :: y)) = none := by
  let I : List Char → Prop := fun s => ∃ x y, s = x ++ e :: (key ++ e :: y) ∧ e ∉ x
  have hstep : ∀ s, I s → ∃ s', substituteStep e vars s = some s' ∧ I s' := by
    rintro s ⟨x, y, rfl, hx⟩
    refine ⟨_, substituteStep_split hx hkey hv, x ++ a, b ++ y, by simp, ?_⟩
    simp only [List.mem_append, not_or]
    exact ⟨hx, ha⟩
  exact Loop.run_eq_none_of_forever hstep ⟨x, y, rfl, hx⟩ fuel

end Expand

/-! ## `print(vars, string_template)` -/

/-- With values free of the escape character and enough fuel, `print` writes
the single pass over the template. -/
theorem print_eq (p : SmfPrinter) {vars : Vars} (hv : ∀ kv ∈ vars, p.escapeChar ∉ kv.2)
    {t : List Char} {fuel : Nat} (hfuel : t.count p.escapeChar < fuel) :
    p.print fuel vars t = some (p.printStr (cStr (expand p.escapeChar vars t))) := by
  rw [print, substitute_eq_expand hv hfuel, Option.map_some]

/-- A line with no break before its end is written as it is. -/
theorem indentLines_line (pad : List Char) {s : List Char} (h : '\n' ∉ s) :
    indentLines pad (s ++ ['\n']) = s ++ ['\n'] := by
  induction s with
  | nil => simp [indentLines]
  | cons c cs ih =>
    simp only [List.mem_cons, not_or] at h
    rw [List.cons_append, indentLines, if_neg (Ne.symm h.1), ih h.2]

theorem cStr_of_not_mem {s : List Char} (h : '\x00' ∉ s) : cStr s = s := by
  induction s with
  | nil => rfl
  | cons c cs ih =>
    simp only [List.mem_cons, not_or] at h
    rw [cStr, List.takeWhile_cons, if_pos (decide_eq_true (Ne.symm h.1))]
    exact congrArg (c :: ·) (ih h.2)

/-- One line, after the indentation. -/
theorem printStr_line (p : SmfPrinter) {s : List Char} (h : '\n' ∉ s) :
    p.printStr (s ++ ['\n']) = { p with out := p.out ++ p.pad ++ (s ++ ['\n']) } := by
  rw [printStr, indentLines_line _ h]

/-- The `print` of `generate_header_prologue` that writes the source line,
`// source: $filename$`, never ends when the file name holds `$filename$`
after text free of `'$'`. -/
theorem print_filename_never_ends (p : SmfPrinter) (hp : p.escapeChar = '$') (vars : Vars)
    (a b : List Char) (ha : '$' ∉ a)
    (hv : vars.lookup "filename".toList = some (a ++ "$filename$".toList ++ b)) (fuel : Nat) :
    p.print fuel vars "// source: $filename$\n".toList = none := by
  have ht : "// source: $filename$\n".toList =
      "// source: ".toList ++ '$' :: ("filename".toList ++ '$' :: "\n".toList) := by
    decide
  have hv' : vars.lookup "filename".toList = some (a ++ '$' :: ("filename".toList ++ '$' :: b)) := by
    rw [hv]
    simp
  rw [print, hp, ht, substitute_self_reference (by decide) ha hv' (by decide) fuel, Option.map_none]

theorem print_filename_never_ends_fbs :
    '$' ∉ "a".toList ∧
      [("filename".toList, "a$filename$.fbs".toList)].lookup "filename".toList =
        some ("a".toList ++ "$filename$".toList ++ ".fbs".toList) ∧
      ({} : SmfPrinter).print 1000 [("filename".toList, "a$filename$.fbs".toList)]
        "// source: $filename$\n".toList = none :=
  ⟨by decide, by decide,
    print_filename_never_ends {} rfl _ "a".toList ".fbs".toList (by decide) (by decide) 1000⟩

end SmfPrinter

end SmfGen
