import SmfRpc.Codegen.Schema

/-!
# Lines a run of the printer writes

What a statement about generated code needs from the printer.

* A template is spelled from lines of pieces: text, and placeholders whose
  values are plain names (`Piece`).  The pass writes each line with every
  value in place (`expand_lines`).
* `WritesLines fuel calls l l' lines`: from indentation `l` the calls write
  `lines`, each at its depth (`render`), and leave the indentation at `l'`.
  It holds of `print`, `printText`, `indent` and `outdent` alone, and
  composes along `++` and along a loop (`WritesLines.loopCalls`).
* `runAll_block_infix`: the text a block of calls writes, from the
  indentation the calls before it leave, stands in the text of the whole run;
  `runAll_lines_infix` for a block whose lines are known.
* `loopCalls` is a loop of a generator that keeps setting one map, as the
  loops of `print_server` and `print_server_jump_table` do; `loopCalls_append`
  cuts it at an element, and `WellFormed.loopCalls` carries well-formedness
  through it.
-/

namespace SmfGen

open PrinterCall

/-- A piece of a one-line template. -/
inductive Piece where
  /-- Text the pass copies. -/
  | text (s : List Char)
  /-- A placeholder `$key$`. -/
  | hole (key : List Char)

namespace Piece

/-- The template text of a piece. -/
def spell : Piece → List Char
  | text s => s
  | hole key => '$' :: (key ++ ['$'])

/-- What the pass writes for a piece: the value in place of a placeholder. -/
def fill (vars : Vars) : Piece → List Char
  | text s => s
  | hole key => (vars.lookup key).getD []

/-- A piece the pass writes as a plain name: text free of `'$'`, line breaks
and NULs, or a placeholder with such a value. -/
def Plain (vars : Vars) : Piece → Prop
  | text s => PlainName s
  | hole key => '$' ∉ key ∧ ∃ v, vars.lookup key = some v ∧ PlainName v

theorem plain_text {vars : Vars} {s : List Char} (h : PlainName s) : (text s).Plain vars := h

theorem plain_hole {vars : Vars} {key v : List Char} (hkey : '$' ∉ key) (hv : vars.lookup key = some v)
    (hp : PlainName v) : (hole key).Plain vars :=
  ⟨hkey, v, hv, hp⟩

@[simp] theorem fill_text (vars : Vars) (s : List Char) : (text s).fill vars = s := rfl

theorem fill_hole {vars : Vars} {key v : List Char} (hv : vars.lookup key = some v) :
    (hole key).fill vars = v := by
  rw [fill, hv, Option.getD_some]

theorem Plain.fill {vars : Vars} {x : Piece} (h : x.Plain vars) : PlainName (x.fill vars) := by
  cases x with
  | text s => exact h
  | hole key =>
    obtain ⟨-, v, hv, hp⟩ := h
    rw [Piece.fill, hv]
    exact hp

/-- The pass writes the pieces with their values, then goes on with the rest. -/
theorem expand_spell {vars : Vars} {ps : List Piece} (h : ∀ x ∈ ps, x.Plain vars)
    (rest : List Char) :
    SmfPrinter.expand '$' vars (ps.flatMap spell ++ rest) =
      ps.flatMap (fill vars) ++ SmfPrinter.expand '$' vars rest := by
  induction ps with
  | nil => rfl
  | cons x ps ih =>
    have hps := ih fun y hy => h y (List.mem_cons_of_mem x hy)
    rw [List.flatMap_cons, List.flatMap_cons, List.append_assoc, List.append_assoc, ← hps]
    cases x with
    | text s =>
      exact SmfPrinter.expandFrom_none_append (h _ List.mem_cons_self).1 _
    | hole key =>
      obtain ⟨hkey, v, hv, -⟩ := h _ List.mem_cons_self
      -- the placeholder, then the pass from after it
      have hsplit : SmfPrinter.expand '$' vars ([] ++ '$' :: (key ++ '$' :: (ps.flatMap spell ++ rest))) =
          [] ++ (v ++ SmfPrinter.expand '$' vars (ps.flatMap spell ++ rest)) := by
        rw [SmfPrinter.expand_split (by simp) hkey, hv]
      simp only [List.nil_append] at hsplit
      simp only [spell, fill, hv, Option.getD_some, List.cons_append, List.append_assoc]
      exact hsplit

/-- A template of lines of plain pieces: the pass writes each line with its
values in place. -/
theorem expand_lines {vars : Vars} {pss : List (List Piece)} (h : ∀ ps ∈ pss, ∀ x ∈ ps, x.Plain vars) :
    SmfPrinter.expand '$' vars (pss.flatMap fun ps => ps.flatMap spell ++ ['\n']) =
      pss.flatMap fun ps => ps.flatMap (fill vars) ++ ['\n'] := by
  induction pss with
  | nil => rfl
  | cons ps pss ih =>
    rw [List.flatMap_cons, List.flatMap_cons, List.append_assoc, List.append_assoc,
      expand_spell (h ps List.mem_cons_self), SmfPrinter.expand,
      SmfPrinter.expandFrom_none_append (by decide), ← SmfPrinter.expand,
      ih fun qs hqs => h qs (List.mem_cons_of_mem ps hqs)]

theorem newline_not_mem_fill {vars : Vars} {ps : List Piece} (h : ∀ x ∈ ps, x.Plain vars) :
    '\n' ∉ ps.flatMap (fill vars) := by
  simp only [List.mem_flatMap, not_exists, not_and]
  exact fun x hx => (h x hx).fill.2.1

theorem nul_not_mem_fill {vars : Vars} {ps : List Piece} (h : ∀ x ∈ ps, x.Plain vars) :
    '\x00' ∉ ps.flatMap (fill vars) := by
  simp only [List.mem_flatMap, not_exists, not_and]
  exact fun x hx => (h x hx).fill.2.2

end Piece

/-! ## Lines at their depths -/

/-- Lines at their depths, each after `step` copies of `c` per level: the
text a printer indented by `c` writes for them. -/
def render (c : Char) (step : Nat) (lines : List (Nat × List Char)) : List Char :=
  lines.flatMap fun line => List.replicate (line.1 * step) c ++ line.2 ++ ['\n']

theorem render_append (c : Char) (step : Nat) (ls ms : List (Nat × List Char)) :
    render c step (ls ++ ms) = render c step ls ++ render c step ms :=
  List.flatMap_append

/-- The lines of one element of a loop stand in the text of the loop's
lines. -/
theorem render_infix_flatMap {α : Type} (c : Char) (step : Nat) {f : α → List (Nat × List Char)}
    {xs : List α} {x : α} (hx : x ∈ xs) : render c step (f x) <:+: render c step (xs.flatMap f) := by
  rw [render, render, List.flatMap_assoc]
  exact List.infix_of_mem_flatten (List.mem_map_of_mem hx)

/-- The line breaks of a text whose last character ends a line: each line
after the first gets the indentation. -/
theorem indentLines_append_line (pad : List Char) {s : List Char} (h : '\n' ∉ s) (rest : List Char) :
    SmfPrinter.indentLines pad (s ++ '\n' :: rest) =
      s ++ '\n' :: (if rest = [] then [] else pad ++ SmfPrinter.indentLines pad rest) := by
  induction s with
  | nil => simp [SmfPrinter.indentLines]
  | cons c cs ih =>
    simp only [List.mem_cons, not_or] at h
    rw [List.cons_append, SmfPrinter.indentLines, if_neg (Ne.symm h.1), ih h.2, List.cons_append]

/-- What `print(const char *s)` writes for lines free of breaks: each after
the indentation. -/
theorem pad_indentLines (pad : List Char) (ls : List (List Char)) (hne : ls ≠ [])
    (h : ∀ s ∈ ls, '\n' ∉ s) :
    pad ++ SmfPrinter.indentLines pad (ls.flatMap (· ++ ['\n'])) = ls.flatMap (pad ++ · ++ ['\n']) := by
  induction ls with
  | nil => exact absurd rfl hne
  | cons s ls ih =>
    have hs := h s List.mem_cons_self
    rw [List.flatMap_cons, List.flatMap_cons, List.append_assoc, List.singleton_append,
      indentLines_append_line pad hs]
    cases ls with
    | nil => simp
    | cons s' ls' =>
      -- a line follows, so the text goes on after this break
      have hrest : (s' :: ls').flatMap (· ++ ['\n']) ≠ [] := by simp
      rw [if_neg hrest, ih (List.cons_ne_nil s' ls') fun t ht => h t (List.mem_cons_of_mem s ht)]
      simp

/-- From indentation `l`, the calls write `lines` and leave the indentation at
`l'`, whatever the printer held. -/
def WritesLines (fuel : Nat) (calls : List PrinterCall) (l l' : Nat)
    (lines : List (Nat × List Char)) : Prop :=
  ∀ p : SmfPrinter, p.escapeChar = '$' → p.indentLevel = l →
    runAll fuel p calls =
      some { p with out := p.out ++ render p.indentChar p.indentStep.toNat lines, indentLevel := l' }

namespace WritesLines

variable {fuel : Nat}

theorem nil (l : Nat) : WritesLines fuel [] l l [] := by
  intro p _ hl
  cases p
  simp_all [render]

theorem append {cs ds : List PrinterCall} {l₁ l₂ l₃ : Nat} {ls ms : List (Nat × List Char)}
    (hc : WritesLines fuel cs l₁ l₂ ls) (hd : WritesLines fuel ds l₂ l₃ ms) :
    WritesLines fuel (cs ++ ds) l₁ l₃ (ls ++ ms) := by
  intro p hp hl
  rw [runAll_append, hc p hp hl, Option.bind_some,
    hd { p with out := p.out ++ render p.indentChar p.indentStep.toNat ls, indentLevel := l₂ } hp rfl,
    render_append, List.append_assoc]

theorem indent (l : Nat) : WritesLines fuel [.indent] l (l + 1) [] := by
  intro p _ hl
  simp [runAll, run, SmfPrinter.indent, hl, render]

theorem outdent (l : Nat) : WritesLines fuel [.outdent] (l + 1) l [] := by
  intro p _ hl
  simp [runAll, run, SmfPrinter.outdent, hl, render]

/-- `print(const char *s)` of lines free of breaks. -/
theorem printText {t : String} (ls : List (List Char)) (hne : ls ≠ [])
    (ht : t.toList = ls.flatMap (· ++ ['\n'])) (h : ∀ s ∈ ls, '\n' ∉ s) (l : Nat) :
    WritesLines fuel [.printText t] l l (ls.map fun s => (l, s)) := by
  intro p _ hl
  show some (p.printStr t.toList) = _
  rw [SmfPrinter.printStr, ht, List.append_assoc, pad_indentLines _ _ hne h, render,
    List.flatMap_map, SmfPrinter.pad, hl]

/-- `print(vars, string_template)` on a template of lines of plain pieces. -/
theorem print {vars : Vars} (hv : VarsOk vars) {t : String} (pss : List (List Piece))
    (hne : pss ≠ []) (ht : t.toList = pss.flatMap fun ps => ps.flatMap Piece.spell ++ ['\n'])
    (h : ∀ ps ∈ pss, ∀ x ∈ ps, x.Plain vars) (hfuel : t.toList.count '$' < fuel) (l : Nat) :
    WritesLines fuel [.print vars t] l l (pss.map fun ps => (l, ps.flatMap (Piece.fill vars))) := by
  intro p hp hl
  have hnul : '\x00' ∉ pss.flatMap fun ps => ps.flatMap (Piece.fill vars) ++ ['\n'] := by
    intro hmem
    obtain ⟨ps, hps, hmem⟩ := List.mem_flatMap.mp hmem
    rcases List.mem_append.mp hmem with hmem | hmem
    · exact Piece.nul_not_mem_fill (h ps hps) hmem
    · simp at hmem
  have hlines := pad_indentLines p.pad (pss.map fun ps => ps.flatMap (Piece.fill vars))
    (by simpa using hne) (by
      simp only [List.mem_map, forall_exists_index, and_imp, forall_apply_eq_imp_iff₂]
      exact fun ps hps => Piece.newline_not_mem_fill (h ps hps))
  simp only [List.flatMap_map] at hlines
  show (p.print fuel vars t.toList).bind some = _
  rw [SmfPrinter.print_eq p (by rw [hp]; exact hv) (by rw [hp]; exact hfuel), hp, ht,
    Piece.expand_lines h, SmfPrinter.cStr_of_not_mem hnul, Option.bind_some, SmfPrinter.printStr,
    List.append_assoc, hlines, render, List.flatMap_map, SmfPrinter.pad, hl, hp]

/-! One call, then the rest: the steps of a run written out call by call. -/

theorem cons {c : PrinterCall} {cs : List PrinterCall} {l₁ l₂ l₃ : Nat}
    {ls ms : List (Nat × List Char)} (hc : WritesLines fuel [c] l₁ l₂ ls)
    (hcs : WritesLines fuel cs l₂ l₃ ms) : WritesLines fuel (c :: cs) l₁ l₃ (ls ++ ms) :=
  hc.append hcs

variable {cs : List PrinterCall} {l l' : Nat} {ms : List (Nat × List Char)}

theorem indent_cons (h : WritesLines fuel cs (l + 1) l' ms) : WritesLines fuel (.indent :: cs) l l' ms :=
  (indent l).cons h

theorem outdent_cons (h : WritesLines fuel cs l l' ms) : WritesLines fuel (.outdent :: cs) (l + 1) l' ms :=
  (outdent l).cons h

theorem printText_cons {t : String} {s : List Char} (ht : t.toList = s ++ ['\n']) (hs : '\n' ∉ s)
    (h : WritesLines fuel cs l l' ms) : WritesLines fuel (.printText t :: cs) l l' ((l, s) :: ms) :=
  (printText [s] (List.cons_ne_nil _ _) (by simpa using ht) (by simpa using hs) l).cons h

theorem print_cons {vars : Vars} (hv : VarsOk vars) {t : String} (ps : List Piece)
    (ht : t.toList = ps.flatMap Piece.spell ++ ['\n']) (hp : ∀ x ∈ ps, x.Plain vars)
    (hfuel : t.toList.count '$' < fuel) {s : List Char} (hs : ps.flatMap (Piece.fill vars) = s)
    (h : WritesLines fuel cs l l' ms) : WritesLines fuel (.print vars t :: cs) l l' ((l, s) :: ms) := by
  subst hs
  exact (print hv [ps] (List.cons_ne_nil _ _) (by simpa using ht) (by simpa using hp) hfuel l).cons h

end WritesLines

namespace PrinterCall

variable {fuel : Nat}

/-! ## Templates written as literals -/

@[simp] theorem dollars_printText (s : String) : (printText s).dollars = 0 := rfl

@[simp] theorem dollars_indent : indent.dollars = 0 := rfl

@[simp] theorem dollars_outdent : outdent.dollars = 0 := rfl

/-- A bound on the escape characters of a literal template, counted on its
characters: a literal unfolds to `String.ofList` of them, so the count needs
no decoding of the string's bytes. -/
theorem dollars_print_ofList_le {vars : Vars} {l : List Char} {k : Nat} (h : l.count '$' ≤ k) :
    (print vars (String.ofList l)).dollars ≤ k := by
  rw [dollars_print, String.toList_ofList]
  exact h

theorem count_ofList_lt {l : List Char} {k : Nat} (h : l.count '$' ≤ k) (hk : k < fuel) :
    (String.ofList l).toList.count '$' < fuel := by
  rw [String.toList_ofList]
  omega

/-- In a run of calls that all end their loops and never outdent below zero,
what a block writes from the indentation the calls before it leave stands in
the text of the whole run. -/
theorem runAll_block_infix {k : Nat} (hfuel : k < fuel) {pre mid post : List PrinterCall}
    (hsafe : ∀ c ∈ pre ++ mid ++ post, Safe k c) {p : SmfPrinter} (hp : p.escapeChar = '$')
    {l : Nat} (hl : levels p.indentLevel (pre ++ mid ++ post) = some l) {l₁ : Nat}
    (hl₁ : levels p.indentLevel pre = some l₁) :
    ∃ r, runAll fuel p (pre ++ mid ++ post) = some r ∧
      ∃ r₁, runAll fuel { p with out := [], indentLevel := l₁ } mid = some r₁ ∧ r₁.out <:+: r.out := by
  rw [levels_append, levels_append, hl₁, Option.bind_some] at hl
  obtain ⟨l₂, hl₂, hl₃⟩ := Option.bind_eq_some_iff.mp hl
  have hs : ∀ {cs : List PrinterCall}, (∀ c ∈ cs, c ∈ pre ++ mid ++ post) → ∀ c ∈ cs, Safe k c :=
    fun hcs c hc => hsafe c (hcs c hc)
  -- the calls before the block, the block, the calls after it
  obtain ⟨t₁, ht₁⟩ := runAll_eq_some hfuel
    (hs fun c hc => List.mem_append_left _ (List.mem_append_left _ hc)) hp hl₁
  obtain ⟨t₂, ht₂⟩ := runAll_eq_some hfuel (p := { p with out := [], indentLevel := l₁ })
    (hs fun c hc => List.mem_append_left _ (List.mem_append_right _ hc)) hp hl₂
  set p₂ : SmfPrinter := { p with out := p.out ++ t₁ ++ t₂, indentLevel := l₂ }
  obtain ⟨t₃, ht₃⟩ := runAll_eq_some hfuel (p := p₂)
    (hs fun c hc => List.mem_append_right _ hc) hp hl₃
  have hmid : runAll fuel { p with out := p.out ++ t₁, indentLevel := l₁ } mid = some p₂ := by
    rw [runAll_frame]
    simp only [ht₂, Option.map_some, p₂, List.nil_append, List.append_assoc]
  refine ⟨{ p₂ with out := p₂.out ++ t₃, indentLevel := l }, ?_, _, ht₂, ⟨p.out ++ t₁, t₃, ?_⟩⟩
  · rw [runAll_append, runAll_append, ht₁, Option.bind_some, hmid, Option.bind_some, ht₃]
  · simp [p₂, List.append_assoc]

/-- A block whose lines are known writes them in the text of the whole run,
from the indentation the calls before it leave. -/
theorem runAll_lines_infix {k : Nat} (hfuel : k < fuel) {pre mid post : List PrinterCall}
    (hsafe : ∀ c ∈ pre ++ mid ++ post, Safe k c) {p : SmfPrinter} (hp : p.escapeChar = '$')
    {l : Nat} (hl : levels p.indentLevel (pre ++ mid ++ post) = some l) {l₁ l₂ : Nat}
    (hl₁ : levels p.indentLevel pre = some l₁) {lines : List (Nat × List Char)}
    (hw : WritesLines fuel mid l₁ l₂ lines) :
    ∃ r, runAll fuel p (pre ++ mid ++ post) = some r ∧
      render p.indentChar p.indentStep.toNat lines <:+: r.out := by
  obtain ⟨r, hr, r₁, hr₁, hinfix⟩ := runAll_block_infix hfuel hsafe hp hl hl₁
  rw [hw { p with out := [], indentLevel := l₁ } hp rfl, Option.some_inj] at hr₁
  subst hr₁
  exact ⟨r, hr, by simpa using hinfix⟩

end PrinterCall

/-! ## Loops that keep setting one map -/

/-- A loop of a generator over `xs` that keeps setting one map: each turn
sets the map from the element, then makes the body's calls with it. -/
def loopCalls {α : Type} (set : Vars → α → Vars) (body : Vars → List PrinterCall) :
    Vars → List α → List PrinterCall
  | _, [] => []
  | vars, x :: xs => body (set vars x) ++ loopCalls set body (set vars x) xs

section Loop

variable {α : Type} {set : Vars → α → Vars} {body : Vars → List PrinterCall}

/-- The loop over two lists is the loop over the first, then the loop over
the second from the map the first leaves. -/
theorem loopCalls_append (vars : Vars) (xs ys : List α) :
    loopCalls set body vars (xs ++ ys) =
      loopCalls set body vars xs ++ loopCalls set body (xs.foldl set vars) ys := by
  induction xs generalizing vars with
  | nil => rfl
  | cons x xs ih =>
    rw [List.cons_append, loopCalls, loopCalls, ih, List.append_assoc, List.foldl_cons]

/-- Every call of the loop is a call of the body, with some map. -/
theorem exists_of_mem_loopCalls {vars : Vars} {xs : List α} {c : PrinterCall}
    (h : c ∈ loopCalls set body vars xs) : ∃ v, c ∈ body v := by
  induction xs generalizing vars with
  | nil => cases h
  | cons x xs ih =>
    rw [loopCalls] at h
    rcases List.mem_append.mp h with h | h
    · exact ⟨_, h⟩
    · exact ih h

/-- A property of the map that every turn keeps holds of the map the loop
leaves. -/
theorem foldl_set_of {P : Vars → Prop} {xs : List α} (hset : ∀ v, ∀ x ∈ xs, P v → P (set v x))
    {vars : Vars} (hv : P vars) : P (xs.foldl set vars) := by
  induction xs generalizing vars with
  | nil => exact hv
  | cons x xs ih =>
    exact ih (fun v y hy => hset v y (List.mem_cons_of_mem x hy)) (hset vars x List.mem_cons_self hv)

theorem PrinterCall.WellFormed.loopCalls {P : Vars → Prop} {xs : List α}
    (hset : ∀ v, ∀ x ∈ xs, P v → P (set v x)) (hbody : ∀ v, P v → WellFormed (body v))
    {vars : Vars} (hv : P vars) : WellFormed (SmfGen.loopCalls set body vars xs) := by
  induction xs generalizing vars with
  | nil => exact wellFormed_nil
  | cons x xs ih =>
    have hx := hset vars x List.mem_cons_self hv
    rw [SmfGen.loopCalls]
    exact (hbody _ hx).append (ih (fun v y hy => hset v y (List.mem_cons_of_mem x hy)) hx)

theorem dollars_le_loopCalls {k : Nat} (h : ∀ v, ∀ c ∈ body v, c.dollars ≤ k) {vars : Vars}
    {xs : List α} : ∀ c ∈ SmfGen.loopCalls set body vars xs, c.dollars ≤ k := by
  intro c hc
  obtain ⟨v, hv⟩ := exists_of_mem_loopCalls hc
  exact h v c hv

/-- A loop each of whose turns writes the lines of its element, from one
indentation, writes them all in order. -/
theorem WritesLines.loopCalls {fuel l : Nat} {P : Vars → Prop} {f : α → List (Nat × List Char)}
    {xs : List α} (hset : ∀ v, ∀ x ∈ xs, P v → P (set v x))
    (hbody : ∀ v, ∀ x ∈ xs, P v → WritesLines fuel (body (set v x)) l l (f x))
    {vars : Vars} (hv : P vars) :
    WritesLines fuel (SmfGen.loopCalls set body vars xs) l l (xs.flatMap f) := by
  induction xs generalizing vars with
  | nil => exact WritesLines.nil l
  | cons x xs ih =>
    have hrest := ih (fun v y hy => hset v y (List.mem_cons_of_mem x hy))
      (fun v y hy => hbody v y (List.mem_cons_of_mem x hy)) (hset vars x List.mem_cons_self hv)
    rw [SmfGen.loopCalls, List.flatMap_cons]
    exact (hbody vars x List.mem_cons_self hv).append hrest

end Loop

end SmfGen
