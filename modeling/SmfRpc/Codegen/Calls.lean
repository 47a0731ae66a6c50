import SmfRpc.Codegen.Printer

/-!
# Generators as the calls they make on `smf_printer`

The code generators of `src/smfc/` walk the schema and call their
`smf_printer`; what they call, and with which map and template, depends on
the schema only, never on the printer.  So a generator function is the list
of its printer calls, in order (`PrinterCall`), and `runAll` runs such a list
on a printer.

Three facts carry the proofs about generated files.

* The frame: a list of calls writes the same text whatever was written
  before (`runAll_frame`), so a block of calls that comes back to its
  indentation writes its text once per copy (`runAll_replicate`).
* Termination: when no value of a map holds `'$'` and no template has more
  than `k` of them, every substitution loop ends within `k + 1` iterations,
  and a list whose `indent`s and `outdent`s never go below zero runs to the
  end (`runAll_eq_some`).
* Balance: `levels` follows the indentation through a list of calls, and
  `Balanced` lists come back to where they started.
-/

namespace SmfGen

/-- A call a generator makes on its `smf_printer`. -/
inductive PrinterCall where
  /-- `print(vars, string_template)`. -/
  | print (vars : Vars) (stringTemplate : String)
  /-- `print(const char *s)`, on a literal, whose only NUL is its
  terminator. -/
  | printText (s : String)
  /-- `indent()`. -/
  | indent
  /-- `outdent()`. -/
  | outdent

namespace PrinterCall

/-- One call on the printer: `none` when its substitution loop has not ended
within `fuel` iterations, or when `outdent` fails its assertion. -/
def run (fuel : Nat) (p : SmfPrinter) : PrinterCall → Option SmfPrinter
  | .print vars t => p.print fuel vars t.toList
  | .printText s => some (p.printStr s.toList)
  | .indent => some p.indent
  | .outdent => p.outdent

/-- The calls of a list, one after the other. -/
def runAll (fuel : Nat) (p : SmfPrinter) (calls : List PrinterCall) : Option SmfPrinter :=
  calls.foldlM (run fuel) p

variable {fuel : Nat}

@[simp] theorem runAll_nil (p : SmfPrinter) : runAll fuel p [] = some p := rfl

theorem runAll_cons (p : SmfPrinter) (c : PrinterCall) (cs : List PrinterCall) :
    runAll fuel p (c :: cs) = (run fuel p c).bind fun p' => runAll fuel p' cs := by
  simp only [runAll, List.foldlM_cons]
  rfl

theorem runAll_append (p : SmfPrinter) (cs ds : List PrinterCall) :
    runAll fuel p (cs ++ ds) = (runAll fuel p cs).bind fun p' => runAll fuel p' ds := by
  simp only [runAll, List.foldlM_append]
  rfl

/-! ## The frame -/

/-- A call writes the same text whatever the printer holds: the run from `p`
is the run from `p` emptied, with `p`'s text in front. -/
theorem run_frame (p : SmfPrinter) (c : PrinterCall) :
    run fuel p c = (run fuel { p with out := [] } c).map fun r => { r with out := p.out ++ r.out } := by
  cases p
  cases c with
  | print vars t =>
    simp only [run, SmfPrinter.print, Option.map_map]
    congr 1
    funext s
    simp [SmfPrinter.printStr, SmfPrinter.pad]
  | printText s => simp [run, SmfPrinter.printStr, SmfPrinter.pad]
  | indent => simp [run, SmfPrinter.indent]
  | outdent =>
    simp only [run, SmfPrinter.outdent]
    split <;> simp

theorem runAll_frame (p : SmfPrinter) (calls : List PrinterCall) :
    runAll fuel p calls =
      (runAll fuel { p with out := [] } calls).map fun r => { r with out := p.out ++ r.out } := by
  induction calls generalizing p with
  | nil =>
    cases p
    simp
  | cons c cs ih =>
    rw [runAll_cons, runAll_cons, run_frame p c]
    cases run fuel { p with out := [] } c with
    | none => rfl
    | some r =>
      -- both sides go on from `r`; its text is the one the frame moves
      simp only [Option.map_some, Option.bind_some]
      rw [ih, ih r, Option.map_map]
      congr 1
      funext r'
      simp only [Function.comp_apply, List.append_assoc]

/-- A run only writes after what the printer holds. -/
theorem runAll_out_prefix {p r : SmfPrinter} {calls : List PrinterCall}
    (h : runAll fuel p calls = some r) : p.out <+: r.out := by
  rw [runAll_frame] at h
  obtain ⟨r', -, rfl⟩ := Option.map_eq_some_iff.mp h
  exact List.prefix_append _ _

/-- A run that only writes `t` writes `t` after whatever the printer holds. -/
theorem runAll_with_out {p : SmfPrinter} {calls : List PrinterCall} {t : List Char}
    (h : runAll fuel p calls = some { p with out := p.out ++ t }) (o : List Char) :
    runAll fuel { p with out := o } calls = some { p with out := o ++ t } := by
  rw [runAll_frame] at h ⊢
  obtain ⟨r, hr, hrp⟩ := Option.map_eq_some_iff.mp h
  rw [hr, Option.map_some]
  -- `r` is `p` with the text `t`
  have hout : r.out = t := by
    have := congrArg SmfPrinter.out hrp
    simpa using this
  cases r
  cases p
  simp only [SmfPrinter.mk.injEq] at hrp hout
  obtain ⟨h1, -, h3, h4, h5⟩ := hrp
  subst h1 h3 h4 h5 hout
  rfl

/-- A block of calls that writes `t` and keeps the indentation writes `t` once
per copy. -/
theorem runAll_replicate {p : SmfPrinter} {block : List PrinterCall} {t : List Char}
    (h : runAll fuel p block = some { p with out := p.out ++ t }) (n : Nat) :
    runAll fuel p (List.replicate n block).flatten =
      some { p with out := p.out ++ (List.replicate n t).flatten } := by
  suffices ∀ o, runAll fuel { p with out := o } (List.replicate n block).flatten =
      some { p with out := o ++ (List.replicate n t).flatten } by
    simpa using this p.out
  induction n with
  | zero =>
    intro o
    simp
  | succ n ih =>
    intro o
    rw [List.replicate_succ, List.flatten_cons, runAll_append, runAll_with_out h o,
      Option.bind_some, ih (o ++ t), List.replicate_succ, List.flatten_cons, List.append_assoc]

/-! ## Indentation -/

/-- The indentation a list of calls leaves from `level`; `none` when an
`outdent` would go below zero. -/
def levels : Nat → List PrinterCall → Option Nat
  | l, [] => some l
  | l, .indent :: cs => levels (l + 1) cs
  | 0, .outdent :: _ => none
  | l + 1, .outdent :: cs => levels l cs
  | l, .print _ _ :: cs => levels l cs
  | l, .printText _ :: cs => levels l cs

theorem levels_append (l : Nat) (cs ds : List PrinterCall) :
    levels l (cs ++ ds) = (levels l cs).bind fun l' => levels l' ds := by
  induction cs generalizing l with
  | nil => rfl
  | cons c cs ih =>
    cases c with
    | print vars t => exact ih l
    | printText s => exact ih l
    | indent => exact ih (l + 1)
    | outdent =>
      cases l with
      | zero => rfl
      | succ l => exact ih l

/-- Calls that come back to the indentation they start from, whatever it
is. -/
def Balanced (calls : List PrinterCall) : Prop := ∀ l, levels l calls = some l

theorem Balanced.append {cs ds : List PrinterCall} (hc : Balanced cs) (hd : Balanced ds) :
    Balanced (cs ++ ds) := by
  intro l
  rw [levels_append, hc l, Option.bind_some, hd l]

theorem Balanced.flatMap {α : Type} {xs : List α} {f : α → List PrinterCall}
    (h : ∀ x ∈ xs, Balanced (f x)) : Balanced (xs.flatMap f) := by
  induction xs with
  | nil => intro l; rfl
  | cons x xs ih =>
    rw [List.flatMap_cons]
    exact (h x List.mem_cons_self).append (ih fun y hy => h y (List.mem_cons_of_mem x hy))

/-- Calls that neither indent nor outdent. -/
theorem balanced_of_flat {calls : List PrinterCall}
    (h : ∀ c ∈ calls, c ≠ .indent ∧ c ≠ .outdent) : Balanced calls := by
  intro l
  induction calls with
  | nil => rfl
  | cons c cs ih =>
    have hc := h c List.mem_cons_self
    have hcs := ih fun d hd => h d (List.mem_cons_of_mem c hd)
    cases c with
    | print vars t => exact hcs
    | printText s => exact hcs
    | indent => exact absurd rfl hc.1
    | outdent => exact absurd rfl hc.2

/-- A block between an `indent` and an `outdent`. -/
theorem Balanced.indented {calls : List PrinterCall} (h : Balanced calls) :
    Balanced (.indent :: calls ++ [.outdent]) := by
  intro l
  rw [List.cons_append, levels, levels_append, h (l + 1), Option.bind_some]
  rfl

/-! ## Termination -/

/-- No value of the map holds the escape character. -/
def VarsOk (vars : Vars) : Prop := ∀ kv ∈ vars, '$' ∉ kv.2

theorem varsOk_nil : VarsOk [] := fun _ h => absurd h List.not_mem_nil

theorem VarsOk.set {vars : Vars} (h : VarsOk vars) (k : List Char) {v : List Char} (hv : '$' ∉ v) :
    VarsOk (AssocList.set vars k v) := by
  intro kv hkv
  rcases List.mem_cons.mp hkv with rfl | hkv
  · exact hv
  · exact h kv (List.mem_filter.mp hkv).1

/-- A call whose substitution loop ends within `k + 1` iterations: its map
holds no escape character, and its template at most `k`. -/
def Safe (k : Nat) : PrinterCall → Prop
  | .print vars t => VarsOk vars ∧ t.toList.count '$' ≤ k
  | _ => True

/-- With enough fuel for every loop and indentation that never goes below
zero, the calls run to the end, and only write and indent. -/
theorem runAll_eq_some {k : Nat} (hfuel : k < fuel) {calls : List PrinterCall}
    (hsafe : ∀ c ∈ calls, Safe k c) {p : SmfPrinter} (hp : p.escapeChar = '$') {l : Nat}
    (hl : levels p.indentLevel calls = some l) :
    ∃ t, runAll fuel p calls = some { p with out := p.out ++ t, indentLevel := l } := by
  induction calls generalizing p with
  | nil =>
    cases hl
    exact ⟨[], by simp⟩
  | cons c cs ih =>
    have hcs : ∀ c ∈ cs, Safe k c := fun d hd => hsafe d (List.mem_cons_of_mem c hd)
    -- one call, then the rest from where it leaves the printer
    have hstep : ∀ (t₁ : List Char) (l₁ : Nat),
        run fuel p c = some { p with out := p.out ++ t₁, indentLevel := l₁ } →
        levels l₁ cs = some l →
        ∃ t, runAll fuel p (c :: cs) = some { p with out := p.out ++ t, indentLevel := l } := by
      intro t₁ l₁ hrun hl₁
      obtain ⟨t₂, ht₂⟩ := ih hcs (p := { p with out := p.out ++ t₁, indentLevel := l₁ }) hp hl₁
      refine ⟨t₁ ++ t₂, ?_⟩
      rw [runAll_cons, hrun, Option.bind_some, ht₂, List.append_assoc]
    cases c with
    | print vars t =>
      obtain ⟨hv, hk⟩ := hsafe _ List.mem_cons_self
      apply hstep _ p.indentLevel _ hl
      show p.print fuel vars t.toList = _
      rw [SmfPrinter.print_eq p (by rw [hp]; exact hv) (by rw [hp]; omega), SmfPrinter.printStr,
        List.append_assoc]
    | printText s =>
      apply hstep _ p.indentLevel _ hl
      show some (p.printStr s.toList) = _
      rw [SmfPrinter.printStr, List.append_assoc]
    | indent => exact hstep [] (p.indentLevel + 1) (by simp [run, SmfPrinter.indent]) hl
    | outdent =>
      cases hlev : p.indentLevel with
      | zero => rw [hlev] at hl; cases hl
      | succ l₁ =>
        rw [hlev] at hl
        apply hstep [] l₁ _ hl
        simp [run, SmfPrinter.outdent, hlev]

/-! ## Calls that run to the end -/

/-- The escape characters in the template of a call. -/
def dollars : PrinterCall → Nat
  | .print _ t => t.toList.count '$'
  | _ => 0

/-- The most escape characters in a template of the calls: every loop ends
with one more iteration than that. -/
def maxDollars (calls : List PrinterCall) : Nat := (calls.map dollars).foldr max 0

theorem dollars_le_maxDollars {c : PrinterCall} {calls : List PrinterCall} (h : c ∈ calls) :
    c.dollars ≤ maxDollars calls := by
  induction calls with
  | nil => exact absurd h List.not_mem_nil
  | cons d ds ih =>
    rw [maxDollars, List.map_cons, List.foldr_cons]
    rcases List.mem_cons.mp h with rfl | h
    · exact Nat.le_max_left _ _
    · exact Nat.le_trans (ih h) (Nat.le_max_right _ _)

theorem maxDollars_le {cs ds : List PrinterCall} (h : ∀ c ∈ cs, c ∈ ds) :
    maxDollars cs ≤ maxDollars ds := by
  induction cs with
  | nil => exact Nat.zero_le _
  | cons c cs ih =>
    rw [maxDollars, List.map_cons, List.foldr_cons]
    exact Nat.max_le.mpr ⟨dollars_le_maxDollars (h c List.mem_cons_self),
      ih fun d hd => h d (List.mem_cons_of_mem c hd)⟩

/-- The map of a call holds no escape character. -/
def MapOk : PrinterCall → Prop
  | .print vars _ => VarsOk vars
  | _ => True

@[simp] theorem mapOk_print {vars : Vars} {t : String} : (print vars t).MapOk ↔ VarsOk vars :=
  Iff.rfl

@[simp] theorem mapOk_printText {s : String} : (printText s).MapOk := trivial

@[simp] theorem mapOk_indent : indent.MapOk := trivial

@[simp] theorem mapOk_outdent : outdent.MapOk := trivial

/-- Calls that come back to their indentation and whose maps hold no escape
character: with enough fuel they run to the end and only write. -/
structure WellFormed (calls : List PrinterCall) : Prop where
  balanced : Balanced calls
  mapOk : ∀ c ∈ calls, c.MapOk

theorem wellFormed_nil : WellFormed [] := ⟨fun _ => rfl, fun _ h => absurd h List.not_mem_nil⟩

theorem WellFormed.print_cons {vars : Vars} (hv : VarsOk vars) (t : String) {cs : List PrinterCall}
    (h : WellFormed cs) : WellFormed (print vars t :: cs) where
  balanced l := h.balanced l
  mapOk c hc := by
    rcases List.mem_cons.mp hc with rfl | hc
    · exact hv
    · exact h.mapOk c hc

theorem WellFormed.printText_cons (s : String) {cs : List PrinterCall} (h : WellFormed cs) :
    WellFormed (printText s :: cs) where
  balanced l := h.balanced l
  mapOk c hc := by
    rcases List.mem_cons.mp hc with rfl | hc
    · trivial
    · exact h.mapOk c hc

theorem WellFormed.append {cs ds : List PrinterCall} (hc : WellFormed cs) (hd : WellFormed ds) :
    WellFormed (cs ++ ds) where
  balanced := hc.balanced.append hd.balanced
  mapOk c h := (List.mem_append.mp h).elim (hc.mapOk c) (hd.mapOk c)

/-- A block that comes back to its indentation can stand anywhere in a list
of calls. -/
theorem WellFormed.insert {pre mid post : List PrinterCall} (h : WellFormed (pre ++ post))
    (hmid : WellFormed mid) : WellFormed (pre ++ mid ++ post) where
  balanced l := by
    rw [levels_append, levels_append]
    have hl := h.balanced l
    rw [levels_append] at hl
    cases hpre : levels l pre with
    | none => rw [hpre] at hl; cases hl
    | some l' => rw [hpre, Option.bind_some] at hl; rw [Option.bind_some, hmid.balanced l', Option.bind_some, hl]
  mapOk c hc := by
    simp only [List.mem_append] at hc
    rcases hc with (hc | hc) | hc
    · exact h.mapOk c (List.mem_append_left post hc)
    · exact hmid.mapOk c hc
    · exact h.mapOk c (List.mem_append_right pre hc)

theorem WellFormed.flatMap {α : Type} {xs : List α} {f : α → List PrinterCall}
    (h : ∀ x ∈ xs, WellFormed (f x)) : WellFormed (xs.flatMap f) where
  balanced := Balanced.flatMap fun x hx => (h x hx).balanced
  mapOk c hc := by
    obtain ⟨x, hx, hc⟩ := List.mem_flatMap.mp hc
    exact (h x hx).mapOk c hc

@[simp] theorem dollars_print (vars : Vars) (t : String) : (print vars t).dollars = t.toList.count '$' :=
  rfl

/-- Well-formed calls whose templates hold at most `k` escape characters end
their loops within `k + 1` iterations. -/
theorem WellFormed.safe {calls : List PrinterCall} (h : WellFormed calls) {k : Nat}
    (hk : ∀ c ∈ calls, c.dollars ≤ k) : ∀ c ∈ calls, Safe k c := by
  intro c hc
  cases c with
  | print vars t => exact ⟨h.mapOk _ hc, hk _ hc⟩
  | _ => trivial

theorem WellFormed.runAll_eq_some {calls : List PrinterCall} (h : WellFormed calls)
    (hfuel : maxDollars calls < fuel) {p : SmfPrinter} (hp : p.escapeChar = '$') :
    ∃ t, runAll fuel p calls = some { p with out := p.out ++ t } := by
  have hsafe : ∀ c ∈ calls, Safe (maxDollars calls) c :=
    h.safe fun _ hc => dollars_le_maxDollars hc
  obtain ⟨t, ht⟩ := PrinterCall.runAll_eq_some hfuel hsafe hp (h.balanced p.indentLevel)
  exact ⟨t, ht⟩

end PrinterCall

end SmfGen
