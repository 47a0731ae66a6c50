import Mathlib

/-!
# Dispatch by a key

Two ways a program finds the code for a key.  A `switch` over constant labels
(`switchCase`): the first label equal to the key picks the target at its
index, and `default` answers nothing.  A chain of handlers
(`List.findSome?`): each is asked in turn, and the first answer is taken.

A switch whose labels are a function of its targets answers the first target
with the key as its label (`switchCase_map`); a chain of such switches answers
the first target of all of them, in the order of the chain
(`findSome_switchCase_map`).  Where the labels tell the targets apart, each
target is found by its own label (`find?_eq_some_of_nodup`).
-/

namespace Dispatch

variable {α β : Type} [BEq α]

/-- `switch (x) { case labels[0]: return targets[0]; ...; default: }`: the
first label equal to `x` picks the target at its index. -/
def switchCase (labels : List α) (targets : List β) (x : α) : Option β :=
  (labels.idxOf? x).bind fun i => targets[i]?

theorem switchCase_map (f : β → α) (l : List β) (x : α) :
    switchCase (l.map f) l x = l.find? (f · == x) := by
  induction l with
  | nil => rfl
  | cons b l ih =>
    rw [switchCase, List.map_cons, List.idxOf?_cons, List.find?_cons]
    by_cases hb : (f b == x) = true
    · rw [if_pos hb, hb]
      rfl
    · -- a later label: the index moves one target on
      rw [if_neg hb, Bool.eq_false_iff.mpr hb, Option.bind_map, ← ih]
      rfl

theorem findSome_switchCase_map (f : β → α) (ls : List (List β)) (x : α) :
    ls.findSome? (fun l => switchCase (l.map f) l x) = ls.flatten.find? (f · == x) := by
  simp only [switchCase_map, List.find?_flatten]

/-- With labels that tell the targets apart, a target is found by its own
label. -/
theorem find?_eq_some_of_nodup [LawfulBEq α] {f : β → α} {l : List β} (hl : (l.map f).Nodup) {b : β}
    (hb : b ∈ l) : l.find? (f · == f b) = some b := by
  obtain ⟨b', hfind⟩ : ∃ b', l.find? (f · == f b) = some b' :=
    Option.isSome_iff_exists.mp (List.find?_isSome.mpr ⟨b, hb, beq_self_eq_true _⟩)
  have hb' : b' ∈ l := List.mem_of_find?_eq_some hfind
  have hlabel : f b' = f b := by simpa using List.find?_some hfind
  rw [hfind, List.inj_on_of_nodup_map hl hb' hb hlabel]

end Dispatch
