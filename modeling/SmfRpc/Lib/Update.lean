import Mathlib

/-!
# Updating one entry of a list

A state that keeps one record per task in a list changes a task with `set` or
`modify` at its index, and adds a task with an append.  What such an update
does to a weight summed over the list (`sum_map_set`, `sum_map_modify`,
`sum_map_indicator` for a count), to a
property of every entry (`forall_mem_set`, `forall_mem_modify`), and where an
entry read after it was before (`getElem?_of_set_eq_some`,
`getElem?_of_append_eq_some`).
-/

namespace Update

variable {α G : Type} [AddCommGroup G]

/-- Setting the entry `a` at index `i` to `b` trades its weight for `b`'s. -/
theorem sum_map_set (g : α → G) {l : List α} {i : Nat} {a : α} (h : l[i]? = some a) (b : α) :
    ((l.set i b).map g).sum = (l.map g).sum - g a + g b := by
  induction l generalizing i with
  | nil => cases h
  | cons x l ih =>
    cases i with
    | zero =>
      cases h
      simp only [List.set_cons_zero, List.map_cons, List.sum_cons]
      abel
    | succ i =>
      simp only [List.set_cons_succ, List.map_cons, List.sum_cons, ih h]
      abel

/-- Modifying the entry `a` at index `i` trades its weight for that of `f a`. -/
theorem sum_map_modify (g : α → G) {l : List α} {i : Nat} {a : α} (h : l[i]? = some a)
    (f : α → α) : ((l.modify i f).map g).sum = (l.map g).sum - g a + g (f a) := by
  induction l generalizing i with
  | nil => cases h
  | cons x l ih =>
    cases i with
    | zero =>
      cases h
      simp only [List.modify_zero_cons, List.map_cons, List.sum_cons]
      abel
    | succ i =>
      simp only [List.modify_succ_cons, List.map_cons, List.sum_cons, ih h]
      abel

theorem forall_mem_set {P : α → Prop} {l : List α} (h : ∀ a ∈ l, P a) {b : α} (hb : P b) (i : Nat) :
    ∀ a ∈ l.set i b, P a :=
  fun a ha => (List.mem_or_eq_of_mem_set ha).elim (h a) fun e => e ▸ hb

theorem forall_mem_modify {P : α → Prop} {f : α → α} (hf : ∀ a, P a → P (f a)) {l : List α}
    (h : ∀ a ∈ l, P a) (i : Nat) : ∀ a ∈ l.modify i f, P a := by
  induction l generalizing i with
  | nil => simp
  | cons x l ih =>
    rw [List.forall_mem_cons] at h
    cases i with
    | zero =>
      rw [List.modify_zero_cons, List.forall_mem_cons]
      exact ⟨hf x h.1, h.2⟩
    | succ i =>
      rw [List.modify_succ_cons, List.forall_mem_cons]
      exact ⟨h.1, ih h.2 i⟩

/-- A weight of one on the entries that satisfy `p`, and of zero on the
others, sums to their count. -/
theorem sum_map_indicator (p : α → Bool) (l : List α) :
    (l.map fun a => if p a = true then (1 : Int) else 0).sum = l.countP p := by
  induction l with
  | nil => rfl
  | cons a l ih =>
    rw [List.map_cons, List.sum_cons, ih, List.countP_cons]
    split <;> simp [add_comm]

/-- An entry read after a `set` that is not the value written is at another
index, and was there before. -/
theorem getElem?_of_set_eq_some {l : List α} {k i : Nat} {a b : α}
    (h : (l.set k b)[i]? = some a) (hab : a ≠ b) : k ≠ i ∧ l[i]? = some a := by
  by_cases hki : k = i
  · subst hki
    rw [List.getElem?_set_self'] at h
    obtain ⟨_, -, hb⟩ := Option.map_eq_some_iff.mp h
    exact absurd hb.symm hab
  · rw [List.getElem?_set_ne hki] at h
    exact ⟨hki, h⟩

/-- An entry read after appending `x` was there before, or is `x` at the old length. -/
theorem getElem?_of_append_eq_some {l : List α} {x a : α} {i : Nat}
    (h : (l ++ [x])[i]? = some a) : l[i]? = some a ∨ i = l.length ∧ a = x := by
  rcases Nat.lt_trichotomy i l.length with hi | rfl | hi
  · rw [List.getElem?_append_left hi] at h
    exact .inl h
  · rw [List.getElem?_concat_length] at h
    exact .inr ⟨rfl, (Option.some.inj h).symm⟩
  · rw [List.getElem?_eq_none (by simp; omega)] at h
    cases h

/-- Appending keeps every entry that was there. -/
theorem getElem?_append_of_eq_some {l : List α} {i : Nat} {a : α} (h : l[i]? = some a)
    (m : List α) : (l ++ m)[i]? = some a := by
  rw [List.getElem?_append_left (List.getElem?_eq_some_iff.mp h).1, h]

end Update
