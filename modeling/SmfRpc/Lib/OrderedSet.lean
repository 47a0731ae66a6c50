import Mathlib

/-!
# A set kept as an increasing list

`std::set<T>` with its default `std::less`: the elements in increasing order,
each once.  `insert` finds the place of a new element with `<` alone, and an
element that is neither less nor greater than one already there is not added.

Inserting keeps the list increasing (`pairwise_insert`) and adds exactly the
element (`mem_insert`); the set of a sequence of insertions (`ofList`) holds
the elements of the sequence, increasing and each once (`pairwise_ofList`,
`mem_ofList`).

In a list increasing in a key, the first element whose key is at or above a
bound has the least such key (`find?_le_eq_some`): a linear search of a sorted
table finds its ceiling.
-/

namespace OrderedSet

variable {α : Type} [LinearOrder α]

/-- `std::set::insert`. -/
def insert (x : α) : List α → List α
  | [] => [x]
  | y :: ys => if x < y then x :: y :: ys else if y < x then y :: insert x ys else y :: ys

/-- The set after inserting the elements of `xs` in order, from an empty set. -/
def ofList (xs : List α) : List α := xs.foldl (fun s x => insert x s) []

theorem mem_insert {x a : α} {s : List α} : a ∈ insert x s ↔ a = x ∨ a ∈ s := by
  induction s with
  | nil => simp [insert]
  | cons y ys ih =>
    unfold insert
    by_cases hxy : x < y
    · rw [if_pos hxy, List.mem_cons]
    · by_cases hyx : y < x
      · rw [if_neg hxy, if_pos hyx, List.mem_cons, ih, List.mem_cons]
        tauto
      · -- neither is less: `x` is already there
        have hx : x = y := le_antisymm (not_lt.mp hyx) (not_lt.mp hxy)
        rw [if_neg hxy, if_neg hyx, List.mem_cons, hx]
        tauto

theorem pairwise_insert (x : α) {s : List α} (h : s.Pairwise (· < ·)) :
    (insert x s).Pairwise (· < ·) := by
  induction s with
  | nil => simp [insert]
  | cons y ys ih =>
    rw [List.pairwise_cons] at h
    unfold insert
    by_cases hxy : x < y
    · rw [if_pos hxy]
      refine List.Pairwise.cons (fun a ha => ?_) (List.Pairwise.cons h.1 h.2)
      rcases List.mem_cons.mp ha with rfl | ha
      · exact hxy
      · exact lt_trans hxy (h.1 a ha)
    · by_cases hyx : y < x
      · rw [if_neg hxy, if_pos hyx]
        refine List.Pairwise.cons (fun a ha => ?_) (ih h.2)
        rcases mem_insert.mp ha with rfl | ha
        · exact hyx
        · exact h.1 a ha
      · rw [if_neg hxy, if_neg hyx]
        exact List.Pairwise.cons h.1 h.2

theorem mem_foldl_insert {a : α} (xs : List α) (s : List α) :
    a ∈ xs.foldl (fun s x => insert x s) s ↔ a ∈ xs ∨ a ∈ s := by
  induction xs generalizing s with
  | nil => simp
  | cons x xs ih =>
    rw [List.foldl_cons, ih, mem_insert, List.mem_cons]
    tauto

theorem pairwise_foldl_insert (xs : List α) {s : List α} (h : s.Pairwise (· < ·)) :
    (xs.foldl (fun s x => insert x s) s).Pairwise (· < ·) := by
  induction xs generalizing s with
  | nil => exact h
  | cons x xs ih => exact ih (pairwise_insert x h)

theorem mem_ofList {a : α} (xs : List α) : a ∈ ofList xs ↔ a ∈ xs := by
  rw [ofList, mem_foldl_insert]
  simp

theorem pairwise_ofList (xs : List α) : (ofList xs).Pairwise (· < ·) :=
  pairwise_foldl_insert xs List.Pairwise.nil

/-- In a list increasing in `key`, the first element whose key is at or above
`n` has the least such key. -/
theorem find?_le_eq_some {β : Type} (key : β → α) {l : List β}
    (hl : l.Pairwise fun a b => key a < key b) {n : α} {x : β}
    (h : l.find? (fun y => decide (n ≤ key y)) = some x) :
    n ≤ key x ∧ ∀ y ∈ l, n ≤ key y → key x ≤ key y := by
  induction l with
  | nil => cases h
  | cons y ys ih =>
    rw [List.pairwise_cons] at hl
    by_cases hy : n ≤ key y
    · -- the head answers, and every later key is above it
      rw [List.find?_cons_of_pos (by simpa using hy)] at h
      cases h
      refine ⟨hy, fun z hz _ => ?_⟩
      rcases List.mem_cons.mp hz with rfl | hz
      · exact le_rfl
      · exact (hl.1 z hz).le
    · rw [List.find?_cons_of_neg (by simpa using hy)] at h
      obtain ⟨hx, hmin⟩ := ih hl.2 h
      refine ⟨hx, fun z hz hnz => ?_⟩
      rcases List.mem_cons.mp hz with rfl | hz
      · exact absurd hnz hy
      · exact hmin z hz hnz

end OrderedSet
