import Mathlib

/-!
# A hash map as an association list

A map from keys to values kept as a list of pairs, with the operations of a
hash map whose `insert` keeps the entry already stored under a key.  Only the
order of the pairs is not the map's own; nothing here depends on it.

* `insertIfAbsent m k v` adds `(k, v)` unless `k` is a key of `m`; it keeps
  the keys duplicate-free (`nodup_keys_insertIfAbsent`) and never changes a
  lookup that already succeeds (`lookup_insertIfAbsent_of_mem`).
* `eraseKey m k` drops the entry of `k`; with duplicate-free keys the entries
  left are exactly those of the other keys (`mem_eraseKey`).
* `set m k v` is the assignment `m[k] = v` of an ordered map: `k` then finds
  `v`, and every other key what it found before (`lookup_set`).
-/

namespace AssocList

variable {κ ν : Type} [DecidableEq κ]

/-- The keys, in the order of the entries. -/
def keys (m : List (κ × ν)) : List κ := m.map (·.1)

/-- Store `(k, v)` unless `k` is a key already. -/
def insertIfAbsent (m : List (κ × ν)) (k : κ) (v : ν) : List (κ × ν) :=
  if k ∈ keys m then m else m ++ [(k, v)]

/-- Drop the entry of `k`. -/
def eraseKey (m : List (κ × ν)) (k : κ) : List (κ × ν) := m.eraseP (·.1 == k)

/-- Store `v` under `k` in place of what `k` held. -/
def set (m : List (κ × ν)) (k : κ) (v : ν) : List (κ × ν) := (k, v) :: m.filter (·.1 ≠ k)

theorem insertIfAbsent_of_mem {m : List (κ × ν)} {k : κ} (h : k ∈ keys m) (v : ν) :
    insertIfAbsent m k v = m := if_pos h

theorem insertIfAbsent_of_not_mem {m : List (κ × ν)} {k : κ} (h : k ∉ keys m) (v : ν) :
    insertIfAbsent m k v = m ++ [(k, v)] := if_neg h

theorem mem_insertIfAbsent {m : List (κ × ν)} {k : κ} {v : ν} {p : κ × ν}
    (h : p ∈ insertIfAbsent m k v) : p ∈ m ∨ p = (k, v) := by
  unfold insertIfAbsent at h
  split at h
  · exact Or.inl h
  · simpa using h

theorem mem_keys_insertIfAbsent {m : List (κ × ν)} {k : κ} (h : k ∈ keys m) (k' : κ) (v : ν) :
    k ∈ keys (insertIfAbsent m k' v) := by
  unfold insertIfAbsent
  split
  · exact h
  · simp only [keys, List.map_append, List.mem_append]
    exact Or.inl h

theorem nodup_keys_insertIfAbsent {m : List (κ × ν)} (h : (keys m).Nodup) (k : κ) (v : ν) :
    (keys (insertIfAbsent m k v)).Nodup := by
  unfold insertIfAbsent
  split
  · exact h
  · rename_i hk
    rw [keys, List.map_append, List.nodup_append]
    refine ⟨h, List.nodup_singleton _, ?_⟩
    intro a ha b hb hab
    rw [List.map_singleton, List.mem_singleton] at hb
    subst hab hb
    exact hk ha

theorem lookup_ne_none_of_mem {m : List (κ × ν)} {k : κ} (hk : k ∈ keys m) :
    m.lookup k ≠ none := by
  obtain ⟨⟨k₀, v₀⟩, hmem, rfl⟩ := List.mem_map.mp hk
  intro hnone
  have := List.lookup_eq_none_iff.mp hnone _ hmem
  simp at this

/-- A lookup that succeeds is not changed by an insertion. -/
theorem lookup_insertIfAbsent_of_mem {m : List (κ × ν)} {k : κ} (hk : k ∈ keys m)
    (k' : κ) (v : ν) : (insertIfAbsent m k' v).lookup k = m.lookup k := by
  by_cases hk' : k' ∈ keys m
  · rw [insertIfAbsent_of_mem hk']
  · rw [insertIfAbsent_of_not_mem hk', List.lookup_append]
    obtain ⟨v₀, hv₀⟩ := Option.ne_none_iff_exists'.mp (lookup_ne_none_of_mem hk)
    rw [hv₀, Option.some_or]

omit [DecidableEq κ] in
theorem mem_of_lookup_eq_some [BEq κ] [LawfulBEq κ] {m : List (κ × ν)} {k : κ} {v : ν}
    (h : m.lookup k = some v) : (k, v) ∈ m := by
  obtain ⟨l₁, l₂, rfl, _⟩ := List.lookup_eq_some_iff.mp h
  simp

theorem eraseKey_sublist (m : List (κ × ν)) (k : κ) : (eraseKey m k).Sublist m :=
  List.eraseP_sublist

/-- With duplicate-free keys, erasing `k` leaves the entries of the other
keys. -/
theorem mem_eraseKey {m : List (κ × ν)} (h : (keys m).Nodup) (k : κ) (p : κ × ν) :
    p ∈ eraseKey m k ↔ p ∈ m ∧ p.1 ≠ k := by
  constructor
  · intro hp
    refine ⟨(eraseKey_sublist m k).subset hp, ?_⟩
    rintro rfl
    have hm : p ∈ m := (eraseKey_sublist m p.1).subset hp
    -- the erased entry is the first of key `p.1`; `p` is then a second one
    obtain ⟨a, l₁, l₂, hl₁, ha, rfl, he⟩ :=
      List.exists_of_eraseP (p := (·.1 == p.1)) hm (by simp)
    unfold eraseKey at hp
    rw [he, List.mem_append] at hp
    have ha' : a.1 = p.1 := by simpa using ha
    rcases hp with hp | hp
    · exact hl₁ p hp (by simp)
    · have hnd : a.1 ∉ keys l₂ := by
        simp only [keys, List.map_append, List.map_cons] at h
        exact (List.nodup_cons.mp (List.nodup_append.mp h).2.1).1
      exact hnd (ha' ▸ List.mem_map_of_mem hp)
  · rintro ⟨hp, hk⟩
    exact (List.mem_eraseP_of_neg (by simpa using hk)).mpr hp

theorem nodup_keys_eraseKey {m : List (κ × ν)} (h : (keys m).Nodup) (k : κ) :
    (keys (eraseKey m k)).Nodup :=
  ((eraseKey_sublist m k).map _).nodup h

theorem lookup_filter_ne [BEq κ] [LawfulBEq κ] (m : List (κ × ν)) {k k' : κ} (h : k' ≠ k) :
    (m.filter (·.1 ≠ k)).lookup k' = m.lookup k' := by
  induction m with
  | nil => rfl
  | cons p m ih =>
    obtain ⟨a, b⟩ := p
    by_cases ha : a = k
    · -- the entry of `k` is dropped, and `k'` does not find it
      have hd : decide (a ≠ k) = false := by simp [ha]
      have hk : (k' == a) = false := by simpa [ha] using h
      rw [List.filter_cons, hd, if_neg Bool.false_ne_true, ih]
      simp only [List.lookup, hk]
    · have hd : decide (a ≠ k) = true := by simp [ha]
      rw [List.filter_cons, hd, if_pos rfl]
      cases hk : k' == a <;> simp only [List.lookup, hk, ih]

@[simp] theorem lookup_set [BEq κ] [LawfulBEq κ] (m : List (κ × ν)) (k k' : κ) (v : ν) :
    (set m k v).lookup k' = if k' = k then some v else m.lookup k' := by
  by_cases h : k' = k
  · simp [set, h]
  · have hk : (k' == k) = false := by simpa using h
    rw [if_neg h, set, ← lookup_filter_ne m h]
    simp only [List.lookup, hk]

end AssocList
