import SmfRpc.Metrics.Histogram

/-!
# `histogram::seastar_histogram_logform`

`src/core/histogram.cc`: the export of a histogram to Prometheus, as 26
buckets whose bounds double from 10.  A logarithmic iterator of
HdrHistogram_c reports the levels up to the largest recorded value; a first
loop copies them into the buckets, and a second fills the buckets it did not
reach with the count where the iteration stopped and the next levels.

The iterator is the library's (`HdrApi.hdrIterNext`).  `LogIterLawful` is what
the export relies on of it: started with nothing counted, its `k`-th call that
answers `true` reports the level `10 * 2 ^ k` and the samples counted up to
there, and the call that answers `false` leaves the level where it was.

`fillBuckets_eq` and `padBuckets_eq` give the two loops in closed form, over
the three ways the first loop ends: at once (an empty histogram), after
fewer than 26 levels, or with every bucket filled, where `hdr_iter_next` has
run a 27th time before the index check.  `logform_fixed_buckets` reads the
layout off them.
-/

namespace Smf

variable {σ ρ : Type}

/-- `seastar::metrics::histogram_bucket`.  `upper_bound` is a `double`: every
bound the export writes is an `int64_t` below `2 ^ 53`, which a `double`
holds exactly, so the model keeps the integer. -/
structure HistogramBucket where
  count : UInt64 := 0
  upperBound : Int64 := 0
  deriving DecidableEq, Repr

/-- `seastar::metrics::histogram`, without its `sample_sum`, a `double` that
nothing modelled reads. -/
structure MetricsHistogram where
  sampleCount : UInt64
  buckets : List HistogramBucket
  deriving DecidableEq, Repr

/-- `num_buckets`. -/
def numBuckets : Nat := 26

/-- `first_value`. -/
def firstValue : Int64 := 10

/-- `static_cast<int64_t>(log->log_base)`: `hdr_iter_log_init` stores the
`log_base` it is given, `2.0`, and no call changes it. -/
def logBase : Int64 := 2

/-- `bucket.count = iter.cumulative_count; bucket.upper_bound =
iter.value_iterated_to;` -/
def HdrIter.bucket (iter : HdrIter ρ) : HistogramBucket :=
  ⟨iter.cumulativeCount.toUInt64, iter.valueIteratedTo⟩

/-- The first `for` loop, from `bucket_idx = idx`: `hdr_iter_next` runs before
the index check, so its last call can find the buckets full.  `fuel` bounds the
iterations; one more than the number of buckets is enough. -/
def fillBuckets (next : HdrIter ρ → Bool × HdrIter ρ) :
    Nat → Nat → HdrIter ρ → List HistogramBucket → Nat × HdrIter ρ × List HistogramBucket
  | 0, idx, iter, buckets => (idx, iter, buckets)
  | fuel + 1, idx, iter, buckets =>
    let r := next iter
    if r.1 && decide (idx < buckets.length) then
      fillBuckets next fuel (idx + 1) r.2 (buckets.set idx r.2.bucket)
    else (idx, r.2, buckets)

/-- The second `for` loop, from `bucket_idx = idx`, doubling the iterator's
level after each bucket. -/
def padBuckets : Nat → Nat → HdrIter ρ → List HistogramBucket → List HistogramBucket
  | 0, _, _, buckets => buckets
  | fuel + 1, idx, iter, buckets =>
    if idx < buckets.length then
      padBuckets fuel (idx + 1) { iter with valueIteratedTo := iter.valueIteratedTo * logBase }
        (buckets.set idx iter.bucket)
    else buckets

/-- Between the loops: an empty histogram gets the first level, and a
partially filled one the level after the last it reported. -/
def seedLevel (idx : Nat) (size : Nat) (iter : HdrIter ρ) : HdrIter ρ :=
  if idx = 0 then { iter with valueIteratedTo := firstValue }
  else if idx < size then { iter with valueIteratedTo := iter.valueIteratedTo * logBase }
  else iter

/-- `histogram::seastar_histogram_logform()`. -/
def Histogram.seastarHistogramLogform (api : HdrApi σ ρ) (h : Histogram σ) : MetricsHistogram :=
  let buckets : List HistogramBucket := List.replicate numBuckets {}
  match fillBuckets api.hdrIterNext (buckets.length + 1) 0
      (api.hdrIterLogInit h.hist firstValue) buckets with
  | (idx, iter, buckets) =>
    { sampleCount := h.sampleCount
      buckets := padBuckets buckets.length idx (seedLevel idx buckets.length iter) buckets }

/-! ## The iterator's levels -/

/-- The iterator after `k` calls of `hdr_iter_next` that answered `true`, from
`hdr_iter_log_init(&iter, hist, first_value, 2.0)`. -/
def HdrApi.iterAfter (api : HdrApi σ ρ) (hist : σ) : Nat → Option (HdrIter ρ)
  | 0 => some (api.hdrIterLogInit hist firstValue)
  | k + 1 => (api.iterAfter hist k).bind fun iter =>
    match api.hdrIterNext iter with
    | (true, iter') => some iter'
    | (false, _) => none

/-- What `seastar_histogram_logform` relies on of HdrHistogram_c's logarithmic
iterator over `hist`, started at `first_value` with base `2.0`. -/
structure HdrApi.LogIterLawful (api : HdrApi σ ρ) (hist : σ) : Prop where
  /-- `hdr_iter_log_init` starts with nothing counted. -/
  cumulativeCount_init : (api.hdrIterLogInit hist firstValue).cumulativeCount = 0
  /-- The `k`-th call that answers `true` reports the level `10 * 2 ^ k`, and
  counts on, up to the total count. -/
  next_true : ∀ k iter iter', api.iterAfter hist k = some iter →
    api.hdrIterNext iter = (true, iter') →
    iter'.valueIteratedTo = firstValue * 2 ^ k ∧ iter.cumulativeCount ≤ iter'.cumulativeCount ∧
      iter'.cumulativeCount ≤ api.totalCount hist
  /-- The call that answers `false` leaves the level where it was, and counts
  on, up to the total count. -/
  next_false : ∀ k iter iter', api.iterAfter hist k = some iter →
    api.hdrIterNext iter = (false, iter') →
    iter'.valueIteratedTo = iter.valueIteratedTo ∧ iter.cumulativeCount ≤ iter'.cumulativeCount ∧
      iter'.cumulativeCount ≤ api.totalCount hist

namespace HdrApi

variable {api : HdrApi σ ρ} {hist : σ}

theorem iterAfter_succ_of_next {k : Nat} {iter iter' : HdrIter ρ}
    (h : api.iterAfter hist k = some iter) (hn : api.hdrIterNext iter = (true, iter')) :
    api.iterAfter hist (k + 1) = some iter' := by
  rw [iterAfter, h, Option.bind_some, hn]

theorem iterAfter_succ_of_next_false {k : Nat} {iter : HdrIter ρ}
    (h : api.iterAfter hist k = some iter) (hn : (api.hdrIterNext iter).1 = false) :
    api.iterAfter hist (k + 1) = none := by
  rw [iterAfter, h, Option.bind_some]
  rcases hnx : api.hdrIterNext iter with ⟨_ | _, iter'⟩
  · rfl
  · rw [hnx] at hn
    cases hn

/-- A state after `k + 1` answers `true` is the answer of one after `k`. -/
theorem iterAfter_succ_eq_some {k : Nat} {iter' : HdrIter ρ}
    (h : api.iterAfter hist (k + 1) = some iter') :
    ∃ iter, api.iterAfter hist k = some iter ∧ api.hdrIterNext iter = (true, iter') := by
  rw [iterAfter, Option.bind_eq_some_iff] at h
  obtain ⟨iter, hk, hn⟩ := h
  refine ⟨iter, hk, ?_⟩
  revert hn
  obtain ⟨more, iter''⟩ := api.hdrIterNext iter
  cases more with
  | false => intro hn; cases hn
  | true => intro hn; cases hn; rfl

theorem iterAfter_eq_none_of_le {k k' : Nat} (h : api.iterAfter hist k = none) (hk : k ≤ k') :
    api.iterAfter hist k' = none := by
  induction k', hk using Nat.le_induction with
  | base => exact h
  | succ k' _ ih => rw [iterAfter, ih, Option.bind_none]

/-- Every state before one the iterator reached was reached too. -/
theorem iterAfter_some_of_le {k k' : Nat} {iter' : HdrIter ρ}
    (h : api.iterAfter hist k' = some iter') (hk : k ≤ k') : ∃ iter, api.iterAfter hist k = some iter := by
  cases hk' : api.iterAfter hist k with
  | none =>
    rw [iterAfter_eq_none_of_le hk' hk] at h
    cases h
  | some iter => exact ⟨iter, rfl⟩

namespace LogIterLawful

variable (hl : api.LogIterLawful hist)
include hl

/-- The `k + 1`-th state reports the level `10 * 2 ^ k`. -/
theorem level {k : Nat} {iter' : HdrIter ρ} (h : api.iterAfter hist (k + 1) = some iter') :
    iter'.valueIteratedTo = firstValue * 2 ^ k := by
  obtain ⟨iter, hk, hn⟩ := iterAfter_succ_eq_some h
  exact (hl.next_true k iter iter' hk hn).1

theorem count_le_total {k : Nat} {iter' : HdrIter ρ} (h : api.iterAfter hist (k + 1) = some iter') :
    iter'.cumulativeCount ≤ api.totalCount hist := by
  obtain ⟨iter, hk, hn⟩ := iterAfter_succ_eq_some h
  exact (hl.next_true k iter iter' hk hn).2.2

/-- The count only grows along the iteration. -/
theorem count_mono {k k' : Nat} {iter iter' : HdrIter ρ} (h : api.iterAfter hist k = some iter)
    (h' : api.iterAfter hist k' = some iter') (hk : k ≤ k') :
    iter.cumulativeCount ≤ iter'.cumulativeCount := by
  induction k', hk using Nat.le_induction generalizing iter' with
  | base =>
    rw [h] at h'
    cases h'
    exact Int64.le_refl _
  | succ k' _ ih =>
    obtain ⟨mid, hmid, hn⟩ := iterAfter_succ_eq_some h'
    exact Int64.le_trans (ih hmid) (hl.next_true k' mid iter' hmid hn).2.1

theorem count_nonneg {k : Nat} {iter : HdrIter ρ} (h : api.iterAfter hist k = some iter) :
    0 ≤ iter.cumulativeCount := by
  have h0 := hl.count_mono rfl h (Nat.zero_le k)
  rwa [hl.cumulativeCount_init] at h0

end LogIterLawful

end HdrApi

/-! ## The two loops in closed form -/

/-- Writing the first of the default entries after a prefix of length `i`. -/
theorem set_append_replicate {α : Type} {A : List α} {i : Nat} (hA : A.length = i) (d x : α)
    (n : Nat) : (A ++ List.replicate (n + 1) d).set i x = (A ++ [x]) ++ List.replicate n d := by
  subst hA
  rw [List.set_append_right _ _ (Nat.le_refl _), Nat.sub_self, List.replicate_succ,
    List.set_cons_zero, List.append_assoc, List.singleton_append]

/-- The bucket the first loop fills from the `i + 1`-th state of the
iterator. -/
def levelBucket (api : HdrApi σ ρ) (hist : σ) (i : Nat) : HistogramBucket :=
  ((api.iterAfter hist (i + 1)).map HdrIter.bucket).getD {}

/-- The first loop from bucket `idx`, with the buckets before it filled:
it ends at some `K` from `idx` to `26`, with the buckets before `K` filled
from the iterator's levels and the rest untouched, at the iterator after one
more call of `hdr_iter_next`, which answered `false` if `K < 26`. -/
theorem fillBuckets_eq (api : HdrApi σ ρ) (hist : σ) :
    ∀ (fuel idx : Nat) (iter : HdrIter ρ), api.iterAfter hist idx = some iter →
      idx ≤ numBuckets → numBuckets - idx < fuel →
      ∃ K itK, idx ≤ K ∧ K ≤ numBuckets ∧ api.iterAfter hist K = some itK ∧
        (K < numBuckets → (api.hdrIterNext itK).1 = false) ∧
        fillBuckets api.hdrIterNext fuel idx iter
            ((List.range idx).map (levelBucket api hist) ++ List.replicate (numBuckets - idx) ({} : HistogramBucket)) =
          (K, (api.hdrIterNext itK).2,
            (List.range K).map (levelBucket api hist) ++ List.replicate (numBuckets - K) ({} : HistogramBucket)) := by
  intro fuel
  induction fuel with
  | zero =>
    intro idx iter _ _ hfuel
    omega
  | succ fuel ih =>
    intro idx iter hiter hidx hfuel
    have hlen : ((List.range idx).map (levelBucket api hist) ++
        List.replicate (numBuckets - idx) ({} : HistogramBucket)).length = numBuckets := by
      simp only [List.length_append, List.length_map, List.length_range, List.length_replicate]
      omega
    rcases hn : api.hdrIterNext iter with ⟨more, iter'⟩
    by_cases hc : more = true ∧ idx < numBuckets
    · -- the call answered `true` below `26`: one more bucket is filled
      obtain ⟨rfl, hlt⟩ := hc
      have hnext := HdrApi.iterAfter_succ_of_next hiter hn
      have hset : ((List.range idx).map (levelBucket api hist) ++
          List.replicate (numBuckets - idx) ({} : HistogramBucket)).set idx iter'.bucket =
            (List.range (idx + 1)).map (levelBucket api hist) ++
              List.replicate (numBuckets - (idx + 1)) ({} : HistogramBucket) := by
        obtain ⟨n, hnb⟩ : ∃ n, numBuckets - idx = n + 1 := ⟨numBuckets - idx - 1, by omega⟩
        have hbucket : levelBucket api hist idx = iter'.bucket := by
          rw [levelBucket, hnext, Option.map_some, Option.getD_some]
        rw [hnb, set_append_replicate (by simp) _ _ n, List.range_succ, List.map_append,
          List.map_singleton, hbucket]
        congr 2
        omega
      obtain ⟨K, itK, hK, hKN, hitK, hfalse, hfill⟩ := ih (idx + 1) iter' hnext (by omega) (by omega)
      refine ⟨K, itK, by omega, hKN, hitK, hfalse, ?_⟩
      rw [fillBuckets, hlen, hn]
      simp only [Bool.true_and, decide_eq_true hlt, if_true]
      rw [hset, hfill]
    · -- the loop ends here
      refine ⟨idx, iter, Nat.le_refl _, hidx, hiter, fun hlt => ?_, ?_⟩
      · rw [hn]
        cases more with
        | false => rfl
        | true => exact absurd ⟨rfl, hlt⟩ hc
      · rw [fillBuckets, hlen, hn]
        simp only
        rw [if_neg (by simpa using hc)]

theorem mul_pow_add (v b : Int64) (k j : Nat) : v * b ^ k * b ^ j = v * b ^ (k + j) := by
  induction j with
  | zero => rw [Int64.pow_zero, Int64.mul_one, Nat.add_zero]
  | succ j ih => rw [← Nat.add_assoc, Int64.pow_succ, Int64.pow_succ, ← Int64.mul_assoc, ih, Int64.mul_assoc]

/-- The second loop from bucket `idx`, with the buckets before it filled: the
`n` buckets left get the iterator's count, and its level doubled at each
step. -/
theorem padBuckets_eq (c : Int64) (p : ρ) :
    ∀ (n fuel idx : Nat) (v : Int64) (A : List HistogramBucket), A.length = idx → n ≤ fuel →
      padBuckets fuel idx ⟨v, c, p⟩ (A ++ List.replicate n ({} : HistogramBucket)) =
        A ++ (List.range n).map fun j => ⟨c.toUInt64, v * logBase ^ j⟩ := by
  intro n
  induction n with
  | zero =>
    intro fuel idx v A hA _
    rw [List.replicate_zero, List.append_nil, List.range_zero, List.map_nil, List.append_nil]
    cases fuel with
    | zero => rfl
    | succ fuel => rw [padBuckets, if_neg (by omega)]
  | succ n ih =>
    intro fuel idx v A hA hfuel
    obtain ⟨fuel, rfl⟩ : ∃ f, fuel = f + 1 := ⟨fuel - 1, by omega⟩
    have hlt : idx < (A ++ List.replicate (n + 1) ({} : HistogramBucket)).length := by
      simp only [List.length_append, List.length_replicate]
      omega
    rw [padBuckets, if_pos hlt, set_append_replicate hA]
    rw [ih fuel (idx + 1) (v * logBase) _ (by simp [hA]) (by omega), List.range_succ_eq_map,
      List.map_cons, List.map_map, List.append_assoc, List.singleton_append]
    simp only [Function.comp_def, Nat.succ_eq_add_one, Int64.pow_zero, Int64.mul_one]
    congr 3
    funext j
    rw [← Nat.add_comm 1 j, ← mul_pow_add, Int64.pow_succ, Int64.pow_zero, Int64.one_mul]

/-! ## The buckets -/

/-- The export through the two closed forms: the first loop ends at some `K`,
and the second pads from there. -/
theorem seastarHistogramLogform_buckets_eq (api : HdrApi σ ρ) (h : Histogram σ) :
    ∃ K itK, K ≤ numBuckets ∧ api.iterAfter h.hist K = some itK ∧
      (K < numBuckets → (api.hdrIterNext itK).1 = false) ∧
      (h.seastarHistogramLogform api).buckets =
        padBuckets numBuckets K (seedLevel K numBuckets (api.hdrIterNext itK).2)
          ((List.range K).map (levelBucket api h.hist) ++
            List.replicate (numBuckets - K) ({} : HistogramBucket)) := by
  obtain ⟨K, itK, -, hKN, hitK, hfalse, hfill⟩ :=
    fillBuckets_eq api h.hist (numBuckets + 1) 0 _ rfl (Nat.zero_le _) (by omega)
  rw [List.range_zero, List.map_nil, List.nil_append, Nat.sub_zero] at hfill
  have hlen : ((List.range K).map (levelBucket api h.hist) ++
      List.replicate (numBuckets - K) ({} : HistogramBucket)).length = numBuckets := by
    simp only [List.length_append, List.length_map, List.length_range, List.length_replicate]
    omega
  refine ⟨K, itK, hKN, hitK, hfalse, ?_⟩
  rw [Histogram.seastarHistogramLogform]
  simp only [List.length_replicate, hfill, hlen]

/-- The count the export gives bucket `i` once the first loop stopped at `K`
on `itK`: that of the `i + 1`-th state below `K`, that of the last call from
`K` on. -/
def ladderCount (api : HdrApi σ ρ) (hist : σ) (K : Nat) (itK : HdrIter ρ) (i : Nat) : Int64 :=
  if i < K then ((api.iterAfter hist (i + 1)).map HdrIter.cumulativeCount).getD 0
  else (api.hdrIterNext itK).2.cumulativeCount

theorem ladderCount_of_lt {api : HdrApi σ ρ} {hist : σ} {K i : Nat} {itK : HdrIter ρ}
    (hitK : api.iterAfter hist K = some itK) (hi : i < K) :
    ∃ iter, api.iterAfter hist (i + 1) = some iter ∧
      ladderCount api hist K itK i = iter.cumulativeCount := by
  obtain ⟨iter, hiter⟩ := HdrApi.iterAfter_some_of_le hitK hi
  refine ⟨iter, hiter, ?_⟩
  rw [ladderCount, if_pos hi, hiter, Option.map_some, Option.getD_some]

theorem ladderCount_of_le {api : HdrApi σ ρ} {hist : σ} {K i : Nat} (itK : HdrIter ρ)
    (hi : K ≤ i) : ladderCount api hist K itK i = (api.hdrIterNext itK).2.cumulativeCount :=
  if_neg (Nat.not_lt.mpr hi)

section Lawful

variable {api : HdrApi σ ρ} {hist : σ} (hl : api.LogIterLawful hist)
include hl

/-- A bucket of the first loop holds the count and the level of its state. -/
theorem levelBucket_eq {i K : Nat} {itK : HdrIter ρ} (hitK : api.iterAfter hist K = some itK)
    (hi : i < K) :
    ∃ iter, api.iterAfter hist (i + 1) = some iter ∧
      levelBucket api hist i = ⟨iter.cumulativeCount.toUInt64, firstValue * 2 ^ i⟩ := by
  obtain ⟨iter, hiter⟩ := HdrApi.iterAfter_some_of_le hitK hi
  refine ⟨iter, hiter, ?_⟩
  rw [levelBucket, hiter, Option.map_some, Option.getD_some, HdrIter.bucket, hl.level hiter]

/-- The padding starts at the level after the last one reported, `10 * 2 ^ K`,
with the count where the iteration stopped. -/
theorem seedLevel_eq {K : Nat} {itK : HdrIter ρ} (hitK : api.iterAfter hist K = some itK)
    (hfalse : (api.hdrIterNext itK).1 = false) (hK : K < numBuckets) :
    seedLevel K numBuckets (api.hdrIterNext itK).2 =
      ⟨firstValue * 2 ^ K, (api.hdrIterNext itK).2.cumulativeCount, (api.hdrIterNext itK).2.pos⟩ := by
  cases K with
  | zero =>
    -- an empty histogram: the level is seeded
    rw [seedLevel, if_pos rfl, Int64.pow_zero, Int64.mul_one]
  | succ k =>
    -- the last call left the level where the one before had put it
    have hn : api.hdrIterNext itK = (false, (api.hdrIterNext itK).2) := Prod.ext hfalse rfl
    have hv := (hl.next_false (k + 1) itK _ hitK hn).1
    rw [seedLevel, if_neg (Nat.succ_ne_zero k), if_pos hK, hv, hl.level hitK, Int64.pow_succ,
      Int64.mul_assoc]
    rfl

/-- Where the first loop stopped short of the buckets, its last call
answered `false` and counted on from `itK`, up to the total. -/
theorem next_cumulativeCount_bounds {K : Nat} {itK : HdrIter ρ}
    (hitK : api.iterAfter hist K = some itK) (hfalse : (api.hdrIterNext itK).1 = false) :
    itK.cumulativeCount ≤ (api.hdrIterNext itK).2.cumulativeCount ∧
      (api.hdrIterNext itK).2.cumulativeCount ≤ api.totalCount hist :=
  (hl.next_false K itK _ hitK (Prod.ext hfalse rfl)).2

/-- The counts grow along the buckets. -/
theorem ladderCount_mono {K : Nat} {itK : HdrIter ρ} (hitK : api.iterAfter hist K = some itK)
    (hfalse : K < numBuckets → (api.hdrIterNext itK).1 = false) {i j : Nat} (hij : i ≤ j)
    (hj : j < numBuckets) : ladderCount api hist K itK i ≤ ladderCount api hist K itK j := by
  by_cases hjK : j < K
  · obtain ⟨iti, hiti, hci⟩ := ladderCount_of_lt hitK (Nat.lt_of_le_of_lt hij hjK)
    obtain ⟨itj, hitj, hcj⟩ := ladderCount_of_lt hitK hjK
    rw [hci, hcj]
    exact hl.count_mono hiti hitj (by omega)
  · rw [ladderCount_of_le itK (by omega : K ≤ j)]
    by_cases hiK : i < K
    · -- below `K` a state's count, then the last call's
      obtain ⟨iti, hiti, hci⟩ := ladderCount_of_lt hitK hiK
      rw [hci]
      exact Int64.le_trans (hl.count_mono hiti hitK (by omega))
        (next_cumulativeCount_bounds hl hitK (hfalse (by omega))).1
    · rw [ladderCount_of_le itK (by omega : K ≤ i)]
      exact Int64.le_refl _

/-- Every count lies between zero and the hdr total count. -/
theorem ladderCount_bounds {K : Nat} {itK : HdrIter ρ} (hitK : api.iterAfter hist K = some itK)
    (hfalse : K < numBuckets → (api.hdrIterNext itK).1 = false) {i : Nat}
    (hi : i < numBuckets) :
    0 ≤ ladderCount api hist K itK i ∧ ladderCount api hist K itK i ≤ api.totalCount hist := by
  by_cases hiK : i < K
  · obtain ⟨iti, hiti, hci⟩ := ladderCount_of_lt hitK hiK
    rw [hci]
    exact ⟨hl.count_nonneg hiti, hl.count_le_total hiti⟩
  · have hnext := next_cumulativeCount_bounds hl hitK (hfalse (by omega))
    rw [ladderCount_of_le itK (by omega : K ≤ i)]
    exact ⟨Int64.le_trans (hl.count_nonneg hitK) hnext.1, hnext.2⟩

/-- The buckets of the first loop, as the ladder has them. -/
theorem map_levelBucket_eq {K : Nat} {itK : HdrIter ρ} (hitK : api.iterAfter hist K = some itK) :
    (List.range K).map (levelBucket api hist) =
      (List.range K).map fun i => ⟨(ladderCount api hist K itK i).toUInt64, firstValue * 2 ^ i⟩ := by
  apply List.map_congr_left
  intro i hi
  have hi := List.mem_range.mp hi
  obtain ⟨iter, hiter, hb⟩ := levelBucket_eq hl hitK hi
  obtain ⟨iter', hiter', hc⟩ := ladderCount_of_lt hitK hi
  rw [hiter] at hiter'
  cases hiter'
  rw [hb, hc]

end Lawful

/-- The export is the ladder of levels `10 * 2 ^ i`, whatever was recorded,
with counts that grow along it and stay within the hdr total count. -/
theorem seastarHistogramLogform_ladder (api : HdrApi σ ρ) (h : Histogram σ)
    (hl : api.LogIterLawful h.hist) :
    ∃ count : Nat → Int64, (∀ i j, i ≤ j → j < numBuckets → count i ≤ count j) ∧
      (∀ i < numBuckets, 0 ≤ count i ∧ count i ≤ api.totalCount h.hist) ∧
      (h.seastarHistogramLogform api).buckets =
        (List.range numBuckets).map fun i => ⟨(count i).toUInt64, firstValue * 2 ^ i⟩ := by
  obtain ⟨K, itK, hKN, hitK, hfalse, hbuckets⟩ := seastarHistogramLogform_buckets_eq api h
  refine ⟨ladderCount api h.hist K itK, fun i j hij hj => ladderCount_mono hl hitK hfalse hij hj,
    fun i hi => ladderCount_bounds hl hitK hfalse hi, ?_⟩
  rw [hbuckets]
  obtain ⟨m, hm⟩ : ∃ m, numBuckets = K + m := ⟨numBuckets - K, by omega⟩
  rw [hm, Nat.add_sub_cancel_left, List.range_add, List.map_append, List.map_map,
    ← map_levelBucket_eq hl hitK]
  cases m with
  | zero =>
    -- every bucket filled: the padding loop does not run
    obtain ⟨v, c, p⟩ := seedLevel K (K + 0) (api.hdrIterNext itK).2
    rw [padBuckets_eq c p 0 _ K v _ (by simp) (Nat.zero_le _)]
    rfl
  | succ m =>
    rw [← hm, seedLevel_eq hl hitK (hfalse (by omega)) (by omega),
      padBuckets_eq _ _ (m + 1) numBuckets K _ _ (by simp) (by omega)]
    congr 1
    apply List.map_congr_left
    intro j _
    rw [Function.comp_apply, ladderCount_of_le itK (Nat.le_add_right K j),
      show logBase = 2 from rfl, mul_pow_add]

/-- The bounds do not wrap in `int64_t`: bucket `i` is bounded by `10 * 2 ^ i`,
below `2 ^ 53`. -/
theorem firstValue_mul_two_pow_toInt {i : Nat} (hi : i < numBuckets) :
    (firstValue * 2 ^ i).toInt = 10 * 2 ^ i :=
  (by decide : ∀ i < numBuckets, (firstValue * 2 ^ i).toInt = 10 * 2 ^ i) i hi

/-- Every export has 26 buckets, bounded by `10 * 2 ^ i` whatever was
recorded, with counts that do not decrease along the buckets and do not
exceed the number of samples in the hdr histogram. -/
theorem logform_fixed_buckets (api : HdrApi σ ρ) (h : Histogram σ) (hl : api.LogIterLawful h.hist) :
    (h.seastarHistogramLogform api).buckets.length = numBuckets ∧
    (h.seastarHistogramLogform api).buckets.map (fun b => b.upperBound.toInt) =
      (List.range numBuckets).map (fun i => 10 * 2 ^ i) ∧
    (∀ i j (hi : i < (h.seastarHistogramLogform api).buckets.length)
      (hj : j < (h.seastarHistogramLogform api).buckets.length), i ≤ j →
      (h.seastarHistogramLogform api).buckets[i].count ≤
        (h.seastarHistogramLogform api).buckets[j].count) ∧
    ∀ b ∈ (h.seastarHistogramLogform api).buckets, b.count ≤ (api.totalCount h.hist).toUInt64 := by
  obtain ⟨count, hmono, hbound, hb⟩ := seastarHistogramLogform_ladder api h hl
  generalize (h.seastarHistogramLogform api).buckets = buckets at hb ⊢
  subst hb
  refine ⟨by simp, ?_, fun i j hi hj hij => ?_, fun b hb => ?_⟩
  · rw [List.map_map]
    apply List.map_congr_left
    intro i hi
    exact firstValue_mul_two_pow_toInt (List.mem_range.mp hi)
  · have hj' : j < numBuckets := by simpa using hj
    simp only [List.getElem_map, List.getElem_range]
    exact Int64.toUInt64_le (hbound i (by omega)).1 (hmono i j hij hj')
  · obtain ⟨i, hi, rfl⟩ := List.mem_map.mp hb
    have hi' := List.mem_range.mp hi
    exact Int64.toUInt64_le (hbound i hi').1 (hbound i hi').2

/-! ## The counting histogram's iterator -/

/-- A call of `countingHdr`'s iterator that answers `true` counted every
sample at the next level. -/
theorem countingHdr_next_true {iter iter' : HdrIter (Nat × Int64)}
    (hn : countingHdr.hdrIterNext iter = (true, iter')) :
    iter.cumulativeCount < iter.pos.2 ∧
      iter' = ⟨10 * 2 ^ iter.pos.1, iter.pos.2, (iter.pos.1 + 1, iter.pos.2)⟩ := by
  simp only [countingHdr] at hn
  split at hn
  · exact ⟨by assumption, (Prod.mk.inj hn).2.symm⟩
  · cases hn

/-- A call that answers `false` found every sample counted, and leaves the
iterator. -/
theorem countingHdr_next_false {iter iter' : HdrIter (Nat × Int64)}
    (hn : countingHdr.hdrIterNext iter = (false, iter')) :
    ¬ iter.cumulativeCount < iter.pos.2 ∧ iter' = iter := by
  simp only [countingHdr] at hn
  split at hn
  · cases hn
  · exact ⟨by assumption, (Prod.mk.inj hn).2.symm⟩

/-- `countingHdr` reports one level at most: none for an empty histogram, the
first with every sample otherwise. -/
theorem countingHdr_iterAfter (hist : Int64 × Int64) :
    ∀ k iter, countingHdr.iterAfter hist k = some iter →
      (k = 0 ∧ iter = ⟨0, 0, (0, hist.2)⟩) ∨
        (k = 1 ∧ 0 < hist.2 ∧ iter = ⟨10 * 2 ^ 0, hist.2, (1, hist.2)⟩) := by
  intro k
  induction k with
  | zero =>
    intro iter h
    cases h
    exact Or.inl ⟨rfl, rfl⟩
  | succ k ih =>
    intro iter h
    obtain ⟨prev, hprev, hn⟩ := HdrApi.iterAfter_succ_eq_some h
    obtain ⟨hlt, rfl⟩ := countingHdr_next_true hn
    rcases ih prev hprev with ⟨rfl, rfl⟩ | ⟨rfl, -, rfl⟩
    · exact Or.inr ⟨rfl, hlt, rfl⟩
    · -- the second call finds every sample counted
      exact absurd hlt Int64.lt_irrefl

/-- On a histogram whose total count is not negative, `countingHdr`'s
iterator keeps every promise of `HdrApi.LogIterLawful`. -/
theorem countingHdr_logIterLawful (hist : Int64 × Int64) (ht : 0 ≤ hist.2) :
    countingHdr.LogIterLawful hist where
  cumulativeCount_init := rfl
  next_true k iter iter' hk hn := by
    obtain ⟨hlt, rfl⟩ := countingHdr_next_true hn
    rcases countingHdr_iterAfter hist k iter hk with ⟨rfl, rfl⟩ | ⟨rfl, -, rfl⟩
    · exact ⟨rfl, ht, Int64.le_refl _⟩
    · exact absurd hlt Int64.lt_irrefl
  next_false k iter iter' hk hn := by
    rcases countingHdr_iterAfter hist k iter hk with ⟨rfl, rfl⟩ | ⟨rfl, -, rfl⟩
    all_goals obtain ⟨-, rfl⟩ := countingHdr_next_false hn
    · exact ⟨rfl, Int64.le_refl _, ht⟩
    · exact ⟨rfl, Int64.le_refl _, Int64.le_refl _⟩

/-- A histogram that recorded one value of `5` microseconds exports buckets
that never count more than that one sample. -/
theorem logform_fixed_buckets_one_sample :
    countingHdr.LogIterLawful
      ((Histogram.make countingHdr kDefaultHistogramMaxValue).record countingHdr 5).hist ∧
    ∀ b ∈ (((Histogram.make countingHdr kDefaultHistogramMaxValue).record countingHdr
      5).seastarHistogramLogform countingHdr).buckets, b.count ≤ 1 :=
  have hl := countingHdr_logIterLawful _ (by decide)
  ⟨hl, (logform_fixed_buckets countingHdr _ hl).2.2.2⟩

example : ((((Histogram.make countingHdr kDefaultHistogramMaxValue).record countingHdr
    5).seastarHistogramLogform countingHdr).buckets.take 3) =
      [⟨1, 10⟩, ⟨1, 20⟩, ⟨1, 40⟩] := by
  decide

end Smf
