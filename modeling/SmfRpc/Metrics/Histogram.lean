import Mathlib.Data.UInt
import Mathlib.Algebra.BigOperators.Group.List.Basic
import Mathlib.Data.List.ReduceOption

/-!
# `histogram`

`src/core/histogram.cc`, `src/include/smf/histogram.h` and
`unique_histogram_adder.h`: a wrapper around an HdrHistogram_c histogram that
also keeps the count and the sum of the samples recorded through it, in the
`sample_count` and `sample_sum` of its `hist_t`.

HdrHistogram_c is third-party and is not modelled: `HdrApi` is the functions
the wrapper calls, with the arguments the C signatures give them, and
`HdrApi.Lawful` states what the wrapper relies on of them, one field per
promise of the library.  A `histogram` owns one `hist_t`, so the model is the
`hist_t` itself and its methods.

There are three groups.

* The wrapper's methods, `unique_histogram_adder`, and the two
  `copy_histogram`s that build the per-core histograms it merges.
* What the wrapper is for: `Tracks h samples` says that the counters and the
  hdr data of `h` both count the samples `samples`, and the sum is theirs.
  `record` and `record_multiple_times` keep it (`Tracks.record`,
  `Tracks.recordAll`).
* The merge.  `operator+=` only calls `hdr_add`, so it adds the other
  histogram's samples to the hdr data and nothing to the counters
  (`addAssign_totalCount`).  The cross-core merge of the servers'
  histograms therefore reports no sample at all, whatever the cores recorded
  (`server_histograms_merge_to_zero`).
-/

namespace Smf

/-- `kDefaultHistogramMaxValue`: one hour in microseconds. -/
def kDefaultHistogramMaxValue : Int64 := 3600000000

/-- The part of HdrHistogram_c's `struct hdr_iter` that
`seastar_histogram_logform` reads and writes.  `pos` is the rest of the
iterator, which only the library reads. -/
structure HdrIter (ρ : Type) where
  valueIteratedTo : Int64
  cumulativeCount : Int64
  pos : ρ

/-- The functions of HdrHistogram_c that `histogram` calls, on histograms of
type `σ` and iterator positions of type `ρ`.  The results the wrapper drops
(the `bool` of a record, the count `hdr_add` could not add) are left out. -/
structure HdrApi (σ ρ : Type) where
  /-- `hdr_init(1, highest_trackable_value, 3, &hist)`. -/
  hdrInit : Int64 → σ
  /-- `hist->highest_trackable_value`. -/
  highestTrackableValue : σ → Int64
  /-- `hist->total_count`. -/
  totalCount : σ → Int64
  /-- `hdr_record_value(hist, value)`. -/
  hdrRecordValue : σ → Int64 → σ
  /-- `hdr_record_values(hist, value, count)`. -/
  hdrRecordValues : σ → Int64 → Int64 → σ
  /-- `hdr_record_corrected_value(hist, value, expected_interval)`. -/
  hdrRecordCorrectedValue : σ → Int64 → Int64 → σ
  /-- `hdr_add(hist, from)`. -/
  hdrAdd : σ → σ → σ
  /-- `hdr_iter_log_init(&iter, hist, value_units_first_bucket, 2.0)`. -/
  hdrIterLogInit : σ → Int64 → HdrIter ρ
  /-- `hdr_iter_next(&iter)`: its answer, and the iterator it leaves. -/
  hdrIterNext : HdrIter ρ → Bool × HdrIter ρ

variable {σ ρ : Type}

/-- A value `hdr_record_value` counts: inside `[1, highest_trackable_value]`. -/
def HdrApi.InRange (api : HdrApi σ ρ) (hist : σ) (v : Int64) : Prop :=
  1 ≤ v ∧ v ≤ api.highestTrackableValue hist

/-- What the wrapper relies on of HdrHistogram_c's histograms. -/
structure HdrApi.Lawful (api : HdrApi σ ρ) : Prop where
  /-- `hdr_init` makes an empty histogram with the highest value it is given. -/
  totalCount_hdrInit : ∀ m, api.totalCount (api.hdrInit m) = 0
  highestTrackableValue_hdrInit : ∀ m, api.highestTrackableValue (api.hdrInit m) = m
  /-- Recording changes the counts only. -/
  highestTrackableValue_hdrRecordValue : ∀ hist v,
    api.highestTrackableValue (api.hdrRecordValue hist v) = api.highestTrackableValue hist
  highestTrackableValue_hdrRecordValues : ∀ hist v n,
    api.highestTrackableValue (api.hdrRecordValues hist v n) = api.highestTrackableValue hist
  highestTrackableValue_hdrAdd : ∀ hist o,
    api.highestTrackableValue (api.hdrAdd hist o) = api.highestTrackableValue hist
  /-- A value in range is counted once by `hdr_record_value`, `count` times by
  `hdr_record_values`. -/
  totalCount_hdrRecordValue : ∀ hist v, api.InRange hist v →
    api.totalCount (api.hdrRecordValue hist v) = api.totalCount hist + 1
  totalCount_hdrRecordValues : ∀ hist v n, api.InRange hist v →
    api.totalCount (api.hdrRecordValues hist v n) = api.totalCount hist + n
  /-- `hdr_add` adds every value of `from` when they all fit. -/
  totalCount_hdrAdd : ∀ hist o, api.highestTrackableValue o ≤ api.highestTrackableValue hist →
    api.totalCount (api.hdrAdd hist o) = api.totalCount hist + api.totalCount o

/-- A `histogram`, as its `hist_t`: the hdr histogram and the wrapper's
counters. -/
structure Histogram (σ : Type) where
  hist : σ
  sampleCount : UInt64
  sampleSum : UInt64

namespace Histogram

variable (api : HdrApi σ ρ)

/-- `histogram::make_unique(max_value)` and `make_lw_shared(max_value)`:
`hist_t(max_value)`. -/
def make (maxValue : Int64) : Histogram σ := ⟨api.hdrInit maxValue, 0, 0⟩

/-- `histogram::record(v)`. -/
def record (h : Histogram σ) (v : UInt64) : Histogram σ :=
  { sampleCount := h.sampleCount + 1
    sampleSum := h.sampleSum + v
    hist := api.hdrRecordValue h.hist v.toInt64 }

/-- `histogram::record_multiple_times(v, times)`. -/
def recordMultipleTimes (h : Histogram σ) (v : UInt64) (times : UInt32) : Histogram σ :=
  { sampleCount := h.sampleCount + times.toUInt64
    sampleSum := h.sampleSum + v * times.toUInt64
    hist := api.hdrRecordValues h.hist v.toInt64 times.toUInt64.toInt64 }

/-- `histogram::record_corrected(v, interval)`. -/
def recordCorrected (h : Histogram σ) (v interval : UInt64) : Histogram σ :=
  { sampleCount := h.sampleCount + 1
    sampleSum := h.sampleSum + v
    hist := api.hdrRecordCorrectedValue h.hist v.toInt64 interval.toInt64 }

/-- `histogram::operator+=`, of a `histogram` or of a `hist_t *`: both
overloads only call `hdr_add`. -/
def addAssign (h o : Histogram σ) : Histogram σ := { h with hist := api.hdrAdd h.hist o.hist }

end Histogram

/-- `unique_histogram_adder`, as its `result_`. -/
structure UniqueHistogramAdder (σ : Type) where
  result : Histogram σ

namespace UniqueHistogramAdder

variable (api : HdrApi σ ρ)

/-- A new adder: `result_ = histogram::make_unique()`. -/
def init : UniqueHistogramAdder σ := ⟨Histogram.make api kDefaultHistogramMaxValue⟩

/-- `operator()(value)`: a null `value` is skipped. -/
def apply (a : UniqueHistogramAdder σ) : Option (Histogram σ) → UniqueHistogramAdder σ
  | some value => ⟨a.result.addAssign api value⟩
  | none => a

/-- `get()`. -/
def get (a : UniqueHistogramAdder σ) : Histogram σ := a.result

/-- `map_reduce(unique_histogram_adder(), mapper)`: the reducer applied to the
histograms the cores map to, in the order they resolve. -/
def mapReduce (values : List (Option (Histogram σ))) : Histogram σ :=
  (values.foldl (apply api) (init api)).get

end UniqueHistogramAdder

namespace Histogram

variable (api : HdrApi σ ρ)

/-- `rpc_server::copy_histogram()`: a new histogram with the server's `hist_`
added. -/
def rpcServerCopyHistogram (hist : Histogram σ) : Histogram σ :=
  (make api kDefaultHistogramMaxValue).addAssign api hist

/-- `load_generator::copy_histogram()`: a new histogram with every channel's
histogram added. -/
def loadGeneratorCopyHistogram (channels : List (Histogram σ)) : Histogram σ :=
  channels.foldl (addAssign api) (make api kDefaultHistogramMaxValue)

end Histogram

/-! ## What the counters are for -/

namespace Histogram

variable {api : HdrApi σ ρ}

/-- The counters and the hdr data of `h` both count the samples `samples`
(modulo `2 ^ 64`), and `sample_sum` is their sum. -/
def Tracks (api : HdrApi σ ρ) (h : Histogram σ) (samples : List UInt64) : Prop :=
  h.sampleCount = UInt64.ofNat samples.length ∧ h.sampleSum = samples.sum ∧
    api.totalCount h.hist = Int64.ofNat samples.length

theorem tracks_make (hl : api.Lawful) (m : Int64) : (make api m).Tracks api [] :=
  ⟨rfl, rfl, hl.totalCount_hdrInit m⟩

@[simp] theorem highestTrackableValue_make (hl : api.Lawful) (m : Int64) :
    api.highestTrackableValue (make api m).hist = m :=
  hl.highestTrackableValue_hdrInit m

@[simp] theorem highestTrackableValue_record (hl : api.Lawful) (h : Histogram σ) (v : UInt64) :
    api.highestTrackableValue (h.record api v).hist = api.highestTrackableValue h.hist :=
  hl.highestTrackableValue_hdrRecordValue _ _

@[simp] theorem highestTrackableValue_addAssign (hl : api.Lawful) (h o : Histogram σ) :
    api.highestTrackableValue (h.addAssign api o).hist = api.highestTrackableValue h.hist :=
  hl.highestTrackableValue_hdrAdd _ _

/-- `record` of a value in range adds it to the samples. -/
theorem Tracks.record (hl : api.Lawful) {h : Histogram σ} {samples : List UInt64}
    (ht : h.Tracks api samples) {v : UInt64} (hv : api.InRange h.hist v.toInt64) :
    (h.record api v).Tracks api (samples ++ [v]) := by
  obtain ⟨hc, hs, ht⟩ := ht
  refine ⟨?_, ?_, ?_⟩
  · simp only [Histogram.record, hc, List.length_append, List.length_singleton, UInt64.ofNat_add]
    rfl
  · simp only [Histogram.record, hs, List.sum_append, List.sum_singleton]
  · simp only [Histogram.record, hl.totalCount_hdrRecordValue _ _ hv, ht, List.length_append,
      List.length_singleton, Int64.ofNat_add]
    rfl

/-- `record_multiple_times` of a value in range adds `times` copies of it. -/
theorem Tracks.recordMultipleTimes (hl : api.Lawful) {h : Histogram σ} {samples : List UInt64}
    (ht : h.Tracks api samples) {v : UInt64} (hv : api.InRange h.hist v.toInt64) (times : UInt32) :
    (h.recordMultipleTimes api v times).Tracks api (samples ++ List.replicate times.toNat v) := by
  obtain ⟨hc, hs, ht⟩ := ht
  -- a `uint32_t` widened to `uint64_t` keeps its value
  have htimes : times.toUInt64 = UInt64.ofNat times.toNat := by
    have h := UInt64.ofNat_toNat (x := times.toUInt64)
    rw [UInt32.toNat_toUInt64] at h
    exact h.symm
  refine ⟨?_, ?_, ?_⟩
  · simp only [Histogram.recordMultipleTimes, hc, htimes, List.length_append,
      List.length_replicate, UInt64.ofNat_add]
  · simp only [Histogram.recordMultipleTimes, hs, htimes, List.sum_append, List.sum_replicate,
      mul_comm v]
    rfl
  · simp only [Histogram.recordMultipleTimes, hl.totalCount_hdrRecordValues _ _ _ hv, ht, htimes,
      UInt64.toInt64_ofNat', List.length_append, List.length_replicate, Int64.ofNat_add]

/-- A histogram that only ever records values in range tracks them all: the
run of `record`s from any tracking state. -/
theorem Tracks.recordAll (hl : api.Lawful) {h : Histogram σ} {samples : List UInt64}
    (ht : h.Tracks api samples) {vs : List UInt64}
    (hvs : ∀ v ∈ vs, api.InRange h.hist v.toInt64) :
    (vs.foldl (Histogram.record api) h).Tracks api (samples ++ vs) := by
  induction vs generalizing h samples with
  | nil =>
    rw [List.foldl_nil, List.append_nil]
    exact ht
  | cons v vs ih =>
    have hv := hvs v List.mem_cons_self
    -- the range is the first histogram's: recording does not change it
    have hrest : ∀ w ∈ vs, api.InRange (h.record api v).hist w.toInt64 := by
      intro w hw
      rw [HdrApi.InRange, highestTrackableValue_record hl]
      exact hvs w (List.mem_cons_of_mem v hw)
    rw [List.foldl_cons, ← List.singleton_append, ← List.append_assoc]
    exact ih (ht.record hl hv) hrest

/-! ## The merge -/

@[simp] theorem addAssign_sampleCount (h o : Histogram σ) :
    (h.addAssign api o).sampleCount = h.sampleCount := rfl

@[simp] theorem addAssign_sampleSum (h o : Histogram σ) :
    (h.addAssign api o).sampleSum = h.sampleSum := rfl

/-- `+=` adds the other histogram's count to the hdr data and leaves both
counters as they were. -/
theorem addAssign_totalCount (hl : api.Lawful) {h o : Histogram σ}
    (ho : api.highestTrackableValue o.hist ≤ api.highestTrackableValue h.hist) :
    api.totalCount (h.addAssign api o).hist = api.totalCount h.hist + api.totalCount o.hist :=
  hl.totalCount_hdrAdd _ _ ho

/-- `rpc_server::copy_histogram` of a histogram with the default highest
value: no sample in the counters, all of them in the hdr data. -/
theorem rpcServerCopyHistogram_eq (hl : api.Lawful) {h : Histogram σ}
    (hh : api.highestTrackableValue h.hist = kDefaultHistogramMaxValue) :
    (rpcServerCopyHistogram api h).sampleCount = 0 ∧ (rpcServerCopyHistogram api h).sampleSum = 0 ∧
      api.totalCount (rpcServerCopyHistogram api h).hist = api.totalCount h.hist := by
  refine ⟨rfl, rfl, ?_⟩
  have hle : api.highestTrackableValue h.hist ≤
      api.highestTrackableValue (make api kDefaultHistogramMaxValue).hist := by
    rw [highestTrackableValue_make hl, hh]
    exact Int64.le_refl _
  rw [rpcServerCopyHistogram, addAssign_totalCount hl hle,
    make, hl.totalCount_hdrInit, Int64.zero_add]

/-- A run of `record`s keeps the highest trackable value. -/
theorem highestTrackableValue_foldl_record (hl : api.Lawful) (vs : List UInt64) (h : Histogram σ) :
    api.highestTrackableValue (vs.foldl (record api) h).hist = api.highestTrackableValue h.hist := by
  induction vs generalizing h with
  | nil => rfl
  | cons v vs ih => rw [List.foldl_cons, ih, highestTrackableValue_record hl]

/-- The copy of a core that recorded `vs`, all in range, into a fresh
histogram counts `vs` in its hdr data. -/
theorem totalCount_rpcServerCopyHistogram_recordAll (hl : api.Lawful) {vs : List UInt64}
    (hvs : ∀ v ∈ vs, 1 ≤ v.toInt64 ∧ v.toInt64 ≤ kDefaultHistogramMaxValue) :
    api.totalCount (rpcServerCopyHistogram api
      (vs.foldl (record api) (make api kDefaultHistogramMaxValue))).hist = Int64.ofNat vs.length := by
  have hhi : api.highestTrackableValue
      (vs.foldl (record api) (make api kDefaultHistogramMaxValue)).hist = kDefaultHistogramMaxValue := by
    rw [highestTrackableValue_foldl_record hl, highestTrackableValue_make hl]
  have ht := Tracks.recordAll hl (tracks_make hl kDefaultHistogramMaxValue)
    (fun v (hv : v ∈ vs) => by
      rw [HdrApi.InRange, highestTrackableValue_make hl]
      exact hvs v hv)
  rw [List.nil_append] at ht
  rw [(rpcServerCopyHistogram_eq hl hhi).2.2, ht.2.2]

end Histogram

namespace UniqueHistogramAdder

variable {api : HdrApi σ ρ}

/-- The adder's result keeps the counters of the histogram it starts from and
adds every value's hdr count: the fold of the reducer over the mapped
histograms. -/
theorem foldl_apply (hl : api.Lawful) (values : List (Option (Histogram σ)))
    (hv : ∀ v ∈ values.reduceOption,
      api.highestTrackableValue v.hist = kDefaultHistogramMaxValue)
    (a : UniqueHistogramAdder σ)
    (ha : api.highestTrackableValue a.result.hist = kDefaultHistogramMaxValue) :
    (values.foldl (apply api) a).result.sampleCount = a.result.sampleCount ∧
      (values.foldl (apply api) a).result.sampleSum = a.result.sampleSum ∧
      api.totalCount (values.foldl (apply api) a).result.hist =
        api.totalCount a.result.hist +
          (values.reduceOption.map fun v => api.totalCount v.hist).sum ∧
      api.highestTrackableValue (values.foldl (apply api) a).result.hist =
        kDefaultHistogramMaxValue := by
  induction values generalizing a with
  | nil =>
    refine ⟨rfl, rfl, ?_, ha⟩
    rw [List.foldl_nil, List.reduceOption_nil, List.map_nil, List.sum_nil, Int64.add_zero]
  | cons value values ih =>
    cases value with
    | none =>
      -- a null value is skipped
      rw [List.reduceOption_cons_of_none] at hv ⊢
      exact ih hv a ha
    | some v =>
      rw [List.reduceOption_cons_of_some] at hv ⊢
      have hvd := hv v List.mem_cons_self
      have hle : api.highestTrackableValue v.hist ≤ api.highestTrackableValue a.result.hist := by
        rw [hvd, ha]
        exact Int64.le_refl _
      have hstep := Histogram.addAssign_totalCount hl hle
      obtain ⟨hc, hs, htot, hhi⟩ := ih (fun w hw => hv w (List.mem_cons_of_mem v hw))
        ⟨a.result.addAssign api v⟩ (by rw [Histogram.highestTrackableValue_addAssign hl, ha])
      refine ⟨hc, hs, ?_, hhi⟩
      rw [List.foldl_cons, apply, htot, hstep, List.map_cons, List.sum_cons, Int64.add_assoc]

end UniqueHistogramAdder

/-! ## A histogram that only counts -/

/-- An hdr histogram that keeps only its highest trackable value and its total
count.  Its log iterator counts every sample at the first level and reports
the levels `10 * 2 ^ k` until it has counted them all. -/
def countingHdr : HdrApi (Int64 × Int64) (Nat × Int64) where
  hdrInit m := (m, 0)
  highestTrackableValue hist := hist.1
  totalCount hist := hist.2
  hdrRecordValue hist v := if 1 ≤ v ∧ v ≤ hist.1 then (hist.1, hist.2 + 1) else hist
  hdrRecordValues hist v n := if 1 ≤ v ∧ v ≤ hist.1 then (hist.1, hist.2 + n) else hist
  hdrRecordCorrectedValue hist v _ := if 1 ≤ v ∧ v ≤ hist.1 then (hist.1, hist.2 + 1) else hist
  hdrAdd hist o := (hist.1, hist.2 + o.2)
  hdrIterLogInit hist _ := ⟨0, 0, (0, hist.2)⟩
  hdrIterNext iter :=
    if iter.cumulativeCount < iter.pos.2 then
      (true, ⟨10 * 2 ^ iter.pos.1, iter.pos.2, (iter.pos.1 + 1, iter.pos.2)⟩)
    else (false, iter)

/-- `countingHdr` keeps every promise of `HdrApi.Lawful`, so the promises can
all be kept at once. -/
theorem countingHdr_lawful : countingHdr.Lawful where
  totalCount_hdrInit _ := rfl
  highestTrackableValue_hdrInit _ := rfl
  highestTrackableValue_hdrRecordValue hist v := by
    simp only [countingHdr]
    split <;> rfl
  highestTrackableValue_hdrRecordValues hist v n := by
    simp only [countingHdr]
    split <;> rfl
  highestTrackableValue_hdrAdd _ _ := rfl
  totalCount_hdrRecordValue hist v hv := by
    simp only [countingHdr]
    rw [if_pos (show 1 ≤ v ∧ v ≤ hist.1 from hv)]
  totalCount_hdrRecordValues hist v n hv := by
    simp only [countingHdr]
    rw [if_pos (show 1 ≤ v ∧ v ≤ hist.1 from hv)]
  totalCount_hdrAdd _ _ _ := rfl

theorem sum_map_int64_ofNat {α : Type} (f : α → Nat) (l : List α) :
    (l.map fun x => Int64.ofNat (f x)).sum = Int64.ofNat (l.map f).sum := by
  induction l with
  | nil => rfl
  | cons x l ih => rw [List.map_cons, List.map_cons, List.sum_cons, List.sum_cons, ih, Int64.ofNat_add]

/-- The cross-core merge of the servers' histograms,
`map_reduce(unique_histogram_adder(), &rpc_server::copy_histogram)`, where
each core recorded its own values in range: the merged histogram's hdr data
counts every sample of every core, and its `sample_count` and `sample_sum`
are `0`.  The merge itself, `+=`, adds to the hdr data only. -/
theorem server_histograms_merge_to_zero (api : HdrApi σ ρ) (hl : api.Lawful) :
    (∀ h o : Histogram σ,
      api.highestTrackableValue o.hist ≤ api.highestTrackableValue h.hist →
      (h.addAssign api o).sampleCount = h.sampleCount ∧
        (h.addAssign api o).sampleSum = h.sampleSum ∧
        api.totalCount (h.addAssign api o).hist = api.totalCount h.hist + api.totalCount o.hist) ∧
    ∀ cores : List (List UInt64),
      (∀ vs ∈ cores, ∀ v ∈ vs, 1 ≤ v.toInt64 ∧ v.toInt64 ≤ kDefaultHistogramMaxValue) →
      let merged := UniqueHistogramAdder.mapReduce api (cores.map fun vs =>
        some (Histogram.rpcServerCopyHistogram api
          (vs.foldl (Histogram.record api) (Histogram.make api kDefaultHistogramMaxValue))))
      merged.sampleCount = 0 ∧ merged.sampleSum = 0 ∧
        api.totalCount merged.hist = Int64.ofNat (cores.map List.length).sum := by
  refine ⟨fun h o ho => ⟨rfl, rfl, Histogram.addAssign_totalCount hl ho⟩, ?_⟩
  intro cores hcores
  dsimp only
  -- no core's copy is null
  have hred : (cores.map fun vs => some (Histogram.rpcServerCopyHistogram api
      (vs.foldl (Histogram.record api) (Histogram.make api kDefaultHistogramMaxValue)))).reduceOption =
        cores.map fun vs => Histogram.rpcServerCopyHistogram api
          (vs.foldl (Histogram.record api) (Histogram.make api kDefaultHistogramMaxValue)) := by
    simp [List.reduceOption, List.filterMap_map]
  have hdefault : ∀ v ∈ (cores.map fun vs => some (Histogram.rpcServerCopyHistogram api
      (vs.foldl (Histogram.record api) (Histogram.make api kDefaultHistogramMaxValue)))).reduceOption,
        api.highestTrackableValue v.hist = kDefaultHistogramMaxValue := by
    rw [hred]
    intro v hv
    obtain ⟨vs, -, rfl⟩ := List.mem_map.mp hv
    rw [Histogram.rpcServerCopyHistogram, Histogram.highestTrackableValue_addAssign hl,
      Histogram.highestTrackableValue_make hl]
  have hcount : ((cores.map fun vs => Histogram.rpcServerCopyHistogram api
      (vs.foldl (Histogram.record api) (Histogram.make api kDefaultHistogramMaxValue))).map
        fun v => api.totalCount v.hist) = cores.map fun vs => Int64.ofNat vs.length := by
    rw [List.map_map]
    apply List.map_congr_left
    intro vs hvs
    exact Histogram.totalCount_rpcServerCopyHistogram_recordAll hl (hcores vs hvs)
  obtain ⟨hc, hs, htot, -⟩ := UniqueHistogramAdder.foldl_apply hl _ hdefault
    (UniqueHistogramAdder.init api) (Histogram.highestTrackableValue_make hl _)
  refine ⟨hc, hs, ?_⟩
  rw [UniqueHistogramAdder.mapReduce, UniqueHistogramAdder.get, htot, hred, hcount,
    sum_map_int64_ofNat, UniqueHistogramAdder.init, Histogram.make, hl.totalCount_hdrInit,
    Int64.zero_add]

/-- One core that recorded the value `5`: the merged histogram has one sample
in its hdr data and none in its counters. -/
theorem server_histograms_merge_to_zero_one_sample :
    let merged := UniqueHistogramAdder.mapReduce countingHdr [some (Histogram.rpcServerCopyHistogram
      countingHdr ([5].foldl (Histogram.record countingHdr)
        (Histogram.make countingHdr kDefaultHistogramMaxValue)))]
    merged.sampleCount = 0 ∧ merged.sampleSum = 0 ∧ countingHdr.totalCount merged.hist = 1 :=
  (server_histograms_merge_to_zero countingHdr countingHdr_lawful).2 [[5]]
    (by simp [kDefaultHistogramMaxValue])

end Smf
