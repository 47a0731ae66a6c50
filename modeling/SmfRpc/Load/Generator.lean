import SmfRpc.Wire.Header
import Mathlib.Algebra.Order.Group.Nat

/-!
# `load_generator`

`src/include/smf/load_generator.h`, `load_generator_args.h` and
`load_channel.h`: the benchmark driver.  The arguments are checked once, the
constructor makes `concurrency` channels, each with an equal share of the
memory, and `benchmark` has every channel send `reqs_per_channel` requests.

`reqs_per_channel` is `std::max<uint32_t>(1, std::ceil(num_of_req /
concurrency))`: the division is between two `size_t`s and truncates before
`std::ceil` sees it, and a `concurrency` of `0` passes the argument check and
divides by zero.  Division by zero and a `double` out of the range of
`uint32_t` are undefined behaviour, which the model reports as an error, as it
does the `LOG_THROW_IF`s.

Left out: the server address, the TLS credentials and the options map, which
only reach the clients; the random channel ids, the histograms and the
semaphore that waits for the channels, which do not change what is sent.
-/

namespace Smf

open Rpc

/-- Where the model stops: a `LOG_THROW_IF`, or undefined behaviour. -/
inductive LoadError where
  /-- `load_generator_args`: `memory_per_core < kMinMemory && concurrency > 1`. -/
  | configError
  /-- An integer division by zero. -/
  | divisionByZero
  /-- A `double` converted to a `uint32_t` that cannot hold it. -/
  | conversionOutOfRange
  /-- The constructor's `uint32_t` index never reaches a `concurrency` of `2 ^ 32` or more. -/
  | loopNeverEnds
  /-- `load_channel::invoke`: `reqs == 0`. -/
  | badNumberOfRequests
  deriving DecidableEq, Repr

/-- `load_generator_args`, the fields the driver computes with. -/
structure LoadGeneratorArgs where
  numOfReq : UInt64
  concurrency : UInt64
  memoryPerCore : UInt64
  compression : CompressionFlags
  deriving DecidableEq, Repr

/-- `kMinMemory`, `1 << 24`: 16 MB. -/
def kMinMemory : UInt64 := (1 : UInt64) <<< 24

/-- The constructor of `load_generator_args`. -/
def LoadGeneratorArgs.make (numOfReq concurrency memoryPerCore : UInt64)
    (compression : CompressionFlags) : Except LoadError LoadGeneratorArgs :=
  if memoryPerCore < kMinMemory && concurrency > 1 then .error .configError
  else .ok ⟨numOfReq, concurrency, memoryPerCore, compression⟩

/-- `a / b` on two `size_t`s. -/
def sizeDiv (a b : UInt64) : Except LoadError UInt64 :=
  if b = 0 then .error .divisionByZero else .ok (a / b)

/-- A filter `load_channel` pushes onto its client. -/
inductive ChannelFilter where
  | zstdDecompression
  | zstdCompression (minCompressionSize : UInt32)
  | lz4Decompression
  | lz4Compression (minCompressionSize : UInt32)
  deriving DecidableEq, Repr

/-- A `load_channel`: the memory of its client and its filters. -/
structure LoadChannel where
  mem : UInt64
  incomingFilters : List ChannelFilter
  outgoingFilters : List ChannelFilter
  deriving DecidableEq, Repr

/-- The constructor of `load_channel`. -/
def LoadChannel.make (mem : UInt64) (compression : CompressionFlags) : LoadChannel :=
  match compression with
  | .zstd => ⟨mem, [.zstdDecompression], [.zstdCompression 1024]⟩
  | .lz4 => ⟨mem, [.lz4Decompression], [.lz4Compression 1024]⟩
  | _ => ⟨mem, [], []⟩

/-- `load_channel::invoke(reqs, ...)`: the indices `do_for_each` calls the
method for, one request each. -/
def LoadChannel.invoke (reqs : UInt32) : Except LoadError (List UInt32) :=
  if reqs = 0 then .error .badNumberOfRequests
  else .ok ((List.range reqs.toNat).map UInt32.ofNat)

/-- The constructor of `load_generator`: `concurrency` channels, each with
`memory_per_core / concurrency` bytes. -/
def loadGenerator (args : LoadGeneratorArgs) : Except LoadError (List LoadChannel) :=
  if 2 ^ 32 ≤ args.concurrency.toNat then .error .loopNeverEnds
  else (List.range args.concurrency.toNat).mapM fun _ => do
    let mem ← sizeDiv args.memoryPerCore args.concurrency
    pure (LoadChannel.make mem args.compression)

/-- `reqs_per_channel`: `std::ceil` of an integer is that integer, and
`std::max<uint32_t>` converts it to a `uint32_t`. -/
def reqsPerChannel (args : LoadGeneratorArgs) : Except LoadError UInt32 := do
  let q ← sizeDiv args.numOfReq args.concurrency
  if 2 ^ 32 ≤ q.toNat then .error .conversionOutOfRange
  else pure (max 1 q.toUInt32)

/-- `load_generator::benchmark`: the requests of each channel. -/
def benchmark (args : LoadGeneratorArgs) (channels : List LoadChannel) :
    Except LoadError (List (List UInt32)) := do
  let reqs ← reqsPerChannel args
  channels.mapM fun _ => LoadChannel.invoke reqs

/-- A generator made from `args` and its benchmark run. -/
def runBenchmark (args : LoadGeneratorArgs) : Except LoadError (List (List UInt32)) :=
  loadGenerator args >>= benchmark args

/-! ## What a benchmark sends -/

theorem LoadGeneratorArgs.eq_of_make {n c mem : UInt64} {compression : CompressionFlags}
    {args : LoadGeneratorArgs} (h : LoadGeneratorArgs.make n c mem compression = .ok args) :
    args = ⟨n, c, mem, compression⟩ := by
  unfold LoadGeneratorArgs.make at h
  split at h
  · cases h
  · cases h
    rfl

theorem mapM_const_ok {ε β γ : Type} (l : List γ) (v : β) :
    (l.mapM fun _ => (.ok v : Except ε β)) = .ok (l.map fun _ => v) := by
  induction l with
  | nil => rfl
  | cons a l ih =>
    rw [List.mapM_cons, ih]
    rfl

theorem sizeDiv_of_ne_zero (a : UInt64) {b : UInt64} (hb : b ≠ 0) : sizeDiv a b = .ok (a / b) := by
  simp [sizeDiv, hb]

/-- Below `2 ^ 32` channels, the constructor makes them all, each with an
equal share of the memory. -/
theorem loadGenerator_eq {args : LoadGeneratorArgs} (hc : args.concurrency ≠ 0)
    (hc' : args.concurrency.toNat < 2 ^ 32) :
    loadGenerator args = .ok ((List.range args.concurrency.toNat).map fun _ =>
      LoadChannel.make (args.memoryPerCore / args.concurrency) args.compression) := by
  rw [loadGenerator, if_neg (by omega), ← mapM_const_ok]
  simp only [sizeDiv_of_ne_zero _ hc]
  rfl

theorem reqsPerChannel_eq {args : LoadGeneratorArgs} (hc : args.concurrency ≠ 0)
    (hq : (args.numOfReq / args.concurrency).toNat < 2 ^ 32) :
    reqsPerChannel args = .ok (max 1 (args.numOfReq / args.concurrency).toUInt32) := by
  rw [reqsPerChannel, sizeDiv_of_ne_zero _ hc]
  simp only [bind, Except.bind, if_neg (Nat.not_le.mpr hq)]
  rfl

theorem benchmark_eq {args : LoadGeneratorArgs} {reqs : UInt32} (h : reqsPerChannel args = .ok reqs)
    (hr : reqs ≠ 0) (channels : List LoadChannel) :
    benchmark args channels =
      .ok (channels.map fun _ => (List.range reqs.toNat).map UInt32.ofNat) := by
  rw [benchmark, h]
  show (channels.mapM fun _ => LoadChannel.invoke reqs) = _
  simp only [LoadChannel.invoke, if_neg hr]
  exact mapM_const_ok _ _

/-- `max 1 q` on a quotient below `2 ^ 32`, as a number. -/
theorem toNat_max_one {q : UInt64} (hq : q.toNat < 2 ^ 32) :
    (max 1 q.toUInt32).toNat = max 1 q.toNat := by
  have hq' : q.toUInt32.toNat = q.toNat := by
    rw [UInt64.toNat_toUInt32]
    exact Nat.mod_eq_of_lt hq
  have hone : (1 : UInt32) ≤ q.toUInt32 ↔ 1 ≤ q.toNat := by
    rw [UInt32.le_iff_toNat_le, hq']
    rfl
  -- the instance of \`max\` on \`UInt32\` is \`maxOfLe\`
  show (if (1 : UInt32) ≤ q.toUInt32 then q.toUInt32 else 1).toNat = _
  rw [Nat.max_def]
  by_cases h : 1 ≤ q.toNat
  · rw [if_pos (hone.mpr h), if_pos h, hq']
  · rw [if_neg (fun h' => h (hone.mp h')), if_neg h]
    rfl

/-- `concurrency` copies of `max 1 (n / c)` fall short of `n` exactly when
`c ≤ n` and `c` does not divide `n`. -/
theorem mul_max_one_div_lt_iff {n c : Nat} (hc : 0 < c) :
    c * max 1 (n / c) < n ↔ c ≤ n ∧ ¬ c ∣ n := by
  have hdm := Nat.div_add_mod n c
  have hml := Nat.mod_lt n hc
  rcases Nat.lt_or_ge n c with h | h
  · -- fewer requests than channels: every channel sends one
    have h0 : n / c = 0 := Nat.div_eq_of_lt h
    rw [h0, max_eq_left (Nat.zero_le 1), mul_one]
    constructor
    · intro h'
      omega
    · rintro ⟨h', -⟩
      omega
  · have h1 : 1 ≤ n / c := (Nat.one_le_div_iff hc).mpr h
    rw [max_eq_right h1, Nat.dvd_iff_mod_eq_zero]
    omega

/-- Below `2 ^ 32` channels and requests per channel, a run sends
`reqs_per_channel` requests on each of the `concurrency` channels. -/
theorem runBenchmark_eq {args : LoadGeneratorArgs} (hc : args.concurrency ≠ 0)
    (hc' : args.concurrency.toNat < 2 ^ 32)
    (hq : (args.numOfReq / args.concurrency).toNat < 2 ^ 32) :
    runBenchmark args = .ok (List.replicate args.concurrency.toNat
      ((List.range (max 1 (args.numOfReq / args.concurrency).toUInt32).toNat).map UInt32.ofNat)) := by
  have hr : max 1 (args.numOfReq / args.concurrency).toUInt32 ≠ 0 := by
    intro h0
    have := congrArg UInt32.toNat h0
    rw [toNat_max_one hq, UInt32.toNat_zero] at this
    omega
  rw [runBenchmark, loadGenerator_eq hc hc']
  show benchmark args _ = _
  rw [benchmark_eq (reqsPerChannel_eq hc hq) hr, List.map_map]
  simp only [Function.comp_def, List.map_const', List.length_range]

/-- `concurrency = 0` passes the argument check and the constructor, and
`benchmark` divides by it.  Otherwise, below `2 ^ 32` channels and
requests per channel, the channels send `concurrency * max 1 (num_of_req /
concurrency)` requests with the truncating division, which is fewer than
`num_of_req` exactly when `concurrency ≤ num_of_req` and does not divide it. -/
theorem benchmark_sends_too_few (n mem : UInt64) (compression : CompressionFlags) :
    (∃ args, LoadGeneratorArgs.make n 0 mem compression = .ok args ∧
      runBenchmark args = .error .divisionByZero) ∧
    ∀ (c : UInt64) (args : LoadGeneratorArgs), c ≠ 0 → c.toNat < 2 ^ 32 →
      n.toNat / c.toNat < 2 ^ 32 → LoadGeneratorArgs.make n c mem compression = .ok args →
      ∃ sent, runBenchmark args = .ok sent ∧
        (sent.map List.length).sum = c.toNat * max 1 (n.toNat / c.toNat) ∧
        ((sent.map List.length).sum < n.toNat ↔ c.toNat ≤ n.toNat ∧ ¬ c.toNat ∣ n.toNat) := by
  -- one channel fewer than two never fails the memory check
  have hzero : LoadGeneratorArgs.make n 0 mem compression = .ok ⟨n, 0, mem, compression⟩ := by
    rw [LoadGeneratorArgs.make, if_neg (by simp)]
  refine ⟨⟨_, hzero, rfl⟩, ?_⟩
  intro c args hc hc' hq hargs
  obtain rfl := LoadGeneratorArgs.eq_of_make hargs
  have hq' : (n / c).toNat < 2 ^ 32 := by
    rw [UInt64.toNat_div]
    exact hq
  have hsum : ((List.replicate c.toNat ((List.range (max 1 (n / c).toUInt32).toNat).map
      UInt32.ofNat)).map List.length).sum = c.toNat * max 1 (n.toNat / c.toNat) := by
    rw [List.map_replicate, List.sum_replicate_nat, List.length_map, List.length_range,
      toNat_max_one hq', UInt64.toNat_div]
  refine ⟨_, runBenchmark_eq hc hc' hq', hsum, ?_⟩
  rw [hsum]
  exact mul_max_one_div_lt_iff (Nat.pos_of_ne_zero fun h => hc (UInt64.toNat_inj.mp h))

example : (runBenchmark ⟨10, 3, kMinMemory, .none⟩).map (fun sent => (sent.map List.length).sum) =
    .ok 9 := rfl

end Smf
