import CoreSteer.Gauge.Core
import Mathlib.Data.Nat.Dist
import Mathlib.Order.Interval.Set.Defs
/-!
# The moving average of performance levels

A sample takes the average an eighth of the way to the new level and rounds down; an average of zero
stands for none, and the next level takes its place.  In whatever order levels are sampled, the
average stays among them (`CorePerf.sample_mem_Icc` for one sample), so that it never outgrows a
32-bit word.

When one level is sampled again and again, the average falls to it from above, but from below it stops
short: once it is `CorePerf.Settled`, at most seven below the level, rounding down keeps it where it is.
-/
namespace CoreSteer

/-- A level that is sampled, and when. -/
structure Sample where
  /-- The performance level. -/
  level : Nat
  /-- The time. -/
  time : Nat
deriving DecidableEq, Repr

/-- The samples of one level at different times. -/
def Sample.repeated (level : Nat) (times : List Nat) : List Sample := times.map fun t => ⟨level, t⟩

namespace CorePerf

variable {p : CorePerf} {level now lo hi : Nat}

/-- Samples in order. -/
def sampleAll (p : CorePerf) (ss : List Sample) : CorePerf :=
  ss.foldl (fun p s => p.sample s.level s.time) p

lemma sampleAll_append_singleton (p : CorePerf) (ss : List Sample) (s : Sample) :
    p.sampleAll (ss ++ [s]) = (p.sampleAll ss).sample s.level s.time :=
  List.foldl_append

/-! ## One sample -/

lemma average_sample_of_eq_zero (h : p.average = 0) (level now : Nat) :
    (p.sample level now).average = level :=
  if_pos h

/-- The new average of two words is a word. -/
lemma wrap32_average (hp : p.average < UInt32.size) (hlevel : level < UInt32.size) :
    wrap32 ((p.average * 7 + level) / 8) = (p.average * 7 + level) / 8 :=
  wrap32_of_lt (by omega)

lemma average_sample_of_ne_zero (h : p.average ≠ 0) (hp : p.average < UInt32.size)
    (hlevel : level < UInt32.size) (now : Nat) :
    (p.sample level now).average = (p.average * 7 + level) / 8 :=
  (if_neg h).trans (wrap32_average hp hlevel)

/-- The average stays within bounds that hold of the new level and of the old average, if there is one.
-/
lemma sample_mem_Icc (hp : p.average ≠ 0 → p.average ∈ Set.Icc lo hi)
    (hlevel : level ∈ Set.Icc lo hi) (hhi : hi < UInt32.size) (now : Nat) :
    (p.sample level now).average ∈ Set.Icc lo hi := by
  by_cases h : p.average = 0
  · rw [average_sample_of_eq_zero h]
    exact hlevel
  · obtain ⟨hlo, hle⟩ := hp h
    obtain ⟨hlo', hle'⟩ := hlevel
    rw [average_sample_of_ne_zero h (hle.trans_lt hhi) (hle'.trans_lt hhi)]
    exact ⟨by omega, by omega⟩

lemma sampleAll_mem_Icc {ss : List Sample} (hp : p.average ≠ 0 → p.average ∈ Set.Icc lo hi)
    (hss : ∀ s ∈ ss, s.level ∈ Set.Icc lo hi) (hhi : hi < UInt32.size) :
    (p.sampleAll ss).average ≠ 0 → (p.sampleAll ss).average ∈ Set.Icc lo hi := by
  induction ss generalizing p with
  | nil => exact hp
  | cons s ss ih =>
    obtain ⟨hs, hss⟩ := List.forall_mem_cons.1 hss
    exact ih (fun _ => sample_mem_Icc hp hs hhi s.time) hss

/-- From the start on, the average after a sample is between the smallest and the largest level so far.
-/
lemma exists_bounds_average {earlier : List Sample} {s : Sample}
    (h : ∀ r ∈ earlier ++ [s], r.level < UInt32.size) :
    ∃ lo hi, ((earlier ++ [s]).map Sample.level).min? = some lo ∧
      ((earlier ++ [s]).map Sample.level).max? = some hi ∧ hi < UInt32.size ∧
      ((({} : CorePerf).sampleAll earlier).average ≠ 0 →
        (({} : CorePerf).sampleAll earlier).average ∈ Set.Icc lo hi) ∧
      ((({} : CorePerf).sampleAll earlier).sample s.level s.time).average ∈ Set.Icc lo hi := by
  have hs : s.level ∈ (earlier ++ [s]).map Sample.level := by simp
  obtain ⟨lo, hlo⟩ := Option.isSome_iff_exists.1 (List.isSome_min?_of_mem hs)
  obtain ⟨hi, hhi⟩ := Option.isSome_iff_exists.1 (List.isSome_max?_of_mem hs)
  have hlevels : ∀ r ∈ earlier ++ [s], r.level ∈ Set.Icc lo hi := by
    intro r hr
    have hmem := List.mem_map_of_mem (f := Sample.level) hr
    exact ⟨(List.min?_eq_some_iff.1 hlo).2 _ hmem, (List.max?_eq_some_iff.1 hhi).2 _ hmem⟩
  have hword : hi < UInt32.size := by
    obtain ⟨r, hr, hlevel⟩ := List.mem_map.1 (List.max?_eq_some_iff.1 hhi).1
    exact hlevel ▸ h r hr
  have hearlier : (({} : CorePerf).sampleAll earlier).average ≠ 0 →
      (({} : CorePerf).sampleAll earlier).average ∈ Set.Icc lo hi :=
    sampleAll_mem_Icc (fun hne => absurd rfl hne)
      (fun r hr => hlevels r (List.mem_append_left _ hr)) hword
  exact ⟨lo, hi, hlo, hhi, hword, hearlier, sample_mem_Icc hearlier (hlevels s (by simp)) hword s.time⟩

/-! ## One level again and again -/

/-- The average is as close to a level as sampling that level brings it from below. -/
def Settled (p : CorePerf) (level : Nat) : Prop := p.average ≤ level ∧ level ≤ p.average + 7

/-- Samples of a level are averaged in: there is an average, or there is none and the level is zero, which
is the same. -/
structure Tends (p : CorePerf) (level : Nat) : Prop where
  average_lt : p.average < UInt32.size
  level_lt : level < UInt32.size
  eq_zero : p.average = 0 → level = 0

namespace Tends

/-- Where there is no average, the level that takes its place is the mean of the two. -/
lemma average_sample (h : p.Tends level) (now : Nat) :
    (p.sample level now).average = (p.average * 7 + level) / 8 := by
  by_cases h0 : p.average = 0
  · rw [average_sample_of_eq_zero h0, h0, h.eq_zero h0]
  · exact average_sample_of_ne_zero h0 h.average_lt h.level_lt now

lemma sample (h : p.Tends level) (now : Nat) : (p.sample level now).Tends level := by
  obtain ⟨hp, hlevel, h0⟩ := h
  refine ⟨?_, hlevel, ?_⟩
  · rw [Tends.average_sample ⟨hp, hlevel, h0⟩]
    omega
  · rw [Tends.average_sample ⟨hp, hlevel, h0⟩]
    omega

lemma sampleAll (h : p.Tends level) (times : List Nat) :
    (p.sampleAll (Sample.repeated level times)).Tends level := by
  induction times generalizing p with
  | nil => exact h
  | cons t times ih => exact ih (h.sample t)

/-- The new average is not further from the level. -/
lemma dist_sample_le (h : p.Tends level) (now : Nat) :
    Nat.dist (p.sample level now).average level ≤ Nat.dist p.average level := by
  rw [h.average_sample, Nat.dist, Nat.dist]
  omega

lemma dist_sample_lt (h : p.Tends level) (hfar : level < p.average ∨ p.average + 7 < level)
    (now : Nat) : Nat.dist (p.sample level now).average level < Nat.dist p.average level := by
  rw [h.average_sample, Nat.dist, Nat.dist]
  omega

lemma average_sample_of_settled (h : p.Tends level) (hp : p.Settled level) (now : Nat) :
    (p.sample level now).average = p.average := by
  obtain ⟨hle, hge⟩ := hp
  rw [h.average_sample]
  omega

/-- Each sample but those that change nothing brings the average closer, so it settles after no more of
them than it was away from the level. -/
lemma settled_sampleAll (h : p.Tends level) {times : List Nat}
    (hlen : p.Settled level ∨ Nat.dist p.average level ≤ times.length) :
    (p.sampleAll (Sample.repeated level times)).Settled level := by
  induction times generalizing p with
  | nil =>
    rcases hlen with hp | hlen
    · exact hp
    · rw [Nat.dist, List.length_nil] at hlen
      show p.average ≤ level ∧ level ≤ p.average + 7
      omega
  | cons t times ih =>
    have hnext : (p.sample level t).Settled level ∨
        Nat.dist (p.sample level t).average level ≤ times.length := by
      by_cases hp : p.Settled level
      · left
        rw [Settled, h.average_sample_of_settled hp]
        exact hp
      · right
        have hfar : level < p.average ∨ p.average + 7 < level := by
          rw [Settled] at hp
          omega
        exact Nat.le_of_lt_succ ((h.dist_sample_lt hfar t).trans_le (hlen.resolve_left hp))
    exact ih (h.sample t) hnext

end Tends

/-- In whatever order levels are sampled from the start on, the average after each sample is between the
smallest and the largest level so far, and no word cuts it off.  Sampling one level again and again
never takes an average away from it, and takes it closer until it has settled. -/
theorem average_bounded_and_settling :
    (∀ (earlier : List Sample) (s : Sample), (∀ r ∈ earlier ++ [s], r.level < UInt32.size) →
      (∃ lo hi, ((earlier ++ [s]).map Sample.level).min? = some lo ∧
        ((earlier ++ [s]).map Sample.level).max? = some hi ∧
        lo ≤ (({} : CorePerf).sampleAll (earlier ++ [s])).average ∧
        (({} : CorePerf).sampleAll (earlier ++ [s])).average ≤ hi) ∧
      wrap32 (((({} : CorePerf).sampleAll earlier).average * 7 + s.level) / 8) =
        ((({} : CorePerf).sampleAll earlier).average * 7 + s.level) / 8) ∧
    ∀ (p : CorePerf) (level : Nat),
      p.average ≠ 0 → p.average < UInt32.size → level < UInt32.size →
      ∀ (times : List Nat) (now : Nat) (q : CorePerf),
        q = p.sampleAll (Sample.repeated level times) →
        Nat.dist (q.sample level now).average level ≤ Nat.dist q.average level ∧
        (level < q.average ∨ q.average + 7 < level →
          Nat.dist (q.sample level now).average level < Nat.dist q.average level) ∧
        (Nat.dist p.average level ≤ times.length →
          q.Settled level ∧ (q.sample level now).average = q.average) := by
  refine ⟨fun earlier s hs => ?_, fun p level h0 hp hlevel times now q hq => ?_⟩
  · obtain ⟨lo, hi, hlo, hhi, hword, hearlier, hmem⟩ := exists_bounds_average hs
    rw [sampleAll_append_singleton]
    refine ⟨⟨lo, hi, hlo, hhi, hmem⟩, ?_⟩
    refine wrap32_average ?_ (hs s (by simp))
    by_cases h : (({} : CorePerf).sampleAll earlier).average = 0
    · rw [h]
      decide
    · exact (hearlier h).2.trans_lt hword
  · have htends : p.Tends level := ⟨hp, hlevel, fun h => absurd h h0⟩
    have hq' : q.Tends level := hq ▸ htends.sampleAll times
    refine ⟨hq'.dist_sample_le now, fun hfar => hq'.dist_sample_lt hfar now, fun hlen => ?_⟩
    have hsettled : q.Settled level := hq ▸ htends.settled_sampleAll (.inr hlen)
    exact ⟨hsettled, hq'.average_sample_of_settled hsettled now⟩

/-- A core that goes from full speed to a stop, and one at 40 that is sampled at 3 long enough to settle. -/
theorem average_bounded_and_settling_cooling :
    (∃ lo hi, [800, 0].min? = some lo ∧ [800, 0].max? = some hi ∧
      lo ≤ (({} : CorePerf).sampleAll [⟨800, 1⟩, ⟨0, 2⟩]).average ∧
      (({} : CorePerf).sampleAll [⟨800, 1⟩, ⟨0, 2⟩]).average ≤ hi) ∧
    Nat.dist (({ average := 40 } : CorePerf).sample 3 5).average 3 < Nat.dist 40 3 ∧
    (({ average := 40 } : CorePerf).sampleAll (Sample.repeated 3 (List.range 37))).Settled 3 := by
  have hsettle := average_bounded_and_settling.2 { average := 40 } 3 (by decide) (by decide) (by decide)
  have hlevels : ∀ r ∈ [(⟨800, 1⟩ : Sample)] ++ [⟨0, 2⟩], r.level < UInt32.size := by decide
  refine ⟨(average_bounded_and_settling.1 [⟨800, 1⟩] ⟨0, 2⟩ hlevels).1, ?_, ?_⟩
  · exact (hsettle [] 5 _ rfl).2.1 (.inl (by decide))
  · exact ((hsettle (List.range 37) 5 _ rfl).2.2 (by decide)).1

end CorePerf

end CoreSteer
