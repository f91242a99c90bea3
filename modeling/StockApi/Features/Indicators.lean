import StockApi.Features.Scaling
import Mathlib.Analysis.SpecialFunctions.Log.Basic
import Mathlib.Analysis.SpecialFunctions.Sqrt

/-!
# Indicators over the reals

A longer history does not change an earlier entry, and what is there lies within its bounds.
-/

namespace StockApi.Features

open Checked Series

noncomputable def realFunctions : MathFunctions ℝ := ⟨Real.sqrt, Real.log, fun x => Real.log (1 + x)⟩

theorem lawful_realFunctions : realFunctions.Lawful where
  sqrt_nonneg := Real.sqrt_nonneg
  log_mul := fun ha hb => Real.log_mul ha.ne' hb.ne'

section Reals

variable {policyHash : IndicatorConfig ℝ → String} {config : IndicatorConfig ℝ} {s : OhlcSeries ℝ}

/-- The last entry of every output is there. -/
def TechnicalIndicators.Complete (output : TechnicalIndicators ℝ) : Prop :=
  ∀ values ∈ output.series, ∃ v, values.getLast? = some (some v)

theorem complete_bundleOf (valid : s.Valid) :
    (bundleOf realFunctions policyHash config s).Complete ↔ requiredObservations config ≤ s.closes.length := by
  have hAligned : ∀ x ∈ (bundleOf realFunctions policyHash config s).warmUps, Aligned s.closes.length x :=
    aligned_bundleOf valid
  have hSeries : (bundleOf realFunctions policyHash config s).series =
      (bundleOf realFunctions policyHash config s).warmUps.map Prod.fst := rfl
  have hLast : (bundleOf realFunctions policyHash config s).Complete ↔
      ∀ x ∈ (bundleOf realFunctions policyHash config s).warmUps, x.2 < s.closes.length := by
    rw [TechnicalIndicators.Complete, hSeries, List.forall_mem_map]
    exact forall₂_congr fun x hx => (hAligned x hx).2.2
  exact hLast.trans requiredObservations_le_iff.symm

/-- Every output of valid observations is aligned, within its bounds and in the unit of the prices; it is
complete from `required_observations` on, and longer histories extend it. -/
theorem calculateIndicators_causal (valid : s.Valid) :
    ((∃ output, calculateIndicators realFunctions policyHash config s = .ok output) ↔
        requiredObservations config ≤ s.closes.length) ∧
      (∃ output, indicatorBundle realFunctions policyHash config s = .ok output ∧
        (output.Complete ↔ requiredObservations config ≤ s.closes.length)) ∧
      ∀ output, calculateIndicators realFunctions policyHash config s = .ok output →
        (∀ k, requiredObservations config ≤ k → k ≤ s.closes.length →
          calculateIndicators realFunctions policyHash config (s.take k) = .ok (output.take k)) ∧
        (∀ x ∈ output.warmUps, Aligned s.closes.length x) ∧
        output.Bounded s.closes ∧
        ∀ c, 0 < c → calculateIndicators realFunctions policyHash config (s.scale c) = .ok (output.scale c) := by
  have hPos : 0 < requiredObservations config := by
    rw [requiredObservations]
    omega
  refine ⟨⟨?_, fun long => ⟨_, calculateIndicators_eq valid long⟩⟩,
    ⟨_, indicatorBundle_eq valid, complete_bundleOf valid⟩, ?_⟩
  · rintro ⟨output, h⟩
    exact (calculateIndicators_ok h).2
  · intro output h
    have hLong := (calculateIndicators_ok h).2
    rw [calculateIndicators_eq valid hLong, Except.ok.injEq] at h
    subst h
    refine ⟨?_, aligned_bundleOf valid, bounded_bundleOf lawful_realFunctions policyHash config s, ?_⟩
    · intro k hk hle
      have hLength : requiredObservations config ≤ (s.take k).closes.length := by
        rw [OhlcSeries.take, List.length_take, Nat.min_eq_left hle]
        exact hk
      rw [calculateIndicators_eq (valid.take (Nat.lt_of_lt_of_le hPos hk)) hLength, bundleOf_take]
    · intro c hc
      have hLength : requiredObservations config ≤ (s.scale c).closes.length := by
        rw [OhlcSeries.scale, List.length_map]
        exact hLong
      rw [calculateIndicators_eq (valid.scale hc) hLength,
        bundleOf_scale lawful_realFunctions hc policyHash config valid]

end Reals

/-! ## Three days at one price -/

def shortConfig : IndicatorConfig ℝ where
  returnPeriod := 1
  smaPeriod := 1
  emaPeriod := 1
  volatilityPeriod := 2
  rsiPeriod := 1
  macdFastPeriod := 1
  macdSlowPeriod := 2
  macdSignalPeriod := 1
  bollingerPeriod := 1
  bollingerStandardDeviations := 2
  atrPeriod := 1
  positive := by decide
  volatility := Nat.le_refl 2
  ordered := Nat.lt_succ_self 1
  deviations := two_pos

def flatSeries : OhlcSeries ℝ := ⟨[0, 1, 2], [1, 1, 1], [1, 1, 1], [1, 1, 1], [1, 1, 1]⟩

theorem flatSeries_valid : flatSeries.Valid := by
  constructor
  · exact List.cons_ne_nil _ _
  · exact ⟨rfl, rfl, rfl, rfl⟩
  · simp only [flatSeries]
    decide
  · simp [flatSeries]
  · simp [flatSeries]
  · simp [flatSeries, hlcOf]
  · simp [flatSeries]

theorem flatSeries_causal : ∃ output, calculateIndicators realFunctions (fun _ => "identity") shortConfig flatSeries =
    .ok output := by
  have hRequired : requiredObservations shortConfig = 3 := rfl
  apply (calculateIndicators_causal flatSeries_valid).1.mpr
  rw [hRequired]
  exact Nat.le_refl 3

end StockApi.Features
