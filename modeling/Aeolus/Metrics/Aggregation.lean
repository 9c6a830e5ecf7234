/-
# Aeolus.Metrics.Aggregation — summaries of a window, and rates of counters

`src/metrics/aggregation.ts` and `src/metrics/rate-computer.ts`, in exact arithmetic.

A window ends at a multiple of its length, and both its ends belong to it.  So two
windows share at most one instant, the boundary between neighbours (`windows_meet`).
-/
import Mathlib.Data.Rat.Floor
import Aeolus.Theory.OrderedMap

namespace Aeolus.Metrics

open Aeolus.Theory

/-! ## Summaries -/

structure AggregateResult where
  avg : ℚ
  peak : ℚ
  deriving DecidableEq

def computeAggregate : List ℚ → AggregateResult
  | [] => ⟨0, 0⟩
  | first :: rest =>
      { avg := (first :: rest).foldl (· + ·) 0 / (first :: rest).length
        -- the first value is above the `-Infinity` the loop starts with
        peak := rest.foldl (fun peak v => if peak < v then v else peak) first }

structure SpikeEntry where
  instant : ℤ
  value : ℚ
  deriving DecidableEq

/-- The highest of the values above twice the average; the earlier one of two as high. -/
def detectSpikes (samples : List SpikeEntry) : Option SpikeEntry :=
  if samples.length < 3 then none
  else
    let avg := samples.foldl (fun sum sample => sum + sample.value) (0 : ℚ) / samples.length
    samples.foldl (fun spike sample =>
      if 2 * avg < sample.value ∧ spike.all (·.value < sample.value) then some sample
      else spike) none

/-! ## Windows -/

def alignToWindow (timestampMs : ℤ) (windowMs : ℚ) : ℚ := ⌊timestampMs / windowMs⌋ * windowMs

theorem alignToWindow_eq (timestampMs : ℤ) (windowMs : ℚ) :
    ∃ k : ℤ, alignToWindow timestampMs windowMs = k * windowMs := ⟨_, rfl⟩

/-- Two windows have at most the boundary between them in common. -/
theorem windows_meet {windowMs instant : ℚ} (positive : 0 < windowMs) {j k : ℤ} (before : j < k)
    (first : instant ≤ j * windowMs) (second : k * windowMs - windowMs ≤ instant) :
    (k : ℚ) * windowMs = j * windowMs + windowMs ∧ instant = j * windowMs := by
  have next : (j : ℚ) + 1 ≤ k := by exact_mod_cast before
  have after : ((j : ℚ) + 1) * windowMs ≤ k * windowMs := by gcongr
  constructor <;> linarith

/-! ## Rates -/

/-- The previous value of every counter. -/
abbrev RateComputer := OrderedMap String ℚ

/-- `none` at the first value of a counter, and after a reset. -/
def computeRate (rateComputer : RateComputer) (metricName : String) (currentValue : ℚ)
    (intervalSeconds : ℚ) : Option ℚ × RateComputer :=
  let rate :=
    match rateComputer.get metricName with
    | none => none
    | some previous =>
        if currentValue < previous then none
        else some ((currentValue - previous) / intervalSeconds)
  (rate, rateComputer.set metricName currentValue)

/-- How far a counter is known to have moved. -/
def increment (previous : Option ℚ) (currentValue : ℚ) : ℚ :=
  match previous with
  | none => 0
  | some previous => if currentValue < previous then 0 else currentValue - previous

/-- A rate over an interval is the counter's increment. -/
theorem computeRate_mul (rateComputer : RateComputer) (metricName : String)
    (currentValue : ℚ) {intervalSeconds : ℚ} (positive : 0 < intervalSeconds) :
    ((computeRate rateComputer metricName currentValue intervalSeconds).1.getD 0) *
      intervalSeconds = increment (rateComputer.get metricName) currentValue := by
  unfold computeRate increment
  cases rateComputer.get metricName with
  | none => simp
  | some previous =>
      by_cases reset : currentValue < previous
      · simp [reset]
      · simp [reset, positive.ne']

end Aeolus.Metrics
