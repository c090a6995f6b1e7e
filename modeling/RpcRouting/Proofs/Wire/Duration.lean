import RpcRouting.Proofs.Wire.RoundTrip

namespace RpcRouting.Wire.Duration

-- What 64 bits should hold of an integer of any size: the integer where it is in range, and
-- otherwise the end of the range beyond which it lies.
def Saturated (n : Int) (result : Int64) : Prop :=
  (Int64.minValue.toInt ≤ n → n ≤ Int64.maxValue.toInt → result.toInt = n) ∧
    (Int64.maxValue.toInt < n → result = Int64.maxValue) ∧
    (n < Int64.minValue.toInt → result = Int64.minValue)

theorem toInt_saturate (n : Int) :
    (saturate n).toInt = max Int64.minValue.toInt (min Int64.maxValue.toInt n) := by
  rw [saturate, Int64.toInt_minValue, Int64.toInt_maxValue]
  apply Int64.toInt_ofInt_of_le
  · omega
  · omega

theorem saturated_iff {n : Int} {result : Int64} : Saturated n result ↔ result = saturate n := by
  have hordered : Int64.minValue.toInt < Int64.maxValue.toInt := by decide
  have hclamped := toInt_saturate n
  simp only [Saturated, ← Int64.toInt_inj]
  constructor
  · rintro ⟨hinside, habove, hbelow⟩
    by_cases hhigh : Int64.maxValue.toInt < n
    · have hresult := habove hhigh
      omega
    · by_cases hlow : n < Int64.minValue.toInt
      · have hresult := hbelow hlow
        omega
      · have hresult := hinside (by omega) (by omega)
        omega
  · intro hresult
    refine ⟨?_, ?_, ?_⟩ <;> omega

-- The length in nanoseconds, however large it is.
def length (d : Duration) : Int := d.seconds.toInt * nanosPerSecond + d.nanos.toInt

-- The seconds alone are more than 64 bits of nanoseconds, and the nanoseconds count the other way.
def PulledBack (d : Duration) : Prop :=
  Int64.maxValue.toInt < d.seconds.toInt * nanosPerSecond ∧ d.nanos.toInt < 0 ∨
    d.seconds.toInt * nanosPerSecond < Int64.minValue.toInt ∧ 0 < d.nanos.toInt

variable {d : Duration}

-- The two steps in one expression.
theorem toInt_asNanos (d : Duration) :
    d.asNanos.toInt =
      max Int64.minValue.toInt (min Int64.maxValue.toInt
        (max Int64.minValue.toInt (min Int64.maxValue.toInt (d.seconds.toInt * nanosPerSecond)) +
          d.nanos.toInt)) := by
  rw [asNanos, toInt_saturate, toInt_saturate]

theorem asNanos_eq_saturate_iff : d.asNanos = saturate d.length ↔ ¬ d.PulledBack := by
  have hlow := d.nanos.le_toInt
  have hhigh := d.nanos.toInt_lt
  rw [← Int64.toInt_inj, toInt_asNanos, toInt_saturate, length, PulledBack, Int64.toInt_minValue,
    Int64.toInt_maxValue]
  omega

-- All the nanoseconds there can be are few beside the range, so they do not lead across it.
theorem toInt_asNanos_of_pulledBack (h : d.PulledBack) :
    d.asNanos.toInt =
      (if 0 < d.seconds.toInt then Int64.maxValue.toInt else Int64.minValue.toInt) +
        d.nanos.toInt := by
  have hlow := d.nanos.le_toInt
  have hhigh := d.nanos.toInt_lt
  rw [toInt_asNanos]
  simp only [PulledBack, nanosPerSecond, Int64.toInt_minValue, Int64.toInt_maxValue] at h ⊢
  rcases h with ⟨hseconds, hback⟩ | ⟨hseconds, hback⟩
  · rw [if_pos (by omega)]
    omega
  · rw [if_neg (by omega)]
    omega

-- What the nanoseconds take off the end of the range is all that can be missing.
theorem natAbs_asNanos_sub_le (d : Duration) :
    (d.asNanos.toInt - (saturate d.length).toInt).natAbs ≤ d.nanos.toInt.natAbs := by
  have hlow := d.nanos.le_toInt
  have hhigh := d.nanos.toInt_lt
  rw [toInt_asNanos, toInt_saturate, length, Int64.toInt_minValue, Int64.toInt_maxValue]
  omega

-- The sign is right in any case.
theorem asNanos_neg_iff : d.asNanos.toInt < 0 ↔ d.length < 0 := by
  have hlow := d.nanos.le_toInt
  have hhigh := d.nanos.toInt_lt
  rw [toInt_asNanos, length, Int64.toInt_minValue, Int64.toInt_maxValue]
  omega

theorem not_pulledBack_of_signs
    (h : 0 ≤ d.seconds.toInt ∧ 0 ≤ d.nanos.toInt ∨ d.seconds.toInt ≤ 0 ∧ d.nanos.toInt ≤ 0) :
    ¬ d.PulledBack := by
  simp only [PulledBack, nanosPerSecond, Int64.toInt_minValue, Int64.toInt_maxValue]
  omega

-- The length saturates, unless the seconds have left the range and the nanoseconds come back from
-- there. Then these are taken off the end of the range, even where the length itself is in range
-- again. The parts of a duration with one sign never do that, but those of a duration that is read
-- can have any signs.
theorem asNanos_saturated_iff (d : Duration) :
    (Saturated d.length d.asNanos ↔ ¬ d.PulledBack) ∧
    (d.PulledBack →
      d.asNanos.toInt =
        (if 0 < d.seconds.toInt then Int64.maxValue.toInt else Int64.minValue.toInt) +
          d.nanos.toInt) ∧
    (d.asNanos.toInt - (saturate d.length).toInt).natAbs ≤ d.nanos.toInt.natAbs ∧
    (d.asNanos.toInt < 0 ↔ d.length < 0) ∧
    (0 ≤ d.seconds.toInt ∧ 0 ≤ d.nanos.toInt ∨ d.seconds.toInt ≤ 0 ∧ d.nanos.toInt ≤ 0 →
      Saturated d.length d.asNanos) ∧
    ∃ document, read document = some d := by
  have hsaturated : Saturated d.length d.asNanos ↔ ¬ d.PulledBack := by
    rw [saturated_iff, asNanos_eq_saturate_iff]
  refine ⟨hsaturated, toInt_asNanos_of_pulledBack, d.natAbs_asNanos_sub_le, asNanos_neg_iff, ?_,
    d.write, faithful.read d⟩
  intro hsigns
  exact hsaturated.mpr (not_pulledBack_of_signs hsigns)

-- Here the length is in range, and what is given for it falls short by 145224193 nanoseconds.
example :
    let d : Duration := ⟨9223372037, -200000000⟩
    d.length = 9223372036800000000 ∧ d.length ≤ Int64.maxValue.toInt ∧
      d.asNanos = 9223372036654775807 := by decide

end RpcRouting.Wire.Duration
