import Mathlib
import QueryFederation.Number.Binary

/-! The exact values of magnitudes, and of binary numbers with infinities at both ends. -/
namespace QueryFederation.Number

theorem powerOfTwoEq (exponent : Nat) : powerOfTwo exponent = 2 ^ exponent := rfl

namespace Format
variable {format : Format}

def exact (format : Format) (magnitude : Nat) : ℚ :=
  (format.decode magnitude).mantissa * 2 ^ (format.decode magnitude).scale

theorem unitPositive : 0 < format.unit := Nat.two_pow_pos _

/- A mantissa at a number of steps above the least scale. It begins with its unit, unless there is no
smaller scale; the last one is the first of the next scale too. -/
structure Placed (format : Format) (steps mantissa : Nat) : Prop where
  normal : steps = 0 ∨ format.unit ≤ mantissa
  fits : mantissa ≤ 2 * format.unit

theorem decodePlaced {steps mantissa : Nat} (placed : format.Placed steps mantissa)
    (less : mantissa < 2 * format.unit) :
    format.decode (steps * format.unit + mantissa) = ⟨mantissa, format.leastScale + steps⟩ := by
  have positive : 0 < format.unit := unitPositive
  by_cases small : mantissa < format.unit
  · have first : steps = 0 := placed.normal.resolve_right (by omega)
    simp [decode, first, Nat.div_eq_of_lt small, Nat.mod_eq_of_lt small]
  · obtain ⟨fraction, rfl⟩ := Nat.exists_eq_add_of_le (not_lt.mp small)
    have fractional : fraction < format.unit := by omega
    have split : steps * format.unit + (format.unit + fraction) =
        fraction + format.unit * (steps + 1) := by ring
    have exponent : (steps * format.unit + (format.unit + fraction)) / format.unit = steps + 1 := by
      rw [split, Nat.add_mul_div_left _ _ positive, Nat.div_eq_of_lt fractional, Nat.zero_add]
    have rest : (steps * format.unit + (format.unit + fraction)) % format.unit = fraction := by
      rw [split, Nat.add_mul_mod_self_left, Nat.mod_eq_of_lt fractional]
    rw [decode, exponent, rest]
    simp

theorem exactPlaced {steps mantissa : Nat} (placed : format.Placed steps mantissa) :
    format.exact (steps * format.unit + mantissa) =
      mantissa * (2 : ℚ) ^ (format.leastScale + steps) := by
  rcases placed.fits.lt_or_eq with less | rfl
  · rw [exact, decodePlaced placed less]
  · have positive : 0 < format.unit := unitPositive
    have next : format.Placed (steps + 1) format.unit := ⟨.inr le_rfl, by omega⟩
    have same : steps * format.unit + 2 * format.unit =
        (steps + 1) * format.unit + format.unit := by ring
    have grown : format.leastScale + ((steps + 1 : Nat) : Int) = format.leastScale + steps + 1 := by
      push_cast
      ring
    rw [same, exact, decodePlaced next (by omega), grown, zpow_add_one₀ two_ne_zero]
    push_cast
    ring

theorem everyPlaced (format : Format) (magnitude : Nat) : ∃ steps mantissa,
    magnitude = steps * format.unit + mantissa ∧ format.Placed steps mantissa ∧
      mantissa < 2 * format.unit := by
  have positive : 0 < format.unit := unitPositive
  have split := Nat.div_add_mod' magnitude format.unit
  have rest := Nat.mod_lt magnitude positive
  by_cases small : magnitude < format.unit
  · exact ⟨0, magnitude, by omega, ⟨.inl rfl, by omega⟩, by omega⟩
  · have least : 1 ≤ magnitude / format.unit :=
      (Nat.one_le_div_iff positive).mpr (not_lt.mp small)
    obtain ⟨steps, known⟩ := Nat.exists_eq_add_of_le' least
    rw [known, Nat.succ_mul] at split
    exact ⟨steps, format.unit + magnitude % format.unit, by omega, ⟨.inr (by omega), by omega⟩,
      by omega⟩

theorem exactStrictMono : StrictMono format.exact := by
  refine strictMono_nat_of_lt_succ fun magnitude => ?_
  obtain ⟨steps, mantissa, rfl, placed, less⟩ := everyPlaced format magnitude
  have next : format.Placed steps (mantissa + 1) := ⟨placed.normal.imp_right (by omega), less⟩
  rw [Nat.add_assoc, exactPlaced placed, exactPlaced next]
  have positive : (0 : ℚ) < 2 ^ (format.leastScale + steps) := by positivity
  push_cast
  linarith

theorem exactZero : format.exact 0 = 0 := by
  have placed : format.Placed 0 0 := ⟨.inl rfl, Nat.zero_le _⟩
  simpa using exactPlaced placed

end Format

end QueryFederation.Number
