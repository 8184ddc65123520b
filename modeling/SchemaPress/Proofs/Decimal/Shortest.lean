import SchemaPress.Proofs.Decimal.Rounding
import Mathlib.Data.Rat.Floor

/-!
# The shortest decimal rounds to its double

The decimal that `Double.shortest` finds lies in the neighbourhood of the double
(`contains_shortest`), so the double can be made from it again. That the search ends with a decimal at
all is a matter of the last grid: with seventeen digits its step is narrower than any neighbourhood,
and one of the two grid points around the double is inside (`withDigits_seventeen`).
-/

namespace SchemaPress.Double

namespace Neighbourhood

variable {n : Neighbourhood}

/-- The double inside a neighbourhood. -/
def double (n : Neighbourhood) : ℚ :=
  n.centre * n.unit

/-- **The leading exponent brackets the double**, wherever its estimate by binary places does. -/
theorem leadingExponent_spec (hbottom : 0 < n.unitBottom) {bits : Int}
    (hbits : ((n.centre * n.unitTop).log2 : Int) - n.unitBottom.log2 = bits)
    (hlow : -1074 ≤ bits) (hhigh : bits ≤ 1023) (hle : (2 : ℚ) ^ bits ≤ n.double)
    (hlt : n.double < 2 ^ (bits + 1)) :
    (10 : ℚ) ^ n.leadingExponent ≤ n.double ∧ n.double < 10 ^ (n.leadingExponent + 1) := by
  have hleast : (10 : ℚ) ^ (bits * 30103 / 100000 - 2) ≤ n.double :=
    (ten_zpow_le_two_zpow (by omega) (by omega)).trans hle
  have hmost : n.double < (10 : ℚ) ^ (bits * 30103 / 100000 + 2 + 1) :=
    hlt.trans_le (two_zpow_le_ten_zpow (by omega) (by omega))
  unfold leadingExponent
  simp only [hbits]
  generalize bits * 30103 / 100000 = estimate at hleast hmost
  generalize hp : (fun k => decide ((n.scales ⟨1, k⟩ n.centre).1 ≤ (n.scales ⟨1, k⟩ n.centre).2)) =
    reached
  have hreached (k : Int) : reached k = true ↔ (10 : ℚ) ^ k ≤ n.double := by
    rw [← hp, decide_eq_true_eq, scales_le_iff hbottom, Decimal.value, Nat.cast_one, one_mul,
      double]
  -- the first power in the list that is reached; those in front of it are not
  have hfirst (k : Int) (h : ¬ reached k = true) : n.double < (10 : ℚ) ^ k :=
    not_le.1 (mt (hreached k).2 h)
  by_cases h₁ : reached (estimate + 2) = true
  · rw [List.find?_cons_of_pos h₁]
    exact ⟨(hreached _).1 h₁, hmost⟩
  rw [List.find?_cons_of_neg h₁]
  by_cases h₂ : reached (estimate + 1) = true
  · rw [List.find?_cons_of_pos h₂]
    exact ⟨(hreached _).1 h₂, hfirst (estimate + 1 + 1) (by rwa [add_assoc])⟩
  rw [List.find?_cons_of_neg h₂]
  by_cases h₃ : reached estimate = true
  · rw [List.find?_cons_of_pos h₃]
    exact ⟨(hreached _).1 h₃, hfirst _ h₂⟩
  rw [List.find?_cons_of_neg h₃]
  by_cases h₄ : reached (estimate - 1) = true
  · rw [List.find?_cons_of_pos h₄]
    exact ⟨(hreached _).1 h₄, by simpa only [sub_add_cancel] using hfirst _ h₃⟩
  rw [List.find?_cons_of_neg h₄, List.find?_nil]
  refine ⟨hleast, ?_⟩
  rw [show estimate - 2 + 1 = estimate - 1 by ring]
  exact hfirst _ h₄

/-! ### Grids of decimals -/

/-- The number of the grid point at the double or below it. -/
def floor (n : Neighbourhood) (exponent : Int) : Nat :=
  n.centre * n.unitTop * (powerOfTen exponent).2 / ((powerOfTen exponent).1 * n.unitBottom)

/-- **The grid points up to the double** are those up to that number. -/
theorem le_floor_iff (hbottom : 0 < n.unitBottom) (exponent : Int) (digits : Nat) :
    digits ≤ n.floor exponent ↔ digits * (10 : ℚ) ^ exponent ≤ n.double := by
  have hscales := scales_le_iff hbottom ⟨digits, exponent⟩ n.centre
  rw [double, ← Decimal.value.eq_def ⟨digits, exponent⟩, ← hscales, floor,
    Nat.le_div_iff_mul_le (Nat.mul_pos (powerOfTen_pos exponent).1 hbottom), ← Nat.mul_assoc]
  exact Iff.rfl

/-- The step of the grid with this many digits. -/
def step (n : Neighbourhood) (count : Nat) : Int :=
  n.leadingExponent - count + 1

section Grid

variable (count : Nat)

/-- The grid point below the double. -/
def below (n : Neighbourhood) (count : Nat) : Decimal :=
  ⟨n.floor (n.step count), n.step count⟩

/-- The grid point above the double. -/
def above (n : Neighbourhood) (count : Nat) : Decimal :=
  ⟨n.floor (n.step count) + 1, n.step count⟩

/-- The grid point below the double is found only if it is not zero. -/
def belowHolds (n : Neighbourhood) (count : Nat) : Bool :=
  n.holds (n.below count) && n.floor (n.step count) != 0

/-- **What is found on a grid** is one of the two grid points around the double. -/
theorem withDigits_eq_some {d : Decimal} (h : n.withDigits count = some d) :
    (d = n.below count ∧ n.belowHolds count = true) ∨
      (d = n.above count ∧ n.holds (n.above count) = true) := by
  unfold withDigits at h
  simp only at h
  rw [← step.eq_def, ← floor.eq_def, ← below.eq_def, ← above.eq_def, ← belowHolds.eq_def] at h
  cases hbelow : n.belowHolds count <;> cases habove : n.holds (n.above count) <;>
    simp only [hbelow, habove] at h
  · cases h
  · exact .inr ⟨(Option.some.inj h).symm, rfl⟩
  · exact .inl ⟨(Option.some.inj h).symm, rfl⟩
  · split at h
    · exact .inl ⟨(Option.some.inj h).symm, rfl⟩
    · split at h
      · exact .inr ⟨(Option.some.inj h).symm, rfl⟩
      · split at h
        · exact .inl ⟨(Option.some.inj h).symm, rfl⟩
        · exact .inr ⟨(Option.some.inj h).symm, rfl⟩

theorem pos_of_withDigits {d : Decimal} (h : n.withDigits count = some d) : 0 < d.digits := by
  rcases withDigits_eq_some count h with ⟨rfl, hbelow⟩ | ⟨rfl, -⟩
  · rw [belowHolds, Bool.and_eq_true, bne_iff_ne] at hbelow
    exact Nat.pos_of_ne_zero hbelow.2
  · exact Nat.succ_pos _

/-- **Nothing is found on a grid** only if neither of them will do. -/
theorem withDigits_eq_none (h : n.withDigits count = none) :
    n.belowHolds count = false ∧ n.holds (n.above count) = false := by
  unfold withDigits at h
  simp only at h
  rw [← step.eq_def, ← floor.eq_def, ← below.eq_def, ← above.eq_def, ← belowHolds.eq_def] at h
  cases hbelow : n.belowHolds count <;> cases habove : n.holds (n.above count) <;>
    simp only [hbelow, habove] at h
  · exact ⟨rfl, rfl⟩
  · cases h
  · cases h
  · split at h
    · cases h
    · split at h
      · cases h
      · split at h <;> cases h

end Grid

end Neighbourhood

/-! ### The search for a double -/

open Neighbourhood

/-- What is found is positive. If nothing were found for a double, its decimal would be zero. -/
theorem pos_or_eq_of_shortest (mantissa exponent : Nat) :
    0 < (shortest mantissa exponent).digits ∨ shortest mantissa exponent = ⟨0, 0⟩ := by
  have hshortest : shortest mantissa exponent = ((List.range 17).findSome? fun i =>
      (neighbourhood mantissa exponent).withDigits (i + 1)).getD ⟨0, 0⟩ := by
    rw [shortest]
  rw [hshortest]
  generalize hsearch : ((List.range 17).findSome? fun i =>
    (neighbourhood mantissa exponent).withDigits (i + 1)) = found
  cases found with
  | none => exact .inr (Option.getD_none ..)
  | some d =>
    obtain ⟨i, -, hd⟩ := List.exists_of_findSome?_eq_some hsearch
    rw [Option.getD_some]
    exact .inl (pos_of_withDigits (i + 1) hd)

theorem double_neighbourhood (m e : Nat) :
    (neighbourhood m e).double = 4 * m * (neighbourhood m e).unit := by
  have hcentre : ((neighbourhood m e).centre : ℚ) = 4 * m := by
    exact_mod_cast (rfl : (neighbourhood m e).centre = 4 * m)
  rw [double, hcentre]

/-- The leading exponent brackets the double. -/
theorem leadingExponent_neighbourhood {m e : Nat} (hm : 0 < m) (hform : IsForm m e)
    (he : e ≤ maxExponent) :
    (10 : ℚ) ^ (neighbourhood m e).leadingExponent ≤ (neighbourhood m e).double ∧
      (neighbourhood m e).double < 10 ^ ((neighbourhood m e).leadingExponent + 1) := by
  have hscaled : (neighbourhood m e).double = ((4 * m * 2 ^ e : Nat) : ℚ) * 2 ^ (-1076 : Int) := by
    rw [double_neighbourhood, unit_neighbourhood, sub_eq_add_neg, zpow_add₀ two_ne_zero,
      zpow_natCast, ← mul_assoc]
    norm_cast
  have hpos : 0 < 4 * m * 2 ^ e := by positivity
  -- the places of the scaled double are between those of the smallest and of the greatest one
  have hleast : 2 ≤ (4 * m * 2 ^ e).log2 := by
    rw [Nat.le_log2 hpos.ne']
    calc 2 ^ 2 ≤ 4 * m := by omega
      _ ≤ 4 * m * 2 ^ e := Nat.le_mul_of_pos_right _ (Nat.pow_pos (by decide))
  have hmost : (4 * m * 2 ^ e).log2 < 55 + e := by
    rw [Nat.log2_lt hpos.ne', pow_add]
    exact Nat.mul_lt_mul_of_pos_right (by have := hform.lt; omega) (Nat.pow_pos (by decide))
  have he' : e ≤ 2045 := he
  have hbits : ((((neighbourhood m e).centre * (neighbourhood m e).unitTop).log2 : Nat) : Int) -
      (neighbourhood m e).unitBottom.log2 = (4 * m * 2 ^ e).log2 - 1076 := by
    have hbottom (k : Nat) : (Nat.pow 2 k).log2 = k := Nat.log2_two_pow
    dsimp only [neighbourhood]
    rw [show (1076 : Int) = ((1076 : Nat) : Int) from rfl]
    generalize 1076 = k
    rw [hbottom]
    rfl
  refine leadingExponent_spec (unitBottom_neighbourhood_pos m e) hbits (by omega) (by omega) ?_ ?_
  · rw [hscaled, sub_eq_add_neg, zpow_add₀ two_ne_zero]
    exact mul_le_mul_of_nonneg_right (two_zpow_log2_le hpos) (zpow_pos two_pos _).le
  · rw [hscaled, sub_add_eq_add_sub, sub_eq_add_neg, zpow_add₀ two_ne_zero]
    exact mul_lt_mul_of_pos_right (lt_two_zpow_log2 _) (zpow_pos two_pos _)

/-- The double is greater than the lower end, which is greater than zero. -/
theorem low_lt_double {m : Nat} (hm : 0 < m) (e : Nat) :
    0 < ((neighbourhood m e).low : ℚ) * (neighbourhood m e).unit ∧
      (neighbourhood m e).low * (neighbourhood m e).unit < (neighbourhood m e).double := by
  have hunit := unit_neighbourhood_pos m e
  have hlow : 0 < (neighbourhood m e).low ∧ (neighbourhood m e).low < 4 * m := by
    have := low_neighbourhood m e
    omega
  rw [double_neighbourhood]
  refine ⟨mul_pos (by exact_mod_cast hlow.1) hunit, ?_⟩
  exact mul_lt_mul_of_pos_right (by exact_mod_cast hlow.2) hunit

/-- The double is less than the upper end. -/
theorem double_lt_high (m e : Nat) :
    (neighbourhood m e).double < (neighbourhood m e).high * (neighbourhood m e).unit := by
  have hhigh : ((neighbourhood m e).high : ℚ) = 4 * m + 2 := by
    exact_mod_cast (rfl : (neighbourhood m e).high = 4 * m + 2)
  rw [double_neighbourhood, hhigh]
  exact mul_lt_mul_of_pos_right (by linarith) (unit_neighbourhood_pos m e)

/-- **Where nothing is found, the grid is as wide as the neighbourhood**: both grid points around the
double are outside of it. -/
theorem width_le_of_withDigits_eq_none {m e count : Nat} (hm : 0 < m)
    (h : (neighbourhood m e).withDigits count = none) :
    ((neighbourhood m e).high - (neighbourhood m e).low : ℚ) * (neighbourhood m e).unit ≤
      10 ^ (neighbourhood m e).step count := by
  have hbottom := unitBottom_neighbourhood_pos m e
  obtain ⟨hzero, hlow⟩ := low_lt_double hm e
  have hhigh := double_lt_high m e
  obtain ⟨hbelow, habove⟩ := withDigits_eq_none count h
  have hpoint (digits : Nat) := le_floor_iff hbottom ((neighbourhood m e).step count) digits
  rw [belowHolds, Bool.and_eq_false_iff, bne_eq_false_iff_eq, ← Bool.not_eq_true,
    holds_iff hbottom] at hbelow
  rw [← Bool.not_eq_true, holds_iff hbottom] at habove
  unfold below Decimal.value at hbelow
  unfold above Decimal.value at habove
  simp only at hbelow habove
  generalize (neighbourhood m e).floor ((neighbourhood m e).step count) = floor at *
  have hup := (hpoint floor).1 le_rfl
  have hdown := not_le.1 (mt (hpoint (floor + 1)).2 (by omega))
  generalize (10 : ℚ) ^ (neighbourhood m e).step count = step at *
  -- the lower point is no further up than the lower end, the upper one no further down
  have hfirst : floor * step ≤ (neighbourhood m e).low * (neighbourhood m e).unit := by
    by_contra hlt
    have hlt := not_le.1 hlt
    rcases hbelow with hout | rfl
    · exact hout (contains_of_lt hlt (hup.trans_lt hhigh))
    · rw [Nat.cast_zero, zero_mul] at hlt
      exact absurd hzero (not_lt.2 hlt.le)
  have hlast : (neighbourhood m e).high * (neighbourhood m e).unit ≤ (floor + 1 : Nat) * step := by
    by_contra hlt
    exact habove (contains_of_lt (hlow.trans hdown) (not_le.1 hlt))
  rw [sub_mul]
  push_cast at hlast
  linarith

section Search

variable {m e : Nat} (hm : 0 < m) (hform : IsForm m e) (he : e ≤ maxExponent)

include hm hform he

/-- **What is found rounds to the double**, and has as many digits as were asked for. -/
theorem contains_withDigits {count : Nat} {d : Decimal}
    (h : (neighbourhood m e).withDigits count = some d) :
    (neighbourhood m e).Contains d.value ∧ 0 < d.digits ∧ d.digits ≤ 10 ^ count := by
  have hbottom := unitBottom_neighbourhood_pos m e
  -- a grid of so many digits has fewer points up to the double
  have hfloor : (neighbourhood m e).floor ((neighbourhood m e).step count) < 10 ^ count := by
    by_contra hge
    have hle := (le_floor_iff hbottom _ _).1 (not_lt.1 hge)
    rw [Nat.cast_pow, Nat.cast_ofNat, ← zpow_natCast, ← zpow_add₀ (by norm_num), step,
      show ∀ k : Int, (count : Int) + (k - count + 1) = k + 1 by intro k; ring] at hle
    exact absurd (leadingExponent_neighbourhood hm hform he).2 (not_lt.2 hle)
  rcases withDigits_eq_some count h with ⟨rfl, hbelow⟩ | ⟨rfl, habove⟩
  · rw [belowHolds, Bool.and_eq_true, bne_iff_ne, holds_iff hbottom] at hbelow
    exact ⟨hbelow.1, Nat.pos_of_ne_zero hbelow.2, hfloor.le⟩
  · rw [holds_iff hbottom] at habove
    exact ⟨habove, Nat.succ_pos _, hfloor⟩

/-- **Seventeen digits suffice.** Otherwise the step of the grid, which is at most the `10 ^ 16`th part
of the double, would be as wide as the neighbourhood. -/
theorem withDigits_seventeen : (neighbourhood m e).withDigits 17 ≠ none := by
  intro hnone
  have hwidth := width_le_of_withDigits_eq_none hm hnone
  have hgrid := (leadingExponent_neighbourhood hm hform he).1
  rw [show (neighbourhood m e).leadingExponent = (neighbourhood m e).step 17 + 16 by
    rw [step]; ring, zpow_add₀ (by norm_num), double_neighbourhood] at hgrid
  generalize (10 : ℚ) ^ (neighbourhood m e).step 17 = step at hwidth hgrid
  -- so many units make more than the whole double
  have hmany : ((neighbourhood m e).high - (neighbourhood m e).low : ℚ) * 10 ^ 16 ≤ 4 * m := by
    refine le_of_mul_le_mul_right ?_ (unit_neighbourhood_pos m e)
    have hsixteen : step * 10 ^ 16 ≤ 4 * m * (neighbourhood m e).unit := hgrid
    linarith
  have hend : ((neighbourhood m e).high : ℚ) = 4 * m + 2 := by
    exact_mod_cast (rfl : (neighbourhood m e).high = 4 * m + 2)
  have hfull : (m : ℚ) < 2 ^ 53 := by exact_mod_cast hform.lt
  rw [hend] at hmany
  rcases low_neighbourhood m e with ⟨heq, -⟩ | ⟨heq, rfl, -⟩
  · rw [heq, Nat.cast_sub (by omega)] at hmany
    push_cast at hmany
    linarith
  · rw [heq, Nat.cast_sub (by omega)] at hmany
    push_cast at hmany
    linarith

/-- **The shortest decimal rounds to its double.** -/
theorem contains_shortest :
    (neighbourhood m e).Contains (shortest m e).value ∧ 0 < (shortest m e).digits ∧
      (shortest m e).digits ≤ 10 ^ 17 := by
  unfold shortest
  simp only
  cases hfound : (List.range 17).findSome? fun i => (neighbourhood m e).withDigits (i + 1) with
  | none =>
    have hlast := List.findSome?_eq_none_iff.1 hfound 16 (List.mem_range.2 (by omega))
    exact absurd hlast (withDigits_seventeen hm hform he)
  | some d =>
    obtain ⟨i, hi, hd⟩ := List.exists_of_findSome?_eq_some hfound
    obtain ⟨hcontains, hpos, hle⟩ := contains_withDigits hm hform he hd
    refine ⟨hcontains, hpos, hle.trans (Nat.pow_le_pow_right (by omega) ?_)⟩
    have := List.mem_range.1 hi
    omega

end Search

end SchemaPress.Double
