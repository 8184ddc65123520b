import SchemaPress.Decimal.Shortest
import Mathlib.Algebra.Order.Field.Power
import Mathlib.Data.Rat.Cast.Order
import Mathlib.Tactic.FieldSimp
import Mathlib.Tactic.Linarith
import Mathlib.Tactic.NormNum
import Mathlib.Tactic.Positivity
import Mathlib.Tactic.Ring

/-!
# Which numbers round to a double

The numbers that round to a double are those of an interval around it, which holds its ends if the
mantissa is even (`Neighbourhood.Contains`). The tests in exact integer arithmetic decide this
(`Neighbourhood.holds_iff`). A double in its one form (`IsForm`) is told by any number of its interval:
the intervals of two doubles have at most an end in common, and then one of them is open there
(`eq_of_contains`).
-/

namespace SchemaPress.Double

/-! ### One form for each number -/

/-- **The form of a double**: the mantissa has 53 binary places, the first of which is only zero where
the exponent cannot be any lower. -/
structure IsForm (mantissa exponent : Nat) : Prop where
  lt : mantissa < 2 ^ 53
  leading : exponent = 0 ∨ 2 ^ 52 ≤ mantissa

/-- **A double in the form that tells it from all others.** -/
def Canonical : Double → Prop
  | .finite _ mantissa exponent => IsForm mantissa exponent ∧ exponent ≤ maxExponent
  | _ => True

theorem isForm_zero : IsForm 0 0 :=
  ⟨by norm_num, .inl rfl⟩

theorem canonical_zero (negative : Bool) : Canonical (.finite negative 0 0) :=
  ⟨isForm_zero, Nat.zero_le _⟩

/-! ### Decimals and points of a neighbourhood -/

/-- The number that a decimal is. -/
def Decimal.value (d : Decimal) : ℚ :=
  d.digits * (10 : ℚ) ^ d.exponent

/-- The unit that the numbers of a neighbourhood count. -/
def Neighbourhood.unit (n : Neighbourhood) : ℚ :=
  n.unitTop / n.unitBottom

/-- **The numbers that round to the double.** -/
def Neighbourhood.Contains (n : Neighbourhood) (x : ℚ) : Prop :=
  if n.closed then n.low * n.unit ≤ x ∧ x ≤ n.high * n.unit
  else n.low * n.unit < x ∧ x < n.high * n.unit

/-- Both parts of a power of ten are positive. -/
theorem powerOfTen_pos (exponent : Int) :
    0 < (powerOfTen exponent).1 ∧ 0 < (powerOfTen exponent).2 := by
  unfold powerOfTen
  split
  · exact ⟨Nat.pow_pos (by decide), Nat.one_pos⟩
  · exact ⟨Nat.one_pos, Nat.pow_pos (by decide)⟩

theorem powerOfTen_eq (exponent : Int) :
    ((powerOfTen exponent).1 : ℚ) / (powerOfTen exponent).2 = (10 : ℚ) ^ exponent := by
  unfold powerOfTen
  split
  · next h =>
    obtain ⟨k, rfl⟩ := Int.eq_ofNat_of_zero_le h
    simp [Nat.pow_eq]
  · next h =>
    obtain ⟨k, hk⟩ : ∃ k : Nat, exponent = -(k : Int) := ⟨(-exponent).toNat, by omega⟩
    subst hk
    simp [Nat.pow_eq]

namespace Neighbourhood

variable {n : Neighbourhood} (htop : 0 < n.unitTop) (hbottom : 0 < n.unitBottom)

section Scales

include hbottom

/-- **The common scale keeps the order.** -/
theorem scales_le_iff (d : Decimal) (point : Nat) :
    (n.scales d point).1 ≤ (n.scales d point).2 ↔ d.value ≤ point * n.unit := by
  have hten := (powerOfTen_pos d.exponent).2
  have hb : (0 : ℚ) < n.unitBottom := by exact_mod_cast hbottom
  have ht : (0 : ℚ) < (powerOfTen d.exponent).2 := by exact_mod_cast hten
  have value : d.value = d.digits * (powerOfTen d.exponent).1 / (powerOfTen d.exponent).2 := by
    rw [Decimal.value, ← powerOfTen_eq, mul_div_assoc]
  rw [value, unit, ← mul_div_assoc, div_le_div_iff₀ ht hb]
  exact_mod_cast Iff.rfl

/-- The common scale keeps the order, the other way round. -/
theorem scales_ge_iff (d : Decimal) (point : Nat) :
    (n.scales d point).2 ≤ (n.scales d point).1 ↔ point * n.unit ≤ d.value := by
  have hten := (powerOfTen_pos d.exponent).2
  have hb : (0 : ℚ) < n.unitBottom := by exact_mod_cast hbottom
  have ht : (0 : ℚ) < (powerOfTen d.exponent).2 := by exact_mod_cast hten
  have value : d.value = d.digits * (powerOfTen d.exponent).1 / (powerOfTen d.exponent).2 := by
    rw [Decimal.value, ← powerOfTen_eq, mul_div_assoc]
  rw [value, unit, ← mul_div_assoc, div_le_div_iff₀ hb ht]
  exact_mod_cast Iff.rfl

/-- **The test decides which decimals round to the double.** -/
theorem holds_iff (d : Decimal) : n.holds d = true ↔ n.Contains d.value := by
  have low := scales_ge_iff hbottom d n.low
  have high := scales_le_iff hbottom d n.high
  have low' := not_congr (scales_le_iff hbottom d n.low)
  have high' := not_congr (scales_ge_iff hbottom d n.high)
  rw [not_le, not_le] at low' high'
  unfold holds Contains
  simp only
  split
  · rw [Bool.and_eq_true, decide_eq_true_eq, decide_eq_true_eq, low, high]
  · rw [Bool.and_eq_true, decide_eq_true_eq, decide_eq_true_eq, low', high']

end Scales

/-- What all numbers of a neighbourhood have in common, whether its ends belong to it or not. -/
theorem Contains.bounds {x : ℚ} (h : n.Contains x) : n.low * n.unit ≤ x ∧ x ≤ n.high * n.unit := by
  unfold Contains at h
  split at h
  · exact h
  · exact ⟨h.1.le, h.2.le⟩

/-- Between the ends all numbers belong to the neighbourhood. -/
theorem contains_of_lt {x : ℚ} (hlow : n.low * n.unit < x) (hhigh : x < n.high * n.unit) :
    n.Contains x := by
  unfold Contains
  split
  · exact ⟨hlow.le, hhigh.le⟩
  · exact ⟨hlow, hhigh⟩

end Neighbourhood

/-! ### The neighbourhoods of doubles -/

theorem cast_two_pow (k : Nat) : ((Nat.pow 2 k : Nat) : ℚ) = (2 : ℚ) ^ (k : Int) := by
  rw [zpow_natCast]
  exact Nat.cast_pow 2 k

theorem unitBottom_neighbourhood_pos (mantissa exponent : Nat) :
    0 < (neighbourhood mantissa exponent).unitBottom := by
  dsimp only [neighbourhood]
  generalize 1076 = k
  exact Nat.two_pow_pos k

/-- A quarter of the last binary place. -/
theorem unit_neighbourhood (mantissa exponent : Nat) :
    (neighbourhood mantissa exponent).unit = (2 : ℚ) ^ ((exponent : Int) - 1076) := by
  dsimp only [Neighbourhood.unit, neighbourhood]
  rw [show (1076 : Int) = ((1076 : Nat) : Int) from rfl]
  generalize 1076 = k
  rw [cast_two_pow, cast_two_pow, zpow_sub₀ two_ne_zero]

theorem unit_neighbourhood_pos (mantissa exponent : Nat) :
    0 < (neighbourhood mantissa exponent).unit := by
  rw [unit_neighbourhood]
  exact zpow_pos two_pos _

/-- The lower end of a neighbourhood is one or two quarters of a place away from the double. -/
theorem low_neighbourhood (mantissa exponent : Nat) :
    ((neighbourhood mantissa exponent).low = 4 * mantissa - 2 ∧
        (mantissa = 2 ^ 52 → exponent = 0)) ∨
      ((neighbourhood mantissa exponent).low = 4 * mantissa - 1 ∧ mantissa = 2 ^ 52 ∧
        0 < exponent) := by
  unfold neighbourhood
  simp only [Nat.pow_eq]
  split
  · next h => exact .inr ⟨rfl, h⟩
  · next h => exact .inl ⟨rfl, fun hm => by omega⟩

/-- An odd mantissa leaves the ends out. -/
theorem strict_of_odd {mantissa exponent : Nat} (hodd : mantissa % 2 = 1) {x : ℚ}
    (h : (neighbourhood mantissa exponent).Contains x) :
    (neighbourhood mantissa exponent).low * (neighbourhood mantissa exponent).unit < x ∧
      x < (neighbourhood mantissa exponent).high * (neighbourhood mantissa exponent).unit := by
  have hopen : (neighbourhood mantissa exponent).closed = false := by
    simp only [neighbourhood, hodd, Nat.one_ne_zero, beq_iff_eq, Bool.eq_false_iff, ne_eq,
      not_false_eq_true]
  unfold Neighbourhood.Contains at h
  rwa [hopen, if_neg (by simp)] at h

/-- **Neighbourhoods stand side by side.** That of the greater double begins where that of the
smaller one ends or further on; where they touch, one of the two mantissas is odd. -/
theorem neighbourhood_apart {m e m' e' : Nat} (h : IsForm m e) (h' : IsForm m' e')
    (hlt : e < e' ∨ (e = e' ∧ m < m')) :
    (neighbourhood m e).high * 2 ^ e ≤ (neighbourhood m' e').low * 2 ^ e' ∧
      ((neighbourhood m e).high * 2 ^ e = (neighbourhood m' e').low * 2 ^ e' →
        m % 2 = 1 ∨ m' % 2 = 1) := by
  have hhigh : (neighbourhood m e).high = 4 * m + 2 := rfl
  have hlow := low_neighbourhood m' e'
  rw [hhigh]
  generalize (neighbourhood m' e').low = low at hlow ⊢
  rcases hlt with hlt | ⟨rfl, hlt⟩
  -- the greater one has a mantissa of full length, and a unit at least twice as large
  · obtain ⟨k, rfl⟩ : ∃ k, e' = e + (k + 1) := ⟨e' - e - 1, by omega⟩
    have hm' : 2 ^ 52 ≤ m' := h'.leading.resolve_left (by omega)
    have hm := h.lt
    have hk : 1 ≤ 2 ^ k := Nat.one_le_two_pow
    have hstep : low * 2 ^ (e + (k + 1)) = (low * 2 * 2 ^ k) * 2 ^ e := by ring
    have hle : low * 2 ≤ low * 2 * 2 ^ k := Nat.le_mul_of_pos_right _ hk
    rw [hstep]
    refine ⟨Nat.mul_le_mul_right _ (by omega), fun heq => ?_⟩
    have heq := Nat.eq_of_mul_eq_mul_right (Nat.pow_pos (by decide)) heq
    omega
  · refine ⟨Nat.mul_le_mul_right _ (by omega), fun heq => ?_⟩
    have heq := Nat.eq_of_mul_eq_mul_right (Nat.pow_pos (by decide)) heq
    omega

/-- No number rounds to two doubles, the first of which is smaller. -/
theorem not_contains_of_lt {m e m' e' : Nat} (h : IsForm m e) (h' : IsForm m' e')
    (hlt : e < e' ∨ (e = e' ∧ m < m')) {x : ℚ} (hx : (neighbourhood m e).Contains x) :
    ¬ (neighbourhood m' e').Contains x := by
  intro hx'
  obtain ⟨hle, hodd⟩ := neighbourhood_apart h h' hlt
  -- ends of both on one scale, on which they are natural numbers
  have scale (m e point : Nat) : (point : ℚ) * (neighbourhood m e).unit =
      ((point * 2 ^ e : Nat) : ℚ) * (2 : ℚ) ^ (-1076 : Int) := by
    rw [unit_neighbourhood, sub_eq_add_neg, zpow_add₀ two_ne_zero, zpow_natCast, ← mul_assoc,
      Nat.cast_mul, Nat.cast_pow, Nat.cast_two]
  have hpos : (0 : ℚ) < (2 : ℚ) ^ (-1076 : Int) := zpow_pos two_pos _
  have hcast : ((neighbourhood m e).high : ℚ) * (neighbourhood m e).unit ≤
      (neighbourhood m' e').low * (neighbourhood m' e').unit := by
    rw [scale, scale, mul_le_mul_iff_left₀ hpos]
    exact_mod_cast hle
  have hhigh := hx.bounds.2
  have hlow := hx'.bounds.1
  have heq : (neighbourhood m e).high * 2 ^ e = (neighbourhood m' e').low * 2 ^ e' := by
    have heq := le_antisymm hcast (hlow.trans hhigh)
    rw [scale, scale, mul_left_inj' hpos.ne'] at heq
    exact_mod_cast heq
  rcases hodd heq with hodd | hodd
  · exact absurd ((strict_of_odd hodd hx).2.trans_le hcast) (not_lt.2 hlow)
  · exact absurd ((hhigh.trans hcast).trans_lt (strict_of_odd hodd hx').1) (lt_irrefl x)

/-- **A number rounds to one double only.** -/
theorem eq_of_contains {m e m' e' : Nat} (h : IsForm m e) (h' : IsForm m' e') {x : ℚ}
    (hx : (neighbourhood m e).Contains x) (hx' : (neighbourhood m' e').Contains x) :
    m = m' ∧ e = e' := by
  by_contra hne
  rcases (by omega : (e < e' ∨ (e = e' ∧ m < m')) ∨ (e' < e ∨ (e' = e ∧ m' < m))) with hlt | hlt
  · exact not_contains_of_lt h h' hlt hx hx'
  · exact not_contains_of_lt h' h hlt hx' hx

end SchemaPress.Double
