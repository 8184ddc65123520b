import SchemaPress.Proofs.Decimal.Neighbourhood

/-!
# Rounding to the nearest double

The exact arithmetic of `Double.ofRatio` brings a fraction to a double of canonical form whose
neighbourhood holds the fraction (`exists_ofRatio_eq`). Since a number rounds to one double only, a
fraction from the neighbourhood of a double comes down to that double (`ofRatio_eq`), and so does a
decimal (`ofDecimal_eq`). What is made of a decimal is always canonical (`canonical_ofDecimal`).
-/

namespace SchemaPress.Double

/-! ### The parts of rounding -/

/-- **A rounded quotient is a nearest integer**, and an even one at equal distance. -/
theorem roundedQuotient_near (top : Nat) {bottom : Nat} (h : 0 < bottom) :
    (roundedQuotient top bottom : ℚ) - 1 / 2 ≤ (top : ℚ) / bottom ∧
      (top : ℚ) / bottom ≤ roundedQuotient top bottom + 1 / 2 ∧
      (roundedQuotient top bottom % 2 = 1 →
        (roundedQuotient top bottom : ℚ) - 1 / 2 < (top : ℚ) / bottom ∧
        (top : ℚ) / bottom < roundedQuotient top bottom + 1 / 2) := by
  have hdiv := Nat.div_add_mod top bottom
  have hmod := Nat.mod_lt top h
  have hpos : (0 : ℚ) < bottom := by exact_mod_cast h
  -- in multiples of `bottom`, everything is about natural numbers
  have key : 2 * (bottom * roundedQuotient top bottom) ≤ 2 * top + bottom ∧
      2 * top ≤ 2 * (bottom * roundedQuotient top bottom) + bottom ∧
      (roundedQuotient top bottom % 2 = 1 →
        2 * (bottom * roundedQuotient top bottom) < 2 * top + bottom ∧
        2 * top < 2 * (bottom * roundedQuotient top bottom) + bottom) := by
    unfold roundedQuotient
    simp only
    split
    · refine ⟨by omega, by omega, fun _ => by omega⟩
    · split
      · rw [Nat.mul_succ]
        refine ⟨by omega, by omega, fun _ => by omega⟩
      · rcases Nat.mod_two_eq_zero_or_one (top / bottom) with heven | hodd
        · rw [heven, Nat.add_zero]
          refine ⟨by omega, by omega, fun hodd => by omega⟩
        · rw [hodd, Nat.mul_succ]
          refine ⟨by omega, by omega, fun heven => by omega⟩
  obtain ⟨hle, hge, hodd⟩ := key
  generalize roundedQuotient top bottom = r at hle hge hodd
  have hle : (2 : ℚ) * (bottom * r) ≤ 2 * top + bottom := by exact_mod_cast hle
  have hge : (2 : ℚ) * top ≤ 2 * (bottom * r) + bottom := by exact_mod_cast hge
  refine ⟨?_, ?_, fun h => ?_⟩
  · rw [le_div_iff₀ hpos]
    linarith
  · rw [div_le_iff₀ hpos]
    linarith
  · obtain ⟨hlt, hgt⟩ := hodd h
    have hlt : (2 : ℚ) * (bottom * r) < 2 * top + bottom := by exact_mod_cast hlt
    have hgt : (2 : ℚ) * top < 2 * (bottom * r) + bottom := by exact_mod_cast hgt
    rw [lt_div_iff₀ hpos, div_lt_iff₀ hpos]
    exact ⟨by linarith, by linarith⟩

theorem shiftedFraction_pos {numerator denominator : Nat} (h : 0 < denominator) (shift : Int) :
    0 < (shiftedFraction numerator denominator shift).2 := by
  unfold shiftedFraction
  split
  · exact h
  · exact Nat.mul_pos h (Nat.two_pow_pos _)

/-- A shifted fraction is the fraction times a power of two. -/
theorem shiftedFraction_eq (numerator denominator : Nat) (shift : Int) :
    ((shiftedFraction numerator denominator shift).1 : ℚ) /
      (shiftedFraction numerator denominator shift).2 =
      (numerator : ℚ) / denominator * 2 ^ shift := by
  unfold shiftedFraction
  split
  · next h =>
    obtain ⟨k, rfl⟩ := Int.eq_ofNat_of_zero_le h
    simp only [Int.toNat_natCast, Nat.cast_mul, cast_two_pow]
    ring
  · next h =>
    obtain ⟨k, rfl⟩ : ∃ k : Nat, shift = -(k : Int) := ⟨(-shift).toNat, by omega⟩
    simp only [neg_neg, Int.toNat_natCast, Nat.cast_mul, cast_two_pow, zpow_neg]
    rw [div_mul_eq_div_div, div_eq_mul_inv _ ((2 : ℚ) ^ (k : Int))]

theorem two_zpow_log2_le {n : Nat} (h : 0 < n) : (2 : ℚ) ^ (n.log2 : Int) ≤ n := by
  rw [zpow_natCast]
  exact_mod_cast Nat.log2_self_le h.ne'

theorem lt_two_zpow_log2 (n : Nat) : (n : ℚ) < 2 ^ ((n.log2 : Int) + 1) := by
  have h : (n : ℚ) < 2 ^ (n.log2 + 1) := by exact_mod_cast Nat.lt_log2_self (n := n)
  exact_mod_cast h

/-- **The power of two in front of a fraction.** -/
theorem binaryExponent_spec {numerator denominator : Nat} (hn : 0 < numerator)
    (hd : 0 < denominator) :
    (2 : ℚ) ^ binaryExponent numerator denominator ≤ (numerator : ℚ) / denominator ∧
      (numerator : ℚ) / denominator < 2 ^ (binaryExponent numerator denominator + 1) := by
  have hn' : (0 : ℚ) < numerator := by exact_mod_cast hn
  have hd' : (0 : ℚ) < denominator := by exact_mod_cast hd
  -- the lengths of both parts leave two powers
  have hlow : (2 : ℚ) ^ ((numerator.log2 : Int) - denominator.log2 - 1) ≤
      (numerator : ℚ) / denominator := by
    rw [le_div_iff₀ hd', sub_sub, zpow_sub₀ two_ne_zero]
    refine le_trans ?_ (two_zpow_log2_le hn)
    rw [div_mul_eq_mul_div, div_le_iff₀ (zpow_pos two_pos _)]
    exact mul_le_mul_of_nonneg_left (lt_two_zpow_log2 denominator).le (zpow_pos two_pos _).le
  have hhigh : (numerator : ℚ) / denominator <
      2 ^ ((numerator.log2 : Int) - denominator.log2 + 1) := by
    rw [div_lt_iff₀ hd', sub_add_eq_add_sub, zpow_sub₀ two_ne_zero]
    refine lt_of_lt_of_le (lt_two_zpow_log2 numerator) ?_
    rw [div_mul_eq_mul_div, le_div_iff₀ (zpow_pos two_pos _)]
    exact mul_le_mul_of_nonneg_left (two_zpow_log2_le hd) (zpow_pos two_pos _).le
  -- a comparison decides between them
  have hbetween (k : Int) : (shiftedFraction denominator numerator k).1 ≤
      (shiftedFraction denominator numerator k).2 ↔
        (2 : ℚ) ^ k ≤ (numerator : ℚ) / denominator := by
    have hpos : (0 : ℚ) < (shiftedFraction denominator numerator k).2 := by
      exact_mod_cast shiftedFraction_pos hn k
    rw [le_div_iff₀ hd', mul_comm, ← div_le_one hn', ← div_mul_eq_mul_div, ← shiftedFraction_eq,
      div_le_one hpos]
    exact_mod_cast Iff.rfl
  unfold binaryExponent
  simp only
  split
  · next h => exact ⟨(hbetween _).1 h, hhigh⟩
  · next h =>
    rw [sub_add_cancel]
    exact ⟨hlow, not_le.1 fun hle => h ((hbetween _).2 hle)⟩

/-! ### Rounding -/

/-- A number of a neighbourhood, counted in binary places of the double. -/
theorem contains_of_near {m e : Nat} {x y : ℚ} (hx : x = y * 2 ^ ((e : Int) - 1074))
    (hpos : 0 ≤ y) (hlow : (m : ℚ) - 1 / 2 ≤ y) (hhigh : y ≤ m + 1 / 2)
    (hodd : m % 2 = 1 → (m : ℚ) - 1 / 2 < y ∧ y < m + 1 / 2)
    (hpower : m = 2 ^ 52 → 0 < e → (m : ℚ) - 1 / 4 ≤ y) : (neighbourhood m e).Contains x := by
  have hunit := unit_neighbourhood_pos m e
  have hscale : x = (4 * y) * (neighbourhood m e).unit := by
    rw [hx, unit_neighbourhood, show ((e : Int) - 1074) = (e - 1076) + 2 by ring,
      zpow_add₀ two_ne_zero]
    norm_num
    ring
  have hend : ((neighbourhood m e).high : ℚ) = 4 * m + 2 := by
    exact_mod_cast (rfl : (neighbourhood m e).high = 4 * m + 2)
  -- the lower end is at zero, or two places below, or one place below a power of two
  have hstart : ((neighbourhood m e).low : ℚ) ≤ 4 * y ∧
      (m % 2 = 1 → ((neighbourhood m e).low : ℚ) < 4 * y) := by
    rcases low_neighbourhood m e with ⟨heq, -⟩ | ⟨heq, hm, he⟩
    · rw [heq]
      rcases Nat.eq_zero_or_pos m with rfl | hm
      · exact ⟨by simpa using hpos, nofun⟩
      · rw [Nat.cast_sub (by omega)]
        push_cast
        exact ⟨by linarith, fun h => by linarith [(hodd h).1]⟩
    · rw [heq, Nat.cast_sub (by omega)]
      push_cast
      exact ⟨by linarith [hpower hm he], fun h => by omega⟩
  unfold Neighbourhood.Contains
  rw [hscale, mul_le_mul_iff_left₀ hunit, mul_le_mul_iff_left₀ hunit, mul_lt_mul_iff_left₀ hunit,
    mul_lt_mul_iff_left₀ hunit, hend]
  split
  · exact ⟨hstart.1, by linarith⟩
  · next hclosed =>
    have hm : m % 2 = 1 := by
      have : (m % 2 == 0) ≠ true := hclosed
      rw [ne_eq, beq_iff_eq] at this
      omega
    exact ⟨hstart.2 hm, by linarith [(hodd hm).2]⟩

/-- **The binary places of a fraction** that is shifted to an exponent for it: 53 of them, or fewer at
the lowest exponent. -/
theorem places_of_shifted {x : ℚ} {k : Int} (hlow : 2 ^ k ≤ x) (hhigh : x < 2 ^ (k + 1)) {e : Nat}
    (he : (k - 52 + 1074).toNat = e) : x * 2 ^ (1074 - (e : Int)) < 2 ^ 53 ∧
      (e = 0 ∨ 2 ^ 52 ≤ x * 2 ^ (1074 - (e : Int))) := by
  constructor
  · calc x * 2 ^ (1074 - (e : Int))
        < 2 ^ (k + 1) * 2 ^ (1074 - (e : Int)) :=
          mul_lt_mul_of_pos_right hhigh (zpow_pos two_pos _)
      _ = 2 ^ (k + 1 + (1074 - (e : Int))) := (zpow_add₀ two_ne_zero _ _).symm
      _ ≤ 2 ^ (53 : Int) := zpow_le_zpow_right₀ one_le_two (by omega)
      _ = 2 ^ 53 := rfl
  · rcases Nat.eq_zero_or_pos e with hzero | hpos
    · exact .inl hzero
    · right
      calc (2 : ℚ) ^ 52 = 2 ^ (52 : Int) := rfl
        _ ≤ 2 ^ (k + (1074 - (e : Int))) := zpow_le_zpow_right₀ one_le_two (by omega)
        _ = 2 ^ k * 2 ^ (1074 - (e : Int)) := zpow_add₀ two_ne_zero _ _
        _ ≤ x * 2 ^ (1074 - (e : Int)) :=
          mul_le_mul_of_nonneg_right hlow (zpow_pos two_pos _).le

section Rounded

variable {x y : ℚ} {r e : Nat}

/-- Rounding to a mantissa of 53 places leaves a double whose neighbourhood holds the number. -/
theorem contains_rounded (hx : x = y * 2 ^ ((e : Int) - 1074)) (hpos : 0 ≤ y)
    (hge : (r : ℚ) - 1 / 2 ≤ y) (hle : y ≤ r + 1 / 2)
    (hodd : r % 2 = 1 → (r : ℚ) - 1 / 2 < y ∧ y < r + 1 / 2) (hfull : y < 2 ^ 53)
    (hleading : e = 0 ∨ 2 ^ 52 ≤ y) (hcarry : r ≠ 2 ^ 53) :
    IsForm r e ∧ (neighbourhood r e).Contains x := by
  have hr : r ≤ 2 ^ 53 := by
    have : (r : ℚ) < (2 ^ 53 + 1 : Nat) := by push_cast; linarith
    exact Nat.lt_succ_iff.1 (by exact_mod_cast this)
  have hr' : e = 0 ∨ 2 ^ 52 ≤ r := by
    refine hleading.imp_right fun h => ?_
    have : ((2 ^ 52 : Nat) : ℚ) < (r + 1 : Nat) := by push_cast; linarith
    exact Nat.lt_succ_iff.1 (by exact_mod_cast this)
  refine ⟨⟨by omega, hr'⟩, contains_of_near hx hpos hge hle hodd fun hm he => ?_⟩
  rcases hleading with hzero | h
  · omega
  · rw [hm]
    push_cast
    linarith

/-- A carry makes one more binary place, so the last one is dropped. -/
theorem contains_carried (hx : x = y * 2 ^ ((e : Int) - 1074)) (hpos : 0 ≤ y)
    (hge : (2 : ℚ) ^ 53 - 1 / 2 ≤ y) (hle : y ≤ 2 ^ 53 + 1 / 2) :
    IsForm (2 ^ 52) (e + 1) ∧ (neighbourhood (2 ^ 52) (e + 1)).Contains x := by
  refine ⟨⟨by norm_num, .inr le_rfl⟩, ?_⟩
  refine contains_of_near (y := y / 2) ?_ (div_nonneg hpos two_pos.le) ?_ ?_
    (fun h => absurd h (by norm_num)) fun _ _ => ?_
  · rw [hx, show (((e + 1 : Nat) : Int) - 1074) = ((e : Int) - 1074) + 1 by push_cast; ring,
      zpow_add₀ two_ne_zero, zpow_one]
    ring
  · push_cast; linarith
  · push_cast; linarith
  · push_cast; linarith

end Rounded

/-- **Rounding finds a double whose neighbourhood holds the fraction**, unless it is too large. -/
theorem exists_ofRatio_eq (negative : Bool) {numerator denominator : Nat} (hn : 0 < numerator)
    (hd : 0 < denominator) :
    ∃ mantissa exponent, IsForm mantissa exponent ∧
      (neighbourhood mantissa exponent).Contains ((numerator : ℚ) / denominator) ∧
      ofRatio negative numerator denominator =
        if maxExponent < exponent then .infinity negative
        else .finite negative mantissa exponent := by
  obtain ⟨hlow, hhigh⟩ := binaryExponent_spec hn hd
  unfold ofRatio
  rw [if_neg hn.ne']
  simp only
  generalize binaryExponent numerator denominator = k at hlow hhigh
  generalize he : (k - 52 + 1074).toNat = e
  have hbottom : 0 < (shiftedFraction numerator denominator (1074 - (e : Int))).2 :=
    shiftedFraction_pos hd _
  obtain ⟨hge, hle, hodd⟩ := roundedQuotient_near
    (shiftedFraction numerator denominator (1074 - (e : Int))).1 hbottom
  rw [shiftedFraction_eq] at hge hle hodd
  generalize roundedQuotient (shiftedFraction numerator denominator (1074 - (e : Int))).1
    (shiftedFraction numerator denominator (1074 - (e : Int))).2 = r at hge hle hodd
  generalize (numerator : ℚ) / denominator = x at hlow hhigh hge hle hodd ⊢
  obtain ⟨hfull, hleading⟩ := places_of_shifted hlow hhigh he
  generalize hy : x * 2 ^ (1074 - (e : Int)) = y at hge hle hodd hfull hleading
  have hx : x = y * 2 ^ ((e : Int) - 1074) := by
    rw [← hy, mul_assoc, ← zpow_add₀ two_ne_zero, sub_add_sub_cancel, sub_self, zpow_zero, mul_one]
  have hpos : 0 ≤ y := by
    rw [← hy]
    exact mul_nonneg ((zpow_pos two_pos _).le.trans hlow) (zpow_pos two_pos _).le
  rw [Nat.pow_eq, Nat.pow_eq]
  split
  · next hcarry =>
    rw [hcarry] at hge hle
    push_cast at hge hle
    obtain ⟨hform, hcontains⟩ := contains_carried hx hpos hge hle
    exact ⟨2 ^ 52, e + 1, hform, hcontains, rfl⟩
  · next hcarry =>
    obtain ⟨hform, hcontains⟩ := contains_rounded hx hpos hge hle hodd hfull hleading hcarry
    exact ⟨r, e, hform, hcontains, rfl⟩

/-- What is made of a fraction is canonical. -/
theorem canonical_ofRatio (negative : Bool) (numerator : Nat) {denominator : Nat}
    (hd : 0 < denominator) : Canonical (ofRatio negative numerator denominator) := by
  rcases Nat.eq_zero_or_pos numerator with rfl | hn
  · exact canonical_zero negative
  · obtain ⟨m, e, hform, -, heq⟩ := exists_ofRatio_eq negative hn hd
    rw [heq]
    split
    · trivial
    · next h => exact ⟨hform, not_lt.1 h⟩

/-- **What rounds to a double comes down to it.** -/
theorem ofRatio_eq {negative : Bool} {numerator denominator m e : Nat} (hn : 0 < numerator)
    (hd : 0 < denominator) (hform : IsForm m e) (he : e ≤ maxExponent)
    (h : (neighbourhood m e).Contains ((numerator : ℚ) / denominator)) :
    ofRatio negative numerator denominator = .finite negative m e := by
  obtain ⟨m', e', hform', h', heq⟩ := exists_ofRatio_eq negative hn hd
  obtain ⟨rfl, rfl⟩ := eq_of_contains hform hform' h h'
  rw [heq, if_neg (not_lt.2 he)]

/-! ### Powers of ten and of two -/

/-- `10 ^ 3` is a little less than `2 ^ 10`, and `2 ^ 43` a little less than `10 ^ 13`. -/
theorem ten_zpow_le_two_zpow {p q : Int} (h : 10 * p ≤ 3 * q) (h' : 43 * p ≤ 13 * q) :
    (10 : ℚ) ^ p ≤ 2 ^ q := by
  have hten : (0 : ℚ) ≤ 10 ^ p := zpow_nonneg (by norm_num) p
  have htwo : (0 : ℚ) ≤ 2 ^ q := zpow_nonneg (by norm_num) q
  rcases le_or_gt 0 q with hq | hq
  · refine le_of_pow_le_pow_left₀ (n := 10) (by norm_num) htwo ?_
    calc ((10 : ℚ) ^ p) ^ 10 = 10 ^ (10 * p) := by rw [mul_comm, zpow_mul]; rfl
      _ ≤ 10 ^ (3 * q) := zpow_le_zpow_right₀ (by norm_num) h
      _ = (10 ^ 3) ^ q := by rw [zpow_mul]; rfl
      _ ≤ (2 ^ 10) ^ q := zpow_le_zpow_left₀ hq (by norm_num) (by norm_num)
      _ = (2 ^ q) ^ 10 := by rw [← zpow_natCast, ← zpow_natCast, ← zpow_mul, ← zpow_mul, mul_comm]
  · have hthirteen : (10 ^ 13 : ℚ) ^ q ≤ (2 ^ 43) ^ q := by
      rw [← inv_le_inv₀ (by positivity) (by positivity), ← zpow_neg, ← zpow_neg]
      exact zpow_le_zpow_left₀ (by omega) (by norm_num) (by norm_num)
    refine le_of_pow_le_pow_left₀ (n := 43) (by norm_num) htwo ?_
    calc ((10 : ℚ) ^ p) ^ 43 = 10 ^ (43 * p) := by rw [mul_comm, zpow_mul]; rfl
      _ ≤ 10 ^ (13 * q) := zpow_le_zpow_right₀ (by norm_num) h'
      _ = (10 ^ 13) ^ q := by rw [zpow_mul]; rfl
      _ ≤ (2 ^ 43) ^ q := hthirteen
      _ = (2 ^ q) ^ 43 := by rw [← zpow_natCast, ← zpow_natCast, ← zpow_mul, ← zpow_mul, mul_comm]

theorem two_zpow_le_ten_zpow {p q : Int} (h : 3 * q ≤ 10 * p) (h' : 13 * q ≤ 43 * p) :
    (2 : ℚ) ^ q ≤ 10 ^ p := by
  have hinv := ten_zpow_le_two_zpow (p := -p) (q := -q) (by omega) (by omega)
  rw [zpow_neg, zpow_neg] at hinv
  exact (inv_le_inv₀ (zpow_pos (by norm_num) p) (zpow_pos two_pos q)).1 hinv

/-! ### Decimals -/

/-- What is made of a decimal is canonical. -/
theorem canonical_ofDecimal (negative : Bool) (digits : Nat) (exponent : Int) :
    Canonical (ofDecimal negative digits exponent) := by
  unfold ofDecimal
  simp only
  split
  · exact canonical_zero negative
  · split
    · trivial
    · split
      · exact canonical_zero negative
      · split
        · exact canonical_ofRatio negative _ Nat.one_pos
        · exact canonical_ofRatio negative _ (Nat.pow_pos (by decide))

/-- The numbers that round to a double other than zero, by their magnitude. -/
theorem range_of_contains {m e : Nat} (hm : 0 < m) (hform : IsForm m e) (he : e ≤ maxExponent)
    {x : ℚ} (h : (neighbourhood m e).Contains x) :
    (2 : ℚ) ^ (-1076 : Int) ≤ x ∧ x ≤ 2 ^ (1024 : Int) := by
  obtain ⟨hlow, hhigh⟩ := h.bounds
  rw [unit_neighbourhood] at hlow hhigh
  have he' : e ≤ 2045 := he
  constructor
  · have hone : 1 ≤ (neighbourhood m e).low := by
      have := low_neighbourhood m e
      omega
    calc (2 : ℚ) ^ (-1076 : Int) ≤ 2 ^ ((e : Int) - 1076) :=
          zpow_le_zpow_right₀ one_le_two (by omega)
      _ ≤ (neighbourhood m e).low * 2 ^ ((e : Int) - 1076) :=
        le_mul_of_one_le_left (zpow_pos two_pos _).le (by exact_mod_cast hone)
      _ ≤ x := hlow
  · have hplaces : (neighbourhood m e).high ≤ 2 ^ 55 := by
      have hend : (neighbourhood m e).high = 4 * m + 2 := rfl
      have := hform.lt
      omega
    calc x ≤ (neighbourhood m e).high * 2 ^ ((e : Int) - 1076) := hhigh
      _ ≤ 2 ^ (55 : Int) * 2 ^ ((e : Int) - 1076) :=
        mul_le_mul_of_nonneg_right (by exact_mod_cast hplaces) (zpow_pos two_pos _).le
      _ = 2 ^ (55 + ((e : Int) - 1076)) := (zpow_add₀ two_ne_zero _ _).symm
      _ ≤ 2 ^ (1024 : Int) := zpow_le_zpow_right₀ one_le_two (by omega)

/-- **A decimal that rounds to a double comes down to it.** The decimal has fewer digits than make a
difference to the estimate of its magnitude. -/
theorem ofDecimal_eq {negative : Bool} {digits m e : Nat} {exponent : Int} (hdigits : 0 < digits)
    (hfew : digits < 2 ^ 64) (hm : 0 < m) (hform : IsForm m e) (he : e ≤ maxExponent)
    (h : (neighbourhood m e).Contains (digits * (10 : ℚ) ^ exponent)) :
    ofDecimal negative digits exponent = .finite negative m e := by
  obtain ⟨hlow, hhigh⟩ := range_of_contains hm hform he h
  have hten : (0 : ℚ) < 10 ^ exponent := zpow_pos (by norm_num) _
  have hone : (1 : ℚ) ≤ digits := by exact_mod_cast hdigits
  have hlog : digits.log2 < 64 := (Nat.log2_lt hdigits.ne').2 hfew
  -- a decimal in the range of doubles has an exponent in the range of decimals
  have hsmall : exponent ≤ 310 := by
    by_contra hlarge
    refine absurd hhigh (not_le.2 ?_)
    calc (2 : ℚ) ^ (1024 : Int) ≤ 10 ^ (310 : Int) := two_zpow_le_ten_zpow (by omega) (by omega)
      _ < 10 ^ exponent := zpow_lt_zpow_right₀ (by norm_num) (by omega)
      _ ≤ digits * 10 ^ exponent := le_mul_of_one_le_left hten.le hone
  have hlarge : -400 ≤ exponent := by
    by_contra hsmall
    refine absurd hlow (not_le.2 ?_)
    have hcast : (digits : ℚ) < 2 ^ (64 : Int) := by exact_mod_cast hfew
    calc digits * (10 : ℚ) ^ exponent < 2 ^ (64 : Int) * 10 ^ exponent :=
          mul_lt_mul_of_pos_right hcast hten
      _ ≤ 2 ^ (64 : Int) * 2 ^ (-1140 : Int) :=
        mul_le_mul_of_nonneg_left (ten_zpow_le_two_zpow (by omega) (by omega))
          (zpow_pos two_pos _).le
      _ = 2 ^ (-1076 : Int) := (zpow_add₀ two_ne_zero _ _).symm
  unfold ofDecimal
  simp only
  rw [if_neg hdigits.ne', if_neg (by omega), if_neg (by omega)]
  split
  · next hexponent =>
    obtain ⟨k, rfl⟩ := Int.eq_ofNat_of_zero_le hexponent
    refine ofRatio_eq (Nat.mul_pos hdigits (Nat.pow_pos (by decide))) Nat.one_pos hform he ?_
    rw [Int.toNat_natCast, Nat.pow_eq]
    push_cast
    rw [div_one, ← zpow_natCast]
    exact h
  · next hexponent =>
    obtain ⟨k, rfl⟩ : ∃ k : Nat, exponent = -(k : Int) := ⟨(-exponent).toNat, by omega⟩
    refine ofRatio_eq hdigits (Nat.pow_pos (by decide)) hform he ?_
    rw [neg_neg, Int.toNat_natCast, Nat.pow_eq]
    push_cast
    rw [← zpow_natCast, div_eq_mul_inv, ← zpow_neg]
    exact h

end SchemaPress.Double
