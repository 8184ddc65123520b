import SchemaPress.Json.Parser
import SchemaPress.Json.Writer
import SchemaPress.Proofs.Decimal.Shortest
import Mathlib.Data.List.TakeWhile
import Mathlib.Tactic.IntervalCases

/-!
# Numbers are read back

The reader takes the text of a number, up to where it ends, and makes the same number of it: an
integer from its digits (`number?_int`), and a double from the shortest decimal that rounds to it
(`number?_double`). The layouts of a decimal differ in where the point stands and whether there is an
exponent; a decimal read from any of them has the value of the one that was written
(`magnitude?_text`).
-/

namespace SchemaPress.Json

/-! ### Digits -/

/-- Only digits. -/
def AllDigits (digits : List Char) : Prop :=
  ∀ c ∈ digits, c.isDigit = true

theorem AllDigits.append {digits others : List Char} (h : AllDigits digits)
    (h' : AllDigits others) : AllDigits (digits ++ others) :=
  fun c hc => (List.mem_append.1 hc).elim (h c) (h' c)

theorem allDigits_replicate (count : Nat) : AllDigits (List.replicate count '0') := by
  intro c hc
  rw [(List.mem_replicate.1 hc).2]
  rfl

theorem allDigits_toDigits (n : Nat) : AllDigits (Nat.toDigits 10 n) :=
  fun _ hc => Nat.isDigit_of_mem_toDigits (by decide) (by decide) hc

theorem digitsValue_toDigits (n : Nat) : digitsValue (Nat.toDigits 10 n) = n :=
  Nat.ofDigitChars_toDigits (by decide) (by decide)

theorem digitsValue_snoc (digits : List Char) (c : Char) :
    digitsValue (digits ++ [c]) = 10 * digitsValue digits + (c.toNat - '0'.toNat) := by
  unfold digitsValue
  rw [List.foldl_append]
  rfl

theorem digitsValue_append (digits others : List Char) :
    digitsValue (digits ++ others) =
      digitsValue digits * 10 ^ others.length + digitsValue others := by
  induction others using List.reverseRecOn with
  | nil => simp [digitsValue]
  | append_singleton others c ih =>
    rw [← List.append_assoc, digitsValue_snoc, ih, digitsValue_snoc, List.length_append,
      List.length_singleton, pow_succ]
    ring

theorem digitsValue_replicate (count : Nat) : digitsValue (List.replicate count '0') = 0 := by
  induction count with
  | zero => rfl
  | succ count ih =>
    rw [List.replicate_succ', digitsValue_snoc, ih]
    rfl

/-- So many digits make a number with at most as many places. -/
theorem digitsValue_lt {digits : List Char} (h : AllDigits digits) :
    digitsValue digits < 10 ^ digits.length := by
  induction digits using List.reverseRecOn with
  | nil => exact Nat.one_pos
  | append_singleton digits c ih =>
    have hc : c.isDigit = true := h c (List.mem_append_right _ List.mem_cons_self)
    have hdigit : c.toNat - '0'.toNat < 10 := by
      simp only [Char.isDigit, Bool.and_eq_true, decide_eq_true_eq, ge_iff_le] at hc
      have hle := UInt32.le_iff_toNat_le.1 hc.2
      have hnine : '9'.val.toNat = 57 := rfl
      have hzero : '0'.toNat = 48 := rfl
      change c.val.toNat - _ < 10
      omega
    have hrest := ih fun c hc => h c (List.mem_append_left _ hc)
    rw [digitsValue_snoc, List.length_append, List.length_singleton, pow_succ]
    omega

/-- **Integers from such a power of ten on** have too many digits. -/
theorem ofInt?_eq_none {n : Int} {count : Nat} (hcount : 4300 ≤ count) (h : 10 ^ count ≤ n.natAbs) :
    Integer.ofInt? n = none := by
  refine dif_neg fun hshort => ?_
  have hlt := digitsValue_lt (allDigits_toDigits n.natAbs)
  rw [digitsValue_toDigits] at hlt
  exact absurd (h.trans_lt hlt) (not_lt.2 (Nat.pow_le_pow_right (by decide) (hshort.trans hcount)))

/-- A positive number does not start with a zero. -/
theorem exists_toDigits_cons {n : Nat} (h : 0 < n) :
    ∃ c rest, Nat.toDigits 10 n = c :: rest ∧ c ≠ '0' := by
  induction n using Nat.strongRecOn with
  | _ n ih =>
    rcases Nat.lt_or_ge n 10 with hlt | hge
    · refine ⟨n.digitChar, [], Nat.toDigits_of_lt_base hlt, ?_⟩
      interval_cases n <;> decide
    · obtain ⟨c, rest, heq, hc⟩ := ih (n / 10) (by omega) (by omega)
      refine ⟨c, rest ++ [(n % 10).digitChar], ?_, hc⟩
      rw [Nat.toDigits_of_base_le (by decide) hge, heq, List.cons_append]

/-! ### The parts of a number -/

/-- What may follow a number: nothing that would be taken for a part of it. -/
def EndsNumber (rest : List Char) : Prop :=
  ∀ c, rest.head? = some c → c.isDigit = false ∧ c ≠ '.' ∧ c ≠ 'e' ∧ c ≠ 'E'

theorem endsNumber_nil : EndsNumber [] :=
  nofun

/-- What comes behind digits. -/
def EndsDigits (rest : List Char) : Prop :=
  ∀ c, rest.head? = some c → c.isDigit = false

theorem EndsNumber.digits {rest : List Char} (h : EndsNumber rest) : EndsDigits rest :=
  fun c hc => (h c hc).1

theorem endsDigits_cons {c : Char} {rest : List Char} (h : c.isDigit = false) :
    EndsDigits (c :: rest) := by
  intro d hd
  cases hd
  exact h

/-- Digits are read up to their end. -/
theorem takeWhile_isDigit {digits rest : List Char} (h : AllDigits digits)
    (hrest : EndsDigits rest) :
    (digits ++ rest).takeWhile Char.isDigit = digits ∧
      (digits ++ rest).dropWhile Char.isDigit = rest := by
  rw [List.takeWhile_append_of_pos h, List.dropWhile_append_of_pos h]
  cases rest with
  | nil => exact ⟨List.append_nil _, rfl⟩
  | cons c rest =>
    have hc := hrest c rfl
    rw [List.takeWhile_cons_of_neg (by simp [hc]), List.dropWhile_cons_of_neg (by simp [hc])]
    exact ⟨List.append_nil _, rfl⟩

theorem fraction_eq {digits rest : List Char} (hne : digits ≠ []) (h : AllDigits digits)
    (hrest : EndsDigits rest) : fraction ('.' :: (digits ++ rest)) = (digits, rest) := by
  obtain ⟨htake, hdrop⟩ := takeWhile_isDigit h hrest
  obtain ⟨c, others, rfl⟩ := List.exists_cons_of_ne_nil hne
  have hc : c.isDigit = true := h c List.mem_cons_self
  unfold fraction
  simp only [htake, hdrop]
  simp [hc]

theorem fraction_eq_nil {rest : List Char} (h : rest.head? ≠ some '.') :
    fraction rest = ([], rest) := by
  unfold fraction
  split
  · exact absurd rfl h
  · rfl

theorem exponent_eq_none {rest : List Char} (h : EndsNumber rest) : exponent rest = (none, rest) := by
  cases rest with
  | nil => rfl
  | cons c rest =>
    obtain ⟨-, -, he, hE⟩ := h c rfl
    unfold exponent
    simp [he, hE]

/-- The sign of an exponent, as it is written. -/
def signChar (negative : Bool) : Char :=
  if negative then '-' else '+'

theorem exponent_eq (negative : Bool) {digits rest : List Char} (hne : digits ≠ [])
    (h : AllDigits digits) (hrest : EndsDigits rest) :
    exponent ('e' :: signChar negative :: (digits ++ rest)) =
      (some (if negative then -(digitsValue digits : Int) else digitsValue digits), rest) := by
  obtain ⟨htake, hdrop⟩ := takeWhile_isDigit h hrest
  have hempty : digits.isEmpty = false := by simpa using hne
  have hsign : exponentSign (signChar negative :: (digits ++ rest)) = (negative, digits ++ rest) := by
    cases negative <;> rfl
  unfold exponent
  simp only [hsign, htake, hdrop, hempty]
  simp

/-- A number with neither a fraction nor an exponent is an integer. -/
theorem numberTail_int (negative : Bool) (whole : List Char) {rest : List Char}
    (h : EndsNumber rest) :
    numberTail negative whole rest =
      (.int (if negative then -(digitsValue whole : Int) else digitsValue whole), rest) := by
  have hpoint : rest.head? ≠ some '.' := fun heq => (h '.' heq).2.1 rfl
  unfold numberTail
  simp only [fraction_eq_nil hpoint, exponent_eq_none h]
  simp

/-- A number with a fraction is a double. -/
theorem numberTail_fraction (negative : Bool) (whole : List Char) {decimals rest : List Char}
    (hne : decimals ≠ []) (hdecimals : AllDigits decimals) (h : EndsNumber rest) :
    numberTail negative whole ('.' :: (decimals ++ rest)) =
      (.double (.ofDecimal negative (digitsValue (whole ++ decimals)) (-(decimals.length : Int))),
        rest) := by
  have hempty : decimals.isEmpty = false := by simpa using hne
  unfold numberTail
  simp only [fraction_eq hne hdecimals h.digits, exponent_eq_none h, hempty]
  simp

/-- A fraction, if there is one. -/
def fractionText (decimals : List Char) : List Char :=
  if decimals = [] then [] else '.' :: decimals

/-- A number with an exponent is a double. -/
theorem numberTail_exponent (negative below : Bool) (whole : List Char)
    {decimals digits rest : List Char} (hdecimals : AllDigits decimals) (hne : digits ≠ [])
    (h : AllDigits digits) (hrest : EndsDigits rest) :
    numberTail negative whole
        (fractionText decimals ++ 'e' :: signChar below :: (digits ++ rest)) =
      (.double (.ofDecimal negative (digitsValue (whole ++ decimals))
        ((if below then -(digitsValue digits : Int) else digitsValue digits) - decimals.length)),
        rest) := by
  have hfraction : fraction (fractionText decimals ++ 'e' :: signChar below :: (digits ++ rest)) =
      (decimals, 'e' :: signChar below :: (digits ++ rest)) := by
    unfold fractionText
    split
    · next hnil =>
      subst hnil
      exact fraction_eq_nil (by simp)
    · next hsome =>
      exact fraction_eq hsome hdecimals (endsDigits_cons rfl)
  unfold numberTail
  simp only [hfraction, exponent_eq below hne h hrest]
  simp

/-! ### Whole digits -/

/-- The digits in front of a point: a zero, or digits that do not start with one. -/
def IsWhole (digits : List Char) : Prop :=
  digits = ['0'] ∨ ∃ c rest, digits = c :: rest ∧ c ≠ '0' ∧ AllDigits digits

theorem isWhole_toDigits (n : Nat) : IsWhole (Nat.toDigits 10 n) := by
  rcases Nat.eq_zero_or_pos n with rfl | h
  · exact .inl rfl
  · obtain ⟨c, rest, heq, hc⟩ := exists_toDigits_cons h
    exact .inr ⟨c, rest, heq, hc, allDigits_toDigits n⟩

/-- What stands behind the whole digits is read as it is. -/
theorem magnitude?_eq {negative : Bool} {whole tail rest : List Char} {value : Numeral}
    (hwhole : IsWhole whole) (htail : EndsDigits tail)
    (h : numberTail negative whole tail = (value, rest)) :
    ∃ hlt, magnitude? negative (whole ++ tail) = some (value, ⟨rest, hlt⟩) := by
  have hvalue : (numberTail negative whole tail).1 = value := congrArg Prod.fst h
  have hrest : (numberTail negative whole tail).2 = rest := congrArg Prod.snd h
  subst hvalue hrest
  rcases hwhole with rfl | ⟨c, digits, rfl, hc, hdigits⟩
  · exact ⟨_, rfl⟩
  · have hdigit : c.isDigit = true := hdigits c List.mem_cons_self
    obtain ⟨htake, hdrop⟩ := takeWhile_isDigit
      (fun d hd => hdigits d (List.mem_cons_of_mem c hd)) htail
    refine ⟨?_, ?_⟩
    · have := length_numberTail_snd_le negative (c :: digits) tail
      simp only [List.length_append, List.length_cons]
      omega
    · change magnitude? negative (c :: (digits ++ tail)) = _
      unfold magnitude?
      simp only [if_neg hc, hdigit, if_true, htake, hdrop]

/-- A sign in front. -/
def signed (negative : Bool) (chars : List Char) : List Char :=
  (if negative then ['-'] else []) ++ chars

/-- A sign is read before the magnitude. -/
theorem number?_signed {negative : Bool} {chars rest : List Char} {value : Numeral}
    (h : ∃ hlt, magnitude? negative chars = some (value, ⟨rest, hlt⟩)) :
    ∃ hlt, number? (signed negative chars) = some (value, ⟨rest, hlt⟩) := by
  obtain ⟨hlt, h⟩ := h
  cases negative with
  | false =>
    refine ⟨hlt, ?_⟩
    change number? chars = _
    rw [number?]
    · exact h
    -- a magnitude does not start with a minus
    · rintro r rfl
      exact absurd h nofun
  | true =>
    refine ⟨Nat.lt_succ_of_lt hlt, ?_⟩
    change number? ('-' :: chars) = _
    rw [number?, h]
    rfl

theorem toList_toString_int (n : Int) :
    (toString n).toList = signed (decide (n < 0)) (Nat.toDigits 10 n.natAbs) := by
  cases n with
  | ofNat k => exact Nat.toList_repr
  | negSucc k =>
    change ("-" ++ Nat.repr (k + 1)).toList = _
    rw [String.toList_append, Nat.toList_repr, decide_eq_true (Int.negSucc_lt_zero k)]
    rfl

/-- **An integer is read back.** -/
theorem number?_int (n : Int) {rest : List Char} (hrest : EndsNumber rest) :
    ∃ hlt, number? ((toString n).toList ++ rest) = some (.int n, ⟨rest, hlt⟩) := by
  -- the digits of a magnitude, which start with no minus
  have hread (negative : Bool) (k : Nat) :
      ∃ hlt, number? (signed negative (Nat.toDigits 10 k ++ rest)) =
        some (.int (if negative then -(k : Int) else k), ⟨rest, hlt⟩) := by
    have hmagnitude := magnitude?_eq (isWhole_toDigits k) hrest.digits
      (numberTail_int negative (Nat.toDigits 10 k) hrest)
    rw [digitsValue_toDigits] at hmagnitude
    exact number?_signed hmagnitude
  rw [toList_toString_int]
  cases n with
  | ofNat k => exact hread false k
  | negSucc k =>
    rw [decide_eq_true (Int.negSucc_lt_zero k)]
    exact hread true (k + 1)

end SchemaPress.Json

namespace SchemaPress.Double.Decimal

open Json

variable {d : Decimal}

/-! ### The digits of a decimal -/

/-- Only zeros are trimmed. -/
theorem exists_trimmedDigits_append (d : Decimal) :
    ∃ zeros, Nat.toDigits 10 d.digits = d.trimmedDigits ++ List.replicate zeros '0' := by
  refine ⟨((Nat.toDigits 10 d.digits).reverse.takeWhile (· == '0')).length, ?_⟩
  have hzeros : (Nat.toDigits 10 d.digits).reverse.takeWhile (· == '0') =
      List.replicate ((Nat.toDigits 10 d.digits).reverse.takeWhile (· == '0')).length '0' := by
    refine List.eq_replicate_of_mem fun c hc => ?_
    simpa using List.mem_takeWhile_imp hc
  have hsplit := List.takeWhile_append_dropWhile (p := (· == '0'))
    (l := (Nat.toDigits 10 d.digits).reverse)
  unfold trimmedDigits
  rw [← List.reverse_replicate, ← hzeros, ← List.reverse_append, hsplit, List.reverse_reverse]

theorem allDigits_trimmedDigits (d : Decimal) : AllDigits d.trimmedDigits := by
  obtain ⟨zeros, heq⟩ := d.exists_trimmedDigits_append
  intro c hc
  exact allDigits_toDigits d.digits c (heq ▸ List.mem_append_left _ hc)

/-- The first digit of a positive decimal is none of the zeros. -/
theorem exists_trimmedDigits_cons (h : 0 < d.digits) :
    ∃ c rest, d.trimmedDigits = c :: rest ∧ c ≠ '0' := by
  obtain ⟨zeros, heq⟩ := d.exists_trimmedDigits_append
  obtain ⟨c, rest, hcons, hc⟩ := exists_toDigits_cons h
  rw [hcons] at heq
  cases htrimmed : d.trimmedDigits with
  | nil =>
    rw [htrimmed, List.nil_append] at heq
    have hmem : c ∈ List.replicate zeros '0' := heq ▸ List.mem_cons_self
    exact absurd (List.mem_replicate.1 hmem).2 hc
  | cons first others =>
    rw [htrimmed] at heq
    exact ⟨first, others, rfl, (List.cons.inj heq).1 ▸ hc⟩

/-- **The value of a decimal**, by its digits and the place of the point. -/
theorem value_eq (d : Decimal) :
    d.value = digitsValue d.trimmedDigits * (10 : ℚ) ^ (d.point - d.trimmedDigits.length) := by
  obtain ⟨zeros, heq⟩ := d.exists_trimmedDigits_append
  have hdigits : d.digits = digitsValue d.trimmedDigits * 10 ^ zeros := by
    have hvalue := congrArg digitsValue heq
    rwa [digitsValue_toDigits, digitsValue_append, digitsValue_replicate, List.length_replicate,
      Nat.add_zero] at hvalue
  have hpoint : d.point - d.trimmedDigits.length = zeros + d.exponent := by
    rw [point, heq, List.length_append, List.length_replicate]
    push_cast
    ring
  rw [value, hpoint, zpow_add₀ (by norm_num), ← mul_assoc, zpow_natCast]
  congr 1
  exact_mod_cast hdigits

theorem digitsValue_trimmedDigits_le (d : Decimal) : digitsValue d.trimmedDigits ≤ d.digits := by
  obtain ⟨zeros, heq⟩ := d.exists_trimmedDigits_append
  have hvalue := congrArg digitsValue heq
  rw [digitsValue_toDigits, digitsValue_append, digitsValue_replicate, Nat.add_zero] at hvalue
  rw [hvalue]
  exact Nat.le_mul_of_pos_right _ (Nat.pow_pos (by decide))

/-! ### The layouts of a decimal -/

/-- **What is read of a text has the value of the decimal** that was written, and no more digits than
there is room for. -/
def ReadsAs (d : Decimal) (chars : List Char) : Prop :=
  ∀ negative rest, EndsNumber rest → ∃ digits exponent hlt,
    magnitude? negative (chars ++ rest) =
      some (.double (.ofDecimal negative digits exponent), ⟨rest, hlt⟩) ∧
    digits * (10 : ℚ) ^ (exponent : Int) = d.value ∧ 0 < digits ∧
    (digits ≤ d.digits ∨ digits < 10 ^ 17)

/-- A layout is read as whole digits and what stands behind them. -/
theorem ReadsAs.of_tail {chars : List Char} (whole tail : List Char) (digits : Nat)
    (exponent : Int) (hchars : chars = whole ++ tail) (hwhole : IsWhole whole)
    (hends : ∀ rest, EndsNumber rest → EndsDigits (tail ++ rest))
    (htail : ∀ negative rest, EndsNumber rest → numberTail negative whole (tail ++ rest) =
      (.double (.ofDecimal negative digits exponent), rest))
    (hvalue : digits * (10 : ℚ) ^ exponent = d.value)
    (hfew : digits ≤ d.digits ∨ digits < 10 ^ 17) (h : 0 < d.digits) : d.ReadsAs chars := by
  have hpos : 0 < digits := by
    have hvalue' : (0 : ℚ) < d.value :=
      mul_pos (by exact_mod_cast h) (zpow_pos (by norm_num) _)
    rw [← hvalue] at hvalue'
    exact Nat.pos_of_ne_zero fun hzero => by simp [hzero] at hvalue'
  intro negative rest hrest
  have hread := magnitude?_eq hwhole (hends rest hrest) (htail negative rest hrest)
  rw [← List.append_assoc, ← hchars] at hread
  obtain ⟨hlt, hread⟩ := hread
  exact ⟨digits, exponent, hlt, hread, hvalue, hpos, hfew⟩

/-- Digits that do not start with a zero are whole, with other digits behind them or not. -/
theorem isWhole_of_cons {c : Char} {rest : List Char} (hc : c ≠ '0')
    (h : AllDigits (c :: rest)) : IsWhole (c :: rest) :=
  .inr ⟨c, rest, rfl, hc, h⟩

/-- A point in front of all digits. -/
theorem readsAs_below (h : 0 < d.digits) (hpoint : d.point ≤ 0) :
    d.ReadsAs (['0', '.'] ++ List.replicate (-d.point).toNat '0' ++ d.trimmedDigits) := by
  have hdecimals := (allDigits_replicate (-d.point).toNat).append d.allDigits_trimmedDigits
  obtain ⟨c, others, heq, -⟩ := exists_trimmedDigits_cons h
  have hne : List.replicate (-d.point).toNat '0' ++ d.trimmedDigits ≠ [] := by simp [heq]
  have hdigits : digitsValue (['0'] ++ (List.replicate (-d.point).toNat '0' ++ d.trimmedDigits)) =
      digitsValue d.trimmedDigits := by
    rw [digitsValue_append, digitsValue_append, digitsValue_replicate,
      show digitsValue ['0'] = 0 from rfl, Nat.zero_mul, Nat.zero_mul, Nat.zero_add, Nat.zero_add]
  refine .of_tail ['0'] ('.' :: (List.replicate (-d.point).toNat '0' ++ d.trimmedDigits)) _ _
    (by simp) (.inl rfl) (fun _ _ => endsDigits_cons rfl)
    (fun negative rest hrest => numberTail_fraction negative _ hne hdecimals hrest) ?_
    (.inl (hdigits ▸ d.digitsValue_trimmedDigits_le)) h
  rw [hdigits, value_eq, List.length_append, List.length_replicate]
  congr 2
  omega

/-- A point behind all digits. -/
theorem readsAs_whole (h : 0 < d.digits) (hlength : (d.trimmedDigits.length : Int) ≤ d.point)
    (hpoint : d.point ≤ 16) :
    d.ReadsAs (d.trimmedDigits ++
      List.replicate (d.point.toNat - d.trimmedDigits.length) '0' ++ ['.', '0']) := by
  obtain ⟨c, others, heq, hc⟩ := exists_trimmedDigits_cons h
  have hall := d.allDigits_trimmedDigits.append
    (allDigits_replicate (d.point.toNat - d.trimmedDigits.length))
  have hzero : AllDigits ['0'] := allDigits_replicate 1
  have hwhole : IsWhole (d.trimmedDigits ++
      List.replicate (d.point.toNat - d.trimmedDigits.length) '0') := by
    rw [heq] at hall ⊢
    exact isWhole_of_cons hc hall
  have hfew := digitsValue_lt (hall.append hzero)
  refine .of_tail _ ('.' :: ['0']) _ _ rfl hwhole (fun _ _ => endsDigits_cons rfl)
    (fun negative rest hrest => numberTail_fraction negative _ (by simp) hzero hrest) ?_
    (.inr (hfew.trans_le (Nat.pow_le_pow_right (by omega) ?_))) h
  · have hzeros : d.point - d.trimmedDigits.length =
        ((d.point.toNat - d.trimmedDigits.length : Nat) : Int) := by omega
    rw [digitsValue_append, digitsValue_append, digitsValue_replicate, value_eq, hzeros,
      show digitsValue ['0'] = 0 from rfl, List.length_replicate, List.length_singleton,
      zpow_natCast, Nat.cast_one, zpow_neg_one]
    push_cast
    ring
  · simp only [List.length_append, List.length_replicate, List.length_singleton]
    omega

/-- A point between the digits. -/
theorem readsAs_inside (h : 0 < d.digits) (hpoint : 0 < d.point)
    (hlength : d.point < d.trimmedDigits.length) :
    d.ReadsAs (d.trimmedDigits.take d.point.toNat ++ ['.'] ++
      d.trimmedDigits.drop d.point.toNat) := by
  have hall := d.allDigits_trimmedDigits
  obtain ⟨c, others, heq, hc⟩ := exists_trimmedDigits_cons h
  have hdecimals : AllDigits (d.trimmedDigits.drop d.point.toNat) :=
    fun c hmem => hall c (List.mem_of_mem_drop hmem)
  have hne : d.trimmedDigits.drop d.point.toNat ≠ [] := by
    rw [ne_eq, List.drop_eq_nil_iff]
    omega
  have hwhole : IsWhole (d.trimmedDigits.take d.point.toNat) := by
    obtain ⟨k, hk⟩ : ∃ k, d.point.toNat = k + 1 := ⟨d.point.toNat - 1, by omega⟩
    have htake : AllDigits (d.trimmedDigits.take d.point.toNat) :=
      fun c hmem => hall c (List.mem_of_mem_take hmem)
    rw [hk, heq, List.take_succ_cons] at htake ⊢
    exact isWhole_of_cons hc htake
  refine .of_tail _ ('.' :: d.trimmedDigits.drop d.point.toNat) _ _ (by simp) hwhole
    (fun _ _ => endsDigits_cons rfl)
    (fun negative rest hrest => numberTail_fraction negative _ hne hdecimals hrest) ?_
    (.inl ?_) h
  · rw [List.take_append_drop, value_eq, List.length_drop]
    congr 2
    omega
  · rw [List.take_append_drop]
    exact d.digitsValue_trimmedDigits_le

/-- A point behind the first digit, and an exponent. -/
theorem readsAs_exponent (h : 0 < d.digits) :
    d.ReadsAs (d.trimmedDigits.take 1 ++
      (if d.trimmedDigits.length ≤ 1 then [] else '.' :: d.trimmedDigits.drop 1) ++
      ['e', if d.point - 1 < 0 then '-' else '+'] ++
      List.replicate (2 - (Nat.toDigits 10 (d.point - 1).natAbs).length) '0' ++
      Nat.toDigits 10 (d.point - 1).natAbs) := by
  have hall := d.allDigits_trimmedDigits
  obtain ⟨c, others, heq, hc⟩ := exists_trimmedDigits_cons h
  generalize hpad : 2 - (Nat.toDigits 10 (d.point - 1).natAbs).length = pad
  have hpower : AllDigits (List.replicate pad '0' ++ Nat.toDigits 10 (d.point - 1).natAbs) :=
    (allDigits_replicate pad).append (allDigits_toDigits _)
  have hne : List.replicate pad '0' ++ Nat.toDigits 10 (d.point - 1).natAbs ≠ [] := by
    simp [Nat.toDigits_ne_nil]
  have hvalue : digitsValue (List.replicate pad '0' ++ Nat.toDigits 10 (d.point - 1).natAbs) =
      (d.point - 1).natAbs := by
    rw [digitsValue_append, digitsValue_replicate, digitsValue_toDigits, Nat.zero_mul, Nat.zero_add]
  have hdecimals : AllDigits others := fun c hmem => hall c (heq ▸ List.mem_cons_of_mem _ hmem)
  have hwhole : IsWhole [c] :=
    isWhole_of_cons hc fun d hd => hall d (by
      rw [List.mem_singleton.1 hd, heq]
      exact List.mem_cons_self)
  have hlength : d.trimmedDigits.length = others.length + 1 := by rw [heq, List.length_cons]
  refine .of_tail [c] (fractionText others ++ 'e' :: signChar (decide (d.point - 1 < 0)) ::
      (List.replicate pad '0' ++ Nat.toDigits 10 (d.point - 1).natAbs))
    (digitsValue d.trimmedDigits) (d.point - d.trimmedDigits.length) ?_ hwhole (fun rest _ => ?_)
    (fun negative rest hrest => ?_) d.value_eq.symm (.inl d.digitsValue_trimmedDigits_le) h
  · have hfraction : (if d.trimmedDigits.length ≤ 1 then [] else '.' :: d.trimmedDigits.drop 1) =
        fractionText others := by
      unfold fractionText
      rw [hlength, heq, List.drop_one, List.tail_cons]
      cases others <;> simp
    rw [hfraction, heq, List.take_succ_cons, List.take_zero]
    simp [signChar]
  · unfold fractionText
    split
    · exact endsDigits_cons rfl
    · exact endsDigits_cons rfl
  · have hread := numberTail_exponent negative (decide (d.point - 1 < 0)) [c] hdecimals hne hpower
      hrest.digits
    have hexponent : (if decide (d.point - 1 < 0) = true then -((d.point - 1).natAbs : Int)
        else (d.point - 1).natAbs) - others.length = d.point - d.trimmedDigits.length := by
      rw [hlength]
      split
      · next hneg =>
        rw [decide_eq_true_eq] at hneg
        omega
      · next hneg =>
        rw [decide_eq_true_eq] at hneg
        omega
    rw [hvalue, hexponent, ← List.singleton_append.symm, ← heq] at hread
    rw [List.append_assoc, List.cons_append, List.cons_append]
    exact hread

/-- **However a decimal is laid out, it reads as itself.** -/
theorem readsAs_text (h : 0 < d.digits) : d.ReadsAs d.text := by
  unfold text
  simp only
  split
  · next hrange =>
    split
    · next hpoint => exact readsAs_below h hpoint
    · next hpoint =>
      split
      · next hlength => exact readsAs_whole h hlength hrange.2
      · next hlength => exact readsAs_inside h (not_le.1 hpoint) (not_le.1 hlength)
  · exact readsAs_exponent h

end SchemaPress.Double.Decimal

namespace SchemaPress.Json

/-- **A double is read back.** -/
theorem number?_double {negative : Bool} {mantissa exponent : Nat}
    (h : Double.Canonical (.finite negative mantissa exponent)) (nanWord infinityWord : String)
    {rest : List Char} (hrest : EndsNumber rest) :
    ∃ hlt, number? ((Double.finite negative mantissa exponent).text nanWord infinityWord ++ rest) =
      some (.double (.finite negative mantissa exponent), ⟨rest, hlt⟩) := by
  have htext : (Double.finite negative mantissa exponent).text nanWord infinityWord ++ rest =
      signed negative ((if mantissa = 0 then ['0', '.', '0']
        else (Double.shortest mantissa exponent).text) ++ rest) :=
    List.append_assoc _ _ _
  obtain ⟨hform, hexponent⟩ := h
  rcases Nat.eq_zero_or_pos mantissa with rfl | hpos
  · obtain rfl : exponent = 0 := hform.leading.resolve_right (by norm_num)
    rw [if_pos rfl] at htext
    rw [htext]
    have hread : ∃ hlt, magnitude? negative (['0'] ++ '.' :: (['0'] ++ rest)) =
        some (.double (.finite negative 0 0), ⟨rest, hlt⟩) :=
      magnitude?_eq (.inl rfl) (endsDigits_cons rfl)
        (numberTail_fraction negative ['0'] (by simp) (allDigits_replicate 1) hrest)
    exact number?_signed hread
  · rw [if_neg hpos.ne'] at htext
    rw [htext]
    refine number?_signed ?_
    obtain ⟨hcontains, hdigits, hle⟩ := Double.contains_shortest hpos hform hexponent
    obtain ⟨digits, power, hlt, hread, hvalue, hdigits', hfew⟩ :=
      Double.Decimal.readsAs_text hdigits negative rest hrest
    rw [← hvalue] at hcontains
    have hroom : digits < 2 ^ 64 := by
      generalize (Double.shortest mantissa exponent).digits = most at hle hfew
      omega
    have hdouble : Double.ofDecimal negative digits power = .finite negative mantissa exponent :=
      Double.ofDecimal_eq hdigits' hroom hpos hform hexponent hcontains
    rw [hdouble] at hread
    exact ⟨hlt, hread⟩

end SchemaPress.Json
