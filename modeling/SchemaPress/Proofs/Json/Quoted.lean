import SchemaPress.Json.Parser
import SchemaPress.Json.Writer

/-!
# Quoted texts are read back

Every character of a quoted text is written as itself or as an escape, and the reader undoes each
of them: `Quotes.escapeChar` says so for one character, `quotes_quote` for a whole text, in front of
whatever follows it. A character beyond the basic plane is written as two escapes, which the reader
takes for one character again (`pairChar_units`).

What can be read back is written in one way only, so two quoted texts that start the same list of
characters are the same text (`quote_append_inj`).
-/

namespace SchemaPress.Json

/-! ### Four hexadecimal digits -/

/-- A number below `16 ^ 4` is written with exactly four digits. -/
theorem hex4_eq {n : Nat} (h : n < 0x10000) :
    hex4 n = [(n / 4096).digitChar, (n / 256 % 16).digitChar, (n / 16 % 16).digitChar,
      (n % 16).digitChar] := by
  have two (m : Nat) (hm : 16 ≤ m) : Nat.toDigits 16 m =
      Nat.toDigits 16 (m / 16) ++ [(m % 16).digitChar] :=
    Nat.toDigits_of_base_le (by omega) hm
  have one (m : Nat) (hm : m < 16) : Nat.toDigits 16 m = [m.digitChar] :=
    Nat.toDigits_of_lt_base hm
  have zero : '0' = Nat.digitChar 0 := rfl
  unfold hex4
  -- `toDigits` leaves out leading zeros, so the padding depends on how many digits there are
  rcases Nat.lt_or_ge n 16 with h1 | h1
  · have : n / 4096 = 0 ∧ n / 256 % 16 = 0 ∧ n / 16 % 16 = 0 ∧ n % 16 = n := by omega
    obtain ⟨h3, h2, h1', h0⟩ := this
    rw [one n h1, h3, h2, h1', h0, ← zero]
    rfl
  rcases Nat.lt_or_ge n 256 with h2 | h2
  · have : n / 4096 = 0 ∧ n / 256 % 16 = 0 ∧ n / 16 % 16 = n / 16 := by omega
    obtain ⟨h3, h2', h1'⟩ := this
    rw [two n h1, one (n / 16) (by omega), h3, h2', h1', ← zero]
    rfl
  rcases Nat.lt_or_ge n 4096 with h3 | h3
  · have : n / 4096 = 0 ∧ n / 16 / 16 = n / 256 % 16 := by omega
    obtain ⟨h3', h2'⟩ := this
    rw [two n h1, two (n / 16) (by omega), one (n / 16 / 16) (by omega), h3', h2', ← zero]
    rfl
  · have : n / 16 / 16 / 16 = n / 4096 ∧ n / 16 / 16 % 16 = n / 256 % 16 := by omega
    obtain ⟨h3', h2'⟩ := this
    rw [two n h1, two (n / 16) (by omega), two (n / 16 / 16) (by omega),
      one (n / 16 / 16 / 16) (by omega), h3', h2']
    rfl

/-- The reader of escapes knows the digits that the writer uses. -/
theorem hexValue?_digitChar {n : Nat} (h : n < 16) : Text.hexValue? n.digitChar = some n := by
  -- sixteen digits, checked one by one
  have all : ∀ m : Fin 16, Text.hexValue? (Nat.digitChar m) = some m.val := by decide
  exact all ⟨n, h⟩

theorem unit?_digits {n : Nat} (h : n < 0x10000) :
    unit? (n / 4096).digitChar (n / 256 % 16).digitChar (n / 16 % 16).digitChar
      (n % 16).digitChar = some n := by
  unfold unit? Text.hexNumber?
  simp only [List.foldlM_cons, List.foldlM_nil, Option.map_some, Option.bind_eq_bind,
    Option.bind_some, pure, Option.some.injEq,
    hexValue?_digitChar (show n / 4096 < 16 by omega),
    hexValue?_digitChar (show n / 256 % 16 < 16 by omega),
    hexValue?_digitChar (show n / 16 % 16 < 16 by omega),
    hexValue?_digitChar (show n % 16 < 16 by omega)]
  omega

/-! ### Escapes -/

/-- No character is half of a surrogate pair. -/
theorem toNat_valid (c : Char) :
    c.toNat < 0xD800 ∨ (0xDFFF < c.toNat ∧ c.toNat < 0x110000) := c.valid

theorem not_isHighSurrogate_toNat (c : Char) : isHighSurrogate c.toNat = false := by
  have hv := toNat_valid c
  simp only [isHighSurrogate, Bool.and_eq_false_iff, decide_eq_false_iff_not]
  omega

theorem unitPoint_toNat (c : Char) : unitPoint c.toNat = .char c := by
  have hv := toNat_valid c
  rw [unitPoint, dif_neg (by omega), Char.ofNat_toNat]

/-- The two halves that a character beyond the basic plane is written as make up that character. -/
theorem pairChar_units {c : Char} (h : 0x10000 ≤ c.toNat) :
    pairChar (0xD800 + (c.toNat - 0x10000) / 0x400) (0xDC00 + (c.toNat - 0x10000) % 0x400) = c := by
  have : 0x10000 + (0xD800 + (c.toNat - 0x10000) / 0x400 - 0xD800) * 0x400 +
      (0xDC00 + (c.toNat - 0x10000) % 0x400 - 0xDC00) = c.toNat := by omega
  rw [pairChar, this]
  exact Char.ofNat_toNat c

/-- The escape of a code unit is read as its code point, unless it is the first half of a pair. -/
theorem escaped_unit {n : Nat} (h : n < 0x10000) (hh : isHighSurrogate n = false) (e : Char)
    (t : List Char) :
    ∃ hl, escaped ('u' :: (hex4 n ++ e :: t)) = .ok (unitPoint n, ⟨e :: t, hl⟩) := by
  rw [hex4_eq h]
  refine ⟨by simp, ?_⟩
  simp only [List.cons_append, List.nil_append, escaped, unit?_digits h, hh, Bool.false_eq_true,
    if_false]

/-- Two escapes in a row that make up a pair are read as one character. -/
theorem escaped_pair {n m : Nat} (hn : isHighSurrogate n = true) (hm : isLowSurrogate m = true)
    (e : Char) (t : List Char) :
    ∃ hl, escaped ('u' :: (hex4 n ++ (unitEscape m ++ e :: t))) =
      .ok (.char (pairChar n m), ⟨e :: t, hl⟩) := by
  have hn' : n < 0x10000 := by
    simp only [isHighSurrogate, Bool.and_eq_true, decide_eq_true_eq] at hn
    omega
  have hm' : m < 0x10000 := by
    simp only [isLowSurrogate, Bool.and_eq_true, decide_eq_true_eq] at hm
    omega
  -- the second escape is read with its backslash, unlike the first one
  have second : ∃ hl, secondUnit (unitEscape m ++ e :: t) = .ok (some (m, ⟨e :: t, hl⟩)) := by
    rw [unitEscape, hex4_eq hm']
    refine ⟨by simp, ?_⟩
    simp only [List.cons_append, List.nil_append, secondUnit, unit?_digits hm', hm, if_true]
  obtain ⟨hl, second⟩ := second
  rw [hex4_eq hn']
  refine ⟨by simp [unitEscape]; omega, ?_⟩
  simp only [unitEscape, List.cons_append, List.nil_append, escaped, unit?_digits hn', hn,
    if_true] at second ⊢
  rw [second]

/-! ### Quoted texts -/

/-- **Reading a quoted text.** From behind the first quote, the list of characters `s` starts with
`text` and its last quote; `r` is what follows. -/
def Quotes (s text r : List Char) : Prop :=
  ∀ start, ∃ h, quoted start s = .ok (text.map .char, ⟨r, h⟩)

theorem Quotes.nil (r : List Char) : Quotes ('"' :: r) [] r := by
  intro start
  exact ⟨by simp, by rw [quoted, List.map_nil]⟩

/-- One escaped character in front of a quoted text. -/
theorem Quotes.escaped {c d : Char} {s t text r : List Char} (h : Quotes t text r)
    (hd : ∃ hl, Json.escaped (c :: s) = .ok (.char d, ⟨t, hl⟩)) :
    Quotes ('\\' :: c :: s) (d :: text) r := by
  intro start
  obtain ⟨hl, hd⟩ := hd
  obtain ⟨h', ht⟩ := h start
  refine ⟨by simp at hl ⊢; omega, ?_⟩
  rw [quoted]
  simp only [hd, ht, bind, Except.bind, pure, Except.pure, Shorter.widen, List.map_cons]

/-- One character that stands for itself in front of a quoted text. -/
theorem Quotes.plain {c : Char} {t text r : List Char} (h : Quotes t text r) (hq : c ≠ '"')
    (hb : c ≠ '\\') (hc : 0x20 ≤ c.toNat) : Quotes (c :: t) (c :: text) r := by
  intro start
  obtain ⟨h', ht⟩ := h start
  refine ⟨by simp; omega, ?_⟩
  rw [quoted]
  · simp only [show ¬ c.toNat < 0x20 by omega, if_false, ht, bind, Except.bind, pure, Except.pure,
      Shorter.widen, List.map_cons]
  · exact hq
  · exact fun h => absurd h hb
  · exact fun _ _ h => absurd h hb

theorem Quotes.exists_cons {s text r : List Char} (h : Quotes s text r) :
    ∃ e t, s = e :: t := by
  obtain ⟨h', -⟩ := h []
  cases s with
  | nil => simp at h'
  | cons e t => exact ⟨e, t, rfl⟩

theorem unitEscape_append (n : Nat) (t : List Char) :
    unitEscape n ++ t = '\\' :: 'u' :: (hex4 n ++ t) := rfl

/-- A character written as the escape of its code unit. -/
theorem Quotes.unit {c : Char} {t text r : List Char} (h : Quotes t text r)
    (hc : c.toNat < 0x10000) : Quotes (unitEscape c.toNat ++ t) (c :: text) r := by
  obtain ⟨e, t, rfl⟩ := h.exists_cons
  have hd := escaped_unit hc (not_isHighSurrogate_toNat c) e t
  rw [unitPoint_toNat] at hd
  rw [unitEscape_append]
  exact h.escaped hd

/-- A character written as the escapes of two halves. -/
theorem Quotes.pair {c : Char} {t text r : List Char} (h : Quotes t text r)
    (hc : 0x10000 ≤ c.toNat) :
    Quotes (unitEscape (0xD800 + (c.toNat - 0x10000) / 0x400) ++
      (unitEscape (0xDC00 + (c.toNat - 0x10000) % 0x400) ++ t)) (c :: text) r := by
  obtain ⟨e, t, rfl⟩ := h.exists_cons
  have hv := toNat_valid c
  -- the offset of a character is below `2 ^ 20`, so both halves are in their ranges
  have high : isHighSurrogate (0xD800 + (c.toNat - 0x10000) / 0x400) = true := by
    simp only [isHighSurrogate, Bool.and_eq_true, decide_eq_true_eq]
    omega
  have low : isLowSurrogate (0xDC00 + (c.toNat - 0x10000) % 0x400) = true := by
    simp only [isLowSurrogate, Bool.and_eq_true, decide_eq_true_eq]
    omega
  have hd := escaped_pair high low e t
  rw [pairChar_units hc] at hd
  rw [unitEscape_append]
  exact h.escaped hd

/-- **One written character is read back**, whichever way it is written. -/
theorem Quotes.escapeChar (asciiOnly : Bool) (c : Char) {t text r : List Char}
    (h : Quotes t text r) : Quotes (Json.escapeChar asciiOnly c ++ t) (c :: text) r := by
  -- the seven short escapes differ in their letter only
  have short {k : Char} (hk : shortEscape? k = some c) (hu : k ≠ 'u') :
      Quotes ('\\' :: k :: t) (c :: text) r := by
    refine h.escaped ⟨by simp, ?_⟩
    rw [Json.escaped]
    · simp only [hk]
    · exact fun _ _ _ _ _ _ h => absurd h hu
    · exact hu
  unfold Json.escapeChar
  split
  · next hq => subst hq; exact short rfl (by decide)
  split
  · next hb => subst hb; exact short rfl (by decide)
  split
  · next hn => subst hn; exact short rfl (by decide)
  split
  · next hr => subst hr; exact short rfl (by decide)
  split
  · next ht => subst ht; exact short rfl (by decide)
  split
  · next hb => subst hb; exact short rfl (by decide)
  split
  · next hf => subst hf; exact short rfl (by decide)
  split
  · next hs => exact h.unit (by omega)
  split
  -- beyond ASCII: one escape, or those of two halves
  · split
    · next hc => exact h.unit hc
    · next hc =>
      rw [List.append_assoc]
      exact h.pair (by omega)
  · next hq hb _ _ _ _ _ hs _ => exact h.plain hq hb (by omega)

theorem quotes_flatMap (asciiOnly : Bool) (text r : List Char) :
    Quotes (text.flatMap (escapeChar asciiOnly) ++ '"' :: r) text r := by
  induction text with
  | nil => exact Quotes.nil r
  | cons c text ih =>
    rw [List.flatMap_cons, List.append_assoc]
    exact ih.escapeChar asciiOnly c

theorem quote_append (asciiOnly : Bool) (text : String) (r : List Char) :
    quote asciiOnly text ++ r =
      '"' :: (text.toList.flatMap (escapeChar asciiOnly) ++ '"' :: r) := by
  simp [quote]

/-- **A quoted text is read back**, in front of anything. -/
theorem quotes_quote (asciiOnly : Bool) (text : String) (r : List Char) :
    ∃ s, quote asciiOnly text ++ r = '"' :: s ∧ Quotes s text.toList r :=
  ⟨_, quote_append asciiOnly text r, quotes_flatMap asciiOnly text.toList r⟩

theorem Quotes.unique {s text text' r r' : List Char} (h : Quotes s text r)
    (h' : Quotes s text' r') : text = text' ∧ r = r' := by
  obtain ⟨_, h⟩ := h []
  obtain ⟨_, h'⟩ := h' []
  rw [h] at h'
  simp only [Except.ok.injEq, Prod.mk.injEq, Subtype.mk.injEq] at h'
  exact h'.imp_left (List.map_inj_right fun _ _ => CodePoint.char.inj).1

/-- Two quoted texts that start the same characters are the same. -/
theorem quote_append_inj {asciiOnly : Bool} {a b : String} {r s : List Char}
    (h : quote asciiOnly a ++ r = quote asciiOnly b ++ s) : a = b ∧ r = s := by
  obtain ⟨u, hu, qu⟩ := quotes_quote asciiOnly a r
  obtain ⟨v, hv, qv⟩ := quotes_quote asciiOnly b s
  rw [hu, hv] at h
  -- both texts are read from the same characters, and reading is a function
  obtain rfl : u = v := List.tail_eq_of_cons_eq h
  obtain ⟨hab, hrs⟩ := qu.unique qv
  exact ⟨String.toList_inj.mp hab, hrs⟩

end SchemaPress.Json
