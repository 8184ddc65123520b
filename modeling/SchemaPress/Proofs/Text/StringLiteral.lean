import Mathlib.Algebra.Group.Nat.Defs
import SchemaPress.Proofs.Json.Quoted
import SchemaPress.Proofs.Text.GoLiteral
import SchemaPress.Text.Literal

/-!
# Reading string literals with escapes

Between its two marks a string literal holds characters that stand for themselves and escapes behind a
backslash. Languages differ in what the two denote (`LiteralRules`), and in the units that a text is made
of: characters, or the halves that UTF-16 cuts some characters into. They do not differ in how a literal
is read, which is piece by piece up to the first bare mark (`LiteralRules.read?`).

So a way to write texts can be checked one character at a time: it is enough that each piece is read as
its units in front of anything (`LiteralRules.Reads`), for pieces in a row are read one after the other
(`Reads.flatMap`). Numbers are the only pieces of more than two characters, and all digits that a fixed
width leaves room for are read back (`leadingNumber?_hexDigits`).

Two languages are read here.

* A text of TypeScript is a list of code units of sixteen bits. Texts are quoted as JSON of ASCII characters,
  and every one of them is read back from that, in front of anything (`scriptString?_quote`): the escapes of
  JSON are escapes of the language as well, and the two halves of a character stand side by side.
* A text of Python is a list of characters. Every text is read back from its literal, whichever quotes that
  has, in front of anything but a quote (`pythonString?_literal`). Three quotes in a row open another kind of
  literal, in which lines may end and single quotes stand for themselves (`pythonTripleString?`). Characters
  that are escaped by their Unicode names are not read in either kind.
-/

namespace SchemaPress.Text

/-! ### Numbers of a fixed width -/

/-- One more digit of a number that is read from its first digit on. -/
def withDigit? (base n : Nat) (c : Char) : Option Nat := do
  let digit ← hexValue? c
  if digit < base then some (base * n + digit) else none

theorem withDigit?_digitChar {digit : Nat} (h : digit < 16) (n : Nat) :
    withDigit? 16 n digit.digitChar = some (16 * n + digit) := by
  unfold withDigit?
  rw [Json.hexValue?_digitChar h]
  exact if_pos h

/-- Digits are read back as the number that they write. -/
theorem foldlM_toDigits (n : Nat) : (Nat.toDigits 16 n).foldlM (withDigit? 16) 0 = some n := by
  -- by induction on the number, which loses its last digit in each step
  induction n using Nat.strongRecOn with
  | ind n ih =>
    rcases Nat.lt_or_ge n 16 with hlt | hge
    · rw [Nat.toDigits_of_lt_base hlt, List.foldlM_cons, withDigit?_digitChar hlt]
      change some (16 * 0 + n) = some n
      rw [Nat.mul_zero, Nat.zero_add]
    · rw [Nat.toDigits_of_base_le (by decide) hge, List.foldlM_append, ih (n / 16) (by omega)]
      change List.foldlM (withDigit? 16) (n / 16) [(n % 16).digitChar] = some n
      rw [List.foldlM_cons, withDigit?_digitChar (Nat.mod_lt n (by decide))]
      change some (16 * (n / 16) + n % 16) = some n
      rw [Nat.div_add_mod]

/-- Zeros in front of a number count for nothing. -/
theorem foldlM_replicate_zero (count : Nat) :
    (List.replicate count '0').foldlM (withDigit? 16) 0 = some 0 := by
  induction count with
  | zero => rfl
  | succ count ih => rw [List.replicate_succ, List.foldlM_cons]; exact ih

theorem length_hexDigits {count n : Nat} (hcount : 0 < count) (h : n < 16 ^ count) :
    (hexDigits count n).length = count := by
  have hle : (Nat.toDigits 16 n).length ≤ count := (Nat.length_toDigits_le_iff (by decide) hcount).2 h
  unfold hexDigits
  rw [List.length_append, List.length_replicate]
  omega

/-- **A number is read back from its digits**, where these have room for it. -/
theorem leadingNumber?_hexDigits {count n : Nat} (hcount : 0 < count) (h : n < 16 ^ count)
    (rest : List Char) : leadingNumber? 16 count (hexDigits count n ++ rest) = some n := by
  have hlength := length_hexDigits hcount h
  rw [leadingNumber?_append hlength]
  unfold leadingNumber?
  rw [if_neg (by omega), List.take_of_length_le (Nat.le_of_eq hlength)]
  change (hexDigits count n).foldlM (withDigit? 16) 0 = some n
  unfold hexDigits
  rw [List.foldlM_append, foldlM_replicate_zero]
  exact foldlM_toDigits n

/-! ### Literals -/

/-- **How a language reads string literals**: what the parts of a literal denote, in the units that the
texts of the language are made of. -/
structure LiteralRules (α : Type) where
  /-- What a character denotes that stands behind no backslash, if it may stand in a literal. -/
  plain? : Char → Option (List α)
  /-- What an escape denotes, by the characters behind its backslash, and how many of them it takes. -/
  escape? : List Char → Option (List α × Nat)

namespace LiteralRules

variable {α : Type} (rules : LiteralRules α)

/-- What a literal denotes, from behind its first mark on, and what stands behind its last one. -/
def read? (mark : Char) : List Char → Option (List α × List Char)
  | [] => none
  | c :: rest =>
    if c = mark then some ([], rest)
    else if c = '\\' then do
      let (units, count) ← rules.escape? rest
      let (more, behind) ← read? mark (rest.drop count)
      return (units ++ more, behind)
    else do
      let units ← rules.plain? c
      let (more, behind) ← read? mark rest
      return (units ++ more, behind)
termination_by s => s.length
decreasing_by all_goals (simp only [List.length_cons, List.length_drop]; omega)

/-- **A piece of a literal that is read as these units**, in front of anything. -/
def Reads (mark : Char) (written : List Char) (units : List α) : Prop :=
  ∀ rest, rules.read? mark (written ++ rest) =
    (rules.read? mark rest).map (Prod.map (units ++ ·) id)

variable {rules} {mark c : Char} {s t : List Char} {units more : List α}

/-- The first bare mark ends a literal. -/
theorem read?_mark (mark : Char) (rest : List Char) :
    rules.read? mark (mark :: rest) = some ([], rest) := by
  rw [read?, if_pos rfl]

theorem Reads.nil : rules.Reads mark [] [] := by
  intro rest
  rw [List.nil_append]
  cases rules.read? mark rest <;> rfl

theorem Reads.append (h : rules.Reads mark s units) (h' : rules.Reads mark t more) :
    rules.Reads mark (s ++ t) (units ++ more) := by
  intro rest
  rw [List.append_assoc, h, h', Option.map_map]
  congr 1
  funext answer
  change (units ++ (more ++ answer.1), answer.2) = (units ++ more ++ answer.1, answer.2)
  rw [List.append_assoc]

/-- **Pieces in a row are read one after the other**, here one for each item of a list. -/
theorem Reads.flatMap {β : Type} {items : List β} {write : β → List Char} {denotes : β → List α}
    (h : ∀ item ∈ items, rules.Reads mark (write item) (denotes item)) :
    rules.Reads mark (items.flatMap write) (items.flatMap denotes) := by
  induction items with
  | nil => exact .nil
  | cons item rest ih =>
    rw [List.flatMap_cons, List.flatMap_cons]
    exact (h item List.mem_cons_self).append fun other =>
      ih (fun later hlater => h later (List.mem_cons_of_mem _ hlater)) other

/-- A character that is no mark and no backslash stands for what the language says. -/
theorem Reads.plain (hmark : c ≠ mark) (hback : c ≠ '\\') (h : rules.plain? c = some units) :
    rules.Reads mark [c] units := by
  intro rest
  rw [List.singleton_append, read?, if_neg hmark, if_neg hback, h]
  change (rules.read? mark rest >>= fun (more, behind) => some (units ++ more, behind)) = _
  cases rules.read? mark rest <;> rfl

/-- An escape stands for what the language says, where it takes all of its characters. -/
theorem Reads.escape (hmark : mark ≠ '\\')
    (h : ∀ rest, rules.escape? (s ++ rest) = some (units, s.length)) :
    rules.Reads mark ('\\' :: s) units := by
  intro rest
  rw [List.cons_append, read?, if_neg hmark.symm, if_pos rfl, h rest]
  change (rules.read? mark ((s ++ rest).drop s.length) >>= fun (more, behind) =>
    some (units ++ more, behind)) = _
  rw [List.drop_left]
  cases rules.read? mark rest <;> rfl

/-- No piece that denotes something starts with a bare mark. -/
theorem Reads.head?_ne (h : rules.Reads mark s units) (hunits : units ≠ []) (rest : List Char) :
    (s ++ rest).head? ≠ some mark := by
  intro heq
  obtain ⟨t, ht⟩ := List.head?_eq_some_iff.1 heq
  have hread := h rest
  rw [ht, read?_mark] at hread
  cases hrest : rules.read? mark rest with
  | none =>
    rw [hrest] at hread
    cases hread
  | some answer =>
    rw [hrest] at hread
    have hnil : [] = units ++ answer.1 := congrArg Prod.fst (Option.some.inj hread)
    exact hunits (List.append_eq_nil_iff.1 hnil.symm).1

/-- **A literal is read up to its last mark**, whatever stands behind that. -/
theorem Reads.read?_append (h : rules.Reads mark s units) (rest : List Char) :
    rules.read? mark (s ++ mark :: rest) = some (units, rest) := by
  rw [h, read?_mark]
  change some (units ++ [], rest) = some (units, rest)
  rw [List.append_nil]

end LiteralRules

section TypeScript

open Json (isHighSurrogate isLowSurrogate pairChar)

/-! ### Code units of TypeScript -/

/-- The code units of the character of this number. -/
def codeUnits (n : Nat) : List Nat :=
  if n < 0x10000 then [n]
  else [0xD800 + (n - 0x10000) / 0x400, 0xDC00 + (n - 0x10000) % 0x400]

/-- The characters that code units make up; none if a half of a pair stands alone. -/
def charsOfUnits? : List Nat → Option (List Char)
  | [] => some []
  | [unit] => if isHighSurrogate unit || isLowSurrogate unit then none else some [Char.ofNat unit]
  | unit :: next :: rest =>
    if isHighSurrogate unit then
      if isLowSurrogate next then (charsOfUnits? rest).map (pairChar unit next :: ·) else none
    else if isLowSurrogate unit then none
    else (charsOfUnits? (next :: rest)).map (Char.ofNat unit :: ·)

theorem not_isLowSurrogate_toNat (c : Char) : isLowSurrogate c.toNat = false := by
  have hvalid := Json.toNat_valid c
  simp only [isLowSurrogate, Bool.and_eq_false_iff, decide_eq_false_iff_not]
  omega

/-- The units of a character are that character, whatever stands behind them. -/
theorem charsOfUnits?_append (c : Char) (rest : List Nat) :
    charsOfUnits? (codeUnits c.toNat ++ rest) = (charsOfUnits? rest).map (c :: ·) := by
  have hvalid := Json.toNat_valid c
  unfold codeUnits
  split
  · have hhigh := Json.not_isHighSurrogate_toNat c
    have hlow := not_isLowSurrogate_toNat c
    cases rest with
    | nil =>
      have hsingle : charsOfUnits? [c.toNat] = some [Char.ofNat c.toNat] := by
        rw [charsOfUnits?, hhigh, hlow]
        rfl
      rw [List.append_nil, hsingle, Char.ofNat_toNat]
      rfl
    | cons next rest =>
      rw [List.singleton_append, charsOfUnits?, hhigh, hlow, Char.ofNat_toNat]
      rfl
  · next hlarge =>
    -- the offset of a character is below `2 ^ 20`, so both halves are in their ranges
    have hhigh : isHighSurrogate (0xD800 + (c.toNat - 0x10000) / 0x400) = true := by
      simp only [isHighSurrogate, Bool.and_eq_true, decide_eq_true_eq]
      omega
    have hlow : isLowSurrogate (0xDC00 + (c.toNat - 0x10000) % 0x400) = true := by
      simp only [isLowSurrogate, Bool.and_eq_true, decide_eq_true_eq]
      omega
    rw [List.cons_append, List.singleton_append, charsOfUnits?, if_pos hhigh, if_pos hlow,
      Json.pairChar_units (Nat.le_of_not_lt hlarge)]

/-- **A text is told by its code units.** -/
theorem charsOfUnits?_flatMap (chars : List Char) :
    charsOfUnits? (chars.flatMap fun c => codeUnits c.toNat) = some chars := by
  induction chars with
  | nil => rfl
  | cons c rest ih => rw [List.flatMap_cons, charsOfUnits?_append, ih, Option.map_some]

/-! ### Literals of TypeScript -/

/-- What the short escapes denote. -/
def scriptShort? : Char → Option Nat
  | 'b' => some 0x08
  | 't' => some 0x09
  | 'n' => some 0x0A
  | 'v' => some 0x0B
  | 'f' => some 0x0C
  | 'r' => some 0x0D
  | _ => none

/-- Whether a character ends a line. -/
def isLineEnd (c : Char) : Bool :=
  c == '\n' || c == '\r' || c == '\u2028' || c == '\u2029'

/-- What the number of a character between braces denotes, by the characters behind the first brace, and
how many of them it takes. -/
def scriptBraced? (rest : List Char) : Option (List Nat × Nat) :=
  let number := rest.takeWhile (· != '\x7d')
  if number.isEmpty ∨ number.length = rest.length then none
  else ((hexNumber? number).filter (· < 0x110000)).map fun n => (codeUnits n, number.length + 1)

/-- What an escape denotes, by the characters behind the backslash, and how many of them it takes. No digit
is escaped, but for a zero that stands alone. -/
def scriptEscape? : List Char → Option (List Nat × Nat)
  | [] => none
  | kind :: rest =>
    match scriptShort? kind with
    | some unit => some ([unit], 1)
    | none =>
      if isLineEnd kind then some ([], if kind = '\r' ∧ rest.head? = some '\n' then 2 else 1)
      else if kind = 'x' then (leadingNumber? 16 2 rest).map fun n => ([n], 3)
      else if kind = 'u' then
        if rest.head? = some '\x7b' then
          (scriptBraced? rest.tail).map fun (units, count) => (units, count + 2)
        else (leadingNumber? 16 4 rest).map fun n => ([n], 5)
      else if kind.isDigit then
        if kind = '0' ∧ rest.head?.any Char.isDigit = false then some ([0], 1) else none
      else some (codeUnits kind.toNat, 1)

/-- How literals are read: a line ends in none of them. -/
def scriptRules : LiteralRules Nat where
  plain? c := if c = '\n' ∨ c = '\r' then none else some (codeUnits c.toNat)
  escape? := scriptEscape?

/-- The text that the string literal denotes which a text starts with, and what stands behind it. -/
def scriptString? : List Char → Option (String × List Char)
  | [] => none
  | mark :: rest =>
    if mark = '"' ∨ mark = '\'' then do
      let (units, behind) ← scriptRules.read? mark rest
      let chars ← charsOfUnits? units
      return (String.ofList chars, behind)
    else none

/-! ### TypeScript literals of texts -/

variable {mark : Char}

/-- A short escape of a code unit. -/
theorem reads_scriptShort (hmark : mark ≠ '\\') {kind : Char} {unit : Nat}
    (h : scriptShort? kind = some unit) : scriptRules.Reads mark ['\\', kind] [unit] := by
  refine .escape hmark fun rest => ?_
  change scriptEscape? (kind :: rest) = some ([unit], 1)
  rw [scriptEscape?, h]

/-- A quote or a backslash behind a backslash is itself. -/
theorem reads_scriptMark (hmark : mark ≠ '\\') {c : Char} (h : c = '"' ∨ c = '\\') :
    scriptRules.Reads mark ['\\', c] (codeUnits c.toNat) := by
  refine .escape hmark fun rest => ?_
  rcases h with rfl | rfl <;> rfl

/-- A code unit with four digits. -/
theorem reads_unitEscape (hmark : mark ≠ '\\') {n : Nat} (h : n < 0x10000) :
    scriptRules.Reads mark (Json.unitEscape n) [n] := by
  refine .escape hmark fun rest => ?_
  have hnumber : leadingNumber? 16 4 (Json.hex4 n ++ rest) = some n :=
    leadingNumber?_hexDigits (by decide) h rest
  have hlength : (Json.hex4 n).length = 4 := length_hexDigits (by decide) h
  -- the first digit is no brace
  have hhead : (Json.hex4 n ++ rest).head? ≠ some '\x7b' := by
    rw [Json.hex4_eq h]
    intro heq
    have hdigit : ∀ d < 16, Nat.digitChar d ≠ '\x7b' := by decide
    exact hdigit (n / 4096) (by omega) (Option.some.inj heq)
  change scriptEscape? ('u' :: (Json.hex4 n ++ rest)) = some ([n], (Json.hex4 n).length + 1)
  rw [hlength]
  change (if (Json.hex4 n ++ rest).head? = some '\x7b' then _
    else (leadingNumber? 16 4 (Json.hex4 n ++ rest)).map fun n => ([n], 5)) = some ([n], 5)
  rw [if_neg hhead, hnumber, Option.map_some]

/-- **A character of a quoted text is read as its code units**, by the kinds of escapes. -/
theorem reads_escapeChar (c : Char) :
    scriptRules.Reads '"' (Json.escapeChar true c) (codeUnits c.toNat) := by
  have hmark : '"' ≠ '\\' := by decide
  have hvalid := Json.toNat_valid c
  unfold Json.escapeChar
  by_cases hquote : c = '"'
  · subst hquote
    exact reads_scriptMark hmark (.inl rfl)
  by_cases hback : c = '\\'
  · subst hback
    exact reads_scriptMark hmark (.inr rfl)
  by_cases hline : c = '\n'
  · subst hline
    exact reads_scriptShort hmark rfl
  by_cases hreturn : c = '\r'
  · subst hreturn
    exact reads_scriptShort hmark rfl
  by_cases htab : c = '\t'
  · subst htab
    exact reads_scriptShort hmark rfl
  by_cases hbell : c = '\x08'
  · subst hbell
    exact reads_scriptShort hmark rfl
  by_cases hfeed : c = '\x0c'
  · subst hfeed
    exact reads_scriptShort hmark rfl
  rw [if_neg hquote, if_neg hback, if_neg hline, if_neg hreturn, if_neg htab, if_neg hbell, if_neg hfeed]
  by_cases hcontrol : c.toNat < 0x20
  · have hunits : codeUnits c.toNat = [c.toNat] := if_pos (by omega)
    rw [if_pos hcontrol, hunits]
    exact reads_unitEscape hmark (by omega)
  rw [if_neg hcontrol, Bool.true_and]
  by_cases hascii : 0x7F ≤ c.toNat
  · rw [if_pos (decide_eq_true hascii)]
    by_cases hbasic : c.toNat < 0x10000
    · have hunits : codeUnits c.toNat = [c.toNat] := if_pos hbasic
      rw [if_pos hbasic, hunits]
      exact reads_unitEscape hmark hbasic
    · -- beyond the basic plane a character is written as its two halves
      have hunits : codeUnits c.toNat =
          [0xD800 + (c.toNat - 0x10000) / 0x400] ++ [0xDC00 + (c.toNat - 0x10000) % 0x400] :=
        if_neg hbasic
      rw [if_neg hbasic, hunits]
      exact (reads_unitEscape hmark (by omega)).append (reads_unitEscape hmark (by omega))
  · have hplain : ¬ (c = '\n' ∨ c = '\r') := by
      rintro (heq | heq)
      · exact hline heq
      · exact hreturn heq
    rw [if_neg (by simpa using hascii)]
    exact .plain hquote hback (if_neg hplain)

/-- **Every text is read back from its JSON**, in front of anything, where characters beyond ASCII are
escaped. -/
theorem scriptString?_quote (text : String) (rest : List Char) :
    scriptString? (Json.quote true text ++ rest) = some (text, rest) := by
  have hread : scriptRules.read? '"' (text.toList.flatMap (Json.escapeChar true) ++ '"' :: rest) =
      some (text.toList.flatMap fun c => codeUnits c.toNat, rest) :=
    (LiteralRules.Reads.flatMap fun c _ => reads_escapeChar c).read?_append rest
  rw [Json.quote_append]
  change (scriptRules.read? '"' (text.toList.flatMap (Json.escapeChar true) ++ '"' :: rest) >>=
    fun (units, behind) => _) = _
  rw [hread]
  change ((charsOfUnits? (text.toList.flatMap fun c => codeUnits c.toNat)).bind fun chars =>
    some (String.ofList chars, rest)) = some (text, rest)
  rw [charsOfUnits?_flatMap]
  change some (String.ofList text.toList, rest) = some (text, rest)
  rw [String.ofList_toList]

/-- Other escapes denote single units, characters of any number, and nothing where they hide the end of a
line. Half a pair is no text, and neither an escaped number of two digits nor a bare end of a line stands in
a literal. -/
example :
    scriptString? "'\\x41\\u\x7b1F600\x7d\\\r\nb\\0\\q' ".toList = some ("A😀b\x00q", [' ']) ∧
      scriptString? "\"\\ud83d\\ude00\"".toList = some ("😀", []) ∧
      scriptString? "\"\\ud83d\"".toList = none ∧ scriptString? "\"\\01\"".toList = none ∧
      scriptString? "\"a\nb\"".toList = none := by
  decide +kernel

end TypeScript

section Python

/-! ### Literals of Python -/

/-- What the short escapes denote. -/
def pythonShort? : Char → Option Char
  | '\\' => some '\\'
  | '\'' => some '\''
  | '"' => some '"'
  | 'a' => some '\x07'
  | 'b' => some '\x08'
  | 't' => some '\t'
  | 'n' => some '\n'
  | 'v' => some '\x0b'
  | 'f' => some '\x0c'
  | 'r' => some '\r'
  | _ => none

/-- Whether the character is a digit of base eight. -/
def isOctalDigit (c : Char) : Bool :=
  '0' ≤ c && c ≤ '7'

/-- The character of a number that so many hexadecimal digits write, and the digits with the letter in front
of them. -/
def pythonNumber? (count : Nat) (rest : List Char) : Option (List Char × Nat) :=
  ((leadingNumber? 16 count rest).filter (·.isValidChar)).map fun n => ([Char.ofNat n], count + 1)

/-- What an escape denotes, by the characters behind the backslash, and how many of them it takes. -/
def pythonEscape? : List Char → Option (List Char × Nat)
  | [] => none
  | kind :: rest =>
    match pythonShort? kind with
    | some c => some ([c], 1)
    | none =>
      if kind = '\n' then some ([], 1)
      else if kind = '\r' then some ([], if rest.head? = some '\n' then 2 else 1)
      else if kind = 'x' then pythonNumber? 2 rest
      else if kind = 'u' then pythonNumber? 4 rest
      else if kind = 'U' then pythonNumber? 8 rest
      else if kind = 'N' then none
      else if isOctalDigit kind then
        let digits := ((kind :: rest).take 3).takeWhile isOctalDigit
        (leadingNumber? 8 digits.length digits).map fun n => ([Char.ofNat n], digits.length)
      else some (['\\', kind], 1)

/-- How literals are read: a line ends in none of them, and no source holds the character of number zero. -/
def pythonRules : LiteralRules Char where
  plain? c := if c = '\n' ∨ c = '\r' ∨ c = '\x00' then none else some [c]
  escape? := pythonEscape?

/-- The text that the string literal denotes which a text starts with, and what stands behind it. -/
def pythonString? : List Char → Option (String × List Char)
  | [] => none
  | mark :: rest =>
    if (mark = '"' ∨ mark = '\'') ∧ rest.take 2 ≠ [mark, mark] then
      (pythonRules.read? mark rest).map fun (chars, behind) => (String.ofList chars, behind)
    else none

/-! ### Python literals of texts -/

variable {mark c kind : Char}

/-- A short escape of a character. -/
theorem reads_pythonShort (hmark : mark ≠ '\\') (h : pythonShort? kind = some c) :
    pythonRules.Reads mark ['\\', kind] [c] := by
  refine .escape hmark fun rest => ?_
  change pythonEscape? (kind :: rest) = some ([c], 1)
  rw [pythonEscape?, h]

/-- A character by its number, with one of the three widths. -/
theorem reads_pythonNumber (hmark : mark ≠ '\\') {count : Nat}
    (hkind : (kind, count) ∈ [('x', 2), ('u', 4), ('U', 8)]) (h : c.toNat < 16 ^ count) :
    pythonRules.Reads mark ('\\' :: kind :: hexDigits count c.toNat) [c] := by
  have hcount : 0 < count := by
    simp only [List.mem_cons, Prod.mk.injEq, List.not_mem_nil, or_false] at hkind
    omega
  have hescape (rest : List Char) : pythonEscape? (kind :: rest) = pythonNumber? count rest := by
    simp only [List.mem_cons, Prod.mk.injEq, List.not_mem_nil, or_false] at hkind
    obtain ⟨rfl, rfl⟩ | ⟨rfl, rfl⟩ | ⟨rfl, rfl⟩ := hkind <;> rfl
  have hvalid : c.toNat.isValidChar := c.valid
  refine .escape hmark fun rest => ?_
  change pythonEscape? (kind :: (hexDigits count c.toNat ++ rest)) =
    some ([c], (hexDigits count c.toNat).length + 1)
  rw [hescape, pythonNumber?, leadingNumber?_hexDigits hcount h, length_hexDigits hcount h,
    Option.filter_some, if_pos (decide_eq_true hvalid), Option.map_some, Char.ofNat_toNat]

/-- **A character of a literal is read back**, by the kinds of escapes. -/
theorem reads_literalEscape (hmark : mark = '"' ∨ mark = '\'') (c : Char) :
    pythonRules.Reads mark (literalEscape mark c) [c] := by
  have hback : mark ≠ '\\' := by
    rintro rfl
    rcases hmark with h | h <;> exact absurd h (by decide)
  have hvalid := Json.toNat_valid c
  unfold literalEscape
  by_cases hself : c = mark ∨ c = '\\'
  · -- a mark or a backslash, which a backslash turns into a character like any other
    have hshort : pythonShort? c = some c := by
      rcases hself with rfl | rfl
      · rcases hmark with rfl | rfl <;> rfl
      · rfl
    rw [if_pos (by simpa using hself)]
    exact reads_pythonShort hback hshort
  obtain ⟨hne, hslash⟩ := not_or.1 hself
  rw [if_neg (by simpa using hself)]
  by_cases htab : c = '\t'
  · subst htab
    exact reads_pythonShort hback rfl
  by_cases hline : c = '\n'
  · subst hline
    exact reads_pythonShort hback rfl
  by_cases hreturn : c = '\r'
  · subst hreturn
    exact reads_pythonShort hback rfl
  rw [if_neg htab, if_neg hline, if_neg hreturn]
  by_cases hprintable : isPrintable c = true
  · have hzero : c ≠ '\x00' := by
      rintro rfl
      exact absurd hprintable (by decide)
    have hplain : ¬ (c = '\n' ∨ c = '\r' ∨ c = '\x00') := by
      rintro (h | h | h)
      · exact hline h
      · exact hreturn h
      · exact hzero h
    rw [if_pos hprintable]
    exact .plain hne hslash (if_neg hplain)
  rw [if_neg hprintable]
  by_cases hoctet : c.toNat < 0x100
  · rw [if_pos hoctet]
    exact reads_pythonNumber hback (by simp) hoctet
  rw [if_neg hoctet]
  by_cases hbasic : c.toNat < 0x10000
  · rw [if_pos hbasic]
    exact reads_pythonNumber hback (by simp) hbasic
  · rw [if_neg hbasic]
    exact reads_pythonNumber hback (by simp) (by omega)

theorem literalMark_eq (text : List Char) : literalMark text = '"' ∨ literalMark text = '\'' := by
  unfold literalMark
  split
  · exact .inl rfl
  · exact .inr rfl

/-- **Every text is read back from its literal**, in front of anything but a quote. -/
theorem pythonString?_literal (text : String) {rest : List Char} (hrest : rest.head? ≠ some '\'') :
    pythonString? ((literal text).toList ++ rest) = some (text, rest) := by
  have hmark := literalMark_eq text.toList
  have hempty : text.toList = [] → literalMark text.toList = '\'' := by
    intro h
    rw [h]
    rfl
  generalize hm : literalMark text.toList = mark at hmark hempty
  have hchars : (literal text).toList ++ rest =
      mark :: (text.toList.flatMap (literalEscape mark) ++ mark :: rest) := by
    unfold literal
    rw [hm, String.toList_ofList]
    simp only [List.cons_append, List.append_assoc, List.nil_append]
  -- two more marks would need an empty text with a quote behind its literal
  have hsingle : (text.toList.flatMap (literalEscape mark) ++ mark :: rest).take 2 ≠ [mark, mark] := by
    cases htext : text.toList with
    | nil =>
      rw [List.flatMap_nil, List.nil_append]
      intro heq
      cases rest with
      | nil => cases heq
      | cons d others =>
        have hd : d = mark := (List.cons.inj (List.cons.inj heq).2).1
        exact hrest (by rw [hd, hempty htext]; rfl)
    | cons c others =>
      rw [List.flatMap_cons, List.append_assoc]
      intro heq
      have hhead := congrArg List.head? heq
      rw [List.head?_take, if_neg (by decide)] at hhead
      exact (reads_literalEscape hmark c).head?_ne (List.cons_ne_nil _ _) _ hhead
  have hread : pythonRules.read? mark (text.toList.flatMap (literalEscape mark) ++ mark :: rest) =
      some (text.toList.flatMap fun c => [c], rest) :=
    (LiteralRules.Reads.flatMap fun c _ => reads_literalEscape hmark c).read?_append rest
  have hself : (text.toList.flatMap fun c => [c]) = text.toList := List.flatMap_singleton' _
  rw [hchars, pythonString?, if_pos ⟨hmark, hsingle⟩, hread, hself]
  change some (String.ofList text.toList, rest) = some (text, rest)
  rw [String.ofList_toList]

/-- Other escapes denote octets and characters by octal numbers, and an unknown one the backslash as well;
a bare end of a line stands in no literal. -/
example :
    pythonString? "\"\\101\\0\\u00e9\\U0001F600\\\nb\\q\" ".toList = some ("A\x00é😀b\\q", [' ']) ∧
      pythonString? "'a\nb'".toList = none ∧ pythonString? "'''a'''".toList = none ∧
      pythonString? "'' ".toList = some ("", [' ']) := by
  decide +kernel

/-! ### Python literals between three quotes -/

/-- What a literal between three double quotes denotes, from behind the first three on, and what stands behind
the last three. Lines may end in it; whatever ends one denotes a line break. -/
def tripleQuoted? : List Char → Option (List Char × List Char)
  | [] => none
  | c :: rest =>
    if c = '"' ∧ rest.take 2 = ['"', '"'] then some ([], rest.drop 2)
    else if c = '\\' then do
      let (chars, count) ← pythonEscape? rest
      let (more, behind) ← tripleQuoted? (rest.drop count)
      return (chars ++ more, behind)
    else if c = '\x00' then none
    else if c = '\r' then
      (tripleQuoted? (rest.drop (if rest.head? = some '\n' then 1 else 0))).map (Prod.map ('\n' :: ·) id)
    else (tripleQuoted? rest).map (Prod.map (c :: ·) id)
termination_by s => s.length
decreasing_by all_goals (simp only [List.length_cons, List.length_drop]; omega)

/-- The text that the literal between three double quotes denotes which a text starts with, and what stands
behind it. -/
def pythonTripleString? (s : List Char) : Option (String × List Char) :=
  if s.take 3 = ['"', '"', '"'] then (tripleQuoted? (s.drop 3)).map (Prod.map String.ofList id) else none

/-- A character that is no quote and no backslash and ends no line is itself. -/
theorem tripleQuoted?_plain (hquote : c ≠ '"') (hback : c ≠ '\\') (hzero : c ≠ '\x00')
    (hreturn : c ≠ '\r') (rest : List Char) :
    tripleQuoted? (c :: rest) = (tripleQuoted? rest).map (Prod.map (c :: ·) id) := by
  rw [tripleQuoted?, if_neg (fun h => hquote h.1), if_neg hback, if_neg hzero, if_neg hreturn]

/-- A quote or a backslash behind a backslash is itself. -/
theorem tripleQuoted?_escape (h : c = '"' ∨ c = '\\') (rest : List Char) :
    tripleQuoted? ('\\' :: c :: rest) = (tripleQuoted? rest).map (Prod.map (c :: ·) id) := by
  have hescape : pythonEscape? (c :: rest) = some ([c], 1) := by
    rcases h with rfl | rfl <;> rfl
  rw [tripleQuoted?, if_neg (fun heq => absurd heq.1 (by decide)), if_pos rfl, hescape]
  change (tripleQuoted? rest >>= fun (more, behind) => some ([c] ++ more, behind)) = _
  cases tripleQuoted? rest <;> rfl

/-- The character of number zero is in no literal, wherever it stands. -/
theorem tripleQuoted?_zero (rest : List Char) : tripleQuoted? ('\x00' :: rest) = none := by
  rw [tripleQuoted?, if_neg (fun h => absurd h.1 (by decide)), if_neg (by decide), if_pos rfl]

theorem pythonTripleString?_marks (s : List Char) :
    pythonTripleString? ('"' :: '"' :: '"' :: s) = (tripleQuoted? s).map (Prod.map String.ofList id) :=
  if_pos rfl

theorem tripleQuoted?_marks (rest : List Char) :
    tripleQuoted? ('"' :: '"' :: '"' :: rest) = some ([], rest) := by
  rw [tripleQuoted?, if_pos ⟨rfl, rfl⟩]
  rfl

/-- Quotes in front of the last three belong to the text, but for one that these end with; the backslash
between lines denotes nothing, and an end of a line one line break. -/
example :
    pythonTripleString? "\"\"\"a\"\"b\\\"\\\nc\r\n\\x41\"\"\" d".toList = some ("a\"\"b\"c\nA", [' ', 'd']) ∧
      pythonTripleString? "\"\"\"a\"\"\"\"".toList = some ("a", ['"']) ∧
      pythonTripleString? "\"\"\"a\\\"\"\"".toList = none ∧ pythonTripleString? "\"a\"".toList = none := by
  decide +kernel

end Python

end SchemaPress.Text
