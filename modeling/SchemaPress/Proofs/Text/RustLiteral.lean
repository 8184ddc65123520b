import SchemaPress.Text.Basic
import SchemaPress.Text.Quote

/-!
# Reading string literals of Rust

The text that a string literal of Rust denotes, by the rules of that language: a backslash starts one
of the short escapes, a number of seven bits, the number of a character between braces, or hides the
end of a line with the blanks behind it; a carriage return does not stand in a literal; and any other
character but a quote stands for itself (`rustUnquote?`). Every text is read back from its literal
(`rustUnquote?_rustQuote`).
-/

namespace SchemaPress.Text

/-! ### Literals -/

/-- What the short escapes denote. -/
def rustShort? : Char → Option Char
  | 'n' => some '\n'
  | 'r' => some '\r'
  | 't' => some '\t'
  | '0' => some '\x00'
  | '\\' => some '\\'
  | '"' => some '"'
  | '\'' => some '\''
  | _ => none

/-- The character whose number two digits write, if it has seven bits. -/
def sevenBitChar? (digits : List Char) : Option Char :=
  if digits.length = 2 then ((hexNumber? digits).filter (· < 0x80)).map Char.ofNat else none

/-- The character whose number stands between braces: one to six digits, with underscores behind the
first one. -/
def bracedChar? (number : List Char) : Option Char :=
  let digits := number.filter (· != '_')
  if number.head? = some '_' ∨ digits = [] ∨ 6 < digits.length then none
  else ((hexNumber? digits).filter (·.isValidChar)).map Char.ofNat

/-- A blank that is hidden behind an escaped end of a line. -/
def isHidden (c : Char) : Bool :=
  c == ' ' || c == '\t' || c == '\n' || c == '\r'

/-- What an escape denotes, by the characters behind the backslash, and how many characters it has
behind the first of them. -/
def rustEscaped? (kind : Char) (rest : List Char) : Option (List Char × Nat) :=
  match rustShort? kind with
  | some c => some ([c], 0)
  | none =>
    if kind = '\n' then some ([], (rest.takeWhile isHidden).length)
    else if kind = 'x' then (sevenBitChar? (rest.take 2)).map fun c => ([c], 2)
    else if kind = 'u' ∧ rest.head? = some '\x7b' then
      let number := rest.tail.takeWhile (· != '\x7d')
      (bracedChar? number).map fun c => ([c], number.length + 2)
    else none

/-- What a literal denotes, from behind its first quote on. The last quote ends it. -/
def rustChars? : List Char → Option (List Char)
  | [] => none
  | ['"'] => some []
  | '"' :: _ => none
  | '\r' :: _ => none
  | '\\' :: kind :: rest => do
    let (chars, count) ← rustEscaped? kind rest
    return chars ++ (← rustChars? (rest.drop count))
  | c :: rest => do return c :: (← rustChars? rest)
termination_by s => s.length
decreasing_by all_goals (simp only [List.length_cons, List.length_drop]; omega)

/-- What a string literal denotes. -/
def rustUnquote? (literal : List Char) : Option String :=
  match literal with
  | '"' :: body => (rustChars? body).map String.ofList
  | _ => none

/-! ### Literals of texts -/

variable {c kind : Char}

/-- A short escape denotes one character. -/
theorem rustChars?_short (h : rustShort? kind = some c) (rest : List Char) :
    rustChars? ('\\' :: kind :: rest) = (rustChars? rest).map (c :: ·) := by
  have hescaped : rustEscaped? kind rest = some ([c], 0) := by rw [rustEscaped?, h]
  rw [rustChars?, hescaped]
  change (rustChars? rest >>= fun chars => some ([c] ++ chars)) = _
  cases rustChars? rest <;> rfl

/-- Control characters are written with two digits at most, which are read as their numbers. -/
theorem bracedChar?_toDigits : ∀ n < 0x20, bracedChar? (Nat.toDigits 16 n) = some (Char.ofNat n) ∧
    '\x7d' ∉ Nat.toDigits 16 n := by
  decide +kernel

/-- A number between braces denotes its character. -/
theorem rustChars?_braced {number : List Char} (h : bracedChar? number = some c)
    (hclose : '\x7d' ∉ number) (rest : List Char) :
    rustChars? ('\\' :: 'u' :: '\x7b' :: (number ++ '\x7d' :: rest)) =
      (rustChars? rest).map (c :: ·) := by
  have hnumber : (number ++ '\x7d' :: rest).takeWhile (· != '\x7d') = number := by
    rw [List.takeWhile_append_of_pos]
    · rw [List.takeWhile_cons_of_neg (by decide), List.append_nil]
    · intro d hd
      have hne : d ≠ '\x7d' := fun heq => hclose (heq ▸ hd)
      simpa using hne
  have hescaped : rustEscaped? 'u' ('\x7b' :: (number ++ '\x7d' :: rest)) =
      some ([c], number.length + 2) := by
    unfold rustEscaped?
    simp only [List.tail_cons, hnumber, h]
    rfl
  have hdrop : ('\x7b' :: (number ++ '\x7d' :: rest)).drop (number.length + 2) = rest := by
    rw [List.drop_succ_cons, List.drop_append]
    simp
  rw [rustChars?, hescaped]
  change (rustChars? (List.drop (number.length + 2) _) >>= fun chars => some ([c] ++ chars)) = _
  rw [hdrop]
  cases rustChars? rest <;> rfl

/-- **An escaped character is read back**, by the kinds of escapes. -/
theorem rustChars?_rustEscape (c : Char) (rest : List Char) :
    rustChars? (rustEscape c ++ rest) = (rustChars? rest).map (c :: ·) := by
  by_cases hquote : c = '"'
  · subst hquote
    exact rustChars?_short rfl rest
  by_cases hback : c = '\\'
  · subst hback
    exact rustChars?_short rfl rest
  by_cases hline : c = '\n'
  · subst hline
    exact rustChars?_short rfl rest
  by_cases hreturn : c = '\r'
  · subst hreturn
    exact rustChars?_short rfl rest
  by_cases htab : c = '\t'
  · subst htab
    exact rustChars?_short rfl rest
  by_cases hcontrol : c.toNat < 0x20
  · obtain ⟨hread, hclose⟩ := bracedChar?_toDigits c.toNat hcontrol
    rw [Char.ofNat_toNat] at hread
    have hescape : rustEscape c = '\\' :: 'u' :: '\x7b' :: (Nat.toDigits 16 c.toNat ++ ['\x7d']) := by
      simp [rustEscape, hquote, hback, hline, hreturn, htab, hcontrol]
    rw [hescape]
    simp only [List.cons_append, List.append_assoc]
    exact rustChars?_braced hread hclose rest
  · -- the character stands for itself, for it is no mark and ends no literal
    have hescape : rustEscape c = [c] := by
      simp [rustEscape, hquote, hback, hline, hreturn, htab, hcontrol]
    rw [hescape, List.singleton_append, rustChars?]
    · cases rustChars? rest <;> rfl
    · exact fun heq _ => hquote heq
    · exact hquote
    · exact hreturn
    · exact fun _ _ heq _ => hback heq

/-- **Every text is read back from its literal.** -/
theorem rustUnquote?_rustQuote (text : String) : rustUnquote? (rustQuote text).toList = some text := by
  have hbody (chars : List Char) : rustChars? (chars.flatMap rustEscape ++ ['"']) = some chars := by
    induction chars with
    | nil => rw [List.flatMap_nil, List.nil_append, rustChars?]
    | cons c rest ih =>
      rw [List.flatMap_cons, List.append_assoc, rustChars?_rustEscape, ih]
      rfl
  unfold rustQuote
  rw [String.toList_ofList, List.cons_append, rustUnquote?, hbody, Option.map_some,
    String.ofList_toList]

/-- Other escapes denote characters of seven bits and of any number, and an escaped end of a line
denotes nothing; no other escape is one, and a bare quote ends the literal. -/
example :
    (rustUnquote? "\"\\x41\\u\x7b1_F600\x7d\\\n  b\"".toList = some "A😀b") ∧
      rustUnquote? "\"\\x80\"".toList = none ∧ rustUnquote? "\"\\q\"".toList = none ∧
      rustUnquote? "\"a\"b\"".toList = none := by
  decide +kernel

end SchemaPress.Text
