import Mathlib.Tactic.SplitIfs
import SchemaPress.Json.Writer
import SchemaPress.Text.Basic
import SchemaPress.Text.Quote

/-!
# Reading string literals of Go

The octets that an interpreted string literal of Go denotes, by the rules of that language: a
backslash starts one of the short escapes, a number of one octet or the number of a character, and
any other character but a quote or a new line stands for itself (`goUnquote?`). In a raw literal every
character stands for itself, except that carriage returns are dropped (`goLiteral?`).

What is read back is a text without new lines that is quoted with `goJsonQuote`
(`goUnquote?_goJsonQuote`), and any text at all that is quoted with `goQuote` or as JSON
(`goUnquote?_goQuote`, `goUnquote?_quote`): each of the two writes a character as itself or as an escape
of the language, so one law about characters (`ReadsAs`) serves both.
-/

namespace SchemaPress.Text

/-! ### Literals -/

/-- What the short escapes denote. -/
def goShort? : Char → Option UInt8
  | 'a' => some 0x07
  | 'b' => some 0x08
  | 't' => some 0x09
  | 'n' => some 0x0A
  | 'v' => some 0x0B
  | 'f' => some 0x0C
  | 'r' => some 0x0D
  | '"' => some 0x22
  | '\\' => some 0x5C
  | _ => none

/-- The number that the first `count` characters write in a base up to sixteen. -/
def leadingNumber? (base count : Nat) (s : List Char) : Option Nat :=
  if s.length < count then none
  else (s.take count).foldlM (fun n c => do
    let digit ← hexValue? c
    if digit < base then some (base * n + digit) else none) 0

/-- The octets of the character of this number, if there is one. -/
def codePoint? (n : Nat) : Option (List UInt8) :=
  if n.isValidChar then some (String.utf8EncodeChar (Char.ofNat n)) else none

/-- What an escape denotes, by the characters behind the backslash, and how many characters it has
behind the first of them. -/
def goEscaped? (kind : Char) (rest : List Char) : Option (List UInt8 × Nat) :=
  match goShort? kind with
  | some octet => some ([octet], 0)
  | none =>
    if kind = 'x' then (leadingNumber? 16 2 rest).map fun n => ([n.toUInt8], 2)
    else if kind = 'u' then ((leadingNumber? 16 4 rest).bind codePoint?).map (·, 4)
    else if kind = 'U' then ((leadingNumber? 16 8 rest).bind codePoint?).map (·, 8)
    else ((leadingNumber? 8 3 (kind :: rest)).filter (· < 256)).map fun n => ([n.toUInt8], 2)

/-- What a literal denotes, from behind its first quote on. The last quote ends it. -/
def goOctets? : List Char → Option (List UInt8)
  | [] => none
  | ['"'] => some []
  | '"' :: _ => none
  | '\n' :: _ => none
  | '\\' :: kind :: rest => do
    let (octets, count) ← goEscaped? kind rest
    return octets ++ (← goOctets? (rest.drop count))
  | c :: rest => do return String.utf8EncodeChar c ++ (← goOctets? rest)
termination_by s => s.length
decreasing_by all_goals (simp only [List.length_cons, List.length_drop]; omega)

/-- What an interpreted string literal denotes. -/
def goUnquote? (literal : List Char) : Option ByteArray :=
  match literal with
  | '"' :: body => (goOctets? body).map List.toByteArray
  | _ => none

/-- What a raw string literal denotes, from behind its first quote on. -/
def goRawChars? : List Char → Option (List Char)
  | [] => none
  | ['\x60'] => some []
  | '\x60' :: _ => none
  | '\r' :: rest => goRawChars? rest
  | c :: rest => (goRawChars? rest).map (c :: ·)

/-- What a string literal denotes, raw or interpreted. -/
def goLiteral? (literal : List Char) : Option ByteArray :=
  match literal with
  | '\x60' :: body => (goRawChars? body).map fun chars => (String.ofList chars).toUTF8
  | _ => goUnquote? literal

/-! ### Characters that are read back -/

variable {c : Char}

/-- **A way to write a character that is read back**, in front of anything. -/
def ReadsAs (c : Char) (written : List Char) : Prop :=
  ∀ rest, goOctets? (written ++ rest) = (goOctets? rest).map (String.utf8EncodeChar c ++ ·)

/-- A short escape denotes one octet. -/
theorem ReadsAs.short {kind : Char} {octet : UInt8} (h : goShort? kind = some octet)
    (hc : String.utf8EncodeChar c = [octet]) : ReadsAs c ['\\', kind] := by
  intro rest
  have hescaped : goEscaped? kind rest = some ([octet], 0) := by rw [goEscaped?, h]
  change goOctets? ('\\' :: kind :: rest) = _
  rw [goOctets?, hescaped, hc]
  change (goOctets? rest >>= fun octets => some ([octet] ++ octets)) = _
  cases goOctets? rest <;> rfl

/-- A character that is no mark stands for itself. -/
theorem ReadsAs.self (hquote : c ≠ '"') (hback : c ≠ '\\') (hline : c ≠ '\n') : ReadsAs c [c] := by
  intro rest
  rw [List.singleton_append, goOctets?]
  · cases goOctets? rest <;> rfl
  · exact fun heq _ => hquote heq
  · exact hquote
  · exact hline
  · exact fun _ _ heq _ => hback heq

/-- A control character is written with four digits, which are read as its number. -/
theorem hex4_control : ∀ n < 0x20, (Json.hex4 n).length = 4 ∧
    (leadingNumber? 16 4 (Json.hex4 n)).bind codePoint? =
      some (String.utf8EncodeChar (Char.ofNat n)) := by
  decide +kernel

theorem leadingNumber?_append {base count : Nat} {digits : List Char} (h : digits.length = count)
    (rest : List Char) :
    leadingNumber? base count (digits ++ rest) = leadingNumber? base count digits := by
  subst h
  unfold leadingNumber?
  rw [List.take_left, List.take_length, List.length_append, if_neg (by omega), if_neg (by omega)]

theorem ReadsAs.unit (h : c.toNat < 0x20) : ReadsAs c (Json.unitEscape c.toNat) := by
  intro rest
  obtain ⟨hlength, hread⟩ := hex4_control c.toNat h
  rw [Char.ofNat_toNat] at hread
  have hescaped : goEscaped? 'u' (Json.hex4 c.toNat ++ rest) =
      some (String.utf8EncodeChar c, 4) := by
    change ((leadingNumber? 16 4 (Json.hex4 c.toNat ++ rest)).bind codePoint?).map (·, 4) = _
    rw [leadingNumber?_append hlength, hread]
    rfl
  change goOctets? ('\\' :: 'u' :: (Json.hex4 c.toNat ++ rest)) = _
  rw [goOctets?, hescaped]
  change (goOctets? ((Json.hex4 c.toNat ++ rest).drop 4) >>= fun octets =>
    some (String.utf8EncodeChar c ++ octets)) = _
  rw [List.drop_left' hlength]
  cases goOctets? rest <;> rfl

/-- **Characters are read back** where each of them is written in such a way. -/
theorem goUnquote?_flatMap {write : Char → List Char} {chars : List Char}
    (h : ∀ c ∈ chars, ReadsAs c (write c)) :
    goUnquote? ('"' :: chars.flatMap write ++ ['"']) = some (String.ofList chars).toUTF8 := by
  have hbody : goOctets? (chars.flatMap write ++ ['"']) =
      some (chars.flatMap String.utf8EncodeChar) := by
    induction chars with
    | nil => rw [List.flatMap_nil, List.nil_append, goOctets?]; rfl
    | cons c rest ih =>
      rw [List.flatMap_cons, List.append_assoc, h c List.mem_cons_self,
        ih fun d hd => h d (List.mem_cons_of_mem _ hd)]
      rfl
  rw [List.cons_append, goUnquote?, hbody]
  rfl

/-! ### Literals of JSON texts -/

theorem readsAs_goJsonEscape (hc : c ≠ '\n') : ReadsAs c (goJsonEscape c) := by
  by_cases hback : c = '\\'
  · subst hback
    exact .short rfl rfl
  by_cases hquote : c = '"'
  · subst hquote
    exact .short rfl rfl
  · have hplain : goJsonEscape c = [c] := by simp [goJsonEscape, hback, hquote]
    rw [hplain]
    exact .self hquote hback hc

/-- **Quoted texts are read back**, as long as no new line is in them. -/
theorem goUnquote?_goJsonQuote {text : List Char} (h : '\n' ∉ text) :
    goUnquote? (goJsonQuote text).toList = some (String.ofList text).toUTF8 := by
  unfold goJsonQuote
  rw [String.toList_ofList]
  exact goUnquote?_flatMap fun c hc => readsAs_goJsonEscape fun heq => h (heq ▸ hc)

/-! ### Literals of any texts -/

theorem readsAs_goEscape (c : Char) : ReadsAs c (goEscape c) := by
  unfold goEscape
  split
  · exact .short rfl rfl
  · exact .short rfl rfl
  · exact .short rfl rfl
  · exact .short rfl rfl
  · exact .short rfl rfl
  · next hback hquote hline _ _ => exact .self hquote hback hline

/-- **Every text is read back from its literal.** -/
theorem goUnquote?_goQuote (text : String) :
    goUnquote? (goQuote text).toList = some text.toUTF8 := by
  unfold goQuote
  rw [String.toList_ofList, goUnquote?_flatMap fun c _ => readsAs_goEscape c, String.ofList_toList]

/-- JSON has escapes of its own, and each of them is one of the language as well. -/
theorem readsAs_escapeChar (c : Char) : ReadsAs c (Json.escapeChar false c) := by
  unfold Json.escapeChar
  simp only [Bool.false_and, Bool.false_eq_true, if_false]
  split_ifs with hquote hback hline hreturn htab hbell hfeed hcontrol
  · subst hquote; exact .short rfl rfl
  · subst hback; exact .short rfl rfl
  · subst hline; exact .short rfl rfl
  · subst hreturn; exact .short rfl rfl
  · subst htab; exact .short rfl rfl
  · subst hbell; exact .short rfl rfl
  · subst hfeed; exact .short rfl rfl
  · exact .unit hcontrol
  · exact .self hquote hback hline

/-- **Every text is read back from its JSON**, where characters beyond ASCII stand for themselves. -/
theorem goUnquote?_quote (text : String) :
    goUnquote? (Json.quote false text) = some text.toUTF8 := by
  unfold Json.quote
  rw [goUnquote?_flatMap fun c _ => readsAs_escapeChar c, String.ofList_toList]

/-- Other escapes denote single octets and characters, and a bare quote ends the literal. -/
example : (goOctets? "a\\x41\\101\\u00e9\\n\"".toList = some [0x61, 0x41, 0x41, 0xC3, 0xA9, 0x0A]) ∧
    goOctets? "a\"b\"".toList = none ∧ goOctets? "\\400\"".toList = none := by
  decide +kernel

/-! ### Literals of tags -/

/-- A raw literal denotes what stands in it, where no carriage return does. -/
theorem goRawChars?_append {chars : List Char} (hquote : '\x60' ∉ chars) (hreturn : '\r' ∉ chars) :
    goRawChars? (chars ++ ['\x60']) = some chars := by
  induction chars with
  | nil => rfl
  | cons c rest ih =>
    have hc : c ≠ '\x60' := fun heq => hquote (heq ▸ List.mem_cons_self)
    have hc' : c ≠ '\r' := fun heq => hreturn (heq ▸ List.mem_cons_self)
    rw [List.cons_append, goRawChars?, ih (List.not_mem_of_not_mem_cons hquote)
      (List.not_mem_of_not_mem_cons hreturn)]
    · rfl
    · exact fun heq _ => hc heq
    · exact hc
    · exact hc'

/-- **Every tag without a carriage return is read back from its literal**, whichever of the two kinds
that is. -/
theorem goLiteral?_goTag {tag : String} (h : '\r' ∉ tag.toList) :
    goLiteral? (goTag tag).toList = some tag.toUTF8 := by
  unfold goTag
  split
  · -- an interpreted literal starts with another quote
    have hquoted : goLiteral? (goQuote tag).toList = goUnquote? (goQuote tag).toList := by
      unfold goQuote
      rw [String.toList_ofList]
      rfl
    rw [hquoted]
    exact goUnquote?_goQuote tag
  · next hraw =>
    have hquote : '\x60' ∉ tag.toList := by simpa using hraw
    rw [String.toList_ofList, List.cons_append, goLiteral?, goRawChars?_append hquote h,
      Option.map_some, String.ofList_toList]

/-- A carriage return that stands in a raw literal is dropped. -/
example : goRawChars? "a\rb\x60".toList = some ['a', 'b'] := by
  decide +kernel

end SchemaPress.Text
