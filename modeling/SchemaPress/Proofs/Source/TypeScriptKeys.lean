import Mathlib.Data.List.Forall2
import SchemaPress.Proofs.Text.StringLiteral
import SchemaPress.Source.TypeScript

/-!
# Keys of TypeScript interfaces

A property of an interface is written in one line, behind a comment if the schema says something about it
(`FieldText`), and its key is what TypeScript reads in front of the question mark or the colon
(`propertyName?`): a name, or a string literal.

A key is the name of the property itself where that is a name of TypeScript, and a literal of it
otherwise. Both are one token that denotes the name of the property, with one exception: a name that ends in a
line break is taken for one without it, and stands bare. What TypeScript reads then is the name without the
break (`denotes_key_iff`). So an interface has the keys of its properties, but for such names
(`block_propertyKeys`).
-/

namespace SchemaPress.Source.TypeScript

/-! ### Property names -/

/-- Whether a character opens a name of TypeScript, as far as ASCII goes. -/
def opensName (c : Char) : Bool :=
  c.isAlpha || c == '_' || c == '$'

/-- Whether a character goes on a name of TypeScript, as far as ASCII goes. -/
def continuesName (c : Char) : Bool :=
  c.isAlphanum || c == '_' || c == '$'

/-- **Names of TypeScript** that have characters of ASCII only. -/
def IsName (name : String) : Prop :=
  ∃ c rest, name.toList = c :: rest ∧ opensName c = true ∧ ∀ d ∈ rest, continuesName d = true

/-- A name with a line break behind it. -/
def EndsInBreak (name : String) : Prop :=
  ∃ base, IsName base ∧ name = base ++ "\n"

/-- **The property name that a text starts with**: what it denotes, and what stands behind it. A name that
goes on beyond ASCII, or with an escape, is not read. -/
def propertyName? : List Char → Option (String × List Char)
  | [] => none
  | c :: rest =>
    if c = '"' ∨ c = '\'' then Text.scriptString? (c :: rest)
    else if opensName c then
      let behind := rest.dropWhile continuesName
      if behind.head?.any fun d => d == '\\' || 0x80 ≤ d.toNat then none
      else some (String.ofList (c :: rest.takeWhile continuesName), behind)
    else none

/-- **A key that denotes a name**: it is one token that does, in front of either mark that a property goes
on with. -/
def Denotes (key name : String) : Prop :=
  ∀ mark rest, mark = '?' ∨ mark = ':' →
    propertyName? (key.toList ++ mark :: rest) = some (name, mark :: rest)

variable {name base : String}

theorem isIdentifier_iff : isIdentifier name.toList = true ↔ IsName name := by
  unfold isIdentifier IsName
  cases name.toList with
  | nil =>
    refine ⟨fun h => absurd h Bool.false_ne_true, ?_⟩
    rintro ⟨c, rest, heq, -⟩
    cases heq
  | cons c rest =>
    change (startsIdentifier c && rest.all continuesIdentifier) = true ↔ _
    rw [Bool.and_eq_true, List.all_eq_true]
    constructor
    · rintro ⟨hc, hrest⟩
      exact ⟨c, rest, rfl, hc, hrest⟩
    · rintro ⟨d, others, heq, hd, hothers⟩
      obtain ⟨rfl, rfl⟩ := List.cons.inj heq
      exact ⟨hd, hothers⟩

/-- A line break is dropped once from the end of a name. -/
theorem endsInBreak_iff :
    (name.toList.getLast? = some '\n' ∧ isIdentifier name.toList.dropLast = true) ↔
      EndsInBreak name := by
  constructor
  · rintro ⟨hlast, hident⟩
    refine ⟨String.ofList name.toList.dropLast, ?_, ?_⟩
    · rw [← isIdentifier_iff, String.toList_ofList]
      exact hident
    · rw [← String.toList_inj, String.toList_append, String.toList_ofList]
      exact (List.dropLast_append_getLast? '\n' hlast).symm
  · rintro ⟨base, hbase, rfl⟩
    have hchars : (base ++ "\n").toList = base.toList ++ ['\n'] := String.toList_append
    rw [hchars, List.getLast?_concat, List.dropLast_concat]
    exact ⟨rfl, isIdentifier_iff.2 hbase⟩

/-- **Which names stand bare.** -/
theorem isBare_iff : isBare name.toList = true ↔ IsName name ∨ EndsInBreak name := by
  unfold isBare
  rw [Bool.or_eq_true, Bool.and_eq_true, beq_iff_eq, isIdentifier_iff, endsInBreak_iff]

/-- A name is read up to the first character that does not go on it. -/
theorem propertyName?_name (h : IsName name) {mark : Char} (hmark : continuesName mark = false)
    (hascii : (mark == '\\' || decide (0x80 ≤ mark.toNat)) = false) (rest : List Char) :
    propertyName? (name.toList ++ mark :: rest) = some (name, mark :: rest) := by
  obtain ⟨c, word, hchars, hc, hword⟩ := h
  have hquote : ¬ (c = '"' ∨ c = '\'') := by
    rintro (rfl | rfl) <;> exact absurd hc (by decide)
  have hstop : ¬ continuesName mark = true := by rw [hmark]; exact Bool.false_ne_true
  have hbehind : (word ++ mark :: rest).dropWhile continuesName = mark :: rest := by
    rw [List.dropWhile_append_of_pos hword, List.dropWhile_cons_of_neg hstop]
  have htake : (word ++ mark :: rest).takeWhile continuesName = word := by
    rw [List.takeWhile_append_of_pos hword, List.takeWhile_cons_of_neg hstop, List.append_nil]
  rw [hchars, List.cons_append, propertyName?, if_neg hquote, if_pos hc, hbehind, htake, ← hchars,
    String.ofList_toList]
  change (if (mark == '\\' || decide (0x80 ≤ mark.toNat)) = true then none
    else some (name, mark :: rest)) = _
  rw [hascii]
  rfl

/-- A name with a line break behind it is read as that name, and the break is left. -/
theorem propertyName?_break (h : IsName base) (rest : List Char) :
    propertyName? ((base ++ "\n").toList ++ rest) = some (base, '\n' :: rest) := by
  have hchars : (base ++ "\n").toList ++ rest = base.toList ++ '\n' :: rest := by
    rw [String.toList_append, List.append_assoc]
    rfl
  rw [hchars]
  exact propertyName?_name h rfl rfl rest

/-- A literal of any text is read as that text. -/
theorem propertyName?_quote (name : String) (rest : List Char) :
    propertyName? (Json.quote true name ++ rest) = some (name, rest) := by
  have hread := Text.scriptString?_quote name rest
  rw [Json.quote_append] at hread ⊢
  rw [propertyName?, if_pos (.inl rfl)]
  exact hread

/-- **A key denotes the name of its property**, unless that is a name with a line break behind it. -/
theorem denotes_key_iff : Denotes (key name) name ↔ ¬ EndsInBreak name := by
  constructor
  · rintro hdenotes ⟨base, hbase, rfl⟩
    have hbare : key (base ++ "\n") = base ++ "\n" :=
      if_pos (isBare_iff.2 (.inr ⟨base, hbase, rfl⟩))
    have hread := hdenotes ':' [] (.inr rfl)
    -- what is left starts with the break, and not with the mark
    rw [hbare, propertyName?_break hbase] at hread
    have hrest := congrArg Prod.snd (Option.some.inj hread)
    exact absurd (List.cons.inj hrest).1 (by decide)
  · intro hbreak mark rest hmark
    by_cases hname : IsName name
    · have hbare : key name = name := if_pos (isBare_iff.2 (.inl hname))
      rw [hbare]
      rcases hmark with rfl | rfl
      · exact propertyName?_name hname rfl rfl rest
      · exact propertyName?_name hname rfl rfl rest
    · have hquoted : key name = String.ofList (Json.quote true name) :=
        if_neg fun hbare => (isBare_iff.1 hbare).elim hname hbreak
      rw [hquoted, String.toList_ofList]
      exact propertyName?_quote name (mark :: rest)

/-! ### Interfaces -/

/-- A property of an interface as it is written. -/
structure FieldText where
  /-- What the schema says about it. -/
  comment : String
  /-- The key. -/
  key : String
  /-- Whether the property may be left out. -/
  optional : Bool
  /-- The type. -/
  type : String

namespace FieldText

/-- The lines of a property. -/
def lines (text : FieldText) : List String :=
  linesIf text.comment ["  /** " ++ text.comment ++ " */"] ++
    ["  " ++ text.key ++ (if text.optional then "?" else "") ++ ": " ++ text.type ++ ";"]

/-- **What is kept of a property**: its type, whether it may be left out, what the schema says about it
inside a comment, and its name, unless that is a name with a line break behind it: then the key is read as
the name without the break. -/
structure Keeps (text : FieldText) (field : Field) : Prop where
  key : ∃ name, field.name = .text name ∧
    (Denotes text.key name ↔ ¬ EndsInBreak name) ∧
    ∀ base, IsName base → name = base ++ "\n" → ∀ rest,
      propertyName? (text.key.toList ++ rest) = some (base, '\n' :: rest)
  optional : text.optional = !field.required
  type : text.type = typeText field.type
  comment : text.comment = Text.typeScriptComment field.description

end FieldText

/-- The property of a name. -/
def fieldText (name : String) (field : Field) : FieldText where
  comment := Text.typeScriptComment field.description
  key := key name
  optional := !field.required
  type := typeText field.type

variable {field : Field}

theorem keeps_fieldText (hname : field.name = .text name) : (fieldText name field).Keeps field where
  key := by
    refine ⟨name, hname, denotes_key_iff, ?_⟩
    rintro base hbase rfl rest
    have hbare : key (base ++ "\n") = base ++ "\n" :=
      if_pos (isBare_iff.2 (.inr ⟨base, hbase, rfl⟩))
    change propertyName? ((key (base ++ "\n")).toList ++ rest) = _
    rw [hbare]
    exact propertyName?_break hbase rest
  optional := rfl
  type := rfl
  comment := rfl

theorem fieldLines_eq (hname : field.name = .text name) :
    fieldLines field = .ok (fieldText name field).lines := by
  have htext : textName field.name = .ok name := by
    rw [hname]
    rfl
  unfold fieldLines FieldText.lines fieldText
  rw [htext]
  cases field.required <;> rfl

/-- The properties of an interface, one after the other. -/
theorem exists_fieldTexts {fields : List Field}
    (h : ∀ field ∈ fields, ∃ name, field.name = .text name) :
    ∃ texts : List FieldText, fields.mapM fieldLines = .ok (texts.map FieldText.lines) ∧
      List.Forall₂ FieldText.Keeps texts fields := by
  induction fields with
  | nil => exact ⟨[], rfl, .nil⟩
  | cons field rest ih =>
    obtain ⟨name, hname⟩ := h field List.mem_cons_self
    obtain ⟨texts, hlines, hkeeps⟩ := ih fun other hother => h other (List.mem_cons_of_mem _ hother)
    refine ⟨fieldText name field :: texts, ?_, .cons (keeps_fieldText hname) hkeeps⟩
    rw [List.mapM_cons, fieldLines_eq hname, hlines]
    rfl

/-- **The keys of an interface are the names of its properties.** An object type whose properties are named
by texts, whatever these are, is declared as an interface with a line for each property. Its key is one token
that denotes exactly the name of the property, if and only if that is no name with a line break behind it. -/
theorem block_propertyKeys {declaration : Declaration} {fields : List Field}
    (hshape : declaration.shape = .object fields)
    (hnames : ∀ field ∈ fields, ∃ name, field.name = .text name) :
    ∃ texts : List FieldText,
      block declaration = .ok
        (linesIf (Text.typeScriptComment declaration.description)
            ["/**", " * " ++ Text.typeScriptComment declaration.description, " */"] ++
          ["export interface " ++ declaration.name ++ " \x7b"] ++
          texts.flatMap FieldText.lines ++ ["\x7d"]) ∧
      List.Forall₂ FieldText.Keeps texts fields := by
  obtain ⟨texts, hlines, hkeeps⟩ := exists_fieldTexts hnames
  refine ⟨texts, ?_, hkeeps⟩
  unfold block
  rw [hshape]
  change (fields.mapM fieldLines >>= _) = _
  rw [hlines, List.flatMap_def]
  rfl

/-- Properties named by a word, the same with a line break, no text at all, a number, a keyword, a text with
hyphens, and one with a quote, an accent and a character beyond the basic plane. -/
def awkwardFields : List Field :=
  ["a", "a\n", "", "1", "class", "x-y", "\"é😀"].map fun name => ⟨.text name, .any, false, ""⟩

/-- An interface of these properties. -/
def awkward : Declaration := ⟨"Awkward", "", .object awkwardFields⟩

theorem block_propertyKeys_awkward :
    (∀ field ∈ awkwardFields, ∃ name, field.name = .text name) ∧
    ∃ texts : List FieldText,
      block awkward = .ok (["export interface Awkward \x7b"] ++ texts.flatMap FieldText.lines ++
        ["\x7d"]) ∧
      List.Forall₂ FieldText.Keeps texts awkwardFields := by
  have hnames : ∀ field ∈ awkwardFields, ∃ name, field.name = .text name := by
    intro field hfield
    obtain ⟨name, -, rfl⟩ := List.mem_map.1 hfield
    exact ⟨name, rfl⟩
  have hshape : awkward.shape = .object awkwardFields := rfl
  exact ⟨hnames, block_propertyKeys hshape hnames⟩

/-- The lines of these properties: the second key is two lines long, and TypeScript reads the first of them
as the key of the first property again. -/
example : (awkwardFields.mapM fieldLines).toOption =
    some [["  a?: any;"], ["  a\n?: any;"], ["  \"\"?: any;"], ["  \"1\"?: any;"], ["  class?: any;"],
      ["  \"x-y\"?: any;"], ["  \"\\\"\\u00e9\\ud83d\\ude00\"?: any;"]] := by
  decide +kernel

end SchemaPress.Source.TypeScript
