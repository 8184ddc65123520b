import SchemaPress.Proofs.Json.Lines
import SchemaPress.Proofs.Release.Restamping
import SchemaPress.Proofs.Text.Pieces
import SchemaPress.Toml.Basic

/-!
# Manifests by lines

A small library for TOML that does what is taken for granted of one (`TomlLines.laws`), for manifests as
they are commonly written: a header stands on a line of its own, and so does each entry. A document is its
lines, and a text is assigned to an entry by giving a new line to it, in the part that its header opens.

That the text assigned last is the one that counts (`assignIn_assignIn`) and that no line falls apart when
it is read again (`linesOf_textOf`) is all that the laws come from.
-/

namespace SchemaPress.TomlLines

open SchemaPress.Text

/-- A line, without its end. -/
abbrev Line : Type := List Char

/-- The lines of a text. -/
def linesOf (text : String) : List Line :=
  pieces '\n' text.toList

/-- The text of lines. -/
def textOf (lines : List Line) : String :=
  String.ofList (['\n'].intercalate lines)

/-- A text as a value. -/
def quoted (text : String) : Line :=
  (Toml.quote text).toList

/-- The line that opens a table. -/
def header (table : String) : Line :=
  '[' :: table.toList ++ [']']

/-- How the line of an entry starts. -/
def start (name : String) : Line :=
  name.toList ++ " = ".toList

/-- The lines after a text was assigned to an entry of a table, where `inside` says that they begin in the
part of that table. -/
def assignIn (table name text : String) (inside : Bool) : List Line → List Line
  | [] => []
  | line :: rest =>
    if line.head? = some '[' then line :: assignIn table name text (line == header table) rest
    else
      (if inside && (start name).isPrefixOf line then start name ++ quoted text else line) ::
        assignIn table name text inside rest

mutual

/-- The value of an entry on one line. -/
def valueOf : TomlEntry → Line
  | .text text => quoted text
  | .texts texts => '[' :: [',', ' '].intercalate (texts.map quoted) ++ [']']
  | .table entries | .inlineTable entries => '\x7b' :: [',', ' '].intercalate (fields entries) ++ ['\x7d']

/-- Entries, each on one line. -/
def fields : List (String × TomlEntry) → List Line
  | [] => []
  | (name, entry) :: rest => (start name ++ valueOf entry) :: fields rest

end

/-- The lines of a new document. -/
def build (entries : List (String × TomlEntry)) : List Line :=
  entries.flatMap fun (name, entry) =>
    match entry with
    | .table entries => header name :: fields entries ++ [[]]
    | entry => fields [(name, entry)]

/-- The library. -/
def kit : TomlKit where
  Document := List Line
  Table := String
  build := build
  parse text := .ok (linesOf text)
  table? lines name := .ok (if header name ∈ lines then some name else none)
  assign lines table name text := .ok (assignIn table name text false lines)
  text := textOf

/-- A new manifest is the one that the program writes. -/
example : Manifest.fresh kit "u" "1.0.0" = "[package]\nname = \"u\"\nversion = \"1.0.0\"\n" ++
    "edition = \"2021\"\n\n[lib]\npath = \"src/lib.rs\"\n\n[dependencies]\n" ++
    "serde = \x7bversion = \"1\", features = [\"derive\"]\x7d\nserde_json = \"1\"\n" := by
  decide +kernel

/-! ### Lines that stay apart -/

theorem textOf_linesOf (text : String) : textOf (linesOf text) = text := by
  unfold textOf linesOf
  rw [intercalate_pieces, String.ofList_toList]

/-- **No line falls apart** when it is read again. -/
theorem linesOf_textOf {lines : List Line} (hne : lines ≠ []) (h : ∀ line ∈ lines, '\n' ∉ line) :
    linesOf (textOf lines) = lines := by
  unfold linesOf textOf
  rw [String.toList_ofList]
  exact pieces_intercalate hne h

theorem not_mem_textOf {mark : Char} (hmark : mark ≠ '\n') {lines : List Line}
    (h : ∀ line ∈ lines, mark ∉ line) : mark ∉ (textOf lines).toList := by
  unfold textOf
  rw [String.toList_ofList]
  exact not_mem_intercalate (by simpa using hmark) h

theorem shown_escapedChar (c : Char) : Shown (Toml.escapedChar c) := by
  unfold Toml.escapedChar
  split
  all_goals try decide
  split
  · next hlow =>
    have hdigit {n : Nat} (h : n < 16) : 0x20 ≤ (Nat.digitChar n).toNat := by
      interval_cases n <;> decide
    have hcode : c.toNat / 16 < 16 ∧ c.toNat % 16 < 16 := by
      simp only [Bool.or_eq_true, decide_eq_true_eq] at hlow
      omega
    exact .cons (by decide) (.cons (by decide) (.cons (by decide) (.cons (by decide)
      (.cons (hdigit hcode.1) (.cons (hdigit hcode.2) .nil)))))
  · next hhigh =>
    simp only [Bool.or_eq_true, decide_eq_true_eq, not_or, Nat.not_lt] at hhigh
    exact .cons hhigh.1 .nil

/-- A value holds no control characters. -/
theorem shown_quoted (text : String) : Shown (quoted text) := by
  unfold quoted Toml.quote
  rw [String.toList_ofList]
  refine (Shown.cons (by decide) fun c hc => ?_ : Shown ('"' :: _)).append (by decide)
  obtain ⟨d, -, hmem⟩ := List.mem_flatMap.1 hc
  exact shown_escapedChar d c hmem

/-- Neither does any line of a new manifest. -/
theorem shown_fresh (name version : String) :
    ∀ line ∈ build (Manifest.entries name version), Shown line := by
  change ∀ line ∈ [header "package", start "name" ++ quoted name, start "version" ++ quoted version,
    start "edition" ++ quoted "2021", [], header "lib", start "path" ++ quoted "src/lib.rs", [],
    header "dependencies", start "serde" ++ valueOf (.inlineTable [("version", .text "1"),
      ("features", .texts ["derive"])]), start "serde_json" ++ quoted "1", []], Shown line
  simp only [List.forall_mem_cons]
  exact ⟨by decide, .append (by decide) (shown_quoted name), .append (by decide) (shown_quoted version),
    by decide, .nil, by decide, by decide, .nil, by decide, by decide, by decide, .nil, nofun⟩

/-! ### Assigning twice -/

variable {table name text : String} {lines : List Line} {inside : Bool}

/-- What holds of all lines and of the new one holds of all lines afterwards. -/
theorem forall_mem_assignIn {P : Line → Prop} (hentry : P (start name ++ quoted text))
    (h : ∀ line ∈ lines, P line) : ∀ line ∈ assignIn table name text inside lines, P line := by
  induction lines generalizing inside with
  | nil => exact nofun
  | cons line rest ih =>
    obtain ⟨hfirst, hrest⟩ := List.forall_mem_cons.1 h
    unfold assignIn
    split
    · exact List.forall_mem_cons.2 ⟨hfirst, ih hrest⟩
    · refine List.forall_mem_cons.2 ⟨?_, ih hrest⟩
      split
      · exact hentry
      · exact hfirst

theorem assignIn_ne_nil (h : lines ≠ []) : assignIn table name text inside lines ≠ [] := by
  cases lines with
  | nil => exact absurd rfl h
  | cons line rest => unfold assignIn; split <;> exact nofun

/-- A header stays where it is. -/
theorem header_mem_assignIn {other : String} (h : header other ∈ lines) :
    header other ∈ assignIn table name text inside lines := by
  induction lines generalizing inside with
  | nil => cases h
  | cons line rest ih =>
    unfold assignIn
    split
    · rcases List.mem_cons.1 h with rfl | h
      · exact List.mem_cons_self
      · exact List.mem_cons_of_mem _ (ih h)
    · next hhead =>
      rcases List.mem_cons.1 h with rfl | h
      · exact absurd rfl hhead
      · exact List.mem_cons_of_mem _ (ih h)

/-- **A text that is assigned again** changes nothing, if its line is no header. -/
theorem assignIn_assignIn (hname : (start name ++ quoted text).head? ≠ some '[') :
    assignIn table name text inside (assignIn table name text inside lines) =
      assignIn table name text inside lines := by
  induction lines generalizing inside with
  | nil => rfl
  | cons line rest ih =>
    by_cases hopen : line.head? = some '['
    · simp only [assignIn, hopen, if_true, ih]
    · by_cases hown : (inside && (start name).isPrefixOf line) = true
      · have hagain : (inside && (start name).isPrefixOf (start name ++ quoted text)) = true := by
          rw [Bool.and_eq_true] at hown ⊢
          exact ⟨hown.1, List.isPrefixOf_iff_prefix.2 (List.prefix_append _ _)⟩
        simp only [assignIn, hopen, if_false, hown, if_true, hname, hagain, ih]
      · simp only [assignIn, hopen, if_false, hown, Bool.false_eq_true, ih]

/-- A new manifest holds its version already. -/
theorem assignIn_fresh (name version : String) :
    assignIn "package" "version" version false (build (Manifest.entries name version)) =
      build (Manifest.entries name version) := by
  rfl

/-! ### The laws -/

/-- What was stamped is the text of lines that hold the version and do not fall apart. -/
theorem exists_lines_of_stamps {version text : String} (h : kit.Stamps version text) :
    ∃ lines, text = textOf lines ∧ lines ≠ [] ∧ header "package" ∈ lines ∧
      (∀ line ∈ lines, '\n' ∉ line ∧ '\r' ∉ line) ∧
      assignIn "package" "version" version false lines = lines := by
  have hline (text : String) : '\n' ∉ start "version" ++ quoted text ∧
      '\r' ∉ start "version" ++ quoted text := by
    have hshown : Shown (start "version" ++ quoted text) := .append (by decide) (shown_quoted text)
    exact ⟨fun hmem => absurd (hshown _ hmem) (by decide), fun hmem => absurd (hshown _ hmem) (by decide)⟩
  cases h with
  | fresh name =>
    refine ⟨build (Manifest.entries name version), rfl, List.cons_ne_nil _ _, List.mem_cons_self,
      fun line hmem => ?_, assignIn_fresh name version⟩
    have hshown := shown_fresh name version line hmem
    exact ⟨fun hmem => absurd (hshown _ hmem) (by decide), fun hmem => absurd (hshown _ hmem) (by decide)⟩
  | @assigned source document next package hreturn hparse htable hassign =>
    obtain rfl := Except.ok.inj hparse
    obtain rfl := Except.ok.inj hassign
    obtain ⟨hpackage, rfl⟩ : header "package" ∈ linesOf source ∧ "package" = package := by
      have hsome := Except.ok.inj htable
      split at hsome
      · next hmem => exact ⟨hmem, Option.some.inj hsome⟩
      · cases hsome
    refine ⟨_, rfl, assignIn_ne_nil (pieces_ne_nil _), header_mem_assignIn hpackage,
      forall_mem_assignIn (hline version) fun line hmem => ?_, assignIn_assignIn ?_⟩
    · exact ⟨not_mem_of_mem_pieces hmem, fun hmark => hreturn (subset_of_mem_pieces hmem hmark)⟩
    · exact nofun

/-- **What is taken for granted of a library for TOML** holds of this one. -/
theorem laws : kit.Laws where
  text_of_parse {text document} hparse := by
    obtain rfl := Except.ok.inj hparse
    exact textOf_linesOf text
  exists_package {version text} hstamps := by
    obtain ⟨lines, rfl, hne, hpackage, hlines, -⟩ := exists_lines_of_stamps hstamps
    have hread := linesOf_textOf hne fun line hmem => (hlines line hmem).1
    exact ⟨lines, "package", congrArg Except.ok hread, congrArg Except.ok (if_pos hpackage)⟩
  text_of_assign {version text document package} hstamps hparse htable := by
    obtain ⟨lines, rfl, hne, hpackage, hlines, hsame⟩ := exists_lines_of_stamps hstamps
    have hread := linesOf_textOf hne fun line hmem => (hlines line hmem).1
    obtain rfl : lines = document := hread.symm.trans (Except.ok.inj hparse)
    obtain rfl : "package" = package := by
      have hsome := Except.ok.inj htable
      rw [if_pos hpackage] at hsome
      exact Option.some.inj hsome
    exact ⟨_, rfl, congrArg textOf hsame⟩
  return_not_mem {version text} hstamps := by
    obtain ⟨lines, rfl, -, -, hlines, -⟩ := exists_lines_of_stamps hstamps
    exact not_mem_textOf (by decide) fun line hmem => (hlines line hmem).2

end SchemaPress.TomlLines
