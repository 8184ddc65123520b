import SchemaPress.Proofs.Files.Task
import SchemaPress.Proofs.Source.PythonWords

/-!
# Statements of Python modules

A generated module is read line by line: a statement begins with a line that begins with a word, and all lines
below that do not go on with it (`statements?`). A statement imports names from another module, or it binds
one name: a class, whose bases are evaluated and whose lines each have a name in front and evaluate what is
behind it, or an assignment, which evaluates all words in it.

The lines that are rendered for a declaration are one statement, which binds its name (`isStatement_block`).
Whether a typed dictionary is written as a class or as a call, it evaluates the same names. So the statements
of a module are its imports and one for each declaration (`statements?_of_render`).
-/

namespace SchemaPress.Source.Python

open SourceCheck (isWordChar isWordStart)

/-! ### Statements -/

/-- A statement of a module: it imports names, or it evaluates names and binds one. -/
inductive Statement where
  /-- Names of another module. -/
  | imports (module : String) (names : List String)
  /-- A class or an assignment, with the names that are evaluated for it in order. -/
  | defines (name : String) (uses : List String)
deriving DecidableEq, Repr

/-- Whether a line is neither empty nor a comment. -/
def speaks (line : List Char) : Bool :=
  line.head?.any (· != '#')

/-- Whether a statement begins with the line. All other lines go on with the statement above them. -/
def opens (line : List Char) : Bool :=
  line.head?.any isWordStart

/-- **What a statement does**, by its first line and the lines below. In the lines of a class, the first word
is bound and those behind it are evaluated. -/
def statement? (first : List Char) (below : List (List Char)) : Option Statement := do
  let names ← words? first
  let inside ← below.mapM words?
  match names with
  | [] => none
  | name :: uses =>
    if name = "from" then
      match uses with
      | module :: "import" :: names => some (.imports module names)
      | _ => none
    else if name = "class" then
      match uses with
      | name :: bases => some (.defines name (bases ++ inside.flatMap List.tail))
      | [] => none
    else if (name ++ " = ").toList.isPrefixOf first then some (.defines name (uses ++ inside.flatten))
    else none

/-- The statements that lines make up. -/
def statementsOf : List (List Char) → Option (List Statement)
  | [] => some []
  | first :: rest => do
    let statement ← statement? first (rest.takeWhile (!opens ·))
    let others ← statementsOf (rest.dropWhile (!opens ·))
    return statement :: others
termination_by lines => lines.length
decreasing_by
  exact Nat.lt_succ_of_le (List.length_dropWhile_le _ _)

/-- **The statements of a module.** -/
def statements? (source : String) : Option (List Statement) :=
  statementsOf ((Text.pieces '\n' source.toList).filter speaks)

/-- The names that are there without an import and that generated modules use. -/
def builtins : List String :=
  ["str", "float", "int", "bool", "None", "True", "False"]

/-- The names of the module of types that generated modules use. -/
def typingNames : List String :=
  ["Any", "Dict", "List", "NotRequired", "TypedDict", "Union"]

@[simp] theorem mem_builtins {name : String} :
    name ∈ builtins ↔ name = "str" ∨ name = "float" ∨ name = "int" ∨ name = "bool" ∨
      name = "None" ∨ name = "True" ∨ name = "False" := by
  simp [builtins]

@[simp] theorem mem_typingNames {name : String} :
    name ∈ typingNames ↔ name = "Any" ∨ name = "Dict" ∨ name = "List" ∨ name = "NotRequired" ∨
      name = "TypedDict" ∨ name = "Union" := by
  simp [typingNames]

/-! ### Lines of a statement -/

/-- A line inside a statement. -/
def IsInner (line : String) : Prop :=
  speaks line.toList = true ∧ opens line.toList = false

theorem isInner_of_head {line : String} {c : Char} {rest : List Char} (h : line.toList = c :: rest)
    (hc : c = ' ' ∨ c = ')') : IsInner line := by
  unfold IsInner speaks opens
  rw [h]
  rcases hc with rfl | rfl <;> exact ⟨rfl, rfl⟩

theorem IsInner.append {line : String} (h : IsInner line) (other : String) : IsInner (line ++ other) := by
  unfold IsInner speaks opens at h ⊢
  rw [String.toList_append]
  cases hline : line.toList with
  | nil =>
    rw [hline] at h
    exact absurd h.1 Bool.false_ne_true
  | cons c rest =>
    rw [hline] at h
    exact h

/-- **Lines below the first one of a statement**, with the words of each that is not empty. -/
inductive Below : List String → List (List String) → Prop where
  | nil : Below [] []
  | blank {lines : List String} {namess : List (List String)} (h : Below lines namess) :
      Below ("" :: lines) namess
  | line {line : String} {names : List String} {lines : List String} {namess : List (List String)}
      (hreads : Reads line.toList names) (hinner : IsInner line) (h : Below lines namess) :
      Below (line :: lines) (names :: namess)

namespace Below

variable {lines others : List String} {namess otherNames : List (List String)}

theorem append (h : Below lines namess) (h' : Below others otherNames) :
    Below (lines ++ others) (namess ++ otherNames) := by
  induction h with
  | nil => exact h'
  | blank _ ih => exact .blank ih
  | line hreads hinner _ ih => exact .line hreads hinner ih

theorem single {line : String} {names : List String} (hreads : Reads line.toList names)
    (hinner : IsInner line) : Below [line] [names] :=
  .line hreads hinner .nil

/-- Lines of one kind. -/
theorem map {α : Type} {write : α → String} {words : α → List String} {items : List α}
    (h : ∀ item ∈ items, Reads (write item).toList (words item) ∧ IsInner (write item)) :
    Below (items.map write) (items.map words) := by
  induction items with
  | nil => exact .nil
  | cons item rest ih =>
    obtain ⟨hreads, hinner⟩ := h item List.mem_cons_self
    exact .line hreads hinner (ih fun other hother => h other (List.mem_cons_of_mem _ hother))

theorem isLine (h : Below lines namess) : ∀ line ∈ lines, IsLine line := by
  induction h with
  | nil => exact nofun
  | blank _ ih => exact List.forall_mem_cons.2 ⟨by decide, ih⟩
  | line hreads _ _ ih => exact List.forall_mem_cons.2 ⟨hreads.line, ih⟩

theorem mapM_words? (h : Below lines namess) :
    ((lines.map String.toList).filter speaks).mapM words? = some namess := by
  induction h with
  | nil => rfl
  | blank _ ih => exact ih
  | line hreads hinner _ ih =>
    rw [List.map_cons, List.filter_cons_of_pos hinner.1, List.mapM_cons, hreads.words?_eq, ih]
    rfl

theorem not_opens (h : Below lines namess) :
    ∀ line ∈ (lines.map String.toList).filter speaks, opens line = false := by
  induction h with
  | nil => exact nofun
  | blank _ ih => exact ih
  | line hreads hinner _ ih =>
    rw [List.map_cons, List.filter_cons_of_pos hinner.1]
    exact List.forall_mem_cons.2 ⟨hinner.2, ih⟩

end Below

/-- **The lines of a class**, with the names that they evaluate: those behind the first one of each line. -/
def IsBody (lines words : List String) : Prop :=
  ∃ namess, Below lines namess ∧ namess.flatMap List.tail = words

namespace IsBody

variable {lines words others otherWords : List String}

theorem append (h : IsBody lines words) (h' : IsBody others otherWords) :
    IsBody (lines ++ others) (words ++ otherWords) := by
  obtain ⟨namess, hlines, rfl⟩ := h
  obtain ⟨otherNames, hothers, rfl⟩ := h'
  exact ⟨_, hlines.append hothers, List.flatMap_append⟩

theorem cons {line name : String} (hreads : Reads line.toList (name :: words)) (hinner : IsInner line)
    (h : IsBody others otherWords) : IsBody (line :: others) (words ++ otherWords) := by
  obtain ⟨namess, hothers, rfl⟩ := h
  exact ⟨_, .line hreads hinner hothers, List.flatMap_cons⟩

/-- Lines of one kind. -/
theorem map {α : Type} {write : α → String} (name : α → String) {words : α → List String} {items : List α}
    (h : ∀ item ∈ items, Reads (write item).toList (name item :: words item) ∧ IsInner (write item)) :
    IsBody (items.map write) (items.flatMap words) :=
  ⟨_, .map h, by rw [List.flatMap_map]; rfl⟩

end IsBody

/-- **The lines of one statement.** -/
structure IsStatement (lines : List String) (statement : Statement) : Prop where
  isLine : ∀ line ∈ lines, IsLine line
  parts : ∃ first below, (lines.map String.toList).filter speaks = first :: below ∧
    opens first = true ∧ (∀ line ∈ below, opens line = false) ∧ statement? first below = some statement

theorem IsStatement.ne_nil {lines : List String} {statement : Statement}
    (h : IsStatement lines statement) : lines ≠ [] := by
  rintro rfl
  obtain ⟨first, below, heq, -⟩ := h.parts
  cases heq

/-- Statements behind each other. -/
theorem statementsOf_append {lines : List String} {statement : Statement} (h : IsStatement lines statement)
    {rest : List (List Char)} (hrest : ∀ line ∈ rest.head?, opens line = true) :
    statementsOf ((lines.map String.toList).filter speaks ++ rest) =
      (statementsOf rest).map (statement :: ·) := by
  obtain ⟨first, below, heq, -, hbelow, hstatement⟩ := h.parts
  have hinner (line : List Char) (hline : line ∈ below) : (!opens line) = true := by
    rw [hbelow line hline]
    rfl
  -- the lines below end where the next statement opens
  obtain ⟨htake, hdrop⟩ := span_append hinner fun line (hline : line ∈ rest.head?) => by
    rw [hrest line hline]
    rfl
  rw [heq, List.cons_append, statementsOf, htake, hdrop, hstatement]
  cases statementsOf rest <;> rfl

/-- **The statements of blocks of lines**, one statement for each block. -/
theorem statementsOf_blocks {blocks : List (List String)} {statements : List Statement}
    (h : List.Forall₂ IsStatement blocks statements) :
    statementsOf (blocks.flatMap fun block => (block.map String.toList).filter speaks) = some statements := by
  induction h with
  | nil => rw [List.flatMap_nil, statementsOf]
  | @cons block statement blocks statements hfirst hothers ih =>
    rw [List.flatMap_cons, statementsOf_append hfirst, ih]
    · rfl
    · cases hothers with
      | nil => exact nofun
      | cons hnext _ =>
        obtain ⟨first, below, heq, hopens, -⟩ := hnext.parts
        rw [List.flatMap_cons, heq]
        exact fun line hline => Option.some.inj hline ▸ hopens

/-- Empty lines between blocks say nothing. -/
theorem filter_speaks_blocks (blocks : List (List String)) :
    ((blocks.flatMap (· ++ [""])).map String.toList).filter speaks =
      blocks.flatMap fun block => (block.map String.toList).filter speaks := by
  induction blocks with
  | nil => rfl
  | cons block rest ih =>
    rw [List.flatMap_cons, List.map_append, List.filter_append, ih, List.map_append, List.filter_append,
      List.flatMap_cons]
    exact congrArg (· ++ _) (List.append_nil _)

/-- Lines that are blocks of their own. -/
theorem flatMap_singles (lines : List String) :
    ((lines.map fun line => [line]).flatMap fun block => (block.map String.toList).filter speaks) =
      (lines.map String.toList).filter speaks := by
  induction lines with
  | nil => rfl
  | cons line rest ih =>
    rw [List.map_cons, List.flatMap_cons, ih, ← List.filter_append]
    rfl

/-! ### The first line of a statement -/

/-- A name that generated modules use without declaring it. -/
theorem reads_known (name : String) (h : name ∈ "Enum" :: (builtins ++ typingNames)) :
    Reads name.toList [name] := by
  refine reads_name ?_
  have hall : ∀ name ∈ "Enum" :: (builtins ++ typingNames),
      name.toList.head?.any isWordStart = true ∧ name.toList.tail.all isWordChar = true := by
    decide +kernel
  obtain ⟨hhead, htail⟩ := hall name h
  cases hchars : name.toList with
  | nil =>
    rw [hchars] at hhead
    cases hhead
  | cons c rest =>
    rw [hchars] at hhead htail
    exact ⟨c, rest, hchars, hhead, List.all_eq_true.1 htail⟩

/-- Two parts with a blank between them. -/
theorem reads_blank {part other : List Char} {names others : List String} (h : Reads part names)
    (h' : Reads other others) : Reads (part ++ ' ' :: other) (names ++ others) :=
  h.append ((skips_mark (by decide)).reads h') (List.cons_ne_nil _ _) (stops_cons (by decide) _)

theorem isWord_of_legal {name : String} (h : Name.Legal name) : IsWord name := by
  obtain ⟨c, rest, hchars, hupper, hrest⟩ := h.shape
  refine ⟨c, rest, hchars, ?_, fun d hd => isWordChar_of_isAlphanum (hrest d hd)⟩
  simp [isWordStart, Char.isAlpha, hupper]

theorem opens_append {name : String} (h : IsWord name) (rest : List Char) :
    opens (name.toList ++ rest) = true := by
  obtain ⟨c, part, hchars, hc, -⟩ := h
  rw [hchars]
  exact hc

theorem speaks_of_opens {line : List Char} (h : opens line = true) : speaks line = true := by
  cases line with
  | nil => exact h
  | cons c rest =>
    have hne := (ne_quote_of_isWordChar (isWordChar_of_isWordStart h)).2.2
    simpa [speaks] using hne

/-- A legal name is no keyword that a statement may begin with. -/
theorem ne_keyword_of_legal {name keyword : String} (h : Name.Legal name)
    (hkeyword : keyword = "from" ∨ keyword = "class") : name ≠ keyword := by
  rintro rfl
  obtain ⟨c, rest, hchars, hupper, -⟩ := h.shape
  rcases hkeyword with rfl | rfl
  · obtain rfl : 'f' = c := (List.cons.inj hchars).1
    exact absurd hupper (by decide)
  · obtain rfl : 'c' = c := (List.cons.inj hchars).1
    exact absurd hupper (by decide)

/-- The docstring of a class, with an empty line behind it. -/
theorem isBody_docstring {description : String} (h : IsLine description) :
    IsBody (linesIf (docstring description)
      ["    \"\"\"" ++ docstring description ++ "\"\"\"", ""]) [] := by
  unfold linesIf
  split
  · exact ⟨[], .nil, rfl⟩
  · refine ⟨[[]], .line ?_ ?_ (.blank .nil), rfl⟩
    · have hline : ("    \"\"\"" ++ docstring description ++ "\"\"\"").toList =
          [' ', ' ', ' ', ' '] ++ ("\"\"\"" ++ docstring description ++ "\"\"\"").toList := by
        simp only [String.toList_append, ← List.append_assoc]
        rfl
      rw [hline]
      exact (skips_marks (by decide)).reads (reads_docstring h)
    · exact ((isInner_of_head rfl (.inl rfl)).append _).append _

/-- **A class.** -/
theorem isStatement_class {name back description : String} (base : String) (hname : Name.Legal name)
    (hbase : base ∈ "Enum" :: (builtins ++ typingNames)) (hback : back = "(" ++ base ++ "):")
    (hdescription : IsLine description) {lines words : List String} (h : IsBody lines words) :
    IsStatement (["class " ++ name ++ back] ++ linesIf (docstring description)
      ["    \"\"\"" ++ docstring description ++ "\"\"\"", ""] ++ lines) (.defines name (base :: words)) := by
  obtain ⟨namess, hbelow, hwords⟩ := (isBody_docstring hdescription).append h
  obtain rfl : namess.flatMap List.tail = words := hwords
  have hclass : IsWord "class" := ⟨'c', ['l', 'a', 's', 's'], rfl, rfl, List.all_eq_true.1 rfl⟩
  have hline : ("class " ++ name ++ back).toList =
      "class".toList ++ ' ' :: (name.toList ++ (['('] ++ (base.toList ++ [')', ':']))) := by
    rw [hback]
    simp only [String.toList_append, List.append_assoc]
    rfl
  have hreads : Reads ("class " ++ name ++ back).toList ["class", name, base] := by
    rw [hline]
    have hend : Reads [')', ':'] [] := (skips_marks (by decide)).self
    have hbases := (skips_mark (c := '(') (by decide)).reads
      ((reads_known base hbase).append hend (List.cons_ne_nil _ _) (stops_cons (by decide) _))
    exact reads_blank (reads_name hclass) ((reads_name (isWord_of_legal hname)).append hbases (by simp)
      (stops_cons (c := '(') (by decide) _))
  have hopens : opens ("class " ++ name ++ back).toList = true := by
    rw [hline]
    exact opens_append hclass _
  rw [List.append_assoc, List.singleton_append]
  refine ⟨List.forall_mem_cons.2 ⟨hreads.line, hbelow.isLine⟩, _, _, ?_, hopens, hbelow.not_opens, ?_⟩
  · rw [List.map_cons, List.filter_cons_of_pos (speaks_of_opens hopens)]
  · rw [statement?, hreads.words?_eq, hbelow.mapM_words?]
    rfl

/-- **An assignment**, with a comment above it. -/
theorem isStatement_assigned {name value first comment : String} {names : List String}
    (hname : Name.Legal name) (hvalue : Reads value.toList names) (hfirst : first = name ++ " = " ++ value)
    (hcomment : IsLine comment) {below : List String} {namess : List (List String)}
    (h : Below below namess) :
    IsStatement (linesIf comment ["# " ++ comment] ++ first :: below)
      (.defines name (names ++ namess.flatten)) := by
  have hline : first.toList = name.toList ++ ([' ', '=', ' '] ++ value.toList) := by
    rw [hfirst]
    simp only [String.toList_append, List.append_assoc]
    rfl
  have hreads : Reads first.toList (name :: names) := by
    rw [hline]
    have hmark : Skips [' ', '=', ' '] := skips_marks (by decide)
    exact (reads_name (isWord_of_legal hname)).append (hmark.reads hvalue) (List.cons_ne_nil _ _)
      (stops_cons (by decide) _)
  have hopens : opens first.toList = true := by
    rw [hline]
    exact opens_append (isWord_of_legal hname) _
  -- the name is a word of the line as well, so the line is told from an import or a class by what it is
  have hprefix : (name ++ " = ").toList.isPrefixOf first.toList = true := by
    rw [hline, String.toList_append, ← List.append_assoc, List.isPrefixOf_iff_prefix]
    exact List.prefix_append _ _
  have hsilent : ((linesIf comment ["# " ++ comment]).map String.toList).filter speaks = [] := by
    unfold linesIf
    split
    · rfl
    · rw [List.map_singleton, String.toList_append]
      rfl
  refine ⟨List.forall_mem_append.2 ⟨forall_mem_linesIf ?_, ?_⟩, _, _, ?_, hopens, h.not_opens, ?_⟩
  · exact List.forall_mem_singleton.2 (.append (by decide) hcomment)
  · exact List.forall_mem_cons.2 ⟨hreads.line, h.isLine⟩
  · rw [List.map_append, List.filter_append, hsilent, List.nil_append, List.map_cons,
      List.filter_cons_of_pos (speaks_of_opens hopens)]
  · rw [statement?, hreads.words?_eq, h.mapM_words?]
    simp only [Option.bind_eq_bind, Option.bind_some]
    rw [if_neg (ne_keyword_of_legal hname (.inl rfl)), if_neg (ne_keyword_of_legal hname (.inr rfl)),
      if_pos hprefix]

/-! ### Types -/

/-- The words of a type. A back edge is a text, so it has none. -/
def typeWords : TypeRef → List String
  | .primitive .string => ["str"]
  | .primitive .number => ["float"]
  | .primitive .integer => ["int"]
  | .primitive .boolean => ["bool"]
  | .primitive .null => ["None"]
  | .primitive .object => ["Dict", "str", "Any"]
  | .array items => "List" :: typeWords items
  | .named name backEdge => if backEdge then [] else [name]
  | .any => ["Any"]

/-- A name with arguments in brackets. -/
theorem reads_applied (name : String) {front part : String} {names : List String}
    (hname : name ∈ "Enum" :: (builtins ++ typingNames)) (hfront : front = name ++ "[")
    (h : Reads part.toList names) : Reads (front ++ part ++ "]").toList (name :: names) := by
  have hline : (front ++ part ++ "]").toList = name.toList ++ (['['] ++ part.toList ++ [']']) := by
    rw [hfront]
    simp only [String.toList_append, List.append_assoc]
    rfl
  rw [hline]
  exact (reads_known name hname).append (reads_bracket h (by decide) (by decide) (by decide)) (by simp)
    (stops_cons (by decide) _)

/-- The type of objects that nothing is said about. -/
theorem reads_object : Reads (typeText (.primitive .object)).toList ["Dict", "str", "Any"] := by
  have htext : typeText (.primitive .object) = "Dict[" ++ ("str" ++ ", " ++ "Any") ++ "]" := by
    simp [typeText, primitiveType]
  have hstr : Reads "str".toList ["str"] := reads_known _ (by simp)
  have hany : Reads "Any".toList ["Any"] := reads_known _ (by simp)
  have harguments : Reads ("str" ++ ", " ++ "Any").toList ["str", "Any"] := by
    rw [String.toList_append, String.toList_append]
    exact reads_comma hstr hany
  rw [htext]
  exact reads_applied "Dict" (by simp) (by simp) harguments

/-- A name as a text. -/
theorem reads_quotedName {name : String} (h : Name.Legal name) :
    Reads ("\"" ++ name ++ "\"").toList [] := by
  have hplain := Name.isPlain_of_legal h
  have hother (c : Char) (halnum : c.isAlphanum = false) (hlow : c ≠ '_') (d : Char)
      (hd : d ∈ name.toList) : d ≠ c := by
    rintro rfl
    exact hplain.not_mem halnum hlow hd
  rw [String.toList_append, String.toList_append]
  refine reads_quoted (.inl rfl) (.of_forall fun c hc => ⟨?_, ?_, ?_⟩) ?_
  · exact hother _ (by decide) (by decide) c hc
  · exact hother _ (by decide) (by decide) c hc
  · exact hother _ (by decide) (by decide) c hc
  · exact hplain.not_mem (by decide) (by decide)

theorem reads_typeText {type : TypeRef} (h : Analysis.LegalUse type) :
    Reads (typeText type).toList (typeWords type) := by
  induction type with
  | primitive primitive =>
    cases primitive with
    | string => exact reads_known "str" (by simp)
    | number => exact reads_known "float" (by simp)
    | integer => exact reads_known "int" (by simp)
    | boolean => exact reads_known "bool" (by simp)
    | null => exact reads_known "None" (by simp)
    | object => exact reads_object
  | array items ih =>
    refine reads_applied "List" (by simp) (by simp) (ih fun name backEdge hname => ?_)
    exact h name backEdge (.items hname)
  | named name backEdge =>
    have hlegal := h name backEdge .self
    unfold typeText typeWords
    split
    · exact reads_quotedName hlegal
    · exact reads_name (isWord_of_legal hlegal)
  | any => exact reads_known "Any" (by simp)

/-- The words of a property's type. -/
def fieldWords (field : Field) : List String :=
  if field.required then typeWords field.type else "NotRequired" :: typeWords field.type

theorem reads_fieldType {field : Field} (h : Analysis.LegalUse field.type) :
    Reads (fieldType field).toList (fieldWords field) := by
  have htype := reads_typeText h
  unfold fieldType fieldWords
  split
  · exact htype
  · exact reads_applied "NotRequired" (by simp) (by simp) htype

/-- The words of a union. -/
def unionWords (variants : List TypeRef) : List String :=
  match variants with
  | [] => ["Any"]
  | [variant] => typeWords variant
  | _ => "Union" :: variants.flatMap typeWords

theorem reads_unionText : ∀ {variants : List TypeRef},
    (∀ variant ∈ variants, Analysis.LegalUse variant) →
      Reads (unionText variants).toList (unionWords variants)
  | [], _ => reads_known "Any" (by simp)
  | [_], h => reads_typeText (h _ List.mem_cons_self)
  | first :: second :: rest, h => by
    change Reads ("Union[" ++ ", ".intercalate ((first :: second :: rest).map typeText) ++ "]").toList
      ("Union" :: (first :: second :: rest).flatMap typeWords)
    refine reads_applied "Union" (by simp) (by simp) ?_
    rw [List.flatMap_def]
    refine reads_intercalate ?_
    rw [List.forall₂_map_left_iff, List.forall₂_map_right_iff, List.forall₂_same]
    exact fun variant hvariant => reads_typeText (h variant hvariant)

/-! ### Typed dictionaries -/

theorem isWord_of_isAttribute {name : String} (h : isAttribute name = true) : IsWord name := by
  unfold isAttribute Text.isIdentifier at h
  rw [Bool.and_eq_true] at h
  have hidentifier := h.1
  split at hidentifier
  · cases hidentifier
  · next c rest hchars =>
    rw [Bool.and_eq_true, List.all_eq_true] at hidentifier
    obtain ⟨hc, hrest⟩ := hidentifier
    refine ⟨c, rest, hchars, ?_, fun d hd => ?_⟩
    · unfold Text.startsIdentifier at hc
      unfold isWordStart
      split at hc
      · rw [hc, Bool.true_or]
      · next hge => simp [Nat.le_of_not_lt hge]
    · have hd := hrest d hd
      unfold Text.continuesIdentifier at hd
      unfold isWordChar
      split at hd
      · rw [hd, Bool.true_or]
      · next hge => simp [Nat.le_of_not_lt hge]

/-- Properties of which no key has to be quoted. -/
theorem forall_isAttribute {fields : List Field} (h : needsQuotes fields = .ok false) :
    ∀ field ∈ fields, ∃ name, field.name = .text name ∧ isAttribute name = true := by
  induction fields with
  | nil => exact nofun
  | cons field rest ih =>
    unfold needsQuotes at h
    split at h
    · next name hname =>
      split at h
      · next hattribute => exact List.forall_mem_cons.2 ⟨⟨name, hname, hattribute⟩, ih h⟩
      · cases h
    · cases h

/-- Keys are looked at only if they are texts, so all of them are if they are alike. -/
theorem forall_text {fields : List Field} {quoted : Bool} (h : needsQuotes fields = .ok quoted)
    (halike : PropertyName.Alike (fields.map Field.name)) :
    ∀ field ∈ fields, ∃ name, field.name = .text name := by
  rcases halike with htext | hscalar
  · exact fun field hfield => htext _ (List.mem_map_of_mem hfield)
  · cases fields with
    | nil => exact nofun
    | cons field rest =>
      obtain ⟨value, hvalue⟩ := hscalar _ List.mem_cons_self
      unfold needsQuotes at h
      rw [hvalue] at h
      cases h

/-- A line in a class or a call: two parts behind a margin, with a mark between them. -/
theorem reads_between {margin part mark other : String} {names others : List String}
    (hmargin : Skips margin.toList) (hpart : Reads part.toList names) (hmark : Skips mark.toList)
    (hne : mark ≠ "") (hstops : Stops mark.toList) (hother : Reads other.toList others) :
    Reads (margin ++ part ++ mark ++ other).toList (names ++ others) := by
  have hchars : mark.toList ≠ [] := by simpa using hne
  have hline : (margin ++ part ++ mark ++ other).toList =
      margin.toList ++ (part.toList ++ (mark.toList ++ other.toList)) := by
    simp only [String.toList_append, List.append_assoc]
  rw [hline]
  refine hmargin.reads (hpart.append (hmark.reads hother) (by simp [hchars]) fun c hc => hstops c ?_)
  rwa [List.head?_append_of_ne_nil _ hchars] at hc

/-- A key with a type. -/
theorem reads_annotated {margin key type : String} {names types : List String}
    (hmargin : Skips margin.toList) (hkey : Reads key.toList names) (htype : Reads type.toList types) :
    Reads (margin ++ key ++ ": " ++ type).toList (names ++ types) :=
  reads_between hmargin hkey (skips_marks (by decide)) (by decide) (stops_cons (c := ':') (by decide) [' '])
    htype

/-- The lines of a call: the name as a text, and the quoted keys with their types in braces. -/
theorem below_call {name : String} {fields : List Field} (hname : Name.Legal name)
    (hkeys : ∀ field ∈ fields, ∃ key, field.name = .text key)
    (huses : ∀ field ∈ fields, Analysis.LegalUse field.type) :
    Below (["    \"" ++ name ++ "\",", "    \x7b"] ++ ((fields.map fun field =>
        "        " ++ field.name.toJson.literal ++ ": " ++ fieldType field ++ ",") ++ ["    \x7d,", ")"]))
      ([[], []] ++ (fields.map fieldWords ++ [[], []])) := by
  have hopening : Below ["    \"" ++ name ++ "\",", "    \x7b"] [[], []] := by
    have hline : ("    \"" ++ name ++ "\",").toList =
        [' ', ' ', ' ', ' '] ++ (("\"" ++ name ++ "\"").toList ++ [',']) := by
      simp only [String.toList_append, List.append_assoc]
      rfl
    refine .line ?_ ((isInner_of_head rfl (.inl rfl)).append _ |>.append _) (.single ?_ ?_)
    · rw [hline]
      exact (skips_marks (by decide)).reads ((reads_quotedName hname).closed (by decide) (by decide))
    · exact (skips_marks (by decide)).self
    · exact isInner_of_head rfl (.inl rfl)
  have hclosing : Below ["    \x7d,", ")"] [[], []] :=
    .line (skips_marks (by decide)).self (isInner_of_head rfl (.inl rfl))
      (.single (skips_marks (by decide)).self (isInner_of_head rfl (.inr rfl)))
  refine hopening.append (Below.append (.map fun field hfield => ⟨?_, ?_⟩) hclosing)
  · obtain ⟨key, hkey⟩ := hkeys field hfield
    rw [hkey, String.toList_append]
    exact (reads_annotated (skips_marks (by decide)) (reads_textLiteral key)
      (reads_fieldType (huses field hfield))).closed (by decide) (by decide)
  · exact ((((isInner_of_head rfl (.inl rfl)).append _).append _).append _).append _

/-- **A typed dictionary**: a class, or a call with quoted keys. -/
theorem isStatement_dictionary {name description : String} {fields : List Field} {lines : List String}
    (h : dictionaryLines name (docstring description) fields = .ok lines) (hname : Name.Legal name)
    (hdescription : IsLine description) (huses : ∀ field ∈ fields, Analysis.LegalUse field.type)
    (halike : PropertyName.Alike (fields.map Field.name)) :
    IsStatement lines (.defines name ("TypedDict" :: fields.flatMap fieldWords)) := by
  obtain ⟨quoted, hquoted, h⟩ := Json.bind_eq_ok h
  cases quoted with
  | true =>
    obtain rfl := Except.ok.inj h
    have hcall : Reads "TypedDict(".toList ["TypedDict"] :=
      (reads_known "TypedDict" (by simp)).closed (by decide) (by decide)
    -- the call goes on in the lines below, so what they evaluate comes behind the function
    have hall := isStatement_assigned hname hcall (by rw [String.append_assoc])
      (isLine_docstring hdescription) (below_call hname (forall_text hquoted halike) huses)
    simpa [List.flatMap_def] using hall
  | false =>
    obtain rfl := Except.ok.inj h
    have hattributes := forall_isAttribute hquoted
    refine isStatement_class "TypedDict" hname (by simp) (by simp) hdescription
      (.map (fun field : Field => field.name.display) fun field hfield => ⟨?_, ?_⟩)
    · obtain ⟨key, hkey, hattribute⟩ := hattributes field hfield
      rw [hkey]
      exact reads_annotated (skips_marks (by decide)) (reads_name (isWord_of_isAttribute hattribute))
        (reads_fieldType (huses field hfield))
    · exact (((isInner_of_head rfl (.inl rfl)).append _).append _).append _

/-! ### Enums -/

theorem isWordChar_of_isPlain {chars : List Char} (h : Name.IsPlain chars) {c : Char} (hc : c ∈ chars) :
    isWordChar c = true := by
  rcases h c hc with halnum | rfl
  · exact isWordChar_of_isAlphanum halnum
  · rfl

/-- Letters, digits and underscores are a word, unless a digit stands in front. -/
theorem isWord_of_isPlain {name : String} (h : Name.IsPlain name.toList) (hne : name ≠ "")
    (hdigit : Name.startsWithDigit name = false) : IsWord name := by
  cases hchars : name.toList with
  | nil => exact absurd (String.toList_eq_nil_iff.1 hchars) hne
  | cons c rest =>
    rw [hchars] at h
    refine ⟨c, rest, hchars, ?_, fun d hd => isWordChar_of_isPlain h (List.mem_cons_of_mem _ hd)⟩
    have hc : c.isDigit = false := by
      unfold Name.startsWithDigit at hdigit
      rwa [hchars] at hdigit
    have hall := isWordChar_of_isPlain h List.mem_cons_self
    unfold isWordChar Char.isAlphanum at hall
    unfold isWordStart
    simpa [hc] using hall

theorem IsWord.append {name other : String} (h : IsWord name) (hother : Name.IsPlain other.toList) :
    IsWord (name ++ other) := by
  obtain ⟨c, rest, hchars, hc, hrest⟩ := h
  refine ⟨c, rest ++ other.toList, ?_, hc, fun d hd => ?_⟩
  · rw [String.toList_append, hchars]
    rfl
  · rcases List.mem_append.1 hd with hd | hd
    · exact hrest d hd
    · exact isWordChar_of_isPlain hother hd

/-- **The member for an enum value is a word**, whatever the value is. -/
theorem isWord_memberName (index : Nat) (value : Json) (taken : List String) :
    IsWord (memberName index value taken) := by
  have hlead : IsWord "VALUE_" := ⟨'V', ['A', 'L', 'U', 'E', '_'], rfl, rfl, List.all_eq_true.1 rfl⟩
  have hfallback : IsWord ("VALUE_" ++ toString index) := hlead.append (Name.isPlain_toString index)
  have hnumbered : Name.IsPlain ("VALUE_" ++ toString index).toList := by
    rw [String.toList_append]
    exact .append (by simp [Name.IsPlain]) (Name.isPlain_toString index)
  have hbase : IsWord (Name.shieldDigit "VALUE_" (Name.orElse (Text.upperSnakeCase value.display)
      ("VALUE_" ++ toString index))) := by
    have hplain := Name.isPlain_upperSnakeCase value.display
    generalize Text.upperSnakeCase value.display = words at hplain
    unfold Name.orElse Name.shieldDigit
    split
    · split
      · exact hlead.append hnumbered
      · exact hfallback
    · next hne =>
      split
      · exact hlead.append hplain
      · next hdigit => exact isWord_of_isPlain hplain (by simpa using hne) (by simpa using hdigit)
  unfold memberName
  generalize Name.shieldDigit "VALUE_" _ = base at hbase
  rcases Name.fresh_cases taken base with heq | ⟨n, heq⟩
  · rw [heq]
    exact hbase
  · rw [heq]
    exact hbase.append (Name.isPlain_toString n)

/-- The lines of the members of an enum. -/
theorem isBody_memberLines (index : Nat) (taken : List String) (values : List Json) :
    IsBody (memberLines index taken values) (values.flatMap literalWords) := by
  induction values generalizing index taken with
  | nil => exact ⟨[], .nil, rfl⟩
  | cons value rest ih =>
    have hreads := reads_between (skips_marks (by decide) : Skips "    ".toList)
      (reads_name (isWord_memberName index value taken)) (skips_marks (by decide) : Skips " = ".toList)
      (by decide) (stops_cons (c := ' ') (by decide) ['=', ' ']) (reads_literal value)
    have hinner : IsInner ("    " ++ memberName index value taken ++ " = " ++ value.literal) :=
      (((isInner_of_head rfl (.inl rfl)).append _).append _).append _
    exact .cons hreads hinner (ih (index + 1) (memberName index value taken :: taken))

/-- **An enum.** -/
theorem isStatement_enum {name description : String} {values : List Json} (hname : Name.Legal name)
    (hdescription : IsLine description) :
    IsStatement (enumLines name (docstring description) values)
      (.defines name ("Enum" :: values.flatMap literalWords)) := by
  unfold enumLines
  refine isStatement_class "Enum" hname List.mem_cons_self (by simp) hdescription ?_
  split
  · next hempty =>
    obtain rfl := List.isEmpty_iff.1 hempty
    have hpass : IsWord "pass" := ⟨'p', ['a', 's', 's'], rfl, rfl, List.all_eq_true.1 rfl⟩
    refine ⟨[["pass"]], .single ?_ (isInner_of_head rfl (.inl rfl)), rfl⟩
    have hmargin : Skips [' ', ' ', ' ', ' '] := skips_marks (by decide)
    exact hmargin.reads (reads_name hpass)
  · exact isBody_memberLines 0 [] values

/-! ### Declarations -/

/-- **The names that a declaration evaluates**, in order. -/
def shapeWords : Shape → List String
  | .object fields => "TypedDict" :: fields.flatMap fieldWords
  | .enum values => "Enum" :: values.flatMap literalWords
  | .union variants => unionWords variants
  | .alias type => typeWords type

/-- The statement for a declaration. -/
def statementOf (declaration : Declaration) : Statement :=
  .defines declaration.name (shapeWords declaration.shape)

/-- What a declaration uses of the standard library. -/
def usesOf : Shape → Uses
  | .object fields => ⟨"TypedDict" :: fields.flatMap fieldNames, false⟩
  | .enum _ => ⟨[], true⟩
  | .union variants => ⟨unionNames variants, false⟩
  | .alias type => ⟨typeNames type, false⟩

/-- **The lines of a declaration are a statement.** -/
theorem isStatement_block {declaration : Declaration} {lines : List String} {uses : Uses}
    (h : block declaration = .ok (lines, uses)) (hlegible : Legible declaration) :
    IsStatement lines (statementOf declaration) ∧ uses = usesOf declaration.shape := by
  obtain ⟨name, description, shape⟩ := declaration
  obtain ⟨hname, huses, hworded⟩ := hlegible
  have hdescription : IsLine description := isLine_of_unbroken hworded.unbroken
  cases shape with
  | object fields =>
    obtain ⟨written, hwritten, h⟩ := Json.bind_eq_ok h
    obtain ⟨rfl, rfl⟩ := Prod.mk.inj (Except.ok.inj h)
    refine ⟨isStatement_dictionary hwritten hname hdescription (fun field hfield => ?_) ?_, rfl⟩
    · exact huses _ (List.mem_map_of_mem hfield)
    · exact (hworded.fields fields rfl).alike
  | enum values =>
    obtain ⟨rfl, rfl⟩ := Prod.mk.inj (Except.ok.inj h)
    exact ⟨isStatement_enum hname hdescription, rfl⟩
  | union variants =>
    obtain ⟨rfl, rfl⟩ := Prod.mk.inj (Except.ok.inj h)
    have hall := isStatement_assigned hname (reads_unionText huses) rfl (isLine_docstring hdescription) .nil
    rw [List.flatten_nil, List.append_nil] at hall
    exact ⟨hall, rfl⟩
  | «alias» type =>
    obtain ⟨rfl, rfl⟩ := Prod.mk.inj (Except.ok.inj h)
    have hall := isStatement_assigned hname (reads_typeText (huses type List.mem_cons_self)) rfl
      (isLine_docstring hdescription) .nil
    rw [List.flatten_nil, List.append_nil] at hall
    exact ⟨hall, rfl⟩

/-! ### Imports -/

/-- The uses of all declarations. -/
def catalogUses (catalog : Catalog) : Uses :=
  ⟨catalog.flatMap fun declaration => (usesOf declaration.shape).types,
    catalog.any fun declaration => (usesOf declaration.shape).enums⟩

/-- The lines of imports. -/
def importLines (uses : Uses) : List String :=
  (if uses.enums then ["from enum import Enum"] else []) ++
    linesIf (", ".intercalate uses.sortedTypes) ["from typing import " ++ ", ".intercalate uses.sortedTypes]

/-- The statements of imports. -/
def importsOf (uses : Uses) : List Statement :=
  (if uses.enums then [.imports "enum" ["Enum"]] else []) ++
    if uses.sortedTypes = [] then [] else [.imports "typing" uses.sortedTypes]

theorem mem_sortedTypes {uses : Uses} {name : String} :
    name ∈ uses.sortedTypes ↔ name ∈ uses.types := by
  unfold Uses.sortedTypes
  rw [(List.mergeSort_perm _ _).mem_iff, List.mem_eraseDups]

theorem nodup_eraseDups : ∀ names : List String, names.eraseDups.Nodup
  | [] => List.nodup_nil
  | name :: rest => by
    rw [List.eraseDups_cons]
    refine List.nodup_cons.2 ⟨fun hmem => ?_, nodup_eraseDups _⟩
    simpa using (List.mem_filter.1 (List.mem_eraseDups.1 hmem)).2
termination_by names => names.length
decreasing_by exact Nat.lt_succ_of_le (List.length_filter_le _ _)

theorem nodup_sortedTypes (uses : Uses) : uses.sortedTypes.Nodup := by
  unfold Uses.sortedTypes
  rw [(List.mergeSort_perm _ _).nodup_iff]
  exact nodup_eraseDups _

/-- Names in a list. -/
theorem reads_names {names : List String}
    (h : ∀ name ∈ names, name ∈ "Enum" :: (builtins ++ typingNames)) :
    Reads (", ".intercalate names).toList names := by
  have hall : List.Forall₂ (fun part words => Reads part.toList words) names
      (names.map fun name => [name]) := by
    rw [List.forall₂_map_right_iff, List.forall₂_same]
    exact fun name hname => reads_known name (h name hname)
  have hreads := reads_intercalate hall
  rwa [← List.flatMap_def, List.flatMap_singleton'] at hreads

/-- **An import.** -/
theorem isStatement_import {source line : String} {names : List String} (hsource : IsWord source)
    (hline : line = "from " ++ source ++ " import " ++ ", ".intercalate names)
    (hnames : ∀ name ∈ names, name ∈ "Enum" :: (builtins ++ typingNames)) :
    IsStatement [line] (.imports source names) := by
  have hfrom : IsWord "from" := ⟨'f', ['r', 'o', 'm'], rfl, rfl, List.all_eq_true.1 rfl⟩
  have himport : IsWord "import" := ⟨'i', ['m', 'p', 'o', 'r', 't'], rfl, rfl, List.all_eq_true.1 rfl⟩
  have hchars : line.toList = "from".toList ++ ' ' :: (source.toList ++ ' ' ::
      ("import".toList ++ ' ' :: (", ".intercalate names).toList)) := by
    rw [hline]
    simp only [String.toList_append, List.append_assoc]
    rfl
  have hreads : Reads line.toList ("from" :: source :: "import" :: names) := by
    rw [hchars]
    exact reads_blank (reads_name hfrom)
      (reads_blank (reads_name hsource) (reads_blank (reads_name himport) (reads_names hnames)))
  have hopens : opens line.toList = true := by
    rw [hchars]
    exact opens_append hfrom _
  refine ⟨List.forall_mem_singleton.2 hreads.line, _, [], ?_, hopens, nofun, ?_⟩
  · rw [List.map_singleton, List.filter_cons_of_pos (speaks_of_opens hopens)]
    rfl
  · rw [statement?, hreads.words?_eq]
    rfl

/-- The lines of imports are statements. -/
theorem isStatement_importLines {uses : Uses} (h : ∀ name ∈ uses.types, name ∈ typingNames) :
    List.Forall₂ IsStatement ((importLines uses).map fun line => [line]) (importsOf uses) := by
  have henum : IsWord "enum" := ⟨'e', ['n', 'u', 'm'], rfl, rfl, List.all_eq_true.1 rfl⟩
  have htyping : IsWord "typing" := ⟨'t', ['y', 'p', 'i', 'n', 'g'], rfl, rfl, List.all_eq_true.1 rfl⟩
  have hknown (name : String) (hname : name ∈ uses.sortedTypes) :
      name ∈ "Enum" :: (builtins ++ typingNames) :=
    List.mem_cons_of_mem _ (List.mem_append_right _ (h name (mem_sortedTypes.1 hname)))
  unfold importLines importsOf
  rw [List.map_append]
  refine List.rel_append ?_ ?_
  · split
    · exact .cons (isStatement_import henum (by simp)
        (List.forall_mem_singleton.2 List.mem_cons_self)) .nil
    · exact .nil
  · by_cases hnil : uses.sortedTypes = []
    · rw [hnil]
      exact .nil
    · -- a list of names is not empty as a text, because its names can be read from it
      have hshown : (", ".intercalate uses.sortedTypes).isEmpty = false := by
        by_contra hempty
        have htext : ", ".intercalate uses.sortedTypes = "" := by simpa using hempty
        have hwords := (reads_names hknown).words?_eq
        rw [htext, String.toList_empty, words?] at hwords
        exact hnil (Option.some.inj hwords).symm
      unfold linesIf
      rw [hshown, if_neg hnil]
      have hfront : "from typing import " = "from " ++ "typing" ++ " import " := by simp
      exact .cons (isStatement_import htyping (congrArg (· ++ _) hfront) hknown) .nil

/-! ### Modules -/

/-- Uses of blocks behind each other. -/
theorem foldl_join (uses : Uses) (blocks : List (List String × Uses)) :
    blocks.foldl (fun uses block => uses.join block.2) uses =
      ⟨uses.types ++ blocks.flatMap fun block => block.2.types,
        uses.enums || blocks.any fun block => block.2.enums⟩ := by
  induction blocks generalizing uses with
  | nil => simp
  | cons block rest ih =>
    rw [List.foldl_cons, ih]
    simp [Uses.join, List.append_assoc, Bool.or_assoc]

theorem isStatement_blocks {catalog : Catalog} {written : List (List String × Uses)}
    (h : List.Forall₂ (fun declaration result => block declaration = .ok result) catalog written)
    (hlegible : ∀ declaration ∈ catalog, Legible declaration) :
    List.Forall₂ IsStatement (written.map Prod.fst) (catalog.map statementOf) ∧
      written.map Prod.snd = catalog.map fun declaration => usesOf declaration.shape := by
  induction h with
  | nil => exact ⟨.nil, rfl⟩
  | @cons declaration result rest others hfirst _ ih =>
    obtain ⟨hstatement, huses⟩ := isStatement_block hfirst (hlegible _ List.mem_cons_self)
    obtain ⟨hothers, heq⟩ := ih fun other hother => hlegible other (List.mem_cons_of_mem _ hother)
    exact ⟨.cons hstatement hothers, by rw [List.map_cons, List.map_cons, huses, heq]⟩

/-- **A rendered module consists of imports and a statement for each declaration.** -/
theorem blocks_of_render {catalog : Catalog} {source : String} (h : render catalog = .ok source)
    (hlegible : ∀ declaration ∈ catalog, Legible declaration) :
    ∃ blocks, source = assemble (header (catalogUses catalog) :: blocks) ∧
      List.Forall₂ IsStatement blocks (catalog.map statementOf) := by
  obtain ⟨written, hwritten, h⟩ := Json.bind_eq_ok h
  obtain rfl := Except.ok.inj h
  have hall := isStatement_blocks (mapM_eq_ok_iff.1 hwritten) hlegible
  have huses : written.foldl (fun uses block => uses.join block.2) {} = catalogUses catalog := by
    have htypes : (written.flatMap fun block => block.2.types) =
        catalog.flatMap fun declaration => (usesOf declaration.shape).types := by
      have heq := congrArg (·.flatMap Uses.types) hall.2
      simpa [List.flatMap_map] using heq
    have henums : (written.any fun block => block.2.enums) =
        catalog.any fun declaration => (usesOf declaration.shape).enums := by
      have heq := congrArg (·.any Uses.enums) hall.2
      simpa [List.any_map, Function.comp_def] using heq
    rw [foldl_join, htypes, henums]
    rfl
  exact ⟨_, congrArg (fun uses => assemble (header uses :: written.map Prod.fst)) huses, hall.1⟩

/-- **The statements of a module**: imports, and one for each declaration in its order. -/
theorem statements?_of_render {catalog : Catalog} {source : String} (h : render catalog = .ok source)
    (hlegible : ∀ declaration ∈ catalog, Legible declaration)
    (htypes : ∀ name ∈ (catalogUses catalog).types, name ∈ typingNames) :
    statements? source = some (importsOf (catalogUses catalog) ++ catalog.map statementOf) := by
  obtain ⟨blocks, rfl, hblocks⟩ := blocks_of_render h hlegible
  have himports := isStatement_importLines htypes
  have hheader : header (catalogUses catalog) = ("# " ++ notice) :: importLines (catalogUses catalog) := by
    unfold header importLines
    rw [List.append_assoc]
    rfl
  unfold statements?
  rw [pieces_assemble (List.cons_ne_nil _ _), filter_speaks_blocks, List.flatMap_cons, hheader]
  · have hsilent :
        (((("# " ++ notice) :: importLines (catalogUses catalog)).map String.toList).filter speaks) =
          ((importLines (catalogUses catalog)).map String.toList).filter speaks := rfl
    rw [hsilent, ← flatMap_singles, ← List.flatMap_append]
    exact statementsOf_blocks (List.rel_append himports hblocks)
  · refine List.forall_mem_cons.2
      ⟨⟨by rw [hheader]; exact List.cons_ne_nil _ _, ?_⟩, fun block hblock => ?_⟩
    · rw [hheader]
      refine List.forall_mem_cons.2 ⟨by decide +kernel, fun line hline => ?_⟩
      obtain ⟨statement, -, hstatement⟩ := exists_of_forall₂ himports _ (List.mem_map_of_mem hline)
      exact hstatement.isLine line List.mem_cons_self
    · obtain ⟨statement, -, hstatement⟩ := exists_of_forall₂ hblocks block hblock
      exact ⟨hstatement.ne_nil, hstatement.isLine⟩

end SchemaPress.Source.Python
