import SchemaPress.Proofs.Source.Lines
import SchemaPress.Proofs.Source.Rendering
import SchemaPress.Proofs.Text.StringLiteral
import SchemaPress.Source.Render
import SchemaPress.SourceCheck.Verdict

/-!
# Descriptions in comments

A description may be any text, and it is shown in a comment or a docstring. A source with comments is another
source with lines of comments between its lines (`Interleaves`, `Commented`), and what is rendered is the
source of the same catalog without its descriptions, with one comment for each of them, in order
(`commented_of_render`). So a description is shown nowhere else, and whether it stays where it is shown
depends on where the comment ends in its language.

* A block comment of TypeScript ends with the first star in front of a slash. Where a description has the two
  behind each other, a backslash is put between them, and neither the marks around a description nor its own
  first and last characters make up another end (`upToClosing?_shieldComment`).
* A line comment of Go, Rust or Python ends with its line. A description has no blanks but spaces, so none of
  the characters that end a line.
* A docstring of Python ends with three quotes. All quotes and backslashes of a description are escaped, so the
  docstring is read back as the description (`tripleQuoted?_docstring`), with one exception: no source holds the
  character of number zero, and nothing is done about one in a description. A module with such a description is
  refused where it should be written (`check_of_zero`).

What is shown is what the schemas say that were met (`comments_of_render`).
-/

namespace SchemaPress

/-! ### Without descriptions -/

/-- The property, with nothing said about it. -/
def Field.silent (field : Field) : Field :=
  { field with description := "" }

/-- The properties of an object type, and none of any other type. -/
def Shape.fields : Shape → List Field
  | .object fields => fields
  | _ => []

/-- The shape, with nothing said about properties. -/
def Shape.silent : Shape → Shape
  | .object fields => .object (fields.map Field.silent)
  | shape => shape

/-- The declaration, with nothing said about it and its properties. -/
def Declaration.silent (declaration : Declaration) : Declaration where
  name := declaration.name
  description := ""
  shape := declaration.shape.silent

/-- The catalog without its descriptions. -/
def Catalog.silent (catalog : Catalog) : Catalog :=
  catalog.map Declaration.silent

namespace Source

open Json (bind_eq_ok)

/-! ### Comments between lines -/

/-- **A comment that shows a description**, as it is written on lines of its own. -/
structure Comment where
  /-- What stands in front of it on its first line. -/
  margin : String
  /-- The mark that opens it. -/
  opening : String
  /-- What stands in it. -/
  body : String
  /-- The mark that closes it, with what stands behind it; nothing if it goes on to the end of its line. -/
  closing : String

/-- The comment as it is written, up to the end of its last line. -/
def Comment.text (comment : Comment) : String :=
  comment.margin ++ comment.opening ++ comment.body ++ comment.closing

/-- The comment for a description, if it says anything. -/
def commentIf (description : String) (comment : Comment) : List Comment :=
  if description.isEmpty then [] else [comment]

/-- **Lines with comments between them**: the lines, those without the comments, and the comments. -/
inductive Interleaves : List String → List String → List Comment → Prop where
  | nil : Interleaves [] [] []
  | line (line : String) {lines code : List String} {comments : List Comment}
      (rest : Interleaves lines code comments) : Interleaves (line :: lines) (line :: code) comments
  | comment {own : List String} {comment : Comment} (text : "\n".intercalate own = comment.text)
      {lines code : List String} {comments : List Comment} (rest : Interleaves lines code comments) :
      Interleaves (own ++ lines) code (comment :: comments)

/-- The text of lines, each with a line break behind it. -/
def unlines (lines : List String) : List Char :=
  lines.flatMap fun line => line.toList ++ ['\n']

/-- **A source is another one with these comments**, each on lines of its own. -/
def Commented (source bare : String) (comments : List Comment) : Prop :=
  ∃ lines code, source.toList = unlines lines ∧ bare.toList = unlines code ∧
    Interleaves lines code comments

section Interleaves

variable {lines lines' code code' : List String} {comments comments' : List Comment}

/-- No comments. -/
theorem Interleaves.self (lines : List String) : Interleaves lines lines [] := by
  induction lines with
  | nil => exact .nil
  | cons line rest ih => exact .line line ih

theorem Interleaves.append (h : Interleaves lines code comments) (h' : Interleaves lines' code' comments') :
    Interleaves (lines ++ lines') (code ++ code') (comments ++ comments') := by
  induction h with
  | nil => exact h'
  | line line rest ih => exact .line line ih
  | comment text rest ih =>
    rw [List.append_assoc]
    exact .comment text ih

/-- Lines without comments behind others. -/
theorem Interleaves.withCode (h : Interleaves lines code comments) (more : List String) :
    Interleaves (lines ++ more) (code ++ more) comments := by
  have hmore := h.append (Interleaves.self more)
  rw [List.append_nil] at hmore
  exact hmore

theorem Interleaves.ne_nil (h : Interleaves lines code comments) (hcode : code ≠ []) : lines ≠ [] := by
  induction h with
  | nil => exact hcode
  | line => exact List.cons_ne_nil _ _
  | comment text rest ih => exact List.append_ne_nil_of_right_ne_nil _ (ih hcode)

/-- The lines of a comment, if there is anything to say. -/
theorem interleaves_linesIf {shown description : String} {own : List String} {comment : Comment}
    (htext : "\n".intercalate own = comment.text) (hshown : shown.isEmpty = description.isEmpty) :
    Interleaves (linesIf shown own) [] (commentIf description comment) := by
  unfold linesIf commentIf
  rw [hshown]
  cases description.isEmpty with
  | true => exact .nil
  | false =>
    have hown := Interleaves.comment htext .nil
    rw [List.append_nil] at hown
    exact hown

end Interleaves

/-! ### Blocks -/

/-- Blocks of lines with comments between the lines. -/
inductive CommentedBlocks : List (List String) → List (List String) → List Comment → Prop where
  | nil : CommentedBlocks [] [] []
  | cons {lines code : List String} {comments : List Comment} (block : Interleaves lines code comments)
      (hne : code ≠ []) {blocks bare : List (List String)} {more : List Comment}
      (rest : CommentedBlocks blocks bare more) :
      CommentedBlocks (lines :: blocks) (code :: bare) (comments ++ more)

/-- A block of lines without comments, and blocks behind it. -/
theorem CommentedBlocks.code {lines : List String} (hne : lines ≠ []) {blocks bare : List (List String)}
    {comments : List Comment} (h : CommentedBlocks blocks bare comments) :
    CommentedBlocks (lines :: blocks) (lines :: bare) comments :=
  .cons (Interleaves.self lines) hne h

theorem CommentedBlocks.ne_nil {blocks bare : List (List String)} {comments : List Comment}
    (h : CommentedBlocks blocks bare comments) :
    (∀ block ∈ blocks, block ≠ []) ∧ ∀ block ∈ bare, block ≠ [] := by
  induction h with
  | nil => exact ⟨nofun, nofun⟩
  | cons block hne rest ih =>
    exact ⟨List.forall_mem_cons.2 ⟨block.ne_nil hne, ih.1⟩, List.forall_mem_cons.2 ⟨hne, ih.2⟩⟩

theorem intercalate_break {lines : List String} (hne : lines ≠ []) :
    ['\n'].intercalate (lines.map String.toList) ++ ['\n'] = unlines lines := by
  induction lines with
  | nil => exact absurd rfl hne
  | cons line rest ih =>
    cases rest with
    | nil => simp [unlines]
    | cons next others =>
      have hrest := ih (List.cons_ne_nil _ _)
      rw [List.map_cons] at hrest
      rw [List.map_cons, List.map_cons, List.intercalate_cons_cons, List.append_assoc, hrest]
      simp [unlines]

/-- A comment stands between the lines as it is written. -/
theorem Interleaves.mem_unlines {lines code : List String} {comments : List Comment}
    (h : Interleaves lines code comments) {comment : Comment} (hmem : comment ∈ comments) {c : Char}
    (hc : c ∈ comment.text.toList) : c ∈ unlines lines := by
  induction h with
  | nil => cases hmem
  | line line rest ih => exact List.mem_append_right _ (ih hmem)
  | @comment own _ text _ _ _ rest ih =>
    unfold unlines at ih ⊢
    rw [List.flatMap_append]
    rcases List.mem_cons.1 hmem with rfl | hmem
    · refine List.mem_append_left _ ?_
      rw [← text, String.toList_intercalate] at hc
      have hown : own ≠ [] := by
        rintro rfl
        cases hc
      change c ∈ unlines own
      rw [← intercalate_break hown]
      exact List.mem_append_left _ hc
    · exact List.mem_append_right _ (ih hmem)

theorem toList_assemble_singleton {block : List String} (hne : block ≠ []) :
    (assemble [block]).toList = unlines block := by
  rw [toList_assemble (List.forall_mem_singleton.2 hne), List.map_singleton, List.map_singleton,
    List.intercalate_singleton, intercalate_break hne]

/-- Between two blocks there is an empty line. -/
theorem toList_assemble_cons {block next : List String} {blocks : List (List String)}
    (h : ∀ other ∈ block :: next :: blocks, other ≠ []) :
    (assemble (block :: next :: blocks)).toList =
      unlines block ++ '\n' :: (assemble (next :: blocks)).toList := by
  obtain ⟨hblock, hrest⟩ := List.forall_mem_cons.1 h
  rw [toList_assemble h, toList_assemble hrest, ← intercalate_break hblock]
  simp only [List.map_cons, List.intercalate_cons_cons, List.append_assoc, List.cons_append, List.nil_append]

/-- **A source of blocks with comments is a source with comments.** -/
theorem CommentedBlocks.assemble {blocks bare : List (List String)} {comments : List Comment}
    (h : CommentedBlocks blocks bare comments) : Commented (assemble blocks) (assemble bare) comments := by
  induction h with
  | nil => exact ⟨[""], [""], rfl, rfl, .line "" .nil⟩
  | @cons lines code comments block hne blocks bare more rest ih =>
    cases rest with
    | nil =>
      refine ⟨lines, code, toList_assemble_singleton (block.ne_nil hne), toList_assemble_singleton hne, ?_⟩
      rw [List.append_nil]
      exact block
    | cons next hnext others =>
      have hall := ((CommentedBlocks.cons next hnext others).cons block hne).ne_nil
      -- the empty line between two blocks is in both sources
      obtain ⟨lines', code', hsource, hbare, hrest⟩ := ih
      refine ⟨lines ++ ("" :: lines'), code ++ ("" :: code'), ?_, ?_, block.append (.line "" hrest)⟩
      · rw [toList_assemble_cons hall.1, hsource]
        simp [unlines]
      · rw [toList_assemble_cons hall.2, hbare]
        simp [unlines]

/-- **Lists that are written item by item**: where each item can be written without its descriptions, all of them
can, and what holds of both texts of an item adds up to what holds of both lists. -/
theorem exists_mapM_map {Item Text : Type} {write : Item → Except Crash Text} {silent : Item → Item}
    {motive : List Item → List Text → List Text → Prop} (nil : motive [] [] [])
    (cons : ∀ item rest text texts bares, write item = .ok text → motive rest texts bares →
      ∃ bare, write (silent item) = .ok bare ∧ motive (item :: rest) (text :: texts) (bare :: bares))
    {items : List Item} {texts : List Text} (h : items.mapM write = .ok texts) :
    ∃ bares, (items.map silent).mapM write = .ok bares ∧ motive items texts bares := by
  induction items generalizing texts with
  | nil =>
    cases h
    exact ⟨[], rfl, nil⟩
  | cons item rest ih =>
    rw [List.mapM_cons] at h
    obtain ⟨text, htext, h⟩ := bind_eq_ok h
    obtain ⟨others, hothers, h⟩ := bind_eq_ok h
    cases h
    obtain ⟨bares, hbares, hrest⟩ := ih hothers
    obtain ⟨bare, hbare, hall⟩ := cons item rest text others bares htext hrest
    refine ⟨bare :: bares, ?_, hall⟩
    rw [List.map_cons, List.mapM_cons, ok_bind hbare, ok_bind hbares]
    rfl

/-- The blocks of declarations, one after the other. -/
theorem exists_commentedBlocks {block : Declaration → Except Crash (List String)} {catalog : Catalog}
    {blocks : List (List String)} (hblocks : catalog.mapM block = .ok blocks)
    {comments : Declaration → List Comment}
    (h : ∀ declaration lines, block declaration = .ok lines → ∃ code,
      block declaration.silent = .ok code ∧ code ≠ [] ∧ Interleaves lines code (comments declaration)) :
    ∃ bare, catalog.silent.mapM block = .ok bare ∧
      CommentedBlocks blocks bare (catalog.flatMap comments) := by
  refine exists_mapM_map (motive := fun catalog blocks bare =>
    CommentedBlocks blocks bare (catalog.flatMap comments)) .nil ?_ hblocks
  intro declaration rest lines blocks bare hlines hrest
  obtain ⟨code, hcode, hne, hblock⟩ := h declaration lines hlines
  exact ⟨code, hcode, .cons hblock hne hrest⟩

/-! ### Comments of TypeScript -/

namespace TypeScript

/-- The comment for a declaration of this description. -/
def typeComment (description : String) : Comment :=
  ⟨"", "/**", "\n * " ++ Text.typeScriptComment description ++ "\n ", "*/"⟩

/-- The comment for a property of this description. -/
def fieldComment (description : String) : Comment :=
  ⟨"  ", "/**", " " ++ Text.typeScriptComment description ++ " ", "*/"⟩

/-- The comments for a declaration and its properties. -/
def comments (declaration : Declaration) : List Comment :=
  commentIf declaration.description (typeComment declaration.description) ++
    declaration.shape.fields.flatMap fun field => commentIf field.description (fieldComment field.description)

theorem head?_shieldComment (text : List Char) : (Text.shieldComment text).head? = text.head? := by
  cases text with
  | nil => rfl
  | cons c rest => unfold Text.shieldComment; split <;> simp_all

theorem isEmpty_typeScriptComment (text : String) :
    (Text.typeScriptComment text).isEmpty = text.isEmpty := by
  rw [Bool.eq_iff_iff, String.isEmpty_iff, String.isEmpty_iff, ← String.toList_inj, ← String.toList_inj]
  unfold Text.typeScriptComment
  rw [String.toList_ofList, String.toList_empty, ← List.head?_eq_none_iff, head?_shieldComment,
    List.head?_eq_none_iff]

theorem interleaves_typeComment (description : String) :
    Interleaves
      (linesIf (Text.typeScriptComment description)
        ["/**", " * " ++ Text.typeScriptComment description, " */"])
      [] (commentIf description (typeComment description)) := by
  refine interleaves_linesIf ?_ (isEmpty_typeScriptComment description)
  rw [← String.toList_inj]
  simp [Comment.text, typeComment]

theorem interleaves_fieldComment (description : String) :
    Interleaves
      (linesIf (Text.typeScriptComment description) ["  /** " ++ Text.typeScriptComment description ++ " */"])
      [] (commentIf description (fieldComment description)) := by
  refine interleaves_linesIf ?_ (isEmpty_typeScriptComment description)
  rw [← String.toList_inj]
  simp [Comment.text, fieldComment]

theorem exists_fieldCode {field : Field} {lines : List String} (h : fieldLines field = .ok lines) :
    ∃ code, fieldLines field.silent = .ok code ∧
      Interleaves lines code (commentIf field.description (fieldComment field.description)) := by
  obtain ⟨name, hname, h⟩ := bind_eq_ok h
  cases h
  have hsilent : textName field.silent.name = .ok name := hname
  exact ⟨_, ok_bind hsilent, (interleaves_fieldComment field.description).withCode _⟩

theorem exists_fieldsCode {fields : List Field} {lines : List (List String)}
    (h : fields.mapM fieldLines = .ok lines) :
    ∃ code, (fields.map Field.silent).mapM fieldLines = .ok code ∧
      Interleaves lines.flatten code.flatten
        (fields.flatMap fun field => commentIf field.description (fieldComment field.description)) := by
  refine exists_mapM_map (motive := fun fields lines code => Interleaves lines.flatten code.flatten
    (fields.flatMap fun field => commentIf field.description (fieldComment field.description))) .nil ?_ h
  intro field rest own others more hown hrest
  obtain ⟨code, hcode, hfield⟩ := exists_fieldCode hown
  exact ⟨code, hcode, hfield.append hrest⟩

theorem exists_code {declaration : Declaration} {lines : List String} (h : block declaration = .ok lines) :
    ∃ code, block declaration.silent = .ok code ∧ code ≠ [] ∧
      Interleaves lines code (comments declaration) := by
  obtain ⟨name, description, shape⟩ := declaration
  have hheader := interleaves_typeComment description
  cases shape with
  | object fields =>
    obtain ⟨own, hown, h⟩ := bind_eq_ok h
    cases h
    obtain ⟨code, hcode, hfields⟩ := exists_fieldsCode hown
    exact ⟨_, ok_bind hcode, by simp, ((hheader.withCode _).append hfields).withCode _⟩
  | _ =>
    cases h
    exact ⟨_, rfl, List.cons_ne_nil _ _, hheader.append (.self _)⟩

end TypeScript

/-! ### Comments of Go -/

namespace Go

/-- The comment for a declaration of this name and description. -/
def typeComment (name description : String) : Comment :=
  ⟨"", "//", " " ++ name ++ " " ++ description, ""⟩

/-- The comment for a property of this description. -/
def fieldComment (description : String) : Comment :=
  ⟨"\t", "//", " " ++ description, ""⟩

/-- The comments for a declaration and its properties. -/
def comments (declaration : Declaration) : List Comment :=
  commentIf declaration.description (typeComment declaration.name declaration.description) ++
    declaration.shape.fields.flatMap fun field => commentIf field.description (fieldComment field.description)

theorem interleaves_typeComment (name description : String) :
    Interleaves (linesIf description ["// " ++ name ++ " " ++ description]) []
      (commentIf description (typeComment name description)) := by
  refine interleaves_linesIf ?_ rfl
  rw [← String.toList_inj]
  simp [Comment.text, typeComment]

theorem interleaves_fieldComment (description : String) :
    Interleaves (linesIf description ["\t// " ++ description]) []
      (commentIf description (fieldComment description)) := by
  refine interleaves_linesIf ?_ rfl
  rw [← String.toList_inj]
  simp [Comment.text, fieldComment]

theorem exists_fieldsCode {fields : List Field} {taken lines : List String}
    (h : fieldLines taken fields = .ok lines) :
    ∃ code, fieldLines taken (fields.map Field.silent) = .ok code ∧
      Interleaves lines code
        (fields.flatMap fun field => commentIf field.description (fieldComment field.description)) := by
  induction fields generalizing taken lines with
  | nil =>
    cases h
    exact ⟨[], rfl, .nil⟩
  | cons field rest ih =>
    obtain ⟨words, hwords, h⟩ := bind_eq_ok h
    obtain ⟨tag, htag, h⟩ := bind_eq_ok h
    obtain ⟨others, hothers, h⟩ := bind_eq_ok h
    cases h
    obtain ⟨code, hcode, hrest⟩ := ih hothers
    have hname : wordsSource field.silent.name = .ok words := hwords
    have hsilent : tagText field.silent.name field.silent.required = .ok tag := htag
    refine ⟨_, ?_, ((interleaves_fieldComment field.description).withCode _).append hrest⟩
    rw [List.map_cons, fieldLines, ok_bind hname, ok_bind hsilent, ok_bind hcode]
    rfl

theorem exists_code {declaration : Declaration} {taken lines after : List String}
    (h : block taken declaration = .ok (lines, after)) :
    ∃ code, block taken declaration.silent = .ok (code, after) ∧ code ≠ [] ∧
      Interleaves lines code (comments declaration) := by
  obtain ⟨name, description, shape⟩ := declaration
  have hheader := interleaves_typeComment name description
  cases shape with
  | object fields =>
    obtain ⟨own, hown, h⟩ := bind_eq_ok h
    cases h
    obtain ⟨code, hcode, hfields⟩ := exists_fieldsCode hown
    exact ⟨_, ok_bind hcode, by simp, ((hheader.withCode _).append hfields).withCode _⟩
  | enum values =>
    unfold block at h ⊢
    cases hunderlying : underlying values with
    | some type =>
      simp only [hunderlying] at h
      cases h
      simp only [Declaration.silent, Shape.silent, hunderlying]
      exact ⟨_, rfl, by simp, (((hheader.append (.self _)).withCode _).withCode _).withCode _⟩
    | none =>
      simp only [hunderlying] at h
      cases h
      simp only [Declaration.silent, Shape.silent, hunderlying]
      exact ⟨_, rfl, by simp, hheader.append (.self _)⟩
  | _ =>
    cases h
    exact ⟨_, rfl, List.cons_ne_nil _ _, hheader.append (.self _)⟩

theorem exists_commentedBlocks {catalog : Catalog} {taken : List String} {written : List (List String)}
    (h : blocks taken catalog = .ok written) :
    ∃ bare, blocks taken catalog.silent = .ok bare ∧
      CommentedBlocks written bare (catalog.flatMap comments) := by
  induction catalog generalizing taken written with
  | nil =>
    cases h
    exact ⟨[], rfl, .nil⟩
  | cons declaration rest ih =>
    obtain ⟨⟨lines, after⟩, hlines, h⟩ := bind_eq_ok h
    obtain ⟨others, hothers, h⟩ := bind_eq_ok h
    cases h
    obtain ⟨code, hcode, hne, hblock⟩ := exists_code hlines
    obtain ⟨bare, hbare, hrest⟩ := ih hothers
    refine ⟨code :: bare, ?_, .cons hblock hne hrest⟩
    change blocks taken (declaration.silent :: Catalog.silent rest) = _
    rw [blocks, ok_bind hcode]
    exact ok_bind hbare

end Go

/-! ### Comments of Rust -/

namespace Rust

/-- The comment for a declaration or a property of this description. -/
def docComment (margin description : String) : Comment :=
  ⟨margin, "///", " " ++ description, ""⟩

/-- The comments for a declaration and its properties. -/
def comments (declaration : Declaration) : List Comment :=
  commentIf declaration.description (docComment "" declaration.description) ++
    declaration.shape.fields.flatMap fun field =>
      commentIf field.description (docComment "    " field.description)

theorem interleaves_typeComment (description : String) :
    Interleaves (linesIf description ["/// " ++ description]) []
      (commentIf description (docComment "" description)) := by
  refine interleaves_linesIf ?_ rfl
  rw [← String.toList_inj]
  simp [Comment.text, docComment]

theorem interleaves_fieldComment (description : String) :
    Interleaves (linesIf description ["    /// " ++ description]) []
      (commentIf description (docComment "    " description)) := by
  refine interleaves_linesIf ?_ rfl
  rw [← String.toList_inj]
  simp [Comment.text, docComment]

theorem exists_fieldsCode {fields : List Field} {taken lines : List String}
    (h : fieldLines taken fields = .ok lines) :
    ∃ code, fieldLines taken (fields.map Field.silent) = .ok code ∧
      Interleaves lines code
        (fields.flatMap fun field => commentIf field.description (docComment "    " field.description)) := by
  induction fields generalizing taken lines with
  | nil =>
    cases h
    exact ⟨[], rfl, .nil⟩
  | cons field rest ih =>
    obtain ⟨words, hwords, h⟩ := bind_eq_ok h
    obtain ⟨name, hname, h⟩ := bind_eq_ok h
    obtain ⟨others, hothers, h⟩ := bind_eq_ok h
    cases h
    obtain ⟨code, hcode, hrest⟩ := ih hothers
    have hsilent : wordsSource field.silent.name = .ok words := hwords
    have htext : textName field.silent.name = .ok name := hname
    refine ⟨_, ?_, (((interleaves_fieldComment field.description).withCode _).withCode _).append hrest⟩
    rw [List.map_cons, fieldLines, ok_bind hsilent, ok_bind htext, ok_bind hcode]
    rfl

theorem exists_code {declaration : Declaration} {lines : List String} (h : block declaration = .ok lines) :
    ∃ code, block declaration.silent = .ok code ∧ code ≠ [] ∧
      Interleaves lines code (comments declaration) := by
  obtain ⟨name, description, shape⟩ := declaration
  have hheader := interleaves_typeComment description
  cases shape with
  | object fields =>
    obtain ⟨own, hown, h⟩ := bind_eq_ok h
    cases h
    obtain ⟨code, hcode, hfields⟩ := exists_fieldsCode hown
    exact ⟨_, ok_bind hcode, by simp, ((hheader.withCode _).append hfields).withCode _⟩
  | enum values =>
    unfold block at h ⊢
    simp only [Declaration.silent, Shape.silent] at h ⊢
    split at h
    · cases h
      exact ⟨_, rfl, by simp, ((hheader.append (.self _)).withCode _).withCode _⟩
    · cases h
      exact ⟨_, rfl, by simp, hheader.append (.self _)⟩
  | union variants =>
    obtain ⟨own, hown, h⟩ := bind_eq_ok h
    cases h
    exact ⟨_, ok_bind hown, by simp, ((hheader.append (.self _)).withCode _).withCode _⟩
  | «alias» type =>
    cases h
    exact ⟨_, rfl, List.cons_ne_nil _ _, hheader.append (.self _)⟩

end Rust

/-! ### Comments and docstrings of Python -/

namespace Python

/-- The comment for a declaration that is a call or an assignment. -/
def lineComment (description : String) : Comment :=
  ⟨"", "#", " " ++ docstring description, ""⟩

/-- The docstring of a class, with an empty line behind it. -/
def docComment (description : String) : Comment :=
  ⟨"    ", "\"\"\"", docstring description, "\"\"\"\n"⟩

/-- Whether a declaration is a class: one of an enum, or a dictionary whose keys need no quotes. -/
def isClass (declaration : Declaration) : Bool :=
  match declaration.shape with
  | .object fields =>
    match needsQuotes fields with
    | .ok true => false
    | _ => true
  | .enum _ => true
  | _ => false

/-- The comment for a declaration. Nothing is said about properties. -/
def comments (declaration : Declaration) : List Comment :=
  commentIf declaration.description
    (if isClass declaration then docComment declaration.description
      else lineComment declaration.description)

theorem isEmpty_docstring (description : String) : (docstring description).isEmpty = description.isEmpty := by
  rw [Bool.eq_iff_iff, String.isEmpty_iff, String.isEmpty_iff, ← String.toList_inj, ← String.toList_inj]
  unfold docstring
  rw [String.toList_ofList]
  cases description.toList with
  | nil => rfl
  | cons c rest => rw [List.flatMap_cons]; split <;> simp

theorem interleaves_lineComment (description : String) :
    Interleaves (linesIf (docstring description) ["# " ++ docstring description]) []
      (commentIf description (lineComment description)) := by
  refine interleaves_linesIf ?_ (isEmpty_docstring description)
  rw [← String.toList_inj]
  simp [Comment.text, lineComment]

theorem interleaves_docComment (description : String) :
    Interleaves
      (linesIf (docstring description) ["    \"\"\"" ++ docstring description ++ "\"\"\"", ""]) []
      (commentIf description (docComment description)) := by
  refine interleaves_linesIf ?_ (isEmpty_docstring description)
  rw [← String.toList_inj]
  simp [Comment.text, docComment]

theorem needsQuotes_silent (fields : List Field) :
    needsQuotes (fields.map Field.silent) = needsQuotes fields := by
  induction fields with
  | nil => rfl
  | cons field rest ih =>
    rw [List.map_cons, needsQuotes, needsQuotes, ih]
    rfl

/-- A typed dictionary is a class, with a docstring behind its first line, or a call behind a comment. -/
theorem exists_dictionaryCode {name description : String} {fields : List Field} {lines : List String}
    (h : dictionaryLines name (docstring description) fields = .ok lines) :
    ∃ code, dictionaryLines name "" (fields.map Field.silent) = .ok code ∧ code ≠ [] ∧
      Interleaves lines code (comments ⟨name, description, .object fields⟩) := by
  obtain ⟨quotes, hquotes, h⟩ := bind_eq_ok h
  have hsilent : needsQuotes (fields.map Field.silent) = .ok quotes := by rw [needsQuotes_silent, hquotes]
  unfold comments isClass dictionaryLines
  simp only [hquotes, hsilent]
  cases quotes with
  | true =>
    cases h
    refine ⟨_, rfl, by simp, ?_⟩
    rw [List.map_map]
    exact (((interleaves_lineComment description).withCode _).withCode _).withCode _
  | false =>
    cases h
    refine ⟨_, rfl, by simp, ?_⟩
    rw [List.map_map]
    exact ((Interleaves.self _).append (interleaves_docComment description)).withCode _

theorem exists_code {declaration : Declaration} {lines : List String} {uses : Uses}
    (h : block declaration = .ok (lines, uses)) :
    ∃ code, block declaration.silent = .ok (code, uses) ∧ code ≠ [] ∧
      Interleaves lines code (comments declaration) := by
  obtain ⟨name, description, shape⟩ := declaration
  cases shape with
  | object fields =>
    obtain ⟨own, hown, h⟩ := bind_eq_ok h
    cases h
    obtain ⟨code, hcode, hne, hlines⟩ := exists_dictionaryCode hown
    refine ⟨code, (ok_bind hcode).trans ?_, hne, hlines⟩
    change Except.ok (code, Uses.mk ("TypedDict" :: (fields.map Field.silent).flatMap fieldNames) false) = _
    rw [List.flatMap_map]
    rfl
  | enum values =>
    cases h
    exact ⟨_, rfl, by simp [enumLines],
      ((Interleaves.self _).append (interleaves_docComment description)).withCode _⟩
  | _ =>
    cases h
    exact ⟨_, rfl, by simp [aliasLines], (interleaves_lineComment description).withCode _⟩

theorem exists_commentedBlocks {catalog : Catalog} {blocks : List (List String × Uses)}
    (h : catalog.mapM block = .ok blocks) :
    ∃ bare, catalog.silent.mapM block = .ok bare ∧ bare.map Prod.snd = blocks.map Prod.snd ∧
      CommentedBlocks (blocks.map Prod.fst) (bare.map Prod.fst) (catalog.flatMap comments) := by
  refine exists_mapM_map (motive := fun catalog blocks bare => bare.map Prod.snd = blocks.map Prod.snd ∧
    CommentedBlocks (blocks.map Prod.fst) (bare.map Prod.fst) (catalog.flatMap comments)) ⟨rfl, .nil⟩ ?_ h
  rintro declaration rest ⟨lines, uses⟩ others bare hlines ⟨huses, hrest⟩
  obtain ⟨code, hcode, hne, hblock⟩ := exists_code hlines
  exact ⟨(code, uses), hcode, congrArg (uses :: ·) huses, .cons hblock hne hrest⟩

end Python

/-! ### Sources with their comments -/

/-- The comments that the source of a declaration has in a language. -/
def comments : Language → Declaration → List Comment
  | .typeScript => TypeScript.comments
  | .go => Go.comments
  | .rust => Rust.comments
  | .python => Python.comments

/-- **Descriptions only add comments.** A source is that of the catalog without descriptions, with the
comments for the declarations on lines of their own, in order. -/
theorem commented_of_render {language : Language} {catalog : Catalog} {source : String}
    (h : catalog.render language = .ok source) :
    ∃ bare, catalog.silent.render language = .ok bare ∧
      Commented source bare (catalog.flatMap (comments language)) := by
  cases language with
  | typeScript =>
    obtain ⟨blocks, hblocks, h⟩ := bind_eq_ok h
    cases h
    obtain ⟨bare, hbare, hcommented⟩ := exists_commentedBlocks hblocks fun _ _ => TypeScript.exists_code
    exact ⟨_, ok_bind hbare, (hcommented.code (List.cons_ne_nil _ _)).assemble⟩
  | go =>
    obtain ⟨blocks, hblocks, h⟩ := bind_eq_ok h
    cases h
    obtain ⟨bare, hbare, hcommented⟩ := Go.exists_commentedBlocks hblocks
    exact ⟨_, ok_bind hbare, hcommented.assemble⟩
  | rust =>
    obtain ⟨blocks, hblocks, h⟩ := bind_eq_ok h
    cases h
    obtain ⟨bare, hbare, hcommented⟩ := exists_commentedBlocks hblocks fun _ _ => Rust.exists_code
    exact ⟨_, ok_bind hbare, (hcommented.code (List.cons_ne_nil _ _)).assemble⟩
  | python =>
    obtain ⟨blocks, hblocks, h⟩ := bind_eq_ok h
    cases h
    obtain ⟨bare, hbare, huses, hcommented⟩ := Python.exists_commentedBlocks hblocks
    -- the header depends on the uses of the blocks, and these say nothing about descriptions
    have hfold : bare.foldl (fun uses block => uses.join block.2) {} =
        blocks.foldl (fun uses block => uses.join block.2) ({} : Python.Uses) := by
      rw [← List.foldl_map (f := Prod.snd) (g := Python.Uses.join), huses, List.foldl_map]
    have hsilent : catalog.silent.render .python = .ok (assemble (Python.header
        (bare.foldl (fun uses block => uses.join block.2) {}) :: bare.map Prod.fst)) := ok_bind hbare
    rw [hfold] at hsilent
    exact ⟨_, hsilent, (hcommented.code (List.cons_ne_nil _ _)).assemble⟩

/-! ### Where a comment ends -/

/-- What stands in front of the first mark that closes a block comment, and what stands behind the mark. -/
def upToClosing? : List Char → Option (List Char × List Char)
  | [] => none
  | c :: rest =>
    if c = '*' ∧ rest.head? = some '/' then some ([], rest.tail)
    else (upToClosing? rest).map (Prod.map (c :: ·) id)

/-- **A block comment that holds what stands in it**: the first closing mark behind its opening mark is its own,
and no slash turns the last star of the opening mark into another one. -/
structure IsBlockComment (comment : Comment) : Prop where
  opening : comment.opening = "/**"
  closing : comment.closing = "*/"
  first : ∀ rest,
    upToClosing? ((comment.body ++ comment.closing).toList ++ rest) = some (comment.body.toList, rest)
  apart : comment.body.toList.head? ≠ some '/'

/-- **A line comment that holds what stands in it**: it goes on to the end of its line, and none of the
characters that may end a line is in it. -/
structure IsLineComment (mark : String) (ends : List Char) (comment : Comment) : Prop where
  opening : comment.opening = mark
  closing : comment.closing = ""
  inside : ∀ c ∈ ends, c ∉ comment.body.toList

/-- **A docstring that holds a description**: what it opens is one literal, and this denotes the description. If
the description has the character of number zero, it is no literal at all. -/
structure IsDocstring (description : String) (comment : Comment) : Prop where
  opening : comment.opening = "\"\"\""
  reads : '\x00' ∉ description.toList → ∀ rest,
    Text.pythonTripleString? ((comment.opening ++ comment.body ++ comment.closing).toList ++ rest) =
      some (description, '\n' :: rest)
  refused : '\x00' ∈ description.toList → ∀ rest,
    Text.pythonTripleString? ((comment.opening ++ comment.body ++ comment.closing).toList ++ rest) = none

theorem forall_mem_commentIf {p : Comment → Prop} {description : String} {comment : Comment} (h : p comment) :
    ∀ other ∈ commentIf description comment, p other := by
  unfold commentIf
  split
  · exact nofun
  · exact List.forall_mem_singleton.2 h

namespace TypeScript

theorem upToClosing?_cons {c : Char} {rest : List Char} (h : c ≠ '*' ∨ rest.head? ≠ some '/') :
    upToClosing? (c :: rest) = (upToClosing? rest).map (Prod.map (c :: ·) id) := by
  rw [upToClosing?, if_neg]
  rintro ⟨hc, hrest⟩
  exact h.elim (absurd hc) (absurd hrest)

theorem head?_cons_ne {c : Char} (hc : c ≠ '/') (rest : List Char) : (c :: rest).head? ≠ some '/' :=
  fun h => hc (Option.some.inj h)

/-- **No shielded text closes a comment**, not even together with what stands behind it. -/
theorem upToClosing?_shieldComment (text : List Char) {rest : List Char} (hrest : rest.head? ≠ some '/') :
    upToClosing? (Text.shieldComment text ++ rest) =
      (upToClosing? rest).map (Prod.map (Text.shieldComment text ++ ·) id) := by
  fun_induction Text.shieldComment text with
  | case1 =>
    rw [List.nil_append]
    cases upToClosing? rest <;> rfl
  | case2 others ih =>
    -- the backslash stands between the star and the slash
    simp only [List.cons_append]
    rw [upToClosing?_cons (.inr (head?_cons_ne (by decide) _)), upToClosing?_cons (.inl (by decide)),
      upToClosing?_cons (.inl (by decide)), ih, Option.map_map, Option.map_map, Option.map_map]
    rfl
  | case3 c others hne ih =>
    have hhead : c ≠ '*' ∨ (Text.shieldComment others ++ rest).head? ≠ some '/' := by
      rw [List.head?_append, head?_shieldComment]
      cases others with
      | nil => exact .inr hrest
      | cons d more =>
        by_cases hc : c = '*'
        · exact .inr fun hd => hne more hc (by rw [Option.some.inj hd])
        · exact .inl hc
    rw [List.cons_append, upToClosing?_cons hhead, ih, Option.map_map]
    rfl

/-- A blank in front of the closing mark is in the comment. -/
theorem upToClosing?_blank (rest : List Char) :
    upToClosing? (' ' :: '*' :: '/' :: rest) = some ([' '], rest) := by
  rw [upToClosing?_cons (.inl (by decide)), upToClosing?, if_pos ⟨rfl, rfl⟩]
  rfl

theorem isBlockComment_typeComment (description : String) : IsBlockComment (typeComment description) where
  opening := rfl
  closing := rfl
  first rest := by
    have hback : upToClosing? ('\n' :: ' ' :: '*' :: '/' :: rest) = some (['\n', ' '], rest) := by
      rw [upToClosing?_cons (.inl (by decide)), upToClosing?_blank]
      rfl
    have hchars : ((typeComment description).body ++ (typeComment description).closing).toList ++ rest =
        '\n' :: ' ' :: '*' :: ' ' ::
          (Text.shieldComment description.toList ++ '\n' :: ' ' :: '*' :: '/' :: rest) := by
      simp [typeComment, Text.typeScriptComment]
    rw [hchars, upToClosing?_cons (.inl (by decide)), upToClosing?_cons (.inl (by decide)),
      upToClosing?_cons (.inr (head?_cons_ne (by decide) _)), upToClosing?_cons (.inl (by decide)),
      upToClosing?_shieldComment _ (head?_cons_ne (by decide) _), hback]
    simp [typeComment, Text.typeScriptComment]
  apart := by simp [typeComment]

theorem isBlockComment_fieldComment (description : String) : IsBlockComment (fieldComment description) where
  opening := rfl
  closing := rfl
  first rest := by
    have hchars : ((fieldComment description).body ++ (fieldComment description).closing).toList ++ rest =
        ' ' :: (Text.shieldComment description.toList ++ ' ' :: '*' :: '/' :: rest) := by
      simp [fieldComment, Text.typeScriptComment]
    rw [hchars, upToClosing?_cons (.inl (by decide)),
      upToClosing?_shieldComment _ (head?_cons_ne (by decide) _), upToClosing?_blank]
    simp [fieldComment, Text.typeScriptComment]
  apart := by simp [fieldComment]

theorem isBlockComment_of_mem_comments {declaration : Declaration} {comment : Comment}
    (h : comment ∈ comments declaration) : IsBlockComment comment := by
  rcases List.mem_append.1 h with h | h
  · exact forall_mem_commentIf (isBlockComment_typeComment _) comment h
  · obtain ⟨field, -, h⟩ := List.mem_flatMap.1 h
    exact forall_mem_commentIf (isBlockComment_fieldComment _) comment h

end TypeScript

/-- What is said about a property is one line. -/
theorem unbroken_of_mem_fields {declaration : Declaration} (h : declaration.Worded) {field : Field}
    (hfield : field ∈ declaration.shape.fields) : Text.Unbroken field.description := by
  cases hshape : declaration.shape with
  | object fields =>
    rw [hshape] at hfield
    exact (h.fields fields hshape).unbroken field hfield
  | _ =>
    rw [hshape] at hfield
    cases hfield

/-- No line ends in a description. -/
theorem not_mem_of_unbroken {description : String} (h : Text.Unbroken description) :
    ∀ c ∈ ['\n', '\r'], c ∉ (" " ++ description).toList := by
  intro c hc hmem
  have hblank : Text.isBlank c = true ∧ c ≠ ' ' := by
    rcases List.mem_cons.1 hc with rfl | hc
    · decide
    · obtain rfl := List.mem_singleton.1 hc
      decide
  rw [String.toList_append] at hmem
  rcases List.mem_append.1 hmem with hmem | hmem
  · exact hblank.2 (List.mem_singleton.1 hmem)
  · exact h.not_mem hblank.1 hblank.2 hmem

namespace Go

theorem isLineComment_of_mem_comments {declaration : Declaration} (h : Legible declaration) {comment : Comment}
    (hmem : comment ∈ comments declaration) : IsLineComment "//" ['\n'] comment := by
  rcases List.mem_append.1 hmem with hmem | hmem
  · refine forall_mem_commentIf ⟨rfl, rfl, List.forall_mem_singleton.2 ?_⟩ comment hmem
    have hname : IsLine declaration.name := isLine_of_isPlain (Name.isPlain_of_legal h.name)
    exact ((IsLine.append (by decide) hname).append (by decide)).append
      (isLine_of_unbroken h.worded.unbroken)
  · obtain ⟨field, hfield, hmem⟩ := List.mem_flatMap.1 hmem
    refine forall_mem_commentIf ⟨rfl, rfl, List.forall_mem_singleton.2 ?_⟩ comment hmem
    exact not_mem_of_unbroken (unbroken_of_mem_fields h.worded hfield) _ List.mem_cons_self

end Go

namespace Rust

theorem isLineComment_of_mem_comments {declaration : Declaration} (h : declaration.Worded) {comment : Comment}
    (hmem : comment ∈ comments declaration) : IsLineComment "///" ['\n', '\r'] comment := by
  rcases List.mem_append.1 hmem with hmem | hmem
  · exact forall_mem_commentIf ⟨rfl, rfl, not_mem_of_unbroken h.unbroken⟩ comment hmem
  · obtain ⟨field, hfield, hmem⟩ := List.mem_flatMap.1 hmem
    have hunbroken := unbroken_of_mem_fields h hfield
    exact forall_mem_commentIf ⟨rfl, rfl, not_mem_of_unbroken hunbroken⟩ comment hmem

end Rust

namespace Python

/-- What is in a docstring is in its description, but for the backslashes of escapes. -/
theorem mem_docstring {description : String} {c : Char} (h : c ∈ (docstring description).toList) :
    c = '\\' ∨ c ∈ description.toList := by
  unfold docstring at h
  rw [String.toList_ofList] at h
  obtain ⟨d, hd, h⟩ := List.mem_flatMap.1 h
  split at h
  · simp only [List.mem_cons, List.not_mem_nil, or_false] at h
    rcases h with rfl | rfl
    · exact .inl rfl
    · exact .inr hd
  · exact .inr (List.mem_singleton.1 h ▸ hd)

/-- Everything in a description is in its docstring. -/
theorem mem_docstring_of_mem {description : String} {c : Char} (h : c ∈ description.toList) :
    c ∈ (docstring description).toList := by
  unfold docstring
  rw [String.toList_ofList]
  refine List.mem_flatMap.2 ⟨c, h, ?_⟩
  split <;> simp

/-- A description is shown in a comment, whatever is in it. -/
theorem exists_comment {declaration : Declaration} {c : Char} (h : c ∈ declaration.description.toList) :
    ∃ comment ∈ comments declaration, c ∈ comment.body.toList := by
  have hne : declaration.description.isEmpty = false := by
    rw [String.isEmpty_eq_false_iff]
    intro heq
    rw [heq] at h
    cases h
  unfold comments commentIf
  rw [hne]
  refine ⟨_, List.mem_cons_self, ?_⟩
  split
  · exact mem_docstring_of_mem h
  · rw [lineComment, String.toList_append]
    exact List.mem_append_right _ (mem_docstring_of_mem h)

theorem isLineComment_lineComment {description : String} (h : Text.Unbroken description) :
    IsLineComment "#" ['\n', '\r'] (lineComment description) where
  opening := rfl
  closing := rfl
  inside c hc hmem := by
    have hend : c ≠ '\\' := by
      rintro rfl
      exact absurd hc (by decide)
    refine not_mem_of_unbroken h c hc ?_
    rw [String.toList_append]
    rcases List.mem_append.1 (String.toList_append ▸ hmem) with hmem | hmem
    · exact List.mem_append_left _ hmem
    · exact List.mem_append_right _ ((mem_docstring hmem).resolve_left hend)

/-- **A docstring is read as its description** up to the closing marks, but for a character that no source
holds. -/
theorem tripleQuoted?_docstring {description : String} (hreturn : '\r' ∉ description.toList)
    (rest : List Char) :
    Text.tripleQuoted? ((docstring description).toList ++ '"' :: '"' :: '"' :: rest) =
      if '\x00' ∈ description.toList then none else some (description.toList, rest) := by
  unfold docstring
  rw [String.toList_ofList]
  generalize description.toList = chars at hreturn ⊢
  induction chars with
  | nil => exact Text.tripleQuoted?_marks rest
  | cons c others ih =>
    rw [List.mem_cons, not_or] at hreturn
    have hothers := ih hreturn.2
    rw [List.flatMap_cons, List.append_assoc]
    by_cases hescape : c = '"' ∨ c = '\\'
    · have hzero : c ≠ '\x00' := by rcases hescape with rfl | rfl <;> decide
      rw [if_pos (by simpa [or_comm] using hescape), List.cons_append, List.singleton_append,
        Text.tripleQuoted?_escape hescape, hothers]
      simp only [List.mem_cons, hzero.symm, false_or]
      split <;> rfl
    · obtain ⟨hquote, hback⟩ := not_or.1 hescape
      rw [if_neg (by simp [hquote, hback]), List.singleton_append]
      by_cases hzero : c = '\x00'
      · subst hzero
        rw [Text.tripleQuoted?_zero, if_pos List.mem_cons_self]
      · rw [Text.tripleQuoted?_plain hquote hback hzero (Ne.symm hreturn.1), hothers]
        simp only [List.mem_cons, Ne.symm hzero, false_or]
        split <;> rfl

theorem isDocstring_docComment {description : String} (h : Text.Unbroken description) :
    IsDocstring description (docComment description) := by
  have hread (rest : List Char) :
      Text.pythonTripleString? (((docComment description).opening ++ (docComment description).body ++
        (docComment description).closing).toList ++ rest) =
      if '\x00' ∈ description.toList then none else some (description, '\n' :: rest) := by
    have hchars : ((docComment description).opening ++ (docComment description).body ++
        (docComment description).closing).toList ++ rest =
        '"' :: '"' :: '"' :: ((docstring description).toList ++ '"' :: '"' :: '"' :: '\n' :: rest) := by
      simp [docComment]
    rw [hchars, Text.pythonTripleString?_marks, tripleQuoted?_docstring (h.not_mem (by decide) (by decide))]
    split <;> simp
  exact ⟨rfl, fun hzero rest => by rw [hread, if_neg hzero], fun hzero rest => by rw [hread, if_pos hzero]⟩

end Python

/-! ### Descriptions stay inside of their comments -/

theorem mem_of_commented {source bare : String} {comments : List Comment} (h : Commented source bare comments)
    {comment : Comment} (hmem : comment ∈ comments) {c : Char} (hc : c ∈ comment.body.toList) :
    c ∈ source.toList := by
  obtain ⟨lines, code, hsource, -, hlines⟩ := h
  rw [hsource]
  refine hlines.mem_unlines hmem ?_
  simp [Comment.text, hc]

/-- A module with a description that no source can hold is not written. -/
theorem check_of_zero {catalog : Catalog} {source : String}
    (hsource : catalog.render .python = .ok source) {declaration : Declaration}
    (hd : declaration ∈ catalog) (hzero : '\x00' ∈ declaration.description.toList) :
    SourceCheck.check source = .error (.file (.crash .badValue)) := by
  obtain ⟨bare, -, hcommented⟩ := commented_of_render hsource
  obtain ⟨comment, hcomment, hbody⟩ := Python.exists_comment hzero
  have hmem : '\x00' ∈ source.toList :=
    mem_of_commented hcommented (List.mem_flatMap.2 ⟨declaration, hd, hcomment⟩) hbody
  unfold SourceCheck.check
  rw [if_pos (by simpa using hmem)]

/-- **Descriptions stay inside of their comments.** Each declaration of an analysis says what a schema says that
was met under its name, in words with single spaces between them. The source in any language is the one
without descriptions, with their comments on lines of their own. A block comment is closed by its own mark
first; no line comment has the end of a line in it; and a docstring is one literal that denotes the
description, unless this has the character of number zero, for which the whole module is refused. -/
theorem comments_of_render {schemas : List Json} {catalog : Catalog}
    (h : Analysis.analyze schemas = .ok catalog) :
    (∃ log state, Analysis.Defines (Analysis.agenda schemas) {} log state ∧ state.declarations = catalog ∧
      ∀ declaration ∈ catalog, Analysis.Described log declaration) ∧
    (∀ language source, catalog.render language = .ok source →
      ∃ bare, catalog.silent.render language = .ok bare ∧
        Commented source bare (catalog.flatMap (comments language))) ∧
    (∀ declaration ∈ catalog,
      (∀ comment ∈ comments .typeScript declaration, IsBlockComment comment) ∧
      (∀ comment ∈ comments .go declaration, IsLineComment "//" ['\n'] comment) ∧
      (∀ comment ∈ comments .rust declaration, IsLineComment "///" ['\n', '\r'] comment) ∧
      ∀ comment ∈ comments .python declaration,
        if Python.isClass declaration then IsDocstring declaration.description comment
        else IsLineComment "#" ['\n', '\r'] comment) ∧
    ∀ source, catalog.render .python = .ok source →
      (∃ declaration ∈ catalog, '\x00' ∈ declaration.description.toList) →
      SourceCheck.check source = .error (.file (.crash .badValue)) := by
  obtain ⟨-, hlegible⟩ := legible_of_analyze h
  refine ⟨Analysis.described_of_analyze h, fun language source => commented_of_render,
    fun declaration hd => ?_, ?_⟩
  · have hworded := (hlegible declaration hd).worded
    refine ⟨fun comment => TypeScript.isBlockComment_of_mem_comments,
      fun comment => Go.isLineComment_of_mem_comments (hlegible declaration hd),
      fun comment => Rust.isLineComment_of_mem_comments hworded, ?_⟩
    refine forall_mem_commentIf ?_
    split
    · exact Python.isDocstring_docComment hworded.unbroken
    · exact Python.isLineComment_lineComment hworded.unbroken
  · rintro source hsource ⟨declaration, hd, hzero⟩
    exact check_of_zero hsource hd hzero

/-! ### A description that no docstring can hold -/

section Wild

open Analysis

/-- `{"title": "Wild", "description": "*/ \"\"\"\\\n\u0000", "enum": ["x"]}`. -/
def wildMembers : Members :=
  [("title", .str "Wild"), ("description", .str "*/ \"\"\"\\\n\x00"), ("enum", .arr [.str "x"])]

/-- Its only declaration. -/
def wild : Declaration := ⟨"Wild", "*/ \"\"\"\\ \x00", .enum [.str "x"]⟩

/-- What is rendered in TypeScript. -/
def wildScript : String :=
  "// Code generated by json_schema_release. DO NOT EDIT.\n\n/**\n * *\\/ \"\"\"\\ \x00\n */\n" ++
    "export type Wild = \"x\";\n"

/-- What is rendered in Python. -/
def wildModule : String :=
  "# Code generated by json_schema_release. DO NOT EDIT.\nfrom enum import Enum\n\nclass Wild(Enum):\n" ++
    "    \"\"\"*/ \\\"\\\"\\\"\\\\ \x00\"\"\"\n\n    X = 'x'\n"

theorem analyze_wild : analyze [.obj wildMembers] = .ok [wild] := by
  have hdescription : descriptionOf (.obj wildMembers) = wild.description := by decide +kernel
  have hfresh : Name.fresh [] "Wild" = "Wild" := by decide +kernel
  have hbase : baseName (.str "Wild") (.str "Wild") = .ok "Wild" := by
    rw [baseName_str, if_neg (by decide +kernel)]
    exact congrArg Except.ok (by decide +kernel)
  -- which text the structure has does not matter, since nothing is known yet
  obtain ⟨key, hkey⟩ : ∃ key, Schema.structureText ⟨wildMembers, none⟩ = .ok key := ⟨_, rfl⟩
  have hleave (state : State) : leave ⟨wildMembers, none⟩ "Wild" (.enum [.str "x"]) state =
      .ok (.named "Wild" false, state.finish wild) := by
    change Except.ok (TypeRef.named "Wild" false,
      state.finish ⟨"Wild", descriptionOf (.obj wildMembers), .enum [.str "x"]⟩) = _
    rw [hdescription]
    rfl
  have hroot : typeRef (.obj wildMembers) (.str "Wild") {} =
      .ok (.named "Wild" false, ⟨[wild], ["Wild"], [(key, "Wild")], []⟩) := by
    rw [typeRef, schemaRef_enum (fun ref h => by cases h) rfl, bind_of_ok (enter_of_base hkey rfl hbase)]
    change leave ⟨wildMembers, none⟩ (Name.fresh [] "Wild") (.enum [.str "x"]) _ = _
    rw [hfresh, hleave]
    change Except.ok (_, State.mk _ [Name.fresh [] "Wild"] [(key, Name.fresh [] "Wild")] _) = _
    rw [hfresh]
    rfl
  have hdefine : define (.obj wildMembers) (.str "Wild") {} =
      .ok ((), ⟨[wild], ["Wild"], [(key, "Wild")], []⟩) := by
    unfold define
    rw [bind_of_ok hroot]
    rfl
  unfold analyze
  change ((define (.obj wildMembers) (.str "Wild") >>= fun _ => pure ()) >>= fun _ =>
    defineRest [.obj wildMembers]) {} >>= _ = _
  rw [bind_of_ok (bind_of_ok hdefine)]
  rfl

/-- The closing mark is broken up in the comment of TypeScript; the docstring is no literal, and the module is
not written. -/
theorem comments_of_render_wild :
    analyze [.obj wildMembers] = .ok [wild] ∧
    Catalog.render [wild] .typeScript = .ok wildScript ∧ Catalog.render [wild] .python = .ok wildModule ∧
    (∀ rest, upToClosing? ("\n * *\\/ \"\"\"\\ \x00\n */".toList ++ rest) =
      some ("\n * *\\/ \"\"\"\\ \x00\n ".toList, rest)) ∧
    (∀ rest, Text.pythonTripleString?
      ("\"\"\"*/ \\\"\\\"\\\"\\\\ \x00\"\"\"\n".toList ++ rest) = none) ∧
    SourceCheck.check wildModule = .error (.file (.crash .badValue)) := by
  have hscript : Catalog.render [wild] .typeScript = .ok wildScript :=
    Json.eq_ok_of_toOption (by decide +kernel)
  have hmodule : Catalog.render [wild] .python = .ok wildModule :=
    Json.eq_ok_of_toOption (by decide +kernel)
  have hzero : '\x00' ∈ wild.description.toList := by decide +kernel
  obtain ⟨-, -, hcomments, hrefused⟩ := comments_of_render analyze_wild
  obtain ⟨hblock, -, -, hdocstring⟩ := hcomments wild List.mem_cons_self
  refine ⟨analyze_wild, hscript, hmodule, ?_, ?_, hrefused _ hmodule ⟨wild, List.mem_cons_self, hzero⟩⟩
  · exact fun rest => (hblock (TypeScript.typeComment wild.description) List.mem_cons_self).first rest
  · exact fun rest => (hdocstring (Python.docComment wild.description) List.mem_cons_self).refused hzero rest

end Wild

end Source

end SchemaPress
