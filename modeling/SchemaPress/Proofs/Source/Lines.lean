import SchemaPress.Proofs.Analysis.Reservation
import SchemaPress.Proofs.Analysis.Wording
import SchemaPress.Proofs.Name.Characters
import SchemaPress.Proofs.Text.Pieces
import SchemaPress.Source.Basic

/-!
# Lines of sources

A source is put together from blocks of lines, and as long as no name in a line has a line break, exactly
these lines can be read from it: those of each block, and an empty one behind them (`pieces_assemble`). The
declarations of an analysis have no line breaks in them, apart from names of properties and values
(`legible_of_analyze`).
-/

namespace SchemaPress.Source

/-- A text on one line. -/
def IsLine (text : String) : Prop :=
  '\n' ∉ text.toList

instance (text : String) : Decidable (IsLine text) :=
  inferInstanceAs (Decidable (¬ _))

theorem IsLine.append {text other : String} (h : IsLine text) (h' : IsLine other) :
    IsLine (text ++ other) := by
  unfold IsLine
  rw [String.toList_append, List.mem_append, not_or]
  exact ⟨h, h'⟩

theorem isLine_of_isPlain {name : String} (h : Name.IsPlain name.toList) : IsLine name :=
  h.not_mem (by decide) (by decide)

/-- Only lines that are wanted are there. -/
theorem forall_mem_linesIf {p : String → Prop} {shown : String} {lines : List String}
    (h : ∀ line ∈ lines, p line) : ∀ line ∈ linesIf shown lines, p line := by
  unfold linesIf
  split
  · exact nofun
  · exact h

/-- Lines that are joined, with more behind them. -/
theorem pieces_lines {lines : List (List Char)} (hne : lines ≠ []) (h : ∀ line ∈ lines, '\n' ∉ line)
    (rest : List Char) :
    Text.pieces '\n' (['\n'].intercalate lines ++ '\n' :: rest) = lines ++ Text.pieces '\n' rest := by
  induction lines with
  | nil => exact absurd rfl hne
  | cons line others ih =>
    cases others with
    | nil =>
      rw [List.intercalate_singleton]
      exact Text.pieces_append (h line List.mem_cons_self) rest
    | cons next others =>
      have hothers := ih nofun fun other hother => h other (List.mem_cons_of_mem _ hother)
      rw [List.intercalate_cons_cons, List.append_assoc, List.append_assoc, List.singleton_append,
        Text.pieces_append (h line List.mem_cons_self), hothers]
      rfl

/-- Blocks of lines, with an empty line between each two. -/
theorem pieces_blocks {blocks : List (List (List Char))} (hne : blocks ≠ [])
    (h : ∀ block ∈ blocks, block ≠ [] ∧ ∀ line ∈ block, '\n' ∉ line) :
    Text.pieces '\n' (['\n', '\n'].intercalate (blocks.map (['\n'].intercalate ·)) ++ ['\n']) =
      blocks.flatMap (· ++ [[]]) := by
  induction blocks with
  | nil => exact absurd rfl hne
  | cons block others ih =>
    obtain ⟨hblock, hlines⟩ := h block List.mem_cons_self
    cases others with
    | nil =>
      rw [List.map_singleton, List.intercalate_singleton, pieces_lines hblock hlines]
      simp [Text.pieces]
    | cons next others =>
      have hothers := ih (List.cons_ne_nil _ _) fun other hother => h other (List.mem_cons_of_mem _ hother)
      -- the first line break ends the last line of the block, and the second one the empty line
      have hjoin :
          ['\n', '\n'].intercalate ((block :: next :: others).map (['\n'].intercalate ·)) ++ ['\n'] =
          ['\n'].intercalate block ++ '\n' :: '\n' ::
            (['\n', '\n'].intercalate ((next :: others).map (['\n'].intercalate ·)) ++ ['\n']) := by
        simp only [List.map_cons, List.intercalate_cons_cons, List.append_assoc, List.cons_append,
          List.nil_append]
      rw [hjoin, pieces_lines hblock hlines, Text.pieces_cons_mark, hothers]
      simp

/-- A source is its blocks with two line breaks between each two of them, and one at the end. -/
theorem toList_assemble {blocks : List (List String)} (h : ∀ block ∈ blocks, block ≠ []) :
    (assemble blocks).toList =
      ['\n', '\n'].intercalate ((blocks.map (·.map String.toList)).map (['\n'].intercalate ·)) ++ ['\n'] := by
  have hall : blocks.filter (! ·.isEmpty) = blocks :=
    List.filter_eq_self.2 fun block hblock => by simpa using h block hblock
  have hjoined (block : List String) :
      ("\n".intercalate block).toList = ['\n'].intercalate (block.map String.toList) :=
    String.toList_intercalate ..
  unfold assemble
  rw [hall, String.toList_append, String.toList_intercalate, List.map_map, List.map_map]
  simp only [Function.comp_def, hjoined]
  rfl

/-- **The lines of a source** are those of its blocks, with an empty one behind each block. -/
theorem pieces_assemble {blocks : List (List String)} (hne : blocks ≠ [])
    (h : ∀ block ∈ blocks, block ≠ [] ∧ ∀ line ∈ block, IsLine line) :
    Text.pieces '\n' (assemble blocks).toList = (blocks.flatMap (· ++ [""])).map String.toList := by
  rw [toList_assemble fun block hblock => (h block hblock).1, pieces_blocks (by simpa using hne)]
  · simp [List.flatMap_map, List.map_flatMap]
  · intro block hblock
    obtain ⟨lines, hlines, rfl⟩ := List.mem_map.1 hblock
    obtain ⟨hsome, hline⟩ := h lines hlines
    refine ⟨by simpa using hsome, fun line hmem => ?_⟩
    obtain ⟨text, htext, rfl⟩ := List.mem_map.1 hmem
    exact hline text htext

/-! ### Declarations on lines -/

/-- What is in the first of two lists that are related has a partner in the second. -/
theorem exists_of_forall₂ {α β : Type} {R : α → β → Prop} {as : List α} {bs : List β}
    (h : List.Forall₂ R as bs) : ∀ a ∈ as, ∃ b ∈ bs, R a b := by
  induction h with
  | nil => exact nofun
  | cons hfirst _ ih =>
    refine List.forall_mem_cons.2 ⟨⟨_, List.mem_cons_self, hfirst⟩, fun a ha => ?_⟩
    obtain ⟨b, hb, hrelated⟩ := ih a ha
    exact ⟨b, List.mem_cons_of_mem _ hb, hrelated⟩

theorem isLine_of_unbroken {text : String} (h : Text.Unbroken text) : IsLine text :=
  h.not_mem (by decide) (by decide)

/-- **What a declaration needs to be read by lines**: its texts are on one line, and its names are legal. -/
structure Legible (declaration : Declaration) : Prop where
  name : Name.Legal declaration.name
  uses : ∀ use ∈ declaration.shape.types, Analysis.LegalUse use
  worded : declaration.Worded

/-- The declarations of an analysis can be read by lines. -/
theorem legible_of_analyze {schemas : List Json} {catalog : Catalog}
    (h : Analysis.analyze schemas = .ok catalog) :
    (catalog.map Declaration.name).Nodup ∧ ∀ declaration ∈ catalog, Legible declaration := by
  have hworded := Analysis.worded_of_analyze h
  obtain ⟨log, state, hdefines, rfl⟩ := Analysis.defines_of_analyze h
  obtain ⟨haccounted, hbuilding⟩ := hdefines.accounted .nil
  have hnames := haccounted.names
  rw [hbuilding] at hnames
  refine ⟨hnames.nodup_iff.1 haccounted.nodup, fun declaration hd =>
    ⟨?_, haccounted.uses _ hd, hworded _ hd⟩⟩
  exact haccounted.legal _ (hnames.mem_iff.2 (List.mem_map_of_mem hd))

end SchemaPress.Source
