import SchemaPress.Text.Basic

/-!
# Digits and pieces of a text

The digits of ASCII are among those of all scripts, with the values that they have there
(`decimalValue?_of_isDigit`).

Texts without the mark that are joined by it are the pieces of the result (`pieces_intercalate`). What
stands in front of the first mark is decided by what is in front of any mark (`cutAt_append`).
-/

namespace SchemaPress.Text

/-! ### Digits of ASCII -/

theorem decimalValue?_of_isDigit {c : Char} (h : c.isDigit = true) :
    decimalValue? c = some (c.toNat - '0'.toNat) := by
  have hrange : 0x30 ≤ c.toNat ∧ c.toNat < 0x30 + 10 := by
    simp only [Char.isDigit, Bool.and_eq_true, decide_eq_true_eq, UInt32.le_iff_toNat_le,
      ge_iff_le] at h
    have hzero : '0'.val.toNat = 48 := rfl
    have hnine : '9'.val.toNat = 57 := rfl
    have hcode : c.toNat = c.val.toNat := rfl
    omega
  unfold decimalValue? decimalZeros
  rw [List.find?_cons_of_pos (by simpa using hrange)]
  rfl

/-- The digits of ASCII are digits. -/
theorem isDigit_of_isDigit {c : Char} (h : c.isDigit = true) : isDigit c = true := by
  rw [isDigit, decimalValue?_of_isDigit h]
  rfl

/-! ### Pieces -/

variable {mark : Char}

theorem pieces_ne_nil (s : List Char) : pieces mark s ≠ [] := by
  induction s with
  | nil => exact nofun
  | cons c rest ih =>
    rw [pieces]
    cases hpieces : pieces mark rest with
    | nil => exact absurd hpieces ih
    | cons piece others => simp only; split <;> exact nofun

theorem pieces_cons_mark (rest : List Char) :
    pieces mark (mark :: rest) = [] :: pieces mark rest := by
  rw [pieces]
  cases hpieces : pieces mark rest with
  | nil => exact absurd hpieces (pieces_ne_nil rest)
  | cons piece others => simp

theorem pieces_cons_ne {c : Char} (hc : c ≠ mark) {rest piece : List Char}
    {others : List (List Char)}
    (h : pieces mark rest = piece :: others) :
    pieces mark (c :: rest) = (c :: piece) :: others := by
  rw [pieces, h]
  simp [hc]

/-- No piece has the mark in it. -/
theorem not_mem_of_mem_pieces {s piece : List Char} (h : piece ∈ pieces mark s) : mark ∉ piece := by
  induction s generalizing piece with
  | nil =>
    obtain rfl := List.mem_singleton.1 h
    exact List.not_mem_nil
  | cons c rest ih =>
    cases hpieces : pieces mark rest with
    | nil => exact absurd hpieces (pieces_ne_nil rest)
    | cons first others =>
      rw [hpieces] at ih
      -- a mark opens a new piece, any other character goes into the first one
      by_cases hc : c = mark
      · subst hc
        rw [pieces_cons_mark, hpieces] at h
        rcases List.mem_cons.1 h with rfl | h
        · exact List.not_mem_nil
        · exact ih h
      · rw [pieces_cons_ne hc hpieces] at h
        rcases List.mem_cons.1 h with rfl | h
        · intro hmem
          rcases List.mem_cons.1 hmem with heq | hmem
          · exact hc heq.symm
          · exact ih List.mem_cons_self hmem
        · exact ih (List.mem_cons_of_mem _ h)

/-- The characters of a piece are those of the text. -/
theorem subset_of_mem_pieces {s piece : List Char} (h : piece ∈ pieces mark s) : piece ⊆ s := by
  induction s generalizing piece with
  | nil =>
    obtain rfl := List.mem_singleton.1 h
    exact List.Subset.refl _
  | cons c rest ih =>
    cases hpieces : pieces mark rest with
    | nil => exact absurd hpieces (pieces_ne_nil rest)
    | cons first others =>
      rw [hpieces] at ih
      by_cases hc : c = mark
      · subst hc
        rw [pieces_cons_mark, hpieces] at h
        rcases List.mem_cons.1 h with rfl | h
        · exact List.nil_subset _
        · exact List.subset_cons_of_subset c (ih h)
      · rw [pieces_cons_ne hc hpieces] at h
        rcases List.mem_cons.1 h with rfl | h
        · exact List.cons_subset_cons c (ih List.mem_cons_self)
        · exact List.subset_cons_of_subset c (ih (List.mem_cons_of_mem _ h))

/-- What stands in front of the first mark is the first piece. -/
theorem pieces_append {name : List Char} (h : mark ∉ name) (rest : List Char) :
    pieces mark (name ++ mark :: rest) = name :: pieces mark rest := by
  induction name with
  | nil => exact pieces_cons_mark rest
  | cons c name ih =>
    have hc : c ≠ mark := fun heq => h (heq ▸ List.mem_cons_self)
    exact pieces_cons_ne hc (ih fun hmem => h (List.mem_cons_of_mem _ hmem))

theorem pieces_of_not_mem {name : List Char} (h : mark ∉ name) : pieces mark name = [name] := by
  induction name with
  | nil => rfl
  | cons c name ih =>
    have hc : c ≠ mark := fun heq => h (heq ▸ List.mem_cons_self)
    exact pieces_cons_ne hc (ih fun hmem => h (List.mem_cons_of_mem _ hmem))

/-- **Joined texts are taken apart again**, by the number of them. -/
theorem pieces_intercalate : ∀ {names : List (List Char)}, names ≠ [] →
    (∀ name ∈ names, mark ∉ name) → pieces mark ([mark].intercalate names) = names
  | [], hne, _ => absurd rfl hne
  | [name], _, h => by
    rw [List.intercalate_singleton]
    exact pieces_of_not_mem (h name List.mem_cons_self)
  | name :: next :: rest, _, h => by
    have hrest : pieces mark ([mark].intercalate (next :: rest)) = next :: rest :=
      pieces_intercalate nofun fun other hother => h other (List.mem_cons_of_mem _ hother)
    have hjoin : [mark].intercalate (name :: next :: rest) =
        name ++ mark :: [mark].intercalate (next :: rest) := by
      rw [List.intercalate_cons_cons, List.append_assoc]
      rfl
    rw [hjoin, pieces_append (h name List.mem_cons_self), hrest]

/-- **The pieces of a text** joined again are the text. -/
theorem intercalate_pieces (s : List Char) : [mark].intercalate (pieces mark s) = s := by
  induction s with
  | nil => rfl
  | cons c rest ih =>
    cases hpieces : pieces mark rest with
    | nil => exact absurd hpieces (pieces_ne_nil rest)
    | cons piece others =>
      rw [hpieces] at ih
      by_cases hc : c = mark
      · subst hc
        rw [pieces_cons_mark, hpieces, List.intercalate_cons_cons, ih]
        rfl
      · rw [pieces_cons_ne hc hpieces]
        cases others with
        | nil => rw [List.intercalate_singleton] at ih ⊢; rw [ih]
        | cons next others =>
          rw [List.intercalate_cons_cons] at ih ⊢
          rw [← ih]
          rfl

/-- What is put behind a text goes to its last piece. -/
theorem pieces_append_of_not_mem {suffix : List Char} (h : mark ∉ suffix) (s : List Char) :
    ∃ before last, pieces mark (s ++ suffix) = before ++ [last ++ suffix] := by
  induction s with
  | nil => exact ⟨[], [], pieces_of_not_mem h⟩
  | cons c rest ih =>
    obtain ⟨before, last, hpieces⟩ := ih
    rw [List.cons_append]
    by_cases hc : c = mark
    · subst hc
      rw [pieces_cons_mark, hpieces]
      exact ⟨[] :: before, last, rfl⟩
    · cases before with
      | nil => exact ⟨[], c :: last, pieces_cons_ne hc hpieces⟩
      | cons first others => exact ⟨(c :: first) :: others, last, pieces_cons_ne hc hpieces⟩

theorem not_mem_intercalate {c : Char} {mark : List Char} (hmark : c ∉ mark) :
    ∀ {pieces : List (List Char)}, (∀ piece ∈ pieces, c ∉ piece) → c ∉ mark.intercalate pieces
  | [], _ => List.not_mem_nil
  | [piece], h => by
    rw [List.intercalate_singleton]
    exact h piece List.mem_cons_self
  | piece :: next :: rest, h => by
    rw [List.intercalate_cons_cons]
    have hrest := not_mem_intercalate hmark fun other hother => h other (List.mem_cons_of_mem _ hother)
    intro hmem
    rcases List.mem_append.1 hmem with hmem | hmem
    · rcases List.mem_append.1 hmem with hmem | hmem
      · exact h piece List.mem_cons_self hmem
      · exact hmark hmem
    · exact hrest hmem

/-! ### What stands in front of the first mark -/

theorem not_mem_cutAt (s : List Char) : mark ∉ (cutAt mark s).1 := by
  induction s with
  | nil => exact List.not_mem_nil
  | cons c rest ih =>
    rw [cutAt]
    split
    · exact List.not_mem_nil
    · next hc => exact List.not_mem_cons_of_ne_of_not_mem (Ne.symm hc) ih

theorem cutAt_of_not_mem {s : List Char} (h : mark ∉ s) : cutAt mark s = (s, none) := by
  induction s with
  | nil => rfl
  | cons c rest ih =>
    have hc : c ≠ mark := fun heq => h (heq ▸ List.mem_cons_self)
    rw [cutAt, if_neg hc, ih fun hmem => h (List.mem_cons_of_mem _ hmem)]

theorem cutAt_append (s rest : List Char) : (cutAt mark (s ++ mark :: rest)).1 = (cutAt mark s).1 := by
  induction s with
  | nil => simp [cutAt]
  | cons c s ih =>
    rw [List.cons_append, cutAt, cutAt]
    split
    · rfl
    · exact congrArg (c :: ·) ih

end SchemaPress.Text
