import SchemaPress.Proofs.Json.Number
import SchemaPress.Proofs.Json.Quoted
import SchemaPress.Proofs.Text.Pieces

/-!
# Written values hold no control characters

A control character in a text or a name is escaped, and no word or number holds one. So the only
control characters of a written value are the line ends of a style with lines (`tidy_write`). What is
written holds no carriage return and is left alone where ends of lines are unified; and a style
without lines keeps everything on one line.
-/

namespace SchemaPress

namespace Text

/-- **Characters without control characters.** -/
def Shown (s : List Char) : Prop :=
  ∀ c ∈ s, 0x20 ≤ c.toNat

instance (s : List Char) : Decidable (Shown s) :=
  List.decidableBAll _ s

namespace Shown

variable {s t : List Char}

theorem nil : Shown [] :=
  nofun

theorem append (h : Shown s) (h' : Shown t) : Shown (s ++ t) :=
  fun c hc => (List.mem_append.1 hc).elim (h c) (h' c)

theorem cons {c : Char} (hc : 0x20 ≤ c.toNat) (h : Shown s) : Shown (c :: s) :=
  List.forall_mem_cons.2 ⟨hc, h⟩

theorem subset (h : Shown s) (hsub : t ⊆ s) : Shown t :=
  fun c hc => h c (hsub hc)

theorem replicate {c : Char} (hc : 0x20 ≤ c.toNat) (n : Nat) : Shown (List.replicate n c) :=
  fun _ hd => List.eq_of_mem_replicate hd ▸ hc

theorem ite {p : Prop} [Decidable p] (h : Shown s) (h' : Shown t) :
    Shown (if p then s else t) := by
  split
  · exact h
  · exact h'

end Shown

end Text

open Text

namespace Json

theorem AllDigits.shown {digits : List Char} (h : AllDigits digits) : Shown digits := by
  intro c hc
  have hdigit := h c hc
  simp only [Char.isDigit, Bool.and_eq_true, decide_eq_true_eq, UInt32.le_iff_toNat_le, ge_iff_le]
    at hdigit
  have hzero : '0'.val.toNat = 48 := rfl
  have hcode : c.toNat = c.val.toNat := rfl
  omega

theorem shown_sign (negative : Bool) : Shown (if negative then ['-'] else []) :=
  .ite (by decide) .nil

theorem shown_unitEscape {n : Nat} (h : n < 0x10000) : Shown (unitEscape n) := by
  have hdigit {d : Nat} (hd : d < 16) : 0x20 ≤ d.digitChar.toNat := by
    interval_cases d <;> decide
  unfold unitEscape
  rw [hex4_eq h]
  refine .cons (by decide) (.cons (by decide) ?_)
  exact .cons (hdigit (by omega)) (.cons (hdigit (by omega)) (.cons (hdigit (by omega))
    (.cons (hdigit (by omega)) .nil)))

theorem shown_escapeChar (asciiOnly : Bool) (c : Char) : Shown (escapeChar asciiOnly c) := by
  have hc := toNat_valid c
  unfold escapeChar
  split_ifs with _ _ _ _ _ _ _ hlow _ hplane
  all_goals try decide
  · exact shown_unitEscape (by omega)
  · exact shown_unitEscape hplane
  · exact (shown_unitEscape (by omega)).append (shown_unitEscape (by omega))
  · exact .cons (by omega) .nil

theorem shown_quote (asciiOnly : Bool) (text : String) : Shown (quote asciiOnly text) := by
  refine .append (.cons (by decide) fun c hc => ?_) (by decide)
  obtain ⟨d, -, hc⟩ := List.mem_flatMap.1 hc
  exact shown_escapeChar asciiOnly d c hc

end Json

open Json

theorem Double.Decimal.shown_text (d : Double.Decimal) : Shown d.text := by
  have hdigits : Shown d.trimmedDigits := d.allDigits_trimmedDigits.shown
  have hzeros (n : Nat) : Shown (List.replicate n '0') := .replicate (by decide) n
  have htake (n : Nat) : Shown (d.trimmedDigits.take n) := hdigits.subset (List.take_subset n _)
  have hdrop (n : Nat) : Shown (d.trimmedDigits.drop n) := hdigits.subset (List.drop_subset n _)
  unfold text
  refine .ite (.ite ?_ (.ite ?_ ?_)) ?_
  · exact .append (.append (by decide) (hzeros _)) hdigits
  · exact .append (.append hdigits (hzeros _)) (by decide)
  · exact .append (.append (htake _) (by decide)) (hdrop _)
  · have hsign : 0x20 ≤ (if d.point - 1 < 0 then '-' else '+').toNat := by split <;> decide
    refine .append (.append (.append (.append (htake 1) ?_) ?_) (hzeros _)) ?_
    · exact .ite .nil (.cons (by decide) (hdrop 1))
    · exact .cons (by decide) (.cons hsign .nil)
    · exact (allDigits_toDigits _).shown

theorem Double.shown_text {nanWord infinityWord : String} (hnan : Shown nanWord.toList)
    (hinfinity : Shown infinityWord.toList) (x : Double) : Shown (x.text nanWord infinityWord) := by
  cases x with
  | nan => exact hnan
  | infinity negative => exact (shown_sign negative).append hinfinity
  | finite negative mantissa exponent =>
    exact (shown_sign negative).append (.ite (by decide) (Double.Decimal.shown_text _))

namespace Json

variable {style : Style}

/-- Styles without control characters between the parts of a value. -/
structure Style.Unbroken (style : Style) : Prop where
  separator : Shown style.separator.toList
  colon : Shown style.colon.toList

theorem Style.unbroken_indented : Style.indented.Unbroken :=
  ⟨by decide, by decide⟩

theorem Style.unbroken_line : Style.line.Unbroken :=
  ⟨by decide, by decide⟩

theorem Style.unbroken_dense : Style.dense.Unbroken :=
  ⟨by decide, by decide⟩

/-- **Characters without control characters**, but for the line ends of a style with lines. -/
def Style.Tidy (style : Style) (s : List Char) : Prop :=
  ∀ c ∈ s, 0x20 ≤ c.toNat ∨ (style.indent ≠ none ∧ c = '\n')

namespace Style.Tidy

variable {s t : List Char}

theorem of_shown (h : Shown s) : style.Tidy s :=
  fun c hc => .inl (h c hc)

theorem append (h : style.Tidy s) (h' : style.Tidy t) : style.Tidy (s ++ t) :=
  fun c hc => (List.mem_append.1 hc).elim (h c) (h' c)

theorem intercalate {parts : List (List Char)} (h : style.Tidy s)
    (hparts : ∀ part ∈ parts, style.Tidy part) : style.Tidy (s.intercalate parts) := by
  intro c hc
  by_contra hno
  exact not_mem_intercalate (fun hmem => hno (h c hmem))
    (fun part hpart hmem => hno (hparts part hpart c hmem)) hc

theorem newline (style : Style) (level : Nat) : style.Tidy (style.newline level) := by
  unfold Style.newline
  cases hindent : style.indent with
  | none => exact of_shown .nil
  | some width =>
    intro c hc
    rcases List.mem_cons.1 hc with rfl | hc
    · exact .inr ⟨by rw [hindent]; exact nofun, rfl⟩
    · exact .inl (Shown.replicate (by decide) _ c hc)

theorem bracket (h : style.Unbroken) (level : Nat) {left right : Char} (hleft : 0x20 ≤ left.toNat)
    (hright : 0x20 ≤ right.toNat) {parts : List (List Char)}
    (hparts : ∀ part ∈ parts, style.Tidy part) :
    style.Tidy (style.bracket level left right parts) := by
  unfold Style.bracket
  split
  · exact of_shown (.cons hleft (.cons hright .nil))
  · have hbetween := (of_shown h.separator).append (newline style (level + 1))
    refine .append (.append (.append ?_ (hbetween.intercalate hparts)) (newline style level)) ?_
    · exact .append (of_shown (.cons hleft .nil)) (newline style (level + 1))
    · exact of_shown (.cons hright .nil)

end Style.Tidy

mutual

/-- **What is written holds no control characters**, but for the ends of its lines. -/
theorem tidy_write (h : style.Unbroken) (level : Nat) : (v : Json) → style.Tidy (write style level v)
  | .null => by
    rw [write]
    exact .of_shown (by decide)
  | .bool true => by
    rw [write]
    exact .of_shown (by decide)
  | .bool false => by
    rw [write]
    exact .of_shown (by decide)
  | .int n => by
    rw [write, toList_toString_int]
    exact .of_shown ((shown_sign _).append (allDigits_toDigits _).shown)
  | .double x => by
    rw [write]
    exact .of_shown (Double.shown_text (by decide) (by decide) x)
  | .str text => by
    rw [write]
    exact .of_shown (shown_quote _ text)
  | .arr items => by
    rw [write]
    exact .bracket h level (by decide) (by decide) (tidy_writeItems h (level + 1) items)
  | .obj members => by
    rw [write]
    refine .bracket h level (by decide) (by decide) fun part hpart => ?_
    obtain ⟨⟨name, chars⟩, hmem, rfl⟩ := List.mem_map.1 hpart
    have hchars : (name, chars) ∈ writeMembers style (level + 1) members := by
      unfold Style.arrange at hmem
      split at hmem
      · exact List.mem_mergeSort.1 hmem
      · exact hmem
    have hname := (shown_quote style.asciiOnly name).append h.colon
    exact (Style.Tidy.of_shown hname).append (tidy_writeMembers h (level + 1) members _ hchars)

theorem tidy_writeItems (h : style.Unbroken) (level : Nat) :
    (items : List Json) → ∀ part ∈ writeItems style level items, style.Tidy part
  | [] => nofun
  | item :: rest => by
    rw [writeItems]
    exact List.forall_mem_cons.2 ⟨tidy_write h level item, tidy_writeItems h level rest⟩

theorem tidy_writeMembers (h : style.Unbroken) (level : Nat) :
    (members : List (String × Json)) → ∀ part ∈ writeMembers style level members, style.Tidy part.2
  | [] => nofun
  | (name, value) :: rest => by
    rw [writeMembers]
    exact List.forall_mem_cons.2 ⟨tidy_write h level value, tidy_writeMembers h level rest⟩

end

/-- **What is written holds no carriage return.** -/
theorem return_not_mem_write (h : style.Unbroken) (level : Nat) (v : Json) :
    '\r' ∉ write style level v := by
  intro hmem
  rcases tidy_write h level v _ hmem with hlow | ⟨-, heq⟩
  · exact absurd hlow (by decide)
  · exact absurd heq (by decide)

/-- **What is written in a style without lines is one line.** -/
theorem newline_not_mem_write (h : style.Unbroken) (hindent : style.indent = none) (level : Nat)
    (v : Json) : '\n' ∉ write style level v := by
  intro hmem
  rcases tidy_write h level v _ hmem with hlow | ⟨hlines, -⟩
  · exact absurd hlow (by decide)
  · exact hlines hindent

end Json

end SchemaPress
