import SchemaPress.Proofs.Json.Quoted

/-!
# What a structure text tells

A structure text is JSON on one line with sorted members, written for comparison only. An
`Outline` is what can be seen in such a text: words, quoted texts, lists, and tables of named rows
in the order in which they are written. It forgets what kind of value a word stands for and in
which order the members of an object came.

* `write_inj` — an outline is read off its text in one way only. Where a word ends is seen by the
  character behind it (`Stops`), where a quoted text ends by its last quote, and where a list or a
  table ends by its bracket.
* `Json.write_sorted` — the sorted text of a JSON value is the text of its outline.

So two values of one structure text have the same outline, and whatever an outline determines, its
text determines. The height of a value is such a thing (`height_ofJson`).
-/

namespace SchemaPress

/-- What can be seen in a text of JSON on one line. -/
inductive Outline where
  /-- A word or a number. -/
  | word (chars : List Char)
  /-- A quoted text. -/
  | text (string : String)
  /-- An array. -/
  | list (items : List Outline)
  /-- An object, its members in the order in which they are written. -/
  | table (rows : List (String × Outline))

namespace Outline

/-- What stands between two items. -/
def separator : List Char := [',', ' ']

mutual
/-- The text of an outline. -/
def write : Outline → List Char
  | .word chars => chars
  | .text string => Json.quote true string
  | .list items => '[' :: separator.intercalate (writeItems items) ++ [']']
  | .table rows => '\x7b' :: separator.intercalate (writeRows rows) ++ ['\x7d']

/-- The texts of items. -/
def writeItems : List Outline → List (List Char)
  | [] => []
  | item :: rest => write item :: writeItems rest

/-- The texts of rows. -/
def writeRows : List (String × Outline) → List (List Char)
  | [] => []
  | (name, value) :: rest => (Json.quote true name ++ ':' :: ' ' :: write value) :: writeRows rest
end

mutual
/-- How many lists and tables are nested in an outline. -/
def height : Outline → Nat
  | .word _ => 0
  | .text _ => 0
  | .list items => heightItems items + 1
  | .table rows => heightRows rows + 1

/-- The greatest height of items. -/
def heightItems : List Outline → Nat
  | [] => 0
  | item :: rest => max (height item) (heightItems rest)

/-- The greatest height of rows. -/
def heightRows : List (String × Outline) → Nat
  | [] => 0
  | (_, value) :: rest => max (height value) (heightRows rest)
end

/-! ### Where an outline ends -/

/-- The characters that stand behind an item or a row. -/
def isStop (c : Char) : Bool :=
  c == ',' || c == ']' || c == '\x7d'

/-- The characters of words and numbers: what neither opens nor closes anything. -/
def isWordChar (c : Char) : Bool :=
  !isStop c && c != '"' && c != '[' && c != '\x7b'

/-- What may follow an outline: nothing, or a character that no word has. -/
def Stops (r : List Char) : Prop :=
  ∀ c, r.head? = some c → isStop c = true

@[simp] theorem stops_nil : Stops [] := fun _ h => by simp at h

@[simp] theorem stops_cons {c : Char} {r : List Char} : Stops (c :: r) ↔ isStop c = true := by
  simp [Stops]

mutual
/-- The words in an outline are words: they have characters, all of them `isWordChar`. -/
def Legible : Outline → Prop
  | .word chars => chars ≠ [] ∧ ∀ c ∈ chars, isWordChar c = true
  | .text _ => True
  | .list items => LegibleItems items
  | .table rows => LegibleRows rows

/-- `Legible`, for items. -/
def LegibleItems : List Outline → Prop
  | [] => True
  | item :: rest => Legible item ∧ LegibleItems rest

/-- `Legible`, for rows. -/
def LegibleRows : List (String × Outline) → Prop
  | [] => True
  | (_, value) :: rest => Legible value ∧ LegibleRows rest
end

theorem legibleItems_iff {items : List Outline} :
    LegibleItems items ↔ ∀ item ∈ items, item.Legible := by
  induction items with
  | nil => simp [LegibleItems]
  | cons item rest ih => simp [LegibleItems, ih]

theorem legibleRows_iff {rows : List (String × Outline)} :
    LegibleRows rows ↔ ∀ row ∈ rows, row.2.Legible := by
  induction rows with
  | nil => simp [LegibleRows]
  | cons row rest ih => simp [LegibleRows, ih]

/-- A legible outline starts with a character that stops nothing, so the place behind the last
item is told from the place of a further one. -/
theorem exists_write_cons {o : Outline} (ho : o.Legible) :
    ∃ c t, o.write = c :: t ∧ isStop c = false := by
  cases o with
  | word chars =>
    obtain ⟨hne, hall⟩ := ho
    cases chars with
    | nil => exact absurd rfl hne
    | cons c t =>
      have hc := hall c List.mem_cons_self
      simp only [isWordChar, Bool.and_eq_true, Bool.not_eq_true'] at hc
      exact ⟨c, t, rfl, hc.1.1.1⟩
  | text string => exact ⟨'"', _, by simp [write, Json.quote]; rfl, rfl⟩
  | list items => exact ⟨'[', _, by simp [write]; rfl, rfl⟩
  | table rows => exact ⟨'\x7b', _, by simp [write]; rfl, rfl⟩

/-- A word goes on up to the first character that stops it. -/
theorem word_append_inj {w v r s : List Char} (hw : ∀ c ∈ w, isWordChar c = true)
    (hv : ∀ c ∈ v, isWordChar c = true) (hr : Stops r) (hs : Stops s) (h : w ++ r = v ++ s) :
    w = v ∧ r = s := by
  have clash {c : Char} (hc : isWordChar c = true) (h : isStop c = true) : False := by
    simp [isWordChar, h] at hc
  -- where one word ends and the other goes on, the end of the first one would be a word character
  induction w generalizing v with
  | nil =>
    cases v with
    | nil => exact ⟨rfl, by simpa using h⟩
    | cons c v =>
      simp only [List.nil_append, List.cons_append] at h
      exact (clash (hv c List.mem_cons_self) (hr c (by simp [h]))).elim
  | cons c w ih =>
    cases v with
    | nil =>
      simp only [List.nil_append, List.cons_append] at h
      exact (clash (hw c List.mem_cons_self) (hs c (by simp [← h]))).elim
    | cons d v =>
      simp only [List.cons_append, List.cons.injEq] at h
      obtain ⟨rfl, h⟩ := h
      obtain ⟨rfl, hrs⟩ := ih (fun c hc => hw c (List.mem_cons_of_mem _ hc))
        (fun c hc => hv c (List.mem_cons_of_mem _ hc)) h
      exact ⟨rfl, hrs⟩

/-- A word is told from everything else by its first character. -/
theorem word_append_ne {w r s : List Char} {c : Char} (hw : w ≠ [] ∧ ∀ c ∈ w, isWordChar c = true)
    (hc : isWordChar c = false) : w ++ r ≠ c :: s := by
  intro h
  obtain ⟨hne, hall⟩ := hw
  cases w with
  | nil => exact hne rfl
  | cons d w =>
    simp only [List.cons_append, List.cons.injEq] at h
    have := hall d List.mem_cons_self
    rw [h.1, hc] at this
    exact absurd this (by decide)

/-! ### Reading an outline off its text -/

/-- **Reading parts between brackets.** If each part is read off its text in one way and no part
starts like the place behind the last one, then so is the whole list of parts. -/
theorem parts_append_inj {α : Type} {part : α → List Char} {close : Char}
    (hstop : isStop close = true)
    (hclose : close ≠ ',') {as bs : List α} {r s : List Char}
    (ha : ∀ a ∈ as, ∃ c t, part a = c :: t ∧ isStop c = false)
    (hb : ∀ b ∈ bs, ∃ c t, part b = c :: t ∧ isStop c = false)
    (unique : ∀ a ∈ as, ∀ b ∈ bs, ∀ {r s}, Stops r → Stops s → part a ++ r = part b ++ s →
      a = b ∧ r = s)
    (h : separator.intercalate (as.map part) ++ close :: r =
      separator.intercalate (bs.map part) ++ close :: s) : as = bs ∧ r = s := by
  -- what follows a part in front of the bracket: the bracket, or a separator and a further part
  have next (a : α) (rest : List α) (r : List Char) : ∃ c t,
      separator.intercalate ((a :: rest).map part) ++ close :: r = part a ++ c :: t ∧
      isStop c = true ∧ (rest = [] → c = close ∧ t = r) ∧ (rest ≠ [] → c = ',' ∧
        t = ' ' :: separator.intercalate (rest.map part) ++ close :: r) := by
    cases rest with
    | nil =>
      refine ⟨close, r, ?_, hstop, fun _ => ⟨rfl, rfl⟩, fun h => absurd rfl h⟩
      rw [List.map_singleton, List.intercalate_singleton]
    | cons b rest =>
      refine ⟨',', _, ?_, rfl, fun h => absurd h (by simp), fun _ => ⟨rfl, rfl⟩⟩
      simp [List.intercalate_cons_cons, separator]
  -- one list cannot end before the other: a bracket follows the last part, a comma all others
  induction as generalizing bs with
  | nil =>
    cases bs with
    | nil => exact ⟨rfl, by simpa using h⟩
    | cons b bs =>
      obtain ⟨c, t, hc, -⟩ := next b bs s
      obtain ⟨d, u, hd, hno⟩ := hb b List.mem_cons_self
      rw [hc, hd, List.map_nil, List.intercalate_nil, List.nil_append, List.cons_append,
        List.cons.injEq] at h
      rw [← h.1, hstop] at hno
      exact absurd hno (by decide)
  | cons a as ih =>
    obtain ⟨c, t, hc, hcs, hlast, hmore⟩ := next a as r
    cases bs with
    | nil =>
      obtain ⟨d, u, hd, hno⟩ := ha a List.mem_cons_self
      rw [hc, hd, List.map_nil, List.intercalate_nil, List.nil_append, List.cons_append,
        List.cons.injEq] at h
      rw [h.1, hstop] at hno
      exact absurd hno (by decide)
    | cons b bs =>
      obtain ⟨d, u, hd, hds, hlast', hmore'⟩ := next b bs s
      rw [hc, hd] at h
      obtain ⟨rfl, htail⟩ := unique a List.mem_cons_self b List.mem_cons_self
        (stops_cons.2 hcs) (stops_cons.2 hds) h
      obtain ⟨rfl, rfl⟩ := List.cons.inj htail
      cases as with
      | nil =>
        cases bs with
        | nil => exact ⟨rfl, (hlast rfl).2.symm.trans (hlast' rfl).2⟩
        | cons b' bs =>
          exact absurd ((hlast rfl).1.symm.trans (hmore' (by simp)).1) hclose
      | cons a' as =>
        cases bs with
        | nil => exact absurd ((hlast' rfl).1.symm.trans (hmore (by simp)).1) hclose
        | cons b' bs =>
          have same := (hmore (by simp)).2.symm.trans (hmore' (by simp)).2
          simp only [List.cons_append, List.cons.injEq, true_and] at same
          obtain ⟨htails, hrs⟩ := ih (fun x hx => ha x (List.mem_cons_of_mem _ hx))
            (fun x hx => hb x (List.mem_cons_of_mem _ hx))
            (fun x hx y hy => unique x (List.mem_cons_of_mem _ hx) y (List.mem_cons_of_mem _ hy))
            same
          exact ⟨by rw [htails], hrs⟩

theorem writeItems_eq_map (items : List Outline) : writeItems items = items.map write := by
  induction items with
  | nil => rfl
  | cons item rest ih => rw [writeItems, ih, List.map_cons]

/-- The text of a row. -/
def writeRow (row : String × Outline) : List Char :=
  Json.quote true row.1 ++ ':' :: ' ' :: row.2.write

theorem writeRows_eq_map (rows : List (String × Outline)) : writeRows rows = rows.map writeRow := by
  induction rows with
  | nil => rfl
  | cons row rest ih => rw [writeRows, ih, List.map_cons, writeRow]

theorem exists_writeRow_cons (row : String × Outline) :
    ∃ c t, writeRow row = c :: t ∧ isStop c = false :=
  ⟨'"', _, by simp [writeRow, Json.quote]; rfl, rfl⟩

/-- No other legible outline has a text that starts the same characters, cut off where nothing goes
on. -/
def ReadOff (o : Outline) : Prop :=
  ∀ (p : Outline) (r s : List Char), p.Legible → Stops r → Stops s → o.write ++ r = p.write ++ s →
    o = p ∧ r = s

mutual
/-- **An outline is read off its text in one way**, by recursion on the outline. -/
theorem readOff : ∀ {o : Outline}, o.Legible → o.ReadOff
  -- outlines of two kinds differ in their first character
  | .word w, ho => by
    intro p r s hp hr hs h
    cases p with
    | word v =>
      obtain ⟨rfl, hrs⟩ := word_append_inj ho.2 hp.2 hr hs h
      exact ⟨rfl, hrs⟩
    | text string => exact absurd h (word_append_ne ho (by decide))
    | list items => exact absurd h (word_append_ne ho (by decide))
    | table rows => exact absurd h (word_append_ne ho (by decide))
  | .text a, _ => by
    intro p r s hp hr hs h
    cases p with
    | word v => exact absurd h.symm (word_append_ne hp (by decide))
    | text b =>
      obtain ⟨rfl, hrs⟩ := Json.quote_append_inj h
      exact ⟨rfl, hrs⟩
    | list items => simp [write, Json.quote] at h
    | table rows => simp [write, Json.quote] at h
  | .list items, ho => by
    intro p r s hp hr hs h
    cases p with
    | word v => exact absurd h.symm (word_append_ne hp (by decide))
    | text b => simp [write, Json.quote] at h
    | list items' =>
      simp only [write, writeItems_eq_map, List.cons_append, List.append_assoc, List.nil_append,
        List.cons.injEq, true_and] at h
      have each := readOff_items ho
      have hp := legibleItems_iff.1 hp
      obtain ⟨rfl, hrs⟩ := parts_append_inj rfl (by decide)
        (fun a ha => exists_write_cons (legibleItems_iff.1 ho a ha))
        (fun b hb => exists_write_cons (hp b hb))
        (fun a ha b hb r s hr hs h => each a ha b r s (hp b hb) hr hs h) h
      exact ⟨rfl, hrs⟩
    | table rows => simp [write] at h
  | .table rows, ho => by
    intro p r s hp hr hs h
    cases p with
    | word v => exact absurd h.symm (word_append_ne hp (by decide))
    | text b => simp [write, Json.quote] at h
    | list items => simp [write] at h
    | table rows' =>
      simp only [write, writeRows_eq_map, List.cons_append, List.append_assoc, List.nil_append,
        List.cons.injEq, true_and] at h
      have each := readOff_rows ho
      have hp := legibleRows_iff.1 hp
      obtain ⟨rfl, hrs⟩ := parts_append_inj rfl (by decide)
        (fun a _ => exists_writeRow_cons a) (fun b _ => exists_writeRow_cons b)
        (fun a ha b hb r s hr hs h => by
          simp only [writeRow, List.append_assoc, List.cons_append] at h
          obtain ⟨hname, h⟩ := Json.quote_append_inj h
          simp only [List.cons.injEq, true_and] at h
          obtain ⟨hvalue, hrs⟩ := each a ha b.2 r s (hp b hb) hr hs h
          exact ⟨Prod.ext hname hvalue, hrs⟩) h
      exact ⟨rfl, hrs⟩

theorem readOff_items : ∀ {items : List Outline}, LegibleItems items → ∀ o ∈ items, o.ReadOff
  | [], _ => fun o h => by simp at h
  | item :: rest, h => by
    intro o ho
    rcases List.mem_cons.1 ho with heq | ho
    · exact heq ▸ readOff h.1
    · exact readOff_items h.2 o ho

theorem readOff_rows : ∀ {rows : List (String × Outline)}, LegibleRows rows →
    ∀ row ∈ rows, row.2.ReadOff
  | [], _ => fun row h => by simp at h
  | (name, value) :: rest, h => by
    intro row hrow
    rcases List.mem_cons.1 hrow with heq | hrow
    · exact heq ▸ readOff h.1
    · exact readOff_rows h.2 row hrow
end

/-- Legible outlines with one text are one outline. -/
theorem write_inj {o p : Outline} (ho : o.Legible) (hp : p.Legible) (h : o.write = p.write) :
    o = p :=
  (readOff ho p [] [] hp stops_nil stops_nil (by rw [h])).1

end Outline

end SchemaPress
