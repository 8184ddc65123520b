import SchemaPress.Proofs.Json.Quoted
import SchemaPress.Proofs.Json.Regular

/-!
# Written values are read back

A style is readable if it leaves members in their order and puts nothing but blanks beside commas and
colons. What is written in such a style is read back as the value that it was written for
(`value_write`, `parse_render`), if that is regular: doubles in their one form, and each name of an object
once, for the reader puts members of one name into one place.

Arrays and objects are written as parts with separators between them and read part by part, so the proof
goes by the value, and by the parts of each container.
-/

namespace SchemaPress.Json

/-! ### Blanks -/

/-- Characters that are skipped between tokens. -/
def Blank (s : List Char) : Prop :=
  ∀ c ∈ s, isSpace c = true

theorem blank_nil : Blank [] :=
  nofun

theorem Blank.append {s t : List Char} (h : Blank s) (h' : Blank t) : Blank (s ++ t) := by
  intro c hc
  rcases List.mem_append.1 hc with hc | hc
  · exact h c hc
  · exact h' c hc

/-- Text that starts with a token. -/
def Solid (s : List Char) : Prop :=
  ∀ c, s.head? = some c → isSpace c = false

theorem solid_cons {c : Char} (h : isSpace c = false) (rest : List Char) : Solid (c :: rest) := by
  intro d hd
  cases hd
  exact h

theorem skipSpace_append {blanks rest : List Char} (h : Blank blanks) (hrest : Solid rest) :
    skipSpace (blanks ++ rest) = rest := by
  unfold skipSpace
  rw [List.dropWhile_append_of_pos h]
  cases rest with
  | nil => rfl
  | cons c rest => rw [List.dropWhile_cons_of_neg (by simp [hrest c rfl])]

/-- A mark behind blanks is found. -/
theorem after?_append {blanks : List Char} (h : Blank blanks) {c : Char} (hc : isSpace c = false)
    (rest : List Char) : ∃ hlt, after? c (blanks ++ c :: rest) = some ⟨rest, hlt⟩ := by
  have hskip := skipSpace_append h (solid_cons hc rest)
  refine ⟨by simp; omega, ?_⟩
  unfold after?
  split
  · next hnil => rw [hskip] at hnil; cases hnil
  · next d r hcons =>
    rw [hskip] at hcons
    cases hcons
    simp

theorem after?_cons {c : Char} (hc : isSpace c = false) (rest : List Char) :
    ∃ hlt, after? c (c :: rest) = some ⟨rest, hlt⟩ :=
  after?_append blank_nil hc rest

/-- Another mark is not taken for it. -/
theorem after?_eq_none {s rest : List Char} {c d : Char} (h : skipSpace s = d :: rest) (hne : c ≠ d) :
    after? c s = none := by
  unfold after?
  split
  · rfl
  · next e r hcons =>
    rw [h] at hcons
    cases hcons
    exact if_neg hne

/-! ### The first character of a value -/

/-- Characters with which no value starts. -/
def foreign : List Char :=
  [' ', '\t', '\n', '\r', ']', '\x7d', '\uFEFF']

/-- **What a value starts with**: no blank, no mark that closes a container, and no mark of the order of
bytes. -/
theorem head_of_value {c : Char} {rest : List Char} {found : Raw × Shorter (c :: rest)}
    (h : value (c :: rest) = .ok found) : c ∉ foreign := by
  intro hc
  simp only [foreign, List.mem_cons, List.not_mem_nil, or_false] at hc
  have hword : word? (c :: rest) = none := by
    refine word?_eq_none fun word hword => ?_
    simp only [words, List.mem_cons, List.not_mem_nil, or_false] at hword
    rcases hword with rfl | rfl | rfl | rfl | rfl | rfl <;>
      rcases hc with rfl | rfl | rfl | rfl | rfl | rfl | rfl <;> rfl
  have hnumber : number? (c :: rest) = none := by
    rcases hc with rfl | rfl | rfl | rfl | rfl | rfl | rfl <;> rfl
  rw [value, hword, hnumber] at h
  · cases h
  all_goals
    rintro r heq
    cases heq
    simp at hc

theorem isSpace_of_not_foreign {c : Char} (h : c ∉ foreign) : isSpace c = false := by
  unfold isSpace
  simp only [foreign, List.mem_cons, not_or] at h
  simp only [Bool.or_eq_false_iff, beq_eq_false_iff_ne, ne_eq]
  exact ⟨⟨⟨h.1, h.2.1⟩, h.2.2.1⟩, h.2.2.2.1⟩

/-! ### Readable styles -/

/-- **Styles that can be read back.** -/
structure Style.Readable (style : Style) : Prop where
  unsorted : style.sortMembers = false
  separator : ∃ blanks, style.separator.toList = ',' :: blanks ∧ Blank blanks
  colon : ∃ blanks, style.colon.toList = ':' :: blanks ∧ Blank blanks

theorem Style.readable_indented : Style.indented.Readable :=
  ⟨rfl, ⟨[], by decide, nofun⟩, ⟨[' '], by decide, List.forall_mem_singleton.2 rfl⟩⟩

theorem Style.readable_line : Style.line.Readable :=
  ⟨rfl, ⟨[' '], by decide, List.forall_mem_singleton.2 rfl⟩,
    ⟨[' '], by decide, List.forall_mem_singleton.2 rfl⟩⟩

theorem Style.readable_dense : Style.dense.Readable :=
  ⟨rfl, ⟨[], by decide, nofun⟩, ⟨[], by decide, nofun⟩⟩

theorem Style.blank_newline (style : Style) (level : Nat) : Blank (style.newline level) := by
  intro c hc
  unfold newline at hc
  split at hc
  · cases hc
  · rcases List.mem_cons.1 hc with rfl | hc
    · rfl
    · rw [List.eq_of_mem_replicate hc]
      rfl

/-- A number ends where blanks and a mark come. -/
theorem endsNumber_append {blanks : List Char} (h : Blank blanks) {c : Char}
    (hc : c.isDigit = false ∧ c ≠ '.' ∧ c ≠ 'e' ∧ c ≠ 'E') (rest : List Char) :
    EndsNumber (blanks ++ c :: rest) := by
  intro d hd
  cases blanks with
  | nil =>
    cases hd
    exact hc
  | cons blank blanks =>
    have hspace := h blank List.mem_cons_self
    obtain rfl := Option.some.inj hd
    unfold isSpace at hspace
    simp only [Bool.or_eq_true, beq_iff_eq] at hspace
    rcases hspace with ((rfl | rfl) | rfl) | rfl <;> exact ⟨rfl, by decide, by decide, by decide⟩

/-! ### Containers -/

/-- The value is read, and this is left. -/
def Reads (s : List Char) (v : Raw) (rest : List Char) : Prop :=
  ∃ hlt, value s = .ok (v, ⟨rest, hlt⟩)

theorem Reads.solid {s rest : List Char} {v : Raw} (h : Reads s v rest) : Solid s := by
  obtain ⟨hlt, h⟩ := h
  intro c hc
  cases s with
  | nil => cases hc
  | cons d s =>
    cases hc
    exact isSpace_of_not_foreign (head_of_value h)

/-- What is read does not close a container. -/
theorem Reads.after?_eq_none {blanks s rest : List Char} {v : Raw} (h : Reads s v rest)
    (hblanks : Blank blanks) {c : Char} (hc : c = ']' ∨ c = '\x7d') :
    after? c (blanks ++ s) = none := by
  have hsolid := h.solid
  obtain ⟨hlt, h⟩ := h
  cases s with
  | nil => simp at hlt
  | cons d s =>
    refine Json.after?_eq_none (skipSpace_append hblanks hsolid) ?_
    rintro rfl
    refine head_of_value h ?_
    rcases hc with rfl | rfl <;> decide

/-- The items are read up to the closing bracket, and this is left. -/
def ReadsItems (s : List Char) (list : List Raw) (rest : List Char) : Prop :=
  ∃ hlt, items s = .ok (list, ⟨rest, hlt⟩)

/-- The members are read up to the closing brace behind those before them, and this is left. -/
def ReadsMembers (s : List Char) (before list : RawMembers) (rest : List Char) : Prop :=
  ∃ hlt, members s before = .ok (list, ⟨rest, hlt⟩)

section Steps

variable {s u blanks before rest : List Char} {item : Raw} {list : List Raw}

theorem ReadsItems.last (h : Reads s item (blanks ++ ']' :: rest)) (hblanks : Blank blanks) :
    ReadsItems s [item] rest := by
  obtain ⟨hlt, h⟩ := h
  obtain ⟨hend, hafter⟩ := after?_append hblanks (show isSpace ']' = false by decide) rest
  refine ⟨by omega, ?_⟩
  rw [items, h]
  simp only [bind, Except.bind, hafter]
  rfl

theorem ReadsItems.exists_reads (h : ReadsItems s list rest) : ∃ item after, Reads s item after := by
  obtain ⟨hlt, h⟩ := h
  rw [items] at h
  obtain ⟨⟨item, after⟩, h, -⟩ := bind_eq_ok h
  exact ⟨item, after.1, after.2, h⟩

theorem ReadsItems.skip (h : ReadsItems s list rest) (hblanks : Blank blanks) :
    ReadsItems (skipSpace (blanks ++ s)) list rest := by
  obtain ⟨item, after, hfirst⟩ := h.exists_reads
  rw [skipSpace_append hblanks hfirst.solid]
  exact h

theorem ReadsItems.cons (h : Reads s item (',' :: (blanks ++ u))) (hblanks : Blank blanks)
    (h' : ReadsItems u list rest) : ReadsItems s (item :: list) rest := by
  obtain ⟨hlt, h⟩ := h
  have hlt' := h'.choose
  obtain ⟨hskip, h'⟩ := h'.skip hblanks
  have hclosing : after? ']' (',' :: (blanks ++ u)) = none :=
    Json.after?_eq_none (List.dropWhile_cons_of_neg (by decide)) (by decide)
  obtain ⟨hend, hafter⟩ := after?_cons (show isSpace ',' = false by decide) (blanks ++ u)
  refine ⟨by simp at hlt; omega, ?_⟩
  rw [items, h]
  simp only [bind, Except.bind, hclosing, hafter, h']
  rfl

/-- What is read in place of a member's value. -/
theorem Reads.skip (h : Reads s item rest) (hblanks : Blank blanks) :
    Reads (skipSpace (blanks ++ s)) item rest := by
  rw [skipSpace_append hblanks h.solid]
  exact h

variable {asciiOnly : Bool} {name : String} {members list' : RawMembers}

theorem ReadsMembers.exists_cons (h : ReadsMembers s members list' rest) : ∃ text, s = '"' :: text := by
  obtain ⟨hlt, h⟩ := h
  unfold Json.members at h
  split at h
  · exact ⟨_, rfl⟩
  · cases h

theorem ReadsMembers.skip (h : ReadsMembers s members list' rest) (hblanks : Blank blanks) :
    ReadsMembers (skipSpace (blanks ++ s)) members list' rest := by
  obtain ⟨text, rfl⟩ := h.exists_cons
  rw [skipSpace_append hblanks (solid_cons (by decide) text)]
  exact h

theorem ReadsMembers.last (hcolon : Blank before) (h : Reads s item (blanks ++ '\x7d' :: rest))
    (hblanks : Blank blanks) :
    ReadsMembers (quote asciiOnly name ++ ':' :: (before ++ s)) members
      (assign members (.ofString name) item) rest := by
  obtain ⟨text, heq, hquotes⟩ := quotes_quote asciiOnly name (':' :: (before ++ s))
  obtain ⟨hquoted, hquotes⟩ := hquotes ('"' :: text)
  obtain ⟨hbefore, hmark⟩ := after?_cons (show isSpace ':' = false by decide) (before ++ s)
  obtain ⟨hvalue, h⟩ := h.skip hcolon
  obtain ⟨hend, hafter⟩ := after?_append hblanks (show isSpace '\x7d' = false by decide) rest
  have hle := length_skipSpace_le (before ++ s)
  rw [heq]
  refine ⟨by simp at hquoted hvalue hle ⊢; omega, ?_⟩
  rw [Json.members, hquotes]
  simp only [bind, Except.bind, hmark, h, hafter]
  rfl

theorem ReadsMembers.cons (hcolon : Blank before) (h : Reads s item (',' :: (blanks ++ u)))
    (hblanks : Blank blanks)
    (h' : ReadsMembers u (assign members (.ofString name) item) list' rest) :
    ReadsMembers (quote asciiOnly name ++ ':' :: (before ++ s)) members list' rest := by
  obtain ⟨text, heq, hquotes⟩ := quotes_quote asciiOnly name (':' :: (before ++ s))
  obtain ⟨hquoted, hquotes⟩ := hquotes ('"' :: text)
  obtain ⟨hbefore, hmark⟩ := after?_cons (show isSpace ':' = false by decide) (before ++ s)
  obtain ⟨hvalue, h⟩ := h.skip hcolon
  have hclosing : after? '\x7d' (',' :: (blanks ++ u)) = none :=
    Json.after?_eq_none (List.dropWhile_cons_of_neg (by decide)) (by decide)
  obtain ⟨hend, hafter⟩ := after?_cons (show isSpace ',' = false by decide) (blanks ++ u)
  have hlt := h'.choose
  obtain ⟨hrest, h'⟩ := h'.skip hblanks
  have hle := length_skipSpace_le (before ++ s)
  rw [heq]
  refine ⟨by simp at hquoted hvalue hle ⊢; omega, ?_⟩
  unfold RawText.ofString at h'
  rw [Json.members, hquotes]
  simp only [bind, Except.bind, hmark, h, hclosing, hafter, h']
  rfl

end Steps

/-! ### Integers that are too long -/

/-- A number starts with no blank. -/
theorem solid_of_number? {s : List Char} {found : Numeral × Shorter s} (h : number? s = some found) :
    Solid s := by
  obtain ⟨c, rest, hdigit, rfl | rfl⟩ := exists_digit_of_number? h
  · refine solid_cons (Bool.eq_false_iff.2 fun hspace => ?_) rest
    unfold isSpace at hspace
    simp only [Bool.or_eq_true, beq_iff_eq] at hspace
    rcases hspace with ((rfl | rfl) | rfl) | rfl <;> cases hdigit
  · exact solid_cons (by decide) _

/-- **An object is not read** if the integer of its first member is too long. -/
theorem parseRaw_tooLong (name : String) {n : Int} (hlong : Integer.ofInt? n = none) {rest : List Char}
    (hrest : EndsNumber rest) :
    parseRaw (String.ofList ('\x7b' :: (quote false name ++ ':' :: ((toString n).toList ++ rest)))) =
      .error .tooLong := by
  obtain ⟨text, heq, hquotes⟩ := quotes_quote false name (':' :: ((toString n).toList ++ rest))
  obtain ⟨hquoted, hquotes⟩ := hquotes ('"' :: text)
  obtain ⟨hbefore, hmark⟩ := after?_cons (show isSpace ':' = false by decide)
    ((toString n).toList ++ rest)
  obtain ⟨hlt, hnumber⟩ := number?_int n hrest
  have hvalue : value (skipSpace ((toString n).toList ++ rest)) = .error .tooLong := by
    rw [← List.nil_append ((toString n).toList ++ rest),
      skipSpace_append blank_nil (solid_of_number? hnumber), value_of_number? hnumber]
    simp only [Numeral.value?, hlong, Option.map_none, Option.elim_none]
  have hopen : skipSpace ('"' :: text) = '"' :: text := List.dropWhile_cons_of_neg (by decide)
  have hmembers : members (skipSpace ('"' :: text)) [] = .error .tooLong := by
    rw [hopen, members, hquotes]
    simp only [bind, Except.bind, hmark, hvalue]
  have hobject : value (skipSpace ('\x7b' :: '"' :: text)) = .error .tooLong := by
    rw [show skipSpace ('\x7b' :: '"' :: text) = '\x7b' :: '"' :: text from
      List.dropWhile_cons_of_neg (by decide), value, Json.after?_eq_none hopen (by decide)]
    simp only [bind, Except.bind, hmembers]
  have hmark : ('\x7b' :: '"' :: text).head? ≠ some '\uFEFF' := fun hhead => by cases hhead
  unfold parseRaw parseChars
  rw [String.toList_ofList, heq, if_neg hmark]
  simp only [bind, Except.bind, hobject]
  rfl

/-! ### Written values -/

/-- **Characters that are read as a value** in front of what ends a number. -/
def Spells (chars : List Char) (v : Raw) : Prop :=
  ∀ {rest : List Char}, EndsNumber rest → Reads (chars ++ rest) v rest

variable {style : Style} {level : Nat}

/-- What stands between the parts of a container. -/
def Style.between (style : Style) (level : Nat) : List Char :=
  style.separator.toList ++ style.newline (level + 1)

theorem Style.Readable.exists_between (h : style.Readable) (level : Nat) :
    ∃ blanks, style.between level = ',' :: blanks ∧ Blank blanks := by
  obtain ⟨blanks, heq, hblanks⟩ := h.separator
  exact ⟨blanks ++ style.newline (level + 1), by rw [between, heq]; rfl,
    hblanks.append (style.blank_newline _)⟩

theorem Style.bracket_append {parts : List (List Char)} (h : parts ≠ []) (style : Style) (level : Nat)
    (left right : Char) (rest : List Char) :
    style.bracket level left right parts ++ rest =
      left :: (style.newline (level + 1) ++
        ((style.between level).intercalate parts ++ (style.newline level ++ right :: rest))) := by
  cases parts with
  | nil => exact absurd rfl h
  | cons part parts => simp [bracket, between]

/-- **The items of an array are read back.** -/
theorem readsItems_intercalate (h : style.Readable) {parts : List (List Char)} {list : List Raw}
    (hparts : List.Forall₂ Spells parts list) (hne : parts ≠ []) (rest : List Char) :
    ReadsItems ((style.between level).intercalate parts ++ (style.newline level ++ ']' :: rest))
      list rest := by
  obtain ⟨blanks, hbetween, hblanks⟩ := h.exists_between level
  induction hparts with
  | nil => exact absurd rfl hne
  | @cons part item parts list hpart hparts ih =>
    cases hparts with
    | nil =>
      rw [List.intercalate_singleton]
      exact .last (hpart (endsNumber_append (style.blank_newline level) (by decide) rest))
        (style.blank_newline level)
    | cons hnext hparts =>
      rw [List.intercalate_cons_cons, List.append_assoc, List.append_assoc, hbetween]
      exact .cons (hpart (endsNumber_append blank_nil (by decide) _)) hblanks
        (hbetween ▸ ih nofun)

/-- A member's name and value. -/
def SpellsMember (style : Style) (chars : List Char) (member : RawText × Raw) : Prop :=
  ∃ name part, member.1 = .ofString name ∧ chars = style.member name part ∧ Spells part member.2

/-- **The members of an object are read back** behind those before them. -/
theorem readsMembers_intercalate (h : style.Readable) {parts : List (List Char)}
    {before list : RawMembers} (hparts : List.Forall₂ (SpellsMember style) parts list)
    (hne : parts ≠ []) (hnames : ((before ++ list).map Prod.fst).Nodup) (rest : List Char) :
    ReadsMembers
      ((style.between level).intercalate parts ++ (style.newline level ++ '\x7d' :: rest)) before
      (before ++ list) rest := by
  obtain ⟨blanks, hbetween, hblanks⟩ := h.exists_between level
  obtain ⟨space, hcolon, hspace⟩ := h.colon
  induction hparts generalizing before with
  | nil => exact absurd rfl hne
  | @cons part member parts list hpart hparts ih =>
    obtain ⟨text, value⟩ := member
    obtain ⟨name, part, hname, rfl, hpart⟩ := hpart
    obtain rfl : text = .ofString name := hname
    have hput : assign before (.ofString name) value = before ++ [(.ofString name, value)] := by
      refine assign_append_of_not_mem (fun hmem => ?_) value
      rw [List.map_append] at hnames
      exact (List.nodup_append.1 hnames).2.2 _ hmem _ List.mem_cons_self rfl
    have happend : before ++ (RawText.ofString name, value) :: list =
        assign before (.ofString name) value ++ list := by
      rw [hput, List.append_assoc]
      rfl
    rw [happend] at hnames ⊢
    unfold Style.member at *
    cases hparts with
    | nil =>
      rw [List.intercalate_singleton, hcolon, List.append_nil]
      simp only [List.append_assoc, List.cons_append]
      exact .last hspace (hpart (endsNumber_append (style.blank_newline level) (by decide) rest))
        (style.blank_newline level)
    | cons hnext hparts =>
      rw [List.intercalate_cons_cons, hbetween, hcolon]
      simp only [List.append_assoc, List.cons_append]
      exact .cons hspace (hpart (endsNumber_append blank_nil (by decide) _)) hblanks
        (hbetween ▸ ih nofun hnames)

theorem reads_nil (rest : List Char) : Reads ('[' :: ']' :: rest) (.arr []) rest := by
  obtain ⟨hend, hafter⟩ := after?_cons (show isSpace ']' = false by decide) rest
  refine ⟨by simp only [List.length_cons]; omega, ?_⟩
  rw [value, hafter]
  rfl

theorem reads_empty (rest : List Char) : Reads ('\x7b' :: '\x7d' :: rest) (.obj []) rest := by
  obtain ⟨hend, hafter⟩ := after?_cons (show isSpace '\x7d' = false by decide) rest
  refine ⟨by simp only [List.length_cons]; omega, ?_⟩
  rw [value, hafter]
  rfl

theorem ReadsItems.array {s blanks rest : List Char} {list : List Raw} (hblanks : Blank blanks)
    (h : ReadsItems s list rest) : Reads ('[' :: (blanks ++ s)) (.arr list) rest := by
  obtain ⟨item, after, hfirst⟩ := h.exists_reads
  have hclosing := hfirst.after?_eq_none hblanks (.inl rfl)
  have hlt := h.choose
  obtain ⟨hlt', h⟩ := h.skip hblanks
  refine ⟨by simp; omega, ?_⟩
  rw [value, hclosing]
  simp only [bind, Except.bind, h]
  rfl

theorem ReadsMembers.object {s blanks rest : List Char} {list : RawMembers} (hblanks : Blank blanks)
    (h : ReadsMembers s [] list rest) : Reads ('\x7b' :: (blanks ++ s)) (.obj list) rest := by
  obtain ⟨text, rfl⟩ := h.exists_cons
  have hclosing : after? '\x7d' (blanks ++ '"' :: text) = none :=
    Json.after?_eq_none (skipSpace_append hblanks (solid_cons (by decide) text)) (by decide)
  have hlt := h.choose
  obtain ⟨hlt', h⟩ := h.skip hblanks
  refine ⟨by simp at hlt ⊢; omega, ?_⟩
  rw [value, hclosing]
  simp only [bind, Except.bind, h]
  rfl

theorem forall₂_writeItems (style : Style) (level : Nat) {items : List Json}
    (h : ∀ item ∈ items, Spells (item.write style level) item.toRaw) :
    List.Forall₂ Spells (writeItems style level items) (itemsToRaw items) := by
  induction items with
  | nil => exact .nil
  | cons item rest ih =>
    exact .cons (h item List.mem_cons_self) (ih fun other hother => h other (List.mem_cons_of_mem _ hother))

theorem forall₂_writeMembers (style : Style) (level : Nat) {members : Members}
    (h : ∀ member ∈ members, Spells (member.2.write style level) member.2.toRaw) :
    List.Forall₂ (SpellsMember style)
      ((writeMembers style level members).map fun (name, value) => style.member name value)
      (membersToRaw members) := by
  induction members with
  | nil => exact .nil
  | cons member rest ih =>
    exact .cons ⟨_, _, rfl, rfl, h member List.mem_cons_self⟩
      (ih fun other hother => h other (List.mem_cons_of_mem _ hother))

/-- **A written value is read back.** -/
theorem spells_write (hstyle : style.Readable) {v : Json} (h : v.Regular) (level : Nat) :
    Spells (v.write style level) v.toRaw := by
  induction h generalizing level with
  | plain h => exact fun hrest => value_write_plain h style level hrest
  | str text =>
    intro rest hrest
    rw [write]
    obtain ⟨s, heq, hquotes⟩ := quotes_quote style.asciiOnly text rest
    obtain ⟨hlt, hquotes⟩ := hquotes ('"' :: s)
    rw [heq]
    refine ⟨by simp; omega, ?_⟩
    rw [value, hquotes]
    rfl
  | @arr items h ih =>
    intro rest hrest
    have hparts := forall₂_writeItems style (level + 1) fun item hitem => ih item hitem (level + 1)
    rw [write]
    cases items with
    | nil => exact reads_nil rest
    | cons item items =>
      have hne : writeItems style (level + 1) (item :: items) ≠ [] := List.cons_ne_nil _ _
      rw [Style.bracket_append hne]
      exact ReadsItems.array (style.blank_newline _) (readsItems_intercalate hstyle hparts hne rest)
  | @obj members hnames h ih =>
    intro rest hrest
    have hparts := forall₂_writeMembers style (level + 1) fun member hmember =>
      ih member hmember (level + 1)
    rw [write]
    unfold Style.arrange
    rw [hstyle.unsorted, if_neg (by decide)]
    cases members with
    | nil => exact reads_empty rest
    | cons member members =>
      have hne : ((writeMembers style (level + 1) (member :: members)).map fun (name, value) =>
          style.member name value) ≠ [] := List.cons_ne_nil _ _
      rw [Style.bracket_append hne]
      exact ReadsMembers.object (style.blank_newline _)
        (readsMembers_intercalate hstyle hparts hne (by
          rw [List.nil_append, names_membersToRaw]
          exact hnames.map fun _ _ heq => RawText.ofString_inj heq) rest)

/-- **Reading a written text gives the value**, also with blanks behind it. -/
theorem parse_render (hstyle : style.Readable) {v : Json} (h : v.Regular) {blanks : List Char}
    (hblanks : Blank blanks) (hends : EndsNumber blanks) :
    parse (v.render style ++ String.ofList blanks) = .ok v := by
  have hread := spells_write hstyle h 0 hends
  obtain ⟨hlt, hskip⟩ : Reads (skipSpace (write style 0 v ++ blanks)) v.toRaw blanks :=
    hread.skip blank_nil
  have hmark : (write style 0 v ++ blanks).head? ≠ some '\uFEFF' := by
    intro hhead
    obtain ⟨rest, heq⟩ := List.head?_eq_some_iff.1 hhead
    rw [heq] at hread
    obtain ⟨hlt, hread⟩ := hread
    exact head_of_value hread (by decide)
  have hrest : skipSpace blanks = [] := by
    rw [← List.append_nil blanks]
    exact skipSpace_append hblanks nofun
  refine parse_eq_ok_iff.2 ?_
  unfold parseRaw parseChars render
  rw [← String.ofList_append, String.toList_ofList, if_neg hmark]
  simp only [bind, Except.bind, pure, Except.pure, hskip, hrest]
  rfl

end SchemaPress.Json
