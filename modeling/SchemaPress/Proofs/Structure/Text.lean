import SchemaPress.Proofs.Json.Distinct
import SchemaPress.Proofs.Json.Number
import SchemaPress.Proofs.Structure.Outline
import SchemaPress.Schema.Restrict

/-!
# Structure texts determine what they are made from

`Schema.structureText` is the text of an outline (`Schema.structureText_eq`): that of the schema as
a JSON object, or, where the properties are kept in a table, of the members with the sorted table in
place. Words and numbers have no bracket, comma or quote in them, so these outlines are legible
(`Outline.legible_ofJson`, `Schema.legible_outline`) and schemas with one structure text have one
outline (`Schema.outline_eq_of_structureText`).

The depth of a schema is a matter of its outline (`Schema.depth_outline`), because names and nesting
can be seen there and the order of the members does not count. Hence the structure text determines
the depth (`Schema.depth_eq_of_structureText`). A schema that keeps a table must not have a member
`properties` beside it, which its structure text would not show; `Schema.Sound` says so, and folding
and restriction keep it.
-/

namespace SchemaPress

namespace Outline

/-! ### Words and numbers -/

theorem isWordChar_of_isDigit {c : Char} (h : c.isDigit = true) : isWordChar c = true := by
  have ne {d : Char} (hd : d.isDigit = false) : (c == d) = false := by
    rw [beq_eq_false_iff_ne]
    rintro rfl
    rw [h] at hd
    exact absurd hd (by decide)
  simp [isWordChar, isStop, bne, ne (d := ',') rfl, ne (d := ']') rfl, ne (d := '\x7d') rfl,
    ne (d := '"') rfl, ne (d := '[') rfl, ne (d := '\x7b') rfl]

theorem isWordChar_of_mem_toDigits {c : Char} {n : Nat} (h : c ∈ Nat.toDigits 10 n) :
    isWordChar c = true :=
  isWordChar_of_isDigit (Nat.isDigit_of_mem_toDigits (by decide) (by decide) h)

theorem isWordChar_of_mem_trimmedDigits {c : Char} {d : Double.Decimal}
    (h : c ∈ d.trimmedDigits) : isWordChar c = true := by
  refine isWordChar_of_mem_toDigits (n := d.digits) ?_
  have := (List.dropWhile_sublist _).subset (List.mem_reverse.1 h)
  exact List.mem_reverse.1 this

theorem isWordChar_of_mem_replicate {c : Char} {n : Nat} (h : c ∈ List.replicate n '0') :
    isWordChar c = true := by
  rw [(List.mem_replicate.1 h).2]
  decide

/-- What a decimal is written with. -/
theorem isWordChar_of_mem_text {c : Char} {d : Double.Decimal} (h : c ∈ d.text) :
    isWordChar c = true := by
  have digits {c : Char} := @isWordChar_of_mem_trimmedDigits c d
  -- the four layouts: below one, whole, with a point inside, with an exponent
  unfold Double.Decimal.text at h
  simp only at h
  split at h
  · split at h
    · simp only [List.mem_append, List.mem_cons, List.not_mem_nil, or_false] at h
      rcases h with ((rfl | rfl) | h) | h
      · decide
      · decide
      · exact isWordChar_of_mem_replicate h
      · exact digits h
    · split at h
      · simp only [List.mem_append, List.mem_cons, List.not_mem_nil, or_false] at h
        rcases h with (h | h) | rfl | rfl
        · exact digits h
        · exact isWordChar_of_mem_replicate h
        · decide
        · decide
      · simp only [List.mem_append, List.mem_cons, List.not_mem_nil, or_false] at h
        rcases h with (h | rfl) | h
        · exact digits (List.mem_of_mem_take h)
        · decide
        · exact digits (List.mem_of_mem_drop h)
  · simp only [List.mem_append, List.mem_cons, List.not_mem_nil, or_false] at h
    rcases h with (((h | h) | rfl | rfl) | h) | h
    · exact digits (List.mem_of_mem_take h)
    · split at h
      · simp at h
      · rcases List.mem_cons.1 h with rfl | h
        · decide
        · exact digits (List.mem_of_mem_drop h)
    · decide
    · split <;> decide
    · exact isWordChar_of_mem_replicate h
    · exact isWordChar_of_mem_toDigits h

theorem text_ne_nil (d : Double.Decimal) : d.text ≠ [] := by
  unfold Double.Decimal.text
  simp only
  split
  · split
    · simp
    · split <;> simp
  · simp

/-- A word that may stand in an outline. -/
def IsWord (chars : List Char) : Prop :=
  chars ≠ [] ∧ ∀ c ∈ chars, isWordChar c = true

theorem IsWord.of_all {chars : List Char} (hne : chars ≠ []) (h : chars.all isWordChar = true) :
    IsWord chars :=
  ⟨hne, List.all_eq_true.1 h⟩

theorem IsWord.cons {c : Char} {chars : List Char} (hc : isWordChar c = true)
    (h : ∀ c ∈ chars, isWordChar c = true) : IsWord (c :: chars) := by
  refine ⟨by simp, fun d hd => ?_⟩
  rcases List.mem_cons.1 hd with rfl | hd
  · exact hc
  · exact h d hd

theorem isWord_int (n : Int) : IsWord (toString n).toList := by
  rw [Json.toList_toString_int]
  cases decide (n < 0) with
  | false => exact ⟨Nat.toDigits_ne_nil, fun c hc => isWordChar_of_mem_toDigits hc⟩
  | true => exact IsWord.cons (by decide) fun c hc => isWordChar_of_mem_toDigits hc

theorem isWord_double (x : Double) : IsWord (x.text "NaN" "Infinity") := by
  cases x with
  | nan => exact .of_all (by decide) rfl
  | infinity negative => cases negative <;> exact .of_all (by decide) rfl
  | finite negative mantissa exponent =>
    have body : IsWord (if mantissa = 0 then ['0', '.', '0']
        else (Double.shortest mantissa exponent).text) := by
      split
      · exact .of_all (by decide) rfl
      · exact ⟨text_ne_nil _, fun c hc => isWordChar_of_mem_text hc⟩
    cases negative with
    | false => exact body
    | true => exact IsWord.cons (by decide) body.2

/-! ### The outline of a value -/

/-- Rows in the order of their names. -/
def arrange (rows : List (String × Outline)) : List (String × Outline) :=
  rows.mergeSort fun a b => decide (a.1 ≤ b.1)

theorem mem_arrange {rows : List (String × Outline)} {row : String × Outline} :
    row ∈ arrange rows ↔ row ∈ rows := List.mem_mergeSort

theorem lookup_eq_head_filter (rows : List (String × Outline)) (name : String) :
    rows.lookup name = (rows.filter fun row => row.1 == name).head?.map Prod.snd := by
  induction rows with
  | nil => rfl
  | cons row rest ih =>
    obtain ⟨key, outline⟩ := row
    by_cases hkey : key = name
    · subst hkey
      simp
    · have hne : (name == key) = false := by simpa using fun heq : name = key => hkey heq.symm
      have hne' : (key == name) = false := by simpa using hkey
      rw [List.lookup_cons, hne, List.filter_cons_of_neg (by simp [hne'])]
      exact ih

/-- Sorting keeps rows of one name in their order. -/
theorem filter_arrange (rows : List (String × Outline)) (name : String) :
    (arrange rows).filter (fun row => row.1 == name) = rows.filter fun row => row.1 == name := by
  -- rows of one name are sorted already, so a stable sort keeps them as a sublist
  have hsorted : (rows.filter fun row => row.1 == name).Pairwise
      fun a b => decide (a.1 ≤ b.1) = true := by
    refine List.pairwise_of_forall_mem_list fun a ha b hb => ?_
    have ha : a.1 = name := by simpa using (List.mem_filter.1 ha).2
    have hb : b.1 = name := by simpa using (List.mem_filter.1 hb).2
    refine decide_eq_true ?_
    exact Eq.subst (ha.trans hb.symm) (String.le_refl a.1)
  have hsub : (rows.filter fun row => row.1 == name).Sublist (arrange rows) :=
    List.sublist_mergeSort (fun a b c hab hbc => by
      rw [decide_eq_true_eq] at hab hbc ⊢
      exact String.le_trans hab hbc) (fun a b => by
      simpa using String.le_total a.1 b.1) hsorted List.filter_sublist
  have hfilter := hsub.filter fun row => row.1 == name
  rw [List.filter_filter] at hfilter
  simp only [Bool.and_self] at hfilter
  -- sorting permutes, so there are as many rows of the name as before
  refine (hfilter.eq_of_length ?_).symm
  exact ((List.mergeSort_perm rows _).filter _).length_eq.symm

/-- **The first row of a name is found in sorted rows**, too. -/
theorem lookup_arrange (rows : List (String × Outline)) (name : String) :
    (arrange rows).lookup name = rows.lookup name := by
  rw [lookup_eq_head_filter, lookup_eq_head_filter, filter_arrange]

mutual
/-- The outline of a value. -/
def ofJson : Json → Outline
  | .null => .word "null".toList
  | .bool true => .word "true".toList
  | .bool false => .word "false".toList
  | .int value => .word (toString value.value).toList
  | .double value => .word (value.text "NaN" "Infinity")
  | .str string => .text string
  | .arr items => .list (ofItems items)
  | .obj members => .table (arrange (ofMembers members))

/-- The outlines of items. -/
def ofItems : List Json → List Outline
  | [] => []
  | item :: rest => ofJson item :: ofItems rest

/-- The outlines of members. -/
def ofMembers : List (String × Json) → List (String × Outline)
  | [] => []
  | (name, value) :: rest => (name, ofJson value) :: ofMembers rest
end

theorem ofMembers_eq_map (members : Members) :
    ofMembers members = members.map fun member => (member.1, ofJson member.2) := by
  induction members with
  | nil => rfl
  | cons member rest ih => rw [ofMembers, ih, List.map_cons]

mutual
theorem legible_ofJson : ∀ value : Json, (ofJson value).Legible
  | .null => IsWord.of_all (by decide) rfl
  | .bool true => IsWord.of_all (by decide) rfl
  | .bool false => IsWord.of_all (by decide) rfl
  | .int value => isWord_int value.value
  | .double value => isWord_double value
  | .str _ => trivial
  | .arr items => legible_ofItems items
  | .obj members => by
    refine legibleRows_iff.2 fun row hrow => ?_
    exact legibleRows_iff.1 (legible_ofMembers members) row (mem_arrange.1 hrow)

theorem legible_ofItems : ∀ items : List Json, LegibleItems (ofItems items)
  | [] => trivial
  | item :: rest => ⟨legible_ofJson item, legible_ofItems rest⟩

theorem legible_ofMembers : ∀ members : List (String × Json), LegibleRows (ofMembers members)
  | [] => trivial
  | (_, value) :: rest => ⟨legible_ofJson value, legible_ofMembers rest⟩
end

/-! ### The text of a value is that of its outline -/

/-- Brackets of the sorted style, which puts everything on one line. -/
theorem bracket_sorted (level : Nat) (left right : Char) (parts : List (List Char)) :
    Json.Style.sorted.bracket level left right parts =
      left :: separator.intercalate parts ++ [right] := by
  cases parts with
  | nil => simp [Json.Style.bracket]
  | cons part rest =>
    have : Json.Style.sorted.separator.toList ++ Json.Style.sorted.newline (level + 1) =
      separator :=
      rfl
    simp only [Json.Style.bracket, this]
    simp [Json.Style.newline, Json.Style.sorted]

/-- The rows that written members are. -/
theorem map_member_arrange (rows : List (String × Outline)) :
    (Json.Style.sorted.arrange (rows.map fun row => (row.1, row.2.write))).map
      (fun (name, value) => Json.Style.sorted.member name value) = writeRows (arrange rows) := by
  -- names decide the order, and writing the values does not change them
  have sort : Json.Style.sorted.arrange (rows.map fun row => (row.1, row.2.write)) =
      (arrange rows).map fun row => (row.1, row.2.write) := by
    refine (List.map_mergeSort (f := fun row : String × Outline => (row.1, row.2.write)) ?_).symm
    exact fun _ _ _ _ => rfl
  rw [sort, List.map_map, writeRows_eq_map]
  refine List.map_congr_left fun row _ => ?_
  simp [Json.Style.member, Json.Style.sorted, writeRow]

mutual
theorem write_sorted : ∀ (level : Nat) (value : Json),
    value.write .sorted level = (ofJson value).write
  | _, .null => rfl
  | _, .bool true => rfl
  | _, .bool false => rfl
  | _, .int _ => rfl
  | _, .double _ => rfl
  | _, .str _ => rfl
  | level, .arr items => by
    rw [Json.write, bracket_sorted, writeItems_sorted (level + 1) items, ofJson, write]
  | level, .obj members => by
    rw [Json.write, bracket_sorted, writeMembers_sorted (level + 1) members, map_member_arrange,
      ofJson, write]

theorem writeItems_sorted : ∀ (level : Nat) (items : List Json),
    Json.writeItems .sorted level items = writeItems (ofItems items)
  | _, [] => rfl
  | level, item :: rest => by
    rw [Json.writeItems, write_sorted level item, writeItems_sorted level rest, ofItems, writeItems]

theorem writeMembers_sorted : ∀ (level : Nat) (members : List (String × Json)),
    Json.writeMembers .sorted level members =
      (ofMembers members).map fun row => (row.1, row.2.write)
  | _, [] => rfl
  | level, (name, value) :: rest => by
    rw [Json.writeMembers, write_sorted level value, writeMembers_sorted level rest, ofMembers,
      List.map_cons]
end

/-! ### Heights -/

theorem heightRows_le_iff {rows : List (String × Outline)} {n : Nat} :
    heightRows rows ≤ n ↔ ∀ row ∈ rows, row.2.height ≤ n := by
  induction rows with
  | nil => simp [heightRows]
  | cons row rest ih => simp only [heightRows, List.mem_cons, forall_eq_or_imp, Nat.max_le, ih]

/-- The order of rows does not count. -/
theorem heightRows_eq_of_mem_iff {rows others : List (String × Outline)}
    (h : ∀ row, row ∈ rows ↔ row ∈ others) : heightRows rows = heightRows others := by
  apply Nat.le_antisymm
  · exact heightRows_le_iff.2 fun row hrow =>
      heightRows_le_iff.1 (Nat.le_refl _) row ((h row).1 hrow)
  · exact heightRows_le_iff.2 fun row hrow =>
      heightRows_le_iff.1 (Nat.le_refl _) row ((h row).2 hrow)

mutual
/-- The height of a value is that of its outline. -/
theorem height_ofJson : ∀ value : Json, (ofJson value).height = value.height
  | .null => rfl
  | .bool true => rfl
  | .bool false => rfl
  | .int _ => rfl
  | .double _ => rfl
  | .str _ => rfl
  | .arr items => by rw [ofJson, height, heightItems_ofItems items, Json.height]
  | .obj members => by
    rw [ofJson, height, heightRows_eq_of_mem_iff fun _ => mem_arrange,
      heightRows_ofMembers members, Json.height]

theorem heightItems_ofItems :
    ∀ items : List Json, heightItems (ofItems items) = Json.heightItems items
  | [] => rfl
  | item :: rest => by
    rw [ofItems, heightItems, height_ofJson item, heightItems_ofItems rest, Json.heightItems]

theorem heightRows_ofMembers : ∀ members : List (String × Json),
    heightRows (ofMembers members) = Json.heightMembers members
  | [] => rfl
  | (_, value) :: rest => by
    rw [ofMembers, heightRows, height_ofJson value, heightRows_ofMembers rest, Json.heightMembers]
end

/-- The greatest height of the rows that the analysis takes subschemas from. -/
def depth : Outline → Nat
  | .table rows => heightRows (rows.filter fun row => Schema.leadsOn row.1)
  | _ => 0

theorem depth_table_le_iff {rows : List (String × Outline)} {n : Nat} :
    depth (.table rows) ≤ n ↔
      ∀ row ∈ rows, Schema.leadsOn row.1 = true → row.2.height ≤ n := by
  simp only [depth, heightRows_le_iff, List.mem_filter, and_imp]

/-- The row of this name. -/
def row? : Outline → String → Option Outline
  | .table rows, name => rows.lookup name
  | _, _ => none

end Outline

namespace Schema

open Outline

/-! ### The outline of a schema -/

/-- The outline of a table, its rows sorted by name. -/
def tableOutline (table : PropertyTable) : Outline :=
  .table ((table.mergeSort fun a b => nameLe a.1 b.1).map fun row => (keyText row.1, ofJson row.2))

/-- The outline that the structure text of a schema shows. -/
def outline (schema : Schema) : Outline :=
  match schema.table with
  | none => ofJson (.obj schema.members)
  | some table => .table (arrange (("properties", tableOutline table) ::
      ofMembers (Members.erase schema.members "properties")))

theorem legible_tableOutline (table : PropertyTable) : (tableOutline table).Legible := by
  refine legibleRows_iff.2 fun row hrow => ?_
  obtain ⟨_, _, rfl⟩ := List.mem_map.1 hrow
  exact legible_ofJson _

theorem legible_outline (schema : Schema) : schema.outline.Legible := by
  unfold outline
  split
  · exact legible_ofJson _
  · refine legibleRows_iff.2 fun row hrow => ?_
    rcases List.mem_cons.1 (mem_arrange.1 hrow) with rfl | hrow
    · exact legible_tableOutline _
    · exact legibleRows_iff.1 (legible_ofMembers _) row hrow

theorem writeTable_eq (table : PropertyTable) : writeTable table = (tableOutline table).write := by
  rw [writeTable, bracket_sorted, tableOutline, write, writeRows_eq_map, List.map_map]
  congr 4
  funext row
  simp [Json.Style.member, Json.Style.sorted, writeRow, ← write_sorted 2]

/-- **A structure text is the text of an outline.** -/
theorem structureText_eq {schema : Schema} {text : String} (h : schema.structureText = .ok text) :
    text.toList = schema.outline.write := by
  unfold structureText at h
  unfold outline
  cases htable : schema.table with
  | none =>
    rw [htable] at h
    cases h
    change ((Json.obj schema.members).render .sorted).toList = (ofJson (.obj schema.members)).write
    rw [Json.render, String.toList_ofList, write_sorted]
  | some table =>
    rw [htable] at h
    simp only at h ⊢
    split at h
    · cases h
      have rows : ("properties", writeTable table) ::
          Json.writeMembers .sorted 1 (Members.erase schema.members "properties") =
          (("properties", tableOutline table) ::
            ofMembers (Members.erase schema.members "properties")).map
            fun row => (row.1, row.2.write) := by
        rw [List.map_cons, writeMembers_sorted, writeTable_eq]
      rw [String.toList_ofList, bracket_sorted, rows, map_member_arrange, write]
    · cases h

/-- Schemas of one structure text have one outline. -/
theorem outline_eq_of_structureText {schema other : Schema} {text : String}
    (h : schema.structureText = .ok text) (h' : other.structureText = .ok text) :
    schema.outline = other.outline :=
  write_inj schema.legible_outline other.legible_outline
    ((structureText_eq h).symm.trans (structureText_eq h'))

/-! ### Sound schemas -/

/-- **No member beside a table.** Where the properties are kept in a table, there is no member
`properties`, which the structure text would leave out. -/
def Sound (schema : Schema) : Prop :=
  ∀ table, schema.table = some table → ∀ value, ("properties", value) ∉ schema.members

theorem sound_of_members (members : Members) : Sound ⟨members, none⟩ :=
  fun _ h => by simp at h

/-- Folding makes a table only where it takes the member away. -/
theorem sound_finish (merging : Merging) : merging.finish.Sound := by
  intro table htable value hmem
  unfold Merging.finish at htable hmem
  split at htable
  · simp at htable
  -- of the two branches left, the one that makes a table erases the member
  · next hne =>
    rw [if_neg hne] at hmem
    split at htable
    · simp at htable
    · next hno =>
      simp only [hno] at hmem
      exact (Members.mem_of_mem_erase hmem).2 rfl

theorem sound_mergeAllOf {schema merged : Schema} {allOf : Json}
    (hget : schema.get? "allOf" = some allOf) (h : schema.mergeAllOf allOf = .ok merged) :
    merged.Sound := by
  obtain ⟨merging, rfl, -⟩ := bounded_of_mergeAllOf hget h
  exact sound_finish merging

theorem sound_restrict {schema : Schema} (type : Json) (h : schema.Sound) :
    (schema.restrict type).Sound := by
  intro table htable value hmem
  have hold : schema.table = some table := by
    unfold restrict at htable
    split at htable
    · simp at htable
    · simp only at htable
      split at htable
      · exact htable
      · simp at htable
  rcases mem_restrict hmem with hmem | hname
  · exact h table hold value hmem
  · exact absurd hname (by decide)

/-! ### Depth -/

theorem membersDepth_le_iff {members : Members} {n : Nat} :
    membersDepth members ≤ n ↔
      ∀ name value, (name, value) ∈ members → leadsOn name = true → value.height ≤ n :=
  ⟨fun h _ _ hm hl => Nat.le_trans (le_membersDepth hm hl) h, membersDepth_le⟩

/-- Where members are rows in any order, the outline is as deep as the members are. -/
theorem membersDepth_le_iff_rows {members : Members} {n : Nat} :
    membersDepth members ≤ n ↔
      ∀ row ∈ ofMembers members, leadsOn row.1 = true → row.2.height ≤ n := by
  rw [membersDepth_le_iff, ofMembers_eq_map]
  constructor
  · rintro h row hrow hl
    obtain ⟨⟨name, value⟩, hmem, rfl⟩ := List.mem_map.1 hrow
    rw [height_ofJson]
    exact h name value hmem hl
  · intro h name value hmem hl
    rw [← height_ofJson]
    exact h (name, ofJson value) (List.mem_map.2 ⟨(name, value), hmem, rfl⟩) hl

theorem height_tableOutline (table : PropertyTable) :
    (tableOutline table).height = PropertyTable.height table + 1 := by
  rw [tableOutline, height]
  congr 1
  apply Nat.le_antisymm
  · refine heightRows_le_iff.2 fun row hrow => ?_
    obtain ⟨⟨name, value⟩, hmem, rfl⟩ := List.mem_map.1 hrow
    rw [height_ofJson]
    exact PropertyTable.height_le_of_mem (List.mem_mergeSort.1 hmem)
  · refine PropertyTable.height_le fun name value hmem => ?_
    rw [← height_ofJson]
    exact heightRows_le_iff.1 (Nat.le_refl _) (keyText name, ofJson value)
      (List.mem_map.2 ⟨(name, value), List.mem_mergeSort.2 hmem, rfl⟩)

/-- **The depth of a sound schema is a matter of its outline.** -/
theorem depth_outline {schema : Schema} (h : schema.Sound) :
    schema.outline.depth = schema.depth := by
  -- two numbers with the same bounds: the outline counts its rows in another order
  have bound (n : Nat) : schema.outline.depth ≤ n ↔ schema.depth ≤ n := by
    cases htable : schema.table with
    | none =>
      simp only [outline, htable, ofJson, Schema.depth, depth_table_le_iff, mem_arrange,
        Nat.max_le, Nat.zero_le, and_true, membersDepth_le_iff_rows]
    | some table =>
      -- a sound schema has no such member, so taking it away changes nothing
      have members : Members.erase schema.members "properties" = schema.members := by
        refine List.filter_eq_self.2 fun member hmem => ?_
        obtain ⟨name, value⟩ := member
        simp only [bne_iff_ne, ne_eq]
        rintro rfl
        exact h table htable value hmem
      simp only [outline, htable, Schema.depth, depth_table_le_iff, mem_arrange, List.mem_cons,
        forall_eq_or_imp, Nat.max_le, membersDepth_le_iff_rows, members, height_tableOutline]
      constructor
      · rintro ⟨hp, hm⟩
        exact ⟨hm, hp rfl⟩
      · rintro ⟨hm, hp⟩
        exact ⟨fun _ => hp, hm⟩
  exact Nat.le_antisymm ((bound _).2 (Nat.le_refl _)) ((bound _).1 (Nat.le_refl _))

/-! ### Members -/

theorem lookup_ofMembers (members : Members) (name : String) :
    (ofMembers members).lookup name = (members.get? name).map ofJson := by
  induction members with
  | nil => rfl
  | cons first rest ih =>
    obtain ⟨key, value⟩ := first
    by_cases hkey : name = key
    · subst hkey
      rw [ofMembers, Members.get?_cons_self]
      simp
    · have hne : (name == key) = false := by simpa using hkey
      rw [ofMembers, Members.get?_cons_of_ne hkey, List.lookup_cons, hne]
      exact ih

/-- The outline of a schema shows its members, other than the properties. -/
theorem row?_outline (schema : Schema) {name : String} (hname : name ≠ "properties") :
    schema.outline.row? name = (schema.get? name).map ofJson := by
  unfold outline
  split
  · rw [ofJson, row?, lookup_arrange, lookup_ofMembers]
    rfl
  · have hne : (name == "properties") = false := by simpa using hname
    rw [row?, lookup_arrange, List.lookup_cons, hne]
    simp only
    rw [lookup_ofMembers, Members.get?_erase, if_neg hname]
    rfl

/-- The structure text determines the height of the type. -/
theorem typeHeight_eq_of_structureText {schema other : Schema} {text : String}
    (h : schema.structureText = .ok text) (h' : other.structureText = .ok text) :
    schema.typeHeight = other.typeHeight := by
  have hrow : (schema.get? "type").map ofJson = (other.get? "type").map ofJson := by
    rw [← row?_outline schema (by decide), ← row?_outline other (by decide),
      outline_eq_of_structureText h h']
  -- the row of the type tells the height of the type
  have hheight := congrArg (fun row : Option Outline =>
    (row.map fun row => row.height + 1).getD 0) hrow
  simp only [Option.map_map] at hheight
  have hof (schema : Schema) :
      ((schema.get? "type").map ((fun row => row.height + 1) ∘ ofJson)).getD 0 =
        schema.typeHeight := by
    unfold typeHeight heightOf
    cases schema.get? "type" with
    | none => rfl
    | some value => exact congrArg (· + 1) (height_ofJson value)
  rw [hof, hof] at hheight
  exact hheight

/-- **The structure text determines the depth.** -/
theorem depth_eq_of_structureText {schema other : Schema} {text : String} (hs : schema.Sound)
    (ho : other.Sound) (h : schema.structureText = .ok text) (h' : other.structureText = .ok text) :
    schema.depth = other.depth := by
  rw [← depth_outline hs, ← depth_outline ho, outline_eq_of_structureText h h']

end Schema

end SchemaPress
