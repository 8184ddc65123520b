import SchemaPress.Proofs.Analysis.Inherited
import SchemaPress.Source.Render

/-!
# Which catalogs can be rendered

Rendering can fail in two places only. A property whose name is no text has no place in a source, but
where the schemas are proper there is none. And a Rust union names its variants after what they
hold, where lists of `null` have no name: `null` itself is a variant that holds nothing.

So what an analysis of proper schemas gives is always rendered in TypeScript, Go and Python, and in
Rust unless a union in it has a variant for lists that come down to `null` (`render_of_analyze`).
-/

namespace SchemaPress

/-- What the items of a list are, through any number of lists. -/
def TypeRef.innermost : TypeRef → TypeRef
  | .array items => innermost items
  | type => type

/-- A union has a variant for lists that come down to `null`. -/
def Shape.HasNullList (shape : Shape) : Prop :=
  ∃ variants, shape = .union variants ∧
    ∃ items, .array items ∈ variants ∧ items.innermost = .primitive .null

/-- Some union has such a variant. -/
def Catalog.HasNullList (catalog : Catalog) : Prop :=
  ∃ declaration ∈ catalog, declaration.shape.HasNullList

namespace Source

/-! ### Parts that all succeed -/

theorem ok_bind {ε α β : Type} {x : Except ε α} {f : α → Except ε β} {a : α} (h : x = .ok a) :
    (x >>= f) = f a := by
  rw [h]
  rfl

theorem exists_mapM {ε α β : Type} {f : α → Except ε β} {items : List α}
    (h : ∀ item ∈ items, ∃ b, f item = .ok b) : ∃ bs, items.mapM f = .ok bs := by
  induction items with
  | nil => exact ⟨[], rfl⟩
  | cons item rest ih =>
    obtain ⟨b, hb⟩ := h item List.mem_cons_self
    obtain ⟨bs, hbs⟩ := ih fun other hother => h other (List.mem_cons_of_mem _ hother)
    exact ⟨b :: bs, by rw [List.mapM_cons, ok_bind hb, ok_bind hbs]; rfl⟩

/-- If no part fails with anything but `cause`, the parts fail with it as soon as one of them does. -/
theorem mapM_eq_error {ε α β : Type} {f : α → Except ε β} {items : List α} {cause : ε}
    (h : ∀ item ∈ items, f item = .error cause ∨ ∃ b, f item = .ok b)
    (hitem : ∃ item ∈ items, f item = .error cause) : items.mapM f = .error cause := by
  induction items with
  | nil => obtain ⟨item, hmem, -⟩ := hitem; cases hmem
  | cons item rest ih =>
    rw [List.mapM_cons]
    rcases h item List.mem_cons_self with hb | ⟨b, hb⟩
    · rw [hb]
      rfl
    -- the first part succeeds, so it is one of the others that fails
    · rw [ok_bind hb, ih fun other hother => h other (List.mem_cons_of_mem _ hother)]
      · rfl
      · obtain ⟨other, hother, he⟩ := hitem
        rcases List.mem_cons.1 hother with rfl | hother
        · rw [hb] at he
          cases he
        · exact ⟨other, hother, he⟩

/-! ### Languages in which every union can be written -/

section Named

variable {fields : List Field} (h : ∀ field ∈ fields, ∃ name, field.name = .text name)

include h

theorem TypeScript.exists_fieldLines : ∃ lines, fields.mapM TypeScript.fieldLines = .ok lines := by
  refine exists_mapM fun field hfield => ?_
  obtain ⟨name, hname⟩ := h field hfield
  unfold TypeScript.fieldLines
  rw [hname]
  exact ⟨_, rfl⟩

theorem Go.exists_fieldLines (taken : List String) :
    ∃ lines, Go.fieldLines taken fields = .ok lines := by
  induction fields generalizing taken with
  | nil => exact ⟨[], rfl⟩
  | cons field rest ih =>
    obtain ⟨name, hname⟩ := h field List.mem_cons_self
    obtain ⟨lines, hlines⟩ := ih (fun other hother => h other (List.mem_cons_of_mem _ hother))
      (Go.fieldName name taken :: taken)
    have hwords : wordsSource field.name = .ok name := by rw [hname]; rfl
    -- the tag of a property that is not required may be of any kind
    have htag : ∃ tag, Go.tagText field.name field.required = .ok tag := by
      unfold Go.tagText
      rw [hname]
      split
      · exact ⟨_, rfl⟩
      · exact ⟨_, rfl⟩
    obtain ⟨tag, htag⟩ := htag
    unfold Go.fieldLines
    rw [ok_bind hwords, ok_bind htag, ok_bind hlines]
    exact ⟨_, rfl⟩

theorem Python.exists_needsQuotes : ∃ quotes, Python.needsQuotes fields = .ok quotes := by
  induction fields with
  | nil => exact ⟨false, rfl⟩
  | cons field rest ih =>
    obtain ⟨name, hname⟩ := h field List.mem_cons_self
    unfold Python.needsQuotes
    rw [hname]
    simp only
    split
    · exact ih fun other hother => h other (List.mem_cons_of_mem _ hother)
    · exact ⟨true, rfl⟩

theorem Rust.exists_fieldLines (taken : List String) :
    ∃ lines, Rust.fieldLines taken fields = .ok lines := by
  induction fields generalizing taken with
  | nil => exact ⟨[], rfl⟩
  | cons field rest ih =>
    obtain ⟨name, hname⟩ := h field List.mem_cons_self
    obtain ⟨lines, hlines⟩ := ih (fun other hother => h other (List.mem_cons_of_mem _ hother))
      (Name.fresh taken (Name.orElse (Text.snakeCase name) "field") :: taken)
    have hwords : wordsSource field.name = .ok name := by rw [hname]; rfl
    have htext : textName field.name = .ok name := by rw [hname]; rfl
    unfold Rust.fieldLines
    rw [ok_bind hwords, ok_bind htext, ok_bind hlines]
    exact ⟨_, rfl⟩

end Named

section Blocks

variable {declaration : Declaration} (h : declaration.shape.IsNamed)

include h

theorem TypeScript.exists_block : ∃ lines, TypeScript.block declaration = .ok lines := by
  unfold TypeScript.block
  cases hshape : declaration.shape with
  | object fields =>
    rw [hshape] at h
    obtain ⟨lines, hlines⟩ := TypeScript.exists_fieldLines h
    exact ⟨_, ok_bind hlines⟩
  | _ => exact ⟨_, rfl⟩

theorem Go.exists_block (taken : List String) :
    ∃ lines, Go.block taken declaration = .ok lines := by
  unfold Go.block
  cases hshape : declaration.shape with
  | object fields =>
    rw [hshape] at h
    obtain ⟨lines, hlines⟩ := Go.exists_fieldLines h []
    exact ⟨_, ok_bind hlines⟩
  | enum values =>
    simp only
    split
    · exact ⟨_, rfl⟩
    · exact ⟨_, rfl⟩
  | _ => exact ⟨_, rfl⟩

theorem Python.exists_block : ∃ lines, Python.block declaration = .ok lines := by
  unfold Python.block
  cases hshape : declaration.shape with
  | object fields =>
    rw [hshape] at h
    obtain ⟨quotes, hquotes⟩ := Python.exists_needsQuotes h
    have hlines : ∃ lines, Python.dictionaryLines declaration.name
        (Python.docstring declaration.description) fields = .ok lines := by
      unfold Python.dictionaryLines
      rw [ok_bind hquotes]
      split
      · exact ⟨_, rfl⟩
      · exact ⟨_, rfl⟩
    obtain ⟨lines, hlines⟩ := hlines
    exact ⟨_, ok_bind hlines⟩
  | _ => exact ⟨_, rfl⟩

end Blocks

/-- What has been rendered before decides about names only. -/
theorem Go.exists_blocks {catalog : Catalog} (h : catalog.IsNamed) (taken : List String) :
    ∃ lines, Go.blocks taken catalog = .ok lines := by
  induction catalog generalizing taken with
  | nil => exact ⟨[], rfl⟩
  | cons declaration rest ih =>
    obtain ⟨⟨lines, taken'⟩, hlines⟩ := Go.exists_block (h declaration List.mem_cons_self) taken
    obtain ⟨others, hothers⟩ :=
      ih (fun other hother => h other (List.mem_cons_of_mem _ hother)) taken'
    unfold Go.blocks
    rw [ok_bind hlines]
    exact ⟨_, ok_bind hothers⟩

/-! ### Rust unions -/

namespace Rust

/-- A type has a holder unless it comes down to `null`. -/
theorem exists_holderName {type : TypeRef} (h : type.innermost ≠ .primitive .null) :
    ∃ name, holderName type = .ok name := by
  induction type with
  | primitive primitive =>
    cases primitive with
    | null => exact absurd rfl h
    | _ => exact ⟨_, rfl⟩
  | array items ih =>
    obtain ⟨name, hname⟩ := ih h
    exact ⟨_, ok_bind hname⟩
  | named name backEdge => exact ⟨name, rfl⟩
  | any => exact ⟨_, rfl⟩

theorem holderName_eq_error {type : TypeRef} (h : type.innermost = .primitive .null) :
    holderName type = .error .unknownKey := by
  induction type with
  | primitive primitive =>
    obtain rfl := TypeRef.primitive.inj h
    rfl
  | array items ih =>
    unfold holderName
    rw [ih h]
    rfl
  | named name backEdge => cases h
  | any => cases h

/-- The lines of a variant that is not `null` itself. -/
theorem unionLines_cons {taken : List String} {type : TypeRef} {rest : List TypeRef}
    (h : type ≠ .primitive .null) :
    unionLines taken (type :: rest) = do
      let name := Name.fresh taken (← holderName type)
      return ("    " ++ name ++ "(" ++ typeText type ++ "),") ::
        (← unionLines (name :: taken) rest) := by
  rw [unionLines]
  exact h

theorem exists_unionLines {variants : List TypeRef}
    (h : ∀ items, .array items ∈ variants → items.innermost ≠ .primitive .null)
    (taken : List String) : ∃ lines, unionLines taken variants = .ok lines := by
  induction variants generalizing taken with
  | nil => exact ⟨[], rfl⟩
  | cons variant rest ih =>
    have hrest := ih fun items hitems => h items (List.mem_cons_of_mem _ hitems)
    by_cases hnull : variant = .primitive .null
    · obtain ⟨lines, hlines⟩ := hrest (Name.fresh taken "Null" :: taken)
      rw [hnull]
      exact ⟨_, ok_bind hlines⟩
    · have hinner : variant.innermost ≠ .primitive .null := by
        cases variant with
        | array items => exact h items List.mem_cons_self
        | _ => exact hnull
      obtain ⟨name, hname⟩ := exists_holderName hinner
      obtain ⟨lines, hlines⟩ := hrest (Name.fresh taken name :: taken)
      rw [unionLines_cons hnull, ok_bind hname]
      exact ⟨_, ok_bind hlines⟩

/-- A variant for lists of `null` cannot be named, whatever stands in front of it. -/
theorem unionLines_eq_error {variants : List TypeRef} {items : TypeRef}
    (hmem : .array items ∈ variants) (hnull : items.innermost = .primitive .null)
    (taken : List String) : unionLines taken variants = .error .unknownKey := by
  induction variants generalizing taken with
  | nil => cases hmem
  | cons variant rest ih =>
    by_cases hvariant : variant = .primitive .null
    · rcases List.mem_cons.1 hmem with heq | hmem
      · exact absurd (heq.trans hvariant) nofun
      · rw [hvariant, unionLines, ih hmem]
        rfl
    · rw [unionLines_cons hvariant]
      by_cases hinner : variant.innermost = .primitive .null
      · rw [holderName_eq_error hinner]
        rfl
      · obtain ⟨name, hname⟩ := exists_holderName hinner
        rcases List.mem_cons.1 hmem with heq | hmem
        · exact absurd (heq ▸ hnull) hinner
        · rw [ok_bind hname]
          simp only [ih hmem]
          rfl

theorem exists_block {declaration : Declaration} (h : declaration.shape.IsNamed)
    (hnull : ¬ declaration.shape.HasNullList) : ∃ lines, block declaration = .ok lines := by
  unfold block
  cases hshape : declaration.shape with
  | object fields =>
    rw [hshape] at h
    obtain ⟨lines, hlines⟩ := exists_fieldLines h []
    exact ⟨_, ok_bind hlines⟩
  | enum values =>
    simp only
    split
    · exact ⟨_, rfl⟩
    · exact ⟨_, rfl⟩
  | union variants =>
    have hno (items : TypeRef) (hmem : .array items ∈ variants) :
        items.innermost ≠ .primitive .null :=
      fun heq => hnull ⟨variants, hshape, items, hmem, heq⟩
    obtain ⟨lines, hlines⟩ := exists_unionLines hno []
    exact ⟨_, ok_bind hlines⟩
  | _ => exact ⟨_, rfl⟩

theorem block_eq_error {declaration : Declaration} (h : declaration.shape.HasNullList) :
    block declaration = .error .unknownKey := by
  obtain ⟨variants, hshape, items, hmem, hnull⟩ := h
  unfold block
  rw [hshape]
  simp only
  rw [unionLines_eq_error hmem hnull]
  rfl

end Rust

/-! ### Catalogs -/

/-- **A catalog with texts for names is rendered in every language but Rust.** -/
theorem exists_render {catalog : Catalog} (h : catalog.IsNamed) {language : Language}
    (hlanguage : language ≠ .rust) : ∃ text, catalog.render language = .ok text := by
  cases language with
  | typeScript =>
    obtain ⟨blocks, hblocks⟩ := exists_mapM fun declaration hd =>
      TypeScript.exists_block (h declaration hd)
    exact ⟨_, ok_bind hblocks⟩
  | go =>
    obtain ⟨blocks, hblocks⟩ := Go.exists_blocks h []
    exact ⟨_, ok_bind hblocks⟩
  | rust => exact absurd rfl hlanguage
  | python =>
    obtain ⟨blocks, hblocks⟩ := exists_mapM fun declaration hd =>
      Python.exists_block (h declaration hd)
    exact ⟨_, ok_bind hblocks⟩

/-- **In Rust, it is rendered unless there is a variant for lists of `null`.** -/
theorem exists_render_rust {catalog : Catalog} (h : catalog.IsNamed)
    (hnull : ¬ catalog.HasNullList) : ∃ text, catalog.render .rust = .ok text := by
  obtain ⟨blocks, hblocks⟩ := exists_mapM fun declaration hd =>
    Rust.exists_block (h declaration hd) fun hd' => hnull ⟨declaration, hd, hd'⟩
  exact ⟨_, ok_bind hblocks⟩

theorem render_rust_eq_error {catalog : Catalog} (h : catalog.IsNamed) (hnull : catalog.HasNullList) :
    catalog.render .rust = .error .unknownKey := by
  have each (declaration : Declaration) (hd : declaration ∈ catalog) :
      Rust.block declaration = .error .unknownKey ∨ ∃ lines, Rust.block declaration = .ok lines := by
    by_cases hd' : declaration.shape.HasNullList
    · exact .inl (Rust.block_eq_error hd')
    · exact .inr (Rust.exists_block (h declaration hd) hd')
  obtain ⟨declaration, hd, hd'⟩ := hnull
  have hblocks := mapM_eq_error each ⟨declaration, hd, Rust.block_eq_error hd'⟩
  change Rust.render catalog = _
  unfold Rust.render
  rw [hblocks]
  rfl

/-- **What an analysis gives can be rendered**: in TypeScript, Go and Python always, in Rust if and
only if no union has a variant for lists that come down to `null`. The schemas have to tell their
properties by objects. -/
theorem render_of_analyze {schemas : List Json} {catalog : Catalog}
    (hproper : ∀ schema ∈ schemas, schema.Proper) (h : Analysis.analyze schemas = .ok catalog) :
    (∀ language, language ≠ .rust → ∃ text, catalog.render language = .ok text) ∧
    ((∃ text, catalog.render .rust = .ok text) ↔ ¬ catalog.HasNullList) ∧
    (catalog.render .rust = .error .unknownKey ↔ catalog.HasNullList) := by
  obtain ⟨log, state, hdefines, rfl⟩ := Analysis.defines_of_analyze h
  have hnamed : state.declarations.IsNamed := (hdefines.proper hproper).2
  refine ⟨fun language hlanguage => exists_render hnamed hlanguage, ⟨?_, ?_⟩, ⟨?_, ?_⟩⟩
  · rintro ⟨text, htext⟩ hnull
    rw [render_rust_eq_error hnamed hnull] at htext
    cases htext
  · exact exists_render_rust hnamed
  · intro herror
    refine Classical.byContradiction fun hnull => ?_
    obtain ⟨text, htext⟩ := exists_render_rust hnamed hnull
    rw [herror] at htext
    cases htext
  · exact render_rust_eq_error hnamed

/-! ### A union of lists of `null` -/

section NullLists

open Analysis

/-- `{"type": "array", "items": {"type": "null"}}`. -/
def nullList : Members :=
  [("type", .str "array"), ("items", .obj [("type", .str "null")])]

/-- `{"title": "U", "oneOf": [{"type": "array", "items": {"type": "null"}}]}`. -/
def nullLists : Members :=
  [("title", .str "U"), ("oneOf", .arr [.obj nullList])]

/-- Its catalog, a union of one variant. -/
def nullListsCatalog : Catalog :=
  [⟨"U", "", .union [.array (.primitive .null)]⟩]

theorem typeRef_nullList (hint : Json) (state : State) :
    typeRef (.obj nullList) hint state = .ok (.array (.primitive .null), state) := by
  have hopen : IsOpen ⟨nullList, none⟩ := ⟨fun ref h => (by cases h), rfl, rfl⟩
  have hitems (hint : Json) :
      typeRef (.obj [("type", .str "null")]) hint state = .ok (.primitive .null, state) := by
    have hopen : IsOpen ⟨[("type", .str "null")], none⟩ := ⟨fun ref h => (by cases h), rfl, rfl⟩
    rw [typeRef, schemaRef_open hopen]
    change plainRef _ _ (.str "null") _ = _
    rw [plainRef_eq]
    rfl
  rw [typeRef, schemaRef_open hopen]
  change plainRef _ _ (.str "array") _ = _
  rw [plainRef_eq]
  exact bind_of_ok (hitems _)

theorem analyze_nullLists : analyze [.obj nullLists] = .ok nullListsCatalog := by
  obtain ⟨key, hkey⟩ : ∃ key, Schema.structureText ⟨nullLists, none⟩ = .ok key := ⟨_, rfl⟩
  have hbase (hint : Json) : baseName (.str "U") hint = .ok "U" := by
    unfold baseName
    simp only [show Name.ofType "U" = "U" by decide +kernel]
    rfl
  have hroot : typeRef (.obj nullLists) (.str "U") {} =
      .ok (.named "U" false, ⟨nullListsCatalog, ["U"], [(key, "U")], []⟩) := by
    have hfresh : Name.fresh ({} : State).names "U" = "U" := by decide +kernel
    rw [typeRef, schemaRef_union (fun ref h => by cases h) rfl rfl,
      bind_of_ok (enter_of_base hkey rfl (hbase _)), hfresh]
    change (variantsOf "U" 0 [.obj nullList] [] >>= _) _ = _
    have hvariants (state : State) : variantsOf "U" 0 [.obj nullList] [] state =
        .ok ([.array (.primitive .null)], state) := by
      rw [variantsOf, bind_of_ok (typeRef_nullList _ _), variantsOf]
      rfl
    rw [bind_of_ok (hvariants _)]
    rfl
  have hdefine : define (.obj nullLists) (.str "U") {} =
      .ok ((), ⟨nullListsCatalog, ["U"], [(key, "U")], []⟩) := by
    unfold define
    rw [bind_of_ok hroot]
    rfl
  unfold analyze
  change ((define (.obj nullLists) (.str "U") >>= fun _ => pure ()) >>= fun _ =>
    defineRest [.obj nullLists]) {} >>= _ = _
  rw [bind_of_ok (bind_of_ok hdefine)]
  rfl
/-- Neither of the two tells properties. -/
theorem proper_nullLists : (Json.obj nullLists).Proper := by
  have hitems : (Json.obj [("type", .str "null")]).Proper :=
    Json.proper_obj_iff.2 (List.forall_mem_singleton.2 (Json.properUnder_of_none nofun rfl))
  have hlist : (Json.obj nullList).Proper := by
    refine Json.proper_obj_iff.2 (List.forall_mem_cons.2 ⟨Json.properUnder_of_none nofun rfl, ?_⟩)
    exact List.forall_mem_singleton.2 ⟨nofun, List.forall_mem_singleton.2 hitems⟩
  refine Json.proper_obj_iff.2 (List.forall_mem_cons.2 ⟨Json.properUnder_of_none nofun rfl, ?_⟩)
  exact List.forall_mem_singleton.2 ⟨nofun, List.forall_mem_singleton.2 hlist⟩

/-- The union is analysed and rendered in three languages, but not in Rust. -/
theorem render_of_analyze_nullLists :
    (Json.obj nullLists).Proper ∧ analyze [.obj nullLists] = .ok nullListsCatalog ∧
    (∀ language, language ≠ .rust → ∃ text, nullListsCatalog.render language = .ok text) ∧
    nullListsCatalog.render .rust = .error .unknownKey := by
  obtain ⟨hothers, -, hrust⟩ :=
    render_of_analyze (List.forall_mem_singleton.2 proper_nullLists) analyze_nullLists
  refine ⟨proper_nullLists, analyze_nullLists, hothers, hrust.2 ?_⟩
  exact ⟨_, List.mem_cons_self, _, rfl, _, List.mem_cons_self, rfl⟩

end NullLists

end Source

end SchemaPress
