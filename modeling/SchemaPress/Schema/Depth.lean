import SchemaPress.Json.Members
import SchemaPress.Schema.Merge

/-!
# How far a schema goes on

The analysis of a schema goes to subschemas, to the schema with its `allOf` folded in, and to the
schema restricted to one of several types. A subschema has a smaller `depth`. Folding an `allOf` in
keeps the depth bounded and lowers `allOfHeight`, because what is left of `allOf` comes from inside a
part (`depth_mergeAllOf_le`, `allOfHeight_mergeAllOf_lt`). A restriction keeps both bounded and takes
an element for the list of types.

`required` and `type` are left out of the depth: the analysis takes no subschemas from them, and they
are the members that folding and restriction make up.
-/

namespace SchemaPress

namespace PropertyTable

theorem height_le {table : PropertyTable} {n : Nat}
    (h : ∀ name value, (name, value) ∈ table → value.height ≤ n) : table.height ≤ n := by
  induction table with
  | nil => simp [height]
  | cons first rest ih =>
    obtain ⟨name, value⟩ := first
    rw [height]
    have := ih fun name value hm => h name value (List.mem_cons_of_mem _ hm)
    have := h name value List.mem_cons_self
    omega

theorem height_le_of_mem {table : PropertyTable} {name : PropertyName} {value : Json}
    (h : (name, value) ∈ table) : value.height ≤ table.height := by
  induction table with
  | nil => simp at h
  | cons first rest ih =>
    obtain ⟨key, old⟩ := first
    rw [height]
    rcases List.mem_cons.1 h with heq | h
    · cases heq; omega
    · have := ih h; omega

theorem mem_put {table : PropertyTable} {name key : PropertyName} {value v : Json}
    (h : (key, v) ∈ table.put name value) : (∃ k, (k, v) ∈ table) ∨ v = value := by
  induction table with
  | nil => simp [put] at h; exact .inr h.2
  | cons first rest ih =>
    obtain ⟨k, old⟩ := first
    simp only [put] at h
    split at h
    · rcases List.mem_cons.1 h with heq | h
      · cases heq; exact .inr rfl
      · exact .inl ⟨key, List.mem_cons_of_mem _ h⟩
    · rcases List.mem_cons.1 h with heq | h
      · cases heq; exact .inl ⟨_, List.mem_cons_self⟩
      · rcases ih h with ⟨k', hk⟩ | hv
        · exact .inl ⟨k', List.mem_cons_of_mem _ hk⟩
        · exact .inr hv

end PropertyTable

namespace PropertyTable

theorem mem_putAll {rows table : PropertyTable} {key : PropertyName} {v : Json}
    (h : (key, v) ∈ table.putAll rows) : (∃ k, (k, v) ∈ table) ∨ ∃ k, (k, v) ∈ rows := by
  induction rows generalizing table with
  | nil => exact .inl ⟨key, h⟩
  | cons first rest ih =>
    obtain ⟨name, value⟩ := first
    rcases ih h with ⟨k, hk⟩ | ⟨k, hk⟩
    · rcases mem_put hk with ⟨k, hk⟩ | rfl
      · exact .inl ⟨k, hk⟩
      · exact .inr ⟨name, List.mem_cons_self⟩
    · exact .inr ⟨k, List.mem_cons_of_mem _ hk⟩

theorem mem_of_mem_putAll_nil {listed : PropertyTable} {name : PropertyName} {v : Json}
    (h : (name, v) ∈ putAll [] listed) : ∃ key, (key, v) ∈ listed :=
  (mem_putAll h).resolve_left fun ⟨_, hno⟩ => List.not_mem_nil hno

theorem mem_of_toMembers? {table : PropertyTable} {members : Members} {name : String} {v : Json}
    (h : table.toMembers? = some members) (hm : (name, v) ∈ members) :
    (.text name, v) ∈ table := by
  induction table generalizing members with
  | nil => simp [toMembers?] at h; subst h; simp at hm
  | cons first rest ih =>
    obtain ⟨key, value⟩ := first
    cases key with
    | scalar value => simp [toMembers?] at h
    | text key =>
      simp only [toMembers?, Option.map_eq_some_iff] at h
      obtain ⟨others, ho, rfl⟩ := h
      rcases List.mem_cons.1 hm with heq | hm
      · cases heq; exact List.mem_cons_self
      · exact List.mem_cons_of_mem _ (ih ho hm)

end PropertyTable

namespace Schema

/-- Whether the analysis may take subschemas from the member of this name. -/
def leadsOn (name : String) : Bool :=
  name != "required" && name != "type"

/-- The greatest height of the members that lead on. -/
def membersDepth : Members → Nat
  | [] => 0
  | (name, value) :: rest => max (if leadsOn name then value.height else 0) (membersDepth rest)

/-- How many containers are nested in what the analysis may take subschemas from. -/
def depth (schema : Schema) : Nat :=
  max (membersDepth schema.members) (match schema.table with
    | some table => PropertyTable.height table + 1
    | none => 0)

/-- The height of a member, counted from one; nothing if there is none. -/
def heightOf (schema : Schema) (name : String) : Nat :=
  match schema.get? name with
  | some value => value.height + 1
  | none => 0

/-- The height of `allOf`, counted from one. -/
def allOfHeight (schema : Schema) : Nat := schema.heightOf "allOf"

/-- The height of `type`, counted from one. -/
def typeHeight (schema : Schema) : Nat := schema.heightOf "type"

theorem membersDepth_le {members : Members} {n : Nat}
    (h : ∀ name value, (name, value) ∈ members → leadsOn name = true → value.height ≤ n) :
    membersDepth members ≤ n := by
  induction members with
  | nil => simp [membersDepth]
  | cons first rest ih =>
    obtain ⟨name, value⟩ := first
    rw [membersDepth]
    have := ih fun name value hm => h name value (List.mem_cons_of_mem _ hm)
    have := h name value List.mem_cons_self
    split
    · rename_i hl
      have := this hl
      omega
    · omega

theorem le_membersDepth {members : Members} {name : String} {value : Json}
    (h : (name, value) ∈ members) (hl : leadsOn name = true) :
    value.height ≤ membersDepth members := by
  induction members with
  | nil => simp at h
  | cons first rest ih =>
    obtain ⟨key, old⟩ := first
    rw [membersDepth]
    rcases List.mem_cons.1 h with heq | h
    · cases heq
      rw [if_pos hl]
      exact Nat.le_max_left _ _
    · have := ih h; omega

theorem height_le_depth {schema : Schema} {name : String} {value : Json}
    (h : schema.get? name = some value) (hl : leadsOn name = true) :
    value.height ≤ schema.depth :=
  Nat.le_trans (le_membersDepth (Members.mem_of_get? h) hl) (Nat.le_max_left ..)

/-- A schema made of an object's members does not go as far as the object is high. -/
theorem depth_lt_height (members : Members) :
    (Schema.mk members none).depth < (Json.obj members).height := by
  have : membersDepth members ≤ Json.heightMembers members :=
    membersDepth_le fun _ _ hm _ => Json.height_le_of_mem_members hm
  simp only [depth, Json.height]
  omega

/-! ### Folding -/

/-- What holds of a schema while parts are laid into it: nothing that leads on is higher than `n`, and
an `allOf` is lower than `m`. -/
structure Merging.Bounded (n m : Nat) (merging : Merging) : Prop where
  members : ∀ name value, (name, value) ∈ merging.members → leadsOn name = true → value.height ≤ n
  rows : ∀ name value, (name, value) ∈ merging.rows → value.height + 1 ≤ n
  allOf : ∀ value, ("allOf", value) ∈ merging.members → value.height < m

theorem height_of_rowOf {pair v : Json} {name : PropertyName} (h : rowOf pair = .ok (name, v)) :
    v.height ≤ pair.height := by
  unfold rowOf at h
  split at h
  · rename_i key property he
    split at h
    · simp only [Except.ok.injEq, Prod.mk.injEq] at h
      exact h.2 ▸ Json.height_le_of_mem_elements he (by simp)
    · simp at h
  · simp at h
  · simp at h

theorem height_of_mem_mapM_rowOf {pairs : List Json} {rows : PropertyTable} {v : Json}
    {name : PropertyName} (h : pairs.mapM rowOf = .ok rows) (hm : (name, v) ∈ rows) :
    v.height ≤ Json.heightItems pairs := by
  induction pairs generalizing rows with
  | nil => simp [pure, Except.pure] at h; subst h; simp at hm
  | cons pair rest ih =>
    rw [List.mapM_cons] at h
    cases hr : rowOf pair with
    | error => simp [hr, bind, Except.bind] at h
    | ok row =>
      cases hs : rest.mapM rowOf with
      | error => simp [hr, hs, bind, Except.bind] at h
      | ok others =>
        simp [hr, hs, bind, Except.bind, pure, Except.pure] at h
        subst h
        rw [Json.heightItems]
        rcases List.mem_cons.1 hm with rfl | hm
        · have := height_of_rowOf hr; omega
        · have := ih hs hm; omega

/-- Where a value that is no object lists properties, each of them is listed by a pair. -/
theorem exists_pairs_of_rowsOf {value : Json} {rows : PropertyTable} (hno : value.isObj = false)
    (h : rowsOf value = .ok rows) :
    ∃ pairs listed, value.elements? = some pairs ∧ pairs.mapM rowOf = .ok listed ∧
      rows = PropertyTable.putAll [] listed := by
  unfold rowsOf at h
  split at h
  · cases hno
  · split at h
    · next pairs hpairs =>
      cases hlisted : pairs.mapM rowOf with
      | error cause => rw [hlisted] at h; cases h
      | ok listed =>
        rw [hlisted] at h
        exact ⟨pairs, listed, hpairs, hlisted, (Except.ok.inj h).symm⟩
    · cases h

theorem height_of_mem_rowsOf {value v : Json} {rows : PropertyTable} {name : PropertyName}
    (h : rowsOf value = .ok rows) (hm : (name, v) ∈ rows) : v.height + 1 ≤ value.height := by
  cases value with
  | obj members =>
    simp only [rowsOf, Except.ok.injEq] at h
    subst h
    obtain ⟨⟨key, w⟩, hw, heq⟩ := List.mem_map.1 hm
    cases heq
    have := Json.height_le_of_mem_members hw
    rw [Json.height]; omega
  | arr items =>
    obtain ⟨pairs, listed, hpairs, hlisted, rfl⟩ := exists_pairs_of_rowsOf rfl h
    obtain rfl := Option.some.inj hpairs
    obtain ⟨key, hkey⟩ := PropertyTable.mem_of_mem_putAll_nil hm
    have := height_of_mem_mapM_rowOf hlisted hkey
    rw [Json.height]; omega
  | str text =>
    obtain ⟨pairs, listed, hpairs, hlisted, rfl⟩ := exists_pairs_of_rowsOf rfl h
    obtain rfl := Option.some.inj hpairs
    obtain ⟨key, hkey⟩ := PropertyTable.mem_of_mem_putAll_nil hm
    -- A pair of characters cannot come out of a single character.
    cases htext : text.toList with
    | nil => simp [htext, pure, Except.pure] at hlisted; subst hlisted; simp at hkey
    | cons c rest =>
      have hc : rowOf (.str (String.singleton c)) = .error .badValue := by
        simp [rowOf, Json.elements?]
      simp [htext, hc, bind, Except.bind] at hlisted
  | _ => simp [rowsOf, Json.elements?] at h

theorem Merging.Bounded.add {n m : Nat} {merging merging' : Merging} {name : String} {value : Json}
    (hb : merging.Bounded n m) (hn : value.height ≤ n) (hm : value.height < m)
    (h : merging.add name value = .ok merging') : merging'.Bounded n m := by
  unfold Merging.add at h
  split at h
  · cases hr : rowsOf value with
    | error => simp [hr, bind, Except.bind] at h
    | ok rows =>
      simp [hr, bind, Except.bind, pure, Except.pure] at h
      subst h
      refine ⟨hb.members, fun key v hv => ?_, hb.allOf⟩
      rcases PropertyTable.mem_putAll hv with ⟨k, hk⟩ | ⟨k, hk⟩
      · exact hb.rows k v hk
      · have := height_of_mem_rowsOf hr hk; omega
  · split at h
    · cases he : elementsOf value with
      | error => simp [he, bind, Except.bind] at h
      | ok elements =>
        simp [he, bind, Except.bind, pure, Except.pure] at h
        subst h
        exact ⟨hb.members, hb.rows, hb.allOf⟩
    · simp [pure, Except.pure] at h
      subst h
      refine ⟨fun key v hv hl => ?_, hb.rows, fun v hv => ?_⟩
      · rcases Members.mem_putIfAbsent hv with hv | ⟨rfl, rfl⟩
        · exact hb.members key v hv hl
        · exact hn
      · rcases Members.mem_putIfAbsent hv with hv | ⟨_, rfl⟩
        · exact hb.allOf v hv
        · exact hm

theorem Merging.Bounded.addMembers {n m : Nat} {merging merging' : Merging} {members : Members}
    (hb : merging.Bounded n m) (hn : Json.heightMembers members ≤ n)
    (hm : Json.heightMembers members < m) (h : merging.addMembers members = .ok merging') :
    merging'.Bounded n m := by
  induction members generalizing merging with
  | nil => simp [Merging.addMembers] at h; exact h ▸ hb
  | cons first rest ih =>
    obtain ⟨name, value⟩ := first
    rw [Json.heightMembers] at hn hm
    simp only [Merging.addMembers] at h
    cases ha : merging.add name value with
    | error => simp [ha, bind, Except.bind] at h
    | ok next =>
      simp only [ha, bind, Except.bind] at h
      exact ih (hb.add (by omega) (by omega) ha) (by omega) (by omega) h

theorem Merging.Bounded.addParts {n m : Nat} {merging merging' : Merging} {parts : List Json}
    (hb : merging.Bounded n m) (hn : Json.heightItems parts ≤ n) (hm : Json.heightItems parts ≤ m)
    (h : merging.addParts parts = .ok merging') : merging'.Bounded n m := by
  induction parts generalizing merging with
  | nil => simp [Merging.addParts] at h; exact h ▸ hb
  | cons part rest ih =>
    rw [Json.heightItems] at hn hm
    cases part with
    | obj members =>
      rw [Json.height] at hn hm
      simp only [Merging.addParts] at h
      cases ha : merging.addMembers members with
      | error => simp [ha, bind, Except.bind] at h
      | ok next =>
        simp only [ha, bind, Except.bind] at h
        exact ih (hb.addMembers (by omega) (by omega) ha) (by omega) (by omega) h
    | _ => exact ih hb (by omega) (by omega) (by simpa only [Merging.addParts] using h)

theorem bounded_startMerging {schema : Schema} {merging : Merging} (m : Nat)
    (h : schema.startMerging = .ok merging) : merging.Bounded schema.depth m := by
  have members : ∀ name value, (name, value) ∈ Members.erase schema.members "allOf" →
      leadsOn name = true → value.height ≤ schema.depth := fun name value hm hl =>
    Nat.le_trans (le_membersDepth (Members.mem_of_mem_erase hm).1 hl) (Nat.le_max_left ..)
  have allOf : ∀ value, ("allOf", value) ∈ Members.erase schema.members "allOf" →
      value.height < m := fun value hm => absurd rfl (Members.mem_of_mem_erase hm).2
  unfold startMerging at h
  cases htable : schema.table with
  | some table =>
    have rows : ∀ name value, (name, value) ∈ table → value.height + 1 ≤ schema.depth := by
      intro name value hm
      have := PropertyTable.height_le_of_mem hm
      simp only [depth, htable]
      omega
    cases hr : ownElements (schema.get? "required") with
    | error => simp [htable, hr, bind, Except.bind, pure, Except.pure] at h
    | ok required =>
      simp [htable, hr, bind, Except.bind, pure, Except.pure] at h
      subst h
      exact ⟨members, rows, allOf⟩
  | none =>
    cases ho : ownRows (schema.get? "properties") with
    | error => simp [htable, ho, bind, Except.bind] at h
    | ok table =>
      have rows : ∀ name value, (name, value) ∈ table → value.height + 1 ≤ schema.depth := by
        intro name value hm
        unfold ownRows at ho
        split at ho
        · rename_i own hown
          split at ho
          · have := height_of_mem_rowsOf ho hm
            have := height_le_depth hown rfl
            omega
          · simp at ho; subst ho; simp at hm
        · simp at ho; subst ho; simp at hm
      cases hr : ownElements (schema.get? "required") with
      | error => simp [htable, ho, hr, bind, Except.bind] at h
      | ok required =>
        simp [htable, ho, hr, bind, Except.bind, pure, Except.pure] at h
        subst h
        exact ⟨members, rows, allOf⟩

theorem Merging.mem_complete {merging : Merging} {name : String} {value : Json}
    (h : (name, value) ∈ merging.complete) :
    (name, value) ∈ merging.members ∨ leadsOn name = false := by
  have typed : (name, value) ∈ merging.typed →
      (name, value) ∈ merging.members ∨ leadsOn name = false := by
    intro h
    unfold typed at h
    split at h
    · exact .inl h
    · rcases Members.mem_putIfAbsent h with h | ⟨rfl, _⟩
      · exact .inl h
      · exact .inr rfl
  unfold complete at h
  split at h
  · exact typed h
  · rcases Members.mem_put h with h | ⟨rfl, _⟩
    · exact typed h
    · exact .inr rfl

/-- The members of a finished schema come from the parts, apart from those that do not lead on. -/
theorem Merging.mem_finish {merging : Merging} {name : String} {value : Json}
    (h : (name, value) ∈ merging.finish.members) :
    (name, value) ∈ merging.members ∨ leadsOn name = false ∨
      (name = "properties" ∧ ∃ rows, merging.rows.toMembers? = some rows ∧ value = .obj rows ∧
        merging.rows ≠ []) := by
  unfold finish at h
  split at h
  · exact (mem_complete h).imp_right .inl
  · rename_i hne
    split at h
    · rename_i properties hp
      rcases Members.mem_put h with h | ⟨rfl, rfl⟩
      · exact (mem_complete h).imp_right .inl
      · exact .inr (.inr ⟨rfl, properties, hp, rfl, by simpa using hne⟩)
    · exact (mem_complete (Members.mem_of_mem_erase h).1).imp_right .inl

theorem Merging.table_finish {merging : Merging} {table : PropertyTable}
    (h : merging.finish.table = some table) : table = merging.rows ∧ merging.rows ≠ [] := by
  unfold finish at h
  split at h
  · simp at h
  · rename_i hne
    split at h
    · simp at h
    · simp at h; exact ⟨h.symm, by simpa using hne⟩

theorem Merging.Bounded.depth_finish_le {n m : Nat} {merging : Merging} (hb : merging.Bounded n m) :
    merging.finish.depth ≤ n := by
  have members : membersDepth merging.finish.members ≤ n := by
    refine membersDepth_le fun name value hm hl => ?_
    rcases Merging.mem_finish hm with hm | hl' | ⟨_, rows, hr, rfl, hne⟩
    · exact hb.members name value hm hl
    · simp [hl] at hl'
    · obtain ⟨⟨key, v⟩, hv⟩ := List.exists_mem_of_ne_nil _ hne
      have := hb.rows key v hv
      have : Json.heightMembers rows ≤ n - 1 := Json.heightMembers_le fun name value hm => by
        have := hb.rows _ _ (PropertyTable.mem_of_toMembers? hr hm); omega
      rw [Json.height]; omega
  have rows : (match merging.finish.table with
      | some table => PropertyTable.height table + 1
      | none => 0) ≤ n := by
    split
    · rename_i table ht
      obtain ⟨rfl, hne⟩ := Merging.table_finish ht
      obtain ⟨⟨key, v⟩, hv⟩ := List.exists_mem_of_ne_nil _ hne
      have := hb.rows key v hv
      have : merging.rows.height ≤ n - 1 := PropertyTable.height_le fun name value hm => by
        have := hb.rows _ _ hm; omega
      omega
    · omega
  exact Nat.max_le.2 ⟨members, rows⟩

theorem Merging.Bounded.allOfHeight_finish_le {n m : Nat} {merging : Merging}
    (hb : merging.Bounded n m) : merging.finish.allOfHeight ≤ m := by
  unfold allOfHeight heightOf
  split
  · rename_i value hv
    rcases Merging.mem_finish (Members.mem_of_get? hv) with hm | hl | ⟨hn, _⟩
    · exact hb.allOf value hm
    · simp [leadsOn] at hl
    · simp at hn
  · omega

/-- What folding starts from and goes through. -/
theorem bounded_of_mergeAllOf {schema merged : Schema} {allOf : Json}
    (hget : schema.get? "allOf" = some allOf) (h : schema.mergeAllOf allOf = .ok merged) :
    ∃ merging : Merging, merged = merging.finish ∧
      merging.Bounded schema.depth allOf.height := by
  unfold mergeAllOf at h
  cases hs : schema.startMerging with
  | error => simp [hs, bind, Except.bind] at h
  | ok start =>
    cases he : elementsOf allOf with
    | error => simp [hs, he, bind, Except.bind] at h
    | ok parts =>
      cases hp : start.addParts parts with
      | error => simp [hs, he, hp, bind, Except.bind] at h
      | ok merging =>
        simp [hs, he, hp, bind, Except.bind, pure, Except.pure] at h
        have hparts : Json.heightItems parts ≤ allOf.height := by
          refine Json.heightItems_le fun part hm => ?_
          unfold elementsOf at he
          split at he
          · rename_i hel
            cases he
            exact Json.height_le_of_mem_elements hel hm
          · simp at he
        have := height_le_depth hget rfl
        exact ⟨merging, h.symm,
          (bounded_startMerging _ hs).addParts (by omega) hparts hp⟩

/-- Folding does not make a schema go further. -/
theorem depth_mergeAllOf_le {schema merged : Schema} {allOf : Json}
    (hget : schema.get? "allOf" = some allOf) (h : schema.mergeAllOf allOf = .ok merged) :
    merged.depth ≤ schema.depth := by
  obtain ⟨merging, rfl, hb⟩ := bounded_of_mergeAllOf hget h
  exact hb.depth_finish_le

/-- What is left of `allOf` after folding is lower. -/
theorem allOfHeight_mergeAllOf_lt {schema merged : Schema} {allOf : Json}
    (hget : schema.get? "allOf" = some allOf) (h : schema.mergeAllOf allOf = .ok merged) :
    merged.allOfHeight < schema.allOfHeight := by
  obtain ⟨merging, rfl, hb⟩ := bounded_of_mergeAllOf hget h
  have := hb.allOfHeight_finish_le
  simp only [allOfHeight, heightOf, hget] at *
  omega

end Schema

end SchemaPress
