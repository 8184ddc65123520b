import SchemaPress.Json.Members
import SchemaPress.Json.Raw

/-!
# Values as they are read, and as they are

`Json.toRaw` is a value as a JSON text gives it, and `Raw.toJson?` takes it back (`toJson?_toRaw`). What has
a `Json` is the raw value of it (`eq_toRaw`), so the two tell the same of everything that holds no half of a
surrogate pair, the members that are looked up included (`lookup_membersToRaw`).
-/

namespace SchemaPress

namespace RawText

@[simp]
theorem toString?_ofString (text : String) : (ofString text).toString? = some text := by
  have hchars (chars : List Char) : (chars.map CodePoint.char).mapM CodePoint.char? = some chars := by
    induction chars with
    | nil => rfl
    | cons c rest ih =>
      rw [List.map_cons, List.mapM_cons, ih]
      rfl
  unfold toString? ofString
  rw [hchars]
  exact congrArg some String.ofList_toList

theorem eq_ofString {text : RawText} {chars : String} (h : text.toString? = some chars) :
    text = ofString chars := by
  obtain ⟨list, hlist, rfl⟩ := Option.map_eq_some_iff.1 h
  unfold ofString
  rw [String.toList_ofList]
  clear h
  induction text generalizing list with
  | nil =>
    cases hlist
    rfl
  | cons point rest ih =>
    rw [List.mapM_cons] at hlist
    obtain ⟨c, hc, hlist⟩ := Option.bind_eq_some_iff.1 hlist
    obtain ⟨others, hothers, hlist⟩ := Option.bind_eq_some_iff.1 hlist
    cases hlist
    cases point with
    | half offset => cases hc
    | char d =>
      obtain rfl := Option.some.inj hc
      exact congrArg _ (ih _ hothers)

theorem ofString_inj {text other : String} (h : ofString text = ofString other) : text = other := by
  have heq := toString?_ofString text
  rw [h, toString?_ofString] at heq
  exact (Option.some.inj heq).symm

end RawText

namespace Json

theorem itemsToRaw_eq_map (items : List Json) : itemsToRaw items = items.map toRaw := by
  induction items with
  | nil => rfl
  | cons item rest ih => rw [itemsToRaw, ih, List.map_cons]

theorem membersToRaw_eq_map (members : Members) :
    membersToRaw members = members.map fun member => (.ofString member.1, member.2.toRaw) := by
  induction members with
  | nil => rfl
  | cons member rest ih => rw [membersToRaw, ih, List.map_cons]

mutual
/-- **A value is what its raw value says.** -/
theorem toJson?_toRaw : ∀ value : Json, value.toRaw.toJson? = some value
  | .null | .bool _ | .int _ | .double _ => rfl
  | .str text => by rw [toRaw, Raw.toJson?, RawText.toString?_ofString]; rfl
  | .arr items => by rw [toRaw, Raw.toJson?, itemsToJson?_toRaw items]; rfl
  | .obj members => by rw [toRaw, Raw.toJson?, membersToJson?_toRaw members]; rfl

theorem itemsToJson?_toRaw : ∀ items : List Json, Raw.itemsToJson? (itemsToRaw items) = some items
  | [] => rfl
  | item :: rest => by
    rw [itemsToRaw, Raw.itemsToJson?, toJson?_toRaw item, itemsToJson?_toRaw rest]
    rfl

theorem membersToJson?_toRaw :
    ∀ members : List (String × Json), Raw.membersToJson? (membersToRaw members) = some members
  | [] => rfl
  | (name, value) :: rest => by
    rw [membersToRaw, Raw.membersToJson?, RawText.toString?_ofString, toJson?_toRaw value,
      membersToJson?_toRaw rest]
    rfl
end

theorem toRaw_inj {value other : Json} (h : value.toRaw = other.toRaw) : value = other := by
  have heq := toJson?_toRaw value
  rw [h, toJson?_toRaw] at heq
  exact (Option.some.inj heq).symm

end Json

namespace Raw

mutual
/-- **What has a value is the raw value of it.** -/
theorem eq_toRaw : ∀ {raw : Raw} {value : Json}, raw.toJson? = some value → raw = value.toRaw
  | .null, _, h | .bool _, _, h | .int _, _, h | .double _, _, h => by cases h; rfl
  | .str text, _, h => by
    obtain ⟨chars, hchars, rfl⟩ := Option.map_eq_some_iff.1 h
    exact congrArg str (RawText.eq_ofString hchars)
  | .arr items, _, h => by
    obtain ⟨values, hvalues, rfl⟩ := Option.map_eq_some_iff.1 h
    exact congrArg arr (items_eq_toRaw hvalues)
  | .obj members, _, h => by
    obtain ⟨values, hvalues, rfl⟩ := Option.map_eq_some_iff.1 h
    exact congrArg obj (members_eq_toRaw hvalues)

theorem items_eq_toRaw : ∀ {items : List Raw} {values : List Json},
    itemsToJson? items = some values → items = Json.itemsToRaw values
  | [], _, h => by cases h; rfl
  | item :: rest, _, h => by
    obtain ⟨value, hvalue, h⟩ := Option.bind_eq_some_iff.1 h
    obtain ⟨values, hvalues, h⟩ := Option.bind_eq_some_iff.1 h
    cases h
    rw [eq_toRaw hvalue, items_eq_toRaw hvalues]
    rfl

theorem members_eq_toRaw : ∀ {members : RawMembers} {values : Members},
    membersToJson? members = some values → members = Json.membersToRaw values
  | [], _, h => by cases h; rfl
  | (name, raw) :: rest, _, h => by
    obtain ⟨chars, hchars, h⟩ := Option.bind_eq_some_iff.1 h
    obtain ⟨value, hvalue, h⟩ := Option.bind_eq_some_iff.1 h
    obtain ⟨values, hvalues, h⟩ := Option.bind_eq_some_iff.1 h
    cases h
    rw [RawText.eq_ofString hchars, eq_toRaw hvalue, members_eq_toRaw hvalues]
    rfl
end

end Raw

/-! ### Looking a member up -/

theorem Json.names_membersToRaw (members : Members) :
    (membersToRaw members).map Prod.fst = (members.map Prod.fst).map RawText.ofString := by
  rw [membersToRaw_eq_map, List.map_map, List.map_map]
  rfl

/-- **Looking a member up** comes to the same in the raw value. -/
theorem Json.lookup_membersToRaw (members : Members) (name : String) :
    (membersToRaw members).lookup (.ofString name) = (members.get? name).map toRaw := by
  induction members with
  | nil => rfl
  | cons first rest ih =>
    obtain ⟨key, value⟩ := first
    rw [membersToRaw, List.lookup_cons]
    by_cases hkey : name = key
    · subst hkey
      rw [BEq.rfl, Members.get?_cons_self]
      rfl
    · have hne : (RawText.ofString name == RawText.ofString key) = false := by
        simpa using fun heq => hkey (RawText.ofString_inj heq)
      rw [hne, Members.get?_cons_of_ne hkey]
      exact ih

end SchemaPress
