import SchemaPress.Schema.Depth

/-!
# Restricting a schema to one type

A schema that allows several types is taken apart into one schema per type. Keywords that only speak
of objects or only of arrays are kept for that type alone.
-/

namespace SchemaPress.Schema

/-- Keywords that only speak of objects. -/
def objectKeywords : List String :=
  ["properties", "required", "additionalProperties", "patternProperties", "minProperties",
   "maxProperties"]

/-- Keywords that only speak of arrays. -/
def arrayKeywords : List String :=
  ["items", "minItems", "maxItems", "uniqueItems", "contains"]

/-- Whether a keyword has something to say about values of a type. -/
def speaksOf (type : Json) (keyword : String) : Bool :=
  match type with
  | .str "object" => !arrayKeywords.contains keyword
  | .str "array" => !objectKeywords.contains keyword
  | _ => !arrayKeywords.contains keyword && !objectKeywords.contains keyword

/-- The schema for values of one of its types. -/
def restrict (schema : Schema) (type : Json) : Schema :=
  match type with
  | .str "null" => ⟨[("type", type)], none⟩
  | _ =>
    { members := Members.put (schema.members.filter fun (name, _) => speaksOf type name) "type" type
      table := if speaksOf type "properties" then schema.table else none }

theorem mem_restrict {schema : Schema} {type value : Json} {name : String}
    (h : (name, value) ∈ (schema.restrict type).members) :
    (name, value) ∈ schema.members ∨ name = "type" := by
  unfold restrict at h
  split at h
  · simp at h; exact .inr h.1
  · rcases Members.mem_put h with h | ⟨rfl, _⟩
    · exact .inl (List.mem_filter.1 h).1
    · exact .inr rfl

theorem typeHeight_restrict (schema : Schema) (type : Json) :
    (schema.restrict type).typeHeight = type.height + 1 := by
  unfold restrict
  split
  · rfl
  · simp only [typeHeight, heightOf, get?, Members.get?_put_self]

/-- A restricted schema goes no further. -/
theorem depth_restrict_le (schema : Schema) (type : Json) :
    (schema.restrict type).depth ≤ schema.depth := by
  have members : membersDepth (schema.restrict type).members ≤ membersDepth schema.members := by
    refine membersDepth_le fun name value hm hl => ?_
    rcases mem_restrict hm with hm | rfl
    · exact le_membersDepth hm hl
    · simp [leadsOn] at hl
  have table : (schema.restrict type).table = schema.table ∨
      (schema.restrict type).table = none := by
    unfold restrict
    split
    · exact .inr rfl
    · simp only
      split
      · exact .inl rfl
      · exact .inr rfl
  simp only [depth]
  rcases table with ht | ht <;> simp only [ht] <;> omega

/-- A restricted schema has the same `allOf`, if any. -/
theorem allOfHeight_restrict_le (schema : Schema) (type : Json) :
    (schema.restrict type).allOfHeight ≤ schema.allOfHeight := by
  unfold restrict
  split
  · exact Nat.zero_le _
  · simp only [allOfHeight, heightOf, get?]
    rw [Members.get?_put_of_ne (by decide), Members.get?_filter]
    split <;> simp_all

end SchemaPress.Schema
