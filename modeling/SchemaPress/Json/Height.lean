import SchemaPress.Json.Basic

/-!
# The height of a JSON value

The number of containers that a value nests. Recursion through a schema ends because it goes to parts
of smaller height.
-/

namespace SchemaPress.Json

mutual
/-- How many containers are nested in a value. -/
def height : Json → Nat
  | .arr items => heightItems items + 1
  | .obj members => heightMembers members + 1
  | _ => 0

/-- The greatest height of items. -/
def heightItems : List Json → Nat
  | [] => 0
  | item :: rest => max (height item) (heightItems rest)

/-- The greatest height of members. -/
def heightMembers : List (String × Json) → Nat
  | [] => 0
  | (_, value) :: rest => max (height value) (heightMembers rest)
end

theorem height_le_of_mem_items {item : Json} {items : List Json} (h : item ∈ items) :
    item.height ≤ heightItems items := by
  induction items with
  | nil => simp at h
  | cons first rest ih =>
    rw [heightItems]
    rcases List.mem_cons.1 h with rfl | h
    · omega
    · have := ih h; omega

theorem height_le_of_mem_members {name : String} {value : Json} {members : List (String × Json)}
    (h : (name, value) ∈ members) : value.height ≤ heightMembers members := by
  induction members with
  | nil => simp at h
  | cons first rest ih =>
    obtain ⟨key, old⟩ := first
    rw [heightMembers]
    rcases List.mem_cons.1 h with heq | h
    · cases heq; omega
    · have := ih h; omega

theorem heightItems_le {items : List Json} {n : Nat} (h : ∀ item ∈ items, item.height ≤ n) :
    heightItems items ≤ n := by
  induction items with
  | nil => simp [heightItems]
  | cons first rest ih =>
    rw [heightItems]
    have := ih fun item hi => h item (List.mem_cons_of_mem _ hi)
    have := h first List.mem_cons_self
    omega

theorem heightMembers_le {members : List (String × Json)} {n : Nat}
    (h : ∀ name value, (name, value) ∈ members → value.height ≤ n) : heightMembers members ≤ n := by
  induction members with
  | nil => simp [heightMembers]
  | cons first rest ih =>
    rw [heightMembers]
    have := ih fun name value hm => h name value (List.mem_cons_of_mem _ hm)
    have := h first.1 first.2 List.mem_cons_self
    omega

/-- The elements of a value are no higher than the value. -/
theorem height_le_of_mem_elements {value element : Json} {elements : List Json}
    (h : value.elements? = some elements) (he : element ∈ elements) :
    element.height ≤ value.height := by
  cases value with
  | arr items =>
    simp only [elements?, Option.some.injEq] at h
    subst h
    have := height_le_of_mem_items he
    rw [height]; omega
  | str text =>
    simp only [elements?, Option.some.injEq] at h
    subst h
    obtain ⟨c, _, rfl⟩ := List.mem_map.1 he
    simp [height]
  | obj members =>
    simp only [elements?, Option.some.injEq] at h
    subst h
    obtain ⟨⟨name, value⟩, _, rfl⟩ := List.mem_map.1 he
    simp [height]
  | _ => simp [elements?] at h

end SchemaPress.Json
