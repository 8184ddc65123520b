import SchemaPress.Reference.Library

/-!
# Inlining references

`dereference` replaces each reference of a schema by what it names. Members beside a reference
override those of its target, and a target without a title gets the name it was referred to by. What
a reference names may contain references in turn, relative to the document it stands in.

A reference to an object around it cannot be replaced. It is kept as a back edge, with the title or
name of its target, so the declarations can refer to the enclosing type by name. The objects around
a node are known by the spellings of their places: each object that is entered is put on the `stack`,
whether by descending or by following a reference.

Only objects are put there, so a reference may lead to an array again and again. As long as the stack
gains another target in between, the next turn may come out otherwise and is taken. If a target comes up
that was followed before and the stack has gained none since then (`followed`), nothing tells the two
turns apart: the array is inside itself and there is no end to it. So inlining ends, by the targets that
are not on the stack, those not followed since it gained the last one, and the size of the node.
-/

namespace SchemaPress.Library

/-- The name of a target: its title if that says anything, a name made of the reference otherwise. -/
def nameOf (target : Target) (found : Json) : Json :=
  match found.get? "title" with
  | some title => if title.isTruthy then title else .str target.fallbackName
  | none => .str target.fallbackName

/-- An object that stands for a reference: the members of the target, its name as a title unless it
has one, and the members beside the reference on top. -/
def merge (name : Json) (inner beside : Members) : Members :=
  let titled := if name.isTruthy then inner.putIfAbsent "title" name else inner
  beside.foldl (fun members (key, value) => members.put key value) titled

/-- What counts as followed inside an object at `place`: nothing, if the stack gains a target with it. -/
def followedInside (library : Library) (followed : List Target) (stack : List String)
    (place : String) : List Target :=
  if followed.isEmpty then []
  else if place ∈ library.targets ∧ place ∉ stack then []
  else followed

/-! ### What goes down -/

section Counting

variable {α : Type} [DecidableEq α] {keys stack : List α} {key : α}

/-- The more is open, the fewer are left. -/
theorem countP_le {stack opened : List α} (h : stack ⊆ opened) (keys : List α) :
    keys.countP (· ∉ opened) ≤ keys.countP (· ∉ stack) := by
  refine List.countP_mono_left fun key _ hkey => ?_
  rw [decide_eq_true_eq] at hkey ⊢
  exact fun hmem => hkey (h hmem)

theorem countP_lt {stack opened : List α} (h : stack ⊆ opened) (hkey : key ∈ keys)
    (hnew : key ∉ stack) (hopened : key ∈ opened) :
    keys.countP (· ∉ opened) < keys.countP (· ∉ stack) := by
  -- the key itself counts for less, and all others for no more
  obtain ⟨before, after, rfl⟩ := List.append_of_mem hkey
  have hbefore := countP_le h before
  have hafter := countP_le h after
  rw [List.countP_append, List.countP_append, List.countP_cons, List.countP_cons]
  simp only [hopened, hnew, not_true, not_false_eq_true, decide_true, decide_false,
    Bool.false_eq_true, if_true, if_false]
  omega

end Counting

/-- The targets that are not on the stack, those that are not followed, and the size of what is read. -/
def inlineMeasure (library : Library) (followed : List Target) (stack : List String) (size : Nat) :
    Nat × Nat × Nat :=
  (library.targets.countP (· ∉ stack), library.named.countP (· ∉ followed), size)

/-- An object puts another target on the stack, or leaves as much followed as was before. -/
theorem followedInside_cases (library : Library) (followed : List Target) (stack : List String)
    (place : String) :
    library.targets.countP (· ∉ place :: stack) < library.targets.countP (· ∉ stack) ∨
    (library.followedInside followed stack place = followed ∧
      library.targets.countP (· ∉ place :: stack) ≤ library.targets.countP (· ∉ stack)) := by
  unfold followedInside
  split
  · next hempty =>
    exact .inr ⟨(List.isEmpty_iff.1 hempty).symm, countP_le (List.subset_cons_self ..) _⟩
  · split
    · next hnew =>
      exact .inl (countP_lt (List.subset_cons_self ..) hnew.1 hnew.2 List.mem_cons_self)
    · exact .inr ⟨rfl, countP_le (List.subset_cons_self ..) _⟩

section Measure

variable {library : Library} {followed : List Target} {stack : List String} {place : String}
  {size size' : Nat}

/-- The measure goes down with the size of what is read. -/
theorem measure_lt_of_size (h : size' < size) :
    Prod.Lex (· < ·) (Prod.Lex (· < ·) (· < ·)) (library.inlineMeasure followed stack size')
      (library.inlineMeasure followed stack size) :=
  .right _ (.right _ h)

/-- It goes down from an object to its members. -/
theorem measure_lt_of_inside (h : size' < size) :
    Prod.Lex (· < ·) (Prod.Lex (· < ·) (· < ·))
      (library.inlineMeasure (library.followedInside followed stack place) (place :: stack) size')
      (library.inlineMeasure followed stack size) := by
  obtain hlt | ⟨heq, hle⟩ := library.followedInside_cases followed stack place
  · exact .left _ _ hlt
  · rw [heq]
    rcases Nat.lt_or_eq_of_le hle with hlt | hsame
    · exact .left _ _ hlt
    · unfold inlineMeasure
      rw [hsame]
      exact .right _ (.right _ h)

/-- It goes down from an object to a target that is followed for the first time. -/
theorem measure_lt_of_target {target : Target} (hnamed : target ∈ library.named)
    (hnew : target ∉ library.followedInside followed stack place) :
    Prod.Lex (· < ·) (Prod.Lex (· < ·) (· < ·))
      (library.inlineMeasure (target :: library.followedInside followed stack place)
        (place :: stack) size')
      (library.inlineMeasure followed stack size) := by
  obtain hlt | ⟨heq, hle⟩ := library.followedInside_cases followed stack place
  · exact .left _ _ hlt
  · rw [heq] at hnew ⊢
    have hfewer := countP_lt (List.subset_cons_self target followed) hnamed hnew List.mem_cons_self
    rcases Nat.lt_or_eq_of_le hle with hlt | hsame
    · exact .left _ _ hlt
    · unfold inlineMeasure
      rw [hsame]
      exact .right _ (.left _ _ hfewer)

end Measure

mutual
/-- The node at the pointer `path` of a document, with its references inlined. -/
def inline (library : Library) (followed : List Target) (stack : List String)
    (document path : String) (node : Json) : Except (Stop ReferenceError) Json :=
  match node with
  | .arr items => do return .arr (← inlineItems library followed stack document path 0 items)
  | .obj members => do
    -- What is being read may be referred to from within, by its own place.
    let place := Target.placeKey document path
    let opened := place :: stack
    let inside := library.followedInside followed stack place
    match Members.get? members "$ref" with
    | some (.str ref) =>
      let target ← library.target document ref
      let found ← library.lookup target ref
      let name := nameOf target found
      -- A reference back to what is being read stays a reference, with the name of its target.
      if opened.contains target.key then
        return .obj [("$ref", .str ref), ("title", name)]
      -- Every target is a named one, so what is left is to be followed for the first time.
      else if _h : target ∈ library.named ∧ target ∉ inside then
        match ← inline library (target :: inside) opened target.document
            (Pointer.text target.tokens) found with
        | .obj inner =>
          let beside ← inlineMembers library inside opened document path members
          return .obj (merge name inner (Members.erase beside "$ref"))
        | value => return value
      else throw (.crash .endless)
    | _ => return .obj (← inlineMembers library inside opened document path members)
  | value => .ok value
termination_by library.inlineMeasure followed stack (sizeOf node)
decreasing_by
  · exact measure_lt_of_size (by simp)
  · exact measure_lt_of_target _h.1 _h.2
  · exact measure_lt_of_inside (by simp)
  · exact measure_lt_of_inside (by simp)

/-- Items of the array at the pointer `path`, from the index `index` on. -/
def inlineItems (library : Library) (followed : List Target) (stack : List String)
    (document path : String) (index : Nat) (items : List Json) :
    Except (Stop ReferenceError) (List Json) :=
  match items with
  | [] => .ok []
  | item :: rest => do
    let item ← inline library followed stack document (path ++ "/" ++ toString index) item
    return item :: (← inlineItems library followed stack document path (index + 1) rest)
termination_by library.inlineMeasure followed stack (sizeOf items)
decreasing_by
  all_goals exact measure_lt_of_size (by simp only [List.cons.sizeOf_spec]; omega)

/-- Members of the object at the pointer `path`. -/
def inlineMembers (library : Library) (followed : List Target) (stack : List String)
    (document path : String) (members : List (String × Json)) :
    Except (Stop ReferenceError) (List (String × Json)) :=
  match members with
  | [] => .ok []
  | (name, value) :: rest => do
    let value ← inline library followed stack document (path ++ "/" ++ Pointer.escape name) value
    return (name, value) :: (← inlineMembers library followed stack document path rest)
termination_by library.inlineMeasure followed stack (sizeOf members)
decreasing_by
  all_goals
    exact measure_lt_of_size (by simp only [List.cons.sizeOf_spec, Prod.mk.sizeOf_spec]; omega)
end

/-- The schema with all references inlined, back edges apart. -/
def dereference (library : Library) : Except (Stop ReferenceError) Json :=
  library.inline [] [] "" "" library.root

end SchemaPress.Library
