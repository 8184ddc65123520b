import SchemaPress.Reference.Inline

/-!
# Inlining as a relation

`Library.inline` carries a list of targets along that only serves to let it end. `Resolves` tells the
same walk without that list: one rule for each way that the inlining of a node, of items or of members
can come to its result, errors included. Whatever `inline` comes to, other than being cut off, has such
a derivation (`inlinings_resolve`), so what is proved by induction on derivations holds of everything
that is inlined.
-/

namespace SchemaPress

/-- The reference that an object stands for, if its members have one: a text under `$ref`. -/
def Members.ref? (members : Members) : Option String :=
  match members.get? "$ref" with
  | some (.str ref) => some ref
  | _ => none

theorem Members.get?_of_ref? {members : Members} {ref : String} (h : members.ref? = some ref) :
    members.get? "$ref" = some (.str ref) := by
  unfold ref? at h
  split at h
  · next hget =>
    obtain rfl := Option.some.inj h
    exact hget
  · cases h

theorem Members.ref?_of_get? {members : Members} {ref : String}
    (h : members.get? "$ref" = some (.str ref)) : members.ref? = some ref := by
  rw [ref?, h]

theorem Members.ref?_eq_none {members : Members}
    (h : ∀ ref, members.get? "$ref" = some (.str ref) → False) : members.ref? = none := by
  unfold ref?
  split
  · next hget => exact (h _ hget).elim
  · rfl

theorem Members.ref?_congr {members others : Members}
    (h : members.get? "$ref" = others.get? "$ref") : members.ref? = others.ref? := by
  unfold ref?
  rw [h]

/-- The reference that a value stands for. -/
def Json.ref? : Json → Option String
  | .obj members => Members.ref? members
  | _ => none

namespace Library

/-- **What a reference names**, where it is written in an object of `document`: its target and the
node that is found there. -/
structure Refers (library : Library) (document : String) (members : Members) (ref : String)
    (target : Target) (found : Json) : Prop where
  isRef : members.ref? = some ref
  isTarget : library.target document ref = .ok target
  isFound : library.lookup target ref = .ok found

/-- A reference names one thing. -/
theorem Refers.unique {library : Library} {document : String} {members : Members}
    {ref ref' : String}
    {target target' : Target} {found found' : Json}
    (h : library.Refers document members ref target found)
    (h' : library.Refers document members ref' target' found') :
    ref = ref' ∧ target = target' ∧ found = found' := by
  obtain rfl := Option.some.inj (h.isRef.symm.trans h'.isRef)
  obtain rfl := Except.ok.inj (h.isTarget.symm.trans h'.isTarget)
  obtain rfl := Except.ok.inj (h.isFound.symm.trans h'.isFound)
  exact ⟨rfl, rfl, rfl⟩

/-- A part of an inlining, with the objects around it and its place in its document. -/
inductive Call where
  /-- A node. -/
  | node (stack : List String) (document path : String) (node : Json)
  /-- The items of the array at `path`, from this index on. -/
  | items (stack : List String) (document path : String) (index : Nat) (items : List Json)
  /-- The members of the object at `path`. -/
  | members (stack : List String) (document path : String) (members : Members)

/-- **Derivations of inlinings.** Inlined items are told as an array, inlined members as an
object. -/
inductive Resolves (library : Library) : Call → Except (Stop ReferenceError) Json → Prop where
  | leaf {stack : List String} {document path : String} {node : Json}
      (harr : ∀ items, node ≠ .arr items) (hobj : ∀ members, node ≠ .obj members) :
      Resolves library (.node stack document path node) (.ok node)
  | array {stack : List String} {document path : String} {items : List Json}
      {result : Except (Stop ReferenceError) Json}
      (parts : Resolves library (.items stack document path 0 items) result) :
      Resolves library (.node stack document path (.arr items)) result
  | object {stack : List String} {document path : String} {members : Members}
      {result : Except (Stop ReferenceError) Json} (href : members.ref? = none)
      (parts : Resolves library
        (.members (Target.placeKey document path :: stack) document path members) result) :
      Resolves library (.node stack document path (.obj members)) result
  | noTarget {stack : List String} {document path ref : String} {members : Members}
      {stop : Stop ReferenceError} (href : members.ref? = some ref)
      (htarget : library.target document ref = .error stop) :
      Resolves library (.node stack document path (.obj members)) (.error stop)
  | notFound {stack : List String} {document path ref : String} {members : Members}
      {target : Target} {stop : Stop ReferenceError} (href : members.ref? = some ref)
      (htarget : library.target document ref = .ok target)
      (hfound : library.lookup target ref = .error stop) :
      Resolves library (.node stack document path (.obj members)) (.error stop)
  | backEdge {stack : List String} {document path ref : String} {members : Members}
      {target : Target} {found : Json} (hrefers : library.Refers document members ref target found)
      (hopen : target.key ∈ Target.placeKey document path :: stack) :
      Resolves library (.node stack document path (.obj members))
        (.ok (.obj [("$ref", .str ref), ("title", nameOf target found)]))
  | targetFails {stack : List String} {document path ref : String} {members : Members}
      {target : Target} {found : Json} {stop : Stop ReferenceError}
      (hrefers : library.Refers document members ref target found)
      (hnew : target.key ∉ Target.placeKey document path :: stack)
      (inner : Resolves library (.node (Target.placeKey document path :: stack) target.document
        (Pointer.text target.tokens) found) (.error stop)) :
      Resolves library (.node stack document path (.obj members)) (.error stop)
  | targetValue {stack : List String} {document path ref : String} {members : Members}
      {target : Target} {found value : Json}
      (hrefers : library.Refers document members ref target found)
      (hnew : target.key ∉ Target.placeKey document path :: stack)
      (inner : Resolves library (.node (Target.placeKey document path :: stack) target.document
        (Pointer.text target.tokens) found) (.ok value))
      (hvalue : ∀ members, value ≠ .obj members) :
      Resolves library (.node stack document path (.obj members)) (.ok value)
  | siblingsFail {stack : List String} {document path ref : String} {members : Members}
      {target : Target} {found : Json} {innerMembers : Members} {stop : Stop ReferenceError}
      (hrefers : library.Refers document members ref target found)
      (hnew : target.key ∉ Target.placeKey document path :: stack)
      (inner : Resolves library (.node (Target.placeKey document path :: stack) target.document
        (Pointer.text target.tokens) found) (.ok (.obj innerMembers)))
      (beside : Resolves library (.members (Target.placeKey document path :: stack) document path
        members) (.error stop)) :
      Resolves library (.node stack document path (.obj members)) (.error stop)
  | merged {stack : List String} {document path ref : String} {members : Members}
      {target : Target} {found : Json} {innerMembers besideMembers : Members}
      (hrefers : library.Refers document members ref target found)
      (hnew : target.key ∉ Target.placeKey document path :: stack)
      (inner : Resolves library (.node (Target.placeKey document path :: stack) target.document
        (Pointer.text target.tokens) found) (.ok (.obj innerMembers)))
      (beside : Resolves library (.members (Target.placeKey document path :: stack) document path
        members) (.ok (.obj besideMembers))) :
      Resolves library (.node stack document path (.obj members))
        (.ok (.obj (merge (nameOf target found) innerMembers (besideMembers.erase "$ref"))))
  | noItem {stack : List String} {document path : String} {index : Nat} :
      Resolves library (.items stack document path index []) (.ok (.arr []))
  | itemFails {stack : List String} {document path : String} {index : Nat} {item : Json}
      {rest : List Json} {stop : Stop ReferenceError}
      (first : Resolves library (.node stack document (path ++ "/" ++ toString index) item)
        (.error stop)) :
      Resolves library (.items stack document path index (item :: rest)) (.error stop)
  | itemsFail {stack : List String} {document path : String} {index : Nat} {item value : Json}
      {rest : List Json} {stop : Stop ReferenceError}
      (first : Resolves library (.node stack document (path ++ "/" ++ toString index) item)
        (.ok value))
      (others : Resolves library (.items stack document path (index + 1) rest) (.error stop)) :
      Resolves library (.items stack document path index (item :: rest)) (.error stop)
  | item {stack : List String} {document path : String} {index : Nat} {item value : Json}
      {rest values : List Json}
      (first : Resolves library (.node stack document (path ++ "/" ++ toString index) item)
        (.ok value))
      (others : Resolves library (.items stack document path (index + 1) rest)
        (.ok (.arr values))) :
      Resolves library (.items stack document path index (item :: rest))
        (.ok (.arr (value :: values)))
  | noMember {stack : List String} {document path : String} :
      Resolves library (.members stack document path []) (.ok (.obj []))
  | memberFails {stack : List String} {document path name : String} {member : Json}
      {rest : Members} {stop : Stop ReferenceError}
      (first : Resolves library (.node stack document (path ++ "/" ++ Pointer.escape name) member)
        (.error stop)) :
      Resolves library (.members stack document path ((name, member) :: rest)) (.error stop)
  | membersFail {stack : List String} {document path name : String} {member value : Json}
      {rest : Members} {stop : Stop ReferenceError}
      (first : Resolves library (.node stack document (path ++ "/" ++ Pointer.escape name) member)
        (.ok value))
      (others : Resolves library (.members stack document path rest) (.error stop)) :
      Resolves library (.members stack document path ((name, member) :: rest)) (.error stop)
  | member {stack : List String} {document path name : String} {member value : Json}
      {rest values : Members}
      (first : Resolves library (.node stack document (path ++ "/" ++ Pointer.escape name) member)
        (.ok value))
      (others : Resolves library (.members stack document path rest) (.ok (.obj values))) :
      Resolves library (.members stack document path ((name, member) :: rest))
        (.ok (.obj ((name, value) :: values)))

/-! ### What derivations come to -/

/-- What members come to is an object. -/
theorem Resolves.members_obj {library : Library} {stack : List String} {document path : String} {members : Members}
    {done : Json} (h : Resolves library (.members stack document path members) (.ok done)) :
    ∃ values, done = .obj values := by
  cases h with
  | noMember => exact ⟨_, rfl⟩
  | member => exact ⟨_, rfl⟩

/-- What items come to is an array. -/
theorem Resolves.items_arr {library : Library} {stack : List String} {document path : String} {index : Nat}
    {items : List Json} {done : Json}
    (h : Resolves library (.items stack document path index items) (.ok done)) :
    ∃ values, done = .arr values := by
  cases h with
  | noItem => exact ⟨_, rfl⟩
  | item => exact ⟨_, rfl⟩

/-- **An inlining comes to one result**, by induction on a derivation of it. -/
theorem Resolves.unique {library : Library} {call : Call}
    {result result' : Except (Stop ReferenceError) Json}
    (h : Resolves library call result) (h' : Resolves library call result') : result = result' := by
  induction h generalizing result' with
  | leaf harr hobj =>
    cases h' with
    | leaf => rfl
    | array => exact absurd rfl (harr _)
    | _ => exact absurd rfl (hobj _)
  | array _ ih =>
    cases h' with
    | leaf harr => exact absurd rfl (harr _)
    | array parts => exact ih parts
  | object href _ ih =>
    cases h' with
    | leaf _ hobj => exact absurd rfl (hobj _)
    | object _ parts => exact ih parts
    | noTarget href' | notFound href' => exact absurd (href.symm.trans href') nofun
    | backEdge hrefers | targetFails hrefers | targetValue hrefers | siblingsFail hrefers
    | merged hrefers => exact absurd (href.symm.trans hrefers.isRef) nofun
  -- a reference: what it names is settled first, then whether that is open
  | noTarget href htarget => cases h' <;> grind [Refers]
  | notFound href htarget hfound => cases h' <;> grind [Refers]
  | backEdge hrefers hopen => cases h' <;> grind [Refers, Refers.unique]
  | targetFails hrefers hnew inner ih => cases h' <;> grind [Refers, Refers.unique]
  | targetValue hrefers hnew inner hvalue ih => cases h' <;> grind [Refers, Refers.unique]
  | siblingsFail hrefers hnew inner beside ihInner ihBeside =>
    cases h' <;> grind [Refers, Refers.unique]
  | merged hrefers hnew inner beside ihInner ihBeside => cases h' <;> grind [Refers, Refers.unique]
  -- items, and members in the same way: the first part fails, or the others do, or none does
  | noItem =>
    cases h'
    rfl
  | itemFails _ ih =>
    cases h' with
    | itemFails first => exact ih first
    | itemsFail first | item first => exact absurd (ih first) nofun
  | itemsFail _ _ ihFirst ihOthers =>
    cases h' with
    | itemFails first => exact absurd (ihFirst first) nofun
    | itemsFail _ others => exact ihOthers others
    | item _ others => exact absurd (ihOthers others) nofun
  | item _ _ ihFirst ihOthers =>
    cases h' with
    | itemFails first => exact absurd (ihFirst first) nofun
    | itemsFail _ others => exact absurd (ihOthers others) nofun
    | item first others =>
      obtain rfl := Except.ok.inj (ihFirst first)
      obtain rfl := Json.arr.inj (Except.ok.inj (ihOthers others))
      rfl
  | noMember =>
    cases h'
    rfl
  | memberFails _ ih =>
    cases h' with
    | memberFails first => exact ih first
    | membersFail first | member first => exact absurd (ih first) nofun
  | membersFail _ _ ihFirst ihOthers =>
    cases h' with
    | memberFails first => exact absurd (ihFirst first) nofun
    | membersFail _ others => exact ihOthers others
    | member _ others => exact absurd (ihOthers others) nofun
  | member _ _ ihFirst ihOthers =>
    cases h' with
    | memberFails first => exact absurd (ihFirst first) nofun
    | membersFail _ others => exact absurd (ihOthers others) nofun
    | member first others =>
      obtain rfl := Except.ok.inj (ihFirst first)
      obtain rfl := Json.obj.inj (Except.ok.inj (ihOthers others))
      rfl

/-! ### Inlinings have derivations -/

/-- A result that is not that of being cut off. -/
def Ends {α : Type} (result : Except (Stop ReferenceError) α) : Prop :=
  result ≠ .error (.crash .endless)

theorem Ends.ok {α : Type} (a : α) : Ends (.ok a) :=
  fun heq => by cases heq

theorem Ends.refuse {α : Type} (cause : ReferenceError) :
    Ends (.error (.error cause) : Except _ α) :=
  fun heq => by cases heq

theorem Ends.crash {α : Type} {cause : Crash} (h : cause ≠ .endless) :
    Ends (.error (.crash cause) : Except _ α) :=
  fun heq => h (Stop.crash.inj (Except.error.inj heq))

theorem ends_of_bind {α β : Type} {x : Except (Stop ReferenceError) α}
    {f : α → Except (Stop ReferenceError) β} (h : Ends (x >>= f)) : Ends x := by
  intro heq
  rw [heq] at h
  exact h rfl

theorem ends_bind {α β : Type} {x : Except (Stop ReferenceError) α}
    {f : α → Except (Stop ReferenceError) β} (h : Ends x) (hf : ∀ a, x = .ok a → Ends (f a)) :
    Ends (x >>= f) := by
  cases x with
  | error stop =>
    intro heq
    obtain rfl := Except.error.inj heq
    exact h rfl
  | ok a => exact hf a rfl

/-- The error of a part is that of the whole. -/
theorem Ends.error {α β : Type} {stop : Stop ReferenceError} {x : Except (Stop ReferenceError) β}
    (h : Ends x) (hx : x = .error stop) : Ends (.error stop : Except (Stop ReferenceError) α) := by
  intro heq
  obtain rfl := Except.error.inj heq
  exact h hx

section Inline

variable {library : Library} {followed : List Target} {stack : List String}
  {document path ref : String} {members : Members}

/-- An object without a reference comes to its members, each of them inlined. -/
theorem inline_plain (href : members.ref? = none) :
    library.inline followed stack document path (.obj members) = do
      return .obj (← library.inlineMembers
        (library.followedInside followed stack (Target.placeKey document path))
        (Target.placeKey document path :: stack) document path members) := by
  rw [inline]
  split
  · next hget =>
    rw [Members.ref?_of_get? hget] at href
    cases href
  · rfl

theorem inline_noTarget {stop : Stop ReferenceError} (href : members.ref? = some ref)
    (htarget : library.target document ref = .error stop) :
    library.inline followed stack document path (.obj members) = .error stop := by
  rw [inline]
  simp only [Members.get?_of_ref? href, htarget]
  rfl

theorem inline_notFound {target : Target} {stop : Stop ReferenceError}
    (href : members.ref? = some ref) (htarget : library.target document ref = .ok target)
    (hfound : library.lookup target ref = .error stop) :
    library.inline followed stack document path (.obj members) = .error stop := by
  rw [inline]
  simp only [Members.get?_of_ref? href, htarget, bind, Except.bind, hfound]

/-- What following a reference comes to, from what its target and the members beside it come to. -/
def afterTarget (name : Json) (inner : Except (Stop ReferenceError) Json)
    (beside : Except (Stop ReferenceError) Members) : Except (Stop ReferenceError) Json :=
  match inner with
  | .error stop => .error stop
  | .ok (.obj inner) => beside.map fun beside => .obj (merge name inner (Members.erase beside "$ref"))
  | .ok value => .ok value

/-- What an object with a reference comes to, once it is known what the reference names. -/
theorem inline_refers {target : Target} {found : Json}
    (h : library.Refers document members ref target found) {inside : List Target}
    (hinside : library.followedInside followed stack (Target.placeKey document path) = inside) :
    library.inline followed stack document path (.obj members) =
      if target.key ∈ Target.placeKey document path :: stack then
        .ok (.obj [("$ref", .str ref), ("title", nameOf target found)])
      else if target ∈ library.named ∧ target ∉ inside then
        afterTarget (nameOf target found)
          (library.inline (target :: inside) (Target.placeKey document path :: stack)
            target.document (Pointer.text target.tokens) found)
          (library.inlineMembers inside (Target.placeKey document path :: stack) document path members)
      else .error (.crash .endless) := by
  subst hinside
  -- the walk compares keys by the Boolean test of lists
  rw [inline]
  simp only [Members.get?_of_ref? h.isRef, h.isTarget, bind, Except.bind, h.isFound,
    List.contains_iff_mem]
  congr 1
  generalize library.followedInside followed stack (Target.placeKey document path) = inside
  split
  · cases library.inline (target :: inside) (Target.placeKey document path :: stack)
      target.document (Pointer.text target.tokens) found with
    | error stop => rfl
    | ok value =>
      cases value with
      | obj inner =>
        unfold afterTarget
        cases library.inlineMembers inside (Target.placeKey document path :: stack) document path
          members <;> rfl
      | _ => rfl
  · rfl

theorem ends_afterTarget {name : Json} {inner : Except (Stop ReferenceError) Json}
    {beside : Except (Stop ReferenceError) Members} (hinner : Ends inner)
    (hbeside : ∀ members, inner = .ok (.obj members) → Ends beside) :
    Ends (afterTarget name inner beside) := by
  cases inner with
  | error stop => exact hinner
  | ok value =>
    cases value with
    | obj members =>
      have hends := hbeside members rfl
      cases beside with
      | error stop => exact hends.error rfl
      | ok values => exact .ok _
    | _ => exact .ok _

/-- Following a reference has a derivation, if its target and the members beside it have some. -/
theorem resolves_afterTarget {target : Target} {found : Json}
    (hrefers : library.Refers document members ref target found)
    (hnew : target.key ∉ Target.placeKey document path :: stack)
    {inner : Except (Stop ReferenceError) Json} {beside : Except (Stop ReferenceError) Members}
    (hinner : Ends inner → Resolves library (.node (Target.placeKey document path :: stack)
      target.document (Pointer.text target.tokens) found) inner)
    (hbeside : Ends beside → Resolves library (.members (Target.placeKey document path :: stack)
      document path members) (beside.map Json.obj))
    (hends : Ends (afterTarget (nameOf target found) inner beside)) :
    Resolves library (.node stack document path (.obj members))
      (afterTarget (nameOf target found) inner beside) := by
  cases inner with
  | error stop => exact .targetFails hrefers hnew (hinner hends)
  | ok value =>
    have htarget := hinner (.ok _)
    cases value with
    | obj innerMembers =>
      cases beside with
      | error stop => exact .siblingsFail hrefers hnew htarget (hbeside (Ends.error hends rfl))
      | ok values => exact .merged hrefers hnew htarget (hbeside (.ok _))
    | _ => exact .targetValue hrefers hnew htarget fun members heq => by cases heq

end Inline

/-- **Every inlining that is not cut off has a derivation**, by the recursion of the inlining. -/
theorem inlinings_resolve (library : Library) :
    (∀ followed stack document path node, Ends (library.inline followed stack document path node) →
      Resolves library (.node stack document path node)
        (library.inline followed stack document path node)) ∧
    (∀ followed stack document path members,
      Ends (library.inlineMembers followed stack document path members) →
      Resolves library (.members stack document path members)
        ((library.inlineMembers followed stack document path members).map Json.obj)) ∧
    (∀ followed stack document path index items,
      Ends (library.inlineItems followed stack document path index items) →
      Resolves library (.items stack document path index items)
        ((library.inlineItems followed stack document path index items).map Json.arr)) := by
  apply inline.mutual_induct library
    (fun followed stack document path node =>
      Ends (library.inline followed stack document path node) →
      Resolves library (.node stack document path node)
        (library.inline followed stack document path node))
    (fun followed stack document path members =>
      Ends (library.inlineMembers followed stack document path members) →
      Resolves library (.members stack document path members)
        ((library.inlineMembers followed stack document path members).map Json.obj))
    (fun followed stack document path index items =>
      Ends (library.inlineItems followed stack document path index items) →
      Resolves library (.items stack document path index items)
        ((library.inlineItems followed stack document path index items).map Json.arr))
  -- nodes: arrays, references, other objects, scalars
  case case1 =>
    intro followed stack document path items ih hends
    rw [inline] at hends ⊢
    have hparts := ih (ends_of_bind hends)
    cases hitems : library.inlineItems followed stack document path 0 items with
    | error stop => rw [hitems] at hparts; exact .array hparts
    | ok values => rw [hitems] at hparts; exact .array hparts
  case case2 =>
    intro followed stack document path members place opened inside ref hget ihTarget ihMembers hends
    have href := Members.ref?_of_get? hget
    -- the reference is told in the order in which it is followed: target, lookup, stack, what is followed
    cases htarget : library.target document ref with
    | error stop =>
      rw [inline_noTarget href htarget]
      exact .noTarget href htarget
    | ok target =>
      cases hfound : library.lookup target ref with
      | error stop =>
        rw [inline_notFound href htarget hfound]
        exact .notFound href htarget hfound
      | ok found =>
        have hrefers : library.Refers document members ref target found := ⟨href, htarget, hfound⟩
        rw [inline_refers hrefers rfl] at hends ⊢
        by_cases hopen : target.key ∈ Target.placeKey document path :: stack
        · rw [if_pos hopen]
          exact .backEdge hrefers hopen
        · rw [if_neg hopen] at hends ⊢
          by_cases hmem : target ∈ library.named ∧ target ∉ inside
          · rw [if_pos hmem] at hends ⊢
            exact resolves_afterTarget hrefers hopen (ihTarget target found hmem) ihMembers hends
          -- an open target is answered above, so this is where the walk is cut off
          · rw [if_neg hmem] at hends
            exact absurd rfl hends
  case case3 =>
    intro followed stack document path members place opened inside hget ih hends
    have href := Members.ref?_eq_none hget
    rw [inline_plain href] at hends ⊢
    have hparts := ih (ends_of_bind hends)
    cases hmembers : library.inlineMembers inside opened document path members with
    | error stop =>
      rw [hmembers] at hparts
      exact .object href hparts
    | ok values =>
      rw [hmembers] at hparts
      exact .object href hparts
  case case4 =>
    intro followed stack document path node harr hobj _
    rw [inline]
    · exact .leaf (fun items h => harr items h) fun members h => hobj members h
    · exact harr
    · exact hobj
  -- members
  case case5 =>
    intro followed stack document path hends
    rw [inlineMembers]
    exact .noMember
  case case6 =>
    intro followed stack document path name member rest ihFirst ihOthers hends
    rw [inlineMembers] at hends ⊢
    cases hfirst : library.inline followed stack document
      (path ++ "/" ++ Pointer.escape name) member with
    | error stop =>
      rw [hfirst] at ihFirst hends
      exact .memberFails (ihFirst (hends.error rfl))
    | ok value =>
      rw [hfirst] at ihFirst hends
      cases hothers : library.inlineMembers followed stack document path rest with
      | error stop =>
        rw [hothers] at ihOthers hends
        exact .membersFail (ihFirst (.ok _)) (ihOthers (hends.error rfl))
      | ok values =>
        rw [hothers] at ihOthers
        exact .member (ihFirst (.ok _)) (ihOthers (.ok _))
  -- items
  case case7 =>
    intro followed stack document path index hends
    rw [inlineItems]
    exact .noItem
  case case8 =>
    intro followed stack document path index item rest ihFirst ihOthers hends
    rw [inlineItems] at hends ⊢
    cases hfirst : library.inline followed stack document (path ++ "/" ++ toString index) item with
    | error stop =>
      rw [hfirst] at ihFirst hends
      exact .itemFails (ihFirst (hends.error rfl))
    | ok value =>
      rw [hfirst] at ihFirst hends
      cases hothers : library.inlineItems followed stack document path (index + 1) rest with
      | error stop =>
        rw [hothers] at ihOthers hends
        exact .itemsFail (ihFirst (.ok _)) (ihOthers (hends.error rfl))
      | ok values =>
        rw [hothers] at ihOthers
        exact .item (ihFirst (.ok _)) (ihOthers (.ok _))

/-- What a schema is inlined to has a derivation, unless the inlining was cut off. -/
theorem resolves_of_dereference {library : Library} (h : Ends library.dereference) :
    Resolves library (.node [] "" "" library.root) library.dereference :=
  (inlinings_resolve library).1 _ _ _ _ _ h

end Library

end SchemaPress
