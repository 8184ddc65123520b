import SchemaPress.Proofs.Json.Distinct
import SchemaPress.Proofs.Json.Reading
import SchemaPress.Proofs.Json.Word

/-!
# Regular values

A JSON value is regular if every object in it holds each name once and every double in it is in the
form that tells it from all others. Both are matters of representation and not of what a JSON text
can say: what is read is regular (`Raw.regular_of_parseRaw`), and so is every value among it.
-/

namespace SchemaPress

namespace Json

/-- **A value in which equal parts are represented in one way.** -/
inductive Regular : Json → Prop where
  | plain {value : Json} (h : Plain value) : Regular value
  | str (text : String) : Regular (.str text)
  | arr {items : List Json} (h : ∀ item ∈ items, Regular item) : Regular (.arr items)
  | obj {members : Members} (hnames : members.Distinct)
      (h : ∀ member ∈ members, Regular member.2) : Regular (.obj members)

theorem Regular.item {items : List Json} (h : Regular (.arr items)) {item : Json}
    (hitem : item ∈ items) : item.Regular := by
  cases h with
  | plain h => cases h
  | arr h => exact h item hitem

theorem Regular.names {members : Members} (h : Regular (.obj members)) : members.Distinct := by
  cases h with
  | plain h => cases h
  | obj hnames => exact hnames

theorem Regular.member {members : Members} (h : Regular (.obj members)) {member : String × Json}
    (hmember : member ∈ members) : member.2.Regular := by
  cases h with
  | plain h => cases h
  | obj _ h => exact h member hmember

theorem Regular.get? {members : Members} (h : Regular (.obj members)) {name : String} {value : Json}
    (hvalue : members.get? name = some value) : value.Regular :=
  h.member (Members.mem_of_get? hvalue)

theorem regular_nil : Regular (.obj []) :=
  .obj List.nodup_nil nofun

/-! ### Members -/

section Members

variable {members : Members} (h : Regular (.obj members))

include h

theorem Regular.put (name : String) {value : Json} (hvalue : value.Regular) :
    Regular (.obj (members.put name value)) := by
  refine .obj (h.names.put name value) fun ⟨key, v⟩ hmem => ?_
  rcases Members.mem_put hmem with hmem | ⟨-, rfl⟩
  · exact h.member hmem
  · exact hvalue

/-- A part of the members. -/
theorem Regular.sublist {others : Members} (hothers : others.Sublist members) :
    Regular (.obj others) :=
  .obj (h.names.sublist (hothers.map Prod.fst)) fun _ hmem => h.member (hothers.subset hmem)

theorem Regular.erase (name : String) : Regular (.obj (members.erase name)) :=
  h.sublist List.filter_sublist

theorem Regular.putIfAbsent (name : String) {value : Json} (hvalue : value.Regular) :
    Regular (.obj (members.putIfAbsent name value)) := by
  refine .obj (h.names.putIfAbsent name value) fun ⟨key, v⟩ hmem => ?_
  rcases Members.mem_putIfAbsent hmem with hmem | ⟨-, rfl⟩
  · exact h.member hmem
  · exact hvalue

end Members

end Json

/-! ### What is read is regular -/

namespace Raw

/-- A value, as it is read, in which equal parts are represented in one way. -/
inductive Regular : Raw → Prop where
  | null : Regular .null
  | bool (value : Bool) : Regular (.bool value)
  | int (value : Integer) : Regular (.int value)
  | double {value : Double} (h : value.Canonical) : Regular (.double value)
  | str (text : RawText) : Regular (.str text)
  | arr {items : List Raw} (h : ∀ item ∈ items, Regular item) : Regular (.arr items)
  | obj {members : RawMembers} (hnames : (members.map Prod.fst).Nodup)
      (h : ∀ member ∈ members, Regular member.2) : Regular (.obj members)

theorem Regular.names {members : RawMembers} (h : Regular (.obj members)) :
    (members.map Prod.fst).Nodup := by
  cases h with
  | obj hnames _ => exact hnames

theorem Regular.assign {members : RawMembers} (h : Regular (.obj members)) (name : RawText) {value : Raw}
    (hvalue : value.Regular) : Regular (.obj (assign members name value)) := by
  cases h with
  | obj hnames h =>
    refine .obj (nodup_assign hnames name value) fun member hmember => ?_
    rcases mem_assign hmember with hmember | rfl
    · exact h member hmember
    · exact hvalue

theorem regular_of_mem_words {word : List Char × Raw} (h : word ∈ Json.words) : word.2.Regular := by
  simp only [Json.words, List.mem_cons, List.not_mem_nil, or_false] at h
  rcases h with rfl | rfl | rfl | rfl | rfl | rfl
  · exact .null
  · exact .bool true
  · exact .bool false
  · exact .double trivial
  · exact .double trivial
  · exact .double trivial

theorem regular_of_number? {s : List Char} {found : Json.Numeral × Json.Shorter s} {read : Raw}
    (h : Json.number? s = some found) (hread : found.1.value? = some read) : read.Regular := by
  rcases Json.number?_cases h with ⟨n, heq⟩ | ⟨negative, digits, exponent, heq⟩
  · rw [heq] at hread
    obtain ⟨integer, -, rfl⟩ := Option.map_eq_some_iff.1 hread
    exact .int integer
  · rw [heq] at hread
    cases hread
    exact .double (Double.canonical_ofDecimal negative digits exponent)

/-- **Reading gives regular values.** -/
theorem regular_of_parseRaw {text : String} {read : Raw} (h : Json.parseRaw text = .ok read) :
    read.Regular :=
  Json.ReadInvariant.of_parseRaw (P := Regular)
    { text := .str
      word := fun _ hword => regular_of_mem_words hword
      number := regular_of_number?
      array := .arr
      empty := .obj List.nodup_nil nofun
      put := fun name hmembers hvalue => hmembers.assign name hvalue } h

/-- A value is regular if it is so as it is read. -/
theorem Regular.ofJson {raw : Raw} (h : raw.Regular) {value : Json} (heq : raw = value.toRaw) :
    value.Regular := by
  induction h generalizing value with
  | null | bool _ | int _ =>
    cases value <;> cases heq
    exact .plain (by constructor)
  | double h =>
    cases value <;> cases heq
    exact .plain (.double h)
  | str text =>
    cases value <;> cases heq
    exact .str _
  | arr h ih =>
    cases value <;> cases heq
    next items =>
    refine .arr fun item hitem => ih item.toRaw ?_ rfl
    rw [Json.itemsToRaw_eq_map]
    exact List.mem_map_of_mem hitem
  | obj hnames h ih =>
    cases value <;> cases heq
    next members =>
    rw [Json.names_membersToRaw] at hnames
    refine .obj (.of_map _ hnames) fun member hmember => ih (.ofString member.1, member.2.toRaw) ?_ rfl
    rw [Json.membersToRaw_eq_map]
    exact List.mem_map_of_mem hmember

end Raw

namespace Json

theorem regular_of_parse {text : String} {read : Json} (h : parse text = .ok read) : read.Regular :=
  (Raw.regular_of_parseRaw (parse_eq_ok_iff.1 h)).ofJson rfl

/-- No object in a regular value has two members of one name. -/
theorem Regular.distinct {value : Json} (h : value.Regular) : value.Distinct := by
  induction h with
  | plain h => cases h <;> exact .leaf nofun nofun
  | str text => exact distinct_str text
  | arr _ ih => exact .arr ih
  | obj hnames _ ih => exact .obj hnames ih

theorem distinct_of_parse {text : String} {read : Json} (h : parse text = .ok read) : read.Distinct :=
  (regular_of_parse h).distinct

end Json

end SchemaPress
