import Mathlib.Data.List.Basic
import SchemaPress.Proofs.Json.Number
import SchemaPress.Proofs.Reference.Lookup
import SchemaPress.Proofs.Reference.Walk
import SchemaPress.Proofs.Text.Pieces

/-!
# Spellings and positions

Inlining tells places by their spellings: the document, and the tokens on the way with their escapes.
Where a node of the schema really is, is a position, the keys on the way. A spelling stands for its
tokens (`Pointer.text_inj`), and tokens lead to one position (`Json.Locates.unique`); but a position
may have several spellings, since a reference can write the index of an item in digits of any script
and with zeros in front of it.

As long as all references are local, inlining stays in the schema: every site that it comes to has a
position there, and a spelling of that position (`Sits`).
-/

namespace SchemaPress

/-! ### Spellings of tokens -/

namespace Pointer

theorem unescape_escape (token : List Char) : unescape (token.flatMap escapeChar) = token := by
  induction token with
  | nil => rfl
  | cons c rest ih =>
    rw [List.flatMap_cons]
    by_cases htilde : c = '~'
    · subst htilde
      change '~' :: unescape (rest.flatMap escapeChar) = _
      rw [ih]
    by_cases hslash : c = '/'
    · subst hslash
      change '/' :: unescape (rest.flatMap escapeChar) = _
      rw [ih]
    · have hplain : escapeChar c = [c] := by simp [escapeChar, htilde, hslash]
      rw [hplain, List.singleton_append, unescape, ih]
      · exact fun _ heq _ => htilde heq
      · exact fun _ heq _ => htilde heq

theorem escape_inj {token other : String} (h : escape token = escape other) : token = other := by
  have hchars := congrArg (fun text : String => unescape text.toList) h
  simp only [escape, String.toList_ofList, unescape_escape] at hchars
  exact String.toList_inj.1 hchars

theorem slash_not_mem_escape (token : String) : '/' ∉ (escape token).toList := by
  unfold escape
  rw [String.toList_ofList]
  intro hmem
  obtain ⟨c, -, hc⟩ := List.mem_flatMap.1 hmem
  unfold escapeChar at hc
  split at hc
  · exact absurd hc (by decide)
  · split at hc
    · exact absurd hc (by decide)
    · next hslash => exact hslash (List.mem_singleton.1 hc).symm

theorem text_concat (tokens : List String) (token : String) :
    text (tokens ++ [token]) = text tokens ++ "/" ++ escape token := by
  unfold text
  rw [List.map_append, String.join_append, String.append_assoc]
  rfl

/-- The pieces of a spelling are the escaped tokens, behind nothing. -/
theorem pieces_text (tokens : List String) :
    Text.pieces '/' (text tokens).toList =
      [] :: tokens.map fun token => (escape token).toList := by
  have hjoin (parts : List String) : (String.join (parts.map ("/" ++ ·))).toList =
      ['/'].intercalate ([] :: parts.map String.toList) := by
    induction parts with
    | nil => rfl
    | cons part parts ih =>
      rw [List.map_cons, String.join_cons, String.toList_append, String.toList_append, ih,
        List.map_cons, List.intercalate_cons_cons]
      cases parts with
      | nil => simp
      | cons next parts =>
        rw [List.map_cons, List.intercalate_cons_cons, List.intercalate_cons_cons]
        simp
  have htext : text tokens = String.join ((tokens.map escape).map ("/" ++ ·)) := by
    rw [List.map_map]
    rfl
  rw [htext, hjoin, Text.pieces_intercalate (List.cons_ne_nil _ _), List.map_map]
  · rfl
  · intro piece hpiece
    rcases List.mem_cons.1 hpiece with rfl | hpiece
    · exact List.not_mem_nil
    · obtain ⟨part, hpart, rfl⟩ := List.mem_map.1 hpiece
      obtain ⟨token, -, rfl⟩ := List.mem_map.1 hpart
      exact slash_not_mem_escape token

/-- **A spelling stands for its tokens.** -/
theorem text_inj {tokens others : List String} (h : text tokens = text others) :
    tokens = others := by
  have hpieces := pieces_text tokens
  rw [h, pieces_text others] at hpieces
  refine List.map_injective_iff.2 (fun token other heq => ?_) (List.cons.inj hpieces).2.symm
  exact escape_inj (String.toList_inj.1 heq)

/-! ### Tokens of indices -/

theorem toList_toString (index : Nat) : (toString index).toList = Nat.toDigits 10 index := by
  rw [Nat.toString_eq_repr, Nat.toList_repr]

/-- The digits of an index need no escape. -/
theorem escape_toString (index : Nat) : escape (toString index) = toString index := by
  have hplain {digits : List Char} (h : Json.AllDigits digits) :
      digits.flatMap escapeChar = digits := by
    induction digits with
    | nil => rfl
    | cons c rest ih =>
      have htilde : c ≠ '~' := fun heq => absurd (h c List.mem_cons_self) (by rw [heq]; decide)
      have hslash : c ≠ '/' := fun heq => absurd (h c List.mem_cons_self) (by rw [heq]; decide)
      rw [List.flatMap_cons, ih fun d hd => h d (List.mem_cons_of_mem _ hd)]
      simp [escapeChar, htilde, hslash]
  unfold escape
  rw [toList_toString, hplain (Json.allDigits_toDigits index), ← toList_toString,
    String.ofList_toList]

/-- The number of an item has no more digits than an index may have. -/
theorem length_toDigits_le_maxDigits {index count : Nat} (h : index < count) :
    (Nat.toDigits 10 index).length ≤ maxDigits count := by
  have hcount := (Nat.length_toDigits_le_iff (by decide) Nat.length_toDigits_pos).1
    (Nat.le_refl (Nat.toDigits 10 count).length)
  have hindex := (Nat.length_toDigits_le_iff (by decide) Nat.length_toDigits_pos).2
    (Nat.lt_trans h hcount)
  exact Nat.le_trans hindex (Nat.le_max_right ..)

/-- **The number of an item is read as its index.** -/
theorem indexOf_toString {index count : Nat} (h : index < count) :
    indexOf count (toString index) = .index index := by
  have hall := Json.allDigits_toDigits index
  have hvalues {digits : List Char} (h : Json.AllDigits digits) :
      digits.mapM Text.decimalValue? = some (digits.map fun c => c.toNat - '0'.toNat) := by
    induction digits with
    | nil => rfl
    | cons c rest ih =>
      rw [List.mapM_cons, Text.decimalValue?_of_isDigit (h c List.mem_cons_self),
        ih fun d hd => h d (List.mem_cons_of_mem _ hd)]
      rfl
  have hdigits : (Nat.toDigits 10 index).all Text.isDigit = true := by
    refine List.all_eq_true.2 fun c hc => ?_
    exact Text.isDigit_of_isDigit (hall c hc)
  unfold indexOf
  simp only [toList_toString, hdigits, hvalues hall, List.isEmpty_iff, Nat.toDigits_ne_nil,
    Bool.not_true, Bool.or_false, if_false, Nat.not_lt.2 (length_toDigits_le_maxDigits h),
    List.foldl_map]
  exact congrArg Index.index (Json.digitsValue_toDigits index)

end Pointer

/-! ### Positions -/

/-- The token that the walk down a document writes for a key. -/
def Key.token : Key → String
  | .name text => text
  | .index number => toString number

/-- **Where tokens lead.** From a value, these tokens lead along these keys to a part. An array takes
every token that can be read as the index of an item. -/
inductive Json.Locates : Json → List String → List Key → Json → Prop where
  | here {value : Json} : Locates value [] [] value
  | item {items : List Json} {token : String} {index : Nat} {item part : Json}
      {tokens : List String} {position : List Key}
      (hindex : Pointer.indexOf items.length token = .index index) (hitem : items[index]? = some item)
      (rest : Locates item tokens position part) :
      Locates (.arr items) (token :: tokens) (.index index :: position) part
  | member {members : Members} {name : String} {value part : Json} {tokens : List String}
      {position : List Key} (hmember : members.get? name = some value)
      (rest : Locates value tokens position part) :
      Locates (.obj members) (name :: tokens) (.name name :: position) part

namespace Json.Locates

variable {value middle part : Json} {tokens more : List String} {position rest : List Key}

/-- Tokens lead to one position. -/
theorem unique {position' : List Key} {part' : Json} (h : value.Locates tokens position part)
    (h' : value.Locates tokens position' part') : position = position' ∧ part = part' := by
  induction h generalizing position' with
  | here =>
    cases h'
    exact ⟨rfl, rfl⟩
  | item hindex hitem _ ih =>
    cases h' with
    | item hindex' hitem' rest' =>
      obtain rfl := Pointer.Index.index.inj (hindex.symm.trans hindex')
      obtain rfl := Option.some.inj (hitem.symm.trans hitem')
      obtain ⟨rfl, rfl⟩ := ih rest'
      exact ⟨rfl, rfl⟩
  | member hmember _ ih =>
    cases h' with
    | member hmember' rest' =>
      obtain rfl := Option.some.inj (hmember.symm.trans hmember')
      obtain ⟨rfl, rfl⟩ := ih rest'
      exact ⟨rfl, rfl⟩

theorem at? (h : value.Locates tokens position part) : value.at? position = some part := by
  induction h with
  | here => rfl
  | item _ hitem _ ih =>
    rw [Json.at?_cons, Json.at?_index, hitem]
    exact ih
  | member hmember _ ih =>
    rw [Json.at?_cons, Json.at?_name, hmember]
    exact ih

theorem isPart (h : value.Locates tokens position part) : value.Part part := by
  induction h with
  | here => exact .self
  | item _ hitem _ ih => exact (Json.Part.item .self (List.mem_of_getElem? hitem)).trans ih
  | member hmember _ ih => exact (Json.Part.member .self (Members.mem_of_get? hmember)).trans ih

theorem append (h : value.Locates tokens position middle) (h' : middle.Locates more rest part) :
    value.Locates (tokens ++ more) (position ++ rest) part := by
  induction h with
  | here => exact h'
  | item hindex hitem _ ih => exact .item hindex hitem (ih h')
  | member hmember _ ih => exact .member hmember (ih h')

end Json.Locates

/-- **Every position has a spelling**: that of the walk down to it. -/
theorem Json.locates_of_at? {value part : Json} {position : List Key}
    (h : value.at? position = some part) :
    value.Locates (position.map Key.token) position part := by
  induction position generalizing value with
  | nil =>
    obtain rfl := Option.some.inj h
    exact .here
  | cons key rest ih =>
    rw [Json.at?_cons] at h
    obtain ⟨next, hnext, hrest⟩ := Option.bind_eq_some_iff.1 h
    cases key with
    | name text =>
      cases value with
      | obj members => exact .member (Json.at?_name.symm.trans hnext) (ih hrest)
      | _ => cases hnext
    | index number =>
      cases value with
      | arr items =>
        have hitem : items[number]? = some next := Json.at?_index.symm.trans hnext
        have hindex := Pointer.indexOf_toString (List.getElem?_eq_some_iff.1 hitem).1
        exact .item hindex hitem (ih hrest)
      | _ => cases hnext

namespace Library

variable {library : Library}

/-- What is found by tokens is at a position. -/
theorem locates_of_steps {ref : String} {tokens : List String} {value last : Json}
    (h : tokens.foldlM (fun value token => step ref token value) value = .ok last) :
    ∃ position, value.Locates tokens position last := by
  induction tokens generalizing value with
  | nil =>
    cases h
    exact ⟨[], .here⟩
  | cons token rest ih =>
    rw [List.foldlM_cons] at h
    obtain ⟨next, hstep, h⟩ := Json.bind_eq_ok h
    obtain ⟨position, hrest⟩ := ih h
    unfold step at hstep
    split at hstep
    · split at hstep
      · next index hindex =>
        split at hstep
        · next item hitem =>
          cases hstep
          exact ⟨_, .item hindex hitem hrest⟩
        · cases hstep
      · cases hstep
      · cases hstep
    · split at hstep
      · next member hmember =>
        cases hstep
        exact ⟨_, .member hmember hrest⟩
      · cases hstep
    · cases hstep

/-- What tokens lead to is found by them. -/
theorem steps_of_locates {value part : Json} {tokens : List String} {position : List Key}
    (h : value.Locates tokens position part) (ref : String) :
    tokens.foldlM (fun value token => step ref token value) value = .ok part := by
  induction h with
  | here => rfl
  | item hindex hitem _ ih =>
    rw [List.foldlM_cons, step, hindex]
    simp only [hitem]
    exact ih
  | member hmember _ ih =>
    rw [List.foldlM_cons, step]
    simp only [hmember]
    exact ih

/-- What a target in the schema names is at a position of the schema. -/
theorem locates_of_lookup {target : Target} {ref : String} {found : Json}
    (hdocument : target.document = "") (h : library.lookup target ref = .ok found) :
    ∃ position, library.root.Locates target.tokens position found := by
  obtain ⟨value, hload, h⟩ := Json.bind_eq_ok h
  have hroot : library.load "" ref = .ok library.root := rfl
  rw [hdocument, hroot] at hload
  obtain rfl := Except.ok.inj hload
  exact locates_of_steps h

/-! ### Local references -/

/-- **References into the document they stand in**: they have no location in front of the fragment. -/
def IsLocal (ref : String) : Prop :=
  (Text.cutAt '#' ref.toList).1 = []

instance (ref : String) : Decidable (IsLocal ref) :=
  inferInstanceAs (Decidable ((Text.cutAt '#' ref.toList).1 = []))

/-- All references of the schema are local. -/
def LocalOnly (library : Library) : Prop :=
  ∀ ref ∈ refsIn library.root, IsLocal ref

theorem document_of_isLocal {document ref : String} {target : Target} (hlocal : IsLocal ref)
    (h : library.target document ref = .ok target) : target.document = document := by
  unfold IsLocal at hlocal
  unfold Library.target at h
  rcases hcut : Text.cutAt '#' ref.toList with ⟨location, fragment⟩
  rw [hcut] at h hlocal
  obtain rfl : location = [] := hlocal
  simp only [isRemote, Bool.false_eq_true, if_false, List.isEmpty_nil, if_true] at h
  split at h
  · cases h
  · cases h
    rfl

/-- **The site is in the schema**: at this position, under a spelling with these tokens. -/
structure Sits (library : Library) (site : Site) (tokens : List String) (position : List Key) :
    Prop where
  document : site.document = ""
  pointer : site.pointer = Pointer.text tokens
  locates : library.root.Locates tokens position site.node

namespace Sits

variable {site other : Site} {tokens others : List String} {position place : List Key}

theorem root : library.Sits library.rootSite [] [] :=
  ⟨rfl, rfl, .here⟩

theorem item (h : library.Sits site tokens position) {items : List Json}
    (hnode : site.node = .arr items) {index : Nat} {item : Json}
    (hitem : items[index]? = some item) :
    library.Sits (site.item index item) (tokens ++ [toString index])
      (position ++ [.index index]) where
  document := h.document
  pointer := by
    rw [Pointer.text_concat, Pointer.escape_toString, ← h.pointer]
    rfl
  locates := (hnode ▸ h.locates).append
    (.item (Pointer.indexOf_toString (List.getElem?_eq_some_iff.1 hitem).1) hitem .here)

theorem member (h : library.Sits site tokens position) {members : Members}
    (hnode : site.node = .obj members) {name : String} {value : Json}
    (hmember : members.get? name = some value) :
    library.Sits (site.member name value) (tokens ++ [name]) (position ++ [.name name]) where
  document := h.document
  pointer := by
    rw [Pointer.text_concat, ← h.pointer]
    rfl
  locates := (hnode ▸ h.locates).append (.member hmember .here)

/-- What a reference names sits where its tokens lead. -/
theorem target (h : library.Sits site tokens position) (hlocal : library.LocalOnly)
    {members : Members} (hnode : site.node = .obj members) {ref : String} {target : Target}
    {found : Json} (hrefers : library.Refers site.document members ref target found) :
    ∃ goal, library.Sits (target.site found) target.tokens goal := by
  have hdocument : target.document = "" := by
    rw [← h.document]
    have hmem : ref ∈ refsIn site.node := hnode ▸ mem_refsIn_of_ref? hrefers.isRef
    exact document_of_isLocal (hlocal ref (refsIn_of_part h.locates.isPart hmem)) hrefers.isTarget
  obtain ⟨goal, hgoal⟩ := locates_of_lookup hdocument hrefers.isFound
  exact ⟨goal, hdocument, rfl, hgoal⟩

/-- **Sites of one spelling are at one position.** -/
theorem of_key (h : library.Sits site tokens position) (h' : library.Sits other others place)
    (hkey : site.key = other.key) : tokens = others ∧ position = place := by
  unfold Site.key Target.placeKey at hkey
  rw [h.document, h'.document, h.pointer, h'.pointer] at hkey
  obtain rfl := Pointer.text_inj ((String.append_right_inj _).1 hkey)
  exact ⟨rfl, (h.locates.unique h'.locates).1⟩

/-- The spelling of a site depends on its tokens only. -/
theorem key_eq (h : library.Sits site tokens position) (h' : library.Sits other tokens place) :
    site.key = other.key := by
  unfold Site.key
  rw [h.document, h'.document, h.pointer, h'.pointer]

end Sits

end Library

end SchemaPress
