import SchemaPress.Json.Parser
import SchemaPress.Proofs.Json.Narrowing

/-!
# What holds of everything that is read

A JSON text is read by three functions that call each other, for a value, for the members of an object
and for the items of an array. What holds of texts, words and numbers and of containers made of what
was read (`ReadInvariant`) holds of the value of every text (`ReadInvariant.of_parseRaw`), so an invariant
of reading is shown without going through the readers again.
-/

namespace SchemaPress.Json

theorem bind_eq_ok {ε α β : Type} {x : Except ε α} {f : α → Except ε β} {b : β}
    (h : (x >>= f) = .ok b) : ∃ a, x = .ok a ∧ f a = .ok b := by
  cases x with
  | error cause => cases h
  | ok a => exact ⟨a, rfl, h⟩

/-- A result that is there is the outcome. -/
theorem eq_ok_of_toOption {ε α : Type} {x : Except ε α} {a : α} (h : x.toOption = some a) : x = .ok a := by
  cases x with
  | error cause => cases h
  | ok b => exact congrArg Except.ok (Option.some.inj h)

/-- **An invariant of reading**: it holds of what is read without reading on, and passes on to arrays
and, member by member, to objects. -/
structure ReadInvariant (P : Raw → Prop) : Prop where
  text : ∀ text, P (.str text)
  word : ∀ word ∈ words, P word.2
  number : ∀ {s : List Char} {found : Numeral × Shorter s} {read : Raw}, number? s = some found →
    found.1.value? = some read → P read
  array : ∀ {items : List Raw}, (∀ item ∈ items, P item) → P (.arr items)
  empty : P (.obj [])
  put : ∀ {members : RawMembers} {value : Raw} (name : RawText), P (.obj members) → P value →
    P (.obj (assign members name value))

theorem ReadInvariant.found_word? {P : Raw → Prop} (hP : ReadInvariant P) {s : List Char}
    {found : Raw × Shorter s} (h : word? s = some found) : P found.1 := by
  obtain ⟨⟨word, value⟩, hmem, hfound⟩ := List.exists_of_findSome?_eq_some h
  have hvalue : P value := hP.word _ hmem
  simp only at hfound
  split at hfound
  · split at hfound
    · cases hfound
      exact hvalue
    · cases hfound
  · cases hfound

/-- **A number that is read** is an integer or the double of a decimal. -/
theorem number?_cases {s : List Char} {found : Numeral × Shorter s} (h : number? s = some found) :
    (∃ n, found.1 = .int n) ∨
      ∃ negative digits exponent, found.1 = .double (.ofDecimal negative digits exponent) := by
  have tail : ∀ negative whole t, (∃ n, (numberTail negative whole t).1 = .int n) ∨
      ∃ digits exponent, (numberTail negative whole t).1 =
        .double (.ofDecimal negative digits exponent) := by
    intro negative whole t
    unfold numberTail
    simp only
    split
    · exact .inl ⟨_, rfl⟩
    · exact .inr ⟨_, _, rfl⟩
  -- whichever way a number is cut, it ends with such a tail
  have magnitude : ∀ {negative t} {found : Numeral × Shorter t}, magnitude? negative t = some found →
      (∃ n, found.1 = .int n) ∨
        ∃ negative digits exponent, found.1 = .double (.ofDecimal negative digits exponent) := by
    intro negative t found h
    unfold magnitude? at h
    split at h
    · cases h
    · split at h
      · cases h
        exact (tail _ _ _).imp_right fun hdouble => ⟨negative, hdouble⟩
      · split at h
        · cases h
          exact (tail _ _ _).imp_right fun hdouble => ⟨negative, hdouble⟩
        · cases h
  unfold number? at h
  split at h
  · next r =>
    cases hread : magnitude? true r with
    | none => rw [hread] at h; cases h
    | some read =>
      rw [hread] at h
      cases h
      have hread := magnitude hread
      exact hread
  · exact magnitude h

/-- **The three readers keep an invariant of reading**, by their recursion. -/
theorem ReadInvariant.reads {P : Raw → Prop} (hP : ReadInvariant P) :
    (∀ s, ∀ found, value s = .ok found → P found.1) ∧
    (∀ s before, ∀ found, members s before = .ok found → P (.obj before) → P (.obj found.1)) ∧
    (∀ s, ∀ found, items s = .ok found → ∀ item ∈ found.1, P item) := by
  -- members are read into the object of those before them, of which `P` holds by hypothesis
  apply value.mutual_induct
    (fun s => ∀ found, value s = .ok found → P found.1)
    (fun s before => ∀ found, members s before = .ok found → P (.obj before) → P (.obj found.1))
    (fun s => ∀ found, items s = .ok found → ∀ item ∈ found.1, P item)
  -- values: texts, arrays, objects, words, numbers
  case case1 =>
    intro r found h
    rw [value] at h
    obtain ⟨text, -, h⟩ := bind_eq_ok h
    cases h
    exact hP.text _
  case case2 =>
    intro r rest hend found h
    rw [value, hend] at h
    cases h
    exact hP.array nofun
  case case3 =>
    intro r hend hle ih found h
    rw [value, hend] at h
    obtain ⟨list, hlist, h⟩ := bind_eq_ok h
    cases h
    exact hP.array (ih list hlist)
  case case4 =>
    intro r rest hend found h
    rw [value, hend] at h
    cases h
    exact hP.empty
  case case5 =>
    intro r hend hle ih found h
    rw [value, hend] at h
    obtain ⟨list, hlist, h⟩ := bind_eq_ok h
    cases h
    exact ih list hlist hP.empty
  case case6 =>
    intro s hquote harr hobj word hword found h
    rw [value, hword] at h
    · cases h
      exact hP.found_word? hword
    · exact hquote
    · exact harr
    · exact hobj
  case case7 =>
    intro s hquote harr hobj hword number rest hnumber read hread found h
    rw [value, hword, hnumber] at h
    · simp only [hread] at h
      cases h
      exact hP.number hnumber hread
    · exact hquote
    · exact harr
    · exact hobj
  case case8 =>
    intro s hquote harr hobj hword number rest hnumber hread found h
    rw [value, hword, hnumber] at h
    · simp only [hread] at h
      cases h
    · exact hquote
    · exact harr
    · exact hobj
  case case9 =>
    intro s hquote harr hobj hword hnumber found h
    rw [value, hword, hnumber] at h
    · cases h
    · exact hquote
    · exact harr
    · exact hobj
  -- members: each one is put into the object before it
  case case10 =>
    intro before r ihValue ihMembers found h hbefore
    rw [members] at h
    obtain ⟨⟨name, ⟨t, ht⟩⟩, -, h⟩ := bind_eq_ok h
    simp only at h
    split at h
    · cases h
    · next u hu hcolon =>
      obtain ⟨⟨member, ⟨v, hv⟩⟩, hmember, h⟩ := bind_eq_ok h
      have hput := hP.put name hbefore (ihValue t ht u hu _ hmember)
      simp only at h
      split at h
      · cases h
        exact hput
      · split at h
        · next w hw hcomma =>
          obtain ⟨list, hlist, h⟩ := bind_eq_ok h
          cases h
          exact ihMembers name t ht u hu member v hv w hw _ hlist hput
        · cases h
  case case11 =>
    intro before s hquote found h
    rw [members] at h
    · cases h
    · exact hquote
  -- items
  case case12 =>
    intro s ihValue ihItems found h
    rw [items] at h
    obtain ⟨⟨item, ⟨r, hr⟩⟩, hitem, h⟩ := bind_eq_ok h
    have hfirst : P item := ihValue _ hitem
    simp only at h
    split at h
    · cases h
      intro other hother
      obtain rfl := List.mem_singleton.1 hother
      exact hfirst
    · split at h
      · next t ht hcomma =>
        obtain ⟨list, hlist, h⟩ := bind_eq_ok h
        cases h
        intro other hother
        rcases List.mem_cons.1 hother with rfl | hother
        · exact hfirst
        · exact ihItems r hr t ht _ hlist other hother
      · cases h

/-- **An invariant of reading holds of what is read.** -/
theorem ReadInvariant.of_parseRaw {P : Raw → Prop} (hP : ReadInvariant P) {text : String} {read : Raw}
    (h : parseRaw text = .ok read) : P read := by
  unfold parseRaw at h
  cases hchars : parseChars text.toList with
  | error fault => rw [hchars] at h; cases h
  | ok found =>
    rw [hchars] at h
    cases h
    unfold parseChars at hchars
    simp only at hchars
    split at hchars
    · cases hchars
    · obtain ⟨⟨v, rest⟩, hvalue, hchars⟩ := bind_eq_ok hchars
      have hv : P v := hP.reads.1 _ _ hvalue
      simp only at hchars
      split at hchars
      · cases hchars
        exact hv
      · cases hchars

/-- Only an integer stops the reading of a text that nothing is wrong with. -/
theorem eq_tooLong_of_parseRaw {text : String} {cause : Misreading} (h : parseRaw text = .error cause)
    (hmalformed : ∀ failure, cause ≠ .malformed failure) : cause = .tooLong := by
  unfold parseRaw at h
  cases hparse : parseChars text.toList with
  | ok value => rw [hparse] at h; cases h
  | error fault =>
    rw [hparse] at h
    obtain rfl := Except.error.inj h
    cases fault with
    | wrong problem rest => exact absurd rfl (hmalformed _)
    | tooLong => rfl

/-- The value of a text is what the text says, without halves of surrogate pairs. -/
theorem parse_eq_ok_iff {text : String} {value : Json} :
    parse text = .ok value ↔ parseRaw text = .ok value.toRaw := by
  unfold parse
  constructor
  · intro h
    obtain ⟨raw, hraw, h⟩ := bind_eq_ok h
    split at h
    · next hvalue =>
      cases h
      rw [hraw, Raw.eq_toRaw hvalue]
    · cases h
  · intro h
    rw [h]
    simp only [bind, Except.bind, toJson?_toRaw]
    rfl

end SchemaPress.Json
