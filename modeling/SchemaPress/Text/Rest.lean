/-!
# What is left to read

A reader takes characters from the front of a list and answers what is left. The type
`Rest s` holds the two facts that every reader keeps: what is left is an end of `s`, and it is
shorter than `s`. The first makes the text that was read the difference of the two
(`Rest.read_append`), so a reader can keep the text as it was written; the second ends the recursion.
-/

namespace SchemaPress

/-- A proper end of the text `s`. -/
structure Rest (s : List Char) where
  /-- The characters that are left. -/
  chars : List Char
  /-- They end the text. -/
  isSuffix : chars <:+ s
  /-- Something was read. -/
  shorter : chars.length < s.length

/-- What is left behind the characters with a property ends the text. -/
theorem suffix_of_dropWhile {p : Char → Bool} {s t : List Char} (h : s.dropWhile p = t) : t <:+ s :=
  h ▸ List.dropWhile_suffix p

namespace Rest

/-- All but the first character. -/
def tail (c : Char) (s : List Char) : Rest (c :: s) :=
  ⟨s, List.suffix_cons c s, Nat.lt_succ_self _⟩

/-- What is left behind the character `c`, if the text starts with it. -/
def over? (c : Char) : (s : List Char) → Option (Rest s)
  | [] => none
  | d :: s => if d = c then some (tail d s) else none

/-- What is left after more was read. -/
def trans {s : List Char} (r : Rest s) (q : Rest r.chars) : Rest s :=
  ⟨q.chars, q.isSuffix.trans r.isSuffix, Nat.lt_trans q.shorter r.shorter⟩

/-- What is left after more was read, seen from a text that this one ends. -/
def widen {s t : List Char} (r : Rest s) (h : s <:+ t) : Rest t :=
  ⟨r.chars, r.isSuffix.trans h, Nat.lt_of_lt_of_le r.shorter h.length_le⟩

/-- What is left after an end of it was kept. -/
def narrow {s : List Char} (r : Rest s) (t : List Char) (h : t <:+ r.chars) : Rest s :=
  ⟨t, h.trans r.isSuffix, Nat.lt_of_le_of_lt h.length_le r.shorter⟩

/-- What is left after the characters with the property `p` that come next. -/
def skip {s : List Char} (r : Rest s) (p : Char → Bool) : Rest s :=
  r.narrow (r.chars.dropWhile p) (List.dropWhile_suffix p)

/-- What is left behind one more character, if there is one. -/
def skipOne {s : List Char} (r : Rest s) : Rest s :=
  r.narrow r.chars.tail (List.tail_suffix r.chars)

/-- What is left behind the character `c`, if that comes next. -/
def after? {s : List Char} (r : Rest s) (c : Char) : Option (Rest s) :=
  match h : r.chars with
  | [] => none
  | d :: t => if d = c then some (r.narrow t (h ▸ List.suffix_cons d t)) else none

/-- What is left behind the first `n + 1` characters. -/
def dropSome (n : Nat) (c : Char) (s : List Char) : Rest (c :: s) :=
  (tail c s).narrow (s.drop n) (List.drop_suffix n s)

/-- The characters that were read. -/
def read {s : List Char} (r : Rest s) : List Char :=
  s.take (s.length - r.chars.length)

theorem read_append {s : List Char} (r : Rest s) : r.read ++ r.chars = s := by
  obtain ⟨chars, ⟨front, rfl⟩, _⟩ := r
  simp [read]

end Rest

end SchemaPress
