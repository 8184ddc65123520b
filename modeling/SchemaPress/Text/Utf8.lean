/-!
# Reading octets as UTF-8

`decodeLossy` reads any sequence of octets: where no character can be read, the longest part that
could have started one becomes a single replacement character, and reading goes on behind it.
-/

namespace SchemaPress.Text

/-- The replacement character. -/
def replacement : Char := '\uFFFD'

/-- What the first octet of a character of several octets says: its share of the code point, the
number of octets to follow, and the bounds of the next one, which rule out overlong forms, surrogates
and numbers beyond the last code point. -/
def leadOctet? (a : Nat) : Option (Nat × Nat × Nat × Nat) :=
  if 0xC2 ≤ a ∧ a ≤ 0xDF then some (a - 0xC0, 1, 0x80, 0xBF)
  else if a = 0xE0 then some (0, 2, 0xA0, 0xBF)
  else if a = 0xED then some (0xD, 2, 0x80, 0x9F)
  else if 0xE1 ≤ a ∧ a ≤ 0xEF then some (a - 0xE0, 2, 0x80, 0xBF)
  else if a = 0xF0 then some (0, 3, 0x90, 0xBF)
  else if 0xF1 ≤ a ∧ a ≤ 0xF3 then some (a - 0xF0, 3, 0x80, 0xBF)
  else if a = 0xF4 then some (4, 3, 0x80, 0x8F)
  else none

/-- Reads `count` more octets into the code point, the first of them within bounds: the code point, if
all are there, and the octets left. -/
def continuation (count low high code : Nat) (octets : List Nat) : Option Nat × List Nat :=
  match count, octets with
  | 0, octets => (some code, octets)
  | _ + 1, [] => (none, [])
  | count + 1, b :: rest =>
    if low ≤ b ∧ b ≤ high then continuation count 0x80 0xBF (code * 64 + b % 64) rest
    else (none, b :: rest)

theorem length_continuation_le (count low high code : Nat) (octets : List Nat) :
    (continuation count low high code octets).2.length ≤ octets.length := by
  induction octets generalizing count low high code with
  | nil => cases count <;> simp [continuation]
  | cons b rest ih =>
    cases count with
    | zero => simp [continuation]
    | succ count =>
      simp only [continuation]
      split
      · have := ih count 0x80 0xBF (code * 64 + b % 64)
        simp; omega
      · simp

/-- The characters of a sequence of octets, with replacement characters for what cannot be read. -/
def decodeLossy (octets : List Nat) : List Char :=
  match octets with
  | [] => []
  | a :: rest =>
    if a < 0x80 then Char.ofNat a :: decodeLossy rest
    else
      match leadOctet? a with
      | none => replacement :: decodeLossy rest
      | some (lead, count, low, high) =>
        match h : continuation count low high lead rest with
        | (some code, left) =>
          have : left.length ≤ rest.length := by
            simpa [h] using length_continuation_le count low high lead rest
          Char.ofNat code :: decodeLossy left
        | (none, left) =>
          have : left.length ≤ rest.length := by
            simpa [h] using length_continuation_le count low high lead rest
          replacement :: decodeLossy left
termination_by octets.length
decreasing_by all_goals (simp; try omega)

end SchemaPress.Text
