import SchemaPress.Text.Basic
import SchemaPress.Text.CharacterName.FromA
import SchemaPress.Text.CharacterName.FromC
import SchemaPress.Text.CharacterName.FromD
import SchemaPress.Text.CharacterName.FromI
import SchemaPress.Text.CharacterName.FromM
import SchemaPress.Text.CharacterName.FromS
import SchemaPress.Text.CharacterName.FromT

/-!
# Names of characters

Which texts are the name of a character, or an alias of one. Most names stand in tables; those of
Hangul syllables and of unified ideographs follow a rule.

In the tables the names stand in their order. Each is written as the number of characters to be taken
from the end of the one in front of it, and the characters to be put there instead. The number is a
small letter, from `a` for none; each `+` in front of it adds 26.
-/

namespace SchemaPress.Text.CharacterName

/-- Where a walk through the tables stands. -/
structure Walk where
  /-- The name that is read, the last character first. -/
  name : List Char
  /-- Whether the name may be complete. -/
  whole : Bool
  /-- Whether the name that is looked for was met. -/
  found : Bool

/-- One step of a walk: a new name begins, or one more character of it. -/
def Walk.step (goal : List Char) (walk : Walk) (c : Char) : Walk :=
  if c == '+' || ('a' ≤ c && c ≤ 'z') then
    let dropped := if c == '+' then 26 else c.toNat - 'a'.toNat
    ⟨walk.name.drop dropped, false, walk.found || (walk.whole && walk.name == goal)⟩
  else ⟨c :: walk.name, true, walk.found⟩

/-- Whether a table has a name, which is given with its last character first. -/
def tableHas (goal : List Char) (lines : List String) : Bool :=
  let walk : Walk :=
    lines.foldl (fun walk line => line.toList.foldl (Walk.step goal) walk) ⟨[], false, false⟩
  walk.found || walk.name == goal

/-- The tables. -/
def tables : List (List String) :=
  [fromA, fromC, fromD, fromI, fromM, fromS, fromT]

/-- Whether the name stands in a table, in letters of any case. -/
def isListed (name : List Char) : Bool :=
  let goal := (name.map Char.toUpper).reverse
  tables.any (tableHas goal)

/-- The unified ideographs. -/
def ideographs : List (Nat × Nat) := [
  (0x3400, 0x4DBF), (0x4E00, 0x9FFF), (0x20000, 0x2A6DF), (0x2A700, 0x2B738), (0x2B740, 0x2B81D),
  (0x2B820, 0x2CEA1), (0x2CEB0, 0x2EBE0), (0x30000, 0x3134A)]

/-- Whether the text is the number of a unified ideograph: four or five digits, in capitals. -/
def isIdeograph (digits : List Char) : Bool :=
  (digits.length = 4 || digits.length = 5) && digits.all (fun c => !('a' ≤ c && c ≤ 'f')) &&
    (hexNumber? digits).any fun n =>
      ideographs.any fun (first, last) => first ≤ n && n ≤ last

/-- The sounds that Hangul syllables begin with. -/
def initials : List String :=
  ["G", "GG", "N", "D", "DD", "R", "M", "B", "BB", "S", "SS", "", "J", "JJ", "C", "K", "T", "P", "H"]

/-- The sounds in the middle of Hangul syllables. -/
def vowels : List String :=
  ["A", "AE", "YA", "YAE", "EO", "E", "YEO", "YE", "O", "WA", "WAE", "OE", "YO", "U", "WEO", "WE",
   "WI", "YU", "EU", "YI", "I"]

/-- The sounds that Hangul syllables end with. -/
def finals : List String :=
  ["", "G", "GG", "GS", "N", "NJ", "NH", "D", "L", "LG", "LM", "LB", "LS", "LT", "LP", "LH", "M", "B",
   "BS", "S", "SS", "NG", "J", "C", "K", "T", "P", "H"]

/-- What is left behind the longest of some sounds that the text begins with, if there is one. -/
def afterSound? (sounds : List String) (s : List Char) : Option (List Char) :=
  let lengths := (sounds.filter fun sound => sound.toList.isPrefixOf s).map String.length
  lengths.max?.map s.drop

/-- Whether the text is a Hangul syllable, in capitals. -/
def isSyllable (s : List Char) : Bool :=
  ((afterSound? initials s).bind (afterSound? vowels)).bind (afterSound? finals) = some []

/-- What is left behind a text that another one begins with. -/
def behind? (start : String) (s : List Char) : Option (List Char) :=
  if start.toList.isPrefixOf s then some (s.drop start.length) else none

end CharacterName

/-- Whether a character has this name. -/
def isCharacterName (name : List Char) : Bool :=
  match CharacterName.behind? "HANGUL SYLLABLE " name,
      CharacterName.behind? "CJK UNIFIED IDEOGRAPH-" name with
  | some syllable, _ => CharacterName.isSyllable syllable
  | none, some digits => CharacterName.isIdeograph digits
  | none, none => CharacterName.isListed name

end SchemaPress.Text
