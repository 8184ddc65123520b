import SchemaPress.Json.Basic
import SchemaPress.Text.Basic
import SchemaPress.Text.Utf8

/-!
# JSON pointers in references

A reference names a node of a document by the tokens that lead to it: member names and array indices.
In the text of a reference the tokens are joined by slashes, each of them escaped twice: `~` and `/`
inside a token are written `~0` and `~1`, and the result is percent-encoded. `Pointer.ofFragment?`
undoes both; `Pointer.text` writes the inner escape only, which gives every node of a document a
spelling of its own.
-/

namespace SchemaPress.Pointer

/-- A character of a token with the inner escape. -/
def escapeChar (c : Char) : List Char :=
  if c = '~' then ['~', '0'] else if c = '/' then ['~', '1'] else [c]

/-- A token with the inner escape. -/
def escape (token : String) : String :=
  String.ofList (token.toList.flatMap escapeChar)

/-- Undoes the inner escape. -/
def unescape : List Char → List Char
  | [] => []
  | '~' :: '1' :: rest => '/' :: unescape rest
  | '~' :: '0' :: rest => '~' :: unescape rest
  | c :: rest => c :: unescape rest

/-- The spelling of a node: each token with its escape behind a slash. -/
def text (tokens : List String) : String :=
  String.join (tokens.map fun token => "/" ++ escape token)

/-- The octets of a run of ASCII characters, with each percent-encoded octet decoded. A percent sign
that is not followed by two hexadecimal digits stands for itself. -/
def percentOctets : List Char → List Nat
  | '%' :: a :: b :: rest =>
    match Text.hexValue? a, Text.hexValue? b with
    | some a, some b => (a * 16 + b) :: percentOctets rest
    | _, _ => '%'.toNat :: percentOctets (a :: b :: rest)
  | c :: rest => c.toNat :: percentOctets rest
  | [] => []

/-- The runs of ASCII characters of a text, each with the characters in front of it that are not
ASCII; the last run may be empty. -/
def asciiRuns : List Char → List (List Char × List Char)
  | [] => [([], [])]
  | c :: rest =>
    match asciiRuns rest with
    | [] => []
    | (foreign, run) :: runs =>
      if c.toNat < 0x80 then
        if foreign.isEmpty then ([], c :: run) :: runs else ([], [c]) :: (foreign, run) :: runs
      else (c :: foreign, run) :: runs

/-- Undoes the percent-encoding. Octets are read as UTF-8 within each run of ASCII characters. -/
def percentDecode (text : List Char) : List Char :=
  (asciiRuns text).flatMap fun (foreign, run) => foreign ++ Text.decodeLossy (percentOctets run)

/-- The token that a piece of a reference spells. -/
def tokenOf (piece : List Char) : String :=
  String.ofList (unescape (percentDecode piece))

/-- The tokens of a fragment. The empty fragment and the lone slash both name the whole document; any
other fragment starts with a slash. -/
def ofFragment? (fragment : List Char) : Option (List String) :=
  match fragment with
  | [] => some []
  | ['/'] => some []
  | '/' :: rest => some ((Text.pieces '/' rest).map tokenOf)
  | _ => none

/-- How a token is taken for the index of an item. -/
inductive Index where
  /-- It is not made of digits. -/
  | name
  /-- It is made of decimal digits and stands for this number. -/
  | index (value : Nat)
  /-- It is made of digits, but not all of them have a value, or they are too many. -/
  | unreadable

/-- How many digits the index of one of `count` items may have: 4300, as every integer, unless the items
are so many that they cannot be told apart by less. -/
def maxDigits (count : Nat) : Nat :=
  max 4300 (Nat.toDigits 10 count).length

/-- Takes a token for the index of one of `count` items. -/
def indexOf (count : Nat) (token : String) : Index :=
  let digits := token.toList
  if digits.isEmpty || !digits.all Text.isDigit then .name
  else if maxDigits count < digits.length then .unreadable
  else
    match digits.mapM Text.decimalValue? with
    | some values => .index (values.foldl (fun n digit => 10 * n + digit) 0)
    | none => .unreadable

end SchemaPress.Pointer
