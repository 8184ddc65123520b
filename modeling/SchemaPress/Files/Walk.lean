import SchemaPress.Files.Failure
import SchemaPress.Files.Tree

/-!
# Finding entries by path

The system walks a path step by step from the root: it enters directories, goes through symbolic
links (`Tree.walk`) and up again at `..`. A walk goes through at most forty links, which is also what
it ends by.

`Tree.resolve` works out the location that a path leads to without asking that anything be there:
links in front are followed as far as they exist, and the steps that lead nowhere are kept as
spelled.
-/

namespace SchemaPress.Tree

/-- Where a walk ends. -/
inductive Spot where
  /-- At an entry. -/
  | entry (location : Location) (entry : Entry)
  /-- In an existing directory, where nothing has the last name of the path. -/
  | vacant (directory : Location) (name : String)

/-- The number of links that a walk may go through. -/
def maxLinks : Nat := 40

/-- The number of bytes that a name may have. -/
def maxName : Nat := 255

/-- The number of bytes that a path may have. -/
def maxPath : Nat := 4095

/-- Walks on from the location `place`, through at most `budget` links. A link that the path ends
with is gone through only if `follow` says so. -/
def walkFrom (tree : Tree) (follow : Bool) (budget : Nat) (place : Location) (steps : List String) :
    Except Refusal Spot :=
  match tree.get? place with
  | none => .error .notFound
  | some entry =>
    match steps with
    | [] => .ok (.entry place entry)
    | step :: rest =>
      if entry ≠ .directory then .error .notDirectory
      else if step = ".." then walkFrom tree follow budget place.dropLast rest
      else if maxName < step.utf8ByteSize then .error .nameTooLong
      else
        let next := place ++ [step]
        match tree.get? next with
        -- Only the last step may be missing.
        | none => if rest.isEmpty then .ok (.vacant place step) else .error .notFound
        | some (.link target) =>
          if rest.isEmpty && !follow then .ok (.entry next (.link target))
          else
            match budget with
            | 0 => .error .tooManyLinks
            | budget + 1 =>
              -- The target is walked from the directory of the link, with the rest of the path
              -- behind it.
              let path := Path.ofText target
              walkFrom tree follow budget (if path.isAbsolute then [] else place)
                (path.steps ++ rest)
        | some _ => walkFrom tree follow budget next rest
termination_by (budget, steps.length)

/-- Walks an absolute path. -/
def walk (tree : Tree) (follow : Bool) (path : Path) : Except FileFailure Spot :=
  if path.hasNul then .error (.crash .badValue)
  else if maxPath < path.text.utf8ByteSize then .error (.refused .nameTooLong path.text)
  else
    match walkFrom tree follow maxLinks [] path.steps with
    | .ok spot => .ok spot
    | .error refusal => .error (.refused refusal path.text)

/-- The entry that a path leads to, through links. -/
def find (tree : Tree) (path : Path) : Except FileFailure (Location × Entry) := do
  match ← tree.walk true path with
  | .entry location entry => return (location, entry)
  | .vacant _ _ => throw (.refused .notFound path.text)

/-- Whether the path leads to an entry that passes the test. A path that leads nowhere, or could not
lead anywhere, does not; other refusals are failures. -/
def leadsTo (tree : Tree) (test : Entry → Bool) (path : Path) : Except FileFailure Bool :=
  match tree.find path with
  | .ok (_, entry) => .ok (test entry)
  | .error (.crash .badValue) => .ok false
  | .error (.refused refusal text) =>
    if refusal.leadsNowhere then .ok false else .error (.refused refusal text)
  | .error failure => .error failure

/-- Whether the path leads to a regular file that may be read. Never a failure: a path that cannot be looked
up leads to no file. -/
def hasFile (tree : Tree) (path : Path) : Bool :=
  match tree.find path with
  | .ok (_, .file _) => true
  | _ => false

/-- Resolves the steps from the location `place`. `closed` lists the links that are not being resolved
already; a link that is met inside itself is a loop. -/
def resolveFrom (tree : Tree) (closed : List (Location × String)) (place : Location)
    (steps : List String) : Option Location :=
  match steps with
  | [] => some place
  | step :: rest =>
    if step = ".." then resolveFrom tree closed place.dropLast rest
    else
      match tree.get? (place ++ [step]) with
      | some (.link target) =>
        -- A link is taken out of `closed` only while its own target is resolved.
        if _h : (place ++ [step], target) ∈ closed then
          let path := Path.ofText target
          match resolveFrom tree (closed.erase (place ++ [step], target))
              (if path.isAbsolute then [] else place) path.steps with
          | some reached => resolveFrom tree closed reached rest
          | none => none
        else none
      | _ => resolveFrom tree closed (place ++ [step]) rest
termination_by (closed.length, steps.length)
decreasing_by
  · exact Prod.Lex.right _ (by simp)
  · refine Prod.Lex.left _ _ ?_
    rw [List.length_erase_of_mem _h]
    have := List.length_pos_of_mem _h
    omega
  · exact Prod.Lex.right _ (by simp)
  · exact Prod.Lex.right _ (by simp)

/-- The location that an absolute path leads to. -/
def resolve (tree : Tree) (path : Path) : Except Crash Location :=
  if path.hasNul then .error .badValue
  else
    match resolveFrom tree tree.links [] path.steps with
    | some location => .ok location
    | none => .error .linkLoop

end SchemaPress.Tree
