import SchemaPress.Files.Path

/-!
# File trees

A file tree holds files, directories and symbolic links, each at its location. It is a plain value:
reading looks an entry up and writing gives a new tree, so what an operation leaves alone can be said
by comparing lookups.

Of permissions it knows one: whether a file may be read. Every directory may be searched and written to, and
no device fails.
-/

namespace SchemaPress

/-- What stands at a location of a file tree. -/
inductive Entry where
  /-- A file with its bytes. -/
  | file (bytes : ByteArray)
  /-- A file whose bytes may not be read. -/
  | unreadable (bytes : ByteArray)
  /-- A directory. -/
  | directory
  /-- A symbolic link to the path that the text spells. -/
  | link (target : String)

/-- Whether the entry is a file, which may be read or not. -/
def Entry.isFile : Entry → Bool
  | .file _ => true
  | .unreadable _ => true
  | _ => false

/-- Files are compared byte by byte. -/
instance : DecidableEq Entry
  | .file a, .file b =>
    if h : a.data = b.data then .isTrue (congrArg Entry.file (ByteArray.ext h))
    else .isFalse fun e => h (congrArg ByteArray.data (Entry.file.inj e))
  | .unreadable a, .unreadable b =>
    if h : a.data = b.data then .isTrue (congrArg Entry.unreadable (ByteArray.ext h))
    else .isFalse fun e => h (congrArg ByteArray.data (Entry.unreadable.inj e))
  | .directory, .directory => .isTrue rfl
  | .link a, .link b =>
    if h : a = b then .isTrue (congrArg Entry.link h) else .isFalse fun e => h (Entry.link.inj e)
  | .file _, .unreadable _ => .isFalse Entry.noConfusion
  | .file _, .directory => .isFalse Entry.noConfusion
  | .file _, .link _ => .isFalse Entry.noConfusion
  | .unreadable _, .file _ => .isFalse Entry.noConfusion
  | .unreadable _, .directory => .isFalse Entry.noConfusion
  | .unreadable _, .link _ => .isFalse Entry.noConfusion
  | .directory, .file _ => .isFalse Entry.noConfusion
  | .directory, .unreadable _ => .isFalse Entry.noConfusion
  | .directory, .link _ => .isFalse Entry.noConfusion
  | .link _, .file _ => .isFalse Entry.noConfusion
  | .link _, .unreadable _ => .isFalse Entry.noConfusion
  | .link _, .directory => .isFalse Entry.noConfusion

/-- A file tree. The root directory is always there and is not listed. -/
structure Tree where
  /-- The entries by location, each location once. -/
  entries : List (Location × Entry)

namespace Tree

/-- The tree of the root directory alone. -/
def empty : Tree := ⟨[]⟩

/-- The entry at a location. -/
def get? (tree : Tree) (location : Location) : Option Entry :=
  if location.isEmpty then some .directory else tree.entries.lookup location

/-- The tree without the entry at a location. -/
def erase (tree : Tree) (location : Location) : Tree :=
  ⟨tree.entries.filter fun (place, _) => place != location⟩

/-- The tree with an entry put at a location, in place of what stood there. -/
def set (tree : Tree) (location : Location) (entry : Entry) : Tree :=
  ⟨(location, entry) :: (tree.erase location).entries⟩

/-- The tree without an entry and everything below it. -/
def prune (tree : Tree) (location : Location) : Tree :=
  ⟨tree.entries.filter fun (place, _) => !location.isPrefixOf place⟩

/-- Whether a directory holds an entry. -/
def isPopulated (tree : Tree) (location : Location) : Bool :=
  tree.entries.any fun (place, _) => location.isPrefixOf place && place != location

/-- The files that may be read, with their locations. -/
def files (tree : Tree) : List (Location × ByteArray) :=
  tree.entries.filterMap fun (place, entry) =>
    match entry with
    | .file bytes => some (place, bytes)
    | _ => none

/-- The symbolic links with their locations. -/
def links (tree : Tree) : List (Location × String) :=
  tree.entries.filterMap fun (place, entry) =>
    match entry with
    | .link target => some (place, target)
    | _ => none

end Tree

end SchemaPress
