/-!
# File trees

Files and directories as values. What may be done to them, and how it fails, is what an ordinary file
system does.
-/

namespace DspInspector

/-- Why the file system refuses something. -/
inductive FileError where
  | notFound
  | alreadyExists
  | notDirectory
  | isDirectory
  | nulInName
  | nameTooLong
  /-- The bytes of a file are no text. -/
  | notText
  deriving DecidableEq

/-- The refusal as it is shown to a person. -/
def FileError.message : FileError → String
  | .notFound => "No such file or directory (os error 2)"
  | .alreadyExists => "File exists (os error 17)"
  | .notDirectory => "Not a directory (os error 20)"
  | .isDirectory => "Is a directory (os error 21)"
  | .nulInName => "file name contained an unexpected NUL byte"
  | .nameTooLong => "File name too long (os error 36)"
  | .notText => "stream did not contain valid UTF-8"

/-- A file with its bytes, or a directory with its entries. -/
inductive FileTree where
  | file (bytes : List UInt8)
  | directory (entries : List (String × FileTree))

/-- A path in parts. -/
structure FilePath where
  /-- The names between the separators; empty ones do not count. -/
  parts : List String
  /-- The path ends in a separator, so that it can only be a directory. -/
  isDirectory : Bool

namespace FilePath

/-- The longest name of a file in bytes. -/
def longestName : Nat := 255

/-- The parts of a path. -/
def ofText (text : String) : Except FileError FilePath :=
  let parts := text.splitOn "/"
  if text.isEmpty then .error .notFound
  else if text.contains (Char.ofNat 0) then .error .nulInName
  else .ok ⟨parts.filter (· != ""), parts.getLast? == some ""⟩

/-- The parts of the directory that a path is in. Steps to the same place do not count. -/
def parents (text : String) : List String :=
  ((text.splitOn "/").filter fun part => part != "" && part != ".").dropLast

end FilePath

namespace FileTree

/-- A directory without entries. -/
def empty : FileTree := .directory []

/-- What the parts of a path without steps up lead to. -/
def find : List String → FileTree → Except FileError FileTree
  | [], tree => .ok tree
  | _ :: _, .file _ => .error .notDirectory
  | part :: parts, .directory entries =>
    match entries.lookup part with
    | none => .error .notFound
    | some entry => find parts entry

/-- The tree with another file or directory where the parts of a path lead. -/
def replace (new : FileTree) : List String → FileTree → FileTree
  | [], _ => new
  | _ :: _, .file bytes => .file bytes
  | part :: parts, .directory entries =>
    match entries.lookup part with
    | none => .directory (entries ++ [(part, replace new parts empty)])
    | some entry =>
      let changed := replace new parts entry
      .directory (entries.map fun old => if old.1 = part then (part, changed) else old)

/-- Follows parts from a place in the tree: a step up for `..`, and none for a dot. -/
def resolve (tree : FileTree) : (place parts : List String) → Except FileError (List String)
  | place, [] => .ok place
  | place, part :: parts =>
    match tree.find place with
    | .error cause => .error cause
    | .ok (.file _) => .error .notDirectory
    | .ok (.directory entries) =>
      if part = ".." then resolve tree place.dropLast parts
      else if part = "." then resolve tree place parts
      else if FilePath.longestName < part.utf8ByteSize then .error .nameTooLong
      else if parts.isEmpty || (entries.lookup part).isSome then resolve tree (place ++ [part]) parts
      else .error .notFound

/-- Where a path leads; its last part need not be there. -/
def locate (tree : FileTree) (path : String) : Except FileError (List String) := do
  let path ← FilePath.ofText path
  let place ← tree.resolve [] path.parts
  match tree.find place, path.isDirectory with
  | .ok (.file _), true => throw .notDirectory
  | _, _ => pure place

/-- The bytes of the file at a path. -/
def readBytes (tree : FileTree) (path : String) : Except FileError (List UInt8) := do
  let place ← tree.locate path
  match ← tree.find place with
  | .file bytes => pure bytes
  | .directory _ => throw .isDirectory

/-- Writes a whole file, which need not be there. -/
def writeBytes (path : String) (bytes : List UInt8) (tree : FileTree) : Except FileError FileTree := do
  let place ← tree.locate path
  match tree.find place with
  | .ok (.directory _) => throw .isDirectory
  | .error .notFound =>
    let parts ← FilePath.ofText path
    if parts.isDirectory then throw .isDirectory else pure (FileTree.replace (.file bytes) place tree)
  | _ => pure (FileTree.replace (.file bytes) place tree)

/-- Makes the directories that parts lead to, as far as they are not there. -/
def makeDirectories : (place parts : List String) → FileTree → Except FileError FileTree
  | _, [], tree => .ok tree
  | place, part :: parts, tree =>
    if part = ".." then makeDirectories place.dropLast parts tree
    else if FilePath.longestName < part.utf8ByteSize then .error .nameTooLong
    else
      match tree.find (place ++ [part]) with
      | .ok (.directory _) => makeDirectories (place ++ [part]) parts tree
      | .ok (.file _) => .error (if parts.isEmpty then .alreadyExists else .notDirectory)
      | .error .notFound =>
        makeDirectories (place ++ [part]) parts (FileTree.replace empty (place ++ [part]) tree)
      | .error cause => .error cause

/-- Makes the directories in front of the last part of a path, as far as they are not there. -/
def makeParents (path : String) (tree : FileTree) : Except FileError FileTree :=
  let parents := FilePath.parents path
  if parents.any (·.contains (Char.ofNat 0)) then .error .nulInName else makeDirectories [] parents tree

end FileTree

end DspInspector
