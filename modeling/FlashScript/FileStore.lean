/-
Files and directories as the program meets them: one tree under the root, in which
the working directory is a place like any other.  A path is walked piece by piece
from the working directory, or from the root when it begins with a slash; every
piece but a name leads from a directory to a directory.
-/

import FlashScript.FileName

namespace FlashScript

inductive FileError where
  | notFound
  | isDirectory
  | notDirectory
  | nulInPath
  | nameTooLong
  /-- A cause that only the running system has. -/
  | system (text : String)
  deriving DecidableEq

def FileError.message : FileError → String
  | .notFound => "No such file or directory (os error 2)"
  | .isDirectory => "Is a directory (os error 21)"
  | .notDirectory => "Not a directory (os error 20)"
  | .nulInPath => "file name contained an unexpected NUL byte"
  | .nameTooLong => "File name too long (os error 36)"
  | .system text => text

/-- A file or a directory, by the names that lead to it from the root. -/
structure Location where
  names : List (List Char)
  deriving DecidableEq

namespace Location

def root : Location :=
  { names := [] }

def enter (location : Location) (name : List Char) : Location :=
  { names := location.names ++ [name] }

/-- The root is its own parent. -/
def parent (location : Location) : Location :=
  { names := location.names.dropLast }

end Location

inductive Node where
  | directory
  | file (bytes : List UInt8)
  deriving DecidableEq

structure FileStore where
  workingDirectory : Location
  entries : List (Location × Node)
  deriving DecidableEq

namespace FileStore

def empty (workingDirectory : Location) : FileStore :=
  { workingDirectory := workingDirectory
    entries := [] }

/-- The directories from the root down to the working directory are always
there. -/
def node? (store : FileStore) (location : Location) : Option Node :=
  if location.names.isPrefixOf store.workingDirectory.names then some .directory
  else
    (store.entries.find? (fun entry => entry.1 = location)).map
      (fun entry => entry.2)

def put (store : FileStore) (location : Location) (node : Node) : FileStore :=
  { store with
    entries :=
      (location, node) ::
        store.entries.filter (fun entry => entry.1 ≠ location) }

/-- A location with every directory on the way to it. -/
def putWithParents (store : FileStore) (location : Location) (node : Node) :
    FileStore :=
  let parents := (List.range location.names.length).map
    (fun count => ({ names := location.names.take count } : Location))
  let opened := parents.foldl
    (fun (made : FileStore) parent =>
      if (made.node? parent).isSome then made else made.put parent .directory)
    store
  opened.put location node

/-! ### Walking a path -/

def longestName : Nat := 255

def longestPath : Nat := 4095

def byteLength (text : List Char) : Nat :=
  text.foldl (fun bytes character => bytes + character.utf8Size) 0

/-- Empty pieces and single dots stay in a directory. -/
def step (store : FileStore) (place : Location) (piece : List Char) :
    Except FileError Location :=
  match store.node? place with
  | some .directory =>
      if piece = [] ∨ piece = ['.'] then .ok place
      else if piece = ['.', '.'] then .ok place.parent
      else if longestName < byteLength piece then .error .nameTooLong
      else if (store.node? (place.enter piece)).isSome then
        .ok (place.enter piece)
      else .error .notFound
  | some (.file _) => .error .notDirectory
  | none => .error .notFound

def walkFrom (store : FileStore) (place : Location) :
    List (List Char) → Except FileError Location
  | [] => .ok place
  | piece :: later =>
      match store.step place piece with
      | .ok next => store.walkFrom next later
      | .error error => .error error

def startOf (store : FileStore) (path : List Char) : Location :=
  match path with
  | '/' :: _ => .root
  | _ => store.workingDirectory

def walk (store : FileStore) (path : List Char) : Except FileError Location :=
  store.walkFrom (store.startOf path) (FileName.pieces path)

/-! ### Reading and writing -/

/-- Paths that no system call takes. -/
def refusal? (path : List Char) : Option FileError :=
  if '\x00' ∈ path then some .nulInPath
  else if path.isEmpty then some .notFound
  else if longestPath < byteLength path then some .nameTooLong
  else none

def read (store : FileStore) (path : String) : Except FileError (List UInt8) :=
  match refusal? path.toList with
  | some error => .error error
  | none =>
      match store.walk path.toList with
      | .error error => .error error
      | .ok place =>
          match store.node? place with
          | some (.file bytes) => .ok bytes
          | some .directory => .error .isDirectory
          | none => .error .notFound

/-- Where a path's last name is created or replaced: the directory before it
has to be there, and nothing that can only be a directory may stand in it. -/
def destination (store : FileStore) (path : List Char) :
    Except FileError Location :=
  match refusal? path with
  | some error => .error error
  | none =>
      let steps := FileName.pieces (FileName.dropSlashes path)
      let name := steps.getLastD []
      match store.walkFrom (store.startOf path) (steps.dropLast ++ [[]]) with
      | .error error => .error error
      | .ok directory =>
          if name = [] ∨ name = ['.'] ∨ name = ['.', '.'] ∨
              path.getLast? = some '/' then .error .isDirectory
          else if longestName < byteLength name then .error .nameTooLong
          else if store.node? (directory.enter name) = some .directory then
            .error .isDirectory
          else .ok (directory.enter name)

def write (store : FileStore) (path : String) (bytes : List UInt8) :
    Except FileError FileStore :=
  (store.destination path.toList).map
    (fun place => store.put place (.file bytes))

/-- Files of `after` that are not in `before` with the same bytes. -/
def changes (before after : FileStore) : List (Location × List UInt8) :=
  after.entries.filterMap (fun entry =>
    match entry.2 with
    | .directory => none
    | .file bytes =>
        if before.node? entry.1 = some (.file bytes) then none
        else some (entry.1, bytes))

end FileStore

end FlashScript
