import SignedControl.Bytes
import SignedControl.FileError
import SignedControl.Text.Split

/-!
# Files

The tools read whole files, and replace a file by writing a temporary one beside it and giving that
one its name, so that the file is at no time half written.

`FileSystem` is what they need for it, in any monad. `Directory` is a file system that is a value:
one directory, in which every step can be made to fail.

* `FileSystem.replace`: how a file is replaced.
* `Directory.locate`: where a path leads, part by part, and which fault of it comes first.
-/

namespace SignedControl.Tool

/-- What a tool needs of the files of a machine. Temporary files go by a name of their own. -/
structure FileSystem (m : Type → Type) where
  /-- The content of a file. -/
  read : (path : String) → m (Except FileError Bytes)
  /-- Makes an empty temporary file in the directory of a file. -/
  create : (beside : String) → m (Except FileError String)
  /-- Writes the content of a temporary file. -/
  write : (temporary : String) → Bytes → m (Except FileError Unit)
  /-- Gives a temporary file another name; a file that had it is gone. -/
  rename : (temporary path : String) → m (Except FileError Unit)
  /-- Removes a temporary file. -/
  remove : (temporary : String) → m Unit

/-- The step at which replacing a file has failed. -/
inductive ReplaceError where
  /-- There could be no temporary file. -/
  | create (cause : FileError)
  /-- The temporary file could not be written. -/
  | write (temporary : String) (cause : FileError)
  /-- The temporary file could not take the file's place. -/
  | rename (cause : FileError)
deriving DecidableEq, Repr

/-- Replaces the content of a file, all or nothing. -/
def FileSystem.replace {m : Type → Type} [Monad m] (fs : FileSystem m) (path : String)
    (content : Bytes) : m (Except ReplaceError Unit) := do
  match ← fs.create path with
  | .error e => return .error (.create e)
  | .ok temporary =>
    match ← fs.write temporary content with
    | .error e =>
      fs.remove temporary
      return .error (.write temporary e)
    | .ok () =>
      match ← fs.rename temporary path with
      | .error e =>
        fs.remove temporary
        return .error (.rename e)
      | .ok () => return .ok ()

/-- The directory that a file is in. -/
def parentOf (path : String) : String :=
  match Text.cut? '/' path.toList.reverse with
  | none => "."
  | some (_, parent) =>
    let parent := (parent.dropWhile (· = '/')).reverse
    if parent.isEmpty then "/" else String.ofList parent

/-- A directory of files, as a value. -/
structure Directory where
  /-- The files' names and contents. -/
  files : List (String × Bytes)
deriving DecidableEq

namespace Directory

/-- The content of a file. -/
def get? (d : Directory) (name : String) : Option Bytes :=
  (d.files.find? fun f => f.1 = name).map (·.2)

/-- The directory without a file. -/
def erase (d : Directory) (name : String) : Directory :=
  ⟨d.files.filter fun f => f.1 ≠ name⟩

/-- The directory with a content for a file, whether it was there or not. -/
def put (d : Directory) (name : String) (content : Bytes) : Directory :=
  if (d.get? name).isSome then
    ⟨d.files.map fun f => if f.1 = name then (name, content) else f⟩
  else ⟨d.files ++ [(name, content)]⟩

/-- How many bytes a name may have. -/
def maxName : Nat := 255

/-- How many bytes a path may have. -/
def maxPath : Nat := 4095

/-- Where a path has led so far. -/
inductive Place where
  /-- The directory itself. -/
  | here
  /-- A directory above it. Nothing is known of what else such a directory holds. -/
  | above
  /-- A file of the directory, or a name that is free in it. -/
  | entry (name : String)
deriving DecidableEq, Repr

/-- Follows one part of a path, the text up to the next slash. Only a directory leads on. The name
is measured when it is looked up, so a fault of an earlier part comes first. -/
def follow (d : Directory) (place : Place) (part : List Char) : Except FileError Place :=
  match place with
  | .entry name => .error (if (d.get? name).isSome then .notDirectory else .notFound)
  | place =>
    if part = [] ∨ part = ['.'] then .ok place
    else if part = ['.', '.'] then .ok .above
    else if maxName < (String.ofList part).utf8ByteSize then .error .nameTooLong
    else if place = .here then .ok (.entry (String.ofList part))
    else .error .notFound

/-- The file that a path leads to from inside the directory, or from the root if it begins with a
slash. There are no other directories below this one. -/
def locate (d : Directory) (path : String) : Except FileError String :=
  if path.isEmpty then .error .notFound
  else if maxPath < path.utf8ByteSize then .error .nameTooLong
  else
    let start := if path.toList.head? = some '/' then .above else .here
    match (Text.fields '/' path.toList).foldlM d.follow start with
    | .error e => .error e
    | .ok (.entry name) => .ok name
    | .ok _ => .error .isDirectory

/-- A name that no file has: longer than any. -/
def freshName (d : Directory) : String :=
  String.ofList (List.replicate (d.files.foldr (fun f n => f.1.length + n) 1) '~')

/-- A step on files. -/
inductive Step where
  /-- Reading a file. -/
  | read (path : String)
  /-- Making a temporary file. -/
  | create
  /-- Writing it. -/
  | write
  /-- Giving it a file's name. -/
  | rename
deriving DecidableEq, Repr

/-- A directory whose steps fail as `fault` says. -/
def fileSystem (fault : Step → Option FileError) : FileSystem (StateM Directory) where
  read path := fun d =>
    match fault (.read path), d.locate path with
    | some e, _ => (.error e, d)
    | none, .error e => (.error e, d)
    | none, .ok name =>
      match d.get? name with
      | some content => (.ok content, d)
      | none => (.error .notFound, d)
  create _ := fun d =>
    match fault .create with
    | some e => (.error e, d)
    | none => (.ok d.freshName, d.put d.freshName [])
  write temporary content := fun d =>
    match fault .write with
    | some e => (.error e, d)
    | none => (.ok (), d.put temporary content)
  rename temporary path := fun d =>
    match fault .rename, d.locate path with
    | some e, _ => (.error e, d)
    | none, .error e => (.error e, d)
    | none, .ok name =>
      match d.get? temporary with
      | some content => (.ok (), (d.erase temporary).put name content)
      | none => (.error .notFound, d)
  remove temporary := fun d => ((), d.erase temporary)

/-- A directory in which nothing fails. -/
def reliable : FileSystem (StateM Directory) := fileSystem fun _ => none

end Directory

end SignedControl.Tool
