import Passage.Config
import Passage.Environment

/- Configurations from files.

   A path is looked up below one directory. Without a path the environment
   names the file, after the assignments in `.env` were added to it. The
   environment's secret takes the place of the file's. -/
namespace Passage

/-- The files of a directory and of those below it. -/
structure FileTree where
  /-- Contents by name; a name without content is a directory. -/
  entries : List (String × Option Bytes)
  deriving DecidableEq, Repr

namespace FileTree

/-- What stands at a place in a tree. -/
inductive Entry where
  | file (content : Bytes)
  | directory
  | missing
  deriving DecidableEq, Repr

/-- The entry of a name; what other names go on from is a directory. -/
def entry (t : FileTree) (name : String) : Entry :=
  match t.entries.lookup name with
  | some (some content) => .file content
  | some none => .directory
  | none =>
    if name.isEmpty || t.entries.any fun (other, _) => (name ++ "/").isPrefixOf other then .directory
    else .missing

/-- The most bytes of a name in a directory. -/
abbrev maxName : Nat := 255

/-- A path has fewer bytes than this. -/
abbrev pathLimit : Nat := 4096

/-- What stands at a path that leads out of the tree: only the directories above it are there. -/
def outside : List String → ReadFault
  | [] => .isDirectory
  | part :: rest =>
    if part ∈ ["", ".", ".."] then outside rest
    else if part.utf8ByteSize > maxName then .nameTooLong
    else .notFound

/-- Follows the parts of a path from a place, which is none outside of the tree. -/
def follow (t : FileTree) : Option (List String) → List String → Except ReadFault Bytes
  | none, parts => .error (outside parts)
  | some place, parts =>
    match t.entry ("/".intercalate place), parts with
    | .missing, _ => .error .notFound
    | .file content, [] => .ok content
    | .file _, _ :: _ => .error .notDirectory
    | .directory, [] => .error .isDirectory
    | .directory, part :: rest =>
      if part = "" ∨ part = "." then follow t (some place) rest
      else if part = ".." then
        follow t (if place.isEmpty then none else some place.dropLast) rest
      else if part.utf8ByteSize > maxName then .error .nameTooLong
      else follow t (some (place ++ [part])) rest

/-- The bytes of the file at a path. -/
def read (t : FileTree) (path : String) : Except ReadFault Bytes :=
  let parts := path.splitOn "/"
  if path.toList.contains '\x00' then .error .nulInName
  else if path.isEmpty then .error .notFound
  else if path.utf8ByteSize ≥ pathLimit then .error .nameTooLong
  else if parts.head? = some "" then t.follow none parts
  else t.follow (some []) parts

/-- The text of the file at a path. -/
def readText (t : FileTree) (path : String) : Except ReadFault String :=
  match t.read path with
  | .error fault => .error fault
  | .ok bytes =>
    match Bytes.text? bytes with
    | none => .error .notText
    | some text => .ok text

end FileTree

namespace Config

/-- Names the file to load. -/
def pathVariable : String := "BERGHAIN_CONFIG"

/-- Holds the secret from outside. -/
def secretVariable : String := "BERGHAIN_SECRET"

/-- The file to load when nothing names one. -/
def defaultPath : String := "config.yaml"

/-- Loads the file at a path. -/
def loadPath (files : FileTree) (env : Environment) (path : String) :
    Except (Halt ConfigFault) Config :=
  match files.readText path with
  | .error cause => .error (.refused (.unreadable path cause))
  | .ok text => parse text (env.get? secretVariable)

/-- Loads the file that the environment names. -/
def loadEnvironment (files : FileTree) (env : Environment) : Except (Halt ConfigFault) Config :=
  let env := match files.entry ".env" with
    | .file content => Assignments.load env content
    | _ => some env
  match env with
  | none => .error .aborted
  | some env => loadPath files env ((env.get? pathVariable).getD defaultPath)

end Config
end Passage
