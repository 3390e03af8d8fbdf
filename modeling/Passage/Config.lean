import Passage.Config.Document
import Passage.Instance

/- Configurations: documents whose secret and levels are in order.

   A document is checked in a fixed order: the secret, the default levels, the
   sections by name. The first fault is told, and what is wrong in a table is
   told with its name. A secret from outside takes the place of the document's
   own, which is not looked at then. -/
namespace Passage

/-! ## Tables of names -/

namespace NameTable
variable {α : Type}

/-- Puts a value under a name, in place of one that stands there. -/
def insert (name : String) (value : α) : List (String × α) → List (String × α)
  | [] => [(name, value)]
  | (n, v) :: rest =>
    if name < n then (name, value) :: (n, v) :: rest
    else if name = n then (name, value) :: rest
    else (n, v) :: insert name value rest

/-- The table of named values; of two under one name the later counts. -/
def ofList (entries : List (String × α)) : List (String × α) :=
  entries.foldl (fun table (name, value) => insert name value table) []

end NameTable

/-! ## Faults -/

/-- Why a file is not read. -/
inductive ReadFault where
  | notFound
  | isDirectory
  | notDirectory
  | nameTooLong
  | notText
  | nulInName
  deriving DecidableEq, Repr

def ReadFault.message : ReadFault → String
  | notFound => "No such file or directory (os error 2)"
  | isDirectory => "Is a directory (os error 21)"
  | notDirectory => "Not a directory (os error 20)"
  | nameTooLong => "File name too long (os error 36)"
  | notText => "stream did not contain valid UTF-8"
  | nulInName => "file name contained an unexpected NUL byte"

/-- Why there is no configuration, or no engine for it. -/
inductive ConfigFault where
  | unreadable (path : String) (cause : ReadFault)
  /-- The text is no configuration document. -/
  | document
  | missingSecret
  | secret (f : Secret.Fault)
  | table (f : TableFault)
  | frontend (name : String) (f : SectionFault)
  deriving DecidableEq, Repr

def ConfigFault.message : ConfigFault → String
  | unreadable path cause => "Failed to read " ++ path ++ ": " ++ cause.message
  | document => "Invalid configuration document"
  | missingSecret => "Missing required configuration: secret"
  | secret f => f.message
  | table f => f.message
  | frontend name f => "Frontend " ++ Text.quoted name ++ ": " ++ f.message

structure Config where
  secret : Secret
  /-- The levels for all names without a table of their own. -/
  levels : List Level
  /-- The levels of the named frontends in the order of their names. -/
  frontends : List (String × List Level)
  /-- Where the program around the engines listens; not used here. -/
  listen : Option String
  deriving DecidableEq

/-! ## From documents -/

namespace Document

/-- The secret: that from outside, or else the document's own. -/
def chosenSecret (d : Document) (outside : Option String) : Except ConfigFault Secret :=
  match outside.or d.secret with
  | none => .error .missingSecret
  | some text =>
    match Secret.ofBase64 text with
    | .error f => .error (.secret f)
    | .ok secret => .ok secret

/-- The levels of a named section. -/
def namedLevels (name : String) (entries : List LevelEntry) :
    Except (Halt ConfigFault) (List Level) :=
  match LevelEntry.sectionLevels entries with
  | .error halt => .error (halt.map (.frontend name))
  | .ok levels => .ok levels

/-- The levels of all sections, up to the first that has none. -/
def allLevels : List (String × List LevelEntry) →
    Except (Halt ConfigFault) (List (String × List Level))
  | [] => .ok []
  | (name, entries) :: rest =>
    match namedLevels name entries with
    | .error halt => .error halt
    | .ok levels =>
      match allLevels rest with
      | .error halt => .error halt
      | .ok tables => .ok ((name, levels) :: tables)

/-- Checks a document, with a secret from outside if there is one. -/
def config (d : Document) (outside : Option String) : Except (Halt ConfigFault) Config :=
  match d.chosenSecret outside with
  | .error f => .error (.refused f)
  | .ok secret =>
    match namedLevels Frontend.defaultName d.defaults with
    | .error halt => .error halt
    | .ok levels =>
      match allLevels (NameTable.ofList d.sections) with
      | .error halt => .error halt
      | .ok frontends => .ok ⟨secret, levels, frontends, d.listen⟩

end Document

namespace Config

/-- Reads a configuration from its text. -/
def parse (text : String) (outside : Option String) : Except (Halt ConfigFault) Config :=
  match Document.ofText? text with
  | none => .error (.refused .document)
  | some d => d.config outside

end Config

/-! ## To engines -/

/-- An engine with a secret and levels that have yet to be checked, in this order. -/
def Engine.ofParts (secret : Bytes) (levels : List Level) : Except ConfigFault Engine :=
  match Secret.ofBytes secret with
  | .error f => .error (.secret f)
  | .ok secret =>
    match LevelTable.ofList levels with
    | .error f => .error (.table f)
    | .ok table => .ok (.build secret table)

namespace Config

/-- Adds a frontend for each named table. -/
def addFrontends (secret : Secret) (i : Instance) :
    List (String × List Level) → Except ConfigFault Instance
  | [] => .ok i
  | (name, levels) :: rest =>
    match LevelTable.ofList levels with
    | .error f => .error (.frontend name (.table f))
    | .ok table => addFrontends secret (i.withFrontend ⟨name, .build secret table⟩) rest

/-- An engine for each table, all with one secret and one clock. -/
def buildInstance (c : Config) (clock : Clock) : Except ConfigFault Instance :=
  match LevelTable.ofList c.levels with
  | .error f => .error (.table f)
  | .ok table =>
    addFrontends c.secret (.ofFallback ⟨Frontend.defaultName, .build c.secret table⟩ clock) c.frontends

end Config
end Passage
