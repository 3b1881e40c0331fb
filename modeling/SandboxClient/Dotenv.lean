import SandboxClient.Environment
import SandboxClient.Log.Registry

/-!
# Environment files

A file of assignments, one on a line, that fills in the variables a process was started without.  The
first of several places that has such a file decides; the others are not looked at.
-/

namespace SandboxClient

/-- What a process finds when it starts. -/
structure Surroundings where
  environment : Environment := []
  files : FileTree := []
  directory : Location := []
  /-- The directory of the program itself, if it is known. -/
  programDirectory? : Option Location := none
  /-- Whether an environment file was looked for. -/
  isSearched : Bool := false

namespace Dotenv

/-! ## Lines -/

/-- A variable and the value it is to get. -/
structure Assignment where
  name : Bytes
  value : Bytes
  deriving DecidableEq, Repr

/-- A text without the quotes around it, if it is enclosed in two equal ones. -/
def unquote (text : Bytes) : Bytes :=
  match text with
  | [] => []
  | quote :: rest =>
    if (quote = 34 || quote = 39) && rest.getLast? = some quote then rest.dropLast else text

/-- A trimmed line without the word that marks a variable for export. -/
def dropExport (line : Bytes) : Bytes :=
  match Text.dropPrefix? (utf8 "export ") line with
  | some rest => Text.trim rest
  | none => line

/-- Splits a text at its first equals sign. -/
def split? (text : Bytes) : Option (Bytes × Bytes) :=
  match text.dropWhile (· != 61) with
  | [] => none
  | _ :: rest => some (text.takeWhile (· != 61), rest)

/-- Whether a trimmed line says nothing. -/
def isRemark (line : Bytes) : Bool :=
  line.isEmpty || line.head? = some 35

/-- The assignment on a line.  Blank lines, remarks and lines without a name or a value have none. -/
def parseLine (line : Bytes) : Option Assignment :=
  let trimmed := Text.trim line
  if isRemark trimmed then none
  else
    match split? (dropExport trimmed) with
    | none => none
    | some (left, right) =>
      let name := Text.trim left
      let value := unquote (Text.trim right)
      if name.isEmpty || value.isEmpty then none else some { name, value }

/-! ## Files -/

/-- The assignments of a file, in order. -/
def assignments (content : Bytes) : List Assignment :=
  (Text.lines content).filterMap parseLine

/-- Makes assignments in turn and counts those that set a variable. -/
def define : List Assignment → Environment → Environment × Nat
  | [], environment => (environment, 0)
  | assignment :: rest, environment =>
    let (extended, isNew) := environment.define assignment.name assignment.value
    let (result, count) := define rest extended
    (result, if isNew then count + 1 else count)

/-- Makes the assignments of a file and counts those that set a variable. -/
def apply (content : Bytes) (environment : Environment) : Environment × Nat :=
  define (assignments content) environment

/-- Applies the file at a path; there may be none. -/
def applyAt (surroundings : Surroundings) (path : Bytes) : Surroundings × Nat :=
  match surroundings.files.content? surroundings.directory path with
  | none => (surroundings, 0)
  | some content =>
    let (environment, count) := apply content surroundings.environment
    ({ surroundings with environment }, count)

/-! ## Places -/

def fileName : Bytes := utf8 ".env"

/-- The path of the environment file in a directory. -/
def pathIn (directory : Location) : Bytes :=
  Location.path (directory ++ [fileName])

/-- A directory and the ones above it, at most `count` in all. -/
def ancestors : (count : Nat) → Location → List Location
  | 0, _ => []
  | count + 1, directory =>
    directory :: if directory.isEmpty then [] else ancestors count directory.dropLast

/-- Where an environment file is looked for: at the path the environment names, in the working
directory and the two above it, next to the program and one level up. -/
def searchPaths (surroundings : Surroundings) : List Bytes :=
  let named := surroundings.environment.valueD (utf8 "ROCK_DOTENV_PATH") []
  let beside :=
    match surroundings.programDirectory? with
    | some directory => [directory, directory.dropLast]
    | none => []
  (if named.isEmpty then [] else [named]) ++
    (ancestors 3 surroundings.directory ++ beside).map pathIn

/-- The first path with an environment file. -/
def locate? (surroundings : Surroundings) : Option Bytes :=
  (searchPaths surroundings).find? fun path =>
    (surroundings.files.content? surroundings.directory path).isSome

/-- Applies the first environment file that there is, unless one was looked for before. -/
def load (surroundings : Surroundings) : Program Surroundings :=
  if surroundings.isSearched then .done surroundings
  else
    match locate? surroundings with
    | none => .done { surroundings with isSearched := true }
    | some path => do
      let (loaded, count) := applyAt surroundings path
      .log Log.defaultName .debug
        (utf8 "Loaded " ++ Text.decimal count ++ utf8 " variables from " ++ path)
      return { loaded with isSearched := true }

end Dotenv

end SandboxClient
