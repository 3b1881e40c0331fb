import SandboxClient.Dictionary

/-!
# File trees

The directories and files that a process can see.  A path is looked up name by name from the working
directory, or from the root if it starts with a slash; every name but the last has to lead to a
directory.
-/

namespace SandboxClient

/-- A place in a file tree: the names that lead to it from the root. -/
abbrev Location := List Bytes

def Location.path (location : Location) : Bytes :=
  if location.isEmpty then utf8 "/" else location.flatMap fun name => utf8 "/" ++ name

/-- What is at a place. -/
inductive FileNode where
  | file (content : Bytes)
  | directory (entries : List (Bytes × FileNode))
  /-- A directory of the system, in which nothing can be found or made. -/
  | sealedDirectory
  /-- Neither a file nor a directory; it can be written to, but keeps nothing. -/
  | device

/-- Whether a path can go on behind a node. -/
def FileNode.isDirectory : FileNode → Bool
  | .directory _ | .sealedDirectory => true
  | .file _ | .device => false

/-- Why a path could not be used. -/
inductive PathFault where
  | missing
  | notDirectory
  | isDirectory
  | nameTooLong
  deriving DecidableEq, Repr

def PathFault.text : PathFault → Bytes
  | .missing => utf8 "No such file or directory"
  | .notDirectory => utf8 "Not a directory"
  | .isDirectory => utf8 "Is a directory"
  | .nameTooLong => utf8 "File name too long"

/-- What looking up a file to send finds. -/
inductive LocalFile where
  | content (content : Bytes)
  /-- There is no regular file at the path. -/
  | missing
  /-- There is a regular file at the path, but it cannot be opened. -/
  | unopened
  /-- The path cannot be looked up. -/
  | unreachable (reason : Bytes)
  deriving DecidableEq, Repr

/-- A file tree, as what is in its root directory. -/
abbrev FileTree := Dictionary FileNode

namespace FileTree

/-! ## Places -/

/-- What is at a place; the root is a directory. -/
def node? (tree : FileTree) : Location → Option FileNode
  | [] => some (.directory tree)
  | name :: names =>
    match Dictionary.get? tree name with
    | some (.directory entries) => node? entries names
    | some node => if names.isEmpty then some node else none
    | none => none

/-- Puts something at a place in a directory; without that directory nothing is put. -/
def put (tree : FileTree) (location : Location) (node : FileNode) : FileTree :=
  match location with
  | [] => tree
  | [name] => Dictionary.insert tree name node
  | name :: names =>
    match Dictionary.get? tree name with
    | some (.directory entries) => Dictionary.insert tree name (.directory (put entries names node))
    | _ => tree

/-- Puts a directory at a place, and the directories that lead there. -/
def withDirectory (tree : FileTree) (location : Location) : FileTree :=
  (List.range location.length).foldl (fun tree depth =>
    let place := location.take (depth + 1)
    if (tree.node? place).isSome then tree else tree.put place (.directory [])) tree

/-- Puts a file at a place, and the directories that lead there. -/
def withFile (tree : FileTree) (location : Location) (content : Bytes) : FileTree :=
  (tree.withDirectory location.dropLast).put location (.file content)

/-! ## Paths -/

/-- A path has to be shorter than this. -/
def longestPath : Nat := 4096

/-- The place that a name leads to from a directory. -/
def step (location : Location) (name : Bytes) : Location :=
  if name = [] || name = utf8 "." then location
  else if name = utf8 ".." then location.dropLast
  else location ++ [name]

/-- The place that a list of names leads to.  There need not be anything at the place. -/
def walk (tree : FileTree) (location : Location) : List Bytes → Except PathFault Location
  | [] => .ok location
  | name :: names =>
    match tree.node? location with
    | none => .error .missing
    | some node =>
      if !node.isDirectory then .error .notDirectory
      else if 255 < name.length then .error .nameTooLong
      else tree.walk (step location name) names

/-- The place where a path starts and the names that follow.  A path ends at a zero byte. -/
def names (directory : Location) (path : Bytes) : Location × List Bytes :=
  let text := Text.upToNul path
  (if text.head? = some 47 then [] else directory, Text.splitOn 47 text)

/-- The place that a path names from a working directory, whether or not there is anything on the way. -/
def resolve (directory : Location) (path : Bytes) : Location :=
  let (start, names) := names directory path
  names.foldl step start

/-- The place that a path leads to from a working directory. -/
def locate (tree : FileTree) (directory : Location) (path : Bytes) : Except PathFault Location :=
  let text := Text.upToNul path
  if text.isEmpty then .error .missing
  else if longestPath ≤ text.length then .error .nameTooLong
  else
    let (start, names) := names directory path
    tree.walk start names

def find (tree : FileTree) (directory : Location) (path : Bytes) : Except PathFault FileNode := do
  let location ← tree.locate directory path
  match tree.node? location with
  | some node => .ok node
  | none => .error .missing

/-- The content of the regular file that a path leads to. -/
def content? (tree : FileTree) (directory : Location) (path : Bytes) : Option Bytes :=
  match tree.find directory path with
  | .ok (.file content) => some content
  | _ => none

/-- Looks up a file to send. -/
def lookUp (tree : FileTree) (directory : Location) (path : Bytes) : LocalFile :=
  match tree.find directory path with
  | .ok (.file content) => .content content
  | .error .nameTooLong => .unreachable PathFault.nameTooLong.text
  | _ => .missing

end FileTree

end SandboxClient
