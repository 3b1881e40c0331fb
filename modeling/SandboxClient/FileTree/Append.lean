import SandboxClient.FileTree.Basic

/-!
# Appending to files

A file that is opened for appending need not be there, and neither need the directories on the way to
it.  Directories are made from the outermost on, once it is known that no file is in their way.
-/

namespace SandboxClient

namespace FileTree

/-! ## Making directories -/

/-- How many directories are made at most for one path. -/
def mostMissing : Nat := 1000

/-- The directories to be made so that a path leads to one, the innermost first.  The path is given by
its names, last first.  There is no such list if there is a file on the way or the path is too long. -/
def missing? (tree : FileTree) (directory : Location) : (names : List Bytes) → Option (List Bytes)
  | [] => some []
  | name :: names =>
    if name.isEmpty then tree.missing? directory names
    else
      let path := Text.joinWith [47] (name :: names).reverse
      match tree.find directory path with
      | .ok node => if node.isDirectory then some [] else none
      | .error .nameTooLong => none
      | .error _ =>
        let outer := tree.missing? directory names
        if name = utf8 "." || name = utf8 ".." then outer else outer.map (path :: ·)

/-- Makes one directory, unless there is one already. -/
def makeDirectory? (tree : FileTree) (directory : Location) (path : Bytes) : Option FileTree :=
  match tree.locate directory path with
  | .error _ => none
  | .ok location =>
    match tree.node? location with
    | some node => if node.isDirectory then some tree else none
    | none => some (tree.put location (.directory []))

/-- Makes directories in turn, up to the first that cannot be made. -/
def makeAll (tree : FileTree) (directory : Location) : (paths : List Bytes) → FileTree
  | [] => tree
  | path :: paths =>
    match tree.makeDirectory? directory path with
    | some made => made.makeAll directory paths
    | none => tree

/-- Makes the directories that lead to the last name of a path. -/
def makeWay (tree : FileTree) (directory : Location) (path : Bytes) : FileTree :=
  match tree.missing? directory (Text.splitOn 47 path).dropLast.reverse with
  | none => tree
  | some paths =>
    if mostMissing < paths.length then tree else tree.makeAll directory paths.reverse

/-! ## Opening files -/

/-- A path without its last name and the slashes behind it. -/
def withoutLastName (path : Bytes) : Bytes :=
  ((path.reverse.dropWhile (· == 47)).dropWhile (· != 47)).reverse

/-- The place of the file that a path names, which need not be there.  A path that ends in a slash
cannot name a file. -/
def locateFile (tree : FileTree) (directory : Location) (path : Bytes) :
    Except PathFault Location := do
  let text := Text.upToNul path
  if text.getLast? = some 47 && text.length < longestPath then
    let _ ← tree.locate directory (withoutLastName text ++ utf8 ".")
    .error .isDirectory
  else
    let location ← tree.locate directory text
    if (tree.node? location).any FileNode.isDirectory then .error .isDirectory
    else .ok location

/-- Opens a file for appending.  The directories on the way are made, and so is the file unless it
is in a directory where nothing can be made. -/
def openForAppend (tree : FileTree) (directory : Location) (path : Bytes) :
    FileTree × Except PathFault Unit :=
  let prepared := tree.makeWay directory path
  match prepared.locateFile directory path with
  | .error fault => (prepared, .error fault)
  | .ok location =>
    if (prepared.node? location).isSome then (prepared, .ok ())
    else
      let opened := prepared.put location (.file [])
      (opened, if (opened.node? location).isSome then .ok () else .error .missing)

end FileTree

end SandboxClient
