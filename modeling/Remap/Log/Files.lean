import Remap.Settings.Logging

/-!
# Files of a log

Before anything is logged the files of the outputs are opened in their order. Directories above a
file are made where they are missing. An output cannot be opened when there is a directory in the
place of its file, or a file in the place of a directory above it; nor can a file be opened by a path
that has a null character in it.
-/

namespace Remap

inductive OpenError where
  /-- There is a null character in the path of the file. -/
  | nullCharacter
  /-- A directory is in the place of the file. -/
  | directory
  /-- A file is in the place of the directory that the file is to lie in. -/
  | fileAbove
  /-- A file is in the place of a directory further up. -/
  | fileFurtherUp
deriving Repr, DecidableEq

/-- What is known of the files there are, by the components of their absolute paths. -/
structure FileTree where
  directories : List (List String)
  files : List (List String) := []

namespace FileTree

/-- The paths that lead to a path, with that path itself. -/
def leadingTo (path : List String) : List (List String) :=
  (List.range (path.length + 1)).map fun length => path.take length

/-- Opens the file at a path, whose directories are made if they are missing. -/
def openFile (tree : FileTree) (path : List String) : Except OpenError FileTree := do
  let above := path.dropLast
  if tree.files.contains above then throw .fileAbove
  if (leadingTo above).any tree.files.contains then throw .fileFurtherUp
  let directories := tree.directories ++ leadingTo above
  if path.isEmpty || directories.contains path then throw .directory
  return { directories, files := path :: tree.files }

end FileTree

/-- Opens the files of all outputs. -/
def LogSettings.openFiles (settings : LogSettings) (tree : FileTree) :
    Except OpenError FileTree :=
  settings.outputs.foldlM (fun tree output => match output.destination with
    | .file path => if path.hasNull then .error .nullCharacter else tree.openFile path.resolved
    | _ => .ok tree) tree

end Remap
