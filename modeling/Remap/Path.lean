import Remap.Text.Affix
import Remap.Text.Split

/-!
# Paths

Paths are slash-separated names. `Path.ofText` brings a text into normal form: empty components
and single dots go, two dots stay, and of the leading slashes one remains, or two if there were
exactly two. The path of no components is written as a dot.

`Path.Content` is what is found at a path.
-/

namespace Remap

/-- A path: its root (no slash, one or two) and its components. -/
structure Path where
  root : Nat
  components : List String
deriving Repr, DecidableEq

namespace Path

/-- What is found at a path. -/
inductive Content where
  | nothing
  | directory
  | file (bytes : ByteArray)

def ofText (text : String) : Path :=
  let chars := text.toList
  let slashes := (chars.takeWhile (· = '/')).length
  let pieces := (Text.splitOn '/' chars).filter fun piece => piece ≠ [] && piece ≠ ['.']
  ⟨if slashes = 2 then 2 else min slashes 1, pieces.map String.ofList⟩

def display (path : Path) : String :=
  if path.root = 0 && path.components.isEmpty then "."
  else String.ofList (List.replicate path.root '/') ++ "/".intercalate path.components

def isAbsolute (path : Path) : Bool := path.root ≠ 0

/-- Whether a null character is in a path. Nothing can be at such a path, nor be opened by it. -/
def hasNull (path : Path) : Bool := path.components.any (·.contains '\x00')

/-- The components that are left when each pair of dots has taken back the one before it. -/
def resolved (path : Path) : List String :=
  let step := fun (kept : List String) name => if name = ".." then kept.drop 1 else name :: kept
  (path.components.foldl step []).reverse

/-- The final component. -/
def name (path : Path) : String := path.components.getLast?.getD ""

/-- The final component from its last dot on, when that dot is neither its first nor its last
character; else nothing. -/
def suffix (path : Path) : String :=
  let reversed := path.name.toList.reverse
  let tail := reversed.takeWhile (· ≠ '.')
  match tail, reversed.drop tail.length with
  | _ :: _, '.' :: _ :: _ => String.ofList ('.' :: tail.reverse)
  | _, _ => ""

/-- The user whose home a path starts from, if it starts from one. -/
def homeUser? (path : Path) : Option (List Char) :=
  match path.root, path.components with
  | 0, first :: _ => match first.toList with
    | '~' :: user => some user
    | _ => none
  | _, _ => none

/-- The path with a leading home component replaced by that home: `~` alone is the user's own,
`~name` that of another user. It fails when the home is not known. -/
def expandHome (home : String → Option String) (path : Path) : Option Path :=
  match path.root, path.components with
  | 0, first :: rest => match first.toList with
    | '~' :: user => do
      let base := ofText (← home (String.ofList user))
      return ⟨base.root, base.components ++ rest⟩
    | _ => some path
  | _, _ => some path

/-- A path text joined to a directory text: an absolute one stands by itself. -/
def joinText (directory path : String) : String :=
  if Text.startsWith ['/'] path.toList then path
  else if directory.isEmpty || Text.endsWith ['/'] directory.toList then directory ++ path
  else directory ++ "/" ++ path

end Path

end Remap
