import Remap.Yaml.Error

/-!
# Text with places

The layout of a YAML text carries meaning, so each character is read together with its line and its
column. The text to be read is a list of such spots; what is still to be read is a suffix of it,
whose first spot says where that is.

Besides `\n` three further characters break a line; two of them stand for themselves in a scalar,
the others for `\n`. The byte order mark takes no column.
-/

namespace Remap.Yaml

structure Spot where
  char : Char
  offset : Nat
  line : Nat
  column : Nat
deriving Repr, DecidableEq

abbrev Spots := List Spot

def byteOrderMark : Char := '\uFEFF'

/-- What a character that breaks a line stands for in a scalar. -/
def lineBreak? (c : Char) : Option Char :=
  if c = '\n' || c = '\u0085' then some '\n'
  else if c = '\u2028' || c = '\u2029' then some c
  else none

def isBreak (c : Char) : Bool := (lineBreak? c).isSome

def isBlank (c : Char) : Bool := c = ' ' || c = '\t' || isBreak c

/-- The characters that a text may hold. -/
def isAllowed (c : Char) : Bool :=
  c = '\t' || c = '\n' || c = '\r' || (' ' ≤ c && c ≤ '~') || c = '\u0085' ||
    ('\u00A0' ≤ c && c ≤ '\uFFFD') || 0x10000 ≤ c.toNat

namespace Spots

def layoutFrom (offset line column : Nat) : List Char → Spots
  | [] => []
  | c :: rest =>
    let spot : Spot := ⟨c, offset, line, column⟩
    if isBreak c then spot :: layoutFrom (offset + 1) (line + 1) 0 rest
    else
      spot :: layoutFrom (offset + 1) line (if c = byteOrderMark then column else column + 1) rest

/-- A text with its places; a byte order mark at its start is dropped. -/
def layout : List Char → Spots
  | [] => []
  | c :: rest => if c = byteOrderMark then layoutFrom 1 0 0 rest else layoutFrom 0 0 0 (c :: rest)

def chars (text : Spots) : List Char := text.map Spot.char

def startsWith (text : Spots) (c : Char) : Bool := text.head?.any (·.char = c)

/-! ## What comes next

The end of the text counts as a break. -/

def atSpace : Spots → Bool
  | [] => true
  | s :: _ => s.char = ' ' || isBreak s.char

def atBlank : Spots → Bool
  | [] => true
  | s :: _ => isBlank s.char

/-- Whether a marker of three equal characters comes next. -/
def atMarker (c : Char) : Spots → Bool
  | a :: b :: d :: rest => a.char = c && b.char = c && d.char = c && atBlank rest
  | _ => false

/-- Whether a document starts or ends here, if this is the start of a line. -/
def atDocument (text : Spots) : Bool := atMarker '-' text || atMarker '.' text

/-! ## Going on -/

def skipSpaces (text : Spots) : Spots := text.dropWhile (·.char = ' ')

/-- Goes to the next line when only blanks and a comment are left on this one. -/
def endLine (text : Spots) : Except Error Spots :=
  let text := skipSpaces text
  let text := if startsWith text '#' then text.dropWhile (!isBreak ·.char) else text
  match text with
  | [] => .ok []
  | s :: rest => if isBreak s.char then .ok rest else .error .malformed

end Spots

/-- A break inside a scalar and the breaks of the empty lines after it: a single one folds into a
space. -/
def foldBreaks (first : Char) (more : List Char) : List Char :=
  if first ≠ '\n' then first :: more
  else if more.isEmpty then [' ']
  else more

end Remap.Yaml
