import Remap.Yaml.Spot

/-!
# Quoted scalars

A scalar between quotes may go over several lines, which fold as in a plain scalar. Between single
quotes only the quote itself is special, and is written twice; between double quotes a backslash
starts an escape, also of a line break.
-/

namespace Remap.Yaml.QuotedScalar

/-- The breaks of empty lines, and the blanks before what follows them. No document may start or
end inside a scalar. -/
def breaks (atLineStart : Bool) : Spots → Except Error (List Char × Spots)
  | [] => .ok ([], [])
  | s :: rest =>
    if atLineStart && Spots.atDocument (s :: rest) then .error .malformed
    else if s.char = ' ' || s.char = '\t' then breaks false rest
    else match lineBreak? s.char with
      | some c => (breaks true rest).map fun (more, rest) => (c :: more, rest)
      | none => .ok ([], s :: rest)

/-- The blanks between two words. -/
def gap (text : Spots) : Except Error (List Char × Spots) :=
  let blank (s : Spot) : Bool := s.char = ' ' || s.char = '\t'
  match text.dropWhile blank with
  | [] => .error .malformed
  | s :: rest => match lineBreak? s.char with
    | some c => (breaks true rest).map fun (more, rest) => (foldBreaks c more, rest)
    | none => .ok (Spots.chars (text.takeWhile blank), s :: rest)

/-- The character that a letter stands for after a backslash. -/
def escaped? : Char → Option Char
  | '0' => some '\x00'
  | 'a' => some '\x07'
  | 'b' => some '\x08'
  | 't' | '\t' => some '\t'
  | 'n' => some '\n'
  | 'v' => some '\x0b'
  | 'f' => some '\x0c'
  | 'r' => some '\r'
  | 'e' => some '\x1b'
  | ' ' => some ' '
  | '"' => some '"'
  | '\\' => some '\\'
  | '/' => some '/'
  | 'N' => some '\u0085'
  | '_' => some '\u00a0'
  | 'L' => some '\u2028'
  | 'P' => some '\u2029'
  | _ => none

/-- How many hexadecimal digits follow a letter after a backslash. -/
def codeLength? : Char → Option Nat
  | 'x' => some 2
  | 'u' => some 4
  | 'U' => some 8
  | _ => none

/-- The character with a code. The codes within the range of characters that have none are kept for
the halves of pairs. -/
def ofCode (code : Nat) : Except Halt Char :=
  if code.isValidChar then .ok (Char.ofNat code)
  else if code < 0x110000 then .error (.halfPair code)
  else .error (.characterCode code)

/-- What an escape stands for; the backslash has been read. -/
def escape : Spots → Except Error (List Char × Spots)
  | [] => .error .malformed
  | s :: rest => match escaped? s.char, codeLength? s.char with
    | some c, _ => .ok ([c], rest)
    | none, some length => do
      let digits := Spots.chars (rest.take length)
      if digits.length < length || !digits.all Digits.isHex then throw .malformed
      let c ← (ofCode (Digits.toNat 16 digits)).mapError (.halt · (s.offset + 1 + length))
      return ([c], rest.drop length)
    | none, none => if isBreak s.char then breaks true rest else .error .malformed

/-- The scalar up to its closing quote. Each round reads at least one character. -/
def readFrom (quote : Char) : Nat → Spots → Except Error (List Char × Spots)
  | 0, _ => .error .malformed
  | _ + 1, [] => .error .malformed
  | rounds + 1, s :: rest => do
    let (piece, rest) ←
      if s.char = quote then
        if quote = '\x27' && Spots.startsWith rest quote then pure ([quote], rest.drop 1)
        else return ([], rest)
      else if quote = '"' && s.char = '\\' then escape rest
      else if isBlank s.char then gap (s :: rest)
      else pure ([s.char], rest)
    let (more, rest) ← readFrom quote rounds rest
    return (piece ++ more, rest)

/-- The scalar and what follows it; the opening quote has been read. -/
def read (quote : Char) (text : Spots) : Except Error (List Char × Spots) :=
  readFrom quote (text.length + 1) text

end Remap.Yaml.QuotedScalar
