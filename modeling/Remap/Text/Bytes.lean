/-!
# Byte offsets in a text

A parser counts in bytes of the UTF-8 form, everything else here counts in characters. The
conversion walks the text once and never builds the bytes: a character of `Char.utf8Size` bytes
covers that many byte offsets.

* `charIndex?` gives the index of the character that holds a byte;
* `cut?` gives the text between two byte offsets, if both fall between characters.
-/

namespace Remap.Text

def byteSize (text : List Char) : Nat := text.foldr (fun c size => c.utf8Size + size) 0

/-- The index of the character whose bytes include the one at `offset`. The offset just past the
last byte belongs to the index just past the last character; further offsets have none. -/
def charIndex? : List Char → Nat → Option Nat
  | [], offset => if offset = 0 then some 0 else none
  | c :: rest, offset =>
    if offset < c.utf8Size then some 0
    else (charIndex? rest (offset - c.utf8Size)).map (· + 1)

/-- Splits at a byte offset, or at the end when the offset lies past it. There is no split inside
a character. -/
def splitAtByte? : List Char → Nat → Option (List Char × List Char)
  | [], _ => some ([], [])
  | c :: rest, offset =>
    if offset = 0 then some ([], c :: rest)
    else if offset < c.utf8Size then none
    else (splitAtByte? rest (offset - c.utf8Size)).map fun (before, after) => (c :: before, after)

/-- The text whose bytes lie between two offsets, both clamped to the end of the text. An empty
range is the empty text wherever it lies; any other must start and stop between characters. -/
def cut? (text : List Char) (start stop : Nat) : Option (List Char) :=
  if stop ≤ start || byteSize text ≤ start then some []
  else do
    let (_, rest) ← splitAtByte? text start
    let (piece, _) ← splitAtByte? rest (stop - start)
    return piece

/-- The text that a sequence of bytes encodes, if it encodes one. -/
def decode? (bytes : ByteArray) : Option (List Char) := (String.fromUTF8? bytes).map String.toList

theorem decode?_toUTF8 (text : String) : decode? text.toUTF8 = some text.toList := by
  have hvalid : text.toUTF8.IsValidUTF8 := text.isValidUTF8
  rw [decode?, String.fromUTF8?, dif_pos hvalid]
  rfl

theorem decode?_of_not_isValidUTF8 {bytes : ByteArray} (h : ¬ bytes.IsValidUTF8) :
    decode? bytes = none := by
  rw [decode?, String.fromUTF8?, dif_neg h]
  rfl

end Remap.Text
