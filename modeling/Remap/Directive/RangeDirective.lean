import Remap.Text.Affix
import Remap.Text.Blank

/-!
# Directives on a construct

A comment that excludes the construct after it (`t8 ignore next`) or everything from that
construct to the end of the enclosing block (`t8 ignore rest`). Blanks may precede the words and
anything may follow them after a blank.
-/

namespace Remap

inductive RangeDirective where
  | next
  | rest
deriving Repr, DecidableEq

namespace RangeDirective

def keyword : RangeDirective → String
  | next => "next"
  | rest => "rest"

/-- The text of a comment without its delimiters. A text with no opening delimiter is taken
whole, and a block comment may lack its closing one. -/
def commentBody (text : List Char) : List Char :=
  match text with
  | '/' :: '/' :: body => body
  | '/' :: '*' :: body =>
    if Text.endsWith ['*', '/'] text then (text.take (text.length - 2)).drop 2 else body
  | _ => text

/-- The directive that a comment holds. -/
def ofComment? (text : List Char) : Option RangeDirective := do
  let rest ← Text.after? "t8 ignore ".toList ((commentBody text).dropWhile Text.isBlank)
  let word := rest.takeWhile fun c => !Text.isBlank c
  if word = next.keyword.toList then some next
  else if word = RangeDirective.rest.keyword.toList then some RangeDirective.rest
  else none

end RangeDirective

end Remap
