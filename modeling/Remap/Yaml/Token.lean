/-!
# Tokens

The signs, names and scalars of a YAML text. Blocks have no signs of their own: their starts and
ends follow from the layout, and so does the token in front of a key that has no `?`.
-/

namespace Remap.Yaml

inductive Directive where
  | version (major minor : Nat)
  | tag (handle expansion : String)
  | unknown
deriving Repr, DecidableEq

inductive Token where
  | directive (directive : Directive)
  | documentStart
  | documentEnd
  | blockSequence
  | blockMapping
  | blockEnd
  | blockEntry
  | flowSequence
  | flowSequenceEnd
  | flowMapping
  | flowMappingEnd
  | flowEntry
  | key
  | value
  | reference (name : String)
  | anchor (name : String)
  /-- A tag; one without a handle stands for itself. -/
  | tag (handle : Option String) (suffix : String)
  | scalar (plain : Bool) (text : String)
deriving Repr, DecidableEq

end Remap.Yaml
