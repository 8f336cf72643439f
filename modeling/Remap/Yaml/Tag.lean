/-!
# Tags

What kind of value a node stands for. A tag is written as a URI; those of the core kinds share the
beginning `Tag.coreUri`.
-/

namespace Remap.Yaml

inductive Tag where
  | text
  | flag
  | integer
  | decimal
  | null
  | binary
  | timestamp
  /-- The key whose value is merged into the mapping around it. -/
  | merge
  /-- The key of the value that a mapping has as a scalar. -/
  | default
  | sequence
  | mapping
  | set
  | orderedMapping
  | pairs
  /-- A tag that nothing is known about. -/
  | unknown
deriving Repr, DecidableEq

namespace Tag

def coreUri : String := "tag:yaml.org,2002:"

def named : List (String × Tag) :=
  [("str", text), ("bool", flag), ("int", integer), ("float", decimal), ("null", null),
    ("binary", binary), ("timestamp", timestamp), ("merge", merge), ("value", default),
    ("seq", sequence), ("map", mapping), ("set", set), ("omap", orderedMapping), ("pairs", pairs)]

def ofUri (uri : String) : Tag :=
  match named.find? fun (name, _) => coreUri ++ name = uri with
  | some (_, tag) => tag
  | none => unknown

end Tag

end Remap.Yaml
