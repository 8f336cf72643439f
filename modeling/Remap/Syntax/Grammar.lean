import Remap.Text.Affix

/-!
# Grammars

What there is to know about the grammar of a language: where its parser is found, and which kinds
of nodes are blocks, comments, or extras that do not count among siblings. The registry holds one
grammar for each language whose sources can carry directives on ranges.
-/

namespace Remap

structure Grammar where
  name : String
  package : String
  library : String
  loader : String := "language"
  blockKinds : List String := ["statement_block"]
  commentKinds : List String := ["comment"]
  skippedKinds : List String := ["hashbang_line"]
deriving Repr, DecidableEq

namespace Grammar

def javascript : Grammar :=
  { name := "javascript", package := "tree-sitter-javascript", library := "tree_sitter_javascript" }

def typescript : Grammar :=
  { name := "typescript", package := "tree-sitter-typescript", library := "tree_sitter_typescript",
    loader := "language_typescript" }

def tsx : Grammar :=
  { name := "tsx", package := "tree-sitter-typescript", library := "tree_sitter_typescript",
    loader := "language_tsx" }

def registry : List Grammar := [javascript, typescript, tsx]

/-- The registered grammar with a name. -/
def named? (name : String) : Option Grammar := registry.find? (·.name == name)

/-- Whether a parser for the grammar can be loaded: its library has the loader. -/
def isAvailable (grammar : Grammar) : Bool :=
  registry.any fun known => known.library == grammar.library && known.loader == grammar.loader

/-- Why no parser can be loaded. -/
inductive LibraryError where
  /-- The library has no name. -/
  | unnamed
  /-- The name of the library starts with a dot, which leads from a library that is not given. -/
  | relative
  /-- There is no such library, or it has no such loader. -/
  | unavailable
deriving Repr, DecidableEq

/-- Loads the parser for the grammar. -/
def load (grammar : Grammar) : Except LibraryError Unit :=
  if grammar.library.isEmpty then .error .unnamed
  else if Text.startsWith ['.'] grammar.library.toList then .error .relative
  else if grammar.isAvailable then .ok ()
  else .error .unavailable

/-- A parser can be loaded for every registered grammar. -/
theorem load_of_named? {name : String} {grammar : Grammar} (h : named? name = some grammar) :
    grammar.load = .ok () := by
  have hmem : grammar ∈ [javascript, typescript, tsx] := List.mem_of_find?_eq_some h
  simp only [List.mem_cons, List.not_mem_nil, or_false] at hmem
  rcases hmem with rfl | rfl | rfl <;> rfl

end Grammar

end Remap
