import Remap.Assoc
import Remap.Path
import Remap.Syntax.Grammar
import Remap.Text.Lowercase

/-!
# Extensions

Which grammar parses the files with an extension. Extensions are compared in small letters and with
their dot, however they were given; of several that are the same then, the last counts.
-/

namespace Remap

/-- Extensions in normal form, with the names of their grammars. -/
abbrev Extensions := List (String × String)

/-- A grammar that is not registered, and the extension it was given for. -/
structure UnknownGrammar where
  grammar : String
  extension : String
deriving Repr, DecidableEq

/-- An extension in normal form: in small letters, with a leading dot. -/
def normalExtension (extension : String) : String :=
  let small := Text.lowercase extension
  if Text.startsWith ['.'] small.toList then small else "." ++ small

namespace Extensions

def default : Extensions :=
  [(".js", "javascript"), (".mjs", "javascript"), (".cjs", "javascript"), (".jsx", "javascript"),
    (".ts", "typescript"), (".mts", "typescript"), (".cts", "typescript"), (".tsx", "tsx")]

/-- The normal form of given extensions, all of whose grammars must be registered. -/
def normalise (given : List (String × String)) : Except UnknownGrammar Extensions :=
  match given.find? fun (_, grammar) => (Grammar.named? grammar).isNone with
  | some (extension, grammar) => .error ⟨grammar, extension⟩
  | none => .ok (Assoc.ofList (given.map fun (extension, grammar) =>
      (normalExtension extension, grammar)))

/-- The name of the grammar for a file. -/
def grammarFor (extensions : Extensions) (path : Path) : Option String :=
  extensions.lookup (Text.lowercase path.suffix)

end Extensions

end Remap
