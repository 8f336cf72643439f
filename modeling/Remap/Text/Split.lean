/-!
# Splitting at separators

The pieces of a text between separators: one more than there are separators, some of them
possibly empty.
-/

namespace Remap.Text

def splitOn (separator : Char) : List Char → List (List Char)
  | [] => [[]]
  | c :: rest =>
    if c = separator then [] :: splitOn separator rest
    else match splitOn separator rest with
      | piece :: pieces => (c :: piece) :: pieces
      | [] => [[c]]

/-- The pieces between separators that are written twice. -/
def splitOnDouble (separator : Char) : List Char → List (List Char)
  | [] => [[]]
  | [c] => [[c]]
  | c :: d :: rest =>
    if c = separator && d = separator then [] :: splitOnDouble separator rest
    else match splitOnDouble separator (d :: rest) with
      | piece :: pieces => (c :: piece) :: pieces
      | [] => [[c]]

end Remap.Text
