import Remap.Listing
import Remap.Log.Session
import Remap.Settings.Basic
import Remap.Text.Newline

/-!
# Source files

Reading a source file into a listing. The settings choose the grammar from the name of the file.
While the work goes on the file is bound in the log, so that every event names it; whatever comes of
the work, no file is bound when it is over.
-/

namespace Remap

structure SourceFile where
  path : Path
  content : Path.Content

inductive SourceError where
  | missing
  /-- There is a directory in the place of the file. -/
  | directory
  /-- There is a null character in the path. -/
  | nullCharacter
  /-- The bytes are no UTF-8 text. -/
  | encoding
  | listing (error : ListingError)
deriving Repr, DecidableEq

namespace SourceFile

/-- The text of a file, its line ends unified. -/
def text (file : SourceFile) : Except SourceError (List Char) := do
  if file.path.hasNull then throw .nullCharacter
  match file.content with
  | .nothing => throw .missing
  | .directory => throw .directory
  | .file bytes =>
    let some text := Text.decode? bytes | throw .encoding
    return Text.unifyLineEnds text

/-- The listing of a file. -/
def build (parse : Parse) (settings : Settings) (wrapperLength : Int) (file : SourceFile) :
    Logged (Except SourceError Listing) :=
  match file.text with
  | .error error => ⟨.error error, []⟩
  | .ok text =>
    let built := Listing.build parse text wrapperLength (settings.parser.grammarFor file.path)
    ⟨built.value.mapError .listing, built.events⟩

/-- The listing of a file, made within a session. -/
def load (parse : Parse) (settings : Settings) (wrapperLength : Int) (file : SourceFile)
    (session : Session) : Except SourceError Listing × Session :=
  let built := build parse settings wrapperLength file
  (built.value, ((session.bind file.path.display).report built.events).clear)

end SourceFile

end Remap
