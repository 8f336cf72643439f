import Remap.Value.Identity
import Remap.Value.Merge

/-!
# Layers of settings

Settings come from four places. From the lowest to the highest: a file for all projects, the file of
a project, the environment, and the arguments of a call. Each lies over those below it, key by key
wherever both hold a table. What a file of a project holds is opened along the file for all projects,
so that tables that contain themselves are merged as well.
-/

namespace Remap

structure Layers where
  common : List (Scalar × Value) := []
  project : List (Scalar × Value) := []
  environment : List (Scalar × Value) := []
  arguments : List (Scalar × Value) := []
deriving Repr, DecidableEq

namespace Layers

/-- The file of the project laid over that for all projects. -/
def files (layers : Layers) : List (Scalar × Value) :=
  Value.overlayEntries layers.common layers.project

/-- The layers laid over each other. -/
def merged (layers : Layers) : List (Scalar × Value) :=
  Value.overlayEntries layers.files
    (Value.overlayEntries layers.environment layers.arguments)

end Layers

end Remap
