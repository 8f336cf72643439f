import Remap.Map.Position
import Remap.Map.SourceName
import Remap.Search

/-!
# Mappings and source maps

A mapping relates a point of the generated text to a point of an original text, or only says that
a stretch of generated text has no original. A source map keeps its mappings sorted twice, once
along the generated text and once along the original texts, so that both lookups are binary
searches:

* `SourceMap.originalFor` answers with the nearest mapping on the same generated line;
* `SourceMap.generatedFor` answers with the nearest mapping from the same source.

Of several mappings at the nearest point the first in its sorting counts. Both sortings need an order
of the sources; where these are texts there always is one.
-/

namespace Remap

structure Mapping (σ : Type) where
  generatedLine : Int
  generatedColumn : Int
  source : Option σ := none
  originalLine : Option Int := none
  originalColumn : Option Int := none
  name : Option String := none
deriving Repr, DecidableEq

variable {σ : Type}

namespace Mapping

/-- Whether a mapping that has a source has a whole original point. -/
def isAnchored (m : Mapping σ) : Bool :=
  m.source.isNone || (m.originalLine.isSome && m.originalColumn.isSome)

/-! ## The two orders -/

/-- By generated point only. -/
def compareGeneratedPoint (a b : Mapping σ) : Ordering :=
  (compare a.generatedLine b.generatedLine).then <| compare a.generatedColumn b.generatedColumn

/-- Where a mapping lies relative to a point of the generated text. -/
def compareToGenerated (m : Mapping σ) (line : Int) (column : Column) : Ordering :=
  (compare m.generatedLine line).then <| compare (m.generatedColumn : Column) column

/-- The original position of a mapping with a source. -/
def originalPosition (m : Mapping σ) : OriginalPosition σ :=
  match m.source with
  | none => {}
  | some source =>
    { source, line := m.originalLine, column := m.originalColumn.map .finite, name := m.name }

def generatedPosition (m : Mapping σ) : GeneratedPosition :=
  { line := m.generatedLine, column := some m.generatedColumn }

section

variable [Ord σ] [SourceName σ]

/-- What stands for the source along the generated text. -/
def standing (m : Mapping σ) : σ := SourceName.standing m.source

/-- The source of a mapping that has one. -/
def sourceOrNone (m : Mapping σ) : σ := m.source.getD (SourceName.standing none)

/-- Along the generated text; what is missing on the original side counts as empty or zero. -/
def compareGenerated (a b : Mapping σ) : Ordering :=
  (compare a.generatedLine b.generatedLine).then <|
  (compare a.generatedColumn b.generatedColumn).then <|
  (compare a.standing b.standing).then <|
  (compare (a.originalLine.getD 0) (b.originalLine.getD 0)).then <|
  compare (a.originalColumn.getD 0) (b.originalColumn.getD 0)

/-- By original point only: source, line and column. -/
def compareOriginalPoint (a b : Mapping σ) : Ordering :=
  (compare a.sourceOrNone b.sourceOrNone).then <|
  (compare (a.originalLine.getD 0) (b.originalLine.getD 0)).then <|
  compare (a.originalColumn.getD 0) (b.originalColumn.getD 0)

/-- Along the original texts, source by source. -/
def compareOriginal (a b : Mapping σ) : Ordering :=
  (a.compareOriginalPoint b).then <|
  (compare a.generatedLine b.generatedLine).then <|
  compare a.generatedColumn b.generatedColumn

/-- Where a mapping lies relative to a point of an original text. -/
def compareToOriginal (m : Mapping σ) (source : σ) (line column : Int) : Ordering :=
  (compare m.sourceOrNone source).then <|
  (compare (m.originalLine.getD 0) line).then <|
  compare (m.originalColumn.getD 0) column

end

/-! ## Whether there is an order -/

/-- Whether two mappings have an order along the generated text: at one point their sources must
have one. -/
def haveGeneratedOrder [SourceName σ] (a b : Mapping σ) : Bool :=
  a.compareGeneratedPoint b != .eq || SourceName.haveOrder a.standing b.standing

/-- Whether the points of two mappings in one source have an order: a missing line has no place among
lines, nor a missing column among columns of the same line. -/
def havePointOrder [BEq σ] (a b : Mapping σ) : Bool :=
  a.source != b.source || (a.originalLine.isSome == b.originalLine.isSome &&
    (a.originalLine != b.originalLine || a.originalColumn.isSome == b.originalColumn.isSome))

end Mapping

structure SourceMap (σ : Type) where
  /-- All mappings along the generated text. -/
  byGenerated : Array (Mapping σ)
  /-- The mappings with a source along the original texts. -/
  byOriginal : Array (Mapping σ)
deriving Repr

/-- Of sorted elements, the first among those that tie for the place nearest to a point, from the
side that the bias says. `place` puts an element before, at or after the point; `order` is the
order of the elements without tie breaks. -/
def nearest? (sorted : Array α) (order : α → α → Ordering) (place : α → Ordering) (bias : Bias) :
    Option α :=
  match bias with
  | .atOrAfter => sorted[partitionPoint sorted fun x => (place x).isLT]?
  | .atOrBefore => match partitionPoint sorted fun x => (place x).isLE with
    | 0 => none
    | n + 1 => do
      let last ← sorted[n]?
      sorted[partitionPoint sorted fun x => (order x last).isLT]?

namespace SourceMap

section

variable [Ord σ] [SourceName σ]

def ofMappings (mappings : List (Mapping σ)) : SourceMap σ where
  byGenerated := (mappings.mergeSort fun a b => (a.compareGenerated b).isLE).toArray
  byOriginal :=
    ((mappings.filter (·.source.isSome)).mergeSort fun a b => (a.compareOriginal b).isLE).toArray

variable [BEq σ]

/-- Whether mappings can be sorted along the generated text. When all sources have an order the
mappings need not be compared in pairs. -/
def hasGeneratedOrder (mappings : List (Mapping σ)) : Bool :=
  SourceName.allHaveOrder (mappings.map Mapping.standing) ||
    mappings.all fun a => mappings.all a.haveGeneratedOrder

/-- Whether mappings with sources can be sorted along the original texts. Whole points in one source
always have an order. -/
def hasOriginalOrder (mappings : List (Mapping σ)) : Bool :=
  SourceName.allHaveOrder (mappings.filterMap Mapping.source) &&
    (mappings.all Mapping.isAnchored || mappings.all fun a => mappings.all a.havePointOrder)

/-- A source map of mappings that have an order. -/
def ofMappings? (mappings : List (Mapping σ)) : Option (SourceMap σ) :=
  if hasGeneratedOrder mappings && hasOriginalOrder (mappings.filter (·.source.isSome)) then
    some (ofMappings mappings)
  else none

end

def size (map : SourceMap σ) : Nat := map.byGenerated.size

/-- The sources in order, each once. -/
def sources [BEq σ] (map : SourceMap σ) : List σ :=
  (map.byOriginal.toList.filterMap Mapping.source).eraseReps

/-- The same as `sources`, if the sources can be collected. -/
def sources? [BEq σ] [SourceName σ] (map : SourceMap σ) : Option (List σ) :=
  let sources := map.sources
  if sources.all SourceName.canCollect then some sources else none

/-- The original position of the nearest mapping on a line of the generated text. -/
def originalFor (map : SourceMap σ) (line : Int) (column : Column) (bias : Bias) :
    OriginalPosition σ :=
  match nearest? map.byGenerated Mapping.compareGeneratedPoint
      (·.compareToGenerated line column) bias with
  | some m => if m.generatedLine = line then m.originalPosition else {}
  | none => {}

variable [BEq σ] [Ord σ] [SourceName σ]

/-- The generated position of the nearest mapping from a source. -/
def generatedFor (map : SourceMap σ) (source : σ) (line column : Int) (bias : Bias) :
    GeneratedPosition :=
  match nearest? map.byOriginal Mapping.compareOriginalPoint
      (·.compareToOriginal source line column) bias with
  | some m => if m.source == some source then m.generatedPosition else {}
  | none => {}

/-- Whether a point of an original text has a place among the mappings: its source must have an order
among theirs, and those from its source must have lines, and those on its line columns. -/
def canPlace (map : SourceMap σ) (source : σ) (line : Int) : Bool :=
  map.byOriginal.all fun m => SourceName.haveOrder m.sourceOrNone source &&
    (m.source != some source ||
      (m.originalLine.isSome && (m.originalLine != some line || m.originalColumn.isSome)))

/-- The same as `generatedFor`, if the point has a place. -/
def generatedFor? (map : SourceMap σ) (source : σ) (line column : Int) (bias : Bias) :
    Option GeneratedPosition :=
  if map.canPlace source line then some (map.generatedFor source line column bias) else none

def lookup (map : SourceMap σ) : Lookup σ := ⟨map.originalFor, map.generatedFor⟩

end SourceMap

end Remap
