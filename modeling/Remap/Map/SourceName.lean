import Remap.Value.Order

/-!
# Names of sources

The sources of a source map are told apart and put in an order. As a rule they are texts, but a
document may name its sources by other values, of which some have no order.
-/

namespace Remap

class SourceName (σ : Type) where
  /-- What stands for a source along the generated text, where a source may be missing. -/
  standing : Option σ → σ
  /-- Whether two sources have an order. -/
  haveOrder : σ → σ → Bool
  /-- Whether a source can be collected with others, each once: lists and tables cannot. -/
  canCollect : σ → Bool

namespace SourceName

instance : SourceName String where
  standing source := source.getD ""
  haveOrder _ _ := true
  canCollect _ := true

/-- A value that stands for nothing given counts as missing along the generated text. -/
instance : SourceName Value where
  standing
    | some source => if source.isTrivial then .str "" else source
    | none => .str ""
  haveOrder a b := (a.order? b).isSome
  canCollect
    | .scalar _ => true
    | _ => false

variable {σ : Type} [BEq σ] [SourceName σ]

/-- Whether each two of some sources have an order. -/
def allHaveOrder (sources : List σ) : Bool :=
  let distinct := sources.eraseDups
  distinct.all fun a => distinct.all (haveOrder a)

theorem allHaveOrder_string (sources : List String) : allHaveOrder sources = true := by
  simp [allHaveOrder, haveOrder]

end SourceName

end Remap
