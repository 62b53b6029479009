import PageModules.Proofs.Style.BaseSize
import PageModules.Proofs.Walk.Division
import PageModules.Proofs.Walk.Likeness

/-!
# Pages under two base font sizes

The plans of a document do not know the base font size, so it reaches a page through the styles of
its modules alone. Two conversions of a document that differ in the base font size give pages with
the same modules in the same places, each with the same keys; the values differ at most under the
keys of pixel lengths and of their variants (`Conversion.alike_baseFontSize`).
-/

namespace PageModules

open Element (fontSizeAccord)

/-! ### Attributes of an element -/

namespace Element

variable (e : Element) {a b : Attributes}

/-- Finishing adds variants, whose pixel lengths may differ, and overrides, which are the same. -/
theorem agree_finish (base base' : ℤ) (h : a.Agree fontSizeAccord b) :
    (e.finish base a).Agree fontSizeAccord (e.finish base' b) :=
  ((h.merge (e.agree_variants base base')).merge (.refl _ _)).filter
    fun key => !transientKeys.contains key

theorem values_column_structure : fontSizeAccord.values "column_structure" := by
  have hends : ∀ key ∈ StyleMap.pixelKeys, ∀ suffix ∈ "" :: styleVariants.map (·.2),
      "column_structure" ≠ key ++ suffix := by decide
  exact hends

/-- The division of a row is read from values that do not depend on the base size. -/
theorem agree_withDivision (h : a.Agree fontSizeAccord b) (columns : ℕ) :
    (e.withDivision columns a).Agree fontSizeAccord (e.withDivision columns b) := by
  have hdivision : e.divisionFor a columns = e.divisionFor b columns := by
    rw [divisionFor, divisionFor, (h "column_structure").2 values_column_structure]
  unfold withDivision
  rw [hdivision]
  exact h.insert (.refl _ _ _)

end Element

/-! ### Origins -/

namespace Origin

variable (base base' : ℤ)

/-- Under two base sizes the attributes of an origin have the same keys, and the same values but for
pixel lengths. -/
theorem agree_attributes (o : Origin) (inside : ℕ) :
    (o.attributes base inside).Agree fontSizeAccord (o.attributes base' inside) := by
  have hstyle (e : Element) := e.agree_styleAttributes base base'
  cases o with
  | typed e type =>
    have hfields : Attributes.Agree fontSizeAccord ((e.fields type).merge (e.styleAttributes base))
        ((e.fields type).merge (e.styleAttributes base')) := .merge (.refl _ _) (hstyle e)
    refine e.agree_finish base base' ?_
    unfold typedAttributes
    dsimp only
    split
    · exact e.agree_withDivision (hfields.merge (.refl _ _)) inside
    · exact hfields
  | item e type => exact e.agree_finish base base' (.merge (.refl _ _) (hstyle e))
  | recognized e r => exact e.agree_finish base base' (.merge (.refl _ _) (hstyle e))
  | componentItem i => exact .refl _ _
  | text e => exact e.agree_finish base base' (.merge (.refl _ _) (hstyle e))
  | ownText e => exact .refl _ _
  | dropped => exact .refl _ _
  | shapedSection e => exact e.agree_finish base base' ((hstyle e).merge (.refl _ _))
  | looseSection => exact .refl _ _
  | shapedRow e =>
    exact e.agree_finish base base'
      (e.agree_withDivision ((hstyle e).merge (.refl _ _)) inside)
  | looseRow => exact .refl _ _
  | shapedColumn e => exact e.agree_finish base base' (hstyle e)
  | looseColumn => exact .refl _ _
  | wrapper e => exact hstyle e

theorem alike_self (o : Origin) : o.Alike fontSizeAccord base base' o :=
  ⟨rfl, rfl, o.agree_attributes base base'⟩

end Origin

/-! ### Conversions -/

namespace Conversion

/-- **The base font size only scales lengths**: whatever the document, the way of reading and the
other options are, the outcomes under two base sizes have the same modules with the same keys, and
the values differ at most under the keys of pixel lengths, plain or of a variant. -/
theorem alike_baseFontSize (options : ConversionOptions) (mode : WalkMode) (d : Document)
    (base base' : ℤ) (token token' : String) :
    ((ofDocument { options with baseFontSize := base } mode d).outcome token).Alike fontSizeAccord
      ((ofDocument { options with baseFontSize := base' } mode d).outcome token') := by
  apply alike_outcome
  cases d.body? with
  | none => exact .none
  | some body =>
    exact .some (Plan.forall₂_alike_of_forall (Origin.alike_self base base') _)

end Conversion

end PageModules
