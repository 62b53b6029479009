import PageModules.Layout.Fraction
import PageModules.Proofs.Lists
import PageModules.Text.Basic

/-!
# Divisions as lists of fractions

A division is written with commas between its fractions.  Cutting it at the commas gives the
fractions back (`Text.splitOn_intercalate`), because no fraction that a width is next to has a comma
in it (`Layout.nearestFraction_mem`).
-/

namespace PageModules

/-! ### Cutting and joining -/

namespace Text

/-- Pieces without the separator in them come back when what they are joined to is cut. -/
theorem splitOn_intercalate {c : Char} {pieces : List String} (hne : pieces ≠ [])
    (h : ∀ p ∈ pieces, c ∉ p.toList) :
    splitOn c ((String.singleton c).intercalate pieces) = pieces := by
  have hsplit : List.splitOn c ([c].intercalate (pieces.map String.toList)) =
      pieces.map String.toList := by
    refine List.splitOn_intercalate c (List.forall_mem_map.mpr h) ?_
    rwa [ne_eq, List.map_eq_nil_iff]
  have hback : String.ofList ∘ String.toList = id := funext fun s => String.ofList_toList
  rw [splitOn, String.toList_intercalate, String.toList_singleton, hsplit, List.map_map, hback,
    List.map_id]

end Text

namespace Layout

/-! ### Fractions -/

/-- The fraction next to a width is one of those that widths stand for. -/
theorem nearestFraction_mem (percent : Binary64) :
    nearestFraction percent ∈ "1_2" :: roundedWidths.map Prod.snd := by
  refine Lists.foldl_snd_mem (fun best entry => ?_) roundedWidths (greatest, "1_2")
  dsimp only
  split
  · exact Or.inr rfl
  · exact Or.inl rfl

/-- A fraction is a word without commas. -/
theorem nearestFraction_word (percent : Binary64) :
    ',' ∉ (nearestFraction percent).toList ∧
      Text.isBlankText (nearestFraction percent) = false := by
  have hall : ∀ s ∈ "1_2" :: roundedWidths.map Prod.snd,
      ',' ∉ s.toList ∧ Text.isBlankText s = false := by decide +kernel
  exact hall _ (nearestFraction_mem percent)

end Layout

end PageModules
