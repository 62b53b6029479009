import PageModules.Proofs.Style.StyleMaps
import PageModules.Style.Attributes

/-!
# The order of declarations

Declarations are independent if no longhand comes from two of them (`StyleMap.IsIndependent`).  Each
longhand then has the value that its only declaration gives it, wherever that stands
(`StyleMap.get?_expand_of_perm`).  The categories of attributes ask for the values of properties and
for nothing else (`StyleMap.category_congr`), so independent declarations may stand in any order
(`StyleMap.toAttributes_of_perm`).
-/

namespace PageModules.StyleMap

/-! ### Independent declarations -/

/-- The longhands that come from a declaration. -/
def longhands (p : String × String) : List String := (Shorthand.expand p.1 p.2).map Prod.fst

/-- No longhand comes from two declarations. -/
def IsIndependent (m : StyleMap) : Prop :=
  m.props.Pairwise fun p q => ∀ name ∈ longhands p, name ∉ longhands q

instance (m : StyleMap) : Decidable m.IsIndependent :=
  inferInstanceAs (Decidable (List.Pairwise _ _))

variable {m n : StyleMap}

/-- At most one declaration gives a longhand. -/
theorem IsIndependent.length_filter_le (h : m.IsIndependent) (name : String) :
    (m.props.filter fun p => (longhands p).contains name).length ≤ 1 := by
  have hfilter := h.filter fun p => (longhands p).contains name
  rcases hgive : m.props.filter fun p => (longhands p).contains name with _ | ⟨p, _ | ⟨q, rest⟩⟩
  · exact Nat.zero_le 1
  · exact Nat.le_refl 1
  · rw [hgive, List.pairwise_cons] at hfilter
    have hmem : ∀ r ∈ p :: q :: rest, name ∈ longhands r := by
      intro r hr
      rw [← hgive] at hr
      exact List.contains_iff_mem.mp (List.mem_filter.mp hr).2
    exact absurd (hmem q (by simp)) (hfilter.1 q (by simp) name (hmem p (by simp)))

theorem lookup_expand_eq_none (name : String) {p : String × String}
    (h : (longhands p).contains name = false) :
    List.lookup name (Shorthand.expand p.1 p.2).reverse = none := by
  rw [Option.eq_none_iff_forall_ne_some]
  intro value hvalue
  have hmem := List.mem_reverse.mp (Entries.mem_of_lookup_eq_some hvalue)
  have hname : name ∈ longhands p := List.mem_map_of_mem (f := Prod.fst) hmem
  rw [List.contains_iff_mem.mpr hname] at h
  cases h

/-- The last of the declarations that give a longhand decides what it is. -/
theorem get?_expand_of_last {front back : List (String × String)} {p : String × String}
    (hm : m.props = front ++ p :: back) {name value : String}
    (hp : List.lookup name (Shorthand.expand p.1 p.2).reverse = some value)
    (hback : ∀ q ∈ back, name ∉ longhands q) : m.expand.get? name = some value := by
  have hnone : List.lookup name
      (back.flatMap fun q => Shorthand.expand q.1 q.2).reverse = none := by
    rw [Option.eq_none_iff_forall_ne_some]
    intro v hv
    have hmem := List.mem_reverse.mp (Entries.mem_of_lookup_eq_some hv)
    obtain ⟨q, hq, hgives⟩ := List.mem_flatMap.mp hmem
    exact hback q hq (List.mem_map_of_mem (f := Prod.fst) hgives)
  rw [expand, get?_withProps, hm, List.flatMap_append, List.flatMap_cons, List.reverse_append,
    List.reverse_append, List.lookup_append, List.lookup_append, hnone, Option.none_or, hp,
    Option.some_or]

/-- **Independent declarations say the same in any order.** -/
theorem get?_expand_of_perm (h : m.IsIndependent) (hperm : m.props.Perm n.props) :
    m.expand.get? = n.expand.get? := by
  funext name
  have hgive : (m.props.filter fun p => (longhands p).contains name) =
      n.props.filter fun p => (longhands p).contains name := by
    have hfilter := hperm.filter fun p => (longhands p).contains name
    have hlength := h.length_filter_le name
    rcases hm : m.props.filter fun p => (longhands p).contains name with _ | ⟨p, _ | ⟨q, rest⟩⟩
    · rw [hm] at hfilter
      exact hfilter.nil_eq
    · rw [hm] at hfilter
      exact hfilter.singleton_eq
    · rw [hm] at hlength
      simp at hlength
  rw [expand, expand, get?_withProps, get?_withProps,
    lookup_reverse_flatMap_filter fun p _ => lookup_expand_eq_none name, hgive,
    ← lookup_reverse_flatMap_filter fun p _ => lookup_expand_eq_none name]

/-! ### What the categories ask for -/

theorem textOf_congr (hget : m.get? = n.get?) : m.textOf = n.textOf := by
  funext property
  rw [textOf, textOf, hget]

theorem textsOf_congr (hget : m.get? = n.get?) : m.textsOf = n.textsOf := by
  funext table
  rw [textsOf, textsOf, textOf_congr hget]

theorem pixelsOf_congr (hget : m.get? = n.get?) : m.pixelsOf = n.pixelsOf := by
  funext base property
  rw [pixelsOf, pixelsOf, hget]

theorem shadowDraft_congr (hget : m.get? = n.get?) : m.shadowDraft = n.shadowDraft := by
  funext name parts
  rw [shadowDraft, shadowDraft, hget]

theorem borderWidths_congr (hget : m.get? = n.get?) (base : Int) :
    borderWidths base m = borderWidths base n := by
  rw [borderWidths, borderWidths, hget]

theorem borderRadii_congr (hget : m.get? = n.get?) (base : Int) :
    borderRadii base m = borderRadii base n := by
  rw [borderRadii, borderRadii, pixelsOf_congr hget, textOf_congr hget]

/-- A category asks for the values of properties and of custom properties only. -/
theorem category_congr (hget : m.get? = n.get?) (hcustom : m.custom? = n.custom?) (base : Int) :
    ∀ category ∈ categories, category base m = category base n := by
  unfold categories
  simp only [List.forall_mem_cons, List.not_mem_nil, false_imp_iff, implies_true, and_true]
  refine ⟨?_, ?_, ?_, ?_, ?_, ?_, ?_, ?_, ?_, ?_, ?_⟩
  · rw [background, background, hget, hcustom, textsOf_congr hget]
  · rw [spacing, spacing, pixelsOf_congr hget]
  · rw [border, border, borderWidths_congr hget, borderRadii_congr hget, textOf_congr hget]
  · rw [boxShadow, boxShadow, shadowDraft_congr hget]
  · rw [typography, typography, hget, pixelsOf_congr hget, textsOf_congr hget,
      shadowDraft_congr hget]
  · rw [transformation, transformation, hget, textOf_congr hget]
  · rw [filters, filters, hget]
  · rw [sizing, sizing, hget, textsOf_congr hget]
  · rw [positioning, positioning, hget]
  · rw [animation, animation, hcustom, textOf_congr hget]
  · rw [appearance, appearance, hget, textsOf_congr hget]

theorem toAttributes_congr (hget : m.expand.get? = n.expand.get?)
    (hcustom : m.expand.custom? = n.expand.custom?) (base : Int) (suffix : String) :
    m.toAttributes base suffix = n.toAttributes base suffix := by
  have hcategories : categories.map (fun category => category base m.expand) =
      categories.map fun category => category base n.expand :=
    List.map_congr_left (category_congr hget hcustom base)
  have hmerge (m : StyleMap) :
      categories.foldl (fun attrs category => attrs.merge (category base m)) KeyMap.empty =
        (categories.map fun category => category base m).foldl KeyMap.merge KeyMap.empty :=
    (List.foldl_map ..).symm
  rw [toAttributes, toAttributes, hmerge, hmerge, hcategories]

/-! ### The conversion -/

/-- **The order of independent declarations does not matter.**  Style maps with the same custom
properties and the same declarations in any order give the same attributes, if no longhand comes
from two declarations. -/
theorem toAttributes_of_perm (hcustom : m.custom = n.custom) (hperm : m.props.Perm n.props)
    (h : m.IsIndependent) (base : Int) (suffix : String) :
    m.toAttributes base suffix = n.toAttributes base suffix := by
  refine toAttributes_congr (get?_expand_of_perm h hperm) ?_ base suffix
  funext name
  rw [custom?, custom?, expand, expand, withProps_eq, withProps_eq, hcustom]

/-- A shorthand between two longhands of other properties. -/
def mixed : StyleMap :=
  ⟨[("color", "red"), ("margin", "1px 2px"), ("padding-left", "3px"), ("Border", "1px solid")],
    .ofList [("animation", "fade")]⟩

/-- The same declarations backwards. -/
def mixedBackwards : StyleMap := ⟨mixed.props.reverse, mixed.custom⟩

theorem toAttributes_of_perm_mixed :
    mixed.custom = mixedBackwards.custom ∧ mixed.props.Perm mixedBackwards.props ∧
      mixed.IsIndependent ∧
      mixed.toAttributes 16 phoneSuffix = mixedBackwards.toAttributes 16 phoneSuffix := by
  have hcustom : mixed.custom = mixedBackwards.custom := rfl
  have hperm : mixed.props.Perm mixedBackwards.props := (List.reverse_perm _).symm
  have hindependent : mixed.IsIndependent := by decide
  exact ⟨hcustom, hperm, hindependent,
    toAttributes_of_perm hcustom hperm hindependent 16 phoneSuffix⟩

end PageModules.StyleMap
