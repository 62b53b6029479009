import PageModules.Proofs.Component.WithoutVariants
import PageModules.Proofs.Mapping.WithoutVariants
import PageModules.Proofs.Walk.Likeness

/-!
# Pages without the variants of styles

The style texts for tablets, phones and hovering reach a page through the keys with the suffix of a
variant, and through markup that is copied.  Nothing else is read of them: the plan of an element is
like that of the element without them, step by step of the walk (`Plan.strips_step`).  So documents
that differ in these style texts only give pages with the same modules in the same places, and the
same keys apart from those with a suffix (`Conversion.alike_of_withoutVariants_eq`).
-/

namespace PageModules

/-! ### Attributes of an element -/

namespace Element

/-- The same keys, apart from those with the suffix of a variant. -/
def plainKeysAccord : Accord where
  keys k := ∀ variant ∈ styleVariants, ∀ k', k ≠ k' ++ variant.2
  values _ := False

variable (e : Element) (base : ℤ) {a b : Attributes}

theorem agree_plainKeys (h : a.Agree .sameKeys b) : a.Agree plainKeysAccord b :=
  h.mono (fun _ _ => trivial) fun _ => False.elim

/-- Finishing adds variants, all of whose keys have a suffix, and overrides, which are the same. -/
theorem agree_finish_withoutVariants (h : a.Agree .sameKeys b) :
    (e.finish base a).Agree plainKeysAccord (e.withoutVariants.finish base b) := by
  have hvariants : (e.variantAttributes base).Agree plainKeysAccord
      (e.withoutVariants.variantAttributes base) := by
    intro k
    refine ⟨fun hk => ?_, False.elim⟩
    have hnone (e : Element) : (e.variantAttributes base).find? k = none := by
      rw [Option.eq_none_iff_forall_ne_some]
      intro v hv
      exact e.not_variantGives base hk v ((e.find?_variantAttributes_eq_some_iff base k v).mp hv)
    rw [hnone, hnone]
  unfold finish
  rw [overrides_withoutVariants]
  exact (((agree_plainKeys h).merge hvariants).merge (.refl _ _)).filter
    fun key => !transientKeys.contains key

theorem agree_withDivision_withoutVariants (h : a.Agree .sameKeys b) (columns : ℕ) :
    (e.withDivision columns a).Agree .sameKeys (e.withoutVariants.withDivision columns b) :=
  h.insert ⟨fun _ => rfl, False.elim⟩

@[simp] theorem rowLayout_withoutVariants : e.withoutVariants.rowLayout = e.rowLayout := by
  rw [rowLayout, rowLayout, columnGap?_withoutVariants, verticalAlign?_withoutVariants]

/-- The values that fill an item are set under the same keys. -/
theorem presence_itemDraft_withoutVariants (type : ModuleType) (titleKey : String) :
    AttributeDraft.presence (e.itemDraft type titleKey) =
      AttributeDraft.presence (e.withoutVariants.itemDraft type titleKey) := by
  have hparts : e.withoutVariants.itemParts? type =
      (e.itemParts? type).map (Prod.map withoutVariants withoutVariants) := by
    unfold itemParts?
    split
    · exact e.headerAndContent?_withoutVariants _ _
    · exact e.accordionParts?_withoutVariants
  rw [itemDraft, itemDraft, hparts, AttributeDraft.presence_append,
    AttributeDraft.presence_append, hasAnyClass_withoutVariants]
  congr 1
  cases e.itemParts? type with
  | none =>
    rw [Option.map_none]
    dsimp only
    split <;> rfl
  | some parts => simp [AttributeDraft.presence]

theorem agree_fillItem_withoutVariants (type : ModuleType) :
    (e.fillItem type (e.fields type)).Agree .sameKeys
      (e.withoutVariants.fillItem type (e.withoutVariants.fields type)) := by
  have hfields := e.agree_fields type
  unfold fillItem
  cases titleKey? type with
  | none => exact hfields
  | some key => exact (Attributes.Agree.ofDraft
      (.of_presence (e.presence_itemDraft_withoutVariants type key))).merge hfields

end Element

/-! ### Origins -/

namespace Origin

open Element (plainKeysAccord)

variable (base : ℤ) (e : Element)

theorem alike_refl (o : Origin) : o.Alike plainKeysAccord base base o :=
  ⟨rfl, rfl, fun _ => .refl _ _⟩

theorem alike_typed (type : ModuleType) :
    (typed e type).Alike plainKeysAccord base base (typed e.withoutVariants type) := by
  refine ⟨rfl, rfl, fun inside => e.agree_finish_withoutVariants base ?_⟩
  have hattrs := (e.agree_fields type).merge (.refl _ (e.styleAttributes base))
  unfold typedAttributes
  rw [Element.styleAttributes_withoutVariants, Element.rowLayout_withoutVariants]
  dsimp only
  split
  · exact e.agree_withDivision_withoutVariants (hattrs.merge (.refl _ _)) inside
  · exact hattrs

theorem alike_item (type : ModuleType) :
    (item e type).Alike plainKeysAccord base base (item e.withoutVariants type) := by
  refine ⟨rfl, rfl, fun inside => e.agree_finish_withoutVariants base ?_⟩
  rw [Element.styleAttributes_withoutVariants]
  exact (e.agree_fillItem_withoutVariants type).merge (.refl _ _)

theorem alike_recognized {r r' : Recognition} (h : r.Alike r') :
    (recognized e r).Alike plainKeysAccord base base (recognized e.withoutVariants r') := by
  refine ⟨congrArg some h.type_eq, rfl, fun inside => e.agree_finish_withoutVariants base ?_⟩
  rw [Element.styleAttributes_withoutVariants]
  exact h.component.attrs.merge (.refl _ _)

theorem alike_componentItem {i i' : ComponentItem}
    (h : i.type = i'.type ∧ i.attrs.Agree .sameKeys i'.attrs) :
    (componentItem i).Alike plainKeysAccord base base (componentItem i') :=
  ⟨congrArg some h.1, rfl, fun _ => Element.agree_plainKeys h.2⟩

theorem alike_text : (text e).Alike plainKeysAccord base base (text e.withoutVariants) := by
  refine ⟨rfl, rfl, fun inside => e.agree_finish_withoutVariants base ?_⟩
  rw [Element.styleAttributes_withoutVariants]
  exact .merge (.ofDraft (.of_presence rfl)) (.refl _ _)

theorem alike_ownText :
    (ownText e).Alike plainKeysAccord base base (ownText e.withoutVariants) :=
  ⟨rfl, rfl, fun _ => Element.agree_plainKeys (.ofDraft (.of_presence rfl))⟩

theorem alike_shapedSection :
    (shapedSection e).Alike plainKeysAccord base base (shapedSection e.withoutVariants) := by
  refine ⟨rfl, rfl, fun inside => e.agree_finish_withoutVariants base ?_⟩
  rw [Element.styleAttributes_withoutVariants]
  refine .merge (.refl _ _) (.ofDraft (.of_presence ?_))
  simp [AttributeDraft.presence, sectionSettings]

theorem alike_shapedRow :
    (shapedRow e).Alike plainKeysAccord base base (shapedRow e.withoutVariants) := by
  refine ⟨rfl, rfl, fun inside => e.agree_finish_withoutVariants base ?_⟩
  rw [Element.styleAttributes_withoutVariants, Element.rowLayout_withoutVariants]
  exact e.agree_withDivision_withoutVariants (.refl _ _) inside

theorem alike_shapedColumn :
    (shapedColumn e).Alike plainKeysAccord base base (shapedColumn e.withoutVariants) := by
  refine ⟨rfl, rfl, fun inside => e.agree_finish_withoutVariants base ?_⟩
  rw [Element.styleAttributes_withoutVariants]
  exact .refl _ _

theorem alike_wrapper :
    (wrapper e).Alike plainKeysAccord base base (wrapper e.withoutVariants) := by
  refine ⟨rfl, rfl, fun inside => ?_⟩
  rw [attributes, attributes, Element.styleAttributes_withoutVariants]
  exact .refl _ _

end Origin

/-! ### Groups and recognitions -/

namespace Element

theorem runs_isRowLike_withoutVariants (es : List Element) :
    Run.runs (·.isRowLike) (es.map withoutVariants) =
      (Run.runs (·.isRowLike) es).map (Run.map withoutVariants) := by
  rw [Run.runs_map]
  simp only [Function.comp_def, isRowLike_withoutVariants]

theorem contentChildren_withoutVariants_eq_nil_iff (e : Element) :
    e.withoutVariants.contentChildren = [] ↔ e.contentChildren = [] := by
  rw [contentChildren_withoutVariants, List.map_eq_nil_iff]

theorem columnRuns_withoutVariants (e : Element) :
    e.withoutVariants.columnRuns = e.columnRuns.map (Run.map withoutVariants) := by
  rw [columnRuns, contentChildren_withoutVariants, Run.runs_map]
  simp only [Function.comp_def, isColumnLike_withoutVariants, columnRuns]

theorem columnRuns_withoutVariants_eq_nil_iff (e : Element) :
    e.withoutVariants.columnRuns = [] ↔ e.columnRuns = [] := by
  rw [columnRuns_withoutVariants, List.map_eq_nil_iff]

theorem columnGroups_withoutVariants (e : Element) :
    e.withoutVariants.columnGroups = e.columnGroups := by
  rw [← length_columnRuns, columnRuns_withoutVariants, List.length_map, length_columnRuns]

end Element

namespace Plan

open Element (plainKeysAccord)

theorem noteRows_loose {es : List Element} {rest : List (Run Element)}
    (h : ∀ e rest', rest = .single e :: rest' → False) :
    noteRows (.loose es :: rest) = ([], .loose es) :: noteRows rest := by
  rw [noteRows]
  exact h

theorem noteRows_withoutVariants (groups : List (Run Element)) :
    noteRows (groups.map (Run.map Element.withoutVariants)) =
      (noteRows groups).map (Prod.map id (Run.map Element.withoutVariants)) := by
  induction groups using noteRows.induct with
  | case1 => rfl
  | case2 es e rest ih =>
    rw [List.map_cons, List.map_cons, Run.map, Run.map, noteRows, ih, noteRows]
    rfl
  | case3 e rest ih =>
    rw [List.map_cons, Run.map, noteRows, ih, noteRows]
    rfl
  | case4 es rest hne ih =>
    have hne' : ∀ e' rest', rest.map (Run.map Element.withoutVariants) = .single e' :: rest' →
        False := by
      intro e' rest' h
      cases rest with
      | nil => cases h
      | cons g groups =>
        cases g with
        | single e => exact hne e groups rfl
        | loose es' => cases h
    rw [List.map_cons, Run.map, noteRows_loose hne', ih, noteRows_loose hne]
    rfl

variable (base : ℤ) (threshold : ℕ)

/-- Plans whose modules have the same keys, apart from those with the suffix of a variant. -/
abbrev SameKeys (base : ℤ) : Plan → Plan → Prop := Plan.Alike plainKeysAccord base base

/-- A recognition is accepted just if it is without the variants. -/
theorem rel_accepted? (threshold : ℕ) (e : Element) :
    Option.Rel Recognition.Alike (accepted? threshold e)
      (accepted? threshold e.withoutVariants) := by
  have hfilter {r r' : Option Recognition} (h : Option.Rel Recognition.Alike r r') :
      Option.Rel Recognition.Alike (r.filter fun r => threshold < r.confidence)
        (r'.filter fun r => threshold < r.confidence) := by
    cases h with
    | none => exact .none
    | some h =>
      rw [Option.filter_some, Option.filter_some, h.confidence_eq]
      split
      · exact .some h
      · exact .none
  rw [accepted?, accepted?, Element.marker?_withoutVariants]
  split
  · exact .none
  · exact hfilter e.alike_recognize?

/-! ### The walk -/

/-- A task, and the one that reads the same elements without the variants.  The notes may differ, as
no module has any of them. -/
inductive Task.Strips (base : ℤ) : Task → Task → Prop where
  | marked (e : Element) : Task.Strips base (.marked e) (.marked e.withoutVariants)
  | top (e : Element) : Task.Strips base (.top e) (.top e.withoutVariants)
  | rows (es : List Element) : Task.Strips base (.rows es) (.rows (es.map Element.withoutVariants))
  | rowGroup (notes notes' : List Note) (g : Run Element) :
    Task.Strips base (.rowGroup notes g) (.rowGroup notes' (g.map Element.withoutVariants))
  | row (notes notes' : List Note) (e : Element) :
    Task.Strips base (.row notes e) (.row notes' e.withoutVariants)
  | looseRow (notes notes' : List Note) (es : List Element) :
    Task.Strips base (.looseRow notes es) (.looseRow notes' (es.map Element.withoutVariants))
  | columns (e : Element) : Task.Strips base (.columns e) (.columns e.withoutVariants)
  | columnGroup (g : Run Element) :
    Task.Strips base (.columnGroup g) (.columnGroup (g.map Element.withoutVariants))
  | column (e : Element) : Task.Strips base (.column e) (.column e.withoutVariants)
  | looseColumn (notes notes' : List Note) (groups : List (Run Element)) :
    Task.Strips base (.looseColumn notes groups)
      (.looseColumn notes' (groups.map (Run.map Element.withoutVariants)))
  | groupContent (g : Run Element) :
    Task.Strips base (.groupContent g) (.groupContent (g.map Element.withoutVariants))
  | columnContent (e : Element) :
    Task.Strips base (.columnContent e) (.columnContent e.withoutVariants)
  | content (e : Element) : Task.Strips base (.content e) (.content e.withoutVariants)
  | typed (notes notes' : List Note) (e : Element) (type : ModuleType) :
    Task.Strips base (.typed notes e type) (.typed notes' e.withoutVariants type)
  | inside (e : Element) (type : ModuleType) :
    Task.Strips base (.inside e type) (.inside e.withoutVariants type)
  | leaf {notes notes' : List Note} {o o' : Origin} (h : o.Alike plainKeysAccord base base o') :
    Task.Strips base (.leaf notes o) (.leaf notes' o')

/-- Steps of a task and of the one that reads the same elements without the variants. -/
abbrev Step.Strips (base : ℤ) : Step → Step → Prop :=
  Step.Alike (Task.Strips base) plainKeysAccord base base

/-- What is made of the members of a list is related if it is for each of them. -/
theorem forall₂_map_map {α : Type} {R : Task → Task → Prop} {f f' : α → Task} {l : List α}
    (h : ∀ x ∈ l, R (f x) (f' x)) : List.Forall₂ R (l.map f) (l.map f') := by
  rw [List.forall₂_map_left_iff, List.forall₂_map_right_iff, List.forall₂_same]
  exact h

theorem Step.Strips.call {base : ℤ} {t t' : Task} (h : t.Strips base t') :
    (Step.calls [t]).Strips base (.calls [t']) :=
  .calls (.cons h .nil)

theorem Step.Strips.around {base : ℤ} {notes notes' : List Note} {o o' : Origin} {t t' : Task}
    (ho : o.Alike plainKeysAccord base base o') (h : t.Strips base t') :
    (Step.node notes o [t]).Strips base (.node notes' o' [t']) :=
  .node ho (.cons h .nil)

theorem strips_step_marked (e : Element) :
    ((Task.marked e).step threshold).Strips base
      ((Task.marked e.withoutVariants).step threshold) := by
  rw [Task.step, Task.step, Element.type?_withoutVariants]
  cases e.type? with
  | some type => exact .call (.typed _ _ e type)
  | none =>
    refine .node (Origin.alike_wrapper base e) ?_
    rw [Element.contentChildren_withoutVariants, List.map_map]
    exact forall₂_map_map fun c _ => .marked c

theorem strips_step_rows (es : List Element) :
    ((Task.rows es).step threshold).Strips base
      ((Task.rows (es.map Element.withoutVariants)).step threshold) := by
  rw [Task.step, Task.step]
  simp only [List.map_eq_nil_iff]
  split
  · exact .call (.looseRow _ _ [])
  · rw [Element.runs_isRowLike_withoutVariants, noteRows_withoutVariants, List.map_map]
    exact .calls (forall₂_map_map fun p _ => .rowGroup _ _ p.2)

theorem strips_step_columns (e : Element) :
    ((Task.columns e).step threshold).Strips base
      ((Task.columns e.withoutVariants).step threshold) := by
  rw [Task.step, Task.step]
  simp only [Element.columnRuns_withoutVariants_eq_nil_iff, Element.columnGroups_withoutVariants]
  split
  · exact .call (.looseColumn _ _ [])
  · rw [Element.columnRuns_withoutVariants]
    split
    · rw [List.map_map]
      exact .calls (forall₂_map_map fun g _ => .columnGroup g)
    · rw [← List.map_take, ← List.map_drop, List.map_map]
      exact .calls (List.rel_append (forall₂_map_map fun g _ => .columnGroup g)
        (.cons (.looseColumn _ _ _) .nil))

theorem strips_step_columnContent (e : Element) :
    ((Task.columnContent e).step threshold).Strips base
      ((Task.columnContent e.withoutVariants).step threshold) := by
  rw [Task.step, Task.step, Element.hasSignificantContent_withoutVariants]
  simp only [Element.contentChildren_withoutVariants_eq_nil_iff]
  split
  · split
    · exact .call (.leaf (Origin.alike_ownText base e))
    · exact .calls .nil
  · rw [Element.contentChildren_withoutVariants, List.map_map]
    exact .calls (forall₂_map_map fun c _ => .content c)

theorem strips_step_content (e : Element) :
    ((Task.content e).step threshold).Strips base
      ((Task.content e.withoutVariants).step threshold) := by
  have haccepted := rel_accepted? threshold e
  rw [Task.step, Task.step, Element.markedType?_withoutVariants,
    Element.likelyType?_withoutVariants, Element.text_withoutVariants]
  cases e.markedType? with
  | some type => exact .call (.typed _ _ e type)
  | none =>
    dsimp only
    generalize accepted? threshold e = r at haccepted ⊢
    generalize accepted? threshold e.withoutVariants = r' at haccepted ⊢
    cases haccepted with
    | some halike =>
      refine .node (Origin.alike_recognized base e halike) ?_
      rw [List.forall₂_map_left_iff, List.forall₂_map_right_iff]
      exact halike.component.items.imp fun i i' hi => .leaf (Origin.alike_componentItem base hi)
    | none =>
      dsimp only
      cases e.likelyType? with
      | some type => exact .call (.typed _ _ e type)
      | none =>
        refine .node ?_ .nil
        split
        · exact Origin.alike_refl base _
        · exact Origin.alike_text base e

theorem strips_step_inside (e : Element) (type : ModuleType) :
    ((Task.inside e type).step threshold).Strips base
      ((Task.inside e.withoutVariants type).step threshold) := by
  rw [Task.step, Task.step]
  cases type.child? with
  | some child =>
    have hlinked : isLinked child ∘ Element.withoutVariants = isLinked child := by
      funext c
      rw [Function.comp_apply, isLinked, isLinked, Element.marker?_withoutVariants]
    dsimp only
    rw [Element.contentChildren_withoutVariants, List.filter_map, hlinked, List.map_map]
    exact .calls (forall₂_map_map fun c _ => .leaf (Origin.alike_item base c child))
  | none =>
    cases type with
    | pageSection =>
      refine .call ?_
      rw [Element.contentChildren_withoutVariants]
      exact .rows _
    | row => exact .call (.columns e)
    | column => exact .call (.columnContent e)
    | _ => exact .calls .nil

/-- Step by step the walk reads an element as it reads the one without the variants. -/
theorem strips_step {t t' : Task} (h : t.Strips base t') :
    (t.step threshold).Strips base (t'.step threshold) := by
  cases h with
  | marked e => exact strips_step_marked base threshold e
  | top e =>
    rw [Task.step, Task.step, Element.isSectionLike_withoutVariants]
    split
    · rw [Element.contentChildren_withoutVariants]
      exact .around (Origin.alike_shapedSection base e) (.rows _)
    · exact .around (Origin.alike_refl base _) (.rows [e])
  | rows es => exact strips_step_rows base threshold es
  | rowGroup notes notes' g =>
    cases g with
    | single e => exact .call (.row _ _ e)
    | loose es => exact .call (.looseRow _ _ es)
  | row notes notes' e =>
    rw [Task.step, Task.step, Element.markedType?_withoutVariants]
    cases e.markedType? with
    | some type => exact .call (.typed _ _ e type)
    | none => exact .around (Origin.alike_shapedRow base e) (.columns e)
  | looseRow notes notes' es =>
    exact .around (Origin.alike_refl base _) (.looseColumn _ _ [.loose es])
  | columns e => exact strips_step_columns base threshold e
  | columnGroup g =>
    cases g with
    | single e => exact .call (.column e)
    | loose es => exact .call (.looseColumn _ _ [.loose es])
  | column e =>
    rw [Task.step, Task.step, Element.markedType?_withoutVariants]
    cases e.markedType? with
    | some type => exact .call (.typed _ _ e type)
    | none => exact .around (Origin.alike_shapedColumn base e) (.columnContent e)
  | looseColumn notes notes' groups =>
    refine .node (Origin.alike_refl base _) ?_
    rw [List.map_map]
    exact forall₂_map_map fun g _ => .groupContent g
  | groupContent g =>
    cases g with
    | single e => exact .call (.columnContent e)
    | loose es =>
      refine .calls ?_
      rw [List.map_map]
      exact forall₂_map_map fun e _ => .content e
  | columnContent e => exact strips_step_columnContent base threshold e
  | content e => exact strips_step_content base threshold e
  | typed notes notes' e type => exact .around (Origin.alike_typed base e type) (.inside e type)
  | inside e type => exact strips_step_inside base threshold e type
  | leaf ho => exact .node ho .nil

/-- The plans of an element are like those of the one without the variants. -/
theorem forall₂_plans_of_strips {t t' : Task} (h : t.Strips base t') :
    List.Forall₂ (SameKeys base) (t.plans threshold) (t'.plans threshold) :=
  Task.forall₂_alike_plans (fun _ _ ht => strips_step base threshold ht) h

/-- Both ways of reading give plans like those without the variants. -/
theorem forall₂_plansOf (mode : WalkMode) (body : Element) :
    List.Forall₂ (SameKeys base) (Conversion.plansOf mode threshold body)
      (Conversion.plansOf mode threshold body.withoutVariants) := by
  have hone {f : Element → Plan}
      (h : ∀ e, List.Forall₂ (SameKeys base) [f e] [f e.withoutVariants]) :
      List.Forall₂ (SameKeys base) (body.contentChildren.map f)
        (body.withoutVariants.contentChildren.map f) := by
    rw [Element.contentChildren_withoutVariants, List.map_map, List.forall₂_map_left_iff,
      List.forall₂_map_right_iff, List.forall₂_same]
    exact fun e _ => (List.forall₂_cons.mp (h e)).1
  cases mode with
  | generic => exact hone fun e => forall₂_plans_of_strips base threshold (.top e)
  | annotated => exact hone fun e => forall₂_plans_of_strips base threshold (.marked e)

end Plan

/-! ### Conversions -/

/-- A paragraph with a style for hovering. -/
def Element.hovered (style : String) : Element :=
  ⟨⟨.html, "p", [⟨.none, hoverStyleName, style⟩]⟩, [.text "one"]⟩

/-- Documents whose trees are the same without the variants have the same body without them. -/
theorem Document.body?_map_withoutVariants {d d' : Document}
    (h : d.root.withoutVariants = d'.root.withoutVariants) :
    d.body?.map Element.withoutVariants = d'.body?.map Element.withoutVariants := by
  have hbody (d : Document) : d.body?.map Element.withoutVariants =
      d.root.withoutVariants.elements.find? fun e => e.isNamed "body" := by
    rw [Node.elements_withoutVariants, List.find?_map]
    rfl
  rw [hbody, hbody, h]

namespace Conversion

open Element (plainKeysAccord)

/-- **The variants of styles classify nothing**: documents whose trees are the same without the
style texts for tablets, phones and hovering give, read in the same way with the same options, pages
with modules of the same types and numbers in the same places, and each has the same keys, apart
from those with the suffix of a variant. -/
theorem alike_of_withoutVariants_eq (options : ConversionOptions) (mode : WalkMode)
    {d d' : Document} (h : d.root.withoutVariants = d'.root.withoutVariants)
    (token token' : String) :
    ((ofDocument options mode d).outcome token).Alike plainKeysAccord
      ((ofDocument options mode d').outcome token') := by
  have hbody := Document.body?_map_withoutVariants h
  apply alike_outcome
  cases hd : d.body? with
  | none =>
    rw [hd, Option.map_none, eq_comm, Option.map_eq_none_iff] at hbody
    rw [hbody]
    exact .none
  | some body =>
    rw [hd, Option.map_some, eq_comm, Option.map_eq_some_iff] at hbody
    obtain ⟨body', hd', heq⟩ := hbody
    rw [hd']
    have hplans := Plan.forall₂_plansOf options.baseFontSize options.threshold mode
    have hplans' := hplans body'
    rw [heq] at hplans'
    exact .some (Plan.forall₂_alike_of_common _ _ _ (hplans body) hplans')

/-- A paragraph that turns red and one that grows under the pointer. -/
theorem alike_of_withoutVariants_eq_hovered :
    ((Element.hovered "color: red").variantAttributes 16).contains "text_color__hover" = true ∧
      ((Element.hovered "font-size: 2em").variantAttributes 16).contains "text_color__hover" =
        false ∧
      (Document.ofBody [.hovered "color: red"]).root.withoutVariants =
        (Document.ofBody [.hovered "font-size: 2em"]).root.withoutVariants ∧
      ((ofDocument {} .generic (.ofBody [.hovered "color: red"])).outcome "0123456789abc").Alike
        plainKeysAccord
        ((ofDocument {} .generic (.ofBody [.hovered "font-size: 2em"])).outcome
          "0123456789abc") := by
  have hroot : (Document.ofBody [.hovered "color: red"]).root.withoutVariants =
      (Document.ofBody [.hovered "font-size: 2em"]).root.withoutVariants := rfl
  exact ⟨by decide +kernel, by decide +kernel, hroot,
    alike_of_withoutVariants_eq {} .generic hroot _ _⟩

end Conversion

end PageModules
