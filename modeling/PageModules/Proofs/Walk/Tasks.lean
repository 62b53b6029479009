import PageModules.Proofs.Walk.Plans

/-!
# The walk in steps

The functions that make plans call each other in many ways.  A `Task` is a call of one of them, and
`Task.step` says what it comes to: the plans of other tasks, or a node around those.  The plans of a
task are those of its step (`Task.plans_step`).  Steps lead to the children of an element in the end
(`Task.descends_of_mem_step`), so what is to hold of all that the walk makes need only be looked at
for one step:

* `Task.induction` proves of every task what holds of it once it holds of the tasks of its step;
* `Task.forall_mem_parts` proves of all parts of a plan what each step proves of its own node.
-/

namespace PageModules.Plan

/-! ### Tasks and steps -/

/-- A call of one of the functions that make plans. -/
inductive Task where
  /-- An element that is read by its marker. -/
  | marked (e : Element)
  /-- An element in the body. -/
  | top (e : Element)
  /-- Elements that are divided into rows. -/
  | rows (es : List Element)
  /-- A row, or loose elements between rows. -/
  | rowGroup (notes : List Note) (g : Run Element)
  /-- An element that looks like a row. -/
  | row (notes : List Note) (e : Element)
  /-- A row around loose elements. -/
  | looseRow (notes : List Note) (es : List Element)
  /-- The children of a row. -/
  | columns (e : Element)
  /-- A column, or loose elements between columns. -/
  | columnGroup (g : Run Element)
  /-- An element that looks like a column. -/
  | column (e : Element)
  /-- A column around the contents of groups. -/
  | looseColumn (notes : List Note) (groups : List (Run Element))
  /-- What stands in a column, or loose elements between columns. -/
  | groupContent (g : Run Element)
  /-- The children of a column. -/
  | columnContent (e : Element)
  /-- An element in a column. -/
  | content (e : Element)
  /-- An element of a known type. -/
  | typed (notes : List Note) (e : Element) (type : ModuleType)
  /-- The children of an element of a known type. -/
  | inside (e : Element) (type : ModuleType)
  /-- A plan without others inside. -/
  | leaf (notes : List Note) (origin : Origin)

/-- What a task comes to. -/
inductive Step where
  /-- The plans of other tasks. -/
  | calls (tasks : List Task)
  /-- A node around the plans of other tasks. -/
  | node (notes : List Note) (origin : Origin) (tasks : List Task)

/-- The tasks that a step leads to. -/
def Step.tasks : Step → List Task
  | calls tasks => tasks
  | node _ _ tasks => tasks

namespace Task

variable (threshold : Nat)

/-- What the children of a section, of a row or of a column come to; other modules hold none. -/
def frameStep (e : Element) : ModuleType → Step
  | .pageSection => .calls [rows e.contentChildren]
  | .row => .calls [columns e]
  | .column => .calls [columnContent e]
  | _ => .calls []

/-- What a task comes to. -/
@[simp]
def step : Task → Step
  | marked e =>
    let notes := if e.markedType?.isSome then [] else [mappingNote e]
    match e.type? with
    | some type => .calls [typed notes e type]
    | none => .node notes (.wrapper e) (e.contentChildren.map marked)
  | top e =>
    if e.isSectionLike then .node [] (.shapedSection e) [rows e.contentChildren]
    else .node [] .looseSection [rows [e]]
  | rows es =>
    if es = [] then .calls [looseRow [] []]
    else .calls ((noteRows (Run.runs (·.isRowLike) es)).map fun p => rowGroup p.1 p.2)
  | rowGroup notes (.single e) => .calls [row notes e]
  | rowGroup notes (.loose es) => .calls [looseRow notes es]
  | row notes e =>
    match e.markedType? with
    | some type => .calls [typed notes e type]
    | none => .node (notes ++ columnNotes e) (.shapedRow e) [columns e]
  | looseRow notes es => .node notes .looseRow [looseColumn [] [.loose es]]
  | columns e =>
    if e.columnRuns = [] then .calls [looseColumn [] []]
    else if e.columnGroups ≤ Layout.maxColumns then .calls (e.columnRuns.map columnGroup)
    else
      .calls ((e.columnRuns.take (Layout.maxColumns - 1)).map columnGroup ++
        [looseColumn [.folded (e.columnGroups - (Layout.maxColumns - 1))]
          (e.columnRuns.drop (Layout.maxColumns - 1))])
  | columnGroup (.single e) => .calls [column e]
  | columnGroup (.loose es) => .calls [looseColumn [] [.loose es]]
  | column e =>
    match e.markedType? with
    | some type => .calls [typed [] e type]
    | none => .node [] (.shapedColumn e) [columnContent e]
  | looseColumn notes groups => .node notes .looseColumn (groups.map groupContent)
  | groupContent (.single e) => .calls [columnContent e]
  | groupContent (.loose es) => .calls (es.map content)
  | columnContent e =>
    if e.contentChildren = [] then
      .calls (if e.hasSignificantContent then [leaf [] (.ownText e)] else [])
    else .calls (e.contentChildren.map content)
  | content e =>
    match e.markedType? with
    | some type => .calls [typed [] e type]
    | none =>
      match accepted? threshold e with
      | some r =>
        .node (recognitionNotes e ++ [.accepted r.type r.confidence]) (.recognized e r)
          (r.component.items.map fun i => leaf [] (.componentItem i))
      | none =>
        let notes := recognitionNotes e ++ [mappingNote e]
        match e.likelyType? with
        | some type => .calls [typed notes e type]
        | none => .node notes (if e.text.isEmpty then .dropped else .text e) []
  | typed notes e type =>
    .node (notes ++ if type = .row then columnNotes e else []) (.typed e type) [inside e type]
  | inside e type =>
    match type.child? with
    | some child =>
      .calls ((e.contentChildren.filter (isLinked child)).map fun c => leaf [] (.item c child))
    | none => frameStep e type
  | leaf notes origin => .node notes origin []

/-- The plans that a task makes. -/
@[simp]
def plans : Task → List Plan
  | marked e => [ofMarked threshold e]
  | top e => [ofTopLevel threshold e]
  | rows es => Plan.rows threshold es
  | rowGroup notes g => [ofRowGroup threshold notes g]
  | row notes e => [ofRow threshold notes e]
  | looseRow notes es => [Plan.looseRow notes (es.map (ofContent threshold))]
  | columns e => Plan.columns threshold e
  | columnGroup g => [ofColumnGroup threshold g]
  | column e => [ofColumn threshold e]
  | looseColumn notes groups =>
    [Plan.looseColumn notes (groups.flatMap (Plan.groupContent threshold))]
  | groupContent g => Plan.groupContent threshold g
  | columnContent e => Plan.columnContent threshold e
  | content e => [ofContent threshold e]
  | typed notes e type => [ofTyped threshold notes e type]
  | inside e type => typedChildren threshold e type
  | leaf notes origin => [Plan.node notes origin []]

end Task

/-- The plans of a step. -/
@[simp]
def Step.plans (threshold : Nat) : Step → List Plan
  | calls tasks => tasks.flatMap (Task.plans threshold)
  | node notes origin tasks => [Plan.node notes origin (tasks.flatMap (Task.plans threshold))]

/-! ### The plans of a task -/

namespace Task

variable (threshold : Nat)

theorem flatMap_plans_map {α : Type} {f : α → Task} {g : α → Plan}
    (h : ∀ a, (f a).plans threshold = [g a]) (l : List α) :
    (l.map f).flatMap (plans threshold) = l.map g := by
  rw [List.flatMap_map, List.map_eq_flatMap]
  simp only [h]

theorem plans_step_marked (e : Element) :
    (marked e).plans threshold = ((marked e).step threshold).plans threshold := by
  rw [plans, ofMarked, step]
  cases e.type? with
  | some type => rfl
  | none =>
    dsimp only
    rw [Step.plans, flatMap_plans_map threshold fun _ => rfl]
    -- `ofMarked` takes each child with its membership, which its recursion needs.
    exact congrArg (fun l => [Plan.node _ _ l]) (List.attach_map_val (f := ofMarked threshold))

theorem plans_step_rows (es : List Element) :
    (rows es).plans threshold = ((rows es).step threshold).plans threshold := by
  rw [plans, rows_eq, step]
  split
  · rfl
  · rw [Step.plans, flatMap_plans_map threshold fun _ => rfl]

theorem plans_step_columns (e : Element) :
    (columns e).plans threshold = ((columns e).step threshold).plans threshold := by
  rw [plans, step]
  by_cases hnil : e.columnRuns = []
  · rw [if_pos hnil, columns_of_nil threshold hnil]
    rfl
  · rw [if_neg hnil]
    by_cases hle : e.columnGroups ≤ Layout.maxColumns
    · rw [if_pos hle, columns_of_le threshold hnil hle, Step.plans,
        flatMap_plans_map threshold fun _ => rfl]
    · rw [if_neg hle, columns_of_lt threshold (Nat.not_le.mp hle), Step.plans, List.flatMap_append,
        flatMap_plans_map threshold fun _ => rfl]
      rfl

theorem plans_step_columnContent (e : Element) :
    (columnContent e).plans threshold = ((columnContent e).step threshold).plans threshold := by
  rw [plans, columnContent_eq, step]
  split
  · split <;> rfl
  · rw [Step.plans, flatMap_plans_map threshold fun _ => rfl]

theorem plans_step_content (e : Element) :
    (content e).plans threshold = ((content e).step threshold).plans threshold := by
  rw [plans, step]
  cases hmark : e.markedType? with
  | some type =>
    rw [ofContent_of_markedType? threshold hmark]
    rfl
  | none =>
    dsimp only
    cases hr : accepted? threshold e with
    | some r =>
      rw [ofContent_of_accepted? hmark hr]
      dsimp only
      rw [Step.plans, flatMap_plans_map threshold fun _ => rfl]
      rfl
    | none =>
      dsimp only
      cases htype : e.likelyType? with
      | some type =>
        rw [ofContent_of_likelyType? hmark hr htype]
        rfl
      | none =>
        rw [ofContent_of_none hmark hr htype]
        split <;> rfl

theorem plans_frameStep (e : Element) {type : ModuleType} (hchild : type.child? = none) :
    (frameStep e type).plans threshold = typedChildren threshold e type := by
  cases hframe : type.isFrame with
  | false =>
    -- Outside of the frames neither side has plans.
    rw [typedChildren_of_leaf threshold hchild hframe]
    cases type <;> first | rfl | cases hframe
  | true =>
    cases type with
    | pageSection =>
      rw [typedChildren_pageSection, frameStep, Step.plans, List.flatMap_singleton, plans]
    | row => rw [typedChildren_row, frameStep, Step.plans, List.flatMap_singleton, plans]
    | column => rw [typedChildren_column, frameStep, Step.plans, List.flatMap_singleton, plans]
    | _ => cases hframe

theorem plans_step_inside (e : Element) (type : ModuleType) :
    (inside e type).plans threshold = ((inside e type).step threshold).plans threshold := by
  rw [plans, step]
  cases hchild : type.child? with
  | some child =>
    rw [typedChildren_of_child threshold hchild, linkedChildren]
    dsimp only
    rw [Step.plans, flatMap_plans_map threshold fun _ => rfl]
  | none => exact (plans_frameStep threshold e hchild).symm

/-- **The plans of a task are those of its step.** -/
theorem plans_step (t : Task) : t.plans threshold = (t.step threshold).plans threshold := by
  cases t with
  | marked e => exact plans_step_marked threshold e
  | top e =>
    rw [plans, ofTopLevel, step]
    split <;> rw [Step.plans, List.flatMap_singleton, plans]
  | rows es => exact plans_step_rows threshold es
  | rowGroup notes g =>
    cases g with
    | single e => rw [plans, ofRowGroup_single, step, Step.plans, List.flatMap_singleton, plans]
    | loose es => rw [plans, ofRowGroup_loose, step, Step.plans, List.flatMap_singleton, plans]
  | row notes e =>
    rw [plans, step]
    cases hmark : e.markedType? with
    | some type =>
      rw [ofRow_of_markedType? threshold hmark, Step.plans, List.flatMap_singleton, plans]
    | none => rw [ofRow_of_none threshold hmark, Step.plans, List.flatMap_singleton, plans]
  | looseRow notes es =>
    rw [plans, step, Step.plans, List.flatMap_singleton, plans, List.flatMap_singleton,
      groupContent_loose, Plan.looseRow]
  | columns e => exact plans_step_columns threshold e
  | columnGroup g =>
    cases g with
    | single e => rw [plans, ofColumnGroup_single, step, Step.plans, List.flatMap_singleton, plans]
    | loose es =>
      rw [plans, ofColumnGroup_loose, step, Step.plans, List.flatMap_singleton, plans,
        List.flatMap_singleton, groupContent_loose]
  | column e =>
    rw [plans, step]
    cases hmark : e.markedType? with
    | some type =>
      rw [ofColumn_of_markedType? threshold hmark, Step.plans, List.flatMap_singleton, plans]
    | none => rw [ofColumn_of_none threshold hmark, Step.plans, List.flatMap_singleton, plans]
  | looseColumn notes groups =>
    rw [plans, step, Step.plans, List.flatMap_map, Plan.looseColumn]
    rfl
  | groupContent g =>
    cases g with
    | single e => rw [plans, groupContent_single, step, Step.plans, List.flatMap_singleton, plans]
    | loose es =>
      rw [plans, groupContent_loose, step, Step.plans, flatMap_plans_map threshold fun _ => rfl]
  | columnContent e => exact plans_step_columnContent threshold e
  | content e => exact plans_step_content threshold e
  | typed notes e type => rw [plans, ofTyped, step, Step.plans, List.flatMap_singleton, plans]
  | inside e type => exact plans_step_inside threshold e type
  | leaf notes origin => rfl

/-! ### What steps lead to -/

/-- The elements that a task is about. -/
def elements : Task → List Element
  | marked e => [e]
  | top e => [e]
  | rows es => es
  | rowGroup _ g => g.members
  | row _ e => [e]
  | looseRow _ es => es
  | columns e => [e]
  | columnGroup g => g.members
  | column e => [e]
  | looseColumn _ groups => groups.flatMap Run.members
  | groupContent g => g.members
  | columnContent e => [e]
  | content e => [e]
  | typed _ e _ => [e]
  | inside e _ => [e]
  | leaf _ _ => []

/-- How many steps a task takes at most until it comes to the children of its elements. -/
def rank : Task → ℕ
  | leaf _ _ => 0
  | columns _ => 1
  | columnContent _ => 1
  | inside _ _ => 2
  | typed _ _ _ => 3
  | content _ => 4
  | row _ _ => 4
  | column _ => 4
  | groupContent _ => 5
  | looseColumn _ _ => 6
  | columnGroup _ => 7
  | looseRow _ _ => 7
  | rowGroup _ _ => 8
  | rows _ => 9
  | top _ => 10
  | marked _ => 10

/-- A task is about elements of another one and lower, or about children of one of its elements. -/
def Descends (u t : Task) : Prop :=
  (u.elements.Sublist t.elements ∧ u.rank < t.rank) ∨
    ∃ e ∈ t.elements, u.elements.Sublist e.contentChildren

theorem descends_of_mem_contentChildren {u t : Task} {e c : Element} (hu : u.elements = [c])
    (ht : t.elements = [e]) (hc : c ∈ e.contentChildren) : u.Descends t := by
  refine .inr ⟨e, ht ▸ List.mem_singleton_self e, ?_⟩
  rw [hu]
  exact List.singleton_sublist.mpr hc

theorem descends_of_elements_eq {u t : Task} (h : u.elements = t.elements)
    (hrank : u.rank < t.rank) : u.Descends t :=
  .inl ⟨h ▸ List.Sublist.refl _, hrank⟩

theorem descends_leaf {t : Task} (h : 0 < t.rank) (notes : List Note) (origin : Origin) :
    (leaf notes origin).Descends t :=
  .inl ⟨List.nil_sublist _, h⟩

theorem sublist_flatMap_members {g : Run Element} {groups : List (Run Element)} (h : g ∈ groups) :
    g.members.Sublist (groups.flatMap Run.members) := by
  have hsub := (List.singleton_sublist.mpr h).flatMap Run.members
  rwa [List.flatMap_singleton] at hsub

theorem sublist_of_mem_runs {fits : Element → Bool} {es : List Element} {g : Run Element}
    (h : g ∈ Run.runs fits es) : g.members.Sublist es := by
  have hsub := sublist_flatMap_members h
  rwa [Run.flatten_runs] at hsub

theorem descends_of_mem_frameStep (e : Element) (type : ModuleType) :
    ∀ u ∈ (frameStep e type).tasks, u.Descends (inside e type) := by
  cases type with
  | pageSection =>
    exact List.forall_mem_singleton.mpr (.inr ⟨e, List.mem_singleton_self e, List.Sublist.refl _⟩)
  | row => exact List.forall_mem_singleton.mpr (descends_of_elements_eq rfl (by simp [rank]))
  | column => exact List.forall_mem_singleton.mpr (descends_of_elements_eq rfl (by simp [rank]))
  | _ => exact List.forall_mem_nil _

theorem descends_of_mem_step_columns (e : Element) :
    ∀ u ∈ ((columns e).step threshold).tasks, u.Descends (columns e) := by
  have hruns {g : Run Element} (hg : g ∈ e.columnRuns) : (columnGroup g).Descends (columns e) :=
    .inr ⟨e, List.mem_singleton_self e, sublist_of_mem_runs hg⟩
  rw [step]
  split
  · exact List.forall_mem_singleton.mpr (.inr ⟨e, List.mem_singleton_self e, List.nil_sublist _⟩)
  · split
    · exact List.forall_mem_map.mpr fun g hg => hruns hg
    · refine List.forall_mem_append.mpr ⟨List.forall_mem_map.mpr fun g hg => ?_,
        List.forall_mem_singleton.mpr (.inr ⟨e, List.mem_singleton_self e, ?_⟩)⟩
      · exact hruns (List.mem_of_mem_take hg)
      · have hdrop := (List.drop_sublist (Layout.maxColumns - 1) e.columnRuns).flatMap Run.members
        rwa [Element.columnRuns, Run.flatten_runs] at hdrop

theorem descends_of_mem_step_content (e : Element) :
    ∀ u ∈ ((content e).step threshold).tasks, u.Descends (content e) := by
  have htyped (notes : List Note) (type : ModuleType) :
      (typed notes e type).Descends (content e) :=
    descends_of_elements_eq rfl (by simp [rank])
  rw [step]
  cases e.markedType? with
  | some type => exact List.forall_mem_singleton.mpr (htyped _ _)
  | none =>
    cases accepted? threshold e with
    | some r => exact List.forall_mem_map.mpr fun i _ => descends_leaf (by simp [rank]) _ _
    | none =>
      cases e.likelyType? with
      | some type => exact List.forall_mem_singleton.mpr (htyped _ _)
      | none => exact List.forall_mem_nil _

/-- A step leads to lower tasks about the same elements or to tasks about children. -/
theorem descends_of_mem_step (t : Task) : ∀ u ∈ (t.step threshold).tasks, u.Descends t := by
  cases t with
  | marked e =>
    rw [step]
    cases e.type? with
    | some type =>
      exact List.forall_mem_singleton.mpr (descends_of_elements_eq rfl (by simp [rank]))
    | none => exact List.forall_mem_map.mpr fun c hc => descends_of_mem_contentChildren rfl rfl hc
  | top e =>
    rw [step]
    split
    · exact List.forall_mem_singleton.mpr (.inr ⟨e, List.mem_singleton_self e, List.Sublist.refl _⟩)
    · exact List.forall_mem_singleton.mpr (descends_of_elements_eq rfl (by simp [rank]))
  | rows es =>
    rw [step]
    split
    · exact List.forall_mem_singleton.mpr (.inl ⟨List.nil_sublist _, by simp [rank]⟩)
    · refine List.forall_mem_map.mpr fun p hp => .inl ⟨?_, by simp [rank]⟩
      exact sublist_of_mem_runs (mem_of_mem_noteRows hp)
  | rowGroup notes g =>
    cases g <;> exact List.forall_mem_singleton.mpr (descends_of_elements_eq rfl (by simp [rank]))
  | row notes e =>
    rw [step]
    cases e.markedType? <;>
      exact List.forall_mem_singleton.mpr (descends_of_elements_eq rfl (by simp [rank]))
  | looseRow notes es =>
    exact List.forall_mem_singleton.mpr
      (descends_of_elements_eq (List.append_nil es) (by simp [rank]))
  | columns e => exact descends_of_mem_step_columns threshold e
  | columnGroup g =>
    cases g with
    | single e => exact List.forall_mem_singleton.mpr (descends_of_elements_eq rfl (by simp [rank]))
    | loose es =>
      exact List.forall_mem_singleton.mpr
        (descends_of_elements_eq (List.append_nil es) (by simp [rank]))
  | column e =>
    rw [step]
    cases e.markedType? <;>
      exact List.forall_mem_singleton.mpr (descends_of_elements_eq rfl (by simp [rank]))
  | looseColumn notes groups =>
    exact List.forall_mem_map.mpr fun g hg => .inl ⟨sublist_flatMap_members hg, by simp [rank]⟩
  | groupContent g =>
    cases g with
    | single e => exact List.forall_mem_singleton.mpr (descends_of_elements_eq rfl (by simp [rank]))
    | loose es =>
      exact List.forall_mem_map.mpr fun e he =>
        .inl ⟨List.singleton_sublist.mpr he, by simp [rank]⟩
  | columnContent e =>
    rw [step]
    split
    · split
      · exact List.forall_mem_singleton.mpr (descends_leaf (by simp [rank]) _ _)
      · exact List.forall_mem_nil _
    · exact List.forall_mem_map.mpr fun c hc => descends_of_mem_contentChildren rfl rfl hc
  | content e => exact descends_of_mem_step_content threshold e
  | typed notes e type =>
    exact List.forall_mem_singleton.mpr (descends_of_elements_eq rfl (by simp [rank]))
  | inside e type =>
    rw [step]
    cases type.child? with
    | some child => exact List.forall_mem_map.mpr fun c _ => descends_leaf (by simp [rank]) _ _
    | none => exact descends_of_mem_frameStep e type
  | leaf notes origin => exact List.forall_mem_nil _

/-! ### Induction -/

theorem sizeSum_le_of_sublist {es fs : List Element} (h : es.Sublist fs) :
    Element.sizeSum es ≤ Element.sizeSum fs := by
  induction h with
  | slnil => exact Nat.le_refl _
  | cons e _ ih => exact Nat.le_trans ih (Nat.le_add_left _ _)
  | cons_cons e _ ih => exact Nat.add_le_add_left ih _

/-- How far a task is from its end: first the size of its elements counts, and then the rank. -/
def distance (t : Task) : ℕ := 11 * Element.sizeSum t.elements + t.rank

theorem Descends.distance_lt {u t : Task} (h : u.Descends t) : u.distance < t.distance := by
  have hrank : u.rank ≤ 10 := by cases u <;> simp [rank]
  unfold distance
  rcases h with ⟨hsub, hlt⟩ | ⟨e, he, hsub⟩
  · have hsize := sizeSum_le_of_sublist hsub
    omega
  · have hsize := sizeSum_le_of_sublist hsub
    -- The children are smaller than their parent, which outweighs any difference of ranks.
    have hchildren := Element.sizeSum_contentChildren_lt e
    have helement := Element.size_le_sizeSum he
    omega

/-- **Induction along the walk**: what holds of a task once it holds of the tasks of its step holds
of all tasks. -/
theorem induction {P : Task → Prop} (h : ∀ t, (∀ u ∈ (t.step threshold).tasks, P u) → P t)
    (t : Task) : P t := by
  induction hn : t.distance using Nat.strong_induction_on generalizing t with
  | _ n ih =>
    subst hn
    -- The tasks of the step are nearer to their end than the task is.
    exact h t fun u hu => ih _ (descends_of_mem_step threshold t u hu).distance_lt u rfl

/-! ### Scopes -/

end Task

/-- The elements inside of an element of the scope are in the scope. -/
def IsClosed (scope : Element → Prop) : Prop := ∀ e, scope e → ∀ c ∈ e.contentChildren, scope c

namespace Task

variable {threshold : Nat}

end Task

/-! ### Parts -/

/-- A step that hands a property of tasks on, and whose node has a property of plans. -/
def Step.Keeps (threshold : Nat) (Inv : Task → Prop) (Good : Plan → Prop) : Step → Prop
  | calls tasks => ∀ u ∈ tasks, Inv u
  | node notes origin tasks =>
    (∀ u ∈ tasks, Inv u) ∧
      Good (Plan.node notes origin (tasks.flatMap (Task.plans threshold)))

theorem Step.Keeps.forall_mem_tasks {threshold : Nat} {Inv : Task → Prop} {Good : Plan → Prop}
    {s : Step} (h : s.Keeps threshold Inv Good) : ∀ u ∈ s.tasks, Inv u := by
  cases s with
  | calls tasks => exact h
  | node notes origin tasks => exact h.1

theorem Step.Keeps.mono {threshold : Nat} {Inv Inv' : Task → Prop} {Good Good' : Plan → Prop}
    {s : Step} (h : s.Keeps threshold Inv Good) (hinv : ∀ u, Inv u → Inv' u)
    (hgood : ∀ p, Good p → Good' p) : s.Keeps threshold Inv' Good' := by
  cases s with
  | calls tasks => exact fun u hu => hinv u (h u hu)
  | node notes origin tasks => exact ⟨fun u hu => hinv u (h.1 u hu), hgood _ h.2⟩

theorem mem_partsAll_flatMap_iff {threshold : Nat} {q : Plan} {tasks : List Task} :
    q ∈ partsAll (tasks.flatMap (Task.plans threshold)) ↔
      ∃ u ∈ tasks, q ∈ partsAll (u.plans threshold) := by
  simp only [mem_partsAll_iff, List.mem_flatMap]
  constructor
  · rintro ⟨p, ⟨u, hu, hp⟩, hq⟩
    exact ⟨u, hu, p, hp, hq⟩
  · rintro ⟨u, hu, p, hp, hq⟩
    exact ⟨p, ⟨u, hu, hp⟩, hq⟩

/-- **Parts along the walk**: where tasks hand a property on and prove a property of their nodes,
all parts of their plans have the latter. -/
theorem Task.forall_mem_parts {threshold : Nat} {Inv : Task → Prop} {Good : Plan → Prop}
    (h : ∀ t, Inv t → (t.step threshold).Keeps threshold Inv Good) (t : Task) (ht : Inv t) :
    ∀ q ∈ partsAll (t.plans threshold), Good q := by
  induction t using Task.induction threshold with
  | h t ih =>
    intro q hq
    have hkeeps := h t ht
    have hinner : (∃ u ∈ (t.step threshold).tasks, q ∈ partsAll (u.plans threshold)) → Good q :=
      fun ⟨u, hu, hqu⟩ => ih u hu (hkeeps.forall_mem_tasks u hu) q hqu
    rw [plans_step] at hq
    cases hstep : t.step threshold with
    | calls tasks =>
      rw [hstep] at hq hinner
      exact hinner (mem_partsAll_flatMap_iff.mp hq)
    | node notes origin tasks =>
      rw [hstep] at hq hinner hkeeps
      rw [Step.plans, partsAll, partsAll, List.append_nil, parts, List.mem_cons] at hq
      rcases hq with rfl | hq
      · exact hkeeps.2
      · exact hinner (mem_partsAll_flatMap_iff.mp hq)

end PageModules.Plan
