import PageModules.Proofs.Walk.Tasks

/-!
# What a plan by shape is made of

`Plan.parts` are the plans of a plan at every depth.  `Plan.IsBuilt` lists what the functions of the
walk build, each with the plans inside of it and the reason why it was built; `isBuilt_of_mem_parts`
says that a plan by the shape of the elements has no other parts, as no step of the walk makes
another one (`Plan.builds_step`).  What holds of every part is therefore proved by one look at the
list.
-/

namespace PageModules.Plan

/-! ### The list of what is built -/

/-- A plan that the walk builds of elements of a scope, as it is read by the shape of the elements.
-/
inductive IsBuilt (threshold : Nat) (scope : Element → Prop) : Plan → Prop where
  /-- An element of a known type. -/
  | typed {notes : List Note} {e : Element} {type : ModuleType} (he : scope e)
    (htype : e.type? = some type) :
    IsBuilt threshold scope (node notes (.typed e type) (typedChildren threshold e type))
  /-- A child of an element whose type has children of a type of their own. -/
  | item {parent e : Element} {type child : ModuleType} (hparent : scope parent)
    (hchild : type.child? = some child) (he : e ∈ parent.contentChildren) :
    IsBuilt threshold scope (node [] (.item e child) [])
  /-- A component. -/
  | recognized {e : Element} {r : Recognition} (he : scope e)
    (hr : accepted? threshold e = some r) : IsBuilt threshold scope (ofRecognition e r)
  /-- An item of a component. -/
  | componentItem {e : Element} {r : Recognition} {i : ComponentItem} (he : scope e)
    (hr : accepted? threshold e = some r) (hi : i ∈ r.component.items) :
    IsBuilt threshold scope (node [] (.componentItem i) [])
  /-- An element that is text. -/
  | text {notes : List Note} {e : Element} (he : scope e) (htype : e.type? = none) :
    IsBuilt threshold scope (node notes (.text e) [])
  /-- An element without anything to show. -/
  | dropped {notes : List Note} {e : Element} (he : scope e) (htype : e.type? = none) :
    IsBuilt threshold scope (node notes .dropped [])
  /-- The text of a column itself. -/
  | ownText {e : Element} (he : scope e) (hchildren : e.contentChildren = []) :
    IsBuilt threshold scope (node [] (.ownText e) [])
  /-- An element that looks like a section. -/
  | shapedSection {e : Element} (he : scope e) (hshape : e.isSectionLike = true) :
    IsBuilt threshold scope (node [] (.shapedSection e) (rows threshold e.contentChildren))
  /-- A section around an element that is none. -/
  | looseSection {e : Element} (he : scope e) (hshape : ¬ e.isSectionLike = true) :
    IsBuilt threshold scope (node [] .looseSection (rows threshold [e]))
  /-- An element that looks like a row. -/
  | shapedRow {notes : List Note} {e : Element} (he : scope e) (hmark : e.markedType? = none) :
    IsBuilt threshold scope (node notes (.shapedRow e) (columns threshold e))
  /-- A row around loose elements. -/
  | looseRow {notes : List Note} {es : List Element} (hes : ∀ e ∈ es, scope e) :
    IsBuilt threshold scope (Plan.looseRow notes (es.map (ofContent threshold)))
  /-- An element that looks like a column. -/
  | shapedColumn {e : Element} (he : scope e) (hmark : e.markedType? = none) :
    IsBuilt threshold scope (node [] (.shapedColumn e) (columnContent threshold e))
  /-- A column around the contents of groups. -/
  | looseColumn {notes : List Note} {groups : List (Run Element)}
    (hgroups : ∀ g ∈ groups, ∀ e ∈ g.members, scope e) :
    IsBuilt threshold scope (Plan.looseColumn notes (groups.flatMap (groupContent threshold)))

/-- By the shape of the elements no element of no type is put around others. -/
theorem IsBuilt.isWrapper_origin {threshold : Nat} {scope : Element → Prop} {p : Plan}
    (h : IsBuilt threshold scope p) : p.origin.isWrapper = false := by
  cases h <;> rfl

variable {threshold : Nat} {scope : Element → Prop}

theorem type?_of_markedType? {e : Element} {type : ModuleType} (h : e.markedType? = some type) :
    e.type? = some type := by
  rw [Element.type?, h, Option.some_or]

theorem type?_of_likelyType? {e : Element} (h : e.markedType? = none) :
    e.type? = e.likelyType? := by
  rw [Element.type?, h, Option.none_or]

/-- The members of the groups of a list of the scope are in the scope. -/
theorem scope_of_mem_runs {fits : Element → Bool} {es : List Element} (hes : ∀ e ∈ es, scope e)
    {g : Run Element} (hg : g ∈ Run.runs fits es) : ∀ e ∈ g.members, scope e :=
  fun e he => hes e (Run.mem_of_mem_runs hg he)

/-! ### The walk by shape -/

/-- A task of the walk by shape about elements of a scope. -/
def Task.BuildsIn (threshold : Nat) (scope : Element → Prop) : Task → Prop
  | marked _ => False
  | typed _ e type => scope e ∧ e.type? = some type
  | leaf notes origin => IsBuilt threshold scope (Plan.node notes origin [])
  | t => ∀ e ∈ t.elements, scope e

/-- A step that builds what is on the list and leads to tasks that do. -/
abbrev Step.Builds (threshold : Nat) (scope : Element → Prop) : Step → Prop :=
  Step.Keeps threshold (Task.BuildsIn threshold scope) (IsBuilt threshold scope)

theorem Step.builds_node {notes : List Note} {origin : Origin} {u : Task}
    (hu : u.BuildsIn threshold scope)
    (h : IsBuilt threshold scope (Plan.node notes origin (u.plans threshold))) :
    (Step.node notes origin [u]).Builds threshold scope := by
  refine ⟨List.forall_mem_singleton.mpr hu, ?_⟩
  rwa [List.flatMap_singleton]

/-- A column around loose elements is the one around their only group. -/
theorem Task.buildsIn_looseColumn {notes : List Note} {es : List Element}
    (hes : ∀ e ∈ es, scope e) :
    (Task.looseColumn notes [.loose es]).BuildsIn threshold scope := by
  intro e he
  rw [Task.elements, List.flatMap_singleton] at he
  exact hes e he

theorem builds_step_columns (hscope : IsClosed scope) {e : Element} (he : scope e) :
    ((Task.columns e).step threshold).Builds threshold scope := by
  have hruns : ∀ g ∈ e.columnRuns, ∀ c ∈ g.members, scope c :=
    fun g hg => scope_of_mem_runs (hscope e he) hg
  rw [Task.step]
  split
  · exact List.forall_mem_singleton.mpr (List.forall_mem_nil _)
  · split
    · exact List.forall_mem_map.mpr hruns
    · refine List.forall_mem_append.mpr ⟨List.forall_mem_map.mpr fun g hg => ?_,
        List.forall_mem_singleton.mpr fun c hc => ?_⟩
      · exact hruns g (List.mem_of_mem_take hg)
      · obtain ⟨g, hg, hcg⟩ := List.mem_flatMap.mp hc
        exact hruns g (List.mem_of_mem_drop hg) c hcg

theorem builds_step_content {e : Element} (he : scope e) :
    ((Task.content e).step threshold).Builds threshold scope := by
  rw [Task.step]
  cases hmark : e.markedType? with
  | some type => exact List.forall_mem_singleton.mpr ⟨he, type?_of_markedType? hmark⟩
  | none =>
    dsimp only
    cases hr : accepted? threshold e with
    | some r =>
      refine ⟨List.forall_mem_map.mpr fun i hi => .componentItem he hr hi, ?_⟩
      rw [Task.flatMap_plans_map threshold fun _ => rfl]
      exact .recognized he hr
    | none =>
      dsimp only
      cases htype : e.likelyType? with
      | some type =>
        exact List.forall_mem_singleton.mpr ⟨he, (type?_of_likelyType? hmark).trans htype⟩
      | none =>
        have hnone : e.type? = none := (type?_of_likelyType? hmark).trans htype
        refine ⟨List.forall_mem_nil _, ?_⟩
        split
        · exact .dropped he hnone
        · exact .text he hnone

theorem builds_step_inside (hscope : IsClosed scope) {e : Element} {type : ModuleType}
    (he : scope e) : ((Task.inside e type).step threshold).Builds threshold scope := by
  rw [Task.step]
  cases hchild : type.child? with
  | some child =>
    exact List.forall_mem_map.mpr fun c hc => .item he hchild (List.mem_of_mem_filter hc)
  | none =>
    cases type with
    | pageSection => exact List.forall_mem_singleton.mpr (hscope e he)
    | row => exact List.forall_mem_singleton.mpr (List.forall_mem_singleton.mpr he)
    | column => exact List.forall_mem_singleton.mpr (List.forall_mem_singleton.mpr he)
    | _ => exact List.forall_mem_nil _

/-- Step by step the walk by shape builds what is on the list. -/
theorem builds_step (hscope : IsClosed scope) {t : Task} (ht : t.BuildsIn threshold scope) :
    (t.step threshold).Builds threshold scope := by
  have hone {e : Element} (h : ∀ c ∈ [e], scope c) : scope e := h e (List.mem_singleton_self e)
  cases t with
  | marked e => exact ht.elim
  | top e =>
    rw [Task.step]
    split
    case isTrue hshape =>
      exact Step.builds_node (hscope e (hone ht)) (.shapedSection (hone ht) hshape)
    case isFalse hshape => exact Step.builds_node ht (.looseSection (hone ht) hshape)
  | rows es =>
    rw [Task.step]
    split
    · exact List.forall_mem_singleton.mpr (List.forall_mem_nil _)
    · exact List.forall_mem_map.mpr fun p hp => scope_of_mem_runs ht (mem_of_mem_noteRows hp)
  | rowGroup notes g => cases g <;> exact List.forall_mem_singleton.mpr ht
  | row notes e =>
    rw [Task.step]
    cases hmark : e.markedType? with
    | some type => exact List.forall_mem_singleton.mpr ⟨hone ht, type?_of_markedType? hmark⟩
    | none => exact Step.builds_node ht (.shapedRow (hone ht) hmark)
  | looseRow notes es =>
    refine Step.builds_node (Task.buildsIn_looseColumn ht) ?_
    rw [Task.plans, List.flatMap_singleton, groupContent_loose]
    exact .looseRow ht
  | columns e => exact builds_step_columns hscope (hone ht)
  | columnGroup g =>
    cases g with
    | single e => exact List.forall_mem_singleton.mpr ht
    | loose es => exact List.forall_mem_singleton.mpr (Task.buildsIn_looseColumn ht)
  | column e =>
    rw [Task.step]
    cases hmark : e.markedType? with
    | some type => exact List.forall_mem_singleton.mpr ⟨hone ht, type?_of_markedType? hmark⟩
    | none => exact Step.builds_node ht (.shapedColumn (hone ht) hmark)
  | looseColumn notes groups =>
    have hgroups : ∀ g ∈ groups, ∀ e ∈ g.members, scope e :=
      fun g hg e he => ht e (List.mem_flatMap.mpr ⟨g, hg, he⟩)
    refine ⟨List.forall_mem_map.mpr hgroups, ?_⟩
    rw [List.flatMap_map]
    exact .looseColumn hgroups
  | groupContent g =>
    cases g with
    | single e => exact List.forall_mem_singleton.mpr ht
    | loose es =>
      exact List.forall_mem_map.mpr fun e he => List.forall_mem_singleton.mpr (ht e he)
  | columnContent e =>
    rw [Task.step]
    split
    case isTrue hnil =>
      split
      · exact List.forall_mem_singleton.mpr (.ownText (hone ht) hnil)
      · exact List.forall_mem_nil _
    case isFalse =>
      exact List.forall_mem_map.mpr fun c hc =>
        List.forall_mem_singleton.mpr (hscope e (hone ht) c hc)
  | content e => exact builds_step_content (hone ht)
  | typed notes e type =>
    exact Step.builds_node (List.forall_mem_singleton.mpr ht.1) (.typed ht.1 ht.2)
  | inside e type => exact builds_step_inside hscope (hone ht)
  | leaf notes origin => exact ⟨List.forall_mem_nil _, ht⟩

/-- **The list is complete**: the parts of what the walk by shape makes of a scope are on the list.
-/
theorem isBuilt_of_mem_parts_plans (hscope : IsClosed scope) {t : Task}
    (ht : t.BuildsIn threshold scope) {q : Plan} (hq : q ∈ partsAll (t.plans threshold)) :
    IsBuilt threshold scope q :=
  Task.forall_mem_parts (fun _ hu => builds_step hscope hu) t ht q hq

/-- A part of the plan of a body by shape is one of those on the list. -/
theorem isBuilt_of_mem_parts (hscope : IsClosed scope) {body : Element} (hbody : scope body)
    {q : Plan} (hq : q ∈ partsAll (ofBody threshold body)) : IsBuilt threshold scope q := by
  obtain ⟨p, hp, hqp⟩ := mem_partsAll_iff.mp hq
  obtain ⟨e, he, rfl⟩ := List.mem_map.mp hp
  have htop : (Task.top e).BuildsIn threshold scope :=
    List.forall_mem_singleton.mpr (hscope body hbody e he)
  refine isBuilt_of_mem_parts_plans hscope htop ?_
  exact mem_partsAll_iff.mpr ⟨_, List.mem_singleton_self _, hqp⟩

end PageModules.Plan
