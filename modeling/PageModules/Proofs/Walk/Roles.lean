import PageModules.Proofs.Walk.Contents

/-!
# Roles

A walk by the shape of the elements treats some of them as sections, rows and columns, at the top of
a body and wherever the type that an element suggests is one of these (`Element.IsTreatedAs`).  What
an element gives in its role is part of the plan of the body (`Plan.partsAll_rolePlans_subset`), and
the origin of a part has an element in its role (`Plan.fitsRole_of_mem_parts`).
-/

namespace PageModules

/-! ### Roles -/

/-- What an element is treated as. -/
inductive Role where
  /-- A section. -/
  | pageSection
  /-- A row. -/
  | row
  /-- A column. -/
  | column
  /-- Something in a column. -/
  | content
deriving DecidableEq

/-- The type of sections, rows and columns. -/
def Role.frame? : Role → Option ModuleType
  | pageSection => some .pageSection
  | row => some .row
  | column => some .column
  | content => none

namespace Element

/-- What an element is treated as inside of a section. -/
def sectionRole (e : Element) : Role := if e.isRowLike then .row else .content

/-- What an element is treated as inside of a row. -/
def rowRole (e : Element) : Role := if e.isColumnLike then .column else .content

/-- What the walk by shape treats the elements of a body as, if none of them is marked. -/
inductive IsTreatedAs (threshold : ℕ) (body : Element) : Role → Element → Prop
  /-- A section in the body. -/
  | top {e : Element} (he : e ∈ body.contentChildren) (hshape : e.isSectionLike = true) :
    IsTreatedAs threshold body .pageSection e
  /-- Another element in the body, which has a section of its own. -/
  | loose {e : Element} (he : e ∈ body.contentChildren) (hshape : ¬e.isSectionLike = true) :
    IsTreatedAs threshold body e.sectionRole e
  /-- An element in a section. -/
  | inSection {s e : Element} (hs : IsTreatedAs threshold body .pageSection s)
    (he : e ∈ s.contentChildren) : IsTreatedAs threshold body e.sectionRole e
  /-- An element in a row. -/
  | inRow {r e : Element} (hr : IsTreatedAs threshold body .row r) (he : e ∈ r.contentChildren) :
    IsTreatedAs threshold body e.rowRole e
  /-- An element in a column. -/
  | inColumn {c e : Element} (hc : IsTreatedAs threshold body .column c)
    (he : e ∈ c.contentChildren) : IsTreatedAs threshold body .content e
  /-- An element in a column that is no component and suggests to be a frame itself. -/
  | typed {role : Role} {e : Element} {type : ModuleType}
    (he : IsTreatedAs threshold body .content e) (hcomponent : Plan.accepted? threshold e = none)
    (htype : e.likelyType? = some type) (hrole : role.frame? = some type) :
    IsTreatedAs threshold body role e

theorem IsTreatedAs.scope {scope : Element → Prop} (hscope : Plan.IsClosed scope) {threshold : ℕ}
    {body : Element} (hbody : scope body) {role : Role} {e : Element}
    (h : IsTreatedAs threshold body role e) : scope e := by
  induction h with
  | top he _ => exact hscope body hbody _ he
  | loose he _ => exact hscope body hbody _ he
  | inSection _ he ih => exact hscope _ ih _ he
  | inRow _ he ih => exact hscope _ ih _ he
  | inColumn _ he ih => exact hscope _ ih _ he
  | typed _ _ _ _ ih => exact ih

/-- What an element gives in a role. -/
def rolePlans (threshold : ℕ) (e : Element) : Role → List Plan
  | .pageSection => e.contentChildren.flatMap (rowPlans threshold)
  | .row => e.contentChildren.flatMap (columnPlans threshold)
  | .column => Plan.columnContent threshold e
  | .content => [Plan.ofContent threshold e]

theorem rolePlans_sectionRole (threshold : ℕ) (e : Element) :
    e.rolePlans threshold e.sectionRole = e.rowPlans threshold := by
  unfold sectionRole rowPlans
  split <;> rfl

theorem rolePlans_rowRole (threshold : ℕ) (e : Element) :
    e.rolePlans threshold e.rowRole = e.columnPlans threshold := by
  unfold rowRole columnPlans
  split <;> rfl

end Element

namespace Plan

/-! ### Parts -/

theorem partsAll_mono {ps qs : List Plan} (h : ps ⊆ qs) : partsAll ps ⊆ partsAll qs := by
  intro q hq
  obtain ⟨p, hp, hqp⟩ := mem_partsAll_iff.mp hq
  exact mem_partsAll_iff.mpr ⟨p, h hp, hqp⟩

theorem partsAll_subset_flatMap {e : Element} {es : List Element} (he : e ∈ es)
    (f : Element → List Plan) : partsAll (f e) ⊆ partsAll (es.flatMap f) :=
  partsAll_mono fun _ hp => List.mem_flatMap.mpr ⟨e, he, hp⟩

theorem parts_subset_partsAll {p : Plan} {ps : List Plan} (h : p ∈ ps) : p.parts ⊆ partsAll ps :=
  fun _ hq => mem_partsAll_iff.mpr ⟨p, h, hq⟩

theorem partsAll_inner_subset (p : Plan) : partsAll p.inner ⊆ p.parts := by
  cases p
  exact List.subset_cons_self _ _

theorem partsAll_flatMap_inner_subset (ps : List Plan) :
    partsAll (ps.flatMap inner) ⊆ partsAll ps := by
  intro q hq
  obtain ⟨c, hc, hqc⟩ := mem_partsAll_iff.mp hq
  obtain ⟨p, hp, hcp⟩ := List.mem_flatMap.mp hc
  exact parts_subset_partsAll hp (partsAll_inner_subset p (parts_subset_partsAll hcp hqc))

variable {threshold : ℕ}

theorem partsAll_rowPlans_subset {es : List Element}
    (h : ∀ e ∈ es, e.markedType? = none ∧ ∀ c ∈ e.contentChildren, c.markedType? = none) :
    partsAll (es.flatMap (Element.rowPlans threshold)) ⊆ partsAll (rows threshold es) := by
  rw [← flatMap_inner_rows threshold h, ← List.flatMap_assoc]
  exact List.Subset.trans (partsAll_flatMap_inner_subset _) (partsAll_flatMap_inner_subset _)

theorem partsAll_columnPlans_subset {e : Element}
    (h : ∀ c ∈ e.contentChildren, c.markedType? = none) :
    partsAll (e.contentChildren.flatMap (Element.columnPlans threshold)) ⊆
      partsAll (columns threshold e) := by
  rw [← flatMap_inner_columns threshold h]
  exact partsAll_flatMap_inner_subset _

/-- An element that suggests to be a frame holds what it gives in this role. -/
theorem partsAll_rolePlans_subset_typedChildren {e : Element} {role : Role} {type : ModuleType}
    (hrole : role.frame? = some type)
    (h : ∀ c ∈ e.contentChildren,
      c.markedType? = none ∧ ∀ k ∈ c.contentChildren, k.markedType? = none) :
    partsAll (e.rolePlans threshold role) ⊆ partsAll (typedChildren threshold e type) := by
  cases role with
  | pageSection =>
    obtain rfl := Option.some.inj hrole
    rw [typedChildren_pageSection]
    exact partsAll_rowPlans_subset h
  | row =>
    obtain rfl := Option.some.inj hrole
    rw [typedChildren_row]
    exact partsAll_columnPlans_subset fun c hc => (h c hc).1
  | column =>
    obtain rfl := Option.some.inj hrole
    rw [typedChildren_column]
    exact List.Subset.refl _
  | content => cases hrole

/-- **What an element gives in its role is part of the plan of the body.** -/
theorem partsAll_rolePlans_subset {scope : Element → Prop} (hscope : IsClosed scope)
    (hmarks : ∀ e, scope e → e.markedType? = none) {body : Element} (hbody : scope body)
    {role : Role} {e : Element} (h : Element.IsTreatedAs threshold body role e) :
    partsAll (e.rolePlans threshold role) ⊆ partsAll (ofBody threshold body) := by
  have hunmarked {e : Element} (he : scope e) : ∀ c ∈ e.contentChildren,
      c.markedType? = none ∧ ∀ k ∈ c.contentChildren, k.markedType? = none := fun c hc =>
    ⟨hmarks c (hscope e he c hc), fun k hk => hmarks k (hscope c (hscope e he c hc) k hk)⟩
  induction h with
  | @top e he hshape =>
    have htop : ofTopLevel threshold e ∈ ofBody threshold body := List.mem_map_of_mem he
    refine List.Subset.trans ?_ (parts_subset_partsAll htop)
    refine List.Subset.trans ?_ (partsAll_inner_subset _)
    rw [inner_ofTopLevel, Element.sectionParts, if_pos hshape]
    exact partsAll_rowPlans_subset (hunmarked (hscope body hbody e he))
  | @loose e he hshape =>
    have htop : ofTopLevel threshold e ∈ ofBody threshold body := List.mem_map_of_mem he
    refine List.Subset.trans ?_ (parts_subset_partsAll htop)
    refine List.Subset.trans ?_ (partsAll_inner_subset _)
    rw [inner_ofTopLevel, Element.sectionParts, if_neg hshape, Element.rolePlans_sectionRole,
      ← List.flatMap_singleton (Element.rowPlans threshold) e]
    exact partsAll_rowPlans_subset (List.forall_mem_singleton.mpr (hunmarked hbody e he))
  | @inSection s e _ he ih =>
    refine List.Subset.trans ?_ ih
    rw [Element.rolePlans_sectionRole]
    exact partsAll_subset_flatMap he (Element.rowPlans threshold)
  | @inRow r e _ he ih =>
    refine List.Subset.trans ?_ ih
    rw [Element.rolePlans_rowRole]
    exact partsAll_subset_flatMap he (Element.columnPlans threshold)
  | @inColumn c e _ he ih =>
    refine List.Subset.trans ?_ ih
    refine partsAll_mono (List.cons_subset.mpr ⟨?_, List.nil_subset _⟩)
    rw [Element.rolePlans, columnContent_of_ne_nil threshold (List.ne_nil_of_mem he)]
    exact List.mem_map_of_mem he
  | @typed role e type htreated hcomponent htype hrole ih =>
    have he := htreated.scope hscope hbody
    refine List.Subset.trans ?_ ih
    refine List.Subset.trans (partsAll_rolePlans_subset_typedChildren hrole (hunmarked he)) ?_
    rw [Element.rolePlans, ofContent_of_likelyType? (hmarks e he) hcomponent htype, ofTyped]
    refine List.Subset.trans ?_ (parts_subset_partsAll (List.mem_singleton_self _))
    exact partsAll_inner_subset (node _ _ _)

end Plan

/-! ### Roles of parts -/

/-- The element that an origin is made of is treated as the origin says. -/
def Origin.FitsRole (threshold : ℕ) (body : Element) : Origin → Prop
  | typed e type => Element.IsTreatedAs threshold body .content e ∧
      ∀ role, Role.frame? role = some type → Element.IsTreatedAs threshold body role e
  | recognized e _ => Element.IsTreatedAs threshold body .content e
  | text e => Element.IsTreatedAs threshold body .content e
  | ownText e => Element.IsTreatedAs threshold body .column e ∧ e.contentChildren = [] ∧
      e.hasSignificantContent = true
  | shapedSection e => Element.IsTreatedAs threshold body .pageSection e
  | shapedRow e => Element.IsTreatedAs threshold body .row e
  | shapedColumn e => Element.IsTreatedAs threshold body .column e
  | _ => True

/-- The elements of a group are treated alike: one that stands alone as `alone`, loose ones as
content. -/
def Run.FitsRole (threshold : ℕ) (body : Element) (alone : Role) : Run Element → Prop
  | .single e => Element.IsTreatedAs threshold body alone e
  | .loose es => ∀ e ∈ es, Element.IsTreatedAs threshold body .content e

namespace Plan

variable {threshold : ℕ} {body : Element}

/-- The elements of a task of the walk by shape are treated as the task says. -/
def Task.FitsRole (threshold : ℕ) (body : Element) : Task → Prop
  | marked _ => False
  | top e => e ∈ body.contentChildren
  | rows es => ∀ e ∈ es, Element.IsTreatedAs threshold body e.sectionRole e
  | rowGroup _ g => g.FitsRole threshold body .row
  | row _ e => Element.IsTreatedAs threshold body .row e
  | looseRow _ es => ∀ e ∈ es, Element.IsTreatedAs threshold body .content e
  | columns e => Element.IsTreatedAs threshold body .row e
  | columnGroup g => g.FitsRole threshold body .column
  | column e => Element.IsTreatedAs threshold body .column e
  | looseColumn _ groups => ∀ g ∈ groups, g.FitsRole threshold body .column
  | groupContent g => g.FitsRole threshold body .column
  | columnContent e => Element.IsTreatedAs threshold body .column e
  | content e => Element.IsTreatedAs threshold body .content e
  | typed _ e type => (Origin.typed e type).FitsRole threshold body
  | inside e type => (Origin.typed e type).FitsRole threshold body
  | leaf _ origin => origin.FitsRole threshold body

/-- A step whose node is made of an element in its role, and that leads to tasks about such. -/
abbrev Step.FitsRole (threshold : ℕ) (body : Element) : Step → Prop :=
  Step.Keeps threshold (Task.FitsRole threshold body) fun p => p.origin.FitsRole threshold body

theorem fitsRole_of_mem_runs_isRowLike {es : List Element}
    (hes : ∀ e ∈ es, Element.IsTreatedAs threshold body e.sectionRole e) {g : Run Element}
    (hg : g ∈ Run.runs (·.isRowLike) es) : g.FitsRole threshold body .row := by
  cases g with
  | single e =>
    have he := hes e (Run.mem_of_mem_runs hg (List.mem_singleton_self e))
    rwa [Element.sectionRole, if_pos (Run.fits_of_single_mem_runs hg)] at he
  | loose loose =>
    intro e he
    have hrole := hes e (Run.mem_of_mem_runs hg he)
    rwa [Element.sectionRole, if_neg ((Run.not_fits_of_loose_mem_runs hg).2 e he)] at hrole

theorem fitsRole_of_mem_runs_isColumnLike {es : List Element}
    (hes : ∀ e ∈ es, Element.IsTreatedAs threshold body e.rowRole e) {g : Run Element}
    (hg : g ∈ Run.runs (·.isColumnLike) es) : g.FitsRole threshold body .column := by
  cases g with
  | single e =>
    have he := hes e (Run.mem_of_mem_runs hg (List.mem_singleton_self e))
    rwa [Element.rowRole, if_pos (Run.fits_of_single_mem_runs hg)] at he
  | loose loose =>
    intro e he
    have hrole := hes e (Run.mem_of_mem_runs hg he)
    rwa [Element.rowRole, if_neg ((Run.not_fits_of_loose_mem_runs hg).2 e he)] at hrole

theorem fitsRole_step_columns {e : Element} (he : Element.IsTreatedAs threshold body .row e) :
    ((Task.columns e).step threshold).FitsRole threshold body := by
  have hgroups : ∀ g ∈ e.columnRuns, g.FitsRole threshold body .column :=
    fun g hg => fitsRole_of_mem_runs_isColumnLike (fun c hc => .inRow he hc) hg
  rw [Task.step]
  split
  · exact List.forall_mem_singleton.mpr (List.forall_mem_nil _)
  · split
    · exact List.forall_mem_map.mpr hgroups
    · refine List.forall_mem_append.mpr ⟨List.forall_mem_map.mpr fun g hg => ?_,
        List.forall_mem_singleton.mpr fun g hg => ?_⟩
      · exact hgroups g (List.mem_of_mem_take hg)
      · exact hgroups g (List.mem_of_mem_drop hg)

theorem fitsRole_step_content {e : Element} (hmark : e.markedType? = none)
    (he : Element.IsTreatedAs threshold body .content e) :
    ((Task.content e).step threshold).FitsRole threshold body := by
  rw [Task.step, hmark]
  dsimp only
  cases hr : accepted? threshold e with
  | some r => exact ⟨List.forall_mem_map.mpr fun _ _ => trivial, he⟩
  | none =>
    dsimp only
    cases htype : e.likelyType? with
    | some type =>
      exact List.forall_mem_singleton.mpr ⟨he, fun role hrole => .typed he hr htype hrole⟩
    | none =>
      refine ⟨List.forall_mem_nil _, ?_⟩
      split
      · exact trivial
      · exact he

theorem fitsRole_step_inside {e : Element} {type : ModuleType}
    (h : (Origin.typed e type).FitsRole threshold body) :
    ((Task.inside e type).step threshold).FitsRole threshold body := by
  rw [Task.step]
  cases type.child? with
  | some child => exact List.forall_mem_map.mpr fun _ _ => trivial
  | none =>
    cases type with
    | pageSection =>
      exact List.forall_mem_singleton.mpr fun c hc => .inSection (h.2 .pageSection rfl) hc
    | row => exact List.forall_mem_singleton.mpr (h.2 .row rfl)
    | column => exact List.forall_mem_singleton.mpr (h.2 .column rfl)
    | _ => exact List.forall_mem_nil _

/-- Each step of the walk by shape gives the elements inside of its own the role in which the next
one reads them. -/
theorem fitsRole_step
    (hmarks : ∀ role e, Element.IsTreatedAs threshold body role e → e.markedType? = none)
    {t : Task} (ht : t.FitsRole threshold body) : (t.step threshold).FitsRole threshold body := by
  cases t with
  | marked e => exact ht.elim
  | top e =>
    rw [Task.step]
    split
    case isTrue hshape =>
      have htop : Element.IsTreatedAs threshold body .pageSection e := .top ht hshape
      exact ⟨List.forall_mem_singleton.mpr fun c hc => .inSection htop hc, htop⟩
    case isFalse hshape =>
      exact ⟨List.forall_mem_singleton.mpr (List.forall_mem_singleton.mpr (.loose ht hshape)),
        trivial⟩
  | rows es =>
    rw [Task.step]
    split
    · exact List.forall_mem_singleton.mpr (List.forall_mem_nil _)
    · exact List.forall_mem_map.mpr fun p hp =>
        fitsRole_of_mem_runs_isRowLike ht (mem_of_mem_noteRows hp)
  | rowGroup notes g => cases g <;> exact List.forall_mem_singleton.mpr ht
  | row notes e =>
    rw [Task.step, hmarks .row e ht]
    exact ⟨List.forall_mem_singleton.mpr ht, ht⟩
  | looseRow notes es =>
    exact ⟨List.forall_mem_singleton.mpr (List.forall_mem_singleton.mpr ht), trivial⟩
  | columns e => exact fitsRole_step_columns ht
  | columnGroup g =>
    cases g with
    | single e => exact List.forall_mem_singleton.mpr ht
    | loose es => exact List.forall_mem_singleton.mpr (List.forall_mem_singleton.mpr ht)
  | column e =>
    rw [Task.step, hmarks .column e ht]
    exact ⟨List.forall_mem_singleton.mpr ht, ht⟩
  | looseColumn notes groups => exact ⟨List.forall_mem_map.mpr ht, trivial⟩
  | groupContent g =>
    cases g with
    | single e => exact List.forall_mem_singleton.mpr ht
    | loose es => exact List.forall_mem_map.mpr ht
  | columnContent e =>
    rw [Task.step]
    split
    case isTrue hnil =>
      split
      case isTrue hown => exact List.forall_mem_singleton.mpr ⟨ht, hnil, hown⟩
      case isFalse => exact List.forall_mem_nil _
    case isFalse => exact List.forall_mem_map.mpr fun c hc => .inColumn ht hc
  | content e => exact fitsRole_step_content (hmarks .content e ht) ht
  | typed notes e type => exact ⟨List.forall_mem_singleton.mpr ht, ht⟩
  | inside e type => exact fitsRole_step_inside ht
  | leaf notes origin => exact ⟨List.forall_mem_nil _, ht⟩

/-- **The roles are complete**: if no element of a body has a marker that names a type, the parts of
its plan are made of elements that are treated as the parts say. -/
theorem fitsRole_of_mem_parts {scope : Element → Prop} (hscope : IsClosed scope)
    (hmarks : ∀ e, scope e → e.markedType? = none) (hbody : scope body) {q : Plan}
    (hq : q ∈ partsAll (ofBody threshold body)) : q.origin.FitsRole threshold body := by
  obtain ⟨p, hp, hqp⟩ := mem_partsAll_iff.mp hq
  obtain ⟨e, he, rfl⟩ := List.mem_map.mp hp
  refine Task.forall_mem_parts (fun _ ht => fitsRole_step ?_ ht) (.top e) he q ?_
  · exact fun role e he => hmarks e (he.scope hscope hbody)
  · exact mem_partsAll_iff.mpr ⟨_, List.mem_singleton_self _, hqp⟩

/-- The columns that have a text of their own are those without elements inside and with something
to show. -/
theorem ownText_mem_partsAll_iff {scope : Element → Prop} (hscope : IsClosed scope)
    (hmarks : ∀ e, scope e → e.markedType? = none) (hbody : scope body) {e : Element} :
    node [] (.ownText e) [] ∈ partsAll (ofBody threshold body) ↔
      Element.IsTreatedAs threshold body .column e ∧ e.contentChildren = [] ∧
        e.hasSignificantContent = true := by
  refine ⟨fun h => fitsRole_of_mem_parts hscope hmarks hbody h, fun ⟨he, hleaf, hsome⟩ => ?_⟩
  refine partsAll_rolePlans_subset hscope hmarks hbody he ?_
  rw [Element.rolePlans, columnContent_of_nil threshold hleaf, if_pos hsome]
  exact List.mem_append_left _ List.mem_cons_self

end Plan

end PageModules
