import PageModules.Proofs.Markup.Descent
import PageModules.Proofs.Walk.Drafts

/-!
# The plan behind each module

A part of a plan has a module of its own if it has a type and does not give way to what is inside of
it; `Plan.sources` are these parts in document order.  The modules of a page are those of the
sources, one by one and in order (`Conversion.forall₂_isModuleOf`): each has the type of its source
and the attributes that the origin of the source gives.

In either way of reading, the parts of the plan of a body are those that the walk by shape builds,
and elements of no type around others (`Plan.isPlanned_of_mem_parts`).
-/

namespace PageModules

namespace Origin

/-- The element that a module is made of.  What stands around loose elements, and the items of a
component, are made of none. -/
def element? : Origin → Option Element
  | typed e _ => some e
  | item e _ => some e
  | recognized e _ => some e
  | componentItem _ => none
  | text e => some e
  | ownText e => some e
  | dropped => none
  | shapedSection e => some e
  | looseSection => none
  | shapedRow e => some e
  | looseRow => none
  | shapedColumn e => some e
  | looseColumn => none
  | wrapper e => some e

end Origin

namespace Plan

/-! ### Sources -/

mutual

/-- The parts of a plan that have a module of their own, each in front of those inside of it. -/
def sources (base : Int) : Plan → List Plan
  | node notes origin children =>
    if origin.isWrapper ∧ (draftsAll base children).length ≤ 1 then sourcesAll base children
    else
      match origin.type? with
      | some _ => node notes origin children :: sourcesAll base children
      | none => []

/-- The parts of several plans that have a module of their own. -/
def sourcesAll (base : Int) : List Plan → List Plan
  | [] => []
  | p :: rest => sources base p ++ sourcesAll base rest

end

mutual

/-- A source of a plan is one of its parts, and if it is an element of no type there are several
modules inside of it. -/
theorem mem_parts_of_mem_sources (base : Int) (p q : Plan) (h : q ∈ p.sources base) :
    q ∈ p.parts ∧ (q.origin.isWrapper = true → 2 ≤ (draftsAll base q.inner).length) := by
  obtain ⟨notes, o, children⟩ := p
  have hinner (hq : q ∈ sourcesAll base children) := mem_partsAll_of_mem_sources base children q hq
  rw [sources] at h
  split at h
  · exact ⟨List.mem_cons_of_mem _ (hinner h).1, (hinner h).2⟩
  case isFalse hown =>
    split at h
    · rcases List.mem_cons.mp h with rfl | h
      · refine ⟨List.mem_cons_self, fun hwrapper => ?_⟩
        rw [inner_node]
        have hlength : ¬ (draftsAll base children).length ≤ 1 := fun hle => hown ⟨hwrapper, hle⟩
        omega
      · exact ⟨List.mem_cons_of_mem _ (hinner h).1, (hinner h).2⟩
    · cases h

/-- A source of several plans is one of their parts, and if it is an element of no type there are
several modules inside of it. -/
theorem mem_partsAll_of_mem_sources (base : Int) (ps : List Plan) (q : Plan)
    (h : q ∈ sourcesAll base ps) :
    q ∈ partsAll ps ∧ (q.origin.isWrapper = true → 2 ≤ (draftsAll base q.inner).length) := by
  cases ps with
  | nil => cases h
  | cons p rest =>
    rw [sourcesAll, List.mem_append] at h
    rw [partsAll, List.mem_append]
    rcases h with h | h
    · obtain ⟨hpart, hwrapper⟩ := mem_parts_of_mem_sources base p q h
      exact ⟨Or.inl hpart, hwrapper⟩
    · obtain ⟨hpart, hwrapper⟩ := mem_partsAll_of_mem_sources base rest q h
      exact ⟨Or.inr hpart, hwrapper⟩

end

/-! ### Parts in either way of reading -/

/-- A part of the plan of a body in either way of reading. -/
inductive IsPlanned (threshold : Nat) (scope : Element → Prop) : Plan → Prop where
  /-- What the walk by shape builds. -/
  | built {p : Plan} (h : IsBuilt threshold scope p) : IsPlanned threshold scope p
  /-- An element of no type around others. -/
  | wrapper {notes : List Note} {e : Element} (he : scope e) (htype : e.type? = none) :
    IsPlanned threshold scope
      (node notes (.wrapper e) (e.contentChildren.map (ofMarked threshold)))

variable {threshold : Nat} {scope : Element → Prop}

/-- A task of either walk about elements of a scope. -/
def Task.PlansIn (threshold : Nat) (scope : Element → Prop) (t : Task) : Prop :=
  t.BuildsIn threshold scope ∨ ∃ e, t = marked e ∧ scope e

/-- Step by step both walks build what is on the list. -/
theorem keeps_isPlanned_step (hscope : IsClosed scope) {t : Task}
    (ht : t.PlansIn threshold scope) :
    (t.step threshold).Keeps threshold (Task.PlansIn threshold scope)
      (IsPlanned threshold scope) := by
  rcases ht with ht | ⟨e, rfl, he⟩
  · exact (builds_step hscope ht).mono (fun _ => .inl) fun _ => .built
  · rw [Task.step]
    cases htype : e.type? with
    | some type => exact List.forall_mem_singleton.mpr (.inl ⟨he, htype⟩)
    | none =>
      refine ⟨List.forall_mem_map.mpr fun c hc => .inr ⟨c, rfl, hscope e he c hc⟩, ?_⟩
      rw [Task.flatMap_plans_map threshold fun _ => rfl]
      exact .wrapper he htype

/-- **The list is complete** for both ways of reading. -/
theorem isPlanned_of_mem_parts (hscope : IsClosed scope) {body : Element} (hbody : scope body)
    {mode : WalkMode} {q : Plan} (hq : q ∈ partsAll (Conversion.plansOf mode threshold body)) :
    IsPlanned threshold scope q := by
  cases mode with
  | generic => exact .built (isBuilt_of_mem_parts hscope hbody hq)
  | annotated =>
    obtain ⟨p, hp, hqp⟩ := mem_partsAll_iff.mp hq
    obtain ⟨e, he, rfl⟩ := List.mem_map.mp hp
    refine Task.forall_mem_parts (fun _ ht => keeps_isPlanned_step hscope ht) (.marked e)
      (.inr ⟨e, rfl, hscope body hbody e he⟩) q ?_
    exact mem_partsAll_iff.mpr ⟨_, List.mem_singleton_self _, hqp⟩

end Plan

/-! ### Numbered modules -/

namespace Draft

variable (token : String)

@[simp] theorem attrs_number (n : Nat) (d : Draft) : (d.number token n).attrs = d.attrs := by
  cases d
  unfold number
  split <;> rfl

end Draft

namespace PageModule

theorem preorderAll_append (ms ns : List PageModule) :
    preorderAll (ms ++ ns) = preorderAll ms ++ preorderAll ns := by
  induction ms with
  | nil => rfl
  | cons m rest ih => rw [List.cons_append, preorderAll, preorderAll, ih, List.append_assoc]

/-- The module is that of a plan. -/
structure IsModuleOf (base : Int) (p : Plan) (m : PageModule) : Prop where
  /-- It has the type of the plan. -/
  type_eq : p.origin.type? = some m.type
  /-- Its attributes are those that the origin of the plan gives. -/
  attrs_eq : m.attrs = p.origin.attributes base m.children.length
  /-- Inside of it are as many modules as the plans inside give. -/
  length_eq : m.children.length = (Plan.draftsAll base p.inner).length

variable {base : Int} {token : String}

theorem isModuleOf_number {p : Plan} {d : Draft} (h : p.ownModule? base = some d) (n : Nat) :
    IsModuleOf base p (d.number token n) := by
  obtain ⟨htype, hattrs, -, hinside⟩ := Draft.eq_of_ownModule? h
  obtain ⟨k, hchildren⟩ := Draft.children_number token n d
  have hlength : (d.number token n).children.length = (Plan.draftsAll base p.inner).length := by
    rw [hchildren, Draft.length_numberAll, hinside]
  constructor
  · rw [Draft.type_number]
    exact htype
  · rw [Draft.attrs_number, hattrs, hlength]
  · exact hlength

mutual

/-- The modules of a plan are those of its sources. -/
theorem forall₂_sources (n : Nat) (p : Plan) :
    List.Forall₂ (IsModuleOf base) (p.sources base)
      (preorderAll (Draft.numberAll token n (p.drafts base))) := by
  obtain ⟨notes, o, children⟩ := p
  rw [Plan.drafts_eq, Plan.sources, Plan.origin_node, Plan.inner_node]
  split
  -- A plan that gives way has the modules of those inside.
  · exact forall₂_sourcesAll n children
  · rw [Plan.ownModule?, Plan.origin_node]
    cases htype : o.type? with
    | none => exact List.Forall₂.nil
    | some type =>
      have hown : (Plan.node notes o children).ownModule? base =
          some ((Plan.node notes o children).moduleOf base type) := by
        rw [Plan.ownModule?, Plan.origin_node, htype, Option.map_some]
      obtain ⟨k, hk⟩ :=
        Draft.children_number token n ((Plan.node notes o children).moduleOf base type)
      rw [Option.map_some, Option.toList_some, Draft.numberAll, Draft.numberAll, preorderAll,
        preorderAll, List.append_nil, preorder_eq, hk]
      exact .cons (isModuleOf_number hown n) (forall₂_sourcesAll k children)

/-- The modules of several plans are those of their sources. -/
theorem forall₂_sourcesAll (n : Nat) (ps : List Plan) :
    List.Forall₂ (IsModuleOf base) (Plan.sourcesAll base ps)
      (preorderAll (Draft.numberAll token n (Plan.draftsAll base ps))) := by
  cases ps with
  | nil => exact List.Forall₂.nil
  | cons p rest =>
    rw [Plan.sourcesAll, Plan.draftsAll, Draft.numberAll_append, preorderAll_append]
    exact List.rel_append (forall₂_sources n p) (forall₂_sourcesAll _ rest)

end

end PageModule

/-! ### Pages -/

namespace Conversion

variable (options : ConversionOptions) (mode : WalkMode)

/-- The plans behind the modules of the page of a body, in document order. -/
def sourcesOf (body : Element) : List Plan :=
  Plan.sourcesAll options.baseFontSize (plansOf mode options.threshold body)

/-- **Each module has its source**: the modules of a page in document order are those of the
sources. -/
theorem forall₂_isModuleOf (token : String) (body : Element) :
    List.Forall₂ (PageModule.IsModuleOf options.baseFontSize) (sourcesOf options mode body)
      (PageModule.preorderAll (pageOf options mode token body).content) :=
  PageModule.forall₂_sourcesAll 0 _

/-- A source is a part that the walk plans of elements of the document, and if it is an element of
no type there are several modules inside of it. -/
theorem isPlanned_of_mem_sourcesOf {d : Document} {body : Element} (hbody : d.body? = some body)
    {q : Plan} (hq : q ∈ sourcesOf options mode body) :
    Plan.IsPlanned options.threshold (· ∈ d.elements) q ∧
      (q.origin.isWrapper = true →
        2 ≤ (Plan.draftsAll options.baseFontSize q.inner).length) := by
  have hscope : Plan.IsClosed (· ∈ d.elements) :=
    fun _ he _ hc => Document.mem_elements_of_mem_contentChildren he hc
  obtain ⟨hpart, hwrapper⟩ := Plan.mem_partsAll_of_mem_sources _ _ q hq
  exact ⟨Plan.isPlanned_of_mem_parts hscope (Document.mem_elements_of_body? hbody) hpart, hwrapper⟩

/-- What holds of each planned part and a module of it holds of the sources of a page and of its
modules, one by one. -/
theorem forall₂_sourcesOf {R : Plan → PageModule → Prop} {d : Document} {body : Element}
    (hbody : d.body? = some body) (token : String)
    (h : ∀ q m, Plan.IsPlanned options.threshold (· ∈ d.elements) q →
      (q.origin.isWrapper = true → 2 ≤ m.children.length) →
      m.IsModuleOf options.baseFontSize q → R q m) :
    List.Forall₂ R (sourcesOf options mode body)
      (PageModule.preorderAll (pageOf options mode token body).content) := by
  have hplanned (q : Plan) (hq : q ∈ sourcesOf options mode body) :=
    isPlanned_of_mem_sourcesOf options mode hbody hq
  have hboth := (List.forall₂_and_left _ _).mpr
    ⟨hplanned, forall₂_isModuleOf options mode token body⟩
  refine hboth.imp fun q m ⟨⟨hq, hwrapper⟩, hm⟩ => h q m hq (fun hown => ?_) hm
  rw [hm.length_eq]
  exact hwrapper hown

/-- What holds of every module of a planned part holds of all modules of a page. -/
theorem forall_mem_preorderAll {P : PageModule → Prop} {d : Document} {body : Element}
    (hbody : d.body? = some body) (token : String)
    (h : ∀ q m, Plan.IsPlanned options.threshold (· ∈ d.elements) q →
      (q.origin.isWrapper = true → 2 ≤ m.children.length) →
      m.IsModuleOf options.baseFontSize q → P m) :
    ∀ m ∈ PageModule.preorderAll (pageOf options mode token body).content, P m := by
  have hall := forall₂_sourcesOf (R := fun _ m => P m ∧ True) options mode hbody token
    fun q m hq hwrapper hm => ⟨h q m hq hwrapper hm, trivial⟩
  exact ((List.forall₂_and_left _ _).mp hall.flip).1

end Conversion

end PageModules
