import PageModules.Proofs.Json.Agreement
import PageModules.Proofs.Walk.Numbering

/-!
# Pages that are alike

Two pages are alike up to an accord (`Page.Alike`) if they have modules of the same types and
numbers in the same places and the attributes of these agree. Plans are alike if the modules that
come from their origins would be, whatever stands inside (`Plan.Alike`). Alike plans have alike
modules (`Plan.Alike.drafts`), numbering does not tell them apart (`Draft.Alike.number`), so bodies
with alike plans give alike outcomes (`Conversion.alike_outcome`).
-/

namespace PageModules

/-- Modules of the same types in the same places whose attributes agree. -/
inductive Draft.Alike (c : Accord) : Draft → Draft → Prop where
  /-- Two modules with modules inside. -/
  | node {type : ModuleType} {attrs attrs' : Attributes} {isLate : Bool}
      {children children' : List Draft} (attrs_agree : attrs.Agree c attrs')
      (inside : List.Forall₂ (Draft.Alike c) children children') :
      Draft.Alike c (.node type attrs isLate children) (.node type attrs' isLate children')

/-- Modules of the same types and numbers in the same places whose attributes agree. -/
inductive PageModule.Alike (c : Accord) : PageModule → PageModule → Prop where
  /-- Two modules with modules inside. -/
  | intro {m m' : PageModule} (type_eq : m.type = m'.type) (number_eq : m.number = m'.number)
      (attrs_agree : m.attrs.Agree c m'.attrs)
      (inside : List.Forall₂ (PageModule.Alike c) m.children m'.children) : PageModule.Alike c m m'

/-- Pages that differ in their identifiers' token and in attributes outside of the accord only. -/
structure Page.Alike (c : Accord) (p p' : Page) : Prop where
  /-- Both went equally well. -/
  success_eq : p.success = p'.success
  /-- The modules are alike, one by one. -/
  content : List.Forall₂ (PageModule.Alike c) p.content p'.content
  /-- The style sheets are the same. -/
  css_eq : p.css = p'.css
  /-- The ways of reading are the same. -/
  mode_eq : p.mode = p'.mode
  /-- There are equally many modules. -/
  modulesCount_eq : p.modulesCount = p'.modulesCount

/-- Two pages that are alike, or two errors with the same message. -/
inductive Outcome.Alike (c : Accord) : Outcome → Outcome → Prop where
  /-- Two pages. -/
  | page {p p' : Page} (h : p.Alike c p') : Outcome.Alike c (.page p) (.page p')
  /-- Two errors. -/
  | failure (message : String) : Outcome.Alike c (.failure message) (.failure message)

/-- The modules of two origins are alike, as far as they do not depend on what stands inside. -/
structure Origin.Alike (c : Accord) (base base' : ℤ) (o o' : Origin) : Prop where
  /-- The types are the same. -/
  type?_eq : o.type? = o'.type?
  /-- Both or neither give way to what stands inside. -/
  isWrapper_eq : o.isWrapper = o'.isWrapper
  /-- Around equally many modules the attributes agree. -/
  attributes (inside : ℕ) : (o.attributes base inside).Agree c (o'.attributes base' inside)

/-- Plans of the same shape whose origins are alike. -/
inductive Plan.Alike (c : Accord) (base base' : ℤ) : Plan → Plan → Prop where
  /-- Two plans with plans inside. -/
  | node {notes notes' : List Note} {o o' : Origin} {children children' : List Plan}
      (origin : o.Alike c base base' o')
      (inside : List.Forall₂ (Plan.Alike c base base') children children') :
      Plan.Alike c base base' (.node notes o children) (.node notes' o' children')

variable {c : Accord}

/-! ### Numbers -/

namespace Draft

variable (token token' : String)

mutual

/-- Modules that are alike are equally many, and stay alike when they are numbered. -/
theorem Alike.number (n : ℕ) (d d' : Draft) (h : Draft.Alike c d d') :
    d.count = d'.count ∧ (d.number token n).Alike c (d'.number token' n) := by
  cases h with
  | @node type attrs attrs' isLate children children' hattrs hinside =>
    cases isLate with
    | true =>
      obtain ⟨hcount, hnumbered⟩ := alike_numberAll n children children' hinside
      rw [number_late, number_late, count, count, hcount]
      refine ⟨rfl, .intro rfl ?_ hattrs hnumbered⟩
      rw [PageModule.number, PageModule.number, numberOf_identifier, numberOf_identifier]
    | false =>
      obtain ⟨hcount, hnumbered⟩ := alike_numberAll (n + 1) children children' hinside
      rw [number_early, number_early, count, count, hcount]
      refine ⟨rfl, .intro rfl ?_ hattrs hnumbered⟩
      rw [PageModule.number, PageModule.number, numberOf_identifier, numberOf_identifier]

/-- Lists of modules that are alike stay so when they are numbered. -/
theorem alike_numberAll (n : ℕ) (ds ds' : List Draft) (h : List.Forall₂ (Draft.Alike c) ds ds') :
    countAll ds = countAll ds' ∧
      List.Forall₂ (PageModule.Alike c) (numberAll token n ds) (numberAll token' n ds') := by
  cases h with
  | nil => exact ⟨rfl, .nil⟩
  | @cons d d' rest rest' hd hrest =>
    obtain ⟨hcount, hnumbered⟩ := Alike.number n d d' hd
    obtain ⟨hcounts, hothers⟩ := alike_numberAll (n + d.count) rest rest' hrest
    rw [numberAll, numberAll, countAll, countAll, hcount, hcounts]
    exact ⟨rfl, .cons hnumbered (hcount ▸ hothers)⟩

end

end Draft

/-! ### Modules of plans -/

namespace Plan

variable {base base' : ℤ}

/-- Plans of alike origins around equally many modules have alike modules of their own. -/
theorem forall₂_ownModule? {notes notes' : List Note} {o o' : Origin}
    {children children' : List Plan}
    (ho : o.Alike c base base' o')
    (h : List.Forall₂ (Draft.Alike c) (draftsAll base children) (draftsAll base' children')) :
    List.Forall₂ (Draft.Alike c) ((node notes o children).ownModule? base).toList
      ((node notes' o' children').ownModule? base').toList := by
  unfold ownModule? moduleOf
  simp only [origin_node, inner_node, ← ho.type?_eq, ← ho.isWrapper_eq, ← h.length_eq]
  cases o.type? with
  | none => exact .nil
  | some type => exact .cons (.node (ho.attributes _) h) .nil

theorem drafts_node (notes : List Note) (o : Origin) (children : List Plan) :
    (node notes o children).drafts base =
      if o.isWrapper = true ∧ (draftsAll base children).length ≤ 1 then draftsAll base children
      else ((node notes o children).ownModule? base).toList :=
  drafts_eq base (node notes o children)

mutual

/-- Plans that are alike have alike modules. -/
theorem Alike.drafts (p p' : Plan) (h : Plan.Alike c base base' p p') :
    List.Forall₂ (Draft.Alike c) (p.drafts base) (p'.drafts base') := by
  cases h with
  | @node notes notes' o o' children children' ho hinside =>
    have hdrafts := alike_draftsAll children children' hinside
    have hgives : (o'.isWrapper = true ∧ (draftsAll base' children').length ≤ 1) ↔
        (o.isWrapper = true ∧ (draftsAll base children).length ≤ 1) := by
      rw [ho.isWrapper_eq, hdrafts.length_eq]
    rw [drafts_node, drafts_node]
    by_cases h : o.isWrapper = true ∧ (draftsAll base children).length ≤ 1
    · rw [if_pos h, if_pos (hgives.mpr h)]
      exact hdrafts
    · rw [if_neg h, if_neg (mt hgives.mp h)]
      exact forall₂_ownModule? ho hdrafts

/-- Lists of plans that are alike have alike modules. -/
theorem alike_draftsAll (ps ps' : List Plan) (h : List.Forall₂ (Plan.Alike c base base') ps ps') :
    List.Forall₂ (Draft.Alike c) (draftsAll base ps) (draftsAll base' ps') := by
  cases h with
  | nil => exact .nil
  | @cons p p' rest rest' hp hrest =>
    have hdrafts := Alike.drafts p p' hp
    have hothers := alike_draftsAll rest rest' hrest
    rw [draftsAll, draftsAll]
    exact List.rel_append hdrafts hothers

end

mutual

/-- A plan is like itself if its origins are. -/
theorem Alike.of_forall (h : ∀ o : Origin, o.Alike c base base' o) (p : Plan) :
    Plan.Alike c base base' p p := by
  obtain ⟨notes, o, children⟩ := p
  exact .node (h o) (forall₂_alike_of_forall h children)

/-- Several plans are like themselves if their origins are. -/
theorem forall₂_alike_of_forall (h : ∀ o : Origin, o.Alike c base base' o) (ps : List Plan) :
    List.Forall₂ (Plan.Alike c base base') ps ps := by
  cases ps with
  | nil => exact .nil
  | cons p rest => exact .cons (Alike.of_forall h p) (forall₂_alike_of_forall h rest)

end

end Plan

/-! ### Plans that are like a third one -/

theorem Origin.Alike.of_common {base base' base'' : ℤ} {o o' o'' : Origin}
    (h : o.Alike c base base'' o'') (h' : o'.Alike c base' base'' o'') : o.Alike c base base' o' :=
  ⟨h.type?_eq.trans h'.type?_eq.symm, h.isWrapper_eq.trans h'.isWrapper_eq.symm,
    fun inside => (h.attributes inside).of_common (h'.attributes inside)⟩

namespace Plan

variable {base base' base'' : ℤ}

mutual

/-- Plans that are like a third one are alike. -/
theorem Alike.of_common (p p' q : Plan) (h : Plan.Alike c base base'' p q)
    (h' : Plan.Alike c base' base'' p' q) : Plan.Alike c base base' p p' := by
  obtain ⟨ho, hinside⟩ := h
  obtain ⟨ho', hinside'⟩ := h'
  exact .node (ho.of_common ho') (forall₂_alike_of_common _ _ _ hinside hinside')

/-- Lists of plans that are like a third list are alike. -/
theorem forall₂_alike_of_common (ps ps' qs : List Plan)
    (h : List.Forall₂ (Plan.Alike c base base'') ps qs)
    (h' : List.Forall₂ (Plan.Alike c base' base'') ps' qs) :
    List.Forall₂ (Plan.Alike c base base') ps ps' := by
  cases h with
  | nil =>
    cases h'
    exact .nil
  | cons hp hrest =>
    cases h' with
    | cons hp' hrest' =>
      exact .cons (Alike.of_common _ _ _ hp hp') (forall₂_alike_of_common _ _ _ hrest hrest')

end

end Plan

/-! ### Two walks step by step -/

namespace Plan

/-- Steps to related tasks, whose nodes come from origins that are alike. -/
inductive Step.Alike (R : Task → Task → Prop) (c : Accord) (base base' : ℤ) :
    Step → Step → Prop where
  /-- The plans of related tasks. -/
  | calls {tasks tasks' : List Task} (h : List.Forall₂ R tasks tasks') :
    Step.Alike R c base base' (.calls tasks) (.calls tasks')
  /-- Nodes around the plans of related tasks. -/
  | node {notes notes' : List Note} {o o' : Origin} {tasks tasks' : List Task}
    (origin : o.Alike c base base' o') (h : List.Forall₂ R tasks tasks') :
    Step.Alike R c base base' (.node notes o tasks) (.node notes' o' tasks')

variable {base base' : ℤ} {threshold threshold' : ℕ} {R : Task → Task → Prop}

theorem Step.Alike.forall₂_plans {s s' : Step} (h : s.Alike R c base base' s')
    (hplans : ∀ u ∈ s.tasks, ∀ u', R u u' →
      List.Forall₂ (Plan.Alike c base base') (u.plans threshold) (u'.plans threshold')) :
    List.Forall₂ (Plan.Alike c base base') (s.plans threshold) (s'.plans threshold') := by
  have hrel {tasks tasks' : List Task} (hmem : ∀ u ∈ tasks, u ∈ s.tasks)
      (hrel : List.Forall₂ R tasks tasks') :
      List.Forall₂ (Plan.Alike c base base') (tasks.flatMap (Task.plans threshold))
        (tasks'.flatMap (Task.plans threshold')) :=
    List.rel_flatMap ((List.forall₂_and_left _ _).mpr ⟨hmem, hrel⟩)
      fun u u' hu => hplans u hu.1 u' hu.2
  cases h with
  | calls h => exact hrel (fun _ => id) h
  | node origin h => exact .cons (.node origin (hrel (fun _ => id) h)) .nil

/-- **Two walks along each other**: where steps lead from related tasks to related tasks, and their
nodes come from origins that are alike, related tasks make plans that are alike. -/
theorem Task.forall₂_alike_plans
    (h : ∀ t t', R t t' → (t.step threshold).Alike R c base base' (t'.step threshold'))
    {t t' : Task} (ht : R t t') :
    List.Forall₂ (Plan.Alike c base base') (t.plans threshold) (t'.plans threshold') := by
  induction t using Task.induction threshold generalizing t' with
  | h t ih =>
    rw [plans_step, plans_step threshold' t']
    exact (h t t' ht).forall₂_plans fun u hu u' hR => ih u hu hR

end Plan

/-! ### Outcomes -/

/-- Bodies whose plans are alike give alike outcomes, and so do two documents without a body. -/
theorem Conversion.alike_outcome {options options' : ConversionOptions} {mode : WalkMode}
    {d d' : Document}
    (h : Option.Rel (fun body body' => List.Forall₂
      (Plan.Alike c options.baseFontSize options'.baseFontSize)
      (plansOf mode options.threshold body) (plansOf mode options'.threshold body'))
      d.body? d'.body?)
    (token token' : String) :
    ((ofDocument options mode d).outcome token).Alike c
      ((ofDocument options' mode d').outcome token') := by
  cases hbody : d.body? with
  | none =>
    rw [hbody] at h
    cases hbody' : d'.body? with
    | some body' => rw [hbody'] at h; cases h
    | none =>
      rw [outcome_of_builder_eq_error (builder_ofDocument_of_none options mode hbody),
        outcome_of_builder_eq_error (builder_ofDocument_of_none options' mode hbody')]
      exact .failure _
  | some body =>
    rw [hbody] at h
    cases hbody' : d'.body? with
    | none => rw [hbody'] at h; cases h
    | some body' =>
      rw [hbody'] at h
      obtain ⟨hplans⟩ := h
      obtain ⟨hcount, hcontent⟩ :=
        Draft.alike_numberAll token token' 0 _ _ (Plan.alike_draftsAll _ _ hplans)
      rw [outcome_of_body? options mode hbody, outcome_of_body? options' mode hbody']
      exact .page ⟨rfl, hcontent, rfl, rfl, hcount⟩

end PageModules
