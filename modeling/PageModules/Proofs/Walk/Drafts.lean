import PageModules.Proofs.Walk.Built
import PageModules.Walk.Conversion

/-!
# Where the modules of a page come from

A conversion gives a page exactly if the document has a body, and the page is that of the plans of
the body (`Conversion.outcome_ofDocument_eq_page_iff`).  Each module of a page is a numbered draft
(`PageModule.exists_draft_of_mem_preorder`), and each draft is the own module of a part of the plan
(`Draft.exists_plan_of_mem_parts`).  Numbering keeps the type of a draft and numbers what is inside.
-/

namespace PageModules

namespace Draft

/-- The type of a module. -/
def type : Draft → ModuleType
  | node type _ _ _ => type

/-- The attributes of a module. -/
def attrs : Draft → Attributes
  | node _ attrs _ _ => attrs

/-- Whether a module is numbered after those inside of it. -/
def isLate : Draft → Bool
  | node _ _ isLate _ => isLate

/-- The modules inside, in order. -/
def children : Draft → List Draft
  | node _ _ _ children => children

/-! ### Parts -/

mutual

/-- The modules of a tree, each in front of those inside of it. -/
def parts : Draft → List Draft
  | node type attrs isLate children => node type attrs isLate children :: partsAll children

/-- The modules of several trees, each in front of those inside of it. -/
def partsAll : List Draft → List Draft
  | [] => []
  | d :: rest => parts d ++ partsAll rest

end

theorem partsAll_append (ds es : List Draft) :
    partsAll (ds ++ es) = partsAll ds ++ partsAll es := by
  induction ds with
  | nil => rfl
  | cons d rest ih => simp only [List.cons_append, partsAll, ih, List.append_assoc]

theorem parts_eq (d : Draft) : d.parts = d :: partsAll d.children := by
  cases d
  rfl

/-! ### Drafts of plans -/

/-- What the own module of a plan is. -/
theorem eq_of_ownModule? {base : Int} {p : Plan} {d : Draft} (h : p.ownModule? base = some d) :
    p.origin.type? = some d.type ∧
      d.attrs = p.origin.attributes base (Plan.draftsAll base p.inner).length ∧
      d.isLate = p.origin.isWrapper ∧ d.children = Plan.draftsAll base p.inner := by
  unfold Plan.ownModule? at h
  obtain ⟨type, htype, rfl⟩ := Option.map_eq_some_iff.mp h
  exact ⟨htype, rfl, rfl, rfl⟩

theorem mem_partsAll_ownModule? {base : Int} {p : Plan} {d : Draft}
    (h : d ∈ partsAll (p.ownModule? base).toList) :
    p.ownModule? base = some d ∨ d ∈ partsAll (Plan.draftsAll base p.inner) := by
  cases hown : p.ownModule? base with
  | none =>
    rw [hown] at h
    simp [partsAll] at h
  | some own =>
    obtain ⟨-, -, -, hchildren⟩ := eq_of_ownModule? hown
    rw [hown, Option.toList_some, partsAll, partsAll, List.append_nil, parts_eq, hchildren,
      List.mem_cons] at h
    rcases h with rfl | h
    · exact Or.inl rfl
    · exact Or.inr h

mutual

/-- Each module of a plan is the own module of one of its parts. -/
theorem exists_plan_of_mem_parts (base : Int) (p : Plan) (d : Draft)
    (h : d ∈ partsAll (p.drafts base)) : ∃ q ∈ p.parts, q.ownModule? base = some d := by
  obtain ⟨notes, o, children⟩ := p
  have hinner (hd : d ∈ partsAll (Plan.draftsAll base children)) :
      ∃ q ∈ (Plan.node notes o children).parts, q.ownModule? base = some d := by
    obtain ⟨q, hq, hqd⟩ := exists_plan_of_mem_partsAll base children d hd
    exact ⟨q, List.mem_cons_of_mem _ hq, hqd⟩
  rw [Plan.drafts_eq] at h
  split at h
  -- A plan that gives way to what is inside has no module of its own.
  · exact hinner h
  · rcases mem_partsAll_ownModule? h with hown | hd
    · exact ⟨_, List.mem_cons_self, hown⟩
    · exact hinner hd

/-- Each module of several plans is the own module of one of their parts. -/
theorem exists_plan_of_mem_partsAll (base : Int) (ps : List Plan) (d : Draft)
    (h : d ∈ partsAll (Plan.draftsAll base ps)) :
    ∃ q ∈ Plan.partsAll ps, q.ownModule? base = some d := by
  cases ps with
  | nil => simp [Plan.draftsAll, partsAll] at h
  | cons p rest =>
    rw [Plan.draftsAll, partsAll_append, List.mem_append] at h
    rw [Plan.partsAll]
    rcases h with h | h
    · obtain ⟨q, hq, hqd⟩ := exists_plan_of_mem_parts base p d h
      exact ⟨q, List.mem_append_left _ hq, hqd⟩
    · obtain ⟨q, hq, hqd⟩ := exists_plan_of_mem_partsAll base rest d h
      exact ⟨q, List.mem_append_right _ hq, hqd⟩

end

/-- A document that is read by the shape of its elements has no late modules. -/
theorem isLate_of_mem_parts_ofBody {base : ℤ} {threshold : ℕ} {body : Element} {d : Draft}
    (h : d ∈ partsAll (Plan.draftsAll base (Plan.ofBody threshold body))) : d.isLate = false := by
  obtain ⟨q, hq, hqd⟩ := exists_plan_of_mem_partsAll base _ d h
  have hscope : Plan.IsClosed fun _ => True := fun _ _ _ _ => trivial
  obtain ⟨-, -, hlate, -⟩ := eq_of_ownModule? hqd
  rw [hlate]
  exact (Plan.isBuilt_of_mem_parts hscope trivial hq).isWrapper_origin

/-! ### Numbered drafts -/

variable (token : String)

@[simp] theorem type_number (n : Nat) (d : Draft) : (d.number token n).type = d.type := by
  cases d
  unfold number
  split <;> rfl

/-- The modules inside are those of the draft with numbers. -/
theorem children_number (n : Nat) (d : Draft) :
    ∃ k, (d.number token n).children = numberAll token k d.children := by
  cases d
  unfold number
  split
  · exact ⟨n, rfl⟩
  · exact ⟨n + 1, rfl⟩

theorem mem_numberAll {n : Nat} {ds : List Draft} {m : PageModule}
    (h : m ∈ numberAll token n ds) : ∃ d ∈ ds, ∃ k, m = d.number token k := by
  induction ds generalizing n with
  | nil => simp [numberAll] at h
  | cons d rest ih =>
    rw [numberAll, List.mem_cons] at h
    rcases h with rfl | h
    · exact ⟨d, List.mem_cons_self, n, rfl⟩
    · obtain ⟨d', hd', k, hk⟩ := ih h
      exact ⟨d', List.mem_cons_of_mem _ hd', k, hk⟩

end Draft

namespace PageModule

theorem preorder_eq (m : PageModule) : m.preorder = m :: preorderAll m.children := by
  cases m
  rfl

mutual

/-- Each module of a numbered tree is a part of the tree with a number. -/
theorem exists_draft_of_mem_preorder (token : String) (n : Nat) (d : Draft) (m : PageModule)
    (h : m ∈ (d.number token n).preorder) : ∃ d' ∈ d.parts, ∃ k, m = d'.number token k := by
  obtain ⟨type, attrs, isLate, children⟩ := d
  rw [preorder_eq, List.mem_cons] at h
  rcases h with rfl | h
  · exact ⟨_, List.mem_cons_self, n, rfl⟩
  · obtain ⟨k, hk⟩ := Draft.children_number token n (.node type attrs isLate children)
    rw [hk] at h
    obtain ⟨d', hd', k', hk'⟩ := exists_draft_of_mem_preorderAll token k children m h
    exact ⟨d', List.mem_cons_of_mem _ hd', k', hk'⟩

/-- Each module of several numbered trees is a part of the trees with a number. -/
theorem exists_draft_of_mem_preorderAll (token : String) (n : Nat) (ds : List Draft)
    (m : PageModule) (h : m ∈ preorderAll (Draft.numberAll token n ds)) :
    ∃ d' ∈ Draft.partsAll ds, ∃ k, m = d'.number token k := by
  cases ds with
  | nil => simp [Draft.numberAll, preorderAll] at h
  | cons d rest =>
    rw [Draft.numberAll, preorderAll, List.mem_append] at h
    rw [Draft.partsAll]
    rcases h with h | h
    · obtain ⟨d', hd', k, hk⟩ := exists_draft_of_mem_preorder token n d m h
      exact ⟨d', List.mem_append_left _ hd', k, hk⟩
    · obtain ⟨d', hd', k, hk⟩ := exists_draft_of_mem_preorderAll token _ rest m h
      exact ⟨d', List.mem_append_right _ hd', k, hk⟩

end

/-- A module of the page made of plans is the numbered own module of one of their parts. -/
theorem exists_plan_of_mem_preorder {base : Int} {token : String} {n : Nat} {ps : List Plan}
    {m : PageModule} (h : m ∈ preorderAll (Draft.numberAll token n (Plan.draftsAll base ps))) :
    ∃ q ∈ Plan.partsAll ps, ∃ d k, q.ownModule? base = some d ∧ m = d.number token k := by
  obtain ⟨d, hd, k, hk⟩ := exists_draft_of_mem_preorderAll token n _ m h
  obtain ⟨q, hq, hqd⟩ := Draft.exists_plan_of_mem_partsAll base ps d hd
  exact ⟨q, hq, d, k, hqd, hk⟩

end PageModule

namespace Conversion

/-! ### Pages -/

variable (options : ConversionOptions) (mode : WalkMode)

/-- The page of a body, whose identifiers have the given token. -/
def pageOf (token : String) (body : Element) : Page :=
  let drafts := Plan.draftsAll options.baseFontSize (plansOf mode options.threshold body)
  { success := true
    content := Draft.numberAll token 0 drafts
    css := ""
    mode := mode
    modulesCount := Draft.countAll drafts }

theorem builder_ofDocument {d : Document} {body : Element} (h : d.body? = some body) :
    (ofDocument options mode d).builder =
      .ok (Plan.buildAll options.baseFontSize (plansOf mode options.threshold body)) := by
  unfold ofDocument bodyOf
  rw [h]
  rfl

theorem builder_ofDocument_of_none {d : Document} (h : d.body? = none) :
    (ofDocument options mode d).builder = .error .noBody := by
  unfold ofDocument bodyOf
  rw [h]
  rfl

theorem outcome_of_builder_eq_error {c : Conversion} {err : ConversionError}
    (h : c.builder = .error err) (token : String) : c.outcome token = .failure err.message := by
  unfold outcome
  rw [h]

/-- The page of a builder that numbers drafts. -/
theorem outcome_of_numbers {c : Conversion} {b : Build (List PageModule)} (h : c.builder = .ok b)
    {ds : List Draft} (hb : b.Numbers ds) (token : String) :
    c.outcome token = .page {
      success := true
      content := Draft.numberAll token 0 ds
      css := ""
      mode := c.mode
      modulesCount := Draft.countAll ds } := by
  have hrun : b.run { token } = (Draft.numberAll token 0 ds, ⟨token, 0 + Draft.countAll ds⟩) :=
    hb { token }
  unfold outcome
  rw [h]
  dsimp only
  rw [hrun, Nat.zero_add]

/-- A document with a body gives the page of the body. -/
theorem outcome_of_body? {d : Document} {body : Element} (h : d.body? = some body)
    (token : String) :
    (ofDocument options mode d).outcome token = .page (pageOf options mode token body) :=
  outcome_of_numbers (builder_ofDocument options mode h) (Plan.numbers_buildAll _ _) token

/-- A conversion gives a page exactly if there is a body. -/
theorem outcome_ofDocument_eq_page_iff {d : Document} {token : String} {p : Page} :
    (ofDocument options mode d).outcome token = .page p ↔
      ∃ body, d.body? = some body ∧ pageOf options mode token body = p := by
  cases hbody : d.body? with
  | none =>
    rw [outcome_of_builder_eq_error (builder_ofDocument_of_none options mode hbody)]
    simp
  | some body =>
    rw [outcome_of_body? options mode hbody]
    simp

end Conversion

end PageModules
