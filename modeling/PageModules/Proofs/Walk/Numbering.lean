import Mathlib.Data.List.Nodup
import PageModules.Proofs.Lists
import PageModules.Proofs.Markup.Descent
import PageModules.Proofs.Walk.Drafts
import PageModules.Walk.Conversion

/-!
# The numbers of modules

`PageModule.number` reads the number of a module back from its identifier.  A page is numbered
(`Page.IsNumbered`) if its modules have the numbers from one to their count, each once, every tree
has an interval of numbers, and trees that stand side by side have consecutive intervals.

The identifiers of a page are drawn while its modules are built, one for each module and no other
(`Plan.numbers_buildAll`), so every conversion that gives a page numbers it
(`Conversion.isNumbered_of_outcome_eq`).  A module that draws behind those inside of it has the last
number of its interval, and any other the first one; in a document that is read by the shape of its
elements all draw in front, so the numbers count up in document order.
-/

namespace PageModules

/-! ### Reading numbers -/

/-- The number behind the last underscore of an identifier. -/
def numberOf (id : String) : ℕ := Nat.ofDigitChars 10 (id.toList.rtakeWhile (· != '_')) 0

@[simp] theorem numberOf_identifier (type : ModuleType) (token : String) (n : ℕ) :
    numberOf (type.identifier token n) = n := by
  have hid : (type.identifier token n).toList =
      (type.slug ++ "_" ++ token).toList ++ '_' :: Nat.toDigits 10 n := by
    simp [ModuleType.identifier]
  have hdigits : ∀ c ∈ Nat.toDigits 10 n, (c != '_') = true := by
    intro c hc
    rw [bne_iff_ne]
    rintro rfl
    exact Nat.underscore_not_in_toDigits hc
  rw [numberOf, hid, Lists.rtakeWhile_append_cons (by simp) hdigits, Nat.ofDigitChars_ten_toDigits]

namespace PageModule

/-- The number of a module. -/
def number (m : PageModule) : ℕ := numberOf m.id

/-- The modules of the tree have the numbers of an interval, each once. -/
def HasInterval (first : ℕ) (m : PageModule) : Prop :=
  (m.preorder.map number).Perm (List.range' first m.count)

/-- The trees have intervals of numbers that follow each other. -/
def Consecutive (first : ℕ) : List PageModule → Prop
  | [] => True
  | m :: rest => m.HasInterval first ∧ Consecutive (first + m.count) rest

theorem countAll_eq_sum (ms : List PageModule) : countAll ms = (ms.map count).sum := by
  induction ms with
  | nil => rfl
  | cons m rest ih => rw [countAll, ih, List.map_cons, List.sum_cons]

end PageModule

/-- The modules of the page are numbered without a gap and without a repetition. -/
structure Page.IsNumbered (p : Page) (token : String) : Prop where
  /-- The page counts the modules of its trees. -/
  count_eq_sum : p.modulesCount = (p.content.map PageModule.count).sum
  /-- The numbers go from one to the count, each once. -/
  numbers : ((PageModule.preorderAll p.content).map PageModule.number).Perm
    (List.range' 1 p.modulesCount)
  /-- An identifier is the name of the type, the token and the number. -/
  id_eq : ∀ m ∈ PageModule.preorderAll p.content,
    m.id = m.type.slug ++ "_" ++ token ++ "_" ++ toString m.number
  /-- No identifier stands twice. -/
  nodup_ids : ((PageModule.preorderAll p.content).map (·.id)).Nodup
  /-- The trees of the page have consecutive intervals. -/
  consecutive : PageModule.Consecutive 1 p.content
  /-- Every tree inside has an interval, and so have those inside of it, one after the other. -/
  interval : ∀ m ∈ PageModule.preorderAll p.content,
    (∃ first, m.HasInterval first) ∧ ∃ first, PageModule.Consecutive first m.children
  /-- By the shape of the elements the numbers count up in document order. -/
  preorder_eq : p.mode = .generic →
    (PageModule.preorderAll p.content).map PageModule.number = List.range' 1 p.modulesCount

/-! ### Numbered drafts -/

namespace Draft

variable (token : String)

/-- The identifier of a numbered draft has its type and its number. -/
theorem id_number (n : ℕ) (d : Draft) :
    (d.number token n).id = d.type.identifier token (d.number token n).number := by
  obtain ⟨type, attrs, isLate, children⟩ := d
  unfold PageModule.number number
  split
  · rw [numberOf_identifier]
    rfl
  · rw [numberOf_identifier]
    rfl

theorem number_late (n : ℕ) (type : ModuleType) (attrs : Attributes) (children : List Draft) :
    (node type attrs true children).number token n =
      ⟨type.identifier token (n + countAll children + 1), type, attrs,
        numberAll token n children⟩ := by
  rw [number, if_pos rfl]

theorem number_early (n : ℕ) (type : ModuleType) (attrs : Attributes) (children : List Draft) :
    (node type attrs false children).number token n =
      ⟨type.identifier token (n + 1), type, attrs, numberAll token (n + 1) children⟩ := by
  rw [number, if_neg Bool.false_ne_true]

mutual

/-- The modules of a tree have the numbers after `n`. -/
theorem perm_number (n : ℕ) (d : Draft) :
    ((d.number token n).preorder.map PageModule.number).Perm (List.range' (n + 1) d.count) := by
  obtain ⟨type, attrs, isLate, children⟩ := d
  cases isLate with
  | true =>
    -- A late module has the last number of the interval.
    have ih := perm_numberAll n children
    rw [number_late, PageModule.preorder, List.map_cons, PageModule.number, numberOf_identifier,
      count, List.range'_1_concat, Nat.add_right_comm]
    exact (ih.cons _).trans (List.perm_append_singleton _ _).symm
  | false =>
    -- Any other module has the first one.
    have ih := perm_numberAll (n + 1) children
    rw [number_early, PageModule.preorder, List.map_cons, PageModule.number, numberOf_identifier,
      count, List.range'_succ]
    exact ih.cons _

/-- The modules of several trees have the numbers after `n`. -/
theorem perm_numberAll (n : ℕ) (ds : List Draft) :
    ((PageModule.preorderAll (numberAll token n ds)).map PageModule.number).Perm
      (List.range' (n + 1) (countAll ds)) := by
  cases ds with
  | nil => exact List.Perm.nil
  | cons d rest =>
    have ih := perm_number n d
    have ihRest := perm_numberAll (n + d.count) rest
    rw [numberAll, PageModule.preorderAll, List.map_append, countAll, ← List.range'_append_1]
    rw [Nat.add_right_comm] at ihRest
    exact ih.append ihRest

end

mutual

/-- Without late modules the numbers count up in preorder. -/
theorem map_number_preorder (n : ℕ) (d : Draft) (h : ∀ d' ∈ d.parts, d'.isLate = false) :
    (d.number token n).preorder.map PageModule.number = List.range' (n + 1) d.count := by
  obtain ⟨type, attrs, isLate, children⟩ := d
  rw [parts, List.forall_mem_cons] at h
  obtain ⟨rfl, hchildren⟩ := h
  have ih := map_number_preorderAll (n + 1) children hchildren
  rw [number_early, PageModule.preorder, List.map_cons, PageModule.number, numberOf_identifier,
    count, List.range'_succ, ih]

/-- Without late modules the numbers of several trees count up in preorder. -/
theorem map_number_preorderAll (n : ℕ) (ds : List Draft)
    (h : ∀ d' ∈ partsAll ds, d'.isLate = false) :
    (PageModule.preorderAll (numberAll token n ds)).map PageModule.number =
      List.range' (n + 1) (countAll ds) := by
  cases ds with
  | nil => rfl
  | cons d rest =>
    rw [partsAll, List.forall_mem_append] at h
    have ih := map_number_preorder n d h.1
    have ihRest := map_number_preorderAll (n + d.count) rest h.2
    rw [numberAll, PageModule.preorderAll, List.map_append, ih, ihRest, countAll,
      ← List.range'_append_1, Nat.add_right_comm]

end

theorem hasInterval_number (n : ℕ) (d : Draft) : (d.number token n).HasInterval (n + 1) := by
  rw [PageModule.HasInterval, count_number]
  exact perm_number token n d

theorem consecutive_numberAll (n : ℕ) (ds : List Draft) :
    PageModule.Consecutive (n + 1) (numberAll token n ds) := by
  induction ds generalizing n with
  | nil => trivial
  | cons d rest ih =>
    have hrest := ih (n + d.count)
    rw [numberAll, PageModule.Consecutive, count_number, Nat.add_right_comm]
    exact ⟨hasInterval_number token n d, hrest⟩

end Draft

/-! ### Pages -/

namespace Conversion

/-- **The modules of a page are numbered**: whatever the document, the options, the way of reading
and the token are, a conversion that gives a page gives one that is numbered.  The page counts the
identifiers that its builders drew, and these are those of its modules. -/
theorem isNumbered_of_outcome_eq {options : ConversionOptions} {mode : WalkMode} {d : Document}
    {token : String} {p : Page} (h : (ofDocument options mode d).outcome token = .page p) :
    p.IsNumbered token := by
  obtain ⟨body, -, rfl⟩ := (outcome_ofDocument_eq_page_iff options mode).mp h
  set drafts := Plan.draftsAll options.baseFontSize (plansOf mode options.threshold body)
    with hdrafts
  have hperm := Draft.perm_numberAll token 0 drafts
  refine
    { count_eq_sum := ?_
      numbers := hperm
      id_eq := ?_
      nodup_ids := ?_
      consecutive := Draft.consecutive_numberAll token 0 drafts
      interval := ?_
      preorder_eq := ?_ }
  · rw [← PageModule.countAll_eq_sum]
    exact (Draft.countAll_numberAll token 0 drafts).symm
  · intro m hm
    obtain ⟨d', -, k, rfl⟩ := PageModule.exists_draft_of_mem_preorderAll token 0 drafts m hm
    rw [Draft.type_number, Nat.toString_eq_ofList_toDigits]
    exact Draft.id_number token k d'
  · -- The numbers are read from the identifiers, so equal identifiers would give equal numbers.
    apply List.Nodup.of_map numberOf
    rw [List.map_map]
    exact hperm.nodup_iff.mpr List.nodup_range'
  · intro m hm
    obtain ⟨d', -, k, rfl⟩ := PageModule.exists_draft_of_mem_preorderAll token 0 drafts m hm
    obtain ⟨k', hchildren⟩ := Draft.children_number token k d'
    rw [hchildren]
    exact ⟨⟨k + 1, Draft.hasInterval_number token k d'⟩,
      ⟨k' + 1, Draft.consecutive_numberAll token k' d'.children⟩⟩
  · intro hmode
    apply Draft.map_number_preorderAll
    intro d' hd'
    obtain rfl : mode = .generic := hmode
    exact Draft.isLate_of_mem_parts_ofBody hd'

/-- The section around two paragraphs comes after them. -/
theorem isNumbered_two_paragraphs :
    ∃ p, (ofDocument {} .annotated
        (.ofBody [.plain "div" [.paragraph "one", .paragraph "two"]])).outcome "0123456789abc" =
          .page p ∧
      p.IsNumbered "0123456789abc" ∧
      (PageModule.preorderAll p.content).map (·.id) =
        ["section_0123456789abc_3", "text_0123456789abc_1", "text_0123456789abc_2"] := by
  have hpage := outcome_of_body? {} .annotated
    (Document.body?_ofBody [.plain "div" [.paragraph "one", .paragraph "two"]]) "0123456789abc"
  refine ⟨_, hpage, isNumbered_of_outcome_eq hpage, ?_⟩
  obtain ⟨notes, hplan⟩ := Plan.ofMarked_of_none 50
    (e := .plain "div" [.paragraph "one", .paragraph "two"]) (by decide +kernel)
  rw [Element.contentChildren_plain (by decide +kernel)] at hplan
  have hone : (Element.paragraph "one").type? = some .text := by decide +kernel
  have htwo : (Element.paragraph "two").type? = some .text := by decide +kernel
  have hleaf (e : Element) : Plan.typedChildren 50 e .text = [] :=
    Plan.typedChildren_of_leaf 50 (by decide) rfl e
  rw [pageOf, plansOf, Plan.ofMarkedBody, Element.contentChildren_plain (by decide +kernel)]
  simp only [List.map_cons, List.map_nil, hplan, Plan.draftsAll, Plan.drafts,
    Plan.drafts_ofMarked_of_type? _ _ hone, Plan.drafts_ofMarked_of_type? _ _ htwo,
    Plan.typedModule, Plan.moduleOf, Plan.ofTyped, Plan.inner_node, hleaf]
  decide

end Conversion

end PageModules
