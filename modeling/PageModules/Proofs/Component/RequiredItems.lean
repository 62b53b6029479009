import PageModules.Proofs.Component.Confidence

/-!
# Children that are counted and items that are made

A slider and an accordion need children: the pattern counts them, and without enough of them the
element is not recognized.  The items of the component are made of the children that were counted,
in their order, but not of all (`Element.items_of_recognize?`).  A section, an article and a list
item are counted as slides, though only a block or a child with a class of slides is made one, and
an item of an accordion is counted whether or not its header has a text.
-/

namespace PageModules

/-! ### Children that are counted -/

namespace ComponentPattern

/-- The children that count for a pattern. -/
def countedChildren (p : ComponentPattern) (e : Element) : List Element :=
  match p.children with
  | some rule => rule.counted e
  | none => []

/-- The patterns that need children are that of sliders and that of accordions. -/
theorem eq_of_requiredChildren {p : ComponentPattern} (hp : p ∈ all) {n : ℕ}
    (hn : p.requiredChildren = some n) :
    (p.type = .slider ∧ p.children = some (.repeated Component.slideClasses) ∧ n = 2) ∨
      (p.type = .accordion ∧ p.children = some .headedItems ∧ n = 1) := by
  have hall : ∀ q ∈ all, ∀ n ∈ q.requiredChildren,
      (q.type = .slider ∧ q.children = some (.repeated Component.slideClasses) ∧ n = 2) ∨
        (q.type = .accordion ∧ q.children = some .headedItems ∧ n = 1) := by
    decide
  exact hall p hp n hn

/-- A pattern with points has the children that it needs. -/
theorem le_length_countedChildren {p : ComponentPattern} (hp : p ∈ all) {n : ℕ}
    (hn : p.requiredChildren = some n) {e : Element} (hscore : p.score e ≠ 0) :
    n ≤ (p.countedChildren e).length := by
  have hveto : p.isVetoed e = false := by
    rw [Bool.eq_false_iff]
    intro hveto
    rw [score, hveto] at hscore
    exact hscore rfl
  obtain ⟨rule, hrule, hrequired⟩ : ∃ rule, p.children = some rule ∧ rule.required n = n := by
    rcases eq_of_requiredChildren hp hn with ⟨-, hrule, rfl⟩ | ⟨-, hrule, rfl⟩
    · exact ⟨_, hrule, rfl⟩
    · exact ⟨_, hrule, rfl⟩
  have hchildren : rule.score e n ≠ 0 := by
    intro hzero
    have hnone : p.childrenScore e = 0 := by
      rw [childrenScore, hrule, hn]
      exact hzero
    rw [isVetoed, hn, hrule, hnone] at hveto
    simp at hveto
  have hle := ChildrenRule.required_le_of_score_ne_zero hchildren
  rw [hrequired] at hle
  rw [countedChildren, hrule]
  exact hle

end ComponentPattern

/-! ### Items that are made -/

namespace Element

/-- Whether a child that is counted becomes an item of the component of a type. -/
def givesItem (type : ModuleType) (c : Element) : Bool :=
  match type with
  | .slider => c.hasAnyClass Component.slideClasses || c.tagName == "div"
  | .accordion => c.accordionParts?.any fun parts => !parts.1.text.isEmpty
  | _ => true

/-- The item that a child becomes. -/
def itemOf? (type : ModuleType) (c : Element) : Option ComponentItem :=
  match type with
  | .slider => some (Component.slideItem c)
  | .accordion => Component.accordionItem? c
  | _ => none

theorem isSome_accordionItem? (c : Element) :
    (Component.accordionItem? c).isSome =
      (c.accordionParts?.isSome && c.givesItem .accordion) := by
  unfold Component.accordionItem? givesItem
  cases c.accordionParts? with
  | none => rfl
  | some parts =>
    simp only [Option.bind_some, Option.isSome_some, Option.any_some, Bool.true_and,
      Option.isSome_map, Json.filledText?]
    cases parts.1.text.isEmpty <;> rfl

/-- A slider has the items of its repeated children that are blocks or have a class of slides. -/
theorem map_some_items_slider (e : Element) :
    (Component.slider e).items.map some =
      (((ChildrenRule.repeated Component.slideClasses).counted e).filter
        (·.givesItem .slider)).map (itemOf? .slider) := by
  have hitems : (Component.slider e).items =
      (Component.slides e).map Component.slideItem := rfl
  rw [hitems, List.map_map]
  rfl

/-- An accordion has the items of its children with a header and contents, as far as the header has
a text. -/
theorem map_some_items_accordion (e : Element) :
    (Component.accordion e).items.map some =
      ((ChildrenRule.headedItems.counted e).filter (·.givesItem .accordion)).map
        (itemOf? .accordion) := by
  have hitems : (Component.accordion e).items =
      e.childElements.filterMap Component.accordionItem? := rfl
  have hcounted : ChildrenRule.headedItems.counted e =
      e.childElements.filter (·.accordionParts?.isSome) := rfl
  have hsome : Option.isSome ∘ Component.accordionItem? =
      fun c => c.givesItem .accordion && c.accordionParts?.isSome :=
    funext fun c => (isSome_accordionItem? c).trans (Bool.and_comm _ _)
  rw [hitems, List.map_filterMap_some_eq_filter_map_isSome, List.filter_map, hsome, hcounted,
    List.filter_filter]
  rfl

/-- **A component has an item for each child that was counted, unless that gives none.**  Where a
pattern needs children, the element has as many that count; the items are those of the children that
give one, in their order; and if all of them do, there are as many items as the pattern needs. -/
theorem items_of_recognize? {e : Element} {r : Recognition} (hr : e.recognize? = some r)
    {p : ComponentPattern} (hp : p ∈ ComponentPattern.all) (htype : p.type = r.type) {n : ℕ}
    (hn : p.requiredChildren = some n) :
    n ≤ (p.countedChildren e).length ∧
    r.component.items.map some =
      ((p.countedChildren e).filter (·.givesItem r.type)).map (itemOf? r.type) ∧
    ((∀ c ∈ p.countedChildren e, c.givesItem r.type = true) → n ≤ r.component.items.length) := by
  obtain ⟨⟨q, score⟩, hbest, rfl⟩ := Option.map_eq_some_iff.mp hr
  have hqp : q = p :=
    ComponentPattern.eq_of_type_eq (ComponentPattern.mem_all_of_best? hbest) hp htype.symm
  subst hqp
  have hcounted : n ≤ (q.countedChildren e).length := by
    obtain ⟨hscore, hne⟩ := ComponentPattern.score_of_best? hbest
    exact ComponentPattern.le_length_countedChildren hp hn (hscore ▸ hne)
  have hitems : (Component.ofElement e q.type).items.map some =
      ((q.countedChildren e).filter (·.givesItem q.type)).map (itemOf? q.type) := by
    rcases ComponentPattern.eq_of_requiredChildren hp hn with ⟨hslider, hrule, -⟩ |
      ⟨haccordion, hrule, -⟩
    · rw [ComponentPattern.countedChildren, hrule, hslider]
      exact map_some_items_slider e
    · rw [ComponentPattern.countedChildren, hrule, haccordion]
      exact map_some_items_accordion e
  refine ⟨hcounted, hitems, fun hall => ?_⟩
  have hlength := congrArg List.length hitems
  rw [List.length_map, List.length_map, List.filter_eq_self.mpr hall] at hlength
  exact hlength ▸ hcounted

/-- A slider with the given names of the element and of two children. -/
def sliderOf (name child : String) : Element :=
  ⟨⟨.html, name, [⟨.none, "class", "slider"⟩]⟩,
    ["One", "Two"].map fun heading =>
      .element ⟨.html, child, []⟩ [.element ⟨.html, "h2", []⟩ [.text heading]]⟩

/-- Blocks are counted, and become slides. -/
theorem items_of_recognize?_sliderOf_div : ∃ r, (sliderOf "div" "div").recognize? = some r ∧
    (∃ p ∈ ComponentPattern.all, p.type = r.type ∧ p.requiredChildren = some 2) ∧
    2 ≤ r.component.items.length := by
  have htype : (sliderOf "div" "div").recognize?.map (·.type) = some .slider := by decide +kernel
  have hpattern : ∃ p ∈ ComponentPattern.all, p.type = .slider ∧ p.requiredChildren = some 2 ∧
      ∀ c ∈ p.countedChildren (sliderOf "div" "div"), c.givesItem .slider = true := by
    decide +kernel
  obtain ⟨r, hr, hrtype⟩ := Option.map_eq_some_iff.mp htype
  obtain ⟨p, hp, hptype, hn, hgives⟩ := hpattern
  rw [← hrtype] at hptype hgives
  exact ⟨r, hr, ⟨p, hp, hptype, hn⟩, (items_of_recognize? hr hp hptype hn).2.2 hgives⟩

/-- List items are counted, but become no slides. -/
theorem not_le_length_items_sliderOf_li :
    ¬ ∀ (e : Element) r, e.recognize? = some r → ∀ p ∈ ComponentPattern.all, p.type = r.type →
      ∀ n ∈ p.requiredChildren, n ≤ r.component.items.length := by
  intro h
  have hitems : (sliderOf "ul" "li").recognize?.map (fun r => (r.type, r.component.items.length)) =
      some (.slider, 0) := by
    decide +kernel
  have hpattern : ∃ p ∈ ComponentPattern.all, p.type = .slider ∧ p.requiredChildren = some 2 := by
    decide
  obtain ⟨r, hr, hrzero⟩ := Option.map_eq_some_iff.mp hitems
  obtain ⟨hrtype, hzero⟩ := Prod.mk.inj hrzero
  obtain ⟨p, hp, hptype, hn⟩ := hpattern
  have hle := h _ r hr p hp (hptype.trans hrtype.symm) 2 hn
  omega

end Element

end PageModules
