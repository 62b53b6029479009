import Mathlib.Data.Nat.Notation
import PageModules.Proofs.Component.FirstLinks

/-!
# Tabs and their panels

The titles of tabs and the panels are gathered apart from each other, and the shorter list is filled
up: there is an item for each place of the longer one (`Component.ShowsTabs`).  The panel that is
shown first is found among the panels, so it is the number of an item as well
(`Component.showsTabs_tabs`).
-/

namespace PageModules.Component

/-! ### Panels -/

/-- An element has one of the classes of panels, and none below it has. -/
structure IsInnermostPanel (p : Element) : Prop where
  /-- The element has one of the classes. -/
  hasAnyClass : p.hasAnyClass tabPanelClasses = true
  /-- No element below it has. -/
  below : ∀ q ∈ p.descendants, q.hasAnyClass tabPanelClasses = false

theorem hasClassBelow_eq_false_iff {p : Element} {classes : List String} :
    p.hasClassBelow classes = false ↔ ∀ q ∈ p.descendants, q.hasAnyClass classes = false := by
  rw [Element.hasClassBelow, List.any_eq_false]
  exact forall₂_congr fun q _ => Bool.not_eq_true _ ▸ Iff.rfl

/-- The panels of tabs are the innermost elements with their classes. -/
theorem mem_tabPanels_iff {e p : Element} :
    p ∈ tabPanels e ↔ p ∈ e.descendants ∧ IsInnermostPanel p := by
  rw [tabPanels, List.mem_filter, List.mem_filter, Bool.not_eq_true', hasClassBelow_eq_false_iff,
    and_assoc]
  exact and_congr_right fun _ => ⟨fun h => ⟨h.1, h.2⟩, fun h => ⟨h.hasAnyClass, h.below⟩⟩

/-- The panels stand in document order. -/
theorem tabPanels_sublist (e : Element) : (tabPanels e).Sublist e.descendants :=
  List.filter_sublist.trans List.filter_sublist

/-- No panel stands inside of another one. -/
theorem not_mem_descendants_of_mem_tabPanels {e p q : Element} (hp : p ∈ tabPanels e)
    (hq : q ∈ tabPanels e) : q ∉ p.descendants := by
  intro hbelow
  have hclass := (mem_tabPanels_iff.mp hq).2.hasAnyClass
  rw [(mem_tabPanels_iff.mp hp).2.below q hbelow] at hclass
  cases hclass

/-! ### Items -/

/-- The item for a title and a panel, one of which may be missing: a title that is there and not
empty is kept, and there is always one. -/
structure IsTab (title? : Option String) (panel? : Option Element) (item : ComponentItem) :
    Prop where
  /-- The type. -/
  type : item.type = .tabsItem
  /-- The title. -/
  title : ∃ title, item.text? "title" = some title ∧ title ≠ "" ∧
    ∀ given, title? = some given → given ≠ "" → title = given
  /-- The markup of the panel, or nothing. -/
  content : item.text? "content" = some ((panel?.map (·.innerMarkup)).getD "")

theorem defaultTabTitle_ne_empty (i : ℕ) : defaultTabTitle i ≠ "" := by
  intro h
  have hlength := congrArg String.length h
  rw [defaultTabTitle, String.length_append] at hlength
  simp at hlength

theorem isTab_tabItem (titles : List String) (panels : List Element) (i : ℕ) :
    IsTab titles[i]? panels[i]? (tabItem titles panels i) := by
  have hne : "title" ≠ "content" := by decide
  have hnone (k : String) : (Attributes.ofDraft []).find? k = none := rfl
  unfold tabItem
  extract_lets title content
  refine ⟨rfl, ⟨title, ?_, ?_, ?_⟩, ?_⟩
  · simp [ComponentItem.text?, Attributes.find?_ofDraft_cons, hnone, hne.symm, Json.text?]
  · unfold title
    cases hfilled : titles[i]?.filter fun t => !t.isEmpty with
    | none => exact defaultTabTitle_ne_empty i
    | some t => simpa using (Option.filter_eq_some_iff.mp hfilled).2
  · intro given hgiven hfilled
    unfold title
    have hkept : (some given).filter (fun t => !t.isEmpty) = some given :=
      Option.filter_eq_some_iff.mpr ⟨rfl, by simpa using hfilled⟩
    rw [hgiven, hkept, Option.getD_some]
  · simp [ComponentItem.text?, Attributes.find?_ofDraft_cons, hnone, hne, Json.text?, content]

/-! ### The panel that is shown first -/

/-- The classes of the panel that is shown first. -/
def activeClasses : List String := ["active", "show", "visible"]

/-- A number is that of the first panel that is marked as active, if there is one. -/
def IsFirstActive (panels : List Element) (active : ℕ) : Prop :=
  (∃ p ∈ panels, p.hasAnyClass activeClasses = true) →
    (∃ p, panels[active]? = some p ∧ p.hasAnyClass activeClasses = true) ∧
      ∀ p ∈ panels.take active, p.hasAnyClass activeClasses = false

theorem isFirstActive_findIdx? (panels : List Element) :
    IsFirstActive panels ((panels.findIdx? (·.hasAnyClass activeClasses)).getD 0) := by
  rintro ⟨p, hp, hactive⟩
  cases hfind : panels.findIdx? (·.hasAnyClass activeClasses) with
  | none =>
    rw [List.findIdx?_eq_none_iff.mp hfind p hp] at hactive
    cases hactive
  | some i =>
    obtain ⟨hlt, hclass, hbefore⟩ := List.findIdx?_eq_some_iff_getElem.mp hfind
    refine ⟨⟨panels[i], List.getElem?_eq_getElem hlt, hclass⟩, fun q hq => ?_⟩
    obtain ⟨j, hj, rfl⟩ := List.mem_take_iff_getElem.mp hq
    exact Bool.eq_false_iff.mpr (hbefore j (Nat.lt_min.mp hj).1)

/-- The number is that of an item if there are any, at least as many as panels. -/
theorem getD_findIdx?_lt {panels : List Element} {n : ℕ} (hn : 0 < n) (hle : panels.length ≤ n)
    (classes : List String) : (panels.findIdx? (·.hasAnyClass classes)).getD 0 < n := by
  cases hfind : panels.findIdx? (·.hasAnyClass classes) with
  | none => exact hn
  | some i => exact Nat.lt_of_lt_of_le (List.findIdx?_eq_some_iff_getElem.mp hfind).1 hle

/-- Tabs show titles and panels: the items are as many as the longer of the two lists, each has the
title and the panel of its place, and the tab that is shown first is one of them. -/
structure ShowsTabs (titles : List String) (panels : List Element) (c : Component) : Prop where
  /-- There is an item for each title and each panel. -/
  length_items : c.items.length = max titles.length panels.length
  /-- An item has the title and the panel of its place. -/
  items : ∀ (i : ℕ) (item : ComponentItem), c.items[i]? = some item →
    IsTab titles[i]? panels[i]? item
  /-- The number of the tab that is shown first is that of an item, and of the first panel that is
  marked as active. -/
  active : ∃ active : ℕ, c.attrs.find? "active_tab_idx" = some (.integer active) ∧
    (c.items ≠ [] → active < c.items.length) ∧ IsFirstActive panels active

/-- **Tabs show the titles of their navigation and their innermost panels**, none of which stands
inside of another one. -/
theorem showsTabs_tabs (e : Element) :
    (tabPanels e).Sublist e.descendants ∧
      (∀ p, p ∈ tabPanels e ↔ p ∈ e.descendants ∧ IsInnermostPanel p) ∧
      (∀ p ∈ tabPanels e, ∀ q ∈ tabPanels e, q ∉ p.descendants) ∧
      ShowsTabs (tabTitles e) (tabPanels e) (ofElement e .tabs) := by
  have hlength : (ofElement e .tabs).items.length =
      max (tabTitles e).length (tabPanels e).length := by
    rw [ofElement, tabs, List.length_map, List.length_range]
  refine ⟨tabPanels_sublist e, fun p => mem_tabPanels_iff,
    fun p hp q hq => not_mem_descendants_of_mem_tabPanels hp hq, hlength, ?_, ?_⟩
  · intro i item hitem
    rw [ofElement, tabs, List.getElem?_map] at hitem
    obtain ⟨j, hj, rfl⟩ := Option.map_eq_some_iff.mp hitem
    obtain ⟨hlt, rfl⟩ := List.getElem?_eq_some_iff.mp hj
    rw [List.getElem_range]
    exact isTab_tabItem _ _ i
  -- The number is found among the panels, and there are at least as many items.
  · refine ⟨_, rfl, fun hitems => ?_, isFirstActive_findIdx? (tabPanels e)⟩
    have hle : (tabPanels e).length ≤ (ofElement e .tabs).items.length :=
      hlength ▸ Nat.le_max_right _ _
    exact getD_findIdx?_lt (List.length_pos_of_ne_nil hitems) hle activeClasses

end PageModules.Component
