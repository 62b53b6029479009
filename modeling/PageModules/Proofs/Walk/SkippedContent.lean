import PageModules.Proofs.Walk.OwnText

/-!
# Columns of skipped elements

Styles, scripts and the other skipped elements make no modules.  A column of nothing else has no
module of its children, but the test whether it has a text of its own counts every element: skipped
ones make it one module of text, which shows their markup
(`Plan.draftsAll_columnContent_of_skipped`).  Only a column without any element is left empty.
-/

namespace PageModules

open Chars (IsTrimmed)

/-! ### Markup -/

namespace Serialization

/-- The markup of an element starts and ends with a bracket. -/
theorem isTrimmed_node_element (parent : Option String) (tag : Tag) (children : List Node) :
    IsTrimmed (node parent (.element tag children)) := by
  have hbrackets {s : List Char} (hs : ∃ inner, s = '<' :: inner ++ ['>']) : IsTrimmed s := by
    obtain ⟨inner, rfl⟩ := hs
    exact IsTrimmed.between (s := ['<']) (.of_forall (by decide)) (List.cons_ne_nil _ _)
      (.of_forall (by decide)) (List.cons_ne_nil _ _) inner
  refine hbrackets ?_
  change ∃ inner, (if isVoid tag then startTag tag
    else startTag tag ++ nodes (htmlName? tag) children ++ endTag tag) = '<' :: inner ++ ['>']
  split
  case isTrue => exact ⟨_, rfl⟩
  case isFalse =>
    refine ⟨tag.name.toList ++ tag.attrs.flatMap attr ++ ['>'] ++ nodes (htmlName? tag) children ++
      "</".toList ++ tag.name.toList, ?_⟩
    simp [startTag, endTag]

end Serialization

namespace Element

theorem toNode_mem_children {c e : Element} (h : c ∈ e.childElements) : c.toNode ∈ e.children := by
  obtain ⟨n, hn, hc⟩ := List.mem_filterMap.mp h
  cases n with
  | element tag children => exact Option.some.inj hc ▸ hn
  | _ => cases hc

/-- The markup of an element holds that of its children. -/
theorem outerMarkup_infix_innerMarkup {c e : Element} (h : c ∈ e.childElements) :
    c.outerMarkup.toList <:+: e.innerMarkup.toList := by
  rw [outerMarkup, innerMarkup, String.toList_ofList, String.toList_ofList]
  exact (Serialization.isTrimmed_node_element _ _ _).infix_trim
    (Serialization.node_infix_nodes (toNode_mem_children h))

/-! ### Columns -/

/-- No module is made of an element. -/
def IsSkipped (e : Element) : Prop := skippedTags.contains e.tagName = true

instance (e : Element) : Decidable e.IsSkipped :=
  inferInstanceAs (Decidable (skippedTags.contains e.tagName = true))

theorem contentChildren_eq_nil_iff {e : Element} :
    e.contentChildren = [] ↔ ∀ c ∈ e.childElements, c.IsSkipped := by
  rw [contentChildren, List.filter_eq_nil_iff]
  exact forall₂_congr fun c _ => by rw [Bool.not_eq_true', Bool.not_eq_false, IsSkipped]

/-- Without a text of its own an element counts as filled if there is any element inside. -/
theorem hasSignificantContent_iff {e : Element} (h : e.hasDirectText = false) :
    e.hasSignificantContent = true ↔ e.childElements ≠ [] := by
  rw [hasSignificantContent, h, Bool.or_false, Bool.not_eq_true', List.isEmpty_eq_false_iff]

end Element

namespace Plan

/-- The module of a text. -/
def textDraft (content : String) : Draft :=
  .node .text (.ofDraft [("content", some (.text content))]) false []

/-- **A column of skipped elements without a text of its own has no module exactly if there are no
such elements**; otherwise it has one of text, which shows the markup of all of them. -/
theorem draftsAll_columnContent_of_skipped (threshold : ℕ) (base : ℤ) {e : Element}
    (hskipped : ∀ c ∈ e.childElements, c.IsSkipped) (htext : e.hasDirectText = false) :
    draftsAll base (columnContent threshold e) =
        (if e.childElements = [] then [] else [textDraft e.innerMarkup]) ∧
      ∀ c ∈ e.childElements, c.outerMarkup.toList <:+: e.innerMarkup.toList := by
  refine ⟨?_, fun c hc => Element.outerMarkup_infix_innerMarkup hc⟩
  rw [columnContent_of_nil threshold (Element.contentChildren_eq_nil_iff.mpr hskipped)]
  have hfilled := Element.hasSignificantContent_iff htext
  by_cases hnone : e.childElements = []
  · rw [if_pos hnone, if_neg (fun h => hfilled.mp h hnone)]
    rfl
  · rw [if_neg hnone, if_pos (hfilled.mpr hnone)]
    rfl

/-- A column around an element of a name with a text. -/
def columnAround (name content : String) : Element :=
  ⟨⟨.html, "div", [⟨.none, "class", "col"⟩]⟩,
    [.text "\n", .element ⟨.html, name, []⟩ [.text content], .comment "end"]⟩

/-- The markup of a script becomes a text. -/
theorem draftsAll_columnContent_script :
    (∀ c ∈ (columnAround "script" "a<b").childElements, c.IsSkipped) ∧
      (columnAround "script" "a<b").hasDirectText = false ∧
      draftsAll 16 (columnContent 50 (columnAround "script" "a<b")) =
        [textDraft "<script>a<b</script><!--end-->"] := by
  have hskipped : ∀ c ∈ (columnAround "script" "a<b").childElements, c.IsSkipped := by
    decide +kernel
  have htext : (columnAround "script" "a<b").hasDirectText = false := by decide +kernel
  have hmarkup : (columnAround "script" "a<b").innerMarkup = "<script>a<b</script><!--end-->" := by
    decide +kernel
  refine ⟨hskipped, htext, ?_⟩
  rw [(draftsAll_columnContent_of_skipped 50 16 hskipped htext).1, hmarkup]
  rfl

/-- A column of a script has a module. -/
theorem not_draftsAll_columnContent_eq_nil :
    ¬ ∀ (threshold : ℕ) (base : ℤ) (e : Element), (∀ c ∈ e.childElements, c.IsSkipped) →
      e.hasDirectText = false → draftsAll base (columnContent threshold e) = [] := by
  intro h
  have hskipped : ∀ c ∈ (columnAround "script" "x").childElements, c.IsSkipped := by
    decide +kernel
  have hempty := h 50 16 (columnAround "script" "x") hskipped (by decide +kernel)
  have hchildren : (columnAround "script" "x").contentChildren = [] :=
    Element.contentChildren_eq_nil_iff.mpr hskipped
  have hfilled : (columnAround "script" "x").hasSignificantContent = true := by decide +kernel
  rw [columnContent_of_nil 50 hchildren, if_pos hfilled] at hempty
  cases hempty

end Plan

end PageModules
