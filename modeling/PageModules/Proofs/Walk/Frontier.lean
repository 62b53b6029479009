import PageModules.Proofs.Markup.Descent
import PageModules.Proofs.Walk.Drafts

/-!
# The frontier of a marked document

In a document that is read by its markers, the elements of a known type that are reached through
elements of no type are its frontier (`Element.frontier`).  An element of no type is transparent: it
gives way to what is inside, in a section if that is several modules (`Element.IsTransparent`).

Once these sections are dissolved, one module for each element of the frontier is left, in document
order (`Conversion.dissolve_of_body?_eq`).
-/

namespace PageModules

namespace Element

/-- The outermost elements of a known type, from the element on, with their types. -/
def frontier (e : Element) : List (Element × ModuleType) :=
  match e.type? with
  | some type => [(e, type)]
  | none => e.contentChildren.attach.flatMap fun ⟨c, _⟩ => frontier c
termination_by e.size
decreasing_by
  rename_i h
  exact Element.size_lt_of_mem_contentChildren h

theorem frontier_of_type? {e : Element} {type : ModuleType} (h : e.type? = some type) :
    e.frontier = [(e, type)] := by
  rw [frontier, h]

theorem frontier_of_none {e : Element} (h : e.type? = none) :
    e.frontier = e.contentChildren.flatMap frontier := by
  rw [frontier, h]
  simp

variable (options : ConversionOptions)

/-- The module of an element in a marked document, if there is one. -/
def markedModule? (e : Element) : Option Draft :=
  (Plan.ofMarked options.threshold e).module? options.baseFontSize

/-- The modules of the children of an element in a marked document. -/
def yielded (e : Element) : List Draft := e.contentChildren.filterMap (markedModule? options)

/-- The section around the modules of the children. -/
def wrapping (e : Element) : Draft :=
  .node .pageSection (e.styleAttributes options.baseFontSize) true (e.yielded options)

/-- The element gives way to the modules of its children, in a section if there are several. -/
structure IsTransparent (e : Element) : Prop where
  /-- If no child has a module, the element has none. -/
  vanishes : e.yielded options = [] → e.markedModule? options = none
  /-- If one child has a module, this is the module of the element. -/
  promotes : ∀ m, e.yielded options = [m] → e.markedModule? options = some m
  /-- The module of the element is the section exactly if at least two children have a module. -/
  wraps : e.markedModule? options = some (e.wrapping options) ↔
    2 ≤ e.contentChildren.countP fun c => (c.markedModule? options).isSome

end Element

namespace Draft

mutual

/-- A module, or in place of a late one what is left of the modules inside. -/
def dissolve : Draft → List Draft
  | node type attrs isLate children =>
    if isLate then dissolveAll children else [node type attrs isLate children]

/-- What is left of several modules. -/
def dissolveAll : List Draft → List Draft
  | [] => []
  | d :: rest => dissolve d ++ dissolveAll rest

end

theorem dissolveAll_eq_flatMap (ds : List Draft) : dissolveAll ds = ds.flatMap dissolve := by
  induction ds with
  | nil => rfl
  | cons d rest ih => rw [dissolveAll, ih, List.flatMap_cons]

theorem dissolve_late (type : ModuleType) (attrs : Attributes) (children : List Draft) :
    (node type attrs true children).dissolve = children.flatMap dissolve := by
  rw [dissolve, if_pos rfl, dissolveAll_eq_flatMap]

theorem dissolve_early (type : ModuleType) (attrs : Attributes) (children : List Draft) :
    (node type attrs false children).dissolve = [node type attrs false children] := by
  rw [dissolve, if_neg Bool.false_ne_true]

/-- No module stands alone inside of itself. -/
theorem ne_node_singleton (d : Draft) (type : ModuleType) (attrs : Attributes) (isLate : Bool) :
    d ≠ node type attrs isLate [d] := by
  intro h
  have hcount := congrArg count h
  rw [count, countAll, countAll] at hcount
  omega

end Draft

/-! ### Marked elements -/

namespace Element

variable (options : ConversionOptions)

/-- An element of no type has the modules of its children, or a section around several modules. -/
theorem drafts_ofMarked_of_none {e : Element} (h : e.type? = none) :
    (Plan.ofMarked options.threshold e).drafts options.baseFontSize =
      if (e.yielded options).length ≤ 1 then e.yielded options else [e.wrapping options] := by
  obtain ⟨notes, hplan⟩ := Plan.ofMarked_of_none options.threshold h
  have hyielded : Plan.draftsAll options.baseFontSize
      (e.contentChildren.map (Plan.ofMarked options.threshold)) = e.yielded options := by
    rw [Plan.draftsAll_eq_filterMap, List.filterMap_map]
    rfl
  rw [hplan, Plan.drafts_eq, Plan.inner_node, hyielded]
  split
  case isTrue hle => rw [if_pos hle.2]
  case isFalse hle =>
    have hle : ¬ (e.yielded options).length ≤ 1 := fun hlength => hle ⟨rfl, hlength⟩
    rw [if_neg hle, wrapping, ← hyielded]
    rfl

/-- **Elements of no type are transparent.** -/
theorem isTransparent_of_none {e : Element} (h : e.type? = none) : e.IsTransparent options := by
  have hdrafts := drafts_ofMarked_of_none options h
  have hlength : (e.yielded options).length =
      e.contentChildren.countP fun c => (c.markedModule? options).isSome :=
    List.length_filterMap_eq_countP
  have vanishes (hnil : e.yielded options = []) : e.markedModule? options = none := by
    rw [markedModule?, Plan.module?, hdrafts, hnil]
    rfl
  have promotes (m : Draft) (hone : e.yielded options = [m]) :
      e.markedModule? options = some m := by
    rw [markedModule?, Plan.module?, hdrafts, hone]
    rfl
  refine { vanishes := vanishes, promotes := promotes, wraps := ?_ }
  rw [← hlength]
  constructor
  · intro hmodule
    rcases hy : e.yielded options with _ | ⟨m, _ | ⟨m', rest⟩⟩
    · rw [vanishes hy] at hmodule
      cases hmodule
    -- A module that takes the place of the element is not the section around it.
    · rw [promotes m hy, wrapping, hy] at hmodule
      exact absurd (Option.some.inj hmodule) (m.ne_node_singleton _ _ _)
    · simp
  · intro htwo
    rw [markedModule?, Plan.module?, hdrafts, if_neg (by omega)]
    rfl

/-- What is left of the modules of an element is one module for each element of its frontier. -/
theorem flatMap_dissolve_drafts (e : Element) :
    ((Plan.ofMarked options.threshold e).drafts options.baseFontSize).flatMap Draft.dissolve =
      e.frontier.map fun f => Plan.typedModule options.threshold options.baseFontSize f.1 f.2 := by
  induction e using Element.frontier.induct with
  | case1 e type h =>
    rw [Plan.drafts_ofMarked_of_type? _ _ h, frontier_of_type? h, List.flatMap_singleton,
      List.map_singleton, Plan.typedModule, Plan.moduleOf, Plan.ofTyped]
    exact Draft.dissolve_early _ _ _
  | case2 e h ih =>
    have hinside : (e.yielded options).flatMap Draft.dissolve =
        e.frontier.map fun f =>
          Plan.typedModule options.threshold options.baseFontSize f.1 f.2 := by
      rw [frontier_of_none h, List.map_flatMap, yielded, List.filterMap_eq_flatMap_toList,
        List.flatMap_assoc]
      refine List.flatMap_congr fun c hc => ?_
      rw [markedModule?, Plan.toList_module?]
      exact ih c hc
    rw [drafts_ofMarked_of_none options h]
    split
    · exact hinside
    · rw [List.flatMap_singleton, wrapping, Draft.dissolve_late]
      exact hinside

end Element

namespace Conversion

/-- **Marked documents keep their frontier**: every body is converted, whatever the token is, and
once the sections around the modules of elements of no type are dissolved, one module for each of
the outermost elements of a known type is left, in document order and of this type; all elements of
no type are transparent. -/
theorem dissolve_of_body?_eq (options : ConversionOptions) {d : Document} {body : Element}
    (hbody : d.body? = some body) :
    (∃ drafts, (∀ token, (ofDocument options .annotated d).outcome token = .page {
        success := true
        content := Draft.numberAll token 0 drafts
        css := ""
        mode := .annotated
        modulesCount := Draft.countAll drafts }) ∧
      drafts.flatMap Draft.dissolve = (body.contentChildren.flatMap Element.frontier).map
        fun f => Plan.typedModule options.threshold options.baseFontSize f.1 f.2) ∧
      ∀ e : Element, e.type? = none → e.IsTransparent options := by
  refine ⟨⟨_, outcome_of_body? options .annotated hbody, ?_⟩,
    fun e he => Element.isTransparent_of_none options he⟩
  rw [Plan.draftsAll_eq_flatMap, plansOf, Plan.ofMarkedBody, List.flatMap_map, List.flatMap_assoc,
    List.map_flatMap]
  exact List.flatMap_congr fun e _ => Element.flatMap_dissolve_drafts options e

/-- Two paragraphs at different depths are left, and nothing of the empty element next to them. -/
theorem dissolve_two_paragraphs :
    ∃ drafts, (∀ token, (ofDocument {} .annotated (.ofBody [.plain "div"
        [.plain "div" [.paragraph "one"], .plain "div" [], .paragraph "two"]])).outcome token =
          .page ⟨true, Draft.numberAll token 0 drafts, "", .annotated, Draft.countAll drafts⟩) ∧
      drafts.flatMap Draft.dissolve = [Plan.typedModule 50 16 (.paragraph "one") .text,
        Plan.typedModule 50 16 (.paragraph "two") .text] := by
  obtain ⟨⟨drafts, hpage, hdissolve⟩, -⟩ := dissolve_of_body?_eq {} (Document.body?_ofBody
    [.plain "div" [.plain "div" [.paragraph "one"], .plain "div" [], .paragraph "two"]])
  refine ⟨drafts, hpage, hdissolve.trans ?_⟩
  have hone : (Element.paragraph "one").frontier = [(.paragraph "one", .text)] :=
    Element.frontier_of_type? (by decide +kernel)
  have htwo : (Element.paragraph "two").frontier = [(.paragraph "two", .text)] :=
    Element.frontier_of_type? (by decide +kernel)
  have hinner : (Element.plain "div" [.paragraph "one"]).frontier =
      [(.paragraph "one", .text)] := by
    rw [Element.frontier_of_none (by decide +kernel),
      Element.contentChildren_plain (by decide +kernel), List.flatMap_singleton, hone]
  have hempty : (Element.plain "div" []).frontier = [] := by
    rw [Element.frontier_of_none (by decide +kernel),
      Element.contentChildren_plain (by decide +kernel), List.flatMap_nil]
  rw [Element.contentChildren_plain (by decide +kernel), List.flatMap_singleton,
    Element.frontier_of_none (by decide +kernel),
    Element.contentChildren_plain (by decide +kernel), List.flatMap_cons, List.flatMap_cons,
    List.flatMap_singleton, hinner, hempty, htwo]
  rfl

end Conversion

end PageModules
