import PageModules.Proofs.Component.Best
import PageModules.Proofs.Walk.Threshold

/-!
# Forms

Two rules judge a form: the patterns of components, and the role of the form.  The patterns come
first, and every form is recognized by one of them, so below the threshold of a hundred the role has
no say: a form is a contact form just if the pattern of contact forms outweighs all others
(`Plan.drafts_ofContent_of_form`).  Where no component is accepted, a form that its classes do not
name is a module for its role.
-/

namespace PageModules

/-- A search with one input. -/
def Element.searchForm : Element :=
  ⟨⟨.html, "form", []⟩,
    [.element ⟨.html, "input", [⟨.none, "type", "search"⟩, ⟨.none, "name", "q"⟩]⟩ []]⟩

namespace Element

/-- A form that its classes do not name suggests a module for its role. -/
theorem likelyType?_of_form {e : Element} (hform : e.isNamed "form" = true)
    (hclass : e.classType? = none) : e.likelyType? = some e.formRole.type := by
  have hname : e.tagName = "form" := isNamed_iff.mp hform
  have htag : e.tagType? = none := by
    have hheading : headingLevels.contains "form" = false := by decide
    rw [tagType?, hname, hheading]
    rfl
  have hembed : e.embedType? = none := by
    rw [embedType?, hname]
    rfl
  have hrole : e.formType? = some e.formRole.type := by
    rw [formType?, hname]
    rfl
  rw [likelyType?, htag, hembed, hclass, hrole]
  simp only [Option.none_or, Option.some_or]

end Element

namespace Plan

variable {e : Element}

/-- A form without a marker is one module, and which one hangs on the threshold.  At the default
threshold it is what it is **recognized** as: a contact form just if the pattern of contact forms
outweighs all others, whatever the role of the form is.  From a hundred on it is a module for its
**role**, unless its classes name a type. -/
theorem drafts_ofContent_of_form (hform : e.isNamed "form" = true) (hmarker : e.marker? = none)
    (base : Int) :
    (∃ type attrs items,
      (ofContent ({} : ConversionOptions).threshold e).drafts base =
        [.node type attrs false items] ∧
      (type = .contactForm ↔ e.Outweighs .contactForm)) ∧
    (∀ threshold, 100 ≤ threshold → e.classType? = none → ∃ attrs items,
      (ofContent threshold e).drafts base = [.node e.formRole.type attrs false items]) := by
  constructor
  · obtain ⟨r, hr, hsure, hiff⟩ := Element.recognize?_of_form hform
    have hthreshold : ({} : ConversionOptions).threshold < r.confidence := by
      rw [hsure]
      decide
    rw [ofContent_of_recognize? hmarker hr hthreshold]
    exact ⟨r.type, _, _, rfl, hiff⟩
  · intro threshold hthreshold hclass
    have hnone : accepted? threshold e = none := accepted?_of_le hthreshold e
    rw [ofContent_of_likelyType? (markedType?_of_marker? hmarker) hnone
      (Element.likelyType?_of_form hform hclass), ofTyped]
    exact ⟨_, _, rfl⟩

/-- A form with one input for searching is a contact form at the default threshold, and a search
from a hundred on. -/
theorem drafts_ofContent_searchForm :
    Element.searchForm.isNamed "form" = true ∧ Element.searchForm.marker? = none ∧
      (∃ attrs items, (ofContent 50 .searchForm).drafts 16 =
        [.node .contactForm attrs false items]) ∧
      ∃ attrs items, (ofContent 100 .searchForm).drafts 16 = [.node .search attrs false items] := by
  have hform : Element.searchForm.isNamed "form" = true := by decide +kernel
  have hmarker : Element.searchForm.marker? = none := by decide +kernel
  have hrole : Element.searchForm.formRole = .search := by decide +kernel
  have hclass : Element.searchForm.classType? = none := by decide +kernel
  have hgreatest : Element.searchForm.Outweighs .contactForm := by
    unfold Element.Outweighs
    decide +kernel
  obtain ⟨⟨type, attrs, items, hdrafts, hiff⟩, hhigh⟩ :=
    drafts_ofContent_of_form hform hmarker 16
  refine ⟨hform, hmarker, ⟨attrs, items, ?_⟩, ?_⟩
  · rw [← hiff.mpr hgreatest]
    exact hdrafts
  · have hsearch := hhigh 100 (Nat.le_refl 100) hclass
    rw [hrole] at hsearch
    exact hsearch

/-- The role of a form does not keep it from being a contact form. -/
theorem not_drafts_ofContent_formRole :
    ¬ ∀ (e : Element) (base : Int) attrs items, e.isNamed "form" = true → e.marker? = none →
      (ofContent ({} : ConversionOptions).threshold e).drafts base =
        [.node .contactForm attrs false items] → e.formRole = .contact := by
  intro h
  have htype : Element.searchForm.recognize?.map (·.type) = some .contactForm := by decide +kernel
  have hrole : Element.searchForm.formRole ≠ .contact := by decide +kernel
  have hmarker : Element.searchForm.marker? = none := by decide +kernel
  obtain ⟨r, hr, hrtype⟩ := Option.map_eq_some_iff.mp htype
  obtain ⟨r', hr', hsure, -⟩ := Element.recognize?_of_form (e := .searchForm) (by decide +kernel)
  obtain rfl := Option.some.inj (hr.symm.trans hr')
  have hthreshold : ({} : ConversionOptions).threshold < r.confidence := by
    rw [hsure]
    decide
  have hdrafts : ∃ attrs items,
      (ofContent ({} : ConversionOptions).threshold .searchForm).drafts 16 =
        [.node .contactForm attrs false items] := by
    rw [ofContent_of_recognize? hmarker hr hthreshold, ← hrtype]
    exact ⟨_, _, rfl⟩
  obtain ⟨attrs, items, hdrafts⟩ := hdrafts
  exact hrole (h .searchForm 16 attrs items (by decide +kernel) hmarker hdrafts)

end Plan

end PageModules
