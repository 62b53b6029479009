import Mathlib.Data.List.Forall2
import Mathlib.Data.List.Induction
import Mathlib.Data.List.Nodup
import Mathlib.Data.Option.Basic
import PageModules.Component.Extraction
import PageModules.Proofs.Json.Agreement

/-!
# The first links to social networks

The links below an element are looked at in document order, and the first one to each network is
kept.  After any number of links those that are kept are the first ones to the networks met so far
(`Element.KeepsFirst`), so the items for links to networks show these first links, each network once
(`Component.showsFirst_socialFollow`).
-/

namespace PageModules

namespace Element

/-! ### Links that are attributed to a network -/

/-- The network that a link is attributed to. -/
def network? (a : Element) : Option String := networkOf? ((a.attr? "href").getD "")

/-- A link that is attributed to a network has an address. -/
theorem attr?_href_of_network? {a : Element} {network : String} (h : a.network? = some network) :
    a.attr? "href" = some ((a.attr? "href").getD "") := by
  cases hhref : a.attr? "href" with
  | some address => rfl
  | none =>
    -- The empty address names no site.
    have hempty : networkOf? "" = none := by decide
    rw [network?, hhref, Option.getD_none, hempty] at h
    cases h

/-- The link at a place is the first one to a network, and it leads to an address. -/
structure IsFirstTo (anchors : List Element) (network address : String) (place : ℕ) : Prop where
  /-- The link at the place leads to the address and is attributed to the network. -/
  link : ∃ a, anchors[place]? = some a ∧ a.network? = some network ∧
    a.attr? "href" = some address
  /-- No link in front of it is attributed to the network. -/
  network?_ne : ∀ a ∈ anchors.take place, a.network? ≠ some network

variable {anchors : List Element} {network address : String} {place : ℕ}

theorem IsFirstTo.lt_length (h : IsFirstTo anchors network address place) :
    place < anchors.length := by
  obtain ⟨a, hplace, -⟩ := h.link
  exact (List.getElem?_eq_some_iff.mp hplace).1

/-- Links that follow do not change which one is the first. -/
theorem IsFirstTo.append (h : IsFirstTo anchors network address place) (rest : List Element) :
    IsFirstTo (anchors ++ rest) network address place := by
  have hlt := h.lt_length
  constructor
  · rw [List.getElem?_append_left hlt]
    exact h.link
  · rw [List.take_append_of_le_length (Nat.le_of_lt hlt)]
    exact h.network?_ne

/-- A link to a network that was not met before is the first one to it. -/
theorem isFirstTo_concat {a : Element} (hnetwork : a.network? = some network)
    (hnew : ∀ b ∈ anchors, b.network? ≠ some network) :
    IsFirstTo (anchors ++ [a]) network ((a.attr? "href").getD "") anchors.length := by
  constructor
  · exact ⟨a, List.getElem?_concat_length, hnetwork, attr?_href_of_network? hnetwork⟩
  · rwa [List.take_left]

/-! ### Links that are kept -/

/-- What is kept of some links: the first one to each network, in the order of the links. -/
structure KeepsFirst (anchors : List Element) (links : List (String × String)) : Prop where
  /-- The networks are distinct. -/
  nodup : (links.map Prod.fst).Nodup
  /-- They are those that a link is attributed to. -/
  mem_iff : ∀ network, network ∈ links.map Prod.fst ↔ some network ∈ anchors.map network?
  /-- The places of the first links to them increase. -/
  places : ∃ places : List ℕ, places.Pairwise (· < ·) ∧
    List.Forall₂ (fun place l => IsFirstTo anchors l.1 l.2 place) places links

theorem keepsFirst_nil : KeepsFirst [] [] :=
  ⟨List.nodup_nil, by simp, [], .nil, .nil⟩

/-- A link to no network, or to one that was met before, is not kept. -/
theorem KeepsFirst.concat_of_met {links : List (String × String)} (h : KeepsFirst anchors links)
    {a : Element} (hmet : ∀ network, a.network? = some network → network ∈ links.map Prod.fst) :
    KeepsFirst (anchors ++ [a]) links := by
  refine ⟨h.nodup, fun network => ?_, ?_⟩
  · rw [List.map_append, List.map_singleton, List.mem_append, List.mem_singleton, ← h.mem_iff]
    exact (or_iff_left_of_imp fun hlast => hmet network hlast.symm).symm
  · obtain ⟨places, hincreasing, hfirst⟩ := h.places
    exact ⟨places, hincreasing, hfirst.imp fun _ _ hl => hl.append [a]⟩

/-- The first link to a network is kept behind the others. -/
theorem KeepsFirst.concat_of_new {links : List (String × String)} (h : KeepsFirst anchors links)
    {a : Element} (hnetwork : a.network? = some network) (hnew : network ∉ links.map Prod.fst) :
    KeepsFirst (anchors ++ [a]) (links ++ [(network, (a.attr? "href").getD "")]) := by
  refine ⟨?_, fun network' => ?_, ?_⟩
  · rw [List.map_append, List.map_singleton, ← List.concat_eq_append]
    exact h.nodup.concat hnew
  · rw [List.map_append, List.map_append, List.map_singleton, List.map_singleton, List.mem_append,
      List.mem_append, List.mem_singleton, List.mem_singleton, h.mem_iff, hnetwork,
      Option.some.injEq]
  · obtain ⟨places, hincreasing, hfirst⟩ := h.places
    -- The new link stands behind all the others, as their places are places of `anchors`.
    have hbehind : ∀ place ∈ places, place < anchors.length :=
      ((List.forall₂_and_left _ _).mp (hfirst.imp fun _ _ hl => ⟨hl.lt_length, hl⟩)).1
    have hfirst' := isFirstTo_concat hnetwork fun b hb heq =>
      hnew ((h.mem_iff network).mpr (heq ▸ List.mem_map_of_mem hb))
    refine ⟨places ++ [anchors.length], List.pairwise_append.mpr ?_, ?_⟩
    · exact ⟨hincreasing, List.pairwise_singleton _ _, by simpa using hbehind⟩
    · exact List.rel_append (hfirst.imp fun _ _ hl => hl.append [a]) (.cons hfirst' .nil)

/-- Looking at one more link. -/
theorem KeepsFirst.addLink {links : List (String × String)} (h : KeepsFirst anchors links)
    (a : Element) : KeepsFirst (anchors ++ [a]) (addLink links a) := by
  unfold Element.addLink
  dsimp only
  split
  case h_1 network hnetwork =>
    have hmem : links.any (·.1 == network) = true ↔ network ∈ links.map Prod.fst := by
      simp only [List.any_eq_true, beq_iff_eq, List.mem_map]
    split
    case isTrue hmet =>
      refine h.concat_of_met fun network' hnetwork' => ?_
      obtain rfl := Option.some.inj (hnetwork.symm.trans hnetwork')
      exact hmem.mp hmet
    case isFalse hnew => exact h.concat_of_new hnetwork (mt hmem.mpr hnew)
  case h_2 hnone =>
    refine h.concat_of_met fun network hnetwork => ?_
    cases hnone.symm.trans hnetwork

/-- What is kept are links to the networks that they are attributed to. -/
theorem KeepsFirst.exists_link {links : List (String × String)} (h : KeepsFirst anchors links)
    {l : String × String} (hl : l ∈ links) :
    networkOf? l.2 = some l.1 ∧ ∃ a ∈ anchors, a.attr? "href" = some l.2 := by
  obtain ⟨places, -, hfirst⟩ := h.places
  obtain ⟨i, hi, rfl⟩ := List.getElem_of_mem hl
  obtain ⟨a, hplace, hnetwork, haddress⟩ := (hfirst.get (hfirst.length_eq ▸ hi) hi).link
  refine ⟨?_, a, List.mem_of_getElem? hplace, haddress⟩
  rw [network?, haddress, Option.getD_some] at hnetwork
  exact hnetwork

/-- **The first link to each network is kept**, whatever links stand below an element. -/
theorem keepsFirst_socialLinks (e : Element) :
    KeepsFirst (e.descendantsNamed "a") e.socialLinks := by
  unfold socialLinks
  -- The invariant speaks of the links looked at so far, so the last link is split off.
  induction e.descendantsNamed "a" using List.reverseRecOn with
  | nil => exact keepsFirst_nil
  | append_singleton anchors a ih =>
    rw [List.foldl_concat]
    exact ih.addLink a

end Element

/-! ### Items -/

/-- The text under a name of an item. -/
def ComponentItem.text? (item : ComponentItem) (name : String) : Option String :=
  (item.attrs.find? name).bind Json.text?

namespace Component

/-- Items show the first one of some links to each network. -/
structure ShowsFirst (anchors : List Element) (items : List ComponentItem) : Prop where
  /-- The items name distinct networks. -/
  nodup : (items.map (·.text? "social_network")).Nodup
  /-- They name those that a link is attributed to. -/
  mem_iff : ∀ network, some network ∈ items.map (·.text? "social_network") ↔
    some network ∈ anchors.map Element.network?
  /-- Each has the address of the first link to its network, and the places of these links increase.
  -/
  places : ∃ places : List ℕ, places.Pairwise (· < ·) ∧
    List.Forall₂ (fun place item => ∃ network address, item.type = .socialFollowItem ∧
      item.text? "social_network" = some network ∧ item.text? "url" = some address ∧
      Element.IsFirstTo anchors network address place) places items

theorem text?_linkItem (network address : String) :
    let item : ComponentItem := ⟨.socialFollowItem,
      .ofDraft [("social_network", some (.text network)), ("url", some (.text address))]⟩
    item.text? "social_network" = some network ∧ item.text? "url" = some address := by
  have hnone (k : String) : (Attributes.ofDraft []).find? k = none := rfl
  have hne : "social_network" ≠ "url" := by decide
  simp [ComponentItem.text?, Attributes.find?_ofDraft_cons, hnone, hne, hne.symm, Json.text?]

/-- **The items for links to social networks show the first link to each**, in document order. -/
theorem showsFirst_socialFollow (e : Element) :
    ShowsFirst (e.descendantsNamed "a") (ofElement e .socialFollow).items := by
  obtain ⟨hnodup, hmem, places, hincreasing, hfirst⟩ := e.keepsFirst_socialLinks
  have hnetworks : (ofElement e .socialFollow).items.map (·.text? "social_network") =
      (e.socialLinks.map Prod.fst).map some := by
    rw [ofElement, socialFollow, List.map_map, List.map_map]
    exact List.map_congr_left fun l _ => (text?_linkItem l.1 l.2).1
  refine ⟨?_, ?_, places, hincreasing, ?_⟩
  · rw [hnetworks]
    exact hnodup.map (Option.some_injective _)
  · intro network
    rw [hnetworks, List.mem_map_of_injective (Option.some_injective _)]
    exact hmem network
  · rw [ofElement, socialFollow, List.forall₂_map_right_iff]
    refine hfirst.imp fun _ l hl => ?_
    obtain ⟨hnetwork, haddress⟩ := text?_linkItem l.1 l.2
    exact ⟨l.1, l.2, rfl, hnetwork, haddress, hl⟩

end Component

end PageModules
