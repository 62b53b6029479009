import PageModules.Proofs.Component.FirstLinks
import PageModules.Proofs.Json.Disjoint

/-!
# The names of the attributes of components

`Component.names` lists what the attributes of a component of a type can be called
(`Component.mem_names`).  The links of a member of a team are called after the social networks.
-/

namespace PageModules

namespace Element

/-! ### Parts of components -/

/-- Links that are called after social networks. -/
def AreNetworks (links : List (String × String)) : Prop :=
  ∀ l ∈ links, l.1 ∈ socialNetworks.map Prod.fst

theorem areNetworks_socialLinks (e : Element) : AreNetworks e.socialLinks := by
  intro l hl
  obtain ⟨n, hn, hname⟩ := Option.map_eq_some_iff.mp (e.keepsFirst_socialLinks.exists_link hl).1
  exact hname ▸ List.mem_map_of_mem (f := Prod.fst) (List.mem_of_find?_eq_some hn)

/-- The names for a button. -/
def buttonNames : List String := ["button_text", "link_url"]

theorem mem_buttonNames {e : Element} {k : String} (h : k ∈ e.buttonDraft.map Prod.fst) :
    k ∈ buttonNames := by
  unfold buttonDraft at h
  split at h
  · exact h
  · cases h

end Element

namespace Component

/-! ### Names -/

/-- The names for a price. -/
def priceNames : List String := ["currency", "price", "per"]

theorem mem_priceNames {s k : String} (h : k ∈ (priceDraft s).map Prod.fst) : k ∈ priceNames := by
  unfold priceDraft at h
  split at h
  · cases h
  · exact h

/-- The names that the attributes of a component of a type can have. -/
def names : ModuleType → List String
  | .slider => ["show_arrows", "show_dots", "auto", "loop", "auto_speed"]
  | .accordion => ["toggle_icon", "toggle_icon_position"]
  | .tabs => ["active_tab_idx"]
  | .gallery => ["columns", "gallery_ids", "show_title_and_caption"]
  | .testimonial => ["content", "author", "portrait_url", "job_title", "company"]
  | .teamMember => ["name", "position", "image_url", "content"] ++
      (Element.socialNetworks.map Prod.fst).map (· ++ "_url")
  | .pricingTable => ["title"] ++ priceNames ++ ["content"] ++ Element.buttonNames ++
      ["featured_text", "featured"]
  | .socialFollow => []
  | .contactForm => ["submit_button_text"]
  | .countdown => ["end_date", "show_days", "show_hours", "show_minutes", "show_seconds"]
  | .numberCounter => ["percent_sign", "number", "title"]
  | .map => ["address", "zoom", "map_height"]
  | .video => ["src"]
  | _ => ["title", "content", "image"] ++ Element.buttonNames

theorem mem_names_slider {e : Element} {k : String} (h : k ∈ (slider e).attrs.keys) :
    k ∈ names .slider := by
  have hsubset : ["show_arrows", "show_dots", "auto", "loop", "auto", "show_arrows", "show_dots",
      "loop", "auto_speed"] ⊆ names .slider := by
    decide
  exact hsubset (Attributes.mem_of_mem_keys_ofDraft h)

theorem mem_names_teamMember {e : Element} {k : String} (h : k ∈ (teamMember e).attrs.keys) :
    k ∈ names .teamMember := by
  have hdraft := Attributes.mem_of_mem_keys_ofDraft h
  rw [List.map_append, List.map_map] at hdraft
  rcases List.mem_append.mp hdraft with hfixed | hlink
  · exact List.mem_append_left _ hfixed
  · obtain ⟨l, hl, rfl⟩ := List.mem_map.mp hlink
    have hnetwork := e.areNetworks_socialLinks l hl
    exact List.mem_append_right _ (List.mem_map_of_mem (f := (· ++ "_url")) hnetwork)

theorem mem_names_pricingTable {e : Element} {k : String} (h : k ∈ (pricingTable e).attrs.keys) :
    k ∈ names .pricingTable := by
  have hdraft := Attributes.mem_of_mem_keys_ofDraft h
  simp only [names, List.map_append, List.mem_append] at hdraft ⊢
  rcases hdraft with (((hdefault | hprice) | hcontent) | hbutton) | hfeatured
  · have hsubset : ["currency", "per", "title"] ⊆ ["title"] ++ priceNames := by decide
    exact Or.inl (Or.inl (Or.inl (List.mem_append.mp (hsubset hdefault))))
  · split at hprice
    · exact Or.inl (Or.inl (Or.inl (Or.inr (mem_priceNames hprice))))
    · cases hprice
  · exact Or.inl (Or.inl (Or.inr hcontent))
  · exact Or.inl (Or.inr (Element.mem_buttonNames hbutton))
  · exact Or.inr hfeatured

theorem mem_names_plain {e : Element} {k : String} (h : k ∈ (plain e).attrs.keys) :
    k ∈ ["title", "content", "image"] ++ Element.buttonNames := by
  have hdraft := Attributes.mem_of_mem_keys_ofDraft h
  rw [List.map_append] at hdraft
  rcases List.mem_append.mp hdraft with hfixed | hbutton
  · exact List.mem_append_left _ hfixed
  · exact List.mem_append_right _ (Element.mem_buttonNames hbutton)

/-- **A component has no other attributes** than those that its type names. -/
theorem mem_names {e : Element} {type : ModuleType} {k : String}
    (h : k ∈ (ofElement e type).attrs.keys) : k ∈ names type := by
  cases type with
  | slider => exact mem_names_slider h
  | teamMember => exact mem_names_teamMember h
  | pricingTable => exact mem_names_pricingTable h
  | socialFollow => cases h
  | accordion | tabs | gallery | testimonial | contactForm | countdown | numberCounter | map
  | video => exact Attributes.mem_of_mem_keys_ofDraft h
  | _ => exact mem_names_plain h

end Component

end PageModules
