import PageModules.Proofs.Address.Hosts
import PageModules.Proofs.Component.Names

/-!
# Links to social networks

A link is reported under a network when its address names one of the sites of the network.  Such a
link leads to the network or to a subdomain, unless the name stands aside: in a longer host, in the
path, in the query (`Element.isAt_or_namesAside_of_reports`).
-/

namespace PageModules

/-! ### Drafts -/

theorem Attributes.mem_of_find?_ofDraft {draft : AttributeDraft} {k : String} {v : Json}
    (h : (Attributes.ofDraft draft).find? k = some v) : (k, some v) ∈ draft := by
  rw [Attributes.ofDraft, KeyMap.find?_ofList] at h
  have hmem := List.mem_reverse.mp (Entries.mem_of_lookup_eq_some h)
  obtain ⟨⟨name, value⟩, hentry, heq⟩ := List.mem_filterMap.mp hmem
  obtain ⟨w, rfl, hw⟩ := Option.map_eq_some_iff.mp heq
  cases hw
  exact hentry

theorem Json.eq_text_of_bind_text? {v : Option Json} {s : String} (h : v.bind text? = some s) :
    v = some (.text s) := by
  obtain ⟨w, rfl, hw⟩ := Option.bind_eq_some_iff.mp h
  cases w with
  | text t => exact congrArg (fun t => some (Json.text t)) (Option.some.inj hw)
  | null | bool | integer | float | array | object => cases hw

theorem Json.eq_of_filledText? {s t : String} (h : Json.filledText? s = some (.text t)) :
    s = t := by
  unfold Json.filledText? at h
  split at h
  · cases h
  · exact Json.text.inj (Option.some.inj h)

namespace Element

/-! ### Links that are found -/

theorem exists_of_networkOf? {address network : String} (h : networkOf? address = some network) :
    ∃ n ∈ socialNetworks, n.1 = network ∧ Address.names n.2 address = true := by
  obtain ⟨n, hfind, rfl⟩ := Option.map_eq_some_iff.mp h
  have hnames := List.find?_some hfind
  exact ⟨n, List.mem_of_find?_eq_some hfind, rfl, hnames⟩

/-- Links are the addresses of some anchors, each under the network that it names. -/
def AreFrom (anchors : List Element) (links : List (String × String)) : Prop :=
  ∀ l ∈ links, networkOf? l.2 = some l.1 ∧ ∃ a ∈ anchors, a.attr? "href" = some l.2

theorem areFrom_socialLinks (e : Element) : AreFrom (e.descendantsNamed "a") e.socialLinks :=
  fun _ hl => e.keepsFirst_socialLinks.exists_link hl

/-! ### Links that are reported -/

/-- A link is reported under a network: as an item of the links to networks, or as an attribute of a
member of a team. -/
inductive Reports (e : Element) (network address : String) : Prop
  /-- An item of the links says so. -/
  | item (item : ComponentItem) (hitem : item ∈ (Component.ofElement e .socialFollow).items)
      (hnetwork : (item.attrs.find? "social_network").bind Json.text? = some network)
      (hurl : (item.attrs.find? "url").bind Json.text? = some address)
  /-- The attribute of a member of a team says so. -/
  | member (hnetwork : network ∈ socialNetworks.map Prod.fst)
      (hurl : ((Component.ofElement e .teamMember).attrs.find? (network ++ "_url")).bind
        Json.text? = some address)

theorem mem_socialLinks_of_reports {e : Element} {network address : String}
    (h : e.Reports network address) : (network, address) ∈ e.socialLinks := by
  cases h with
  | item item hitem hnetwork hurl =>
    obtain ⟨l, hl, rfl⟩ := List.mem_map.mp hitem
    have hname := Attributes.mem_of_find?_ofDraft (Json.eq_text_of_bind_text? hnetwork)
    have haddress := Attributes.mem_of_find?_ofDraft (Json.eq_text_of_bind_text? hurl)
    simp only [List.mem_cons, List.not_mem_nil, Prod.mk.injEq, Option.some.injEq,
      Json.text.injEq, or_false, true_and, String.reduceEq, false_and, false_or]
      at hname haddress
    rwa [hname, haddress]
  | member hnetwork hurl =>
    have hentry := Attributes.mem_of_find?_ofDraft (Json.eq_text_of_bind_text? hurl)
    rcases List.mem_append.mp hentry with hfixed | hlink
    · -- No other attribute is called after a network.
      exfalso
      have hnames : ∀ n ∈ socialNetworks.map Prod.fst,
          n ++ "_url" ∉ ["name", "position", "image_url", "content"] := by
        decide
      exact hnames network hnetwork (List.mem_map_of_mem (f := Prod.fst) hfixed)
    · obtain ⟨l, hl, heq⟩ := List.mem_map.mp hlink
      obtain ⟨hname, haddress⟩ := Prod.mk.inj heq
      obtain rfl := Json.eq_of_filledText? haddress
      obtain rfl := (String.append_left_inj "_url").mp hname
      exact hl

/-- **A link that is reported under a network leads to it**, to one of its sites or to a subdomain,
unless the name of a site of the network stands aside in its address. -/
theorem isAt_or_namesAside_of_reports {e : Element} {network address : String}
    (h : e.Reports network address) :
    (∃ a ∈ e.descendantsNamed "a", a.attr? "href" = some address) ∧
      ∃ n ∈ socialNetworks, n.1 = network ∧
        (Address.IsAt n.2 address ∨ Address.NamesAside n.2 address) := by
  have hsites : ∀ n ∈ socialNetworks, ∀ site ∈ n.2, Address.isSiteName site = true := by decide
  obtain ⟨hnetwork, hanchor⟩ := e.areFrom_socialLinks _ (mem_socialLinks_of_reports h)
  obtain ⟨n, hn, hname, hnames⟩ := exists_of_networkOf? hnetwork
  exact ⟨hanchor, n, hn, hname, Address.isAt_or_namesAside (hsites n hn) hnames⟩

/-- A block with a link. -/
def linkTo (address : String) : Element :=
  ⟨⟨.html, "div", []⟩, [.element ⟨.html, "a", [⟨.none, "href", address⟩]⟩ [.text "Us"]]⟩

/-- A link of a member of a team that leads to a subdomain. -/
theorem isAt_or_namesAside_of_reports_subdomain :
    (linkTo "https://mobile.X.com/us").Reports "twitter" "https://mobile.X.com/us" ∧
      ∃ n ∈ socialNetworks, n.1 = "twitter" ∧
        (Address.IsAt n.2 "https://mobile.X.com/us" ∨
          Address.NamesAside n.2 "https://mobile.X.com/us") := by
  have hreports : (linkTo "https://mobile.X.com/us").Reports "twitter" "https://mobile.X.com/us" :=
    .member (by decide) (by decide +kernel)
  exact ⟨hreports, (isAt_or_namesAside_of_reports hreports).2⟩

/-- A longer host that ends with the name of a site leads elsewhere. -/
theorem not_isAt_of_reports :
    ¬ ∀ (e : Element) (network address : String), e.Reports network address →
      ∃ n ∈ socialNetworks, n.1 = network ∧ Address.IsAt n.2 address := by
  intro h
  have hreports : (linkTo "https://www.netflix.com/title/1").Reports "twitter"
      "https://www.netflix.com/title/1" :=
    .member (by decide) (by decide +kernel)
  have haway : ¬ ∃ n ∈ socialNetworks, n.1 = "twitter" ∧
      Address.IsAt n.2 "https://www.netflix.com/title/1" := by
    decide +kernel
  exact haway (h _ _ _ hreports)

end Element

end PageModules
