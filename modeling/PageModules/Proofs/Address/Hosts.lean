import PageModules.Address.Absolute
import PageModules.Address.Site
import PageModules.Proofs.Lists
import PageModules.Proofs.Text.Cutting

/-!
# The hosts of addresses

`Address.cut?` cuts an address around its host.  What separates its parts stands in no name of a
site, so a name that is somewhere in the address is within one of the parts (`IsCutOf.isInfix_or`).
Whoever looks for the name in the whole address therefore finds the sites of the host, and besides
them the names that stand aside (`isAt_or_namesAside`).
-/

namespace PageModules.Address

open Absolute (scheme? webSchemes endsAuthority splitPort isEdge isBreak isSchemeChar clean)

/-! ### Pieces of text -/

theorem isInfix_clean {piece s : List Char} (hpiece : ∀ c ∈ piece, 0x20 < c.toNat)
    (h : piece <:+: s) : piece <:+: clean s := by
  have hedge : ∀ c ∈ piece, isEdge c = false := by
    intro c hc
    have hlt : ¬c.toNat ≤ 0x20 := Nat.not_le.mpr (hpiece c hc)
    exact decide_eq_false hlt
  have hbreak : ∀ c ∈ piece, (!isBreak c) = true := by
    intro c hc
    have hlt := hpiece c hc
    rw [isBreak, Bool.not_eq_true', Bool.or_eq_false_iff, Bool.or_eq_false_iff]
    refine ⟨⟨?_, ?_⟩, ?_⟩ <;>
      · refine decide_eq_false ?_
        rintro rfl
        exact absurd hlt (by decide)
  have hstart := Lists.isInfix_dropWhile hedge h
  have hend : piece <:+: Chars.trimOf isEdge s := by
    rw [← List.reverse_infix] at hstart
    have hboth := Lists.isInfix_dropWhile (fun c hc => hedge c (List.mem_reverse.mp hc)) hstart
    rwa [← List.reverse_infix, List.reverse_reverse] at hboth
  have hfilter := hend.filter fun c => !isBreak c
  rwa [List.filter_eq_self.mpr hbreak] at hfilter

/-! ### Addresses cut around their hosts -/

/-- An address that is cut around its host. -/
structure HostCut where
  /-- What stands in front of the host: the scheme, the slashes, the user. -/
  front : List Char
  /-- The host. -/
  host : List Char
  /-- What stands behind the host: the port, the path, the query, the fragment. -/
  rest : List Char

/-- Whether a character may be one of the slashes in front of a host. -/
def isSlash (c : Char) : Bool := c = '/' || c = '\\'

/-- Whether a character may stand next to a host. -/
def isBorder (c : Char) : Bool := isSlash c || c = '?' || c = '#' || c = '@' || c = ':'

/-- What follows the slashes in front of the host, and whether the address is one of the web.
Without a scheme it is one if it starts with two slashes. -/
def behindSlashes? (s : List Char) : Option (Bool × List Char) :=
  match scheme? s with
  | some (scheme, t) =>
    if webSchemes.contains scheme then some (true, t.dropWhile isSlash)
    else (['/', '/'].isPrefixOf? t).map fun t => (false, t)
  | none =>
    if 2 ≤ (s.takeWhile isSlash).length then some (true, s.dropWhile isSlash) else none

/-- What follows the user. -/
def behindUser (s : List Char) : List Char := ((Chars.splitLast? '@' s).map Prod.snd).getD s

/-- Cuts a text around its host, unless it is an address without one. -/
def cut? (s : List Char) : Option HostCut :=
  (behindSlashes? s).map fun (isWeb, t) =>
    let named := behindUser (t.takeWhile fun c => !endsAuthority isWeb c)
    let host := (splitPort false named).1
    let rest := named.drop host.length ++ t.dropWhile fun c => !endsAuthority isWeb c
    ⟨s.take (s.length - (host ++ rest).length), host, rest⟩

/-- A text is cut at borders. -/
structure HostCut.IsCutOf (cut : HostCut) (s : List Char) : Prop where
  /-- The parts are the text. -/
  text : s = cut.front ++ (cut.host ++ cut.rest)
  /-- What stands in front of the host ends with a border. -/
  front : ∀ c ∈ cut.front.getLast?, isBorder c = true
  /-- What stands behind the host starts with a border. -/
  rest : ∀ c ∈ cut.rest.head?, isBorder c = true

/-- A piece without a border crosses none. -/
theorem HostCut.IsCutOf.isInfix_or {cut : HostCut} {s piece : List Char} (h : cut.IsCutOf s)
    (hpiece : ∀ c ∈ piece, isBorder c = false) (hpart : piece <:+: s) :
    piece <:+: cut.front ∨ piece <:+: cut.host ∨ piece <:+: cut.rest := by
  rw [h.text, List.infix_append_iff_ne_nil] at hpart
  rcases hpart with hfront | hbehind | ⟨left, right, hleft, -, rfl, hsuffix, -⟩
  · exact .inl hfront
  · rw [List.infix_append_iff_ne_nil] at hbehind
    rcases hbehind with hhost | hrest | ⟨left, right, -, hright, rfl, -, hprefix⟩
    · exact .inr (.inl hhost)
    · exact .inr (.inr hrest)
    · -- The part of the piece behind the host would start with a border.
      exfalso
      obtain ⟨c, right, rfl⟩ := List.exists_cons_of_ne_nil hright
      obtain ⟨t, ht⟩ := hprefix
      have hc := h.rest c (by rw [← ht]; rfl)
      rw [hpiece c (List.mem_append_right _ List.mem_cons_self)] at hc
      cases hc
  · -- The part of the piece in front of the host would end with one.
    exfalso
    obtain ⟨left, c, rfl⟩ := (List.eq_nil_or_concat' left).resolve_left hleft
    obtain ⟨t, ht⟩ := hsuffix
    have hc := h.front c (by rw [← ht, ← List.append_assoc, List.getLast?_concat]; rfl)
    rw [hpiece c (List.mem_append_left _ (List.mem_append_right _ List.mem_cons_self))] at hc
    cases hc

/-! ### Where a host starts and ends -/

/-- A text is the end of another one, at its start or behind a border. -/
def EndsBehindBorder (t s : List Char) : Prop :=
  ∃ front, s = front ++ t ∧ ∀ c ∈ front.getLast?, isBorder c = true

theorem EndsBehindBorder.refl (s : List Char) : EndsBehindBorder s s := ⟨[], rfl, by simp⟩

theorem EndsBehindBorder.trans {s t u : List Char} (htu : EndsBehindBorder u t)
    (hst : EndsBehindBorder t s) : EndsBehindBorder u s := by
  obtain ⟨middle, rfl, hmiddle⟩ := htu
  obtain ⟨front, rfl, hfront⟩ := hst
  refine ⟨front ++ middle, (List.append_assoc _ _ _).symm, fun c hc => ?_⟩
  rw [List.getLast?_append] at hc
  cases hlast : middle.getLast? with
  | none =>
    rw [hlast, Option.none_or] at hc
    exact hfront c hc
  | some d =>
    rw [hlast, Option.some_or] at hc
    exact hmiddle c (hlast ▸ hc)

theorem EndsBehindBorder.append {s t : List Char} (h : EndsBehindBorder t s) (u : List Char) :
    EndsBehindBorder (t ++ u) (s ++ u) := by
  obtain ⟨front, rfl, hfront⟩ := h
  exact ⟨front, List.append_assoc _ _ _, hfront⟩

theorem endsBehindBorder_dropWhile (s : List Char) : EndsBehindBorder (s.dropWhile isSlash) s := by
  refine ⟨s.takeWhile isSlash, List.takeWhile_append_dropWhile.symm, fun c hc => ?_⟩
  have hslash : isSlash c = true := List.mem_takeWhile_imp (List.mem_of_getLast? hc)
  rw [isBorder, hslash]
  rfl

theorem endsBehindBorder_of_scheme? {s t : List Char} {scheme : String}
    (h : scheme? s = some (scheme, t)) : EndsBehindBorder t s := by
  unfold scheme? at h
  split at h
  case h_1 c rest _ hdrop =>
    split at h
    · cases h
      refine ⟨s.takeWhile isSchemeChar ++ [':'], ?_, fun c hc => ?_⟩
      · rw [List.append_assoc, List.singleton_append, ← hdrop, List.takeWhile_append_dropWhile]
      · rw [List.getLast?_concat] at hc
        cases hc
        decide
    · cases h
  case h_2 => cases h

theorem endsBehindBorder_of_behindSlashes? {s t : List Char} {isWeb : Bool}
    (h : behindSlashes? s = some (isWeb, t)) : EndsBehindBorder t s := by
  unfold behindSlashes? at h
  split at h
  case h_1 scheme rest hscheme =>
    have hrest := endsBehindBorder_of_scheme? hscheme
    split at h
    · cases h
      exact (endsBehindBorder_dropWhile rest).trans hrest
    · obtain ⟨u, hu, heq⟩ := Option.map_eq_some_iff.mp h
      cases heq
      rw [← List.isPrefixOf?_eq_some_iff_append_eq.mp hu] at hrest
      have hslashes : EndsBehindBorder t (['/', '/'] ++ t) := by
        refine ⟨['/', '/'], rfl, fun c hc => ?_⟩
        obtain rfl : '/' = c := Option.some.inj hc
        decide
      exact hslashes.trans hrest
  case h_2 =>
    split at h
    · cases h
      exact endsBehindBorder_dropWhile s
    · cases h

theorem endsBehindBorder_behindUser (s : List Char) : EndsBehindBorder (behindUser s) s := by
  unfold behindUser
  by_cases h : '@' ∈ s
  case pos =>
    obtain ⟨after, before, hreverse, hafter⟩ :=
      List.eq_append_cons_of_mem (List.mem_reverse.mpr h)
    have hs : s = before.reverse ++ '@' :: after.reverse := by
      rw [← List.reverse_reverse s, hreverse]
      simp
    have hsplit := Chars.splitLast?_append_cons before.reverse (mt List.mem_reverse.mp hafter)
    rw [hs, hsplit]
    refine ⟨before.reverse ++ ['@'], List.append_cons _ _ _, fun c hc => ?_⟩
    rw [List.getLast?_concat] at hc
    cases hc
    rfl
  case neg =>
    rw [Chars.splitLast?_eq_none h]
    exact .refl s

theorem exists_of_splitPort (inBrackets : Bool) (s : List Char) :
    ∃ port, s = (splitPort inBrackets s).1 ++ port ∧ ∀ c ∈ port.head?, c = ':' := by
  induction s generalizing inBrackets with
  | nil => exact ⟨[], rfl, by simp⟩
  | cons d s ih =>
    rw [splitPort]
    split
    case isTrue hcolon => exact ⟨d :: s, rfl, by simpa using hcolon.1⟩
    case isFalse =>
      obtain ⟨port, hport, hhead⟩ := ih (d = '[' || (inBrackets && d ≠ ']'))
      exact ⟨port, congrArg (d :: ·) hport, hhead⟩

theorem isBorder_of_endsAuthority {isWeb : Bool} {c : Char} (h : endsAuthority isWeb c = true) :
    isBorder c = true := by
  simp only [endsAuthority, Bool.or_eq_true, Bool.and_eq_true, decide_eq_true_eq] at h
  rcases h with ((rfl | rfl) | rfl) | ⟨-, rfl⟩ <;> rfl

theorem isCutOf_of_cut? {s : List Char} {cut : HostCut} (h : cut? s = some cut) :
    cut.IsCutOf s := by
  obtain ⟨⟨isWeb, t⟩, ht, rfl⟩ := Option.map_eq_some_iff.mp h
  dsimp only
  set goesOn : Char → Bool := fun c => !endsAuthority isWeb c
  set path := t.dropWhile goesOn with hpath
  set named := behindUser (t.takeWhile goesOn) with hnamed
  obtain ⟨port, hport, hhead⟩ := exists_of_splitPort false named
  set host := (splitPort false named).1
  have hdrop : named.drop host.length = port := by
    conv_lhs => rw [hport]
    exact List.drop_left
  -- The path starts where the authority ends, which is at a border.
  have hpathHead : ∀ c ∈ path.head?, isBorder c = true := by
    intro c hc
    have hends := List.head?_dropWhile_not goesOn t
    rw [← hpath, hc] at hends
    exact isBorder_of_endsAuthority (by simpa [goesOn] using hends)
  have hnamedEnd := (endsBehindBorder_behindUser (t.takeWhile goesOn)).append path
  rw [List.takeWhile_append_dropWhile, ← hnamed, hport, List.append_assoc] at hnamedEnd
  obtain ⟨front, hs, hfront⟩ := hnamedEnd.trans (endsBehindBorder_of_behindSlashes? ht)
  have htake : s.take (s.length - (host ++ (port ++ path)).length) = front := by
    rw [hs, List.length_append, Nat.add_sub_cancel, List.take_left]
  rw [hdrop, htake]
  refine ⟨hs, hfront, fun c hc => ?_⟩
  -- What follows the host is its port, or the path if there is none.
  rw [List.head?_append] at hc
  cases hport' : port.head? with
  | none =>
    rw [hport', Option.none_or] at hc
    exact hpathHead c hc
  | some d =>
    rw [hport', Option.some_or] at hc
    obtain rfl := hhead c (hport' ▸ hc)
    rfl

/-! ### Names of sites -/

/-- An address as it is read: in lowercase and without the characters that do not count. -/
def spelled (address : String) : List Char := clean (Text.lowercase address).toList

/-- A host is a site or a subdomain of it. -/
def IsWithin (site : String) (host : List Char) : Prop :=
  host = site.toList ∨ '.' :: site.toList <:+ host

/-- The host of an address is one of some sites or a subdomain of one. -/
def IsAt (sites : List String) (address : String) : Prop :=
  ∃ cut ∈ cut? (spelled address), ∃ site ∈ sites, IsWithin site cut.host

instance (site : String) (host : List Char) : Decidable (IsWithin site host) :=
  inferInstanceAs (Decidable (_ ∨ _))

instance (sites : List String) (address : String) : Decidable (IsAt sites address) :=
  inferInstanceAs (Decidable (∃ cut ∈ cut? (spelled address), ∃ site ∈ sites, _))

/-- The name of a site stands in an address that does not lead to the site. -/
inductive NamesAside (sites : List String) (address : String) : Prop
  /-- There is no host. -/
  | hostless (hcut : cut? (spelled address) = none) (site : String) (hsite : site ∈ sites)
      (hname : site.toList <:+: spelled address)
  /-- The name stands in front of the host, as in the name of a user. -/
  | front (cut : HostCut) (hcut : cut? (spelled address) = some cut) (site : String)
      (hsite : site ∈ sites) (hname : site.toList <:+: cut.front)
  /-- The name is a part of the name of another host. -/
  | host (cut : HostCut) (hcut : cut? (spelled address) = some cut) (site : String)
      (hsite : site ∈ sites) (hname : site.toList <:+: cut.host) (hother : ¬IsWithin site cut.host)
  /-- The name stands behind the host, as in a path or a query. -/
  | rest (cut : HostCut) (hcut : cut? (spelled address) = some cut) (site : String)
      (hsite : site ∈ sites) (hname : site.toList <:+: cut.rest)

/-- Whether a name has only characters that count and stand between borders. -/
def isSiteName (site : String) : Bool := site.toList.all fun c => !isBorder c && 0x20 < c.toNat

/-- **An address that names a site leads there**, unless the name stands aside. -/
theorem isAt_or_namesAside {sites : List String} (hsites : ∀ site ∈ sites, isSiteName site = true)
    {address : String} (h : names sites address = true) :
    IsAt sites address ∨ NamesAside sites address := by
  obtain ⟨site, hsite, hnames⟩ := List.any_eq_true.mp h
  have hchars : ∀ c ∈ site.toList, isBorder c = false ∧ 0x20 < c.toNat := by
    intro c hc
    simpa using List.all_eq_true.mp (hsites site hsite) c hc
  have hpart : site.toList <:+: spelled address :=
    isInfix_clean (fun c hc => (hchars c hc).2) (Chars.containsPiece_iff.mp hnames)
  cases hcut : cut? (spelled address) with
  | none => exact .inr (.hostless hcut site hsite hpart)
  | some cut =>
    rcases (isCutOf_of_cut? hcut).isInfix_or (fun c hc => (hchars c hc).1) hpart with
      hfront | hhost | hrest
    · exact .inr (.front cut hcut site hsite hfront)
    · by_cases hwithin : IsWithin site cut.host
      · exact .inl ⟨cut, hcut, site, hsite, hwithin⟩
      · exact .inr (.host cut hcut site hsite hhost hwithin)
    · exact .inr (.rest cut hcut site hsite hrest)

end PageModules.Address
