import Mathlib.Data.List.Nodup
import PageModules.Page.Schema
import PageModules.Proofs.Json.Order

/-!
# Writing and reading pages

Reading is inverse to writing (`Outcome.ofJson?_inverse_toData`).  An outcome as data has its fields
in order (`Outcome.toData`), and is read from there as it was.  What has the form of an outcome,
names types of the catalog only and counts the modules with an integer is read, and writing what was
read gives it again.

Both hold module by module, from the innermost outwards: a module is determined by what is under the
names of its fields, and the form allows no other names (`Schema.moduleFields_iff`).
-/

namespace PageModules

/-! ### Objects -/

namespace Entries

variable {α : Type} {entries : List (String × α)}

theorem lookup_eq_none_of_not_mem {k : String} (h : k ∉ entries.map (·.1)) :
    List.lookup k entries = none := by
  refine List.lookup_eq_none_iff.mpr fun e he => bne_iff_ne.mpr ?_
  rintro rfl
  exact h (List.mem_map_of_mem he)

theorem lookup_reverse_of_nodup (h : (entries.map (·.1)).Nodup) (k : String) :
    List.lookup k entries.reverse = List.lookup k entries := by
  induction entries with
  | nil => rfl
  | cons entry rest ih =>
    obtain ⟨hentry, hrest⟩ := List.nodup_cons.mp h
    rw [List.reverse_cons, List.lookup_append, ih hrest, lookup_cons, lookup_cons, List.lookup_nil]
    split
    · next hk =>
      subst hk
      rw [lookup_eq_none_of_not_mem hentry, Option.none_or]
    · rw [Option.or_none]

end Entries

namespace Json

theorem field?_ofFields {fields : List (String × Json)} (h : (fields.map (·.1)).Nodup)
    (k : String) : (ofFields fields).field? k = List.lookup k fields := by
  rw [ofFields_eq]
  exact (KeyMap.find?_ofList fields k).trans (Entries.lookup_reverse_of_nodup h k)

theorem recordFields?_ofFields (names : List String) {fields : List (String × Json)}
    (h : (fields.map (·.1)).Nodup) :
    (ofFields fields).recordFields? names = some (names.map (List.lookup · fields)) := by
  have hfind := field?_ofFields h
  rw [ofFields_eq] at hfind ⊢
  exact congrArg some (List.map_congr_left fun k _ => hfind k)

theorem ofFields_eq_of_nodup {written fields : List (String × Json)}
    (hwritten : (written.map (·.1)).Nodup) (hfields : Entries.Ordered fields)
    (h : ∀ k, List.lookup k written = List.lookup k fields) :
    ofFields written = object fields :=
  ofFields_eq_of_lookup hfields fun k => (Entries.lookup_reverse_of_nodup hwritten k).trans (h k)

theorem depth_lt_of_field? {v w : Json} {name : String} (h : v.field? name = some w) :
    w.depth < v.depth := by
  cases v with
  | object fields =>
    exact Nat.lt_succ_of_le (depth_le_depthFields (Entries.mem_of_lookup_eq_some h))
  | _ => cases h

theorem depth_lt_of_mem {v : Json} {items : List Json} (h : v ∈ items) :
    v.depth < (array items).depth :=
  Nat.lt_succ_of_le (depth_le_depthAll h)

end Json

/-! ### Lists -/

section Lists

variable {α β : Type} {read? : α → Option β} {write : β → α}

theorem mapM_map_of_forall {bs : List β} (h : ∀ b ∈ bs, read? (write b) = some b) :
    (bs.map write).mapM read? = some bs := by
  induction bs with
  | nil => rfl
  | cons b rest ih =>
    obtain ⟨hb, hrest⟩ := List.forall_mem_cons.mp h
    rw [List.map_cons, List.mapM_cons, hb, ih hrest]
    rfl

theorem exists_mapM_of_forall {as : List α} (h : ∀ a ∈ as, ∃ b, read? a = some b ∧ write b = a) :
    ∃ bs, as.mapM read? = some bs ∧ bs.map write = as := by
  induction as with
  | nil => exact ⟨[], rfl, rfl⟩
  | cons a rest ih =>
    obtain ⟨⟨b, hread, hwrite⟩, hrest⟩ := List.forall_mem_cons.mp h
    obtain ⟨bs, hreads, hwrites⟩ := ih hrest
    refine ⟨b :: bs, ?_, by rw [List.map_cons, hwrite, hwrites]⟩
    rw [List.mapM_cons, hread, hreads]
    rfl

end Lists

/-! ### Modules that were written -/

namespace PageModule

/-- The attributes are data with the fields in order. -/
def IsOrdered (m : PageModule) : Prop := ∀ e ∈ m.attrs.entries, e.2.IsOrdered

theorem toJsonAll_eq_map (ms : List PageModule) : toJsonAll ms = ms.map toJson := by
  induction ms with
  | nil => rfl
  | cons m rest ih => rw [toJsonAll, ih, List.map_cons]

/-- A module as data with the fields in order. -/
def toData (m : PageModule) : Json := m.toJson.ordered

/-- The fields of a module as data. -/
def dataFields (m : PageModule) : List (String × Json) :=
  [("id", .text m.id), ("type", .text m.type.slug),
      ("attrs", (Json.ofAttributes m.attrs).ordered)] ++
    if m.children.isEmpty then [] else [("children", .array (m.children.map toData))]

theorem toData_eq (m : PageModule) : m.toData = .ofFields m.dataFields := by
  obtain ⟨id, type, attrs, children⟩ := m
  rw [toData, toJson, dataFields]
  cases children with
  | nil => rfl
  | cons m rest =>
    have hitems : Json.orderedAll (toJsonAll (m :: rest)) = (m :: rest).map toData := by
      rw [Json.orderedAll_eq_map, toJsonAll_eq_map, List.map_map]
      rfl
    rw [← hitems]
    rfl

theorem map_fst_dataFields (m : PageModule) : m.dataFields.map (·.1) =
    if m.children.isEmpty then ["id", "type", "attrs"] else fieldNames := by
  unfold dataFields
  split <;> rfl

theorem nodup_dataFields (m : PageModule) : (m.dataFields.map (·.1)).Nodup := by
  rw [map_fst_dataFields]
  split <;> decide

theorem mem_fieldNames_of_mem {m : PageModule} {k : String} (h : k ∈ m.dataFields.map (·.1)) :
    k ∈ fieldNames := by
  have hsub : ["id", "type", "attrs"] ⊆ fieldNames := by decide
  rw [map_fst_dataFields] at h
  split at h
  · exact hsub h
  · exact h

theorem recordFields?_toData (m : PageModule) : m.toData.recordFields? fieldNames =
    some [some (.text m.id), some (.text m.type.slug), some (Json.ofAttributes m.attrs).ordered,
      if (m.children.map toData).isEmpty then none else some (.array (m.children.map toData))] := by
  rw [toData_eq, Json.recordFields?_ofFields _ m.nodup_dataFields, List.isEmpty_map]
  unfold dataFields fieldNames
  split <;> simp [List.lookup_cons, List.lookup_nil]

theorem field?_children_toData {m : PageModule} (h : m.children ≠ []) :
    m.toData.field? "children" = some (.array (m.children.map toData)) := by
  rw [toData_eq, Json.field?_ofFields m.nodup_dataFields, dataFields, if_neg (by simpa using h)]
  simp [List.lookup_cons]

theorem ofSlug?_slug (type : ModuleType) : ModuleType.ofSlug? type.slug = some type := by
  cases type <;> decide

theorem attributes?_ordered {attrs : Attributes} (h : ∀ e ∈ attrs.entries, e.2.IsOrdered) :
    (Json.ofAttributes attrs).ordered.attributes? = some attrs := by
  have hordered : (Json.ofAttributes attrs).IsOrdered := .object attrs.ordered h
  rw [hordered.ordered_eq, Json.ofAttributes, Json.attributes?, KeyMap.ofList_entries]

/-- A module is read of its identifier, its type, its attributes and the modules inside. -/
theorem ofJsonDepth?_eq_some {depth : ℕ} {v written : Json} {id : String} {type : ModuleType}
    {attrs : Attributes} {items : List Json} {children : List PageModule}
    (hfields : v.recordFields? fieldNames = some [some (.text id), some (.text type.slug),
      some written, if items.isEmpty then none else some (.array items)])
    (hattrs : written.attributes? = some attrs)
    (hitems : items.mapM (ofJsonDepth? depth) = some children) :
    ofJsonDepth? (depth + 1) v = some ⟨id, type, attrs, children⟩ := by
  rw [ofJsonDepth?, hfields, Option.bind_some, ofFields?]
  simp only [Json.text?, Json.choiceName?, Option.bind_some, ofSlug?_slug, hattrs]
  cases items with
  | nil =>
    cases hitems
    rfl
  | cons w rest =>
    have hread : readList? (ofJsonDepth? depth) (.array (w :: rest)) = some children := hitems
    simp only [List.isEmpty_cons, Bool.false_eq_true, ↓reduceIte, hread]
    rfl

mutual

/-- A module is read from its data. -/
theorem ofJsonDepth?_toData (m : PageModule) (hm : ∀ m' ∈ m.preorder, m'.IsOrdered) (depth : ℕ)
    (hdepth : m.toData.depth ≤ depth) : ofJsonDepth? depth m.toData = some m := by
  obtain ⟨id, type, attrs, children⟩ := m
  rw [preorder] at hm
  obtain ⟨hattrs, hinside⟩ := List.forall_mem_cons.mp hm
  cases depth with
  | zero =>
    rw [toData_eq, Json.ofFields_eq] at hdepth
    cases hdepth
  | succ depth =>
    refine ofJsonDepth?_eq_some (recordFields?_toData ⟨id, type, attrs, children⟩)
      (attributes?_ordered hattrs) ?_
    refine mapM_map_of_forall fun m hm => ofJsonDepth?_of_mem children hinside m hm depth ?_
    have hlist : Json.field? (toData ⟨id, type, attrs, children⟩) "children" =
        some (.array (children.map toData)) := field?_children_toData (List.ne_nil_of_mem hm)
    have hbelow : m.toData.depth < (Json.array (children.map toData)).depth :=
      Json.depth_lt_of_mem (List.mem_map_of_mem hm)
    have hchildren := Json.depth_lt_of_field? hlist
    omega

theorem ofJsonDepth?_of_mem (ms : List PageModule) (hms : ∀ m' ∈ preorderAll ms, m'.IsOrdered) :
    ∀ m ∈ ms, ∀ depth, m.toData.depth ≤ depth → ofJsonDepth? depth m.toData = some m := by
  cases ms with
  | nil => simp
  | cons m rest =>
    rw [preorderAll] at hms
    obtain ⟨hm, hrest⟩ := List.forall_mem_append.mp hms
    exact List.forall_mem_cons.mpr ⟨ofJsonDepth?_toData m hm, ofJsonDepth?_of_mem rest hrest⟩

end

end PageModule

/-! ### Modules that have their form -/

namespace Schema

/-- Whether a field of a module has a known name and a value that fits. -/
def moduleField (e : String × Json) : Bool :=
  match e.1 with
  | "id" => isText isIdentifier e.2
  | "type" => isText isTypeName e.2
  | "attrs" => isObject e.2
  | "children" => isModuleList true e.2
  | _ => false

theorem moduleFields_iff {fields : List (String × Json)} :
    moduleFields fields = true ↔ ∀ e ∈ fields, moduleField e = true := by
  induction fields with
  | nil => simp [moduleFields]
  | cons e rest ih =>
    have hcons : moduleFields (e :: rest) = (moduleField e && moduleFields rest) := by
      conv_lhs => unfold moduleFields
      rfl
    rw [hcons, Bool.and_eq_true, ih, List.forall_mem_cons]

mutual

/-- Whether the types of a module and of those inside of it are in the catalog. -/
def namesTypes : Json → Bool
  | .object fields => namesTypesFields fields
  | _ => true

/-- Whether the type under the fields of a module, and those of the modules inside, are in the
catalog. -/
def namesTypesFields : List (String × Json) → Bool
  | [] => true
  | (name, v) :: rest =>
    (match name with
      | "type" => v.text?.all fun s => (ModuleType.ofSlug? s).isSome
      | "children" => namesTypesList v
      | _ => true) && namesTypesFields rest

/-- Whether the types of the modules in a list are in the catalog. -/
def namesTypesList : Json → Bool
  | .array items => namesTypesAll items
  | _ => true

/-- Whether the types of all modules are in the catalog. -/
def namesTypesAll : List Json → Bool
  | [] => true
  | v :: rest => namesTypes v && namesTypesAll rest

end

theorem areModules_iff {items : List Json} :
    areModules items = true ↔ ∀ v ∈ items, isModule v = true := by
  induction items with
  | nil => simp [areModules]
  | cons v rest ih => rw [areModules, Bool.and_eq_true, ih, List.forall_mem_cons]

theorem namesTypesAll_iff {items : List Json} :
    namesTypesAll items = true ↔ ∀ v ∈ items, namesTypes v = true := by
  induction items with
  | nil => simp [namesTypesAll]
  | cons v rest ih => rw [namesTypesAll, Bool.and_eq_true, ih, List.forall_mem_cons]

theorem namesTypes_of_mem {fields : List (String × Json)} (h : namesTypesFields fields = true) :
    (∀ s, ("type", .text s) ∈ fields → (ModuleType.ofSlug? s).isSome = true) ∧
      ∀ v, ("children", v) ∈ fields → namesTypesList v = true := by
  induction fields with
  | nil => simp
  | cons e rest ih =>
    unfold namesTypesFields at h
    rw [Bool.and_eq_true] at h
    obtain ⟨htypes, hlists⟩ := ih h.2
    refine ⟨fun s hs => ?_, fun v hv => ?_⟩
    · rcases List.mem_cons.mp hs with rfl | hs
      · exact h.1
      · exact htypes s hs
    · rcases List.mem_cons.mp hv with rfl | hv
      · exact h.1
      · exact hlists v hv

theorem exists_find?_of_hasFields {names : List String} {fields : List (String × Json)}
    (h : hasFields names fields = true) {k : String} (hk : k ∈ names) :
    ∃ v, List.lookup k fields = some v :=
  Option.isSome_iff_exists.mp (List.all_eq_true.mp h k hk)

/-- There is no field with a name that none may have. -/
theorem find?_eq_none_of_fits {fits : String × Json → Bool} {fields : List (String × Json)}
    (h : ∀ e ∈ fields, fits e = true) {k : String} (hk : ∀ v, fits (k, v) = false) :
    List.lookup k fields = none := by
  rw [Option.eq_none_iff_forall_not_mem]
  intro v hv
  have hfits := h _ (Entries.mem_of_lookup_eq_some hv)
  rw [hk v] at hfits
  cases hfits

theorem moduleField_eq_false {k : String} (hk : k ∉ PageModule.fieldNames) (v : Json) :
    moduleField (k, v) = false := by
  unfold moduleField
  split <;> simp_all [PageModule.fieldNames]

theorem pageField_eq_false {k : String} (hk : k ∉ Page.fieldNames) (v : Json) :
    pageField (k, v) = false := by
  unfold pageField
  split <;> simp_all [Page.fieldNames]

theorem exists_of_isModuleList (some' : Bool) {v : Json} (h : isModuleList some' v = true) :
    ∃ items, v = .array items ∧ areModules items = true ∧ (some' = true → items ≠ []) := by
  cases v with
  | array items =>
    rw [isModuleList, Bool.and_eq_true] at h
    exact ⟨items, rfl, h.2, fun hsome => by simpa [hsome] using h.1⟩
  | _ => cases h

theorem exists_of_isText {fits : List Char → Bool} {v : Json} (h : isText fits v = true) :
    ∃ s, v = .text s := by
  cases v with
  | text s => exact ⟨s, rfl⟩
  | _ => cases h

/-- What is under the names of the fields of a module that has its form and names types of the
catalog only. -/
structure HasModuleFields (fields : List (String × Json)) (id : String) (type : ModuleType)
    (attrs : List (String × Json)) (items : List Json) : Prop where
  /-- The identifier. -/
  id : List.lookup "id" fields = some (.text id)
  /-- The type, by its name. -/
  type : List.lookup "type" fields = some (.text type.slug)
  /-- The attributes. -/
  attrs : List.lookup "attrs" fields = some (.object attrs)
  /-- The modules inside; without any there is no list. -/
  children : List.lookup "children" fields = if items.isEmpty then none else some (.array items)
  /-- There are no other fields. -/
  others : ∀ k ∉ PageModule.fieldNames, List.lookup k fields = none
  /-- The modules inside have their form. -/
  inside : areModules items = true
  /-- They name types of the catalog, too. -/
  inside_types : namesTypesAll items = true

theorem exists_hasModuleFields {fields : List (String × Json)}
    (h : isModule (.object fields) = true) (htypes : namesTypes (.object fields) = true) :
    ∃ id type attrs items, HasModuleFields fields id type attrs items := by
  rw [isModule, Bool.and_eq_true, Bool.and_eq_true] at h
  obtain ⟨⟨hnames, hfields⟩, -⟩ := h
  rw [moduleFields_iff] at hfields
  rw [namesTypes] at htypes
  have hfits {k : String} {v : Json} (hfind : List.lookup k fields = some v) :
      moduleField (k, v) = true := hfields _ (Entries.mem_of_lookup_eq_some hfind)
  obtain ⟨v, hid⟩ := exists_find?_of_hasFields hnames (k := "id") (by simp)
  obtain ⟨id, rfl⟩ := exists_of_isText (hfits hid)
  obtain ⟨v, htype⟩ := exists_find?_of_hasFields hnames (k := "type") (by simp)
  obtain ⟨slug, rfl⟩ := exists_of_isText (hfits htype)
  obtain ⟨type, hslug⟩ := Option.isSome_iff_exists.mp
    ((namesTypes_of_mem htypes).1 slug (Entries.mem_of_lookup_eq_some htype))
  obtain rfl : type.slug = slug := by simpa using List.find?_some hslug
  obtain ⟨v, hattrs⟩ := exists_find?_of_hasFields hnames (k := "attrs") (by simp)
  obtain ⟨attrs, rfl⟩ : ∃ attrs, v = .object attrs := by
    have hobject := hfits hattrs
    cases v with
    | object attrs => exact ⟨attrs, rfl⟩
    | _ => cases hobject
  have hothers : ∀ k ∉ PageModule.fieldNames, List.lookup k fields = none :=
    fun k hk => find?_eq_none_of_fits hfields (moduleField_eq_false hk)
  cases hchildren : List.lookup "children" fields with
  | none => exact ⟨id, type, attrs, [], hid, htype, hattrs, hchildren, hothers, rfl, rfl⟩
  | some v =>
    have hlistTypes := (namesTypes_of_mem htypes).2 v (Entries.mem_of_lookup_eq_some hchildren)
    obtain ⟨items, rfl, hmodules, hsome⟩ := exists_of_isModuleList true (hfits hchildren)
    refine ⟨id, type, attrs, items, hid, htype, hattrs, ?_, hothers, hmodules, hlistTypes⟩
    rw [hchildren, if_neg (by simpa using hsome rfl)]

end Schema

namespace PageModule

theorem ordered_object_inv {fields : List (String × Json)} (h : (Json.object fields).IsOrdered) :
    Entries.Ordered fields ∧ ∀ e ∈ fields, e.2.IsOrdered := by
  cases h with
  | object hnames hinside => exact ⟨hnames, hinside⟩

/-- The module with what is under the names of its fields. -/
theorem toData_eq_object {fields : List (String × Json)} {id : String} {type : ModuleType}
    {attrs : List (String × Json)} {ms : List PageModule}
    (h : Schema.HasModuleFields fields id type attrs (ms.map toData))
    (hfields : (Json.object fields).IsOrdered) :
    toData ⟨id, type, .ofList attrs, ms⟩ = .object fields := by
  obtain ⟨hnames, hvalues⟩ := ordered_object_inv hfields
  have hattrs := hvalues _ (Entries.mem_of_lookup_eq_some h.attrs)
  have hofAttributes : (Json.ofAttributes (.ofList attrs)).ordered = .object attrs := by
    rw [Json.ofAttributes, KeyMap.entries_ofList (ordered_object_inv hattrs).1, hattrs.ordered_eq]
  rw [toData_eq]
  refine Json.ofFields_eq_of_nodup (nodup_dataFields _) hnames fun k => ?_
  by_cases hk : k ∈ fieldNames
  · unfold dataFields
    rw [hofAttributes]
    simp only [fieldNames, List.mem_cons, List.not_mem_nil, or_false] at hk
    rcases hk with rfl | rfl | rfl | rfl
    · exact h.id.symm
    · exact h.type.symm
    · exact h.attrs.symm
    · rw [h.children]
      cases ms <;> rfl
  · rw [h.others k hk]
    exact Entries.lookup_eq_none_of_not_mem (mt mem_fieldNames_of_mem hk)

/-- **A module is read from data of its form**, and written as it was. -/
theorem exists_ofJsonDepth?_eq {depth : ℕ} {v : Json} (hdepth : v.depth ≤ depth)
    (hmodule : Schema.isModule v = true) (htypes : Schema.namesTypes v = true) (hv : v.IsOrdered) :
    ∃ m, ofJsonDepth? depth v = some m ∧ m.toData = v := by
  -- The induction is on the depth that may be read, as in the reader; what is inside is less deep.
  induction depth generalizing v with
  | zero =>
    cases v with
    | object fields => cases hdepth
    | _ => cases hmodule
  | succ depth ih =>
    cases v with
    | object fields =>
      obtain ⟨id, type, attrs, items, h⟩ := Schema.exists_hasModuleFields hmodule htypes
      have hinside : ∀ w ∈ items, ∃ m, ofJsonDepth? depth w = some m ∧ m.toData = w := by
        intro w hw
        have hlist : List.lookup "children" fields = some (.array items) := by
          rw [h.children, if_neg (by simpa using List.ne_nil_of_mem hw)]
        have hbelow := Json.depth_lt_of_mem hw
        have hchildren := Json.depth_lt_of_field? (v := .object fields) hlist
        have hordered := (ordered_object_inv hv).2 _ (Entries.mem_of_lookup_eq_some hlist)
        cases hordered with
        | array hitems =>
          exact ih (by omega) (Schema.areModules_iff.mp h.inside w hw)
            (Schema.namesTypesAll_iff.mp h.inside_types w hw) (hitems w hw)
      obtain ⟨ms, hread, rfl⟩ := exists_mapM_of_forall hinside
      have hfields : Json.recordFields? fieldNames (.object fields) =
          some [some (.text id), some (.text type.slug), some (.object attrs),
            if (ms.map toData).isEmpty then none else some (.array (ms.map toData))] := by
        simp only [Json.recordFields?, fieldNames, List.map_cons, List.map_nil, h.id, h.type,
          h.attrs, h.children]
      exact ⟨_, ofJsonDepth?_eq_some hfields rfl hread, toData_eq_object h hv⟩
    | _ => cases hmodule

end PageModule

/-! ### Pages -/

namespace Page

/-- A page as data with the fields in order. -/
def toData (p : Page) : Json := p.toJson.ordered

/-- The fields of a page as data. -/
def dataFields (p : Page) : List (String × Json) :=
  [("success", .bool p.success), ("content", .array (p.content.map PageModule.toData)),
    ("css", .text p.css), ("mode", .text p.mode.name),
    ("stats", .object [("modules_count", .integer p.modulesCount)])]

theorem toData_eq (p : Page) : p.toData = .ofFields p.dataFields := by
  have hcontent : Json.orderedAll (PageModule.toJsonAll p.content) =
      p.content.map PageModule.toData := by
    rw [Json.orderedAll_eq_map, PageModule.toJsonAll_eq_map, List.map_map]
    rfl
  rw [dataFields, ← hcontent]
  rfl

theorem map_fst_dataFields (p : Page) : p.dataFields.map (·.1) = fieldNames := rfl

theorem nodup_dataFields (p : Page) : (p.dataFields.map (·.1)).Nodup := by
  rw [map_fst_dataFields]
  decide

theorem recordFields?_toData (p : Page) : p.toData.recordFields? fieldNames =
    some (p.dataFields.map fun e => some e.2) := by
  rw [toData_eq, Json.recordFields?_ofFields _ p.nodup_dataFields]
  simp [dataFields, fieldNames, List.lookup_cons, List.lookup_nil]

theorem ofName?_name (mode : WalkMode) : WalkMode.ofName? mode.name = some mode := by
  cases mode <;> decide

theorem statsOf?_count (n : ℕ) :
    statsOf? (.object [("modules_count", .integer n)]) = some n := by
  simp [statsOf?, Json.recordFields?, List.lookup_cons, List.lookup_nil, Json.nat?]

/-- A page is read of its fields. -/
theorem ofJson?_eq_some {v : Json} {p : Page} {items : List Json}
    (hfields : v.recordFields? fieldNames = some [some (.bool p.success), some (.array items),
      some (.text p.css), some (.text p.mode.name),
      some (.object [("modules_count", .integer p.modulesCount)])])
    (hitems : items.mapM PageModule.ofJson? = some p.content) : ofJson? v = some p := by
  have hcontent : PageModule.readList? PageModule.ofJson? (.array items) = some p.content := hitems
  rw [ofJson?, hfields]
  simp only [Json.bool?, hcontent, Json.text?, Json.choiceName?, Option.bind_some, ofName?_name,
    statsOf?_count]
  rfl

/-- A page is read from its data. -/
theorem ofJson?_toData {p : Page}
    (hp : ∀ m ∈ PageModule.preorderAll p.content, m.IsOrdered) : ofJson? p.toData = some p := by
  refine ofJson?_eq_some (recordFields?_toData p) (mapM_map_of_forall fun m hm => ?_)
  exact PageModule.ofJsonDepth?_of_mem p.content hp m hm _ (Nat.le_refl _)

end Page

namespace Schema

/-- Whether the types of all modules of an outcome are in the catalog. -/
def namesOutcomeTypes (v : Json) : Bool := (v.field? "content").all namesTypesList

/-- Whether a value is an integer. -/
def isInteger : Json → Bool
  | .integer _ => true
  | _ => false

/-- Whether an outcome counts its modules with an integer. -/
def countsInInteger (v : Json) : Bool :=
  ((v.field? "stats").bind fun stats => stats.field? "modules_count").all isInteger

theorem exists_of_isStats {v : Json} (h : isStats v = true)
    (hinteger : (v.field? "modules_count").all isInteger = true) :
    ∃ n : ℕ, v = .object [("modules_count", .integer n)] := by
  unfold isStats at h
  split at h
  · next n =>
    have hn : isInteger n = true := hinteger
    cases n with
    | integer k =>
      have hk : (k.toNat : ℤ) = k := Int.toNat_of_nonneg (by simpa [isCount] using h)
      exact ⟨k.toNat, by rw [hk]⟩
    | _ => cases hn
  · cases h

theorem exists_of_isMode {v : Json} (h : v.text?.any ["jtb_annotated", "generic"].contains = true) :
    ∃ mode : WalkMode, v = .text mode.name := by
  cases v with
  | text s =>
    have hs : s = "jtb_annotated" ∨ s = "generic" := by simpa [Json.text?] using h
    rcases hs with rfl | rfl
    · exact ⟨.annotated, rfl⟩
    · exact ⟨.generic, rfl⟩
  | _ => cases h

/-- What is under the names of the fields of a page that has its form, names types of the catalog
only and counts with an integer. -/
structure HasPageFields (fields : List (String × Json)) (items : List Json) (css : String)
    (mode : WalkMode) (n : ℕ) : Prop where
  /-- The page went well. -/
  success : List.lookup "success" fields = some (.bool true)
  /-- The modules. -/
  content : List.lookup "content" fields = some (.array items)
  /-- The style sheet. -/
  css : List.lookup "css" fields = some (.text css)
  /-- The way of reading. -/
  mode : List.lookup "mode" fields = some (.text mode.name)
  /-- The number of modules. -/
  stats : List.lookup "stats" fields = some (.object [("modules_count", .integer n)])
  /-- There are no other fields. -/
  others : ∀ k ∉ Page.fieldNames, List.lookup k fields = none
  /-- The modules have their form. -/
  inside : areModules items = true
  /-- They name types of the catalog. -/
  inside_types : namesTypesAll items = true

theorem exists_hasPageFields {fields : List (String × Json)} (h : isPage (.object fields) = true)
    (htypes : namesOutcomeTypes (.object fields) = true)
    (hcount : countsInInteger (.object fields) = true) :
    ∃ items css mode n, HasPageFields fields items css mode n := by
  rw [isPage, Bool.and_eq_true, List.all_eq_true] at h
  obtain ⟨hnames, hfields⟩ := h
  have hfits {k : String} {v : Json} (hfind : List.lookup k fields = some v) :
      pageField (k, v) = true := hfields _ (Entries.mem_of_lookup_eq_some hfind)
  obtain ⟨v, hsuccess⟩ := exists_find?_of_hasFields hnames (k := "success") (by simp)
  obtain rfl : v = .bool true := by
    have htrue : v.bool? = some true := beq_iff_eq.mp (hfits hsuccess)
    cases v with
    | bool b => exact congrArg Json.bool (Option.some.inj htrue)
    | _ => cases htrue
  obtain ⟨v, hcontent⟩ := exists_find?_of_hasFields hnames (k := "content") (by simp)
  obtain ⟨items, rfl, hmodules, -⟩ := exists_of_isModuleList false (hfits hcontent)
  have hlistTypes : namesTypesList (.array items) = true := by
    simpa [namesOutcomeTypes, Json.field?, hcontent] using htypes
  obtain ⟨v, hcss⟩ := exists_find?_of_hasFields hnames (k := "css") (by simp)
  obtain ⟨css, rfl⟩ : ∃ css, v = .text css := by
    have htext : v.text?.isSome = true := hfits hcss
    cases v with
    | text s => exact ⟨s, rfl⟩
    | _ => cases htext
  obtain ⟨v, hmode⟩ := exists_find?_of_hasFields hnames (k := "mode") (by simp)
  obtain ⟨mode, rfl⟩ := exists_of_isMode (hfits hmode)
  obtain ⟨v, hstats⟩ := exists_find?_of_hasFields hnames (k := "stats") (by simp)
  obtain ⟨n, rfl⟩ := exists_of_isStats (hfits hstats)
    (by simpa [countsInInteger, Json.field?, hstats] using hcount)
  have hothers : ∀ k ∉ Page.fieldNames, List.lookup k fields = none :=
    fun k hk => find?_eq_none_of_fits hfields (pageField_eq_false hk)
  exact ⟨items, css, mode, n, hsuccess, hcontent, hcss, hmode, hstats, hothers, hmodules,
    hlistTypes⟩

end Schema

namespace Page

theorem toData_eq_object {fields : List (String × Json)} {ms : List PageModule} {css : String}
    {mode : WalkMode} {n : ℕ}
    (h : Schema.HasPageFields fields (ms.map PageModule.toData) css mode n)
    (hfields : Entries.Ordered fields) : toData ⟨true, ms, css, mode, n⟩ = .object fields := by
  rw [toData_eq]
  refine Json.ofFields_eq_of_nodup (nodup_dataFields _) hfields fun k => ?_
  by_cases hk : k ∈ fieldNames
  · simp only [fieldNames, List.mem_cons, List.not_mem_nil, or_false] at hk
    rcases hk with rfl | rfl | rfl | rfl | rfl
    · exact h.success.symm
    · exact h.content.symm
    · exact h.css.symm
    · exact h.mode.symm
    · exact h.stats.symm
  · rw [h.others k hk]
    exact Entries.lookup_eq_none_of_not_mem hk

/-- A page is read from data of its form, and written as it was. -/
theorem exists_ofJson?_eq {v : Json} (h : Schema.isPage v = true)
    (htypes : Schema.namesOutcomeTypes v = true) (hcount : Schema.countsInInteger v = true)
    (hv : v.IsOrdered) : ∃ p, ofJson? v = some p ∧ p.toData = v := by
  cases v with
  | object fields =>
    obtain ⟨items, css, mode, n, hfields⟩ := Schema.exists_hasPageFields h htypes hcount
    obtain ⟨hnames, hvalues⟩ := PageModule.ordered_object_inv hv
    have hinside : ∀ w ∈ items, ∃ m, PageModule.ofJson? w = some m ∧ m.toData = w := by
      intro w hw
      have hcontent := hvalues _ (Entries.mem_of_lookup_eq_some hfields.content)
      cases hcontent with
      | array hitems =>
        exact PageModule.exists_ofJsonDepth?_eq (Nat.le_refl _)
          (Schema.areModules_iff.mp hfields.inside w hw)
          (Schema.namesTypesAll_iff.mp hfields.inside_types w hw) (hitems w hw)
    obtain ⟨ms, hread, rfl⟩ := exists_mapM_of_forall hinside
    refine ⟨⟨true, ms, css, mode, n⟩, ?_, toData_eq_object hfields hnames⟩
    have hrecord : Json.recordFields? fieldNames (.object fields) = some [some (.bool true),
        some (.array (ms.map PageModule.toData)), some (.text css), some (.text mode.name),
        some (.object [("modules_count", .integer n)])] := by
      simp only [Json.recordFields?, fieldNames, List.map_cons, List.map_nil, hfields.success,
        hfields.content, hfields.css, hfields.mode, hfields.stats]
    exact ofJson?_eq_some hrecord hread
  | _ => cases h

end Page

/-! ### Outcomes -/

namespace Outcome

/-- The attributes of all modules are data with the fields in order. -/
def IsOrdered : Outcome → Prop
  | page p => ∀ m ∈ PageModule.preorderAll p.content, m.IsOrdered
  | failure _ => True

/-- An outcome as data with the fields in order. -/
def toData (o : Outcome) : Json := o.toJson.ordered

theorem ofJson?_toData {o : Outcome} (h : o.IsOrdered) : ofJson? o.toData = some o := by
  cases o with
  | page p =>
    have hread : Page.ofJson? (toData (page p)) = some p := Page.ofJson?_toData h
    rw [ofJson?, hread]
  | failure message => rfl

theorem exists_ofJson?_eq {v : Json} (h : Schema.isOutcome v = true)
    (htypes : Schema.namesOutcomeTypes v = true) (hcount : Schema.countsInInteger v = true)
    (hv : v.IsOrdered) : ∃ o, ofJson? v = some o ∧ o.toData = v := by
  by_cases hpage : Schema.isPage v = true
  · obtain ⟨p, hread, hwrite⟩ := Page.exists_ofJson?_eq hpage htypes hcount hv
    exact ⟨page p, by rw [ofJson?, hread], hwrite⟩
  · have hfailure : Schema.isFailure v = true := by
      rw [Schema.isOutcome, Bool.not_eq_true _ |>.mp hpage] at h
      simpa using h
    unfold Schema.isFailure at hfailure
    split at hfailure
    · next s => exact ⟨failure s, rfl, rfl⟩
    · cases hfailure

/-- **Writing and reading are inverse to each other**: an outcome is read from its data as it was;
and data that has the form of an outcome, names types of the catalog only and counts the modules
with an integer is read, and what was read is written as it was. -/
theorem ofJson?_inverse_toData : (∀ o : Outcome, o.IsOrdered → ofJson? o.toData = some o) ∧
    ∀ v : Json, v.IsOrdered → Schema.isOutcome v = true → Schema.namesOutcomeTypes v = true →
      Schema.countsInInteger v = true → ∃ o, ofJson? v = some o ∧ o.toData = v :=
  ⟨fun _ h => ofJson?_toData h, fun _ hv h htypes hcount => exists_ofJson?_eq h htypes hcount hv⟩

/-- A page with a section around a text with a link. -/
def linkedText : Outcome :=
  .page {
    success := true
    content := [⟨"section_0123456789abc_1", .pageSection, .empty,
      [⟨"text_0123456789abc_2", .text,
        .ofList [("content", .text "x"),
          ("link", .object [("target", .null), ("url", .text "/")])], []⟩]⟩]
    css := ""
    mode := .generic
    modulesCount := 2 }

theorem isOrdered_linkedText : linkedText.IsOrdered := by
  have hnames : Entries.Ordered [("target", Json.null), ("url", Json.text "/")] := by
    unfold Entries.Ordered
    decide
  have hlink : (Json.object [("target", .null), ("url", .text "/")]).IsOrdered :=
    .object hnames (by simpa using ⟨.null, .text _⟩)
  intro m hm
  simp only [PageModule.preorderAll, PageModule.preorder, List.append_nil, List.mem_cons,
    List.not_mem_nil, or_false] at hm
  rcases hm with rfl | rfl
  · exact List.forall_mem_nil _
  · intro e he
    have hattrs := KeyMap.mem_of_mem_ofList he
    simp only [List.mem_cons, List.not_mem_nil, or_false] at hattrs
    rcases hattrs with rfl | rfl
    · exact .text _
    · exact hlink

theorem ofJson?_inverse_toData_linkedText :
    (linkedText.IsOrdered ∧ ofJson? linkedText.toData = some linkedText) ∧
      linkedText.toData.IsOrdered ∧ Schema.isOutcome linkedText.toData = true ∧
      Schema.namesOutcomeTypes linkedText.toData = true ∧
      Schema.countsInInteger linkedText.toData = true ∧
      ∃ o, ofJson? linkedText.toData = some o ∧ o.toData = linkedText.toData := by
  have hordered : linkedText.toData.IsOrdered := Json.isOrdered_ordered _
  have hform : Schema.isOutcome linkedText.toData = true := by decide +kernel
  have htypes : Schema.namesOutcomeTypes linkedText.toData = true := by decide +kernel
  have hcount : Schema.countsInInteger linkedText.toData = true := by decide +kernel
  exact ⟨⟨isOrdered_linkedText, ofJson?_inverse_toData.1 _ isOrdered_linkedText⟩, hordered, hform,
    htypes, hcount, ofJson?_inverse_toData.2 _ hordered hform htypes hcount⟩

end Outcome

end PageModules
