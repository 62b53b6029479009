import PageModules.Main
import PageModules.Proofs.Text.Classes
import PageModules.Proofs.Text.Cutting
import PageModules.Proofs.Walk.Frame
import PageModules.Proofs.Walk.Numbering

/-!
# Outcomes have their form

Whatever the text, the options and the way of reading are, the outcome of a conversion has the form
that the schema asks for, so a run that checks the form of its result reports the same as one that
does not (`Conversion.isOutcome_toJson`).

A page has its form if each of its modules is well-formed on its own: its identifier is built of the
type, the token and a number, and it has modules inside if it is a section or a row
(`PageModule.IsWellFormed`).
-/

namespace PageModules

/-! ### Identifiers -/

/-- A text that may be the token of identifiers: some of the characters of tokens. -/
structure IsToken (token : String) : Prop where
  /-- There is a character. -/
  ne_empty : token ≠ ""
  /-- All of them are digits or lowercase letters. -/
  mem_tokenChars : ∀ c ∈ token.toList, c ∈ CommandLine.tokenChars

namespace Schema

theorem isTypeName_slug (type : ModuleType) : isTypeName type.slug.toList = true := by
  have hall : ∀ t ∈ ModuleType.all, isTypeName t.slug.toList = true := by decide +kernel
  exact hall type (ModuleType.mem_all type)

theorem needsChildren_slug (type : ModuleType) :
    needsChildren (.text type.slug) = true ↔ type = .pageSection ∨ type = .row := by
  cases type <;> simp [needsChildren, ModuleType.slug, Json.text?]

/-- The characters of tokens may stand in an identifier, where none of them is a separator. -/
theorem isTokenChar_of_mem {c : Char} (h : c ∈ CommandLine.tokenChars) :
    (Text.isAsciiDigit c || isLowerLetter c) = true ∧ c ≠ '_' := by
  have hall : (CommandLine.tokenChars.all fun c =>
      (Text.isAsciiDigit c || isLowerLetter c) && c != '_') = true := by decide +kernel
  simpa using List.all_eq_true.mp hall c h

/-- The identifiers of a conversion have their form. -/
theorem isIdentifier_identifier {token : String} (h : IsToken token) (type : ModuleType) (n : ℕ) :
    isIdentifier (type.identifier token n).toList = true := by
  have hid : (type.identifier token n).toList =
      (type.slug.toList ++ '_' :: token.toList) ++ '_' :: Nat.toDigits 10 n := by
    simp [ModuleType.identifier]
  have hchars (c : Char) (hc : c ∈ token.toList) := isTokenChar_of_mem (h.mem_tokenChars c hc)
  have hnumber : ∀ c ∈ Nat.toDigits 10 n, Text.isAsciiDigit c = true :=
    fun c hc => Text.isAsciiDigit_of_mem_toDigits hc
  have hslug := isTypeName_slug type
  rw [isTypeName, Bool.and_eq_true, List.all_eq_true] at hslug
  have hslugEmpty : type.slug.toList ≠ [] := by
    intro hnil
    rw [hnil] at hslug
    cases hslug.1
  have htokenEmpty : token.toList ≠ [] := by simpa using h.ne_empty
  rw [isIdentifier, hid, Chars.splitLast?_append_cons _ Nat.underscore_not_in_toDigits]
  dsimp only
  rw [Chars.splitLast?_append_cons _ fun hmem => (hchars _ hmem).2 rfl]
  simp only [Bool.and_eq_true, Bool.not_eq_true', List.isEmpty_eq_false_iff, List.all_eq_true]
  exact ⟨⟨⟨⟨⟨hslugEmpty, hslug.2⟩, htokenEmpty⟩, fun c hc => (hchars c hc).1⟩,
    Nat.toDigits_ne_nil⟩, hnumber⟩

end Schema

/-! ### Modules -/

/-- A module has an identifier and, if it is a section or a row, modules inside. -/
structure PageModule.IsWellFormed (m : PageModule) : Prop where
  /-- The identifier has its form. -/
  id : Schema.isIdentifier m.id.toList = true
  /-- Sections and rows are not empty. -/
  children : m.type = .pageSection ∨ m.type = .row → m.children ≠ []

namespace Schema

mutual

/-- A tree of well-formed modules has the form of a module. -/
theorem isModule_toJson (m : PageModule) (h : ∀ m' ∈ m.preorder, m'.IsWellFormed) :
    isModule m.toJson = true := by
  obtain ⟨id, type, attrs, children⟩ := m
  rw [PageModule.preorder, List.forall_mem_cons] at h
  obtain ⟨⟨hid, hchildren⟩, hinside⟩ := h
  have ih := areModules_toJsonAll children hinside
  have htype : isText isTypeName (.text type.slug) = true := isTypeName_slug type
  have hidentifier : isText isIdentifier (.text id) = true := hid
  have hattrs : isObject (.ofAttributes attrs) = true := rfl
  rw [PageModule.toJson]
  cases children with
  | nil =>
    -- Without the field of children the type must be neither a section nor a row.
    have hneeds : needsChildren (.text type.slug) = false := by
      rw [Bool.eq_false_iff, Ne, needsChildren_slug]
      exact fun hframe => hchildren hframe rfl
    simp [isModule, moduleFields, hasFields, List.lookup_cons, List.lookup_nil, htype, hidentifier,
      hattrs, hneeds]
  | cons m rest =>
    have hlist : isModuleList true (.array (PageModule.toJsonAll (m :: rest))) = true := by
      rw [isModuleList, ih]
      rfl
    simp [isModule, moduleFields, hasFields, List.lookup_cons, List.lookup_nil, htype, hidentifier,
      hattrs, hlist]

/-- Trees of well-formed modules have the form of modules. -/
theorem areModules_toJsonAll (ms : List PageModule)
    (h : ∀ m ∈ PageModule.preorderAll ms, m.IsWellFormed) :
    areModules (PageModule.toJsonAll ms) = true := by
  cases ms with
  | nil => rw [PageModule.toJsonAll, areModules]
  | cons m rest =>
    rw [PageModule.preorderAll, List.forall_mem_append] at h
    rw [PageModule.toJsonAll, areModules, Bool.and_eq_true]
    exact ⟨isModule_toJson m h.1, areModules_toJsonAll rest h.2⟩

end

/-! ### Outcomes -/

/-- A page of well-formed modules has its form. -/
theorem isPage_toJson {p : Page} (hsuccess : p.success = true)
    (h : ∀ m ∈ PageModule.preorderAll p.content, m.IsWellFormed) : isPage p.toJson = true := by
  have hcontent : isModuleList false (.array (PageModule.toJsonAll p.content)) = true := by
    rw [isModuleList, areModules_toJsonAll p.content h]
    rfl
  have hmode : p.mode.name = "jtb_annotated" ∨ p.mode.name = "generic" := by
    cases p.mode <;> decide
  have hcount : isCount (.integer p.modulesCount) = true := by simp [isCount]
  simp [Page.toJson, isPage, hasFields, List.lookup_cons, List.lookup_nil, pageField, isStats,
    hsuccess, hcontent, hmode, hcount, Json.text?, Json.bool?]

/-- No page is a failure. -/
theorem isFailure_page (p : Page) : isFailure p.toJson = false := rfl

end Schema

namespace Conversion

variable (options : ConversionOptions) {token : String}

/-- The modules of a page are well-formed. -/
theorem isWellFormed_of_mem_preorderAll (htoken : IsToken token) (mode : WalkMode) {d : Document}
    {body : Element} (hbody : d.body? = some body) :
    ∀ m ∈ PageModule.preorderAll (pageOf options mode token body).content, m.IsWellFormed := by
  have hchildren := forall_mem_preorderAll
    (P := fun m => m.type = .pageSection ∨ m.type = .row → m.children ≠ []) options mode hbody token
    fun q m hq hwrapper hm hframe => ?_
  · intro m hm
    obtain ⟨d', -, k, rfl⟩ := PageModule.exists_draft_of_mem_preorderAll token 0 _ m hm
    refine ⟨?_, hchildren _ hm⟩
    rw [Draft.id_number]
    exact Schema.isIdentifier_identifier htoken _ _
  · rw [← List.length_pos_iff]
    rcases hframe with hsection | hrow
    · rcases hq.framePart (hsection ▸ hm.type_eq) rfl with hpart | ⟨hown, -⟩
      · rw [hm.length_eq, List.length_pos_iff]
        exact hpart.draftsAll_inner_ne_nil _
      -- A section around what an element of no type holds has at least two modules inside.
      · exact Nat.lt_of_lt_of_le Nat.two_pos (hwrapper hown)
    · rcases hq.framePart (hrow ▸ hm.type_eq) rfl with hpart | ⟨-, hsection⟩
      · rw [hm.length_eq]
        exact (hpart.length_draftsAll_inner _).1
      · cases hsection

/-- An error has its form. -/
theorem isOutcome_of_builder_eq {c : Conversion} {err : ConversionError}
    (h : c.builder = .error err) :
    Schema.isOutcome (c.outcome token).toJson = true := by
  have hform : Schema.isOutcome (Outcome.failure err.message).toJson = true := by
    cases err <;> decide
  rw [outcome_of_builder_eq_error h]
  exact hform

/-- The outcome for a document has its form. -/
theorem isOutcome_ofDocument (htoken : IsToken token) (mode : WalkMode) (d : Document) :
    Schema.isOutcome ((ofDocument options mode d).outcome token).toJson = true := by
  cases hbody : d.body? with
  | none => exact isOutcome_of_builder_eq (builder_ofDocument_of_none options mode hbody)
  | some body =>
    have hmodules := isWellFormed_of_mem_preorderAll options htoken mode hbody
    have hpage := Schema.isPage_toJson rfl hmodules
    rw [outcome_of_body? options mode hbody, Outcome.toJson, Schema.isOutcome, hpage,
      Schema.isFailure_page]
    rfl

/-- The outcome for a text has its form. -/
theorem isOutcome_run (htoken : IsToken token) (text : String) :
    Schema.isOutcome ((run options text).outcome token).toJson = true := by
  unfold run
  cases documentOf text with
  | error err => exact isOutcome_of_builder_eq rfl
  | ok d => exact isOutcome_ofDocument options htoken _ d

theorem check_run (htoken : IsToken token) (text : String) :
    Schema.check ((run options text).outcome token).toJson = .ok () :=
  if_pos (isOutcome_run options htoken text)

end Conversion

namespace CommandLine

/-- A job whose results have their form reports the same whether it checks the form or not. -/
theorem Job.finish_validate {token : String} (j : Job)
    (h : ∀ text, Schema.check ((Conversion.run j.options text).outcome token).toJson = .ok ())
    (filter : Log.Filter) (document : Except String String) :
    { j with validate := true }.finish filter token document =
      { j with validate := false }.finish filter token document := by
  cases document with
  | error reason => rfl
  | ok text =>
    unfold finish
    simp [h, Job.write]

end CommandLine

namespace Conversion

/-- **Every outcome has its form**: whatever the document or the text, the options and the way of
reading are, the outcome is a page or an error of the form that the schema asks for, and to check it
never changes what is reported. -/
theorem isOutcome_toJson {token : String} (htoken : IsToken token) :
    (∀ options mode d, Schema.isOutcome ((ofDocument options mode d).outcome token).toJson = true) ∧
      (∀ options text, Schema.check ((run options text).outcome token).toJson = .ok ()) ∧
      ∀ (j : CommandLine.Job) filter document,
        { j with validate := true }.finish filter token document =
          { j with validate := false }.finish filter token document :=
  ⟨fun options mode d => isOutcome_ofDocument options htoken mode d,
    fun options text => check_run options htoken text,
    fun j filter document => j.finish_validate (check_run j.options htoken) filter document⟩

/-- A paragraph gives a page that has its form, for a token of thirteen characters. -/
theorem isOutcome_toJson_paragraph :
    IsToken "0123456789abc" ∧
      Schema.isOutcome ((ofDocument {} .annotated (.ofBody [.paragraph "one"])).outcome
        "0123456789abc").toJson = true := by
  have hchars : ("0123456789abc".toList.all CommandLine.tokenChars.contains) = true := by
    decide +kernel
  have htoken : IsToken "0123456789abc" :=
    ⟨by decide, fun c hc => List.contains_iff_mem.mp (List.all_eq_true.mp hchars c hc)⟩
  exact ⟨htoken, (isOutcome_toJson htoken).1 {} .annotated (.ofBody [.paragraph "one"])⟩

end Conversion

end PageModules
