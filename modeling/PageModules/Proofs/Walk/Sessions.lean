import PageModules.Proofs.Walk.Numbering
import PageModules.Walk.Session

/-!
# Conversions one after the other

A session carries the identifiers, the style sheet and the way of reading from one conversion to the
next, but every conversion forgets them first, so what it gives depends on the
options, its token and its text only (`Session.convert_eq`).  By induction over the texts, each of
them leaves a session as a new session would be left by it alone, up to the token of the identifiers
(`Session.forall₂_isAsFresh`).
-/

namespace PageModules

/-! ### The same but for the token -/

/-- Modules with the same types, attributes and numbers in the same places, whose identifiers have
the one and the other token. -/
inductive PageModule.SameUpTo (token token' : String) : PageModule → PageModule → Prop where
  /-- Two modules with modules inside. -/
  | intro (type : ModuleType) (attrs : Attributes) (n : ℕ) {children children' : List PageModule}
      (inside : List.Forall₂ (PageModule.SameUpTo token token') children children') :
      PageModule.SameUpTo token token' ⟨type.identifier token n, type, attrs, children⟩
        ⟨type.identifier token' n, type, attrs, children'⟩

/-- The same error, or pages that differ in the token of the identifiers only. -/
inductive Outcome.SameUpTo (token token' : String) : Outcome → Outcome → Prop where
  /-- Two pages. -/
  | page {content content' : List PageModule} (success : Bool) (css : String) (mode : WalkMode)
      (modulesCount : ℕ)
      (content_same : List.Forall₂ (PageModule.SameUpTo token token') content content') :
      Outcome.SameUpTo token token' (.page ⟨success, content, css, mode, modulesCount⟩)
        (.page ⟨success, content', css, mode, modulesCount⟩)
  /-- Two errors. -/
  | failure (message : String) : Outcome.SameUpTo token token' (.failure message) (.failure message)

variable (token token' : String)

namespace Draft

mutual

/-- Numbering with two tokens gives the same modules but for the tokens. -/
theorem sameUpTo_number (n : ℕ) (d : Draft) :
    PageModule.SameUpTo token token' (d.number token n) (d.number token' n) := by
  cases d with
  | node type attrs isLate children =>
    cases isLate with
    | true =>
      rw [number_late, number_late]
      exact .intro type attrs _ (forall₂_numberAll n children)
    | false =>
      rw [number_early, number_early]
      exact .intro type attrs _ (forall₂_numberAll (n + 1) children)

/-- Numbering with two tokens gives the same modules but for the tokens. -/
theorem forall₂_numberAll (n : ℕ) (ds : List Draft) :
    List.Forall₂ (PageModule.SameUpTo token token') (numberAll token n ds)
      (numberAll token' n ds) := by
  cases ds with
  | nil => exact .nil
  | cons d rest =>
    exact .cons (sameUpTo_number n d) (forall₂_numberAll (n + d.count) rest)

end

end Draft

namespace Conversion

/-- The identifiers after a conversion that starts with the given token. -/
def idsAfter (c : Conversion) : Identifiers :=
  match c.builder with
  | .ok build => (build.run { token }).2
  | .error _ => { token }

theorem idsAfter_of_builder_eq_error {c : Conversion} {err : ConversionError}
    (h : c.builder = .error err) : c.idsAfter token = { token } := by
  unfold idsAfter
  rw [h]

theorem idsAfter_of_numbers {c : Conversion} {b : Build (List PageModule)} (h : c.builder = .ok b)
    {ds : List Draft} (hb : b.Numbers ds) : c.idsAfter token = ⟨token, Draft.countAll ds⟩ := by
  have hrun : b.run { token } = (Draft.numberAll token 0 ds, ⟨token, 0 + Draft.countAll ds⟩) :=
    hb { token }
  unfold idsAfter
  rw [h]
  dsimp only
  rw [hrun, Nat.zero_add]

/-- A text makes a conversion fail, or gives a builder that numbers drafts. -/
theorem builder_run_cases (options : ConversionOptions) (text : String) :
    (∃ err, (run options text).builder = .error err) ∨
      ∃ b ds, (run options text).builder = .ok b ∧ Build.Numbers b ds := by
  unfold run
  cases documentOf text with
  | error err => exact .inl ⟨err, rfl⟩
  | ok d =>
    cases hbody : d.body? with
    | none => exact .inl ⟨_, builder_ofDocument_of_none options _ hbody⟩
    | some body => exact .inr ⟨_, _, builder_ofDocument options _ hbody, Plan.numbers_buildAll _ _⟩

theorem sameUpTo_outcome_run (options : ConversionOptions) (text : String) :
    Outcome.SameUpTo token token' ((run options text).outcome token)
      ((run options text).outcome token') := by
  obtain ⟨err, herr⟩ | ⟨b, ds, hb, hnumbers⟩ := builder_run_cases options text
  · rw [outcome_of_builder_eq_error herr, outcome_of_builder_eq_error herr]
    exact .failure _
  · rw [outcome_of_numbers hb hnumbers, outcome_of_numbers hb hnumbers]
    exact .page _ _ _ _ (Draft.forall₂_numberAll token token' 0 ds)

theorem count_idsAfter_run (options : ConversionOptions) (text : String) :
    ((run options text).idsAfter token).count = ((run options text).idsAfter token').count := by
  obtain ⟨err, herr⟩ | ⟨b, ds, hb, hnumbers⟩ := builder_run_cases options text
  · rw [idsAfter_of_builder_eq_error token herr, idsAfter_of_builder_eq_error token' herr]
  · rw [idsAfter_of_numbers token hb hnumbers, idsAfter_of_numbers token' hb hnumbers]

end Conversion

namespace Session

/-! ### One conversion -/

/-- **A conversion forgets the ones before**: what it gives, and the session after it, depend on the
options, the token and the text only. -/
theorem convert_eq (s : Session) (text : String) :
    s.convert token text =
      ((Conversion.run s.options text).outcome token,
        { options := s.options
          ids := (Conversion.run s.options text).idsAfter token
          css := ""
          mode := (Conversion.run s.options text).mode }) := by
  unfold convert Conversion.outcome Conversion.idsAfter
  dsimp only
  cases (Conversion.run s.options text).builder <;> rfl

@[simp] theorem options_convert (s : Session) (text : String) :
    (s.convert token text).2.options = s.options := by
  rw [convert_eq]

theorem modulesCount_convert (s : Session) (text : String) :
    (s.convert token text).2.modulesCount =
      ((Conversion.run s.options text).idsAfter token').count := by
  rw [convert_eq]
  exact Conversion.count_idsAfter_run token token' _ _

/-- After an error there are no modules and no styles. -/
theorem empty_of_convert_eq_failure {s : Session} {text message : String}
    (h : (s.convert token text).1 = .failure message) :
    (s.convert token text).2.modulesCount = 0 ∧ (s.convert token text).2.css = "" := by
  rw [convert_eq] at h ⊢
  dsimp only at h
  obtain ⟨err, herr⟩ | ⟨b, ds, hb, hnumbers⟩ := Conversion.builder_run_cases s.options text
  · rw [Conversion.idsAfter_of_builder_eq_error token herr]
    exact ⟨rfl, rfl⟩
  · rw [Conversion.outcome_of_numbers hb hnumbers] at h
    cases h

/-! ### All conversions -/

/-- The result of a conversion with a token and the session after it are as those of a new session
that converts this text alone, up to the token; after an error the session is empty. -/
structure IsAsFresh (options : ConversionOptions) (token text : String)
    (result : Outcome × Session) : Prop where
  /-- The outcomes are the same but for the token, whatever the token of the new session. -/
  outcome (token' : String) :
    Outcome.SameUpTo token token' result.1 ((start options).convert token' text).1
  /-- With the same token the outcomes are the same. -/
  outcome_eq : result.1 = ((start options).convert token text).1
  /-- There are equally many modules. -/
  modulesCount_eq (token' : String) :
    result.2.modulesCount = ((start options).convert token' text).2.modulesCount
  /-- The documents were read in the same way. -/
  mode_eq (token' : String) : result.2.mode = ((start options).convert token' text).2.mode
  /-- The style sheets are the same. -/
  css_eq (token' : String) : result.2.css = ((start options).convert token' text).2.css
  /-- After an error there are no modules and no styles. -/
  empty_of_failure (message : String) (h : result.1 = .failure message) :
    result.2.modulesCount = 0 ∧ result.2.css = ""

theorem isAsFresh_convert (s : Session) (text : String) :
    IsAsFresh s.options token text (s.convert token text) where
  outcome token' := by
    rw [convert_eq, convert_eq]
    exact Conversion.sameUpTo_outcome_run token token' _ _
  outcome_eq := by rw [convert_eq, convert_eq]; rfl
  modulesCount_eq token' := by
    rw [modulesCount_convert token token', modulesCount_convert token' token']
    rfl
  mode_eq token' := by rw [convert_eq, convert_eq]; rfl
  css_eq token' := by rw [convert_eq, convert_eq]
  empty_of_failure _ h := empty_of_convert_eq_failure token h

/-- **Conversions do not depend on those before**: in a session that converts texts one after the
other, each with its token, every result is as that of a new session with the same options that
converts the text alone, whatever stands in front of it, errors included. -/
theorem forall₂_isAsFresh (s : Session) (documents : List (String × String)) :
    List.Forall₂ (fun document result => IsAsFresh s.options document.1 document.2 result)
      documents (s.convertAll documents) := by
  induction documents generalizing s with
  | nil => exact .nil
  | cons document rest ih =>
    obtain ⟨token, text⟩ := document
    have hrest := ih (s.convert token text).2
    rw [options_convert] at hrest
    exact .cons (isAsFresh_convert token s text) hrest

/-- A text with nothing to read between two others does not show in the result of the last. -/
theorem forall₂_isAsFresh_failureBetween :
    (∃ message, ((start {}).convert "b" "").1 = .failure message) ∧
      List.Forall₂ (fun document result => IsAsFresh {} document.1 document.2 result)
        [("a", "<p>x</p>"), ("b", ""), ("c", "<p>y</p>")]
        ((start {}).convertAll [("a", "<p>x</p>"), ("b", ""), ("c", "<p>y</p>")]) := by
  have hfailure : ((start {}).convert "b" "").1 = .failure "No root element found" := by
    rw [convert_eq]
    rfl
  exact ⟨⟨_, hfailure⟩, forall₂_isAsFresh (start {}) _⟩

end Session

end PageModules
