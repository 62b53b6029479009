import PageModules.Mapping.Fields
import PageModules.Proofs.Json.Disjoint
import PageModules.Proofs.Number.Rounding
import PageModules.Proofs.Text.Trimmed

/-!
# The values of fields

`FieldKind.admits` says what the values of each kind look like.  A text that is cast to a kind gives
such a value (`FieldKind.admits_of_cast?`), unless it is a numeral that overflows
(`Json.ofNumber_eq_null_iff`).  Some sources do not cast; the catalog has them only where what they
give is of the kind anyway (`FieldSource.suits_of_mem_catalog`).

So each field that the author does not override has a value of its kind
(`Element.isValueOf_of_find?_fields`).
-/

namespace PageModules

/-! ### Numbers -/

namespace Binary64

/-- The number is too large to be rounded to four decimals: ten thousand times the number is beyond
the finite numbers. -/
def Overflows (x : Binary64) : Prop := (mul x (ofInt 10000)).isFinite = false

instance (x : Binary64) : Decidable x.Overflows := inferInstanceAs (Decidable (_ = _))

theorem ofInt_tenThousand : ofInt 10000 = .finite false 5497558138880000 (-39) := by
  decide +kernel

theorem isRounded_of_mul {x y : Binary64} {n : Bool} {m : ℕ} {e : ℤ}
    (h : mul x y = .finite n m e) : IsRounded m e := by
  unfold mul at h
  split at h
  · exact isRounded_of_ofRatio (powerOf_two_pos _) h
  · cases h
  · split at h <;> cases h
  · split at h <;> cases h
  · cases h
  · cases h

theorem isRounded_of_round {n n' : Bool} {m m' : ℕ} {e e' : ℤ}
    (h : round (.finite n m e) = .finite n' m' e') : IsRounded m' e' :=
  isRounded_of_ofRatio one_pos h

end Binary64

/-- **A number has no value exactly if it overflows.** -/
theorem Json.ofNumber_eq_null_iff {x : Binary64} : ofNumber x = .null ↔ x.Overflows := by
  unfold ofNumber Binary64.Overflows
  dsimp only
  rw [Binary64.ofInt_tenThousand]
  generalize hscaled : Binary64.mul x (.finite false 5497558138880000 (-39)) = scaled
  cases scaled with
  | nan => simp [Binary64.round, Binary64.div, Binary64.isInteger, Binary64.isFinite]
  | infinity n => simp [Binary64.round, Binary64.div, Binary64.isInteger, Binary64.isFinite]
  | finite n m e =>
    have hround := Binary64.isFinite_round (n := n) (Binary64.isRounded_of_mul hscaled)
    cases hinteger : Binary64.round (.finite n m e) with
    | finite n' m' e' =>
      have hfinite : (Binary64.div (.finite n' m' e')
          (.finite false 5497558138880000 (-39))).isFinite = true :=
        Binary64.isFinite_div (Binary64.isRounded_of_round hinteger) (by decide)
      rw [hfinite]
      split
      · simp [Binary64.isFinite]
      · simp [Binary64.isFinite]
    | _ =>
      rw [hinteger] at hround
      cases hround

/-! ### Trimmed texts -/

theorem Text.trim_trim (s : String) : Text.trim (Text.trim s) = Text.trim s := by
  unfold Text.trim Text.mapChars
  rw [String.toList_ofList, Chars.trim_eq_self_iff.mpr (Chars.isTrimmed_trim _)]

theorem Length.leadingNumber_trim (s : String) :
    leadingNumber (Text.trim s) = leadingNumber s := by
  unfold leadingNumber Text.trim Text.mapChars
  rw [String.toList_ofList, Chars.trim_eq_self_iff.mpr (Chars.isTrimmed_trim _)]

/-! ### Kinds -/

namespace FieldKind

/-- Whether a value looks like those of a kind: a text, a truth value, an integer of 64 bits, a
number, a list, or a trimmed text that is a colour. -/
def admits : FieldKind → Json → Bool
  | .text, .text _ => true
  | .bool, .bool _ => true
  | .int, .integer n => Binary64.isInt64 n
  | .float, .integer _ => true
  | .float, .float x => x.isFinite
  | .array, .array _ => true
  | .color, .text s => Text.trim s == s && Color.isValid s
  | _, _ => false

theorem admits_ofNumber {x : Binary64} (h : ¬ x.Overflows) :
    admits .float (Json.ofNumber x) = true := by
  have hnull := mt Json.ofNumber_eq_null_iff.mp h
  revert hnull
  unfold Json.ofNumber
  dsimp only
  split
  case isTrue => exact fun _ => rfl
  case isFalse =>
    split
    case isTrue hfinite => exact fun _ => hfinite
    case isFalse => exact fun hnull => absurd rfl hnull

/-- **A text that is cast to a kind gives a value of the kind**, unless it is a numeral that
overflows. -/
theorem admits_of_cast? {kind : FieldKind} {s : String} {v : Json} (h : kind.cast? s = some v)
    (hnumber : kind = .float → ¬ (Length.leadingNumber s).Overflows) :
    kind.admits v = true := by
  unfold cast? at h
  dsimp only at h
  split at h
  case h_1 => exact Option.some.inj h ▸ rfl
  case h_2 => exact Option.some.inj h ▸ rfl
  case h_3 => exact Option.some.inj h ▸ Binary64.isInt64_toInt64 _
  case h_4 =>
    rw [Length.leadingNumber_trim] at h
    exact Option.some.inj h ▸ admits_ofNumber (hnumber rfl)
  case h_5 => split at h <;> exact Option.some.inj h ▸ rfl
  case h_6 =>
    split at h
    case isTrue hvalid =>
      obtain rfl := Option.some.inj h
      rw [admits, Text.trim_trim, hvalid, beq_self_eq_true, Bool.and_true]
    case isFalse => cases h

end FieldKind

/-! ### Sources -/

namespace FieldSource

/-- Whether what a source gives looks like the values of a kind.  Sources that do not cast give
texts or truth values; numbers are read from attributes only. -/
def suits (kind : FieldKind) : FieldSource → Bool
  | attr _ => true
  | selected _ => kind != .float
  | selectedMarkup _ => kind != .float
  | text => kind != .float
  | innerMarkup => kind == .text
  | hasClass _ => kind == .bool
  | classRest _ => kind == .text
  | detected _ => kind == .text

/-- All sources and defaults of the catalog suit the kinds of their fields. -/
theorem suits_of_mem_catalog : ∀ d ∈ ModuleDefinition.all, ∀ rule ∈ d.fields,
    (∀ source ∈ rule.sources, source.suits rule.kind = true) ∧
      rule.default.all rule.kind.admits = true := by
  decide +kernel

variable {kind : FieldKind} {e : Element} {v : Json}

theorem admits_of_attrValue? {name s : String} (hkind : kind ≠ .float)
    (h : attrValue? kind name s = some v) : kind.admits v = true := by
  unfold attrValue? at h
  dsimp only at h
  split at h
  case isTrue hflag =>
    obtain rfl := Option.some.inj h
    rw [hflag.1]
    rfl
  case isFalse => exact FieldKind.admits_of_cast? h fun hfloat => absurd hfloat hkind

theorem admits_of_selectedValue? {selector : String} {asMarkup : Bool} (hkind : kind ≠ .float)
    (h : selectedValue? kind selector asMarkup e = some v) : kind.admits v = true := by
  unfold selectedValue? at h
  dsimp only at h
  split at h
  case isTrue harray =>
    rw [harray]
    split at h
    · cases h
    · exact Option.some.inj h ▸ rfl
  case isFalse =>
    obtain ⟨hit, -, h⟩ := Option.bind_eq_some_iff.mp h
    split at h
    · exact admits_of_attrValue? hkind h
    · exact FieldKind.admits_of_cast? h fun hfloat => absurd hfloat hkind

theorem admits_of_detectedValue? {detector : Detector} (h : detectedValue? e detector = some v) :
    FieldKind.text.admits v = true := by
  cases detector with
  | headingLevel => exact Option.some.inj h ▸ rfl
  | inputType =>
    obtain ⟨s, -, rfl⟩ := Option.map_eq_some_iff.mp h
    rfl
  | formRole => exact Option.some.inj h ▸ rfl

/-- **Whatever the element is, a source gives values of the kind that it suits.** -/
theorem admits_of_value? {source : FieldSource} (hsuits : source.suits kind = true)
    (hkind : kind ≠ .float) (h : source.value? kind e = some v) : kind.admits v = true := by
  cases source with
  | attr name =>
    obtain ⟨s, -, h⟩ := Option.bind_eq_some_iff.mp h
    exact admits_of_attrValue? hkind h
  | selected selector =>
    rw [value?] at h
    exact admits_of_selectedValue? hkind h
  | selectedMarkup selector =>
    rw [value?] at h
    exact admits_of_selectedValue? hkind h
  | text =>
    rw [value?] at h
    exact FieldKind.admits_of_cast? h fun hfloat => absurd hfloat hkind
  | innerMarkup =>
    obtain rfl := beq_iff_eq.mp hsuits
    exact Option.some.inj h ▸ rfl
  | hasClass name =>
    obtain rfl := beq_iff_eq.mp hsuits
    rw [value?] at h
    split at h
    · exact Option.some.inj h ▸ rfl
    · cases h
  | classRest start =>
    obtain rfl := beq_iff_eq.mp hsuits
    obtain ⟨c, -, h⟩ := List.exists_of_findSome?_eq_some h
    obtain ⟨rest, -, h⟩ := Option.bind_eq_some_iff.mp h
    split at h
    · cases h
    · exact Option.some.inj h ▸ rfl
  | detected detector =>
    obtain rfl := beq_iff_eq.mp hsuits
    exact admits_of_detectedValue? h

/-- A number is read from an attribute. -/
theorem exists_attr_of_value? {source : FieldSource} (hsuits : source.suits .float = true)
    (h : source.value? .float e = some v) :
    ∃ name s, source = .attr name ∧ e.attr? name = some s ∧
      v = .ofNumber (Length.leadingNumber s) := by
  cases source with
  | attr name =>
    obtain ⟨s, hs, h⟩ := Option.bind_eq_some_iff.mp h
    rw [attrValue?, if_neg fun hflag => absurd hflag.1 (by decide), FieldKind.cast?,
      Length.leadingNumber_trim] at h
    exact ⟨name, s, rfl, hs, (Option.some.inj h).symm⟩
  | _ => cases hsuits

end FieldSource

/-! ### Fields -/

/-- A value of a field: it looks like the values of the kind, or it is missing because the numeral
in the attribute that is read overflows. -/
inductive FieldRule.IsValueOf (rule : FieldRule) (e : Element) : Json → Prop where
  /-- A value of the kind. -/
  | admitted {v : Json} (h : rule.kind.admits v = true) : IsValueOf rule e v
  /-- No number, as the numeral overflows. -/
  | overflow {name s : String} (hkind : rule.kind = .float) (hname : .attr name ∈ rule.sources)
    (hs : e.attr? name = some s) (hover : (Length.leadingNumber s).Overflows) :
    IsValueOf rule e .null

namespace Element

variable {e : Element} {type : ModuleType} {d : ModuleDefinition}
  (hd : ModuleDefinition.of? type = some d) {rule : FieldRule} (hrule : rule ∈ d.fields)

include hd hrule

/-- No two fields of a type have one name, so a field has the value that its rule reads. -/
theorem find?_catalogFields : (e.catalogFields type).find? rule.name = rule.value? e := by
  have hall : ∀ d ∈ ModuleDefinition.all, (d.fields.map (·.name)).Nodup := by decide
  have hnodup := hall d (List.mem_of_find?_eq_some hd)
  rw [catalogFields, hd]
  dsimp only
  -- Every entry under the name comes from the rule.
  have hentry {w : Json} (hw : (rule.name, w) ∈
      d.fields.filterMap fun rule => (rule.value? e).map fun v => (rule.name, v)) :
      rule.value? e = some w := by
    obtain ⟨other, hother, hvalue⟩ := List.mem_filterMap.mp hw
    obtain ⟨w', hw', hpair⟩ := Option.map_eq_some_iff.mp hvalue
    obtain ⟨hsame, rfl⟩ := Prod.mk.inj hpair
    rwa [List.inj_on_of_nodup_map hnodup hother hrule hsame] at hw'
  cases hv : rule.value? e with
  | some v =>
    refine KeyMap.find?_ofList_of_unique ?_ fun w hw => ?_
    · exact List.mem_filterMap.mpr ⟨rule, hrule, by rw [hv, Option.map_some]⟩
    · exact Option.some.inj ((hentry hw).symm.trans hv)
  | none =>
    rw [KeyMap.find?_ofList, Option.eq_none_iff_forall_ne_some]
    intro w hw
    have hmem := List.mem_reverse.mp (Entries.mem_of_lookup_eq_some hw)
    exact Option.some_ne_none w ((hentry hmem).symm.trans hv)

theorem isValueOf_of_value? {v : Json} (hv : rule.value? e = some v) : rule.IsValueOf e v := by
  obtain ⟨hsources, hdefault⟩ :=
    FieldSource.suits_of_mem_catalog d (List.mem_of_find?_eq_some hd) rule hrule
  rcases Option.or_eq_some_iff.mp hv with h | ⟨-, h⟩
  · obtain ⟨source, hsource, h⟩ := List.exists_of_findSome?_eq_some h
    have hsuits := hsources source hsource
    by_cases hkind : rule.kind = .float
    · rw [hkind] at hsuits h
      obtain ⟨name, s, rfl, hs, rfl⟩ := FieldSource.exists_attr_of_value? hsuits h
      by_cases hover : (Length.leadingNumber s).Overflows
      · rw [Json.ofNumber_eq_null_iff.mpr hover]
        exact .overflow hkind hsource hs hover
      · exact .admitted (hkind ▸ FieldKind.admits_ofNumber hover)
    · exact .admitted (FieldSource.admits_of_value? hsuits hkind h)
  · rw [h] at hdefault
    exact .admitted hdefault

/-- **The fields of a module have values of their kinds**, whatever the element is and wherever they
are read, unless the author overrides them: texts, truth values, integers of 64 bits, lists, trimmed
texts that are colours, and numbers; a number is missing only if the numeral that is read overflows.
-/
theorem isValueOf_of_find?_fields (hover : e.overrides.find? rule.name = none) {v : Json}
    (hv : (e.fields type).find? rule.name = some v) : rule.IsValueOf e v := by
  rw [fields, KeyMap.find?_merge, hover, Option.none_or, find?_catalogFields hd hrule] at hv
  exact isValueOf_of_value? hd hrule hv

omit hd hrule

/-- A counter whose colour is written with blanks around it. -/
def coloredCounter : Element :=
  ⟨⟨.html, "div", [⟨.none, "data-jtb-attr-bar-bg", " #fff "⟩]⟩, []⟩

/-- The background of the counter is read as a trimmed colour. -/
theorem isValueOf_coloredCounter : ∃ d rule,
    ModuleDefinition.of? .circleCounter = some d ∧ rule ∈ d.fields ∧
      rule = field "bar_bg_color" .color [author "bar-bg"] ∧
      coloredCounter.overrides.find? rule.name = none ∧
      (coloredCounter.fields .circleCounter).find? rule.name = some (.text "#fff") ∧
      rule.IsValueOf coloredCounter (.text "#fff") := by
  obtain ⟨d, hd, hrule⟩ : ∃ d, ModuleDefinition.of? .circleCounter = some d ∧
      field "bar_bg_color" .color [author "bar-bg"] ∈ d.fields :=
    ⟨_, rfl, .tail _ (.tail _ (.head _))⟩
  have hnone : (coloredCounter.overrides.find? "bar_bg_color").isNone = true := by decide +kernel
  have hread : ((coloredCounter.fields .circleCounter).find? "bar_bg_color").bind Json.text? =
      some "#fff" := by
    decide +kernel
  obtain ⟨v, hv, htext⟩ := Option.bind_eq_some_iff.mp hread
  have hwhite : v = .text "#fff" := by
    cases v <;> simp_all [Json.text?]
  rw [hwhite] at hv
  have hover := Option.isNone_iff_eq_none.mp hnone
  exact ⟨d, _, hd, hrule, rfl, hover, hv, isValueOf_of_find?_fields hd hrule hover hv⟩

end Element

end PageModules
