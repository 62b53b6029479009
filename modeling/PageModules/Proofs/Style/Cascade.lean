import PageModules.Proofs.Style.Declarations
import PageModules.Proofs.Style.Longhands
import PageModules.Proofs.Style.Nesting
import PageModules.Proofs.Style.StyleMaps

/-!
# Margins and paddings in a style text

A style text may set the sides of a box by the shorthands `margin` and `padding` and by the
longhands of the sides, in any order and as often as it likes.  Setting a property again keeps its
place, so the two forms are ordered by the first declaration of each (`BoxDeclaration.kept?`): if
both a shorthand and longhands set a side, the last declaration of the form that came second counts
(`StyleMap.get?_expand_ofText`).

Where no property is set twice, this is the last declaration of the side
(`BoxDeclaration.cascaded?`).  In general it is not (`StyleMap.get?_expand_interleaved`).
-/

namespace PageModules

open Text (isBlank)
open Chars (IsTrimmed)

/-! ### Boxes -/

/-- The properties of boxes with four sides. -/
inductive Box where
  /-- The space outside of the border. -/
  | margin
  /-- The space inside of the border. -/
  | padding
deriving DecidableEq

/-- The sides of a box. -/
inductive Side where
  /-- The upper side. -/
  | top
  /-- The right side. -/
  | right
  /-- The lower side. -/
  | bottom
  /-- The left side. -/
  | left
deriving DecidableEq

/-- The name of the shorthand. -/
def Box.name : Box → String
  | margin => "margin"
  | padding => "padding"

/-- The name of the longhand of a side. -/
def Box.longhand (box : Box) : Side → String
  | .top => box.name ++ "-top"
  | .right => box.name ++ "-right"
  | .bottom => box.name ++ "-bottom"
  | .left => box.name ++ "-left"

/-- A token without blanks and parentheses. -/
structure PlainToken where
  /-- The characters. -/
  chars : List Char
  /-- There is a character. -/
  ne_nil : chars ≠ []
  /-- The characters are plain. -/
  plain : ∀ c ∈ chars, isBlank c = false ∧ c ≠ '(' ∧ c ≠ ')'

theorem PlainToken.isFlat (t : PlainToken) : Chars.IsFlat t.chars :=
  .of_forall fun c hc => Chars.turn_eq_zero (t.plain c hc).2.1 (t.plain c hc).2.2

theorem PlainToken.isToken (t : PlainToken) : Style.IsToken t.chars := by
  refine ⟨t.ne_nil, fun front c back heq hc => ?_⟩
  have hmem : c ∈ t.chars := by
    rw [heq]
    exact List.mem_append_right front List.mem_cons_self
  rw [(t.plain c hmem).1] at hc
  cases hc

/-- The values of a shorthand. -/
inductive BoxValues where
  /-- One value for all sides. -/
  | one (all : PlainToken)
  /-- One for top and bottom, one for left and right. -/
  | two (vertical horizontal : PlainToken)
  /-- One for the top, one for left and right, one for the bottom. -/
  | three (top horizontal bottom : PlainToken)
  /-- One for each side. -/
  | four (top right bottom left : PlainToken)

/-- The tokens in their order. -/
def BoxValues.tokens : BoxValues → List PlainToken
  | one all => [all]
  | two vertical horizontal => [vertical, horizontal]
  | three top horizontal bottom => [top, horizontal, bottom]
  | four top right bottom left => [top, right, bottom, left]

/-- The token of a side. -/
def BoxValues.token : BoxValues → Side → PlainToken
  | one all, _ => all
  | two vertical _, .top => vertical
  | two _ horizontal, .right => horizontal
  | two vertical _, .bottom => vertical
  | two _ horizontal, .left => horizontal
  | three top _ _, .top => top
  | three _ horizontal _, .right => horizontal
  | three _ _ bottom, .bottom => bottom
  | three _ horizontal _, .left => horizontal
  | four top _ _ _, .top => top
  | four _ right _ _, .right => right
  | four _ _ bottom _, .bottom => bottom
  | four _ _ _ left, .left => left

/-- A declaration of the sides of a box. -/
inductive BoxDeclaration where
  /-- All sides by the shorthand. -/
  | all (box : Box) (values : BoxValues)
  /-- One side by its longhand. -/
  | one (box : Box) (side : Side) (value : String)

namespace BoxDeclaration

/-- The property that is declared. -/
def name : BoxDeclaration → String
  | all box _ => box.name
  | one box side _ => box.longhand side

/-- The value as it is written. -/
def value : BoxDeclaration → String
  | all _ values => String.ofList ([' '].intercalate (values.tokens.map PlainToken.chars))
  | one _ _ value => value

/-- Name and value. -/
def pair (d : BoxDeclaration) : String × String := (d.name, d.value)

/-- What a declaration says about a side. -/
def valueAt? (box : Box) (side : Side) : BoxDeclaration → Option String
  | all b values => if b = box then some (String.ofList (values.token side).chars) else none
  | one b s value => if b = box ∧ s = side then some value else none

/-- The declarations that say something about a side. -/
def mentions (box : Box) (side : Side) (ds : List BoxDeclaration) : List BoxDeclaration :=
  ds.filter fun d => (d.valueAt? box side).isSome

/-- What the last declaration of a side says. -/
def cascaded? (box : Box) (side : Side) (ds : List BoxDeclaration) : Option String :=
  (mentions box side ds).getLast?.bind (valueAt? box side)

/-- Of the declarations of a side, the last one that is not of the same property as the first one,
or else the last one. -/
def lastOfSecond? : List BoxDeclaration → Option BoxDeclaration
  | [] => none
  | d :: ds => (ds.filter fun e => e.name ≠ d.name).getLast?.or (d :: ds).getLast?

/-- What counts for a side. -/
def kept? (box : Box) (side : Side) (ds : List BoxDeclaration) : Option String :=
  (lastOfSecond? (mentions box side ds)).bind (valueAt? box side)

/-! ### The declaration that counts -/

theorem mem_of_lastOfSecond? {ds : List BoxDeclaration} {d : BoxDeclaration}
    (h : lastOfSecond? ds = some d) : d ∈ ds := by
  cases ds with
  | nil => cases h
  | cons e ds =>
    rcases Option.or_eq_some_iff.mp h with h | ⟨-, h⟩
    · exact List.mem_cons_of_mem e (List.mem_filter.mp (List.mem_of_getLast? h)).1
    · exact List.mem_of_getLast? h

theorem lastOfSecond?_eq_none {ds : List BoxDeclaration} (h : lastOfSecond? ds = none) :
    ds = [] := by
  cases ds with
  | nil => rfl
  | cons e ds => simp [lastOfSecond?] at h

/-- Where no property is declared twice, the last declaration counts. -/
theorem lastOfSecond?_of_nodup {ds : List BoxDeclaration} (h : (ds.map name).Nodup) :
    lastOfSecond? ds = ds.getLast? := by
  cases ds with
  | nil => rfl
  | cons d ds =>
    rw [List.map_cons, List.nodup_cons] at h
    have hfilter : (ds.filter fun e => e.name ≠ d.name) = ds := by
      rw [List.filter_eq_self]
      intro e he
      exact decide_eq_true fun hname => h.1 (hname ▸ List.mem_map_of_mem he)
    rw [lastOfSecond?, hfilter]
    cases ds with
    | nil => rfl
    | cons e ds => rw [List.getLast?_cons_cons]; simp

/-! ### Names -/

theorem longhand_inj {box box' : Box} {side side' : Side} :
    box.longhand side = box'.longhand side' ↔ box = box' ∧ side = side' := by
  cases box <;> cases box' <;> cases side <;> cases side' <;> decide

theorem isLonghand_longhand (box : Box) (side : Side) :
    Shorthand.IsLonghand (box.longhand side) := by
  cases box <;> cases side <;> decide

theorem dropPiece?_name (d : BoxDeclaration) :
    Text.dropPiece? StyleMap.customMark d.name = none := by
  have hname (box : Box) : Text.dropPiece? StyleMap.customMark box.name = none := by
    cases box <;> decide
  have hlonghand (box : Box) (side : Side) :
      Text.dropPiece? StyleMap.customMark (box.longhand side) = none := by
    cases box <;> cases side <;> decide
  cases d with
  | all box values => exact hname box
  | one box side value => exact hlonghand box side

theorem sideNames_eq (box : Box) : Shorthand.sideNames (box.name ++ "-") "" =
    [box.longhand .top, box.longhand .right, box.longhand .bottom, box.longhand .left] := by
  cases box <;> decide

theorem name_ne_longhand (box box' : Box) (side : Side) : box.name ≠ box'.longhand side := by
  cases box <;> cases box' <;> cases side <;> decide

theorem isSome_valueAt?_iff (box : Box) (side : Side) (d : BoxDeclaration) :
    (d.valueAt? box side).isSome = true ↔ d.name = box.name ∨ d.name = box.longhand side := by
  cases d with
  | all b values =>
    have hname : b.name = box.name ↔ b = box := by cases b <;> cases box <;> decide
    simp [valueAt?, name, hname, name_ne_longhand]
  | one b s value =>
    simp [valueAt?, name, longhand_inj, (name_ne_longhand box b s).symm]

/-! ### Values -/

theorem splitTokens_intercalate (tokens : List PlainToken) :
    Style.splitTokens ([' '].intercalate (tokens.map PlainToken.chars)) =
      tokens.map PlainToken.chars := by
  have hbalanced : Chars.Balanced ([' '].intercalate (tokens.map PlainToken.chars)) := by
    refine Chars.balanced_intercalate (by decide) ?_
    rw [List.forall_mem_map]
    exact fun t _ => t.isFlat.balanced
  refine (Style.isTokenCut_iff (Chars.balanced_iff.mp hbalanced).1).mp ?_
  clear hbalanced
  induction tokens with
  | nil => exact .nil
  | cons t tokens ih =>
    cases tokens with
    | nil =>
      rw [List.map_singleton, List.intercalate_singleton]
      exact .last t.isToken
    | cons u tokens =>
      rw [List.map_cons, Lists.intercalate_cons (by simp)]
      exact .cons t.isToken t.isFlat.depth_eq_zero (by decide) ih

theorem boxValues?_intercalate (values : BoxValues) :
    Shorthand.boxValues? ([' '].intercalate (values.tokens.map PlainToken.chars)) =
      some [(values.token .top).chars, (values.token .right).chars, (values.token .bottom).chars,
        (values.token .left).chars] := by
  rw [Shorthand.boxValues?, splitTokens_intercalate]
  cases values <;> rfl

theorem isTrimmed_value (box : Box) (values : BoxValues) :
    IsTrimmed (all box values).value.toList := by
  rw [value, String.toList_ofList]
  refine Chars.isTrimmed_intercalate ?_
  rw [List.forall_mem_map]
  exact fun t _ => ⟨.of_forall fun c hc => (t.plain c hc).1, t.ne_nil⟩

/-- The shorthand of a box gives the longhands of the sides. -/
theorem expand_name (box : Box) (values : BoxValues) :
    Shorthand.expand box.name (all box values).value =
      [(box.longhand .top, String.ofList (values.token .top).chars),
        (box.longhand .right, String.ofList (values.token .right).chars),
        (box.longhand .bottom, String.ofList (values.token .bottom).chars),
        (box.longhand .left, String.ofList (values.token .left).chars)] := by
  have htrim := Chars.trim_eq_self_iff.mpr (isTrimmed_value box values)
  have hexpand : Shorthand.expand box.name (all box values).value =
      Shorthand.expandBox (Shorthand.sideNames (box.name ++ "-") "")
        (Chars.trim (all box values).value.toList) := by
    cases box <;> rfl
  rw [hexpand, htrim, value, String.toList_ofList, Shorthand.expandBox, boxValues?_intercalate,
    sideNames_eq]
  rfl

/-- **Expanding a declaration keeps what it says.** -/
theorem lookup_expand (d : BoxDeclaration) (hvalue : IsTrimmed d.value.toList) (box : Box)
    (side : Side) : List.lookup (box.longhand side) (Shorthand.expand d.name d.value).reverse =
      d.valueAt? box side := by
  cases d with
  | all b values =>
    rw [name, expand_name, valueAt?]
    by_cases hb : b = box
    · subst hb
      cases side <;> simp [Entries.lookup_cons, longhand_inj]
    · simp [Entries.lookup_cons, longhand_inj, hb, Ne.symm hb]
  | one b s text =>
    have hlonghand := isLonghand_longhand b s
    have hexpand : Shorthand.expand (b.longhand s) text = [(b.longhand s, text)] := by
      have hsettled := Shorthand.isSettled_of_isTrimmed hlonghand hvalue
      exact hsettled
    rw [name, value, hexpand]
    simp only [List.reverse_singleton, Entries.lookup_cons, List.lookup_nil, longhand_inj, valueAt?]

end BoxDeclaration

/-! ### Style maps -/

namespace StyleMap

open BoxDeclaration

theorem IsTextOf.isValue {ds : List (String × String)} {s : List Char} (h : IsTextOf ds s) :
    ∀ d ∈ ds, IsValue d.2.toList := by
  induction h with
  | blank => simp
  | last hs =>
    obtain ⟨front, back, ending, -, -, -, hvalue, -⟩ := hs
    exact List.forall_mem_singleton.mpr hvalue
  | cons hs _ ih =>
    obtain ⟨front, back, ending, -, -, -, hvalue, -⟩ := hs
    exact List.forall_mem_cons.mpr ⟨hvalue, ih⟩
  | skip _ _ ih => exact ih

/-- The last property that says something counts. -/
theorem lookup_reverse_flatMap {k : String} {f : String × String → List (String × String)}
    {props : List (String × String)} {p : String × String} {value : String}
    (hlast : props.getLast? = some p) (hp : List.lookup k (f p).reverse = some value) :
    List.lookup k (props.flatMap f).reverse = some value := by
  obtain ⟨front, rfl⟩ := List.getLast?_eq_some_iff.mp hlast
  rw [List.flatMap_append, List.reverse_append, List.lookup_append, List.flatMap_singleton, hp,
    Option.some_or]

theorem ofText_eq_of_isTextOf {ds : List BoxDeclaration} {source : String}
    (h : IsTextOf (ds.map pair) source.toList) :
    ofText source = ⟨setAll [] (ds.map pair), .empty⟩ := by
  have hdeclare (m : StyleMap) (d : BoxDeclaration) : m.declare d.pair = m.set d.name d.value := by
    rw [declare, pair, dropPiece?_name]
  rw [ofText, declarations_eq_of_isTextOf h, List.foldl_map]
  simp only [hdeclare]
  have hset := foldl_set empty (ds.map pair)
  rw [List.foldl_map] at hset
  exact hset

/-- The declaration that counts is the last of the properties that say something about a side. -/
theorem getLast?_setAll_mentions (box : Box) (side : Side) (ds : List BoxDeclaration) :
    (setAll [] ((mentions box side ds).map pair)).getLast? =
      (lastOfSecond? (mentions box side ds)).map pair := by
  have hmentions : ∀ d ∈ mentions box side ds,
      d.name = box.name ∨ d.name = box.longhand side := fun d hd =>
    (isSome_valueAt?_iff box side d).mp (List.mem_filter.mp hd).2
  cases hds : mentions box side ds with
  | nil => rfl
  | cons d rest =>
    rw [hds, List.forall_mem_cons] at hmentions
    obtain ⟨hd, hrest⟩ := hmentions
    obtain ⟨other, hother⟩ : ∃ other, ∀ e ∈ rest, e.name = d.name ∨ e.name = other := by
      rcases hd with hd | hd
      · exact ⟨box.longhand side, fun e he => by rw [hd]; exact hrest e he⟩
      · exact ⟨box.name, fun e he => by rw [hd]; exact (hrest e he).symm⟩
    have hnames : ∀ p ∈ rest.map pair, p.1 = d.pair.1 ∨ p.1 = other :=
      List.forall_mem_map.mpr hother
    obtain ⟨value, hset, honly⟩ := exists_setAll_eq_cons hnames
    have hfilter : (rest.map pair).filter (fun p => p.1 ≠ d.pair.1) =
        (rest.filter fun e => e.name ≠ d.name).map pair := List.filter_map
    rw [hfilter] at hset honly
    rw [lastOfSecond?, List.map_cons, setAll_cons, setIn, hset, List.getLast?_map]
    cases hlast : (rest.filter fun e => e.name ≠ d.name).getLast? with
    | some e => rfl
    | none =>
      rw [List.getLast?_eq_none_iff] at hlast
      rw [hlast, List.map_nil] at honly
      rw [Option.none_or, ← List.getLast?_map, List.map_cons, honly rfl]
      rfl

/-- **What a text of margins and paddings says about a side.** -/
theorem get?_expand_ofText {ds : List BoxDeclaration} {source : String}
    (h : IsTextOf (ds.map pair) source.toList) (box : Box) (side : Side) :
    (ofText source).expand.get? (box.longhand side) = kept? box side ds ∧
      ((ds.map name).Nodup → kept? box side ds = cascaded? box side ds) := by
  constructor
  · have hvalues : ∀ d ∈ ds, IsTrimmed d.value.toList := by
      intro d hd
      have hvalue := h.isValue d.pair (List.mem_map_of_mem hd)
      exact hvalue.squeeze_eq ▸ Chars.isTrimmed_trim _
    have hfind : ∀ d ∈ ds, List.lookup (box.longhand side)
        (Shorthand.expand d.pair.1 d.pair.2).reverse = d.valueAt? box side :=
      fun d hd => d.lookup_expand (hvalues d hd) box side
    -- Of all properties, only those of the declarations that mention the side count.
    let keep : String → Bool := fun name => name = box.name ∨ name = box.longhand side
    have hkeep (d : BoxDeclaration) : keep d.name = (d.valueAt? box side).isSome := by
      rw [Bool.eq_iff_iff, isSome_valueAt?_iff]
      exact decide_eq_true_iff
    have hfilter : (setAll [] (ds.map pair)).filter (fun p => keep p.1) =
        setAll [] ((mentions box side ds).map pair) := by
      rw [filter_setAll, List.filter_nil, List.filter_map, mentions]
      congr 2
      exact List.filter_congr fun d _ => hkeep d
    rw [ofText_eq_of_isTextOf h, expand, get?_withProps, lookup_reverse_flatMap_filter, hfilter]
    · cases hlast : lastOfSecond? (mentions box side ds) with
      | none =>
        rw [lastOfSecond?_eq_none hlast, kept?, hlast]
        rfl
      | some d =>
        obtain ⟨hd, hsome⟩ := List.mem_filter.mp (mem_of_lastOfSecond? hlast)
        obtain ⟨value, hvalue⟩ := Option.isSome_iff_exists.mp hsome
        rw [kept?, hlast, Option.bind_some, hvalue]
        refine lookup_reverse_flatMap (p := d.pair) ?_ (by rw [hfind d hd, hvalue])
        rw [getLast?_setAll_mentions, hlast, Option.map_some]
    · intro p hp hnot
      obtain ⟨d, hd, rfl⟩ := List.mem_map.mp ((mem_setAll hp).resolve_left (by simp))
      have hnone : (d.valueAt? box side).isSome = false := by
        rw [← hkeep]
        exact hnot
      rw [hfind d hd, Option.isSome_eq_false_iff.mp hnone |> Option.isNone_iff_eq_none.mp]
  · intro hnodup
    have hmentions : ((mentions box side ds).map name).Nodup :=
      hnodup.sublist (List.filter_sublist.map name)
    rw [kept?, cascaded?, lastOfSecond?_of_nodup hmentions]

/-- A declaration without quotes, parentheses and a mark. -/
theorem writes_of_plain {front back : List Char} {d : String × String} (hname : IsName d.1.toList)
    (hfront : Chars.lowercase (Chars.squeeze front) = d.1.toList) (hne : d.2.toList ≠ [])
    (hvalue : Chars.squeeze d.2.toList = d.2.toList) (hplain : ∀ c ∈ d.2.toList, c ∉ separators)
    (hunmarked : ¬importantMark <:+: Chars.lowercase d.2.toList)
    (hback : Chars.squeeze back = d.2.toList) : Writes (front ++ ':' :: back) d := by
  have hclosed : Style.IsClosed false d.2.toList := isClosed_of_not_mem_separators hplain
  refine ⟨front, back, [], rfl, hname, hfront, ⟨hne, hvalue, hclosed, hunmarked⟩, .inl rfl, ?_⟩
  rw [hback, List.append_nil]

/-- A padding, and behind it another one for the left side. -/
def ordered : List BoxDeclaration :=
  [.all .padding (.two ⟨"1px".toList, by decide, by decide⟩ ⟨"2px".toList, by decide, by decide⟩),
    .one .padding .left "3px"]

theorem isTextOf_ordered :
    IsTextOf (ordered.map pair) "Padding:1px  2px; padding-left: 3px;".toList := by
  have hall : Writes ("Padding".toList ++ ':' :: "1px  2px".toList) ("padding", "1px 2px") :=
    writes_of_plain ⟨by decide, by decide, by decide⟩ (by decide) (by decide) (by decide)
      (by decide) (by decide) (by decide)
  have hleft : Writes (" padding-left".toList ++ ':' :: " 3px".toList) ("padding-left", "3px") :=
    writes_of_plain ⟨by decide, by decide, by decide⟩ (by decide) (by decide) (by decide)
      (by decide) (by decide) (by decide)
  exact .cons hall (.cons hleft (.blank (by decide)))

theorem get?_expand_ordered :
    IsTextOf (ordered.map pair) "Padding:1px  2px; padding-left: 3px;".toList ∧
      (ordered.map name).Nodup ∧
      (ofText "Padding:1px  2px; padding-left: 3px;").expand.get? (Box.padding.longhand .left) =
        some "3px" := by
  have hnodup : (ordered.map name).Nodup := by decide
  obtain ⟨hkept, hcascade⟩ := get?_expand_ofText isTextOf_ordered .padding .left
  refine ⟨isTextOf_ordered, hnodup, ?_⟩
  rw [hkept, hcascade hnodup]
  decide

/-- The shorthand between two declarations of one of its sides. -/
def interleaved : List BoxDeclaration :=
  [.one .margin .top "1px", .all .margin (.one ⟨"2px".toList, by decide, by decide⟩),
    .one .margin .top "3px"]

theorem isTextOf_interleaved :
    IsTextOf (interleaved.map pair) "margin-top: 1px; margin: 2px; margin-top: 3px".toList := by
  have hfirst : Writes ("margin-top".toList ++ ':' :: " 1px".toList) ("margin-top", "1px") :=
    writes_of_plain ⟨by decide, by decide, by decide⟩ (by decide) (by decide) (by decide)
      (by decide) (by decide) (by decide)
  have hall : Writes (" margin".toList ++ ':' :: " 2px".toList) ("margin", "2px") :=
    writes_of_plain ⟨by decide, by decide, by decide⟩ (by decide) (by decide) (by decide)
      (by decide) (by decide) (by decide)
  have hlast : Writes (" margin-top".toList ++ ':' :: " 3px".toList) ("margin-top", "3px") :=
    writes_of_plain ⟨by decide, by decide, by decide⟩ (by decide) (by decide) (by decide)
      (by decide) (by decide) (by decide)
  exact .cons hfirst (.cons hall (.last hlast))

/-- The longhand keeps its place in front of the shorthand, so the shorthand counts. -/
theorem get?_expand_interleaved :
    IsTextOf (interleaved.map pair) "margin-top: 1px; margin: 2px; margin-top: 3px".toList ∧
      (ofText "margin-top: 1px; margin: 2px; margin-top: 3px").expand.get?
        (Box.margin.longhand .top) = some "2px" ∧
      cascaded? .margin .top interleaved = some "3px" :=
  ⟨isTextOf_interleaved, by decide +kernel, by decide⟩

end StyleMap

end PageModules
