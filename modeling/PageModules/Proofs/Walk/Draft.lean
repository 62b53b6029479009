import Mathlib.Data.List.Basic
import PageModules.Walk.Build

/-!
# Modules without identifiers

What is built of a plan does not hang on the identifiers that are drawn on the way.  `Plan.drafts`
are the modules of a plan without identifiers, and `Draft.number` gives drafts the identifiers that
they would have drawn: each has a number before those inside of it, and only a section around the
modules of an element of no type has one behind them.

Builders number drafts (`Plan.numbers_buildAll`): in every state of the identifiers, to build plans
is to number their drafts from this state on, and an identifier is drawn for each module and for
nothing else.
-/

namespace PageModules

/-- A module without an identifier. -/
inductive Draft where
  /-- A module; `isLate` says that it is numbered after those inside of it. -/
  | node (type : ModuleType) (attrs : Attributes) (isLate : Bool) (children : List Draft)

namespace Plan

mutual

/-- The modules of a plan. -/
def drafts (base : Int) : Plan → List Draft
  | node _ origin children =>
    let inside := draftsAll base children
    match origin, inside with
    | .wrapper _, [] => []
    | .wrapper _, [only] => [only]
    | .wrapper e, inside =>
      [.node .pageSection ((Origin.wrapper e).attributes base inside.length) true inside]
    | origin, inside =>
      match origin.type? with
      | some type => [.node type (origin.attributes base inside.length) false inside]
      | none => []

/-- The modules of several plans. -/
def draftsAll (base : Int) : List Plan → List Draft
  | [] => []
  | p :: rest => drafts base p ++ draftsAll base rest

end

end Plan

namespace Draft

/-! ### Numbers -/

mutual

/-- The number of modules of a tree. -/
def count : Draft → Nat
  | node _ _ _ children => countAll children + 1

/-- The number of modules of several trees. -/
def countAll : List Draft → Nat
  | [] => 0
  | d :: rest => count d + countAll rest

end

mutual

/-- Gives the modules of a tree the numbers after `n`. -/
def number (token : String) (n : Nat) : Draft → PageModule
  | node type attrs isLate children =>
    if isLate then
      ⟨type.identifier token (n + countAll children + 1), type, attrs, numberAll token n children⟩
    else ⟨type.identifier token (n + 1), type, attrs, numberAll token (n + 1) children⟩

/-- Gives the modules of several trees the numbers after `n`. -/
def numberAll (token : String) (n : Nat) : List Draft → List PageModule
  | [] => []
  | d :: rest => number token n d :: numberAll token (n + count d) rest

end

mutual

/-- Numbering keeps the number of modules. -/
theorem count_number (token : String) (n : Nat) (d : Draft) :
    (d.number token n).count = d.count := by
  cases d with
  | node type attrs isLate children =>
    unfold number
    split <;> simp [PageModule.count, count, countAll_numberAll]

/-- Numbering keeps the number of modules. -/
theorem countAll_numberAll (token : String) (n : Nat) (ds : List Draft) :
    PageModule.countAll (numberAll token n ds) = countAll ds := by
  cases ds with
  | nil => simp [numberAll, PageModule.countAll, countAll]
  | cons d rest =>
    simp [numberAll, PageModule.countAll, countAll, count_number token n d,
      countAll_numberAll token _ rest]

end

end Draft

/-! ### Builders -/

namespace Draft

variable (token : String) (n : Nat)

theorem countAll_singleton (d : Draft) : countAll [d] = d.count := Nat.add_zero _

theorem numberAll_append (ds es : List Draft) :
    numberAll token n (ds ++ es) =
      numberAll token n ds ++ numberAll token (n + countAll ds) es := by
  induction ds generalizing n with
  | nil => rfl
  | cons d rest ih =>
    rw [List.cons_append, numberAll, numberAll, countAll, ih, Nat.add_assoc, List.cons_append]

theorem countAll_append (ds es : List Draft) : countAll (ds ++ es) = countAll ds + countAll es := by
  induction ds with
  | nil => exact (Nat.zero_add _).symm
  | cons d rest ih => rw [List.cons_append, countAll, countAll, ih, Nat.add_assoc]

theorem length_numberAll (ds : List Draft) : (numberAll token n ds).length = ds.length := by
  induction ds generalizing n with
  | nil => rfl
  | cons d rest ih => rw [numberAll, List.length_cons, List.length_cons, ih]

end Draft

namespace Identifiers

/-- The identifiers after so many more were drawn. -/
def after (ids : Identifiers) (k : Nat) : Identifiers := { ids with count := ids.count + k }

theorem after_after (ids : Identifiers) (j k : Nat) :
    (ids.after j).after k = ids.after (j + k) := by
  rw [after, after, after, Nat.add_assoc]

end Identifiers

/-- A builder that numbers the given drafts: it draws an identifier for each of them, and no other.
-/
def Build.Numbers (b : Build (List PageModule)) (ds : List Draft) : Prop :=
  ∀ ids : Identifiers,
    b ids = (Draft.numberAll ids.token ids.count ds, ids.after (Draft.countAll ds))

namespace Origin

variable {inside : Build (List PageModule)} {ds : List Draft}

/-- Who draws first has the first number. -/
theorem numbers_buildAround (h : inside.Numbers ds) (type : ModuleType) (attrs : Nat → Attributes) :
    (buildAround type attrs inside).Numbers [.node type (attrs ds.length) false ds] := by
  intro ids
  have hinside := h (ids.after 1)
  have hrun : buildAround type attrs inside ids =
      ([⟨type.identifier ids.token (ids.count + 1), type, attrs (inside (ids.after 1)).1.length,
        (inside (ids.after 1)).1⟩], (inside (ids.after 1)).2) := rfl
  rw [hrun, hinside, Draft.length_numberAll, Identifiers.after_after, Draft.countAll_singleton,
    Draft.count, Nat.add_comm 1]
  rfl

theorem buildAroundSeveral_apply (inside : Build (List PageModule)) (type : ModuleType)
    (attrs : Nat → Attributes) (ids : Identifiers) :
    buildAroundSeveral type attrs inside ids =
      if (inside ids).1.length ≤ 1 then inside ids
      else ([⟨type.identifier (inside ids).2.token ((inside ids).2.count + 1), type,
        attrs (inside ids).1.length, (inside ids).1⟩], (inside ids).2.after 1) := by
  have hrun : buildAroundSeveral type attrs inside ids =
      (if (inside ids).1.length ≤ 1 then return (inside ids).1
        else do
          let id ← Build.next type
          return [⟨id, type, attrs (inside ids).1.length, (inside ids).1⟩] :
        Build (List PageModule)) (inside ids).2 := rfl
  rw [hrun]
  split <;> rfl

/-- Who draws last has the last number. -/
theorem numbers_buildAroundSeveral (h : inside.Numbers ds) (type : ModuleType)
    (attrs : Nat → Attributes) :
    (buildAroundSeveral type attrs inside).Numbers
      (if ds.length ≤ 1 then ds else [.node type (attrs ds.length) true ds]) := by
  intro ids
  rw [buildAroundSeveral_apply, h ids, Draft.length_numberAll]
  split
  · rfl
  · rw [Identifiers.after_after, Draft.countAll_singleton, Draft.count]
    rfl

/-- An origin that has a type and does not give way to what is inside draws before. -/
theorem build_of_type? {o : Origin} (hwrapper : ∀ e, o ≠ .wrapper e) {type : ModuleType}
    (htype : o.type? = some type) (base : Int) :
    o.build base inside = buildAround type (o.attributes base) inside := by
  cases o with
  | wrapper e => exact absurd rfl (hwrapper e)
  | dropped => cases htype
  | _ =>
    obtain rfl := Option.some.inj htype
    rfl

theorem eq_dropped_of_type?_eq_none {o : Origin} (h : o.type? = none) : o = .dropped := by
  cases o with
  | dropped => rfl
  | _ => cases h

end Origin

namespace Plan

variable (base : Int)

/-- The builder of an element of no type numbers its modules. -/
theorem drafts_wrapper (notes : List Note) (e : Element) (children : List Plan) :
    (node notes (.wrapper e) children).drafts base =
      let inside := draftsAll base children
      if inside.length ≤ 1 then inside
      else [.node .pageSection ((Origin.wrapper e).attributes base inside.length) true inside] := by
  unfold drafts
  rcases draftsAll base children with _ | ⟨d, _ | ⟨d', rest⟩⟩
  · rfl
  · rfl
  · exact (if_neg (by simp)).symm

/-- Any other plan that has a type has a module of this type. -/
theorem drafts_of_type? {o : Origin} (hwrapper : ∀ e, o ≠ .wrapper e) {type : ModuleType}
    (htype : o.type? = some type) (notes : List Note) (children : List Plan) :
    (node notes o children).drafts base =
      [.node type (o.attributes base (draftsAll base children).length) false
        (draftsAll base children)] := by
  cases o with
  | wrapper e => exact absurd rfl (hwrapper e)
  | dropped => cases htype
  | _ =>
    obtain rfl := Option.some.inj htype
    rfl

mutual

/-- **Builders number drafts**: to build a plan is to number its modules. -/
theorem numbers_build (p : Plan) : (p.build base).Numbers (p.drafts base) := by
  obtain ⟨notes, o, children⟩ := p
  have hinside := numbers_buildAll children
  rw [build]
  by_cases hwrapper : ∃ e, o = .wrapper e
  · obtain ⟨e, rfl⟩ := hwrapper
    rw [drafts_wrapper]
    exact Origin.numbers_buildAroundSeveral hinside .pageSection
      ((Origin.wrapper e).attributes base)
  · rw [not_exists] at hwrapper
    cases htype : o.type? with
    | some type =>
      rw [drafts_of_type? base hwrapper htype, Origin.build_of_type? hwrapper htype]
      exact Origin.numbers_buildAround hinside type (o.attributes base)
    | none =>
      obtain rfl := Origin.eq_dropped_of_type?_eq_none htype
      exact fun ids => rfl

/-- Builders one after the other number the modules of all their plans. -/
theorem numbers_buildAll (ps : List Plan) : (buildAll base ps).Numbers (draftsAll base ps) := by
  cases ps with
  | nil => exact fun ids => rfl
  | cons p rest =>
    intro ids
    have hrun : buildAll base (p :: rest) ids =
        ((build base p ids).1 ++ (buildAll base rest (build base p ids).2).1,
          (buildAll base rest (build base p ids).2).2) := rfl
    rw [hrun, numbers_build p ids, numbers_buildAll rest, draftsAll, Draft.numberAll_append,
      Draft.countAll_append, Identifiers.after_after]
    rfl

end

end Plan

end PageModules
