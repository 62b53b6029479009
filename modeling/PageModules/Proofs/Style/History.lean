import Mathlib.Data.List.DropRight
import PageModules.Proofs.Style.StyleMaps
import PageModules.Style.Shorthand

/-!
# Histories of style maps

A style map is a list of properties that one operation changes in place, one appends to, one cuts
and others build anew.  However these follow on each other, no name is held twice
(`StyleMap.nodup_run`), and the map can be read off the edits: a property has the value that was
set last since its last removal, and the properties stand in the order in which they were set
first since their last removals (`StyleMap.Recalls`).  The age of a property says the second: it
is how far back that first setting lies, and a map lists its properties from the oldest to the
youngest.

`StyleMap.recalls_run` puts this together with what a removal gives and leaves alone, and with the
steps that the custom properties depend on.
-/

namespace PageModules.StyleMap

/-- The names of the properties, in the order of the properties. -/
def names (m : StyleMap) : List String := m.props.map Prod.fst

/-! ### Edits -/

/-- A change of one declaration. -/
inductive Edit where
  /-- Sets a property. -/
  | set (name value : String)
  /-- Sets a custom property. -/
  | setCustom (name value : String)
  /-- Removes a property. -/
  | remove (name : String)
deriving DecidableEq

namespace Edit

/-- The map after an edit. -/
def apply (m : StyleMap) : Edit → StyleMap
  | set name value => m.set name value
  | setCustom name value => m.setCustom name value
  | remove name => (m.remove name).2

/-- The value that an edit sets a property to. -/
def value? (name : String) : Edit → Option String
  | set property value => if property = name then some value else none
  | _ => none

/-- The edits behind the last removal of a property. -/
def since (name : String) (edits : List Edit) : List Edit :=
  edits.rtakeWhile fun e => e ≠ remove name

/-- The value that was set last since the last removal of a property. -/
def lastValue? (name : String) (edits : List Edit) : Option String :=
  ((since name edits).filterMap (value? name)).getLast?

/-- How many edits there are from the first setting of a property since its last removal on, this
setting counted; `0` for a property that was not set since then. -/
def age (name : String) (edits : List Edit) : ℕ :=
  ((since name edits).dropWhile fun e => (e.value? name).isNone).length

theorem since_concat (name : String) (edits : List Edit) (e : Edit) :
    since name (edits ++ [e]) = if e = remove name then [] else since name edits ++ [e] := by
  rw [since, List.rtakeWhile_concat]
  by_cases he : e = remove name <;> simp [he, since]

theorem lastValue?_concat (name : String) (edits : List Edit) (e : Edit) :
    lastValue? name (edits ++ [e]) =
      if e = remove name then none else (e.value? name).or (lastValue? name edits) := by
  rw [lastValue?, since_concat]
  split
  case isTrue => rfl
  case isFalse =>
    rw [List.filterMap_append, List.getLast?_append, lastValue?]
    cases hvalue : e.value? name <;> simp [hvalue]

theorem age_concat (name : String) (edits : List Edit) (e : Edit) :
    age name (edits ++ [e]) =
      if e = remove name then 0
      else if 0 < age name edits then age name edits + 1
      else if (e.value? name).isSome then 1 else 0 := by
  rw [age, since_concat]
  split
  case isTrue => rfl
  case isFalse =>
    rw [List.dropWhile_append, age]
    cases hold : (since name edits).dropWhile fun e => (e.value? name).isNone with
    | nil => cases hvalue : e.value? name <;> simp [hvalue]
    | cons first rest => simp

theorem age_concat_pos_iff {name : String} {edits : List Edit} {e : Edit} :
    0 < age name (edits ++ [e]) ↔
      e ≠ remove name ∧ (0 < age name edits ∨ (e.value? name).isSome) := by
  rw [age_concat]
  by_cases he : e = remove name
  · simp [he]
  · rw [if_neg he]
    split
    case isTrue hold => simp [he, hold]
    case isFalse hold => cases hvalue : e.value? name <;> simp [he, hold]

end Edit

open Edit (value? lastValue? lastValue?_concat age age_concat age_concat_pos_iff)

/-! ### Maps that recall their edits -/

/-- The map holds of a list of edits what they amount to. -/
structure Recalls (m : StyleMap) (edits : List Edit) : Prop where
  /-- No name is held twice. -/
  nodup : m.names.Nodup
  /-- The last value since the last removal counts. -/
  get?_eq : ∀ name, m.get? name = lastValue? name edits
  /-- The properties are those that were set since their last removal. -/
  mem_names_iff : ∀ name, name ∈ m.names ↔ 0 < age name edits
  /-- What was set first since its last removal stands first. -/
  older_first : m.names.Pairwise fun a b => age b edits < age a edits

theorem recalls_empty : empty.Recalls [] where
  nodup := List.nodup_nil
  get?_eq _ := rfl
  mem_names_iff _ := by simp [names, empty, age, Edit.since]
  older_first := List.Pairwise.nil

/-- The edits are recalled by the properties alone. -/
theorem Recalls.of_props_eq {m n : StyleMap} {edits : List Edit} (h : m.Recalls edits)
    (hprops : n.props = m.props) : n.Recalls edits := by
  have hnames : n.names = m.names := congrArg (List.map Prod.fst) hprops
  refine ⟨hnames ▸ h.nodup, fun name => ?_, hnames ▸ h.mem_names_iff, hnames ▸ h.older_first⟩
  rw [get?_eq_lookup, hprops, ← get?_eq_lookup, h.get?_eq]

/-- An edit makes the properties that it keeps older by one. -/
theorem Recalls.age_concat_of_mem {m : StyleMap} {edits : List Edit} (h : m.Recalls edits)
    {name : String} (hname : name ∈ m.names) {e : Edit} (he : e ≠ .remove name) :
    age name (edits ++ [e]) = age name edits + 1 := by
  rw [age_concat, if_neg he, if_pos ((h.mem_names_iff name).mp hname)]

/-- The properties that an edit keeps stay in their order. -/
theorem Recalls.older_first_of_sublist {m : StyleMap} {edits : List Edit} (h : m.Recalls edits)
    {kept : List String} (hsub : kept.Sublist m.names) {e : Edit}
    (he : ∀ a ∈ kept, e ≠ .remove a) :
    kept.Pairwise fun a b => age b (edits ++ [e]) < age a (edits ++ [e]) := by
  refine (h.older_first.sublist hsub).imp_of_mem fun {a b} ha hb hab => ?_
  rw [h.age_concat_of_mem (hsub.subset ha) (he a ha),
    h.age_concat_of_mem (hsub.subset hb) (he b hb)]
  exact Nat.succ_lt_succ hab

/-! #### Setting -/

theorem names_set_of_mem {m : StyleMap} {name : String} (h : name ∈ m.names) (value : String) :
    (m.set name value).names = m.names := map_fst_setIn_of_mem h value

theorem names_set_of_not_mem {m : StyleMap} {name : String} (h : name ∉ m.names)
    (value : String) : (m.set name value).names = m.names ++ [name] := by
  rw [names, set, setIn_of_not_mem h, List.map_append]
  rfl

theorem mem_names_set {m : StyleMap} {name value k : String} :
    k ∈ (m.set name value).names ↔ k ∈ m.names ∨ name = k := by
  by_cases hname : name ∈ m.names
  · rw [names_set_of_mem hname]
    exact ⟨.inl, fun h => h.elim id fun hk => hk ▸ hname⟩
  · rw [names_set_of_not_mem hname, List.mem_append, List.mem_singleton, eq_comm (a := k)]

theorem get?_set (m : StyleMap) (name value k : String) :
    (m.set name value).get? k = if name = k then some value else m.get? k := by
  rw [get?_eq_lookup, get?_eq_lookup]
  exact lookup_setIn name value k m.props

theorem Recalls.set {m : StyleMap} {edits : List Edit} (h : m.Recalls edits)
    (name value : String) : (m.set name value).Recalls (edits ++ [.set name value]) := by
  have hkeep : ∀ a, Edit.set name value ≠ .remove a := fun a => nofun
  have holder := h.older_first_of_sublist (List.Sublist.refl _) fun a _ => hkeep a
  refine ⟨nodup_setIn h.nodup name value, fun k => ?_, fun k => ?_, ?_⟩
  · rw [get?_set, h.get?_eq, lastValue?_concat, if_neg (hkeep k), value?]
    split <;> simp
  · rw [mem_names_set, h.mem_names_iff, age_concat_pos_iff, value?]
    simp [hkeep]
  · by_cases hname : name ∈ m.names
    · rwa [names_set_of_mem hname]
    -- a new property is the youngest one
    · have hzero : ¬ 0 < age name edits := fun hpos => hname ((h.mem_names_iff name).mpr hpos)
      have hone : age name (edits ++ [.set name value]) = 1 := by
        rw [age_concat, if_neg (hkeep name), if_neg hzero, value?, if_pos rfl]
        rfl
      rw [names_set_of_not_mem hname, List.pairwise_append]
      refine ⟨holder, List.pairwise_singleton _ _, fun a ha b hb => ?_⟩
      rw [List.mem_singleton.mp hb, hone, h.age_concat_of_mem ha (hkeep a)]
      exact Nat.succ_lt_succ ((h.mem_names_iff a).mp ha)

theorem Recalls.setCustom {m : StyleMap} {edits : List Edit} (h : m.Recalls edits)
    (name value : String) :
    (m.setCustom name value).Recalls (edits ++ [.setCustom name value]) := by
  have hkeep : ∀ a, Edit.setCustom name value ≠ .remove a := fun a => nofun
  refine ⟨h.nodup, fun k => ?_, fun k => ?_,
    h.older_first_of_sublist (List.Sublist.refl _) fun a _ => hkeep a⟩
  · rw [lastValue?_concat, if_neg (hkeep k), ← h.get?_eq]
    rfl
  · refine (h.mem_names_iff k).trans ?_
    rw [age_concat_pos_iff]
    simp [hkeep, value?]

/-! #### Removing -/

/-- **A removal concerns only the properties of its name.** -/
theorem props_remove {m : StyleMap} (h : m.names.Nodup) (name : String) :
    (m.remove name).2.props = m.props.filter fun p => p.1 ≠ name := by
  obtain ⟨props, custom⟩ := m
  change (props.eraseP fun p => p.1 == name) = props.filter fun p => p.1 ≠ name
  induction props with
  | nil => rfl
  | cons q rest ih =>
    obtain ⟨hnotin, hrest⟩ := List.nodup_cons.mp h
    by_cases hq : q.1 = name
    case pos =>
      have hall : rest.filter (fun p => p.1 ≠ name) = rest := by
        refine List.filter_eq_self.mpr fun p hp => decide_eq_true fun hname => hnotin ?_
        exact List.mem_map.mpr ⟨p, hp, hname.trans hq.symm⟩
      rw [List.eraseP_cons_of_pos (by simpa using hq), List.filter_cons_of_neg (by simpa using hq),
        hall]
    case neg =>
      rw [List.eraseP_cons_of_neg (by simpa using hq), List.filter_cons_of_pos (by simpa using hq),
        ih hrest]

theorem names_remove {m : StyleMap} (h : m.names.Nodup) (name : String) :
    (m.remove name).2.names = m.names.filter fun k => k ≠ name := by
  rw [names, props_remove h, names, List.filter_map]
  rfl

theorem get?_remove {m : StyleMap} (h : m.names.Nodup) (name k : String) :
    (m.remove name).2.get? k = if k = name then none else m.get? k := by
  rw [get?, props_remove h, get?, List.find?_filter]
  split
  case isTrue hk =>
    rw [List.find?_eq_none.mpr fun p _ => by simp [hk]]
    rfl
  case isFalse hk =>
    refine congrArg (Option.map Prod.snd) (congrArg (List.find? · m.props) (funext fun p => ?_))
    by_cases hp : p.1 = k <;> simp [hp, hk]

theorem Recalls.remove {m : StyleMap} {edits : List Edit} (h : m.Recalls edits) (name : String) :
    (m.remove name).2.Recalls (edits ++ [.remove name]) := by
  have hnames : (m.remove name).2.names = m.names.filter fun k => k ≠ name :=
    names_remove h.nodup name
  refine ⟨hnames ▸ h.nodup.filter _, fun k => ?_, fun k => ?_, ?_⟩
  · rw [get?_remove h.nodup, lastValue?_concat, h.get?_eq]
    simp [value?, eq_comm]
  · rw [hnames, List.mem_filter, h.mem_names_iff, age_concat_pos_iff]
    by_cases hk : k = name
    · simp [hk]
    · simp [value?, hk, Ne.symm hk]
  · rw [hnames]
    refine h.older_first_of_sublist List.filter_sublist fun a ha he => ?_
    exact of_decide_eq_true (List.mem_filter.mp ha).2 (Edit.remove.inj he).symm

/-! #### Any edits -/

/-- **What one edit preserves.** -/
theorem Recalls.apply {m : StyleMap} {edits : List Edit} (h : m.Recalls edits) (e : Edit) :
    (e.apply m).Recalls (edits ++ [e]) := by
  cases e with
  | set name value => exact h.set name value
  | setCustom name value => exact h.setCustom name value
  | remove name => exact h.remove name

theorem Recalls.foldl {m : StyleMap} {past : List Edit} (h : m.Recalls past)
    (edits : List Edit) : (edits.foldl Edit.apply m).Recalls (past ++ edits) := by
  induction edits generalizing m past with
  | nil => rwa [List.append_nil]
  | cons e rest ih =>
    have hrest := ih (h.apply e)
    rwa [List.append_assoc] at hrest

/-- The edits that make the properties of a map out of nothing. -/
def settings (m : StyleMap) : List Edit := m.props.map fun p => .set p.1 p.2

theorem recalls_settings {m : StyleMap} (h : m.names.Nodup) : m.Recalls m.settings := by
  refine (recalls_empty.foldl m.settings).of_props_eq ?_
  have hprops : setAll [] m.props = m.props := setAll_of_nodup h
  rw [settings, List.foldl_map]
  exact (hprops.symm.trans (congrArg props (foldl_set empty m.props)).symm)

/-! ### Steps -/

/-- An operation that makes a style map out of one. -/
inductive Step where
  /-- Changes one declaration. -/
  | edit (e : Edit)
  /-- Sets the properties of a list in a map without declarations. -/
  | rebuild (pairs : List (String × String))
  /-- Sets the properties of a list in place of those that are there. -/
  | replace (pairs : List (String × String))
  /-- Reads a style text. -/
  | parse (source : String)
  /-- Expands every declaration. -/
  | expand

namespace Step

/-- The map after a step. -/
def next (m : StyleMap) : Step → StyleMap
  | edit e => e.apply m
  | rebuild pairs => ofPairs pairs
  | replace pairs => m.withProps pairs
  | parse source => ofText source
  | expand => m.expand

/-- Whether a step writes the custom properties. -/
def customizes : Step → Bool
  | edit (.setCustom _ _) => true
  | rebuild _ => true
  | parse _ => true
  | _ => false

end Step

/-- The map after some steps that begin without declarations. -/
def run (steps : List Step) : StyleMap := steps.foldl Step.next empty

theorem run_append (steps more : List Step) :
    run (steps ++ more) = more.foldl Step.next (run steps) := List.foldl_append

/-! #### No name twice -/

theorem nodup_withProps (m : StyleMap) (props : List (String × String)) :
    (m.withProps props).names.Nodup := by
  have hnil : (([] : List (String × String)).map Prod.fst).Nodup := List.nodup_nil
  rw [names, withProps_eq]
  exact nodup_setAll hnil props

theorem nodup_declare {m : StyleMap} (h : m.names.Nodup) (declaration : String × String) :
    (m.declare declaration).names.Nodup := by
  rw [declare]
  split
  case h_1 => exact h
  case h_2 => exact nodup_setIn h declaration.1 declaration.2

theorem nodup_foldl_declare {m : StyleMap} (h : m.names.Nodup)
    (declarations : List (String × String)) : (declarations.foldl declare m).names.Nodup := by
  induction declarations generalizing m with
  | nil => exact h
  | cons declaration rest ih => exact ih (nodup_declare h declaration)

theorem nodup_apply {m : StyleMap} (h : m.names.Nodup) (e : Edit) : (e.apply m).names.Nodup :=
  ((recalls_settings h).apply e).nodup

theorem nodup_next {m : StyleMap} (h : m.names.Nodup) (s : Step) : (s.next m).names.Nodup := by
  cases s with
  | edit e => exact nodup_apply h e
  | rebuild pairs => exact nodup_withProps empty pairs
  | replace pairs => exact nodup_withProps m pairs
  | parse source => exact nodup_foldl_declare (m := empty) List.nodup_nil _
  | expand => exact nodup_withProps m _

theorem nodup_run (steps : List Step) : (run steps).names.Nodup := by
  induction steps using List.reverseRecOn with
  | nil => exact List.nodup_nil
  | append_singleton steps s ih =>
    rw [run_append]
    exact nodup_next ih s

/-! #### Custom properties -/

theorem custom_withProps (m : StyleMap) (props : List (String × String)) :
    (m.withProps props).custom = m.custom := by
  rw [withProps_eq]

theorem custom_next_of_not_customizes {s : Step} (h : s.customizes = false) (m : StyleMap) :
    (s.next m).custom = m.custom := by
  cases s with
  | edit e =>
    cases e with
    | setCustom name value => cases h
    | _ => rfl
  | rebuild pairs => cases h
  | replace pairs => exact custom_withProps m pairs
  | parse source => cases h
  | expand => exact custom_withProps m _

theorem custom_next_congr {m n : StyleMap} (h : m.custom = n.custom) (s : Step) :
    (s.next m).custom = (s.next n).custom := by
  cases s with
  | edit e =>
    cases e with
    | setCustom name value => exact congrArg (KeyMap.insert · name value) h
    | _ => exact h
  | rebuild pairs => rfl
  | replace pairs => rw [Step.next, Step.next, custom_withProps, custom_withProps, h]
  | parse source => rfl
  | expand => exact (custom_withProps m _).trans (h.trans (custom_withProps n _).symm)

/-- The custom properties depend only on the steps that write them. -/
theorem custom_run (steps : List Step) :
    (run steps).custom = (run (steps.filter Step.customizes)).custom := by
  induction steps using List.reverseRecOn with
  | nil => rfl
  | append_singleton steps s ih =>
    rw [List.filter_append, run_append, run_append, List.filter_singleton]
    cases hs : s.customizes with
    | true => exact custom_next_congr ih s
    | false => exact (custom_next_of_not_customizes hs (run steps)).trans ih

/-! ### The law -/

/-- **A map that any steps made, and then any edits, recalls the edits** on top of the properties
it had; a removal gives what the look-up gives and leaves all other properties as they are; and
the custom properties come from the steps that set one, read a text or rebuild the map. -/
theorem recalls_run (steps : List Step) (edits : List Edit) (name : String) :
    (run (steps ++ edits.map .edit)).Recalls ((run steps).settings ++ edits) ∧
      ((run steps).remove name).1 = (run steps).get? name ∧
      (∀ k, ((run steps).remove name).2.get? k = if k = name then none else (run steps).get? k) ∧
      ((run steps).remove name).2.props = ((run steps).props.filter fun p => p.1 ≠ name) ∧
      (run steps).custom = (run (steps.filter Step.customizes)).custom := by
  have hnodup : (run steps).names.Nodup := nodup_run steps
  refine ⟨?_, rfl, get?_remove hnodup name, props_remove hnodup name, custom_run steps⟩
  rw [run_append, List.foldl_map]
  exact (recalls_settings hnodup).foldl edits

/-- A property that is removed and set again goes to the end. -/
example : (run [.edit (.set "color" "red"), .edit (.set "margin" "0"), .edit (.remove "color"),
    .edit (.set "color" "blue")]).props = [("margin", "0"), ("color", "blue")] := by decide

end PageModules.StyleMap
