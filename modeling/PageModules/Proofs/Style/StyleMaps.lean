import Mathlib.Data.List.Induction
import Mathlib.Data.List.Nodup
import PageModules.Style.StyleMap

/-!
# Setting properties

A style map that is made by setting properties one after the other (`StyleMap.setAll`) holds each
name once, in the order in which the names were set first, and of each name the value that was set
last (`StyleMap.get?_withProps`).  So setting properties of different names gives just these
properties in their order (`StyleMap.withProps_of_nodup`).
-/

namespace PageModules.StyleMap

/-! ### One property -/

theorem mem_setIn {name value : String} {props : List (String × String)} {p : String × String}
    (h : p ∈ setIn name value props) : p = (name, value) ∨ p ∈ props := by
  induction props with
  | nil => exact .inl (List.mem_singleton.mp h)
  | cons q rest ih =>
    rw [setIn] at h
    split at h
    · exact (List.mem_cons.mp h).imp_right (List.mem_cons_of_mem q)
    · rcases List.mem_cons.mp h with rfl | h
      · exact .inr List.mem_cons_self
      · exact (ih h).imp_right (List.mem_cons_of_mem q)

/-- A new name goes to the end. -/
theorem setIn_of_not_mem {name : String} {props : List (String × String)}
    (h : name ∉ props.map Prod.fst) (value : String) :
    setIn name value props = props ++ [(name, value)] := by
  induction props with
  | nil => rfl
  | cons q rest ih =>
    rw [List.map_cons, List.mem_cons, not_or] at h
    rw [setIn, if_neg (Ne.symm h.1), ih h.2, List.cons_append]

/-- A name that is there keeps its place. -/
theorem map_fst_setIn_of_mem {name : String} {props : List (String × String)}
    (h : name ∈ props.map Prod.fst) (value : String) :
    (setIn name value props).map Prod.fst = props.map Prod.fst := by
  induction props with
  | nil => cases h
  | cons q rest ih =>
    rw [setIn]
    split
    case isTrue hq => rw [List.map_cons, List.map_cons, hq]
    case isFalse hq =>
      rw [List.map_cons, List.mem_cons] at h
      rw [List.map_cons, List.map_cons, ih (h.resolve_left (Ne.symm hq))]

theorem nodup_setIn {props : List (String × String)} (h : (props.map Prod.fst).Nodup)
    (name value : String) : ((setIn name value props).map Prod.fst).Nodup := by
  by_cases hname : name ∈ props.map Prod.fst
  · rwa [map_fst_setIn_of_mem hname]
  · rw [setIn_of_not_mem hname, List.map_append, List.map_singleton, List.nodup_append]
    refine ⟨h, List.nodup_singleton name, fun a ha b hb hab => ?_⟩
    rw [hab, List.mem_singleton.mp hb] at ha
    exact hname ha

theorem lookup_setIn (name value k : String) (props : List (String × String)) :
    List.lookup k (setIn name value props) =
      if name = k then some value else List.lookup k props := by
  induction props with
  | nil => rw [setIn, Entries.lookup_cons]
  | cons q rest ih =>
    rw [setIn]
    split
    case isTrue hq =>
      rw [Entries.lookup_cons, Entries.lookup_cons, hq]
      split <;> rfl
    case isFalse hq =>
      rw [Entries.lookup_cons, Entries.lookup_cons, ih]
      split
      case isTrue hk =>
        rw [if_neg (fun hname => hq (hk.trans hname.symm))]
      case isFalse => rfl

/-! ### Several properties -/

/-- Sets properties one after the other in a list of properties. -/
def setAll (start props : List (String × String)) : List (String × String) :=
  props.foldl (fun out p => setIn p.1 p.2 out) start

theorem setAll_cons (start : List (String × String)) (p : String × String)
    (props : List (String × String)) :
    setAll start (p :: props) = setAll (setIn p.1 p.2 start) props := rfl

theorem foldl_set (m : StyleMap) (props : List (String × String)) :
    props.foldl (fun out p => out.set p.1 p.2) m = ⟨setAll m.props props, m.custom⟩ := by
  induction props generalizing m with
  | nil => rfl
  | cons p rest ih => rw [List.foldl_cons, ih, setAll_cons, set]

theorem withProps_eq (m : StyleMap) (props : List (String × String)) :
    m.withProps props = ⟨setAll [] props, m.custom⟩ := foldl_set ⟨[], m.custom⟩ props

theorem mem_setAll {start props : List (String × String)} {p : String × String}
    (h : p ∈ setAll start props) : p ∈ start ∨ p ∈ props := by
  induction props generalizing start with
  | nil => exact .inl h
  | cons q rest ih =>
    rcases ih h with h | h
    · rcases mem_setIn h with rfl | h
      · exact .inr List.mem_cons_self
      · exact .inl h
    · exact .inr (List.mem_cons_of_mem q h)

theorem nodup_setAll {start : List (String × String)} (h : (start.map Prod.fst).Nodup)
    (props : List (String × String)) : ((setAll start props).map Prod.fst).Nodup := by
  induction props generalizing start with
  | nil => exact h
  | cons q rest ih => exact ih (nodup_setIn h q.1 q.2)

/-- Properties of different names are set in their order. -/
theorem setAll_of_nodup {start props : List (String × String)}
    (h : ((start ++ props).map Prod.fst).Nodup) : setAll start props = start ++ props := by
  induction props generalizing start with
  | nil => rw [List.append_nil]; rfl
  | cons q rest ih =>
    have hq : q.1 ∉ start.map Prod.fst := by
      rw [List.map_append, List.nodup_append] at h
      intro hmem
      exact h.2.2 _ hmem _ List.mem_cons_self rfl
    have happend : start ++ q :: rest = setIn q.1 q.2 start ++ rest := by
      rw [setIn_of_not_mem hq, List.append_assoc, List.singleton_append]
    rw [setAll_cons, happend]
    rw [happend] at h
    exact ih h

/-- **The last value counts.** -/
theorem lookup_setAll (start props : List (String × String)) (k : String) :
    List.lookup k (setAll start props) =
      (List.lookup k props.reverse).or (List.lookup k start) := by
  induction props generalizing start with
  | nil => rfl
  | cons q rest ih =>
    rw [setAll_cons, ih, lookup_setIn, List.reverse_cons, List.lookup_append, Option.or_assoc]
    simp only [Entries.lookup_cons, List.lookup_nil]
    split <;> simp

/-! ### Some of the properties -/

/-- Setting a property concerns only the properties of its name. -/
theorem filter_setIn (keep : String → Bool) (name value : String)
    (props : List (String × String)) : (setIn name value props).filter (fun p => keep p.1) =
      if keep name then setIn name value (props.filter fun p => keep p.1)
      else props.filter fun p => keep p.1 := by
  induction props with
  | nil => cases hname : keep name <;> simp [setIn, hname]
  | cons q rest ih =>
    rw [setIn]
    split
    case isTrue hq =>
      subst hq
      rw [List.filter_cons, List.filter_cons]
      split
      · rw [setIn, if_pos rfl]
      · rfl
    case isFalse hq =>
      rw [List.filter_cons, List.filter_cons, ih]
      split
      · split
        · rw [setIn, if_neg hq]
        · rfl
      · rfl

theorem filter_setAll (keep : String → Bool) (start props : List (String × String)) :
    (setAll start props).filter (fun p => keep p.1) =
      setAll (start.filter fun p => keep p.1) (props.filter fun p => keep p.1) := by
  induction props generalizing start with
  | nil => rfl
  | cons q rest ih =>
    rw [setAll_cons, ih, filter_setIn, List.filter_cons]
    split
    · rw [setAll_cons]
    · rfl

/-- **Of two names, the one that was set first stands first.**  Behind it stands what was set last
under the other name. -/
theorem exists_setAll_eq_cons {q : String × String} {other : String}
    {rest : List (String × String)} (h : ∀ p ∈ rest, p.1 = q.1 ∨ p.1 = other) : ∃ value,
      setAll [q] rest =
        (q.1, value) :: ((rest.filter fun p => p.1 ≠ q.1).getLast?).toList ∧
      ((rest.filter fun p => p.1 ≠ q.1) = [] → (q :: rest).getLast? = some (q.1, value)) := by
  induction rest using List.reverseRecOn with
  | nil => exact ⟨q.2, rfl, fun _ => rfl⟩
  | append_singleton rest p ih =>
    rw [List.forall_mem_append, List.forall_mem_singleton] at h
    obtain ⟨value, hset, -⟩ := ih h.1
    have hconcat : setAll [q] (rest ++ [p]) = setIn p.1 p.2 (setAll [q] rest) := by
      rw [setAll, List.foldl_append]
      rfl
    rw [hconcat, hset, List.filter_append, List.filter_singleton]
    by_cases hp : p.1 = q.1
    case pos =>
      refine ⟨p.2, ?_, fun _ => ?_⟩
      · rw [setIn, if_pos hp.symm]
        simp [hp]
      · rw [← List.cons_append, List.getLast?_concat, ← hp]
    case neg =>
      refine ⟨value, ?_, fun hnil => ?_⟩
      · have htail : setIn p.1 p.2 ((rest.filter fun p => p.1 ≠ q.1).getLast?).toList = [p] := by
          cases hlast : (rest.filter fun p => p.1 ≠ q.1).getLast? with
          | none => rfl
          | some o =>
            obtain ⟨ho, hne⟩ := List.mem_filter.mp (List.mem_of_getLast? hlast)
            have hother : o.1 = other := (h.1 o ho).resolve_left (of_decide_eq_true hne)
            rw [Option.toList_some, setIn, if_pos (hother.trans (h.2.resolve_left hp).symm)]
        rw [setIn, if_neg (Ne.symm hp), htail]
        simp [hp]
      · simp [hp] at hnil

/-- Only those properties count that give a value under the name. -/
theorem lookup_reverse_flatMap_filter {k : String} {f : String × String → List (String × String)}
    {keep : String × String → Bool} {props : List (String × String)}
    (h : ∀ p ∈ props, keep p = false → List.lookup k (f p).reverse = none) :
    List.lookup k (props.flatMap f).reverse =
      List.lookup k ((props.filter keep).flatMap f).reverse := by
  induction props with
  | nil => rfl
  | cons p props ih =>
    obtain ⟨hp, hprops⟩ := List.forall_mem_cons.mp h
    rw [List.flatMap_cons, List.reverse_append, List.lookup_append, ih hprops, List.filter_cons]
    split
    case isTrue => rw [List.flatMap_cons, List.reverse_append, List.lookup_append]
    case isFalse hkeep => rw [hp (Bool.eq_false_iff.mpr hkeep), Option.or_none]

/-! ### Style maps -/

theorem get?_eq_lookup (m : StyleMap) (k : String) : m.get? k = List.lookup k m.props := by
  unfold get?
  induction m.props with
  | nil => rfl
  | cons q rest ih =>
    rw [Entries.lookup_cons]
    split
    case isTrue hq => rw [List.find?_cons_of_pos (by simpa using hq), Option.map_some]
    case isFalse hq => rw [List.find?_cons_of_neg (by simpa using hq), ih]

theorem get?_withProps (m : StyleMap) (props : List (String × String)) (k : String) :
    (m.withProps props).get? k = List.lookup k props.reverse := by
  rw [get?_eq_lookup, withProps_eq, lookup_setAll]
  exact Option.or_none

theorem withProps_of_nodup (m : StyleMap) {props : List (String × String)}
    (h : (props.map Prod.fst).Nodup) : m.withProps props = ⟨props, m.custom⟩ := by
  rw [withProps_eq, setAll_of_nodup (by simpa using h), List.nil_append]

end PageModules.StyleMap
