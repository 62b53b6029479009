import Mathlib.Data.List.SplitBy
import PageModules.Walk.Grouping

/-!
# Groups of neighbours

`Run.runs` groups a list into single elements that fit and runs of loose ones.  The groups are those
of `List.splitBy` for the relation "neither fits" (`map_members_runs`), so the runs are maximal; a
value that is put together group by group is the one put together element by element
(`flatMap_contents_runs`).
-/

namespace PageModules.Run

variable {α β : Type} {fits : α → Bool}

/-- Whether a group is an element that stands alone. -/
def isSingle : Run α → Bool
  | single _ => true
  | loose _ => false

/-- What a group gives: an element that stands alone by `alone`, loose ones one by one by `each`. -/
def contents (alone each : α → List β) : Run α → List β
  | single a => alone a
  | loose items => items.flatMap each

/-- Puts a value in the place of each member of a group. -/
def map (f : α → β) : Run α → Run β
  | single a => single (f a)
  | loose items => loose (items.map f)

/-! ### The groups of a list -/

theorem runs_cons_of_fits {a : α} (h : fits a = true) (items : List α) :
    runs fits (a :: items) = single a :: runs fits items := by
  rw [runs, if_pos h]

theorem runs_cons_of_not_fits {a : α} (h : ¬ fits a = true) (items : List α) :
    runs fits (a :: items) = consLoose a (runs fits items) := by
  rw [runs, if_neg h]

theorem consLoose_map (f : β → α) (b : β) (groups : List (Run β)) :
    consLoose (f b) (groups.map (map f)) = (consLoose b groups).map (map f) := by
  cases groups with
  | nil => rfl
  | cons g rest => cases g <;> rfl

/-- Values are grouped as what they are put in the place of. -/
theorem runs_map (fits : α → Bool) (f : β → α) (items : List β) :
    runs fits (items.map f) = (runs (fits ∘ f) items).map (map f) := by
  induction items with
  | nil => rfl
  | cons b rest ih =>
    rw [List.map_cons]
    by_cases h : fits (f b) = true
    · have h' : (fits ∘ f) b = true := h
      rw [runs_cons_of_fits h, runs_cons_of_fits h', ih, List.map_cons, map]
    · have h' : ¬ (fits ∘ f) b = true := h
      rw [runs_cons_of_not_fits h, runs_cons_of_not_fits h', ih, consLoose_map]

/-- Where all fit, each stands alone. -/
theorem runs_of_forall_fits {items : List α} (h : ∀ a ∈ items, fits a = true) :
    runs fits items = items.map single := by
  induction items with
  | nil => rfl
  | cons a rest ih =>
    obtain ⟨ha, hrest⟩ := List.forall_mem_cons.mp h
    rw [runs_cons_of_fits ha, ih hrest, List.map_cons]

theorem runs_eq_nil_iff {items : List α} : runs fits items = [] ↔ items = [] := by
  constructor
  · intro h
    rw [← flatten_runs fits items, h]
    rfl
  · rintro rfl
    rfl

theorem consLoose_append_single (a b : α) (groups rest : List (Run α)) :
    consLoose a (groups ++ single b :: rest) = consLoose a groups ++ single b :: rest := by
  cases groups with
  | nil => rfl
  | cons g groups => cases g <;> rfl

/-- An element that fits parts the groups in front of it from those behind it. -/
theorem runs_append_cons_of_fits {a : α} (h : fits a = true) (front back : List α) :
    runs fits (front ++ a :: back) = runs fits front ++ single a :: runs fits back := by
  induction front with
  | nil => exact runs_cons_of_fits h back
  | cons b front ih =>
    rw [List.cons_append]
    by_cases hb : fits b = true
    · rw [runs_cons_of_fits hb, runs_cons_of_fits hb, ih, List.cons_append]
    · rw [runs_cons_of_not_fits hb, runs_cons_of_not_fits hb, ih, consLoose_append_single]

/-- The first groups of a list are those of what stands at its front. -/
theorem exists_runs_eq_take (fits : α → Bool) (items : List α) (n : ℕ) :
    ∃ front, front <+: items ∧ runs fits front = (runs fits items).take n := by
  induction items generalizing n with
  | nil => exact ⟨[], List.nil_prefix, by simp [runs]⟩
  | cons a rest ih =>
    cases n with
    | zero => exact ⟨[], List.nil_prefix, rfl⟩
    | succ n =>
      by_cases h : fits a = true
      · obtain ⟨front, hfront, hruns⟩ := ih n
        refine ⟨a :: front, List.cons_prefix_cons.mpr ⟨rfl, hfront⟩, ?_⟩
        rw [runs_cons_of_fits h, runs_cons_of_fits h, hruns, List.take_succ_cons]
      · -- a loose element joins the first group behind it if that is loose, too
        have hgroups : ∃ k, consLoose a ((runs fits rest).take k) =
            (consLoose a (runs fits rest)).take (n + 1) := by
          rcases runs fits rest with _ | ⟨g, groups⟩
          · exact ⟨0, by simp [consLoose]⟩
          · cases g with
            | loose items => exact ⟨n + 1, rfl⟩
            | single b =>
              refine ⟨n, ?_⟩
              cases n <;> rfl
        obtain ⟨k, hk⟩ := hgroups
        obtain ⟨front, hfront, hruns⟩ := ih k
        refine ⟨a :: front, List.cons_prefix_cons.mpr ⟨rfl, hfront⟩, ?_⟩
        rw [runs_cons_of_not_fits h, runs_cons_of_not_fits h, hruns, hk]

/-- A property that `runs` keeps when it puts one element in front. -/
theorem forall_mem_runs {P : Run α → Prop} (alone : ∀ a, fits a = true → P (single a))
    (one : ∀ a, ¬ fits a = true → P (loose [a]))
    (more : ∀ a items, ¬ fits a = true → P (loose items) → P (loose (a :: items)))
    (items : List α) : ∀ g ∈ runs fits items, P g := by
  induction items with
  | nil => intro g hg; simp [runs] at hg
  | cons a rest ih =>
    by_cases h : fits a = true
    · rw [runs_cons_of_fits h]
      exact List.forall_mem_cons.mpr ⟨alone a h, ih⟩
    · rw [runs_cons_of_not_fits h]
      revert ih
      rcases runs fits rest with _ | ⟨g, groups⟩
      · intro _
        exact List.forall_mem_cons.mpr ⟨one a h, by simp⟩
      · intro ih
        obtain ⟨hg, hgroups⟩ := List.forall_mem_cons.mp ih
        cases g with
        | single b => exact List.forall_mem_cons.mpr ⟨one a h, ih⟩
        | loose items => exact List.forall_mem_cons.mpr ⟨more a items h hg, hgroups⟩

/-- An element that stands alone fits. -/
theorem fits_of_single_mem_runs {a : α} {items : List α} (h : single a ∈ runs fits items) :
    fits a = true := by
  have key : ∀ g ∈ runs fits items, ∀ b, g = single b → fits b = true := by
    apply forall_mem_runs
    · intro c hc b hb
      obtain rfl := Run.single.inj hb
      exact hc
    · intro c _ b hb
      cases hb
    · intro c more _ _ b hb
      cases hb
  exact key _ h a rfl

/-- A run is not empty, and none of its elements fits. -/
theorem not_fits_of_loose_mem_runs {run items : List α} (h : loose run ∈ runs fits items) :
    run ≠ [] ∧ ∀ a ∈ run, ¬ fits a = true := by
  have key : ∀ g ∈ runs fits items, ∀ run, g = loose run →
      run ≠ [] ∧ ∀ a ∈ run, ¬ fits a = true := by
    apply forall_mem_runs
    · intro c _ run hrun
      cases hrun
    · intro c hc run hrun
      obtain rfl := Run.loose.inj hrun
      exact ⟨by simp, by simpa using hc⟩
    · intro c more hc ih run hrun
      obtain rfl := Run.loose.inj hrun
      exact ⟨by simp, List.forall_mem_cons.mpr ⟨hc, (ih more rfl).2⟩⟩
  exact key _ h run rfl

theorem members_ne_nil_of_mem_runs {g : Run α} {items : List α} (h : g ∈ runs fits items) :
    g.members ≠ [] := by
  cases g with
  | single a => simp [members]
  | loose run => exact (not_fits_of_loose_mem_runs h).1

/-- Of two neighbouring groups at least one stands alone. -/
theorem isChain_runs (items : List α) :
    (runs fits items).IsChain fun g g' => g.isSingle ∨ g'.isSingle := by
  induction items with
  | nil => exact List.isChain_nil
  | cons a rest ih =>
    by_cases h : fits a = true
    · rw [runs_cons_of_fits h]
      exact List.isChain_cons.mpr ⟨fun _ _ => Or.inl rfl, ih⟩
    · rw [runs_cons_of_not_fits h]
      revert ih
      rcases runs fits rest with _ | ⟨g, groups⟩
      · intro _
        exact List.isChain_singleton _
      · intro ih
        cases g with
        | single b => exact List.isChain_cons.mpr ⟨by simp [isSingle], ih⟩
        | loose items =>
          -- The element joins the run behind it, so the border to the next group stays.
          obtain ⟨hhead, htail⟩ := List.isChain_cons.mp ih
          exact List.isChain_cons.mpr ⟨hhead, htail⟩

/-- The groups are the longest pieces without a border next to an element that fits. -/
theorem map_members_runs (items : List α) :
    (runs fits items).map members = items.splitBy fun a b => !fits a && !fits b := by
  symm
  rw [List.splitBy_eq_iff]
  refine ⟨?_, ?_, ?_, ?_⟩
  · rw [← List.flatMap_def, flatten_runs]
  -- No piece is empty.
  · intro hmem
    obtain ⟨g, hg, hnil⟩ := List.mem_map.mp hmem
    exact members_ne_nil_of_mem_runs hg hnil
  -- Inside of a piece no element fits, unless it is alone there.
  · intro piece hpiece
    obtain ⟨g, hg, rfl⟩ := List.mem_map.mp hpiece
    cases g with
    | single a => exact List.isChain_singleton a
    | loose run =>
      have hrun := (not_fits_of_loose_mem_runs hg).2
      apply List.Pairwise.isChain
      refine List.pairwise_of_forall_mem_list fun a ha b hb => ?_
      simp [hrun a ha, hrun b hb]
  -- At a border one of the two groups is an element that fits.
  · rw [List.isChain_map]
    refine (isChain_runs items).imp_of_mem_imp fun g g' hg hg' hsingle => ?_
    refine ⟨members_ne_nil_of_mem_runs hg, members_ne_nil_of_mem_runs hg', ?_⟩
    rw [Bool.and_eq_false_iff, Bool.not_eq_false', Bool.not_eq_false']
    rcases hsingle with h | h
    · cases g with
      | single a => exact Or.inl (fits_of_single_mem_runs hg)
      | loose run => simp [isSingle] at h
    · cases g' with
      | single a => exact Or.inr (fits_of_single_mem_runs hg')
      | loose run => simp [isSingle] at h

/-! ### Values put together from groups -/

theorem flatMap_contents_consLoose (alone each : α → List β) (a : α) (groups : List (Run α)) :
    (consLoose a groups).flatMap (contents alone each)
      = each a ++ groups.flatMap (contents alone each) := by
  cases groups with
  | nil => simp [consLoose, contents]
  | cons g rest => cases g <;> simp [consLoose, contents]

/-- Grouping neither loses nor moves anything: each element counts alone or as a loose one. -/
theorem flatMap_contents_runs (alone each : α → List β) (items : List α) :
    (runs fits items).flatMap (contents alone each)
      = items.flatMap fun a => if fits a then alone a else each a := by
  induction items with
  | nil => rfl
  | cons a rest ih =>
    by_cases h : fits a = true
    · rw [runs_cons_of_fits h, List.flatMap_cons, List.flatMap_cons, if_pos h, ih]
      rfl
    · rw [runs_cons_of_not_fits h, flatMap_contents_consLoose, List.flatMap_cons, if_neg h, ih]

end PageModules.Run
