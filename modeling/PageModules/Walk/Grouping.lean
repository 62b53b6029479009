import PageModules.Markup.Node

/-!
# Runs of elements

Among the children of an element some are rows or columns themselves and others stand loose between
them.  `runs` groups a list into single elements that fit and maximal runs of others;
`flatten_runs` says that nothing is lost or moved.
-/

namespace PageModules

/-- A group of neighbours. -/
inductive Run (α : Type) where
  /-- One that stands alone. -/
  | single (a : α)
  /-- Loose ones. -/
  | loose (items : List α)

namespace Run

variable {α : Type}

/-- The members of a group. -/
def members : Run α → List α
  | single a => [a]
  | loose items => items

/-- Puts a loose one in front of groups. -/
def consLoose (a : α) : List (Run α) → List (Run α)
  | loose items :: rest => loose (a :: items) :: rest
  | rest => loose [a] :: rest

/-- Groups a list: those that fit stand alone, the others in maximal runs. -/
def runs (fits : α → Bool) : List α → List (Run α)
  | [] => []
  | a :: rest => if fits a then single a :: runs fits rest else consLoose a (runs fits rest)

@[simp] theorem flatten_consLoose (a : α) (groups : List (Run α)) :
    (consLoose a groups).flatMap members = a :: groups.flatMap members := by
  cases groups with
  | nil => simp [consLoose, members]
  | cons g rest => cases g <;> simp [consLoose, members]

/-- The groups of a list hold its members in order. -/
@[simp] theorem flatten_runs (fits : α → Bool) (items : List α) :
    (runs fits items).flatMap members = items := by
  induction items with
  | nil => simp [runs]
  | cons a rest ih =>
    unfold runs
    split
    · simp [members, ih]
    · simp [ih]

theorem mem_of_mem_runs {fits : α → Bool} {items : List α} {g : Run α} (hg : g ∈ runs fits items)
    {a : α} (ha : a ∈ g.members) : a ∈ items := by
  rw [← flatten_runs fits items]
  exact List.mem_flatMap.2 ⟨g, hg, ha⟩

end Run

/-! ### Sizes -/

namespace Element

/-- The number of nodes of several elements. -/
def sizeSum : List Element → Nat
  | [] => 0
  | e :: es => e.size + sizeSum es

theorem size_le_sizeSum {e : Element} {es : List Element} (h : e ∈ es) : e.size ≤ sizeSum es := by
  induction es with
  | nil => cases h
  | cons a rest ih =>
    rcases List.mem_cons.1 h with h | h
    · subst h; exact Nat.le_add_right _ _
    · have := ih h; simp only [sizeSum]; omega

theorem sizeSum_append (es fs : List Element) : sizeSum (es ++ fs) = sizeSum es + sizeSum fs := by
  induction es with
  | nil => simp [sizeSum]
  | cons e es ih => simp only [List.cons_append, sizeSum, ih, Nat.add_assoc]

theorem sizeSum_members_le {g : Run Element} {groups : List (Run Element)} (h : g ∈ groups) :
    sizeSum g.members ≤ sizeSum (groups.flatMap Run.members) := by
  induction groups with
  | nil => cases h
  | cons a rest ih =>
    rw [List.flatMap_cons, sizeSum_append]
    rcases List.mem_cons.1 h with h | h
    · subst h; omega
    · have := ih h; omega

/-- The members of a group are not larger than those of the whole list. -/
theorem sizeSum_le_of_mem_runs {fits : Element → Bool} {es : List Element} {g : Run Element}
    (h : g ∈ Run.runs fits es) : sizeSum g.members ≤ sizeSum es := by
  have := sizeSum_members_le h
  rwa [Run.flatten_runs] at this

/-- The elements that no module is made of. -/
def skippedTags : List String := ["style", "script", "link", "meta", "noscript", "template"]

/-- The children that modules are made of. -/
def contentChildren (e : Element) : List Element :=
  e.childElements.filter fun c => !skippedTags.contains c.tagName

theorem sizeSum_filterMap_le (ns : List Node) :
    sizeSum (ns.filterMap Node.element?) ≤ Node.sizeAll ns := by
  induction ns with
  | nil => simp [sizeSum]
  | cons n rest ih =>
    cases n with
    | element tag children =>
      simp only [List.filterMap_cons, Node.element?, sizeSum, Node.sizeAll, Node.size, size]
      omega
    | _ => simp only [List.filterMap_cons, Node.element?, Node.sizeAll]; omega

theorem sizeSum_filter_le (keep : Element → Bool) (es : List Element) :
    sizeSum (es.filter keep) ≤ sizeSum es := by
  induction es with
  | nil => simp
  | cons a rest ih =>
    by_cases h : keep a
    · simp only [List.filter_cons_of_pos h, sizeSum]; omega
    · simp only [List.filter_cons_of_neg h, sizeSum]; omega

/-- The children that modules are made of are smaller together than the element. -/
theorem sizeSum_contentChildren_lt (e : Element) : sizeSum e.contentChildren < e.size := by
  have h1 := sizeSum_filter_le (fun c => !skippedTags.contains c.tagName) e.childElements
  have h2 := sizeSum_filterMap_le e.children
  simp only [contentChildren, childElements, size] at *
  omega

theorem size_lt_of_mem_contentChildren {c e : Element} (h : c ∈ e.contentChildren) :
    c.size < e.size :=
  Nat.lt_of_le_of_lt (size_le_sizeSum h) (sizeSum_contentChildren_lt e)

end Element

end PageModules
