import PageModules.Proofs.Walk.Numbering
import PageModules.Proofs.Walk.Tasks

/-!
# Identifiers along the walk

`Task.build` builds the modules of a task, and it does so as the step of the task says
(`Task.build_step`): the builders of the tasks of a call run one after the other, and a node runs
them inside of its own builder.  So the identifiers are handed from one builder of the walk to the
next.

Whatever was drawn before, a task draws an identifier for each module that it makes, those inside of
others among them, and for nothing else (`Task.draws_build`).
-/

namespace PageModules

namespace Build

/-- Runs builders one after the other. -/
def inOrder : List (Build (List PageModule)) → Build (List PageModule)
  | [] => return []
  | b :: rest => do
    let modules ← b
    let others ← inOrder rest
    return modules ++ others

theorem inOrder_append (bs cs : List (Build (List PageModule))) :
    inOrder (bs ++ cs) = do
      let modules ← inOrder bs
      let others ← inOrder cs
      return modules ++ others := by
  induction bs with
  | nil => simp [inOrder]
  | cons b rest ih =>
    rw [List.cons_append, inOrder, ih, inOrder]
    simp only [bind_assoc, pure_bind, List.append_assoc]

/-- A builder that draws an identifier for each of its modules and for nothing else. -/
def Draws (b : Build (List PageModule)) : Prop :=
  ∀ ids : Identifiers,
    (b ids).2 = ids.after (PageModule.countAll (b ids).1) ∧
      ((PageModule.preorderAll (b ids).1).map PageModule.number).Perm
        (List.range' (ids.count + 1) (PageModule.countAll (b ids).1)) ∧
      ∀ m ∈ PageModule.preorderAll (b ids).1, m.id = m.type.identifier ids.token m.number

theorem Numbers.draws {b : Build (List PageModule)} {ds : List Draft} (h : b.Numbers ds) :
    b.Draws := by
  intro ids
  rw [h ids, Draft.countAll_numberAll]
  refine ⟨rfl, Draft.perm_numberAll ids.token ids.count ds, fun m hm => ?_⟩
  obtain ⟨d, -, k, rfl⟩ := PageModule.exists_draft_of_mem_preorderAll ids.token ids.count ds m hm
  rw [Draft.type_number]
  exact Draft.id_number ids.token k d

end Build

namespace Plan

variable (base : Int)

theorem buildAll_eq_inOrder (ps : List Plan) :
    buildAll base ps = Build.inOrder (ps.map (build base)) := by
  induction ps with
  | nil => rfl
  | cons p rest ih => rw [buildAll, ih, List.map_cons, Build.inOrder]

theorem buildAll_flatMap {α : Type} (l : List α) (f : α → List Plan) :
    buildAll base (l.flatMap f) = Build.inOrder (l.map fun a => buildAll base (f a)) := by
  induction l with
  | nil => rfl
  | cons a rest ih =>
    -- The plans of `a` are built before those of the rest.
    rw [List.flatMap_cons, buildAll_eq_inOrder, List.map_append, Build.inOrder_append,
      ← buildAll_eq_inOrder, ← buildAll_eq_inOrder, ih, List.map_cons, Build.inOrder]

variable (threshold : Nat)

/-- Builds the modules of a task. -/
def Task.build (t : Task) : Build (List PageModule) := buildAll base (t.plans threshold)

/-- Builds what a step says. -/
def Step.build : Step → Build (List PageModule)
  | calls tasks => Build.inOrder (tasks.map (Task.build base threshold))
  | node _ origin tasks =>
    origin.build base (Build.inOrder (tasks.map (Task.build base threshold)))

/-- **The builders of the walk**: a task is built as its step says. -/
theorem Task.build_step (t : Task) :
    t.build base threshold = (t.step threshold).build base threshold := by
  rw [build, plans_step]
  cases t.step threshold with
  | calls tasks => exact buildAll_flatMap base tasks (Task.plans threshold)
  | node notes origin tasks =>
    rw [Step.plans, buildAll_eq_inOrder, List.map_cons, List.map_nil, Plan.build, buildAll_flatMap]
    simp only [Build.inOrder, bind_pure_comp, List.append_nil, map_pure]
    rfl

/-- **Draws along the walk**: a task draws an identifier for each module that it makes. -/
theorem Task.draws_build (t : Task) : (t.build base threshold).Draws :=
  (numbers_buildAll base (t.plans threshold)).draws

end Plan

end PageModules
