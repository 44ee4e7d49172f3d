import Dasall.Tools.Execution.WorkflowEngine

/-!
# The batches of a plan

The three kinds of dependencies are one relation between steps. A plan that is accepted has its
steps in batches, each once, and each after those it depends on.
-/

open Dasall.Contracts Dasall.Contracts.Tool Dasall.Infra.Policy Dasall.Lib Dasall.Lib.Text

namespace Dasall.Tools.Execution

/-- `target` depends on `source`: by its own list, by an edge, or by a binding of its arguments. -/
def DependsOn (plan : WorkflowPlan) (target source : Bytes) : Prop :=
  (∃ step ∈ plan.steps, step.stepId = target ∧ source ∈ step.dependsOn) ∨
    (∃ edge ∈ plan.edges, edge.toStepId = target ∧ edge.fromStepId = source) ∨
    ∃ binding ∈ plan.stepOutputMapping,
      binding.targetStepId = target ∧ binding.sourceStepId = source

def stepIds (plan : WorkflowPlan) : List Bytes := plan.steps.map (·.stepId)

/-! ## Reading the graph -/

variable {first : Dependencies} (workflowId : Bytes) (plan : WorkflowPlan) (stepOrder : List Bytes)
  {second : Dependencies} (dependencies more : Dependencies)

theorem readStepOrder_spec (steps : List WorkflowStep)
    (order : List Bytes) (h : readStepOrder stepOrder steps = some order) :
    order = stepOrder ++ steps.map (·.stepId) ∧ (stepOrder.Nodup → order.Nodup) := by
  induction steps generalizing stepOrder with
  | nil =>
    obtain rfl : stepOrder = order := by simpa [readStepOrder] using h
    simp
  | cons step steps ih =>
    unfold readStepOrder at h
    split at h
    · simp at h
    · next hnew =>
      obtain ⟨rfl, hnodup⟩ := ih _ h
      refine ⟨by simp, ?_⟩
      intro hbefore
      apply hnodup
      rw [Bool.or_eq_true, not_or, List.contains_iff_mem] at hnew
      rw [List.nodup_append]
      refine ⟨hbefore, by simp, ?_⟩
      intro first hfirst second hsecond
      rw [List.mem_singleton] at hsecond
      rintro rfl
      exact hnew.2 (hsecond ▸ hfirst)

/-- The sources of every target, after some have been added. -/
structure Reads (dependencies more : Dependencies) (added : Bytes → Bytes → Prop) : Prop where
  mem : ∀ target source, source ∈ more target ↔ source ∈ dependencies target ∨ added target source
  nodup : (∀ target, (dependencies target).Nodup) → ∀ target, (more target).Nodup

theorem Reads.refl :
    Reads dependencies dependencies fun _ _ => False :=
  ⟨by simp, fun h => h⟩

theorem Reads.trans {third : Dependencies} {added added' : Bytes → Bytes → Prop}
    (h : Reads first second added) (h' : Reads second third added') :
    Reads first third fun target source => added target source ∨ added' target source := by
  constructor
  · intro target source
    rw [h'.mem, h.mem, or_assoc]
  · intro hnodup
    exact h'.nodup (h.nodup hnodup)

theorem Reads.congr {added added' : Bytes → Bytes → Prop}
    (h : Reads first second added)
    (hsame : ∀ target source, added target source ↔ added' target source) :
    Reads first second added' := by
  constructor
  · intro target source
    rw [h.mem, hsame]
  · exact h.nodup

theorem reads_addDependency (target source : Bytes) :
    Reads dependencies (addDependency dependencies target source) fun target' source' =>
      target = target' ∧ source = source' := by
  unfold addDependency
  constructor
  · intro target' source'
    by_cases htarget : target' = target
    · subst htarget
      simp [eq_comm, or_comm]
    · have hother : target ≠ target' := fun h => htarget h.symm
      simp [htarget, hother]
  · intro hnodup target'
    by_cases htarget : target' = target
    · subst htarget
      simpa using (hnodup target').insert
    · simpa [htarget] using hnodup target'

theorem reads_readDependsOn (step : WorkflowStep)
    (dependencies more : Dependencies) (dependsOn : List Bytes)
    (h : readDependsOn stepOrder step dependencies dependsOn = .ok more) :
    Reads dependencies more fun target source => step.stepId = target ∧ source ∈ dependsOn := by
  induction dependsOn generalizing dependencies with
  | nil =>
    obtain rfl : dependencies = more := by simpa [readDependsOn] using h
    exact (Reads.refl dependencies).congr (by simp)
  | cons dependency rest ih =>
    unfold readDependsOn at h
    split at h
    · simp at h
    · apply ((reads_addDependency dependencies step.stepId dependency).trans (ih _ h)).congr
      intro target source
      rw [List.mem_cons, ← and_or_left, eq_comm (a := dependency)]

theorem reads_readSteps
    (steps : List WorkflowStep) (h : readSteps stepOrder dependencies steps = .ok more) :
    Reads dependencies more fun target source =>
      ∃ step ∈ steps, step.stepId = target ∧ source ∈ step.dependsOn := by
  induction steps generalizing dependencies with
  | nil =>
    obtain rfl : dependencies = more := by simpa [readSteps, pure, Except.pure] using h
    exact (Reads.refl dependencies).congr (by simp)
  | cons step steps ih =>
    unfold readSteps at h
    rcases hstep : readDependsOn stepOrder step dependencies step.dependsOn with rejected | next
    · simp [hstep, bind, Except.bind] at h
    · rw [hstep] at h
      apply ((reads_readDependsOn stepOrder step dependencies next step.dependsOn hstep).trans
        (ih next h)).congr
      simp

theorem reads_readEdges (edges : List WorkflowEdge)
    (h : readEdges workflowId stepOrder dependencies edges = .ok more) :
    Reads dependencies more fun target source =>
      ∃ edge ∈ edges, edge.toStepId = target ∧ edge.fromStepId = source := by
  induction edges generalizing dependencies with
  | nil =>
    obtain rfl : dependencies = more := by simpa [readEdges] using h
    exact (Reads.refl dependencies).congr (by simp)
  | cons edge edges ih =>
    unfold readEdges at h
    split at h
    · simp at h
    · apply ((reads_addDependency dependencies edge.toStepId edge.fromStepId).trans
        (ih _ h)).congr
      simp

theorem reads_readBindings (bindings : List WorkflowStepOutputBinding)
    (h : readBindings workflowId stepOrder dependencies bindings = .ok more) :
    Reads dependencies more fun target source =>
      ∃ binding ∈ bindings, binding.targetStepId = target ∧ binding.sourceStepId = source := by
  induction bindings generalizing dependencies with
  | nil =>
    obtain rfl : dependencies = more := by simpa [readBindings] using h
    exact (Reads.refl dependencies).congr (by simp)
  | cons binding bindings ih =>
    unfold readBindings at h
    split at h
    · simp at h
    · apply ((reads_addDependency dependencies binding.targetStepId binding.sourceStepId).trans
        (ih _ h)).congr
      simp

theorem reads_readDependencies (h : readDependencies plan stepOrder = .ok dependencies) :
    (∀ target source, source ∈ dependencies target ↔ DependsOn plan target source) ∧
      ∀ target, (dependencies target).Nodup := by
  unfold readDependencies at h
  rcases hsteps : readSteps stepOrder (fun _ => []) plan.steps with rejected | first
  · simp [hsteps, bind, Except.bind] at h
  rcases hedges : readEdges plan.workflowId stepOrder first plan.edges with rejected | second
  · simp [hsteps, hedges, bind, Except.bind] at h
  have hbindings : readBindings plan.workflowId stepOrder second plan.stepOutputMapping =
      .ok dependencies := by
    simpa [hsteps, hedges, bind, Except.bind] using h
  have hreads := (reads_readSteps stepOrder _ first plan.steps hsteps).trans
    ((reads_readEdges plan.workflowId stepOrder first second plan.edges hedges).trans
      (reads_readBindings plan.workflowId stepOrder second dependencies plan.stepOutputMapping
        hbindings))
  refine ⟨?_, hreads.nodup (by simp)⟩
  intro target source
  rw [hreads.mem]
  simp [DependsOn]

/-! ## Laying the batches -/

theorem arrange_perm (stepIds : List Bytes) : (arrange stepOrder stepIds).Perm stepIds :=
  List.perm_insertionSort _ _

theorem graph_adjacency
    (hnodup : stepOrder.Nodup) (hdependencies : ∀ target, (dependencies target).Nodup) :
    Layers.Graph stepOrder dependencies (adjacency stepOrder dependencies) where
  nodup := hnodup
  deps_nodup stepId _ := hdependencies stepId
  mem_dependents source stepId := by simp [adjacency]
  dependents_nodup source := hnodup.filter _

/-- The fuel is enough, and the batches have every step they hold once and in order. -/
theorem layBatches_spec
    (hnodup : stepOrder.Nodup) (hdependencies : ∀ target, (dependencies target).Nodup)
    (zeroIndegree : List Bytes)
    (hzero : zeroIndegree.Perm
      (stepOrder.filter fun stepId => (dependencies stepId).length = 0)) :
    ∃ layers, Layers.layersFrom (adjacency stepOrder dependencies) (arrange stepOrder)
        (stepOrder.length + 1) (fun stepId => (dependencies stepId).length) zeroIndegree = some layers ∧
      layBatches stepOrder dependencies zeroIndegree = layers ∧ layers.flatten.Nodup ∧
      (∀ stepId ∈ layers.flatten, stepId ∈ stepOrder) ∧
      Layers.Respects dependencies [] layers.flatten := by
  have hgraph := graph_adjacency stepOrder dependencies hnodup hdependencies
  have hstart := Layers.invariant_start hgraph (fun stepId => (dependencies stepId).length)
    zeroIndegree (fun _ _ => rfl) hzero
  obtain ⟨layers, hlayers, hlayersNodup, hsub, hrespects⟩ := Layers.layersFrom_spec hgraph
    (arrange stepOrder) (arrange_perm stepOrder) (stepOrder.length + 1) [] _ zeroIndegree hstart
    (by simp)
  refine ⟨layers, hlayers, ?_, hlayersNodup, hsub, hrespects⟩
  rw [layBatches, hlayers, Option.getD_some]

theorem buildBatches_ok (hok : (buildBatches plan).ok = true) :
    ∃ stepOrder dependencies, readStepOrder [] plan.steps = some stepOrder ∧
      readDependencies plan stepOrder = .ok dependencies ∧
      buildBatches plan = finishBatches plan stepOrder dependencies := by
  unfold buildBatches at hok ⊢
  split at hok
  · simp [invalidPlan] at hok
  split at hok
  · simp [invalidPlan] at hok
  split at hok
  · simp [invalidPlan] at hok
  next hid hsteps _ stepOrder horder =>
  split at hok
  · simp [invalidPlan] at hok
  next hentry =>
  split at hok
  · simp [invalidPlan] at hok
  next dependencies hdependencies =>
  refine ⟨stepOrder, dependencies, horder, hdependencies, ?_⟩
  simp only [hid, hsteps]
  rfl

theorem finishBatches_ok (hok : (finishBatches plan stepOrder dependencies).ok = true) :
    ∃ zeroIndegree, zeroIndegree.Perm
        (stepOrder.filter fun stepId => (dependencies stepId).length = 0) ∧
      (finishBatches plan stepOrder dependencies).batches =
        layBatches stepOrder dependencies zeroIndegree ∧
      (layBatches stepOrder dependencies zeroIndegree).flatten.length = plan.steps.length := by
  unfold finishBatches at hok ⊢
  simp only at hok ⊢
  split at hok
  · simp [invalidPlan] at hok
  next hentry =>
  split at hok
  · simp [invalidPlan] at hok
  next hlength =>
  rw [not_not] at hlength
  refine ⟨_, arrange_perm stepOrder _, ?_, hlength⟩
  rw [if_neg (not_not.mpr hlength)]

theorem buildBatches_spec (hok : (buildBatches plan).ok = true) :
    (stepIds plan).Nodup ∧ (buildBatches plan).batches.flatten.Perm (stepIds plan) ∧
      ∀ before stepId after, (buildBatches plan).batches.flatten = before ++ stepId :: after →
        ∀ source, DependsOn plan stepId source → source ∈ before := by
  obtain ⟨stepOrder, dependencies, horder, hdependencies, hfinish⟩ := buildBatches_ok plan hok
  rw [hfinish] at hok ⊢
  obtain ⟨hsame, hnodup⟩ := readStepOrder_spec [] plan.steps stepOrder horder
  obtain rfl : stepOrder = stepIds plan := hsame
  have hids := hnodup List.nodup_nil
  obtain ⟨hmem, hdependenciesNodup⟩ := reads_readDependencies plan (stepIds plan) dependencies hdependencies
  obtain ⟨zeroIndegree, hzero, hbatches, hlength⟩ := finishBatches_ok plan (stepIds plan) dependencies hok
  obtain ⟨layers, -, hlayers, hlayersNodup, hsub, hrespects⟩ :=
    layBatches_spec (stepIds plan) dependencies hids hdependenciesNodup zeroIndegree hzero
  rw [hlayers] at hbatches hlength
  rw [hbatches]
  refine ⟨hids, ?_, ?_⟩
  · apply Layers.perm_of_length layers.flatten hlayersNodup hsub
    rw [hlength, stepIds, List.length_map]
  · intro before stepId after hsplit source hsource
    have := hrespects before stepId after hsplit source ((hmem stepId source).mpr hsource)
    simpa using this

end Dasall.Tools.Execution
