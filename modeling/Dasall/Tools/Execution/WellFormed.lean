import Dasall.Tools.Execution.Batches

/-!
# Which plans are accepted

A plan is laid in batches exactly when its ids and its references are right, its steps do not wait
for each other in a circle, and those that wait for none are entries. A step then stands in the
batch behind the last of those that it waits for.
-/

open Dasall.Contracts Dasall.Contracts.Tool Dasall.Infra.Policy Dasall.Lib Dasall.Lib.Text

namespace Dasall.Tools.Execution

/-- `source` has to be done before `target`. -/
def Precedes (plan : WorkflowPlan) (source target : Bytes) : Prop := DependsOn plan target source

structure WellFormed (plan : WorkflowPlan) : Prop where
  workflowId : plan.workflowId ≠ []
  steps : plan.steps ≠ []
  entries : plan.entryStepIds ≠ []
  idsPresent : ∀ step ∈ plan.steps, step.stepId ≠ []
  idsDistinct : (stepIds plan).Nodup
  entriesKnown : ∀ entryStepId ∈ plan.entryStepIds, entryStepId ∈ stepIds plan
  dependenciesKnown : ∀ step ∈ plan.steps, ∀ dependency ∈ step.dependsOn, dependency ∈ stepIds plan
  edgesKnown : ∀ edge ∈ plan.edges,
    edge.fromStepId ∈ stepIds plan ∧ edge.toStepId ∈ stepIds plan
  bindingsKnown : ∀ binding ∈ plan.stepOutputMapping,
    binding.sourceStepId ∈ stepIds plan ∧ binding.targetStepId ∈ stepIds plan
  bindingsPresent : ∀ binding ∈ plan.stepOutputMapping,
    binding.sourceJsonPointer ≠ [] ∧ binding.targetArgumentKey ≠ []
  acyclic : ∀ stepId, ¬Relation.TransGen (Precedes plan) stepId stepId
  entry : ∀ stepId ∈ stepIds plan, (∀ source, ¬DependsOn plan stepId source) →
    stepId ∈ plan.entryStepIds

def batchOf (batches : List (List Bytes)) (stepId : Bytes) : Nat := Layers.layerOf batches stepId

/-- Every step is in one batch, which is the one behind the last batch of its dependencies. -/
structure Batched (plan : WorkflowPlan) (batches : List (List Bytes)) : Prop where
  nonempty : ∀ batch ∈ batches, batch ≠ []
  partition : batches.flatten.Perm (stepIds plan)
  after : ∀ stepId ∈ stepIds plan, ∀ source, DependsOn plan stepId source →
    batchOf batches source < batchOf batches stepId
  earliest : ∀ stepId ∈ stepIds plan, batchOf batches stepId ≠ 0 →
    ∃ source, DependsOn plan stepId source ∧ batchOf batches stepId = batchOf batches source + 1

/-- The loop over the ready steps stops before its fuel is used up. -/
def LoopEnds (plan : WorkflowPlan) : Prop :=
  ∀ stepOrder dependencies, readStepOrder [] plan.steps = some stepOrder →
    readDependencies plan stepOrder = .ok dependencies →
    (Layers.layersFrom (adjacency stepOrder dependencies) (arrange stepOrder)
      (stepOrder.length + 1) (fun stepId => (dependencies stepId).length)
      (arrange stepOrder (stepOrder.filter fun stepId => (dependencies stepId).length = 0))).isSome

/-! ## What the readers accept -/

variable {plan : WorkflowPlan} {stepOrder : List Bytes} {dependencies : Dependencies}

theorem readStepOrder_eq_some_iff {steps : List WorkflowStep} {order : List Bytes}
    (hbefore : stepOrder.Nodup) :
    readStepOrder stepOrder steps = some order ↔
      order = stepOrder ++ steps.map (·.stepId) ∧ (∀ step ∈ steps, step.stepId ≠ []) ∧
        (stepOrder ++ steps.map (·.stepId)).Nodup := by
  induction steps generalizing stepOrder with
  | nil => simp [readStepOrder, hbefore, eq_comm]
  | cons step steps ih =>
    unfold readStepOrder
    have hassoc : stepOrder ++ (step :: steps).map (·.stepId) =
        stepOrder ++ [step.stepId] ++ steps.map (·.stepId) := by simp
    rw [hassoc]
    split
    · next hbad =>
      simp only [reduceCtorEq, false_iff]
      rintro ⟨-, hpresent, hnodup⟩
      rw [Bool.or_eq_true, List.isEmpty_iff, List.contains_iff_mem] at hbad
      have hfresh := (List.nodup_append.mp (List.nodup_append.mp hnodup).1).2.2
      rcases hbad with hempty | hold
      · exact hpresent step (by simp) hempty
      · exact hfresh _ hold _ (by simp) rfl
    · next hgood =>
      rw [Bool.or_eq_true, not_or, List.isEmpty_iff, List.contains_iff_mem] at hgood
      rw [ih]
      · simp [hgood.1]
      · rw [List.nodup_append]
        refine ⟨hbefore, by simp, ?_⟩
        rintro first hfirst second hsecond rfl
        rw [List.mem_singleton] at hsecond
        exact hgood.2 (hsecond ▸ hfirst)

/-- A check that stops at the first element it refuses. -/
theorem checked_ok_iff {ε β : Type} {bad : Prop} [Decidable bad] {error : ε}
    {next : Except ε β} :
    (∃ more, (if bad then .error error else next) = .ok more) ↔ ¬bad ∧ ∃ more, next = .ok more := by
  split
  · next hbad => simp [hbad]
  · next hgood => simp [hgood]

theorem readDependsOn_ok_iff {step : WorkflowStep} {dependsOn : List Bytes} :
    (∃ more, readDependsOn stepOrder step dependencies dependsOn = .ok more) ↔
      ∀ dependency ∈ dependsOn, dependency ∈ stepOrder ∧ dependency ≠ step.stepId := by
  induction dependsOn generalizing dependencies with
  | nil => simp [readDependsOn]
  | cons dependency rest ih =>
    unfold readDependsOn
    rw [List.forall_mem_cons]
    rw [checked_ok_iff, ih]
    simp

theorem readSteps_ok_iff {steps : List WorkflowStep} :
    (∃ more, readSteps stepOrder dependencies steps = .ok more) ↔
      ∀ step ∈ steps, ∀ dependency ∈ step.dependsOn,
        dependency ∈ stepOrder ∧ dependency ≠ step.stepId := by
  induction steps generalizing dependencies with
  | nil => exact iff_of_true ⟨dependencies, rfl⟩ (by simp)
  | cons step steps ih =>
    unfold readSteps
    rw [List.forall_mem_cons, ← @readDependsOn_ok_iff stepOrder dependencies]
    rcases hstep : readDependsOn stepOrder step dependencies step.dependsOn with rejected | next
    · simp [bind, Except.bind]
    · simpa [bind, Except.bind] using ih

theorem readEdges_ok_iff {workflowId : Bytes} {edges : List WorkflowEdge} :
    (∃ more, readEdges workflowId stepOrder dependencies edges = .ok more) ↔
      ∀ edge ∈ edges, edge.fromStepId ∈ stepOrder ∧ edge.toStepId ∈ stepOrder ∧
        edge.fromStepId ≠ edge.toStepId := by
  induction edges generalizing dependencies with
  | nil => simp [readEdges]
  | cons edge edges ih =>
    unfold readEdges
    rw [List.forall_mem_cons]
    rw [checked_ok_iff, ih]
    simp [and_assoc]

theorem readBindings_ok_iff {workflowId : Bytes} {bindings : List WorkflowStepOutputBinding} :
    (∃ more, readBindings workflowId stepOrder dependencies bindings = .ok more) ↔
      ∀ binding ∈ bindings, (binding.sourceStepId ∈ stepOrder ∧ binding.targetStepId ∈ stepOrder) ∧
        binding.sourceJsonPointer ≠ [] ∧ binding.targetArgumentKey ≠ [] := by
  induction bindings generalizing dependencies with
  | nil => simp [readBindings]
  | cons binding bindings ih =>
    unfold readBindings
    rw [List.forall_mem_cons]
    rw [checked_ok_iff, ih]
    simp [and_assoc]

/-- The references of a plan are read when they are known and no step waits for itself. -/
theorem readDependencies_ok_iff :
    (∃ dependencies, readDependencies plan stepOrder = .ok dependencies) ↔
      (∀ step ∈ plan.steps, ∀ dependency ∈ step.dependsOn,
        dependency ∈ stepOrder ∧ dependency ≠ step.stepId) ∧
      (∀ edge ∈ plan.edges, edge.fromStepId ∈ stepOrder ∧ edge.toStepId ∈ stepOrder ∧
        edge.fromStepId ≠ edge.toStepId) ∧
      ∀ binding ∈ plan.stepOutputMapping,
        (binding.sourceStepId ∈ stepOrder ∧ binding.targetStepId ∈ stepOrder) ∧
        binding.sourceJsonPointer ≠ [] ∧ binding.targetArgumentKey ≠ [] := by
  unfold readDependencies
  rw [← @readSteps_ok_iff stepOrder fun _ => []]
  rcases readSteps stepOrder (fun _ => []) plan.steps with rejected | first
  · simp [bind, Except.bind]
  rw [← @readEdges_ok_iff stepOrder first plan.workflowId]
  rcases hedges : readEdges plan.workflowId stepOrder first plan.edges with rejected | second
  · simp [bind, Except.bind, hedges]
  rw [← @readBindings_ok_iff stepOrder second plan.workflowId]
  simp [bind, Except.bind, hedges]

/-! ## The batches -/

theorem layBatches_layered (hnodup : stepOrder.Nodup)
    (hdependencies : ∀ target, (dependencies target).Nodup) (zeroIndegree : List Bytes)
    (hzero : zeroIndegree.Perm
      (stepOrder.filter fun stepId => (dependencies stepId).length = 0)) :
    ∃ layers indegree, Layers.layersFrom (adjacency stepOrder dependencies) (arrange stepOrder)
        (stepOrder.length + 1) (fun stepId => (dependencies stepId).length) zeroIndegree =
          some layers ∧
      layBatches stepOrder dependencies zeroIndegree = layers ∧
      Layers.Invariant stepOrder dependencies layers.flatten indegree [] ∧
      Layers.Layered dependencies layers ∧ Layers.Respects dependencies [] layers.flatten := by
  have hgraph := graph_adjacency stepOrder dependencies hnodup hdependencies
  have hstart := Layers.invariant_start hgraph (fun stepId => (dependencies stepId).length)
    zeroIndegree (fun _ _ => rfl) hzero
  have hplaced : ∀ node ∈ zeroIndegree, Layers.Placed dependencies [] node := by
    intro node hnode
    have hfree := ((hstart.free node).mp hnode).2
    rw [Layers.waiting_eq_zero] at hfree
    exact ⟨by simpa using hfree, by simp⟩
  obtain ⟨layers, indegree, hlayers, hdone, hlayered⟩ := Layers.layersFrom_finishes hgraph
    (arrange stepOrder) (arrange_perm stepOrder) (stepOrder.length + 1) [] _ zeroIndegree
    (by simpa using hstart) (by intro before layer after h; simp at h) hplaced (by simp)
  obtain ⟨layers', hsame, hlaid, -, -, hrespects⟩ :=
    layBatches_spec stepOrder dependencies hnodup hdependencies zeroIndegree hzero
  obtain rfl : layers = layers' := by
    rw [hlayers] at hsame
    exact Option.some.inj hsame
  exact ⟨layers, indegree, hlayers, hlaid, by simpa using hdone, by simpa using hlayered, hrespects⟩

theorem loopEnds : LoopEnds plan := by
  intro stepOrder dependencies horder hdependencies
  have hnodup := (readStepOrder_spec [] plan.steps stepOrder horder).2 List.nodup_nil
  obtain ⟨-, hdependenciesNodup⟩ := reads_readDependencies plan stepOrder dependencies hdependencies
  obtain ⟨layers, -, hlayers, -⟩ :=
    layBatches_layered hnodup hdependenciesNodup _ (arrange_perm stepOrder _)
  rw [hlayers]
  rfl

/-- What is known of a plan whose references have been read. -/
structure ReadPlan (plan : WorkflowPlan) (dependencies : Dependencies) : Prop where
  idsDistinct : (stepIds plan).Nodup
  mem : ∀ target source, source ∈ dependencies target ↔ DependsOn plan target source
  nodup : ∀ target, (dependencies target).Nodup
  known : ∀ target source, DependsOn plan target source →
    target ∈ stepIds plan ∧ source ∈ stepIds plan

theorem ReadPlan.acyclic_iff (h : ReadPlan plan dependencies) :
    Layers.Acyclic (stepIds plan) dependencies ↔
      ∀ stepId, ¬Relation.TransGen (Precedes plan) stepId stepId := by
  have hsame : (fun source node => source ∈ dependencies node) = Precedes plan := by
    funext source node
    exact propext (h.mem node source)
  unfold Layers.Acyclic
  rw [hsame]
  constructor
  · intro hacyclic stepId hcycle
    obtain ⟨source, -, hlast⟩ := Relation.TransGen.tail'_iff.mp hcycle
    exact hacyclic stepId (h.known stepId source hlast).1 hcycle
  · intro hacyclic stepId _
    exact hacyclic stepId

theorem ReadPlan.finishBatches_spec (h : ReadPlan plan dependencies) :
    ((finishBatches plan (stepIds plan) dependencies).ok = true ↔
      (∀ stepId ∈ stepIds plan, (∀ source, ¬DependsOn plan stepId source) →
        stepId ∈ plan.entryStepIds) ∧
      ∀ stepId, ¬Relation.TransGen (Precedes plan) stepId stepId) ∧
    ((finishBatches plan (stepIds plan) dependencies).ok = true →
      Batched plan (finishBatches plan (stepIds plan) dependencies).batches) := by
  let zeroIndegree := arrange (stepIds plan)
    ((stepIds plan).filter fun stepId => (dependencies stepId).length = 0)
  have hzero : ∀ stepId, stepId ∈ zeroIndegree ↔
      stepId ∈ stepIds plan ∧ ∀ source, ¬DependsOn plan stepId source := by
    intro stepId
    simp [zeroIndegree, (arrange_perm (stepIds plan) _).mem_iff, List.eq_nil_iff_forall_not_mem,
      h.mem]
  obtain ⟨layers, indegree, hlayers, hlaid, hdone, hlayered, hrespects⟩ :=
    layBatches_layered h.idsDistinct h.nodup zeroIndegree (arrange_perm (stepIds plan) _)
  have hfind : (zeroIndegree.find? fun stepId => !plan.entryStepIds.contains stepId) = none ↔
      ∀ stepId ∈ stepIds plan, (∀ source, ¬DependsOn plan stepId source) →
        stepId ∈ plan.entryStepIds := by
    simp [hzero]
  have hcount : (stepIds plan).length = plan.steps.length := List.length_map ..
  have hlength : layers.flatten.length = plan.steps.length ↔
      ∀ stepId, ¬Relation.TransGen (Precedes plan) stepId stepId := by
    rw [← h.acyclic_iff, ← hcount]
    apply Layers.length_eq_iff_acyclic hdone h.idsDistinct hrespects
    intro node _ source hsource
    exact (h.known node source ((h.mem node source).mp hsource)).2
  have hfinish : zeroIndegree.find? (fun stepId => !plan.entryStepIds.contains stepId) = none →
      finishBatches plan (stepIds plan) dependencies =
        if layers.flatten.length ≠ plan.steps.length then
          invalidPlan (str "workflow.cyclic_graph") plan.workflowId
            [str "workflow:" ++ plan.workflowId, str "workflow.cyclic_graph"]
        else { ok := true, batches := layers } := by
    intro hentry
    rw [← hlaid]
    simp only [zeroIndegree] at hentry
    unfold finishBatches
    simp only [hentry]
    rfl
  have hrefused : ∀ entry,
      zeroIndegree.find? (fun stepId => !plan.entryStepIds.contains stepId) = some entry →
        finishBatches plan (stepIds plan) dependencies = invalidPlan
          (str "workflow.entry_step_incomplete") plan.workflowId [str "entry:" ++ entry] := by
    intro entry hentry
    simp only [zeroIndegree] at hentry
    unfold finishBatches
    simp only [hentry]
  rw [← hfind, ← hlength]
  rcases hentry : zeroIndegree.find? fun stepId => !plan.entryStepIds.contains stepId with
    - | stepId
  · rw [hfinish hentry]
    by_cases hall : layers.flatten.length = plan.steps.length
    · refine ⟨by simp [hall], fun _ => ?_⟩
      simp only [hall, ne_eq, not_true_eq_false, if_false]
      have hnodup := hdone.nodup
      rw [List.append_nil] at hnodup
      have hperm : layers.flatten.Perm (stepIds plan) := by
        apply Layers.perm_of_length layers.flatten hnodup _ (by rw [hall, hcount])
        intro node hnode
        exact ((hdone.free node).mp (List.mem_append_left _ hnode)).1
      refine ⟨Layers.layersFrom_nonempty hlayers, hperm, ?_, ?_⟩
      · intro stepId hstepId source hsource
        exact (Layers.layerOf_spec hlayered hnodup (hperm.mem_iff.mpr hstepId)).1 source
          ((h.mem stepId source).mpr hsource)
      · intro stepId hstepId hlate
        obtain ⟨source, hsource, hindex⟩ :=
          (Layers.layerOf_spec hlayered hnodup (hperm.mem_iff.mpr hstepId)).2 hlate
        exact ⟨source, (h.mem stepId source).mp hsource, hindex⟩
    · simp only [ne_eq, hall, not_false_eq_true, if_true]
      simp [invalidPlan]
  · rw [hrefused stepId hentry]
    simp [invalidPlan]

/-! ## The plans that are accepted -/

theorem readPlan (horder : readStepOrder [] plan.steps = some stepOrder)
    (hdependencies : readDependencies plan stepOrder = .ok dependencies) :
    stepOrder = stepIds plan ∧ ReadPlan plan dependencies := by
  obtain ⟨rfl, -, hdistinct⟩ := (readStepOrder_eq_some_iff List.nodup_nil).mp horder
  rw [List.nil_append] at hdistinct hdependencies
  obtain ⟨hmem, hnodup⟩ := reads_readDependencies plan _ dependencies hdependencies
  obtain ⟨hsteps, hedges, hbindings⟩ := readDependencies_ok_iff.mp ⟨dependencies, hdependencies⟩
  refine ⟨rfl, hdistinct, hmem, hnodup, ?_⟩
  rintro target source (⟨step, hstep, rfl, hsource⟩ | ⟨edge, hedge, rfl, rfl⟩ |
    ⟨binding, hbinding, rfl, rfl⟩)
  · exact ⟨List.mem_map_of_mem hstep, (hsteps step hstep source hsource).1⟩
  · exact ⟨(hedges edge hedge).2.1, (hedges edge hedge).1⟩
  · exact (hbindings binding hbinding).1.symm

/-- The checks before the batches are laid. -/
theorem buildBatches_ok_iff :
    (buildBatches plan).ok = true ↔
      (plan.workflowId ≠ [] ∧ plan.steps ≠ [] ∧ plan.entryStepIds ≠ []) ∧
      ∃ stepOrder, readStepOrder [] plan.steps = some stepOrder ∧
        (∀ entryStepId ∈ plan.entryStepIds, entryStepId ∈ stepOrder) ∧
        ∃ dependencies, readDependencies plan stepOrder = .ok dependencies ∧
          (finishBatches plan stepOrder dependencies).ok = true := by
  unfold buildBatches
  split
  · next hid => simp [invalidPlan, List.isEmpty_iff.mp hid]
  next hid =>
  split
  · next hmissing =>
    rw [Bool.or_eq_true, List.isEmpty_iff, List.isEmpty_iff] at hmissing
    rcases hmissing with hempty | hempty <;> simp [invalidPlan, hempty]
  next hpresent =>
  have hnames : plan.workflowId ≠ [] ∧ plan.steps ≠ [] ∧ plan.entryStepIds ≠ [] := by
    rw [Bool.or_eq_true, not_or, List.isEmpty_iff, List.isEmpty_iff] at hpresent
    exact ⟨mt List.isEmpty_iff.mpr hid, hpresent⟩
  split
  · next horder => simp [invalidPlan, horder]
  next stepOrder horder =>
  split
  · next entryStepId hentry =>
    have hunknown : ¬∀ entryStepId ∈ plan.entryStepIds, entryStepId ∈ stepOrder := by
      intro hall
      have hmem := hall entryStepId (List.mem_of_find?_eq_some hentry)
      have := List.find?_some hentry
      simp [hmem] at this
    simp [invalidPlan, horder, hunknown]
  next hentry =>
  have hknown : ∀ entryStepId ∈ plan.entryStepIds, entryStepId ∈ stepOrder := by
    simpa using hentry
  split
  · next hrejected => simp [invalidPlan, horder, hrejected]
  · next dependencies hdependencies =>
    constructor
    · intro hfinish
      exact ⟨hnames, stepOrder, horder, hknown, dependencies, hdependencies, hfinish⟩
    · rintro ⟨-, _, hsame, -, _, hread, hfinish⟩
      rw [horder] at hsame
      obtain rfl := Option.some.inj hsame
      rw [hdependencies] at hread
      obtain rfl := Except.ok.inj hread
      exact hfinish

theorem wellFormed_of_ok (hok : (buildBatches plan).ok = true) : WellFormed plan := by
  obtain ⟨⟨hid, hsteps, hentries⟩, stepOrder, horder, hknown, dependencies, hdependencies, hfinish⟩ :=
    buildBatches_ok_iff.mp hok
  obtain ⟨rfl, hread⟩ := readPlan horder hdependencies
  obtain ⟨-, hpresent, hdistinct⟩ := (readStepOrder_eq_some_iff List.nodup_nil).mp horder
  obtain ⟨hdependsOn, hedges, hbindings⟩ := readDependencies_ok_iff.mp ⟨dependencies, hdependencies⟩
  obtain ⟨hentry, hacyclic⟩ := hread.finishBatches_spec.1.mp hfinish
  constructor
  · exact hid
  · exact hsteps
  · exact hentries
  · exact hpresent
  · exact hread.idsDistinct
  · exact hknown
  · exact fun step hstep dependency hmem => (hdependsOn step hstep dependency hmem).1
  · exact fun edge hedge => ⟨(hedges edge hedge).1, (hedges edge hedge).2.1⟩
  · exact fun binding hbinding => (hbindings binding hbinding).1
  · exact fun binding hbinding => (hbindings binding hbinding).2
  · exact hacyclic
  · exact hentry

/-- A step or an edge that waits for itself would be a circle, so these checks pass as well. -/
theorem ok_of_wellFormed (h : WellFormed plan) : (buildBatches plan).ok = true := by
  have horder : readStepOrder [] plan.steps = some (stepIds plan) :=
    (readStepOrder_eq_some_iff List.nodup_nil).mpr ⟨rfl, h.idsPresent, h.idsDistinct⟩
  have hself : ∀ stepId, ¬DependsOn plan stepId stepId := fun stepId hloop =>
    h.acyclic stepId (.single hloop)
  obtain ⟨dependencies, hdependencies⟩ :
      ∃ dependencies, readDependencies plan (stepIds plan) = .ok dependencies := by
    rw [readDependencies_ok_iff]
    refine ⟨?_, ?_, ?_⟩
    · intro step hstep dependency hmem
      refine ⟨h.dependenciesKnown step hstep dependency hmem, ?_⟩
      rintro rfl
      exact hself step.stepId (.inl ⟨step, hstep, rfl, hmem⟩)
    · intro edge hedge
      refine ⟨(h.edgesKnown edge hedge).1, (h.edgesKnown edge hedge).2, ?_⟩
      intro hsame
      exact hself edge.toStepId (.inr (.inl ⟨edge, hedge, rfl, hsame⟩))
    · intro binding hbinding
      exact ⟨h.bindingsKnown binding hbinding, h.bindingsPresent binding hbinding⟩
  have hread := (readPlan horder hdependencies).2
  rw [buildBatches_ok_iff]
  refine ⟨⟨h.workflowId, h.steps, h.entries⟩, stepIds plan, horder, h.entriesKnown, dependencies,
    hdependencies, ?_⟩
  exact hread.finishBatches_spec.1.mpr ⟨h.entry, h.acyclic⟩

/-- For every plan the loop ends, and the plan is accepted exactly when it is well formed. The
batches are then a partition of its steps, and a step is in the one behind its last dependency. -/
theorem buildBatches_exact (plan : WorkflowPlan) :
    LoopEnds plan ∧ ((buildBatches plan).ok = true ↔ WellFormed plan) ∧
      ((buildBatches plan).ok = true → Batched plan (buildBatches plan).batches) := by
  refine ⟨loopEnds, ⟨wellFormed_of_ok, ok_of_wellFormed⟩, ?_⟩
  intro hok
  obtain ⟨stepOrder, dependencies, horder, hdependencies, hfinish⟩ := buildBatches_ok plan hok
  obtain ⟨rfl, hread⟩ := readPlan horder hdependencies
  rw [hfinish] at hok ⊢
  exact hread.finishBatches_spec.2 hok

end Dasall.Tools.Execution
