import Dasall.Cognition.Validation.StageOutputValidator
import Dasall.Lib.Depth
import Dasall.Lib.Layers

/-!
# The invariants of a plan graph

Edges and dependencies are merged into one graph. Nodes that wait for nothing are counted off until
none is left, and what is not counted then stands on a circle or behind one. Only where nothing is
wrong so far is the depth computed, by a recursion that would not end on a circle.
-/

open Dasall.Contracts Dasall.Lib Dasall.Lib.Text Dasall.Lib.Guard

namespace Dasall.Cognition.Validation

/-- What `std::unordered_map` makes of the order of its keys. -/
structure HashOrder where
  arrange : List Bytes → List Bytes
  perm : ∀ keys, (arrange keys).Perm keys

/-- `outgoing_edges` and `indegree`. -/
structure DependencyGraph where
  outgoing : Bytes → List Bytes := fun _ => []
  indegree : Bytes → Nat := fun _ => 0

def graphIssue (fieldPath message : String) : ValidationIssue where
  code := .planGraphInvariant
  fieldPath := str fieldPath
  message := str message

def registerDependencyEdge (graph : DependencyGraph) (fromNodeId toNodeId : Bytes) :
    DependencyGraph :=
  if (graph.outgoing fromNodeId).contains toNodeId then graph
  else
    { outgoing := Function.update graph.outgoing fromNodeId (graph.outgoing fromNodeId ++ [toNodeId])
      indegree := Function.update graph.indegree toNodeId (graph.indegree toNodeId + 1) }

/-- `known_node_ids`, with the issues of the nodes' ids. -/
def readNodes (known : List Bytes) : List PlanNode → List ValidationIssue × List Bytes
  | [] => ([], known)
  | node :: nodes =>
    if node.nodeId.isEmpty then
      let (issues, known) := readNodes known nodes
      (graphIssue "nodes.node_id" "plan nodes must carry a non-empty node_id" :: issues, known)
    else if known.contains node.nodeId then
      let (issues, known) := readNodes known nodes
      (graphIssue "nodes.node_id" "plan graph must not contain duplicate node ids" :: issues, known)
    else readNodes (known ++ [node.nodeId]) nodes

def readEdges (known : List Bytes) (graph : DependencyGraph) :
    List PlanEdge → List ValidationIssue × DependencyGraph
  | [] => ([], graph)
  | edge :: edges =>
    if !known.contains edge.fromNodeId || !known.contains edge.toNodeId then
      let (issues, graph) := readEdges known graph edges
      (graphIssue "edges" "plan graph edges must reference known node ids" :: issues, graph)
    else readEdges known (registerDependencyEdge graph edge.fromNodeId edge.toNodeId) edges

/-- The issue of one entry of `depends_on`. -/
def dependencyIssue (known : List Bytes) (nodeId : Bytes) (seen : List Bytes) (dependency : Bytes) :
    Option ValidationIssue :=
  if dependency.isEmpty then
    some (graphIssue "nodes.depends_on" "plan node dependencies must reference non-empty node ids")
  else if seen.contains dependency then
    some (graphIssue "nodes.depends_on" "plan node dependencies must not contain duplicates")
  else if dependency = nodeId then
    some (graphIssue "nodes.depends_on" "plan nodes must not depend on themselves")
  else if !known.contains dependency then
    some (graphIssue "nodes.depends_on" "plan node dependencies must reference known node ids")
  else none

/-- An empty id is not remembered as seen, whatever else is. -/
def readDependsOn (known : List Bytes) (nodeId : Bytes) (seen : List Bytes)
    (graph : DependencyGraph) : List Bytes → List ValidationIssue × DependencyGraph
  | [] => ([], graph)
  | dependency :: rest =>
    let seen' := if dependency.isEmpty || seen.contains dependency then seen else seen ++ [dependency]
    match dependencyIssue known nodeId seen dependency with
    | some issue =>
      let (issues, graph) := readDependsOn known nodeId seen' graph rest
      (issue :: issues, graph)
    | none => readDependsOn known nodeId seen' (registerDependencyEdge graph dependency nodeId) rest

def readDependencies (known : List Bytes) (graph : DependencyGraph) :
    List PlanNode → List ValidationIssue × DependencyGraph
  | [] => ([], graph)
  | node :: nodes =>
    if node.nodeId.isEmpty then readDependencies known graph nodes
    else
      let (issues, graph) := readDependsOn known node.nodeId [] graph node.dependsOn
      let (more, graph) := readDependencies known graph nodes
      (issues ++ more, graph)

/-- The nodes that are counted off. A degree is positive while one of its edges is left, so that
`--next_degree` does not wrap. -/
def visitNodes (order : HashOrder) (known : List Bytes) (graph : DependencyGraph) :
    Option (List Bytes) :=
  Layers.drain graph.outgoing (known.length + 1) graph.indegree
    (order.arrange (known.filter fun nodeId => graph.indegree nodeId = 0))

/-- The recursion of `compute_plan_depth`. It has fuel for a path through every node. -/
def computePlanDepth (known : List Bytes) (graph : DependencyGraph) (nodes : List PlanNode) :
    Option Nat :=
  Depth.deepest graph.outgoing known.length (nodes.map (·.nodeId)) 0 fun _ => none

def depthIssues (known : List Bytes) (graph : DependencyGraph) (nodes : List PlanNode)
    (maxPlanDepth : UInt32) (issues : List ValidationIssue) : Option (List ValidationIssue) :=
  if 0 < maxPlanDepth && !nodes.isEmpty && issues.isEmpty then
    (computePlanDepth known graph nodes).map fun depth =>
      issues ++ if maxPlanDepth.toNat < depth then
        [graphIssue "nodes" "plan graph exceeds the configured depth cap"] else []
  else some issues

/-- `none` when a loop or the recursion does not end. -/
def validatePlanGraphInvariants (order : HashOrder) (plan : PlanGraph)
    (maxPlanNodes maxPlanDepth : UInt32) : Option ValidationResult :=
  let planIssues :=
    issueWhen plan.planId.isEmpty .planGraphInvariant "plan_id"
        "plan graph must carry a non-empty plan_id" ++
      issueWhen plan.nodes.isEmpty .planGraphInvariant "nodes"
        "plan graph must include at least one node" ++
      issueWhen (0 < maxPlanNodes && maxPlanNodes.toNat < plan.nodes.length) .planGraphInvariant
        "nodes" "plan graph exceeds the configured node cap"
  let (nodeIssues, known) := readNodes [] plan.nodes
  let (edgeIssues, graph) := readEdges known {} plan.edges
  let (dependencyIssues, graph) := readDependencies known graph plan.nodes
  (visitNodes order known graph).bind fun visited =>
    let cycleIssues :=
      issueWhen (!plan.nodes.isEmpty && visited.length ≠ known.length) .planGraphInvariant "edges"
        "plan graph must remain acyclic"
    (depthIssues known graph plan.nodes maxPlanDepth
      (planIssues ++ nodeIssues ++ edgeIssues ++ dependencyIssues ++ cycleIssues)).map fun issues =>
        finalizeResult issues "planning"

/-! ## Graphs that are valid -/

def nodeIds (plan : PlanGraph) : List Bytes := plan.nodes.map (·.nodeId)

/-- `target` comes after `source`: by an edge, or by its list of dependencies. -/
def LeadsTo (plan : PlanGraph) (source target : Bytes) : Prop :=
  (∃ edge ∈ plan.edges, edge.fromNodeId = source ∧ edge.toNodeId = target) ∨
    ∃ node ∈ plan.nodes, node.nodeId = target ∧ source ∈ node.dependsOn

structure Valid (plan : PlanGraph) (maxPlanNodes maxPlanDepth : UInt32) : Prop where
  planId : plan.planId ≠ []
  nodes : plan.nodes ≠ []
  nodeCap : maxPlanNodes ≠ 0 → plan.nodes.length ≤ maxPlanNodes.toNat
  idsPresent : ∀ node ∈ plan.nodes, node.nodeId ≠ []
  idsDistinct : (nodeIds plan).Nodup
  edgesKnown : ∀ edge ∈ plan.edges, edge.fromNodeId ∈ nodeIds plan ∧ edge.toNodeId ∈ nodeIds plan
  dependenciesDistinct : ∀ node ∈ plan.nodes, node.dependsOn.Nodup
  dependenciesKnown : ∀ node ∈ plan.nodes, ∀ dependency ∈ node.dependsOn, dependency ∈ nodeIds plan
  acyclic : ∀ nodeId, ¬Relation.TransGen (LeadsTo plan) nodeId nodeId
  depthCap : maxPlanDepth ≠ 0 → ∀ path : List Bytes, (∀ nodeId ∈ path, nodeId ∈ nodeIds plan) →
    path.IsChain (LeadsTo plan) → path.length ≤ maxPlanDepth.toNat

/-! ## The merged graph -/

/-- Edges are between known nodes, each once, and the degrees count them. -/
structure Merged (known : List Bytes) (graph : DependencyGraph) : Prop where
  nodup : ∀ source, (graph.outgoing source).Nodup
  ends : ∀ source target, target ∈ graph.outgoing source → source ∈ known ∧ target ∈ known
  degrees : ∀ target,
    graph.indegree target = (known.filter fun source => target ∈ graph.outgoing source).length

variable {known : List Bytes} {graph : DependencyGraph}

theorem mem_registerDependencyEdge (fromNodeId toNodeId source target : Bytes) :
    target ∈ (registerDependencyEdge graph fromNodeId toNodeId).outgoing source ↔
      target ∈ graph.outgoing source ∨ (fromNodeId = source ∧ toNodeId = target) := by
  unfold registerDependencyEdge
  split
  · next hold =>
    rw [List.contains_iff_mem] at hold
    constructor
    · exact .inl
    · rintro (h | ⟨rfl, rfl⟩)
      · exact h
      · exact hold
  · by_cases hsource : source = fromNodeId
    · subst hsource
      simp [eq_comm]
    · have hother : fromNodeId ≠ source := fun h => hsource h.symm
      simp [hsource, hother]

theorem length_filter_or {keys : List Bytes} (hnodup : keys.Nodup) {key : Bytes} (hkey : key ∈ keys)
    {p : Bytes → Prop} [DecidablePred p] (hp : ¬p key) :
    (keys.filter fun other => p other ∨ key = other).length = (keys.filter fun other => p other).length + 1 := by
  induction keys with
  | nil => simp at hkey
  | cons first keys ih =>
    rw [List.nodup_cons] at hnodup
    by_cases hfirst : key = first
    · subst hfirst
      have hrest : (keys.filter fun other => p other ∨ key = other) =
          keys.filter fun other => p other := by
        apply List.filter_congr
        intro other hother
        have hne : key ≠ other := by
          rintro rfl
          exact hnodup.1 hother
        simp [hne]
      rw [List.filter_cons_of_pos (by simp), List.filter_cons_of_neg (by simpa using hp), hrest,
        List.length_cons]
    · have hin : key ∈ keys := (List.mem_cons.mp hkey).resolve_left hfirst
      have hlater := ih hnodup.2 hin
      by_cases hpfirst : p first
      · rw [List.filter_cons_of_pos (by simp [hpfirst]), List.filter_cons_of_pos (by simpa),
          List.length_cons, List.length_cons, hlater]
      · rw [List.filter_cons_of_neg (by simp [hpfirst, hfirst]),
          List.filter_cons_of_neg (by simpa), hlater]

theorem merged_register (hnodup : known.Nodup) (h : Merged known graph) {fromNodeId toNodeId : Bytes}
    (hfrom : fromNodeId ∈ known) (hto : toNodeId ∈ known) :
    Merged known (registerDependencyEdge graph fromNodeId toNodeId) := by
  have hmem := fun source target =>
    @mem_registerDependencyEdge graph fromNodeId toNodeId source target
  by_cases hold : toNodeId ∈ graph.outgoing fromNodeId
  · have hsame : registerDependencyEdge graph fromNodeId toNodeId = graph := by
      unfold registerDependencyEdge
      rw [if_pos (List.contains_iff_mem.mpr hold)]
    rwa [hsame]
  · have houtgoing : (registerDependencyEdge graph fromNodeId toNodeId).outgoing =
        Function.update graph.outgoing fromNodeId (graph.outgoing fromNodeId ++ [toNodeId]) := by
      unfold registerDependencyEdge
      rw [if_neg (mt List.contains_iff_mem.mp hold)]
    have hindegree : (registerDependencyEdge graph fromNodeId toNodeId).indegree =
        Function.update graph.indegree toNodeId (graph.indegree toNodeId + 1) := by
      unfold registerDependencyEdge
      rw [if_neg (mt List.contains_iff_mem.mp hold)]
    constructor
    · intro source
      rw [houtgoing]
      by_cases hsource : source = fromNodeId
      · subst hsource
        rw [Function.update_self, List.nodup_append]
        refine ⟨h.nodup source, by simp, ?_⟩
        rintro first hfirst second hsecond rfl
        rw [List.mem_singleton] at hsecond
        exact hold (hsecond ▸ hfirst)
      · rw [Function.update_of_ne hsource]
        exact h.nodup source
    · intro source target htarget
      rcases (hmem source target).mp htarget with hbefore | ⟨rfl, rfl⟩
      · exact h.ends source target hbefore
      · exact ⟨hfrom, hto⟩
    · intro target
      simp only [hmem]
      by_cases htarget : toNodeId = target
      · subst htarget
        simp only [and_true]
        rw [length_filter_or hnodup hfrom hold, ← h.degrees, hindegree,
          Function.update_self]
      · simp only [htarget, and_false, or_false]
        rw [hindegree, Function.update_of_ne (Ne.symm htarget), h.degrees]

/-! ## Reading the graph -/

/-- The nodes that follow each node, after some edges have been added. -/
def Adds (before after : DependencyGraph) (added : Bytes → Bytes → Prop) : Prop :=
  ∀ source target, target ∈ after.outgoing source ↔
    target ∈ before.outgoing source ∨ added source target

theorem readNodes_spec (known : List Bytes) (hknown : known.Nodup) (nodes : List PlanNode) :
    (readNodes known nodes).2.Nodup ∧ known ⊆ (readNodes known nodes).2 ∧
      (∀ node ∈ nodes, node.nodeId ≠ [] → node.nodeId ∈ (readNodes known nodes).2) ∧
      ((readNodes known nodes).1 = [] ↔
        (∀ node ∈ nodes, node.nodeId ≠ []) ∧ (known ++ nodes.map (·.nodeId)).Nodup) ∧
      ((readNodes known nodes).1 = [] →
        (readNodes known nodes).2 = known ++ nodes.map (·.nodeId)) := by
  induction nodes generalizing known with
  | nil => simp [readNodes, hknown]
  | cons node nodes ih =>
    unfold readNodes
    split
    · next hempty =>
      rw [List.isEmpty_iff] at hempty
      obtain ⟨hnodup, hsub, hall, -, -⟩ := ih known hknown
      refine ⟨hnodup, hsub, ?_, by simp [hempty], by simp⟩
      rw [List.forall_mem_cons]
      exact ⟨fun hne => absurd hempty hne, hall⟩
    · next hpresent =>
    split
    · next hold =>
      rw [List.contains_iff_mem] at hold
      obtain ⟨hnodup, hsub, hall, -, -⟩ := ih known hknown
      refine ⟨hnodup, hsub, ?_, ?_, by simp⟩
      · rw [List.forall_mem_cons]
        exact ⟨fun _ => hsub hold, hall⟩
      · simp only [reduceCtorEq, false_iff]
        rintro ⟨-, hdistinct⟩
        exact (List.nodup_append.mp hdistinct).2.2 node.nodeId hold node.nodeId (by simp) rfl
    · next hnew =>
      rw [List.contains_iff_mem] at hnew
      have hsnoc : (known ++ [node.nodeId]).Nodup := by
        rw [List.nodup_append]
        refine ⟨hknown, by simp, ?_⟩
        rintro first hfirst second hsecond rfl
        rw [List.mem_singleton] at hsecond
        exact hnew (hsecond ▸ hfirst)
      obtain ⟨hnodup, hsub, hall, hissues, hids⟩ := ih (known ++ [node.nodeId]) hsnoc
      rw [List.append_subset] at hsub
      refine ⟨hnodup, hsub.1, ?_, ?_, ?_⟩
      · rw [List.forall_mem_cons]
        exact ⟨fun _ => hsub.2 (by simp), hall⟩
      · rw [hissues, List.forall_mem_cons]
        simp [mt List.isEmpty_iff.mpr hpresent]
      · intro hnone
        simp [hids hnone]

theorem readEdges_spec (hnodup : known.Nodup) (edges : List PlanEdge) (graph : DependencyGraph)
    (h : Merged known graph) :
    Merged known (readEdges known graph edges).2 ∧
      ((readEdges known graph edges).1 = [] ↔
        ∀ edge ∈ edges, edge.fromNodeId ∈ known ∧ edge.toNodeId ∈ known) ∧
      ((readEdges known graph edges).1 = [] →
        Adds graph (readEdges known graph edges).2 fun source target =>
          ∃ edge ∈ edges, edge.fromNodeId = source ∧ edge.toNodeId = target) := by
  induction edges generalizing graph with
  | nil => simp [readEdges, h, Adds]
  | cons edge edges ih =>
    unfold readEdges
    rw [List.forall_mem_cons]
    split
    · next hbad =>
      have hunknown : ¬(edge.fromNodeId ∈ known ∧ edge.toNodeId ∈ known) := by
        simpa [Decidable.imp_iff_not_or] using hbad
      exact ⟨(ih graph h).1, by simp [hunknown], by simp⟩
    · next hgood =>
      have hends : edge.fromNodeId ∈ known ∧ edge.toNodeId ∈ known := by simpa using hgood
      obtain ⟨hmerged, hissues, hadds⟩ := ih _ (merged_register hnodup h hends.1 hends.2)
      refine ⟨hmerged, by rw [hissues]; simp [hends], ?_⟩
      intro hnone source target
      rw [hadds hnone, mem_registerDependencyEdge, or_assoc]
      simp

theorem dependencyIssue_eq_none {nodeId : Bytes} {seen : List Bytes} {dependency : Bytes} :
    dependencyIssue known nodeId seen dependency = none ↔
      dependency ≠ [] ∧ dependency ∉ seen ∧ dependency ≠ nodeId ∧ dependency ∈ known := by
  unfold dependencyIssue
  split_ifs <;> simp_all

theorem readDependsOn_spec (hnodup : known.Nodup) {nodeId : Bytes} (hnodeId : nodeId ∈ known)
    (dependsOn seen : List Bytes) (graph : DependencyGraph) (h : Merged known graph) :
    Merged known (readDependsOn known nodeId seen graph dependsOn).2 ∧
      ((readDependsOn known nodeId seen graph dependsOn).1 = [] ↔
        (∀ dependency ∈ dependsOn, dependency ≠ [] ∧ dependency ≠ nodeId ∧ dependency ∈ known) ∧
          dependsOn.Nodup ∧ ∀ dependency ∈ dependsOn, dependency ∉ seen) ∧
      ((readDependsOn known nodeId seen graph dependsOn).1 = [] →
        Adds graph (readDependsOn known nodeId seen graph dependsOn).2 fun source target =>
          nodeId = target ∧ source ∈ dependsOn) := by
  induction dependsOn generalizing seen graph with
  | nil => simp [readDependsOn, h, Adds]
  | cons dependency rest ih =>
    unfold readDependsOn
    simp only
    cases hissue : dependencyIssue known nodeId seen dependency with
    | some issue =>
      have hbad : ¬(dependency ≠ [] ∧ dependency ∉ seen ∧ dependency ≠ nodeId ∧
          dependency ∈ known) := by
        rw [← dependencyIssue_eq_none, hissue]
        simp
      simp only
      refine ⟨(ih _ graph h).1, ?_, by simp⟩
      simp only [reduceCtorEq, false_iff]
      rintro ⟨hall, -, hfresh⟩
      obtain ⟨hpresent, hother, hknown⟩ := hall dependency (by simp)
      exact hbad ⟨hpresent, hfresh dependency (by simp), hother, hknown⟩
    | none =>
      obtain ⟨hpresent, hfresh, hother, hknown⟩ := dependencyIssue_eq_none.mp hissue
      have hseen : (if dependency.isEmpty || seen.contains dependency then seen
          else seen ++ [dependency]) = seen ++ [dependency] := by
        rw [if_neg (by simp [hpresent, hfresh])]
      simp only [hseen]
      obtain ⟨hmerged, hissues, hadds⟩ :=
        ih (seen ++ [dependency]) _ (merged_register hnodup h hknown hnodeId)
      refine ⟨hmerged, ?_, ?_⟩
      · rw [hissues, List.forall_mem_cons, List.forall_mem_cons, List.nodup_cons]
        constructor
        · rintro ⟨hall, hdistinct, hnew⟩
          refine ⟨⟨⟨hpresent, hother, hknown⟩, hall⟩, ⟨?_, hdistinct⟩, hfresh, ?_⟩
          · intro hmem
            simpa using hnew dependency hmem
          · intro other hmem hold
            exact hnew other hmem (List.mem_append_left _ hold)
        · rintro ⟨⟨-, hall⟩, ⟨hnot, hdistinct⟩, -, hnew⟩
          refine ⟨hall, hdistinct, ?_⟩
          intro other hmem hold
          rcases List.mem_append.mp hold with hbefore | hlast
          · exact hnew other hmem hbefore
          · rw [List.mem_singleton] at hlast
            exact hnot (hlast ▸ hmem)
      · intro hnone source target
        rw [hadds hnone, mem_registerDependencyEdge, or_assoc]
        simp only [List.mem_cons]
        apply or_congr_right
        constructor
        · rintro (⟨rfl, rfl⟩ | ⟨rfl, hmem⟩)
          · exact ⟨rfl, .inl rfl⟩
          · exact ⟨rfl, .inr hmem⟩
        · rintro ⟨rfl, rfl | hmem⟩
          · exact .inl ⟨rfl, rfl⟩
          · exact .inr ⟨rfl, hmem⟩

/-- What is right about the dependencies of a node that has an id. -/
def DependsOnOk (known : List Bytes) (node : PlanNode) : Prop :=
  (∀ dependency ∈ node.dependsOn, dependency ≠ [] ∧ dependency ≠ node.nodeId ∧ dependency ∈ known) ∧
    node.dependsOn.Nodup

theorem readDependencies_spec (hnodup : known.Nodup) (nodes : List PlanNode)
    (hnodes : ∀ node ∈ nodes, node.nodeId ≠ [] → node.nodeId ∈ known) (graph : DependencyGraph)
    (h : Merged known graph) :
    Merged known (readDependencies known graph nodes).2 ∧
      ((readDependencies known graph nodes).1 = [] ↔
        ∀ node ∈ nodes, node.nodeId ≠ [] → DependsOnOk known node) ∧
      ((readDependencies known graph nodes).1 = [] →
        Adds graph (readDependencies known graph nodes).2 fun source target =>
          ∃ node ∈ nodes, node.nodeId ≠ [] ∧ node.nodeId = target ∧ source ∈ node.dependsOn) := by
  induction nodes generalizing graph with
  | nil => simp [readDependencies, h, Adds]
  | cons node nodes ih =>
    rw [List.forall_mem_cons] at hnodes
    unfold readDependencies
    rw [List.forall_mem_cons]
    by_cases hempty : node.nodeId = []
    · obtain ⟨hmerged, hissues, hadds⟩ := ih hnodes.2 graph h
      simp only [hempty, List.isEmpty_nil, if_true]
      refine ⟨hmerged, by simp [hissues], ?_⟩
      intro hnone source target
      rw [hadds hnone]
      simp [hempty]
    · obtain ⟨hmerged, hissues, hadds⟩ :=
        readDependsOn_spec hnodup (hnodes.1 hempty) node.dependsOn [] graph h
      obtain ⟨hmerged', hissues', hadds'⟩ := ih hnodes.2 _ hmerged
      rw [if_neg (mt List.isEmpty_iff.mp hempty)]
      simp only [List.append_eq_nil_iff]
      refine ⟨hmerged', ?_, ?_⟩
      · rw [hissues, hissues']
        simp [DependsOnOk, hempty]
      · rintro ⟨hnone, hnone'⟩ source target
        rw [hadds' hnone', hadds hnone, or_assoc]
        simp [hempty]

/-! ## Counting and depth -/

/-- The sources of a node. -/
def sources (known : List Bytes) (graph : DependencyGraph) (target : Bytes) : List Bytes :=
  known.filter fun source => target ∈ graph.outgoing source

theorem mem_sources (h : Merged known graph) (source target : Bytes) :
    source ∈ sources known graph target ↔ target ∈ graph.outgoing source := by
  rw [sources, List.mem_filter, decide_eq_true_eq, and_iff_right_iff_imp]
  exact fun hmem => (h.ends source target hmem).1

/-- The loop ends, and counts every node exactly when the graph has no circle. -/
theorem visitNodes_spec (order : HashOrder) (hnodup : known.Nodup) (h : Merged known graph) :
    ∃ visited, visitNodes order known graph = some visited ∧
      (visited.length = known.length ↔ ∀ nodeId,
        ¬Relation.TransGen (fun source target => target ∈ graph.outgoing source) nodeId nodeId) := by
  have hgraph : Layers.Graph known (sources known graph) graph.outgoing := by
    constructor
    · exact hnodup
    · exact fun node _ => hnodup.filter _
    · intro source node
      rw [mem_sources h, iff_and_self]
      exact fun hmem => (h.ends source node hmem).2
    · exact h.nodup
  have hstart := Layers.invariant_start hgraph graph.indegree _ (fun node _ => h.degrees node)
    (order.perm (known.filter fun nodeId => graph.indegree nodeId = 0))
  obtain ⟨visited, indegree, hvisited, hdone, hrespects⟩ :=
    Layers.drain_spec hgraph (known.length + 1) [] _ _ hstart (by simp)
  refine ⟨visited, hvisited, ?_⟩
  rw [Layers.length_eq_iff_acyclic (by simpa using hdone) hnodup hrespects]
  · have hsame : (fun source target => source ∈ sources known graph target) =
        fun source target => target ∈ graph.outgoing source := by
      funext source target
      exact propext (mem_sources h source target)
    unfold Layers.Acyclic
    rw [hsame]
    constructor
    · intro hacyclic nodeId hcycle
      obtain ⟨source, -, hlast⟩ := Relation.TransGen.tail'_iff.mp hcycle
      exact hacyclic nodeId (h.ends source nodeId hlast).2 hcycle
    · intro hacyclic nodeId _
      exact hacyclic nodeId
  · intro node _ source hsource
    exact (h.ends source node ((mem_sources h source node).mp hsource)).1

theorem path_subset (h : Merged known graph) {nodeId : Bytes} (hnodeId : nodeId ∈ known)
    {path : List Bytes} (hpath : Depth.PathFrom graph.outgoing nodeId path) : path ⊆ known := by
  induction path generalizing nodeId with
  | nil => simp
  | cons first rest ih =>
    obtain rfl := Option.some.inj hpath.1
    rw [List.cons_subset]
    refine ⟨hnodeId, ?_⟩
    cases rest with
    | nil => simp
    | cons second rest =>
      have hchain := List.isChain_cons_cons.mp hpath.2
      exact ih (h.ends _ _ hchain.1).2 ⟨rfl, hchain.2⟩

/-- Without circles no path is longer than there are nodes. -/
theorem path_length_le (h : Merged known graph)
    (hacyclic : ∀ nodeId,
      ¬Relation.TransGen (fun source target => target ∈ graph.outgoing source) nodeId nodeId)
    {nodeId : Bytes} (hnodeId : nodeId ∈ known) {path : List Bytes}
    (hpath : Depth.PathFrom graph.outgoing nodeId path) : path.length ≤ known.length := by
  have hreaches : path.Pairwise
      (Relation.TransGen fun source target => target ∈ graph.outgoing source) := by
    rw [← List.isChain_iff_pairwise]
    exact hpath.2.imp fun _ _ hnext => .single hnext
  have hnodup : path.Nodup := by
    apply hreaches.imp
    rintro first second hreached rfl
    exact hacyclic first hreached
  exact (List.subperm_of_subset hnodup (path_subset h hnodeId hpath)).length_le

/-! ## The issues -/

section Issues

variable (plan : PlanGraph)

/-- The graph that the validation works on. -/
def mergedKnown : List Bytes := (readNodes [] plan.nodes).2

def mergedEdges : List ValidationIssue × DependencyGraph :=
  readEdges (mergedKnown plan) {} plan.edges

def mergedGraph : List ValidationIssue × DependencyGraph :=
  readDependencies (mergedKnown plan) (mergedEdges plan).2 plan.nodes

theorem merged_mergedEdges : Merged (mergedKnown plan) (mergedEdges plan).2 := by
  have hnodup := (readNodes_spec [] List.nodup_nil plan.nodes).1
  have hempty : Merged (mergedKnown plan) {} := ⟨by simp, by simp, by simp⟩
  exact (readEdges_spec hnodup plan.edges {} hempty).1

theorem merged_mergedGraph : Merged (mergedKnown plan) (mergedGraph plan).2 := by
  obtain ⟨hnodup, -, hall, -, -⟩ := readNodes_spec [] List.nodup_nil plan.nodes
  exact (readDependencies_spec hnodup plan.nodes hall _ (merged_mergedEdges plan)).1

theorem merged_empty : Merged (mergedKnown plan) {} := ⟨by simp, by simp, by simp⟩

/-- No issue of the ids, the edges and the dependencies. -/
def ReadWell : Prop :=
  (readNodes [] plan.nodes).1 = [] ∧ (mergedEdges plan).1 = [] ∧ (mergedGraph plan).1 = []

theorem readWell_iff :
    ReadWell plan ↔ ((∀ node ∈ plan.nodes, node.nodeId ≠ []) ∧ (nodeIds plan).Nodup) ∧
      (∀ edge ∈ plan.edges, edge.fromNodeId ∈ nodeIds plan ∧ edge.toNodeId ∈ nodeIds plan) ∧
      ∀ node ∈ plan.nodes, DependsOnOk (nodeIds plan) node := by
  obtain ⟨hnodup, -, hall, hissues, hids⟩ := readNodes_spec [] List.nodup_nil plan.nodes
  have hedges : (mergedEdges plan).1 = [] ↔ _ :=
    (readEdges_spec hnodup plan.edges {} (merged_empty plan)).2.1
  have hdependencies : (mergedGraph plan).1 = [] ↔ _ :=
    (readDependencies_spec hnodup plan.nodes hall _ (merged_mergedEdges plan)).2.1
  unfold ReadWell
  rw [hedges, hdependencies]
  constructor
  · rintro ⟨hnone, hends, hright⟩
    have hpresent := (hissues.mp hnone).1
    rw [hids hnone] at hends hright
    exact ⟨hissues.mp hnone, hends, fun node hnode => hright node hnode (hpresent node hnode)⟩
  · rintro ⟨hright, hends, hdepends⟩
    have hnone := hissues.mpr hright
    refine ⟨hnone, ?_, ?_⟩ <;> rw [hids hnone]
    · exact hends
    · exact fun node hnode _ => hdepends node hnode

theorem mem_mergedGraph (h : ReadWell plan) (source target : Bytes) :
    target ∈ (mergedGraph plan).2.outgoing source ↔ LeadsTo plan source target := by
  obtain ⟨hnodup, -, hall, hissues, -⟩ := readNodes_spec [] List.nodup_nil plan.nodes
  have hedges : Adds {} (mergedEdges plan).2 _ :=
    (readEdges_spec hnodup plan.edges {} (merged_empty plan)).2.2 h.2.1
  have hdependencies : Adds (mergedEdges plan).2 (mergedGraph plan).2 _ :=
    (readDependencies_spec hnodup plan.nodes hall _ (merged_mergedEdges plan)).2.2 h.2.2
  have hpresent := (hissues.mp h.1).1
  rw [hdependencies, hedges]
  unfold LeadsTo
  simp only [List.not_mem_nil, false_or]
  apply or_congr_right
  constructor
  · rintro ⟨node, hnode, -, hleads⟩
    exact ⟨node, hnode, hleads⟩
  · rintro ⟨node, hnode, hleads⟩
    exact ⟨node, hnode, hpresent node hnode, hleads⟩

theorem mergedKnown_eq (h : ReadWell plan) : mergedKnown plan = nodeIds plan :=
  (readNodes_spec [] List.nodup_nil plan.nodes).2.2.2.2 h.1

theorem acyclic_iff (h : ReadWell plan) :
    (∀ nodeId, ¬Relation.TransGen
      (fun source target => target ∈ (mergedGraph plan).2.outgoing source) nodeId nodeId) ↔
      ∀ nodeId, ¬Relation.TransGen (LeadsTo plan) nodeId nodeId := by
  have hsame : (fun source target => target ∈ (mergedGraph plan).2.outgoing source) = LeadsTo plan := by
    funext source target
    exact propext (mem_mergedGraph plan h source target)
  rw [hsame]

/-- The issues before the depth is looked at. -/
def earlyIssues (maxPlanNodes : UInt32) (visited : List Bytes) : List ValidationIssue :=
  issueWhen plan.planId.isEmpty .planGraphInvariant "plan_id"
      "plan graph must carry a non-empty plan_id" ++
    issueWhen plan.nodes.isEmpty .planGraphInvariant "nodes"
      "plan graph must include at least one node" ++
    issueWhen (0 < maxPlanNodes && maxPlanNodes.toNat < plan.nodes.length) .planGraphInvariant
      "nodes" "plan graph exceeds the configured node cap" ++
    (readNodes [] plan.nodes).1 ++ (mergedEdges plan).1 ++ (mergedGraph plan).1 ++
    issueWhen (!plan.nodes.isEmpty && visited.length ≠ (mergedKnown plan).length)
      .planGraphInvariant "edges" "plan graph must remain acyclic"

/-- A dependency on itself would be a circle. -/
theorem readWell_of_valid {maxPlanNodes maxPlanDepth : UInt32}
    (h : Valid plan maxPlanNodes maxPlanDepth) : ReadWell plan := by
  rw [readWell_iff]
  refine ⟨⟨h.idsPresent, h.idsDistinct⟩, h.edgesKnown, ?_⟩
  intro node hnode
  refine ⟨?_, h.dependenciesDistinct node hnode⟩
  intro dependency hmem
  have hknown := h.dependenciesKnown node hnode dependency hmem
  obtain ⟨other, hother, rfl⟩ := List.mem_map.mp hknown
  refine ⟨h.idsPresent other hother, ?_, hknown⟩
  intro hself
  exact h.acyclic node.nodeId (.single (.inr ⟨node, hnode, rfl, hself ▸ hmem⟩))

theorem earlyIssues_eq_nil {maxPlanNodes : UInt32} {visited : List Bytes}
    (hvisited : visited.length = (mergedKnown plan).length ↔ ∀ nodeId, ¬Relation.TransGen
      (fun source target => target ∈ (mergedGraph plan).2.outgoing source) nodeId nodeId) :
    earlyIssues plan maxPlanNodes visited = [] ↔ Valid plan maxPlanNodes 0 := by
  unfold earlyIssues
  simp only [List.append_eq_nil_iff, issueWhen_eq_nil, List.isEmpty_eq_false_iff,
    Bool.and_eq_false_iff, decide_eq_false_iff_not, not_lt, Bool.not_eq_false', List.isEmpty_iff,
    ne_eq, not_not]
  constructor
  · rintro ⟨⟨⟨⟨⟨⟨hid, hnodes⟩, hcap⟩, hread⟩, hedges⟩, hdependencies⟩, hcount⟩
    have hwell : ReadWell plan := ⟨hread, hedges, hdependencies⟩
    obtain ⟨⟨hpresent, hdistinct⟩, hends, hright⟩ := (readWell_iff plan).mp hwell
    have hall := hcount.resolve_left hnodes
    rw [hvisited, acyclic_iff plan hwell] at hall
    constructor
    · exact hid
    · exact hnodes
    · intro hne
      exact hcap.resolve_left fun hle => hne (UInt32.le_zero_iff.mp (UInt32.not_lt.mp hle))
    · exact hpresent
    · exact hdistinct
    · exact hends
    · exact fun node hnode => (hright node hnode).2
    · exact fun node hnode dependency hmem => ((hright node hnode).1 dependency hmem).2.2
    · exact hall
    · exact fun hne => absurd rfl hne
  · intro h
    have hwell := readWell_of_valid plan h
    have hall := (acyclic_iff plan hwell).mpr h.acyclic
    rw [← hvisited] at hall
    refine ⟨⟨⟨⟨⟨⟨h.planId, h.nodes⟩, ?_⟩, hwell.1⟩, hwell.2.1⟩, hwell.2.2⟩, .inr hall⟩
    by_cases hzero : maxPlanNodes = 0
    · exact .inl (by simp [hzero])
    · exact .inr (h.nodeCap hzero)

/-- Without issues so far the recursion ends, and tells whether a path is too long. -/
theorem computePlanDepth_spec {maxPlanNodes : UInt32} (h : Valid plan maxPlanNodes 0) :
    ∃ depth, computePlanDepth (mergedKnown plan) (mergedGraph plan).2 plan.nodes = some depth ∧
      ∀ cap, depth ≤ cap ↔ ∀ path : List Bytes, (∀ nodeId ∈ path, nodeId ∈ nodeIds plan) →
        path.IsChain (LeadsTo plan) → path.length ≤ cap := by
  have hmerged := merged_mergedGraph plan
  have hwell : ReadWell plan := readWell_of_valid plan h
  have hknown := mergedKnown_eq plan hwell
  have hsame : (fun source target => target ∈ (mergedGraph plan).2.outgoing source) = LeadsTo plan := by
    funext source target
    exact propext (mem_mergedGraph plan hwell source target)
  obtain ⟨depth, hdepth, hcap⟩ := Depth.deepest_spec (mergedKnown plan).length (nodeIds plan)
    (fun nodeId hnodeId path hpath => path_length_le hmerged
      ((acyclic_iff plan hwell).mpr h.acyclic) (hknown ▸ hnodeId) hpath)
    0 (fun _ => none) (by intro node depth hnone; simp at hnone)
  refine ⟨depth, hdepth, fun cap => ?_⟩
  rw [hcap]
  simp only [Nat.zero_le, true_and]
  constructor
  · intro hall path hpath hchain
    cases path with
    | nil => exact Nat.zero_le _
    | cons first rest => exact hall first (hpath first (by simp)) _ ⟨rfl, by rwa [hsame]⟩
  · intro hall nodeId hnodeId path hpath
    apply hall path
    · rw [← hknown] at hnodeId ⊢
      exact fun other hother => path_subset hmerged hnodeId hpath hother
    · rw [← hsame]
      exact hpath.2

end Issues

/-! ## When a plan graph is valid -/

/-- For every graph and all caps the validation ends, and it reports no issue exactly for the graphs
that are valid. -/
theorem validatePlanGraphInvariants_exact (order : HashOrder) (plan : PlanGraph)
    (maxPlanNodes maxPlanDepth : UInt32) :
    ∃ result, validatePlanGraphInvariants order plan maxPlanNodes maxPlanDepth = some result ∧
      (result.ok = true ↔ Valid plan maxPlanNodes maxPlanDepth) := by
  obtain ⟨visited, hvisited, hcount⟩ := visitNodes_spec order
    (readNodes_spec [] List.nodup_nil plan.nodes).1 (merged_mergedGraph plan)
  have hearly := @earlyIssues_eq_nil plan maxPlanNodes visited hcount
  have hvalidate : validatePlanGraphInvariants order plan maxPlanNodes maxPlanDepth =
      (visitNodes order (mergedKnown plan) (mergedGraph plan).2).bind fun visited =>
        (depthIssues (mergedKnown plan) (mergedGraph plan).2 plan.nodes maxPlanDepth
          (earlyIssues plan maxPlanNodes visited)).map fun issues =>
            finalizeResult issues "planning" := rfl
  have hsplit : Valid plan maxPlanNodes maxPlanDepth ↔ Valid plan maxPlanNodes 0 ∧
      (maxPlanDepth ≠ 0 → ∀ path : List Bytes, (∀ nodeId ∈ path, nodeId ∈ nodeIds plan) →
        path.IsChain (LeadsTo plan) → path.length ≤ maxPlanDepth.toNat) := by
    constructor
    · intro h
      exact ⟨{ h with depthCap := fun hne => absurd rfl hne }, h.depthCap⟩
    · rintro ⟨h, hdepth⟩
      exact { h with depthCap := hdepth }
  rw [hvalidate, show visitNodes order (mergedKnown plan) (mergedGraph plan).2 = some visited from
    hvisited, Option.bind_some, hsplit, ← hearly]
  unfold depthIssues
  by_cases hnone : earlyIssues plan maxPlanNodes visited = []
  · by_cases hzero : maxPlanDepth = 0
    · simp [hzero, hnone, finalizeResult]
    · have hvalid := hearly.mp hnone
      obtain ⟨depth, hdepth, hcap⟩ := computePlanDepth_spec plan hvalid
      have hpos : 0 < maxPlanDepth := UInt32.pos_iff_ne_zero.mpr hzero
      have hnodes : plan.nodes.isEmpty = false := by simpa using hvalid.nodes
      rw [if_pos (by simp [hpos, hnodes, hnone]), hdepth]
      refine ⟨_, rfl, ?_⟩
      rw [hnone]
      simp only [List.nil_append, finalizeResult, true_and, hzero, ne_eq, not_false_eq_true,
        forall_const]
      rw [← hcap]
      split <;> simp <;> omega
  · rw [if_neg (by simp [hnone])]
    exact ⟨_, rfl, by simp [finalizeResult, hnone]⟩

end Dasall.Cognition.Validation
