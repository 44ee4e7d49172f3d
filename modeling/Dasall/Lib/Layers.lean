import Mathlib.Data.Fintype.EquivFin

/-!
# Layers of a graph by counting

A node is ready when none of what it depends on is left. To emit the ready nodes lowers the counts
of their dependents, and those that come to nothing are the next layer. Whatever the graph, the
loop ends, no node comes twice, and a node comes after all it depends on.
-/

namespace Dasall.Lib.Layers

variable {α : Type} [DecidableEq α]

/-- One dependent of an emitted node. -/
def visit (state : (α → Nat) × List α) (dependent : α) : (α → Nat) × List α :=
  if 0 < state.1 dependent then
    let left := state.1 dependent - 1
    (Function.update state.1 dependent left,
      if left = 0 then state.2 ++ [dependent] else state.2)
  else state

/-- The counts after a layer, and who comes next. -/
def settle (dependents : α → List α) (indegree : α → Nat) (ready : List α) :
    (α → Nat) × List α :=
  ready.foldl (fun state node => (dependents node).foldl visit state) (indegree, [])

/-- `while (!ready.empty())`, for as many turns as there is fuel. The next layer is put in order. -/
def layersFrom (dependents : α → List α) (arrange : List α → List α) :
    Nat → (α → Nat) → List α → Option (List (List α))
  | 0, _, _ => none
  | fuel + 1, indegree, ready =>
    if ready.isEmpty then some []
    else
      let (indegree, next) := settle dependents indegree ready
      (layersFrom dependents arrange fuel indegree (arrange next)).map (ready :: ·)

/-! ## One node -/

theorem foldl_visit (nodes : List α) (hnodup : nodes.Nodup) (indegree : α → Nat) (next : List α) :
    nodes.foldl visit (indegree, next) =
      (fun node => indegree node - if node ∈ nodes then 1 else 0,
        next ++ nodes.filter fun node => indegree node = 1) := by
  induction nodes generalizing indegree next with
  | nil => simp
  | cons node nodes ih =>
    rw [List.nodup_cons] at hnodup
    rw [List.foldl_cons]
    have hvisit : visit (indegree, next) node =
        (Function.update indegree node (indegree node - 1),
          next ++ if indegree node = 1 then [node] else []) := by
      unfold visit
      by_cases hpos : 0 < indegree node
      · have hone : indegree node - 1 = 0 ↔ indegree node = 1 := by omega
        simp only [hpos, if_true, hone]
        split <;> simp
      · have hzero : indegree node = 0 := by omega
        simp [hzero]
    rw [hvisit, ih hnodup.2]
    refine Prod.ext ?_ ?_
    · funext other
      by_cases hother : other = node
      · subst hother
        simp [hnodup.1]
      · simp [hother]
    · have hrest : (nodes.filter fun other => Function.update indegree node (indegree node - 1) other = 1) =
          nodes.filter fun other => indegree other = 1 := by
        apply List.filter_congr
        intro other hother
        have hne : other ≠ node := by
          rintro rfl
          exact hnodup.1 hother
        simp [hne]
      simp only [hrest, List.filter_cons, List.append_assoc]
      split <;> simp_all

/-! ## The graph -/

/-- `dependents` are the nodes that depend on a node, each once. -/
structure Graph (nodes : List α) (deps dependents : α → List α) : Prop where
  nodup : nodes.Nodup
  deps_nodup : ∀ node ∈ nodes, (deps node).Nodup
  mem_dependents : ∀ source node, node ∈ dependents source ↔ node ∈ nodes ∧ source ∈ deps node
  dependents_nodup : ∀ source, (dependents source).Nodup

/-- How many of a node's dependencies are not done. -/
def waiting (deps : α → List α) (done : List α) (node : α) : Nat :=
  (deps node).countP fun source => source ∉ done

theorem waiting_eq_zero (deps : α → List α) (done : List α) (node : α) :
    waiting deps done node = 0 ↔ ∀ source ∈ deps node, source ∈ done := by
  simp [waiting, List.countP_eq_zero]

theorem waiting_append_single (deps : α → List α) (done : List α) (node source : α)
    (hnodup : (deps node).Nodup) (hdone : source ∉ done) :
    waiting deps (done ++ [source]) node =
      waiting deps done node - if source ∈ deps node then 1 else 0 := by
  unfold waiting
  generalize deps node = sources at hnodup
  induction sources with
  | nil => simp
  | cons first sources ih =>
    rw [List.nodup_cons] at hnodup
    rw [List.countP_cons, List.countP_cons, ih hnodup.2]
    by_cases hfirst : first = source
    · subst hfirst
      simp [hdone, hnodup.1]
    · have hother : source ≠ first := fun h => hfirst h.symm
      have hsame : (first ∉ done ++ [source]) ↔ first ∉ done := by simp [hfirst]
      by_cases hmem : source ∈ sources
      · have hpos : 0 < sources.countP fun source => source ∉ done :=
          List.countP_pos_iff.mpr ⟨source, hmem, by simpa using hdone⟩
        simp only [hsame, hmem, List.mem_cons, or_true, if_true]
        omega
      · simp [hfirst, hother, hmem]

variable {nodes : List α} {deps dependents : α → List α}

/-- What is true while the nodes of a layer are settled, one after another: the counts are those of
what is done, and next are the nodes whose counts came to nothing since the layer began. -/
structure Settled (nodes : List α) (deps : α → List α) (before done : List α)
    (state : (α → Nat) × List α) : Prop where
  counts : ∀ node ∈ nodes, state.1 node = waiting deps done node
  nodup : state.2.Nodup
  next : ∀ node, node ∈ state.2 ↔
    node ∈ nodes ∧ waiting deps done node = 0 ∧ waiting deps before node ≠ 0

theorem settled_node (hgraph : Graph nodes deps dependents) (before done : List α) (source : α)
    (hdone : source ∉ done) (state : (α → Nat) × List α)
    (h : Settled nodes deps before done state)
    (hsub : ∀ node ∈ nodes, waiting deps done node ≤ waiting deps before node) :
    Settled nodes deps before (done ++ [source]) ((dependents source).foldl visit state) := by
  have hcount : ∀ node ∈ nodes, waiting deps (done ++ [source]) node =
      waiting deps done node - if node ∈ dependents source then 1 else 0 := by
    intro node hnode
    rw [waiting_append_single deps done node source (hgraph.deps_nodup node hnode) hdone]
    simp [hgraph.mem_dependents, hnode]
  obtain ⟨indegree, next⟩ := state
  obtain ⟨hcounts, hnodup, hnext⟩ := h
  simp only at hcounts hnodup hnext
  rw [foldl_visit (dependents source) (hgraph.dependents_nodup source)]
  have hin : ∀ node ∈ dependents source, node ∈ nodes := by
    intro node hnode
    exact ((hgraph.mem_dependents source node).mp hnode).1
  constructor
  · intro node hnode
    simp only
    rw [hcount node hnode, hcounts node hnode]
  · rw [List.nodup_append]
    refine ⟨hnodup, (hgraph.dependents_nodup source).filter _, ?_⟩
    intro first hfirst second hsecond
    rintro rfl
    rw [List.mem_filter, decide_eq_true_eq] at hsecond
    have hzero := ((hnext first).mp hfirst).2.1
    rw [hcounts first (hin first hsecond.1)] at hsecond
    omega
  · intro node
    rw [List.mem_append, List.mem_filter, decide_eq_true_eq, hnext]
    constructor
    · rintro (⟨hnode, hzero, hbefore⟩ | ⟨hdependent, hone⟩)
      · exact ⟨hnode, by rw [hcount node hnode]; omega, hbefore⟩
      · have hnode := hin node hdependent
        have hle := hsub node hnode
        rw [hcounts node hnode] at hone
        exact ⟨hnode, by rw [hcount node hnode, if_pos hdependent]; omega, by omega⟩
    · rintro ⟨hnode, hzero, hbefore⟩
      rw [hcount node hnode] at hzero
      by_cases hold : waiting deps done node = 0
      · exact .inl ⟨hnode, hold, hbefore⟩
      · by_cases hdependent : node ∈ dependents source
        · rw [if_pos hdependent] at hzero
          refine .inr ⟨hdependent, ?_⟩
          rw [hcounts node hnode]
          omega
        · rw [if_neg hdependent] at hzero
          omega

theorem waiting_append_le (deps : α → List α) (done more : List α) (node : α) :
    waiting deps (done ++ more) node ≤ waiting deps done node := by
  apply List.countP_mono_left
  intro source _
  simp only [List.mem_append, decide_eq_true_eq, not_or]
  exact fun h => h.1

theorem settled_nodes (hgraph : Graph nodes deps dependents) (done ready settled : List α)
    (hnodup : (done ++ settled ++ ready).Nodup) (state : (α → Nat) × List α)
    (h : Settled nodes deps done (done ++ settled) state) :
    Settled nodes deps done (done ++ settled ++ ready)
      (ready.foldl (fun state node => (dependents node).foldl visit state) state) := by
  induction ready generalizing settled state with
  | nil => simpa using h
  | cons source ready ih =>
    rw [List.foldl_cons]
    have hsource : source ∉ done ++ settled := by
      have := List.nodup_append.mp hnodup
      intro hmem
      exact this.2.2 source hmem source (by simp) rfl
    have hnext := settled_node hgraph done (done ++ settled) source hsource state h
      (fun node _ => waiting_append_le deps done settled node)
    have hassoc : done ++ settled ++ [source] = done ++ (settled ++ [source]) := by simp
    have hwhole : done ++ settled ++ source :: ready = done ++ (settled ++ [source]) ++ ready := by
      simp
    rw [hassoc] at hnext
    rw [hwhole] at hnodup ⊢
    exact ih (settled ++ [source]) hnodup _ hnext

/-! ## The loop -/

/-- Between two layers: what is done or ready is what has nothing left to wait for. -/
structure Invariant (nodes : List α) (deps : α → List α) (done : List α) (indegree : α → Nat)
    (ready : List α) : Prop where
  counts : ∀ node ∈ nodes, indegree node = waiting deps done node
  nodup : (done ++ ready).Nodup
  free : ∀ node, node ∈ done ++ ready ↔ node ∈ nodes ∧ waiting deps done node = 0

theorem Invariant.length_le {done ready : List α} {indegree : α → Nat}
    (h : Invariant nodes deps done indegree ready) : done.length ≤ nodes.length := by
  have hsub : done ⊆ nodes := fun node hnode => ((h.free node).mp (List.mem_append_left _ hnode)).1
  exact (List.subperm_of_subset h.nodup.of_append_left hsub).length_le

/-- Every node comes after the nodes it depends on. -/
def Respects (deps : α → List α) (done order : List α) : Prop :=
  ∀ before node after, order = before ++ node :: after →
    ∀ source ∈ deps node, source ∈ done ++ before

theorem invariant_next (hgraph : Graph nodes deps dependents) (arrange : List α → List α)
    (harrange : ∀ l, (arrange l).Perm l) (done : List α) (indegree : α → Nat) (ready : List α)
    (h : Invariant nodes deps done indegree ready) :
    Invariant nodes deps (done ++ ready) (settle dependents indegree ready).1
      (arrange (settle dependents indegree ready).2) := by
  have hstart : Settled nodes deps done (done ++ []) (indegree, []) := by
    rw [List.append_nil]
    refine ⟨h.counts, List.nodup_nil, ?_⟩
    intro node
    simp
  have hsettled := settled_nodes hgraph done ready [] (by simpa using h.nodup) _ hstart
  rw [List.append_nil] at hsettled
  change Settled nodes deps done (done ++ ready) (settle dependents indegree ready) at hsettled
  have hmem : ∀ node, node ∈ arrange (settle dependents indegree ready).2 ↔
      node ∈ (settle dependents indegree ready).2 := fun node => (harrange _).mem_iff
  constructor
  · exact hsettled.counts
  · rw [List.nodup_append]
    refine ⟨h.nodup, (harrange _).nodup_iff.mpr hsettled.nodup, ?_⟩
    intro first hfirst second hsecond
    rintro rfl
    rw [hmem, hsettled.next] at hsecond
    exact hsecond.2.2 ((h.free first).mp hfirst).2
  · intro node
    rw [List.mem_append, hmem, hsettled.next, h.free]
    have hle := waiting_append_le deps done ready node
    constructor
    · rintro (⟨hnode, hzero⟩ | ⟨hnode, hzero, -⟩)
      · exact ⟨hnode, by omega⟩
      · exact ⟨hnode, hzero⟩
    · rintro ⟨hnode, hzero⟩
      by_cases hbefore : waiting deps done node = 0
      · exact .inl ⟨hnode, hbefore⟩
      · exact .inr ⟨hnode, hzero, hbefore⟩

omit [DecidableEq α] in
theorem respects_append (deps : α → List α) (done first second : List α)
    (hfirst : ∀ node ∈ first, ∀ source ∈ deps node, source ∈ done)
    (hsecond : Respects deps (done ++ first) second) : Respects deps done (first ++ second) := by
  intro before node after h source hsource
  rcases List.append_eq_append_iff.mp h with ⟨rest, rfl, hrest⟩ | ⟨rest, rfl, hrest⟩
  · have := hsecond rest node after hrest source hsource
    simpa using this
  · rcases rest with _ | ⟨head, rest⟩
    · have := hsecond [] node after (by simpa using hrest.symm) source hsource
      simpa using this
    · rw [List.cons_append, List.cons.injEq] at hrest
      obtain ⟨rfl, -⟩ := hrest
      have := hfirst node (by simp) source hsource
      simp [this]

/-- The loop ends. What it emits comes once, are nodes, and comes after its dependencies. -/
theorem layersFrom_spec (hgraph : Graph nodes deps dependents) (arrange : List α → List α)
    (harrange : ∀ l, (arrange l).Perm l) (fuel : Nat) (done : List α) (indegree : α → Nat)
    (ready : List α) (h : Invariant nodes deps done indegree ready)
    (hfuel : nodes.length < done.length + fuel) :
    ∃ layers, layersFrom dependents arrange fuel indegree ready = some layers ∧
      (done ++ layers.flatten).Nodup ∧ (∀ node ∈ layers.flatten, node ∈ nodes) ∧
      Respects deps done layers.flatten := by
  induction fuel generalizing done indegree ready with
  | zero =>
    have hle := h.length_le
    omega
  | succ fuel ih =>
    unfold layersFrom
    by_cases hempty : ready = []
    · refine ⟨[], by simp [hempty], ?_, by simp, ?_⟩
      · simpa [hempty] using h.nodup
      · intro before node after hsplit
        simp at hsplit
    · have hnext := invariant_next hgraph arrange harrange done indegree ready h
      have hpos := List.length_pos_iff.mpr hempty
      obtain ⟨layers, hlayers, hnodup, hnodes, hrespects⟩ := ih (done ++ ready) _ _ hnext
        (by rw [List.length_append]; omega)
      refine ⟨ready :: layers, ?_, ?_, ?_, ?_⟩
      · simp [hempty, hlayers]
      · simpa using hnodup
      · rw [List.flatten_cons]
        intro node hnode
        rcases List.mem_append.mp hnode with hready | hlater
        · exact ((h.free node).mp (List.mem_append_right _ hready)).1
        · exact hnodes node hlater
      · rw [List.flatten_cons]
        apply respects_append deps done ready layers.flatten _ hrespects
        intro node hnode source hsource
        have hzero := ((h.free node).mp (List.mem_append_right _ hnode)).2
        exact (waiting_eq_zero deps done node).mp hzero source hsource

/-- At the start nothing is done, and ready are the nodes that depend on nothing. -/
theorem invariant_start (hgraph : Graph nodes deps dependents) (indegree : α → Nat)
    (ready : List α) (hcount : ∀ node ∈ nodes, indegree node = (deps node).length)
    (hready : ready.Perm (nodes.filter fun node => indegree node = 0)) :
    Invariant nodes deps [] indegree ready := by
  have hwaiting : ∀ node, waiting deps [] node = (deps node).length := by
    intro node
    simp [waiting]
  constructor
  · intro node hnode
    rw [hwaiting, hcount node hnode]
  · rw [List.nil_append, hready.nodup_iff]
    exact hgraph.nodup.filter _
  · intro node
    rw [List.nil_append, hready.mem_iff, List.mem_filter, hwaiting, decide_eq_true_eq]
    apply and_congr_right
    intro hnode
    rw [hcount node hnode]

omit [DecidableEq α] in
/-- Nodes that come once are all the nodes when there are as many. -/
theorem perm_of_length (order : List α) (horder : order.Nodup)
    (hsub : ∀ node ∈ order, node ∈ nodes) (hlength : order.length = nodes.length) :
    order.Perm nodes :=
  (List.subperm_of_subset horder hsub).perm_of_length_le (by omega)

/-! ## One node at a time -/

/-- `while (!queue.empty())`: the node in front is emitted, and the dependents that it was the last
to hold up join the queue. -/
def drain (dependents : α → List α) : Nat → (α → Nat) → List α → Option (List α)
  | 0, _, _ => none
  | _ + 1, _, [] => some []
  | fuel + 1, indegree, node :: queue =>
    let (indegree, queue) := (dependents node).foldl visit (indegree, queue)
    (drain dependents fuel indegree queue).map (node :: ·)

theorem invariant_pop (hgraph : Graph nodes deps dependents) (done : List α) (indegree : α → Nat)
    (node : α) (queue : List α) (h : Invariant nodes deps done indegree (node :: queue)) :
    Invariant nodes deps (done ++ [node]) ((dependents node).foldl visit (indegree, queue)).1
      ((dependents node).foldl visit (indegree, queue)).2 := by
  have hnode : node ∉ done := fun hmem =>
    (List.nodup_append.mp h.nodup).2.2 node hmem node (by simp) rfl
  have hstart : Settled nodes deps done done (indegree, []) :=
    ⟨h.counts, List.nodup_nil, by simp⟩
  have hsettled := settled_node hgraph done done node hnode (indegree, []) hstart
    fun _ _ => le_refl _
  rw [foldl_visit (dependents node) (hgraph.dependents_nodup node)] at hsettled ⊢
  rw [List.nil_append] at hsettled
  have hnext := hsettled.next
  simp only at hnext ⊢
  have hold : done ++ node :: queue = done ++ [node] ++ queue := by simp
  have hnodup := h.nodup
  have hfree := h.free
  rw [hold] at hnodup hfree
  constructor
  · exact hsettled.counts
  · rw [← List.append_assoc, List.nodup_append]
    refine ⟨hnodup, hsettled.nodup, ?_⟩
    rintro first hfirst second hsecond rfl
    exact ((hnext first).mp hsecond).2.2 ((hfree first).mp hfirst).2
  · intro other
    rw [← List.append_assoc, List.mem_append, hfree, hnext]
    have hle := waiting_append_le deps done [node] other
    constructor
    · rintro (⟨hin, hzero⟩ | ⟨hin, hzero, -⟩)
      · exact ⟨hin, by omega⟩
      · exact ⟨hin, hzero⟩
    · rintro ⟨hin, hzero⟩
      by_cases hbefore : waiting deps done other = 0
      · exact .inl ⟨hin, hbefore⟩
      · exact .inr ⟨hin, hzero, hbefore⟩

theorem drain_spec (hgraph : Graph nodes deps dependents) (fuel : Nat) (done : List α)
    (indegree : α → Nat) (queue : List α) (h : Invariant nodes deps done indegree queue)
    (hfuel : nodes.length < done.length + fuel) :
    ∃ order indegree', drain dependents fuel indegree queue = some order ∧
      Invariant nodes deps (done ++ order) indegree' [] ∧ Respects deps done order := by
  induction fuel generalizing done indegree queue with
  | zero =>
    have hle := h.length_le
    omega
  | succ fuel ih =>
    cases queue with
    | nil => exact ⟨[], indegree, rfl, by simpa using h, by intro _ _ _ hsplit; simp at hsplit⟩
    | cons node queue =>
      have hnext := invariant_pop hgraph done indegree node queue h
      obtain ⟨order, indegree', hdrain, hdone, hrespects⟩ := ih (done ++ [node]) _ _ hnext
        (by rw [List.length_append, List.length_singleton]; omega)
      refine ⟨node :: order, indegree', ?_, by simpa using hdone, ?_⟩
      · unfold drain
        simp only
        rw [hdrain, Option.map_some]
      · apply respects_append deps done [node] order _ hrespects
        intro other hother source hsource
        rw [List.mem_singleton] at hother
        subst hother
        have hzero := ((h.free other).mp (by simp)).2
        exact (waiting_eq_zero deps done other).mp hzero source hsource

/-! ## Cycles -/

/-- No node is reached from itself. -/
def Acyclic (nodes : List α) (deps : α → List α) : Prop :=
  ∀ node ∈ nodes, ¬Relation.TransGen (fun source node => source ∈ deps node) node node

variable {order : List α}

/-- What a node is reached from stands before it. -/
theorem idxOf_lt_of_transGen (h : Respects deps [] order) {source node : α}
    (hreached : Relation.TransGen (fun source node => source ∈ deps node) source node)
    (hnode : node ∈ order) : source ∈ order ∧ order.idxOf source < order.idxOf node := by
  have hstep : ∀ {first second : α}, first ∈ deps second → second ∈ order →
      first ∈ order ∧ order.idxOf first < order.idxOf second := by
    intro first second hfirst hsecond
    have hlt := List.idxOf_lt_length_iff.mpr hsecond
    have hsplit : order = order.take (order.idxOf second) ++
        second :: order.drop (order.idxOf second + 1) := by
      conv_lhs => rw [← List.take_append_drop (order.idxOf second) order,
        List.drop_eq_getElem_cons hlt, List.getElem_idxOf hlt]
    have hbefore := h _ _ _ hsplit first hfirst
    rw [List.nil_append] at hbefore
    refine ⟨List.mem_of_mem_take hbefore, ?_⟩
    have hin := List.idxOf_lt_length_iff.mpr hbefore
    have hsame : order.idxOf first = (order.take (order.idxOf second)).idxOf first := by
      conv_lhs => rw [hsplit]
      exact List.idxOf_append_of_mem hbefore
    rw [List.length_take] at hin
    omega
  induction hreached with
  | single hdep => exact hstep hdep hnode
  | tail _ hdep ih =>
    obtain ⟨hmem, hlt⟩ := hstep hdep hnode
    obtain ⟨hsource, hbefore⟩ := ih hmem
    exact ⟨hsource, by omega⟩

/-- When the loop has ended, what it has not reached is on a cycle or behind one. -/
theorem mem_of_acyclic {indegree : α → Nat}
    (h : Invariant nodes deps order indegree []) (hacyclic : Acyclic nodes deps)
    (hknown : ∀ node ∈ nodes, ∀ source ∈ deps node, source ∈ nodes) :
    ∀ node ∈ nodes, node ∈ order := by
  let reaches (first second : {node // node ∈ nodes}) : Prop :=
    Relation.TransGen (fun source node => source ∈ deps node) first.1 second.1
  have : Finite {node // node ∈ nodes} :=
    @Finite.of_fintype _ (Fintype.subtype nodes.toFinset (by simp))
  have : Std.Irrefl reaches := ⟨fun node => hacyclic node.1 node.2⟩
  have : IsTrans _ reaches := ⟨fun _ _ _ hfirst hsecond => hfirst.trans hsecond⟩
  have hwf : WellFounded reaches := Finite.wellFounded_of_trans_of_irrefl reaches
  intro node hnode
  suffices ∀ node : {node // node ∈ nodes}, node.1 ∈ order from this ⟨node, hnode⟩
  intro node
  induction node using hwf.induction with
  | h node ih =>
    have hfree := h.free node.1
    rw [List.append_nil] at hfree
    rw [hfree, waiting_eq_zero]
    refine ⟨node.2, fun source hsource => ?_⟩
    exact ih ⟨source, hknown node.1 node.2 source hsource⟩ (.single hsource)

/-- The loop reaches as many nodes as there are exactly when there is no cycle. -/
theorem length_eq_iff_acyclic {indegree : α → Nat}
    (h : Invariant nodes deps order indegree []) (hnodes : nodes.Nodup)
    (hrespects : Respects deps [] order)
    (hknown : ∀ node ∈ nodes, ∀ source ∈ deps node, source ∈ nodes) :
    order.length = nodes.length ↔ Acyclic nodes deps := by
  have hnodup := h.nodup
  rw [List.append_nil] at hnodup
  have hsub : ∀ node ∈ order, node ∈ nodes := by
    intro node hnode
    exact ((h.free node).mp (List.mem_append_left _ hnode)).1
  constructor
  · intro hlength node hnode hcycle
    have hmem := (perm_of_length order hnodup hsub hlength).mem_iff.mpr hnode
    have := (idxOf_lt_of_transGen hrespects hcycle hmem).2
    omega
  · intro hacyclic
    have hall := mem_of_acyclic h hacyclic hknown
    apply Nat.le_antisymm
    · exact (List.subperm_of_subset hnodup hsub).length_le
    · exact (List.subperm_of_subset hnodes hall).length_le

/-! ## How early a node comes -/

/-- A node's dependencies are in the layers before its own, and one of them is in the last of these
unless there is none. -/
def Placed (deps : α → List α) (before : List (List α)) (node : α) : Prop :=
  (∀ source ∈ deps node, source ∈ before.flatten) ∧
    ∀ last ∈ before.getLast?, ∃ source ∈ deps node, source ∈ last

def Layered (deps : α → List α) (layers : List (List α)) : Prop :=
  ∀ before layer after, layers = before ++ layer :: after → ∀ node ∈ layer, Placed deps before node

omit [DecidableEq α] in
theorem layered_snoc {layers : List (List α)} {ready : List α} (h : Layered deps layers)
    (hready : ∀ node ∈ ready, Placed deps layers node) : Layered deps (layers ++ [ready]) := by
  intro before layer after hsplit
  rcases List.eq_nil_or_concat after with rfl | ⟨rest, last, rfl⟩
  · obtain ⟨rfl, hlast⟩ := List.append_inj' hsplit rfl
    rw [List.cons.injEq] at hlast
    rwa [← hlast.1]
  · rw [List.concat_eq_append, ← List.cons_append, ← List.append_assoc] at hsplit
    exact h before layer rest (List.append_inj' hsplit rfl).1

/-- The loop ends with nothing ready, and every node is in the layer behind its dependencies. -/
theorem layersFrom_finishes (hgraph : Graph nodes deps dependents) (arrange : List α → List α)
    (harrange : ∀ l, (arrange l).Perm l) (fuel : Nat) (emitted : List (List α))
    (indegree : α → Nat) (ready : List α)
    (h : Invariant nodes deps emitted.flatten indegree ready) (hlayered : Layered deps emitted)
    (hready : ∀ node ∈ ready, Placed deps emitted node)
    (hfuel : nodes.length < emitted.flatten.length + fuel) :
    ∃ layers indegree', layersFrom dependents arrange fuel indegree ready = some layers ∧
      Invariant nodes deps (emitted ++ layers).flatten indegree' [] ∧
      Layered deps (emitted ++ layers) := by
  induction fuel generalizing emitted indegree ready with
  | zero =>
    have hsub : emitted.flatten ⊆ nodes := by
      intro node hnode
      exact ((h.free node).mp (List.mem_append_left _ hnode)).1
    have hle := (List.subperm_of_subset h.nodup.of_append_left hsub).length_le
    omega
  | succ fuel ih =>
    unfold layersFrom
    by_cases hempty : ready = []
    · subst hempty
      refine ⟨[], indegree, by simp, by simpa using h, by simpa using hlayered⟩
    · have hnext := invariant_next hgraph arrange harrange emitted.flatten indegree ready h
      have hflat : (emitted ++ [ready]).flatten = emitted.flatten ++ ready := by simp
      have hpos := List.length_pos_iff.mpr hempty
      have hplaced : ∀ node ∈ arrange (settle dependents indegree ready).2,
          Placed deps (emitted ++ [ready]) node := by
        intro node hnode
        obtain ⟨hin, hzero⟩ := (hnext.free node).mp (List.mem_append_right _ hnode)
        have hnew : node ∉ emitted.flatten ++ ready := fun hold =>
          (List.nodup_append.mp hnext.nodup).2.2 node hold node hnode rfl
        rw [waiting_eq_zero] at hzero
        refine ⟨by simpa [hflat] using hzero, ?_⟩
        have hwaits : ¬∀ source ∈ deps node, source ∈ emitted.flatten := by
          rw [← waiting_eq_zero]
          exact fun hfree => hnew ((h.free node).mpr ⟨hin, hfree⟩)
        push Not at hwaits
        obtain ⟨source, hsource, hlate⟩ := hwaits
        rw [List.getLast?_concat]
        rintro _ ⟨⟩
        exact ⟨source, hsource, (List.mem_append.mp (hzero source hsource)).resolve_left hlate⟩
      rw [← hflat] at hnext
      obtain ⟨layers, indegree', hlayers, hdone, hall⟩ := ih (emitted ++ [ready]) _ _ hnext
        (layered_snoc hlayered hready) hplaced (by rw [hflat, List.length_append]; omega)
      refine ⟨ready :: layers, indegree', ?_, by simpa using hdone, by simpa using hall⟩
      simp [hempty, hlayers]

theorem layersFrom_nonempty {arrange : List α → List α} {fuel : Nat} {indegree : α → Nat}
    {ready : List α} {layers : List (List α)}
    (h : layersFrom dependents arrange fuel indegree ready = some layers) :
    ∀ layer ∈ layers, layer ≠ [] := by
  induction fuel generalizing indegree ready layers with
  | zero => simp [layersFrom] at h
  | succ fuel ih =>
    unfold layersFrom at h
    split at h
    · obtain rfl := Option.some.inj h
      simp
    · next hready =>
      obtain ⟨rest, hrest, rfl⟩ := Option.map_eq_some_iff.mp h
      rw [List.forall_mem_cons]
      exact ⟨by simpa using hready, ih hrest⟩

/-- The layer that holds a node. -/
def layerOf (layers : List (List α)) (node : α) : Nat := layers.findIdx (node ∈ ·)

theorem layerOf_eq {before : List (List α)} {layer : List α} {after : List (List α)} {node : α}
    (hnodup : (before ++ layer :: after).flatten.Nodup) (hnode : node ∈ layer) :
    layerOf (before ++ layer :: after) node = before.length := by
  have hnot : ∀ earlier ∈ before, node ∉ earlier := by
    intro earlier hearlier hmem
    rw [List.flatten_append, List.nodup_append] at hnodup
    exact hnodup.2.2 node (List.mem_flatten.mpr ⟨earlier, hearlier, hmem⟩) node
      (by simp [hnode]) rfl
  have hnone : before.findIdx (node ∈ ·) = before.length :=
    List.findIdx_eq_length.mpr (by simpa using hnot)
  rw [layerOf, List.findIdx_append, hnone, if_neg (lt_irrefl _), List.findIdx_cons]
  simp [hnode]

/-- The layer of a node is one more than the last layer of its dependencies. -/
theorem layerOf_spec {layers : List (List α)} (h : Layered deps layers)
    (hnodup : layers.flatten.Nodup) {node : α} (hnode : node ∈ layers.flatten) :
    (∀ source ∈ deps node, layerOf layers source < layerOf layers node) ∧
      (layerOf layers node ≠ 0 →
        ∃ source ∈ deps node, layerOf layers node = layerOf layers source + 1) := by
  obtain ⟨layer, hlayer, hmem⟩ := List.mem_flatten.mp hnode
  obtain ⟨before, after, rfl⟩ := List.append_of_mem hlayer
  obtain ⟨hbefore, hlast⟩ := h before layer after rfl node hmem
  have hindex := layerOf_eq hnodup hmem
  constructor
  · intro source hsource
    obtain ⟨earlier, hearlier, hin⟩ := List.mem_flatten.mp (hbefore source hsource)
    obtain ⟨front, back, rfl⟩ := List.append_of_mem hearlier
    rw [hindex]
    rw [List.append_assoc, List.cons_append] at hnodup ⊢
    rw [layerOf_eq hnodup hin]
    simp
  · intro hpos
    rcases List.eq_nil_or_concat before with rfl | ⟨front, last, rfl⟩
    · exact absurd hindex hpos
    · rw [List.concat_eq_append] at *
      obtain ⟨source, hsource, hin⟩ := hlast last (by simp)
      refine ⟨source, hsource, ?_⟩
      rw [hindex]
      rw [List.append_assoc, List.singleton_append] at hnodup ⊢
      rw [layerOf_eq hnodup hin]
      simp

end Dasall.Lib.Layers
