import Dasall.Tools.Route.ToolRouteSelector

/-!
# A lane that is overlooked

The scores do not ask whether a lane has a permit, the decision for the better lane does. When that
lane has none the other is not tried.
-/

open Dasall.Lib Dasall.Lib.Text Dasall.Tools.Config Dasall.Contracts.Tool Dasall.Tools.Execution
  Dasall.Tools.Registry

namespace Dasall.Tools.Route

variable (toolIr : ToolIR) (descriptor : ToolDescriptor) (timeoutView : ToolTimeoutView)
  (bindings : List MCPToolBinding) (capabilitySnapshot : Option CapabilitySnapshot)
  (health : ToolRouteHealthSnapshot)

/-- The builtin lane can take the tool. -/
def BuiltinLane : Prop :=
  (timeoutView.builtinLaneEnabled = true ∧ health.builtinLaneHealthy = true ∧
    descriptor.category ≠ none) ∧ (reserveBuiltin timeoutView).available = true

/-- The snapshot may be relied on, and its server has the tool of the binding. -/
structure Supports (snapshot : CapabilitySnapshot) (binding : MCPToolBinding) : Prop where
  unexpired : snapshot.freshness ≠ .expired
  trusted : snapshot.freshness = .stale → mayUseStaleSnapshot timeoutView snapshot = true
  server : binding.serverId = snapshot.serverId
  supported : snapshotSupportsBinding snapshot binding = true

/-- The lane of the binding's server can take the tool. -/
def McpLane (snapshot : CapabilitySnapshot) (binding : MCPToolBinding) : Prop :=
  (timeoutView.mcpLaneEnabled = true ∧ health.mcpLaneHealthy = true ∧
    Supports timeoutView snapshot binding) ∧
    (reserveMcp binding.serverId timeoutView).available = true

/-- There is a route exactly when there is a lane, and the route is to a lane that can be used. -/
structure FindsLane (decision : ToolRouteDecision) : Prop where
  complete : decision.available = true ↔ BuiltinLane descriptor timeoutView health ∨
    ∃ snapshot, capabilitySnapshot = some snapshot ∧
      ∃ binding ∈ bindings, McpLane timeoutView health snapshot binding
  sound : decision.available = true →
    (decision.route = .localTool ∧ decision.laneKey = (reserveBuiltin timeoutView).laneKey ∧
        BuiltinLane descriptor timeoutView health) ∨
      (decision.route = .mcpRemote ∧ ∃ snapshot, capabilitySnapshot = some snapshot ∧
        ∃ binding ∈ bindings, decision.serverId = some binding.serverId ∧
          decision.laneKey = (reserveMcp binding.serverId timeoutView).laneKey ∧
          McpLane timeoutView health snapshot binding)

/-- The server has the better score. The builtin lane wins a tie. -/
def prefersServer (snapshot : CapabilitySnapshot) : Bool :=
  toolIr.route = some .mcpRemote ||
    (toolIr.route ≠ some .localTool && snapshot.freshness = .fresh &&
      !descriptor.isReadOnly.getD false)

/-- Both lanes are open, the preferred one has no permit and the other has. -/
def Overlooked : Prop :=
  builtinUsable timeoutView health = true ∧ descriptor.category ≠ none ∧
    mcpUsable timeoutView bindings capabilitySnapshot health = true ∧
    ∃ snapshot, capabilitySnapshot = some snapshot ∧
      if prefersServer toolIr descriptor snapshot then
        (reserveMcp snapshot.serverId timeoutView).available = false ∧
          (reserveBuiltin timeoutView).available = true
      else
        (reserveBuiltin timeoutView).available = false ∧
          (reserveMcp snapshot.serverId timeoutView).available = true

/-! ## The decision -/

variable {toolIr descriptor timeoutView bindings capabilitySnapshot health}

theorem scoreBuiltinCandidate_pos (hworkflow : isWorkflowLike descriptor = false) :
    0 < scoreBuiltinCandidate toolIr descriptor timeoutView health ↔
      builtinUsable timeoutView health = true ∧ descriptor.category ≠ none := by
  by_cases hcategory : descriptor.category = none
  · unfold scoreBuiltinCandidate
    simp [hcategory]
  · rw [scoreBuiltinCandidate_eq toolIr descriptor timeoutView health hcategory hworkflow]
    cases builtinUsable timeoutView health with
    | false => simp
    | true =>
      simp only [if_true, hcategory, ne_eq, not_false_eq_true, and_self, iff_true]
      split_ifs <;> omega

theorem scoreBuiltinCandidate_nonneg (hworkflow : isWorkflowLike descriptor = false) :
    0 ≤ scoreBuiltinCandidate toolIr descriptor timeoutView health := by
  by_cases hcategory : descriptor.category = none
  · unfold scoreBuiltinCandidate
    simp [hcategory]
  · rw [scoreBuiltinCandidate_eq toolIr descriptor timeoutView health hcategory hworkflow]
    split_ifs <;> omega

theorem scoreMcpCandidate_pos :
    0 < scoreMcpCandidate toolIr timeoutView bindings capabilitySnapshot health ↔
      mcpUsable timeoutView bindings capabilitySnapshot health = true := by
  rw [scoreMcpCandidate_eq]
  cases mcpUsable timeoutView bindings capabilitySnapshot health with
  | false => simp
  | true =>
    simp only [if_true, iff_true]
    split_ifs <;> omega

/-- The better score among two open lanes, in terms of the call, the tool and the snapshot. -/
theorem score_lt_iff {snapshot : CapabilitySnapshot}
    (hworkflow : isWorkflowLike descriptor = false) (hcategory : descriptor.category ≠ none)
    (hbuiltin : builtinUsable timeoutView health = true)
    (hmcp : mcpUsable timeoutView bindings (some snapshot) health = true) :
    scoreBuiltinCandidate toolIr descriptor timeoutView health <
        scoreMcpCandidate toolIr timeoutView bindings (some snapshot) health ↔
      prefersServer toolIr descriptor snapshot = true := by
  rw [scoreBuiltinCandidate_eq toolIr descriptor timeoutView health hcategory hworkflow,
    scoreMcpCandidate_eq, if_pos hbuiltin, if_pos hmcp]
  unfold prefersServer prefersMcp
  rcases hroute : toolIr.route with - | (- | - | - | -) <;>
    cases descriptor.isReadOnly.getD false <;>
    cases hfreshness : snapshot.freshness <;>
    simp [hfreshness]

theorem selectedBinding_spec {snapshot : CapabilitySnapshot} {binding : MCPToolBinding}
    (h : selectedBinding bindings snapshot = some binding) :
    binding ∈ bindings ∧ binding.serverId = snapshot.serverId ∧
      snapshotSupportsBinding snapshot binding = true := by
  have hfound := List.find?_some h
  simp only [Bool.and_eq_true, decide_eq_true_eq] at hfound
  exact ⟨List.mem_of_find?_eq_some h, hfound.1, hfound.2⟩

/-- A lane to a server is there when the snapshot supports a binding and its server has a permit. -/
theorem exists_mcpLane_iff :
    (∃ snapshot, capabilitySnapshot = some snapshot ∧
        ∃ binding ∈ bindings, McpLane timeoutView health snapshot binding) ↔
      mcpUsable timeoutView bindings capabilitySnapshot health = true ∧
        ∃ snapshot, capabilitySnapshot = some snapshot ∧
          (reserveMcp snapshot.serverId timeoutView).available = true := by
  constructor
  · rintro ⟨snapshot, rfl, binding, hmem, ⟨henabled, hhealthy, hsupports⟩, hpermit⟩
    rw [hsupports.server] at hpermit
    refine ⟨?_, snapshot, rfl, hpermit⟩
    rw [mcpUsable_some]
    refine ⟨henabled, hhealthy, hsupports.unexpired, hsupports.trusted, ?_⟩
    rw [selectedBinding, List.find?_isSome]
    exact ⟨binding, hmem, by simp [hsupports.server, hsupports.supported]⟩
  · rintro ⟨husable, snapshot, rfl, hpermit⟩
    rw [mcpUsable_some] at husable
    obtain ⟨henabled, hhealthy, hunexpired, htrusted, hselected⟩ := husable
    obtain ⟨binding, hbinding⟩ := Option.isSome_iff_exists.mp hselected
    obtain ⟨hmem, hserver, hsupported⟩ := selectedBinding_spec hbinding
    refine ⟨snapshot, rfl, binding, hmem, ?_, by rwa [hserver]⟩
    exact ⟨henabled, hhealthy, hunexpired, htrusted, hserver, hsupported⟩

variable (toolIr timeoutView bindings capabilitySnapshot health) in
/-- The three ways through the selection. -/
theorem selectRoute_cases (hworkflow : isWorkflowLike descriptor = false) :
    (¬(builtinUsable timeoutView health = true ∧ descriptor.category ≠ none) ∧
        mcpUsable timeoutView bindings capabilitySnapshot health = false ∧
        selectRoute toolIr descriptor timeoutView bindings capabilitySnapshot health =
          unavailable (str "RouteUnavailable")) ∨
      ((builtinUsable timeoutView health = true ∧ descriptor.category ≠ none) ∧
        (∀ snapshot, capabilitySnapshot = some snapshot →
          mcpUsable timeoutView bindings capabilitySnapshot health = true →
          prefersServer toolIr descriptor snapshot = false) ∧
        selectRoute toolIr descriptor timeoutView bindings capabilitySnapshot health =
          buildBuiltinDecision timeoutView) ∨
      (mcpUsable timeoutView bindings capabilitySnapshot health = true ∧
        ∃ snapshot binding, capabilitySnapshot = some snapshot ∧
          selectedBinding bindings snapshot = some binding ∧
          (builtinUsable timeoutView health = true ∧ descriptor.category ≠ none →
            prefersServer toolIr descriptor snapshot = true) ∧
          selectRoute toolIr descriptor timeoutView bindings capabilitySnapshot health =
            buildMcpDecision binding timeoutView (snapshot.freshness = .stale)) := by
  have hbuiltinPos : 0 < scoreBuiltinCandidate toolIr descriptor timeoutView health ↔ _ :=
    scoreBuiltinCandidate_pos hworkflow
  have hnonneg : 0 ≤ scoreBuiltinCandidate toolIr descriptor timeoutView health :=
    scoreBuiltinCandidate_nonneg hworkflow
  have hmcpPos : 0 < scoreMcpCandidate toolIr timeoutView bindings capabilitySnapshot health ↔ _ :=
    scoreMcpCandidate_pos
  unfold selectRoute
  simp only [hworkflow, Bool.false_eq_true, if_false]
  by_cases hserver : mcpUsable timeoutView bindings capabilitySnapshot health = true
  · obtain ⟨snapshot, rfl⟩ : ∃ snapshot, capabilitySnapshot = some snapshot := by
      cases capabilitySnapshot with
      | none => simp [mcpUsable] at hserver
      | some snapshot => exact ⟨snapshot, rfl⟩
    have hsome := ((mcpUsable_some timeoutView bindings health snapshot).mp hserver).2.2.2.2
    obtain ⟨binding, hbinding⟩ := Option.isSome_iff_exists.mp hsome
    have hselected : selectMcpRoute timeoutView bindings (some snapshot) =
        some (buildMcpDecision binding timeoutView (snapshot.freshness = .stale)) := by
      simp [selectMcpRoute, hbinding]
    have hpositive := hmcpPos.mpr hserver
    rw [if_neg (by omega)]
    by_cases hless : scoreBuiltinCandidate toolIr descriptor timeoutView health <
        scoreMcpCandidate toolIr timeoutView bindings (some snapshot) health
    · refine .inr (.inr ⟨hserver, snapshot, binding, rfl, hbinding, ?_, ?_⟩)
      · rintro ⟨hbuiltin, hcategory⟩
        exact (score_lt_iff hworkflow hcategory hbuiltin hserver).mp hless
      · rw [if_pos hless, hselected]
    · have hbuiltin : 0 < scoreBuiltinCandidate toolIr descriptor timeoutView health := by omega
      obtain ⟨husable, hcategory⟩ := hbuiltinPos.mp hbuiltin
      refine .inr (.inl ⟨⟨husable, hcategory⟩, ?_, ?_⟩)
      · rintro _ hsnapshot -
        obtain rfl := Option.some.inj hsnapshot
        rw [Bool.eq_false_iff]
        exact mt (score_lt_iff hworkflow hcategory husable hserver).mpr hless
      · rw [if_neg hless]
        simp only
        rw [if_pos hbuiltin]
  · have hzero : scoreMcpCandidate toolIr timeoutView bindings capabilitySnapshot health ≤ 0 :=
      not_lt.mp (mt hmcpPos.mp hserver)
    rw [Bool.not_eq_true] at hserver
    by_cases hbuiltin : 0 < scoreBuiltinCandidate toolIr descriptor timeoutView health
    · refine .inr (.inl ⟨hbuiltinPos.mp hbuiltin, ?_, ?_⟩)
      · rintro _ - husable
        simp [hserver] at husable
      · rw [if_neg (by omega), if_neg (by omega)]
        simp only
        rw [if_pos hbuiltin]
    · refine .inl ⟨mt hbuiltinPos.mpr hbuiltin, hserver, ?_⟩
      rw [if_pos ⟨by omega, hzero⟩]

theorem buildBuiltinDecision_available :
    (buildBuiltinDecision timeoutView).available = (reserveBuiltin timeoutView).available := by
  unfold buildBuiltinDecision
  cases hpermit : (reserveBuiltin timeoutView).available with
  | false => simp [hpermit, unavailable]
  | true => simp [hpermit]

theorem buildMcpDecision_available (binding : MCPToolBinding) (usesStaleSnapshot : Bool) :
    (buildMcpDecision binding timeoutView usesStaleSnapshot).available =
      (reserveMcp binding.serverId timeoutView).available := by
  unfold buildMcpDecision
  cases hpermit : (reserveMcp binding.serverId timeoutView).available with
  | false => simp [hpermit, unavailable]
  | true => simp [hpermit]

theorem builtinLane_iff :
    BuiltinLane descriptor timeoutView health ↔
      (builtinUsable timeoutView health = true ∧ descriptor.category ≠ none) ∧
        (reserveBuiltin timeoutView).available = true := by
  simp [BuiltinLane, builtinUsable, and_assoc]

/-- A decision for the builtin lane is right unless the lane has no permit and a server has one. -/
theorem findsLane_builtin
    (hbuiltin : builtinUsable timeoutView health = true ∧ descriptor.category ≠ none) :
    FindsLane descriptor timeoutView bindings capabilitySnapshot health
        (buildBuiltinDecision timeoutView) ↔
      ¬((reserveBuiltin timeoutView).available = false ∧
        mcpUsable timeoutView bindings capabilitySnapshot health = true ∧
        ∃ snapshot, capabilitySnapshot = some snapshot ∧
          (reserveMcp snapshot.serverId timeoutView).available = true) := by
  have hlane : BuiltinLane descriptor timeoutView health ↔ _ := builtinLane_iff
  cases hpermit : (reserveBuiltin timeoutView).available with
  | false =>
    have hclosed : (buildBuiltinDecision timeoutView).available = false := by
      rw [buildBuiltinDecision_available, hpermit]
    rw [eq_self_iff_true, true_and, ← exists_mcpLane_iff]
    constructor
    · intro h hserver
      simpa [hclosed] using h.complete.mpr (.inr hserver)
    · intro hserver
      constructor
      · simp [hclosed, hserver, hlane, hpermit]
      · simp [hclosed]
  | true =>
    have hopen : (buildBuiltinDecision timeoutView).available = true := by
      rw [buildBuiltinDecision_available, hpermit]
    have hbuiltinLane := hlane.mpr ⟨hbuiltin, hpermit⟩
    simp only [Bool.true_eq_false, false_and, not_false_eq_true, iff_true]
    constructor
    · simp [hopen, hbuiltinLane]
    · intro _
      refine .inl ⟨?_, ?_, hbuiltinLane⟩ <;> simp [buildBuiltinDecision, hpermit]

/-- A decision for a server is right unless it has no permit and the builtin lane has one. -/
theorem findsLane_mcp {snapshot : CapabilitySnapshot} {binding : MCPToolBinding}
    (hserver : mcpUsable timeoutView bindings (some snapshot) health = true)
    (hbinding : selectedBinding bindings snapshot = some binding) (usesStaleSnapshot : Bool) :
    FindsLane descriptor timeoutView bindings (some snapshot) health
        (buildMcpDecision binding timeoutView usesStaleSnapshot) ↔
      ¬((builtinUsable timeoutView health = true ∧ descriptor.category ≠ none) ∧
        (reserveMcp snapshot.serverId timeoutView).available = false ∧
        (reserveBuiltin timeoutView).available = true) := by
  obtain ⟨hmem, hsame, hsupported⟩ := selectedBinding_spec hbinding
  obtain ⟨henabled, hhealthy, hunexpired, htrusted, -⟩ :=
    (mcpUsable_some timeoutView bindings health snapshot).mp hserver
  rw [← hsame]
  cases hpermit : (reserveMcp binding.serverId timeoutView).available with
  | false =>
    have hclosed : (buildMcpDecision binding timeoutView usesStaleSnapshot).available = false := by
      rw [buildMcpDecision_available, hpermit]
    rw [eq_self_iff_true, true_and, ← builtinLane_iff]
    constructor
    · intro h hbuiltin
      simpa [hclosed] using h.complete.mpr (.inl hbuiltin)
    · intro hbuiltin
      constructor
      · rw [exists_mcpLane_iff]
        simp [hclosed, hbuiltin, ← hsame, hpermit]
      · simp [hclosed]
  | true =>
    have hopen : (buildMcpDecision binding timeoutView usesStaleSnapshot).available = true := by
      rw [buildMcpDecision_available, hpermit]
    have hlane : McpLane timeoutView health snapshot binding :=
      ⟨⟨henabled, hhealthy, hunexpired, htrusted, hsame, hsupported⟩, hpermit⟩
    simp only [Bool.true_eq_false, false_and, and_false, not_false_eq_true, iff_true]
    constructor
    · exact iff_of_true hopen (.inr ⟨snapshot, rfl, binding, hmem, hlane⟩)
    · intro _
      refine .inr ⟨?_, snapshot, rfl, binding, hmem, ?_, ?_, hlane⟩ <;>
        simp [buildMcpDecision, hpermit]

/-! ## When a lane is found -/

/-- A lane that can take the tool is found whatever the call, unless both lanes are open, the one
with the better score has no permit, and the other has. -/
theorem findsLane_iff (hworkflow : isWorkflowLike descriptor = false) :
    FindsLane descriptor timeoutView bindings capabilitySnapshot health
        (selectRoute toolIr descriptor timeoutView bindings capabilitySnapshot health) ↔
      ¬Overlooked toolIr descriptor timeoutView bindings capabilitySnapshot health := by
  unfold Overlooked
  rcases selectRoute_cases toolIr timeoutView bindings capabilitySnapshot health hworkflow with
    ⟨hbuiltin, hserver, hroute⟩ | ⟨hbuiltin, hprefers, hroute⟩ |
    ⟨hserver, snapshot, binding, rfl, hbinding, hprefers, hroute⟩
  · rw [hroute]
    simp only [hserver, Bool.false_eq_true, false_and, and_false, not_false_eq_true, iff_true]
    constructor
    · rw [exists_mcpLane_iff, builtinLane_iff]
      simp [unavailable, hbuiltin, hserver]
    · simp [unavailable]
  · rw [hroute, findsLane_builtin hbuiltin]
    apply not_congr
    constructor
    · rintro ⟨hclosed, hserver, snapshot, hsnapshot, hpermit⟩
      refine ⟨hbuiltin.1, hbuiltin.2, hserver, snapshot, hsnapshot, ?_⟩
      rw [hprefers snapshot hsnapshot hserver]
      exact ⟨hclosed, hpermit⟩
    · rintro ⟨-, -, hserver, snapshot, hsnapshot, hpermits⟩
      rw [hprefers snapshot hsnapshot hserver] at hpermits
      exact ⟨hpermits.1, hserver, snapshot, hsnapshot, hpermits.2⟩
  · rw [hroute, findsLane_mcp hserver hbinding]
    apply not_congr
    constructor
    · rintro ⟨hbuiltin, hpermits⟩
      refine ⟨hbuiltin.1, hbuiltin.2, hserver, snapshot, rfl, ?_⟩
      rw [hprefers hbuiltin, if_pos rfl]
      exact hpermits
    · rintro ⟨hbuiltin, hcategory, -, _, hsnapshot, hpermits⟩
      obtain rfl := Option.some.inj hsnapshot
      rw [hprefers ⟨hbuiltin, hcategory⟩, if_pos rfl] at hpermits
      exact ⟨⟨hbuiltin, hcategory⟩, hpermits⟩

/-! ## A builtin lane without a timeout -/

def weatherBinding : MCPToolBinding where
  internalToolName := str "weather.lookup"
  remoteToolName := str "lookup"
  serverId := str "weather-server"

def weatherSnapshot : CapabilitySnapshot where
  serverId := str "weather-server"
  entries := [⟨str "weather", str "1", [str "lookup"]⟩]
  freshness := .stale
  trustMarker := some (str "trusted")

/-- Both lanes are enabled. The builtin lane may run for no time at all. -/
def serverOnlyTimeouts : ToolTimeoutView where
  mcp := { timeoutMs := 5000 }
  maxToolCalls := 4
  builtinLaneEnabled := true
  mcpLaneEnabled := true
  staleReadAllowed := true

def weatherDescriptor : ToolDescriptor := { category := some .information }

theorem findsLane_builtin_only :
    FindsLane weatherDescriptor { serverOnlyTimeouts with tool := { timeoutMs := 1000 } } [] none {}
      (selectRoute {} weatherDescriptor
        { serverOnlyTimeouts with tool := { timeoutMs := 1000 } } [] none {}) :=
  (findsLane_iff (by decide)).mpr (by simp [Overlooked])

/-- The server could serve the call, and the call is told that there is no route. -/
theorem selectRoute_overlooks :
    ¬∀ (toolIr : ToolIR) (descriptor : ToolDescriptor) (timeoutView : ToolTimeoutView)
      (bindings : List MCPToolBinding) (capabilitySnapshot : Option CapabilitySnapshot)
      (health : ToolRouteHealthSnapshot), isWorkflowLike descriptor = false →
      FindsLane descriptor timeoutView bindings capabilitySnapshot health
        (selectRoute toolIr descriptor timeoutView bindings capabilitySnapshot health) := by
  intro hclaim
  have h := (hclaim {} weatherDescriptor serverOnlyTimeouts [weatherBinding] (some weatherSnapshot)
    {} (by decide)).complete.mpr
  have hlane : McpLane serverOnlyTimeouts {} weatherSnapshot weatherBinding :=
    ⟨⟨rfl, rfl, ⟨by decide, by decide, rfl, by decide⟩⟩, by decide⟩
  have hopen := h (.inr ⟨weatherSnapshot, rfl, weatherBinding, by simp, hlane⟩)
  revert hopen
  decide

end Dasall.Tools.Route
