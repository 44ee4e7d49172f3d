import Dasall.Infra.Policy.DecisionProjector

/-!
# Deny first

The order of a bundle governs its scopes: under deny-first a scope that holds a deny keeps one.
Between scopes the projector has its own order, and there a lower priority number beats a deny.
-/

open Dasall.Lib.Sort Dasall.Lib.Text

namespace Dasall.Infra.Policy

/-- No rule asks for the explicit order. -/
def NoExplicitPriority (bundle : PolicyBundle) : Prop :=
  ∀ rule ∈ bundle.rules, str "priority_order=explicit-priority" ∉ rule.conditions

instance (bundle : PolicyBundle) : Decidable (NoExplicitPriority bundle) :=
  inferInstanceAs (Decidable (∀ rule ∈ bundle.rules, _))

variable (bundle : PolicyBundle) (query : PolicyQueryContext) (rules : List PolicyRuleDescriptor)
  (snapshot : PolicySnapshot) (first : MatchedRule)

theorem extractPriorityOrder_denyFirst (h : NoExplicitPriority bundle) :
    extractPriorityOrder bundle = str "deny-first" := by
  unfold extractPriorityOrder
  dsimp only
  apply if_neg
  intro hexplicit
  obtain ⟨rule, hrule, hitem⟩ := List.exists_of_findSome?_eq_some hexplicit
  rw [Option.map_eq_some_iff] at hitem
  obtain ⟨item, hfind, hdrop⟩ := hitem
  have hkey : (str "priority_order=").isPrefixOf item = true := by
    simpa using List.find?_some hfind
  obtain ⟨order, horder⟩ := List.isPrefixOf_iff_prefix.mp hkey
  rw [← horder, List.drop_left] at hdrop
  apply h rule hrule
  have hwhole : str "priority_order=explicit-priority" = item := by
    rw [← horder, hdrop]
    rfl
  rw [hwhole]
  exact List.mem_of_find?_eq_some hfind

theorem precedence_zero (effect : PolicyEffect) :
    policyEffectPrecedence effect ≤ 0 ↔ effect = .deny := by
  rcases effect <;> decide

theorem scopeWinner_deny
    (rule winner : PolicyRuleDescriptor) (hmem : rule ∈ rules) (hdeny : rule.effect = .deny)
    (hwinner : scopeWinner rules (str "deny-first") (makeScopeKey rule) = some winner) :
    winner.effect = .deny := by
  have hleast := scopeWinner_least rules _ _ winner hwinner rule hmem rfl
  have hrank := rank_of_ruleLess _ _ _ hleast
  have hnot : (str "deny-first" = str "explicit-priority") = False := by
    rw [eq_iff_iff, iff_false]
    decide
  rw [← Bool.not_eq_true, RuleRank.less_iff] at hrank
  unfold makeRank at hrank
  simp only [hnot, if_false, hdeny] at hrank
  have hzero : (policyEffectPrecedence .deny).toNat = 0 := rfl
  rw [← precedence_zero, UInt32.le_iff_toNat_le]
  omega

theorem resolve_deny (horder : NoExplicitPriority bundle)
    (hresolved : (resolve bundle).resolved = true) (rule : PolicyRuleDescriptor)
    (hmem : rule ∈ bundle.rules) (hdeny : rule.effect = .deny) :
    ∃ winner ∈ (resolve bundle).effectiveRules,
      makeScopeKey winner = makeScopeKey rule ∧ winner.effect = .deny := by
  obtain ⟨winner, hwinner⟩ := exists_scopeWinner bundle.rules (str "deny-first") rule hmem
  have hscope := (scopeWinner_mem _ _ _ _ hwinner).2
  refine ⟨winner, ?_, hscope, scopeWinner_deny bundle.rules rule winner hmem hdeny hwinner⟩
  rw [mem_effectiveRules bundle hresolved, extractPriorityOrder_denyFirst bundle horder, hscope]
  exact hwinner

/-! ## Between the scopes -/

/-- A match with the strongest claim: no other is more specific, and none as specific has a lower
priority number. -/
def Foremost (query : PolicyQueryContext) (rules : List PolicyRuleDescriptor)
    (matched : MatchedRule) : Prop :=
  matched ∈ matchedRules query rules ∧
    ∀ other ∈ matchedRules query rules,
      other.targetSpecificity ≤ matched.targetSpecificity ∧
        (other.targetSpecificity = matched.targetSpecificity →
          matched.rule.priority ≤ other.rule.priority)

theorem first_foremost (rest : List MatchedRule)
    (hsort : sortBy matchLess (matchedRules query rules) = first :: rest) :
    Foremost query rules first := by
  refine ⟨head_mem hsort, fun other hother => ?_⟩
  have horder := matchLess_order first other (strictWeak_matchLess.head_least hsort other hother)
  exact ⟨horder.1, fun hspecific => (horder.2 hspecific).1⟩

theorem first_deny_of_foremost (matched : MatchedRule) (rest : List MatchedRule)
    (hsort : sortBy matchLess (matchedRules query rules) = first :: rest)
    (hforemost : Foremost query rules matched) (hdeny : matched.rule.effect = .deny) :
    first.rule.effect = .deny := by
  have horder := matchLess_order first matched
    (strictWeak_matchLess.head_least hsort matched hforemost.1)
  have hback := hforemost.2 first (head_mem hsort)
  have hspecific : matched.targetSpecificity = first.targetSpecificity := by omega
  obtain ⟨hle, heffect⟩ := horder.2 hspecific
  have hpriority := UInt32.le_antisymm (hback.2 hspecific.symm) hle
  have hprecedence := heffect hpriority
  rw [hdeny] at hprecedence
  exact (precedence_zero _).mp hprecedence

theorem decision_deny_iff (hsnapshot : snapshot.isValid = true)
    (rule : PolicyRuleDescriptor) (hrule : rule ∈ snapshot.effectiveRules) :
    (mapEffectToDecision rule.effect []).1 = .deny ↔ rule.effect = .deny := by
  have hvalid : rule.isValid = true := by
    unfold PolicySnapshot.isValid at hsnapshot
    rw [Bool.and_eq_true, List.all_eq_true] at hsnapshot
    exact hsnapshot.2 rule hrule
  rcases heffect : rule.effect <;> simp_all [mapEffectToDecision, PolicyRuleDescriptor.isValid]

theorem project_deny_iff
    (hsnapshot : snapshot.isValid = true) (hquery : query.hasRequiredFields = true)
    (hmatched : matchedRules query snapshot.effectiveRules ≠ []) :
    (project query snapshot).decision = .deny ↔
      ∃ matched, Foremost query snapshot.effectiveRules matched ∧ matched.rule.effect = .deny := by
  rw [project_eq query snapshot hsnapshot hquery]
  rcases hsort : sortBy matchLess (matchedRules query snapshot.effectiveRules) with _ | ⟨first, rest⟩
  · exact absurd ((sortBy_eq_nil _).mp hsort) hmatched
  have hmem := ((mem_matchedRules ..).mp (head_mem hsort)).1
  have hfirst := decision_deny_iff snapshot hsnapshot first.rule hmem
  dsimp only [buildDecisionFromRule]
  rw [hfirst]
  constructor
  · intro hdeny
    exact ⟨first, first_foremost _ _ _ _ hsort, hdeny⟩
  · rintro ⟨matched, hforemost, hdeny⟩
    exact first_deny_of_foremost _ _ _ _ _ hsort hforemost hdeny

theorem project_refused (h : snapshot.isValid = false ∨ query.hasRequiredFields = false) :
    (project query snapshot).decision = .deny := by
  unfold project
  split
  · rfl
  split
  · rfl
  · next hsnapshot hquery =>
    rcases h with hinvalid | hmissing
    · simp [hinvalid] at hsnapshot
    · simp [hmissing] at hquery

theorem project_allow (hallow : (project query snapshot).decision = .allow) :
    snapshot.isValid = true ∧ query.hasRequiredFields = true ∧
      ∃ rule ∈ snapshot.effectiveRules, Decides query snapshot rule ∧
        (rule.effect = .allow ∨ rule.effect = .observe) ∧
        (isDefaultRule rule = true ∨ (matchRule query rule).isSome = true) ∧
        (project query snapshot).reasonCode = rule.reasonCode ∧
        (project query snapshot).matchedRuleIds.head? = some rule.ruleId := by
  have hsnapshot : snapshot.isValid = true := by
    by_contra hinvalid
    rw [project_refused query snapshot (Or.inl (by simpa using hinvalid))] at hallow
    simp at hallow
  have hquery : query.hasRequiredFields = true := by
    by_contra hmissing
    rw [project_refused query snapshot (Or.inr (by simpa using hmissing))] at hallow
    simp at hallow
  refine ⟨hsnapshot, hquery, ?_⟩
  rcases project_decides query snapshot hsnapshot hquery with
    ⟨rule, hdecides, hdecision, hreason, hids⟩ | ⟨hdeny, -⟩
  · have heffect : rule.effect = .allow ∨ rule.effect = .observe := by
      rw [hdecision] at hallow
      rcases heffect : rule.effect <;> simp_all [mapEffectToDecision]
    rcases hdecides with ⟨first, rest, hsort, hfirst⟩ | ⟨hnone, hdefault⟩
    · obtain ⟨hmem, -, hmatch⟩ := (mem_matchedRules ..).mp (head_mem hsort)
      rw [hfirst] at hmem hmatch
      refine ⟨rule, hmem, Or.inl ⟨first, rest, hsort, hfirst⟩, heffect, Or.inr ?_, hreason, hids⟩
      rw [hmatch]
      rfl
    · obtain ⟨hmem, hisDefault⟩ := chosenDefault_mem _ _ hdefault
      exact ⟨rule, hmem, Or.inr ⟨hnone, hdefault⟩, heffect, Or.inl hisDefault, hreason, hids⟩
  · rw [hdeny] at hallow
    simp at hallow

/-- Deny-first keeps a deny in every scope that holds one; between scopes a deny wins exactly when it
is foremost; and only an effective rule that allows or observes gives an allow. -/
theorem denyFirst_decision :
    (∀ bundle : PolicyBundle, NoExplicitPriority bundle → (resolve bundle).resolved = true →
      ∀ rule ∈ bundle.rules, rule.effect = .deny →
        ∃ winner ∈ (resolve bundle).effectiveRules,
          makeScopeKey winner = makeScopeKey rule ∧ winner.effect = .deny) ∧
    (∀ (query : PolicyQueryContext) (snapshot : PolicySnapshot),
      matchedRules query snapshot.effectiveRules ≠ [] →
        ((project query snapshot).decision = .deny ↔
          snapshot.isValid = false ∨ query.hasRequiredFields = false ∨
            ∃ matched, Foremost query snapshot.effectiveRules matched ∧
              matched.rule.effect = .deny)) ∧
    (∀ (query : PolicyQueryContext) (snapshot : PolicySnapshot),
      (project query snapshot).decision = .allow →
        snapshot.isValid = true ∧ query.hasRequiredFields = true ∧
          ∃ rule ∈ snapshot.effectiveRules, Decides query snapshot rule ∧
            (rule.effect = .allow ∨ rule.effect = .observe) ∧
            (isDefaultRule rule = true ∨ (matchRule query rule).isSome = true) ∧
            (project query snapshot).reasonCode = rule.reasonCode ∧
            (project query snapshot).matchedRuleIds.head? = some rule.ruleId) := by
  refine ⟨resolve_deny, fun query snapshot hmatched => ?_, project_allow⟩
  rcases hsnapshot : snapshot.isValid with _ | _
  · simp [project_refused query snapshot (Or.inl hsnapshot)]
  rcases hquery : query.hasRequiredFields with _ | _
  · simp [project_refused query snapshot (Or.inr hquery)]
  · rw [project_deny_iff query snapshot hsnapshot hquery hmatched]
    simp

/-! ## A deny that a lower number beats -/

def loadRule (ruleId subject : Bytes) (effect : PolicyEffect) (priority : UInt32) :
    PolicyRuleDescriptor where
  ruleId := ruleId
  domain := .pluginLoad
  subject := subject
  action := str "load"
  targetSelector := str "plugin:diagnostics-export"
  effect := effect
  priority := priority
  mode := .enforced
  conditions := [str "priority_order=deny-first"]
  reasonCode := str "plugin_rule"

def loadBundle (rules : List PolicyRuleDescriptor) : PolicyBundle where
  bundleId := str "policy-load"
  schemaVersion := str "1"
  source := str "defaults"
  checksum := str "sha256:0"
  rules := rules
  generatedAt := str "2026-04-05T16:40:00Z"

def loadQuery : PolicyQueryContext where
  module := str "plugin"
  operation := str "load"
  targetType := str "plugin"
  targetRef := str "diagnostics-export"
  actorRef := str "ops-user"

/-- One subject is named and the other is a wildcard, so the two rules stand in two scopes. -/
def allowAnyone : PolicyBundle := loadBundle
  [loadRule (str "allow-anyone") (str "*") .allow 1,
    loadRule (str "deny-ops") (str "ops-user") .deny 50]

def allowAnyoneSnapshot : PolicySnapshot := bundleSnapshot allowAnyone {}

theorem denyFirst_decision_allowAnyone :
    (∃ winner ∈ (resolve allowAnyone).effectiveRules,
      makeScopeKey winner = makeScopeKey (loadRule (str "deny-ops") (str "ops-user") .deny 50) ∧
        winner.effect = .deny) ∧
    (allowAnyoneSnapshot.isValid = true ∧ loadQuery.hasRequiredFields = true ∧
      ∃ rule ∈ allowAnyoneSnapshot.effectiveRules, Decides loadQuery allowAnyoneSnapshot rule ∧
        (rule.effect = .allow ∨ rule.effect = .observe) ∧
        (isDefaultRule rule = true ∨ (matchRule loadQuery rule).isSome = true) ∧
        (project loadQuery allowAnyoneSnapshot).reasonCode = rule.reasonCode ∧
        (project loadQuery allowAnyoneSnapshot).matchedRuleIds.head? = some rule.ruleId) :=
  ⟨denyFirst_decision.1 allowAnyone (by decide +kernel) (by decide +kernel) _
      (by decide +kernel) rfl,
    denyFirst_decision.2.2 loadQuery allowAnyoneSnapshot (by decide +kernel)⟩

/-- The deny is as specific as the allow, and the answer is an allow. -/
theorem denyFirst_not_projected :
    ¬ ∀ (bundle : PolicyBundle) (snapshot : PolicySnapshot) (query : PolicyQueryContext),
      bundle.isValid = true → NoExplicitPriority bundle → (resolve bundle).resolved = true →
      snapshot.effectiveRules = (resolve bundle).effectiveRules →
      (∃ matched ∈ matchedRules query snapshot.effectiveRules, matched.rule.effect = .deny ∧
        ∀ other ∈ matchedRules query snapshot.effectiveRules,
          other.targetSpecificity ≤ matched.targetSpecificity) →
      (project query snapshot).decision = .deny := by
  intro hclaim
  have hdeny := hclaim allowAnyone allowAnyoneSnapshot loadQuery (by decide +kernel)
    (by decide +kernel) (by decide +kernel) (by decide +kernel)
    ⟨{ rule := loadRule (str "deny-ops") (str "ops-user") .deny 50, targetSpecificity := 3 },
      by decide +kernel, rfl, by decide +kernel⟩
  revert hdeny
  decide +kernel

end Dasall.Infra.Policy
