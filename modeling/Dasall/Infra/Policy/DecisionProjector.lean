import Dasall.Infra.Policy.Manager

/-!
# The decision projector

A query is decided by the first of the rules that match it, in the order target, priority, effect.
Without a match the default rule decides, and without a default rule the answer is a deny.
-/

open Dasall.Lib.Sort Dasall.Lib.Text

namespace Dasall.Infra.Policy

inductive PolicyDecision
  | unspecified
  | allow
  | deny
  | requireConfirmation
deriving DecidableEq

structure PolicyQueryContext where
  module : Bytes
  operation : Bytes
  targetType : Bytes
  targetRef : Bytes
  actorRef : Bytes
deriving DecidableEq

def PolicyQueryContext.hasRequiredFields (query : PolicyQueryContext) : Bool :=
  query.module ≠ [] && query.operation ≠ [] && query.targetType ≠ [] && query.targetRef ≠ [] &&
    query.actorRef ≠ []

structure PolicyDecisionRef where
  decision : PolicyDecision
  reasonCode : Bytes
  matchedRuleIds : List Bytes
  snapshotId : Bytes
  generation : UInt64
  evidenceRef : Bytes
  warnings : List Bytes
deriving DecidableEq

structure MatchedRule where
  rule : PolicyRuleDescriptor
  targetSpecificity : Int
deriving DecidableEq

def normalizeSnapshotId (snapshot : PolicySnapshot) : Bytes :=
  if snapshot.snapshotId = [] then str "snapshot-unavailable" else snapshot.snapshotId

def normalizeGeneration (snapshot : PolicySnapshot) : UInt64 :=
  if snapshot.generation = 0 then 1 else snapshot.generation

def buildEvidenceRef (snapshotId : Bytes) (generation : UInt64) (ruleId : Bytes) : Bytes :=
  str "audit://policy/decision/" ++ snapshotId ++ str "/" ++ decimal generation.toNat ++ str "/" ++
    ruleId

def mapQueryDomain (query : PolicyQueryContext) : PolicyDomain :=
  let module := lowercaseCopy query.module
  let targetType := lowercaseCopy query.targetType
  if module = str "secret" || targetType = str "secret" then .secretAccess
  else if module = str "plugin" || targetType = str "plugin" || targetType = str "manifest" then
    .pluginLoad
  else if module = str "diagnostics" || module = str "diag" || targetType = str "command" then
    .diagnosticsCommand
  else if module = str "ota" then
    if lowercaseCopy query.operation = str "rollback" then .otaRollback else .otaApply
  else if module = str "policy" then .policyAdmin
  else .unspecified

/-- `action_matches` and `subject_matches`, which differ in the names only. -/
def wildcardMatches (ruleValue queryValue : Bytes) : Bool :=
  let normalized := lowercaseCopy ruleValue
  if normalized = str "*" || normalized = str "any" then true
  else normalized = lowercaseCopy queryValue

def actionMatches (ruleAction queryOperation : Bytes) : Bool :=
  wildcardMatches ruleAction queryOperation

def subjectMatches (ruleSubject actorRef : Bytes) : Bool := wildcardMatches ruleSubject actorRef

def targetSelectorSpecificity (selector : Bytes) (query : PolicyQueryContext) : Int :=
  let normalizedSelector := lowercaseCopy selector
  let normalizedTargetType := lowercaseCopy query.targetType
  let normalizedTargetRef := lowercaseCopy query.targetRef
  if normalizedSelector = normalizedTargetType ++ str ":" ++ normalizedTargetRef then 3
  else if normalizedSelector = normalizedTargetRef then 2
  else if normalizedSelector = normalizedTargetType ++ str ":*" ||
      normalizedSelector = normalizedTargetType ++ str ":any" then 1
  else if normalizedSelector = str "*" || normalizedSelector = str "any" then 0
  else -1

def isDefaultRule (rule : PolicyRuleDescriptor) : Bool :=
  rule.action = str "evaluate_default" && rule.targetSelector = str "policy:default_effect"

/-- The value of an effect in the enumeration. -/
def PolicyEffect.toRaw : PolicyEffect → Nat
  | .unspecified => 0
  | .allow => 1
  | .deny => 2
  | .requireConfirmation => 3
  | .observe => 4

def preferDefaultRule (candidate current : PolicyRuleDescriptor) : Bool :=
  thenBy (·.priority) (fun x y => x < y)
    (thenBy (fun rule : PolicyRuleDescriptor => rule.effect.toRaw) (fun x y => x < y)
      fun a b => a.ruleId < b.ruleId)
    candidate current

def mapEffectToDecision (effect : PolicyEffect) (warnings : List Bytes) :
    PolicyDecision × List Bytes :=
  match effect with
  | .allow => (.allow, warnings)
  | .deny => (.deny, warnings)
  | .requireConfirmation => (.requireConfirmation, warnings)
  | .observe => (.allow, warnings ++ [str "observe_effect_projected_as_allow"])
  | .unspecified => (.deny, warnings ++ [str "invalid_effect_projected_as_deny"])

def buildDecisionFromRule (rule : PolicyRuleDescriptor) (snapshot : PolicySnapshot)
    (matchedRuleIds warnings : List Bytes) : PolicyDecisionRef where
  decision := (mapEffectToDecision rule.effect warnings).1
  reasonCode := rule.reasonCode
  matchedRuleIds := matchedRuleIds
  snapshotId := normalizeSnapshotId snapshot
  generation := normalizeGeneration snapshot
  evidenceRef :=
    buildEvidenceRef (normalizeSnapshotId snapshot) (normalizeGeneration snapshot) rule.ruleId
  warnings := (mapEffectToDecision rule.effect warnings).2

def makeSyntheticDeny (snapshot : PolicySnapshot) (reasonCode syntheticRuleId : Bytes)
    (warnings : List Bytes) : PolicyDecisionRef where
  decision := .deny
  reasonCode := reasonCode
  matchedRuleIds := [syntheticRuleId]
  snapshotId := normalizeSnapshotId snapshot
  generation := normalizeGeneration snapshot
  evidenceRef :=
    buildEvidenceRef (normalizeSnapshotId snapshot) (normalizeGeneration snapshot) syntheticRuleId
  warnings := warnings

/-- The tests the loop makes before it keeps a rule as a match. -/
def matchRule (query : PolicyQueryContext) (rule : PolicyRuleDescriptor) : Option MatchedRule :=
  if mapQueryDomain query = .unspecified || rule.domain ≠ mapQueryDomain query then none
  else if !actionMatches rule.action query.operation || !subjectMatches rule.subject query.actorRef
  then none
  else if targetSelectorSpecificity rule.targetSelector query < 0 then none
  else some { rule, targetSpecificity := targetSelectorSpecificity rule.targetSelector query }

structure RuleScan where
  defaultRule : Option PolicyRuleDescriptor := none
  matchedRules : List MatchedRule := []

/-- The body of the loop over the effective rules. -/
def scanRule (query : PolicyQueryContext) (scan : RuleScan) (rule : PolicyRuleDescriptor) :
    RuleScan :=
  if isDefaultRule rule then
    match scan.defaultRule with
    | none => { scan with defaultRule := some rule }
    | some current =>
      if preferDefaultRule rule current then { scan with defaultRule := some rule } else scan
  else
    match matchRule query rule with
    | none => scan
    | some matched => { scan with matchedRules := scan.matchedRules ++ [matched] }

/-- The comparison of the matched rules. -/
def matchLess (left right : MatchedRule) : Bool :=
  thenBy (·.targetSpecificity) (fun x y => y < x)
    (thenBy (·.rule.priority) (fun x y => x < y)
      (thenBy (fun m : MatchedRule => policyEffectPrecedence m.rule.effect) (fun x y => x < y)
        fun a b => a.rule.ruleId < b.rule.ruleId))
    left right

/-- `project`. -/
def project (query : PolicyQueryContext) (snapshot : PolicySnapshot) : PolicyDecisionRef :=
  if !snapshot.isValid then
    makeSyntheticDeny snapshot (str "policy_snapshot_invalid") (str "policy-snapshot-invalid") []
  else if !query.hasRequiredFields then
    makeSyntheticDeny snapshot (str "policy_query_invalid") (str "policy-query-invalid") []
  else
    let scan := snapshot.effectiveRules.foldl (scanRule query) {}
    match sortBy matchLess scan.matchedRules with
    | first :: rest =>
      buildDecisionFromRule first.rule snapshot ((first :: rest).map (·.rule.ruleId)) []
    | [] =>
      match scan.defaultRule with
      | some rule =>
        buildDecisionFromRule rule snapshot [rule.ruleId] [str "default_effect_applied"]
      | none =>
        makeSyntheticDeny snapshot (str "policy_query_no_match") (str "policy-default-deny")
          ((if mapQueryDomain query = .unspecified then [str "query_domain_unknown"] else []) ++
            [str "default_effect_rule_missing"])

/-! ## What the loop gathers -/

/-- The matches of a list of rules, in their order. -/
def matchedRules (query : PolicyQueryContext) (rules : List PolicyRuleDescriptor) :
    List MatchedRule :=
  (rules.filter fun rule => !isDefaultRule rule).filterMap (matchRule query)

def keepDefault (current : Option PolicyRuleDescriptor) (rule : PolicyRuleDescriptor) :
    Option PolicyRuleDescriptor :=
  match current with
  | none => some rule
  | some held => if preferDefaultRule rule held then some rule else some held

/-- The default rule that the loop ends with. -/
def chosenDefault (current : Option PolicyRuleDescriptor) (rules : List PolicyRuleDescriptor) :
    Option PolicyRuleDescriptor :=
  (rules.filter isDefaultRule).foldl keepDefault current

variable (query : PolicyQueryContext) (defaults : List PolicyRuleDescriptor) (left : MatchedRule)
  (lhs : PolicyEffect) (snapshot : PolicySnapshot) (rules : List PolicyRuleDescriptor)
  (current : Option PolicyRuleDescriptor) (right : MatchedRule) (rhs : PolicyEffect)
  (rule : PolicyRuleDescriptor) (rules' : List PolicyRuleDescriptor)

theorem scanRules_eq (scan : RuleScan) :
    rules.foldl (scanRule query) scan =
      { defaultRule := chosenDefault scan.defaultRule rules
        matchedRules := scan.matchedRules ++ matchedRules query rules } := by
  induction rules generalizing scan with
  | nil => simp [chosenDefault, matchedRules]
  | cons rule rest ih =>
    rw [List.foldl_cons, ih]
    unfold scanRule
    split
    · next hdefault =>
      have hmatched : matchedRules query (rule :: rest) = matchedRules query rest := by
        simp [matchedRules, hdefault]
      rw [hmatched]
      unfold chosenDefault
      rw [List.filter_cons_of_pos hdefault, List.foldl_cons]
      rcases hheld : scan.defaultRule with _ | held
      · rfl
      · unfold keepDefault
        dsimp only
        split
        · rfl
        · rw [hheld]
    · next hdefault =>
      rw [Bool.not_eq_true] at hdefault
      have hdefaults : chosenDefault scan.defaultRule (rule :: rest) =
          chosenDefault scan.defaultRule rest := by
        simp [chosenDefault, hdefault]
      rw [hdefaults]
      unfold matchedRules
      rcases hmatch : matchRule query rule with _ | matched
      · simp [hdefault, hmatch]
      · simp [hdefault, hmatch]

theorem project_eq (hsnapshot : snapshot.isValid = true) (hquery : query.hasRequiredFields = true) :
    project query snapshot =
      match sortBy matchLess (matchedRules query snapshot.effectiveRules) with
      | first :: rest =>
        buildDecisionFromRule first.rule snapshot ((first :: rest).map (·.rule.ruleId)) []
      | [] =>
        match chosenDefault none snapshot.effectiveRules with
        | some rule =>
          buildDecisionFromRule rule snapshot [rule.ruleId] [str "default_effect_applied"]
        | none =>
          makeSyntheticDeny snapshot (str "policy_query_no_match") (str "policy-default-deny")
            ((if mapQueryDomain query = .unspecified then [str "query_domain_unknown"] else []) ++
              [str "default_effect_rule_missing"]) := by
  unfold project
  rw [scanRules_eq, hsnapshot, hquery]
  simp

theorem mem_matchedRules (matched : MatchedRule) :
    matched ∈ matchedRules query rules ↔
      matched.rule ∈ rules ∧ isDefaultRule matched.rule = false ∧
        matchRule query matched.rule = some matched := by
  have hrule (rule : PolicyRuleDescriptor) (h : matchRule query rule = some matched) :
      matched.rule = rule := by
    unfold matchRule at h
    split at h
    · simp at h
    split at h
    · simp at h
    split at h
    · simp at h
    · rw [Option.some.injEq] at h
      rw [← h]
  unfold matchedRules
  rw [List.mem_filterMap]
  constructor
  · rintro ⟨rule, hin, hmatch⟩
    rw [hrule rule hmatch]
    rw [List.mem_filter, Bool.not_eq_true'] at hin
    exact ⟨hin.1, hin.2, hmatch⟩
  · rintro ⟨hin, hdefault, hmatch⟩
    refine ⟨matched.rule, ?_, hmatch⟩
    rw [List.mem_filter, Bool.not_eq_true']
    exact ⟨hin, hdefault⟩

theorem keepDefault_mem
    (h : defaults.foldl keepDefault current = some rule) : rule ∈ defaults ∨ current = some rule := by
  induction defaults generalizing current with
  | nil => exact Or.inr h
  | cons first rest ih =>
    rw [List.foldl_cons] at h
    rcases ih _ h with hin | hkept
    · exact Or.inl (List.mem_cons_of_mem _ hin)
    unfold keepDefault at hkept
    split at hkept
    · rw [Option.some.injEq] at hkept
      exact Or.inl (hkept ▸ List.mem_cons_self)
    split at hkept
    · rw [Option.some.injEq] at hkept
      exact Or.inl (hkept ▸ List.mem_cons_self)
    · exact Or.inr hkept

theorem chosenDefault_mem
    (h : chosenDefault none rules = some rule) : rule ∈ rules ∧ isDefaultRule rule = true := by
  rw [← List.mem_filter]
  rcases keepDefault_mem _ none rule h with hin | hnone
  · exact hin
  · simp at hnone

open Linear

theorem strictWeak_matchLess : StrictWeak matchLess :=
  StrictWeak.thenBy
    (StrictWeak.thenBy
      (StrictWeak.thenBy (ofLT.strictWeak fun matched : MatchedRule => matched.rule.ruleId)
        ofLT _)
      ofLT _)
    ofLT.swap _

/-- A match that is not behind another is at least as specific, and then of no higher number. -/
theorem matchLess_order (h : matchLess right left = false) :
    right.targetSpecificity ≤ left.targetSpecificity ∧
      (right.targetSpecificity = left.targetSpecificity →
        left.rule.priority ≤ right.rule.priority ∧
        (right.rule.priority = left.rule.priority →
          policyEffectPrecedence left.rule.effect ≤ policyEffectPrecedence right.rule.effect)) := by
  unfold matchLess at h
  have hspecific := thenBy_key ofLT.swap h
  rw [decide_eq_false_iff_not] at hspecific
  refine ⟨by omega, fun hsame => ?_⟩
  have hrest := thenBy_rest h hsame
  have hpriority := thenBy_key ofLT hrest
  rw [decide_eq_false_iff_not] at hpriority
  refine ⟨UInt32.not_lt.mp hpriority, fun hsame => ?_⟩
  have heffect := thenBy_key ofLT (thenBy_rest hrest hsame)
  rw [decide_eq_false_iff_not] at heffect
  exact UInt32.not_lt.mp heffect

/-! ## Who decides -/

/-- The rule decides the query: it is the first of the matches, or the default without a match. -/
def Decides (query : PolicyQueryContext) (snapshot : PolicySnapshot)
    (rule : PolicyRuleDescriptor) : Prop :=
  (∃ first rest, sortBy matchLess (matchedRules query snapshot.effectiveRules) = first :: rest ∧
    first.rule = rule) ∨
  (matchedRules query snapshot.effectiveRules = [] ∧
    chosenDefault none snapshot.effectiveRules = some rule)

theorem sortBy_eq_nil (matched : List MatchedRule) : sortBy matchLess matched = [] ↔ matched = [] := by
  rw [← List.length_eq_zero_iff, List.length_insertionSort, List.length_eq_zero_iff]

theorem project_decides
    (hsnapshot : snapshot.isValid = true) (hquery : query.hasRequiredFields = true) :
    (∃ rule, Decides query snapshot rule ∧
      (project query snapshot).decision = (mapEffectToDecision rule.effect []).1 ∧
      (project query snapshot).reasonCode = rule.reasonCode ∧
      (project query snapshot).matchedRuleIds.head? = some rule.ruleId) ∨
    (project query snapshot).decision = .deny ∧
      matchedRules query snapshot.effectiveRules = [] ∧
      chosenDefault none snapshot.effectiveRules = none := by
  have hdecision (effect : PolicyEffect) (warnings : List Bytes) :
      (mapEffectToDecision effect warnings).1 = (mapEffectToDecision effect []).1 := by
    rcases effect <;> rfl
  rw [project_eq query snapshot hsnapshot hquery]
  rcases hsort : sortBy matchLess (matchedRules query snapshot.effectiveRules) with _ | ⟨first, rest⟩
  · have hnone := (sortBy_eq_nil _).mp hsort
    rcases hdefault : chosenDefault none snapshot.effectiveRules with _ | rule
    · exact Or.inr ⟨rfl, hnone, rfl⟩
    · exact Or.inl ⟨rule, Or.inr ⟨hnone, hdefault⟩, hdecision _ _, rfl, rfl⟩
  · exact Or.inl ⟨first.rule, Or.inl ⟨first, rest, hsort, rfl⟩, rfl, rfl, rfl⟩

/-! ## The order of the effective rules -/

theorem policyEffectPrecedence_inj
    (h : policyEffectPrecedence lhs = policyEffectPrecedence rhs) : lhs = rhs := by
  rcases lhs <;> rcases rhs <;> first | rfl | simp [policyEffectPrecedence] at h

theorem toRaw_inj (h : lhs.toRaw = rhs.toRaw) : lhs = rhs := by
  rcases lhs <;> rcases rhs <;> first | rfl | simp [PolicyEffect.toRaw] at h

theorem effect_of_tied (hleft : matchLess left right = false)
    (hright : matchLess right left = false) : left.rule.effect = right.rule.effect := by
  obtain ⟨hspecific, hrest⟩ := matchLess_order right left hleft
  obtain ⟨hspecific', hrest'⟩ := matchLess_order left right hright
  have hsame : left.targetSpecificity = right.targetSpecificity := by omega
  have hpriority := UInt32.le_antisymm (hrest hsame).1 (hrest' hsame.symm).1
  apply policyEffectPrecedence_inj
  exact UInt32.le_antisymm ((hrest' hsame.symm).2 hpriority) ((hrest hsame).2 hpriority.symm)

theorem strictWeak_preferDefaultRule : StrictWeak preferDefaultRule :=
  StrictWeak.thenBy
    (StrictWeak.thenBy (ofLT.strictWeak PolicyRuleDescriptor.ruleId) ofLT _)
    ofLT _

theorem default_of_tied (lhs rhs : PolicyRuleDescriptor) (hlhs : preferDefaultRule lhs rhs = false)
    (hrhs : preferDefaultRule rhs lhs = false) : lhs.effect = rhs.effect ∧ lhs.ruleId = rhs.ruleId := by
  unfold preferDefaultRule at hlhs hrhs
  have hpriority := ofLT.eq_of_tied (thenBy_key ofLT hlhs) (thenBy_key ofLT hrhs)
  have hlhs' := thenBy_rest hlhs hpriority
  have hrhs' := thenBy_rest hrhs hpriority.symm
  have hless := thenBy_key ofLT hlhs'
  have hless' := thenBy_key ofLT hrhs'
  have heffect := ofLT.eq_of_tied hless hless'
  refine ⟨toRaw_inj _ _ heffect, ?_⟩
  exact ofLT.eq_of_tied (thenBy_rest hlhs' heffect) (thenBy_rest hrhs' heffect.symm)

theorem keepDefault_least (h : defaults.foldl keepDefault current = some rule) :
    (∀ other ∈ defaults, preferDefaultRule other rule = false) ∧
      ∀ held ∈ current, preferDefaultRule held rule = false := by
  induction defaults generalizing current with
  | nil =>
    have hcurrent : current = some rule := h
    simp [hcurrent, strictWeak_preferDefaultRule.irrefl]
  | cons first rest ih =>
    rw [List.foldl_cons] at h
    obtain ⟨hrest, hkept⟩ := ih _ h
    rcases current with _ | held
    · have hfirst := hkept first rfl
      exact ⟨List.forall_mem_cons.mpr ⟨hfirst, hrest⟩, by simp⟩
    · unfold keepDefault at hkept
      simp only at hkept
      split at hkept
      · next hprefer =>
        have hfirst := hkept first rfl
        have hheld := strictWeak_preferDefaultRule.trans _ _ _ hfirst
          (strictWeak_preferDefaultRule.asymm _ _ hprefer)
        exact ⟨List.forall_mem_cons.mpr ⟨hfirst, hrest⟩, by simp [hheld]⟩
      · next hprefer =>
        rw [Bool.not_eq_true] at hprefer
        have hheld := hkept held rfl
        have hfirst := strictWeak_preferDefaultRule.trans _ _ _ hheld hprefer
        exact ⟨List.forall_mem_cons.mpr ⟨hfirst, hrest⟩, by simp [hheld]⟩

theorem keepDefault_isSome :
    (defaults.foldl keepDefault current).isSome = (current.isSome || !defaults.isEmpty) := by
  induction defaults generalizing current with
  | nil => simp
  | cons first rest ih =>
    rw [List.foldl_cons, ih]
    unfold keepDefault
    rcases current with _ | held
    · simp
    · simp only
      split <;> simp

theorem chosenDefault_perm (hperm : rules.Perm rules') :
    (chosenDefault none rules = none ∧ chosenDefault none rules' = none) ∨
    ∃ rule rule', chosenDefault none rules = some rule ∧ chosenDefault none rules' = some rule' ∧
      rule.effect = rule'.effect ∧ rule.ruleId = rule'.ruleId := by
  unfold chosenDefault
  have hdefaults := hperm.filter isDefaultRule
  have hsome := keepDefault_isSome (rules.filter isDefaultRule) none
  have hsome' := keepDefault_isSome (rules'.filter isDefaultRule) none
  have hempty : (rules.filter isDefaultRule).isEmpty = (rules'.filter isDefaultRule).isEmpty := by
    rw [Bool.eq_iff_iff, List.isEmpty_iff_length_eq_zero, List.isEmpty_iff_length_eq_zero,
      hdefaults.length_eq]
  rw [← hempty] at hsome'
  rcases hrule : (rules.filter isDefaultRule).foldl keepDefault none with _ | rule
  · rw [hrule] at hsome
    rw [← hsome] at hsome'
    exact Or.inl ⟨rfl, by simpa using hsome'⟩
  · rw [hrule] at hsome
    rw [← hsome, Option.isSome_some, Option.isSome_iff_exists] at hsome'
    obtain ⟨rule', hrule'⟩ := hsome'
    have hin := (keepDefault_mem _ none rule hrule).resolve_right (by simp)
    have hin' := (keepDefault_mem _ none rule' hrule').resolve_right (by simp)
    have hleast := (keepDefault_least _ none rule hrule).1 rule' (hdefaults.mem_iff.mpr hin')
    have hleast' := (keepDefault_least _ none rule' hrule').1 rule (hdefaults.mem_iff.mp hin)
    exact Or.inr ⟨rule, rule', rfl, hrule', default_of_tied rule rule' hleast' hleast⟩

theorem isValid_perm (hperm : rules.Perm rules') :
    PolicySnapshot.isValid { snapshot with effectiveRules := rules } =
      PolicySnapshot.isValid { snapshot with effectiveRules := rules' } := by
  have hall : rules.all PolicyRuleDescriptor.isValid = rules'.all PolicyRuleDescriptor.isValid := by
    rw [Bool.eq_iff_iff, List.all_eq_true, List.all_eq_true]
    exact forall_congr' fun rule => by rw [hperm.mem_iff]
  have hnil : rules = [] ↔ rules' = [] := by
    rw [← List.length_eq_zero_iff, hperm.length_eq, List.length_eq_zero_iff]
  simp only [PolicySnapshot.isValid, hall, ne_eq, hnil]

/-- The decision and the set of matched rules do not depend on the order of the effective rules. -/
theorem project_perm (hperm : rules.Perm rules') :
    (project query { snapshot with effectiveRules := rules }).decision =
        (project query { snapshot with effectiveRules := rules' }).decision ∧
      (project query { snapshot with effectiveRules := rules }).matchedRuleIds.Perm
        (project query { snapshot with effectiveRules := rules' }).matchedRuleIds := by
  have hvalid := isValid_perm snapshot rules rules' hperm
  rcases hsnapshot : PolicySnapshot.isValid { snapshot with effectiveRules := rules } with _ | _
  · rw [hsnapshot] at hvalid
    simp [project, hsnapshot, ← hvalid, makeSyntheticDeny]
  rcases hquery : query.hasRequiredFields with _ | _
  · rw [hsnapshot] at hvalid
    simp [project, hsnapshot, ← hvalid, hquery, makeSyntheticDeny]
  rw [project_eq query _ hsnapshot hquery, project_eq query _ (hvalid ▸ hsnapshot) hquery]
  dsimp only
  have hmatched : (matchedRules query rules).Perm (matchedRules query rules') :=
    (hperm.filter _).filterMap _
  have hsorted := (List.perm_insertionSort (fun a b => matchLess b a = false) _).trans
    (hmatched.trans (List.perm_insertionSort (fun a b => matchLess b a = false) _).symm)
  rcases hsort : sortBy matchLess (matchedRules query rules) with _ | ⟨first, rest⟩
  · unfold sortBy at hsort
    rw [hsort] at hsorted
    rw [sortBy, hsorted.nil_eq.symm]
    rcases chosenDefault_perm rules rules' hperm with ⟨hnone, hnone'⟩ | ⟨rule, rule', hrule, hrule', heffect, hid⟩
    · rw [hnone, hnone']
      exact ⟨rfl, List.Perm.refl _⟩
    · rw [hrule, hrule']
      simp [buildDecisionFromRule, heffect, hid]
  · rcases hsort' : sortBy matchLess (matchedRules query rules') with _ | ⟨first', rest'⟩
    · unfold sortBy at hsort hsort'
      rw [hsort, hsort'] at hsorted
      simp at hsorted
    · have htied := strictWeak_matchLess.head_perm hmatched hsort hsort'
      have heffect := effect_of_tied first first' htied.1 htied.2
      unfold sortBy at hsort hsort'
      rw [hsort, hsort'] at hsorted
      dsimp only [buildDecisionFromRule]
      exact ⟨by rw [heffect], hsorted.map fun matched => matched.rule.ruleId⟩

end Dasall.Infra.Policy
