import Dasall.Infra.Policy.Types
import Dasall.Lib.Sort
import Mathlib.Data.List.Dedup

/-!
# Conflict resolution

The rules of a bundle are grouped by scope, and each scope keeps one winner. A tie for the first
rank is a conflict, except among compatibility rules.
-/

open Dasall.Lib.Sort Dasall.Lib.Text

namespace Dasall.Infra.Policy

structure RuleRank where
  primary : UInt32
  secondary : UInt32
deriving DecidableEq

def RuleRank.less (lhs rhs : RuleRank) : Bool :=
  lhs.primary < rhs.primary || (lhs.primary = rhs.primary && lhs.secondary < rhs.secondary)

/-- The first condition that sets the order decides; anything but `explicit-priority` is
`deny-first`. -/
def extractPriorityOrder (bundle : PolicyBundle) : Bytes :=
  let key := str "priority_order="
  let order := bundle.rules.findSome? fun rule =>
    (rule.conditions.find? fun item => key.isPrefixOf item).map (·.drop key.length)
  if order = some (str "explicit-priority") then str "explicit-priority" else str "deny-first"

def makeScopeKey (rule : PolicyRuleDescriptor) : Bytes :=
  rule.domain.toString ++ str "|" ++ rule.subject ++ str "|" ++ rule.action ++ str "|" ++
    rule.targetSelector

def makeRank (priorityOrder : Bytes) (rule : PolicyRuleDescriptor) : RuleRank :=
  if priorityOrder = str "explicit-priority" then
    { primary := rule.priority, secondary := policyEffectPrecedence rule.effect }
  else { primary := policyEffectPrecedence rule.effect, secondary := rule.priority }

/-- The comparison that `std::sort` is given. -/
def ruleLess (priorityOrder : Bytes) (lhs rhs : PolicyRuleDescriptor) : Bool :=
  if makeRank priorityOrder lhs ≠ makeRank priorityOrder rhs then
    (makeRank priorityOrder lhs).less (makeRank priorityOrder rhs)
  else lhs.ruleId < rhs.ruleId

def isCompatGroup (rules : List PolicyRuleDescriptor) : Bool :=
  rules.all fun rule => rule.mode = .compatibility

def sameRank (priorityOrder : Bytes) (lhs rhs : PolicyRuleDescriptor) : Bool :=
  makeRank priorityOrder lhs = makeRank priorityOrder rhs

structure ConflictResolutionResult where
  resolved : Bool := false
  priorityOrder : Bytes
  effectiveRules : List PolicyRuleDescriptor := []
  conflictRuleIds : List Bytes := []
  warnings : List Bytes := []
  errorCode : PolicyErrorCode := .conflictUnresolved
  reasonCode : Bytes := []
deriving DecidableEq

/-- The keys of `grouped_rules`, in the order of a `std::map`. -/
def scopeKeys (rules : List PolicyRuleDescriptor) : List Bytes :=
  (rules.map makeScopeKey).dedup.insertionSort (· ≤ ·)

/-- The rules of one scope, sorted from the first rank on. -/
def scopedRules (rules : List PolicyRuleDescriptor) (priorityOrder scopeKey : Bytes) :
    List PolicyRuleDescriptor :=
  (rules.filter fun rule => makeScopeKey rule = scopeKey).insertionSort
    fun lhs rhs => ruleLess priorityOrder rhs lhs = false

/-- The loop over the groups. -/
def resolveScopes (rules : List PolicyRuleDescriptor) (result : ConflictResolutionResult) :
    List Bytes → ConflictResolutionResult
  | [] =>
    { result with
      resolved := true
      errorCode := .conflictUnresolved
      reasonCode :=
        if result.warnings = [] then str "policy_conflicts_resolved"
        else str "policy_conflicts_resolved_with_compat_downgrade" }
  | scopeKey :: rest =>
    match scopedRules rules result.priorityOrder scopeKey with
    | [] => resolveScopes rules result rest
    | winner :: others =>
      let tiedRuleIds :=
        winner.ruleId :: (others.takeWhile (sameRank result.priorityOrder winner)).map (·.ruleId)
      if 1 < tiedRuleIds.length then
        if isCompatGroup (winner :: others) then
          resolveScopes rules
            { result with
              warnings := result.warnings ++ [str "compat_conflict_downgraded:" ++ scopeKey]
              effectiveRules := result.effectiveRules ++ [winner] } rest
        else
          { result with
            conflictRuleIds := result.conflictRuleIds ++ tiedRuleIds
            reasonCode := str "policy_conflict_unresolved"
            effectiveRules := []
            resolved := false }
      else
        resolveScopes rules { result with effectiveRules := result.effectiveRules ++ [winner] } rest

/-- `resolve`. -/
def resolve (bundle : PolicyBundle) : ConflictResolutionResult :=
  let result : ConflictResolutionResult := { priorityOrder := extractPriorityOrder bundle }
  if !bundle.isValid then { result with reasonCode := str "policy_bundle_invalid" }
  else resolveScopes bundle.rules result (scopeKeys bundle.rules)

/-! ## The order of the rules -/

theorem RuleRank.less_iff (lhs rhs : RuleRank) : lhs.less rhs = true ↔
    lhs.primary.toNat < rhs.primary.toNat ∨
      lhs.primary.toNat = rhs.primary.toNat ∧ lhs.secondary.toNat < rhs.secondary.toNat := by
  unfold RuleRank.less
  simp [UInt32.lt_iff_toNat_lt, UInt32.toNat_inj]

theorem RuleRank.linear_less : Linear RuleRank.less where
  asymm lhs rhs h := by
    rw [RuleRank.less_iff] at h
    rw [← Bool.not_eq_true, RuleRank.less_iff]
    omega
  trans first second third hfirst hsecond := by
    rw [RuleRank.less_iff] at hfirst hsecond ⊢
    omega
  total lhs rhs hne := by
    rw [RuleRank.less_iff, RuleRank.less_iff]
    by_contra hneither
    apply hne
    have hprimary : lhs.primary = rhs.primary := UInt32.toNat_inj.mp (by omega)
    have hsecondary : lhs.secondary = rhs.secondary := UInt32.toNat_inj.mp (by omega)
    rcases lhs with ⟨primary, secondary⟩
    rcases rhs with ⟨primary', secondary'⟩
    simp only at hprimary hsecondary
    rw [hprimary, hsecondary]

variable (rules : List PolicyRuleDescriptor) (bundle : PolicyBundle)
  (priorityOrder scopeKey : Bytes) (winner rule : PolicyRuleDescriptor)

theorem ruleLess_eq : ruleLess priorityOrder =
    thenBy (makeRank priorityOrder) RuleRank.less fun lhs rhs => lhs.ruleId < rhs.ruleId := rfl

theorem strictWeak_ruleLess : StrictWeak (ruleLess priorityOrder) :=
  StrictWeak.thenBy (Linear.ofLT.strictWeak PolicyRuleDescriptor.ruleId) RuleRank.linear_less
    (makeRank priorityOrder)

theorem rank_of_ruleLess (lhs rhs : PolicyRuleDescriptor)
    (h : ruleLess priorityOrder lhs rhs = false) :
    (makeRank priorityOrder lhs).less (makeRank priorityOrder rhs) = false := by
  rw [ruleLess_eq] at h
  exact thenBy_key RuleRank.linear_less h

/-! ## One winner a scope -/

theorem mem_scopedRules :
    rule ∈ scopedRules rules priorityOrder scopeKey ↔
      rule ∈ rules ∧ makeScopeKey rule = scopeKey := by
  unfold scopedRules
  rw [List.mem_insertionSort, List.mem_filter, decide_eq_true_eq]

theorem mem_scopeKeys :
    scopeKey ∈ scopeKeys rules ↔ ∃ rule ∈ rules, makeScopeKey rule = scopeKey := by
  unfold scopeKeys
  rw [List.mem_insertionSort, List.mem_dedup, List.mem_map]

theorem nodup_scopeKeys : (scopeKeys rules).Nodup :=
  (List.perm_insertionSort _ _).nodup_iff.mpr (List.nodup_dedup _)

/-- Whether a scope stops the resolution: its first rank is tied, and not among compatibility
rules only. -/
def scopeConflicts (rules : List PolicyRuleDescriptor) (priorityOrder scopeKey : Bytes) : Bool :=
  match scopedRules rules priorityOrder scopeKey with
  | [] => false
  | winner :: others =>
    others.head?.any (sameRank priorityOrder winner) && !isCompatGroup (winner :: others)

/-- The rule that a scope keeps. -/
def scopeWinner (rules : List PolicyRuleDescriptor) (priorityOrder scopeKey : Bytes) :
    Option PolicyRuleDescriptor :=
  (scopedRules rules priorityOrder scopeKey).head?

theorem tied_iff (others : List PolicyRuleDescriptor) :
    1 < (winner.ruleId ::
        (others.takeWhile (sameRank priorityOrder winner)).map (·.ruleId)).length ↔
      others.head?.any (sameRank priorityOrder winner) = true := by
  rcases others with _ | ⟨second, others⟩
  · simp
  · rcases hsame : sameRank priorityOrder winner second with _ | _
    · simp [hsame]
    · simp [hsame]

/-- A resolution stops at the first scope that conflicts, and otherwise keeps every winner. -/
theorem resolveScopes_spec (result : ConflictResolutionResult) (keys : List Bytes) :
    ((∀ key ∈ keys, scopeConflicts rules result.priorityOrder key = false) ∧
      (resolveScopes rules result keys).resolved = true ∧
      (resolveScopes rules result keys).effectiveRules =
        result.effectiveRules ++ keys.filterMap (scopeWinner rules result.priorityOrder)) ∨
    ((∃ key ∈ keys, scopeConflicts rules result.priorityOrder key = true) ∧
      (resolveScopes rules result keys).resolved = false ∧
      (resolveScopes rules result keys).effectiveRules = []) := by
  induction keys generalizing result with
  | nil =>
    refine Or.inl ⟨by simp, ?_⟩
    unfold resolveScopes
    simp
  | cons key rest ih =>
    -- a scope that settles keeps its winner and leaves the order as it is
    have hsettled (next : ConflictResolutionResult)
        (horder : next.priorityOrder = result.priorityOrder)
        (hconflict : scopeConflicts rules result.priorityOrder key = false)
        (hnext : next.effectiveRules =
          result.effectiveRules ++ [key].filterMap (scopeWinner rules result.priorityOrder)) :
        ((∀ other ∈ key :: rest, scopeConflicts rules result.priorityOrder other = false) ∧
          (resolveScopes rules next rest).resolved = true ∧
          (resolveScopes rules next rest).effectiveRules = result.effectiveRules ++
            (key :: rest).filterMap (scopeWinner rules result.priorityOrder)) ∨
        ((∃ other ∈ key :: rest, scopeConflicts rules result.priorityOrder other = true) ∧
          (resolveScopes rules next rest).resolved = false ∧
          (resolveScopes rules next rest).effectiveRules = []) := by
      have hrest := ih next
      rw [horder, hnext] at hrest
      rcases hrest with ⟨hclear, hresolved, hrules⟩ | ⟨⟨other, hother, hstop⟩, hfailed⟩
      · refine Or.inl ⟨?_, hresolved, ?_⟩
        · intro other hother
          rcases List.mem_cons.mp hother with heq | hin
          · rw [heq]
            exact hconflict
          · exact hclear other hin
        · rw [hrules, List.append_assoc, ← List.filterMap_append]
          rfl
      · exact Or.inr ⟨⟨other, List.mem_cons_of_mem _ hother, hstop⟩, hfailed⟩
    unfold resolveScopes
    rcases hscoped : scopedRules rules result.priorityOrder key with _ | ⟨winner, others⟩
    · apply hsettled result rfl
      · simp [scopeConflicts, hscoped]
      · simp [scopeWinner, hscoped]
    · have hwinner : [key].filterMap (scopeWinner rules result.priorityOrder) = [winner] := by
        simp [scopeWinner, hscoped]
      dsimp only
      split
      · next htied =>
        rw [tied_iff] at htied
        split
        · next hcompat =>
          apply hsettled
          · rfl
          · simp [scopeConflicts, hscoped, hcompat]
          · rw [hwinner]
        · next hcompat =>
          refine Or.inr ⟨⟨key, List.mem_cons_self, ?_⟩, rfl, rfl⟩
          simp [scopeConflicts, hscoped, htied, hcompat]
      · next hclear =>
        rw [tied_iff, Bool.not_eq_true] at hclear
        apply hsettled
        · rfl
        · simp [scopeConflicts, hscoped, hclear]
        · rw [hwinner]

theorem resolve_resolved (hvalid : bundle.isValid = true) :
    (resolve bundle).resolved = true ↔
      ∀ key ∈ scopeKeys bundle.rules,
        scopeConflicts bundle.rules (extractPriorityOrder bundle) key = false := by
  unfold resolve
  rw [hvalid]
  rcases resolveScopes_spec bundle.rules { priorityOrder := extractPriorityOrder bundle }
    (scopeKeys bundle.rules) with ⟨hclear, hresolved, -⟩ | ⟨⟨key, hkey, hstop⟩, hfailed, -⟩
  · exact iff_of_true hresolved hclear
  · apply iff_of_false
    · simp [hfailed]
    · intro hclear
      rw [hclear key hkey] at hstop
      simp at hstop

theorem resolve_effectiveRules (h : (resolve bundle).resolved = true) :
    (resolve bundle).effectiveRules = (scopeKeys bundle.rules).filterMap
      (scopeWinner bundle.rules (extractPriorityOrder bundle)) := by
  unfold resolve at h ⊢
  dsimp only at h ⊢
  split at h
  · simp at h
  rw [if_neg ‹_›]
  rcases resolveScopes_spec bundle.rules { priorityOrder := extractPriorityOrder bundle }
    (scopeKeys bundle.rules) with ⟨-, -, hrules⟩ | ⟨-, hfailed, -⟩
  · rw [hrules]
    rfl
  · rw [hfailed] at h
    simp at h

theorem resolve_unresolved (h : (resolve bundle).resolved = false) :
    (resolve bundle).effectiveRules = [] := by
  unfold resolve at h ⊢
  dsimp only at h ⊢
  split
  · rfl
  · next hvalid =>
    rw [if_neg hvalid] at h
    rcases resolveScopes_spec bundle.rules { priorityOrder := extractPriorityOrder bundle }
      (scopeKeys bundle.rules) with ⟨-, hresolved, -⟩ | ⟨-, -, hnone⟩
    · rw [hresolved] at h
      simp at h
    · exact hnone

theorem scopeWinner_mem (h : scopeWinner rules priorityOrder scopeKey = some winner) :
    winner ∈ rules ∧ makeScopeKey winner = scopeKey := by
  rw [← mem_scopedRules rules priorityOrder]
  exact List.mem_of_head? h

theorem exists_scopeWinner (hmem : rule ∈ rules) :
    ∃ winner, scopeWinner rules priorityOrder (makeScopeKey rule) = some winner := by
  have hin := (mem_scopedRules rules priorityOrder _ rule).mpr ⟨hmem, rfl⟩
  unfold scopeWinner
  rcases hscoped : scopedRules rules priorityOrder (makeScopeKey rule) with _ | ⟨winner, others⟩
  · rw [hscoped] at hin
    simp at hin
  · exact ⟨winner, rfl⟩

theorem scopeWinner_least (h : scopeWinner rules priorityOrder scopeKey = some winner)
    (rule : PolicyRuleDescriptor) (hmem : rule ∈ rules) (hkey : makeScopeKey rule = scopeKey) :
    ruleLess priorityOrder rule winner = false := by
  unfold scopeWinner at h
  rcases hscoped : scopedRules rules priorityOrder scopeKey with _ | ⟨head, others⟩
  · simp [hscoped] at h
  · have hhead : head = winner := by simpa [hscoped] using h
    rw [← hhead]
    exact (strictWeak_ruleLess priorityOrder).head_least hscoped rule
      (List.mem_filter.mpr ⟨hmem, by simpa using hkey⟩)

/-- The winners of a list of scopes: each scope has one, and it is a rule of that scope. -/
structure WinnersOf (rules winners : List PolicyRuleDescriptor) (keys : List Bytes) : Prop where
  keys : winners.map makeScopeKey = keys
  rules : ∀ winner ∈ winners, winner ∈ rules

theorem winnersOf_scopes
    (keys : List Bytes) (hkeys : ∀ key ∈ keys, ∃ rule ∈ rules, makeScopeKey rule = key) :
    WinnersOf rules (keys.filterMap (scopeWinner rules priorityOrder)) keys where
  keys := by
    induction keys with
    | nil => rfl
    | cons key rest ih =>
      obtain ⟨rule, hrule, hkey⟩ := hkeys key List.mem_cons_self
      obtain ⟨winner, hwinner⟩ := exists_scopeWinner rules priorityOrder rule hrule
      rw [hkey] at hwinner
      rw [List.filterMap_cons_some hwinner, List.map_cons,
        ih fun other hother => hkeys other (List.mem_cons_of_mem _ hother),
        (scopeWinner_mem rules priorityOrder key winner hwinner).2]
  rules winner hwinner := by
    obtain ⟨key, -, hkey⟩ := List.mem_filterMap.mp hwinner
    exact (scopeWinner_mem rules priorityOrder key winner hkey).1

theorem resolve_winners (h : (resolve bundle).resolved = true) :
    WinnersOf bundle.rules (resolve bundle).effectiveRules (scopeKeys bundle.rules) := by
  rw [resolve_effectiveRules bundle h]
  exact winnersOf_scopes _ _ _ fun key hkey => (mem_scopeKeys _ _).mp hkey

theorem mem_effectiveRules (h : (resolve bundle).resolved = true)
    (rule : PolicyRuleDescriptor) :
    rule ∈ (resolve bundle).effectiveRules ↔
      scopeWinner bundle.rules (extractPriorityOrder bundle) (makeScopeKey rule) = some rule := by
  rw [resolve_effectiveRules bundle h, List.mem_filterMap]
  constructor
  · rintro ⟨key, -, hkey⟩
    rw [(scopeWinner_mem _ _ _ _ hkey).2]
    exact hkey
  · intro hwinner
    have hmem := (scopeWinner_mem _ _ _ _ hwinner).1
    exact ⟨_, (mem_scopeKeys _ _).mpr ⟨rule, hmem, rfl⟩, hwinner⟩

theorem resolve_scopes_nodup (h : (resolve bundle).resolved = true) :
    ((resolve bundle).effectiveRules.map makeScopeKey).Nodup := by
  rw [(resolve_winners bundle h).keys]
  exact nodup_scopeKeys bundle.rules

theorem resolve_keeps (h : (resolve bundle).resolved = true)
    (rule : PolicyRuleDescriptor) (hmem : rule ∈ bundle.rules)
    (halone : ∀ other ∈ bundle.rules, makeScopeKey other = makeScopeKey rule → other = rule) :
    rule ∈ (resolve bundle).effectiveRules := by
  have hwinners := resolve_winners bundle h
  have hkey : makeScopeKey rule ∈ (resolve bundle).effectiveRules.map makeScopeKey := by
    rw [hwinners.keys]
    exact (mem_scopeKeys _ _).mpr ⟨rule, hmem, rfl⟩
  obtain ⟨winner, hwinner, hsame⟩ := List.mem_map.mp hkey
  rw [← halone winner (hwinners.rules winner hwinner) hsame]
  exact hwinner

end Dasall.Infra.Policy
