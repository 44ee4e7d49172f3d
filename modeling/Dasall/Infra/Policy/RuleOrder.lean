import Dasall.Infra.Policy.DenyFirst

/-!
# The order of the rules of a bundle

The first rule that carries an order sets it, and rules that tie to the last leave the choice to
their order. Where neither happens, the order of the rules has no meaning.
-/

open Dasall.Lib.Sort Dasall.Lib.Text

namespace Dasall.Infra.Policy

/-- The order that a rule carries. -/
def carriedOrder (rule : PolicyRuleDescriptor) : Option Bytes :=
  let key := str "priority_order="
  (rule.conditions.find? fun item => key.isPrefixOf item).map (·.drop key.length)

def normalizeOrder (order : Option Bytes) : Bytes :=
  if order = some (str "explicit-priority") then str "explicit-priority" else str "deny-first"

/-- An order that some rule carries, or the default where none carries one. -/
def PossibleOrder (rules : List PolicyRuleDescriptor) (order : Bytes) : Prop :=
  (∃ rule ∈ rules, (carriedOrder rule).isSome = true ∧ order = normalizeOrder (carriedOrder rule)) ∨
    (∀ rule ∈ rules, carriedOrder rule = none) ∧ order = normalizeOrder none

/-- Two rules of the scope share its first rank, and one of its rules is not for compatibility. -/
def Conflicted (rules : List PolicyRuleDescriptor) (order key : Bytes) : Prop :=
  (∃ first second rest,
    (rules.filter fun rule => makeScopeKey rule = key).Perm (first :: second :: rest) ∧
      sameRank order first second = true ∧
      ∀ rule ∈ rules, makeScopeKey rule = key →
        (makeRank order rule).less (makeRank order first) = false) ∧
    ∃ rule ∈ rules, makeScopeKey rule = key ∧ rule.mode ≠ .compatibility

/-- No rule of its scope comes before the rule. -/
def Leads (rules : List PolicyRuleDescriptor) (order : Bytes) (rule : PolicyRuleDescriptor) : Prop :=
  rule ∈ rules ∧
    ∀ other ∈ rules, makeScopeKey other = makeScopeKey rule → ruleLess order other rule = false

/-- Every order that the rules may be given under leaves the same scopes settled, with the same
rule and no other in the lead of each. -/
def OrderFree (rules : List PolicyRuleDescriptor) : Prop :=
  ∀ order order', PossibleOrder rules order → PossibleOrder rules order' →
    ((∃ key, Conflicted rules order key) ↔ ∃ key, Conflicted rules order' key) ∧
    ((∀ key, ¬ Conflicted rules order key) →
      ∀ rule rule', Leads rules order rule → Leads rules order' rule' →
        makeScopeKey rule = makeScopeKey rule' → rule = rule')

/-! ## The order of a bundle -/

variable (bundle : PolicyBundle) (rules rules' : List PolicyRuleDescriptor) (next : PolicyBundle)
  (order key : Bytes) (rule : PolicyRuleDescriptor)

theorem extractPriorityOrder_eq :
    extractPriorityOrder bundle = normalizeOrder (bundle.rules.findSome? carriedOrder) := rfl

theorem extractPriorityOrder_possible :
    PossibleOrder bundle.rules (extractPriorityOrder bundle) := by
  rw [extractPriorityOrder_eq]
  rcases hfound : bundle.rules.findSome? carriedOrder with _ | order
  · rw [List.findSome?_eq_none_iff] at hfound
    exact Or.inr ⟨hfound, rfl⟩
  · obtain ⟨rule, hrule, hcarried⟩ := List.exists_of_findSome?_eq_some hfound
    exact Or.inl ⟨rule, hrule, by simp [hcarried], by rw [hcarried]⟩

theorem possibleOrder_perm (hperm : rules.Perm rules')
    (order : Bytes) (h : PossibleOrder rules order) : PossibleOrder rules' order := by
  rcases h with ⟨rule, hrule, hcarried⟩ | ⟨hnone, horder⟩
  · exact Or.inl ⟨rule, hperm.mem_iff.mp hrule, hcarried⟩
  · exact Or.inr ⟨fun rule hrule => hnone rule (hperm.mem_iff.mpr hrule), horder⟩

theorem conflicted_perm (hperm : rules.Perm rules')
    (order key : Bytes) (h : Conflicted rules order key) : Conflicted rules' order key := by
  obtain ⟨⟨first, second, rest, hscope, hsame, hleast⟩, rule, hrule, hmode⟩ := h
  refine ⟨⟨first, second, rest, (hperm.filter _).symm.trans hscope, hsame, ?_⟩, rule,
    hperm.mem_iff.mp hrule, hmode⟩
  exact fun other hother => hleast other (hperm.mem_iff.mpr hother)

theorem leads_perm (hperm : rules.Perm rules')
    (order : Bytes) (rule : PolicyRuleDescriptor) (h : Leads rules order rule) :
    Leads rules' order rule :=
  ⟨hperm.mem_iff.mp h.1, fun other hother => h.2 other (hperm.mem_iff.mpr hother)⟩

theorem scopeWinner_leads
    (winner : PolicyRuleDescriptor) (h : scopeWinner rules order key = some winner) :
    Leads rules order winner := by
  obtain ⟨hmem, hkey⟩ := scopeWinner_mem rules order key winner h
  refine ⟨hmem, fun other hother hscope => ?_⟩
  exact scopeWinner_least rules order key winner h other hother (hscope.trans hkey)

/-! ## Conflicts -/

theorem sameRank_of_least (lhs rhs : PolicyRuleDescriptor)
    (hlhs : (makeRank order lhs).less (makeRank order rhs) = false)
    (hrhs : (makeRank order rhs).less (makeRank order lhs) = false) :
    sameRank order lhs rhs = true := by
  unfold sameRank
  rw [decide_eq_true_eq]
  exact RuleRank.linear_less.eq_of_tied hlhs hrhs

theorem isCompatGroup_false :
    isCompatGroup (scopedRules rules order key) = false ↔
      ∃ rule ∈ rules, makeScopeKey rule = key ∧ rule.mode ≠ .compatibility := by
  unfold isCompatGroup
  rw [List.all_eq_false]
  constructor
  · rintro ⟨rule, hrule, hmode⟩
    obtain ⟨hmem, hkey⟩ := (mem_scopedRules ..).mp hrule
    exact ⟨rule, hmem, hkey, by simpa using hmode⟩
  · rintro ⟨rule, hmem, hkey, hmode⟩
    exact ⟨rule, (mem_scopedRules ..).mpr ⟨hmem, hkey⟩, by simpa using hmode⟩

theorem scopeConflicts_iff :
    scopeConflicts rules order key = true ↔ Conflicted rules order key := by
  have hperm : (scopedRules rules order key).Perm
      (rules.filter fun rule => makeScopeKey rule = key) := List.perm_insertionSort _ _
  have hcompat := isCompatGroup_false rules order key
  have hpairwise := (strictWeak_ruleLess order).pairwise
    (rules.filter fun rule => makeScopeKey rule = key)
  have hwinner := scopeWinner_least rules order key
  unfold scopeWinner at hwinner
  change List.Pairwise _ (scopedRules rules order key) at hpairwise
  unfold scopeConflicts
  rcases hscoped : scopedRules rules order key with _ | ⟨winner, others⟩
  · rw [hscoped] at hperm
    apply iff_of_false (by simp)
    rintro ⟨⟨first, second, rest, hscope, -⟩, -⟩
    have hnil := hperm.trans hscope
    simp at hnil
  rw [hscoped] at hperm hcompat hpairwise hwinner
  have hleast (rule : PolicyRuleDescriptor) (hrule : rule ∈ rules) (hkey : makeScopeKey rule = key) :=
    rank_of_ruleLess order rule winner (hwinner winner rfl rule hrule hkey)
  dsimp only
  rw [Bool.and_eq_true, Bool.not_eq_true', hcompat]
  apply and_congr_left'
  constructor
  · intro hsecond
    rcases others with _ | ⟨second, others⟩
    · simp at hsecond
    · exact ⟨winner, second, others, hperm.symm, hsecond, hleast⟩
  · rintro ⟨first, second, rest, hscope, hsame, hfirst⟩
    have hmem (rule : PolicyRuleDescriptor) (hrule : rule ∈ first :: second :: rest) :
        rule ∈ rules ∧ makeScopeKey rule = key := by
      have hin := hscope.mem_iff.mpr hrule
      simpa using hin
    obtain ⟨hwinnerMem, hwinnerKey⟩ := hmem winner
      ((hperm.trans hscope).mem_iff.mp List.mem_cons_self)
    obtain ⟨hfirstMem, hfirstKey⟩ := hmem first List.mem_cons_self
    have hrank := sameRank_of_least order winner first
      (hfirst winner hwinnerMem hwinnerKey) (hleast first hfirstMem hfirstKey)
    unfold sameRank at hrank hsame
    rw [decide_eq_true_eq] at hrank hsame
    -- one of the two is not the winner itself, and it stands behind the winner
    have hbehind : ∃ rule ∈ others, makeRank order rule = makeRank order winner := by
      have hall := hperm.trans hscope
      rcases Classical.em (winner = first) with hsameRule | hother
      · rw [← hsameRule] at hall
        have hsecond := (List.perm_cons winner).mp hall
        exact ⟨second, hsecond.mem_iff.mpr List.mem_cons_self, by rw [hrank, hsame]⟩
      · have hin := hall.mem_iff.mpr (List.mem_cons_self : first ∈ first :: second :: rest)
        rcases List.mem_cons.mp hin with heq | hin
        · exact absurd heq.symm hother
        · exact ⟨first, hin, hrank.symm⟩
    obtain ⟨rule, hrule, hruleRank⟩ := hbehind
    rcases others with _ | ⟨next, others⟩
    · simp at hrule
    rw [List.head?_cons, Option.any_some]
    have hnextMem := (mem_scopedRules rules order key next).mp (by rw [hscoped]; simp)
    apply sameRank_of_least order winner next _ (hleast next hnextMem.1 hnextMem.2)
    rcases List.mem_cons.mp hrule with heq | hlater
    · rw [← heq, hruleRank]
      exact RuleRank.linear_less.irrefl _
    · rw [← hruleRank]
      rw [List.pairwise_cons, List.pairwise_cons] at hpairwise
      exact rank_of_ruleLess order rule next (hpairwise.2.1 rule hlater)

theorem resolved_iff (hvalid : bundle.isValid = true) :
    (resolve bundle).resolved = true ↔
      ∀ key, ¬ Conflicted bundle.rules (extractPriorityOrder bundle) key := by
  rw [resolve_resolved bundle hvalid]
  constructor
  · intro hclear key hconflicted
    obtain ⟨rule, hrule, hkey, -⟩ := hconflicted.2
    have hfalse := hclear key ((mem_scopeKeys _ _).mpr ⟨rule, hrule, hkey⟩)
    rw [← Bool.not_eq_true, scopeConflicts_iff] at hfalse
    exact hfalse hconflicted
  · intro hclear key _
    rw [← Bool.not_eq_true, scopeConflicts_iff]
    exact hclear key

/-! ## What two orders of the rules agree on -/

def PolicyBundle.reorder (bundle : PolicyBundle) (rules : List PolicyRuleDescriptor) :
    PolicyBundle :=
  { bundle with rules }

theorem reorder_isValid (hperm : bundle.rules.Perm rules) (hvalid : bundle.isValid = true) :
    (bundle.reorder rules).isValid = true := by
  have hnil : bundle.rules = [] ↔ rules = [] := by
    rw [← List.length_eq_zero_iff, hperm.length_eq, List.length_eq_zero_iff]
  simp only [PolicyBundle.isValid, Bool.and_eq_true, decide_eq_true_eq, List.all_eq_true] at hvalid ⊢
  refine ⟨⟨hvalid.1.1, fun hempty => hvalid.1.2 (hnil.mpr hempty)⟩, fun rule hrule => ?_⟩
  exact hvalid.2 rule (hperm.mem_iff.mpr hrule)

/-- Two resolutions agree on the outcome, on the set of effective rules, and on every decision. -/
structure SameMeaning (first second : ConflictResolutionResult) : Prop where
  resolved : first.resolved = second.resolved
  rules : ∀ rule, rule ∈ first.effectiveRules ↔ rule ∈ second.effectiveRules
  decision : ∀ (query : PolicyQueryContext) (snapshot : PolicySnapshot),
    (project query { snapshot with effectiveRules := first.effectiveRules }).decision =
      (project query { snapshot with effectiveRules := second.effectiveRules }).decision
  matched : ∀ (query : PolicyQueryContext) (snapshot : PolicySnapshot) (ruleId : Bytes),
    ruleId ∈ (project query
        { snapshot with effectiveRules := first.effectiveRules }).matchedRuleIds ↔
      ruleId ∈ (project query
        { snapshot with effectiveRules := second.effectiveRules }).matchedRuleIds

theorem resolve_nodup : (resolve bundle).effectiveRules.Nodup := by
  rcases hresolved : (resolve bundle).resolved with _ | _
  · rw [resolve_unresolved bundle hresolved]
    exact List.nodup_nil
  · exact List.Nodup.of_map makeScopeKey (resolve_scopes_nodup bundle hresolved)

theorem sameMeaning_of_rules (hresolved : (resolve bundle).resolved = (resolve next).resolved)
    (hrules : ∀ rule, rule ∈ (resolve bundle).effectiveRules ↔ rule ∈ (resolve next).effectiveRules) :
    SameMeaning (resolve bundle) (resolve next) := by
  have hperm := (List.perm_ext_iff_of_nodup (resolve_nodup bundle) (resolve_nodup next)).mpr hrules
  exact {
    resolved := hresolved
    rules := hrules
    decision := fun query snapshot => (project_perm query snapshot _ _ hperm).1
    matched := fun query snapshot _ => (project_perm query snapshot _ _ hperm).2.mem_iff }

theorem sameMeaning_of_orderFree (hvalid : bundle.isValid = true)
    (hfree : OrderFree bundle.rules) (rules : List PolicyRuleDescriptor)
    (hperm : bundle.rules.Perm rules) :
    SameMeaning (resolve bundle) (resolve (bundle.reorder rules)) := by
  have hvalid' := reorder_isValid bundle rules hperm hvalid
  obtain ⟨hconflicts, hleads⟩ := hfree _ _ (extractPriorityOrder_possible bundle)
    (possibleOrder_perm rules bundle.rules hperm.symm _
      (extractPriorityOrder_possible (bundle.reorder rules)))
  have hiff : (resolve bundle).resolved = true ↔ (resolve (bundle.reorder rules)).resolved = true := by
    rw [resolved_iff bundle hvalid, resolved_iff _ hvalid', ← not_exists, ← not_exists, hconflicts]
    apply not_congr
    apply exists_congr
    intro key
    exact ⟨conflicted_perm _ _ hperm _ _, conflicted_perm _ _ hperm.symm _ _⟩
  have hresolved := Bool.eq_iff_iff.mpr hiff
  apply sameMeaning_of_rules _ _ hresolved
  rcases hbundle : (resolve bundle).resolved with _ | _
  · rw [hbundle] at hresolved
    rw [resolve_unresolved bundle hbundle, resolve_unresolved _ hresolved.symm]
    simp
  have hnext := hiff.mp hbundle
  have hclear := (resolved_iff bundle hvalid).mp hbundle
  intro rule
  rw [mem_effectiveRules bundle hbundle, mem_effectiveRules _ hnext]
  constructor
  · intro hwinner
    have hlead := scopeWinner_leads _ _ _ _ hwinner
    obtain ⟨rule', hwinner'⟩ := exists_scopeWinner (bundle.reorder rules).rules
      (extractPriorityOrder (bundle.reorder rules)) rule (hperm.mem_iff.mp hlead.1)
    have hlead' := leads_perm _ _ hperm.symm _ _ (scopeWinner_leads _ _ _ _ hwinner')
    have hsame := hleads hclear rule rule' hlead hlead' (scopeWinner_mem _ _ _ _ hwinner').2.symm
    rw [← hsame] at hwinner'
    exact hwinner'
  · intro hwinner'
    have hlead' := leads_perm _ _ hperm.symm _ _ (scopeWinner_leads _ _ _ _ hwinner')
    obtain ⟨winner, hwinner⟩ := exists_scopeWinner bundle.rules (extractPriorityOrder bundle) rule
      hlead'.1
    have hlead := scopeWinner_leads _ _ _ _ hwinner
    have hsame := hleads hclear winner rule hlead hlead' (scopeWinner_mem _ _ _ _ hwinner).2
    rw [hsame] at hwinner
    exact hwinner

/-! ## Bringing a rule to the front -/

/-- Every order of the rules gives the bundle the same meaning. -/
def OrderIndependent (bundle : PolicyBundle) : Prop :=
  ∀ rules, bundle.rules.Perm rules → SameMeaning (resolve bundle) (resolve (bundle.reorder rules))

theorem normalizeOrder_first
    (rest : List PolicyRuleDescriptor) (hcarried : (carriedOrder rule).isSome = true) :
    extractPriorityOrder (bundle.reorder (rule :: rest)) = normalizeOrder (carriedOrder rule) := by
  obtain ⟨order, horder⟩ := Option.isSome_iff_exists.mp hcarried
  rw [extractPriorityOrder_eq]
  simp [PolicyBundle.reorder, horder]

theorem leads_rest (rest : List PolicyRuleDescriptor) (order : Bytes)
    (hlead : Leads (rule :: rest) order rule) :
    ∀ other ∈ rest.filter fun other => makeScopeKey other = makeScopeKey rule,
      ruleLess order other rule = false := by
  intro other hother
  rw [List.mem_filter, decide_eq_true_eq] at hother
  exact hlead.2 other (List.mem_cons_of_mem _ hother.1) hother.2

theorem scopeWinner_first (rest : List PolicyRuleDescriptor)
    (order : Bytes) (hlead : Leads (rule :: rest) order rule) :
    scopeWinner (rule :: rest) order (makeScopeKey rule) = some rule := by
  unfold scopeWinner scopedRules
  rw [List.filter_cons_of_pos (by simp)]
  have hsort := sortBy_first (leads_rest rule rest order hlead)
  unfold sortBy at hsort
  rw [hsort]
  rfl

/-- A rule that leads its scope keeps the lead behind a rule it does not tie with. -/
theorem scopeWinner_second (carrier rule : PolicyRuleDescriptor) (rest : List PolicyRuleDescriptor)
    (order : Bytes) (hlead : Leads (carrier :: rule :: rest) order rule)
    (hpass : makeScopeKey carrier = makeScopeKey rule → ruleLess order rule carrier = true) :
    scopeWinner (carrier :: rule :: rest) order (makeScopeKey rule) = some rule := by
  have hrest : Leads (rule :: rest) order rule :=
    ⟨List.mem_cons_self, fun other hother => hlead.2 other (List.mem_cons_of_mem _ hother)⟩
  have hwinner := scopeWinner_first rule rest order hrest
  unfold scopeWinner scopedRules at hwinner ⊢
  rcases Classical.em (makeScopeKey carrier = makeScopeKey rule) with hscope | hscope
  · rw [List.filter_cons_of_pos (by simpa using hscope), List.filter_cons_of_pos (by simp)]
    obtain ⟨tail, hsort⟩ := sortBy_second (hpass hscope) (leads_rest rule rest order hrest)
    unfold sortBy at hsort
    rw [hsort]
    rfl
  · rw [List.filter_cons_of_neg (by simpa using hscope)]
    exact hwinner

theorem tied_order (order' : Bytes) (lhs rhs : PolicyRuleDescriptor)
    (hlhs : ruleLess order lhs rhs = false) (hrhs : ruleLess order rhs lhs = false) :
    ruleLess order' lhs rhs = false ∧ ruleLess order' rhs lhs = false := by
  rw [ruleLess_eq] at hlhs hrhs
  have hrank : makeRank order lhs = makeRank order rhs :=
    RuleRank.linear_less.eq_of_tied (thenBy_key RuleRank.linear_less hlhs)
      (thenBy_key RuleRank.linear_less hrhs)
  have hid := thenBy_rest hlhs hrank
  have hid' := thenBy_rest hrhs hrank.symm
  have hfields : policyEffectPrecedence lhs.effect = policyEffectPrecedence rhs.effect ∧
      lhs.priority = rhs.priority := by
    unfold makeRank at hrank
    split at hrank <;> simp_all
  have hrank' : makeRank order' lhs = makeRank order' rhs := by
    unfold makeRank
    rw [hfields.1, hfields.2]
  unfold ruleLess
  rw [if_neg (by simp [hrank']), if_neg (by simp [hrank'])]
  exact ⟨hid, hid'⟩

theorem leads_of_tied (other : PolicyRuleDescriptor) (hlead : Leads rules order rule) (hmem : other ∈ rules)
    (hscope : makeScopeKey other = makeScopeKey rule) (htied : ruleLess order rule other = false) :
    Leads rules order other :=
  ⟨hmem, fun third hthird hkey => (strictWeak_ruleLess order).trans _ _ _ htied
    (hlead.2 third hthird (hkey.trans hscope))⟩

theorem effective_eq (hresolved : (resolve bundle).resolved = true)
    (lhs rhs : PolicyRuleDescriptor) (hlhs : lhs ∈ (resolve bundle).effectiveRules)
    (hrhs : rhs ∈ (resolve bundle).effectiveRules)
    (hscope : makeScopeKey lhs = makeScopeKey rhs) : lhs = rhs := by
  rw [mem_effectiveRules bundle hresolved] at hlhs hrhs
  rw [hscope, hrhs, Option.some.injEq] at hlhs
  exact hlhs.symm

theorem effective_of_winner (hfree : OrderIndependent bundle)
    (hresolved : (resolve bundle).resolved = true) (rules : List PolicyRuleDescriptor)
    (hperm : bundle.rules.Perm rules) (order : Bytes)
    (horder : extractPriorityOrder (bundle.reorder rules) = order) (rule : PolicyRuleDescriptor)
    (hwinner : scopeWinner rules order (makeScopeKey rule) = some rule) :
    rule ∈ (resolve bundle).effectiveRules := by
  have hsame := hfree rules hperm
  rw [hsame.resolved] at hresolved
  rw [hsame.rules, mem_effectiveRules _ hresolved, horder]
  exact hwinner

theorem effective_of_leads (hfree : OrderIndependent bundle)
    (hresolved : (resolve bundle).resolved = true) (order : Bytes)
    (hpossible : PossibleOrder bundle.rules order) (rule : PolicyRuleDescriptor)
    (hlead : Leads bundle.rules order rule) : rule ∈ (resolve bundle).effectiveRules := by
  have hfront := List.perm_cons_erase hlead.1
  have hleadFront := leads_perm _ _ hfront _ _ hlead
  rcases hpossible with ⟨carrier, hcarrier, hcarried, horder⟩ | ⟨hnone, horder⟩
  · rcases Classical.em (carrier = rule) with hsameRule | hother
    · rw [hsameRule] at hcarried horder
      apply effective_of_winner bundle hfree hresolved _ hfront order
      · rw [normalizeOrder_first _ _ _ hcarried, horder]
      · exact scopeWinner_first rule _ order hleadFront
    · have hcarrierRest : carrier ∈ bundle.rules.erase rule :=
        (List.mem_erase_of_ne hother).mpr hcarrier
      have hboth : bundle.rules.Perm (carrier :: rule :: (bundle.rules.erase rule).erase carrier) :=
        (hfront.trans ((List.perm_cons_erase hcarrierRest).cons rule)).trans
          (List.Perm.swap carrier rule _)
      have horderBoth : extractPriorityOrder (bundle.reorder
          (carrier :: rule :: (bundle.rules.erase rule).erase carrier)) = order := by
        rw [normalizeOrder_first _ _ _ hcarried, horder]
      have hleadBoth := leads_perm _ _ hboth _ _ hlead
      rcases Classical.em (makeScopeKey carrier = makeScopeKey rule → ruleLess order rule carrier = true)
        with hpass | htied
      · apply effective_of_winner bundle hfree hresolved _ hboth order horderBoth
        exact scopeWinner_second carrier rule _ order hleadBoth hpass
      · -- the carrier ties with the rule, so either of them wins from the front of the list
        rw [Classical.not_imp, Bool.not_eq_true] at htied
        obtain ⟨hscope, htie⟩ := htied
        have hcarrierLead := leads_of_tied bundle.rules order rule carrier hlead hcarrier hscope htie
        have hcarrierEffective := effective_of_winner bundle hfree hresolved _ hboth order horderBoth
          carrier (scopeWinner_first carrier _ order (leads_perm _ _ hboth _ _ hcarrierLead))
        obtain ⟨winner, hwinner⟩ := exists_scopeWinner (rule :: bundle.rules.erase rule)
          (extractPriorityOrder (bundle.reorder (rule :: bundle.rules.erase rule))) rule
          List.mem_cons_self
        have hwinnerScope := (scopeWinner_mem _ _ _ _ hwinner).2
        have hwinnerEffective := effective_of_winner bundle hfree hresolved _ hfront _ rfl winner
          (by rw [hwinnerScope]; exact hwinner)
        have hwinnerCarrier := effective_eq bundle hresolved winner carrier hwinnerEffective
          hcarrierEffective (hwinnerScope.trans hscope.symm)
        rw [hwinnerCarrier] at hwinner
        have htie' := tied_order order
          (extractPriorityOrder (bundle.reorder (rule :: bundle.rules.erase rule))) rule carrier htie
          (hlead.2 carrier hcarrier hscope)
        have hruleLead := leads_of_tied _ _ carrier rule (scopeWinner_leads _ _ _ _ hwinner)
          List.mem_cons_self hscope.symm htie'.2
        rw [scopeWinner_first rule _ _ hruleLead, Option.some.injEq] at hwinner
        rw [hwinner]
        exact hcarrierEffective
  · apply effective_of_winner bundle hfree hresolved _ hfront order
    · rw [extractPriorityOrder_eq, horder, List.findSome?_eq_none_iff.mpr]
      intro other hother
      exact hnone other (hfront.mem_iff.mpr hother)
    · exact scopeWinner_first rule _ order hleadFront

theorem possibleOrder_reorder (h : PossibleOrder bundle.rules order) :
    ∃ rules, bundle.rules.Perm rules ∧ extractPriorityOrder (bundle.reorder rules) = order := by
  rcases h with ⟨carrier, hcarrier, hcarried, horder⟩ | ⟨hnone, horder⟩
  · refine ⟨_, List.perm_cons_erase hcarrier, ?_⟩
    rw [normalizeOrder_first _ _ _ hcarried, horder]
  · refine ⟨_, List.Perm.refl _, ?_⟩
    rw [extractPriorityOrder_eq, horder]
    exact congrArg normalizeOrder (List.findSome?_eq_none_iff.mpr hnone)

theorem resolved_of_order (hvalid : bundle.isValid = true)
    (hfree : OrderIndependent bundle) (order : Bytes) (h : PossibleOrder bundle.rules order) :
    (resolve bundle).resolved = true ↔ ∀ key, ¬ Conflicted bundle.rules order key := by
  obtain ⟨rules, hperm, horder⟩ := possibleOrder_reorder bundle order h
  rw [(hfree rules hperm).resolved, resolved_iff _ (reorder_isValid bundle rules hperm hvalid), horder]
  apply forall_congr'
  intro key
  exact not_congr ⟨conflicted_perm _ _ hperm.symm _ _, conflicted_perm _ _ hperm _ _⟩

theorem orderFree_of_independent (hvalid : bundle.isValid = true)
    (hfree : OrderIndependent bundle) : OrderFree bundle.rules := by
  intro order order' horder horder'
  have hresolved := resolved_of_order bundle hvalid hfree order horder
  have hresolved' := resolved_of_order bundle hvalid hfree order' horder'
  constructor
  · rw [← not_iff_not, not_exists, not_exists, ← hresolved, ← hresolved']
  · intro hclear rule rule' hlead hlead' hscope
    have hbundle := hresolved.mpr hclear
    exact effective_eq bundle hbundle rule rule'
      (effective_of_leads bundle hfree hbundle order horder rule hlead)
      (effective_of_leads bundle hfree hbundle order' horder' rule' hlead') hscope

/-! ## Resolving the effective rules again -/

theorem scopeConflicts_alone
    (hscopes : (rules.map makeScopeKey).Nodup) : scopeConflicts rules order key = false := by
  rw [← Bool.not_eq_true, scopeConflicts_iff]
  rintro ⟨⟨first, second, rest, hperm, -⟩, -⟩
  have hnodup : ((first :: second :: rest).map makeScopeKey).Nodup := by
    rw [← (hperm.map makeScopeKey).nodup_iff]
    exact hscopes.sublist (List.filter_sublist.map makeScopeKey)
  have hkeys : makeScopeKey first = key ∧ makeScopeKey second = key := by
    have hfirst := hperm.mem_iff.mpr (show first ∈ first :: second :: rest by simp)
    have hsecond := hperm.mem_iff.mpr (show second ∈ first :: second :: rest by simp)
    rw [List.mem_filter, decide_eq_true_eq] at hfirst hsecond
    exact ⟨hfirst.2, hsecond.2⟩
  simp [hkeys.1, hkeys.2] at hnodup

/-- The effective rules are the effective rules of the bundle that holds only them. -/
theorem resolve_again (hresolved : (resolve bundle).resolved = true)
    (hvalid : next.isValid = true) (hrules : next.rules.Perm (resolve bundle).effectiveRules) :
    (resolve next).resolved = true ∧
      (resolve next).effectiveRules.Perm (resolve bundle).effectiveRules := by
  have hscopes : (next.rules.map makeScopeKey).Nodup := by
    rw [(hrules.map makeScopeKey).nodup_iff]
    exact resolve_scopes_nodup bundle hresolved
  have hnext : (resolve next).resolved = true := by
    rw [resolve_resolved next hvalid]
    exact fun key _ => scopeConflicts_alone _ _ _ hscopes
  refine ⟨hnext, ?_⟩
  rw [List.perm_ext_iff_of_nodup (resolve_nodup next) (resolve_nodup bundle)]
  intro rule
  constructor
  · intro hrule
    exact hrules.mem_iff.mp ((resolve_winners next hnext).rules rule hrule)
  · intro hrule
    apply resolve_keeps next hnext rule (hrules.mem_iff.mpr hrule)
    intro other hother hscope
    exact effective_eq bundle hresolved other rule (hrules.mem_iff.mp hother) hrule hscope

/-- The order of the rules has no meaning exactly in the bundles that are free of it, and the
effective rules of any bundle are their own effective rules. -/
theorem rule_order (bundle : PolicyBundle) (hvalid : bundle.isValid = true) :
    (OrderIndependent bundle ↔ OrderFree bundle.rules) ∧
      ∀ next : PolicyBundle, next.isValid = true →
        next.rules.Perm (resolve bundle).effectiveRules →
        (resolve next).resolved = true ∧
          ∀ rule, rule ∈ (resolve next).effectiveRules ↔ rule ∈ (resolve bundle).effectiveRules := by
  refine ⟨⟨orderFree_of_independent bundle hvalid, sameMeaning_of_orderFree bundle hvalid⟩, ?_⟩
  intro next hnext hrules
  rcases hresolved : (resolve bundle).resolved with _ | _
  · rw [resolve_unresolved bundle hresolved, List.perm_nil] at hrules
    simp [PolicyBundle.isValid, hrules] at hnext
  · obtain ⟨hagain, hperm⟩ := resolve_again bundle next hresolved hnext hrules
    exact ⟨hagain, fun rule => hperm.mem_iff⟩

theorem orderFree_of_unique (horder : ∀ possible, PossibleOrder rules possible → possible = order)
    (hnames : ∀ rule ∈ rules, ∀ rule' ∈ rules, makeScopeKey rule = makeScopeKey rule' →
      rule.ruleId = rule'.ruleId → rule = rule') : OrderFree rules := by
  intro first second hfirst hsecond
  rw [horder first hfirst, horder second hsecond]
  refine ⟨Iff.rfl, fun _ rule rule' hlead hlead' hscope => ?_⟩
  apply hnames rule hlead.1 rule' hlead'.1 hscope
  have hless := hlead.2 rule' hlead'.1 hscope.symm
  have hless' := hlead'.2 rule hlead.1 hscope
  rw [ruleLess_eq] at hless hless'
  have hrank : makeRank order rule = makeRank order rule' :=
    RuleRank.linear_less.eq_of_tied (thenBy_key RuleRank.linear_less hless')
      (thenBy_key RuleRank.linear_less hless)
  exact Linear.ofLT.eq_of_tied (thenBy_rest hless' hrank) (thenBy_rest hless hrank.symm)

theorem rule_order_allowAnyone : OrderIndependent allowAnyone := by
  apply (rule_order allowAnyone (by decide +kernel)).1.mpr
  apply orderFree_of_unique _ (str "deny-first")
  · have hcarried : ∀ rule ∈ allowAnyone.rules,
        normalizeOrder (carriedOrder rule) = str "deny-first" := by decide +kernel
    rintro possible (⟨rule, hrule, -, hpossible⟩ | ⟨-, hpossible⟩)
    · rw [hpossible, hcarried rule hrule]
    · rw [hpossible]
      rfl
  · decide +kernel

/-- Two rules of one scope that ask for different orders. -/
def mixedOrders : PolicyBundle := loadBundle
  [{ loadRule (str "allow-ops") (str "ops-user") .allow 1 with
      conditions := [str "priority_order=explicit-priority"] },
    loadRule (str "deny-ops") (str "ops-user") .deny 50]

/-- The rule that stands first decides whether the allow or the deny is effective. -/
theorem rule_order_matters : ¬ ∀ bundle : PolicyBundle, bundle.isValid = true →
    ∀ rules, bundle.rules.Perm rules →
      (resolve bundle).resolved = (resolve (bundle.reorder rules)).resolved ∧
        ∀ rule, rule ∈ (resolve bundle).effectiveRules ↔
          rule ∈ (resolve (bundle.reorder rules)).effectiveRules := by
  intro hclaim
  have hsame := (hclaim mixedOrders (by decide +kernel) mixedOrders.rules.reverse
    (List.reverse_perm _).symm).2 (loadRule (str "deny-ops") (str "ops-user") .deny 50)
  revert hsame
  decide +kernel

end Dasall.Infra.Policy
