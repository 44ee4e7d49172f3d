import Dasall.Infra.Policy.Manager

/-!
# The history of commits

Each commit takes the place of the snapshot before it. In an unbroken history each snapshot is
what its operation makes of that one.
-/

open Dasall.Lib.Run Dasall.Lib.Trace

namespace Dasall.Infra.Policy

def advance (_ : PolicySnapshot) (commit : PolicyCommit) : PolicySnapshot × Unit :=
  (commit.snapshot, ())

/-- The snapshot of the last commit, or the empty one. -/
def lastSnapshot (history : List PolicyCommit) : PolicySnapshot := (run advance {} history).1

/-- No two effective rules share a scope. -/
def ScopesApart (snapshot : PolicySnapshot) : Prop :=
  (snapshot.effectiveRules.map makeScopeKey).Nodup

namespace PolicyOperation

/-- The operation takes the rule out of the policy. -/
def Removes (operation : PolicyOperation) (rule : PolicyRuleDescriptor) : Prop :=
  match operation with
  | .load bundle => rule ∉ (resolve bundle).effectiveRules
  | .patch call => ∃ operation ∈ call.patch.operations, operation.Removes rule
  | .rollback _ targetSnapshot => rule ∉ targetSnapshot.effectiveRules

/-- The operation puts the rule into the policy. -/
def Brings (operation : PolicyOperation) (rule : PolicyRuleDescriptor) : Prop :=
  match operation with
  | .load bundle => rule ∈ (resolve bundle).effectiveRules
  | .patch call => ∃ operation ∈ call.patch.operations, operation.Brings rule
  | .rollback _ targetSnapshot => rule ∈ targetSnapshot.effectiveRules

/-- The snapshot is what the operation makes of the one before it. -/
def Makes (operation : PolicyOperation) (previousSnapshot snapshot : PolicySnapshot) : Prop :=
  match operation with
  | .load bundle =>
    (resolve bundle).resolved = true ∧ snapshot.effectiveRules = (resolve bundle).effectiveRules
  | .patch call =>
    (resolve (applyPatchToSnapshot previousSnapshot call.patch)).resolved = true ∧
      previousSnapshot.isValid = true ∧ snapshot = patchSnapshot previousSnapshot call.patch
  | .rollback _ targetSnapshot =>
    ScopesApart targetSnapshot ∧ snapshot.effectiveRules = targetSnapshot.effectiveRules

end PolicyOperation

structure Follows (previousSnapshot : PolicySnapshot) (commit : PolicyCommit) : Prop where
  valid : commit.snapshot.isValid = true
  later : previousSnapshot.isValid = true →
    previousSnapshot.generation < commit.snapshot.generation
  made : commit.operation.Makes previousSnapshot commit.snapshot

def Unbroken (history : List PolicyCommit) : Prop := AllSteps advance Follows {} history

/-! ## What the history records -/

/-- A patch was applied to the snapshot of an earlier commit with its base generation. -/
def FromBase (earlier : List PolicyCommit) (commit : PolicyCommit) : Prop :=
  ∀ call, commit.operation = .patch call →
    ∃ base ∈ earlier, base.snapshot.generation = call.patch.baseGeneration ∧
      commit.snapshot = patchSnapshot base.snapshot call.patch

def AppliedToBase (history : List PolicyCommit) : Prop := EachAfter FromBase history

def GenerationsIncrease (history : List PolicyCommit) : Prop :=
  (history.map (·.snapshot.generation)).Pairwise (· < ·)

/-- Between two commits a rule is lost, or comes back, only through a commit that removes it, or
brings it. -/
def NothingLost (history : List PolicyCommit) : Prop :=
  ∀ before earlier middle later after, history = before ++ earlier :: (middle ++ later :: after) →
    ∀ rule,
      (rule ∈ earlier.snapshot.effectiveRules → rule ∉ later.snapshot.effectiveRules →
        ∃ commit ∈ middle ++ [later], commit.operation.Removes rule) ∧
      (rule ∉ earlier.snapshot.effectiveRules → rule ∈ later.snapshot.effectiveRules →
        ∃ commit ∈ middle ++ [later], commit.operation.Brings rule)

/-! ## One commit -/

theorem alone_of_scopesApart (snapshot : PolicySnapshot) (h : ScopesApart snapshot)
    (rule : PolicyRuleDescriptor) (hmem : rule ∈ snapshot.effectiveRules) :
    Alone rule snapshot.effectiveRules :=
  ⟨hmem, fun _ hother hscope => List.inj_on_of_nodup_map h hother hmem hscope⟩

variable {previousSnapshot : PolicySnapshot} {history : List PolicyCommit} {commit : PolicyCommit}

theorem Follows.scopesApart
    (h : Follows previousSnapshot commit) : ScopesApart commit.snapshot := by
  have hmade := h.made
  unfold ScopesApart
  cases hoperation : commit.operation with
  | load bundle =>
    rw [hoperation] at hmade
    rw [hmade.2]
    exact resolve_scopes_nodup bundle hmade.1
  | patch call =>
    rw [hoperation] at hmade
    rw [hmade.2.2]
    exact resolve_scopes_nodup _ hmade.1
  | rollback snapshotId targetSnapshot =>
    rw [hoperation] at hmade
    rw [hmade.2]
    exact hmade.1

theorem Follows.removes_of_lost
    (h : Follows previousSnapshot commit) (hscopes : ScopesApart previousSnapshot)
    (rule : PolicyRuleDescriptor) (hbefore : rule ∈ previousSnapshot.effectiveRules)
    (hafter : rule ∉ commit.snapshot.effectiveRules) : commit.operation.Removes rule := by
  have hmade := h.made
  cases hoperation : commit.operation with
  | load bundle =>
    rw [hoperation] at hmade
    rwa [hmade.2] at hafter
  | patch call =>
    rw [hoperation] at hmade
    obtain ⟨hresolved, -, hsnapshot⟩ := hmade
    by_contra hkeeps
    have halone := alone_applyOperations (previousSnapshot.effectiveRules, previousSnapshot.mode)
      call.patch.operations rule (alone_of_scopesApart previousSnapshot hscopes rule hbefore)
      fun operation hmem hremoves => hkeeps ⟨operation, hmem, hremoves⟩
    apply hafter
    rw [hsnapshot]
    exact resolve_keeps _ hresolved rule halone.1 halone.2
  | rollback snapshotId targetSnapshot =>
    rw [hoperation] at hmade
    rwa [hmade.2] at hafter

theorem Follows.brings_of_new (h : Follows previousSnapshot commit) (rule : PolicyRuleDescriptor)
    (hbefore : rule ∉ previousSnapshot.effectiveRules)
    (hafter : rule ∈ commit.snapshot.effectiveRules) : commit.operation.Brings rule := by
  have hmade := h.made
  cases hoperation : commit.operation with
  | load bundle =>
    rw [hoperation] at hmade
    rwa [hmade.2] at hafter
  | patch call =>
    rw [hoperation] at hmade
    obtain ⟨hresolved, -, hsnapshot⟩ := hmade
    rw [hsnapshot] at hafter
    have hcandidate := (resolve_winners _ hresolved).rules rule hafter
    exact (mem_applyOperations _ _ rule hcandidate).resolve_left hbefore
  | rollback snapshotId targetSnapshot =>
    rw [hoperation] at hmade
    rwa [hmade.2] at hafter

/-! ## A whole history -/

theorem lastSnapshot_snoc (history : List PolicyCommit) (commit : PolicyCommit) :
    lastSnapshot (history ++ [commit]) = commit.snapshot := by
  unfold lastSnapshot
  rw [run_snoc]
  rfl

theorem unbroken_snoc (history : List PolicyCommit) (commit : PolicyCommit) :
    Unbroken (history ++ [commit]) ↔ Unbroken history ∧ Follows (lastSnapshot history) commit := by
  unfold Unbroken
  rw [allSteps_append]
  simp only [AllSteps, and_true]
  rfl

theorem Unbroken.scopesApart (h : Unbroken history) :
    ScopesApart (lastSnapshot history) := by
  induction history using List.reverseRecOn with
  | nil => exact List.nodup_nil
  | append_singleton history commit ih =>
    rw [lastSnapshot_snoc]
    exact ((unbroken_snoc history commit).mp h).2.scopesApart

theorem Unbroken.valid (h : Unbroken history) (hne : history ≠ []) :
    (lastSnapshot history).isValid = true := by
  induction history using List.reverseRecOn with
  | nil => exact absurd rfl hne
  | append_singleton history commit ih =>
    rw [lastSnapshot_snoc]
    exact ((unbroken_snoc history commit).mp h).2.valid

theorem Unbroken.later {more : List PolicyCommit} (h : Unbroken (history ++ more))
    (hvalid : (lastSnapshot history).isValid = true) (hne : more ≠ []) :
    (lastSnapshot history).generation < (lastSnapshot (history ++ more)).generation := by
  induction more using List.reverseRecOn with
  | nil => exact absurd rfl hne
  | append_singleton more commit ih =>
    rw [← List.append_assoc] at h ⊢
    obtain ⟨hbefore, hfollows⟩ := (unbroken_snoc _ _).mp h
    rw [lastSnapshot_snoc]
    by_cases hmore : more = []
    · rw [hmore, List.append_nil] at hfollows
      exact hfollows.later hvalid
    · have hne' : history ++ more ≠ [] := by simp [hmore]
      exact UInt64.lt_trans (ih hbefore hmore) (hfollows.later (hbefore.valid hne'))

theorem Unbroken.generationsIncrease (h : Unbroken history) :
    GenerationsIncrease history := by
  induction history using List.reverseRecOn with
  | nil => exact List.Pairwise.nil
  | append_singleton history commit ih =>
    have hbefore := ((unbroken_snoc history commit).mp h).1
    unfold GenerationsIncrease
    rw [List.map_append, List.pairwise_append]
    refine ⟨ih hbefore, by simp, fun earlier hearlier later hlater => ?_⟩
    obtain ⟨other, hother, rfl⟩ := List.mem_map.mp hearlier
    obtain ⟨first, rest, rfl⟩ := List.append_of_mem hother
    have hsplit : first ++ other :: rest ++ [commit] = (first ++ [other]) ++ (rest ++ [commit]) := by
      simp
    have hother' := hbefore
    rw [show first ++ other :: rest = (first ++ [other]) ++ rest by simp] at hother'
    have hvalid := ((unbroken_snoc first other).mp
      ((allSteps_append advance Follows {} _ _).mp hother').1).2.valid
    have hlast := lastSnapshot_snoc first other
    rw [hsplit] at h
    have hlater' := h.later (by rw [hlast]; exact hvalid) (by simp)
    rw [hlast, ← hsplit, lastSnapshot_snoc] at hlater'
    simp only [List.map_cons, List.map_nil, List.mem_singleton] at hlater
    rw [hlater]
    exact hlater'

theorem Unbroken.nothingLost (h : Unbroken history) :
    NothingLost history := by
  rintro before earlier middle later after rfl rule
  have hsplit : before ++ earlier :: (middle ++ later :: after) =
      (before ++ [earlier]) ++ ((middle ++ [later]) ++ after) := by simp
  rw [hsplit] at h
  obtain ⟨hfirst, hrest⟩ := (allSteps_append advance Follows {} _ _).mp h
  have hmiddle := ((allSteps_append advance Follows ..).mp hrest).1
  have hstart : (run advance {} (before ++ [earlier])).1 = earlier.snapshot :=
    lastSnapshot_snoc before earlier
  have hend : (run advance earlier.snapshot (middle ++ [later])).1 = later.snapshot := by
    rw [run_snoc]
    rfl
  -- The first commit between the two at which the rule comes or goes.
  have hat : ∀ first commit rest, middle ++ [later] = first ++ commit :: rest →
      Follows (run advance earlier.snapshot first).1 commit ∧
        ScopesApart (run advance earlier.snapshot first).1 := by
    intro first commit rest hcut
    rw [hstart, hcut, allSteps_append] at hmiddle
    refine ⟨hmiddle.2.1, ?_⟩
    have hupto : Unbroken (before ++ [earlier] ++ first) := by
      refine (allSteps_append advance Follows {} _ _).mpr ⟨hfirst, ?_⟩
      rw [hstart]
      exact hmiddle.1
    have hscopes := hupto.scopesApart
    unfold lastSnapshot at hscopes
    rw [run_append] at hscopes
    rw [← hstart]
    exact hscopes
  constructor
  · intro hthere hgone
    obtain ⟨first, commit, rest, hcut, hbefore, hafter⟩ := exists_step_ending advance
      (fun snapshot => rule ∈ snapshot.effectiveRules) earlier.snapshot (middle ++ [later]) hthere
      (by rw [hend]; exact hgone)
    obtain ⟨hfollows, hscopes⟩ := hat first commit rest hcut
    exact ⟨commit, by simp [hcut], hfollows.removes_of_lost hscopes rule hbefore hafter⟩
  · intro hgone hthere
    obtain ⟨first, commit, rest, hcut, hbefore, hafter⟩ := exists_step_ending advance
      (fun snapshot => rule ∉ snapshot.effectiveRules) earlier.snapshot (middle ++ [later]) hgone
      (by rw [hend]; exact not_not.mpr hthere)
    obtain ⟨hfollows, -⟩ := hat first commit rest hcut
    exact ⟨commit, by simp [hcut], hfollows.brings_of_new rule hbefore (not_not.mp hafter)⟩

end Dasall.Infra.Policy
