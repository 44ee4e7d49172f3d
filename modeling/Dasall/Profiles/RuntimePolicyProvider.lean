import Dasall.Lib.Threads
import Dasall.Profiles.Overlay

/-!
# Activation of policy snapshots

The provider holds the active snapshot under one lock and saves each activated snapshot in a store
under another. Its clients read the active snapshot, compose an update on it and activate the result.
-/

open Dasall.Contracts Dasall.Lib Dasall.Lib.Text

namespace Dasall.Profiles

/-! ## The store -/

structure LastKnownGoodStore where
  snapshots : Table Bytes RuntimePolicySnapshot

structure LastKnownGoodSaveResult where
  saved : Bool
  errorCode : Option ProfileErrorCode
deriving DecidableEq

def LastKnownGoodSaveResult.ok (result : LastKnownGoodSaveResult) : Bool :=
  result.saved && result.errorCode.isNone

def LastKnownGoodStore.save (store : LastKnownGoodStore)
    (snapshotRef : Option RuntimePolicySnapshot) : LastKnownGoodSaveResult × LastKnownGoodStore :=
  match snapshotRef.filter RuntimePolicySnapshot.hasConsistentValues with
  | none => ({ saved := false, errorCode := some .lastKnownGoodUnavailable }, store)
  | some snapshot =>
    ({ saved := true, errorCode := none },
      { snapshots := store.snapshots.insert snapshot.effectiveProfileId snapshot })

structure RuntimePolicyLoadResult where
  snapshot : Option RuntimePolicySnapshot
  errorCode : Option ProfileErrorCode

def LastKnownGoodStore.load (store : LastKnownGoodStore) (profileId : Bytes) :
    RuntimePolicyLoadResult :=
  match store.snapshots.lookup profileId with
  | none => { snapshot := none, errorCode := some .lastKnownGoodUnavailable }
  | some snapshot => { snapshot := some snapshot, errorCode := none }

/-! ## The provider -/

structure RuntimePolicyProvider where
  lkgStore : Option LastKnownGoodStore
  activeSnapshot : Option RuntimePolicySnapshot

structure RuntimePolicyActivateResult where
  activatedGeneration : UInt64 := 0
  errorCode : Option ProfileErrorCode
deriving DecidableEq

namespace RuntimePolicyProvider

def loadFromLastKnownGood (provider : RuntimePolicyProvider) (profileId : Bytes) :
    RuntimePolicyLoadResult :=
  match provider.lkgStore with
  | none => { snapshot := none, errorCode := some .lastKnownGoodUnavailable }
  | some store => store.load profileId

/-- What the catalog and the files have for the profile is given, where they have it. -/
def loadSnapshot (provider : RuntimePolicyProvider) (profileId : Bytes)
    (built : Option RuntimePolicySnapshot) : RuntimePolicyLoadResult :=
  if profileId.isEmpty then { snapshot := none, errorCode := some .schemaInvalid }
  else
    match built with
    | some snapshot => { snapshot := some snapshot, errorCode := none }
    | none => provider.loadFromLastKnownGood profileId

/-- The first half of `activate_snapshot`, up to the saved snapshot, with the error if it ends
there. -/
def saveSnapshot (provider : RuntimePolicyProvider) (snapshot : Option RuntimePolicySnapshot) :
    Option RuntimePolicyActivateResult × RuntimePolicyProvider :=
  if !snapshot.any RuntimePolicySnapshot.hasConsistentValues then
    (some { errorCode := some .schemaInvalid }, provider)
  else
    match provider.lkgStore with
    | none => (some { errorCode := some .lastKnownGoodUnavailable }, provider)
    | some store =>
      let saved := store.save snapshot
      if !saved.1.ok then
        (some { errorCode := saved.1.errorCode }, { provider with lkgStore := some saved.2 })
      else (none, { provider with lkgStore := some saved.2 })

/-- The second half of `activate_snapshot`, under the other lock. -/
def setActiveSnapshot (provider : RuntimePolicyProvider) (snapshot : RuntimePolicySnapshot) :
    RuntimePolicyActivateResult × RuntimePolicyProvider :=
  ({ activatedGeneration := snapshot.generation, errorCode := none },
    { provider with activeSnapshot := some snapshot })

end RuntimePolicyProvider

/-! ## Clients -/

/-- The overrides that are composed at once, at least one of them. -/
structure PolicyUpdate where
  deploymentOverride : Option ProfileOverrideInput
  runtimeOverride : Option ProfileOverrideInput
  some_override : deploymentOverride.isSome = true ∨ runtimeOverride.isSome = true

def PolicyUpdate.layers (update : PolicyUpdate) : Nat :=
  layerCount update.deploymentOverride + layerCount update.runtimeOverride

def PolicyUpdate.composeOn (update : PolicyUpdate) (base : RuntimePolicySnapshot) :
    Option RuntimePolicySnapshot :=
  (compose base update.deploymentOverride update.runtimeOverride).snapshot

variable {update : PolicyUpdate} {base snapshot : RuntimePolicySnapshot}

theorem PolicyUpdate.layers_pos (update : PolicyUpdate) : 0 < update.layers := by
  unfold layers layerCount
  rcases update.some_override with h | h
  · obtain ⟨input, hinput⟩ := Option.isSome_iff_exists.mp h
    simp [hinput]
  · obtain ⟨input, hinput⟩ := Option.isSome_iff_exists.mp h
    simp [hinput]

/-- A composed snapshot is later than its base, unless the generation wraps around. -/
theorem PolicyUpdate.le_iff (h : update.composeOn base = some snapshot) :
    base.generation ≤ snapshot.generation ↔ base.generation.toNat + update.layers < 2 ^ 64 := by
  have hlayers := update.layers_pos
  have hfew : update.layers ≤ 2 := by
    unfold layers layerCount
    cases update.deploymentOverride <;> cases update.runtimeOverride <;> simp
  have hbase := UInt64.toNat_lt base.generation
  rw [compose_generation h, UInt64.le_iff_toNat_le, UInt64.toNat_add, UInt64.toNat_ofNat']
  change _ ≤ (_ + update.layers % _) % _ ↔ _
  omega

theorem PolicyUpdate.later (h : update.composeOn base = some snapshot)
    (hroom : base.generation.toNat + update.layers < 2 ^ 64) :
    base.generation < snapshot.generation := by
  have hlayers := update.layers_pos
  rw [compose_generation h, UInt64.lt_iff_toNat_lt, UInt64.toNat_add, UInt64.toNat_ofNat']
  change _ < (_ + update.layers % _) % _
  omega

inductive PolicyClient
  | idle
  | read (base : RuntimePolicySnapshot)
  | composed (base : RuntimePolicySnapshot) (update : PolicyUpdate)
      (snapshot : RuntimePolicySnapshot)
  | saved (base : RuntimePolicySnapshot) (update : PolicyUpdate) (snapshot : RuntimePolicySnapshot)

open PolicyClient

def PolicyClient.isActivating : PolicyClient → Bool
  | .saved _ _ _ => true
  | .idle | .read _ | .composed _ _ _ => false

inductive PolicyAction
  | next (update : PolicyUpdate)
  | load (profileId : Bytes) (built : Option RuntimePolicySnapshot)

inductive PolicyAnswer
  | quiet
  | refused (result : RuntimePolicyActivateResult)
  | loaded (result : RuntimePolicyLoadResult)
  | activated (base : RuntimePolicySnapshot) (replaced : Option RuntimePolicySnapshot)
      (snapshot : RuntimePolicySnapshot)

namespace PolicyClient

def readActive (provider : RuntimePolicyProvider) : PolicyClient :=
  (provider.activeSnapshot.map PolicyClient.read).getD .idle

/-- The composition holds no lock. -/
def composeUpdate (base : RuntimePolicySnapshot) (update : PolicyUpdate) : PolicyClient :=
  ((update.composeOn base).map (PolicyClient.composed base update)).getD .idle

def beginActivation (provider : RuntimePolicyProvider) (base : RuntimePolicySnapshot)
    (update : PolicyUpdate) (snapshot : RuntimePolicySnapshot) :
    (RuntimePolicyProvider × PolicyClient) × PolicyAnswer :=
  match provider.saveSnapshot (some snapshot) with
  | (some result, provider) => ((provider, .idle), .refused result)
  | (none, provider) => ((provider, .saved base update snapshot), .quiet)

/-- The next critical section of a client. -/
def next (update : PolicyUpdate) (provider : RuntimePolicyProvider) :
    PolicyClient → (RuntimePolicyProvider × PolicyClient) × PolicyAnswer
  | .idle => ((provider, readActive provider), .quiet)
  | .read base => ((provider, composeUpdate base update), .quiet)
  | .composed base update snapshot => beginActivation provider base update snapshot
  | .saved base _ snapshot =>
    (((provider.setActiveSnapshot snapshot).2, .idle),
      .activated base provider.activeSnapshot snapshot)

end PolicyClient

def actPolicy (action : PolicyAction) (provider : RuntimePolicyProvider) (client : PolicyClient) :
    (RuntimePolicyProvider × PolicyClient) × PolicyAnswer :=
  match action with
  | .next update => client.next update provider
  | .load profileId built => ((provider, client), .loaded (provider.loadSnapshot profileId built))

section
variable {ι : Type}

/-- A provider that has activated one snapshot, and clients that have not begun. -/
def startPolicy (ι : Type) (initial : RuntimePolicySnapshot) :
    Threads ι RuntimePolicyProvider PolicyClient where
  shared :=
    { lkgStore := some { snapshots := AList.singleton initial.effectiveProfileId initial }
      activeSnapshot := some initial }
  locals := fun _ => .idle

abbrev stepPolicy [DecidableEq ι] :
    Threads ι RuntimePolicyProvider PolicyClient → ι × PolicyAction →
      Threads ι RuntimePolicyProvider PolicyClient × PolicyAnswer :=
  Threads.step actPolicy

/-! ## The order of activations -/

def PolicyAnswer.activation : PolicyAnswer → Option RuntimePolicySnapshot
  | .activated _ _ snapshot => some snapshot
  | .quiet | .refused _ | .loaded _ => none

/-- The snapshots that have been active, from the first on. -/
def history (initial : RuntimePolicySnapshot) (answers : List PolicyAnswer) :
    List RuntimePolicySnapshot := initial :: answers.filterMap PolicyAnswer.activation

structure Ordered (initial : RuntimePolicySnapshot) (answers : List PolicyAnswer)
    (s : Threads ι RuntimePolicyProvider PolicyClient) : Prop where
  distinct : (history initial answers).Pairwise fun a b => a.generation = b.generation → a = b
  forward : (history initial answers).Pairwise fun a b => a.generation ≤ b.generation
  /-- An update that is activated replaces the snapshot that it was composed on. -/
  not_lost : ∀ base replaced snapshot, .activated base replaced snapshot ∈ answers →
    replaced = some base
  stored : (∀ client, (s.locals client).isActivating = false) → ∃ active,
    s.shared.activeSnapshot = some active ∧
      s.shared.loadFromLastKnownGood active.effectiveProfileId =
        { snapshot := some active, errorCode := none }

/-- The activation that is to be completed finds the generation active that its update was composed
on, which has room for its layers. -/
def Fresh (s : Threads ι RuntimePolicyProvider PolicyClient) (input : ι × PolicyAction) : Prop :=
  ∀ base update snapshot update', s.locals input.1 = .saved base update snapshot →
    input.2 = .next update' →
      s.shared.activeSnapshot.map (·.generation) = some base.generation ∧
        base.generation.toNat + update.layers < 2 ^ 64

/-! ## What holds in a run of fresh activations -/

/-- The base is active or older than what is. -/
def Known (base active : RuntimePolicySnapshot) : Prop :=
  base = active ∨ base.generation < active.generation

theorem Known.later {base active next : RuntimePolicySnapshot} (h : Known base active)
    (hnext : active.generation < next.generation) : base.generation < next.generation := by
  rcases h with rfl | hold
  · exact hnext
  · exact UInt64.lt_trans hold hnext

def PolicyClient.Good (profile : Bytes) (active : RuntimePolicySnapshot) : PolicyClient → Prop
  | .idle => True
  | .read base => base.effectiveProfileId = profile ∧ Known base active
  | .composed base update snapshot | .saved base update snapshot =>
    (base.effectiveProfileId = profile ∧ Known base active) ∧
      update.composeOn base = some snapshot

theorem PolicyClient.Good.later {profile : Bytes} {active next : RuntimePolicySnapshot}
    {client : PolicyClient} (h : client.Good profile active)
    (hnext : active.generation < next.generation) : client.Good profile next := by
  cases client with
  | idle => trivial
  | read base => exact ⟨h.1, .inr (h.2.later hnext)⟩
  | composed base update snapshot => exact ⟨⟨h.1.1, .inr (h.1.2.later hnext)⟩, h.2⟩
  | saved base update snapshot => exact ⟨⟨h.1.1, .inr (h.1.2.later hnext)⟩, h.2⟩

/-- The saved snapshot is the active one and no activation under way is fresh, or an activation of
the saved snapshot is under way. -/
def Settled (stored active : RuntimePolicySnapshot) (locals : ι → PolicyClient) : Prop :=
  (∃ client base update, locals client = .saved base update stored) ∨
    (stored = active ∧ ∀ client base update snapshot,
      locals client = .saved base update snapshot → base.generation < active.generation)

structure PolicyInvariant (profile : Bytes) (active : RuntimePolicySnapshot)
    (s : Threads ι RuntimePolicyProvider PolicyClient) : Prop where
  active_eq : s.shared.activeSnapshot = some active
  profile_eq : active.effectiveProfileId = profile
  good : ∀ client, (s.locals client).Good profile active
  stored : ∃ store stored, s.shared.lkgStore = some store ∧
    store.snapshots.lookup profile = some stored ∧ Settled stored active s.locals

theorem PolicyInvariant.start (initial : RuntimePolicySnapshot) :
    PolicyInvariant initial.effectiveProfileId initial (startPolicy ι initial) where
  active_eq := rfl
  profile_eq := rfl
  good _ := trivial
  stored := by
    refine ⟨_, initial, rfl, ?_, Or.inr ⟨rfl, ?_⟩⟩
    · exact (Table.lookup_eq_some_iff ..).mpr (List.mem_singleton_self _)
    · intro client base update snapshot h
      cases h

variable [DecidableEq ι]

section
variable {stored active : RuntimePolicySnapshot} {locals : ι → PolicyClient} {mover : ι}

theorem Settled.move (h : Settled stored active locals) {next : PolicyClient}
    (hmover : (locals mover).isActivating = false) (hnext : next.isActivating = false) :
    Settled stored active (Function.update locals mover next) := by
  rcases h with ⟨client, base, update, hsaved⟩ | ⟨hactive, hold⟩
  · have hne : client ≠ mover := by
      rintro rfl
      rw [hsaved] at hmover
      cases hmover
    exact Or.inl ⟨client, base, update, by rw [Function.update_of_ne hne, hsaved]⟩
  · refine Or.inr ⟨hactive, fun client base update snapshot hsaved => ?_⟩
    by_cases hne : client = mover
    · rw [hne, Function.update_self] at hsaved
      rw [hsaved] at hnext
      cases hnext
    · rw [Function.update_of_ne hne] at hsaved
      exact hold client base update snapshot hsaved

theorem Settled.set (h : Settled stored active locals)
    (hlocal : locals mover = .saved base update snapshot)
    (hbase : base.generation = active.generation)
    (hlatest : ∀ client other update' result, locals client = .saved other update' result →
      other.generation < snapshot.generation) :
    Settled stored snapshot (Function.update locals mover .idle) := by
  rcases h with ⟨client, other, update', hsaved⟩ | ⟨-, hold⟩
  · by_cases hne : client = mover
    · rw [hne, hlocal, saved.injEq] at hsaved
      refine Or.inr ⟨hsaved.2.2.symm, fun client other update' result hsaved => ?_⟩
      by_cases hne : client = mover
      · rw [hne, Function.update_self] at hsaved
        cases hsaved
      · rw [Function.update_of_ne hne] at hsaved
        exact hlatest client other update' result hsaved
    · exact Or.inl ⟨client, other, update', by rw [Function.update_of_ne hne, hsaved]⟩
  · have hstale := hold mover base update snapshot hlocal
    rw [hbase] at hstale
    exact absurd hstale (UInt64.lt_irrefl _)

end

section
variable {profile : Bytes} {active : RuntimePolicySnapshot}
  {s : Threads ι RuntimePolicyProvider PolicyClient} {mover : ι}

theorem PolicyInvariant.move (h : PolicyInvariant profile active s) (next : PolicyClient)
    (hmover : (s.locals mover).isActivating = false) (hnext : next.isActivating = false)
    (hgood : next.Good profile active) :
    PolicyInvariant profile active
      { shared := s.shared, locals := Function.update s.locals mover next } where
  active_eq := h.active_eq
  profile_eq := h.profile_eq
  good := Threads.forall_update _ h.good hgood
  stored := by
    obtain ⟨store, stored, hstore, hlookup, hsettled⟩ := h.stored
    exact ⟨store, stored, hstore, hlookup, hsettled.move hmover hnext⟩

theorem PolicyInvariant.save (h : PolicyInvariant profile active s) {store : LastKnownGoodStore}
    (hlocal : s.locals mover = .composed base update snapshot) :
    PolicyInvariant profile active
      { shared :=
          { s.shared with
            lkgStore := some ⟨store.snapshots.insert snapshot.effectiveProfileId snapshot⟩ }
        locals := Function.update s.locals mover (.saved base update snapshot) } := by
  have hgood := h.good mover
  rw [hlocal] at hgood
  refine ⟨h.active_eq, h.profile_eq, Threads.forall_update _ h.good hgood, ?_⟩
  have hprofile : snapshot.effectiveProfileId = profile :=
    (compose_profile hgood.2).trans hgood.1.1
  refine ⟨_, snapshot, rfl, ?_, Or.inl ⟨mover, base, update, Function.update_self ..⟩⟩
  rw [hprofile]
  exact AList.lookup_insert _

/-- The second half of a fresh activation sets a later snapshot than was active. -/
theorem PolicyInvariant.set (h : PolicyInvariant profile active s)
    (hlocal : s.locals mover = .saved base update snapshot)
    (hbase : base.generation = active.generation) (hlater : active.generation < snapshot.generation) :
    PolicyInvariant profile snapshot
      { shared := { s.shared with activeSnapshot := some snapshot }
        locals := Function.update s.locals mover .idle } := by
  have hgood := h.good mover
  rw [hlocal] at hgood
  refine ⟨rfl, (compose_profile hgood.2).trans hgood.1.1,
    Threads.forall_update _ (fun client => (h.good client).later hlater) trivial, ?_⟩
  obtain ⟨store, stored, hstore, hlookup, hsettled⟩ := h.stored
  refine ⟨store, stored, hstore, hlookup, hsettled.set hlocal hbase ?_⟩
  intro client other update' result hsaved
  have hother := h.good client
  rw [hsaved] at hother
  exact hother.1.2.later hlater

theorem saveSnapshot_consistent {provider : RuntimePolicyProvider} {store : LastKnownGoodStore}
    (hstore : provider.lkgStore = some store) (h : snapshot.hasConsistentValues = true) :
    provider.saveSnapshot (some snapshot) = (none,
      { provider with
        lkgStore := some ⟨store.snapshots.insert snapshot.effectiveProfileId snapshot⟩ }) := by
  have hsave : store.save (some snapshot) = ({ saved := true, errorCode := none },
      ⟨store.snapshots.insert snapshot.effectiveProfileId snapshot⟩) := by
    unfold LastKnownGoodStore.save
    rw [Option.filter_some_pos h]
  unfold RuntimePolicyProvider.saveSnapshot
  rw [if_neg (by simp [h]), hstore]
  dsimp only
  rw [hsave]
  rfl

theorem stepPolicy_load (profileId : Bytes) (built : Option RuntimePolicySnapshot) :
    stepPolicy s (mover, .load profileId built) =
      (s, .loaded (s.shared.loadSnapshot profileId built)) := by
  simp only [stepPolicy, Threads.step, actPolicy, Function.update_eq_self]

theorem stepPolicy_next (update : PolicyUpdate) {client : PolicyClient}
    (hlocal : s.locals mover = client) :
    stepPolicy s (mover, .next update) =
      ({ shared := (client.next update s.shared).1.1
         locals := Function.update s.locals mover (client.next update s.shared).1.2 },
        (client.next update s.shared).2) := by
  subst hlocal
  rfl

/-- One step: the active snapshot stays, or a later one that was composed on it takes its place. -/
theorem PolicyInvariant.step (h : PolicyInvariant profile active s) (input : ι × PolicyAction)
    (hfresh : Fresh s input) :
    (PolicyInvariant profile active (stepPolicy s input).1 ∧
        (stepPolicy s input).2.activation = none) ∨
      ∃ next, PolicyInvariant profile next (stepPolicy s input).1 ∧
        (stepPolicy s input).2 = .activated active (some active) next ∧
          active.generation < next.generation := by
  obtain ⟨mover, action⟩ := input
  have hgood := h.good mover
  cases action with
  | load profileId built =>
    rw [stepPolicy_load]
    exact .inl ⟨h, rfl⟩
  | next update =>
    cases hlocal : s.locals mover with
    | idle =>
      rw [stepPolicy_next update hlocal]
      simp only [next, readActive, h.active_eq, Option.map_some,
        Option.getD_some]
      exact .inl ⟨h.move (.read active) (by rw [hlocal]; rfl) rfl ⟨h.profile_eq, .inl rfl⟩, rfl⟩
    | read base =>
      rw [hlocal] at hgood
      rw [stepPolicy_next update hlocal]
      simp only [next, composeUpdate]
      cases hcomposed : update.composeOn base with
      | none => exact .inl ⟨h.move .idle (by rw [hlocal]; rfl) rfl trivial, rfl⟩
      | some snapshot =>
        exact .inl ⟨h.move (.composed base update snapshot) (by rw [hlocal]; rfl) rfl
          ⟨hgood, hcomposed⟩, rfl⟩
    | composed base update' snapshot =>
      rw [hlocal] at hgood
      obtain ⟨store, -, hstore, -⟩ := h.stored
      rw [stepPolicy_next update hlocal]
      simp only [next]
      unfold beginActivation
      rw [saveSnapshot_consistent hstore (compose_consistent hgood.2)]
      exact .inl ⟨h.save hlocal, rfl⟩
    | saved base update' snapshot =>
      rw [hlocal] at hgood
      obtain ⟨hgeneration, hroom⟩ := hfresh base update' snapshot update hlocal rfl
      rw [h.active_eq] at hgeneration
      have hequal : active.generation = base.generation := Option.some.inj hgeneration
      obtain rfl : base = active := by
        rcases hgood.1.2 with hsame | hold
        · exact hsame
        · rw [hequal] at hold
          exact absurd hold (UInt64.lt_irrefl _)
      have hlater := PolicyUpdate.later hgood.2 hroom
      rw [stepPolicy_next update hlocal]
      simp only [next, RuntimePolicyProvider.setActiveSnapshot, h.active_eq]
      exact .inr ⟨snapshot, h.set hlocal rfl hlater, rfl, hlater⟩

theorem PolicyInvariant.run (h : PolicyInvariant profile active s)
    (schedule : List (ι × PolicyAction)) (hfresh : Run.AllSteps stepPolicy Fresh s schedule) :
    (∃ last, PolicyInvariant profile last (Run.run stepPolicy s schedule).1) ∧
      (history active (Run.run stepPolicy s schedule).2).Pairwise
        (fun a b => a.generation < b.generation) ∧
      ∀ base replaced snapshot,
        .activated base replaced snapshot ∈ (Run.run stepPolicy s schedule).2 →
          replaced = some base := by
  induction schedule generalizing s active with
  | nil =>
    refine ⟨⟨active, h⟩, List.pairwise_singleton .., fun _ _ _ hmem => ?_⟩
    exact absurd hmem List.not_mem_nil
  | cons input schedule ih =>
    rw [Run.run_cons]
    unfold history
    rcases h.step input hfresh.1 with ⟨hnext, hquiet⟩ | ⟨next, hnext, hanswer, hlater⟩
    · obtain ⟨hlast, hpairwise, hreplaced⟩ := ih hnext hfresh.2
      rw [List.filterMap_cons_none hquiet]
      refine ⟨hlast, hpairwise, fun base replaced snapshot hmem => ?_⟩
      rcases List.mem_cons.mp hmem with hfirst | hrest
      · rw [← hfirst] at hquiet
        cases hquiet
      · exact hreplaced base replaced snapshot hrest
    · obtain ⟨hlast, hpairwise, hreplaced⟩ := ih hnext hfresh.2
      have hactivation : (stepPolicy s input).2.activation = some next := by
        rw [hanswer]
        rfl
      rw [List.filterMap_cons_some hactivation]
      refine ⟨hlast, List.pairwise_cons.mpr ⟨?_, hpairwise⟩, fun base replaced snapshot hmem => ?_⟩
      · intro other hother
        rcases List.mem_cons.mp hother with rfl | hrest
        · exact hlater
        · exact UInt64.lt_trans hlater ((List.pairwise_cons.mp hpairwise).1 other hrest)
      · rcases List.mem_cons.mp hmem with hfirst | hrest
        · rw [hanswer, PolicyAnswer.activated.injEq] at hfirst
          rw [hfirst.1, hfirst.2.1]
        · exact hreplaced base replaced snapshot hrest

theorem PolicyInvariant.ordered (h : PolicyInvariant profile active s)
    (schedule : List (ι × PolicyAction)) (hfresh : Run.AllSteps stepPolicy Fresh s schedule) :
    Ordered active (Run.run stepPolicy s schedule).2 (Run.run stepPolicy s schedule).1 := by
  obtain ⟨⟨last, hlast⟩, hpairwise, hreplaced⟩ := h.run schedule hfresh
  refine ⟨hpairwise.imp ?_, hpairwise.imp UInt64.le_of_lt, hreplaced, fun hquiet => ?_⟩
  · intro a b hlater hsame
    rw [hsame] at hlater
    exact absurd hlater (UInt64.lt_irrefl _)
  · obtain ⟨store, stored, hstore, hlookup, hsettled⟩ := hlast.stored
    refine ⟨last, hlast.active_eq, ?_⟩
    unfold RuntimePolicyProvider.loadFromLastKnownGood LastKnownGoodStore.load
    rw [hstore, hlast.profile_eq]
    dsimp only
    rw [hlookup]
    rcases hsettled with ⟨client, base, update, hsaved⟩ | ⟨rfl, -⟩
    · have hidle := hquiet client
      rw [hsaved] at hidle
      cases hidle
    · rfl

end

/-! ## What every run keeps -/

def PolicyClient.Composed : PolicyClient → Prop
  | .idle | .read _ => True
  | .composed base update snapshot | .saved base update snapshot =>
    update.composeOn base = some snapshot

section
variable {s : Threads ι RuntimePolicyProvider PolicyClient}

theorem composed_next {client : PolicyClient} (h : client.Composed) (update : PolicyUpdate)
    (provider : RuntimePolicyProvider) : (client.next update provider).1.2.Composed := by
  cases client with
  | idle =>
    change (readActive provider).Composed
    unfold readActive
    cases provider.activeSnapshot <;> trivial
  | read base =>
    change (composeUpdate base update).Composed
    unfold composeUpdate
    cases hcomposed : update.composeOn base with
    | none => trivial
    | some snapshot => exact hcomposed
  | composed base update' snapshot =>
    change (beginActivation provider base update' snapshot).1.2.Composed
    unfold beginActivation
    split
    · trivial
    · exact h
  | saved base update' snapshot => trivial

theorem composed_step (input : ι × PolicyAction) (h : ∀ client, (s.locals client).Composed) :
    ∀ client, ((stepPolicy s input).1.locals client).Composed := by
  obtain ⟨mover, action⟩ := input
  cases action with
  | load profileId built =>
    rw [stepPolicy_load]
    exact h
  | next update =>
    rw [stepPolicy_next update rfl]
    exact Threads.forall_update _ h (composed_next (h mover) update s.shared)

theorem beginActivation_active (provider : RuntimePolicyProvider) (base : RuntimePolicySnapshot)
    (update : PolicyUpdate) (snapshot : RuntimePolicySnapshot) :
    (beginActivation provider base update snapshot).1.1.activeSnapshot =
        provider.activeSnapshot ∧
      (beginActivation provider base update snapshot).2.activation = none := by
  have hactive : (provider.saveSnapshot (some snapshot)).2.activeSnapshot =
      provider.activeSnapshot := by
    unfold RuntimePolicyProvider.saveSnapshot
    split
    · rfl
    · split
      · rfl
      · dsimp only
        split <;> rfl
  unfold beginActivation
  split
  next result next heq =>
    rw [heq] at hactive
    exact ⟨hactive, rfl⟩
  next next heq =>
    rw [heq] at hactive
    exact ⟨hactive, rfl⟩

theorem active_step (input : ι × PolicyAction) :
    (stepPolicy s input).1.shared.activeSnapshot =
      (stepPolicy s input).2.activation.or s.shared.activeSnapshot := by
  obtain ⟨mover, action⟩ := input
  cases action with
  | load profileId built =>
    rw [stepPolicy_load]
    rfl
  | next update =>
    cases hlocal : s.locals mover with
    | composed base update' snapshot =>
      obtain ⟨hactive, hquiet⟩ := beginActivation_active s.shared base update' snapshot
      rw [stepPolicy_next update hlocal]
      simp only [next, hactive, hquiet, Option.none_or]
    | idle | read base | saved base update' snapshot =>
      rw [stepPolicy_next update hlocal]
      rfl

theorem active_run {active : RuntimePolicySnapshot} (schedule : List (ι × PolicyAction))
    (h : s.shared.activeSnapshot = some active) :
    (Run.run stepPolicy s schedule).1.shared.activeSnapshot =
      (history active (Run.run stepPolicy s schedule).2).getLast? := by
  induction schedule generalizing s active with
  | nil => exact h
  | cons input schedule ih =>
    rw [Run.run_cons]
    unfold history
    have hstep := active_step (s := s) input
    cases hanswer : (stepPolicy s input).2.activation with
    | none =>
      rw [hanswer, Option.none_or, h] at hstep
      rw [List.filterMap_cons_none hanswer]
      exact ih hstep
    | some next =>
      rw [hanswer, Option.some_or] at hstep
      rw [List.filterMap_cons_some hanswer, List.getLast?_cons_cons]
      exact ih hstep

theorem fresh_of_ordered {active : RuntimePolicySnapshot} (schedule : List (ι × PolicyAction))
    (hactive : s.shared.activeSnapshot = some active)
    (hcomposed : ∀ client, (s.locals client).Composed)
    (h : Ordered active (Run.run stepPolicy s schedule).2 (Run.run stepPolicy s schedule).1) :
    Run.AllSteps stepPolicy Fresh s schedule := by
  rw [Run.allSteps_iff_split]
  rintro before ⟨mover, action⟩ after rfl base update snapshot update' hlocal haction
  have hcomposed' := Run.invariant_run stepPolicy (fun s => ∀ client, (s.locals client).Composed)
    (fun _ input h => composed_step input h) s before hcomposed
  have hlast := active_run before hactive
  obtain ⟨-, hforward, hreplaced, -⟩ := h
  simp only at haction hlocal
  subst haction
  rw [Run.run_append, Run.run_cons, stepPolicy_next update' hlocal] at hforward hreplaced
  dsimp only [next] at hforward hreplaced
  generalize Run.run stepPolicy s before = middle at *
  have hbase := hreplaced base middle.1.shared.activeSnapshot snapshot
    (List.mem_append_right _ List.mem_cons_self)
  refine ⟨by rw [hbase]; rfl, ?_⟩
  have hmover := hcomposed' mover
  rw [hlocal] at hmover
  rw [← PolicyUpdate.le_iff hmover]
  unfold history at hforward
  rw [List.filterMap_append, List.filterMap_cons_some (f := PolicyAnswer.activation) (b := snapshot) rfl,
    ← List.cons_append] at hforward
  apply (List.pairwise_append.mp hforward).2.2 base _ snapshot List.mem_cons_self
  exact List.mem_of_getLast? (hlast.symm.trans hbase)

end

/-- The activations keep their order in a run just when each finds the generation active that its
update was composed on. -/
theorem ordered_iff (initial : RuntimePolicySnapshot) (schedule : List (ι × PolicyAction)) :
    (∀ k, Ordered initial (Run.run stepPolicy (startPolicy ι initial) (schedule.take k)).2
      (Run.run stepPolicy (startPolicy ι initial) (schedule.take k)).1) ↔
      Run.AllSteps stepPolicy Fresh (startPolicy ι initial) schedule := by
  constructor
  · intro h
    have hall := h schedule.length
    rw [List.take_length] at hall
    exact fresh_of_ordered schedule rfl (fun _ => trivial) hall
  · intro hfresh k
    rw [← List.take_append_drop k schedule, Run.allSteps_append] at hfresh
    exact (PolicyInvariant.start initial).ordered _ hfresh.1

end

def logLevelUpdate (logLevel : String) : PolicyUpdate where
  deploymentOverride := none
  runtimeOverride := some
    { debugLogs with patches := [{ path := str "ops_policy.log_level", value := str logLevel }] }
  some_override := .inr rfl

/-- Two clients read the same snapshot, and the second to activate undoes what the first did. -/
def lostUpdate : List (Bool × PolicyAction) :=
  [(false, "debug"), (true, "warn"), (false, "debug"), (true, "warn"), (false, "debug"),
    (false, "debug"), (true, "warn"), (true, "warn")].map fun turn =>
      (turn.1, .next (logLevelUpdate turn.2))

theorem generation_activated_twice :
    ¬ ∀ (initial : RuntimePolicySnapshot) (schedule : List (Bool × PolicyAction)),
      initial.hasConsistentValues = true →
        Ordered initial (Run.run stepPolicy (startPolicy Bool initial) schedule).2
          (Run.run stepPolicy (startPolicy Bool initial) schedule).1 := by
  intro h
  have hvalues : ((history failClosedProfile (Run.run stepPolicy
        (startPolicy Bool failClosedProfile) lostUpdate).2).map fun snapshot =>
      (snapshot.generation, snapshot.opsPolicy.logLevel)) =
      [(1, str "info"), (2, str "debug"), (2, str "warn")] := by decide +kernel
  have hdistinct := (h failClosedProfile lostUpdate (by decide +kernel)).distinct.map
    (fun snapshot => (snapshot.generation, snapshot.opsPolicy.logLevel))
    (S := fun a b => a.1 = b.1 → a = b) fun a b hsame hgeneration => by rw [hsame hgeneration]
  rw [hvalues] at hdistinct
  exact absurd hdistinct (by decide)

end Dasall.Profiles
