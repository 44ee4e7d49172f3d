import Dasall.Lib.Text

/-!
# Guards

A guard is a chain of checks that stops at the first one that fails. It answers with a
reason both when it accepts and when it rejects.
-/

open Dasall.Lib.Text

namespace Dasall.Lib.Guard

/-- Why a guard stops: a rejection, or a read of an optional that holds nothing. -/
inductive Stop
  | reject (reason : Bytes)
  | disengaged
deriving DecidableEq, Repr

abbrev Check := Except Stop

def reject {α : Type} (reason : String) : Check α := .error (.reject (str reason))

def pass (reason : String) : Check Bytes := .ok (str reason)

/-- An early return of `stop` unless the condition holds. -/
def ensure {ε : Type} (condition : Bool) (stop : ε) : Except ε Unit :=
  if condition then .ok () else .error stop

def require (condition : Bool) (reason : String) : Check Unit :=
  ensure condition (.reject (str reason))

/-- The value of `*optional`. -/
def deref {α : Type} : Option α → Check α
  | some value => .ok value
  | none => .error .disengaged

/-- The value of an optional that must be there. -/
def present {α : Type} (o : Option α) (reason : String) : Check α :=
  match o with
  | some value => .ok value
  | none => reject reason

/-- A nested guard whose rejection is reported under the caller's own reason. -/
def nested {α : Type} (guard : Check α) (reason : String) : Check Unit :=
  match guard with
  | .ok _ => .ok ()
  | .error (.reject _) => reject reason
  | .error .disengaged => .error .disengaged

/-- A guard that only an optional which holds a value has to pass. -/
def whenPresent {α : Type} (o : Option α) (guard : α → Check Unit) : Check Unit :=
  match o with
  | some value => guard value
  | none => .ok ()

def hasNonEmptyValue (value : Option Bytes) : Bool :=
  match value with
  | some value => !value.isEmpty
  | none => false

/-- An optional string that is absent or not empty. -/
def nonEmptyWhenPresent (value : Option Bytes) : Bool := value != some []

/-! ## What an accepted chain has passed -/

variable {α β ε : Type}

@[simp] theorem bind_eq_ok (guard : Except ε α) (rest : α → Except ε β) (value : β) :
    (guard >>= rest) = .ok value ↔ ∃ x, guard = .ok x ∧ rest x = .ok value := by
  cases guard with
  | ok x => simp [bind, Except.bind]
  | error stop => simp [bind, Except.bind]

variable (guard : Check α) (o : Option α) (p : ε → Prop) (step : β → α → Except ε β)
  (condition : Bool) (reason : String) (value : α) (stop : ε) (u : Unit)

@[simp] theorem ensure_eq_ok :
    ensure condition stop = .ok u ↔ condition = true := by
  cases condition <;> simp [ensure]

@[simp] theorem require_eq_ok :
    require condition reason = .ok u ↔ condition = true := ensure_eq_ok _ _ _

@[simp] theorem deref_eq_ok : deref o = .ok value ↔ o = some value := by
  cases o <;> simp [deref]

@[simp] theorem present_eq_ok :
    present o reason = .ok value ↔ o = some value := by
  cases o <;> simp [present, reject]

@[simp] theorem nested_eq_ok :
    nested guard reason = .ok u ↔ ∃ x, guard = .ok x := by
  unfold nested
  split <;> simp [reject]

@[simp] theorem whenPresent_eq_ok (guard : α → Check Unit) (u : Unit) :
    whenPresent o guard = .ok u ↔ ∀ value, o = some value → guard value = .ok () := by
  cases o <;> simp [whenPresent]

@[simp] theorem pass_eq_ok (value : Bytes) :
    pass reason = .ok value ↔ str reason = value := by
  simp [pass]

@[simp] theorem reject_ne_ok : ¬ reject reason = .ok value := by
  simp [reject]

theorem hasNonEmptyValue_iff (value : Option Bytes) :
    hasNonEmptyValue value = true ↔ ∃ text, value = some text ∧ text ≠ [] := by
  cases value <;> simp [hasNonEmptyValue]

theorem nonEmptyWhenPresent_iff (value : Option Bytes) :
    nonEmptyWhenPresent value = true ↔ value ≠ some [] := by
  simp [nonEmptyWhenPresent]

/-! ## How a chain stops -/

/-- Whenever the chain stops early, it stops with something that satisfies `p`. -/
def Stops (p : ε → Prop) (guard : Except ε α) : Prop := ∀ stop, guard = .error stop → p stop

/-- The second part of a chain runs only when the first part has accepted. -/
theorem stops_bind (guard : Except ε α) (rest : α → Except ε β)
    (hguard : Stops p guard) (hrest : ∀ x, guard = .ok x → Stops p (rest x)) :
    Stops p (guard >>= rest) := by
  cases guard with
  | ok x => exact hrest x rfl
  | error stop =>
    intro stop' h
    exact hguard stop' (by simpa [bind, Except.bind] using h)

theorem stops_ok : Stops p (.ok value : Except ε α) := by
  intro stop h
  cases h

theorem stops_ensure (h : p stop) :
    Stops p (ensure condition stop) := by
  intro stop' hstop
  cases condition with
  | true => cases hstop
  | false => cases hstop; exact h

/-- The guard never reads an optional that holds nothing. -/
def Engaged (guard : Check α) : Prop := Stops (· ≠ .disengaged) guard

theorem engaged_bind (rest : α → Check β) (hguard : Engaged guard)
    (hrest : ∀ x, guard = .ok x → Engaged (rest x)) : Engaged (guard >>= rest) :=
  stops_bind _ guard rest hguard hrest

theorem engaged_require : Engaged (require condition reason) :=
  stops_ensure _ _ _ (by simp)

theorem engaged_reject : Engaged (reject reason : Check α) := by
  intro stop h
  cases h
  simp

theorem engaged_pass : Engaged (pass reason) := stops_ok _ _

/-- A read of an optional that holds a value goes on with that value. -/
theorem engaged_deref_bind (rest : α → Check β) (h : o = some value)
    (hrest : Engaged (rest value)) : Engaged (deref o >>= rest) := by
  subst h
  exact hrest

theorem engaged_present : Engaged (present o reason) := by
  unfold present
  split
  · exact stops_ok _ _
  · exact engaged_reject _

theorem engaged_nested (h : Engaged guard) :
    Engaged (nested guard reason) := by
  unfold nested
  split
  · exact stops_ok _ _
  · exact engaged_reject _
  · exact absurd rfl (h .disengaged rfl)

theorem engaged_whenPresent (guard : α → Check Unit)
    (h : ∀ value, o = some value → Engaged (guard value)) : Engaged (whenPresent o guard) := by
  unfold whenPresent
  split
  · exact h _ rfl
  · exact stops_ok _ _

/-! ## Folds that may stop -/

/-- Where no state keeps a step from succeeding, the fold succeeds when each item is good. -/
theorem foldlM_ok_iff (good : α → Prop)
    (hstep : ∀ s a, (∃ s', step s a = .ok s') ↔ good a) (items : List α) (s : β) :
    (∃ s', items.foldlM step s = .ok s') ↔ ∀ a ∈ items, good a := by
  induction items generalizing s with
  | nil => simp [pure, Except.pure]
  | cons a items ih =>
    simp only [List.foldlM_cons, bind_eq_ok, List.forall_mem_cons]
    rw [← hstep s a]
    constructor
    · rintro ⟨last, middle, hmiddle, hlast⟩
      exact ⟨⟨middle, hmiddle⟩, (ih middle).mp ⟨last, hlast⟩⟩
    · rintro ⟨⟨middle, hmiddle⟩, hgood⟩
      obtain ⟨last, hlast⟩ := (ih middle).mpr hgood
      exact ⟨last, middle, hmiddle, hlast⟩

theorem foldlM_invariant (invariant : β → Prop)
    (hstep : ∀ s a s', invariant s → step s a = .ok s' → invariant s') (items : List α) (s s' : β)
    (hs : invariant s) (h : items.foldlM step s = .ok s') : invariant s' := by
  induction items generalizing s with
  | nil =>
    simp only [List.foldlM_nil, pure, Except.pure, Except.ok.injEq] at h
    exact h ▸ hs
  | cons a items ih =>
    simp only [List.foldlM_cons, bind_eq_ok] at h
    obtain ⟨middle, hmiddle, hrest⟩ := h
    exact ih middle (hstep s a middle hs hmiddle) hrest

end Dasall.Lib.Guard
