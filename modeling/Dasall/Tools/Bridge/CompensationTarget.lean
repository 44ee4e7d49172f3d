import Dasall.Lib.Text

/-!
# Compensation targets

A target is written as a reference with a scheme, a capability and an id, and read back from it.
-/

open Dasall.Lib.Text

namespace Dasall.Tools.Bridge

structure CompensationTargetRef where
  capabilityId : Bytes
  targetId : Bytes
deriving DecidableEq

def normalizeCapabilityId (value : Bytes) : Bytes := value

def defaultTargetIdFor (capabilityId : Bytes) : Bytes := str "builtin:" ++ capabilityId

def kToolScheme : Bytes := str "tool://"

/-- What stands before the first slash, and what stands after it when there is one. -/
def cutAtSlash : Bytes → Bytes × Option Bytes
  | [] => ([], none)
  | byte :: rest =>
    if byte = 47 then ([], some rest)
    else ((byte :: (cutAtSlash rest).1), (cutAtSlash rest).2)

def resolveCompensationTarget (targetRef : Bytes) : Option CompensationTargetRef :=
  if targetRef.isEmpty then none
  else if kToolScheme.isPrefixOf targetRef then
    let (capability, rest) := cutAtSlash (targetRef.drop kToolScheme.length)
    let capabilityId := normalizeCapabilityId capability
    if capabilityId.isEmpty then none
    else
      let targetId := rest.getD (defaultTargetIdFor capabilityId)
      some
        { capabilityId
          targetId := if targetId.isEmpty then defaultTargetIdFor capabilityId else targetId }
  else
    some
      { capabilityId := normalizeCapabilityId targetRef
        targetId := defaultTargetIdFor targetRef }

def formatCompensationTargetRef (capabilityId targetId : Bytes) : Bytes :=
  if capabilityId.isEmpty then []
  else
    let formatted := kToolScheme ++ capabilityId
    if targetId.isEmpty then formatted else formatted ++ str "/" ++ targetId

/-! ## Reading back what was written -/

theorem cutAtSlash_append (first rest : Bytes) (hfirst : 47 ∉ first) :
    cutAtSlash (first ++ 47 :: rest) = (first, some rest) := by
  induction first with
  | nil => simp [cutAtSlash]
  | cons byte first ih =>
    rw [List.mem_cons, not_or] at hfirst
    have hbyte : ¬byte = 47 := fun h => hfirst.1 h.symm
    rw [List.cons_append, cutAtSlash, if_neg hbyte, ih hfirst.2]

theorem no_slash_before_cut (text : Bytes) : 47 ∉ (cutAtSlash text).1 := by
  induction text with
  | nil => simp [cutAtSlash]
  | cons byte text ih =>
    unfold cutAtSlash
    split
    · simp
    · next hbyte =>
      rw [List.mem_cons, not_or]
      exact ⟨fun h => hbyte h.symm, ih⟩

theorem defaultTargetIdFor_ne_nil (capabilityId : Bytes) : defaultTargetIdFor capabilityId ≠ [] := by
  intro h
  have hscheme : str "builtin:" = [] := (List.append_eq_nil_iff.mp h).1
  revert hscheme
  decide

theorem resolveCompensationTarget_scheme (path : Bytes) :
    resolveCompensationTarget (kToolScheme ++ path) =
      if (cutAtSlash path).1.isEmpty then none
      else
        let targetId := (cutAtSlash path).2.getD (defaultTargetIdFor (cutAtSlash path).1)
        some
          { capabilityId := (cutAtSlash path).1
            targetId :=
              if targetId.isEmpty then defaultTargetIdFor (cutAtSlash path).1 else targetId } := by
  have hne : (kToolScheme ++ path).isEmpty = false := by simp [kToolScheme, str]
  have hscheme : kToolScheme.isPrefixOf (kToolScheme ++ path) = true := by simp
  unfold resolveCompensationTarget
  rw [hne, hscheme, List.drop_left]
  rfl

/-- The capability of a reference with the scheme has no slash, and its id is there. -/
theorem resolved_of_scheme {path capabilityId targetId : Bytes}
    (h : resolveCompensationTarget (kToolScheme ++ path) = some { capabilityId, targetId }) :
    47 ∉ capabilityId ∧ targetId ≠ [] := by
  rw [resolveCompensationTarget_scheme] at h
  split at h
  · simp at h
  · simp only [Option.some.injEq, CompensationTargetRef.mk.injEq] at h
    obtain ⟨rfl, rfl⟩ := h
    refine ⟨no_slash_before_cut path, ?_⟩
    split
    · exact defaultTargetIdFor_ne_nil _
    · next hid => simpa using hid

/-- A reference says what it was made of when the capability is there and has no slash, and the
id is there. -/
theorem resolve_format_iff (capabilityId targetId : Bytes) :
    resolveCompensationTarget (formatCompensationTargetRef capabilityId targetId) =
        some { capabilityId, targetId } ↔
      capabilityId ≠ [] ∧ 47 ∉ capabilityId ∧ targetId ≠ [] := by
  unfold formatCompensationTargetRef
  cases hcapability : capabilityId with
  | nil => simp [resolveCompensationTarget]
  | cons byte rest =>
    rw [← hcapability]
    have hne : capabilityId ≠ [] := by simp [hcapability]
    have hempty : capabilityId.isEmpty = false := by simp [hcapability]
    simp only [hempty, Bool.false_eq_true, if_false]
    constructor
    · intro hresolved
      split at hresolved
      · obtain ⟨hslash, hid⟩ := resolved_of_scheme hresolved
        exact ⟨hne, hslash, hid⟩
      · rw [List.append_assoc, List.append_assoc] at hresolved
        obtain ⟨hslash, hid⟩ := resolved_of_scheme hresolved
        exact ⟨hne, hslash, hid⟩
    · rintro ⟨-, hslash, htarget⟩
      have hid : targetId.isEmpty = false := by simpa using htarget
      rw [hid, if_neg (by simp), List.append_assoc, List.append_assoc,
        resolveCompensationTarget_scheme]
      have hcut : cutAtSlash (capabilityId ++ (str "/" ++ targetId)) = (capabilityId, some targetId) :=
        cutAtSlash_append capabilityId targetId hslash
      simp [hcut, hne, htarget]

end Dasall.Tools.Bridge
