import Dasall.Lib.Run

/-!
# Threads over a shared state

Each thread has a local state of its own and takes one atomic action at a time. A schedule
says which thread acts next, and what the environment chooses for it. An invariant of the
shared state and of every local state is kept when each action keeps it for the thread that
acts and for every other one.
-/

namespace Dasall.Lib

structure Threads (ι σ π : Type) where
  shared : σ
  locals : ι → π

namespace Threads

open Dasall.Lib.Run

variable {ι σ π χ ε : Type} [DecidableEq ι]

/-- The next action of one thread. -/
def step (act : χ → σ → π → (σ × π) × ε) (s : Threads ι σ π) (input : ι × χ) :
    Threads ι σ π × ε :=
  ({ shared := (act input.2 s.shared (s.locals input.1)).1.1
     locals :=
      Function.update s.locals input.1 (act input.2 s.shared (s.locals input.1)).1.2 },
    (act input.2 s.shared (s.locals input.1)).2)

section
variable (act : χ → σ → π → (σ × π) × ε)

variable (s : Threads ι σ π) (input : ι × χ)

theorem step_shared :
    (step act s input).1.shared = (act input.2 s.shared (s.locals input.1)).1.1 := rfl

theorem step_locals_self :
    (step act s input).1.locals input.1 = (act input.2 s.shared (s.locals input.1)).1.2 :=
  Function.update_self _ _ _

theorem step_locals_other (thread : ι)
    (h : thread ≠ input.1) : (step act s input).1.locals thread = s.locals thread :=
  Function.update_of_ne h _ _

/-- A property of every local state is kept where one is replaced. -/
theorem forall_update (property : π → Prop) {locals : ι → π} {mover : ι} {next : π}
    (h : ∀ thread, property (locals thread)) (hnext : property next) (thread : ι) :
    property (Function.update locals mover next thread) := by
  by_cases hmover : thread = mover
  · rw [hmover, Function.update_self]
    exact hnext
  · rw [Function.update_of_ne hmover]
    exact h thread

/-- The invariant of the shared state, and of every local state in it. -/
structure Holds (shared : σ → Prop) (local_ : σ → π → Prop) (s : Threads ι σ π) : Prop where
  shared : shared s.shared
  locals : ∀ thread, local_ s.shared (s.locals thread)

/-- The rule for one action: what it keeps of its own thread, and of any other. -/
theorem holds_step (shared : σ → Prop) (local_ : σ → π → Prop) (s : Threads ι σ π)
    (input : ι × χ) (h : Holds shared local_ s)
    (hown : shared (act input.2 s.shared (s.locals input.1)).1.1 ∧
      local_ (act input.2 s.shared (s.locals input.1)).1.1
        (act input.2 s.shared (s.locals input.1)).1.2)
    (hother : ∀ p, local_ s.shared p →
      local_ (act input.2 s.shared (s.locals input.1)).1.1 p) :
    Holds shared local_ (step act s input).1 := by
  refine ⟨hown.1, fun thread => ?_⟩
  rw [step_shared]
  by_cases hself : thread = input.1
  · rw [hself, step_locals_self]
    exact hown.2
  · rw [step_locals_other act s input thread hself]
    exact hother _ (h.locals thread)

/-- A thread that never acts stays where it was. -/
theorem locals_of_idle (schedule : List (ι × χ)) (thread : ι)
    (h : ∀ input ∈ schedule, input.1 ≠ thread) :
    (run (step act) s schedule).1.locals thread = s.locals thread := by
  induction schedule generalizing s with
  | nil => rfl
  | cons input schedule ih =>
    rw [run_cons]
    rw [ih _ fun other hother => h other (List.mem_cons_of_mem _ hother)]
    exact step_locals_other act s input thread (Ne.symm (h input List.mem_cons_self))

end

end Threads

end Dasall.Lib
