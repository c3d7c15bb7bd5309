import Chip8.Proofs.History

/-!
# The cycles since switching on

The cycles of a run are numbered from one on, and a reset begins a new count. The log of a run holds
for each of its cycles the machine that the cycle begins with: what it executes, with which operands
and in which state, can be read off that machine. Loads, keys, acknowledgements and the division
into frames leave no entry.

Results:
* `after_eq_through_stepsIn`: a history of actions is nothing but its steps.
* `log_induction`: what holds of the empty log at power-on, and is kept by every step, holds of the
  log and the machine after any run.
-/

namespace Chip8.Machine

variable {ε : Type}

/-! ## The steps of a history -/

/-- The steps of a history. A frame is its keys, the cycles that it comes to run, and perhaps an
acknowledgement. -/
def stepsIn (m : Machine) : List (Action ε) → List Step
  | [] => []
  | a :: rest => m.stepsOf a ++ (m.perform a).stepsIn rest

theorem after_eq_through_stepsIn (m : Machine) (history : List (Action ε)) :
    m.after history = m.through (m.stepsIn history) := by
  induction history generalizing m with
  | nil => rfl
  | cons a rest ih => rw [stepsIn, through_append, ← perform_eq_through, after_cons, ih]

/-! ## The log -/

/-- The log after one more step. -/
def logged (m : Machine) (log : List Machine) : Step → List Machine
  | .cycle => log ++ [m]
  | .reset => []
  | _ => log

/-- The log after some steps that follow on those of `log`. -/
def logFrom (m : Machine) (log : List Machine) : List Step → List Machine
  | [] => log
  | s :: rest => (m.step s).logFrom (m.logged log s) rest

/-- The machines that the cycles of some steps begin with, those since the last reset and the
earliest first. -/
def log (m : Machine) (steps : List Step) : List Machine := m.logFrom [] steps

theorem log_induction {P : List Machine → Machine → Prop}
    (hstep : ∀ s log m, P log m → P (m.logged log s) (m.step s)) {m : Machine} (h : P [] m)
    (steps : List Step) : P (m.log steps) (m.through steps) := by
  -- the steps may follow on any log, or the hypothesis would not reach beyond the first of them
  have hfrom : ∀ (log : List Machine) (m : Machine), P log m →
      P (m.logFrom log steps) (m.through steps) := by
    induction steps with
    | nil => exact fun log m h => h
    | cons s rest ih => exact fun log m h => ih _ _ (hstep s log m h)
  exact hfrom [] m h

end Chip8.Machine
