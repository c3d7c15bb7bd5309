import Chip8.Program
import Chip8.Proofs.FrameOutcome

/-!
# Histories

What a host can do with a machine, and the states that such actions lead to, in any order and
number. Every action is made of steps of five kinds, so what the steps keep holds in every state
that a history leads to.

Results:
* `perform_eq_through`: an action is nothing but its steps.
* `after_of_perform`: what the actions of a history pass over, the history passes over.
* `after_induction`: what every step keeps, every history keeps.
* `setup_after`: no history changes the setup.
* `inTick_after`: after any history the phase of the timers is below the length of a tick.
-/

namespace Chip8

/-- What a host does with a machine, `ε` being the errors of its collaborators. -/
inductive Action (ε : Type)
  | load (image : List UInt8)
  | loadFile (path : String) (file : ProgramFile)
  | cycle
  /-- Hands over a snapshot of the keys, of whatever length. -/
  | latch (snapshot : List Bool)
  | acknowledge
  | reset
  | reboot (path : String) (file : ProgramFile)
  | frame (count : Nat) (host : Host ε)
  /-- The system gives a machine that has no seed a stream by chance. -/
  | reseed (key : Random.ChaCha.Key)

/-- The steps that actions are made of. -/
inductive Step
  | load (image : List UInt8)
  | cycle
  | hold (keys : Vector Bool 16)
  | acknowledge
  | reset
  | reseed (key : Random.ChaCha.Key)

namespace Machine

variable {ε : Type}

/-! ## Actions -/

/-- Goes to the beginning of the stream of a key, unless the setup has a seed. -/
def reseed (m : Machine) (key : Random.ChaCha.Key) : Machine :=
  { m with
    generator := if m.setup.seed.isSome then m.generator else Random.Generator.atPlace key 0 }

def perform (m : Machine) : Action ε → Machine
  | .load image => m.load image
  | .loadFile path file =>
    match m.loadFile path file with
    | .ok (_, loaded) => loaded
    | .error _ => m
  | .cycle => m.cycle
  | .latch snapshot => (m.latch? snapshot).getD m
  | .acknowledge => m.acknowledge
  | .reset => m.reset
  | .reboot path file => (m.reboot path file).1
  | .frame count host => (Frame.run m count host).machine
  | .reseed key => m.reseed key

/-- The machine after a history, the earliest action first. -/
def after (m : Machine) (history : List (Action ε)) : Machine := history.foldl perform m

@[simp] theorem after_cons (m : Machine) (a : Action ε) (rest : List (Action ε)) :
    m.after (a :: rest) = (m.perform a).after rest := rfl

theorem after_append (m : Machine) (first second : List (Action ε)) :
    m.after (first ++ second) = (m.after first).after second :=
  List.foldl_append

/-- What each action of a history passes over, the history passes over. -/
theorem after_of_perform (view : Machine → Machine) (hview : ∀ m, view (view m) = view m)
    {history : List (Action ε)}
    (hperform : ∀ a ∈ history, ∀ m, view ((view m).perform a) = view (m.perform a)) (m : Machine) :
    view ((view m).after history) = view (m.after history) := by
  induction history generalizing m with
  | nil => exact hview m
  | cons a rest ih =>
    obtain ⟨ha, hrest⟩ := List.forall_mem_cons.1 hperform
    rw [after_cons, after_cons, ← ih hrest, ha, ih hrest]

/-! ## Steps -/

def step (m : Machine) : Step → Machine
  | .load image => m.load image
  | .cycle => m.cycle
  | .hold keys => m.holding keys
  | .acknowledge => m.acknowledge
  | .reset => m.reset
  | .reseed key => m.reseed key

/-- The machine after some steps, the earliest one first. -/
def through (m : Machine) (steps : List Step) : Machine := steps.foldl step m

@[simp] theorem through_nil (m : Machine) : m.through [] = m := rfl

@[simp] theorem through_cons (m : Machine) (s : Step) (rest : List Step) :
    m.through (s :: rest) = (m.step s).through rest := rfl

theorem through_append (m : Machine) (first second : List Step) :
    m.through (first ++ second) = (m.through first).through second :=
  List.foldl_append

theorem through_replicate_cycle (m : Machine) (n : Nat) :
    m.through (List.replicate n .cycle) = m.cycles n := by
  induction n generalizing m with
  | zero => rfl
  | succ n ih => exact ih m.cycle

/-! ## From actions to steps -/

/-- The steps of an action. Those of a frame hang on what its collaborators answer. -/
def stepsOf (m : Machine) : Action ε → List Step
  | .load image => [.load image]
  | .loadFile _ (.contents image) => [.load image]
  | .loadFile _ _ => []
  | .cycle => [.cycle]
  | .latch snapshot =>
    match Keypad.ofSnapshot? snapshot with
    | some keypad => [.hold keypad.keys]
    | none => []
  | .acknowledge => [.acknowledge]
  | .reset => [.reset]
  | .reboot _ (.contents image) => [.reset, .load image]
  | .reboot _ _ => [.reset]
  | .frame count host =>
    match host.keys with
    | .error _ => []
    | .ok keys =>
      .hold keys :: List.replicate (host.cyclesTraced count) .cycle ++
        if (Frame.run m count host).shown.isSome then [.acknowledge] else []
  | .reseed key => [.reseed key]

theorem perform_eq_through (m : Machine) (a : Action ε) :
    m.perform a = m.through (m.stepsOf a) := by
  cases a with
  | load | cycle | acknowledge | reset | reseed => rfl
  | loadFile path file => cases file <;> rfl
  | reboot path file => cases file <;> rfl
  | latch snapshot =>
    simp only [perform, stepsOf, latch?]
    cases Keypad.ofSnapshot? snapshot <;> rfl
  | frame count host =>
    simp only [perform, stepsOf]
    cases hkeys : host.keys with
    | error e => simp [Frame.run_of_keys_error m count hkeys]
    | ok keys =>
      have hheld : m.through (.hold keys :: List.replicate (host.cyclesTraced count) .cycle) =
          (m.holding keys).cycles (host.cyclesTraced count) :=
        through_replicate_cycle (m.holding keys) _
      rw [Frame.machine_run m count hkeys]
      dsimp only
      rw [through_append, hheld]
      split
      · rfl
      · rfl

/-- What every step keeps, every action keeps. -/
theorem perform_induction {P : Machine → Prop} (hstep : ∀ s m, P m → P (m.step s)) (a : Action ε)
    {m : Machine} (h : P m) : P (m.perform a) := by
  rw [perform_eq_through]
  generalize m.stepsOf a = steps
  induction steps generalizing m with
  | nil => exact h
  | cons s rest ih => exact ih (hstep s m h)

/-- What every step keeps, every history keeps. -/
theorem after_induction {P : Machine → Prop} (hstep : ∀ s m, P m → P (m.step s)) {m : Machine}
    (h : P m) (history : List (Action ε)) : P (m.after history) := by
  induction history generalizing m with
  | nil => exact h
  | cons a rest ih => exact ih (perform_induction hstep a h)

/-! ## The setup -/

theorem setup_step (s : Step) (m : Machine) : (m.step s).setup = m.setup := by
  cases s with
  | cycle => exact setup_execute m.skip m.nextInstruction
  | _ => rfl

theorem setup_after (m : Machine) (history : List (Action ε)) :
    (m.after history).setup = m.setup :=
  after_induction (P := fun later => later.setup = m.setup)
    (fun s later h => (setup_step s later).trans h) rfl history

/-! ## The phase of the timers -/

/-- The current tick has cycles left. -/
def InTick (m : Machine) : Prop := m.timers.phase < m.setup.cyclesPerTick

theorem inTick_powerOn (setup : Setup) : (powerOn setup).InTick := setup.cyclesPerTick_pos

theorem phase_execute (m : Machine) (i : Instruction) :
    (m.execute i).timers.phase = m.timers.phase := by
  cases huse : i.usesTimers with
  | false => rw [timers_execute m huse]
  | true =>
    cases i with
    | readDelay | setDelay => rfl
    | setSound x =>
      simp only [execute, Timers.setSound]
      split <;> rfl
    | _ => cases huse

theorem inTick_execute {m : Machine} (h : m.InTick) (i : Instruction) : (m.execute i).InTick := by
  unfold InTick at h ⊢
  rw [phase_execute, setup_execute]
  exact h

theorem inTick_cycle {m : Machine} (h : m.InTick) : m.cycle.InTick :=
  Timers.phase_onCycle_lt (inTick_execute (m := m.skip) h m.nextInstruction)

theorem inTick_step (s : Step) (m : Machine) (h : m.InTick) : (m.step s).InTick := by
  cases s with
  | cycle => exact inTick_cycle h
  | reset => exact inTick_powerOn m.setup
  | _ => exact h

theorem inTick_perform {m : Machine} (h : m.InTick) (a : Action ε) : (m.perform a).InTick :=
  perform_induction inTick_step a h

theorem inTick_after {m : Machine} (h : m.InTick) (history : List (Action ε)) :
    (m.after history).InTick := after_induction inTick_step h history

end Machine

end Chip8
