import Chip8.Proofs.History

/-!
# What showing and polling leave alone

Between the cycles of a program its host latches keys and shows pictures. The mark on the picture is
read by no instruction, so whether and when a picture is shown has no effect on what is executed.
The keys are read, but no instruction changes them, and each frame latches them anew before its
first cycle. So what a frame makes of everything else hangs on everything else and on its own keys.

Results:
* `acknowledge_cycles`, `traceLines_acknowledge`, `acknowledge_run`: cycles and frames do the same
  with the picture shown or not.
* `keypad_cycles`: cycles leave the keys as they are.
* `core_run`, `traceLines_run_core`: a frame passes over the keys and the mark that it finds.
* `core_run_zero`, `trace_run_zero`: without cycles it leaves nothing but keys and a mark, and writes
  nothing.
* `core_after`, `tracedIn_core`: so does any history without bare cycles.
-/

namespace Chip8

variable {ε : Type}

namespace Machine

/-! ## The mark -/

theorem acknowledge_execute (m : Machine) (i : Instruction) :
    (m.acknowledge.execute i).acknowledge = (m.execute i).acknowledge := by
  cases i with
  | ret =>
    simp only [execute, ret, acknowledge]
    split <;> rfl
  | call t =>
    simp only [execute, call, acknowledge]
    split <;> rfl
  | skipIf condition =>
    have hsame : condition.holds m.acknowledge = condition.holds m := by
      cases condition <;> rfl
    simp only [execute, hsame]
    split <;> rfl
  | awaitKey x =>
    simp only [execute, awaitKey, acknowledge]
    split <;> rfl
  | _ => rfl

theorem acknowledge_cycle (m : Machine) :
    m.acknowledge.cycle.acknowledge = m.cycle.acknowledge := by
  have hcount := congrArg countCycle (acknowledge_execute m.skip m.nextInstruction)
  exact hcount

theorem acknowledge_cycles (m : Machine) (n : Nat) :
    (m.acknowledge.cycles n).acknowledge = (m.cycles n).acknowledge := by
  induction n generalizing m with
  | zero => rfl
  | succ n ih => rw [cycles, cycles, ← ih, acknowledge_cycle, ih]

theorem traceLines_acknowledge (m : Machine) (n : Nat) :
    m.acknowledge.traceLines n = m.traceLines n := by
  induction n generalizing m with
  | zero => rfl
  | succ n ih =>
    have hline : m.acknowledge.traceLine = m.traceLine := rfl
    rw [traceLines, traceLines, hline, ← ih, acknowledge_cycle, ih]

/-! ## The keys -/

theorem keypad_execute (m : Machine) (i : Instruction) : (m.execute i).keypad = m.keypad := by
  cases hbranches : i.branches with
  | true =>
    obtain ⟨registers, stack, pc, hexecute, -⟩ := m.execute_of_branches hbranches
    rw [hexecute]
  | false =>
    cases i with
    | ret | call | skipIf | awaitKey => cases hbranches
    | _ => rfl

theorem keypad_cycles (m : Machine) (n : Nat) : (m.cycles n).keypad = m.keypad := by
  induction n generalizing m with
  | zero => rfl
  | succ n ih => exact (ih m.cycle).trans (keypad_execute m.skip m.nextInstruction)

/-! ## Everything else -/

/-- The machine with all keys up and the picture shown: what is left when the host's part in it is
passed over. -/
def core (m : Machine) : Machine :=
  { m with keypad := Keypad.released, screen := m.screen.acknowledge }

@[simp] theorem core_acknowledge (m : Machine) : m.acknowledge.core = m.core := rfl

theorem holding_core (m : Machine) (keys : Vector Bool 16) :
    m.core.holding keys = (m.holding keys).acknowledge := rfl

theorem core_cycles_acknowledge (m : Machine) (n : Nat) :
    (m.acknowledge.cycles n).core = (m.cycles n).core := by
  rw [← core_acknowledge, acknowledge_cycles, core_acknowledge]

end Machine

namespace Frame

/-! ## Frames -/

/-- A frame with keys leaves what its cycles leave, but for the mark. -/
theorem acknowledge_machine_run (m : Machine) (n : Nat) {host : Host ε} {keys : Vector Bool 16}
    (hkeys : host.keys = .ok keys) :
    (run m n host).machine.acknowledge =
      ((m.holding keys).cycles (host.cyclesTraced n)).acknowledge := by
  rw [machine_run m n hkeys]
  split <;> rfl

theorem core_machine_run (m : Machine) (n : Nat) {host : Host ε} {keys : Vector Bool 16}
    (hkeys : host.keys = .ok keys) :
    (run m n host).machine.core = ((m.holding keys).cycles (host.cyclesTraced n)).core := by
  rw [← Machine.core_acknowledge, acknowledge_machine_run m n hkeys, Machine.core_acknowledge]

/-- The mark that a frame finds makes no difference to anything else that it leaves. -/
theorem acknowledge_run (m : Machine) (n : Nat) (host : Host ε) :
    (run m.acknowledge n host).machine.acknowledge = (run m n host).machine.acknowledge := by
  cases hkeys : host.keys with
  | error e =>
    rw [run_of_keys_error m n hkeys, run_of_keys_error m.acknowledge n hkeys]
    rfl
  | ok keys =>
    have hheld : m.acknowledge.holding keys = (m.holding keys).acknowledge := rfl
    rw [acknowledge_machine_run m n hkeys, acknowledge_machine_run m.acknowledge n hkeys, hheld,
      Machine.acknowledge_cycles]

theorem trace_finish (m : Machine) (trace : Option (TraceSink ε)) (failure : Option ε) :
    (finish m trace failure).trace = trace := by
  unfold finish
  split
  · cases failure <;> rfl
  · rfl

/-- A frame that has its keys writes the lines of the cycles that it comes to run. -/
theorem trace_run (m : Machine) (n : Nat) {host : Host ε} {keys : Vector Bool 16}
    (hkeys : host.keys = .ok keys) :
    (run m n host).trace =
      host.trace.map fun sink =>
        sink.grown ((m.holding keys).traceLines (host.cyclesTraced n)) := by
  by_cases htrace : host.TakesLines n
  · rw [run_of_takesLines m hkeys htrace, trace_finish, Host.cyclesTraced_of_takesLines htrace]
  · obtain ⟨sink, left, e, hsink, hlimit, hlt⟩ := Host.exists_limit_of_not_takesLines htrace
    rw [run_of_full_trace m hkeys hsink hlimit hlt, Host.cyclesTraced_of_limit hsink hlimit hlt,
      hsink]
    rfl

/-- A frame without cycles leaves nothing new but keys and a mark. -/
theorem core_run_zero (m : Machine) (host : Host ε) :
    (run m 0 host).machine.core = m.core := by
  cases hkeys : host.keys with
  | error e => rw [run_of_keys_error m 0 hkeys]
  | ok keys =>
    rw [core_machine_run m 0 hkeys, Host.cyclesTraced_of_takesLines host.takesLines_zero]
    rfl

/-- And it writes nothing. -/
theorem trace_run_zero (m : Machine) (host : Host ε) : (run m 0 host).trace = host.trace := by
  cases hkeys : host.keys with
  | error e => rw [run_of_keys_error m 0 hkeys]
  | ok keys =>
    rw [trace_run m 0 hkeys, Host.cyclesTraced_of_takesLines host.takesLines_zero]
    simp [Machine.traceLines]

/-- Whether the display fails makes no difference to what a frame leaves apart from the mark. -/
theorem core_run_of_display (m : Machine) (n : Nat) (host : Host ε) :
    (run m n { host with displayFailure := none }).machine.core = (run m n host).machine.core := by
  obtain ⟨keys, failure, trace⟩ := host
  cases keys with
  | error e => rfl
  | ok keys =>
    have hshown := @core_machine_run _ m n { keys := .ok keys, trace := trace } keys rfl
    have hoffered := @core_machine_run _ m n ⟨.ok keys, failure, trace⟩ keys rfl
    exact hshown.trans hoffered.symm

/-- Nor to the lines that it writes. -/
theorem trace_run_of_display (m : Machine) (n : Nat) (host : Host ε) :
    (run m n { host with displayFailure := none }).trace = (run m n host).trace := by
  obtain ⟨keys, failure, trace⟩ := host
  cases keys with
  | error e => rfl
  | ok keys =>
    have hshown := @trace_run _ m n { keys := .ok keys, trace := trace } keys rfl
    have hoffered := @trace_run _ m n ⟨.ok keys, failure, trace⟩ keys rfl
    exact hshown.trans hoffered.symm

/-- The keys and the mark that a frame finds make no difference to what it leaves. -/
theorem core_run (m : Machine) (n : Nat) (host : Host ε) :
    (run m.core n host).machine.core = (run m n host).machine.core := by
  cases hkeys : host.keys with
  | error e =>
    rw [run_of_keys_error m n hkeys, run_of_keys_error m.core n hkeys]
    rfl
  | ok keys =>
    rw [core_machine_run m n hkeys, core_machine_run m.core n hkeys, Machine.holding_core,
      Machine.core_cycles_acknowledge]

/-- Nor to the lines that it writes. -/
theorem traceLines_run_core (m : Machine) (n : Nat) (host : Host ε) :
    (run m.core n host).traceLines = (run m n host).traceLines := by
  have htrace : (run m.core n host).trace = (run m n host).trace := by
    cases hkeys : host.keys with
    | error e => rw [run_of_keys_error m n hkeys, run_of_keys_error m.core n hkeys]
    | ok keys =>
      rw [trace_run m n hkeys, trace_run m.core n hkeys, Machine.holding_core,
        Machine.traceLines_acknowledge]
  simp only [traceLines, htrace]

end Frame

namespace Machine

/-! ## Histories -/

/-- The trace lines that an action writes. -/
def tracedBy (m : Machine) : Action ε → List String
  | .frame count host => (Frame.run m count host).traceLines
  | _ => []

/-- The trace lines that a history writes. -/
def tracedIn (m : Machine) : List (Action ε) → List String
  | [] => []
  | a :: rest => m.tracedBy a ++ (m.perform a).tracedIn rest

/-- An action other than a bare cycle passes over the keys and the mark that it finds. -/
theorem core_perform (m : Machine) {a : Action ε} (h : a ≠ .cycle) :
    (m.core.perform a).core = (m.perform a).core := by
  cases a with
  | cycle => exact absurd rfl h
  | load | acknowledge | reset | reseed => rfl
  | loadFile path file => cases file <;> rfl
  | reboot path file => cases file <;> rfl
  | latch snapshot =>
    simp only [perform, latch?]
    cases Keypad.ofSnapshot? snapshot <;> rfl
  | frame count host => exact Frame.core_run m count host

theorem core_after (m : Machine) {history : List (Action ε)} (h : Action.cycle ∉ history) :
    (m.core.after history).core = (m.after history).core :=
  after_of_perform core (fun _ => rfl)
    (fun _ ha m => core_perform m (ne_of_mem_of_not_mem ha h)) m

/-- Machines with the same core have the same core after the same history. -/
theorem core_after_congr {m m' : Machine} {history : List (Action ε)}
    (h : Action.cycle ∉ history) (hcore : m.core = m'.core) :
    (m.after history).core = (m'.after history).core := by
  rw [← core_after m h, hcore, core_after m' h]

theorem tracedBy_core (m : Machine) (a : Action ε) : m.core.tracedBy a = m.tracedBy a := by
  cases a with
  | frame count host => exact Frame.traceLines_run_core m count host
  | _ => rfl

theorem tracedIn_core (m : Machine) {history : List (Action ε)} (h : Action.cycle ∉ history) :
    m.core.tracedIn history = m.tracedIn history := by
  induction history generalizing m with
  | nil => rfl
  | cons a rest ih =>
    obtain ⟨ha, hrest⟩ := List.ne_and_not_mem_of_not_mem_cons h
    rw [tracedIn, tracedIn, tracedBy_core, ← ih _ hrest, core_perform m ha.symm, ih _ hrest]

/-- And the same history writes the same lines from both. -/
theorem tracedIn_congr {m m' : Machine} {history : List (Action ε)}
    (h : Action.cycle ∉ history) (hcore : m.core = m'.core) :
    m.tracedIn history = m'.tracedIn history := by
  rw [← tracedIn_core m h, hcore, tracedIn_core m' h]

theorem tracedIn_append (m : Machine) (first second : List (Action ε)) :
    m.tracedIn (first ++ second) = m.tracedIn first ++ (m.after first).tracedIn second := by
  induction first generalizing m with
  | nil => rfl
  | cons a rest ih =>
    rw [List.cons_append, tracedIn, ih, ← List.append_assoc]
    rfl

end Machine

end Chip8
