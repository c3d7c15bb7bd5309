import Chip8.Frame
import Mathlib.Tactic.Common

/-!
# What comes of a frame

A frame that nothing interrupts latches the keys, runs its cycles, and ends by showing the picture
and setting the tone. It can end early in three places: before the keys are known, at a trace line
that is not taken, and at a picture that the display does not take. Each place leaves a state of
its own.

Results:
* `run_of_takesLines`, `run_of_full_trace`: a frame with keys, with room for its trace lines and
  without.
* `machine_run`: whatever the collaborators answer, a frame latches the keys, runs some cycles and
  perhaps acknowledges the picture.
* `run_failures`: the state that each failure leaves.
-/

namespace Chip8

/-- The machine with these keys down. -/
def Machine.holding (m : Machine) (keys : Vector Bool 16) : Machine :=
  { m with keypad := { keys := keys } }

variable {ε : Type}

/-! ## Room in a trace -/

namespace TraceSink

/-- The next `n` lines will all be taken. -/
def Takes (t : TraceSink ε) (n : Nat) : Prop := ∀ left e, t.limit = some (left, e) → n ≤ left

/-- The sink after it has taken some lines. -/
def grown (t : TraceSink ε) (lines : List String) : TraceSink ε :=
  { taken := lines.reverse ++ t.taken
    limit := t.limit.map fun limit => (limit.1 - lines.length, limit.2) }

@[simp] theorem grown_nil (t : TraceSink ε) : t.grown [] = t := by
  obtain ⟨taken, limit⟩ := t
  cases limit <;> rfl

theorem grown_cons (t : TraceSink ε) (line : String) (rest : List String) :
    (t.grown [line]).grown rest = t.grown (line :: rest) := by
  obtain ⟨taken, limit⟩ := t
  cases limit with
  | none => simp [grown]
  | some l => simp [grown, Nat.sub_sub, Nat.add_comm]

theorem write_of_takes {t : TraceSink ε} {n : Nat} (h : t.Takes (n + 1)) (line : String) :
    t.write line = .ok (t.grown [line]) := by
  obtain ⟨taken, limit⟩ := t
  cases limit with
  | none => rfl
  | some l =>
    obtain ⟨left, e⟩ := l
    obtain ⟨k, rfl⟩ : ∃ k, left = k + 1 := ⟨left - 1, by have := h left e rfl; omega⟩
    rfl

theorem takes_grown {t : TraceSink ε} {n : Nat} (h : t.Takes (n + 1)) (line : String) :
    (t.grown [line]).Takes n := by
  intro left e hl
  obtain ⟨⟨room, e'⟩, hroom, hpair⟩ := Option.map_eq_some_iff.1 hl
  have := h room e' hroom
  cases hpair
  simp only [List.length_singleton]
  omega

end TraceSink

namespace Host

/-- The trace, if there is one, has room for the lines of `n` cycles. -/
def TakesLines (host : Host ε) (n : Nat) : Prop := ∀ sink, host.trace = some sink → sink.Takes n

theorem takesLines_zero (host : Host ε) : host.TakesLines 0 := fun _ _ left _ _ => Nat.zero_le left

/-- How many of `n` cycles are run before the trace fails. -/
def cyclesTraced (host : Host ε) (n : Nat) : Nat :=
  match host.trace with
  | some { limit := some (left, _), .. } => min n left
  | _ => n

theorem cyclesTraced_of_takesLines {host : Host ε} {n : Nat} (h : host.TakesLines n) :
    host.cyclesTraced n = n := by
  unfold cyclesTraced
  split
  · next taken left e hsink => exact Nat.min_eq_left (h _ hsink left e rfl)
  · rfl

theorem cyclesTraced_of_limit {host : Host ε} {sink : TraceSink ε} {n left : Nat} {e : ε}
    (htrace : host.trace = some sink) (hlimit : sink.limit = some (left, e)) (hlt : left < n) :
    host.cyclesTraced n = left := by
  obtain ⟨taken, limit⟩ := sink
  dsimp only at hlimit
  subst hlimit
  simp only [cyclesTraced, htrace]
  exact Nat.min_eq_right (Nat.le_of_lt hlt)

/-- A trace without room for the lines of `n` cycles fails at one of them. -/
theorem exists_limit_of_not_takesLines {host : Host ε} {n : Nat} (h : ¬ host.TakesLines n) :
    ∃ sink left e, host.trace = some sink ∧ sink.limit = some (left, e) ∧ left < n := by
  by_contra hnone
  apply h
  intro sink hsink left e hl
  apply Nat.le_of_not_lt
  intro hlt
  exact hnone ⟨sink, left, e, hsink, hl, hlt⟩

end Host

namespace Frame

/-! ## The cycles of a frame -/

theorem runTraced_of_takes {n : Nat} {m : Machine} {sink : TraceSink ε} (h : sink.Takes n) :
    runTraced n m sink =
      { machine := m.cycles n, trace := some (sink.grown (m.traceLines n)) } := by
  induction n generalizing m sink with
  | zero => simp [runTraced, Machine.cycles, Machine.traceLines]
  | succ n ih =>
    rw [runTraced, TraceSink.write_of_takes h]
    simp only [ih (TraceSink.takes_grown h _), TraceSink.grown_cons]
    rfl

/-- A sink with room for fewer lines than there are cycles stops the cycle of the line that it does
not take. -/
theorem runTraced_of_limit {n left : Nat} {m : Machine} {sink : TraceSink ε} {e : ε}
    (hlimit : sink.limit = some (left, e)) (hlt : left < n) :
    runTraced n m sink =
      { machine := m.cycles left, trace := some (sink.grown (m.traceLines left)),
        failure := some e } := by
  induction n generalizing m sink left with
  | zero => omega
  | succ n ih =>
    cases left with
    | zero =>
      rw [runTraced, TraceSink.write, hlimit]
      simp [Machine.cycles, Machine.traceLines]
    | succ left =>
      have htakes : sink.Takes (0 + 1) := by
        intro room e' hroom
        rw [hlimit] at hroom
        cases hroom
        omega
      have hgrown : (sink.grown [m.traceLine]).limit = some (left, e) := by
        simp [TraceSink.grown, hlimit]
      rw [runTraced, TraceSink.write_of_takes htakes]
      simp only [ih hgrown (by omega), TraceSink.grown_cons]
      rfl

theorem runCycles_of_takes {n : Nat} {m : Machine} {trace : Option (TraceSink ε)}
    (h : ∀ sink, trace = some sink → sink.Takes n) :
    runCycles n m trace =
      { machine := m.cycles n, trace := trace.map fun sink => sink.grown (m.traceLines n) } := by
  cases trace with
  | none => exact runCycles_none n m
  | some sink => exact runTraced_of_takes (h sink rfl)

/-! ## The frame as a whole -/

/-- With keys and with room for its trace lines a frame comes to its end. -/
theorem run_of_takesLines (m : Machine) {n : Nat} {host : Host ε} {keys : Vector Bool 16}
    (hkeys : host.keys = .ok keys) (htrace : host.TakesLines n) :
    run m n host =
      finish ((m.holding keys).cycles n)
        (host.trace.map fun sink => sink.grown ((m.holding keys).traceLines n))
        host.displayFailure := by
  have hcycles := runCycles_of_takes (m := m.holding keys) htrace
  unfold Machine.holding at hcycles
  simp only [run, hkeys, hcycles]
  rfl

/-- With keys and with room for only some of its trace lines a frame ends at the first line that is
not taken. -/
theorem run_of_full_trace (m : Machine) {n left : Nat} {host : Host ε} {keys : Vector Bool 16}
    {sink : TraceSink ε} {e : ε} (hkeys : host.keys = .ok keys) (htrace : host.trace = some sink)
    (hlimit : sink.limit = some (left, e)) (hlt : left < n) :
    run m n host =
      { machine := (m.holding keys).cycles left, result := .error e,
        trace := some (sink.grown ((m.holding keys).traceLines left)) } := by
  have hcycles := runTraced_of_limit (m := m.holding keys) hlimit hlt
  unfold Machine.holding at hcycles
  simp only [run, hkeys, htrace, runCycles, hcycles]
  rfl

theorem machine_finish (m : Machine) (trace : Option (TraceSink ε)) (failure : Option ε) :
    (finish m trace failure).machine =
      if (finish m trace failure).shown.isSome then m.acknowledge else m := by
  unfold finish
  split
  · cases failure <;> rfl
  · rfl

/-- Whatever the collaborators answer, a frame that has its keys latches them, runs cycles until
the trace fails, and acknowledges the picture if the display took it. -/
theorem machine_run (m : Machine) (n : Nat) {host : Host ε} {keys : Vector Bool 16}
    (hkeys : host.keys = .ok keys) :
    (run m n host).machine =
      if (run m n host).shown.isSome
      then ((m.holding keys).cycles (host.cyclesTraced n)).acknowledge
      else (m.holding keys).cycles (host.cyclesTraced n) := by
  by_cases htrace : host.TakesLines n
  · rw [run_of_takesLines m hkeys htrace, machine_finish, Host.cyclesTraced_of_takesLines htrace]
  · obtain ⟨sink, left, e, hsink, hlimit, hlt⟩ := Host.exists_limit_of_not_takesLines htrace
    rw [run_of_full_trace m hkeys hsink hlimit hlt, Host.cyclesTraced_of_limit hsink hlimit hlt]
    simp

/-! ## Failures -/

/-- A picture that the display does not take leaves the machine as its cycles left it. -/
theorem run_of_display_failure (m : Machine) {n : Nat} {host : Host ε} {keys : Vector Bool 16}
    {e : ε} (hkeys : host.keys = .ok keys) (htrace : host.TakesLines n)
    (hdisplay : host.displayFailure = some e) (hdue : ((m.holding keys).cycles n).isDue = true) :
    run m n host =
      { machine := (m.holding keys).cycles n, result := .error e,
        offered := [((m.holding keys).cycles n).screen],
        trace := host.trace.map fun sink => sink.grown ((m.holding keys).traceLines n) } := by
  rw [run_of_takesLines m hkeys htrace, hdisplay]
  exact if_pos hdue

/-- While no picture is due the display is not asked, so it cannot fail. -/
theorem run_of_not_due (m : Machine) {n : Nat} {host : Host ε} {keys : Vector Bool 16}
    (hkeys : host.keys = .ok keys) (htrace : host.TakesLines n)
    (hdue : ((m.holding keys).cycles n).isDue = false) :
    run m n host =
      { machine := (m.holding keys).cycles n, result := .ok (),
        tone := some ((m.holding keys).cycles n).isSounding,
        trace := host.trace.map fun sink => sink.grown ((m.holding keys).traceLines n) } := by
  rw [run_of_takesLines m hkeys htrace]
  exact if_neg (by rw [hdue]; exact Bool.false_ne_true)

/-- A frame without cycles shows the picture that is due. -/
theorem run_zero_of_due {m : Machine} {host : Host ε} {keys : Vector Bool 16}
    (hkeys : host.keys = .ok keys) (hdisplay : host.displayFailure = none)
    (hdue : m.isDue = true) :
    (run m 0 host).result = .ok () ∧ (run m 0 host).offered = [m.screen] ∧
      (run m 0 host).shown = some m.screen := by
  have hdue' : ((m.holding keys).cycles 0).isDue = true := hdue
  rw [run_of_takesLines m hkeys host.takesLines_zero, hdisplay]
  unfold finish
  rw [if_pos hdue']
  exact ⟨rfl, rfl, rfl⟩

/-- What each failure of a frame leaves. Without keys nothing at all has happened. A trace with room
for fewer lines than there are cycles stops the machine right before the cycle of the line that is
not taken, with the picture neither shown nor acknowledged and no tone set. A display that fails
leaves the machine after all cycles, with the picture still due, so that the next frame without
cycles shows it. And a display that would fail does no harm as long as no picture is due. -/
theorem run_failures (m : Machine) (n : Nat) (host : Host ε) :
    (∀ e, host.keys = .error e →
      run m n host =
        { machine := m, result := .error e, offered := [], shown := none, tone := none,
          trace := host.trace }) ∧
    (∀ keys sink left e, host.keys = .ok keys → host.trace = some sink →
      sink.limit = some (left, e) → left < n →
      run m n host =
        { machine := (m.holding keys).cycles left, result := .error e, offered := [],
          shown := none, tone := none,
          trace := some (sink.grown ((m.holding keys).traceLines left)) }) ∧
    (∀ keys e, host.keys = .ok keys → host.TakesLines n → host.displayFailure = some e →
      ((m.holding keys).cycles n).isDue = true →
      run m n host =
        { machine := (m.holding keys).cycles n, result := .error e,
          offered := [((m.holding keys).cycles n).screen], shown := none, tone := none,
          trace := host.trace.map fun sink => sink.grown ((m.holding keys).traceLines n) } ∧
      (run m n host).machine.isDue = true ∧
      ∀ (next : Host ε) (later : Vector Bool 16), next.keys = .ok later →
        next.displayFailure = none →
        (run (run m n host).machine 0 next).result = .ok () ∧
        (run (run m n host).machine 0 next).offered = (run m n host).offered ∧
        (run (run m n host).machine 0 next).shown =
          some ((m.holding keys).cycles n).screen) ∧
    (∀ keys, host.keys = .ok keys → host.TakesLines n →
      ((m.holding keys).cycles n).isDue = false →
      (run m n host).result = .ok () ∧ (run m n host).offered = []) := by
  refine ⟨fun e hkeys => run_of_keys_error m n hkeys, ?_, ?_, ?_⟩
  · intro keys sink left e hkeys htrace hlimit hlt
    exact run_of_full_trace m hkeys htrace hlimit hlt
  · intro keys e hkeys htrace hdisplay hdue
    have hrun := run_of_display_failure m hkeys htrace hdisplay hdue
    rw [hrun]
    refine ⟨rfl, hdue, ?_⟩
    intro next later hnext hworks
    exact run_zero_of_due hnext hworks hdue
  · intro keys hkeys htrace hdue
    rw [run_of_not_due m hkeys htrace hdue]
    exact ⟨rfl, rfl⟩

/-- The four cases right after switching on, where the picture is due: a keyboard that fails, a
trace with room for one line of three, a display that fails, and the same display once the picture
has been acknowledged. -/
theorem run_failures_powerOn :
    let m := Machine.powerOn Setup.standard
    let keys := Vector.replicate 16 false
    let blind : Host String := { keys := .error "no keys" }
    let full : Host String :=
      { keys := .ok keys, trace := some { limit := some (1, "no room") } }
    let broken : Host String := { keys := .ok keys, displayFailure := some "no display" }
    let working : Host String := { keys := .ok keys }
    (run m 3 blind).machine = m ∧
    (run m 3 full).machine = (m.holding keys).cycles 1 ∧ (run m 3 full).tone = none ∧
    (run m 2 broken).machine.isDue = true ∧
    (run (run m 2 broken).machine 0 working).shown = some ((m.holding keys).cycles 2).screen ∧
    (run m.acknowledge 2 broken).result = .ok () := by
  intro m keys blind full broken working
  have hdue : ((m.holding keys).cycles 2).isDue = true := by decide +kernel
  have hrest : ((m.acknowledge.holding keys).cycles 2).isDue = false := by decide +kernel
  have hblind := (run_failures m 3 blind).1 "no keys" rfl
  have hfull := (run_failures m 3 full).2.1 keys { limit := some (1, "no room") } 1 "no room"
    rfl rfl rfl (by decide)
  have hroom : broken.TakesLines 2 := fun sink hsink => nomatch hsink
  obtain ⟨-, hstill, hnext⟩ :=
    (run_failures m 2 broken).2.2.1 keys "no display" rfl hroom rfl hdue
  have hharmless := (run_failures m.acknowledge 2 broken).2.2.2 keys rfl hroom hrest
  refine ⟨?_, ?_, ?_, hstill, (hnext working keys rfl rfl).2.2, hharmless.1⟩
  · rw [hblind]
  · rw [hfull]
  · rw [hfull]

end Frame

end Chip8
