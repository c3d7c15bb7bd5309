import Chip8.Machine.Cycle

/-!
# Long runs

A program that has nothing more to do turns in a loop: it jumps to itself, or asks for keys again
and again. As long as it leaves the timers alone, each round leads back to the same machine but for
the timers, and those can be worked out. So a run of many cycles passes over whole rounds.

Results:
* `cycles_eq_of_advanceBy?`: without a look at the timers the cycles do what the instructions do,
  and the timers count on beside them.
* `run_eq_cycles`: a run is nothing but its cycles.
-/

namespace Chip8

/-- Whether an instruction reads or sets a timer. -/
def Instruction.usesTimers : Instruction → Bool
  | readDelay _ | setDelay _ | setSound _ => true
  | _ => false

namespace Machine

/-- The machine with other timers. -/
def withTimers (m : Machine) (timers : Timers) : Machine := { m with timers := timers }

/-- A cycle while the timers stand still, unless its instruction uses them. -/
def advance? (m : Machine) : Option Machine :=
  let next := m.nextInstruction
  if next.usesTimers then none else some (m.skip.execute next)

/-- `n` such cycles, if none of their instructions uses the timers. -/
def advanceBy? : (n : Nat) → Machine → Option Machine
  | 0, m => some m
  | n + 1, m =>
    match m.advance? with
    | none => none
    | some m => advanceBy? n m

/-- After how many cycles from the beginning of the round the machine is as it was at the beginning,
where `passed` cycles have led to `m` and at most `limit` more are tried. -/
def returnTime? (beginning : Machine) : (limit passed : Nat) → (m : Machine) → Option Nat
  | 0, _, _ => none
  | limit + 1, passed, m =>
    match m.advance? with
    | none => none
    | some m =>
      if m.pc = beginning.pc ∧ m.registers = beginning.registers ∧ m = beginning then
        some (passed + 1)
      else returnTime? beginning limit (passed + 1) m

/-- The length of the round that the machine turns in, if it does and the round takes no more than
`longest` cycles. -/
def round? (m : Machine) (longest : Nat) : Option Nat := m.returnTime? longest 0 m

/-- The longest round that a run looks for. -/
def longestRound : Nat := 2048

/-- How many cycles a run takes before the next look for a round. -/
def stride : Nat := 16384

/-- Runs `n` cycles. -/
def run (n : Nat) (m : Machine) : Machine :=
  if n ≤ stride then m.cycles n
  else
    match m.round? longestRound with
    | some round =>
      if m.timers.phase < m.setup.cyclesPerTick then
        (m.withTimers (m.timers.after m.setup.cyclesPerTick (n / round * round))).cycles
          (n % round)
      else m.cycles n
    | none => run (n - stride) (m.cycles stride)
termination_by n
decreasing_by simp only [stride] at *; omega

/-! ## Timers aside -/

theorem setup_execute (m : Machine) (i : Instruction) : (m.execute i).setup = m.setup := by
  cases hbranches : i.branches with
  | true =>
    obtain ⟨registers, stack, pc, hexecute, -⟩ := m.execute_of_branches hbranches
    rw [hexecute]
  | false =>
    cases i with
    | ret | call | skipIf | awaitKey => cases hbranches
    | _ => rfl

theorem timers_execute (m : Machine) {i : Instruction} (h : i.usesTimers = false) :
    (m.execute i).timers = m.timers := by
  cases hbranches : i.branches with
  | true =>
    obtain ⟨registers, stack, pc, hexecute, -⟩ := m.execute_of_branches hbranches
    rw [hexecute]
  | false =>
    cases i with
    | ret | call | skipIf | awaitKey => cases hbranches
    | readDelay | setDelay | setSound => cases h
    | _ => rfl

theorem execute_withTimers (m : Machine) (timers : Timers) {i : Instruction}
    (h : i.usesTimers = false) :
    (m.withTimers timers).execute i = (m.execute i).withTimers timers := by
  cases i <;> simp only [execute]
  case ret =>
    simp only [ret, withTimers]
    split <;> rfl
  case call =>
    simp only [call, withTimers]
    split <;> rfl
  case skipIf condition =>
    have hsame : condition.holds (m.withTimers timers) = condition.holds m := by
      cases condition <;> rfl
    rw [hsame]
    split <;> rfl
  case awaitKey =>
    simp only [awaitKey, withTimers]
    split <;> rfl
  case readDelay => cases h
  case setDelay => cases h
  case setSound => cases h
  all_goals rfl

theorem advance?_withTimers (m : Machine) (timers : Timers) :
    (m.withTimers timers).advance? = m.advance?.map (·.withTimers timers) := by
  have hnext : (m.withTimers timers).nextInstruction = m.nextInstruction := rfl
  have hskip : (m.withTimers timers).skip = m.skip.withTimers timers := rfl
  unfold advance?
  simp only [hnext, hskip]
  by_cases h : m.nextInstruction.usesTimers
  · simp [h]
  · simp [h, execute_withTimers]

theorem advanceBy?_withTimers (n : Nat) (m : Machine) (timers : Timers) :
    (m.withTimers timers).advanceBy? n = (m.advanceBy? n).map (·.withTimers timers) := by
  induction n generalizing m with
  | zero => rfl
  | succ n ih =>
    simp only [advanceBy?, advance?_withTimers]
    cases m.advance? with
    | none => rfl
    | some next => exact ih next

theorem cycle_eq_of_advance? {m next : Machine} (h : m.advance? = some next) :
    next.setup = m.setup ∧ m.cycle = next.withTimers (m.timers.onCycle m.setup.cyclesPerTick) := by
  unfold advance? at h
  simp only [Option.ite_none_left_eq_some, Option.some.injEq] at h
  obtain ⟨huse, rfl⟩ := h
  have hsetup : (m.skip.execute m.nextInstruction).setup = m.setup := setup_execute _ _
  have htimers : (m.skip.execute m.nextInstruction).timers = m.timers :=
    timers_execute _ (by simpa using huse)
  refine ⟨hsetup, ?_⟩
  simp only [cycle, countCycle, withTimers, hsetup, htimers]

/-- The instructions do their work, and the timers count on beside them. -/
theorem cycles_eq_of_advanceBy? {n : Nat} {m last : Machine} (h : m.advanceBy? n = some last) :
    m.cycles n = last.withTimers (m.timers.onCycles m.setup.cyclesPerTick n) := by
  induction n generalizing m last with
  | zero =>
    obtain rfl : m = last := by simpa [advanceBy?] using h
    rfl
  | succ n ih =>
    simp only [advanceBy?] at h
    split at h
    · cases h
    · next next hnext =>
      obtain ⟨hsetup, hcycle⟩ := cycle_eq_of_advance? hnext
      have hlater := advanceBy?_withTimers n next (m.timers.onCycle m.setup.cyclesPerTick)
      rw [h] at hlater
      rw [cycles, hcycle, ih hlater]
      simp only [withTimers, hsetup]
      rfl

/-! ## Rounds -/

theorem advanceBy?_add {a b : Nat} {m next : Machine} (h : m.advanceBy? a = some next) :
    m.advanceBy? (a + b) = next.advanceBy? b := by
  induction a generalizing m with
  | zero =>
    obtain rfl : m = next := by simpa [advanceBy?] using h
    rw [Nat.zero_add]
  | succ a ih =>
    rw [show a + 1 + b = (a + b) + 1 by omega]
    simp only [advanceBy?] at h ⊢
    split at h
    · cases h
    · exact ih h

theorem advanceBy?_of_returnTime? {beginning : Machine} {limit passed n : Nat} {m : Machine}
    (hm : beginning.advanceBy? passed = some m)
    (h : beginning.returnTime? limit passed m = some n) :
    beginning.advanceBy? n = some beginning := by
  induction limit generalizing passed m with
  | zero => cases h
  | succ limit ih =>
    simp only [returnTime?] at h
    split at h
    · cases h
    · next next hnext =>
      have hpassed : beginning.advanceBy? (passed + 1) = some next := by
        rw [advanceBy?_add hm]
        simp [advanceBy?, hnext]
      split at h
      · next hback =>
        cases h
        rw [hpassed, hback.2.2]
      · exact ih hpassed h

/-- A round leads back to its beginning. -/
theorem advanceBy?_of_round? {m : Machine} {longest round : Nat}
    (h : m.round? longest = some round) :
    m.advanceBy? round = some m :=
  advanceBy?_of_returnTime? rfl h

theorem advanceBy?_mul {m : Machine} {round : Nat} (h : m.advanceBy? round = some m)
    (count : Nat) : m.advanceBy? (count * round) = some m := by
  induction count with
  | zero => simp [advanceBy?]
  | succ count ih => rw [Nat.succ_mul, advanceBy?_add ih, h]

@[simp] theorem run_eq_cycles (n : Nat) (m : Machine) : m.run n = m.cycles n := by
  fun_induction run n m with
  | case1 => rfl
  | case2 n m hn round hround hphase =>
    have hall := advanceBy?_mul (advanceBy?_of_round? hround) (n / round)
    have hsum : n / round * round + n % round = n := by
      rw [Nat.mul_comm]
      exact Nat.div_add_mod n round
    rw [← Timers.onCycles_eq_after hphase, ← cycles_eq_of_advanceBy? hall, ← cycles_add, hsum]
  | case3 => rfl
  | case4 n m hn hround ih =>
    have hsum : stride + (n - stride) = n := by omega
    rw [ih, ← cycles_add, hsum]

end Machine

end Chip8
