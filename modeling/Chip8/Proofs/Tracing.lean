import Chip8.Proofs.FrameOutcome
import Chip8.Proofs.HexValue

/-!
# Traces

A frame with a trace takes a line before each cycle, and looks at the machine for it. It looks at
what the cycle is about to execute, wherever the program counter has come to and whatever the
program has made of the word there, and it leaves the machine alone.

Results:
* `tracedBy_traceLine`: a line tells of the cycle that comes after it.
* `getElem_traceLines`: line `i` is taken after `i` cycles.
* `run_traced`: the trace is all that a trace adds to a frame.
* `trace_faithful`: what a frame with a trace does and writes.
-/

namespace Chip8

namespace Machine

/-! ## Lines -/

/-- The line tells of the next cycle: it has the program counter with three digits or more, the word
of the two bytes there with four, and the mnemonic of the instruction that the cycle executes. -/
def TracedBy (m : Machine) (line : String) : Prop :=
  ∃ (counter digits : String) (word : UInt16),
    line = counter ++ "  " ++ digits ++ "  " ++ (Instruction.ofWord word).mnemonic ∧
    Text.Shows 3 m.pc.toNat counter ∧ Text.Shows 4 word.toNat digits ∧ digits.length = 4 ∧
    word.toNat =
      256 * (m.memory.byteAt m.pc.toNat).toNat + (m.memory.byteAt (m.pc.toNat + 1)).toNat ∧
    m.cycle = (m.skip.execute (Instruction.ofWord word)).countCycle

theorem toNat_nextWord (m : Machine) :
    m.nextWord.toNat =
      256 * (m.memory.byteAt m.pc.toNat).toNat + (m.memory.byteAt (m.pc.toNat + 1)).toNat := by
  have hpc := m.pc.toNat_lt
  -- addresses are wider than the program counter, so the second byte is past the first one
  have hsecond : (m.pc.toUInt64 + 1).toNat = m.pc.toNat + 1 := by
    have hone : (1 : UInt64).toNat = 1 := rfl
    rw [UInt64.toNat_add, UInt16.toNat_toUInt64, hone]
    omega
  rw [nextWord, Memory.toNat_readWord, Memory.read_eq_byteAt, Memory.read_eq_byteAt, hsecond,
    UInt16.toNat_toUInt64]

theorem tracedBy_traceLine (m : Machine) : m.TracedBy m.traceLine := by
  have hword := m.nextWord.toNat_lt
  have hlength : (Text.hex 4 m.nextWord.toNat).length = 4 := by
    rw [Text.hex_of_lt (by decide) hword, ← String.length_toList, String.toList_ofList,
      Text.length_hexFixed]
  exact ⟨_, _, m.nextWord, rfl, Text.shows_hex (by decide) _, Text.shows_hex (by decide) _, hlength,
    toNat_nextWord m, rfl⟩

theorem getElem_traceLines (m : Machine) {n i : Nat} (h : i < (m.traceLines n).length) :
    (m.traceLines n)[i] = (m.cycles i).traceLine := by
  induction n generalizing m i with
  | zero => cases h
  | succ n ih =>
    cases i with
    | zero => rfl
    | succ i => exact ih m.cycle (Nat.lt_of_succ_lt_succ h)

end Machine

variable {ε : Type}

namespace Host

/-- The same collaborators with a trace that takes every line. -/
def traced (host : Host ε) (taken : List String) : Host ε :=
  { host with trace := some { taken := taken } }

/-- The same collaborators without a trace. -/
def untraced (host : Host ε) : Host ε := { host with trace := none }

theorem takesLines_traced (host : Host ε) (taken : List String) (n : Nat) :
    (host.traced taken).TakesLines n := by
  intro sink hsink left e hlimit
  cases hsink
  cases hlimit

theorem takesLines_untraced (host : Host ε) (n : Nat) : host.untraced.TakesLines n :=
  fun _ hsink => nomatch hsink

end Host

namespace Frame

/-! ## Frames -/

theorem finish_eq (m : Machine) (trace : Option (TraceSink ε)) (failure : Option ε) :
    finish m trace failure = { finish m none failure with trace := trace } := by
  unfold finish
  split
  · cases failure <;> rfl
  · rfl

theorem run_untraced (m : Machine) (n : Nat) {host : Host ε} {keys : Vector Bool 16}
    (hkeys : host.keys = .ok keys) :
    run m n host.untraced = finish ((m.holding keys).cycles n) none host.displayFailure :=
  run_of_takesLines m hkeys (host.takesLines_untraced n)

/-- A trace that takes every line gets the lines of the cycles, and nothing else comes of it. -/
theorem run_traced (m : Machine) (n : Nat) {host : Host ε} {keys : Vector Bool 16}
    (hkeys : host.keys = .ok keys) (taken : List String) :
    run m n (host.traced taken) =
      { run m n host.untraced with
        trace := some { taken := ((m.holding keys).traceLines n).reverse ++ taken } } := by
  rw [run_untraced m n hkeys, ← finish_eq]
  exact run_of_takesLines m hkeys (host.takesLines_traced taken n)

/-- A trace that takes every line has no effect on a frame, and what it gets is faithful: with keys,
exactly one line for each cycle, telling of the instruction that this cycle executes in the state
that the cycles before it have led to. Without keys there are no cycles and no lines. -/
theorem trace_faithful (m : Machine) (n : Nat) (host : Host ε) (taken : List String) :
    let traced := run m n (host.traced taken)
    let silent := run m n host.untraced
    (traced.result = silent.result ∧ traced.machine = silent.machine ∧
      traced.offered = silent.offered ∧ traced.shown = silent.shown ∧
      traced.tone = silent.tone) ∧
    silent.traceLines = [] ∧
    (∀ keys, host.keys = .ok keys →
      ∃ lines : List String, traced.traceLines = taken.reverse ++ lines ∧ lines.length = n ∧
        ∀ i (hi : i < lines.length), ((m.holding keys).cycles i).TracedBy lines[i]) ∧
    (∀ e, host.keys = .error e → traced.traceLines = taken.reverse) := by
  intro traced silent
  cases hkeys : host.keys with
  | error e =>
    have htraced : traced =
        { machine := m, result := .error e, trace := some { taken := taken } } :=
      run_of_keys_error m n hkeys
    have hsilent : silent = { machine := m, result := .error e, trace := none } :=
      run_of_keys_error m n hkeys
    rw [htraced, hsilent]
    refine ⟨⟨rfl, rfl, rfl, rfl, rfl⟩, rfl, ?_, fun _ _ => rfl⟩
    intro keys hok
    cases hok
  | ok keys =>
    have htraced : traced = { silent with
        trace := some { taken := ((m.holding keys).traceLines n).reverse ++ taken } } :=
      run_traced m n hkeys taken
    have hsilent : silent.trace = none := by
      show (run m n host.untraced).trace = none
      rw [run_untraced m n hkeys, finish_eq]
    have hlines : traced.traceLines = taken.reverse ++ (m.holding keys).traceLines n := by
      rw [htraced]
      simp [traceLines, TraceSink.lines]
    have hsame : traced.result = silent.result ∧ traced.machine = silent.machine ∧
        traced.offered = silent.offered ∧ traced.shown = silent.shown ∧
        traced.tone = silent.tone := by
      rw [htraced]
      exact ⟨rfl, rfl, rfl, rfl, rfl⟩
    refine ⟨hsame, by rw [traceLines, hsilent], ?_, ?_⟩
    · intro later hlater
      cases hlater
      refine ⟨_, hlines, Machine.length_traceLines n _, ?_⟩
      intro i hi
      rw [Machine.getElem_traceLines]
      exact Machine.tracedBy_traceLine _
    · intro e herror
      cases herror

/-- A program that stores the word BFFF over its next one, which leads it to a place past memory,
and one that asks for a key again and again. -/
theorem trace_faithful_rewritten :
    let code : List UInt8 :=
      [0x60, 0xBF, 0x61, 0xFF, 0xA2, 0x08, 0xF1, 0x55, 0x00, 0x00, 0xF2, 0x0A]
    let m := (Machine.powerOn Setup.standard).load code
    let asking := { m with pc := 0x20A }
    let up : Vector Bool 16 := Vector.replicate 16 false
    let host : Host String := { keys := .ok up }
    (run m 6 (host.traced [])).traceLines =
      ["200  60BF  LD V0, 0xBF", "202  61FF  LD V1, 0xFF", "204  A208  LD I, 0x208",
        "206  F155  LD [I], V1", "208  BFFF  JP V0, 0xFFF", "10BE  0000  SYS 0x000"] ∧
    (run asking 2 (host.traced [])).traceLines = ["20A  F20A  LD V2, K", "20A  F20A  LD V2, K"] ∧
    (run m 6 (host.traced [])).machine = (run m 6 host.untraced).machine ∧
    ((m.holding up).cycles 5).TracedBy "10BE  0000  SYS 0x000" := by
  intro code m asking up host
  have htexts : (run m 6 (host.traced [])).traceLines =
        ["200  60BF  LD V0, 0xBF", "202  61FF  LD V1, 0xFF", "204  A208  LD I, 0x208",
          "206  F155  LD [I], V1", "208  BFFF  JP V0, 0xFFF", "10BE  0000  SYS 0x000"] ∧
      (run asking 2 (host.traced [])).traceLines =
        ["20A  F20A  LD V2, K", "20A  F20A  LD V2, K"] := by
    decide +kernel
  obtain ⟨hsame, -, hwritten, -⟩ := trace_faithful m 6 host []
  refine ⟨htexts.1, htexts.2, hsame.2.1, ?_⟩
  obtain ⟨lines, hlines, hlength, htraced⟩ := hwritten up rfl
  have hlast : lines[5]? = some "10BE  0000  SYS 0x000" := by
    have hlines : lines = _ := hlines.symm.trans htexts.1
    rw [hlines]
    rfl
  obtain ⟨hin, hlast⟩ := List.getElem_of_getElem? hlast
  rw [← hlast]
  exact htraced 5 hin

end Frame

end Chip8
