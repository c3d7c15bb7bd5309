import Chip8.Proofs.CycleLog
import Chip8.Proofs.Encoding

/-!
# Random draws

A seed names an endless stream of words, and only the words CXNN take from it: one each, in their
order, whatever runs between them. So the place in the stream is the number of draws in the log, and
two machines with the same seed draw the same words even if they have nothing else in common.

Results:
* `generator_execute_of_ne`: every other instruction leaves the stream alone.
* `keepsStream_cycle`, `keepsStream_through`: the generator stands where the log says.
* `random_draws_follow_stream`: the place after any run, the result of each draw, and the agreement
  of any two runs.
-/

namespace Chip8

open Chip8.Random (Generator keyOfSeed streamWord)

variable {ε : Type}

namespace Machine

/-! ## Draws -/

/-- Whether the next cycle draws a random byte, its word being CXNN. -/
def drawsRandom (m : Machine) : Bool := m.nextWord.toNat / 4096 == 0xC

/-- The machines that the drawing cycles of a log begin with, the earliest first. -/
def randomDraws (log : List Machine) : List Machine := log.filter drawsRandom

theorem nextInstruction_of_drawsRandom {m : Machine} (h : m.drawsRandom = true) :
    m.nextInstruction =
      .random (Instruction.fieldX m.nextWord) (Instruction.fieldNN m.nextWord) :=
  Instruction.ofWord_random_iff.2 ⟨eq_of_beq h, rfl, rfl⟩

theorem ne_random_of_not_drawsRandom {m : Machine} (h : m.drawsRandom = false) (x : Register)
    (nn : UInt8) : m.nextInstruction ≠ .random x nn := by
  intro hi
  obtain ⟨hfirst, -⟩ := Instruction.ofWord_random_iff.1 hi
  rw [drawsRandom, hfirst] at h
  cases h

theorem generator_execute_of_ne (m : Machine) {i : Instruction} (h : ∀ x nn, i ≠ .random x nn) :
    (m.execute i).generator = m.generator := by
  cases hbranches : i.branches with
  | true =>
    obtain ⟨registers, stack, pc, hexecute, -⟩ := m.execute_of_branches hbranches
    rw [hexecute]
  | false =>
    cases i with
    | random x nn => exact absurd rfl (h x nn)
    | ret | call | skipIf | awaitKey => cases hbranches
    | _ => rfl

theorem generator_cycle (m : Machine) :
    m.cycle.generator = if m.drawsRandom then m.generator.drop 1 else m.generator := by
  split
  · next h =>
    simp only [cycle, nextInstruction_of_drawsRandom h]
    rfl
  · next h =>
    exact generator_execute_of_ne m.skip (ne_random_of_not_drawsRandom (Bool.eq_false_iff.2 h))

/-- A draw leaves in VX the bits of NN of the low byte of the next word. -/
theorem register_cycle_of_drawsRandom {m : Machine} (h : m.drawsRandom = true) :
    m.cycle.readRegister (Instruction.fieldX m.nextWord) =
      (streamWord m.generator.key m.generator.drawn).toUInt8 &&&
        Instruction.fieldNN m.nextWord := by
  rw [← Generator.nextByte_fst]
  simp only [cycle, nextInstruction_of_drawsRandom h]
  exact (Registers.read_write _ _ _ _).trans (if_pos rfl)

/-! ## Any run -/

/-- The machine stands in the stream of `key` after the draws of the log, each of which began at the
place of its number. -/
structure KeepsStream (setup : Setup) (key : Random.ChaCha.Key) (log : List Machine)
    (m : Machine) : Prop where
  setup_eq : m.setup = setup
  generator_eq : m.generator = Generator.atPlace key (randomDraws log).length
  drawn_eq : ∀ j d, (randomDraws log)[j]? = some d →
    d.drawsRandom = true ∧ d.generator = Generator.atPlace key j

theorem keepsStream_powerOn (setup : Setup) :
    KeepsStream setup (keyOfSeed (setup.seed.getD 0)) [] (powerOn setup) where
  setup_eq := rfl
  generator_eq := rfl
  drawn_eq := fun _ _ h => nomatch h

theorem keepsStream_cycle {setup : Setup} {key : Random.ChaCha.Key} {log : List Machine}
    {m : Machine} (h : KeepsStream setup key log m) :
    KeepsStream setup key (log ++ [m]) m.cycle := by
  have hsetup : m.cycle.setup = setup := (setup_step .cycle m).trans h.setup_eq
  cases hdraws : m.drawsRandom with
  | false =>
    have hlog : randomDraws (log ++ [m]) = randomDraws log := by
      simp [randomDraws, List.filter_append, hdraws]
    refine ⟨hsetup, ?_, ?_⟩
    · rw [generator_cycle, hdraws, hlog]
      exact h.generator_eq
    · rw [hlog]
      exact h.drawn_eq
  | true =>
    have hlog : randomDraws (log ++ [m]) = randomDraws log ++ [m] := by
      simp [randomDraws, List.filter_append, hdraws]
    refine ⟨hsetup, ?_, ?_⟩
    · rw [generator_cycle, if_pos hdraws, hlog, h.generator_eq, Generator.drop_eq_atPlace,
        List.length_append, List.length_singleton]
      rfl
    · intro j d hd
      rw [hlog, List.getElem?_append, List.getElem?_singleton] at hd
      split at hd
      · exact h.drawn_eq j d hd
      · split at hd
        · -- the draw just made is the last one
          cases hd
          have hlast : j = (randomDraws log).length := by omega
          rw [hlast]
          exact ⟨hdraws, h.generator_eq⟩
        · cases hd

theorem keepsStream_step {setup : Setup} {seed : UInt64} (hseed : setup.seed = some seed)
    {log : List Machine} {m : Machine} (s : Step)
    (h : KeepsStream setup (keyOfSeed seed) log m) :
    KeepsStream setup (keyOfSeed seed) (m.logged log s) (m.step s) := by
  cases s with
  | cycle => exact keepsStream_cycle h
  | reset =>
    have hfresh := keepsStream_powerOn setup
    rw [hseed, Option.getD_some] at hfresh
    rw [← h.setup_eq] at hfresh ⊢
    exact hfresh
  | reseed key =>
    refine ⟨h.setup_eq, ?_, h.drawn_eq⟩
    have hseeded : m.setup.seed.isSome = true := by rw [h.setup_eq, hseed, Option.isSome_some]
    exact (if_pos hseeded).trans h.generator_eq
  | load | hold | acknowledge => exact ⟨h.setup_eq, h.generator_eq, h.drawn_eq⟩

theorem keepsStream_through (setup : Setup) (seed : UInt64) (steps : List Step) :
    KeepsStream (setup.withSeed seed) (keyOfSeed seed)
      ((powerOn (setup.withSeed seed)).log steps)
      ((powerOn (setup.withSeed seed)).through steps) :=
  log_induction (fun s _ _ h => keepsStream_step rfl s h)
    (keepsStream_powerOn (setup.withSeed seed)) steps

/-- After any steps of a machine with a seed, its generator stands in the stream of the seed behind
as many words as its cycles since the last reset have drawn; any history of a host is made of such
steps. The draw of number `j`, counted from zero, leaves in VX the bits of NN of the low byte of
word `j`. So with the same seed the draws of the same number are the same bytes, whatever the
programs, the other choices of the setup and the steps in between. -/
theorem random_draws_follow_stream (setup : Setup) (seed : UInt64) :
    (∀ steps : List Step,
      let start := powerOn (setup.withSeed seed)
      let draws := randomDraws (start.log steps)
      (start.through steps).generator = (Generator.ofSeed seed).drop draws.length ∧
      ∀ j d, draws[j]? = some d →
        d.cycle.readRegister (Instruction.fieldX d.nextWord) =
          (streamWord (keyOfSeed seed) j).toUInt8 &&& Instruction.fieldNN d.nextWord) ∧
    (∀ (other : Setup) (steps others : List Step) (j : Nat) (d e : Machine),
      (randomDraws ((powerOn (setup.withSeed seed)).log steps))[j]? = some d →
      (randomDraws ((powerOn (other.withSeed seed)).log others))[j]? = some e →
      d.generator.nextByte.1 = e.generator.nextByte.1) ∧
    ∀ history : List (Action ε),
      (powerOn (setup.withSeed seed)).after history =
        (powerOn (setup.withSeed seed)).through
          ((powerOn (setup.withSeed seed)).stepsIn history) := by
  refine ⟨?_, ?_, after_eq_through_stepsIn _⟩
  · intro steps start draws
    have h := keepsStream_through setup seed steps
    refine ⟨?_, ?_⟩
    · rw [h.generator_eq, Generator.ofSeed, Generator.drop_eq_atPlace]
      exact congrArg _ (Nat.zero_add _).symm
    · intro j d hd
      obtain ⟨hdraws, hplace⟩ := h.drawn_eq j d hd
      rw [register_cycle_of_drawsRandom hdraws, hplace]
      rfl
  · intro other steps others j d e hd he
    rw [((keepsStream_through setup seed steps).drawn_eq j d hd).2,
      ((keepsStream_through other seed others).drawn_eq j e he).2]

/-- The second draws of two machines with seed 7. The first machine has thrown a word away by keeping
no bit of it; the second one has another tick, was reset, and does other work in between. -/
theorem random_draws_follow_stream_second :
    let steps : List Step := [.load [0xC0, 0x00, 0xC1, 0x0F], .cycle, .cycle]
    let others : List Step :=
      [.cycle, .reset, .load [0xCA, 0xFF, 0x60, 0x01, 0xCB, 0xFF], .cycle,
        .hold (Vector.replicate 16 true), .cycle, .cycle]
    let draws := randomDraws ((powerOn (Setup.standard.withSeed 7)).log steps)
    let later := randomDraws ((powerOn ((Setup.ofRates 1 1).withSeed 7)).log others)
    ∃ d e, draws[1]? = some d ∧ later[1]? = some e ∧
      d.cycle.readRegister 1 = (streamWord (keyOfSeed 7) 1).toUInt8 &&& 0x0F ∧
      d.generator.nextByte.1 = e.generator.nextByte.1 := by
  intro steps others draws later
  have hwords : draws[1]?.map nextWord = some 0xC10F ∧ later[1]?.map nextWord = some 0xCBFF := by
    decide +kernel
  obtain ⟨d, hd, hword⟩ := Option.map_eq_some_iff.1 hwords.1
  obtain ⟨e, he, -⟩ := Option.map_eq_some_iff.1 hwords.2
  obtain ⟨hstream, hagree, -⟩ := @random_draws_follow_stream String Setup.standard 7
  have hresult := (hstream steps).2 1 d hd
  rw [hword] at hresult
  exact ⟨d, e, hd, he, hresult, hagree (Setup.ofRates 1 1) steps others 1 d e hd he⟩

end Machine

end Chip8
