import Chip8.Proofs.Encoding
import Chip8.Proofs.History

/-!
# The picture on the display

The mark on the screen says that the display has not been shown the picture since it was last
touched. Frames alone show the picture, and the mark goes only when the display has taken it. So
whenever the mark is gone, the last picture that the display took is the present one.

Results:
* `due_cycles`: when some cycles leave a picture to be shown.
* `upToDate_perform`, `upToDate_after`: the display is up to date or the picture is marked, after
  any history without an acknowledgement from outside.
* `run_fails_or_shows`: a frame that goes through leaves no picture to be shown.
* `offered_run`: which picture a frame offers to the display, and when.
* `display_up_to_date`: both together.
-/

namespace Chip8

variable {ε : Type}

namespace Machine

/-! ## Cycles and the mark -/

theorem screen_execute {i : Instruction} (h : i.draws = false) (m : Machine) :
    (m.execute i).screen = m.screen := by
  cases hbranches : i.branches with
  | true =>
    obtain ⟨registers, stack, pc, hexecute, -⟩ := m.execute_of_branches hbranches
    rw [hexecute]
  | false =>
    cases i with
    | clear | draw => cases h
    | ret | call | skipIf | awaitKey => cases hbranches
    | _ => rfl

theorem due_execute {i : Instruction} (h : i.draws = true) (m : Machine) :
    (m.execute i).screen.due = true := by
  cases i with
  | clear => rfl
  | draw x y n => rfl
  | _ => cases h

theorem screen_cycle {m : Machine} (h : m.nextInstruction.draws = false) :
    m.cycle.screen = m.screen :=
  screen_execute h m.skip

/-- A cycle leaves the picture to be shown if it was so before or its instruction draws. -/
theorem due_cycle (m : Machine) :
    m.cycle.isDue = true ↔ m.isDue = true ∨ m.nextInstruction.draws = true := by
  cases h : m.nextInstruction.draws with
  | true =>
    have hdue : m.cycle.isDue = true := due_execute h m.skip
    simp [hdue]
  | false => simp [isDue, screen_cycle h]

/-- Some cycles leave the picture to be shown if it was so before or one of them draws. -/
theorem due_cycles (m : Machine) (n : Nat) :
    (m.cycles n).isDue = true ↔
      m.isDue = true ∨ ∃ k < n, (m.cycles k).nextInstruction.draws = true := by
  induction n generalizing m with
  | zero => simp [cycles]
  | succ n ih =>
    rw [show m.cycles (n + 1) = m.cycle.cycles n from rfl, ih m.cycle, due_cycle, or_assoc]
    apply or_congr_right
    constructor
    · rintro (hdraws | ⟨k, hk, hdraws⟩)
      · exact ⟨0, Nat.succ_pos n, hdraws⟩
      · exact ⟨k + 1, Nat.succ_lt_succ hk, hdraws⟩
    · rintro ⟨k, hk, hdraws⟩
      cases k with
      | zero => exact .inl hdraws
      | succ k => exact .inr ⟨k, Nat.lt_of_succ_lt_succ hk, hdraws⟩

/-! ## What the display has taken -/

/-- The picture that the display takes in an action, if it takes one. -/
def shownBy (m : Machine) : Action ε → Option Screen
  | .frame count host => (Frame.run m count host).shown
  | _ => none

/-- The pictures that the display takes during a history, the earliest one first. -/
def shownIn (m : Machine) : List (Action ε) → List Screen
  | [] => []
  | a :: rest => (m.shownBy a).toList ++ (m.perform a).shownIn rest

/-- Unless the picture is marked, the display has last taken the present one. -/
def UpToDate (last : Option Screen) (m : Machine) : Prop :=
  m.isDue = false → ∃ taken, last = some taken ∧ taken.bitmap = m.screen.bitmap

theorem upToDate_cycle {last : Option Screen} {m : Machine} (h : m.UpToDate last) :
    m.cycle.UpToDate last := by
  intro hdue
  have hnot : ¬ (m.isDue = true ∨ m.nextInstruction.draws = true) := by
    rw [← due_cycle, hdue]
    exact Bool.false_ne_true
  rw [not_or] at hnot
  have hsame := screen_cycle (Bool.eq_false_iff.2 hnot.2)
  obtain ⟨taken, hlast, hbitmap⟩ := h (Bool.eq_false_iff.2 hnot.1)
  exact ⟨taken, hlast, by rw [hsame, hbitmap]⟩

theorem upToDate_cycles {last : Option Screen} {m : Machine} (h : m.UpToDate last) (n : Nat) :
    (m.cycles n).UpToDate last := by
  induction n generalizing m with
  | zero => exact h
  | succ n ih => exact ih (upToDate_cycle h)

end Machine

namespace Frame

/-! ## Frames -/

/-- A frame fails and the display has taken nothing; or it leaves no picture to be shown, and has
offered the display nothing, or the picture as the frame leaves it, and the display took it. -/
theorem run_fails_or_shows (m : Machine) (n : Nat) (host : Host ε) :
    (∃ e, (run m n host).result = .error e ∧ (run m n host).shown = none) ∨
      (run m n host).machine.isDue = false ∧
        ((run m n host).shown = none ∧ (run m n host).offered = [] ∨
          ∃ s, (run m n host).shown = some s ∧ (run m n host).offered = [s] ∧
            host.displayFailure = none ∧ s.bitmap = (run m n host).machine.screen.bitmap) := by
  cases hkeys : host.keys with
  | error e =>
    rw [run_of_keys_error m n hkeys]
    exact .inl ⟨e, rfl, rfl⟩
  | ok keys =>
    by_cases htrace : host.TakesLines n
    · rw [run_of_takesLines m hkeys htrace]
      unfold finish
      split
      · cases host.displayFailure with
        | some e => exact .inl ⟨e, rfl, rfl⟩
        | none => exact .inr ⟨rfl, .inr ⟨_, rfl, rfl, rfl, rfl⟩⟩
      · next hdue => exact .inr ⟨Bool.eq_false_iff.2 hdue, .inl ⟨rfl, rfl⟩⟩
    · obtain ⟨sink, left, e, hsink, hlimit, hlt⟩ := Host.exists_limit_of_not_takesLines htrace
      rw [run_of_full_trace m hkeys hsink hlimit hlt]
      exact .inl ⟨e, rfl, rfl⟩

/-- A frame that goes through leaves no picture to be shown. -/
theorem shows_of_ok {m : Machine} {n : Nat} {host : Host ε} {done : Unit}
    (h : (run m n host).result = .ok done) :
    (run m n host).machine.isDue = false ∧
      ((run m n host).shown = none ∧ (run m n host).offered = [] ∨
        ∃ s, (run m n host).shown = some s ∧ (run m n host).offered = [s] ∧
          host.displayFailure = none ∧ s.bitmap = (run m n host).machine.screen.bitmap) := by
  obtain ⟨e, herror, -⟩ | hshows := run_fails_or_shows m n host
  · rw [herror] at h
    cases h
  · exact hshows

theorem bitmap_of_shown {m : Machine} {n : Nat} {host : Host ε} {s : Screen}
    (h : (run m n host).shown = some s) : s.bitmap = (run m n host).machine.screen.bitmap := by
  obtain ⟨e, -, hnone⟩ | ⟨-, ⟨hnone, -⟩ | ⟨taken, htaken, -, -, hbitmap⟩⟩ :=
    run_fails_or_shows m n host
  · rw [hnone] at h
    cases h
  · rw [hnone] at h
    cases h
  · rw [htaken] at h
    cases h
    exact hbitmap

/-- A frame that the display takes nothing of leaves the machine as some cycles do. -/
theorem upToDate_run {last : Option Screen} {m : Machine} (h : m.UpToDate last) (n : Nat)
    (host : Host ε) :
    (run m n host).machine.UpToDate ((run m n host).shown.or last) := by
  cases hshown : (run m n host).shown with
  | some s =>
    intro _
    exact ⟨s, rfl, bitmap_of_shown hshown⟩
  | none =>
    rw [Option.none_or]
    cases hkeys : host.keys with
    | error e =>
      rw [run_of_keys_error m n hkeys]
      exact h
    | ok keys =>
      have hmachine := machine_run m n hkeys
      rw [hshown, Option.isSome_none, if_neg Bool.false_ne_true] at hmachine
      rw [hmachine]
      exact Machine.upToDate_cycles (m := m.holding keys) h _

/-- A frame with keys and with room for its trace lines offers the display the picture after its
last cycle if that is to be shown, and otherwise nothing. -/
theorem offered_run (m : Machine) {n : Nat} {host : Host ε} {keys : Vector Bool 16}
    (hkeys : host.keys = .ok keys) (htrace : host.TakesLines n) :
    (run m n host).offered =
      if ((m.holding keys).cycles n).isDue then [((m.holding keys).cycles n).screen] else [] := by
  rw [run_of_takesLines m hkeys htrace]
  unfold finish
  split
  · cases host.displayFailure <;> rfl
  · rfl

end Frame

namespace Machine

/-! ## Histories -/

theorem upToDate_powerOn (setup : Setup) (last : Option Screen) :
    (powerOn setup).UpToDate last := by
  intro hdue
  cases hdue

theorem upToDate_perform {last : Option Screen} {m : Machine} (h : m.UpToDate last)
    {a : Action ε} (ha : a ≠ .acknowledge) : (m.perform a).UpToDate ((m.shownBy a).or last) := by
  cases a with
  | load image => exact h
  | loadFile path file => cases file <;> exact h
  | cycle => exact upToDate_cycle h
  | latch snapshot =>
    simp only [perform, latch?]
    cases Keypad.ofSnapshot? snapshot <;> exact h
  | acknowledge => exact absurd rfl ha
  | reset => exact upToDate_powerOn m.setup last
  | reboot path file =>
    intro hdue
    cases file <;> cases hdue
  | frame count host => exact Frame.upToDate_run h count host
  | reseed key => exact h

/-- The last picture taken, of those before a history and those in it. -/
theorem upToDate_after {last : Option Screen} {m : Machine} (h : m.UpToDate last)
    {history : List (Action ε)} (hack : Action.acknowledge ∉ history) :
    (m.after history).UpToDate ((m.shownIn history).getLast?.or last) := by
  induction history generalizing m last with
  | nil => exact h
  | cons a rest ih =>
    obtain ⟨ha, hrest⟩ := List.ne_and_not_mem_of_not_mem_cons hack
    have hlater := ih (upToDate_perform h ha.symm) hrest
    have hlast : ((m.shownIn (a :: rest)).getLast?).or last =
        ((m.perform a).shownIn rest).getLast?.or ((m.shownBy a).or last) := by
      rw [shownIn, List.getLast?_append, Option.or_assoc]
      cases m.shownBy a <;> rfl
    rw [hlast]
    exact hlater

/-- After any history in which only frames acknowledge the picture, it is marked or the display has
last taken just these pixels. And a frame whose keys and trace do not fail offers at most one
picture, the one after its last cycle, and offers it exactly if the picture was marked when the
frame began or one of its cycles ran a word 00E0 or DXYN. -/
theorem display_up_to_date :
    (∀ (setup : Setup) (history : List (Action ε)), Action.acknowledge ∉ history →
      ((powerOn setup).after history).isDue = false →
      ∃ taken, ((powerOn setup).shownIn history).getLast? = some taken ∧
        taken.bitmap = ((powerOn setup).after history).screen.bitmap) ∧
    (∀ (m : Machine) (n : Nat) (host : Host ε) (keys : Vector Bool 16),
      host.keys = .ok keys → host.TakesLines n →
      (Frame.run m n host).offered.length ≤ 1 ∧
      ((Frame.run m n host).offered ≠ [] ↔
        m.isDue = true ∨ ∃ k < n, ((m.holding keys).cycles k).nextWord = 0x00E0 ∨
          ((m.holding keys).cycles k).nextWord.toNat / 4096 = 0xD) ∧
      ∀ s ∈ (Frame.run m n host).offered, s = ((m.holding keys).cycles n).screen) := by
  refine ⟨?_, ?_⟩
  · intro setup history hack hdue
    have hrun := upToDate_after (upToDate_powerOn setup none) hack
    rw [Option.or_none] at hrun
    exact hrun hdue
  · intro m n host keys hkeys htrace
    have hdraws := due_cycles (m.holding keys) n
    simp only [nextInstruction, Instruction.draws_ofWord] at hdraws
    have hheld : (m.holding keys).isDue = m.isDue := rfl
    rw [Frame.offered_run m hkeys htrace, ← hheld, ← hdraws]
    split
    · next hdue => simp [hdue]
    · next hdue => simp [hdue]

/-- A display that first fails and then works, with a load, new keys and a cycle in between; and the
frame that shows the picture, right after switching on. -/
theorem display_up_to_date_second_try :
    let keys := Vector.replicate 16 false
    let broken : Host String := { keys := .ok keys, displayFailure := some "no display" }
    let working : Host String := { keys := .ok keys }
    let history : List (Action String) :=
      [.frame 1 broken, .load [0x00, 0xE0], .latch [true], .frame 0 working, .cycle]
    let m := powerOn Setup.standard
    (∃ taken, (m.shownIn history).getLast? = some taken ∧
      taken.bitmap = (m.after history).screen.bitmap) ∧
    (Frame.run m 1 working).offered ≠ [] ∧
    ∀ s ∈ (Frame.run m 1 working).offered, s = ((m.holding keys).cycles 1).screen := by
  intro keys broken working history m
  have hack : Action.acknowledge ∉ history := by simp [history]
  have hdue : (m.after history).isDue = false := by decide +kernel
  have hroom : working.TakesLines 1 := fun sink hsink => nomatch hsink
  obtain ⟨-, hoffers, hpicture⟩ := display_up_to_date.2 m 1 working keys rfl hroom
  exact ⟨display_up_to_date.1 Setup.standard history hack hdue, hoffers.2 (.inl rfl), hpicture⟩

end Machine

end Chip8
