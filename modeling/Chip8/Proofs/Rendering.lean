import Chip8.Proofs.Core
import Chip8.Proofs.CycleLog
import Chip8.Proofs.Picture

/-!
# What shows and what runs

A host shows the picture when it likes, and says so; and it may hand over snapshots that are none of
sixteen keys. Neither is noticed by the program: histories that differ in nothing else lead to the
same machine but for the mark on the picture. The mark in turn tells what has happened to the
picture since the host last said that it was shown.

Results:
* `acknowledge_perform`, `acknowledge_after`: what an action makes of the rest does not hang on the
  mark.
* `after_filter_isIdle`: idle actions can be left out.
* `due_step`, `due_through`: when a step and when many steps leave the mark.
* `showing_leaves_program_alone`: both together, for any histories.
-/

namespace Chip8

variable {ε : Type}

/-- An acknowledgement, or a snapshot that is not of sixteen keys. -/
def Action.isIdle : Action ε → Bool
  | .acknowledge => true
  | .latch snapshot => snapshot.length != 16
  | _ => false

namespace Machine

/-! ## The mark makes no difference -/

/-- The machine with the mark set or removed. -/
def marked (m : Machine) (due : Bool) : Machine := { m with screen := { m.screen with due := due } }

theorem eq_marked_of_acknowledge_eq {m m' : Machine} (h : m.acknowledge = m'.acknowledge) :
    m' = m.marked m'.isDue :=
  calc m' = m'.acknowledge.marked m'.isDue := rfl
    _ = m.acknowledge.marked m'.isDue := by rw [h]
    _ = m.marked m'.isDue := rfl

theorem acknowledge_perform (m : Machine) (a : Action ε) :
    (m.acknowledge.perform a).acknowledge = (m.perform a).acknowledge := by
  cases a with
  | load | acknowledge | reset | reseed => rfl
  | loadFile path file => cases file <;> rfl
  | reboot path file => cases file <;> rfl
  | cycle => exact acknowledge_cycle m
  | latch snapshot =>
    simp only [perform, latch?]
    cases Keypad.ofSnapshot? snapshot <;> rfl
  | frame count host => exact Frame.acknowledge_run m count host

theorem acknowledge_after (m : Machine) (history : List (Action ε)) :
    (m.acknowledge.after history).acknowledge = (m.after history).acknowledge :=
  after_of_perform Machine.acknowledge (fun _ => rfl) (fun a _ m => acknowledge_perform m a) m

theorem acknowledge_perform_of_isIdle (m : Machine) {a : Action ε} (h : a.isIdle = true) :
    (m.perform a).acknowledge = m.acknowledge := by
  cases a with
  | acknowledge => rfl
  | latch snapshot =>
    have hlength : snapshot.length ≠ 16 := bne_iff_ne.1 h
    have hnone : Keypad.ofSnapshot? snapshot = none := dif_neg hlength
    rw [perform, latch?, hnone]
    rfl
  | _ => cases h

/-- Without its idle actions a history leads to the same machine but for the mark. -/
theorem after_filter_isIdle (m : Machine) (history : List (Action ε)) :
    (m.after (history.filter (!·.isIdle))).acknowledge = (m.after history).acknowledge := by
  induction history generalizing m with
  | nil => rfl
  | cons a rest ih =>
    cases h : a.isIdle with
    | true =>
      -- the idle action may change the mark, which the rest of the history passes over
      rw [List.filter_cons_of_neg (by simp [h]), after_cons, ← ih, ← acknowledge_after m,
        ← acknowledge_perform_of_isIdle m h, acknowledge_after]
    | false =>
      rw [List.filter_cons_of_pos (by simp [h]), after_cons, after_cons, ih]

/-! ## What the mark tells -/

/-- Whether a step touches the picture: it switches off and on again, or runs a word 00E0 or DXYN. -/
def Touches (m : Machine) : Step → Prop
  | .reset => True
  | .cycle => m.nextWord = 0x00E0 ∨ m.nextWord.toNat / 4096 = 0xD
  | _ => False

/-- A step leaves the mark if it touches the picture, or if it finds the mark and does not remove
it. -/
theorem due_step (m : Machine) (s : Step) :
    (m.step s).isDue = true ↔ m.Touches s ∨ m.isDue = true ∧ s ≠ .acknowledge := by
  cases s with
  | cycle =>
    rw [step, due_cycle, nextInstruction, Instruction.draws_ofWord, or_comm]
    simp [Touches]
  | acknowledge => simp [step, Touches, isDue, acknowledge, Screen.acknowledge]
  | reset => simp [step, Touches, isDue, reset, powerOn, Screen.initial]
  | load image => simp [step, Touches, isDue, load]
  | hold keys => simp [step, Touches, isDue, holding]
  | reseed key => simp [step, Touches, isDue, reseed]

/-- Some steps leave the mark if one of them touches the picture, or if they find the mark, and no
later one removes it. -/
theorem due_through (m : Machine) (steps : List Step) :
    (m.through steps).isDue = true ↔
      (m.isDue = true ∧ .acknowledge ∉ steps) ∨
        ∃ before s later, steps = before ++ s :: later ∧ (m.through before).Touches s ∧
          .acknowledge ∉ later := by
  induction steps generalizing m with
  | nil => simp
  | cons s rest ih =>
    rw [through_cons, ih, due_step]
    constructor
    · rintro (⟨htouches | ⟨hdue, hs⟩, hrest⟩ | ⟨before, t, later, rfl, htouches, hlater⟩)
      · exact .inr ⟨[], s, rest, rfl, htouches, hrest⟩
      · exact .inl ⟨hdue, List.not_mem_cons_of_ne_of_not_mem hs.symm hrest⟩
      · exact .inr ⟨s :: before, t, later, rfl, htouches, hlater⟩
    · rintro (⟨hdue, hnone⟩ | ⟨before, t, later, hsplit, htouches, hlater⟩)
      · obtain ⟨hs, hrest⟩ := List.ne_and_not_mem_of_not_mem_cons hnone
        exact .inl ⟨.inr ⟨hdue, hs.symm⟩, hrest⟩
      · cases before with
        | nil =>
          obtain ⟨rfl, rfl⟩ := List.cons.inj hsplit
          exact .inl ⟨.inl htouches, hlater⟩
        | cons first before =>
          obtain ⟨rfl, rfl⟩ := List.cons.inj hsplit
          exact .inr ⟨before, t, later, rfl, htouches, hlater⟩

/-! ## Histories -/

/-- Histories that differ only in acknowledgements and in snapshots that are not of sixteen keys
lead from any machine to the same one, but for the mark on its picture. And after any history the
mark is set exactly if the picture has been touched since the last acknowledgement, be it by a frame
or from outside: by switching on, by a reset, or by a word 00E0 or DXYN, whatever it has drawn. -/
theorem showing_leaves_program_alone :
    (∀ (m : Machine) (history history' : List (Action ε)),
      history.filter (!·.isIdle) = history'.filter (!·.isIdle) →
      m.after history' = (m.after history).marked (m.after history').isDue) ∧
    (∀ (m : Machine) (history : List (Action ε)),
      (m.after history).isDue = true ↔
        (m.isDue = true ∧ .acknowledge ∉ m.stepsIn history) ∨
          ∃ before s later, m.stepsIn history = before ++ s :: later ∧
            (m.through before).Touches s ∧ .acknowledge ∉ later) ∧
    (∀ setup : Setup, (powerOn setup).isDue = true) := by
  refine ⟨?_, ?_, fun _ => rfl⟩
  · intro m history history' h
    apply eq_marked_of_acknowledge_eq
    rw [← after_filter_isIdle m history, h, after_filter_isIdle]
  · intro m history
    rw [after_eq_through_stepsIn]
    exact due_through m (m.stepsIn history)

/-- A drawing without rows, right after the switched-on picture has been acknowledged: it sets the
mark and lights nothing. The host adds an acknowledgement after it, and snapshots of one key and of
none. -/
theorem showing_leaves_program_alone_empty_drawing :
    let history : List (Action String) := [.load [0xD0, 0x00], .cycle]
    let drawn : List (Action String) := [.acknowledge, .load [0xD0, 0x00], .latch [true], .cycle]
    let shown := drawn ++ [.acknowledge, .latch []]
    let m := powerOn Setup.standard
    (history.filter (!·.isIdle) = shown.filter (!·.isIdle) ∧
      m.after shown = (m.after history).marked (m.after shown).isDue) ∧
    (m.after history).isDue = true ∧ (m.after shown).isDue = false ∧
    (m.after drawn).isDue = true ∧ (m.after drawn).screen.bitmap = Bitmap.dark := by
  intro history drawn shown m
  obtain ⟨halike, hdue, -⟩ := @showing_leaves_program_alone String
  obtain ⟨hword, hdark⟩ :
      (m.through [.acknowledge, .load [0xD0, 0x00]]).nextWord.toNat / 4096 = 0xD ∧
        (m.after drawn).screen.bitmap = Bitmap.dark := by
    decide +kernel
  refine ⟨⟨rfl, halike m history shown rfl⟩, ?_, rfl, ?_, hdark⟩
  · rw [hdue]
    exact .inl ⟨rfl, by simp [history, stepsIn, stepsOf]⟩
  · rw [hdue]
    exact .inr ⟨[.acknowledge, .load [0xD0, 0x00]], .cycle, [], rfl, .inr hword, List.not_mem_nil⟩

end Machine

end Chip8
