import Mathlib.Algebra.GroupWithZero.Nat
import Chip8.Proofs.Core
import Chip8.Proofs.Picture

/-!
# Frames split into shorter ones

A program cannot tell how its cycles are divided into frames. Between two frames with the same keys
the host latches what is latched already and perhaps shows the picture, and neither has an effect on
the cycles that follow. Nor is a picture lost: if the later frames have nothing to show, the picture
shown before them is still the one at the end.

Results:
* `run_working`: what a frame whose host never fails comes to.
* `dueBitmap?_split`: a picture shown halfway stands in for the one at the end, unless another has
  become due since.
* `machine_frames`, `traceLines_frames`, `bitmap_frames`: what the frames of a split leave, write and
  show last.
* `frames_agree_with_sum`: a split and a whole frame leave, write, sound and show the same.
-/

namespace Chip8

variable {ε : Type}

/-- A host with these keys down that never fails, with a trace or without. -/
def Host.working (keys : Vector Bool 16) (traced : Bool) : Host ε :=
  { keys := .ok keys, trace := if traced then some {} else none }

theorem Host.takesLines_working (keys : Vector Bool 16) (traced : Bool) (n : Nat) :
    (Host.working keys traced : Host ε).TakesLines n := by
  intro sink hsink left e hlimit
  cases traced with
  | false => cases hsink
  | true =>
    cases hsink
    cases hlimit

namespace Machine

/-! ## A break halfway -/

theorem traceLines_add (a b : Nat) (m : Machine) :
    m.traceLines (a + b) = m.traceLines a ++ (m.cycles a).traceLines b := by
  induction a generalizing m with
  | zero => rw [Nat.zero_add]; rfl
  | succ a ih =>
    rw [Nat.add_right_comm, traceLines, ih m.cycle]
    rfl

theorem holding_of_keypad {m : Machine} {keys : Vector Bool 16} (h : m.keypad = { keys := keys }) :
    m.holding keys = m := by
  rw [holding, ← h]

/-- The picture that is to be shown, if one is. -/
def dueBitmap? (m : Machine) : Option Bitmap := if m.isDue then some m.screen.bitmap else none

/-- A picture is due at the end if one was due halfway or has become due since. -/
theorem due_split (m : Machine) (n : Nat) :
    (m.cycles n).isDue = true ↔ m.isDue = true ∨ (m.acknowledge.cycles n).isDue = true := by
  have hnext (k : Nat) :
      (m.acknowledge.cycles k).nextInstruction = (m.cycles k).nextInstruction := by
    have hsame := congrArg nextInstruction (acknowledge_cycles m k)
    exact hsame
  have hshown : m.acknowledge.isDue = false := rfl
  rw [due_cycles, due_cycles m.acknowledge]
  simp only [hnext, hshown, Bool.false_eq_true, false_or]

theorem bitmap_cycles_acknowledge (m : Machine) (n : Nat) :
    (m.acknowledge.cycles n).screen.bitmap = (m.cycles n).screen.bitmap := by
  have hsame := congrArg (fun m => m.screen.bitmap) (acknowledge_cycles m n)
  exact hsame

/-- If no picture has become due since the one halfway was shown, that one is the picture still. -/
theorem bitmap_of_not_due {m : Machine} {n : Nat} (h : (m.acknowledge.cycles n).isDue = false) :
    (m.cycles n).screen.bitmap = m.screen.bitmap := by
  have hshown : m.acknowledge.UpToDate (some m.screen) := fun _ => ⟨m.screen, rfl, rfl⟩
  obtain ⟨taken, hlast, hbitmap⟩ := upToDate_cycles hshown n h
  cases hlast
  rw [hbitmap, bitmap_cycles_acknowledge]

theorem dueBitmap?_split (m : Machine) (n : Nat) :
    (m.acknowledge.cycles n).dueBitmap?.or m.dueBitmap? = (m.cycles n).dueBitmap? := by
  have hsplit := due_split m n
  cases hlater : (m.acknowledge.cycles n).isDue with
  | true =>
    have hdue : (m.cycles n).isDue = true := hsplit.2 (.inr hlater)
    rw [dueBitmap?, dueBitmap?, dueBitmap?, if_pos hlater, if_pos hdue, bitmap_cycles_acknowledge,
      Option.some_or]
  | false =>
    have hdue : (m.cycles n).isDue = m.isDue := by
      rw [Bool.eq_iff_iff, hsplit, hlater]
      simp
    have hnone : (m.acknowledge.cycles n).dueBitmap? = none :=
      if_neg (by rw [hlater]; exact Bool.false_ne_true)
    rw [hnone, Option.none_or, dueBitmap?, dueBitmap?, hdue, bitmap_of_not_due hlater]

end Machine

namespace Frame

/-! ## One frame -/

/-- A frame whose host never fails. -/
theorem run_working (m : Machine) (n : Nat) (keys : Vector Bool 16) (traced : Bool) :
    run m n (Host.working keys traced : Host ε) =
      finish ((m.holding keys).cycles n)
        (if traced then some { taken := ((m.holding keys).traceLines n).reverse } else none)
        none := by
  rw [run_of_takesLines m rfl (Host.takesLines_working keys traced n)]
  cases traced with
  | false => rfl
  | true => simp [Host.working, TraceSink.grown]

section Working

variable (m : Machine) (n : Nat) (keys : Vector Bool 16) (traced : Bool)

theorem machine_run_working :
    (run m n (Host.working keys traced : Host ε)).machine =
      ((m.holding keys).cycles n).acknowledge := by
  rw [run_working, machine_finish]
  unfold finish
  cases hdue : ((m.holding keys).cycles n).isDue with
  | true => rfl
  | false =>
    -- the mark is gone already
    generalize (m.holding keys).cycles n = last at hdue
    obtain ⟨_, _, _, _, _, _, _, ⟨bitmap, due⟩, _, _⟩ := last
    cases hdue
    rfl

theorem traceLines_run_working :
    (run m n (Host.working keys traced : Host ε)).traceLines =
      if traced then (m.holding keys).traceLines n else [] := by
  rw [run_working, traceLines, trace_finish]
  cases traced with
  | false => rfl
  | true => exact List.reverse_reverse _

theorem bitmap_run_working :
    ((run m n (Host.working keys traced : Host ε)).offered.map Screen.bitmap).getLast? =
      ((m.holding keys).cycles n).dueBitmap? := by
  rw [offered_run m rfl (Host.takesLines_working keys traced n), Machine.dueBitmap?]
  split <;> rfl

/-- A frame whose host never fails succeeds, and its tone is that of the machine it leaves. -/
theorem tone_run_working :
    (run m n (Host.working keys traced : Host ε)).result = .ok () ∧
    (run m n (Host.working keys traced : Host ε)).tone =
      some (run m n (Host.working keys traced : Host ε)).machine.isSounding := by
  rw [run_working]
  unfold finish
  split <;> exact ⟨rfl, rfl⟩

/-- The next frame with the same keys begins right where this one has ended. -/
theorem holding_run_working :
    (run m n (Host.working keys traced : Host ε)).machine.holding keys =
      ((m.holding keys).cycles n).acknowledge := by
  have hkeypad : ((m.holding keys).cycles n).acknowledge.keypad = { keys := keys } :=
    Machine.keypad_cycles (m.holding keys) n
  rw [machine_run_working, Machine.holding_of_keypad hkeypad]

end Working

/-- A picture that is due is shown. -/
theorem offered_run_working_of_due {m : Machine} {n : Nat} {keys : Vector Bool 16} {traced : Bool}
    (h : ((m.holding keys).cycles n).isDue = true) :
    (run m n (Host.working keys traced : Host ε)).offered ≠ [] := by
  rw [offered_run m rfl (Host.takesLines_working keys traced n), if_pos h]
  exact List.cons_ne_nil _ _

/-! ## Frames in a row -/

/-- Frames of so many cycles, each with the machine that the one before has left. -/
def frames (m : Machine) (host : Host ε) : List Nat → List (Frame ε)
  | [] => []
  | n :: rest => run m n host :: frames (run m n host).machine host rest

variable (keys : Vector Bool 16) (traced : Bool)

theorem machine_frames (m : Machine) (n : Nat) (rest : List Nat) :
    (frames m (Host.working keys traced : Host ε) (n :: rest)).getLast?.map machine =
      some ((m.holding keys).cycles (n :: rest).sum).acknowledge := by
  induction rest generalizing m n with
  | nil =>
    rw [frames, frames, List.getLast?_singleton, Option.map_some, machine_run_working,
      List.sum_cons, List.sum_nil, Nat.add_zero]
  | cons k rest ih =>
    have hlater := ih (run m n (Host.working keys traced : Host ε)).machine k
    rw [holding_run_working, Machine.acknowledge_cycles, ← Machine.cycles_add] at hlater
    rw [frames, frames, List.getLast?_cons_cons, List.sum_cons, ← hlater, frames]

theorem traceLines_frames (m : Machine) (counts : List Nat) :
    (frames m (Host.working keys traced : Host ε) counts).flatMap traceLines =
      if traced then (m.holding keys).traceLines counts.sum else [] := by
  induction counts generalizing m with
  | nil => cases traced <;> rfl
  | cons n rest ih =>
    rw [frames, List.flatMap_cons, ih, traceLines_run_working, holding_run_working,
      Machine.traceLines_acknowledge, List.sum_cons, Machine.traceLines_add]
    cases traced <;> rfl

/-- The last picture of the frames is the one that the whole of their cycles leaves to be shown. -/
theorem bitmap_frames (m : Machine) (n : Nat) (rest : List Nat) :
    ((frames m (Host.working keys traced : Host ε) (n :: rest)).flatMap
        fun f => f.offered.map Screen.bitmap).getLast? =
      ((m.holding keys).cycles (n :: rest).sum).dueBitmap? := by
  induction rest generalizing m n with
  | nil =>
    rw [frames, frames, List.flatMap_cons, List.flatMap_nil, List.append_nil, bitmap_run_working,
      List.sum_cons, List.sum_nil, Nat.add_zero]
  | cons k rest ih =>
    have hlater := ih (run m n (Host.working keys traced : Host ε)).machine k
    rw [holding_run_working] at hlater
    rw [List.sum_cons, frames, List.flatMap_cons, List.getLast?_append, hlater,
      bitmap_run_working, Machine.dueBitmap?_split, ← Machine.cycles_add]

theorem tone_of_mem_frames {m : Machine} {counts : List Nat} {f : Frame ε}
    (h : f ∈ frames m (Host.working keys traced) counts) :
    f.result = .ok () ∧ f.tone = some f.machine.isSounding := by
  induction counts generalizing m with
  | nil => cases h
  | cons n rest ih =>
    rcases List.mem_cons.1 h with rfl | hrest
    · exact tone_run_working m n keys traced
    · exact ih hrest

/-- Frames in a row with the same keys and a host that never fails come to the same as one frame of
all their cycles. The machine they leave is the same in every part, and so are the lines of their
traces one after the other and the last tone. They show a picture if the whole frame shows one, and
then the last one has the same pixels. -/
theorem frames_agree_with_sum (m : Machine) (n : Nat) (rest : List Nat) :
    let host : Host ε := Host.working keys traced
    let split := frames m host (n :: rest)
    let whole := run m (n :: rest).sum host
    (whole.result = .ok () ∧ ∀ f ∈ split, f.result = .ok ()) ∧
    split.getLast?.map machine = some whole.machine ∧
    split.flatMap traceLines = whole.traceLines ∧
    split.getLast?.bind tone = whole.tone ∧
    (split.flatMap offered ≠ [] ↔ whole.offered ≠ []) ∧
    (split.flatMap offered).getLast?.map Screen.bitmap =
      whole.offered.getLast?.map Screen.bitmap := by
  intro host split whole
  have hmachine : split.getLast?.map machine = some whole.machine :=
    (machine_frames keys traced m n rest).trans
      (congrArg some (machine_run_working m _ keys traced).symm)
  have hwhole : whole.result = .ok () ∧ whole.tone = some whole.machine.isSounding :=
    tone_run_working m (n :: rest).sum keys traced
  have hbitmap : (split.flatMap offered).getLast?.map Screen.bitmap =
      whole.offered.getLast?.map Screen.bitmap := by
    rw [← List.getLast?_map, ← List.getLast?_map, List.map_flatMap, bitmap_run_working]
    exact bitmap_frames keys traced m n rest
  refine ⟨⟨hwhole.1, fun f hf => (tone_of_mem_frames keys traced hf).1⟩, hmachine, ?_, ?_, ?_,
    hbitmap⟩
  · rw [traceLines_run_working]
    exact traceLines_frames keys traced m (n :: rest)
  · obtain ⟨last, hlast, hleft⟩ := Option.map_eq_some_iff.1 hmachine
    have htone := (tone_of_mem_frames keys traced (List.mem_of_getLast? hlast)).2
    rw [hlast, Option.bind_some, htone, hleft, hwhole.2]
  · have hshows (pictures : List Screen) :
        pictures ≠ [] ↔ pictures.getLast?.map Screen.bitmap ≠ none := by simp
    rw [hshows, hbitmap, ← hshows]

/-- Three cycles that clear the picture, set the index register and draw, in frames of one, none and
two cycles, and in one frame. -/
theorem frames_agree_with_sum_drawing :
    let m := ((Machine.powerOn Setup.standard).load [0x00, 0xE0, 0xA2, 0x00, 0xD0, 0x12]).acknowledge
    let keys := Vector.replicate 16 false
    let host : Host String := Host.working keys true
    let split := frames m host [1, 0, 2]
    let whole := run m [1, 0, 2].sum host
    (run m 1 host).result = .ok () ∧ split.getLast?.map machine = some whole.machine ∧
      split.flatMap traceLines = whole.traceLines ∧ split.flatMap offered ≠ [] := by
  intro m keys host split whole
  have hdue : ((m.holding keys).cycles [1, 0, 2].sum).isDue = true := by decide +kernel
  obtain ⟨⟨-, hok⟩, hmachine, hlines, -, hshown, -⟩ :=
    frames_agree_with_sum keys true m 1 [0, 2]
  exact ⟨hok (run m 1 host) List.mem_cons_self, hmachine, hlines,
    hshown.2 (offered_run_working_of_due hdue)⟩

end Frame

end Chip8
