import Chip8.Play.Player
import Chip8.Proofs.Core

/-!
# Plays

A play is one turn of the player after the other, up to the one that ends it. Of all that happens in
a play only two things reach the program: the frames of the turns that are not paused, and the
reboots. A paused turn polls the keyboard and shows the picture like any other, but what it leaves
behind is passed over by the next frame.

Results:
* `machine_obey`: of the waiting controls, the machine notices the reboots.
* `core_turn`, `trace_turn_eq_tracedIn`: what a turn does to the machine and what it writes, by its
  actions.
* `pauses_pass_unnoticed`: after a play the machine is where the actions of its turns lead, and two
  plays with the same actions lead to the same machine and the same trace.
-/

namespace Chip8.Play.Player

open Terminal (View)

variable {ε : Type}

/-! ## Obeying controls -/

/-- The controls that end the player: quitting, a pause that the display does not show, and a reboot
if the program cannot be loaded. -/
def Ends : Control × Circumstance ε → Prop
  | (.quit, _) => True
  | (.pause, c) => c.displayFailure.isSome
  | (.reboot, c) => c.file.isReadable = false

instance : DecidablePred (Ends : Control × Circumstance ε → Prop)
  | (.quit, _) => inferInstanceAs (Decidable True)
  | (.pause, c) => inferInstanceAs (Decidable (c.displayFailure.isSome = true))
  | (.reboot, c) => inferInstanceAs (Decidable (c.file.isReadable = false))

theorem snd_obeyOne_eq_none_iff (p : Player) (c : Control × Circumstance ε) :
    (p.obeyOne c).2 = none ↔ ¬Ends c := by
  obtain ⟨control, c⟩ := c
  cases control with
  | quit => exact iff_of_false (Option.some_ne_none _) (not_not_intro trivial)
  | pause => rw [obeyOne, snd_showStatus_eq_none_iff, Ends, Option.not_isSome_iff_eq_none]
  | reboot =>
    obtain ⟨file, failure⟩ := c
    cases file with
    | contents image => exact iff_of_true rfl Bool.noConfusion
    | missing | unreadable reason => exact iff_of_false (Option.some_ne_none _) (not_not_intro rfl)

theorem obeyOne_reboot_of_contents {c : Circumstance ε} {image : List UInt8}
    (h : c.file = .contents image) (p : Player) :
    p.obeyOne (.reboot, c) =
      ({ p with machine := (p.machine.reboot p.path (.contents image)).1 }, none) := by
  obtain ⟨file, failure⟩ := c
  obtain rfl : file = .contents image := h
  rfl

theorem obey_of_ends {c : Control × Circumstance ε} (h : Ends c)
    (rest : List (Control × Circumstance ε)) (p : Player) : obey (c :: rest) p = p.obeyOne c := by
  rw [obey]
  split
  · next next hnone =>
    exact absurd h ((snd_obeyOne_eq_none_iff p c).1 (congrArg Prod.snd hnone))
  · rfl

theorem obey_of_not_ends {c : Control × Circumstance ε} (h : ¬Ends c)
    (rest : List (Control × Circumstance ε)) (p : Player) :
    obey (c :: rest) p = obey rest (p.obeyOne c).1 := by
  have hnone := (snd_obeyOne_eq_none_iff p c).2 h
  rw [obey]
  split
  · next next hnext => rw [hnext]
  · next hended => exact (hended _ (Prod.ext rfl hnone)).elim

/-- The file that a control has loaded, if it is a reboot. -/
def reloadOf? : Control × Circumstance ε → Option ProgramFile
  | (.reboot, c) => some c.file
  | _ => none

/-- The machine notices the reboots among the controls only. -/
theorem machine_obeyOne (p : Player) (c : Control × Circumstance ε) :
    (p.obeyOne c).1.machine =
      p.machine.after ((reloadOf? c).toList.map (.reboot p.path : ProgramFile → Action ε)) := by
  obtain ⟨control, c⟩ := c
  cases control with
  | quit | pause => rfl
  | reboot =>
    obtain ⟨file, failure⟩ := c
    cases file <;> rfl

theorem path_obeyOne (p : Player) (c : Control × Circumstance ε) :
    (p.obeyOne c).1.path = p.path := by
  obtain ⟨control, c⟩ := c
  cases control with
  | quit | pause => rfl
  | reboot =>
    rw [obeyOne]
    split <;> rfl

/-! ## A turn, by the result of its frame -/

theorem turn_of_error {p : Player} {w : Moment ε} {e : ε} (h : (p.frame w).result = .error e) :
    p.turn w =
      { player := p.afterFrame w, shown := (p.frame w).shown, trace := (p.frame w).traceLines,
        ended := some (.error (.host e)) } := by
  simp only [turn, h]

theorem turn_of_ok {p : Player} {w : Moment ε} {done : Unit} (h : (p.frame w).result = .ok done) :
    p.turn w =
      { player := (p.conclude w).1, shown := (p.frame w).shown, trace := (p.frame w).traceLines,
        ended := (p.conclude w).2 } := by
  simp only [turn, h]

theorem trace_turn (p : Player) (w : Moment ε) : (p.turn w).trace = (p.frame w).traceLines := rfl

/-- The player when it has obeyed the controls of a turn, and its ending if they come to one. -/
def obeyed (p : Player) (w : Moment ε) : Player × Option (Ending ε) :=
  obey (p.batch w) (p.drained w)

theorem conclude_of_none {p : Player} {w : Moment ε} (h : (p.obeyed w).2 = none) :
    p.conclude w = (p.obeyed w).1.measure w.recordedAt p.cyclesToRun w.ratesFailure := by
  unfold conclude
  split
  · next next hobeyed => rw [obeyed, hobeyed]
  · next hended => exact (hended _ (Prod.ext rfl h)).elim

theorem conclude_of_ne_none {p : Player} {w : Moment ε} (h : (p.obeyed w).2 ≠ none) :
    p.conclude w = p.obeyed w := by
  unfold conclude
  split
  · next next hobeyed => exact absurd (congrArg Prod.snd hobeyed) h
  · rfl

/-! ## The actions of a turn -/

/-- The controls that are obeyed: those up to the first one that ends the player, which is one of
them. -/
def heeded : List (Control × Circumstance ε) → List (Control × Circumstance ε)
  | [] => []
  | c :: rest => c :: if Ends c then [] else heeded rest

/-- The files that the reboots of a turn load. After a frame that has failed there are none. -/
def reloads (p : Player) (w : Moment ε) : List ProgramFile :=
  match (p.frame w).result with
  | .ok _ => (heeded (p.batch w)).filterMap reloadOf?
  | .error _ => []

/-- How many reboots there are in a turn. -/
def reboots (p : Player) (w : Moment ε) : Nat := (p.reloads w).length

/-- The frame of a turn as an action: the cycles of a frame with the keys of the turn, and its
trace. A paused turn has none. -/
def frameActions (p : Player) (w : Moment ε) : List (Action ε) :=
  if p.paused then []
  else [.frame p.cyclesPerFrame.toNat { p.host w with displayFailure := none }]

/-- The reboots of a turn as actions. -/
def rebootActions (p : Player) (w : Moment ε) : List (Action ε) :=
  (p.reloads w).map (.reboot p.path)

def actions (p : Player) (w : Moment ε) : List (Action ε) := p.frameActions w ++ p.rebootActions w

theorem cycle_not_mem_actions (p : Player) (w : Moment ε) : Action.cycle ∉ p.actions w := by
  simp only [actions, frameActions, rebootActions, List.mem_append, List.mem_map]
  split <;> simp

/-- Obeying the controls does nothing to the machine but reboot it. -/
theorem machine_obey (controls : List (Control × Circumstance ε)) (p : Player) :
    (obey controls p).1.machine =
      p.machine.after (((heeded controls).filterMap reloadOf?).map
        (.reboot p.path : ProgramFile → Action ε)) := by
  induction controls generalizing p with
  | nil => rfl
  | cons c rest ih =>
    have hcons (later : List (Control × Circumstance ε)) :
        (c :: later).filterMap reloadOf? = (reloadOf? c).toList ++ later.filterMap reloadOf? := by
      cases h : reloadOf? c <;> simp [h]
    rw [heeded, hcons, List.map_append, Machine.after_append, ← machine_obeyOne]
    by_cases hends : Ends c
    · rw [obey_of_ends hends, if_pos hends]
      rfl
    · rw [obey_of_not_ends hends, if_neg hends, ih, path_obeyOne]

theorem machine_measure (p : Player) (now : Time) (cycles : UInt32)
    (failure : Option (DisplayFailure ε)) :
    (p.measure now cycles failure).1.machine = p.machine := by
  unfold measure
  split <;> rfl

theorem paused_measure (p : Player) (now : Time) (cycles : UInt32)
    (failure : Option (DisplayFailure ε)) : (p.measure now cycles failure).1.paused = p.paused := by
  unfold measure
  split <;> rfl

theorem machine_conclude (p : Player) (w : Moment ε) :
    (p.conclude w).1.machine = (p.obeyed w).1.machine := by
  by_cases h : (p.obeyed w).2 = none
  · rw [conclude_of_none h, machine_measure]
  · rw [conclude_of_ne_none h]

theorem machine_turn (p : Player) (w : Moment ε) :
    (p.turn w).player.machine = (p.frame w).machine.after (p.rebootActions w) := by
  cases h : (p.frame w).result with
  | error e =>
    rw [turn_of_error h, rebootActions, reloads, h]
    rfl
  | ok done =>
    rw [turn_of_ok h, rebootActions, reloads, h]
    exact (p.machine_conclude w).trans (machine_obey (p.batch w) (p.drained w))

/-! ## Paused turns -/

theorem frame_of_paused {p : Player} (h : p.paused = true) (w : Moment ε) :
    p.frame w = Frame.run p.machine 0 (p.host w) := by
  rw [frame, cyclesToRun_of_paused h]
  rfl

theorem frame_of_not_paused {p : Player} (h : p.paused = false) (w : Moment ε) :
    p.frame w = Frame.run p.machine p.cyclesPerFrame.toNat (p.host w) := by
  rw [frame, cyclesToRun, h]
  rfl

/-- The frame of a turn and its action come to the same: a paused frame to nothing at all. -/
theorem core_frame (p : Player) (w : Moment ε) :
    (p.frame w).machine.core = (p.machine.after (p.frameActions w)).core := by
  cases hpaused : p.paused with
  | true =>
    rw [frame_of_paused hpaused, Frame.core_run_zero, frameActions, hpaused]
    rfl
  | false =>
    rw [frame_of_not_paused hpaused, ← Frame.core_run_of_display, frameActions, hpaused]
    rfl

theorem traceLines_frame (p : Player) (w : Moment ε) :
    (p.frame w).traceLines = p.machine.tracedIn (p.frameActions w) := by
  cases hpaused : p.paused with
  | true =>
    have hnone : (p.frame w).traceLines = [] := by
      rw [frame_of_paused hpaused, Frame.traceLines, Frame.trace_run_zero, host]
      cases p.tracing <;> rfl
    rw [hnone, frameActions, hpaused]
    rfl
  | false =>
    rw [frame_of_not_paused hpaused, Frame.traceLines, ← Frame.trace_run_of_display, frameActions,
      hpaused]
    exact (List.append_nil _).symm

/-! ## Turns and plays -/

theorem tracedIn_rebootActions (m : Machine) (p : Player) (w : Moment ε) :
    m.tracedIn (p.rebootActions w) = [] := by
  unfold rebootActions
  induction p.reloads w generalizing m with
  | nil => rfl
  | cons file rest ih => exact ih _

/-- A turn leads where its actions lead. -/
theorem core_turn (p : Player) (w : Moment ε) :
    (p.turn w).player.machine.core = (p.machine.after (p.actions w)).core := by
  have hreboots : Action.cycle ∉ p.rebootActions w :=
    fun h => p.cycle_not_mem_actions w (List.mem_append_right _ h)
  rw [machine_turn, actions, Machine.after_append]
  exact Machine.core_after_congr hreboots (p.core_frame w)

/-- A turn writes what its actions write. -/
theorem trace_turn_eq_tracedIn (p : Player) (w : Moment ε) :
    (p.turn w).trace = p.machine.tracedIn (p.actions w) := by
  rw [trace_turn, traceLines_frame, actions, Machine.tracedIn_append, tracedIn_rebootActions,
    List.append_nil]

/-- The turns of a play, each with the player before it. The one that ends the player is the
last. -/
def turns (p : Player) : List (Moment ε) → List (Player × Moment ε)
  | [] => []
  | w :: rest =>
    (p, w) :: if (p.turn w).ended.isSome then [] else turns (p.turn w).player rest

/-- The player when a play is over. -/
def play (p : Player) : List (Moment ε) → Player
  | [] => p
  | w :: rest =>
    if (p.turn w).ended.isSome then (p.turn w).player else play (p.turn w).player rest

/-- The trace lines of a play. -/
def traceOf (p : Player) (ws : List (Moment ε)) : List String :=
  (p.turns ws).flatMap fun (before, w) => (before.turn w).trace

/-- The actions of a play: the frames of the turns that are not paused, and all reboots. -/
def actionsOf (p : Player) (ws : List (Moment ε)) : List (Action ε) :=
  (p.turns ws).flatMap fun (before, w) => before.actions w

theorem play_of_ended {p : Player} {w : Moment ε} (h : (p.turn w).ended.isSome = true)
    (rest : List (Moment ε)) : p.play (w :: rest) = (p.turn w).player := by
  rw [play, if_pos h]

theorem actionsOf_of_ended {p : Player} {w : Moment ε} (h : (p.turn w).ended.isSome = true)
    (rest : List (Moment ε)) : p.actionsOf (w :: rest) = p.actions w := by
  simp [actionsOf, turns, h]

theorem actionsOf_of_not_ended {p : Player} {w : Moment ε} (h : (p.turn w).ended.isSome = false)
    (rest : List (Moment ε)) :
    p.actionsOf (w :: rest) = p.actions w ++ (p.turn w).player.actionsOf rest := by
  simp [actionsOf, turns, h]

theorem traceOf_of_ended {p : Player} {w : Moment ε} (h : (p.turn w).ended.isSome = true)
    (rest : List (Moment ε)) : p.traceOf (w :: rest) = (p.turn w).trace := by
  simp [traceOf, turns, h]

theorem traceOf_of_not_ended {p : Player} {w : Moment ε} (h : (p.turn w).ended.isSome = false)
    (rest : List (Moment ε)) :
    p.traceOf (w :: rest) = (p.turn w).trace ++ (p.turn w).player.traceOf rest := by
  simp [traceOf, turns, h]

theorem cycle_not_mem_actionsOf (p : Player) (ws : List (Moment ε)) :
    Action.cycle ∉ p.actionsOf ws := by
  intro h
  obtain ⟨⟨before, w⟩, -, hcycle⟩ := List.mem_flatMap.1 h
  exact before.cycle_not_mem_actions w hcycle

theorem core_play (p : Player) (ws : List (Moment ε)) :
    (p.play ws).machine.core = (p.machine.after (p.actionsOf ws)).core := by
  induction ws generalizing p with
  | nil => rfl
  | cons w rest ih =>
    cases hended : (p.turn w).ended.isSome with
    | true =>
      rw [play_of_ended hended, actionsOf_of_ended hended]
      exact p.core_turn w
    | false =>
      rw [play, hended, actionsOf_of_not_ended hended, Machine.after_append]
      -- what the turn has left stands for what its actions lead to
      exact (ih _).trans (Machine.core_after_congr (cycle_not_mem_actionsOf _ rest) (p.core_turn w))

theorem traceOf_eq_tracedIn (p : Player) (ws : List (Moment ε)) :
    p.traceOf ws = p.machine.tracedIn (p.actionsOf ws) := by
  induction ws generalizing p with
  | nil => rfl
  | cons w rest ih =>
    cases hended : (p.turn w).ended.isSome with
    | true => rw [traceOf_of_ended hended, actionsOf_of_ended hended, trace_turn_eq_tracedIn]
    | false =>
      rw [traceOf_of_not_ended hended, actionsOf_of_not_ended hended, Machine.tracedIn_append,
        trace_turn_eq_tracedIn, ih,
        Machine.tracedIn_congr (cycle_not_mem_actionsOf _ rest) (p.core_turn w)]

/-- Whatever is pressed, and however long the player is paused: apart from its keys and its mark,
the machine after a play is the one that the frames of the turns that were not paused lead to, with
the reboots in between, and the trace is the trace of these frames. So two plays in which the same
frames and reboots reach the program lead to the same machine and the same trace. -/
theorem pauses_pass_unnoticed (p : Player) (ws : List (Moment ε)) :
    (p.play ws).machine.core = (p.machine.after (p.actionsOf ws)).core ∧
    p.traceOf ws = p.machine.tracedIn (p.actionsOf ws) ∧
    ∀ (q : Player) (vs : List (Moment ε)), q.machine.core = p.machine.core →
      q.actionsOf vs = p.actionsOf ws →
      (q.play vs).machine.core = (p.play ws).machine.core ∧ q.traceOf vs = p.traceOf ws := by
  refine ⟨core_play p ws, traceOf_eq_tracedIn p ws, ?_⟩
  intro q vs hcore hactions
  have hcycle := cycle_not_mem_actionsOf p ws
  constructor
  · rw [core_play, core_play, hactions]
    exact Machine.core_after_congr hcycle hcore
  · rw [traceOf_eq_tracedIn, traceOf_eq_tracedIn, hactions]
    exact Machine.tracedIn_congr hcycle hcore

deriving instance DecidableEq for TraceSink, Host, Action

/-- A key goes down and up again while the player is paused, before a reboot and a second frame;
and the same play without that key. -/
theorem pauses_pass_unnoticed_key_tapped :
    let m := Machine.powerOn (Setup.standard.withSeed 7)
    let working : Option (DisplayFailure String) := none
    let p := (start m (View.new 80 42 "wait") true 2 true "wait.ch8" 0 working).1
    let moment (time : Time) (events : List Event) : Moment String :=
      { polledAt := time, events := events, recordedAt := time
        atControl := fun _ => { file := .contents [0xC0, 0xFF, 0xF1, 0x0A] } }
    let pause := Event.key (.char 'p') .press
    let reboot := Event.key (.char 'b') .press
    let ws := [moment 0 [pause], moment 1 [.key (.char 'q') .press],
      moment 2 [.key (.char 'q') .release, reboot], moment 3 [pause], moment 4 []]
    let vs := [moment 0 [pause], moment 9 [reboot, pause], moment 10 []]
    (p.play (ws.take 2)).machine.keypad ≠ (p.play (vs.take 1)).machine.keypad ∧
    p.actionsOf vs = p.actionsOf ws ∧ (p.play vs).machine.core = (p.play ws).machine.core ∧
    p.traceOf vs = p.traceOf ws := by
  intro m working p moment pause reboot ws vs
  have hplays : (p.play (ws.take 2)).machine.keypad ≠ (p.play (vs.take 1)).machine.keypad ∧
      p.actionsOf vs = p.actionsOf ws := by
    decide +kernel
  have hsame := (pauses_pass_unnoticed p ws).2.2 p vs rfl hplays.2
  exact ⟨hplays.1, hplays.2, hsame⟩

end Chip8.Play.Player
