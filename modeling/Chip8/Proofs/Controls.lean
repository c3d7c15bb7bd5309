import Chip8.Proofs.Plays
import Chip8.Proofs.Reboot

/-!
# Controls

Between two frames the player obeys the controls that wait, from the first one on. Each of them can
end it: a quit does, a pause if the display does not take the new status, and a reboot if the
program cannot be loaded. Up to there the order hardly matters: the pauses turn the mark over and
over, so that their number decides, and of the reboots the last one decides, whatever the machine
was before.

Results:
* `followed_cons`: what a batch comes to that does not end the player, one control after the other.
* `obey_append`: controls that do not end the player are followed, and those after them are obeyed
  from there.
* `turn_of_goes_on`, `turn_of_first`: a turn by the first control that ends the player, if there is
  one.
* `controls_obeyed_in_order`: all of this for a turn, and for the play that the turn may end.
-/

namespace Chip8.Play.Player

open Terminal (View)

variable {ε : Type}

/-! ## Batches -/

/-- The statuses that so many pauses show, one after the other. -/
def pauseStatuses (meter : RateMeter) : (paused : Bool) → (count : Nat) → List String
  | _, 0 => []
  | paused, count + 1 => meter.statusLine (!paused) :: pauseStatuses meter (!paused) count

/-- How many pauses there are in a batch. -/
def pauses (batch : List (Control × Circumstance ε)) : Nat := (batch.map Prod.fst).count .pause

/-- The file that the last reboot of a batch loads, if there is a reboot. -/
def lastReload? (batch : List (Control × Circumstance ε)) : Option ProgramFile :=
  (batch.filterMap reloadOf?).getLast?

/-- What a batch of controls comes to as long as none of them ends the player: its pauses turn the
mark over and show their statuses, and of its reboots there is the last one. -/
def followed (p : Player) (batch : List (Control × Circumstance ε)) : Player :=
  { p with
    machine := match lastReload? batch with
      | none => p.machine
      | some file => (p.machine.reboot p.path file).1
    paused := p.paused ^^ decide (pauses batch % 2 = 1)
    view := (pauseStatuses p.meter p.paused (pauses batch)).foldl View.setStatus p.view }

@[simp] theorem followed_nil (p : Player) :
    p.followed ([] : List (Control × Circumstance ε)) = p := by
  simp [followed, pauses, lastReload?, pauseStatuses]

@[simp] theorem pauses_pause (c : Circumstance ε) (rest : List (Control × Circumstance ε)) :
    pauses ((.pause, c) :: rest) = pauses rest + 1 := by
  simp [pauses]

@[simp] theorem pauses_reboot (c : Circumstance ε) (rest : List (Control × Circumstance ε)) :
    pauses ((.reboot, c) :: rest) = pauses rest := by
  simp [pauses]

@[simp] theorem lastReload?_pause (c : Circumstance ε) (rest : List (Control × Circumstance ε)) :
    lastReload? ((.pause, c) :: rest) = lastReload? rest := rfl

@[simp] theorem lastReload?_reboot (c : Circumstance ε) (rest : List (Control × Circumstance ε)) :
    lastReload? ((.reboot, c) :: rest) = some ((lastReload? rest).getD c.file) :=
  List.getLast?_cons

theorem followed_pause (p : Player) (c : Circumstance ε)
    (rest : List (Control × Circumstance ε)) :
    p.followed ((.pause, c) :: rest) =
      ({ p with paused := !p.paused }.showStatus (none : Option (DisplayFailure ε))).1.followed
        rest := by
  have hparity : (p.paused ^^ decide ((pauses rest + 1) % 2 = 1)) =
      (!p.paused ^^ decide (pauses rest % 2 = 1)) := by
    rcases Nat.mod_two_eq_zero_or_one (pauses rest) with h | h <;> simp [Nat.add_mod, h]
  simp only [followed, pauses_pause, lastReload?_pause, hparity]
  rfl

/-- A reboot that is followed by another one has been for nothing. -/
theorem followed_reboot (p : Player) (c : Circumstance ε)
    (rest : List (Control × Circumstance ε)) :
    p.followed ((.reboot, c) :: rest) =
      { p with machine := (p.machine.reboot p.path c.file).1 }.followed rest := by
  simp only [followed, pauses_reboot, lastReload?_reboot]
  cases lastReload? rest with
  | none => rfl
  | some file => simp only [Option.getD_some, Machine.reboot_reboot]

/-- A control that does not end the player is obeyed, and the batch goes on from there. -/
theorem followed_cons (p : Player) {c : Control × Circumstance ε} (hc : ¬Ends c)
    (rest : List (Control × Circumstance ε)) :
    p.followed (c :: rest) = (p.obeyOne c).1.followed rest := by
  obtain ⟨control, file, failure⟩ := c
  cases control with
  | quit => exact absurd trivial hc
  | pause =>
    obtain rfl : failure = none := Option.not_isSome_iff_eq_none.1 hc
    exact followed_pause p _ rest
  | reboot =>
    cases file with
    | contents image =>
      rw [obeyOne_reboot_of_contents rfl]
      exact followed_reboot p _ rest
    | missing | unreadable reason => exact absurd rfl hc

/-- Controls that do not end the player are followed, and the others are obeyed after them. -/
theorem obey_append {before : List (Control × Circumstance ε)} (hgoes : ∀ c ∈ before, ¬Ends c)
    (later : List (Control × Circumstance ε)) (p : Player) :
    obey (before ++ later) p = obey later (p.followed before) := by
  induction before generalizing p with
  | nil => rw [followed_nil, List.nil_append]
  | cons c rest ih =>
    obtain ⟨hc, hrest⟩ := List.forall_mem_cons.1 hgoes
    rw [List.cons_append, obey_of_not_ends hc, ih hrest, followed_cons p hc]

theorem machine_followed_of_some {batch : List (Control × Circumstance ε)} {file : ProgramFile}
    (h : lastReload? batch = some file) (p : Player) :
    (p.followed batch).machine = (p.machine.reboot p.path file).1 := by
  simp only [followed, h]

theorem machine_followed_of_none {batch : List (Control × Circumstance ε)}
    (h : lastReload? batch = none) (p : Player) : (p.followed batch).machine = p.machine := by
  simp only [followed, h]

theorem setup_followed (p : Player) (batch : List (Control × Circumstance ε)) :
    (p.followed batch).machine.setup = p.machine.setup := by
  cases h : lastReload? batch with
  | none => rw [machine_followed_of_none h]
  | some file => rw [machine_followed_of_some h, Machine.setup_reboot]

theorem paused_followed_ne_iff (p : Player) (batch : List (Control × Circumstance ε)) :
    (p.followed batch).paused ≠ p.paused ↔ pauses batch % 2 = 1 := by
  rw [followed]
  cases p.paused <;> simp

/-- A batch has a reboot that is the last one exactly if it has a reboot. -/
theorem lastReload?_eq_none_iff (batch : List (Control × Circumstance ε)) :
    lastReload? batch = none ↔ .reboot ∉ batch.map Prod.fst := by
  rw [lastReload?, List.getLast?_eq_none_iff, List.filterMap_eq_nil_iff]
  constructor
  · rintro h hmem
    obtain ⟨⟨_, c⟩, hc, rfl⟩ := List.mem_map.1 hmem
    exact Option.some_ne_none _ (h _ hc)
  · rintro h ⟨control, c⟩ hc
    cases control with
    | quit | pause => rfl
    | reboot => exact absurd (List.mem_map_of_mem hc) h

/-- A reboot that does not end the player has found a program. -/
theorem exists_contents_of_lastReload {batch : List (Control × Circumstance ε)}
    (hgoes : ∀ c ∈ batch, ¬Ends c) {file : ProgramFile} (h : lastReload? batch = some file) :
    ∃ image, file = .contents image := by
  obtain ⟨⟨control, c⟩, hc, hfile⟩ := List.mem_filterMap.1 (List.mem_of_getLast? h)
  cases control with
  | quit | pause => cases hfile
  | reboot =>
    cases hfile
    have hread := hgoes _ hc
    cases hcontents : c.file with
    | contents image => exact ⟨image, rfl⟩
    | missing | unreadable reason => exact absurd (congrArg ProgramFile.isReadable hcontents) hread

/-! ## Controls that end the player -/

theorem ends_reboot_of_error {path : String} {c : Circumstance ε} {e : LoadError}
    (h : c.file.image path = .error e) : Ends (.reboot, c) := by
  obtain ⟨file, failure⟩ := c
  cases file with
  | contents image => cases h
  | missing | unreadable reason => rfl

theorem obeyOne_reboot_of_error {p : Player} {c : Circumstance ε} {e : LoadError}
    (h : c.file.image p.path = .error e) :
    p.obeyOne (.reboot, c) =
      ({ p with machine := Machine.powerOn p.machine.setup },
        some (.error (.reload p.path e))) := by
  obtain ⟨file, failure⟩ := c
  cases file with
  | contents image => cases h
  | missing | unreadable reason =>
    cases h
    rfl

theorem ends_of_displayFailure {control : Control} (hdraws : control ≠ .reboot)
    {c : Circumstance ε} {f : DisplayFailure ε} (h : c.displayFailure = some f) :
    Ends (control, c) := by
  cases control with
  | quit => trivial
  | pause => exact Option.isSome_of_eq_some h
  | reboot => exact absurd rfl hdraws

/-- A display that fails ends the player with its error. The machine is left alone, and a pause has
been turned over. -/
theorem obeyOne_of_displayFailure (p : Player) {control : Control} (hdraws : control ≠ .reboot)
    {c : Circumstance ε} {f : DisplayFailure ε} (h : c.displayFailure = some f) :
    (p.obeyOne (control, c)).2 = some (.error (.host f.error)) ∧
    (p.obeyOne (control, c)).1.machine = p.machine ∧
    (p.obeyOne (control, c)).1.view.surface = f.left ∧
    ((p.obeyOne (control, c)).1.paused ≠ p.paused ↔ control = .pause) := by
  obtain ⟨file, failure⟩ := c
  obtain rfl : failure = some f := h
  cases control with
  | quit => exact ⟨rfl, rfl, rfl, iff_of_false (not_not_intro rfl) nofun⟩
  | pause => exact ⟨rfl, rfl, rfl, iff_of_true (Bool.not_eq_self p.paused).1 rfl⟩
  | reboot => exact absurd rfl hdraws

/-! ## Turns -/

variable {p : Player} {w : Moment ε} {done : Unit}

theorem setup_frame (p : Player) (w : Moment ε) : (p.frame w).machine.setup = p.machine.setup :=
  Machine.setup_after p.machine [.frame p.cyclesToRun.toNat (p.host w)]

theorem fst_batch (p : Player) (w : Moment ε) :
    (p.batch w).map Prod.fst = (p.poll w).2.controls := by
  simp [batch, Function.comp_def]

theorem obeyed_of_append {before later : List (Control × Circumstance ε)}
    (hbatch : p.batch w = before ++ later) (hgoes : ∀ c ∈ before, ¬Ends c) :
    p.obeyed w = obey later ((p.drained w).followed before) := by
  rw [obeyed, hbatch, obey_append hgoes]

/-- No control ends the player: they are followed, and the frame is counted. -/
theorem turn_of_goes_on (hok : (p.frame w).result = .ok done)
    (hgoes : ∀ c ∈ p.batch w, ¬Ends c) :
    let counted := ((p.drained w).followed (p.batch w)).measure w.recordedAt p.cyclesToRun
      w.ratesFailure
    p.turn w =
      { player := counted.1, shown := (p.frame w).shown, trace := (p.frame w).traceLines
        ended := counted.2 } := by
  have hobeyed : p.obeyed w = ((p.drained w).followed (p.batch w), none) :=
    obeyed_of_append (List.append_nil (p.batch w)).symm hgoes
  rw [turn_of_ok hok, conclude_of_none (congrArg Prod.snd hobeyed), hobeyed]

/-- There is a first control that ends the player: those before it are followed, and it is
obeyed. -/
theorem turn_of_first (hok : (p.frame w).result = .ok done)
    {before later : List (Control × Circumstance ε)} {c : Control × Circumstance ε}
    (hbatch : p.batch w = before ++ c :: later) (hgoes : ∀ b ∈ before, ¬Ends b) (hc : Ends c) :
    let left := (p.drained w).followed before
    p.turn w =
      { player := (left.obeyOne c).1, shown := (p.frame w).shown, trace := (p.frame w).traceLines
        ended := (left.obeyOne c).2 } := by
  intro left
  have hobeyed : p.obeyed w = left.obeyOne c := by
    rw [obeyed_of_append hbatch hgoes, obey_of_ends hc]
  have hended : (p.obeyed w).2 ≠ none := by
    rw [hobeyed, ne_eq, snd_obeyOne_eq_none_iff]
    exact not_not_intro hc
  rw [turn_of_ok hok, conclude_of_ne_none hended, hobeyed]

/-- The first control that ends the player is a quit, and the display is emptied. -/
theorem turn_of_quit (hok : (p.frame w).result = .ok done)
    {before later : List (Control × Circumstance ε)} {c : Circumstance ε}
    (hbatch : p.batch w = before ++ (.quit, c) :: later) (hgoes : ∀ b ∈ before, ¬Ends b)
    (hworks : c.displayFailure = none) :
    let left := (p.drained w).followed before
    p.turn w =
      { player := { left with view := left.view.clear }
        shown := (p.frame w).shown, trace := (p.frame w).traceLines, ended := some (.ok ()) } := by
  intro left
  have hquit : left.obeyOne (.quit, c) =
      ({ left with view := left.view.clear }, some (.ok ())) := by
    simp only [obeyOne, hworks]
    rfl
  have hturn : p.turn w = _ := turn_of_first hok hbatch hgoes trivial
  rw [hturn, hquit]

/-- The first control that ends the player is a reboot. -/
theorem turn_of_reboot (hok : (p.frame w).result = .ok done)
    {before later : List (Control × Circumstance ε)} {c : Circumstance ε} {e : LoadError}
    (hbatch : p.batch w = before ++ (.reboot, c) :: later) (hgoes : ∀ b ∈ before, ¬Ends b)
    (he : c.file.image p.path = .error e) :
    p.turn w =
      { player := { (p.drained w).followed before with
          machine := Machine.powerOn p.machine.setup }
        shown := (p.frame w).shown, trace := (p.frame w).traceLines
        ended := some (.error (.reload p.path e)) } := by
  have hsetup : ((p.drained w).followed before).machine.setup = p.machine.setup :=
    (setup_followed (p.drained w) before).trans (setup_frame p w)
  have hturn : p.turn w = _ := turn_of_first hok hbatch hgoes (ends_reboot_of_error he)
  rw [hturn, obeyOne_reboot_of_error (p := (p.drained w).followed before) he, hsetup]
  rfl

/-- A batch either has no control that ends the player, or there is a first one. -/
theorem goes_on_or_first (batch : List (Control × Circumstance ε)) :
    (∀ c ∈ batch, ¬Ends c) ∨
      ∃ before c later, batch = before ++ c :: later ∧ (∀ b ∈ before, ¬Ends b) ∧ Ends c := by
  induction batch with
  | nil => exact .inl nofun
  | cons c rest ih =>
    by_cases hc : Ends c
    · exact .inr ⟨[], c, rest, rfl, nofun, hc⟩
    · rcases ih with hrest | ⟨before, d, later, rfl, hbefore, hd⟩
      · exact .inl (List.forall_mem_cons.2 ⟨hc, hrest⟩)
      · exact .inr ⟨c :: before, d, later, rfl, List.forall_mem_cons.2 ⟨hc, hbefore⟩, hd⟩

theorem ended_ne_none_of_ends (hok : (p.frame w).result = .ok done)
    (h : ∃ c ∈ p.batch w, Ends c) : (p.turn w).ended ≠ none := by
  rcases goes_on_or_first (p.batch w) with hnone | ⟨before, c, later, hbatch, hbefore, hc⟩
  · obtain ⟨c, hmem, hc⟩ := h
    exact absurd hc (hnone c hmem)
  · rw [turn_of_first hok hbatch hbefore hc, ne_eq, snd_obeyOne_eq_none_iff]
    exact not_not_intro hc

/-- Counting a frame ends the player exactly if new rates are due and the display fails. -/
theorem snd_measure (p : Player) (now : Time) (cycles : UInt32)
    (failure : Option (DisplayFailure ε)) :
    (p.measure now cycles failure).2 =
      (p.meter.record now cycles).1.bind fun _ =>
        failure.map fun f => .error (.host f.error) := by
  rcases hrecord : p.meter.record now cycles with ⟨window, meter⟩
  cases window <;> simp only [measure, hrecord] <;> rfl

theorem paused_turn_ne_iff (hok : (p.frame w).result = .ok done)
    (hgoes : ∀ c ∈ p.batch w, ¬Ends c) :
    (p.turn w).player.paused ≠ p.paused ↔ (p.poll w).2.controls.count .pause % 2 = 1 := by
  rw [turn_of_goes_on hok hgoes, paused_measure, ← fst_batch]
  exact paused_followed_ne_iff (p.drained w) (p.batch w)

theorem machine_turn_of_reboot_mem (hok : (p.frame w).result = .ok done)
    (hgoes : ∀ c ∈ p.batch w, ¬Ends c) (hreboot : .reboot ∈ (p.poll w).2.controls) :
    ∃ image, lastReload? (p.batch w) = some (.contents image) ∧
      (p.turn w).player.machine = (Machine.powerOn p.machine.setup).load image := by
  have hsome : lastReload? (p.batch w) ≠ none := by
    rw [ne_eq, lastReload?_eq_none_iff, fst_batch]
    exact not_not_intro hreboot
  obtain ⟨file, hlast⟩ := Option.ne_none_iff_exists'.1 hsome
  obtain ⟨image, rfl⟩ := exists_contents_of_lastReload hgoes hlast
  refine ⟨image, hlast, ?_⟩
  have hsetup : (p.drained w).machine.setup = p.machine.setup := setup_frame p w
  rw [turn_of_goes_on hok hgoes, machine_measure, machine_followed_of_some hlast,
    Machine.reboot_machine, hsetup]

theorem machine_turn_of_reboot_not_mem (hok : (p.frame w).result = .ok done)
    (hgoes : ∀ c ∈ p.batch w, ¬Ends c) (hreboot : .reboot ∉ (p.poll w).2.controls) :
    (p.turn w).player.machine = (p.frame w).machine := by
  have hnone : lastReload? (p.batch w) = none := by
    rw [lastReload?_eq_none_iff, fst_batch]
    exact hreboot
  rw [turn_of_goes_on hok hgoes, machine_measure, machine_followed_of_none hnone]
  rfl

theorem ended_turn_of_goes_on (hok : (p.frame w).result = .ok done)
    (hgoes : ∀ c ∈ p.batch w, ¬Ends c) :
    (p.turn w).ended =
      (p.meter.record w.recordedAt p.cyclesToRun).1.bind fun _ =>
        w.ratesFailure.map fun f => .error (.host f.error) := by
  rw [turn_of_goes_on hok hgoes, snd_measure]
  rfl

end Chip8.Play.Player
