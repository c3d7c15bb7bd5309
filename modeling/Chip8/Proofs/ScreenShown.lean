import Chip8.Proofs.Picture
import Chip8.Proofs.Plays
import Chip8.Proofs.Redraw

/-!
# The terminal during a play

Two things are on the terminal: the picture that the display took last, and the status. A turn that
goes through leaves no picture waiting, unless it has rebooted the machine; and every change to what
the status says is followed by a redraw, with the picture that is there. So after each turn the
terminal shows the machine.

Results:
* `inStep_turn`: a turn that does not end the player keeps the terminal in step.
* `inStep_of_reaches`: so does a play, whatever chance brings.
* `screen_shows_machine`: the cells of the pixels, and the word for a paused player.
-/

namespace Chip8.Play

open Terminal (View gameColumn)

/-! ## The status -/

namespace RateMeter

/-- The rates that are shown stay as they are while the window is open. -/
theorem statusLine_of_record {r meter : RateMeter} {now : Time} {cycles : UInt32}
    (h : r.record now cycles = (none, meter)) (paused : Bool) :
    meter.statusLine paused = r.statusLine paused := by
  unfold record at h
  dsimp only at h
  split at h
  · cases h
    rfl
  · cases h

theorem not_mem_rounded {c : Char} (h : c.isDigit = false) (x : Float) :
    c ∉ (Text.rounded x).toList := by
  intro hc
  rw [Text.isDigit_of_mem_repr hc] at h
  cases h

/-- The status names a paused player, and it does so in no other way. -/
theorem paused_infix_statusLine_iff (r : RateMeter) (paused : Bool) :
    "[paused]".toList <:+: (r.statusLine paused).toList ↔ paused = true := by
  cases paused with
  | true =>
    refine iff_of_true ⟨(Text.rounded r.framesPerSecond ++ " fps  " ++
      Text.rounded r.cyclesPerSecond ++ " ips  ").toList, [], ?_⟩ rfl
    simp [statusLine]
  | false =>
    have ha : 'a' ∉ (r.statusLine false).toList := by
      simp [statusLine, not_mem_rounded (show 'a'.isDigit = false by decide)]
    refine iff_of_false (fun hword => ha (hword.subset ?_)) Bool.false_ne_true
    decide

end RateMeter

namespace Player

variable {ε : Type}

/-! ## The terminal and the machine -/

/-- The terminal shows the picture that the display took last, and that is the present one unless
it is still to be shown. -/
structure Mirrors (p : Player) (width height : Nat) : Prop where
  fits : p.view.Fits width height
  shows : ∀ g, p.view.picture = some g → p.view.Shows width g
  upToDate : ∃ last : Option Screen,
    p.view.picture = last.map Screen.bitmap ∧ p.machine.UpToDate last

/-- The terminal shows the picture taken last, and the status is the present one. -/
structure InStep (p : Player) (width height : Nat) : Prop extends p.Mirrors width height where
  status_eq : p.view.status = p.meter.statusLine p.paused

variable {p : Player} {width height : Nat}

/-- A new status leaves the picture where it is, if the display takes it. -/
theorem inStep_showStatus (h : p.Mirrors width height) (hh : 42 ≤ height)
    {failure : Option (DisplayFailure ε)} (hgoes : (p.showStatus failure).2 = none) :
    (p.showStatus failure).1.InStep width height := by
  obtain rfl := (snd_showStatus_eq_none_iff p failure).1 hgoes
  exact
    { fits := View.fits_setStatus h.fits hh _
      shows := fun _ hg => View.shows_setStatus h.fits hh _ hg
      upToDate := h.upToDate
      status_eq := rfl }

theorem inStep_start {m : Machine} (hdue : m.isDue = true) (hh : 42 ≤ height) {title : String}
    {releasesReported : Bool} {cyclesPerFrame : UInt32} {tracing : Bool} {path : String}
    {now : Time} {failure : Option (DisplayFailure ε)}
    (hstart : start m (View.new width height title) releasesReported cyclesPerFrame tracing path
      now failure = (p, none)) :
    p.InStep width height := by
  have hlast : m.UpToDate none := by
    intro hnot
    rw [hdue] at hnot
    cases hnot
  rw [show p = _ from (congrArg Prod.fst hstart).symm]
  exact inStep_showStatus
    { fits := View.fits_new width height title, shows := by rintro g ⟨⟩
      upToDate := ⟨none, rfl, hlast⟩ } hh (congrArg Prod.snd hstart)

/-! ## A turn -/

/-- What a frame that goes through leaves in view: what was there, or a picture that the display
took. -/
theorem view_afterFrame {w : Moment ε} {done : Unit} (hok : (p.frame w).result = .ok done) :
    (p.frame w).shown = none ∧ (p.afterFrame w).view = p.view ∨
      ∃ screen, (p.frame w).shown = some screen ∧
        (p.afterFrame w).view = p.view.present screen.bitmap := by
  obtain ⟨-, ⟨hshown, hoffered⟩ | ⟨screen, hshown, hoffered, hworks, -⟩⟩ := Frame.shows_of_ok hok
  · have hview : (p.afterFrame w).view = p.view := by
      rw [← frame] at hoffered
      simp only [afterFrame, hoffered]
    exact .inl ⟨hshown, hview⟩
  · have hview : (p.afterFrame w).view = p.view.present screen.bitmap := by
      rw [← frame] at hoffered
      simp only [afterFrame, hoffered, Option.map_eq_none_iff.1 hworks, drawnView]
    exact .inr ⟨screen, hshown, hview⟩

theorem inStep_afterFrame (h : p.InStep width height) (hh : 42 ≤ height) {w : Moment ε}
    {done : Unit} (hok : (p.frame w).result = .ok done) :
    (p.afterFrame w).InStep width height := by
  obtain ⟨last, hpicture, hlast⟩ := h.upToDate
  have hnext : (p.frame w).machine.UpToDate ((p.frame w).shown.or last) :=
    Frame.upToDate_run hlast _ _
  obtain ⟨hshown, hview⟩ | ⟨screen, hshown, hview⟩ := view_afterFrame hok
  · rw [hshown, Option.none_or] at hnext
    refine ⟨⟨?_, ?_, last, ?_, hnext⟩, ?_⟩ <;> rw [hview]
    · exact h.fits
    · exact h.shows
    · exact hpicture
    · exact h.status_eq
  · rw [hshown, Option.some_or] at hnext
    refine ⟨⟨?_, ?_, some screen, ?_, hnext⟩, ?_⟩ <;> rw [hview]
    · exact View.fits_present h.fits hh screen.bitmap
    · rintro g ⟨⟩
      exact View.shows_present h.fits hh screen.bitmap
    · rfl
    · exact h.status_eq

theorem inStep_obeyOne {c : Control × Circumstance ε} (h : p.InStep width height)
    (hh : 42 ≤ height) (hgoes : (p.obeyOne c).2 = none) :
    (p.obeyOne c).1.InStep width height := by
  obtain ⟨control, file, failure⟩ := c
  cases control with
  | quit => exact absurd hgoes (Option.some_ne_none _)
  | pause =>
    have hturned : Mirrors { p with paused := !p.paused } width height :=
      ⟨h.fits, h.shows, h.upToDate⟩
    rw [obeyOne] at hgoes ⊢
    exact inStep_showStatus hturned hh hgoes
  | reboot =>
    cases file with
    | contents image =>
      obtain ⟨last, hpicture, hlast⟩ := h.upToDate
      -- the picture of a machine that has just been rebooted is still to be shown
      have hnext : (p.machine.reboot p.path (.contents image)).1.UpToDate last :=
        Machine.upToDate_perform (a := (.reboot p.path (.contents image) : Action ε)) hlast
          (fun h => by cases h)
      rw [obeyOne_reboot_of_contents rfl]
      exact ⟨⟨h.fits, h.shows, last, hpicture, hnext⟩, h.status_eq⟩
    | missing | unreadable reason => cases hgoes

theorem inStep_obey {controls : List (Control × Circumstance ε)} (h : p.InStep width height)
    (hh : 42 ≤ height) (hgoes : (obey controls p).2 = none) :
    (obey controls p).1.InStep width height := by
  induction controls generalizing p with
  | nil => exact h
  | cons c rest ih =>
    have hnot : ¬Ends c := by
      intro hends
      rw [obey_of_ends hends, snd_obeyOne_eq_none_iff] at hgoes
      exact hgoes hends
    rw [obey_of_not_ends hnot] at hgoes ⊢
    exact ih (inStep_obeyOne h hh ((snd_obeyOne_eq_none_iff p c).2 hnot)) hgoes

theorem inStep_measure {now : Time} {cycles : UInt32} {failure : Option (DisplayFailure ε)}
    (h : p.InStep width height) (hh : 42 ≤ height)
    (hgoes : (p.measure now cycles failure).2 = none) :
    (p.measure now cycles failure).1.InStep width height := by
  rcases hrecord : p.meter.record now cycles with ⟨window, meter⟩
  have hcounted : Mirrors { p with meter := meter } width height := ⟨h.fits, h.shows, h.upToDate⟩
  cases window with
  | some window =>
    simp only [measure, hrecord] at hgoes ⊢
    exact inStep_showStatus hcounted hh hgoes
  | none =>
    simp only [measure, hrecord]
    exact ⟨hcounted, h.status_eq.trans (RateMeter.statusLine_of_record hrecord p.paused).symm⟩

theorem inStep_conclude {w : Moment ε} (h : (p.drained w).InStep width height)
    (hh : 42 ≤ height) (hgoes : (p.conclude w).2 = none) :
    (p.conclude w).1.InStep width height := by
  by_cases hobeyed : (p.obeyed w).2 = none
  · rw [conclude_of_none hobeyed] at hgoes ⊢
    exact inStep_measure (inStep_obey h hh hobeyed) hh hgoes
  · rw [conclude_of_ne_none hobeyed] at hgoes
    exact absurd hgoes hobeyed

theorem frame_ok_of_goes_on {w : Moment ε} (hgoes : (p.turn w).ended = none) :
    ∃ done, (p.frame w).result = .ok done := by
  cases h : (p.frame w).result with
  | error e =>
    rw [turn_of_error h] at hgoes
    cases hgoes
  | ok done => exact ⟨done, rfl⟩

theorem inStep_turn (h : p.InStep width height) (hh : 42 ≤ height) {w : Moment ε}
    (hgoes : (p.turn w).ended = none) : (p.turn w).player.InStep width height := by
  obtain ⟨done, hok⟩ := frame_ok_of_goes_on hgoes
  have hframe := inStep_afterFrame h hh hok
  rw [turn_of_ok hok] at hgoes ⊢
  exact inStep_conclude ⟨⟨hframe.fits, hframe.shows, hframe.upToDate⟩, hframe.status_eq⟩ hh hgoes

/-- After a turn without a reboot the machine is as its frame has left it, and no picture waits. -/
theorem not_due_turn {w : Moment ε} (hgoes : (p.turn w).ended = none)
    (hreboots : p.reboots w = 0) : (p.turn w).player.machine.isDue = false := by
  obtain ⟨done, hok⟩ := frame_ok_of_goes_on hgoes
  rw [machine_turn, rebootActions, List.eq_nil_of_length_eq_zero hreboots]
  exact (Frame.shows_of_ok hok).1

/-! ## A play -/

/-- The players that a play may come to. A turn that does not end the play leads from one to the
next, and as long as the setup has no seed the random stream may become any other. -/
inductive Reaches (ε : Type) (p : Player) : Player → Prop
  | start : Reaches ε p p
  | turn {q : Player} (w : Moment ε) :
    Reaches ε p q → (q.turn w).ended = none → Reaches ε p (q.turn w).player
  | reseed {q : Player} (key : Random.ChaCha.Key) :
    Reaches ε p q → Reaches ε p { q with machine := q.machine.reseed key }

theorem inStep_of_reaches {q : Player} (hq : p.Reaches ε q) (h : p.InStep width height)
    (hh : 42 ≤ height) : q.InStep width height := by
  induction hq with
  | start => exact h
  | turn w _ hgoes ih => exact inStep_turn ih hh hgoes
  | reseed key _ ih => exact ⟨⟨ih.fits, ih.shows, ih.upToDate⟩, ih.status_eq⟩

/-- On a terminal that is high enough the picture stands in columns that only the width of the
terminal decides on. After every turn that does not end the player and has not rebooted the machine
these cells show the machine's pixels, as far as the terminal is wide enough; and after every turn
that does not end the player the status says that the player is paused exactly if it is. -/
theorem screen_shows_machine (setup : Setup) (image : List UInt8) {width height : Nat}
    (hh : 42 ≤ height) (title : String) (releasesReported : Bool) (cyclesPerFrame : UInt32)
    (tracing : Bool) (path : String) (now : Time) (failure : Option (DisplayFailure ε)) {p : Player}
    (hstart : start ((Machine.powerOn setup).load image) (View.new width height title)
      releasesReported cyclesPerFrame tracing path now failure = (p, none))
    {q : Player} (hq : p.Reaches ε q) (w : Moment ε) (hgoes : (q.turn w).ended = none) :
    let after := (q.turn w).player
    (width ≤ 66 → gameColumn width = 0) ∧
    (q.reboots w = 0 → ∀ y < 32, ∀ x < min 64 (width - 2),
      after.view.surface.shown.cell (gameColumn width + 1 + x) (1 + y) =
        { symbol := if after.machine.screen.bitmap.pixel x y then '█' else ' '
          colour := .white }) ∧
    ("[paused]".toList <:+: after.view.status.toList ↔ after.paused = true) := by
  intro after
  have hdue : ((Machine.powerOn setup).load image).isDue = true := rfl
  have hfirst : p.InStep width height := inStep_start hdue hh hstart
  have hafter : after.InStep width height := inStep_turn (inStep_of_reaches hq hfirst hh) hh hgoes
  refine ⟨Terminal.gameColumn_of_le, fun hreboots y hy x hx => ?_, ?_⟩
  · obtain ⟨last, hpicture, hlast⟩ := hafter.upToDate
    obtain ⟨taken, rfl, hbitmap⟩ := hlast (not_due_turn hgoes hreboots)
    rw [← hbitmap]
    exact hafter.shows taken.bitmap hpicture x y (by omega) (by omega) hy
  · rw [hafter.status_eq]
    exact RateMeter.paused_infix_statusLine_iff after.meter after.paused

/-- A digit is drawn, the player is paused, and the machine is rebooted; and the turn after that,
which is a paused one and shows the dark picture of the new machine. -/
theorem screen_shows_machine_rebooted :
    let m := (Machine.powerOn Setup.standard).load [0xA1, 0xB0, 0xD0, 0x05]
    let working : Option (DisplayFailure String) := none
    let started := start m (View.new 80 42 "zero") true 2 false "zero.ch8" 0 working
    let p := started.1
    let moment (events : List Event) : Moment String :=
      { polledAt := 0, events := events, recordedAt := 0
        atControl := fun _ => { file := .contents [0xA1, 0xB0, 0xD0, 0x05] } }
    let pausing := moment [.key (.char 'p') .press]
    let rebooting := moment [.key (.char 'b') .press]
    let drawn := (p.turn pausing).player
    let rebooted := (drawn.turn rebooting).player
    let after := (rebooted.turn (moment [])).player
    started = (p, none) ∧
    (p.turn pausing).ended = none ∧ (drawn.turn rebooting).ended = none ∧
    (rebooted.turn (moment [])).ended = none ∧ drawn.reboots rebooting = 1 ∧
    drawn.machine.screen.bitmap.pixel 0 0 = true ∧
    drawn.view.surface.shown.cell 8 1 = { symbol := '█', colour := .white } ∧
    (∀ y < 32, ∀ x < 64, after.view.surface.shown.cell (8 + x) (1 + y) =
      { symbol := ' ', colour := .white }) ∧
    "[paused]".toList <:+: after.view.status.toList := by
  intro m working started p moment pausing rebooting drawn rebooted after
  have hplay : ((p.turn pausing).ended.isNone ∧ (drawn.turn rebooting).ended.isNone ∧
      (rebooted.turn (moment [])).ended.isNone) ∧
      (p.reboots pausing = 0 ∧ drawn.reboots rebooting = 1 ∧
        rebooted.reboots (moment []) = 0) ∧
      drawn.machine.screen.bitmap.pixel 0 0 = true ∧
      after.machine.screen.bitmap = Bitmap.dark ∧ after.paused = true := by
    decide +kernel
  simp only [Option.isNone_iff_eq_none] at hplay
  obtain ⟨⟨hpausing, hrebooting, hafter⟩, ⟨hnone, hone, hlater⟩, hlit, hdark, hpaused⟩ := hplay
  have hstarted : started = (p, none) := rfl
  have hreach : p.Reaches String rebooted :=
    (Reaches.start.turn pausing hpausing).turn rebooting hrebooting
  have hfirst := screen_shows_machine Setup.standard [0xA1, 0xB0, 0xD0, 0x05] (Nat.le_refl 42)
    "zero" true 2 false "zero.ch8" 0 working hstarted Reaches.start pausing hpausing
  have hlast := screen_shows_machine Setup.standard [0xA1, 0xB0, 0xD0, 0x05] (Nat.le_refl 42)
    "zero" true 2 false "zero.ch8" 0 working hstarted hreach (moment []) hafter
  refine ⟨hstarted, hpausing, hrebooting, hafter, hone, hlit, ?_, fun y hy x hx => ?_,
    hlast.2.2.2 hpaused⟩
  · have hcell := hfirst.2.1 hnone 0 (by decide) 0 (by decide)
    rw [if_pos hlit] at hcell
    exact hcell
  · have hpixel : after.machine.screen.bitmap.pixel x y = false := by
      rw [hdark, Bitmap.pixel_dark]
    have hcell := hlast.2.1 hlater y hy x (by omega)
    rw [hpixel] at hcell
    exact hcell

end Player

end Chip8.Play
