import Chip8.Proofs.WindowLength
import Mathlib.Algebra.GroupWithZero.Nat
import Mathlib.Data.List.Induction
import Mathlib.Tactic.Common

/-!
# Frames counted in windows

The meter counts frames and cycles in words that start over at each close. Beside it stands a ledger
that keeps the frames themselves: those of each window that has closed, and those of the window that
is still open. The two agree as long as no window has 2³² frames, since the cycles of a frame fit 32
bits, so that 64 bits have room for those of fewer than 2³² frames.

Results:
* `Balanced`, `balanced_record`, `balanced_after`: the ledger agrees with the meter, call by call.
* `isSome_record_iff`: when a call closes a window.
* `cyclesOf_le`: why the cycles fit their bits.
* `every_frame_counted_once`: all of this, and the totals.
-/

namespace Chip8.Play

/-- A frame as it is recorded: when it ended, and how many cycles it ran. -/
structure Recorded where
  time : Time
  cycles : UInt32
deriving DecidableEq

/-- The cycles of some frames together. -/
def cyclesOf (frames : List Recorded) : Nat := (frames.map fun f => f.cycles.toNat).sum

theorem cyclesOf_append (first second : List Recorded) :
    cyclesOf (first ++ second) = cyclesOf first + cyclesOf second := by
  rw [cyclesOf, List.map_append, List.sum_append]
  rfl

theorem cyclesOf_singleton (f : Recorded) : cyclesOf [f] = f.cycles.toNat := Nat.add_zero _

theorem cyclesOf_flatten (windows : List (List Recorded)) :
    cyclesOf windows.flatten = (windows.map cyclesOf).sum := by
  induction windows with
  | nil => rfl
  | cons window rest ih =>
    rw [List.flatten_cons, cyclesOf_append, ih, List.map_cons, List.sum_cons]

/-- No frame has more cycles than 32 bits can hold. -/
theorem cyclesOf_le (frames : List Recorded) : cyclesOf frames ≤ frames.length * 4294967295 := by
  induction frames with
  | nil => exact Nat.le_refl 0
  | cons f rest ih =>
    have hf := f.cycles.toNat_lt
    have hcons : cyclesOf (f :: rest) = f.cycles.toNat + cyclesOf rest := List.sum_cons
    rw [hcons, List.length_cons]
    omega

/-! ## The ledger -/

/-- A window that has closed: its frames, of which the last one closed it, and what the meter had
counted then. -/
structure ClosedWindow where
  earlier : List Recorded
  last : Recorded
  totals : Window

namespace ClosedWindow

def frames (c : ClosedWindow) : List Recorded := c.earlier ++ [c.last]

/-- The meter has counted the frames of the window and their cycles, in at least a second. -/
structure Totalled (c : ClosedWindow) : Prop where
  frames_eq : c.totals.frames.toNat = c.frames.length
  cycles_eq : c.totals.cycles.toNat = cyclesOf c.frames
  le_elapsed : windowTime ≤ c.totals.elapsed

end ClosedWindow

/-- The windows that have closed, in their order, and the frames of the one that is open. -/
structure Ledger where
  closed : List ClosedWindow := []
  pending : List Recorded := []

namespace Ledger

/-- Enters a frame with the answer of the meter to it. -/
def enter (l : Ledger) (f : Recorded) : Option Window → Ledger
  | some totals =>
    { closed := l.closed ++ [{ earlier := l.pending, last := f, totals := totals }] }
  | none => { l with pending := l.pending ++ [f] }

/-- The frames of each window, the open one last. -/
def windows (l : Ledger) : List (List Recorded) := l.closed.map ClosedWindow.frames ++ [l.pending]

/-- The time of the latest frame that closed a window. -/
def lastClose (l : Ledger) (start : Time) : Time :=
  match l.closed.getLast? with
  | some c => c.last.time
  | none => start

theorem lastClose_enter_some (l : Ledger) (f : Recorded) (totals : Window) (start : Time) :
    (l.enter f (some totals)).lastClose start = f.time := by
  rw [lastClose, enter, List.getLast?_concat]

/-- No window has as many frames as 32 bits cannot count. -/
def Countable (l : Ledger) : Prop := ∀ window ∈ l.windows, window.length < UInt32.size

theorem flatten_windows_enter (l : Ledger) (f : Recorded) (answer : Option Window) :
    (l.enter f answer).windows.flatten = l.windows.flatten ++ [f] := by
  cases answer <;> simp [enter, windows, ClosedWindow.frames]

/-- The window of the frame that is entered was part of the ledger but for this frame. -/
theorem countable_of_enter {l : Ledger} {f : Recorded} {answer : Option Window}
    (h : (l.enter f answer).Countable) : l.Countable ∧ l.pending.length + 1 < UInt32.size := by
  have hpending : (l.pending ++ [f]).length < UInt32.size := by
    apply h
    cases answer <;> simp [enter, windows, ClosedWindow.frames]
  have hclosed : ∀ c ∈ l.closed, c.frames.length < UInt32.size := by
    intro c hc
    apply h
    cases answer <;> simp only [enter, windows, List.map_append, List.mem_append, List.mem_map]
    · exact .inl ⟨c, hc, rfl⟩
    · exact .inl (.inl ⟨c, hc, rfl⟩)
  rw [List.length_append, List.length_singleton] at hpending
  refine ⟨?_, hpending⟩
  intro window hwindow
  rcases List.mem_append.1 hwindow with hmem | hmem
  · obtain ⟨c, hc, rfl⟩ := List.mem_map.1 hmem
    exact hclosed c hc
  · rw [List.mem_singleton.1 hmem]
    omega

end Ledger

/-! ## The meter beside its ledger -/

/-- The window that a call closes is not shorter than a second, and gives the rates to come. -/
theorem RateMeter.record_eq_some {r : RateMeter} {now : Time} {cycles : UInt32} {w : Window}
    (h : (r.record now cycles).1 = some w) :
    w = r.windowAt now cycles ∧ windowTime ≤ w.elapsed ∧
      (r.record now cycles).2.framesPerSecond = w.framesPerSecond ∧
      (r.record now cycles).2.cyclesPerSecond = w.cyclesPerSecond := by
  by_cases hshort : (r.windowAt now cycles).elapsed < windowTime
  · rw [record, if_pos hshort] at h
    cases h
  · rw [record, if_neg hshort] at h ⊢
    cases h
    exact ⟨rfl, Nat.not_lt.1 hshort, rfl, rfl⟩

/-- A meter, and the ledger of the frames that it has recorded. -/
structure Books where
  meter : RateMeter
  ledger : Ledger

namespace Books

/-- Records a frame and enters it. -/
def record (b : Books) (f : Recorded) : Books :=
  let recorded := b.meter.record f.time f.cycles
  { meter := recorded.2, ledger := b.ledger.enter f recorded.1 }

/-- The books after some frames, the earliest one first. -/
def after (start : Time) (frames : List Recorded) : Books :=
  frames.foldl record { meter := .new start, ledger := {} }

theorem after_concat (start : Time) (frames : List Recorded) (f : Recorded) :
    after start (frames ++ [f]) = (after start frames).record f := by
  rw [after, List.foldl_append]
  rfl

theorem countable_of_append {start : Time} {before later : List Recorded}
    (h : (after start (before ++ later)).ledger.Countable) :
    (after start before).ledger.Countable := by
  induction later using List.reverseRecOn with
  | nil =>
    rw [List.append_nil] at h
    exact h
  | append_singleton later f ih =>
    rw [← List.append_assoc, after_concat] at h
    exact ih (Ledger.countable_of_enter h).1

/-! ## The ledger agrees with the meter -/

/-- The windows of the ledger are the frames so far, one window after the other. The open one has
begun with the latest close, and the meter has counted its frames and their cycles, as it had done
for each window that has closed. -/
structure Balanced (start : Time) (frames : List Recorded) (b : Books) : Prop where
  windows_eq : b.ledger.windows.flatten = frames
  opened_eq : b.meter.opened = b.ledger.lastClose start
  frames_eq : b.meter.frames.toNat = b.ledger.pending.length
  cycles_eq : b.meter.cycles.toNat = cyclesOf b.ledger.pending
  totalled : ∀ c ∈ b.ledger.closed, c.Totalled

variable {start : Time} {frames : List Recorded} {b : Books}

theorem cycles_le (h : Balanced start frames b) :
    b.meter.cycles.toNat ≤ b.meter.frames.toNat * 4294967295 := by
  rw [h.cycles_eq, h.frames_eq]
  exact cyclesOf_le b.ledger.pending

/-- There is room for one more frame, and so for its cycles. -/
theorem counts_fit (h : Balanced start frames b) (hfew : b.ledger.pending.length + 1 < UInt32.size)
    (f : Recorded) :
    b.meter.frames.toNat + 1 < UInt32.size ∧
      b.meter.cycles.toNat + f.cycles.toNat ≤ (b.meter.frames.toNat + 1) * 4294967295 ∧
      b.meter.cycles.toNat + f.cycles.toNat < UInt64.size := by
  have hbound := cycles_le h
  have hlast := f.cycles.toNat_lt
  have hframes : b.meter.frames.toNat + 1 < UInt32.size := h.frames_eq ▸ hfew
  refine ⟨hframes, by omega, ?_⟩
  simp only [UInt32.size, UInt64.size] at *
  omega

theorem counts_of_balanced (h : Balanced start frames b)
    (hfew : b.ledger.pending.length + 1 < UInt32.size) (f : Recorded) :
    (b.meter.windowAt f.time f.cycles).frames.toNat = (b.ledger.pending ++ [f]).length ∧
      (b.meter.windowAt f.time f.cycles).cycles.toNat = cyclesOf (b.ledger.pending ++ [f]) := by
  obtain ⟨hframes, -, hcycles⟩ := counts_fit h hfew f
  rw [List.length_append, List.length_singleton, cyclesOf_append, cyclesOf_singleton,
    ← h.frames_eq, ← h.cycles_eq]
  constructor
  · rw [RateMeter.windowAt, UInt32.toNat_add]
    exact Nat.mod_eq_of_lt hframes
  · rw [RateMeter.windowAt, UInt64.toNat_add, UInt32.toNat_toUInt64]
    exact Nat.mod_eq_of_lt hcycles

theorem record_of_lt (b : Books) (f : Recorded) (h : f.time - b.meter.opened < windowTime) :
    b.record f =
      { meter :=
          { b.meter with
            frames := (b.meter.windowAt f.time f.cycles).frames
            cycles := (b.meter.windowAt f.time f.cycles).cycles }
        ledger := b.ledger.enter f none } := by
  have hshort : (b.meter.windowAt f.time f.cycles).elapsed < windowTime := h
  simp only [record, RateMeter.record, if_pos hshort]

theorem record_of_not_lt (b : Books) (f : Recorded) (h : ¬ f.time - b.meter.opened < windowTime) :
    b.record f =
      { meter :=
          { opened := f.time
            frames := 0
            cycles := 0
            framesPerSecond := (b.meter.windowAt f.time f.cycles).framesPerSecond
            cyclesPerSecond := (b.meter.windowAt f.time f.cycles).cyclesPerSecond }
        ledger := b.ledger.enter f (some (b.meter.windowAt f.time f.cycles)) } := by
  have hlong : ¬ (b.meter.windowAt f.time f.cycles).elapsed < windowTime := h
  simp only [record, RateMeter.record, if_neg hlong]

theorem balanced_record (h : Balanced start frames b)
    (hfew : b.ledger.pending.length + 1 < UInt32.size) (f : Recorded) :
    Balanced start (frames ++ [f]) (b.record f) := by
  obtain ⟨hframes, hcycles⟩ := counts_of_balanced h hfew f
  have hwindows : (b.record f).ledger.windows.flatten = frames ++ [f] := by
    rw [record, Ledger.flatten_windows_enter, h.windows_eq]
  by_cases hshort : f.time - b.meter.opened < windowTime
  · refine ⟨hwindows, ?_, ?_, ?_, ?_⟩ <;> rw [record_of_lt b f hshort]
    · exact h.opened_eq
    · exact hframes
    · exact hcycles
    · exact h.totalled
  · refine ⟨hwindows, ?_, ?_, ?_, ?_⟩ <;> rw [record_of_not_lt b f hshort]
    · exact (Ledger.lastClose_enter_some _ _ _ _).symm
    · rfl
    · rfl
    · intro c hc
      rcases List.mem_append.1 hc with hbefore | hnew
      · exact h.totalled c hbefore
      · rw [List.mem_singleton.1 hnew]
        exact ⟨hframes, hcycles, Nat.not_lt.1 hshort⟩

theorem balanced_after (hfew : (after start frames).ledger.Countable) :
    Balanced start frames (after start frames) := by
  induction frames using List.reverseRecOn with
  | nil => exact ⟨rfl, rfl, rfl, rfl, by intro c hc; cases hc⟩
  | append_singleton frames f ih =>
    rw [after_concat] at hfew ⊢
    obtain ⟨hbefore, hroom⟩ := Ledger.countable_of_enter hfew
    exact balanced_record (ih hbefore) hroom f

/-- At each frame the books before it are balanced, with room for it. -/
theorem balanced_before {before later : List Recorded} {f : Recorded}
    (hfew : (after start (before ++ f :: later)).ledger.Countable) :
    Balanced start before (after start before) ∧
      (after start before).ledger.pending.length + 1 < UInt32.size := by
  rw [List.append_cons] at hfew
  have hgrown := countable_of_append hfew
  rw [after_concat] at hgrown
  obtain ⟨hbefore, hroom⟩ := Ledger.countable_of_enter hgrown
  exact ⟨balanced_after hbefore, hroom⟩

/-- A call closes a window exactly if it comes a second or more after the latest one that did. -/
theorem isSome_record_iff (h : Balanced start frames b) (f : Recorded) :
    (b.meter.record f.time f.cycles).1.isSome ↔
      b.ledger.lastClose start + windowTime ≤ f.time := by
  have hpassed : ∀ now closed : Nat, ¬ now - closed < 1000000000 ↔ closed + 1000000000 ≤ now := by
    omega
  rw [Option.isSome_iff_ne_none, ne_eq, RateMeter.record_eq_none_iff, h.opened_eq]
  exact hpassed f.time (b.ledger.lastClose start)

/-- What the windows that have closed were counted to have, and what is counted in the open one, is
all there was. -/
theorem totals_of_balanced (h : Balanced start frames b) :
    (b.ledger.closed.map fun c => c.totals.frames.toNat).sum + b.meter.frames.toNat =
        frames.length ∧
      (b.ledger.closed.map fun c => c.totals.cycles.toNat).sum + b.meter.cycles.toNat =
        cyclesOf frames := by
  have hframes : (b.ledger.closed.map fun c => c.totals.frames.toNat) =
      (b.ledger.closed.map ClosedWindow.frames).map List.length := by
    rw [List.map_map]
    exact List.map_congr_left fun c hc => (h.totalled c hc).frames_eq
  have hcycles : (b.ledger.closed.map fun c => c.totals.cycles.toNat) =
      (b.ledger.closed.map ClosedWindow.frames).map cyclesOf := by
    rw [List.map_map]
    exact List.map_congr_left fun c hc => (h.totalled c hc).cycles_eq
  constructor
  · rw [← h.windows_eq, List.length_flatten, Ledger.windows, List.map_append, List.sum_append,
      hframes, h.frames_eq]
    rfl
  · rw [← h.windows_eq, cyclesOf_flatten, Ledger.windows, List.map_append, List.sum_append,
      hcycles, h.cycles_eq]
    rfl

/-- Frames recorded one after the other, at any times, where no window gets 2³² of them. In each
call the counts fit their bits, as no frame has more cycles than 32 bits can hold. The call closes a
window exactly if it comes a second or more after the latest one that did, or after the start. Then
the rates are the frames since that one and their cycles, this frame included, divided by the time
since, which is not below a second, and not below one in floats if its whole seconds fit 64 bits. So
the windows are all the frames, one window after the other, and what was counted in those that have
closed and what is counted in the open one add up to all frames and all cycles. -/
theorem every_frame_counted_once (start : Time) (frames : List Recorded)
    (hfew : (after start frames).ledger.Countable) :
    (∀ before f later, frames = before ++ f :: later →
      let books := after start before
      let recorded := books.meter.record f.time f.cycles
      books.meter.frames.toNat + 1 < UInt32.size ∧
      books.meter.cycles.toNat + f.cycles.toNat ≤ (books.meter.frames.toNat + 1) * 4294967295 ∧
      books.meter.cycles.toNat + f.cycles.toNat < UInt64.size ∧
      (recorded.1.isSome ↔ books.ledger.lastClose start + windowTime ≤ f.time) ∧
      ∀ w, recorded.1 = some w →
        w.frames.toNat = (books.ledger.pending ++ [f]).length ∧
        w.cycles.toNat = cyclesOf (books.ledger.pending ++ [f]) ∧
        w.elapsed = f.time - books.ledger.lastClose start ∧ windowTime ≤ w.elapsed ∧
        (w.elapsed / 1000000000 < UInt64.size → 1.0 ≤ w.seconds) ∧
        recorded.2.framesPerSecond = w.frames.toFloat / w.seconds ∧
        recorded.2.cyclesPerSecond = w.cycles.toFloat / w.seconds) ∧
    let books := after start frames
    books.ledger.windows.flatten = frames ∧
    (∀ c ∈ books.ledger.closed,
      c.totals.frames.toNat = c.frames.length ∧ c.totals.cycles.toNat = cyclesOf c.frames ∧
      windowTime ≤ c.totals.elapsed) ∧
    books.meter.frames.toNat = books.ledger.pending.length ∧
    books.meter.cycles.toNat = cyclesOf books.ledger.pending ∧
    books.meter.cycles.toNat ≤ books.meter.frames.toNat * 4294967295 ∧
    (books.ledger.closed.map fun c => c.totals.frames.toNat).sum + books.meter.frames.toNat =
      frames.length ∧
    (books.ledger.closed.map fun c => c.totals.cycles.toNat).sum + books.meter.cycles.toNat =
      cyclesOf frames := by
  refine ⟨?_, ?_⟩
  · intro before f later hsplit books recorded
    obtain ⟨hbalanced, hroom⟩ := balanced_before (hsplit ▸ hfew)
    obtain ⟨hone, hbound, hfits⟩ := counts_fit hbalanced hroom f
    refine ⟨hone, hbound, hfits, isSome_record_iff hbalanced f, ?_⟩
    intro w hw
    obtain ⟨rfl, hlong, hrates⟩ := RateMeter.record_eq_some hw
    obtain ⟨hframes, hcycles⟩ := counts_of_balanced hbalanced hroom f
    exact ⟨hframes, hcycles, congrArg (f.time - ·) hbalanced.opened_eq, hlong,
      Window.one_le_seconds hlong, hrates⟩
  · intro books
    have hbalanced := balanced_after hfew
    obtain ⟨hframes, hcycles⟩ := totals_of_balanced hbalanced
    exact ⟨hbalanced.windows_eq,
      fun c hc => ⟨(hbalanced.totalled c hc).frames_eq, (hbalanced.totalled c hc).cycles_eq,
        (hbalanced.totalled c hc).le_elapsed⟩,
      hbalanced.frames_eq, hbalanced.cycles_eq, cycles_le hbalanced, hframes, hcycles⟩

/-- The clock runs backwards at first, in a frame with as many cycles as 32 bits can hold. The next
frame comes a second after the start, and closes the window of both. -/
theorem every_frame_counted_once_backwards :
    let early : Recorded := { time := 500000000, cycles := 4294967295 }
    let closing : Recorded := { time := 2000000000, cycles := 7 }
    let books := after 1000000000 [early, closing, { time := 2500000000, cycles := 3 }]
    let opening := (after 1000000000 [early]).meter
    books.ledger.Countable ∧
    (opening.record closing.time closing.cycles).1.isSome ∧
    (∀ w, (opening.record closing.time closing.cycles).1 = some w → 1.0 ≤ w.seconds) ∧
    (books.ledger.closed.map fun c => c.totals.cycles.toNat) = [4294967302] ∧
    (books.ledger.closed.map fun c => c.totals.cycles.toNat).sum + books.meter.cycles.toNat =
      4294967305 := by
  intro early closing books opening
  have hfew : books.ledger.Countable := by
    have hwindows : books.ledger.windows =
        [[early, closing], [{ time := 2500000000, cycles := 3 }]] := by
      decide +kernel
    rw [Ledger.Countable, hwindows]
    simp [UInt32.size]
  obtain ⟨hcalls, -, -, -, -, -, -, hcycles⟩ := every_frame_counted_once 1000000000 _ hfew
  obtain ⟨-, -, -, hcloses, hrates⟩ :=
    hcalls [early] closing [{ time := 2500000000, cycles := 3 }] rfl
  refine ⟨hfew, hcloses.2 (by decide), ?_, by decide +kernel, hcycles.trans rfl⟩
  intro w hw
  obtain ⟨-, -, hlength, -, hdivisor, -⟩ := hrates w hw
  have hsecond : w.elapsed = 1000000000 := hlength.trans (by decide +kernel)
  have hwhole : w.elapsed / 1000000000 < UInt64.size := by
    rw [hsecond]
    decide
  exact hdivisor hwhole

end Books

end Chip8.Play
