import Chip8.Program
import Mathlib.Tactic.Common

/-!
# Programs loaded over one another

A load writes its image over what is there and leaves the rest, so that after several loads each
byte is that of the last image that reaches as far. A longer image shows behind a shorter one that
was loaded later, and what the machine had in its memory before shows behind both. An image that is
too long is cut at the end of memory, and a file that cannot be read has no effect.

Results:
* `byteAt_foldl_load`, `byteAt_foldl_load_of_lt`: memory after some images.
* `report_loadings`, `machine_loadings`: what some loads report and leave.
* `loads_overlay`: both, byte by byte, and the loads that fail.
-/

namespace Chip8

/-- A program to be loaded. -/
inductive Load
  /-- The bytes of the program themselves. -/
  | bytes (image : List UInt8)
  /-- A path, and what is found there. -/
  | file (path : String) (found : ProgramFile)

/-- The image that a load has to put down, if there is one. -/
def Load.image : Load → Except LoadError (List UInt8)
  | bytes image => .ok image
  | file path found => found.image path

/-- The images of the loads that succeed. -/
def Load.images (loads : List Load) : List (List UInt8) :=
  loads.filterMap fun l => l.image.toOption

theorem Load.images_of_error {l : Load} {e : LoadError} (h : l.image = .error e)
    (before later : List Load) :
    images (before ++ l :: later) = images (before ++ later) := by
  rw [images, images, List.filterMap_append, List.filterMap_append, List.filterMap_cons, h]
  rfl

/-- The last image that has a byte `i`. -/
def lastReaching? (images : List (List UInt8)) (i : Nat) : Option (List UInt8) :=
  images.reverse.find? fun image => i < image.length

theorem lastReaching?_cons (image : List UInt8) (rest : List (List UInt8)) (i : Nat) :
    lastReaching? (image :: rest) i =
      (lastReaching? rest i).or (if i < image.length then some image else none) := by
  rw [lastReaching?, List.reverse_cons, List.find?_append, List.find?_singleton]
  simp only [decide_eq_true_eq]
  rfl

namespace Memory

theorem byteAt_foldl_load (m : Memory) (images : List (List UInt8)) {i : Nat} (hi : i < 3584) :
    (images.foldl load m).byteAt (0x200 + i) =
      match lastReaching? images i with
      | some image => image.getD i 0
      | none => m.byteAt (0x200 + i) := by
  induction images generalizing m with
  | nil => rfl
  | cons image rest ih =>
    rw [List.foldl_cons, ih, lastReaching?_cons]
    cases lastReaching? rest i with
    | some later => rfl
    | none =>
      have hroom : programStart + i < programStart + capacityFor image.length ↔
          i < image.length := by
        simp only [programStart, capacityFor, size]
        omega
      have hbyte := m.byteAt_load image (programStart + i)
      rw [Nat.add_sub_cancel_left] at hbyte
      simp only [Nat.le_add_right, true_and, hroom] at hbyte
      simp only [Option.none_or]
      rw [show 0x200 + i = programStart + i from rfl, hbyte]
      by_cases hlong : i < image.length
      · rw [if_pos hlong, if_pos hlong]
      · rw [if_neg hlong, if_neg hlong]

theorem byteAt_foldl_load_of_lt (m : Memory) (images : List (List UInt8)) {a : Nat}
    (ha : a < 0x200) : (images.foldl load m).byteAt a = m.byteAt a := by
  induction images generalizing m with
  | nil => rfl
  | cons image rest ih =>
    have hbefore : ¬ (programStart ≤ a ∧ a < programStart + capacityFor image.length) :=
      fun h => absurd h.1 (Nat.not_le.2 ha)
    rw [List.foldl_cons, ih, byteAt_load, if_neg hbefore]

end Memory

namespace Machine

/-- What a load reports, and the machine that it leaves. -/
def loading (m : Machine) : Load → Except LoadError Nat × Machine
  | .bytes image => (.ok (Memory.capacityFor image.length), m.load image)
  | .file path found =>
    match m.loadFile path found with
    | .ok (stored, loaded) => (.ok stored, loaded)
    | .error e => (.error e, m)

/-- What some loads report, the first one first, and the machine that they leave. -/
def loadings (m : Machine) : List Load → List (Except LoadError Nat) × Machine
  | [] => ([], m)
  | l :: rest =>
    let loaded := m.loading l
    let later := loaded.2.loadings rest
    (loaded.1 :: later.1, later.2)

theorem loading_of_ok (m : Machine) {l : Load} {image : List UInt8} (h : l.image = .ok image) :
    m.loading l = (.ok (min image.length 3584), m.load image) := by
  cases l with
  | bytes =>
    cases h
    rfl
  | file path found =>
    have hfound : found.image path = .ok image := h
    simp only [loading, loadFile, hfound]
    rfl

theorem loading_of_error (m : Machine) {l : Load} {e : LoadError} (h : l.image = .error e) :
    m.loading l = (.error e, m) := by
  cases l with
  | bytes => cases h
  | file path found =>
    have hfound : found.image path = .error e := h
    simp only [loading, loadFile, hfound]

/-- What a load reports does not hang on the machine. -/
theorem report_loadings (m : Machine) (loads : List Load) :
    (m.loadings loads).1 = loads.map fun l => l.image.map fun image => min image.length 3584 := by
  induction loads generalizing m with
  | nil => rfl
  | cons l rest ih =>
    rw [loadings, List.map_cons, ih]
    cases h : l.image with
    | ok image =>
      rw [loading_of_ok m h]
      rfl
    | error e =>
      rw [loading_of_error m h]
      rfl

theorem machine_loadings (m : Machine) (loads : List Load) :
    (m.loadings loads).2 =
      { m with memory := (Load.images loads).foldl Memory.load m.memory } := by
  induction loads generalizing m with
  | nil => rfl
  | cons l rest ih =>
    rw [loadings, ih, Load.images, Load.images, List.filterMap_cons]
    cases h : l.image with
    | ok image =>
      rw [loading_of_ok m h]
      rfl
    | error e =>
      rw [loading_of_error m h]
      rfl

/-- Some loads in a row, on any machine. Each that succeeds reports the length of its image, but no
more than the 3584 bytes from the program start to the end of memory. After all of them byte `i` of
the program area is byte `i` of the last image longer than `i`, or what it was if there is none; the
bytes below the program area and everything else in the machine are as they were. And a load that
fails, because there is no file or because it cannot be read, changes nothing when it happens, and
makes no difference to what all of them leave. -/
theorem loads_overlay (m : Machine) (loads : List Load) :
    let images := Load.images loads
    let left := (m.loadings loads).2
    (m.loadings loads).1 = (loads.map fun l => l.image.map fun image => min image.length 3584) ∧
    (∀ i < 3584, left.memory.byteAt (0x200 + i) =
      match images.reverse.find? fun image => i < image.length with
      | some image => image.getD i 0
      | none => m.memory.byteAt (0x200 + i)) ∧
    (∀ a < 0x200, left.memory.byteAt a = m.memory.byteAt a) ∧
    left = { m with memory := left.memory } ∧
    ∀ before path found later, loads = before ++ .file path found :: later →
      (∀ image, found ≠ .contents image) →
      (∃ e, (m.loadings before).2.loading (.file path found) = (.error e, (m.loadings before).2)) ∧
      left = (m.loadings (before ++ later)).2 := by
  intro images left
  have hleft : left = { m with memory := images.foldl Memory.load m.memory } :=
    m.machine_loadings loads
  refine ⟨m.report_loadings loads, ?_, ?_, ?_, ?_⟩
  · intro i hi
    rw [hleft]
    exact m.memory.byteAt_foldl_load images hi
  · intro a ha
    rw [hleft]
    exact m.memory.byteAt_foldl_load_of_lt images ha
  · rw [hleft]
  · intro before path found later hloads hfails
    have hfailed : ∃ e, (Load.file path found).image = .error e := by
      cases found with
      | missing => exact ⟨.notFound path, rfl⟩
      | unreadable reason => exact ⟨.unreadable path reason, rfl⟩
      | contents image => exact absurd rfl (hfails image)
    obtain ⟨e, he⟩ := hfailed
    refine ⟨⟨e, loading_of_error _ he⟩, ?_⟩
    have hsame : images = Load.images (before ++ later) := by
      rw [← Load.images_of_error he, ← hloads]
    rw [hleft, machine_loadings, hsame]

/-- An image of 4000 bytes, a file that does not exist, two bytes and none: the image is cut, and
shows behind the two bytes. -/
theorem loads_overlay_oversized :
    let m := powerOn Setup.standard
    let loads : List Load :=
      [.bytes (List.replicate 4000 7), .file "lost.ch8" .missing, .bytes [1, 2], .bytes []]
    let left := (m.loadings loads).2
    (m.loadings loads).1 = [.ok 3584, .error (.notFound "lost.ch8"), .ok 2, .ok 0] ∧
    left.memory.byteAt 0x201 = 2 ∧ left.memory.byteAt 0x202 = 7 ∧
    left = (m.loadings [.bytes (List.replicate 4000 7), .bytes [1, 2], .bytes []]).2 := by
  intro m loads left
  obtain ⟨hreports, hbytes, -, -, hfailed⟩ := loads_overlay m loads
  refine ⟨?_, ?_, ?_, ?_⟩
  · rw [hreports]
    simp [loads, Load.image, ProgramFile.image, Except.map, -List.reduceReplicate]
  · rw [hbytes 1 (by decide)]
    rfl
  · rw [hbytes 2 (by decide)]
    simp [loads, Load.images, Load.image, ProgramFile.image, Except.toOption,
      -List.reduceReplicate]
  · exact (hfailed [.bytes (List.replicate 4000 7)] "lost.ch8" .missing [.bytes [1, 2], .bytes []]
      rfl (by simp)).2

end Machine

end Chip8
