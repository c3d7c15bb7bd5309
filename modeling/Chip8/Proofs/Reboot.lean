import Chip8.Proofs.History

/-!
# Rebooting

A reboot keeps the setup and nothing else. No action changes the setup, and where it has a seed no
chance enters the random stream. So from every state that a machine can be in a reboot leads to the
same one, and whatever a host does from there on, it is not told which state that was.

Results:
* `reseed_of_seed`: a machine whose setup has a seed leaves nothing to chance.
* `reboot_after`: a reboot comes to the same with and without a history before it.
* `reboot_erases_history`: what a reboot leaves, and that a host can tell no more than that.
-/

namespace Chip8

/-- What a host is told when it has done something, besides the machine. -/
inductive Answer (ε : Type)
  | done
  | stored (count : Nat)
  | loaded (result : Except LoadError Nat)
  | latched (isTaken : Bool)
  | frame (outcome : Frame ε)

namespace Machine

variable {ε : Type}

/-! ## Starting over -/

@[simp] theorem setup_powerOn (setup : Setup) : (powerOn setup).setup = setup := rfl

theorem reseed_of_seed {m : Machine} {seed : UInt64} (h : m.setup.seed = some seed)
    (key : Random.ChaCha.Key) : m.reseed key = m := by
  simp [reseed, h]

/-- A reboot makes nothing of a machine but its setup. -/
theorem reboot_eq_reboot_powerOn (m : Machine) (path : String) (file : ProgramFile) :
    m.reboot path file = (powerOn m.setup).reboot path file := by
  simp only [reboot, reset_eq_powerOn, setup_powerOn]

theorem setup_reboot (m : Machine) (path : String) (file : ProgramFile) :
    (m.reboot path file).1.setup = m.setup := by
  rw [reboot_machine]
  cases file with
  | contents image => exact (setup_step (.load image) _).trans (setup_powerOn m.setup)
  | missing | unreadable reason => exact setup_powerOn m.setup

theorem reboot_after (setup : Setup) (history : List (Action ε)) (path : String)
    (file : ProgramFile) :
    ((powerOn setup).after history).reboot path file = (powerOn setup).reboot path file := by
  rw [reboot_eq_reboot_powerOn, setup_after, setup_powerOn]

/-- Of two reboots the second one decides. -/
theorem reboot_reboot (m : Machine) (path : String) (file later : ProgramFile) :
    (m.reboot path file).1.reboot path later = m.reboot path later := by
  rw [reboot_eq_reboot_powerOn, setup_reboot, ← reboot_eq_reboot_powerOn]

/-! ## What a host is told -/

def answer (m : Machine) : Action ε → Answer ε
  | .load image => .stored (Memory.capacityFor image.length)
  | .loadFile path file => .loaded ((m.loadFile path file).map Prod.fst)
  | .cycle | .acknowledge | .reset | .reseed _ => .done
  | .latch snapshot => .latched (m.latch? snapshot).isSome
  | .reboot path file => .loaded (m.reboot path file).2
  | .frame count host => .frame (Frame.run m count host)

/-- The answers to a history, each with the machine as it is then. -/
def answers (m : Machine) : List (Action ε) → List (Answer ε × Machine)
  | [] => []
  | a :: rest => (m.answer a, m.perform a) :: (m.perform a).answers rest

/-- Whatever has happened to a machine with a seed: a reboot from a file that can be read leaves the
machine right after switching on with the file's image loaded, of which chance changes nothing, and
one from a file that cannot be read leaves the machine right after switching on and says why. A
second reboot changes nothing, and two machines with the same setup that are rebooted from the same
file give the same answers to whatever follows. -/
theorem reboot_erases_history (base : Setup) (seed : UInt64) (history : List (Action ε))
    (path : String) :
    let setup := base.withSeed seed
    let m := (powerOn setup).after history
    (∀ image, m.reboot path (.contents image) =
      ((powerOn setup).load image, .ok (Memory.capacityFor image.length)) ∧
      ∀ key, (m.reboot path (.contents image)).1.reseed key = (powerOn setup).load image) ∧
    m.reboot path .missing = (powerOn setup, .error (.notFound path)) ∧
    (∀ reason, m.reboot path (.unreadable reason) =
      (powerOn setup, .error (.unreadable path reason))) ∧
    (∀ file, (m.reboot path file).1.reboot path file = m.reboot path file) ∧
    ∀ (other : List (Action ε)) (elsewhere : String) (file : ProgramFile)
      (later : List (Action ε)),
      (((powerOn setup).after other).reboot elsewhere file).1.answers later =
        (m.reboot path file).1.answers later := by
  intro setup m
  have hpath (file : ProgramFile) : m.reboot path file = (powerOn setup).reboot path file :=
    reboot_after setup history path file
  refine ⟨?_, ?_, ?_, fun file => m.reboot_reboot path file file, ?_⟩
  · intro image
    have hreboot : m.reboot path (.contents image) =
        ((powerOn setup).load image, .ok (Memory.capacityFor image.length)) :=
      hpath (.contents image)
    have hseed : ((powerOn setup).load image).setup.seed = some seed := rfl
    exact ⟨hreboot, fun key => by rw [hreboot, reseed_of_seed hseed]⟩
  · exact hpath .missing
  · exact fun reason => hpath (.unreadable reason)
  · intro other elsewhere file later
    rw [reboot_after, hpath, reboot_machine, reboot_machine]

end Machine

end Chip8
