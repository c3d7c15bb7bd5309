/-!
# Reports of a terminal

What a terminal reports waits until it is read. Once somebody reads, two sources have something to
tell: the input and the size of the terminal. The source that stirs first is heard first, and
hearing one of them ends the reading, whatever the other one has to tell: what the input holds then
waits until the input stirs again. Whoever asks the terminal something reads the input up to the
answer, and what was waiting there is lost.
-/

namespace Chip8.Terminal

/-- Where reports come from. -/
inductive Source
  | input
  | size
deriving DecidableEq

/-- Reports that have not been read, and what is known of their sources. -/
structure Inbox (α : Type) where
  waiting : List α := []
  /-- Whether anything has ever been read. -/
  listening : Bool := false
  /-- The sources that have stirred since the last reading, the first one first. -/
  stirred : List Source := []

namespace Inbox

variable {α : Type}

/-- A source stirs, and somebody listens or not. -/
def stir (s : Source) (i : Inbox α) : Inbox α :=
  if i.listening ∧ s ∉ i.stirred then { i with stirred := i.stirred ++ [s] } else i

/-- The size of the terminal has changed. -/
def resize (i : Inbox α) : Inbox α := i.stir .size

/-- The terminal has been asked something. Its answer stirs the input, which is read up to there. -/
def answer (i : Inbox α) : Inbox α := { i.stir .input with waiting := [] }

/-- Further reports have come in. -/
def deliver (arrived : List α) (i : Inbox α) : Inbox α :=
  if arrived.isEmpty then i
  else { i.stir .input with waiting := i.waiting ++ arrived }

/-- The source that is heard in a reading: the first to stir that has something to tell. -/
def heard? (i : Inbox α) : Option Source :=
  if i.listening then i.stirred.find? fun s => s = .size || !i.waiting.isEmpty else some .input

/-- Takes what there is to take after further reports have arrived. -/
def read (i : Inbox α) (arrived : List α) : List α × Inbox α :=
  let i := i.deliver arrived
  if i.heard? = some .input then (i.waiting, { listening := true })
  else ([], { waiting := i.waiting, listening := true })

/-! ## Laws -/

end Inbox

end Chip8.Terminal
