import Chip8.CommandLine.Arguments

/-!
# Flags on the command line

A command line that asks for the player sets a flag exactly if the flag's word stands on it before
the word `--`. Nothing else reads as that word: it is no value of an option and no program.

Results:
* `parseWords_cons`: what the first word of such a command line can be, and what is left to read.
* `flag_iff_of_parse`: which flags are set.
-/

namespace Chip8.CommandLine

/-- The word that sets a flag. -/
def Flag.word (f : Flag) : String := "--" ++ f.name

def Draft.flag (d : Draft) : Flag → Bool
  | .disassemble => d.disassemble
  | .trace => d.trace

def Options.flag (o : Options) : Flag → Bool
  | .disassemble => o.disassemble
  | .trace => o.trace

/-! ## Words -/

theorem ofString_eq_terminator_iff (word : String) :
    Word.ofString word = .terminator ↔ word = "--" := by
  constructor
  · intro h
    unfold Word.ofString at h
    split at h
    · next hlist => exact String.toList_inj.1 hlist
    · cases h
    · cases h
    · cases h
  · rintro rfl
    decide

theorem eq_of_cutAtEquals {cs : List Char} {name : String} (h : cutAtEquals cs = (name, none)) :
    name = String.ofList cs := by
  have hcs := List.takeWhile_append_dropWhile (p := fun c => decide (c ≠ '=')) (l := cs)
  unfold cutAtEquals at h
  split at h
  · next hdrop =>
    rw [hdrop, List.append_nil] at hcs
    rw [hcs] at h
    exact (congrArg Prod.fst h).symm
  · cases h

theorem eq_of_ofString_eq_long {word name : String} (h : Word.ofString word = .long name none) :
    word = "--" ++ name := by
  unfold Word.ofString at h
  split at h
  · cases h
  · next rest _ hlist =>
    injection h with hname hvalue
    have hcut : cutAtEquals rest = (name, none) := Prod.ext hname hvalue
    rw [eq_of_cutAtEquals hcut, ← String.toList_inj, hlist]
    simp
  · cases h
  · cases h

theorem ofString_word (f : Flag) : Word.ofString f.word = .long f.name none := by
  cases f <;> decide +kernel

theorem ofString_eq_flag_iff (word : String) (f : Flag) :
    Word.ofString word = .long f.name none ↔ word = f.word := by
  constructor
  · exact eq_of_ofString_eq_long
  · rintro rfl
    exact ofString_word f

theorem eq_name_of_ofName? {name : String} {f : Flag} (h : Flag.ofName? name = some f) :
    name = f.name := by
  unfold Flag.ofName? at h
  split at h
  · cases h; rfl
  · cases h; rfl
  · cases h

/-- A word that is obeyed on the way to the player closes the options, names the program, sets a
flag, or is an option with its value behind it or in the next word. -/
theorem parseWords_cons {word : String} {rest : List String} {d : Draft} {o : Options}
    (h : parseWords (word :: rest) d = .ok (.run o)) :
    (Word.ofString word = .terminator ∧ parseLiterals rest d = .ok (.run o)) ∨
    (∃ next, Word.ofString word = .literal ∧ d.setProgram word = .ok next ∧
      parseWords rest next = .ok (.run o)) ∨
    (∃ f next, Word.ofString word = .long f.name none ∧ d.setFlag f = .ok next ∧
      parseWords rest next = .ok (.run o)) ∨
    (∃ option name value next, Word.ofString word = .long name (some value) ∧
      d.setValue option value = .ok next ∧ parseWords rest next = .ok (.run o)) ∨
    ∃ option name value later next, Word.ofString word = .long name none ∧
      Flag.ofName? name = none ∧ rest = value :: later ∧ canBeValue value = true ∧
      d.setValue option value = .ok next ∧ parseWords later next = .ok (.run o) := by
  simp only [parseWords] at h
  split at h
  -- the other words ask for something else or are refused
  any_goals cases h
  · next hword => exact .inl ⟨hword, h⟩
  · next hword =>
    split at h
    · cases h
    · next next hset => exact .inr (.inl ⟨next, hword, hset, h⟩)
  · next name value? hversion hhelp hversion' hhelp' hword =>
    clear hversion hhelp hversion' hhelp'
    split at h
    · cases h
    · next f hflag =>
      split at h
      · cases h
      · next next hset =>
        rw [eq_name_of_ofName? hflag] at hword
        exact .inr (.inr (.inl ⟨f, next, hword, hset, h⟩))
    · next option value _ _ =>
      split at h
      · cases h
      · next next hset =>
        exact .inr (.inr (.inr (.inl ⟨option, name, value, next, hword, hset, h⟩)))
    · next option hflag _ =>
      split at h
      · cases h
      · next value later =>
        split at h
        · next hvalue =>
          split at h
          · cases h
          · next next hset =>
            exact .inr (.inr (.inr (.inr
              ⟨option, name, value, later, next, hword, hflag, rfl, hvalue, hset, h⟩)))
        · cases h
    · cases h

/-! ## Drafts -/

theorem exists_of_map_eq_ok {ε α β : Type} {x : Except ε α} {f : α → β} {b : β}
    (h : x.map f = .ok b) : ∃ a, x = .ok a ∧ f a = b := by
  cases x with
  | error e => cases h
  | ok a => exact ⟨a, rfl, Except.ok.inj h⟩

theorem flag_of_setProgram {d next : Draft} {word : String} (h : d.setProgram word = .ok next)
    (f : Flag) : next.flag f = d.flag f := by
  unfold Draft.setProgram at h
  split at h
  · cases h
  · split at h
    · cases h
    · cases h
      cases f <;> rfl

theorem flag_of_setValue {d next : Draft} {option : ValueOption} {value : String}
    (h : d.setValue option value = .ok next) (f : Flag) : next.flag f = d.flag f := by
  cases option <;>
  · simp only [Draft.setValue] at h
    obtain ⟨v, -, rfl⟩ := exists_of_map_eq_ok h
    cases f <;> rfl

theorem flag_of_setFlag {d next : Draft} {g : Flag} (h : d.setFlag g = .ok next) (f : Flag) :
    next.flag f = true ↔ d.flag f = true ∨ f = g := by
  cases g <;>
  · simp only [Draft.setFlag] at h
    split at h
    · cases h
    · cases h
      cases f <;> simp [Draft.flag]

theorem flag_of_finish {d : Draft} {o : Options} (h : d.finish = .ok (.run o)) (f : Flag) :
    o.flag f = d.flag f := by
  unfold Draft.finish at h
  split at h
  · cases h
  · cases h
    cases f <;> rfl

theorem flag_of_parseLiterals {words : List String} {d : Draft} {o : Options}
    (h : parseLiterals words d = .ok (.run o)) (f : Flag) : o.flag f = d.flag f := by
  induction words generalizing d with
  | nil => exact flag_of_finish h f
  | cons word rest ih =>
    rw [parseLiterals] at h
    split at h
    · cases h
    · next next hset => rw [ih h, flag_of_setProgram hset]

/-! ## Command lines -/

/-- The words before the word `--`. -/
def beforeTerminator (words : List String) : List String := words.takeWhile (· ≠ "--")

theorem mem_beforeTerminator_cons {word : String} (h : Word.ofString word ≠ .terminator) (f : Flag)
    (rest : List String) :
    f.word ∈ beforeTerminator (word :: rest) ↔
      Word.ofString word = .long f.name none ∨ f.word ∈ beforeTerminator rest := by
  have hne : word ≠ "--" := fun he => h ((ofString_eq_terminator_iff word).2 he)
  rw [beforeTerminator, List.takeWhile_cons_of_pos (by simpa using hne), List.mem_cons,
    ofString_eq_flag_iff, eq_comm]
  rfl

theorem name_injective {f g : Flag} (h : f.name = g.name) : f = g := by
  cases f <;> cases g <;> first | rfl | exact absurd h (by decide)

/-- Reading on sets the flags whose words are still to come. -/
theorem flag_iff_of_parseWords {words : List String} {d : Draft} {o : Options}
    (h : parseWords words d = .ok (.run o)) (f : Flag) :
    o.flag f = true ↔ d.flag f = true ∨ f.word ∈ beforeTerminator words := by
  -- an option may take two words, so the induction is on their number
  induction hn : words.length using Nat.strongRecOn generalizing words d with
  | ind n ih =>
    cases words with
    | nil =>
      rw [flag_of_finish h]
      simp [beforeTerminator]
    | cons word rest =>
      subst hn
      rcases parseWords_cons h with ⟨hword, hrest⟩ | ⟨next, hword, hset, hrest⟩ |
        ⟨g, next, hword, hset, hrest⟩ | ⟨option, name, value, next, hword, hset, hrest⟩ |
        ⟨option, name, value, later, next, hword, hname, rfl, hvalue, hset, hrest⟩
      · rw [flag_of_parseLiterals hrest, (ofString_eq_terminator_iff word).1 hword]
        simp [beforeTerminator]
      · rw [ih _ (by simp) hrest rfl, flag_of_setProgram hset,
          mem_beforeTerminator_cons (by simp [hword])]
        simp [hword]
      · rw [ih _ (by simp) hrest rfl, flag_of_setFlag hset,
          mem_beforeTerminator_cons (by simp [hword]), hword, or_assoc]
        have hsame : f = g ↔ Word.long g.name none = .long f.name none :=
          ⟨fun he => by rw [he], fun he => (name_injective (Word.long.inj he).1).symm⟩
        rw [hsame]
      · rw [ih _ (by simp) hrest rfl, flag_of_setValue hset,
          mem_beforeTerminator_cons (by simp [hword])]
        simp [hword]
      · have hliteral : Word.ofString value = .literal := of_decide_eq_true hvalue
        have hother : name ≠ f.name := by
          rintro rfl
          cases f <;> cases hname
        have hshorter : later.length < (word :: value :: later).length :=
          Nat.lt_add_of_pos_right Nat.two_pos
        rw [ih _ hshorter hrest rfl, flag_of_setValue hset,
          mem_beforeTerminator_cons (by simp [hword]),
          mem_beforeTerminator_cons (by simp [hliteral])]
        simp [hword, hliteral, hother]

/-- A command line that asks for the player sets exactly the flags whose words it has before the
word `--`. -/
theorem flag_iff_of_parse {words : List String} {o : Options} (h : parse words = .ok (.run o))
    (f : Flag) : o.flag f = true ↔ f.word ∈ beforeTerminator words := by
  rw [flag_iff_of_parseWords h f]
  cases f <;> simp [Draft.flag]

end Chip8.CommandLine
