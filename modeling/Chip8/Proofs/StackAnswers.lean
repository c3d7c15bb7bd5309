import Chip8.ReturnStack

/-!
# The return stack seen from outside

All that can be known of a return stack are its answers: whether a push found room, which address a
pop took off, how many addresses there are. They are the answers of a list that takes a push only
while it has fewer than twelve addresses and gives the latest address back first. The view `toList`
carries every single request over to that list. What earlier calls left in the slots above the depth
is not part of the view, so no answer hangs on it; and pops bring out all that is.

Results:
* `listRespond_toList`: one request, to the stack and to its view.
* `answers_eq_of_view`: from one request to any sequence of them.
* `respond_of_isRefusal`: a request that is turned down leaves the stack as it is.
* `answers_eq_iff`: the stacks that no requests can tell apart.
* `answers_like_bounded_list`: what a new stack answers to any sequence of requests.
-/

namespace Chip8.ReturnStack

/-! ## Requests and answers -/

/-- What a stack can be asked for. -/
inductive Request
  | push (address : UInt16)
  | pop
  | depth
deriving DecidableEq

/-- What it answers: whether there was room, the address taken off if there was one, the number of
addresses. -/
inductive Answer
  | pushed (accepted : Bool)
  | popped (address : Option UInt16)
  | depth (count : Nat)
deriving DecidableEq

/-- Whether the request could not be met: a push without room, or a pop without an address. -/
def Answer.isRefusal : Answer → Bool
  | pushed accepted => !accepted
  | popped address => address.isNone
  | depth _ => false

/-- The answer of the return stack, and the stack after it. -/
def respond (s : ReturnStack) : Request → Answer × ReturnStack
  | .push address =>
    match s.push? address with
    | some pushed => (.pushed true, pushed)
    | none => (.pushed false, s)
  | .pop =>
    match s.pop? with
    | some (address, popped) => (.popped (some address), popped)
    | none => (.popped none, s)
  | .depth => (.depth s.depth, s)

/-- The answer of a list of at most twelve addresses, the latest one first, and the list after it. -/
def listRespond (addresses : List UInt16) : Request → Answer × List UInt16
  | .push address =>
    if addresses.length < 12 then (.pushed true, address :: addresses)
    else (.pushed false, addresses)
  | .pop => (.popped addresses.head?, addresses.tail)
  | .depth => (.depth addresses.length, addresses)

/-! ## Sequences of requests -/

section Sequences

variable {σ τ : Type} (answer : σ → Request → Answer × σ)

/-- What some requests leave, one after the other. -/
def after (s : σ) (requests : List Request) : σ := requests.foldl (fun s r => (answer s r).2) s

/-- The answers to some requests, the first one first. -/
def answers (s : σ) : List Request → List Answer
  | [] => []
  | r :: rest => (answer s r).1 :: answers (answer s r).2 rest

theorem length_answers (s : σ) (requests : List Request) :
    (answers answer s requests).length = requests.length := by
  induction requests generalizing s with
  | nil => rfl
  | cons r rest ih => rw [answers, List.length_cons, ih, List.length_cons]

theorem answers_append (s : σ) (before later : List Request) :
    answers answer s (before ++ later) =
      answers answer s before ++ answers answer (after answer s before) later := by
  induction before generalizing s with
  | nil => rfl
  | cons r rest ih =>
    rw [List.cons_append, answers, answers, ih, List.cons_append]
    rfl

/-- A view that keeps each answer and follows each change keeps the answers to all requests. -/
theorem answers_eq_of_view {answer : σ → Request → Answer × σ} {other : τ → Request → Answer × τ}
    {view : σ → τ}
    (hview : ∀ s r, other (view s) r = ((answer s r).1, view (answer s r).2))
    (s : σ) (requests : List Request) :
    answers answer s requests = answers other (view s) requests := by
  induction requests generalizing s with
  | nil => rfl
  | cons r rest ih => rw [answers, answers, hview, ih]

/-- A request that changes nothing can be left out: the other answers stay what they are. -/
theorem eraseIdx_answers {s : σ} {before : List Request} {r : Request}
    (h : (answer (after answer s before) r).2 = after answer s before) (later : List Request) :
    (answers answer s (before ++ r :: later)).eraseIdx before.length =
      answers answer s (before ++ later) := by
  have hlength := length_answers answer s before
  rw [answers_append, answers_append, answers, h,
    List.eraseIdx_append_of_length_le (Nat.le_of_eq hlength), hlength, Nat.sub_self,
    List.eraseIdx_cons_zero]

end Sequences

/-! ## The stack and its view -/

/-- The view answers as the stack does, and goes on being the view of what the stack becomes. -/
theorem listRespond_toList (s : ReturnStack) (r : Request) :
    listRespond s.toList r = ((s.respond r).1, (s.respond r).2.toList) := by
  cases r with
  | push address =>
    have hpush := toList_push s address
    rw [capacity] at hpush
    simp only [listRespond, respond]
    by_cases hroom : s.toList.length < 12
    · rw [if_pos hroom] at hpush
      obtain ⟨pushed, hsome, hpushed⟩ := Option.map_eq_some_iff.1 hpush
      simp only [if_pos hroom, hsome, hpushed]
    · rw [if_neg hroom] at hpush
      simp only [if_neg hroom, Option.map_eq_none_iff.1 hpush]
  | pop =>
    have hpop := toList_pop s
    simp only [listRespond, respond]
    cases hlist : s.toList with
    | nil =>
      rw [hlist] at hpop
      simp only [Option.map_eq_none_iff.1 hpop, hlist]
      rfl
    | cons top rest =>
      rw [hlist] at hpop
      obtain ⟨⟨address, popped⟩, hsome, heq⟩ := Option.map_eq_some_iff.1 hpop
      obtain ⟨rfl, rfl⟩ := Prod.mk.inj heq
      simp only [hsome]
      rfl
  | depth => rw [listRespond, respond, length_toList]

theorem answers_toList (s : ReturnStack) (requests : List Request) :
    answers respond s requests = answers listRespond s.toList requests :=
  answers_eq_of_view listRespond_toList s requests

/-- A request that is turned down leaves the stack as it is, slots above the depth included. -/
theorem respond_of_isRefusal {s : ReturnStack} {r : Request} (h : (s.respond r).1.isRefusal) :
    (s.respond r).2 = s := by
  cases r with
  | push address =>
    simp only [respond] at h ⊢
    cases hpush : s.push? address with
    | none => rfl
    | some pushed =>
      rw [hpush] at h
      cases h
  | pop =>
    simp only [respond] at h ⊢
    cases hpop : s.pop? with
    | none => rfl
    | some result =>
      rw [hpop] at h
      cases h
  | depth => rfl

/-! ## What cannot be seen -/

theorem getElem?_toList_slots (s : ReturnStack) (i : Fin 12) :
    s.slots.toList[i.val]? = some (s.slots.get i) := by
  rw [Vector.getElem?_toList, Vector.getElem?_eq_getElem i.isLt]
  rfl

/-- The view consists of the depth and the slots below it. -/
theorem toList_eq_iff {s t : ReturnStack} :
    s.toList = t.toList ↔
      s.depth = t.depth ∧ ∀ i : Fin 12, i.val < s.depth → s.slots.get i = t.slots.get i := by
  constructor
  · intro h
    have hdepth : s.depth = t.depth := by rw [← length_toList, h, length_toList]
    refine ⟨hdepth, ?_⟩
    intro i hi
    have htake : s.slots.toList.take s.depth = t.slots.toList.take t.depth :=
      List.reverse_inj.1 h
    have hslot := congrArg (fun slots => slots[i.val]?) htake
    simp only [List.getElem?_take_of_lt hi, List.getElem?_take_of_lt (hdepth ▸ hi),
      getElem?_toList_slots] at hslot
    exact Option.some.inj hslot
  · rintro ⟨hdepth, hslots⟩
    apply congrArg List.reverse
    apply List.ext_getElem?
    intro i
    by_cases hi : i < s.depth
    · have hplace : i < 12 := Nat.lt_of_lt_of_le hi s.depth_le
      rw [List.getElem?_take_of_lt hi, List.getElem?_take_of_lt (hdepth ▸ hi),
        getElem?_toList_slots s ⟨i, hplace⟩, getElem?_toList_slots t ⟨i, hplace⟩,
        hslots ⟨i, hplace⟩ hi]
    · -- both prefixes have ended, whatever stands in the slots
      rw [List.getElem?_take_eq_none (Nat.not_lt.1 hi),
        List.getElem?_take_eq_none (hdepth ▸ Nat.not_lt.1 hi)]

theorem head?_eq_of_answers_pop {l l' : List UInt16}
    (h : answers listRespond l [.pop] = answers listRespond l' [.pop]) : l.head? = l'.head? := by
  simpa [answers, listRespond] using h

/-- Different lists are told apart by taking off address after address. -/
theorem eq_of_answers_eq {l l' : List UInt16}
    (h : ∀ requests, answers listRespond l requests = answers listRespond l' requests) :
    l = l' := by
  induction l generalizing l' with
  | nil => exact (List.head?_eq_none_iff.1 (head?_eq_of_answers_pop (h [.pop])).symm).symm
  | cons top rest ih =>
    have hhead := head?_eq_of_answers_pop (h [.pop])
    cases l' with
    | nil => cases hhead
    | cons top' rest' =>
      have hrest : rest = rest' := by
        -- what the tails answer is what the lists answer after one more pop
        apply ih
        intro requests
        exact (List.cons.inj (h (.pop :: requests))).2
      rw [hrest, Option.some.inj hhead]

/-- Two stacks answer all requests alike exactly if they agree in the depth and in the slots below
it. -/
theorem answers_eq_iff {s t : ReturnStack} :
    (∀ requests, answers respond s requests = answers respond t requests) ↔
      s.depth = t.depth ∧ ∀ i : Fin 12, i.val < s.depth → s.slots.get i = t.slots.get i := by
  rw [← toList_eq_iff]
  constructor
  · intro h
    apply eq_of_answers_eq
    intro requests
    rw [← answers_toList, ← answers_toList, h]
  · intro h requests
    rw [answers_toList, answers_toList, h]

/-! ## A new stack -/

/-- To any pushes, pops and questions for the depth a new stack gives the answers of the empty list
that takes a push only while it is shorter than twelve and pops its latest address. A push or a pop
that is turned down leaves the stack as it is, so without it all other answers would be the same.
And no requests bring out what is in the slots above the depth: stacks are told apart by their depth
and by the slots below it, and by nothing else. -/
theorem answers_like_bounded_list :
    (∀ requests, answers respond empty requests = answers listRespond [] requests) ∧
    (∀ before r later, (respond (after respond empty before) r).1.isRefusal →
      after respond empty (before ++ [r]) = after respond empty before ∧
      (answers respond empty (before ++ r :: later)).eraseIdx before.length =
        answers respond empty (before ++ later)) ∧
    ∀ s t : ReturnStack,
      (∀ requests, answers respond s requests = answers respond t requests) ↔
        s.depth = t.depth ∧ ∀ i : Fin 12, i.val < s.depth → s.slots.get i = t.slots.get i := by
  refine ⟨?_, ?_, ?_⟩
  · intro requests
    rw [answers_toList, toList_empty]
  · intro before r later hrefused
    have hsame := respond_of_isRefusal hrefused
    refine ⟨?_, eraseIdx_answers respond hsame later⟩
    rw [after, List.foldl_append]
    exact hsame
  · intro s t
    exact answers_eq_iff

/-- Twelve calls and one too many; a return before any call; and a stack with one open call beside
one that had a second call, which it still holds in the slot above the depth. -/
theorem answers_like_bounded_list_full :
    let calls : List Request := (List.range 12).map fun n => .push (UInt16.ofNat n)
    let later : List Request := [.depth, .pop, .depth]
    let called := after respond empty [.push 1]
    let returned := after respond empty [.push 1, .push 2, .pop]
    answers respond empty (calls ++ .push 0xFFF :: later) =
      List.replicate 12 (.pushed true) ++
        [.pushed false, .depth 12, .popped (some 11), .depth 11] ∧
    (answers respond empty (calls ++ .push 0xFFF :: later)).eraseIdx 12 =
      answers respond empty (calls ++ later) ∧
    (answers respond empty [.pop, .push 7, .pop]).eraseIdx 0 =
      answers respond empty [.push 7, .pop] ∧
    returned ≠ called ∧
    ∀ requests, answers respond returned requests = answers respond called requests := by
  intro calls later called returned
  obtain ⟨hlist, hrefused, hseen⟩ := answers_like_bounded_list
  have hfull : (respond (after respond empty calls) (.push 0xFFF)).1.isRefusal := by
    decide +kernel
  have hnone : (respond (after respond empty []) .pop).1.isRefusal := by decide
  refine ⟨?_, ?_, ?_, ?_, ?_⟩
  · rw [hlist]
    decide
  · exact (hrefused calls (.push 0xFFF) later hfull).2
  · exact (hrefused [] .pop [.push 7, .pop] hnone).2
  · decide
  · exact (hseen returned called).2 ⟨by decide, by decide⟩

end Chip8.ReturnStack
