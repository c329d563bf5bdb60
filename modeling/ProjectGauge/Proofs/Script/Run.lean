import ProjectGauge.Script.Module
import ProjectGauge.Proofs.Result

/-!
# Running a parser

A parser is a function of the number of times that a step may be repeated and of a state.  The equations
here say what the building blocks do as such functions; no proof about a parser has to look further down.

* `length_of_manyUntil` bounds a list that is parsed part by part by the number of repetitions.
* `length_importSources_le` bounds the import declarations of a module by its characters.
-/

namespace ProjectGauge.Script

variable {α β : Type}

/-! ## Building blocks -/

@[simp] theorem bind_run (first : Parse α) (next : α → Parse β) (limit : Nat) (state : State) :
    (first >>= next) limit state = first limit state >>= fun result => next result.1 limit result.2 :=
  rfl

@[simp] theorem pure_run (value : α) (limit : Nat) (state : State) :
    (pure value : Parse α) limit state = .ok (value, state) :=
  rfl

@[simp] theorem get_run (limit : Nat) (state : State) :
    (get : Parse State) limit state = .ok (state, state) :=
  rfl

@[simp] theorem read_run (limit : Nat) (state : State) :
    (read : Parse Nat) limit state = .ok (limit, state) :=
  rfl

/-! ## Lists of parts -/

/-- One round of a list that is parsed part by part. -/
def partStep (isEnd : Parse Bool) (part : Parse α) (parts : List α) : Parse (List α ⊕ List α) := do
  if ← isEnd then return .inr parts.reverse
  else return .inl ((← part) :: parts)

theorem manyUntil_run (isEnd : Parse Bool) (part : Parse α) (limit : Nat) (state : State) :
    manyUntil isEnd part limit state = loopUpTo (partStep isEnd part) limit [] limit state :=
  rfl

theorem length_of_loopUpTo (isEnd : Parse Bool) (part : Parse α) (rounds limit : Nat)
    (parts items : List α) (state after : State)
    (parsed : loopUpTo (partStep isEnd part) rounds parts limit state = .ok (items, after)) :
    items.length < rounds + parts.length := by
  induction rounds generalizing parts state with
  | zero => cases parsed
  | succ rounds inductionHypothesis =>
    simp only [loopUpTo, partStep, bind_run] at parsed
    obtain ⟨⟨outcome, reached⟩, stepped, parsed⟩ := bind_eq_ok.mp parsed
    obtain ⟨⟨ended, tested⟩, -, stepped⟩ := bind_eq_ok.mp stepped
    cases ended with
    | true =>
      cases stepped
      cases parsed
      rw [List.length_reverse]
      omega
    | false =>
      obtain ⟨⟨item, taken⟩, -, stepped⟩ := bind_eq_ok.mp stepped
      cases stepped
      have shorter := inductionHypothesis (item :: parts) _ parsed
      rw [List.length_cons] at shorter
      omega

/-- A list that is parsed part by part is shorter than the number of repetitions. -/
theorem length_of_manyUntil {isEnd : Parse Bool} {part : Parse α} {limit : Nat} {state after : State}
    {items : List α} (parsed : manyUntil isEnd part limit state = .ok (items, after)) :
    items.length < limit := by
  rw [manyUntil_run] at parsed
  exact length_of_loopUpTo isEnd part limit limit [] items state after parsed

/-- A module has no more import declarations than characters. -/
theorem length_importSources_le {text : List Char} {found : List (List Char)}
    (parsed : importSources text = .ok found) : found.length ≤ text.length := by
  unfold importSources at parsed
  obtain ⟨start, -, parsed⟩ := bind_eq_ok.mp parsed
  obtain ⟨⟨items, after⟩, itemsParsed, parsed⟩ := bind_eq_ok.mp parsed
  cases parsed
  unfold moduleItems at itemsParsed
  obtain ⟨⟨_, begun⟩, -, itemsParsed⟩ := bind_eq_ok.mp itemsParsed
  have few : items.length < limitFor text := length_of_manyUntil itemsParsed
  have kept : (items.filterMap Node.importSource?).length ≤ items.length :=
    List.length_filterMap_le _ _
  unfold limitFor at few
  omega

end ProjectGauge.Script
