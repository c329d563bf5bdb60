import Mathlib.Data.List.Forall2

/-!
# Results step by step

A computation that may fail goes on where its first step has a result, and a change of the error leaves
results alone.
-/

namespace ProjectGauge

variable {ε ε' α β : Type}

@[simp] theorem ok_bind (value : α) (next : α → Except ε β) : (Except.ok value >>= next) = next value :=
  rfl

@[simp] theorem error_bind (error : ε) (next : α → Except ε β) :
    (Except.error error >>= next) = .error error :=
  rfl

@[simp] theorem mapError_ok (change : ε → ε') (value : α) :
    (Except.ok value).mapError change = .ok value :=
  rfl

@[simp] theorem mapError_error (change : ε → ε') (error : ε) :
    (Except.error error : Except ε α).mapError change = .error (change error) :=
  rfl

/-- A computation of two steps has a result if and only if both steps have one. -/
theorem bind_eq_ok {first : Except ε α} {next : α → Except ε β} {result : β} :
    (first >>= next) = .ok result ↔ ∃ value, first = .ok value ∧ next value = .ok result := by
  cases first with
  | error error => simp
  | ok value => simp

theorem mapError_eq_ok {change : ε → ε'} {check : Except ε α} {value : α} :
    check.mapError change = .ok value ↔ check = .ok value := by
  cases check <;> simp

/-- Two computations fail alike, or both have results and these are related. -/
inductive ResultRel (related : α → β → Prop) : Except ε α → Except ε β → Prop where
  | error (error : ε) : ResultRel related (.error error) (.error error)
  | ok {value : α} {other : β} (here : related value other) : ResultRel related (.ok value) (.ok other)

namespace ResultRel

variable {γ δ : Type} {related : α → β → Prop} {relatedNext : γ → δ → Prop}

theorem cases {first : Except ε α} {second : Except ε β} (results : ResultRel related first second) :
    (∃ error, first = .error error ∧ second = .error error) ∨
      ∃ value other, first = .ok value ∧ second = .ok other ∧ related value other := by
  cases results with
  | error error => exact .inl ⟨error, rfl, rfl⟩
  | ok here => exact .inr ⟨_, _, rfl, rfl, here⟩

theorem eq {first second : Except ε α} (results : ResultRel (· = ·) first second) : first = second := by
  cases results with
  | error error => rfl
  | ok same => rw [same]

theorem bind {first : Except ε α} {second : Except ε β} {next : α → Except ε γ} {otherNext : β → Except ε δ}
    (results : ResultRel related first second)
    (each : ∀ value other, related value other → ResultRel relatedNext (next value) (otherNext other)) :
    ResultRel relatedNext (first >>= next) (second >>= otherNext) := by
  cases results with
  | error error => exact .error error
  | ok here => exact each _ _ here

/-- The first step is the same one. -/
theorem bind_same {first : Except ε α} {next : α → Except ε γ} {otherNext : α → Except ε δ}
    (each : ∀ value, ResultRel relatedNext (next value) (otherNext value)) :
    ResultRel relatedNext (first >>= next) (first >>= otherNext) := by
  cases first with
  | error error => exact .error error
  | ok value => exact each value

/-- What is made of related results in the same way is the same. -/
theorem map_eq {first : Except ε α} {second : Except ε β} {view : α → γ} {otherView : β → γ}
    (results : ResultRel related first second)
    (each : ∀ value other, related value other → view value = otherView other) :
    first.map view = second.map otherView := by
  cases results with
  | error error => rfl
  | ok here => exact congrArg _ (each _ _ here)

theorem mapError {first : Except ε α} {second : Except ε β} (results : ResultRel related first second)
    (change : ε → ε') : ResultRel related (first.mapError change) (second.mapError change) := by
  cases results with
  | error error => exact .error _
  | ok here => exact .ok here

end ResultRel

theorem toOption_bind (first : Except ε α) (next : α → Except ε β) :
    (first >>= next).toOption = first.toOption.bind fun value => (next value).toOption := by
  cases first <;> rfl

theorem toOption_mapError (change : ε → ε') (check : Except ε α) :
    (check.mapError change).toOption = check.toOption := by
  cases check <;> rfl

theorem toOption_eq_some {computation : Except ε α} {value : α} :
    computation.toOption = some value ↔ computation = .ok value := by
  cases computation <;> simp [Except.toOption]

theorem exists_eq_ok {computation : Except ε α} (worked : computation.toOption.isSome = true) :
    ∃ value, computation = .ok value := by
  cases computation with
  | error error => cases worked
  | ok value => exact ⟨value, rfl⟩

theorem exists_eq_error {computation : Except ε α} (failed : computation.toOption.isNone = true) :
    ∃ error, computation = .error error := by
  cases computation with
  | error error => exact ⟨error, rfl⟩
  | ok value => cases failed

/-- A computation for each item of a list has a result if it has one for every item. -/
theorem mapM_ok {compute : α → Except ε β} {items : List α}
    (each : ∀ item ∈ items, ∃ result, compute item = .ok result) :
    ∃ results, items.mapM compute = .ok results := by
  induction items with
  | nil => exact ⟨[], rfl⟩
  | cons item rest inductionHypothesis =>
    obtain ⟨first, firstComputed⟩ := each item List.mem_cons_self
    obtain ⟨others, othersComputed⟩ := inductionHypothesis fun other member =>
      each other (List.mem_cons_of_mem _ member)
    exact ⟨first :: others, by rw [List.mapM_cons, firstComputed, ok_bind, othersComputed]; rfl⟩

/-- A computation that has a result for every item of a list gives the list of these results. -/
theorem mapM_eq_ok_map {compute : α → Except ε β} {result : α → β} {items : List α}
    (each : ∀ item ∈ items, compute item = .ok (result item)) :
    items.mapM compute = .ok (items.map result) := by
  induction items with
  | nil => rfl
  | cons item rest inductionHypothesis =>
    have others := inductionHypothesis fun other member => each other (List.mem_cons_of_mem _ member)
    rw [List.mapM_cons, each item List.mem_cons_self, ok_bind, others]
    rfl

theorem exists_of_mapM_eq_error {compute : α → Except ε β} {items : List α} {error : ε}
    (failed : items.mapM compute = .error error) : ∃ item ∈ items, compute item = .error error := by
  induction items with
  | nil => cases failed
  | cons item rest inductionHypothesis =>
    rw [List.mapM_cons] at failed
    cases first : compute item with
    | error other =>
      rw [first, error_bind] at failed
      cases failed
      exact ⟨item, List.mem_cons_self, first⟩
    | ok result =>
      rw [first, ok_bind] at failed
      cases others : rest.mapM compute with
      | error other =>
        rw [others, error_bind] at failed
        cases failed
        obtain ⟨behind, member, computed⟩ := inductionHypothesis others
        exact ⟨behind, List.mem_cons_of_mem _ member, computed⟩
      | ok results =>
        rw [others] at failed
        cases failed

/-- A computation for each item of a list gives the results of the items, one after the other. -/
theorem mapM_eq_ok_iff {compute : α → Except ε β} {items : List α} {results : List β} :
    items.mapM compute = .ok results ↔
      List.Forall₂ (fun item result => compute item = .ok result) items results := by
  induction items generalizing results with
  | nil => cases results <;> simp [pure, Except.pure]
  | cons item rest inductionHypothesis =>
    rw [List.mapM_cons, bind_eq_ok, List.forall₂_cons_left_iff]
    constructor
    · rintro ⟨first, computed, others⟩
      obtain ⟨behind, restComputed, same⟩ := bind_eq_ok.mp others
      cases same
      exact ⟨first, behind, computed, inductionHypothesis.mp restComputed, rfl⟩
    · rintro ⟨first, behind, computed, restComputed, rfl⟩
      exact ⟨first, computed, bind_eq_ok.mpr ⟨behind, inductionHypothesis.mpr restComputed, rfl⟩⟩

theorem exists_mem_of_forall₂ {related : α → β → Prop} {items : List α} {results : List β}
    (all : List.Forall₂ related items results) :
    ∀ item ∈ items, ∃ result ∈ results, related item result := by
  induction all with
  | nil => simp
  | cons here _ inductionHypothesis =>
    rintro item (_ | ⟨_, later⟩)
    · exact ⟨_, List.mem_cons_self, here⟩
    · obtain ⟨result, member, related⟩ := inductionHypothesis item later
      exact ⟨result, List.mem_cons_of_mem _ member, related⟩

end ProjectGauge
