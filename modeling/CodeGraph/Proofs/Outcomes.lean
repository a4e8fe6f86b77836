import CodeGraph.Fault
import Mathlib.Data.List.Forall2

/-!
This file takes apart what operations give that are carried out one after the other.
-/

namespace CodeGraph.Outcome

variable {α β : Type}

theorem ok_bind (value : α) (next : α → Outcome β) : (Except.ok value >>= next) = next value := rfl

theorem bind_ok {first : Outcome α} {next : α → Outcome β} {result : β}
    (given : (first >>= next) = .ok result) :
    ∃ value, first = .ok value ∧ next value = .ok result := by
  cases first with
  | error fault => cases given
  | ok value => exact ⟨value, rfl, given⟩

theorem map_ok_iff {first : Outcome α} {change : α → β} {result : β} :
    first.map change = .ok result ↔ ∃ value, first = .ok value ∧ change value = result := by
  cases first <;> simp [Except.map]

theorem map_ok {first : Outcome α} {change : α → β} {result : β}
    (given : first.map change = .ok result) :
    ∃ value, first = .ok value ∧ change value = result := map_ok_iff.mp given

theorem exists_ok {outcome : Outcome α} (given : outcome.toOption.isSome = true) :
    ∃ value, outcome = .ok value := by
  cases outcome with
  | error fault => cases given
  | ok value => exact ⟨value, rfl⟩

/-- An outcome that passes a check is a value that passes it. -/
theorem exists_of_any {outcome : Outcome α} {check : α → Bool}
    (passes : outcome.toOption.any check = true) :
    ∃ value, outcome = .ok value ∧ check value = true := by
  cases outcome with
  | error fault => cases passes
  | ok value => exact ⟨value, rfl, passes⟩

/-- The items are converted one by one. -/
theorem mapM_ok {convert : α → Outcome β} {items : List α} {values : List β}
    (converted : items.mapM convert = .ok values) :
    List.Forall₂ (fun item value => convert item = .ok value) items values := by
  induction items generalizing values with
  | nil =>
      cases converted
      exact .nil
  | cons item rest inductionHypothesis =>
      rw [List.mapM_cons] at converted
      obtain ⟨value, first, converted⟩ := bind_ok converted
      obtain ⟨more, others, converted⟩ := bind_ok converted
      cases converted
      exact .cons first (inductionHypothesis others)

/-- If each item can be converted, all of them can. -/
theorem exists_mapM_ok {convert : α → Outcome β} {items : List α}
    (each : ∀ item ∈ items, ∃ value, convert item = .ok value) :
    ∃ values, items.mapM convert = .ok values := by
  induction items with
  | nil => exact ⟨[], rfl⟩
  | cons item rest inductionHypothesis =>
      obtain ⟨value, converted⟩ := each item List.mem_cons_self
      obtain ⟨values, others⟩ := inductionHypothesis fun other member =>
        each other (List.mem_cons_of_mem _ member)
      refine ⟨value :: values, ?_⟩
      rw [List.mapM_cons, converted, others]
      rfl

theorem exists_of_forall₂ {related : α → β → Prop} {firsts : List α}
    {seconds : List β} (pairs : List.Forall₂ related firsts seconds) {first : α}
    (member : first ∈ firsts) : ∃ second ∈ seconds, related first second := by
  induction pairs with
  | nil => cases member
  | cons pair others inductionHypothesis =>
      rcases List.mem_cons.mp member with rfl | behind
      · exact ⟨_, List.mem_cons_self, pair⟩
      · obtain ⟨second, inside, holding⟩ := inductionHypothesis behind
        exact ⟨second, List.mem_cons_of_mem _ inside, holding⟩

/-- The operation gives a value, or its input is refused. -/
def OnlyRefuses (outcome : Outcome α) : Prop :=
  ∀ fault, outcome = .error fault → ∃ refusal, fault = .refused refusal

theorem ok_onlyRefuses (value : α) : OnlyRefuses (.ok value) := fun _ failed => nomatch failed

theorem refuse_onlyRefuses (refusal : Refusal) : OnlyRefuses (refuse refusal : Outcome α) :=
  fun _ failed => ⟨refusal, (Except.error.inj failed).symm⟩

/-- An operation that only refuses does so exactly if it gives no value. -/
theorem OnlyRefuses.refuses_iff {outcome : Outcome α} (only : OnlyRefuses outcome) :
    (∃ refusal, outcome = refuse refusal) ↔ ¬ ∃ value, outcome = .ok value := by
  cases outcome with
  | ok value => exact iff_of_false (fun ⟨_, refused⟩ => nomatch refused) fun none => none ⟨_, rfl⟩
  | error fault =>
      obtain ⟨refusal, rfl⟩ := only fault rfl
      exact iff_of_true ⟨refusal, rfl⟩ fun ⟨_, given⟩ => nomatch given

theorem OnlyRefuses.bind {first : Outcome α} {next : α → Outcome β} (former : OnlyRefuses first)
    (latter : ∀ value, first = .ok value → OnlyRefuses (next value)) :
    OnlyRefuses (first >>= next) := by
  intro fault failed
  cases first with
  | error cause => exact former fault (congrArg Except.error (Except.error.inj failed))
  | ok value => exact latter value rfl fault failed

theorem OnlyRefuses.map {outcome : Outcome α} (only : OnlyRefuses outcome) (change : α → β) :
    OnlyRefuses (outcome.map change) := by
  intro fault failed
  cases outcome with
  | error cause => exact only fault (congrArg Except.error (Except.error.inj failed))
  | ok value => cases failed

end CodeGraph.Outcome
