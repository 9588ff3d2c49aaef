/-
# Demands and refusals

A step that may be refused asks certain things of its input, one after another.  It succeeds
exactly if all of them are met, and otherwise the first one that is not met decides with which error
it is refused.  Whether a step keeps to a list of demands in this way is said by `Enforces`, for
which it does not matter how the step comes to its decision.

The demands of steps that follow each other are those of the first step and then those of the
second (`Enforces.bind`), so that the demands of a whole are put together in the order in which the
whole is.
-/

import SqlCompose.Error
import SqlCompose.Proofs.Refusals

namespace SqlCompose

/-- What is asked of an input, and the errors which tell that it is not met. -/
structure Demand where
  Met : Prop
  Refusal : Error → Prop

/-- Whether an error tells of the first of some demands that is not met. -/
inductive FirstUnmet : List Demand → Error → Prop where
  | here {d : Demand} {rest : List Demand} {e : Error} (unmet : ¬ d.Met) (refusal : d.Refusal e) :
      FirstUnmet (d :: rest) e
  | later {d : Demand} {rest : List Demand} {e : Error} (met : d.Met)
      (unmet : FirstUnmet rest e) : FirstUnmet (d :: rest) e

/-- Whether a step succeeds exactly if some demands are met, and is refused otherwise with an error
of the first one that is not. -/
structure Enforces {α : Type} (step : Except Error α) (demands : List Demand) : Prop where
  ok_iff : (∃ a, step = .ok a) ↔ ∀ d ∈ demands, d.Met
  error_iff : ∀ e, step = .error e ↔ FirstUnmet demands e

section FirstUnmet

variable {d : Demand} {ds rest : List Demand} {e : Error}

theorem not_firstUnmet_nil : ¬ FirstUnmet [] e := nofun

theorem firstUnmet_cons_iff :
    FirstUnmet (d :: rest) e ↔ (¬ d.Met ∧ d.Refusal e) ∨ (d.Met ∧ FirstUnmet rest e) := by
  constructor
  · rintro (⟨unmet, refusal⟩ | ⟨met, unmet⟩)
    · exact .inl ⟨unmet, refusal⟩
    · exact .inr ⟨met, unmet⟩
  · rintro (⟨unmet, refusal⟩ | ⟨met, unmet⟩)
    · exact .here unmet refusal
    · exact .later met unmet

theorem firstUnmet_append_iff :
    FirstUnmet (ds ++ rest) e ↔ FirstUnmet ds e ∨ ((∀ d ∈ ds, d.Met) ∧ FirstUnmet rest e) := by
  induction ds with
  | nil => simp [not_firstUnmet_nil]
  | cons d ds ih =>
      rw [List.cons_append, firstUnmet_cons_iff, firstUnmet_cons_iff, ih, List.forall_mem_cons]
      tauto

/-- The first demand that is not met has only met ones before it. -/
theorem firstUnmet_iff_exists :
    FirstUnmet ds e ↔ ∃ before d after, ds = before ++ d :: after ∧ (∀ b ∈ before, b.Met) ∧
      ¬ d.Met ∧ d.Refusal e := by
  constructor
  · intro first
    induction first with
    | here unmet refusal => exact ⟨[], _, _, rfl, nofun, unmet, refusal⟩
    | later met _ ih =>
        obtain ⟨before, d, after, rfl, allMet, unmet⟩ := ih
        exact ⟨_ :: before, d, after, rfl, List.forall_mem_cons.mpr ⟨met, allMet⟩, unmet⟩
  · rintro ⟨before, d, after, rfl, allMet, unmet, refusal⟩
    exact firstUnmet_append_iff.mpr (.inr ⟨allMet, .here unmet refusal⟩)

theorem not_firstUnmet_of_met (met : ∀ d ∈ ds, d.Met) : ¬ FirstUnmet ds e := by
  rw [firstUnmet_iff_exists]
  rintro ⟨before, d, after, rfl, -, unmet, -⟩
  exact unmet (met d (by simp))

/-- Of the demands of the items of a list, the first item whose demand is not met decides. -/
theorem firstUnmet_map_iff {α : Type} {demand : α → Demand} {items : List α} :
    FirstUnmet (items.map demand) e ↔
      ∃ before a after, items = before ++ a :: after ∧ (∀ b ∈ before, (demand b).Met) ∧
        ¬ (demand a).Met ∧ (demand a).Refusal e := by
  rw [firstUnmet_iff_exists]
  constructor
  · rintro ⟨_, _, _, split, met, unmet⟩
    obtain ⟨before, rest, rfl, rfl, isRest⟩ := List.map_eq_append_iff.mp split
    obtain ⟨a, after, rfl, rfl, rfl⟩ := List.map_eq_cons_iff.mp isRest
    exact ⟨before, a, after, rfl, List.forall_mem_map.mp met, unmet⟩
  · rintro ⟨before, a, after, rfl, met, unmet⟩
    exact ⟨_, _, _, by rw [List.map_append, List.map_cons], List.forall_mem_map.mpr met, unmet⟩

end FirstUnmet

namespace Enforces

variable {α β : Type} {step : Except Error α} {ds : List Demand}

theorem exists_error_iff (enforces : Enforces step ds) :
    (∃ e, step = .error e) ↔ ∃ d ∈ ds, ¬ d.Met := by
  have refused : (∃ e, step = .error e) ↔ ¬ ∃ a, step = .ok a := by cases step <;> simp
  rw [refused, enforces.ok_iff]
  push Not
  rfl

theorem ok (a : α) : Enforces (.ok a) [] where
  ok_iff := by simp
  error_iff e := by simp [not_firstUnmet_nil]

/-- A step with a single demand. -/
theorem single {d : Demand} (ok_iff : (∃ a, step = .ok a) ↔ d.Met)
    (error_iff : ∀ e, step = .error e ↔ ¬ d.Met ∧ d.Refusal e) : Enforces step [d] where
  ok_iff := by simpa using ok_iff
  error_iff e := by
    rw [error_iff, firstUnmet_cons_iff]
    simp [not_firstUnmet_nil]

theorem bind {next : α → Except Error β} {rest : List Demand} (first : Enforces step ds)
    (second : ∀ a, step = .ok a → Enforces (next a) rest) :
    Enforces (step >>= next) (ds ++ rest) := by
  cases isStep : step with
  | error e =>
      rw [isStep] at first
      have unmet : ¬ ∀ d ∈ ds, d.Met := by
        rw [← first.ok_iff]
        nofun
      constructor
      · rw [List.forall_mem_append]
        exact iff_of_false nofun fun met => unmet met.1
      · intro e'
        rw [firstUnmet_append_iff, ← first.error_iff]
        simp [Bind.bind, Except.bind, unmet]
  | ok a =>
      rw [isStep] at first
      have met : ∀ d ∈ ds, d.Met := first.ok_iff.mp ⟨a, rfl⟩
      have behind := second a isStep
      constructor
      · rw [List.forall_mem_append, ← behind.ok_iff]
        exact (and_iff_right met).symm
      · intro e
        rw [firstUnmet_append_iff, ← first.error_iff, ← behind.error_iff, and_iff_right met]
        simp [Bind.bind, Except.bind]

theorem map (f : α → β) (enforces : Enforces step ds) : Enforces (f <$> step) ds := by
  have whole := enforces.bind fun a _ => ok (f a)
  rw [List.append_nil] at whole
  cases step <;> exact whole

/-- A demand that is met changes nothing before the others. -/
theorem cons_of_met {d : Demand} (enforces : Enforces step ds) (met : d.Met) :
    Enforces step (d :: ds) where
  ok_iff := by
    rw [List.forall_mem_cons, enforces.ok_iff]
    exact (and_iff_right met).symm
  error_iff e := by
    rw [firstUnmet_cons_iff, enforces.error_iff]
    simp [met]

/-- A step that is refused for a demand asks nothing more. -/
theorem error {d : Demand} {e : Error} (unmet : ¬ d.Met) (refusal : ∀ e', d.Refusal e' ↔ e' = e) :
    Enforces (.error e : Except Error α) (d :: ds) where
  ok_iff := by
    rw [List.forall_mem_cons]
    exact iff_of_false nofun fun met => unmet met.1
  error_iff e' := by
    rw [firstUnmet_cons_iff, refusal]
    simp [unmet, eq_comm]

/-- Demands that are always met change nothing behind the others. -/
theorem append_of_met {more : List Demand} (enforces : Enforces step ds)
    (met : ∀ d ∈ more, d.Met) : Enforces step (ds ++ more) where
  ok_iff := by
    rw [List.forall_mem_append, enforces.ok_iff]
    exact (and_iff_left met).symm
  error_iff e := by
    have none : ¬ FirstUnmet more e := not_firstUnmet_of_met met
    rw [firstUnmet_append_iff, enforces.error_iff]
    simp [none]

/-- Once the first demands are met the others are left. -/
theorem of_append {more : List Demand} (enforces : Enforces step (ds ++ more))
    (met : ∀ d ∈ ds, d.Met) : Enforces step more where
  ok_iff := by
    rw [enforces.ok_iff, List.forall_mem_append]
    exact and_iff_right met
  error_iff e := by
    have none : ¬ FirstUnmet ds e := not_firstUnmet_of_met met
    rw [enforces.error_iff, firstUnmet_append_iff, or_iff_right none, and_iff_right met]

/-- The items of a list are asked for one after another. -/
theorem mapM {find : α → Except Error β} {demands : α → List Demand} {as : List α}
    (each : ∀ a ∈ as, Enforces (find a) (demands a)) :
    Enforces (as.mapM find) (as.flatMap demands) := by
  induction as with
  | nil => exact ok []
  | cons a rest ih =>
      rw [List.forall_mem_cons] at each
      rw [List.mapM_cons, List.flatMap_cons]
      refine each.1.bind fun b _ => ?_
      have behind := (ih each.2).map (b :: ·)
      simpa using behind

end Enforces

end SqlCompose
