/-
# Steps that may be refused

Much of this library is put together from steps that give a result or are refused, and what
is known of a result is known because no step on the way to it was refused.  The laws here
take such a result apart: each of them says exactly when steps that follow each other end
well, and with what.
-/

import Mathlib.Data.List.Forall2

namespace SqlCompose

variable {ε α β : Type}

theorem exists_eq_ok_iff {step : Except ε α} : (∃ a, step = .ok a) ↔ ∀ e, step ≠ .error e := by
  cases step <;> simp

theorem bind_eq_ok_iff {step : Except ε α} {next : α → Except ε β} {b : β} :
    step >>= next = .ok b ↔ ∃ a, step = .ok a ∧ next a = .ok b := by
  cases step <;> simp [bind, Except.bind]

theorem pure_eq_ok_iff {a b : α} : (pure a : Except ε α) = .ok b ↔ a = b := by
  simp [pure, Except.pure]

theorem map_eq_ok_iff {f : α → β} {step : Except ε α} {b : β} :
    f <$> step = .ok b ↔ ∃ a, step = .ok a ∧ f a = b := by
  cases step <;> simp [Functor.map, Except.map]

theorem mapError_eq_ok_iff {ε' : Type} {f : ε → ε'} {step : Except ε α} {a : α} :
    step.mapError f = .ok a ↔ step = .ok a := by
  cases step <;> simp [Except.mapError]

theorem mapError_eq_error_iff {ε' : Type} {f : ε → ε'} {step : Except ε α} {e : ε'} :
    step.mapError f = .error e ↔ ∃ cause, step = .error cause ∧ f cause = e := by
  cases step <;> simp [Except.mapError]

/-- All items of a list are found exactly if they are found one by one. -/
theorem mapM_eq_ok_iff {find : α → Except ε β} {as : List α} {bs : List β} :
    as.mapM find = .ok bs ↔ List.Forall₂ (fun a b => find a = .ok b) as bs := by
  induction as generalizing bs with
  | nil => cases bs <;> simp [pure_eq_ok_iff]
  | cons a rest ih =>
      simp only [List.mapM_cons, bind_eq_ok_iff, pure_eq_ok_iff, ih, List.forall₂_cons_left_iff]
      constructor
      · rintro ⟨b, foundHere, others, foundRest, rfl⟩
        exact ⟨b, others, foundHere, foundRest, rfl⟩
      · rintro ⟨b, others, foundHere, foundRest, rfl⟩
        exact ⟨b, foundHere, others, foundRest, rfl⟩

/-- Where it is known which items are found and what is found for them, the same is known of
a list of them. -/
theorem mapM_eq_ok_iff_map {find : α → Except ε β} {fits : α → Prop} {result : α → β}
    (found : ∀ a b, find a = .ok b ↔ fits a ∧ b = result a) {as : List α} {bs : List β} :
    as.mapM find = .ok bs ↔ (∀ a ∈ as, fits a) ∧ bs = as.map result := by
  simp only [mapM_eq_ok_iff, found]
  induction as generalizing bs with
  | nil => cases bs <;> simp
  | cons a rest ih =>
      simp only [List.forall₂_cons_left_iff, ih, List.forall_mem_cons, List.map_cons]
      constructor
      · rintro ⟨b, others, ⟨fitsHere, rfl⟩, ⟨fitsRest, rfl⟩, rfl⟩
        exact ⟨⟨fitsHere, fitsRest⟩, rfl⟩
      · rintro ⟨⟨fitsHere, fitsRest⟩, rfl⟩
        exact ⟨_, _, ⟨fitsHere, rfl⟩, ⟨fitsRest, rfl⟩, rfl⟩

theorem mem_mapM_iff {find : α → Except ε β} {as : List α} {bs : List β}
    (found : as.mapM find = .ok bs) {b : β} : b ∈ bs ↔ ∃ a ∈ as, find a = .ok b := by
  rw [mapM_eq_ok_iff] at found
  induction found with
  | nil => simp
  | cons first rest ih => simp [ih, first, eq_comm]

/-- What is found for an item stands where the item stands. -/
theorem getElem?_mapM {find : α → Except ε β} {as : List α} {bs : List β}
    (found : as.mapM find = .ok bs) {i : Nat} {a : α} {b : β} (isHere : as[i]? = some a)
    (foundHere : find a = .ok b) : bs[i]? = some b := by
  rw [mapM_eq_ok_iff] at found
  induction found generalizing i with
  | nil => cases isHere
  | cons first rest ih =>
      cases i with
      | zero =>
          obtain rfl := Option.some.inj isHere
          exact congrArg some (Except.ok.inj (first.symm.trans foundHere))
      | succ i => exact ih isHere

/-- All items of a list are found if each of them is. -/
theorem exists_mapM {find : α → Except ε β} {as : List α} (each : ∀ a ∈ as, ∃ b, find a = .ok b) :
    ∃ bs, as.mapM find = .ok bs := by
  simp only [mapM_eq_ok_iff]
  induction as with
  | nil => exact ⟨[], .nil⟩
  | cons a rest ih =>
      obtain ⟨b, found⟩ := each a List.mem_cons_self
      obtain ⟨bs, others⟩ := ih fun c inRest => each c (List.mem_cons_of_mem _ inRest)
      exact ⟨b :: bs, .cons found others⟩

theorem exists_mapM_iff {find : α → Except ε β} {as : List α} :
    (∃ bs, as.mapM find = .ok bs) ↔ ∀ a ∈ as, ∃ b, find a = .ok b := by
  refine ⟨?_, exists_mapM⟩
  rintro ⟨bs, found⟩
  rw [mapM_eq_ok_iff] at found
  induction found with
  | nil => nofun
  | cons first rest ih => exact List.forall_mem_cons.mpr ⟨⟨_, first⟩, ih⟩

/-- The first item of a list that something holds of is its head, or the first one behind it. -/
theorem exists_first_cons_iff {p : α → Prop} {q : Nat → α → Prop} {a : α} {rest : List α} :
    (∃ before here after, a :: rest = before ++ here :: after ∧ (∀ other ∈ before, p other) ∧
        q before.length here) ↔
      q 0 a ∨ p a ∧ ∃ before here after, rest = before ++ here :: after ∧
        (∀ other ∈ before, p other) ∧ q (before.length + 1) here := by
  constructor
  · rintro ⟨before, here, after, split, passed, holds⟩
    cases before with
    | nil =>
        obtain ⟨rfl, rfl⟩ := List.cons.inj split
        exact .inl holds
    | cons first before =>
        obtain ⟨rfl, rfl⟩ := List.cons.inj split
        rw [List.forall_mem_cons] at passed
        exact .inr ⟨passed.1, before, here, after, rfl, passed.2, holds⟩
  · rintro (holds | ⟨passed, before, here, after, rfl, others, holds⟩)
    · exact ⟨[], a, rest, rfl, nofun, holds⟩
    · exact ⟨a :: before, here, after, rfl, List.forall_mem_cons.mpr ⟨passed, others⟩, holds⟩

/-- The items of a list are refused for the first of them that is. -/
theorem mapM_eq_error_iff {find : α → Except ε β} {as : List α} {e : ε} :
    as.mapM find = .error e ↔ ∃ before a after, as = before ++ a :: after ∧
      (∀ other ∈ before, ∃ b, find other = .ok b) ∧ find a = .error e := by
  induction as with
  | nil => simp [pure, Except.pure]
  | cons a rest ih =>
      rw [exists_first_cons_iff (p := fun other => ∃ b, find other = .ok b)
        (q := fun _ here => find here = .error e), ← ih, List.mapM_cons]
      cases find a with
      | error fault => simp [bind, Except.bind]
      | ok b => cases rest.mapM find <;> simp [bind, Except.bind, pure, Except.pure]

/-- If what an item consists of is read part by part, then so is what the items of a list consist
of, and what refuses the one refuses the other. -/
theorem flatMap_mapM {γ δ : Type} {find : α → Except ε β} {contents : β → List γ}
    {parts : α → List δ} {read : δ → Except ε γ} {as : List α}
    (each : ∀ a ∈ as, contents <$> find a = (parts a).mapM read) :
    List.flatMap contents <$> as.mapM find = (as.flatMap parts).mapM read := by
  induction as with
  | nil => rfl
  | cons a rest ih =>
      have here := each a List.mem_cons_self
      have others := ih fun b inRest => each b (List.mem_cons_of_mem _ inRest)
      rw [List.flatMap_cons, List.mapM_append, ← here, ← others]
      simp

end SqlCompose
