import Mathlib.Data.List.Forall2
import EntityMap.Failure

/-!
# Results

When a computation that may fail ends with a value : each of its parts did (`Except.bind_eq_ok`),
and so did each round of a loop (`mapM_eq_ok`). A loop keeps whatever each of its rounds keeps.
-/

namespace EntityMap

variable {ε ε' α β : Type}

/-- A sequence ends well if both parts do. -/
theorem Except.bind_eq_ok {r : Except ε α} {f : α → Except ε β} {b : β} :
    (r >>= f) = .ok b ↔ ∃ a, r = .ok a ∧ f a = .ok b := by
  cases r with
  | error e => simp [bind, Except.bind]
  | ok a => simp [bind, Except.bind]

/-- The value of a mapped result comes from one of the result. -/
theorem Except.map_eq_ok {r : Except ε α} {f : α → β} {b : β} :
    r.map f = .ok b ↔ ∃ a, r = .ok a ∧ f a = b := by
  cases r with
  | error e => simp [Except.map]
  | ok a => simp [Except.map]

/-- Naming a failure in another way leaves the values. -/
theorem Except.mapError_eq_ok {r : Except ε α} {f : ε → ε'} {a : α} :
    r.mapError f = .ok a ↔ r = .ok a := by
  cases r with
  | error e => exact iff_of_false (fun h => nomatch h) fun h => nomatch h
  | ok b =>
    show (Except.ok b : Except ε' α) = .ok a ↔ _
    rw [Except.ok.injEq, Except.ok.injEq]

theorem Except.exists_ok {r : Except ε α} (h : r.isOk = true) : ∃ a, r = .ok a := by
  cases r with
  | error e => cases h
  | ok a => exact ⟨a, rfl⟩

/-- What each round of a loop keeps, the loop keeps. -/
theorem foldlM_keeps {P : β → Prop} {f : β → α → Except ε β} (as : List α)
    (step : ∀ b, ∀ a ∈ as, ∀ b', P b → f b a = .ok b' → P b') {b b' : β} (hb : P b)
    (h : as.foldlM f b = .ok b') : P b' := by
  induction as generalizing b with
  | nil =>
    cases h
    exact hb
  | cons a as ih =>
    rw [List.foldlM_cons] at h
    obtain ⟨next, hnext, h⟩ := Except.bind_eq_ok.mp h
    have hnext : P next := step b a List.mem_cons_self next hb hnext
    exact ih (fun b' a' ha' => step b' a' (List.mem_cons_of_mem _ ha')) hnext h

/-- What each round of a loop makes of the rounds that are left, the loop makes of all. -/
theorem foldlM_rest {I : List α → β → Prop} {f : β → α → Except ε β}
    (step : ∀ a as b b', I (a :: as) b → f b a = .ok b' → I as b') {as : List α} {b b' : β}
    (hb : I as b) (h : as.foldlM f b = .ok b') : I [] b' := by
  induction as generalizing b with
  | nil =>
    cases h
    exact hb
  | cons a as ih =>
    rw [List.foldlM_cons] at h
    obtain ⟨next, hnext, h⟩ := Except.bind_eq_ok.mp h
    exact ih (step a as b next hb hnext) h

/-- A loop ends well if each of its rounds does, and gives their values in order. -/
theorem mapM_eq_ok {f : α → Except ε β} {as : List α} {bs : List β} :
    as.mapM f = .ok bs ↔ List.Forall₂ (fun a b => f a = .ok b) as bs := by
  induction as generalizing bs with
  | nil => cases bs <;> simp [pure, Except.pure]
  | cons a as ih =>
    rw [List.mapM_cons]
    constructor
    · intro h
      obtain ⟨b, hb, h⟩ := Except.bind_eq_ok.mp h
      obtain ⟨rest, hrest, h⟩ := Except.bind_eq_ok.mp h
      cases h
      exact .cons hb (ih.mp hrest)
    · intro h
      cases h with
      | cons hb hrest =>
        refine Except.bind_eq_ok.mpr ⟨_, hb, ?_⟩
        exact Except.bind_eq_ok.mpr ⟨_, ih.mpr hrest, rfl⟩

/-- What lists have in common element by element, each element of the second has with one of the
first. -/
theorem exists_of_forall₂ {R : α → β → Prop} {as : List α} {bs : List β}
    (h : List.Forall₂ R as bs) {b : β} (hb : b ∈ bs) : ∃ a ∈ as, R a b := by
  induction h with
  | nil => simp at hb
  | cons hhead _ ih =>
    rcases List.mem_cons.mp hb with rfl | hb
    · exact ⟨_, List.mem_cons_self, hhead⟩
    · obtain ⟨a, ha, hR⟩ := ih hb
      exact ⟨a, List.mem_cons_of_mem _ ha, hR⟩

end EntityMap
