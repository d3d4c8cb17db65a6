/-!
# Values under names

A list of values under names keeps the order in which the names came. `setNamed` puts a value
under a name, in the place that the name has or else at the end; `setNew` only if the name is
new; `distinctNames` does the first for a whole list, so that the last value of a name counts.
What is then found under a name is said by `lookup_setNamed` and `lookup_setNew`.
-/

namespace EntityMap

variable {α : Type}

/-- Puts a value under a name; a name that is there keeps its place. -/
def setNamed (name : String) (v : α) : List (String × α) → List (String × α)
  | [] => [(name, v)]
  | (n, w) :: rest => if n = name then (n, v) :: rest else (n, w) :: setNamed name v rest

/-- Puts a value under a name that is not there yet. -/
def setNew (name : String) (v : α) (xs : List (String × α)) : List (String × α) :=
  if (xs.lookup name).isSome then xs else xs ++ [(name, v)]

/-- The values with each name once, in the place of its first value and with its last. -/
def distinctNames (xs : List (String × α)) : List (String × α) :=
  xs.foldl (fun known x => setNamed x.1 x.2 known) []

/-! ## Lookups -/

/-- What a list finds under a name, by its first entry. -/
theorem lookup_cons_name (name other : String) (v : α) (xs : List (String × α)) :
    ((name, v) :: xs).lookup other = if other = name then some v else xs.lookup other := by
  rw [List.lookup_cons]
  by_cases h : other = name
  · simp [h]
  · simp [h, beq_eq_false_iff_ne.mpr h]

/-- A name has the value that was put under it, and the others keep theirs. -/
theorem lookup_setNamed (name other : String) (v : α) (xs : List (String × α)) :
    (setNamed name v xs).lookup other = if other = name then some v else xs.lookup other := by
  induction xs with
  | nil => simp [setNamed, lookup_cons_name]
  | cons x xs ih =>
    obtain ⟨n, w⟩ := x
    by_cases hn : n = name
    · subst hn
      by_cases h : other = n <;> simp [setNamed, lookup_cons_name, h]
    · by_cases h : other = n
      · subst h
        simp [setNamed, hn]
      · simp [setNamed, lookup_cons_name, hn, h, ih]

/-- A name that is there keeps its value; one that is not gets the new one. -/
theorem lookup_setNew (name other : String) (v : α) (xs : List (String × α)) :
    (setNew name v xs).lookup other =
      (xs.lookup other).or (if other = name then some v else none) := by
  unfold setNew
  split
  · next h =>
    by_cases ho : other = name
    · subst ho
      obtain ⟨w, hw⟩ := Option.isSome_iff_exists.mp h
      simp [hw]
    · simp [ho]
  · simp [List.lookup_append, lookup_cons_name]

/-- Something is found under the names that come. -/
theorem isSome_lookup_iff (xs : List (String × α)) (name : String) :
    (xs.lookup name).isSome ↔ name ∈ xs.map (·.1) := by
  induction xs with
  | nil => simp
  | cons x xs ih =>
    obtain ⟨n, v⟩ := x
    by_cases h : name = n <;> simp [lookup_cons_name, h, ih]

/-- The names are those that were there, and the new one at the end unless it was. -/
theorem map_fst_setNamed (name : String) (v : α) (xs : List (String × α)) :
    (setNamed name v xs).map (·.1) =
      if name ∈ xs.map (·.1) then xs.map (·.1) else xs.map (·.1) ++ [name] := by
  induction xs with
  | nil => rfl
  | cons x xs ih =>
    obtain ⟨n, w⟩ := x
    by_cases hn : n = name
    · subst hn
      simp [setNamed]
    · have hn' : ¬name = n := fun h => hn h.symm
      simp only [setNamed, hn, if_false, List.map_cons, ih, List.mem_cons, hn', false_or]
      split <;> rfl

/-- No name comes twice. -/
theorem nodup_setNamed (name : String) (v : α) {xs : List (String × α)}
    (h : (xs.map (·.1)).Nodup) : ((setNamed name v xs).map (·.1)).Nodup := by
  rw [map_fst_setNamed]
  split
  · exact h
  · next hn =>
    rw [List.nodup_append]
    refine ⟨h, by simp, ?_⟩
    intro a ha b hb
    rw [List.mem_singleton] at hb
    subst hb
    exact fun hab => hn (hab ▸ ha)

theorem nodup_setNew (name : String) (v : α) {xs : List (String × α)}
    (h : (xs.map (·.1)).Nodup) : ((setNew name v xs).map (·.1)).Nodup := by
  unfold setNew
  split
  · exact h
  · next hnew =>
    rw [isSome_lookup_iff] at hnew
    rw [List.map_append, List.nodup_append]
    refine ⟨h, by simp, ?_⟩
    rintro a ha _ hb rfl
    have hname : a = name := List.mem_singleton.mp hb
    exact hnew (hname ▸ ha)

end EntityMap
