import Mathlib.Data.List.Basic
import Mathlib.Data.List.Dedup
import Mathlib.Data.List.Induction
import EntityMap.Named

/-!
# Lists that are filled name by name

What is under a name after many values came : the last of them if each was put under its name
(`lookup_foldl_setNamed`, `lookup_distinctNames`), the first if only new names were taken
(`lookup_foldl_setNew`). The names come once (`nodup_distinctNames`), so values are lost exactly if
two of them have one name (`length_distinctNames_eq_iff`).
-/

namespace EntityMap

variable {α β : Type}

/-! ## One value -/

/-- A new name comes to the end. -/
theorem setNamed_eq_append {name : String} {xs : List (String × α)} (v : α)
    (h : name ∉ xs.map (·.1)) : setNamed name v xs = xs ++ [(name, v)] := by
  induction xs with
  | nil => rfl
  | cons x xs ih =>
    obtain ⟨n, u⟩ := x
    simp only [List.map_cons, List.mem_cons, not_or] at h
    rw [setNamed, if_neg fun hn => h.1 hn.symm, ih h.2, List.cons_append]

/-- What is there afterwards is the new value under its name, or was there before. -/
theorem mem_setNamed {name : String} {v : α} {xs : List (String × α)} {x : String × α}
    (h : x ∈ setNamed name v xs) : x = (name, v) ∨ x ∈ xs := by
  induction xs with
  | nil => exact .inl (List.mem_singleton.mp h)
  | cons y xs ih =>
    obtain ⟨n, w⟩ := y
    rw [setNamed] at h
    split at h
    · next hn =>
      subst hn
      exact (List.mem_cons.mp h).imp_right (List.mem_cons_of_mem _)
    · rcases List.mem_cons.mp h with rfl | h
      · exact .inr List.mem_cons_self
      · exact (ih h).imp_right (List.mem_cons_of_mem _)

theorem mem_of_lookup {name : String} {v : α} {xs : List (String × α)}
    (h : xs.lookup name = some v) : (name, v) ∈ xs := by
  obtain ⟨before, after, rfl, -⟩ := List.lookup_eq_some_iff.mp h
  simp

/-! ## Many values -/

/-- Of the values that are put under one name the last is there. -/
theorem lookup_foldl_setNamed (name : α → String) (value : α → β) (as : List α) (key : String) :
    (as.foldl (fun known a => setNamed (name a) (value a) known) []).lookup key =
      (as.reverse.find? (name · == key)).map value := by
  induction as using List.reverseRecOn with
  | nil => rfl
  | append_singleton as a ih =>
    rw [List.foldl_concat, lookup_setNamed, ih, List.reverse_concat, List.find?_cons]
    by_cases h : name a = key
    · simp [h]
    · simp [beq_eq_false_iff_ne.mpr h, Ne.symm h]

/-- Of the values that are put under a new name the first is there. -/
theorem lookup_foldl_setNew (name : α → String) (value : α → β) (as : List α)
    (known : List (String × β)) (key : String) :
    (as.foldl (fun known a => setNew (name a) (value a) known) known).lookup key =
      (known.lookup key).or ((as.find? (name · == key)).map value) := by
  induction as generalizing known with
  | nil => simp
  | cons a as ih =>
    rw [List.foldl_cons, ih, lookup_setNew, List.find?_cons, Option.or_assoc]
    by_cases h : name a = key
    · simp [h]
    · simp [beq_eq_false_iff_ne.mpr h, Ne.symm h]

/-! ## Names that come once -/

theorem distinctNames_concat (xs : List (String × α)) (y : String × α) :
    distinctNames (xs ++ [y]) = setNamed y.1 y.2 (distinctNames xs) :=
  List.foldl_concat ..

/-- A name has its last value. -/
theorem lookup_distinctNames (xs : List (String × α)) (name : String) :
    (distinctNames xs).lookup name = xs.reverse.lookup name := by
  induction xs using List.reverseRecOn with
  | nil => rfl
  | append_singleton xs y ih =>
    rw [distinctNames_concat, lookup_setNamed, ih, List.reverse_concat, lookup_cons_name]

theorem nodup_distinctNames (xs : List (String × α)) :
    ((distinctNames xs).map (·.1)).Nodup := by
  induction xs using List.reverseRecOn with
  | nil => exact List.nodup_nil
  | append_singleton xs y ih =>
    rw [distinctNames_concat]
    exact nodup_setNamed y.1 y.2 ih

theorem mem_map_fst_distinctNames (xs : List (String × α)) (name : String) :
    name ∈ (distinctNames xs).map (·.1) ↔ name ∈ xs.map (·.1) := by
  induction xs using List.reverseRecOn with
  | nil => rfl
  | append_singleton xs y ih =>
    rw [distinctNames_concat, map_fst_setNamed, List.map_append, List.mem_append, ← ih,
      List.map_singleton, List.mem_singleton]
    split
    · next hthere =>
      refine ⟨.inl, fun h => h.elim id ?_⟩
      rintro rfl
      exact hthere
    · rw [List.mem_append, List.mem_singleton]

/-- No value is lost exactly if no name comes twice. -/
theorem length_distinctNames_eq_iff (xs : List (String × α)) :
    (distinctNames xs).length = xs.length ↔ (xs.map (·.1)).Nodup := by
  have hperm : ((distinctNames xs).map (·.1)).Perm (xs.map (·.1)).dedup :=
    (List.perm_ext_iff_of_nodup (nodup_distinctNames xs) (List.nodup_dedup _)).mpr fun name => by
      rw [mem_map_fst_distinctNames, List.mem_dedup]
  have hlength : (distinctNames xs).length = (xs.map (·.1)).dedup.length := by
    rw [← hperm.length_eq, List.length_map]
  have hall : xs.length = (xs.map (·.1)).length := by
    rw [List.length_map]
  rw [hlength, hall, ← List.dedup_eq_self]
  exact ⟨(List.dedup_sublist _).eq_of_length, congrArg List.length⟩

/-- Then the values stand as they came. -/
theorem distinctNames_of_nodup {xs : List (String × α)} (h : (xs.map (·.1)).Nodup) :
    distinctNames xs = xs := by
  induction xs using List.reverseRecOn with
  | nil => rfl
  | append_singleton xs y ih =>
    rw [List.map_append, List.nodup_append] at h
    have hnew : y.1 ∉ xs.map (·.1) := fun hmem => h.2.2 y.1 hmem y.1 (by simp) rfl
    rw [distinctNames_concat, ih h.1, setNamed_eq_append y.2 hnew]

end EntityMap
