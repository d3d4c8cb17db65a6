import Mathlib.Logic.Relation
import EntityMap.Proofs.Record

/-!
# The graph of entities

Saving follows the joins of an entity to the entities that they hold (`Holds`), as long as these
still lack a key (`Cascades`). What is inserted with an entity is what it reaches in this way
(`Cascaded`), as the records were when the saving began.

An entity counts as one of a class, hence the graph is one of nodes. `EntityGraph` says that it is
one of instances without circles, and `WellFormed` that joins which hold the same entity agree on
its class besides.
-/

namespace EntityMap

open Relation

variable {x : Library} {rs : Records} {root n m : Node}

/-! ## Edges -/

/-- The field of a join of the first entity holds the second. -/
def HoldsBy (x : Library) (rs : Records) (n : Node) (j : Join) (m : Node) : Prop :=
  rs.get n.object j.field = m.object ∧ m.object.isNull = false
    ∧ x.catalogue.describeRelated j = .ok m.entity

/-- A join of the first entity holds the second. -/
def Holds (x : Library) (rs : Records) (n m : Node) : Prop :=
  ∃ j ∈ n.entity.joins, HoldsBy x rs n j m

/-- The entity is no stand-in and waits for its key. -/
def Unsaved (rs : Records) (n : Node) : Prop :=
  rs.isPlaceholder n.object = false ∧ keyUnset rs n.entity n.object = true

/-- A join of the first entity holds the second, which has to be inserted before. -/
def Cascades (x : Library) (rs : Records) (n m : Node) : Prop := Holds x rs n m ∧ Unsaved rs m

/-- The second entity is inserted when the first one is saved. -/
def Cascaded (x : Library) (rs : Records) (root n : Node) : Prop :=
  ReflTransGen (Cascades x rs) root n

/-- Saving the first entity comes by the second. -/
def Visited (x : Library) (rs : Records) (root m : Node) : Prop :=
  Cascaded x rs root m ∨ ∃ n, Cascaded x rs root n ∧ Holds x rs n m

/-- Joins lead from the root to the entity, directly or through others. -/
def Reached (x : Library) (rs : Records) (root n : Node) : Prop := ReflTransGen (Holds x rs) root n

/-- The entities around the root are instances of the classes that the joins declare, and none holds
itself. -/
structure EntityGraph (x : Library) (rs : Records) (root : Node) : Prop where
  instances : ∀ n m, Cascaded x rs root n → Holds x rs n m →
    rs.isInstance x.catalogue m.object m.entity.className = true
  acyclic : ∀ n m, Cascaded x rs root n → TransGen (Holds x rs) n m → m.object ≠ n.object

/-- No entity is held by joins that declare different classes. -/
def OneClass (x : Library) (rs : Records) (root : Node) : Prop :=
  ∀ n m, Visited x rs root n → Visited x rs root m → n.object = m.object → n.entity = m.entity

/-- The graph is one of instances without circles, and each entity is one of one class. -/
structure WellFormed (x : Library) (rs : Records) (root : Node) : Prop
    extends EntityGraph x rs root where
  oneClass : OneClass x rs root

/-- A join holds one entity, by one description. -/
theorem HoldsBy.unique {j : Join} {m' : Node} (h : HoldsBy x rs n j m) (h' : HoldsBy x rs n j m') :
    m = m' := by
  obtain ⟨e, v⟩ := m
  obtain ⟨e', v'⟩ := m'
  obtain ⟨rfl, -, he⟩ := h
  obtain ⟨rfl, -, he'⟩ := h'
  cases he.symm.trans he'
  rfl

theorem Unsaved.congr {rs rs' : Records} (h : Unsaved rs n)
    (hrecord : rs'.record? n.object = rs.record? n.object) : Unsaved rs' n := by
  rw [Unsaved, Records.isPlaceholder_congr hrecord, Records.keyUnset_congr hrecord]
  exact h

/-! ## Fields of joins -/

/-- The field of a join is as it was, or has got a stand-in for an absent relation. -/
def Steady (rs rs' : Records) (v : Value) (j : Join) : Prop :=
  rs'.get v j.field = rs.get v j.field
    ∨ rs.get v j.field = .null ∧ rs'.isPlaceholder (rs'.get v j.field) = true

theorem Steady.congr {rs rs₁ rs₂ : Records} {v : Value} {j : Join} (h : Steady rs rs₁ v j)
    (hget : rs₂.get v j.field = rs₁.get v j.field)
    (hstandIns : ∀ u, rs₁.isPlaceholder u = true → rs₂.isPlaceholder u = true) :
    Steady rs rs₂ v j := by
  rw [Steady, hget]
  exact h.imp_right fun hnull => ⟨hnull.1, hstandIns _ hnull.2⟩

/-- A steady field that is empty was so. -/
theorem Steady.eq_null {rs rs' : Records} {v : Value} {j : Join} (h : Steady rs rs' v j)
    (hnull : rs'.get v j.field = .null) : rs.get v j.field = .null := by
  rcases h with h | h
  · exact h.symm.trans hnull
  · exact h.1

/-! ## Paths -/

/-- What cascades is held. -/
theorem holds_of_cascades (h : TransGen (Cascades x rs) n m) : TransGen (Holds x rs) n m := by
  have hle : Cascades x rs ≤ Holds x rs := fun _ _ hc => hc.1
  exact TransGen.mono hle n m h

/-- Everything that is cascaded has a record, if the root has. -/
theorem EntityGraph.has (h : EntityGraph x rs root) (hroot : rs.Has root.object)
    (hn : Cascaded x rs root n) : rs.Has n.object := by
  rcases ReflTransGen.cases_tail hn with rfl | ⟨m, hm, hmn⟩
  · exact hroot
  · exact Records.has_of_isInstance (h.instances m n hm hmn.1)

theorem EntityGraph.has_of_visited (h : EntityGraph x rs root) (hroot : rs.Has root.object)
    (hm : Visited x rs root m) : rs.Has m.object := by
  rcases hm with hm | ⟨n, hn, hnm⟩
  · exact h.has hroot hm
  · exact Records.has_of_isInstance (h.instances n m hn hnm)

/-- An entity has one description in the graph. -/
theorem WellFormed.eq_of_object_eq (h : WellFormed x rs root) (hn : Visited x rs root n)
    (hm : Visited x rs root m) (heq : n.object = m.object) : n = m := by
  obtain ⟨e, v⟩ := n
  obtain ⟨e', v'⟩ := m
  cases heq
  cases h.oneClass _ _ hn hm rfl
  rfl

/-- What cascades and is held by what cascades waits for its key : the root is held by nothing that
it reaches. -/
theorem EntityGraph.cascades_of_holds (h : EntityGraph x rs root) (hn : Cascaded x rs root n)
    (hnm : Holds x rs n m) (hm : Cascaded x rs root m) : Cascades x rs n m := by
  rcases ReflTransGen.cases_tail hm with rfl | ⟨k, -, -, hunsaved⟩
  · rcases ReflTransGen.cases_head hn with hroot | ⟨k, hk, hkn⟩
    · exact absurd rfl (h.acyclic m m .refl (.single (hroot ▸ hnm)))
    · have hpath := holds_of_cascades (TransGen.head' hk hkn)
      exact absurd rfl (h.acyclic m m .refl (hpath.tail hnm))
  · exact ⟨hnm, hunsaved⟩

/-- What the root reaches has every property that the root has and that joins pass on. -/
theorem Cascaded.of_holds {P : Node → Prop} (hroot : P root)
    (hholds : ∀ n m, P n → Holds x rs n m → P m) (hm : Cascaded x rs root m) : P m := by
  induction hm with
  | refl => exact hroot
  | tail _ hnm ih => exact hholds _ _ ih hnm.1

theorem Visited.of_holds {P : Node → Prop} (hroot : P root)
    (hholds : ∀ n m, P n → Holds x rs n m → P m) (hm : Visited x rs root m) : P m := by
  rcases hm with hm | ⟨n, hn, hnm⟩
  · exact hm.of_holds hroot hholds
  · exact hholds n m (hn.of_holds hroot hholds) hnm

/-- What is reached has every property that the root has and that joins pass on. -/
theorem Reached.of_holds {P : Node → Prop} (h : Reached x rs root n) (hroot : P root)
    (hholds : ∀ n m, P n → Holds x rs n m → P m) : P n := by
  induction h with
  | refl => exact hroot
  | tail _ hnm ih => exact hholds _ _ ih hnm

/-! ## Graphs at hand -/

/-- The number of an entity. -/
def Value.number : Value → Nat
  | .entity ref => ref
  | _ => 0

/-- If everything holds only instances that come after it, then nothing holds itself. -/
theorem EntityGraph.of_number_lt {P : Node → Prop} (hroot : P root)
    (hholds : ∀ n m, P n → Holds x rs n m → P m
      ∧ rs.isInstance x.catalogue m.object m.entity.className = true
      ∧ n.object.number < m.object.number) : EntityGraph x rs root := by
  have hP : ∀ {n}, Cascaded x rs root n → P n := fun hn =>
    hn.of_holds hroot fun n m hn hm => (hholds n m hn hm).1
  refine ⟨fun n m hn hm => (hholds n m (hP hn) hm).2.1, fun n m hn h => ?_⟩
  have hlt : P m ∧ n.object.number < m.object.number := by
    induction h with
    | single hnm =>
      obtain ⟨hm, -, hlt⟩ := hholds _ _ (hP hn) hnm
      exact ⟨hm, hlt⟩
    | tail _ hkm ih =>
      obtain ⟨hm, -, hlt⟩ := hholds _ _ ih.1 hkm
      exact ⟨hm, Nat.lt_trans ih.2 hlt⟩
  intro heq
  rw [heq] at hlt
  exact Nat.lt_irrefl _ hlt.2

/-- A root that holds nothing is all that there is. -/
theorem Visited.eq_of_not_holds (h : ∀ m, ¬Holds x rs root m) (hm : Visited x rs root m) :
    m = root := by
  refine hm.of_holds (P := (· = root)) rfl ?_
  rintro n m rfl hnm
  exact absurd hnm (h m)

theorem wellFormed_of_not_holds (h : ∀ m, ¬Holds x rs root m) : WellFormed x rs root where
  toEntityGraph := by
    refine .of_number_lt (P := (· = root)) rfl ?_
    rintro n m rfl hnm
    exact absurd hnm (h m)
  oneClass n m hn hm _ := by
    rw [Visited.eq_of_not_holds h hn, Visited.eq_of_not_holds h hm]

end EntityMap
