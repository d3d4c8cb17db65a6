import EntityMap.Proofs.Saving.Hierarchy
import EntityMap.Proofs.Saving.Stages

/-!
# The calls of a saving

Inserting is a tree of calls : settling a join of a call comes to the related entity in some world
(`Call.Settles`) and makes a call for it there if it waits for its key (`Call.Makes`). Each row that
is inserted is that of a call (`Call.Inserts`, `exists_calls`), and all calls are for entities that
the root reaches, on records that follow those at first (`Call.Sound`).

As long as no call is made for an entity, the entity is left alone (`Call.record?_insertEntity`). So
if a call does not come to its own entity again (`Call.Once`), then settling its joins writes no
fields of the entity but theirs and those of their columns (`Call.Once.settleJoin_frame`). In a
hierarchy this is so for every call (`Call.Sound.once`).
-/

namespace EntityMap

open Relation

variable {δ : Type} {x : Library} {rs : Records} {root n m : Node}

/-! ## Settling -/

/-- Settling the join may write the field : it is that of the join or of the column that the join
is for. -/
def Entity.IsWrittenBy (e : Entity) (j : Join) (field : String) : Prop :=
  field = j.field ∨ ∃ col, e.columnNamed? j.target = some col ∧ field = col.field

/-- Making the related entity available leaves other entities alone. -/
theorem record?_relatedOrPlaceholder {v u related : Value} {j : Join} {w w' : World δ}
    (h : relatedOrPlaceholder x v j w = (.ok related, w')) (hu : w.records.Has u) (hne : u ≠ v) :
    w'.records.record? u = w.records.record? u := by
  rcases relatedOrPlaceholder_eq_ok h with ⟨-, rfl, -⟩ | ⟨-, -, -, ref, stub, rfl, -, rfl⟩
  · rfl
  · rw [Records.record?_set_of_ne hne, Records.record?_append hu]

/-- Taking a key over leaves other entities alone. -/
theorem KeyTaken.record?_eq {e : Entity} {j : Join} {key : Value}
    {keys keys' : List (String × Value)} {ref : Nat} {w w' : World δ}
    (h : KeyTaken e j key keys ref w keys' w') {u : Value} (hne : u ≠ .entity ref) :
    w'.records.record? u = w.records.record? u := by
  cases h with
  | assigned _ _ => exact Records.record?_set_of_ne hne _ _
  | absent _ _ => rfl
  | named _ => rfl

/-- Taking a key over writes at most the field of the column that the join is for. -/
theorem KeyTaken.get_eq {e : Entity} {j : Join} {key : Value} {keys keys' : List (String × Value)}
    {ref : Nat} {w w' : World δ} (h : KeyTaken e j key keys ref w keys' w') {field : String}
    (hfield : ¬e.IsWrittenBy j field) :
    w'.records.get (.entity ref) field = w.records.get (.entity ref) field := by
  cases h with
  | @assigned col column _ =>
    rcases Records.get_set_or w.records ref col.field key (.entity ref) field with
      hget | ⟨-, rfl, -⟩
    · exact hget
    · exact absurd (.inr ⟨col, column, rfl⟩) hfield
  | absent _ _ => rfl
  | named _ => rfl

theorem KeyTaken.has {e : Entity} {j : Join} {key : Value} {keys keys' : List (String × Value)}
    {ref : Nat} {w w' : World δ} (h : KeyTaken e j key keys ref w keys' w') {u : Value}
    (hu : w.records.Has u) : w'.records.Has u := by
  cases h with
  | assigned _ _ => exact Records.has_set.mpr hu
  | absent _ _ => exact hu
  | named _ => exact hu

/-- Without a related entity and without a default there is nothing to settle. -/
theorem settleJoin_of_null {insertRelated : Entity → Value → Op δ Int} {e : Entity} {v : Value}
    {j : Join} {keys : List (String × Value)} {w : World δ}
    (hnull : w.records.get v j.field = .null) (hdefault : j.hasDefault = false) :
    settleJoin x insertRelated e v keys j w = (.ok keys, w) := by
  have hrelated : relatedOrPlaceholder x v j w = (.ok .null, w) := by
    rw [relatedOrPlaceholder, Op.records_bind, hnull, hdefault]
    rfl
  rw [settleJoin_eq]
  refine Op.bind_eq_ok.mpr ⟨.null, w, hrelated, rfl⟩

variable [Database δ]

/-! ## Calls -/

/-- An entity is inserted in a world, with so much fuel for those that are inserted before. -/
structure Call (δ : Type) where
  fuel : Nat
  node : Node
  world : World δ

namespace Call

/-- Some joins of the entity are settled one after the other. -/
def settle (x : Library) (c : Call δ) (js : List Join) (keys : List (String × Value)) :
    Op δ (List (String × Value)) :=
  js.foldlM (settleJoin x (insertEntity x ⟨true⟩ c.fuel) c.node.entity c.node.object) keys

/-- The rows of the call and of all that it comes to are inserted. -/
def run (x : Library) (c : Call δ) : Op δ Int :=
  insertEntity x ⟨true⟩ (c.fuel + 1) c.node.entity c.node.object

/-- After the joins before it have been settled, the join is settled with this related entity,
which is there or made, in this world. -/
def Settles (x : Library) (c : Call δ) (j : Join) (m : Node) (w : World δ) : Prop :=
  ∃ before after keys w₀, c.node.entity.joins = before ++ j :: after
    ∧ c.settle x before [] c.world = (.ok keys, w₀)
    ∧ relatedOrPlaceholder x c.node.object j w₀ = (.ok m.object, w)
    ∧ m.object.isNull = false ∧ x.catalogue.describeRelated j = .ok m.entity

/-- The first call makes the second for a related entity that waits for its key. -/
def Makes (x : Library) (c c' : Call δ) : Prop :=
  c.fuel = c'.fuel + 1 ∧ Unsaved c'.world.records c'.node
    ∧ ∃ j, c.Settles x j c'.node c'.world

/-- The row is that of the call : it was inserted once all joins had been settled. -/
def Inserts (x : Library) (c : Call δ) (i : Insertion δ) : Prop :=
  i.node = c.node ∧ c.settle x c.node.entity.joins [] c.world = (.ok i.keys, i.before)

/-- A call that succeeds inserts its row last. -/
theorem exists_inserts {c : Call δ} {rowId : Int} {w' : World δ}
    (h : c.run x c.world = (.ok rowId, w')) :
    ∃ i : Insertion δ, c.Inserts x i ∧ i.Leaves w'.records
      ∧ w'.events = i.before.events ++ [i.event] := by
  rw [run, insertEntity] at h
  obtain ⟨keys, w₁, hrun, h⟩ := Op.bind_eq_ok.mp h
  rw [Op.records_bind] at h
  obtain ⟨own, hown, h⟩ := Op.ofResult_bind_eq_ok.mp h
  obtain ⟨id, w₂, hinsert, h⟩ := Op.bind_eq_ok.mp h
  obtain ⟨reply, d, hreply, rfl, rfl⟩ := Connection.insert_eq_ok hinsert
  let i : Insertion δ := ⟨c.node, w₁, keys, own, reply, hown, by rw [hreply]⟩
  have hafter : i.after = { w₁.after i.event with database := d } :=
    congrArg (fun d => { w₁.after i.event with database := d }) (congrArg Prod.snd hreply)
  obtain ⟨rs', hleaves, rfl⟩ := i.leaves_of_number (hafter ▸ h)
  exact ⟨i, ⟨rfl, hrun⟩, hleaves, rfl⟩

/-- Settling all joins settles each between those before and those after it. -/
theorem exists_settleJoin {c : Call δ} {before after : List Join} {j : Join}
    {keys keys' : List (String × Value)} {w w' : World δ}
    (h : c.settle x (before ++ j :: after) keys w = (.ok keys', w')) :
    ∃ keys₀ w₀ keys₁ w₁, c.settle x before keys w = (.ok keys₀, w₀)
      ∧ settleJoin x (insertEntity x ⟨true⟩ c.fuel) c.node.entity c.node.object keys₀ j w₀
        = (.ok keys₁, w₁)
      ∧ c.settle x after keys₁ w₁ = (.ok keys', w') := by
  rw [settle, List.foldlM_append] at h
  obtain ⟨keys₀, w₀, hbefore, hrest⟩ := Op.bind_eq_ok.mp h
  rw [List.foldlM_cons] at hrest
  obtain ⟨keys₁, w₁, hfirst, hafter⟩ := Op.bind_eq_ok.mp hrest
  exact ⟨keys₀, w₀, keys₁, w₁, hbefore, hfirst, hafter⟩

/-- Joins and then one more are settled. -/
theorem settle_concat {c : Call δ} {before : List Join} {j : Join}
    {keys keys₀ keys₁ : List (String × Value)} {w w₀ w₁ : World δ}
    (hrun : c.settle x before keys w = (.ok keys₀, w₀))
    (hlast : settleJoin x (insertEntity x ⟨true⟩ c.fuel) c.node.entity c.node.object keys₀ j w₀
      = (.ok keys₁, w₁)) : c.settle x (before ++ [j]) keys w = (.ok keys₁, w₁) := by
  rw [settle, List.foldlM_append]
  refine Op.bind_eq_ok.mpr ⟨keys₀, w₀, hrun, ?_⟩
  rw [List.foldlM_cons]
  exact Op.bind_eq_ok.mpr ⟨keys₁, w₁, hlast, rfl⟩

/-- What settling each of some joins keeps, once those before it are settled, settling them all
keeps. -/
theorem settle_keeps {c : Call δ} {P : List (String × Value) → World δ → Prop}
    {before js after : List Join} {keys keys' : List (String × Value)} {w w' : World δ}
    (step : ∀ pre j post keys w keys' w', j ∈ js → c.node.entity.joins = pre ++ j :: post →
      c.settle x pre [] c.world = (.ok keys, w) →
      settleJoin x (insertEntity x ⟨true⟩ c.fuel) c.node.entity c.node.object keys j w
        = (.ok keys', w') → P keys w → P keys' w')
    (hjoins : c.node.entity.joins = before ++ (js ++ after))
    (hrun : c.settle x before [] c.world = (.ok keys, w)) (hP : P keys w)
    (h : c.settle x js keys w = (.ok keys', w')) : P keys' w' := by
  induction js generalizing before keys w with
  | nil =>
    cases h
    exact hP
  | cons j js ih =>
    rw [settle, List.foldlM_cons] at h
    obtain ⟨keys₁, w₁, hfirst, hrest⟩ := Op.bind_eq_ok.mp h
    have hjoins₁ : c.node.entity.joins = (before ++ [j]) ++ (js ++ after) := by
      rw [hjoins, List.append_assoc, List.singleton_append, List.cons_append]
    refine ih (fun pre j' post keys w keys' w' hj' => step pre j' post keys w keys' w'
      (List.mem_cons_of_mem j hj')) hjoins₁ (settle_concat hrun hfirst) ?_ hrest
    exact step before j (js ++ after) keys w keys₁ w₁ List.mem_cons_self hjoins hrun hfirst hP

/-- What settling each of the first joins keeps, settling them all keeps. -/
theorem settle_first_keeps {c : Call δ} {P : List (String × Value) → World δ → Prop}
    {js after : List Join} {keys : List (String × Value)} {w : World δ}
    (step : ∀ pre j post keys w keys' w', j ∈ js → c.node.entity.joins = pre ++ j :: post →
      c.settle x pre [] c.world = (.ok keys, w) →
      settleJoin x (insertEntity x ⟨true⟩ c.fuel) c.node.entity c.node.object keys j w
        = (.ok keys', w') → P keys w → P keys' w')
    (hjoins : c.node.entity.joins = js ++ after) (hP : P [] c.world)
    (h : c.settle x js [] c.world = (.ok keys, w)) : P keys w :=
  have hjoins' : c.node.entity.joins = [] ++ (js ++ after) := hjoins
  settle_keeps step hjoins' rfl hP h

/-! ## What is left alone -/

/-- What is inserted waits for its key only if it is an entity. -/
theorem exists_entity {c : Call δ} {rowId : Int} {w' : World δ}
    (hunsaved : Unsaved c.world.records c.node) (h : c.run x c.world = (.ok rowId, w')) :
    ∃ ref, c.node.object = .entity ref := by
  obtain ⟨i, ⟨hnode, -⟩, hleaves, -⟩ := exists_inserts h
  generalize w'.records = rs at hleaves
  cases hleaves with
  | numbered _ entity =>
    rw [← hnode]
    exact ⟨_, entity⟩
  | unchanged counted =>
    have hcounted : c.node.entity.countedKey? ≠ none := by
      obtain ⟨-, hunset⟩ := hunsaved
      unfold keyUnset at hunset
      split at hunset
      · next key hkey =>
        obtain ⟨hauto, -⟩ := Bool.and_eq_true_iff.mp hunset
        simp [Entity.countedKey?, hkey, hauto]
      · cases hunset
    exact absurd (hnode ▸ counted) hcounted

/-- A related entity that gets ready is there, or a call is made for it. -/
theorem exists_makes {c : Call δ} {j : Join} {w₁ w₂ : World δ} (hsettles : c.Settles x j m w₁)
    (hready : RelatedReady (insertEntity x ⟨true⟩ c.fuel) m w₁ w₂) :
    w₂ = w₁ ∨ ∃ c' : Call δ, c.Makes x c' ∧ c'.node = m ∧ c'.world = w₁
      ∧ ∃ rowId, c'.run x c'.world = (.ok rowId, w₂) := by
  cases hready with
  | present _ => exact .inl rfl
  | inserted unsaved run =>
    cases hfuel : c.fuel with
    | zero =>
      rw [hfuel] at run
      cases run
    | succ fuel =>
      rw [hfuel] at run
      exact .inr ⟨⟨fuel, m, w₁⟩, ⟨hfuel, unsaved, j, hsettles⟩, rfl, rfl, _, run⟩

/-- Settling a join of a call : either there is no related entity, or the call comes to it, and it
is ready when its key is taken over. -/
theorem settleJoin_cases {c : Call δ} {pre post : List Join} {j : Join}
    {keys keys' : List (String × Value)} {w w' : World δ} {ref : Nat}
    (hobject : c.node.object = .entity ref) (hjoins : c.node.entity.joins = pre ++ j :: post)
    (hrun : c.settle x pre [] c.world = (.ok keys, w))
    (h : settleJoin x (insertEntity x ⟨true⟩ c.fuel) c.node.entity c.node.object keys j w
      = (.ok keys', w')) :
    ∃ related w₁, relatedOrPlaceholder x c.node.object j w = (.ok related, w₁)
      ∧ ((related.isNull = true ∧ keys' = keys ∧ w' = w₁)
        ∨ ∃ m w₂ source key, m.object = related ∧ c.Settles x j m w₁
          ∧ RelatedReady (insertEntity x ⟨true⟩ c.fuel) m w₁ w₂
          ∧ x.catalogue.sourceColumn j = .ok source
          ∧ stored (w₂.records.get m.object source.field) = .ok key
          ∧ KeyTaken c.node.entity j key keys ref w₂ keys' w') := by
  rw [hobject] at h
  obtain ⟨related, w₁, hmade, h⟩ := settleJoin_eq_ok h
  rw [← hobject] at hmade
  refine ⟨related, w₁, hmade, h.imp_right ?_⟩
  rintro ⟨hpresent, relatedEntity, w₂, source, key, hentity, hready, hsource, hkey, htaken⟩
  exact ⟨⟨relatedEntity, related⟩, w₂, source, key, rfl,
    ⟨pre, post, keys, w, hjoins, hrun, hmade, hpresent, hentity⟩, hready, hsource, hkey, htaken⟩

/-- Settling a join leaves an entity alone that is not the owner, if the related entity does so as
it gets ready. -/
theorem record?_settleJoin {u : Value} {c : Call δ} {pre post : List Join} {j : Join}
    {keys keys' : List (String × Value)} {w w' : World δ} {ref : Nat}
    (hobject : c.node.object = .entity ref) (hjoins : c.node.entity.joins = pre ++ j :: post)
    (hrun : c.settle x pre [] c.world = (.ok keys, w)) (hu : w.records.Has u)
    (hne : c.node.object ≠ u)
    (hready : ∀ m w₁ w₂, w₁.records.Has u → c.Settles x j m w₁ →
      RelatedReady (insertEntity x ⟨true⟩ c.fuel) m w₁ w₂ →
      w₂.records.record? u = w₁.records.record? u)
    (h : settleJoin x (insertEntity x ⟨true⟩ c.fuel) c.node.entity c.node.object keys j w
      = (.ok keys', w')) : w'.records.record? u = w.records.record? u := by
  obtain ⟨related, w₁, hmade, hends⟩ := settleJoin_cases hobject hjoins hrun h
  have hw₁ := record?_relatedOrPlaceholder hmade hu hne.symm
  rcases hends with ⟨-, -, rfl⟩ | ⟨m, w₂, source, key, rfl, hsettles, hrelated, -, -, htaken⟩
  · exact hw₁
  · have hu₁ : w₁.records.Has u := by
      rw [Records.Has, hw₁]
      exact hu
    rw [htaken.record?_eq (hobject ▸ hne.symm), hready m w₁ w₂ hu₁ hsettles hrelated, hw₁]

/-- An entity for which no call is made is left alone. -/
theorem record?_insertEntity {u : Value} {c : Call δ} {ref : Nat} {rowId : Int} {w' : World δ}
    (hobject : c.node.object = .entity ref) (hu : c.world.records.Has u)
    (hne : ∀ c', ReflTransGen (Makes x) c c' → c'.node.object ≠ u)
    (h : c.run x c.world = (.ok rowId, w')) :
    w'.records.record? u = c.world.records.record? u := by
  induction hfuel : c.fuel using Nat.strongRecOn generalizing c ref rowId w' with
  | ind fuel ih =>
  obtain ⟨i, ⟨hnode, hrun⟩, hleaves, -⟩ := exists_inserts h
  have hsettled : i.before.records.record? u = c.world.records.record? u := by
    refine settle_first_keeps (P := fun _ w => w.records.record? u = c.world.records.record? u)
      (fun pre j post keys w keys' w' _ hjoins hrun hfirst hw => ?_) (List.append_nil _).symm rfl
      hrun
    have hu' : w.records.Has u := by
      rw [Records.Has, hw]
      exact hu
    refine (record?_settleJoin hobject hjoins hrun hu' (hne c .refl) ?_ hfirst).trans hw
    intro m w₁ w₂ hu₁ hsettles hready
    rcases exists_makes hsettles hready with rfl | ⟨c', hmakes, rfl, rfl, rowId, hinsert⟩
    · rfl
    · obtain ⟨ref', hobject'⟩ := exists_entity hmakes.2.1 hinsert
      have hless : c'.fuel < fuel := by
        have := hmakes.1
        omega
      exact ih c'.fuel hless hobject' hu₁ (fun c'' hpath => hne c'' (hpath.head hmakes)) hinsert rfl
  refine Eq.trans ?_ hsettled
  generalize w'.records = rs at hleaves
  cases hleaves with
  | numbered _ entity =>
    refine Records.record?_set_of_ne (fun hu' => hne c .refl ?_) _ _
    rw [hu', ← hnode]
    exact entity
  | unchanged _ => rfl

/-! ## Calls that do not come back -/

/-- No call that this one makes, directly or through others, is for its entity again. -/
def Once (x : Library) (c : Call δ) : Prop :=
  ∀ c', TransGen (Makes x) c c' → c'.node.object ≠ c.node.object

section

variable {c : Call δ} (honce : c.Once x)
include honce

/-- While a related entity gets ready, the owner is left alone. -/
theorem Once.record?_eq {j : Join} {w₁ w₂ : World δ} (hw₁ : w₁.records.Has c.node.object)
    (hsettles : c.Settles x j m w₁)
    (hready : RelatedReady (insertEntity x ⟨true⟩ c.fuel) m w₁ w₂) :
    w₂.records.record? c.node.object = w₁.records.record? c.node.object := by
  rcases exists_makes hsettles hready with rfl | ⟨c', hmakes, rfl, rfl, rowId, hinsert⟩
  · rfl
  · obtain ⟨ref, hobject⟩ := exists_entity hmakes.2.1 hinsert
    refine record?_insertEntity hobject hw₁ (fun c'' hpath => ?_) hinsert
    exact honce c'' (.head' hmakes hpath)

/-- Settling a join writes no field of the owner but its own and that of its column. -/
theorem Once.settleJoin_frame {pre post : List Join} {j : Join}
    {keys keys' : List (String × Value)} {w w' : World δ}
    (hjoins : c.node.entity.joins = pre ++ j :: post)
    (hrun : c.settle x pre [] c.world = (.ok keys, w)) (hw : w.records.Has c.node.object)
    (h : settleJoin x (insertEntity x ⟨true⟩ c.fuel) c.node.entity c.node.object keys j w
      = (.ok keys', w')) :
    w'.records.Has c.node.object ∧ ∀ field, ¬c.node.entity.IsWrittenBy j field →
      w'.records.get c.node.object field = w.records.get c.node.object field := by
  obtain ⟨ref, hobject, -⟩ := hw.entity
  obtain ⟨related, w₁, hmade, hends⟩ := settleJoin_cases hobject hjoins hrun h
  have hwrites : Writes c.node.object (· = j.field) w w₁ :=
    relatedOrPlaceholder_writes hw rfl hmade
  have hw₁ := hwrites.has _ hw
  have hothers : ∀ field, ¬c.node.entity.IsWrittenBy j field →
      w₁.records.get c.node.object field = w.records.get c.node.object field :=
    fun field hfield => hwrites.others field fun heq => hfield (.inl heq)
  rcases hends with ⟨-, -, rfl⟩ | ⟨m, w₂, source, key, rfl, hsettles, hready, -, -, htaken⟩
  · exact ⟨hw₁, hothers⟩
  · have howner := honce.record?_eq hw₁ hsettles hready
    refine ⟨htaken.has ?_, fun field hfield => ?_⟩
    · rw [Records.Has, howner]
      exact hw₁
    · have htakes := htaken.get_eq hfield
      rw [← hobject] at htakes
      rw [htakes, Records.get_congr howner, hothers field hfield]

/-- Settling joins writes no field of the owner but theirs and those of their columns. -/
theorem Once.settle_frame {before js after : List Join} {keys keys' : List (String × Value)}
    {w w' : World δ} (hjoins : c.node.entity.joins = before ++ (js ++ after))
    (hrun : c.settle x before [] c.world = (.ok keys, w)) (hw : w.records.Has c.node.object)
    (h : c.settle x js keys w = (.ok keys', w')) :
    w'.records.Has c.node.object ∧ ∀ field, (∀ j ∈ js, ¬c.node.entity.IsWrittenBy j field) →
      w'.records.get c.node.object field = w.records.get c.node.object field := by
  refine settle_keeps (P := fun _ w₁ => w₁.records.Has c.node.object
    ∧ ∀ field, (∀ j ∈ js, ¬c.node.entity.IsWrittenBy j field) →
      w₁.records.get c.node.object field = w.records.get c.node.object field)
    (fun pre j post keys w₁ keys' w₂ hj hjoins hrun hfirst hw₁ => ?_) hjoins hrun
    ⟨hw, fun _ _ => rfl⟩ h
  obtain ⟨hw₂, hsame⟩ := honce.settleJoin_frame hjoins hrun hw₁.1 hfirst
  exact ⟨hw₂, fun field hfield => (hsame field (hfield j hj)).trans (hw₁.2 field hfield)⟩

end

/-! ## Calls in a hierarchy -/

/-- The call is for an entity that the root reaches, on records that follow those at first. -/
structure Sound (x : Library) (rs : Records) (root : Node) (c : Call δ) : Prop where
  reached : Reached x rs root c.node
  follows : Follows x rs root c.world.records

section

variable (hh : Hierarchy x rs root) {c c' : Call δ} (hc : c.Sound x rs root)
include hh hc

theorem Sound.settle {before after : List Join} {keys : List (String × Value)} {w : World δ}
    (hjoins : c.node.entity.joins = before ++ after)
    (h : c.settle x before [] c.world = (.ok keys, w)) : Follows x rs root w.records := by
  refine settle_first_keeps (P := fun _ w => Follows x rs root w.records)
    (fun pre j post keys w keys' w' _ hjoins _ hfirst hw => ?_) hjoins hc.follows h
  have hj : j ∈ c.node.entity.joins := by simp [hjoins]
  exact settleJoin_follows hh hc.reached hj hw hfirst

/-- What a sound call comes to and waits for its key was held at first. -/
theorem Settles.holdsBy {j : Join} {w : World δ} (h : c.Settles x j m w)
    (hunsaved : Unsaved w.records m) : j ∈ c.node.entity.joins ∧ HoldsBy x rs c.node j m := by
  obtain ⟨before, after, keys, w₀, hjoins, hrun, hmade, hpresent, hentity⟩ := h
  have hj : j ∈ c.node.entity.joins := by simp [hjoins]
  have hw₀ := hc.settle hh hjoins hrun
  rcases relatedOrPlaceholder_of_steady (hw₀.steady _ hc.reached j hj) hmade with
    ⟨hsame, -⟩ | ⟨-, hstandIn⟩
  · exact ⟨hj, hsame.symm, hpresent, hentity⟩
  · exact absurd (hstandIn.symm.trans hunsaved.1) (by decide)

theorem Makes.holds (h : c.Makes x c') : Holds x rs c.node c'.node := by
  obtain ⟨-, hunsaved, j, hsettles⟩ := h
  obtain ⟨hj, hm⟩ := hsettles.holdsBy hh hc hunsaved
  exact ⟨j, hj, hm⟩

/-- A sound call makes sound calls. -/
theorem Makes.sound (h : c.Makes x c') : c'.Sound x rs root := by
  have hholds := h.holds hh hc
  obtain ⟨-, -, j, before, after, keys, w₀, hjoins, hrun, hmade, -, -⟩ := h
  exact ⟨hc.reached.tail hholds,
    relatedOrPlaceholder_follows hh hc.reached (hc.settle hh hjoins hrun) hmade⟩

/-- All calls that a sound call comes to are sound. -/
theorem Sound.of_makes (h : ReflTransGen (Makes x) c c') : c'.Sound x rs root := by
  induction h with
  | refl => exact hc
  | tail _ hmakes ih => exact hmakes.sound hh ih

/-- In a hierarchy no call comes to its own entity again. -/
theorem Sound.once : c.Once x := by
  have hpath : ∀ c', TransGen (Makes x) c c' →
      c'.Sound x rs root ∧ TransGen (Holds x rs) c.node c'.node := by
    intro c' h
    induction h with
    | single hmakes => exact ⟨hmakes.sound hh hc, .single (hmakes.holds hh hc)⟩
    | tail _ hmakes ih => exact ⟨hmakes.sound hh ih.1, ih.2.tail (hmakes.holds hh ih.1)⟩
  exact fun c' h => hh.acyclic _ _ hc.reached (hpath c' h).2

/-- Every related entity that was held at first is come to. -/
theorem Inserts.exists_settles {i : Insertion δ} {j : Join} (h : c.Inserts x i)
    (hj : j ∈ c.node.entity.joins) (hm : HoldsBy x rs c.node j m) : ∃ w, c.Settles x j m w := by
  obtain ⟨before, after, hjoins⟩ := List.append_of_mem hj
  obtain ⟨-, hrun⟩ := h
  obtain ⟨keys, w₀, keys₁, w₁, hrun, hfirst, -⟩ := exists_settleJoin (hjoins ▸ hrun)
  obtain ⟨ref, hobject, -⟩ := (hh.has _ hc.reached).entity
  rw [hobject] at hfirst
  obtain ⟨related, w₂, hmade, -⟩ := settleJoin_eq_ok hfirst
  rw [← hobject] at hmade
  obtain ⟨hget, hpresent, hentity⟩ := hm
  have hw₀ := hc.settle hh hjoins hrun
  have hrelated : related = m.object := by
    rcases relatedOrPlaceholder_of_steady (hw₀.steady _ hc.reached j hj) hmade with
      ⟨hsame, -⟩ | ⟨hnull, -⟩
    · exact hsame.trans hget
    · rw [← hget, hnull] at hpresent
      exact absurd hpresent (by decide)
  exact ⟨w₂, before, after, keys, w₀, hjoins, hrun, hrelated ▸ hmade, hpresent, hentity⟩

end

/-! ## Rows and calls -/

/-- The row is that of the call or of one that it comes to. -/
def Comes (x : Library) (c : Call δ) (i : Insertion δ) : Prop :=
  ∃ c', ReflTransGen (Makes x) c c' ∧ c'.Inserts x i

/-- With so much fuel each row that a call inserts is that of a call that it comes to, and its own
comes last. -/
def Covers (δ : Type) [Database δ] (x : Library) (rs : Records) (root : Node) (fuel : Nat) : Prop :=
  ∀ (c : Call δ) (w' : World δ) (rowId : Int), c.fuel = fuel → c.Sound x rs root →
    c.run x c.world = (.ok rowId, w') →
    ∃ (before : List (Insertion δ)) (i : Insertion δ),
      w'.events = c.world.events ++ (before ++ [i]).map (·.event) ∧ c.Inserts x i
        ∧ i.Leaves w'.records ∧ ∀ i' ∈ before, c.Comes x i'

/-- What is inserted for one join are rows of a call that is made for it. -/
theorem exists_rows_of_settleJoin (hh : Hierarchy x rs root) {c : Call δ} (hc : c.Sound x rs root)
    (ih : ∀ fuel < c.fuel, Covers δ x rs root fuel) {pre post : List Join} {j : Join}
    {keys keys' : List (String × Value)} {w w' : World δ}
    (hjoins : c.node.entity.joins = pre ++ j :: post)
    (hrun : c.settle x pre [] c.world = (.ok keys, w))
    (h : settleJoin x (insertEntity x ⟨true⟩ c.fuel) c.node.entity c.node.object keys j w
      = (.ok keys', w')) :
    ∃ is : List (Insertion δ),
      w'.events = w.events ++ is.map (·.event) ∧ ∀ i ∈ is, c.Comes x i := by
  have hw := (hc.settle hh hjoins hrun).has _ (hh.has _ hc.reached)
  obtain ⟨ref, hobject, -⟩ := hw.entity
  obtain ⟨related, w₁, hmade, hends⟩ := settleJoin_cases hobject hjoins hrun h
  have hwrites : Writes c.node.object (fun _ => True) w w₁ :=
    relatedOrPlaceholder_writes hw trivial hmade
  rcases hends with ⟨-, -, rfl⟩ | ⟨m, w₂, source, key, rfl, hsettles, hready, -, -, htaken⟩
  · exact ⟨[], by simp [hwrites.events], by simp⟩
  have htakes : w'.events = w₂.events := by
    cases htaken <;> rfl
  rcases exists_makes hsettles hready with rfl | ⟨c', hmakes, rfl, rfl, rowId, hinsert⟩
  · exact ⟨[], by simp [htakes, hwrites.events], by simp⟩
  · have hless : c'.fuel < c.fuel := by
      rw [hmakes.1]
      exact Nat.lt_succ_self _
    obtain ⟨before, i, hevents, hinserts, -, hcalls⟩ :=
      ih c'.fuel hless c' w₂ rowId rfl (hmakes.sound hh hc) hinsert
    refine ⟨before ++ [i], by rw [htakes, hevents, hwrites.events], fun i' hi' => ?_⟩
    rcases List.mem_append.mp hi' with hi' | hi'
    · obtain ⟨c'', hpath, hinserts'⟩ := hcalls i' hi'
      exact ⟨c'', hpath.head hmakes, hinserts'⟩
    · rw [List.mem_singleton.mp hi']
      exact ⟨c', .single hmakes, hinserts⟩

/-- Each row that a sound call inserts is that of a call that it comes to. -/
theorem covers (hh : Hierarchy x rs root) (fuel : Nat) : Covers δ x rs root fuel := by
  induction fuel using Nat.strongRecOn with
  | ind fuel ih =>
  intro c w' rowId hfuel hc h
  obtain ⟨i, hinserts, hleaves, hrow⟩ := exists_inserts h
  have hrows : ∃ is : List (Insertion δ),
      i.before.events = c.world.events ++ is.map (·.event) ∧ ∀ i' ∈ is, c.Comes x i' := by
    refine settle_first_keeps (P := fun _ w => ∃ is : List (Insertion δ),
        w.events = c.world.events ++ is.map (·.event) ∧ ∀ i' ∈ is, c.Comes x i')
      (fun pre j post keys w keys' w' _ hjoins hrun hfirst hw => ?_) (List.append_nil _).symm
      ⟨[], by simp, by simp⟩ hinserts.2
    obtain ⟨is, hevents, hcalls⟩ := hw
    obtain ⟨is', hevents', hcalls'⟩ := exists_rows_of_settleJoin hh hc
      (fun less hless => ih less (hfuel ▸ hless)) hjoins hrun hfirst
    refine ⟨is ++ is', by rw [hevents', hevents, List.map_append, List.append_assoc], ?_⟩
    exact fun i' hi' => (List.mem_append.mp hi').elim (hcalls i') (hcalls' i')
  obtain ⟨before, hevents, hcalls⟩ := hrows
  refine ⟨before, i, ?_, hinserts, hleaves, hcalls⟩
  rw [hrow, hevents, List.map_append, List.map_singleton, List.append_assoc]

end Call

/-- The call that a saving makes for the entity itself, once the connection is open. -/
def rootCall (e : Entity) (v : Value) (opened : World δ) : Call δ :=
  ⟨opened.records.length + 1, ⟨e, v⟩, opened⟩

/-- A saving does not come to insert the entity again while it inserts what the entity cascades
to. -/
def InsertedOnce (x : Library) (w : World δ) (e : Entity) (v : Value) : Prop :=
  ∀ opened : World δ, opened.records = w.records → (rootCall e v opened).Once x

omit [Database δ] in
theorem rootCall_sound {e : Entity} {v : Value} {opened : World δ} (h : opened.records = rs) :
    (rootCall e v opened).Sound x rs ⟨e, v⟩ where
  reached := .refl
  follows := by
    rw [← h]
    exact .refl x opened.records ⟨e, v⟩

theorem Hierarchy.insertedOnce {e : Entity} {v : Value} {w : World δ}
    (h : Hierarchy x w.records ⟨e, v⟩) : InsertedOnce x w e v :=
  fun _ hrecords => (rootCall_sound hrecords).once h

/-- A saving that succeeds has read only, then made a call for the entity that has inserted rows,
its own last, and has inserted nothing else. -/
theorem exists_calls {validating : Bool} {e : Entity} {v r : Value} {w w' : World δ}
    (hh : Hierarchy x w.records ⟨e, v⟩) (h : save x validating e v w = (.ok r, w')) :
    ∃ (c : Call δ) (before : List (Insertion δ)) (i : Insertion δ) (opening closing : List Event),
      c.node = ⟨e, v⟩ ∧ c.world.records = w.records ∧ c.world.events = w.events ++ opening
      ∧ w'.events = c.world.events ++ (before ++ [i]).map (·.event) ++ closing
      ∧ (∀ ev ∈ opening ++ closing, ev.isInsertion = false)
      ∧ c.Inserts x i ∧ i.Leaves w'.records ∧ ∀ i' ∈ before, c.Comes x i' := by
  obtain ⟨-, -, w₁, rowId, hvalid, hwrite⟩ := save_eq_ok h
  obtain ⟨opened, w₂, hopen, hbody, -, rfl⟩ := withConnection_eq_ok.mp hwrite
  have hreads : Reads (fun _ => True) w w₁ := hvalid.reads readInvariant_true
  have hall := hreads.trans (silent_of_ensureOpen readInvariant_true hopen).reads
  have hclose := commit_leave_silent readInvariant_true x.management w₂
  obtain ⟨opening, hopening, hbefore⟩ := hall.events
  obtain ⟨closing, hclosing, hafter⟩ := hclose.events
  rw [← hall.records] at hbody
  obtain ⟨before, i, hevents, hinserts, hleaves, hcalls⟩ :=
    Call.covers hh _ (rootCall e v opened) w₂ rowId rfl (rootCall_sound hall.records) hbody
  refine ⟨rootCall e v opened, before, i, opening, closing, rfl, hall.records, hopening, ?_,
    fun ev hev => ?_, hinserts, ?_, hcalls⟩
  · rw [hclosing, hevents]
  · rcases List.mem_append.mp hev with hev | hev
    · exact hbefore ev hev
    · exact Event.isInsertion_eq_false (hafter ev hev)
  · rw [hclose.records]
    exact hleaves

end EntityMap
