import EntityMap.Proofs.Operation.Supply
import EntityMap.Proofs.Saving.Calls

/-!
# What a saving supplies

A saving counts rows for the entity and for what it validates besides (`validateRelated_carries`),
and then inserts rows on one connection. Each row is that of a call, and each of its values is that
of a field in the column or the key that a join has delivered in this call (`Call.Fills`), whether
the row is accepted or not (`Call.run_carries`).
-/

namespace EntityMap

open Relation

variable {δ : Type} [Database δ] {x : Library} {P : World δ → Statement → List Value → Prop}
  {w₀ w : World δ}

/-! ## Rows -/

namespace Call

/-- A join that is settled in a call delivers a key for its column, which has no field : what is
stored for the source field of the related entity once that is ready. -/
inductive Delivery (x : Library) (c : Call δ) : String × Value → Prop
  | key {j : Join} {m : Node} {w₁ w₂ : World δ} {source : Column} {key : Value}
      (noField : c.node.entity.columnNamed? j.target = none) (settles : c.Settles x j m w₁)
      (ready : RelatedReady (insertEntity x ⟨true⟩ c.fuel) m w₁ w₂)
      (column : x.catalogue.sourceColumn j = .ok source)
      (stored : stored (w₂.records.get m.object source.field) = .ok key) :
      Delivery x c (j.target, key)

/-- The value under the name of a column is that of a field, or a key that was delivered. -/
inductive Fills (x : Library) (c : Call δ) (rs : Records) : String × Value → Prop
  | field {col : Column} {value : Value} (column : col ∈ c.node.entity.columns)
      (stored : stored (rs.get c.node.object col.field) = .ok value) :
      Fills x c rs (col.name, value)
  | key {p : String × Value} (delivery : c.Delivery x p) : Fills x c rs p

/-- The row that a call inserts, in the world where it is inserted. -/
inductive Row (x : Library) (c : Call δ) (w : World δ) : Statement → List (String × Value) → Prop
  | inserted {values : List (String × Value)} (distinct : (values.map (·.1)).Nodup)
      (fills : ∀ p ∈ values, c.Fills x w.records p) :
      Row x c w (.insert c.node.entity.table (values.map (·.1))) values

end Call

/-! ## Inserting -/

omit [Database δ] in
theorem relatedOrPlaceholder_takes {S : World δ → Option Failure → World δ → Prop} (x : Library)
    (v : Value) (j : Join) : (relatedOrPlaceholder x v j : Op δ Value).Takes S := by
  refine Op.Takes.records_bind fun rs => ?_
  dsimp only
  split
  · have hstub : (placeholder x j : Op δ Value).Takes S :=
      Op.Takes.ofResult_bind fun r _ => Op.Takes.addRecord r
    exact hstub.bind fun stub => (Op.Takes.setField _ _ _).bind fun _ => Op.Takes.pure _
  · exact Op.Takes.pure _

omit [Database δ] in
/-- What a step carries on, it carries on with the end that it comes to. -/
theorem Op.Carries.self {α : Type} {S : World δ → Option Failure → World δ → Prop} {m : Op δ α}
    (h : m.Carries S w₀ w) :
    m.Ends w (fun a w' => m w = (.ok a, w') ∧ Course S w₀ none w')
      fun f => Course S w₀ (some f) :=
  ⟨fun a w' hm => ⟨hm, h.1 a w' hm⟩, h.2⟩

namespace Call

variable {c : Call δ}

theorem settleKey_carries {j : Join} {m : Node} {w₁ w₂ : World δ} {keys : List (String × Value)}
    (hsettles : c.Settles x j m w₁)
    (hready : RelatedReady (insertEntity x ⟨true⟩ c.fuel) m w₁ w₂)
    (hkeys : ∀ p ∈ keys, c.Delivery x p) (hw : Course (Asks P) w₀ none w₂) :
    (settleKey x c.node.entity c.node.object keys j m.object).Ends w₂
      (fun keys' w' => (∀ p ∈ keys', c.Delivery x p) ∧ Course (Asks P) w₀ none w')
      fun f => Course (Asks P) w₀ (some f) := by
  refine Op.Ends.describing_bind (fun source hsource => ?_) fun _ _ => hw.raised _
  refine Op.Ends.records_bind ?_
  refine Op.Ends.ofResult_bind (fun key hkey => ?_) fun f _ => hw.raised f
  cases hfield : c.node.entity.columnNamed? j.target with
  | none =>
    refine Op.Ends.pure ⟨fun p hp => ?_, hw⟩
    rcases mem_setNamed hp with rfl | hp
    · exact .key hfield hsettles hready hsource hkey
    · exact hkeys p hp
  | some col =>
    dsimp only
    split
    · exact Op.Ends.bind (Op.Takes.setField _ _ _ w₀ w₂ hw) fun _ w' hw' =>
        Op.Ends.pure ⟨hkeys, hw'⟩
    · exact Op.Ends.pure ⟨hkeys, hw⟩

/-- A join is settled once those before it have been. -/
theorem settleJoin_carries {before after : List Join} {j : Join} {keys : List (String × Value)}
    (ih : ∀ c', c.Makes x c' → Course (Asks P) w₀ none c'.world →
      (c'.run x).Carries (Asks P) w₀ c'.world)
    (hjoins : c.node.entity.joins = before ++ j :: after)
    (hrun : c.settle x before [] c.world = (.ok keys, w))
    (hkeys : ∀ p ∈ keys, c.Delivery x p) (hw : Course (Asks P) w₀ none w) :
    (settleJoin x (insertEntity x ⟨true⟩ c.fuel) c.node.entity c.node.object keys j).Ends w
      (fun keys' w' => (∀ p ∈ keys', c.Delivery x p) ∧ Course (Asks P) w₀ none w')
      fun f => Course (Asks P) w₀ (some f) := by
  rw [settleJoin_eq]
  refine Op.Ends.bind (Op.Carries.self (relatedOrPlaceholder_takes x _ j w₀ w hw)) ?_
  rintro related w₁ ⟨hmade, hw₁⟩
  split
  · exact Op.Ends.pure ⟨hkeys, hw₁⟩
  next hpresent =>
  refine Op.Ends.describing_bind (fun relatedEntity hentity => ?_) fun _ _ => hw₁.raised _
  refine Op.Ends.records_bind ?_
  have hsettles : c.Settles x j ⟨relatedEntity, related⟩ w₁ :=
    ⟨before, after, keys, w, hjoins, hrun, hmade, by simpa using hpresent, hentity⟩
  split
  · next hunsaved =>
    have hunsaved : Unsaved w₁.records ⟨relatedEntity, related⟩ := by
      simpa [Unsaved] using hunsaved
    have hinsert : (insertEntity x ⟨true⟩ c.fuel relatedEntity related).Carries (Asks P) w₀ w₁ := by
      cases hfuel : c.fuel with
      | zero => exact Op.Takes.throw _ w₀ w₁ hw₁
      | succ fuel =>
        exact ih ⟨fuel, ⟨relatedEntity, related⟩, w₁⟩ ⟨hfuel, hunsaved, j, hsettles⟩ hw₁
    refine Op.Ends.bind hinsert.self ?_
    rintro _ w₂ ⟨hinserted, hw₂⟩
    have hkey := settleKey_carries hsettles (.inserted hunsaved hinserted) hkeys hw₂
    exact hkey
  · next hsaved =>
    have hsaved : ¬Unsaved w₁.records ⟨relatedEntity, related⟩ := by
      simpa [Unsaved] using hsaved
    have hkey := settleKey_carries hsettles (.present hsaved) hkeys hw₁
    exact hkey

theorem settle_carries
    (ih : ∀ c', c.Makes x c' → Course (Asks P) w₀ none c'.world →
      (c'.run x).Carries (Asks P) w₀ c'.world)
    {before js : List Join} {keys : List (String × Value)}
    (hjoins : c.node.entity.joins = before ++ js)
    (hrun : c.settle x before [] c.world = (.ok keys, w))
    (hkeys : ∀ p ∈ keys, c.Delivery x p) (hw : Course (Asks P) w₀ none w) :
    (c.settle x js keys).Ends w
      (fun keys' w' => (∀ p ∈ keys', c.Delivery x p) ∧ Course (Asks P) w₀ none w')
      fun f => Course (Asks P) w₀ (some f) := by
  -- The joins before are kept with their run, which is what `Call.Settles` speaks of.
  induction js generalizing before keys w with
  | nil => exact Op.Ends.pure ⟨hkeys, hw⟩
  | cons j js ihjs =>
    rw [settle, List.foldlM_cons]
    have hfirst := settleJoin_carries ih hjoins hrun hkeys hw
    refine ⟨fun keys' w' h => ?_, fun f w' h => ?_⟩
    · obtain ⟨keys₁, w₁, h₁, h₂⟩ := Op.bind_eq_ok.mp h
      obtain ⟨hkeys₁, hw₁⟩ := hfirst.1 _ _ h₁
      have hjoins₁ : c.node.entity.joins = (before ++ [j]) ++ js := by simpa using hjoins
      exact (ihjs hjoins₁ (settle_concat hrun h₁) hkeys₁ hw₁).1 _ _ h₂
    · rcases Op.bind_eq_error.mp h with h | ⟨keys₁, w₁, h₁, h₂⟩
      · exact hfirst.2 _ _ h
      · obtain ⟨hkeys₁, hw₁⟩ := hfirst.1 _ _ h₁
        have hjoins₁ : c.node.entity.joins = (before ++ [j]) ++ js := by simpa using hjoins
        exact (ihjs hjoins₁ (settle_concat hrun h₁) hkeys₁ hw₁).2 _ _ h₂

/-- A call inserts its own row and those of the calls that it comes to. -/
theorem run_carries {root : Call δ} (hc : ReflTransGen (Makes x) root c)
    (hP : ∀ c w s pairs, ReflTransGen (Makes x) root c → c.Row x w s pairs →
      P w s (pairs.map (·.2)))
    (hw : Course (Asks P) w₀ none c.world) : (c.run x).Carries (Asks P) w₀ c.world := by
  -- Every call that this one makes has less fuel.
  induction hfuel : c.fuel using Nat.strongRecOn generalizing c with
  | ind fuel ih =>
  have hmakes : ∀ c', c.Makes x c' → Course (Asks P) w₀ none c'.world →
      (c'.run x).Carries (Asks P) w₀ c'.world := fun c' hc' hw' =>
    ih c'.fuel (by have := hc'.1; omega) (hc.tail hc') hw' rfl
  rw [run, insertEntity]
  have hstart : c.settle x [] [] c.world = (.ok [], c.world) := rfl
  have hsettled := settle_carries hmakes (List.nil_append _).symm hstart (by simp) hw
  refine Op.Ends.bind hsettled ?_
  rintro keys w₁ ⟨hkeys, hw₁⟩
  refine Op.Ends.records_bind ?_
  refine Op.Ends.ofResult_bind (fun own hown => ?_) fun f _ => hw₁.raised f
  have hrow : c.Row x w₁ (.insert c.node.entity.table ((addKeys keys own).map (·.1)))
      (addKeys keys own) := by
    refine .inserted (nodup_addKeys keys (nodup_ownValues hown)) fun p hp => ?_
    rcases mem_addKeys hp with hp | hp
    · obtain ⟨col, hcol, hname, -, hstored⟩ := exists_column_of_mem_ownValues hown hp
      have hfield : c.Fills x w₁.records (col.name, p.2) := .field hcol hstored
      rwa [hname] at hfield
    · exact .key (hkeys p hp)
  have hinsert : (Connection.insert ⟨true⟩ c.node.entity.table (addKeys keys own)).Carries (Asks P)
      w₀ w₁ := by
    refine Op.Ends.bind ((Connection.checkWritable_ends _ _ _).mono (fun _ _ h => h) ?_) ?_
    · rintro f _ rfl
      exact hw₁.raised f
    · rintro _ _ rfl
      exact Op.Ends.bind (Op.Ends.runStatement hw₁ (hP c _ _ _ hc hrow)) fun _ w₂ h =>
        Op.Ends.pure h.1
  refine Op.Ends.bind hinsert fun rowId w₂ hw₂ => ?_
  cases c.node.entity.primaryKey with
  | none => exact Op.Ends.pure hw₂
  | some key =>
    dsimp only
    split
    · exact ((Op.Takes.setField _ _ _).bind fun _ => Op.Takes.pure _) w₀ w₂ hw₂
    · exact Op.Ends.pure hw₂

end Call

/-! ## Validating -/

section

variable {root n : Node} {rs : Records}
  (hP : ∀ w n s pairs, Reached x rs root n → CountsFor x w.records n s pairs →
    P w s (pairs.map (·.2)))
include hP

/-- Validating leaves the entities alone. -/
theorem validate_carries (hn : Reached x rs root n)
    (hw : Course (Transaction P x.management) w₀ none w) (hrs : w.records = rs) :
    (validate x n.entity n.object).Ends w
      (fun _ w' => w'.records = rs ∧ Course (Transaction P x.management) w₀ none w')
      fun f => Course (Transaction P x.management) w₀ (some f) := by
  have hreads := validate_reads readInvariant_true (x := x) (e := n.entity) (v := n.object) w w
    (Adds.refl _ _ w)
  have htakes := validate_takes (fun w s pairs => hP w n s pairs hn) w₀ w hw
  exact (hreads.and htakes).mono (fun _ _ h => ⟨h.1.records.trans hrs, h.2⟩) fun _ _ h => h.2

/-- Rows are counted for entities that the root reaches. -/
theorem validateRelated_carries (fuel : Nat) (hn : Reached x rs root n)
    (hw : Course (Transaction P x.management) w₀ none w) (hrs : w.records = rs) :
    (validateRelated x fuel n.entity n.object).Ends w
      (fun _ w' => w'.records = rs ∧ Course (Transaction P x.management) w₀ none w')
      fun f => Course (Transaction P x.management) w₀ (some f) := by
  induction fuel generalizing n w with
  | zero => exact Op.Ends.throw (hw.raised _)
  | succ fuel ih =>
    rw [validateRelated]
    refine Op.Ends.forM (fun j hj w hw => ?_) ⟨hrs, hw⟩
    obtain ⟨hrs, hw⟩ := hw
    refine Op.Ends.records_bind ?_
    dsimp only
    split
    · exact Op.Ends.pure ⟨hrs, hw⟩
    next hpresent =>
    refine Op.Ends.describing_bind (fun related hrelated => ?_) fun _ _ => hw.raised _
    split
    · have hm : Reached x rs root ⟨related, w.records.get n.object j.field⟩ := by
        refine hn.tail ⟨j, hj, by rw [hrs], ?_, hrelated⟩
        exact Bool.eq_false_iff.mpr fun hnull => hpresent (by simp [hnull])
      refine Op.Ends.bind (ih hm hw hrs) ?_
      rintro _ w' ⟨hrs', hw'⟩
      exact validate_carries hP hm hw' hrs'
    · exact Op.Ends.pure ⟨hrs, hw⟩

end

/-! ## Saving -/

/-- After its validation, unless it does without, a saving has opened a connection. -/
def BeginsWriting (x : Library) (validating : Bool) (e : Entity) (v : Value)
    (w opened : World δ) : Prop :=
  ∃ w₁, Validated x validating e v w w₁ ∧ ensureOpen x.management w₁ = (.ok (), opened)

/-- After a course of transactions whose statements are of `C` one more follows with statements of
`R`, unless the course fails. -/
inductive Staged (C R : World δ → Statement → List Value → Prop) (m : Management) (w : World δ) :
    Option Failure → World δ → Prop
  | failed {f : Failure} {w' : World δ} (course : Course (Transaction C m) w (some f) w') :
      Staged C R m w (some f) w'
  | last {r : Option Failure} {w₁ w' : World δ} (course : Course (Transaction C m) w none w₁)
      (last : Transaction R m w₁ r w') : Staged C R m w r w'

theorem Staged.course {C R : World δ → Statement → List Value → Prop} {m : Management}
    {r : Option Failure} {w' : World δ} (hC : ∀ w s ps, C w s ps → P w s ps)
    (hR : ∀ w s ps, R w s ps → P w s ps) (h : Staged C R m w r w') :
    Course (Transaction P m) w r w' := by
  cases h with
  | failed course => exact course.mono fun _ _ _ => Transaction.mono hC
  | last course last => exact (course.mono fun _ _ _ => Transaction.mono hC).step (last.mono hR)

/-- A saving counts rows in transactions of its own, and then inserts all rows in one. -/
theorem save_staged {C R : World δ → Statement → List Value → Prop} {validating : Bool}
    {e : Entity} {v : Value}
    (hcounts : ∀ w₁ n s pairs, Reached x w.records ⟨e, v⟩ n → CountsFor x w₁.records n s pairs →
      C w₁ s (pairs.map (·.2)))
    (hrows : ∀ opened c w₁ s pairs, BeginsWriting x validating e v w opened →
      ReflTransGen (Call.Makes x) (rootCall e v opened) c → c.Row x w₁ s pairs →
      R w₁ s (pairs.map (·.2))) :
    (save x validating e v).Ends w (fun _ => Staged C R x.management w none)
      fun f => Staged C R x.management w (some f) := by
  have hwrite : ∀ w₁, Validated x validating e v w w₁ → w₁.records = w.records →
      Course (Transaction C x.management) w none w₁ → (do
        let _ ← writeAll x (relationDepth w.records) e v
        return v : Op δ Value).Ends w₁ (fun _ => Staged C R x.management w none)
          fun f => Staged C R x.management w (some f) := by
    intro w₁ hvalid hrecords hw₁
    have hbody : ∀ opened, ensureOpen x.management w₁ = (.ok (), opened) →
        (insertEntity x ⟨true⟩ (relationDepth w.records) e v).Carries (Asks R) opened opened := by
      intro opened hopen
      -- The depth is counted before the validation, which has changed no entity.
      have hsame := (silent_of_ensureOpen readInvariant_true hopen).records.trans hrecords
      rw [← hsame]
      exact Call.run_carries (c := rootCall e v opened) .refl (fun c w₂ s pairs hc hrow =>
        hrows opened c w₂ s pairs ⟨w₁, hvalid, hopen⟩ hc hrow) .start
    refine Op.Ends.bind ((Op.Ends.transaction hbody).mono (fun _ _ h => h) fun _ _ h => ?_) ?_
    · exact .last hw₁ h
    · exact fun _ w' h => Op.Ends.pure (.last hw₁ h)
  refine Op.Ends.records_bind ?_
  refine Op.Ends.ofResult_bind (fun _ _ => ?_) fun f _ => .failed (Course.start.raised f)
  cases validating with
  | false => exact hwrite w rfl rfl .start
  | true =>
    have hrelated := validateRelated_carries hcounts (relationDepth w.records) .refl .start rfl
    refine ⟨fun r w' h => ?_, fun f w' h => ?_⟩
    · obtain ⟨_, w₁, h₁, h⟩ := Op.bind_eq_ok.mp h
      obtain ⟨hrs₁, hw₁⟩ := hrelated.1 _ _ h₁
      obtain ⟨_, w₂, h₂, h⟩ := Op.bind_eq_ok.mp h
      have hself := validate_carries hcounts .refl hw₁ hrs₁
      obtain ⟨hrs₂, hw₂⟩ := hself.1 _ _ h₂
      exact (hwrite w₂ (Op.bind_eq_ok.mpr ⟨(), w₁, h₁, h₂⟩) hrs₂ hw₂).1 _ _ h
    · rcases Op.bind_eq_error.mp h with h | ⟨_, w₁, h₁, h⟩
      · exact .failed (hrelated.2 _ _ h)
      obtain ⟨hrs₁, hw₁⟩ := hrelated.1 _ _ h₁
      have hself := validate_carries hcounts .refl hw₁ hrs₁
      rcases Op.bind_eq_error.mp h with h | ⟨_, w₂, h₂, h⟩
      · exact .failed (hself.2 _ _ h)
      obtain ⟨hrs₂, hw₂⟩ := hself.1 _ _ h₂
      exact (hwrite w₂ (Op.bind_eq_ok.mpr ⟨(), w₁, h₁, h₂⟩) hrs₂ hw₂).2 _ _ h

theorem save_carries {validating : Bool} {e : Entity} {v : Value}
    (hcounts : ∀ w₁ n s pairs, Reached x w.records ⟨e, v⟩ n → CountsFor x w₁.records n s pairs →
      P w₁ s (pairs.map (·.2)))
    (hrows : ∀ opened c w₁ s pairs, BeginsWriting x validating e v w opened →
      ReflTransGen (Call.Makes x) (rootCall e v opened) c → c.Row x w₁ s pairs →
      P w₁ s (pairs.map (·.2)))
    (hw : Course (Transaction P x.management) w₀ none w) :
    (save x validating e v).Carries (Transaction P x.management) w₀ w :=
  (save_staged hcounts hrows).mono
    (fun _ _ h => hw.trans (h.course (fun _ _ _ h => h) fun _ _ _ h => h))
    fun _ _ h => hw.trans (h.course (fun _ _ _ h => h) fun _ _ _ h => h)

end EntityMap
