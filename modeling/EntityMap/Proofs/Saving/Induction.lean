import EntityMap.Proofs.Saving.Insertions
import EntityMap.Proofs.Schema.Physical

/-!
# Induction over inserting

Whatever each single change keeps that inserting an entity makes, the whole keeps, whether it fails
or not (`insertEntity_keeps`). `InsertRules` lists the changes : a stand-in is made and put in the
field of a join, a key is taken over from the related entity (`TakenFrom`), a row is inserted, and
its number is written. What is related to an entity of `G` and waits for its key then has to be of
`G` too. A row names physical columns of its entity only (`NamesColumns`).
-/

namespace EntityMap

variable {δ : Type}

/-! ## The names of a row -/

/-- All values are under names of physical columns. -/
def NamesColumns (e : Entity) (values : List (String × Value)) : Prop :=
  ∀ name ∈ values.map (·.1), name ∈ e.physicalColumns

theorem namesColumns_nil (e : Entity) : NamesColumns e [] := by
  simp [NamesColumns]

theorem NamesColumns.setNamed {e : Entity} {values : List (String × Value)} {name : String}
    (h : NamesColumns e values) (hname : name ∈ e.physicalColumns) (v : Value) :
    NamesColumns e (setNamed name v values) := by
  intro other hother
  rw [map_fst_setNamed] at hother
  split at hother
  · exact h other hother
  · rcases List.mem_append.mp hother with hother | hother
    · exact h other hother
    · exact List.mem_singleton.mp hother ▸ hname

/-- The own values of an entity are under the names of its columns. -/
theorem ownValues_namesColumns {rs : Records} {e : Entity} {v : Value}
    {own : List (String × Value)} (h : ownValues rs e v = .ok own) : NamesColumns e own := by
  refine foldlM_keeps e.columns (fun known col hcol known' hknown h => ?_) (namesColumns_nil e) h
  dsimp only at h
  split at h
  · cases h
    exact hknown
  · obtain ⟨new, -, rfl⟩ := Except.map_eq_ok.mp h
    exact hknown.setNamed (Entity.name_mem_physicalColumns hcol) new

/-- Keys come under the names of the keys. -/
theorem NamesColumns.addKeys {e : Entity} {keys values : List (String × Value)}
    (hkeys : NamesColumns e keys) (hvalues : NamesColumns e values) :
    NamesColumns e (addKeys keys values) := by
  refine List.foldlRecOn keys _ hvalues fun known hknown k hk => ?_
  split
  · exact hknown
  · unfold setNew
    split
    · exact hknown
    · intro name hname
      rw [List.map_append, List.mem_append] at hname
      rcases hname with hname | hname
      · exact hknown name hname
      · obtain rfl : name = k.1 := by simpa using hname
        exact hkeys _ (List.mem_map_of_mem hk)

variable [Database δ]

/-! ## Rules -/

/-- The key of a join is read from the related entity, which was in the field of the join in a world
of `P`, or was made if the join declares a default. -/
inductive TakenFrom (x : Library) (P : World δ → Prop) (n : Node) (j : Join) (w : World δ)
    (key : Value) : Prop
  | related {earlier : World δ} {m : Node} {source : Column} (keeps : P earlier)
      (held : earlier.records.get n.object j.field = m.object ∨ j.hasDefault = true)
      (entity : x.catalogue.describeRelated j = .ok m.entity)
      (present : m.object.isNull = false) (column : x.catalogue.sourceColumn j = .ok source)
      (value : stored (w.records.get m.object source.field) = .ok key) :
      TakenFrom x P n j w key

/-- Every change that inserting makes to an entity of `G` keeps `P`. -/
structure InsertRules (x : Library) (G : Node → Prop) (P : World δ → Prop) : Prop where
  newRecord : ∀ w r, P w → P { w with records := w.records ++ [r] }
  standIn : ∀ w n j r ref, P w → G n → j ∈ n.entity.joins → n.object = .entity ref →
    w.records.get n.object j.field = .null → j.hasDefault = true → r.isPlaceholder = true →
    P { w with records := (w.records ++ [r]).set ref j.field (.entity w.records.length) }
  foreignKey : ∀ w n j col ref key, P w → G n → j ∈ n.entity.joins → n.object = .entity ref →
    n.entity.columnNamed? j.target = some col → key.isNull = false → TakenFrom x P n j w key →
    P { w with records := w.records.set ref col.field key }
  statement : ∀ w n columns ps d, P w → G n → (∀ c ∈ columns, c ∈ n.entity.physicalColumns) →
    P { w.after (.ran (.insert n.entity.table columns) ps) with database := d }
  number : ∀ (i : Insertion δ) key ref, P i.before → P i.after → G i.node →
    i.object = .entity ref → i.node.entity.primaryKey = some key → key.autoIncrement = true →
    P { i.after with records := i.before.records.set ref key.field (.int i.reply.rowId) }
  related : ∀ w n m j, P w → G n → j ∈ n.entity.joins →
    w.records.get n.object j.field = m.object → x.catalogue.describeRelated j = .ok m.entity →
    m.object.isNull = false → Unsaved w.records m → G m

namespace InsertRules

variable {x : Library} {G : Node → Prop} {P : World δ → Prop} {n : Node} {w : World δ}
  (h : InsertRules x G P)
include h

/-- Besides, there is the related entity in the field of the join, or it is a stand-in. -/
theorem relatedOrPlaceholder {j : Join} (hG : G n) (hj : j ∈ n.entity.joins) (hw : P w) :
    (relatedOrPlaceholder x n.object j).Ends w
      (fun related w' => P w' ∧ (w'.records.get n.object j.field = related
        ∨ w'.records.isPlaceholder related = true ∧ j.hasDefault = true))
      fun _ => P := by
  refine Op.Ends.records_bind ?_
  dsimp only
  split
  · next hempty =>
    obtain ⟨hnull, hdefault⟩ := Bool.and_eq_true_iff.mp hempty
    refine ((placeholder_ends x j w).mono (fun _ _ h => h) ?_).bind ?_
    · rintro _ _ rfl
      exact hw
    · rintro _ _ ⟨r, hr, rfl, rfl⟩
      refine Op.Ends.bind (Op.Ends.setField (Q := fun _ w' => P w'
        ∧ w'.records.isPlaceholder (.entity w.records.length) = true)
        (fun ref href => ⟨?_, isPlaceholder_standIn hr⟩) fun _ => h.newRecord w r hw)
        fun _ _ h => Op.Ends.pure ⟨h.1, .inr ⟨h.2, hdefault⟩⟩
      exact h.standIn w n j r ref hw hG hj href (Value.isNull_iff.mp hnull) hdefault
        (placeholderRecord_eq_ok hr)
  · exact Op.Ends.pure ⟨hw, .inl rfl⟩

theorem settleKey {j : Join} {related : Value} {keys : List (String × Value)} (hG : G n)
    (hj : j ∈ n.entity.joins) (hkeys : NamesColumns n.entity keys) (hw : P w)
    (htaken : ∀ source key, x.catalogue.sourceColumn j = .ok source →
      stored (w.records.get related source.field) = .ok key → TakenFrom x P n j w key) :
    (settleKey x n.entity n.object keys j related).Ends w
      (fun keys' w' => NamesColumns n.entity keys' ∧ P w') fun _ => P := by
  refine Op.Ends.describing_bind (fun source hsource => Op.Ends.records_bind ?_) fun _ _ => hw
  refine Op.Ends.ofResult_bind (fun key hvalue => ?_) fun _ _ => hw
  cases hcol : n.entity.columnNamed? j.target with
  | none =>
    exact Op.Ends.pure ⟨hkeys.setNamed (Entity.target_mem_physicalColumns hj) key, hw⟩
  | some col =>
    dsimp only
    split
    · next hkey =>
      have hset : (Op.setField n.object col.field key).Ends w (fun _ => P) fun _ => P :=
        Op.Ends.setField (fun ref href => h.foreignKey w n j col ref key hw hG hj href hcol
          (by simpa using hkey) (htaken source key hsource hvalue)) fun _ => hw
      exact hset.bind fun _ _ hw' => Op.Ends.pure ⟨hkeys, hw'⟩
    · exact Op.Ends.pure ⟨hkeys, hw⟩

theorem settleJoin {insertRelated : Entity → Value → Op δ Int} {j : Join}
    {keys : List (String × Value)} (hG : G n) (hj : j ∈ n.entity.joins)
    (hinsert : ∀ m, G m → (insertRelated m.entity m.object).Keeps P)
    (hkeys : NamesColumns n.entity keys) (hw : P w) :
    (settleJoin x insertRelated n.entity n.object keys j).Ends w
      (fun keys' w' => NamesColumns n.entity keys' ∧ P w') fun _ => P := by
  rw [settleJoin_eq]
  refine (h.relatedOrPlaceholder hG hj hw).bind ?_
  rintro related w₁ ⟨hw₁, hthere⟩
  split
  · exact Op.Ends.pure ⟨hkeys, hw₁⟩
  next hpresent =>
  refine Op.Ends.describing_bind (fun relatedEntity hentity => Op.Ends.records_bind ?_)
    fun _ _ => hw₁
  have htaken : ∀ (w₂ : World δ) source key, x.catalogue.sourceColumn j = .ok source →
      stored (w₂.records.get related source.field) = .ok key → TakenFrom x P n j w₂ key :=
    fun w₂ source key hsource hvalue =>
      .related (m := ⟨relatedEntity, related⟩) hw₁ (hthere.imp_right And.right) hentity
        (by simpa using hpresent) hsource hvalue
  split
  · next hunsaved =>
    have hunsaved : Unsaved w₁.records ⟨relatedEntity, related⟩ := by
      simpa [Unsaved] using hunsaved
    have hget := hthere.resolve_right fun h => absurd (h.1.symm.trans hunsaved.1) (by decide)
    have hm : G ⟨relatedEntity, related⟩ :=
      h.related w₁ n ⟨relatedEntity, related⟩ j hw₁ hG hj hget hentity (by simpa using hpresent)
        hunsaved
    exact (hinsert _ hm w₁ hw₁).bind fun _ w₂ hw₂ => h.settleKey hG hj hkeys hw₂ (htaken w₂)
  · exact h.settleKey hG hj hkeys hw₁ (htaken w₁)

theorem settleJoins {insertRelated : Entity → Value → Op δ Int} (hG : G n)
    (hinsert : ∀ m, G m → (insertRelated m.entity m.object).Keeps P) (hw : P w) :
    (n.entity.joins.foldlM (EntityMap.settleJoin x insertRelated n.entity n.object) []).Ends w
      (fun keys w' => NamesColumns n.entity keys ∧ P w') fun _ => P :=
  Op.Ends.foldlM (P := fun keys w => NamesColumns n.entity keys ∧ P w)
    (fun _ hj _ _ hw => h.settleJoin hG hj hinsert hw.1 hw.2) ⟨namesColumns_nil _, hw⟩

/-- Inserting an entity keeps what each change keeps. -/
theorem insertEntity_keeps (k : Connection) (fuel : Nat) (hG : G n) :
    (insertEntity x k fuel n.entity n.object).Keeps P := by
  induction fuel generalizing n with
  | zero => exact Op.Keeps.throw _ _
  | succ fuel ih =>
    intro w hw
    rw [insertEntity]
    refine (h.settleJoins hG (fun m hm => ih hm) hw).bind ?_
    rintro keys w₁ ⟨hkeys, hw₁⟩
    refine Op.Ends.records_bind (Op.Ends.ofResult_bind (fun own hown => ?_) fun _ _ => hw₁)
    have hnames : NamesColumns n.entity (addKeys keys own) :=
      hkeys.addKeys (ownValues_namesColumns hown)
    have hrow : (k.insert n.entity.table (addKeys keys own)).Ends w₁
        (fun rowId w₂ => ∃ i : Insertion δ, i.node = n ∧ i.before = w₁ ∧ i.reply.rowId = rowId
          ∧ i.values = addKeys keys own ∧ w₂ = i.after)
        fun _ => P := by
      refine ⟨fun rowId w₂ hinsert => ?_, fun f w₂ hinsert => ?_⟩
      · obtain ⟨reply, d, hrun, rfl, rfl⟩ := Connection.insert_eq_ok hinsert
        refine ⟨⟨n, w₁, keys, own, reply, hown, by rw [hrun]⟩, rfl, rfl, rfl, rfl, ?_⟩
        exact congrArg (fun r => { w₁.after _ with database := r.2 }) hrun.symm
      · rcases Connection.insert_eq_error hinsert with rfl | ⟨d, rfl⟩
        · exact hw₁
        · exact h.statement w₁ n _ _ d hw₁ hG hnames
    refine hrow.bind ?_
    rintro rowId w₂ ⟨i, rfl, rfl, rfl, hvalues, rfl⟩
    have hw₂ : P i.after := h.statement i.before i.node _ _ _ hw₁ hG (hvalues ▸ hnames)
    cases hkey : i.node.entity.primaryKey with
    | none => exact Op.Ends.pure hw₂
    | some key =>
      dsimp only
      split
      · next hauto =>
        refine Op.Ends.bind (Op.Ends.setField (fun ref href => ?_) fun _ => hw₂) fun _ _ h =>
          Op.Ends.pure h
        exact h.number i key ref hw₁ hw₂ hG href hkey hauto
      · exact Op.Ends.pure hw₂

end InsertRules

end EntityMap
