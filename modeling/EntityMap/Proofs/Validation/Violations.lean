import EntityMap.Proofs.Record
import EntityMap.Proofs.Validation.Reads

/-!
# What validation finds

`Violates` says which constraints an entity does not satisfy, given what a table holds
(`Content`). `violations` lists just these in the order of the fields (`Reports`,
`violations_ends`), and fails only if a value cannot be looked up : because the database cannot be
opened (`Opens`), or because of the value itself (`Checkable`).
-/

namespace EntityMap

variable {δ : Type}

/-- What it gives to look a value up in a column of a table. -/
abbrev Lookup := String → String → Value → Except Failure Bool

/-- States of a database in which looking a value up gives just that, and which are not left
thereby ; nor is a commit refused. -/
structure Content [Database δ] (rs : Records) (I : δ → Prop) (taken : Lookup) : Prop
    extends ReadInvariant I where
  commits : ∀ d, I d → (Database.commit d).1 = .ok ()
  answers : ∀ table column key d, I d →
    ((Database.run rs (.count table (.byColumn column)) [key] d).1.mapError
      StatementError.toFailure).bind Reply.countsAny = taken table column key

/-- States in which a database can be opened. -/
def Opens [Database δ] (I : δ → Prop) : Prop :=
  ∀ enforced d, I d → (Database.connect enforced d).1 = .ok ()

/-! ## Constraints -/

section

variable (taken : Lookup) (x : Library) (rs : Records) (n : Node)

/-- A constraint of a column that an entity does not satisfy : the value is absent and nothing
fills it in, or the table holds it already. -/
inductive ColumnViolates (col : Column) : Violation → Prop
  | absent (counted : col.autoIncrement = false) (null : rs.get n.object col.field = .null)
      (required : col.nullable = false) (noDefault : col.hasDefault = false)
      (unfilled : ∀ j ∈ n.entity.joins, j.target = col.name →
        rs.get n.object j.field = .null ∧ j.hasDefault = false) :
      ColumnViolates col (.columnAbsent col.field)
  | taken {key : Value} (counted : col.autoIncrement = false)
      (present : (rs.get n.object col.field).isNull = false) (unique : col.unique = true)
      (value : stored (rs.get n.object col.field) = .ok key)
      (found : taken n.entity.table col.name key = .ok true) :
      ColumnViolates col
        (.columnTaken col.field ((rs.get n.object col.field).display (rs.shown x.catalogue)))

/-- A constraint of a join that an entity does not satisfy. -/
inductive JoinViolates (j : Join) : Violation → Prop
  | absent (null : rs.get n.object j.field = .null) (required : j.nullable = false)
      (noDefault : j.hasDefault = false) : JoinViolates j (.joinAbsent j.field)
  | taken {source : Column} {key : Value} (present : (rs.get n.object j.field).isNull = false)
      (unique : j.unique = true) (column : x.catalogue.sourceColumn j = .ok source)
      (value : stored (rs.get (rs.get n.object j.field) source.field) = .ok key)
      (known : key.isNull = false) (found : taken n.entity.table j.target key = .ok true) :
      JoinViolates j (.joinTaken j.field (key.display (rs.shown x.catalogue)))

/-- A constraint that an entity does not satisfy. -/
def Violates (viol : Violation) : Prop :=
  (∃ col ∈ n.entity.columns, ColumnViolates taken x rs n col viol)
    ∨ ∃ j ∈ n.entity.joins, JoinViolates taken x rs n j viol

/-- If a column's value has to be looked up, it can be. -/
def ColumnCheckable (col : Column) : Prop :=
  col.autoIncrement = false → (rs.get n.object col.field).isNull = false → col.unique = true →
    ∃ key b, stored (rs.get n.object col.field) = .ok key
      ∧ taken n.entity.table col.name key = .ok b

/-- If a join's key has to be looked up, it can be. -/
def JoinCheckable (j : Join) : Prop :=
  (rs.get n.object j.field).isNull = false → j.unique = true →
    ∃ source key, x.catalogue.sourceColumn j = .ok source
      ∧ stored (rs.get (rs.get n.object j.field) source.field) = .ok key
      ∧ (key.isNull = false → ∃ b, taken n.entity.table j.target key = .ok b)

/-- Whatever has to be looked up for an entity can be. -/
structure Checkable : Prop where
  columns : ∀ col ∈ n.entity.columns, ColumnCheckable taken rs n col
  joins : ∀ j ∈ n.entity.joins, JoinCheckable taken x rs n j

end

variable {taken : Lookup} {x : Library} {rs : Records} {n : Node} {viol : Violation}

/-- A column is filled by a join that has a related entity or makes one. -/
theorem Entity.filledByJoin_eq_false {e : Entity} {v : Value} {column : String} :
    e.filledByJoin rs v column = false ↔
      ∀ j ∈ e.joins, j.target = column → rs.get v j.field = .null ∧ j.hasDefault = false := by
  simp [Entity.filledByJoin, Value.isNull_iff]

/-! ## Looking up -/

variable [Database δ] {I : δ → Prop} {w₀ w : World δ}

/-- A value is looked up in the table as it is. -/
theorem holdsValue_ends (hcontent : Content w₀.records I taken) (hstate : I w₀.database)
    (hw : Reads I w₀ w) (table column : String) (key : Value) :
    (holdsValue table column key).Ends w
      (fun b w' => Reads I w₀ w' ∧ taken table column key = .ok b)
      fun f _ => taken table column key = .error f := by
  have hreads := holdsValue_reads hcontent.toReadInvariant table column key w₀ w hw
  have hanswer := hcontent.answers table column key w.database (hw.invariant hstate)
  rw [← hw.records] at hanswer
  have hresult : (holdsValue table column key w).1 = taken table column key := by
    rw [← hanswer, holdsValue, queryAny, Op.bind_apply]
    unfold runStatement
    rcases Database.run w.records (.count table (.byColumn column)) [key] w.database with ⟨_ | _, d⟩
    · rfl
    · rfl
  refine ⟨fun b w' h => ⟨hreads.1 b w' h, ?_⟩, fun f w' h => ?_⟩
  · rw [← hresult, h]
  · rw [← hresult, h]

/-- A violation that depends on what the table holds. -/
theorem ifHeld_ends (hcontent : Content w₀.records I taken) (hstate : I w₀.database)
    (hw : Reads I w₀ w) (table column : String) (key : Value) (viol : Violation) :
    (do if ← holdsValue table column key then return some viol else return none :
        Op δ (Option Violation)).Ends w
      (fun r w' => Reads I w₀ w' ∧ (∀ viol', r = some viol' ↔
        viol' = viol ∧ taken table column key = .ok true) ∧ ∃ b, taken table column key = .ok b)
      fun _ _ => ∀ b, taken table column key ≠ .ok b := by
  refine Op.Ends.bind ((holdsValue_ends hcontent hstate hw table column key).mono (fun _ _ h => h)
    fun f _ hf b => by simp [hf]) ?_
  rintro (_ | _) w' ⟨hw', hb⟩
  · exact Op.Ends.pure ⟨hw', by simp [hb], _, hb⟩
  · exact Op.Ends.pure ⟨hw', by simp [hb, eq_comm], _, hb⟩

/-- A column's violation is found if there is one, and only if it can be. -/
theorem columnViolation_ends (hcontent : Content w₀.records I taken) (hstate : I w₀.database)
    (hw : Reads I w₀ w) (col : Column) :
    (columnViolation x n.entity n.object col).Ends w
      (fun r w' => Reads I w₀ w'
        ∧ (∀ viol, r = some viol ↔ ColumnViolates taken x w₀.records n col viol)
        ∧ ColumnCheckable taken w₀.records n col)
      fun _ _ => ¬ColumnCheckable taken w₀.records n col := by
  have hnone : (∀ viol, ¬ColumnViolates taken x w₀.records n col viol) →
      ColumnCheckable taken w₀.records n col →
      (pure none : Op δ (Option Violation)).Ends w (fun r w' => Reads I w₀ w'
        ∧ (∀ viol, r = some viol ↔ ColumnViolates taken x w₀.records n col viol)
        ∧ ColumnCheckable taken w₀.records n col)
        fun _ _ => ¬ColumnCheckable taken w₀.records n col := fun h hcheckable =>
    Op.Ends.pure ⟨hw, fun viol => ⟨by simp, fun hviol => absurd hviol (h viol)⟩, hcheckable⟩
  unfold columnViolation
  refine Op.Ends.records_bind ?_
  rw [hw.records]
  dsimp only
  split
  · next hauto =>
    refine hnone (fun viol h => ?_) fun hcounted => by simp [hauto] at hcounted
    cases h <;> simp_all
  next hauto =>
  have hauto : col.autoIncrement = false := by simpa using hauto
  split
  · next hnull =>
    have hcheckable : ColumnCheckable taken w₀.records n col := fun _ hpresent => by
      simp [hnull] at hpresent
    split
    · next hrequired =>
      simp only [Bool.and_eq_true, Bool.not_eq_true'] at hrequired
      refine Op.Ends.pure ⟨hw, fun viol => ⟨fun h => ?_, fun h => ?_⟩, hcheckable⟩
      · cases h
        exact .absent hauto (Value.isNull_iff.mp hnull) hrequired.1.1 hrequired.1.2
          (Entity.filledByJoin_eq_false.mp hrequired.2)
      · cases h with
        | absent => rfl
        | taken _ present => simp [hnull] at present
    · next hfine =>
      refine hnone (fun viol h => ?_) hcheckable
      cases h with
      | absent _ _ required noDefault unfilled =>
        simp [required, noDefault, Entity.filledByJoin_eq_false.mpr unfilled] at hfine
      | taken _ present => simp [hnull] at present
  next hnull =>
  have hpresent : (w₀.records.get n.object col.field).isNull = false := by simpa using hnull
  split
  · next hunique =>
    refine Op.Ends.ofResult_bind (fun key hkey => ?_) fun f hf hcheckable => ?_
    · refine (ifHeld_ends hcontent hstate hw _ _ key _).mono
        (fun r w' hr => ⟨hr.1, fun viol => (hr.2.1 viol).trans ⟨?_, fun h => ?_⟩, fun _ _ _ => ?_⟩)
        fun _ _ hf hcheckable => ?_
      · rintro ⟨rfl, hfound⟩
        exact .taken hauto hpresent hunique hkey hfound
      · cases h with
        | absent _ null => simp [null, Value.isNull] at hpresent
        | taken _ _ _ value found =>
          cases hkey.symm.trans value
          exact ⟨rfl, found⟩
      · obtain ⟨b, hb⟩ := hr.2.2
        exact ⟨key, b, hkey, hb⟩
      · obtain ⟨_, b, value, hb⟩ := hcheckable hauto hpresent hunique
        cases hkey.symm.trans value
        exact hf b hb
    · obtain ⟨_, _, value, -⟩ := hcheckable hauto hpresent hunique
      simp [value] at hf
  · next hunique =>
    refine hnone (fun viol h => ?_) fun _ _ hyes => absurd hyes hunique
    cases h with
    | absent _ null => simp [null, Value.isNull] at hpresent
    | taken _ _ unique => exact absurd unique hunique

/-- A join's violation is found if there is one, and only if it can be. -/
theorem joinViolation_ends (hcontent : Content w₀.records I taken) (hstate : I w₀.database)
    (hw : Reads I w₀ w) (j : Join) :
    (joinViolation x n.entity n.object j).Ends w
      (fun r w' => Reads I w₀ w'
        ∧ (∀ viol, r = some viol ↔ JoinViolates taken x w₀.records n j viol)
        ∧ JoinCheckable taken x w₀.records n j)
      fun _ _ => ¬JoinCheckable taken x w₀.records n j := by
  have hnone : (∀ viol, ¬JoinViolates taken x w₀.records n j viol) →
      JoinCheckable taken x w₀.records n j →
      (pure none : Op δ (Option Violation)).Ends w (fun r w' => Reads I w₀ w'
        ∧ (∀ viol, r = some viol ↔ JoinViolates taken x w₀.records n j viol)
        ∧ JoinCheckable taken x w₀.records n j)
        fun _ _ => ¬JoinCheckable taken x w₀.records n j := fun h hcheckable =>
    Op.Ends.pure ⟨hw, fun viol => ⟨by simp, fun hviol => absurd hviol (h viol)⟩, hcheckable⟩
  unfold joinViolation
  refine Op.Ends.records_bind ?_
  rw [hw.records]
  dsimp only
  split
  · next hnull =>
    have hcheckable : JoinCheckable taken x w₀.records n j := fun hpresent => by
      simp [hnull] at hpresent
    split
    · next hrequired =>
      simp only [Bool.and_eq_true, Bool.not_eq_true'] at hrequired
      refine Op.Ends.pure ⟨hw, fun viol => ⟨fun h => ?_, fun h => ?_⟩, hcheckable⟩
      · cases h
        exact .absent (Value.isNull_iff.mp hnull) hrequired.1 hrequired.2
      · cases h with
        | absent => rfl
        | taken present => simp [hnull] at present
    · next hfine =>
      refine hnone (fun viol h => ?_) hcheckable
      cases h with
      | absent _ required noDefault => simp [required, noDefault] at hfine
      | taken present => simp [hnull] at present
  next hnull =>
  have hpresent : (w₀.records.get n.object j.field).isNull = false := by simpa using hnull
  split
  · next hunique =>
    refine Op.Ends.describing_bind (fun source hsource => ?_) fun f hf hcheckable => ?_
    · refine Op.Ends.ofResult_bind (fun key hkey => ?_) fun f hf hcheckable => ?_
      · split
        · next hkeyNull =>
          refine hnone (fun viol h => ?_) fun _ _ =>
            ⟨source, key, hsource, hkey, fun hknown => by simp [hkeyNull] at hknown⟩
          cases h with
          | absent null => simp [null, Value.isNull] at hpresent
          | taken _ _ column value known =>
            cases hsource.symm.trans column
            cases hkey.symm.trans value
            simp [hkeyNull] at known
        · next hkeyNull =>
          have hknown : key.isNull = false := by simpa using hkeyNull
          refine (ifHeld_ends hcontent hstate hw _ _ key _).mono
            (fun r w' hr => ⟨hr.1, fun viol => (hr.2.1 viol).trans ⟨?_, fun h => ?_⟩,
              fun _ _ => ⟨source, key, hsource, hkey, fun _ => hr.2.2⟩⟩)
            fun _ _ hf hcheckable => ?_
          · rintro ⟨rfl, hfound⟩
            exact .taken hpresent hunique hsource hkey hknown hfound
          · cases h with
            | absent null => simp [null, Value.isNull] at hpresent
            | taken _ _ column value _ found =>
              cases hsource.symm.trans column
              cases hkey.symm.trans value
              exact ⟨rfl, found⟩
          · obtain ⟨_, _, column, value, hb⟩ := hcheckable hpresent hunique
            cases hsource.symm.trans column
            cases hkey.symm.trans value
            obtain ⟨b, hb⟩ := hb hknown
            exact hf b hb
      · obtain ⟨_, _, column, value, -⟩ := hcheckable hpresent hunique
        cases hsource.symm.trans column
        simp [value] at hf
    · obtain ⟨_, _, column, -⟩ := hcheckable hpresent hunique
      simp [column] at hf
  · next hunique =>
    refine hnone (fun viol h => ?_) fun _ hyes => absurd hyes hunique
    cases h with
    | absent null => simp [null, Value.isNull] at hpresent
    | taken _ unique => exact absurd unique hunique

/-! ## A whole entity -/

/-- What single rounds find is what is found at all. -/
theorem mem_filterMap_of_forall₂ {α β : Type} {as : List α} {rs : List (Option β)}
    {V : α → β → Prop}
    (h : List.Forall₂ (fun a r => ∀ b, r = some b ↔ V a b) as rs) (b : β) :
    b ∈ rs.filterMap id ↔ ∃ a ∈ as, V a b := by
  induction h with
  | nil => simp
  | cons hr _ ih =>
    simp only [List.mem_filterMap, id_eq, exists_eq_right] at ih ⊢
    rw [List.mem_cons, List.exists_mem_cons_iff, ih, eq_comm, hr]

/-- The violations of the columns and then those of the joins, both in the order of the fields. -/
def Reports (taken : Lookup) (x : Library) (rs : Records) (n : Node) (found : List Violation) :
    Prop :=
  ∃ ofColumns ofJoins, found = ofColumns.filterMap id ++ ofJoins.filterMap id
    ∧ List.Forall₂ (fun col r => ∀ viol, r = some viol ↔ ColumnViolates taken x rs n col viol)
      n.entity.columns ofColumns
    ∧ List.Forall₂ (fun j r => ∀ viol, r = some viol ↔ JoinViolates taken x rs n j viol)
      n.entity.joins ofJoins

theorem Reports.mem_iff {found : List Violation} (h : Reports taken x rs n found)
    (viol : Violation) : viol ∈ found ↔ Violates taken x rs n viol := by
  obtain ⟨ofColumns, ofJoins, rfl, hcolumns, hjoins⟩ := h
  rw [List.mem_append, mem_filterMap_of_forall₂ hcolumns, mem_filterMap_of_forall₂ hjoins]
  rfl

/-- Opening a connection fails only if the database cannot be opened. -/
theorem ensureOpen_ends (hI : ReadInvariant I) (hstate : I w₀.database) (hw : Reads I w₀ w)
    (m : Management) : (ensureOpen m).Ends w (fun _ => Reads I w₀) fun _ _ => ¬Opens I := by
  have hreads := hw.trans (ensureOpen_silent hI m w).reads
  refine ⟨fun _ w' h => by rwa [h] at hreads, fun f w' h hopens => ?_⟩
  unfold ensureOpen openConnection at h
  have hopen := hopens m.foreignKeys w.database (hw.invariant hstate)
  split at h
  · simp at h
  · dsimp only [World.after] at h
    split at h
    · simp at h
    · next hc =>
      rw [hc] at hopen
      simp at hopen

/-- On a connection that is opened, the violations of an entity are found, and nothing else, if
whatever has to be looked up can be. -/
theorem violations_ends {E : Failure → World δ → Prop}
    (hcontent : Content w₀.records I taken) (hstate : I w₀.database)
    (hopen : (ensureOpen x.management).Ends w (fun _ => Reads I w₀) E)
    (hobject : n.object.isNull = false) :
    (violations x n.entity n.object).Ends w
      (fun found _ => Reports taken x w₀.records n found ∧ Checkable taken x w₀.records n)
      fun f w' => E f w' ∨ ¬Checkable taken x w₀.records n := by
  unfold violations
  rw [if_neg (by simp [hobject])]
  have hbody : ∀ w, Reads I w₀ w → (do
      let ofColumns ← n.entity.columns.mapM (columnViolation x n.entity n.object)
      let ofJoins ← n.entity.joins.mapM (joinViolation x n.entity n.object)
      return ofColumns.filterMap id ++ ofJoins.filterMap id : Op δ (List Violation)).Ends w
      (fun found w' => Reads I w₀ w'
        ∧ Reports taken x w₀.records n found ∧ Checkable taken x w₀.records n)
      fun _ _ => ¬Checkable taken x w₀.records n := by
    intro w hw
    refine Op.Ends.bind (Op.Ends.mapM (P := Reads I w₀)
      (fun col hcol w hw => (columnViolation_ends hcontent hstate hw col).mono (fun _ _ h => h)
        fun _ _ hf hcheckable => hf (hcheckable.columns col hcol)) hw) ?_
    rintro ofColumns w₁ ⟨hw₁, hcolumns⟩
    refine Op.Ends.bind (Op.Ends.mapM (P := Reads I w₀)
      (fun j hj w hw => (joinViolation_ends hcontent hstate hw j).mono (fun _ _ h => h)
        fun _ _ hf hcheckable => hf (hcheckable.joins j hj)) hw₁) ?_
    rintro ofJoins w₂ ⟨hw₂, hjoins⟩
    obtain ⟨hcolumnsCheckable, hcolumns⟩ :=
      (List.forall₂_and_left _ _).mp (hcolumns.imp fun _ _ h => h.symm)
    obtain ⟨hjoinsCheckable, hjoins⟩ :=
      (List.forall₂_and_left _ _).mp (hjoins.imp fun _ _ h => h.symm)
    exact Op.Ends.pure ⟨hw₂, ⟨ofColumns, ofJoins, rfl, hcolumns, hjoins⟩, hcolumnsCheckable,
      hjoinsCheckable⟩
  refine (Op.Ends.withConnection hopen hbody).mono ?_ ?_
  · rintro found _ ⟨_, ⟨-, hfound⟩, -⟩
    exact hfound
  · rintro f _ (hfails | ⟨_, hcheckable, -⟩ | ⟨_, w₁, _, ⟨hw₁, -⟩, hrefused, -⟩)
    · exact .inl hfails
    · exact .inr hcheckable
    · rw [hcontent.commits _ (hw₁.invariant hstate)] at hrefused
      cases hrefused

/-- What validating an entity says that fails it. -/
def Refuted (taken : Lookup) (x : Library) (rs : Records) (n : Node) (f : Failure) : Prop :=
  ∃ found, f = .invalid found ∧ found ≠ [] ∧ ∀ viol, viol ∈ found ↔ Violates taken x rs n viol

/-- An entity is valid if it violates nothing, and refuted by all that it violates. -/
theorem validate_ends_of_open {E : Failure → World δ → Prop}
    (hcontent : Content w₀.records I taken) (hstate : I w₀.database)
    (hopen : (ensureOpen x.management).Ends w (fun _ => Reads I w₀) E)
    (hobject : n.object.isNull = false) :
    (validate x n.entity n.object).Ends w
      (fun _ _ => ∀ viol, ¬Violates taken x w₀.records n viol)
      fun f _ => Refuted taken x w₀.records n f
        ∨ (∃ w', E f w') ∨ ¬Checkable taken x w₀.records n := by
  refine ((violations_ends hcontent hstate hopen hobject).mono (fun _ _ h => h)
    fun _ w' h => .inr (h.imp_left fun h => ⟨w', h⟩)).bind fun found w' hfound => ?_
  split
  · next hempty =>
    rw [List.isEmpty_iff] at hempty
    refine Op.Ends.pure fun viol hviol => ?_
    simpa [hempty] using (hfound.1.mem_iff viol).mpr hviol
  · next hempty =>
    exact Op.Ends.throw (.inl ⟨found, rfl, fun h => hempty (List.isEmpty_iff.mpr h),
      hfound.1.mem_iff⟩)

theorem validate_ends (hcontent : Content w₀.records I taken) (hstate : I w₀.database)
    (hw : Reads I w₀ w) (hobject : n.object.isNull = false) :
    (validate x n.entity n.object).Ends w
      (fun _ _ => ∀ viol, ¬Violates taken x w₀.records n viol)
      fun f _ => Refuted taken x w₀.records n f
        ∨ ¬(Opens I ∧ Checkable taken x w₀.records n) := by
  refine (validate_ends_of_open hcontent hstate
    (ensureOpen_ends hcontent.toReadInvariant hstate hw x.management) hobject).mono
    (fun _ _ h => h) fun f _ h => h.imp_right ?_
  rintro (⟨_, hopens⟩ | hcheckable) ⟨hopens', hcheckable'⟩
  · exact hopens hopens'
  · exact hcheckable hcheckable'

end EntityMap
