import EntityMap.Proofs.Operation.Hydration
import EntityMap.Proofs.Saving.Cascade
import EntityMap.Proofs.Saving.Settling
import EntityMap.Proofs.Schema.Fields
import EntityMap.Proofs.Storage.Transactions

/-!
# Following joins

What resolving the joins of an entity does to a world (`JoinsFollowed`) : the database is asked once
for each join with a key (`JoinLookup`), and of the owner only the fields of the joins are set
(`SetsOnly`). A field gets the entity of the first row that is found, or a stand-in for an absent
one, or is left alone (`JoinOutcome`).

One join is read off its definition (`resolveJoin_follows`), and the induction is on the joins. What
one of them finds does not depend on the others : a key stands in a column's field or in the row,
and joins write neither (`SetsOnly.keyValue`).
-/

namespace EntityMap

variable {δ : Type} {x : Library} {e : Entity} {owner : Value} {row : Option Row} {j : Join}
  {js : List Join}

/-! ## Lookups -/

/-- The entities that a join is to are looked up by a key, and the database answers. -/
structure JoinLookup where
  join : Join
  related : Entity
  source : Column
  key : Value
  /-- The records when the database is asked. -/
  records : Records
  reply : Reply

namespace JoinLookup

/-- The statement that is run, with its parameter. -/
def call (l : JoinLookup) : Statement × List Value :=
  (.select l.related.table (.byColumn l.source.name), [l.key])

/-- The remark that is made if there are several rows. -/
def warning? (c : Catalogue) (l : JoinLookup) : Option Warning :=
  if 1 < l.reply.fetched.length then
    some (.severalRows l.join.field l.reply.fetched.length l.related.table l.source.name
      (l.key.literal (l.records.shown c)))
  else none

theorem warning?_of_nil {l : JoinLookup} (h : l.reply.fetched = []) (c : Catalogue) :
    l.warning? c = none := by
  simp [warning?, h]

theorem warning?_of_cons {l : JoinLookup} {first : Row} {more : List Row}
    (h : l.reply.fetched = first :: more) (c : Catalogue) :
    (l.warning? c).toList = if more.isEmpty then [] else
      [.severalRows l.join.field (more.length + 1) l.related.table l.source.name
        (l.key.literal (l.records.shown c))] := by
  cases more <;> simp [warning?, h]

/-- The key is that of the join, and it is looked up in the source column of what the join is to. -/
structure Seeks (x : Library) (e : Entity) (owner : Value) (row : Option Row) (rs : Records)
    (l : JoinLookup) : Prop where
  key : l.join.keyValue rs e owner row = .ok l.key
  present : l.key.isNull = false
  related : x.catalogue.describeRelated l.join = .ok l.related
  source : x.catalogue.sourceColumn l.join = .ok l.source

end JoinLookup

/-- The database answers lookups one after another. -/
inductive Answers [Database δ] : δ → List JoinLookup → δ → Prop
  | nil (d : δ) : Answers d [] d
  | cons {d d₁ d' : δ} {l : JoinLookup} {ls : List JoinLookup}
      (run : Database.run l.records l.call.1 l.call.2 d = (.ok l.reply, d₁))
      (rest : Answers d₁ ls d') : Answers d (l :: ls) d'

theorem Answers.append [Database δ] {d d₁ d' : δ} {ls ls' : List JoinLookup}
    (h : Answers d ls d₁) (h' : Answers d₁ ls' d') : Answers d (ls ++ ls') d' := by
  induction h with
  | nil => exact h'
  | cons run _ ih => exact .cons run (ih h')

/-! ## Fields -/

/-- The field of an entity, which may be missing. -/
def Records.field? (rs : Records) (v : Value) (field : String) : Option Value :=
  (rs.record? v).bind (·.fields.lookup field)

/-- Of the entities there were only the owner has changed, and only in these fields. -/
structure SetsOnly (owner : Value) (fields : List String) (rs rs' : Records) : Prop where
  length : rs.length ≤ rs'.length
  others : ∀ v, rs.Has v → v ≠ owner → rs'.record? v = rs.record? v
  own : ∀ r, rs.record? owner = some r → ∃ r', rs'.record? owner = some r'
    ∧ r'.className = r.className ∧ r'.isPlaceholder = r.isPlaceholder
    ∧ ∀ field ∉ fields, r'.fields.lookup field = r.fields.lookup field

namespace SetsOnly

variable {fields fields' : List String} {rs rs' rs'' : Records}

theorem refl (owner : Value) (fields : List String) (rs : Records) :
    SetsOnly owner fields rs rs :=
  ⟨Nat.le_refl _, fun _ _ _ => rfl, fun r hr => ⟨r, hr, rfl, rfl, fun _ _ => rfl⟩⟩

theorem has (h : SetsOnly owner fields rs rs') (howner : rs.Has owner) : rs'.Has owner := by
  obtain ⟨r, hr⟩ := Option.isSome_iff_exists.mp howner
  obtain ⟨r', hr', -⟩ := h.own r hr
  exact Option.isSome_iff_exists.mpr ⟨r', hr'⟩

theorem trans (h : SetsOnly owner fields rs rs') (h' : SetsOnly owner fields' rs' rs'') :
    SetsOnly owner (fields ++ fields') rs rs'' where
  length := Nat.le_trans h.length h'.length
  others v hv hne := by
    have hsame := h.others v hv hne
    have hv' : rs'.Has v := by rwa [Records.Has, hsame]
    exact (h'.others v hv' hne).trans hsame
  own r hr := by
    obtain ⟨r₁, hr₁, hclass, hstandIn, hfields⟩ := h.own r hr
    obtain ⟨r₂, hr₂, hclass', hstandIn', hfields'⟩ := h'.own r₁ hr₁
    refine ⟨r₂, hr₂, hclass'.trans hclass, hstandIn'.trans hstandIn, fun field hfield => ?_⟩
    rw [List.mem_append, not_or] at hfield
    exact (hfields' field hfield.2).trans (hfields field hfield.1)

theorem mono (h : SetsOnly owner fields rs rs') (hfields : fields ⊆ fields') :
    SetsOnly owner fields' rs rs' where
  length := h.length
  others := h.others
  own r hr := by
    obtain ⟨r', hr', hclass, hstandIn, hsame⟩ := h.own r hr
    exact ⟨r', hr', hclass, hstandIn, fun field hfield => hsame field fun h => hfield (hfields h)⟩

/-- Another field of the owner has its value. -/
theorem get_owner (h : SetsOnly owner fields rs rs') (howner : rs.Has owner) {field : String}
    (hfield : field ∉ fields) : rs'.get owner field = rs.get owner field := by
  obtain ⟨r, hr⟩ := Option.isSome_iff_exists.mp howner
  obtain ⟨r', hr', -, -, hfields⟩ := h.own r hr
  simp only [Records.get, hr, hr', Option.map_some, Option.bind_some, hfields field hfield]

/-- So does a field that is missing. -/
theorem field?_owner (h : SetsOnly owner fields rs rs') (howner : rs.Has owner) {field : String}
    (hfield : field ∉ fields) : rs'.field? owner field = rs.field? owner field := by
  obtain ⟨r, hr⟩ := Option.isSome_iff_exists.mp howner
  obtain ⟨r', hr', -, -, hfields⟩ := h.own r hr
  simp only [Records.field?, hr, hr', Option.bind_some, hfields field hfield]

/-- One more entity, and one field of the owner. -/
theorem setNew {ref : Nat} (hlt : ref < rs.length) (field : String) (r : Record) (v : Value) :
    SetsOnly (.entity ref) [field] rs ((rs ++ [r] : Records).set ref field v) where
  length := by simp [Records.length_set]
  others u hu hne := by rw [Records.record?_set_of_ne hne, Records.record?_append hu]
  own own hown := by
    refine ⟨own.set field v, ?_, rfl, rfl, fun other hother => ?_⟩
    · have hown' : rs[ref]? = some own := hown
      simp [Records.record?, Records.set, List.getElem?_append_left hlt, hown']
    · rw [Record.set, lookup_setNamed, if_neg (by simpa using hother)]

/-- A key that is read from a column of the owner, or from a row, stays the same. -/
theorem keyValue (h : SetsOnly owner fields rs rs') (howner : rs.Has owner)
    (hfields : ∀ col ∈ e.columns, col.field ∉ fields) (j : Join) :
    j.keyValue rs' e owner row = j.keyValue rs e owner row := by
  unfold Join.keyValue
  split
  · next col hcol =>
    rw [h.get_owner howner (hfields col (List.mem_of_find?_eq_some hcol))]
  · rfl

end SetsOnly

/-! ## Joins of new entities -/

/-- A join is made of a join. -/
theorem Member.ofField_join {c : Catalogue} {className : String}
    {meanings : List (String × Annotation.Meaning)} {f : Field}
    (h : Member.ofField c className meanings f = .ok (some (.join j))) :
    ∃ spec, f.role = .join spec := by
  unfold Member.ofField at h
  split at h
  · obtain ⟨col, -, hm⟩ := Except.map_eq_ok.mp h
    cases hm
  · next spec hrole => exact ⟨spec, hrole⟩
  · cases h

/-- The joins of a description are those of the class. -/
theorem EntityClass.exists_join {c : Catalogue} {cls : EntityClass} (h : cls.describe c = .ok e)
    (hj : j ∈ e.joins) :
    ∃ fields, cls.fields = some fields
      ∧ ∃ f ∈ fields, f.name = j.field ∧ ∃ spec, f.role = .join spec := by
  obtain ⟨table, -, h⟩ := Except.bind_eq_ok.mp h
  split at h
  · cases h
  next fields hfields =>
  obtain ⟨meanings, -, h⟩ := Except.bind_eq_ok.mp h
  obtain ⟨members, hmembers, h⟩ := Except.bind_eq_ok.mp h
  obtain ⟨added, hadded, rfl⟩ := foldlM_addField_eq_ok hmembers
  split at h
  · cases h
  cases h
  have hmem : some (Member.join j) ∈ added := by simpa using Entity.mem_joins.mp hj
  obtain ⟨f, hf, hmade⟩ := exists_of_forall₂ (mapM_eq_ok.mp hadded) hmem
  exact ⟨fields, hfields, f, hf, (Member.ofField_field hmade).symm, Member.ofField_join hmade⟩

/-- A new entity has the first values of its fields. -/
theorem EntityClass.lookup_initialFields {cls : EntityClass} {fields : List Field} {f : Field}
    {v : Value} (hfields : cls.fields = some fields) (hnodup : (fields.map (·.name)).Nodup)
    (hf : f ∈ fields) (hv : f.role.initial? = some v) :
    cls.initialFields.lookup f.name = some v := by
  rw [initialFields, hfields, Option.getD_some]
  clear hfields
  induction fields with
  | nil => cases hf
  | cons g gs ih =>
    obtain ⟨hg, hnodup⟩ := List.nodup_cons.mp hnodup
    rcases List.mem_cons.mp hf with rfl | hf
    · rw [List.filterMap_cons, hv]
      exact List.lookup_cons_self
    · have hne : f.name ≠ g.name := fun hname => hg (List.mem_map.mpr ⟨f, hf, hname⟩)
      rw [List.filterMap_cons]
      cases g.role.initial? with
      | none => exact ih hnodup hf
      | some u => exact (lookup_cons_name ..).trans ((if_neg hne).trans (ih hnodup hf))

/-- The joins of a new entity are unset. -/
theorem Record.lookup_join_of_empty {c : Catalogue} {empty : Record} (hc : c.Distinct)
    (he : c.describe e.className = .ok e) (hempty : Record.empty c e.className = .ok empty)
    (hj : j ∈ e.joins) : empty.fields.lookup j.field = some .null := by
  unfold Catalogue.describe at he
  split at he
  · next cls hcls =>
    obtain ⟨fields, hfields, f, hf, hname, spec, hrole⟩ := EntityClass.exists_join he hj
    have hnodup := hc cls (List.mem_of_find?_eq_some hcls) fields hfields
    unfold Record.empty at hempty
    simp only [hcls] at hempty
    split at hempty
    · cases hempty
      exact hname ▸ EntityClass.lookup_initialFields hfields hnodup hf (by rw [hrole]; rfl)
    · cases hempty
  · cases he

/-- A row leaves the joins of its entity as they are in a new one. -/
theorem exists_empty_of_hydrate {c : Catalogue} {rs : Records} {row : Row} {found : Record}
    (he : e.Distinct) (h : hydrate c rs e row = .ok found) :
    ∃ empty, Record.empty c e.className = .ok empty
      ∧ ∀ j ∈ e.joins, found.fields.lookup j.field = empty.fields.lookup j.field := by
  obtain ⟨empty, hempty, hfills⟩ := hydrate_eq_ok he.nodup_columns h
  refine ⟨empty, hempty, fun j hj => hfills.others j.field fun hmem => ?_⟩
  obtain ⟨col, hcol, hfield⟩ := List.mem_map.mp hmem
  exact he.join_ne_column hj hcol hfield.symm

/-! ## What becomes of a join -/

/-- The key of a join is present. -/
def Join.hasKey (rs : Records) (e : Entity) (owner : Value) (row : Option Row) (j : Join) : Bool :=
  match j.keyValue rs e owner row with
  | .ok key => !key.isNull
  | .error _ => false

/-- What the field of a join has in the end, given the records at the beginning and at the end. -/
inductive JoinOutcome (x : Library) (e : Entity) (owner : Value) (row : Option Row)
    (rs rs' : Records) (lookups : List JoinLookup) (j : Join) : Prop
  /-- Without a key and a default that must be taken the field is left alone. -/
  | unset (key : j.keyValue rs e owner row = .ok .null)
      (optional : j.nullable = true ∨ j.hasDefault = false)
      (kept : rs'.field? owner j.field = rs.field? owner j.field)
  /-- Without a key a default is stood in for. -/
  | standIn {ref : Nat} {stub : Record} (key : j.keyValue rs e owner row = .ok .null)
      (required : j.nullable = false) (default : j.hasDefault = true)
      (made : placeholderRecord x j = .ok stub) (new : rs.length ≤ ref)
      (record : rs'.record? (.entity ref) = some stub)
      (held : rs'.field? owner j.field = some (.entity ref))
  /-- If there is no row with the key then the field is left alone. -/
  | missing {l : JoinLookup} (asked : l ∈ lookups) (ofJoin : l.join = j)
      (none : l.reply.fetched = []) (kept : rs'.field? owner j.field = rs.field? owner j.field)
  /-- If there are any, then the field has the entity of the first. Its own joins are as in a new
  entity, hence unset unless another class of its name has been declared since. -/
  | found {l : JoinLookup} {first : Row} {more : List Row} {ref : Nat} {r : Record}
      (asked : l ∈ lookups) (ofJoin : l.join = j) (rows : l.reply.fetched = first :: more)
      (hydrated : hydrate x.catalogue l.records l.related first = .ok r)
      (alone : ∃ empty, Record.empty x.catalogue l.related.className = .ok empty
        ∧ ∀ j' ∈ l.related.joins, r.fields.lookup j'.field = empty.fields.lookup j'.field)
      (unset : x.catalogue.describe l.related.className = .ok l.related →
        ∀ j' ∈ l.related.joins, r.fields.lookup j'.field = some .null)
      (new : rs.length ≤ ref) (record : rs'.record? (.entity ref) = some r)
      (held : rs'.field? owner j.field = some (.entity ref))

/-- Joins are followed from the first world to the second, by these lookups. -/
structure JoinsFollowed [Database δ] (x : Library) (e : Entity) (owner : Value) (row : Option Row)
    (js : List Join) (w : World δ) (lookups : List JoinLookup) (w' : World δ) : Prop where
  /-- There is one lookup for each join with a key, in order. -/
  asked : lookups.map (·.join) = js.filter (·.hasKey w.records e owner row)
  seeks : ∀ l ∈ lookups, l.Seeks x e owner row w.records
  records : ∀ l ∈ lookups, SetsOnly owner (js.map (·.field)) w.records l.records
  answers : Answers w.database lookups w'.database
  events : w'.events = w.events ++ ranAll (lookups.map (·.call))
  warnings : w'.warnings = w.warnings ++ lookups.filterMap (·.warning? x.catalogue)
  isOpen : w'.isOpen = w.isOpen
  sets : SetsOnly owner (js.map (·.field)) w.records w'.records
  outcome : ∀ j ∈ js, JoinOutcome x e owner row w.records w'.records lookups j

namespace JoinOutcome

variable {rs rs₁ rs' : Records} {lookups lookups' : List JoinLookup} {fields : List String}

/-- An outcome stays when other fields are set afterwards. -/
theorem later (h : JoinOutcome x e owner row rs rs₁ lookups j) (howner : rs.Has owner)
    (hsets : SetsOnly owner fields rs₁ rs') (howner₁ : rs₁.Has owner) (hfield : j.field ∉ fields)
    (hlookups : lookups ⊆ lookups') : JoinOutcome x e owner row rs rs' lookups' j := by
  have hkept := hsets.field?_owner howner₁ hfield
  have hrecord : ∀ {ref : Nat} {r : Record}, rs.length ≤ ref → rs₁.record? (.entity ref) = some r →
      rs'.record? (.entity ref) = some r := by
    intro ref r hnew hr
    obtain ⟨own, rfl, hlt⟩ := howner.entity
    have hne : Value.entity ref ≠ .entity own := fun h => by
      cases h
      omega
    rw [hsets.others _ (Option.isSome_iff_exists.mpr ⟨r, hr⟩) hne, hr]
  cases h with
  | unset key optional kept => exact .unset key optional (hkept.trans kept)
  | standIn key required default made new record held =>
    exact .standIn key required default made new (hrecord new record) (hkept.trans held)
  | missing asked ofJoin none kept =>
    exact .missing (hlookups asked) ofJoin none (hkept.trans kept)
  | found asked ofJoin rows hydrated alone unset new record held =>
    exact .found (hlookups asked) ofJoin rows hydrated alone unset new (hrecord new record)
      (hkept.trans held)

/-- An outcome was the same when other fields were set before. -/
theorem earlier (h : JoinOutcome x e owner row rs₁ rs' lookups j)
    (hsets : SetsOnly owner fields rs rs₁) (howner : rs.Has owner)
    (hkey : j.keyValue rs₁ e owner row = j.keyValue rs e owner row) (hfield : j.field ∉ fields)
    (hlookups : lookups ⊆ lookups') : JoinOutcome x e owner row rs rs' lookups' j := by
  have hkept := hsets.field?_owner howner hfield
  have hnew : ∀ {ref : Nat}, rs₁.length ≤ ref → rs.length ≤ ref := Nat.le_trans hsets.length
  cases h with
  | unset key optional kept => exact .unset (hkey ▸ key) optional (kept.trans hkept)
  | standIn key required default made new record held =>
    exact .standIn (hkey ▸ key) required default made (hnew new) record held
  | missing asked ofJoin none kept =>
    exact .missing (hlookups asked) ofJoin none (kept.trans hkept)
  | found asked ofJoin rows hydrated alone unset new record held =>
    exact .found (hlookups asked) ofJoin rows hydrated alone unset (hnew new) record held

end JoinOutcome

namespace JoinsFollowed

variable [Database δ] {w w₁ w' : World δ} {lookups lookups' : List JoinLookup}

theorem nil (x : Library) (e : Entity) (owner : Value) (row : Option Row) (w : World δ) :
    JoinsFollowed x e owner row [] w [] w where
  asked := rfl
  seeks := by simp
  records := by simp
  answers := .nil _
  events := by simp [ranAll]
  warnings := by simp
  isOpen := rfl
  sets := .refl owner _ _
  outcome := by simp

/-- A join without a key is not looked up. -/
theorem unasked {rs : Records} (hkey : j.keyValue w.records e owner row = .ok .null)
    (hsets : SetsOnly owner [j.field] w.records rs)
    (houtcome : JoinOutcome x e owner row w.records rs [] j) :
    JoinsFollowed x e owner row [j] w [] { w with records := rs } where
  asked := by
    rw [List.filter_singleton, Join.hasKey, hkey]
    rfl
  seeks := by simp
  records := by simp
  answers := .nil _
  events := by simp [ranAll]
  warnings := by simp
  isOpen := rfl
  sets := hsets
  outcome := List.forall_mem_singleton.mpr houtcome

/-- A join with a key is looked up once. -/
theorem looked {l : JoinLookup} {rs : Records} {d : δ}
    (hseeks : l.Seeks x e owner row w.records) (hrecords : l.records = w.records)
    (hrun : Database.run w.records l.call.1 l.call.2 w.database = (.ok l.reply, d))
    (hsets : SetsOnly owner [l.join.field] w.records rs)
    (houtcome : JoinOutcome x e owner row w.records rs [l] l.join) :
    JoinsFollowed x e owner row [l.join] w [l]
      { w.after (.ran l.call.1 l.call.2) with
        records := rs
        database := d
        warnings := w.warnings ++ (l.warning? x.catalogue).toList } where
  asked := by
    have hkey : l.join.hasKey w.records e owner row = true := by
      rw [Join.hasKey, hseeks.key]
      simp [hseeks.present]
    rw [List.filter_singleton, hkey]
    rfl
  seeks := List.forall_mem_singleton.mpr hseeks
  records := List.forall_mem_singleton.mpr (hrecords ▸ .refl _ _ _)
  answers := .cons (hrecords ▸ hrun) (.nil _)
  events := rfl
  warnings := by cases h : l.warning? x.catalogue <;> simp [h]
  isOpen := rfl
  sets := hsets
  outcome := List.forall_mem_singleton.mpr houtcome

/-- One join after another, as no join lies in a field of another or of a column. -/
theorem cons (h : JoinsFollowed x e owner row [j] w lookups w₁)
    (h' : JoinsFollowed x e owner row js w₁ lookups' w') (howner : w.records.Has owner)
    (hfield : j.field ∉ js.map (·.field)) (hcolumns : ∀ col ∈ e.columns, col.field ≠ j.field) :
    JoinsFollowed x e owner row (j :: js) w (lookups ++ lookups') w' := by
  have howner₁ := h.sets.has howner
  have hkey : ∀ j' : Join, j'.keyValue w₁.records e owner row = j'.keyValue w.records e owner row :=
    h.sets.keyValue howner fun col hcol => by simpa using hcolumns col hcol
  refine ⟨?_, ?_, ?_, h.answers.append h'.answers, ?_, ?_, h'.isOpen.trans h.isOpen, ?_, ?_⟩
  · rw [List.map_append, h.asked, h'.asked]
    simp only [Join.hasKey, hkey, ← List.filter_append, List.singleton_append]
  · refine fun l hl => (List.mem_append.mp hl).elim (h.seeks l) fun hl => ?_
    have hseeks := h'.seeks l hl
    exact { hseeks with key := hkey l.join ▸ hseeks.key }
  · refine fun l hl => (List.mem_append.mp hl).elim (fun hl => ?_) fun hl => ?_
    · exact (h.records l hl).mono (by simp)
    · exact h.sets.trans (h'.records l hl)
  · rw [h'.events, h.events, List.append_assoc, ranAll, ranAll, ranAll, List.map_append,
      List.map_append]
  · rw [h'.warnings, h.warnings, List.append_assoc, List.filterMap_append]
  · exact h.sets.trans h'.sets
  · refine List.forall_mem_cons.mpr ⟨?_, fun j' hj' => ?_⟩
    · exact (h.outcome j (by simp)).later howner h'.sets howner₁ hfield (by simp)
    · refine (h'.outcome j' hj').earlier h.sets howner (hkey j') ?_ (by simp)
      rw [List.map_singleton, List.mem_singleton]
      exact fun hsame => hfield (hsame ▸ List.mem_map_of_mem hj')

end JoinsFollowed

/-! ## One join -/

section

variable {v key : Value} {related : Entity} {source : Column} {rows : List Row} {ref : Nat}
  {w w' : World δ}

/-- What comes of the rows that a key names : nothing if there are none, and the entity of the first
otherwise, with a remark if it is not the only one. -/
theorem joinFirst_eq_ok
    (h : joinFirst x related source (.entity ref) j key rows w = (.ok v, w')) :
    (rows = [] ∧ w' = w)
      ∨ ∃ first more r, rows = first :: more
        ∧ hydrate x.catalogue w.records related first = .ok r
        ∧ w' = { w with
            records := (w.records ++ [r] : Records).set ref j.field (.entity w.records.length)
            warnings := w.warnings ++ if more.isEmpty then [] else
              [.severalRows j.field (more.length + 1) related.table source.name
                (key.literal (w.records.shown x.catalogue))] } := by
  cases rows with
  | nil =>
    cases h
    exact .inl ⟨rfl, rfl⟩
  | cons first more =>
    refine .inr ⟨first, more, ?_⟩
    have hrest : (do
        let u ← hydrateRow x related first
        Op.setField (.entity ref) j.field u
        return u : Op δ Value) { w with warnings := w.warnings ++ if more.isEmpty then [] else
          [.severalRows j.field (more.length + 1) related.table source.name
            (key.literal (w.records.shown x.catalogue))] } = (.ok v, w') := by
      rw [joinFirst] at h
      split at h
      · next hmore =>
        rw [if_pos hmore, List.append_nil]
        exact h
      · next hmore =>
        rw [if_neg hmore]
        exact h
    obtain ⟨u, w₁, hrow, h⟩ := Op.bind_eq_ok.mp hrest
    rw [hydrateRow, Op.records_bind] at hrow
    obtain ⟨r, hr, hrow⟩ := Op.ofResult_bind_eq_ok.mp hrow
    cases hrow
    obtain ⟨_, w₂, hset, h⟩ := Op.bind_eq_ok.mp h
    cases h
    cases hset
    exact ⟨r, rfl, hr, rfl⟩

/-- The field of the owner after one more entity has been put there. -/
theorem Records.field?_setNew {rs : Records} (hlt : ref < rs.length) (field : String) (r : Record)
    (u : Value) : ((rs ++ [r] : Records).set ref field u).field? (.entity ref) field = some u := by
  simp [field?, record?, set, Record.set, List.getElem?_append_left hlt, lookup_setNamed,
    List.getElem?_eq_getElem hlt]

theorem Records.record?_setNew {rs : Records} (hlt : ref < rs.length) (field : String)
    (r : Record) (u : Value) :
    ((rs ++ [r] : Records).set ref field u).record? (.entity rs.length) = some r := by
  have hne : Value.entity rs.length ≠ .entity ref := fun h => by
    cases h
    omega
  rw [record?_set_of_ne hne, record?_length]

/-- One join is followed. -/
theorem resolveJoin_follows [Database δ] (hc : x.catalogue.Distinct) (howner : w.records.Has owner)
    (h : resolveJoin x e owner row j w = (.ok v, w')) :
    ∃ lookups, JoinsFollowed x e owner row [j] w lookups w' := by
  obtain ⟨ref, rfl, hlt⟩ := howner.entity
  rw [resolveJoin, Op.records_bind] at h
  obtain ⟨key, hkey, h⟩ := Op.ofResult_bind_eq_ok.mp h
  split at h
  · next hnull =>
    obtain rfl := Value.isNull_iff.mp hnull
    split at h
    · next hoptional =>
      cases h
      exact ⟨[], .unasked hkey (.refl _ _ _) (.unset hkey (by simpa using hoptional) rfl)⟩
    · next hrequired =>
      obtain ⟨stub, w₁, hstub, h⟩ := Op.bind_eq_ok.mp h
      obtain ⟨r, hr, rfl, rfl⟩ := (placeholder_ends x j w).1 _ _ hstub
      obtain ⟨_, w₂, hset, h⟩ := Op.bind_eq_ok.mp h
      cases h
      cases hset
      simp only [Bool.or_eq_true, Bool.not_eq_true', not_or, Bool.not_eq_false,
        Bool.not_eq_true] at hrequired
      exact ⟨[], .unasked hkey (.setNew hlt _ _ _) (.standIn hkey hrequired.1 hrequired.2 hr
        (Nat.le_refl _) (Records.record?_setNew hlt _ _ _) (Records.field?_setNew hlt _ _ _))⟩
  · next hpresent =>
    have hpresent : key.isNull = false := by simpa using hpresent
    obtain ⟨related, hrelated, h⟩ := Op.describing_bind_eq_ok.mp h
    obtain ⟨source, hsource, h⟩ := Op.describing_bind_eq_ok.mp h
    obtain ⟨rows, w₁, hrows, h⟩ := Op.bind_eq_ok.mp h
    obtain ⟨reply, w₂, hreply, hrows⟩ := Op.bind_eq_ok.mp hrows
    cases hrows
    obtain ⟨d, hrun, rfl⟩ := runStatement_eq_ok.mp hreply
    let l : JoinLookup := ⟨j, related, source, key, w.records, reply⟩
    have hseeks : l.Seeks x e (.entity ref) row w.records := ⟨hkey, hpresent, hrelated, hsource⟩
    refine ⟨[l], ?_⟩
    rcases joinFirst_eq_ok h with ⟨hnone, rfl⟩ | ⟨first, more, r, hmore, hr, rfl⟩
    · have hfollowed := JoinsFollowed.looked hseeks rfl hrun (.refl _ _ _)
        (.missing (l := l) List.mem_cons_self rfl hnone rfl)
      rwa [l.warning?_of_nil hnone, Option.toList_none, List.append_nil] at hfollowed
    · obtain ⟨empty, hempty, halone⟩ := exists_empty_of_hydrate (hc.describeRelated hrelated) hr
      have hfollowed := JoinsFollowed.looked hseeks rfl hrun (.setNew hlt _ _ _)
        (.found (l := l) List.mem_cons_self rfl hmore hr ⟨empty, hempty, halone⟩
          (fun he j' hj' => (halone j' hj').trans (Record.lookup_join_of_empty hc he hempty hj'))
          (Nat.le_refl _) (Records.record?_setNew hlt _ _ _) (Records.field?_setNew hlt _ _ _))
      rwa [JoinLookup.warning?_of_cons hmore] at hfollowed

end

/-! ## All joins -/

/-- Joins in different fields, none of which is that of a column, are followed one after another. -/
theorem forM_resolveJoin_follows [Database δ] {w w' : World δ} (hc : x.catalogue.Distinct)
    (hfields : (js.map (·.field)).Nodup)
    (hcolumns : ∀ j ∈ js, ∀ col ∈ e.columns, col.field ≠ j.field) (howner : w.records.Has owner)
    (h : (js.forM fun j => do let _ ← resolveJoin x e owner row j) w = (.ok (), w')) :
    ∃ lookups, JoinsFollowed x e owner row js w lookups w' := by
  induction js generalizing w with
  | nil =>
    cases h
    exact ⟨[], .nil x e owner row _⟩
  | cons j js ih =>
    obtain ⟨hfield, hfields⟩ := List.nodup_cons.mp hfields
    obtain ⟨hcolumn, hcolumns⟩ := List.forall_mem_cons.mp hcolumns
    obtain ⟨_, w₁, hfirst, h⟩ := Op.bind_eq_ok.mp h
    obtain ⟨v, _, hfirst, hdone⟩ := Op.bind_eq_ok.mp hfirst
    cases hdone
    obtain ⟨lookups, hfollowed⟩ := resolveJoin_follows hc howner hfirst
    obtain ⟨lookups', hfollowed'⟩ := ih hfields hcolumns (hfollowed.sets.has howner) h
    exact ⟨lookups ++ lookups', hfollowed.cons hfollowed' howner hfield hcolumn⟩

/-- The row has the key of a join, which is one for the type of the column if this has a field. -/
structure Row.HoldsKey (row : Row) (e : Entity) (j : Join) (key : Value) : Prop where
  value : row.value? j.target = some key
  fits : ∀ col, e.columnNamed? j.target = some col → col.type ≠ .timestamp
    ∧ ∃ v, col.type.Fits v ∧ stored v = .ok key

/-- The key of the entity of a row is that of the row. -/
theorem Row.HoldsKey.keyValue {row : Row} {rs rs' : Records} {r : Record} {key : Value}
    (hkey : row.HoldsKey e j key) (he : e.Distinct) (h : hydrate x.catalogue rs e row = .ok r)
    (howner : rs'.record? owner = some r) : j.keyValue rs' e owner (some row) = .ok key := by
  unfold Join.keyValue
  split
  · next col hcol =>
    obtain ⟨htype, v, hfits, hstored⟩ := hkey.fits col hcol
    have hname : col.name = j.target := by simpa using List.find?_some hcol
    obtain ⟨_, -, hfills⟩ := hydrate_eq_ok he.nodup_columns h
    obtain ⟨u, hu, hfield⟩ :=
      hfills.columns col (List.mem_of_find?_eq_some hcol) key (hname ▸ hkey.value)
    obtain ⟨u', hu', hsame⟩ := hfits.exists_reading hstored (rs.shown x.catalogue)
    cases hu.symm.trans hu'
    rw [Records.get, howner, Option.map_some, Option.bind_some, hfield, Option.getD_some,
      hsame htype]
    exact hstored
  · rw [Option.bind_some, hkey.value, Option.getD_some]

namespace Sample

/-- A product as it is fetched. -/
def productRow : Row := .fetched [("id", .int 1), ("name", .text "pump"), ("line", .int 7)]

/-- The product has been read, and there are two lines with its key. -/
def twoLines : World Script where
  records := [⟨"Product", [("id", .int 1), ("name", .text "pump"), ("active", .bool true),
    ("date_creation", .null), ("line", .null)], false⟩]
  database :=
    { replies := [.ok
      { columns := ["id", "name"]
        rows := [[.int 7, .text "main"], [.int 7, .text "spare"]] }] }

end Sample

end EntityMap
