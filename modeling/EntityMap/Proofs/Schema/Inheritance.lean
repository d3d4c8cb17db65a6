import Mathlib.Data.List.Induction
import EntityMap.Proofs.Named
import EntityMap.Proofs.Schema.Fields
import EntityMap.Sample

/-!
# Fields that are inherited

A class stands at the head of its `hierarchy` : its own declaration and those of its bases, nearest
first. A record is made of the fields of a declaration only by `makesRecord` : by `@dataclass`, or
by `@table` if no base is a record. What a field of the record is, is then said by the nearest class
that is made a record and annotates the field (`fieldRole?`, `Descends.mem_fields`), and the members
of a description are those of the mapped fields (`Descends.describe_eq_ok`).

So a field that a class declares as a column or a join is mapped as it is declared if the class is
made a record; if it is not, then the declaration is not seen, even under `@table`
(`describe_maps_recorded_declarations`).
-/

namespace EntityMap

variable {c : Catalogue} {cls : EntityClass} {e : Entity} {chain near bases : List ClassDeclaration}
  {d : ClassDeclaration} {name : String} {role : FieldRole}

/-! ## Hierarchies -/

/-- The declaration with the classes that its joins are to, among those declared before it. -/
def ClassDeclaration.settle (earlier : List ClassDeclaration) (d : ClassDeclaration) :
    ClassDeclaration :=
  { d with
    fields := d.fields.map fun f =>
      match f.role with
      | .join spec =>
        let versions := earlier.filter (·.name == spec.related)
        { f with role := .join { spec with version := versions.length - 1 } }
      | _ => f }

/-- The declarations of a class and its bases, nearest first, among declarations of which the last
comes first. -/
def hierarchy : List ClassDeclaration → String → List ClassDeclaration
  | [], _ => []
  | d :: earlier, name =>
    if d.name = name then d.settle earlier :: d.base.elim [] (hierarchy earlier)
    else hierarchy earlier name

/-- The class that is made of the declarations of a hierarchy, from the last base on. -/
inductive Descends : List ClassDeclaration → Option EntityClass → Prop
  | nil : Descends [] none
  | cons {bases : List ClassDeclaration} {base : Option EntityClass} {d : ClassDeclaration}
      {cls : EntityClass} (hbases : Descends bases base)
      (h : EntityClass.ofDeclaration base d = .ok cls) : Descends (d :: bases) (some cls)

/-- Which class of a name a join is to depends on the names that were declared before. -/
theorem Catalogue.map_settleJoin {earlier : List ClassDeclaration}
    (hnames : c.classes.map (·.name) = earlier.map (·.name)) (d : ClassDeclaration) :
    { d with fields := d.fields.map c.settleJoin } = d.settle earlier := by
  have hcount (related : String) : (c.classes.filter (·.name == related)).length =
      (earlier.filter (·.name == related)).length := by
    have h := congrArg (List.count related) hnames
    simpa only [List.count, List.countP_map, ← List.countP_eq_length_filter, Function.comp_def]
      using h
  rw [ClassDeclaration.settle]
  congr 1
  refine List.map_congr_left fun f _ => ?_
  unfold Catalogue.settleJoin Catalogue.lastVersion Catalogue.versions
  cases f.role <;> simp [hcount]

/-- The class makes a record of its fields, over bases that have one or not. -/
def ClassDeclaration.recordsOver (inherited : Bool) (d : ClassDeclaration) : Bool :=
  d.isRecord || (d.table.isSome && !d.isBare && !inherited)

/-- What a class has of its own, given what its bases hold. -/
def ClassDeclaration.body (records : Bool) (inherited : List (String × FieldRole))
    (d : ClassDeclaration) : ClassBody where
  className := d.name
  annotations := d.annotations
  attributes :=
    if records then settledAttributes (d.annotations.map (·.1)) d.stated inherited else d.stated
  table := d.table

/-- What a class is made of. -/
structure Declared (base : Option EntityClass) (d : ClassDeclaration) (cls : EntityClass) :
    Prop where
  name : cls.name = d.name
  bodies : cls.bodies =
    d.body (d.recordsOver (base.bind (·.fields)).isSome) ((base.map (·.attributes)).getD [])
      :: (base.map (·.bodies)).getD []
  fields : cls.fields =
    if d.recordsOver (base.bind (·.fields)).isSome then
      some ((d.annotations.map (·.1)).foldl (fun fs name =>
        addField ⟨name, roleOf (d.stated ++ (base.map (·.attributes)).getD []) name⟩ fs)
          ((base.bind (·.fields)).getD []))
    else base.bind (·.fields)

theorem ofDeclaration_eq_ok {base : Option EntityClass}
    (h : EntityClass.ofDeclaration base d = .ok cls) : Declared base d cls := by
  have hrecords : (d.isRecord || (d.table.isSome && !d.isBare && (base.bind (·.fields)).isNone)) =
      d.recordsOver (base.bind (·.fields)).isSome := by
    rw [ClassDeclaration.recordsOver, Option.not_isSome]
  unfold EntityClass.ofDeclaration at h
  dsimp only at h
  simp only [hrecords] at h
  split at h
  · next hmade =>
    obtain ⟨fields, hfields, h⟩ := Except.bind_eq_ok.mp h
    cases h
    obtain ⟨checked, hchecked, rfl⟩ := Except.map_eq_ok.mp hfields
    refine ⟨rfl, by simp [hmade, ClassDeclaration.body], ?_⟩
    rw [if_pos hmade, checkRecord_eq_ok hchecked]
  · next hmade =>
    obtain ⟨fields, hfields, h⟩ := Except.bind_eq_ok.mp h
    cases h
    cases hfields
    exact ⟨rfl, by simp [hmade, ClassDeclaration.body], by simp [hmade]⟩

/-- The classes of a catalogue of declarations are those of the hierarchies. -/
theorem ofDeclarations_descends {ds : List ClassDeclaration} {constants : List (String × Value)}
    (h : Catalogue.ofDeclarations ds constants = .ok c) :
    c.classes.map (·.name) = ds.reverse.map (·.name)
      ∧ ∀ name, Descends (hierarchy ds.reverse name) (c.find? name) := by
  -- A base of the last class is looked up among the classes before it.
  induction ds using List.reverseRecOn generalizing c with
  | nil =>
    cases h
    exact ⟨rfl, fun name => .nil⟩
  | append_singleton ds d ih =>
    rw [Catalogue.ofDeclarations, List.foldlM_append] at h
    obtain ⟨before, hbefore, h⟩ := Except.bind_eq_ok.mp h
    obtain ⟨hnames, hfound⟩ := ih hbefore
    obtain ⟨after, hadd, h⟩ := Except.bind_eq_ok.mp h
    cases h
    obtain ⟨cls, hcls, h⟩ := Except.bind_eq_ok.mp hadd
    cases h
    rw [Catalogue.map_settleJoin hnames] at hcls
    have hname : cls.name = d.name := (ofDeclaration_eq_ok hcls).name
    rw [List.reverse_concat]
    refine ⟨by rw [List.map_cons, List.map_cons, hname, hnames], fun name => ?_⟩
    rw [hierarchy, Catalogue.find?, List.find?_cons]
    by_cases hown : d.name = name
    · have hbases : Descends (d.base.elim [] (hierarchy ds.reverse))
          (d.base.bind before.find?) := by
        cases d.base with
        | none => exact .nil
        | some base => exact hfound base
      rw [if_pos hown, hname, beq_iff_eq.mpr hown]
      exact .cons hbases hcls
    · rw [if_neg hown, hname, beq_eq_false_iff_ne.mpr hown]
      exact hfound name

/-! ## Records -/

/-- One of the classes is made a record, so that the first of them is one. -/
def hasRecord : List ClassDeclaration → Bool
  | [] => false
  | d :: bases => d.recordsOver (hasRecord bases) || hasRecord bases

/-- The class is made a record : by `@dataclass`, or by `@table` if none of its bases is one. -/
def makesRecord (d : ClassDeclaration) (bases : List ClassDeclaration) : Bool :=
  d.recordsOver (hasRecord bases)

/-- What the classes have of their own. -/
def bodiesOf : List ClassDeclaration → List ClassBody
  | [] => []
  | d :: bases =>
    d.body (makesRecord d bases) ((bodiesOf bases).flatMap (·.attributes)) :: bodiesOf bases

/-- What the classes hold under the names of fields, nearest first. -/
def heldBy (chain : List ClassDeclaration) : List (String × FieldRole) :=
  (bodiesOf chain).flatMap (·.attributes)

/-- The role of a field in the record of a class : what the nearest class that is made a record and
annotates the field states for it, or else holds there by inheritance. -/
def fieldRole? : List ClassDeclaration → String → Option FieldRole
  | [], _ => none
  | d :: bases, name =>
    if makesRecord d bases ∧ name ∈ d.annotations.map (·.1) then
      some (roleOf (d.stated ++ heldBy bases) name)
    else fieldRole? bases name

variable {cls? : Option EntityClass}

theorem Descends.hasRecord_eq (h : Descends chain cls?) :
    (cls?.bind (·.fields)).isSome = hasRecord chain := by
  induction h with
  | nil => rfl
  | @cons bases base d cls _ h ih =>
    rw [Option.bind_some, (ofDeclaration_eq_ok h).fields, ih, hasRecord]
    split
    · next hmade => simp [hmade]
    · next hmade => simp [hmade, ih]

theorem Descends.bodies_eq (h : Descends chain cls?) :
    (cls?.map (·.bodies)).getD [] = bodiesOf chain := by
  induction h with
  | nil => rfl
  | @cons bases base d cls hbases h ih =>
    have hheld : (base.map (·.attributes)).getD [] = (bodiesOf bases).flatMap (·.attributes) := by
      rw [← ih]
      cases base <;> rfl
    rw [Option.map_some, Option.getD_some, (ofDeclaration_eq_ok h).bodies, hheld,
      hbases.hasRecord_eq, ih]
    rfl

/-- Where a field is added, it stands, and the others stand as they did. -/
theorem mem_addField {f g : Field} {fs : List Field} (h : (fs.map (·.name)).Nodup) :
    g ∈ addField f fs ↔ if g.name = f.name then g = f else g ∈ fs := by
  induction fs with
  | nil =>
    simp only [addField, List.mem_singleton, List.not_mem_nil]
    split
    · rfl
    · next hname => exact iff_of_false (fun hg => hname (hg ▸ rfl)) id
  | cons k fs ih =>
    obtain ⟨hk, hfs⟩ := List.nodup_cons.mp h
    rw [addField]
    by_cases hkf : k.name = f.name
    · rw [if_pos hkf, List.mem_cons, List.mem_cons]
      split
      · next hname =>
        have hnot : g ∉ fs := fun hg =>
          hk (List.mem_map.mpr ⟨g, hg, hname.trans hkf.symm⟩)
        exact or_iff_left hnot
      · next hname =>
        have hf : g ≠ f := fun hg => hname (hg ▸ rfl)
        have hk' : g ≠ k := fun hg => hname (hg ▸ hkf)
        rw [or_iff_right hf, or_iff_right hk']
    · rw [if_neg hkf, List.mem_cons, List.mem_cons, ih hfs]
      split
      · next hname =>
        have hk' : g ≠ k := fun hg => hkf (hg ▸ hname)
        exact or_iff_right hk'
      · rfl

/-- So do many fields, each with the role that its name has. -/
theorem mem_foldl_addField (roles : String → FieldRole) (names : List String) {g : Field}
    {fs : List Field} (h : (fs.map (·.name)).Nodup) :
    g ∈ names.foldl (fun fs name => addField ⟨name, roles name⟩ fs) fs ↔
      if g.name ∈ names then g.role = roles g.name else g ∈ fs := by
  induction names generalizing fs with
  | nil => simp
  | cons n names ih =>
    rw [List.foldl_cons, ih (nodup_addField _ h), mem_addField h]
    by_cases hnames : g.name ∈ names
    · simp [hnames]
    · by_cases hn : g.name = n
      · subst hn
        simp only [hnames, List.mem_cons_self, if_false, if_true]
        exact ⟨fun hg => congrArg Field.role hg, fun hrole => congrArg (Field.mk g.name) hrole⟩
      · simp [hnames, hn]

/-- A class of a hierarchy has distinct fields. -/
theorem Descends.distinct (h : Descends chain cls?) : ∀ cls, cls? = some cls → cls.Distinct := by
  induction h with
  | nil => exact fun _ h => nomatch h
  | cons _ h ih =>
    intro cls hcls
    cases hcls
    exact ofDeclaration_distinct ih h

theorem Descends.nodup_fields (h : Descends chain cls?) :
    (((cls?.bind (·.fields)).getD []).map (·.name)).Nodup := by
  cases hfields : cls?.bind (·.fields) with
  | none => exact List.nodup_nil
  | some fields =>
    obtain ⟨cls, hcls, hfields⟩ := Option.bind_eq_some_iff.mp hfields
    exact h.distinct cls hcls fields hfields

/-- The fields of a record and their roles. -/
theorem Descends.mem_fields (h : Descends chain cls?) (f : Field) :
    f ∈ (cls?.bind (·.fields)).getD [] ↔ fieldRole? chain f.name = some f.role := by
  induction h with
  | nil => simp [fieldRole?]
  | @cons bases base d cls hbases h ih =>
    have hheld : (base.map (·.attributes)).getD [] = heldBy bases := by
      rw [heldBy, ← hbases.bodies_eq]
      cases base <;> rfl
    rw [Option.bind_some, (ofDeclaration_eq_ok h).fields, hbases.hasRecord_eq, hheld]
    rw [fieldRole?, makesRecord]
    cases hmade : d.recordsOver (hasRecord bases) with
    | false => simpa using ih
    | true =>
      rw [if_pos rfl, Option.getD_some, mem_foldl_addField _ _ hbases.nodup_fields, ih]
      by_cases hname : f.name ∈ d.annotations.map (·.1)
      · rw [if_pos hname, if_pos ⟨rfl, hname⟩, Option.some_inj]
        exact eq_comm
      · rw [if_neg hname, if_neg fun h => hname h.2]

/-! ## Members -/

/-- What the nearest class that annotates a field means by its annotation. -/
def meaningOf? (c : Catalogue) (className : String) (chain : List ClassDeclaration)
    (name : String) : Option (Except DescribeError Annotation.Meaning) :=
  (bodiesOf chain).findSome? fun b => (b.annotations.lookup name).map (b.resolve c className)

/-- A member is made of the role of its field and, for a column without a type, of the meaning of
the field's annotation. -/
inductive Member.MadeOf (c : Catalogue) (className : String) (chain : List ClassDeclaration)
    (name : String) : FieldRole → Member → Prop
  | column {spec : ColumnSpec} {meaning : Annotation.Meaning} {col : Column}
      (hmeaning : meaningOf? c className chain name = some (.ok meaning))
      (h : Column.ofSpec c className name meaning spec = .ok col) :
      MadeOf c className chain name (.column spec) (.column col)
  | join {spec : JoinSpec} {j : Join} (h : Join.ofSpec c className name spec = .ok j) :
      MadeOf c className chain name (.join spec) (.join j)

/-- The annotations of one class come before those that are known. -/
theorem lookup_foldlM_resolve {b : ClassBody} {className : String}
    {known meanings : List (String × Annotation.Meaning)} (annotations : List (String × String))
    (hnodup : (annotations.map (·.1)).Nodup)
    (h : annotations.foldlM (fun known a => do
      return (a.1, ← b.resolve c className a.2) :: known) known = .ok meanings) (name : String) :
    (meanings.lookup name).map Except.ok =
      ((annotations.lookup name).map (b.resolve c className)).or
        ((known.lookup name).map Except.ok) := by
  induction annotations generalizing known with
  | nil =>
    cases h
    rfl
  | cons a annotations ih =>
    obtain ⟨n, typeText⟩ := a
    obtain ⟨hn, hnodup⟩ := List.nodup_cons.mp hnodup
    rw [List.foldlM_cons] at h
    obtain ⟨next, hnext, h⟩ := Except.bind_eq_ok.mp h
    obtain ⟨meaning, hmeaning, hnext⟩ := Except.bind_eq_ok.mp hnext
    cases hnext
    rw [ih hnodup h, lookup_cons_name, lookup_cons_name]
    by_cases hname : name = n
    · subst hname
      have hnone : annotations.lookup name = none := by
        rw [← Option.not_isSome_iff_eq_none, isSome_lookup_iff]
        exact hn
      simp [hnone, hmeaning]
    · simp [hname]

/-- A name has the meaning that the nearest of the classes gives it. -/
theorem lookup_meanings {className : String} {meanings : List (String × Annotation.Meaning)}
    (bodies : List ClassBody) (hnodup : ∀ b ∈ bodies, (b.annotations.map (·.1)).Nodup)
    (h : bodies.reverse.foldlM (fun known b => b.annotations.foldlM (fun known a => do
      return (a.1, ← b.resolve c className a.2) :: known) known) [] = .ok meanings)
    (name : String) :
    (meanings.lookup name).map Except.ok =
      bodies.findSome? fun b => (b.annotations.lookup name).map (b.resolve c className) := by
  induction bodies generalizing meanings with
  | nil =>
    cases h
    rfl
  | cons b bodies ih =>
    rw [List.reverse_cons, List.foldlM_append] at h
    obtain ⟨known, hknown, h⟩ := Except.bind_eq_ok.mp h
    obtain ⟨next, hnext, h⟩ := Except.bind_eq_ok.mp h
    cases h
    rw [lookup_foldlM_resolve _ (hnodup b List.mem_cons_self) hnext,
      ih (fun b' hb' => hnodup b' (List.mem_cons_of_mem _ hb')) hknown, List.findSome?_cons]
    cases (b.annotations.lookup name).map (b.resolve c className) <;> rfl

theorem nodup_annotations (chain : List ClassDeclaration) :
    ∀ b ∈ bodiesOf chain, (b.annotations.map (·.1)).Nodup := by
  induction chain with
  | nil => simp [bodiesOf]
  | cons d bases ih =>
    intro b hb
    rcases List.mem_cons.mp hb with rfl | hb
    · exact nodup_distinctNames _
    · exact ih b hb

/-- A field of a record is annotated. -/
theorem isSome_meaningOf? {className : String} (h : fieldRole? chain name = some role) :
    (meaningOf? c className chain name).isSome := by
  induction chain with
  | nil => simp [fieldRole?] at h
  | cons d bases ih =>
    rw [meaningOf?, bodiesOf, List.findSome?_cons]
    split
    · rfl
    · next hnone =>
      refine ih ?_
      rw [fieldRole?] at h
      split at h
      · next hown =>
        have hannotated := (isSome_lookup_iff d.annotations name).mpr hown.2
        have hnone : d.annotations.lookup name = none := Option.map_eq_none_iff.mp hnone
        rw [hnone] at hannotated
        cases hannotated
      · exact h

/-- What a field of a record is mapped to, is made of its role. -/
theorem ofField_eq_some_iff {className : String} {meanings : List (String × Annotation.Meaning)}
    (hmeanings : ∀ name, (meanings.lookup name).map Except.ok = meaningOf? c className chain name)
    {f : Field} (hf : fieldRole? chain f.name = some f.role) {m : Member} :
    Member.ofField c className meanings f = .ok (some m) ↔
      m.MadeOf c className chain f.name f.role := by
  have hsome : (meaningOf? c className chain f.name).isSome := isSome_meaningOf? hf
  obtain ⟨meaning, hmeaning⟩ := Option.isSome_iff_exists.mp hsome
  rw [← hmeanings] at hmeaning
  obtain ⟨meaning, hlookup, rfl⟩ := Option.map_eq_some_iff.mp hmeaning
  have hnearest := (hmeanings f.name).symm.trans (congrArg _ hlookup)
  obtain ⟨name, role⟩ := f
  unfold Member.ofField
  constructor
  · intro h
    split at h
    · next spec hrole =>
      cases hrole
      obtain ⟨col, hcol, hm⟩ := Except.map_eq_ok.mp h
      cases hm
      rw [hlookup] at hcol
      exact .column hnearest hcol
    · next spec hrole =>
      cases hrole
      obtain ⟨j, hj, hm⟩ := Except.map_eq_ok.mp (describing_eq_ok.mp h)
      cases hm
      exact .join hj
    · simp at h
  · intro h
    cases h with
    | column hmeaning hcol =>
      cases hmeaning.symm.trans hnearest
      dsimp only
      rw [hlookup]
      exact Except.map_eq_ok.mpr ⟨_, hcol, rfl⟩
    | join hj => exact describing_eq_ok.mpr (Except.map_eq_ok.mpr ⟨_, hj, rfl⟩)

/-- A mapped field is mapped to something. -/
theorem isMapped_of_ofField_eq_none {className : String}
    {meanings : List (String × Annotation.Meaning)} {f : Field}
    (h : Member.ofField c className meanings f = .ok none) : f.role.isMapped = false := by
  unfold Member.ofField at h
  split at h
  · obtain ⟨_, -, h⟩ := Except.map_eq_ok.mp h
    cases h
  · obtain ⟨_, -, h⟩ := Except.map_eq_ok.mp (describing_eq_ok.mp h)
    cases h
  · next hrole =>
    rw [hrole]
    rfl

/-- The members of a description are those of the mapped fields. -/
theorem Descends.describe_eq_ok (h : Descends chain (some cls)) (he : cls.describe c = .ok e) :
    (∀ m ∈ e.members, ∃ role, fieldRole? chain m.field = some role
        ∧ m.MadeOf c e.className chain m.field role)
      ∧ ∀ name role, fieldRole? chain name = some role → role.isMapped = true →
        ∃ m ∈ e.members, m.field = name ∧ m.MadeOf c e.className chain name role := by
  obtain ⟨table, -, he⟩ := Except.bind_eq_ok.mp he
  split at he
  · simp at he
  next fields hfields =>
  obtain ⟨meanings, hmeanings, he⟩ := Except.bind_eq_ok.mp he
  obtain ⟨members, hmembers, he⟩ := Except.bind_eq_ok.mp he
  obtain ⟨added, hadded, rfl⟩ := foldlM_addField_eq_ok hmembers
  have hadded := mapM_eq_ok.mp hadded
  split at he
  · simp at he
  cases he
  have hfield (f : Field) : f ∈ fields ↔ fieldRole? chain f.name = some f.role := by
    have hmem := h.mem_fields f
    rwa [Option.bind_some, hfields, Option.getD_some] at hmem
  have hbodies : cls.bodies = bodiesOf chain := h.bodies_eq
  have hlookup (name : String) :
      (meanings.lookup name).map Except.ok = meaningOf? c cls.name chain name := by
    unfold EntityClass.meanings at hmeanings
    rw [hbodies] at hmeanings
    exact lookup_meanings _ (nodup_annotations chain) hmeanings name
  refine ⟨fun m hm => ?_, fun name role hrole hmapped => ?_⟩
  · obtain ⟨_, hm, rfl⟩ := List.mem_filterMap.mp hm
    obtain ⟨f, hf, hmade⟩ := exists_of_forall₂ hadded hm
    have hrole := (hfield f).mp hf
    rw [Member.ofField_field hmade]
    exact ⟨f.role, hrole, (ofField_eq_some_iff hlookup hrole).mp hmade⟩
  · obtain ⟨o, ho, hmade⟩ := exists_of_forall₂ hadded.flip ((hfield ⟨name, role⟩).mpr hrole)
    cases o with
    | none =>
      rw [isMapped_of_ofField_eq_none hmade] at hmapped
      cases hmapped
    | some m =>
      exact ⟨m, List.mem_filterMap.mpr ⟨_, ho, rfl⟩, Member.ofField_field hmade,
        (ofField_eq_some_iff hlookup hrole).mp hmade⟩

/-! ## Declarations and members -/

/-- Some class that stands over the bases is made a record and annotates the field again. -/
def redeclares (bases : List ClassDeclaration) (name : String) : List ClassDeclaration → Bool
  | [] => false
  | d :: near =>
    (makesRecord d (near ++ bases) && (d.annotations.map (·.1)).contains name)
      || redeclares bases name near

/-- Without such a class the field is what it is in the bases. -/
theorem fieldRole?_append (h : redeclares bases name near = false) :
    fieldRole? (near ++ bases) name = fieldRole? bases name := by
  induction near with
  | nil => rfl
  | cons d near ih =>
    rw [redeclares, Bool.or_eq_false_iff] at h
    rw [List.cons_append, fieldRole?, if_neg, ih h.2]
    rintro ⟨hmade, hname⟩
    rw [hmade, List.contains_iff_mem.mpr hname] at h
    cases h.1

/-- What states a field annotates it. -/
theorem mem_annotations_of_stated (h : d.stated.lookup name = some role) :
    name ∈ d.annotations.map (·.1) := by
  have hmem : name ∈ d.stated.map (·.1) := (isSome_lookup_iff _ _).mp (by rw [h]; rfl)
  rw [ClassDeclaration.annotations, mem_map_fst_distinctNames]
  simp only [ClassDeclaration.stated, List.map_reverse, List.mem_reverse, List.mem_map,
    List.mem_filter] at hmem ⊢
  obtain ⟨_, ⟨f, ⟨hf, -⟩, rfl⟩, rfl⟩ := hmem
  exact ⟨_, ⟨f, hf, rfl⟩, rfl⟩

/-- A class that is made a record gives a field the role that it states. -/
theorem fieldRole?_of_stated (hmade : makesRecord d bases = true)
    (h : d.stated.lookup name = some role) : fieldRole? (d :: bases) name = some role := by
  rw [fieldRole?, if_pos ⟨hmade, mem_annotations_of_stated h⟩, roleOf, List.lookup_append, h]
  rfl

/-- A class that is not made a record gives it none. -/
theorem fieldRole?_of_bare (hmade : makesRecord d bases = false) :
    fieldRole? (d :: bases) name = fieldRole? bases name := by
  rw [fieldRole?, if_neg fun h => by simp [hmade] at h]

/-- A record holds no columns and joins of its own under the names of its fields, but their first
values. -/
theorem isMapped_of_settledAttributes {names : List String}
    {stated inherited : List (String × FieldRole)} {held : FieldRole}
    (h : (settledAttributes names stated inherited).lookup name = some held) :
    held.isMapped = false := by
  obtain ⟨before, after, heq, -⟩ := List.lookup_eq_some_iff.mp h
  have hmem : (name, held) ∈ settledAttributes names stated inherited := by
    rw [heq]
    exact List.mem_append_right _ List.mem_cons_self
  obtain ⟨n, -, hheld⟩ := List.mem_filterMap.mp hmem
  dsimp only at hheld
  split at hheld
  · cases hheld
    rfl
  · next hrole =>
    obtain ⟨held, hstated, heq⟩ := Option.map_eq_some_iff.mp hheld
    cases heq
    rw [roleOf, List.lookup_append, hstated] at hrole
    simpa using hrole

/-- It holds something under the name of each field that it states. -/
theorem isSome_lookup_settledAttributes {names : List String}
    {stated inherited : List (String × FieldRole)} (hname : name ∈ names)
    (h : (stated.lookup name).isSome) :
    ((settledAttributes names stated inherited).lookup name).isSome := by
  rw [isSome_lookup_iff, List.mem_map]
  obtain ⟨role, hrole⟩ := Option.isSome_iff_exists.mp h
  unfold settledAttributes
  by_cases hmapped : (roleOf (stated ++ inherited) name).isMapped = true
  · exact ⟨(name, (roleOf (stated ++ inherited) name).settled),
      List.mem_filterMap.mpr ⟨name, hname, by simp [hmapped]⟩, rfl⟩
  · exact ⟨(name, role), List.mem_filterMap.mpr ⟨name, hname, by simp [hmapped, hrole]⟩, rfl⟩

/-- Over a class that is made a record no column or join is held under a name that the class states,
unless a class in between states one. -/
theorem isMapped_of_heldBy (hmade : makesRecord d bases = true)
    (hstated : (d.stated.lookup name).isSome)
    (hderived : ∀ d' ∈ near, ∀ other, d'.stated.lookup name = some other →
      other.isMapped = false) {held : FieldRole}
    (h : (heldBy (near ++ d :: bases)).lookup name = some held) : held.isMapped = false := by
  induction near with
  | nil =>
    rw [List.nil_append, heldBy, bodiesOf, List.flatMap_cons, ClassDeclaration.body, hmade,
      if_pos rfl, List.lookup_append] at h
    obtain ⟨role, hrole⟩ := Option.isSome_iff_exists.mp hstated
    have hsome : ((settledAttributes (d.annotations.map (·.1)) d.stated
        ((bodiesOf bases).flatMap (·.attributes))).lookup name).isSome :=
      isSome_lookup_settledAttributes (mem_annotations_of_stated hrole) hstated
    obtain ⟨own, hown⟩ := Option.isSome_iff_exists.mp hsome
    rw [hown] at h
    cases h
    exact isMapped_of_settledAttributes hown
  | cons d' near ih =>
    have ih := ih fun d'' hd'' => hderived d'' (List.mem_cons_of_mem _ hd'')
    rw [List.cons_append, heldBy, bodiesOf, List.flatMap_cons, ClassDeclaration.body,
      List.lookup_append, Option.or_eq_some_iff] at h
    rcases h with h | ⟨-, h⟩
    · split at h
      · exact isMapped_of_settledAttributes h
      · exact hderived d' List.mem_cons_self held h
    · exact ih h

/-- So a class that is made a record and annotates the name again has no column or join there. -/
theorem isMapped_of_redeclares (hmade : makesRecord d bases = true)
    (hstated : (d.stated.lookup name).isSome)
    (hderived : ∀ d' ∈ near, ∀ other, d'.stated.lookup name = some other →
      other.isMapped = false) (h : redeclares (d :: bases) name near = true)
    (hrole : fieldRole? (near ++ d :: bases) name = some role) : role.isMapped = false := by
  induction near with
  | nil => cases h
  | cons d' near ih =>
    have hderived' : ∀ d'' ∈ near, ∀ other, d''.stated.lookup name = some other →
        other.isMapped = false := fun d'' hd'' => hderived d'' (List.mem_cons_of_mem _ hd'')
    rw [List.cons_append, fieldRole?] at hrole
    split at hrole
    · cases hrole
      rw [roleOf, List.lookup_append]
      cases hown : d'.stated.lookup name with
      | some own => exact hderived d' List.mem_cons_self own hown
      | none =>
        cases hheld : (heldBy (near ++ d :: bases)).lookup name with
        | some held => exact isMapped_of_heldBy hmade hstated hderived' hheld
        | none => rfl
    · next hnot =>
      refine ih hderived' ?_ hrole
      rw [redeclares, Bool.or_eq_true_iff, Bool.and_eq_true_iff, List.contains_iff_mem] at h
      exact h.resolve_left hnot

/-- Let a class declare a field as a column or a join, and let no class that is derived from it do
so again. If the class is made a record, then the field is mapped, to one member that is made of
this declaration, unless a derived class that is made a record annotates the field again : then it
is unmapped, as this class has it. If the class is not made a record, as under `@table` alone over a
base that is one, then the declaration is not seen : the field is what it is in the bases. -/
theorem describe_maps_recorded_declarations {ds : List ClassDeclaration}
    {constants : List (String × Value)} {className : String}
    (hcatalogue : Catalogue.ofDeclarations ds constants = .ok c)
    (hentity : c.describe className = .ok e)
    (hchain : hierarchy ds.reverse className = near ++ d :: bases)
    (hdeclared : d.stated.lookup name = some role) (hmapped : role.isMapped = true)
    (hderived : ∀ d' ∈ near, ∀ other, d'.stated.lookup name = some other →
      other.isMapped = false) :
    (makesRecord d bases = true →
      (redeclares (d :: bases) name near = false → ∃ m ∈ e.members, m.field = name
        ∧ m.MadeOf c e.className (near ++ d :: bases) name role
        ∧ ∀ m' ∈ e.members, m'.field = name → m' = m)
      ∧ (redeclares (d :: bases) name near = true → ∀ m ∈ e.members, m.field ≠ name))
    ∧ (makesRecord d bases = false → redeclares (d :: bases) name near = false →
        ∀ m ∈ e.members, m.field = name → ∃ other, fieldRole? bases name = some other
          ∧ m.MadeOf c e.className (near ++ d :: bases) name other) := by
  obtain ⟨cls, hcls, he⟩ : ∃ cls, c.find? className = some cls ∧ cls.describe c = .ok e := by
    unfold Catalogue.describe at hentity
    split at hentity
    · next cls hcls => exact ⟨cls, hcls, hentity⟩
    · simp at hentity
  have hdescends : Descends (near ++ d :: bases) (some cls) := by
    have := (ofDeclarations_descends hcatalogue).2 className
    rwa [hchain, hcls] at this
  obtain ⟨hmade, hall⟩ := hdescends.describe_eq_ok he
  have hstated : (d.stated.lookup name).isSome := by
    rw [hdeclared]
    rfl
  refine ⟨fun hrecord => ⟨fun hlast => ?_, fun hagain m hm hfield => ?_⟩,
    fun hrecord hlast m hm hfield => ?_⟩
  · have hrole := (fieldRole?_append hlast).trans (fieldRole?_of_stated hrecord hdeclared)
    obtain ⟨m, hm, hfield, hmember⟩ := hall name role hrole hmapped
    have hdistinct := (ofDeclarations_distinct hcatalogue).describe hentity
    exact ⟨m, hm, hfield, hmember, fun m' hm' hfield' =>
      List.inj_on_of_nodup_map hdistinct hm' hm (hfield'.trans hfield.symm)⟩
  · obtain ⟨role', hrole, hmember⟩ := hmade m hm
    rw [hfield] at hrole hmember
    have hplain := isMapped_of_redeclares hrecord hstated hderived hagain hrole
    cases hmember <;> cases hplain
  · obtain ⟨role', hrole, hmember⟩ := hmade m hm
    rw [hfield] at hrole hmember
    rw [fieldRole?_append hlast, fieldRole?_of_bare hrecord] at hrole
    exact ⟨role', hrole, hmember⟩

namespace Sample.Instruments

/-- A unit that must be given. -/
def unit : FieldDeclaration := column "unit" "str" { nullable := some false }

def instrument : ClassDeclaration where
  name := "Instrument"
  table := some "instruments"
  fields := [key, column "label" "str" {}]

/-- A record of its own, which declares the label anew. -/
def gauge : ClassDeclaration where
  name := "Gauge"
  table := some "gauges"
  isRecord := true
  base := some "Instrument"
  fields := [unit, column "label" "str" { unique := true }]

/-- A class that only `@table` stands over. -/
def probe : ClassDeclaration where
  name := "Probe"
  table := some "probes"
  base := some "Instrument"
  fields := [unit]

def catalogue : Catalogue :=
  (Catalogue.ofDeclarations [instrument, gauge, probe] []).toOption.getD {}

theorem ofDeclarations_catalogue :
    Catalogue.ofDeclarations [instrument, gauge, probe] [] = .ok catalogue := by
  rfl

def labelColumn : Column := { field := "label", name := "label", type := .text, unique := true }

def gaugeEntity : Entity where
  className := "Gauge"
  table := "gauges"
  members :=
    [.column { field := "id", name := "id", type := .integer, nullable := false,
               primaryKey := true, autoIncrement := true },
     .column labelColumn,
     .column { field := "unit", name := "unit", type := .text, nullable := false }]

theorem describe_gauge : catalogue.describe "Gauge" = .ok gaugeEntity := by
  decide +kernel

/-- The label of a gauge is that of its own declaration. -/
theorem describe_maps_label :
    ∃ m ∈ gaugeEntity.members, m.field = "label"
      ∧ m.MadeOf catalogue "Gauge" [gauge, instrument] "label"
        (.column { name := "label", unique := true })
      ∧ ∀ m' ∈ gaugeEntity.members, m'.field = "label" → m' = m := by
  have hchain :
      hierarchy [instrument, gauge, probe].reverse "Gauge" = [] ++ gauge :: [instrument] := rfl
  exact ((describe_maps_recorded_declarations ofDeclarations_catalogue describe_gauge hchain rfl rfl
    (by simp)).1 rfl).1 rfl

def probeEntity : Entity where
  className := "Probe"
  table := "probes"
  members :=
    [.column { field := "id", name := "id", type := .integer, nullable := false,
               primaryKey := true, autoIncrement := true },
     .column { field := "label", name := "label", type := .text }]

/-- The class of probes declares a column for the unit, and is described without it. -/
theorem describe_leaves_out_unit :
    probe.table = some "probes" ∧ probe.isBare = false ∧ unit ∈ probe.fields
      ∧ unit.role.isMapped = true
      ∧ Catalogue.ofDeclarations [instrument, gauge, probe] [] = .ok catalogue
      ∧ catalogue.describe "Probe" = .ok probeEntity
      ∧ ∀ m ∈ probeEntity.members, m.field ≠ "unit" :=
  ⟨rfl, rfl, List.mem_cons_self, rfl, ofDeclarations_catalogue, by decide +kernel, by decide⟩

end Sample.Instruments

end EntityMap
