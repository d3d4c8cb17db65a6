import EntityMap.Interface
import EntityMap.Proofs.Finding.Rows
import EntityMap.Proofs.Method.Spelling
import EntityMap.Proofs.Named
import EntityMap.Proofs.Sql.Compilation

/-!
# Finding through interfaces

An interface is made of its `interfaceHierarchy` : what a method does is said by the nearest of the
interfaces that declares it, or else by the one that all inherit from
(`Interface.Extends.lookup_methods`). So a method that is named like a query runs the query or the
SQL that its declaration gives (`call_query`).

A name that finds all means a list, but a declaration has the last word : `GivesList` says when the
list is given, and `call_findAll` what is given then and otherwise.
-/

namespace EntityMap

variable {δ : Type} {c : Catalogue} {name : String}

/-! ## Hierarchies of interfaces -/

/-- An interface and those that it inherits from, the nearest first. The declarations are given with
the last one first. -/
def interfaceHierarchy : List InterfaceDeclaration → String → List InterfaceDeclaration
  | [], _ => []
  | d :: earlier, name =>
    if d.name = name then d :: d.base.elim [] (interfaceHierarchy earlier)
    else interfaceHierarchy earlier name

/-- The interface that is made of the declarations of a hierarchy, from the last base on. -/
inductive Interface.Extends (c : Catalogue) : List InterfaceDeclaration → Interface → Prop
  | root : Extends c [] .root
  | declared {bases : List InterfaceDeclaration} {base i : Interface} {d : InterfaceDeclaration}
      (inherited : Extends c bases base) (h : ofDeclaration c base d = .ok i) :
      Extends c (d :: bases) i

/-- The interface of a name is made of its hierarchy. -/
theorem foldlM_addInterface_extends {ds : List InterfaceDeclaration} {known : Interfaces}
    (h : ds.foldlM (Interfaces.addInterface c) {} = .ok known) (name : String) :
    Interface.Extends c (interfaceHierarchy ds.reverse name)
      ((known.interface? name).getD .root) := by
  -- A base of the last interface is looked up among the interfaces before it.
  induction ds using List.reverseRecOn generalizing known name with
  | nil =>
    cases h
    rw [Interfaces.interface?, List.find?_singleton]
    split <;> exact .root
  | append_singleton ds d ih =>
    rw [List.foldlM_append] at h
    obtain ⟨before, hbefore, h⟩ := Except.bind_eq_ok.mp h
    obtain ⟨after, hadd, h⟩ := Except.bind_eq_ok.mp h
    cases h
    obtain ⟨i, hi, hadd⟩ := Except.bind_eq_ok.mp hadd
    cases hadd
    have hname : i.name = d.name := by
      obtain ⟨methods, -, hmade⟩ := Except.bind_eq_ok.mp hi
      cases hmade
      rfl
    rw [List.reverse_concat, interfaceHierarchy, Interfaces.interface?, List.find?_cons, hname]
    by_cases hown : d.name = name
    · have hbase : Interface.Extends c (d.base.elim [] (interfaceHierarchy ds.reverse))
          ((d.base.bind before.interface?).getD .root) := by
        cases d.base with
        | none => exact .root
        | some base => exact ih hbefore base
      rw [if_pos hown, beq_iff_eq.mpr hown]
      exact .declared hbase hi
    · rw [if_neg hown, beq_eq_false_iff_ne.mpr hown]
      exact ih hbefore name

theorem foldl_addTable_interfaces (ts : List TableDeclaration) (known : Interfaces) :
    (ts.foldl Interfaces.addTable known).interfaces = known.interfaces := by
  induction ts generalizing known with
  | nil => rfl
  | cons t ts ih => exact ih _

/-- Table classes leave the interfaces as they are. -/
theorem Interfaces.ofDeclarations_extends {ds : List InterfaceDeclaration}
    {ts : List TableDeclaration} {known : Interfaces} {i : Interface}
    (h : Interfaces.ofDeclarations c ds ts = .ok known) (hi : known.interface? name = some i) :
    i.Extends c (interfaceHierarchy ds.reverse name) := by
  obtain ⟨before, hbefore, h⟩ := Except.bind_eq_ok.mp h
  cases h
  have hextends := foldlM_addInterface_extends hbefore name
  have hsame : before.interface? name = some i := by
    rw [← hi, interface?, interface?, foldl_addTable_interfaces]
  rwa [hsame] at hextends

/-! ## Methods -/

/-- The method of a name that the nearest interface declares; of several in one interface the
last. -/
def declaredMethod? (chain : List InterfaceDeclaration) (name : String) :
    Option MethodDeclaration :=
  chain.findSome? fun d => d.methods.reverse.find? (·.name == name)

theorem lookup_map_name (ms : List MethodDeclaration) (name : String) :
    (ms.map fun m => (m.name, m)).lookup name = ms.find? (·.name == name) := by
  induction ms with
  | nil => rfl
  | cons m ms ih =>
    rw [List.map_cons, lookup_cons_name, ih, List.find?_cons]
    by_cases h : name = m.name
    · simp [h]
    · simp [h, beq_eq_false_iff_ne.mpr (Ne.symm h)]

/-- The behaviours of methods lie under their names. -/
theorem lookup_behaviours {ms : List (String × MethodDeclaration)}
    {behaviours : List (String × MethodBehaviour)}
    (h : (ms.mapM fun (name, m) => do return (name, ← m.behaviour c)) = .ok behaviours)
    (name : String) :
    (behaviours.lookup name).map Except.ok = (ms.lookup name).map (·.behaviour c) := by
  induction mapM_eq_ok.mp h with
  | nil => rfl
  | @cons m b ms bs hfirst hrest ih =>
    obtain ⟨behaviour, hbehaviour, hfirst⟩ := Except.bind_eq_ok.mp hfirst
    cases hfirst
    obtain ⟨n, m⟩ := m
    rw [lookup_cons_name, lookup_cons_name]
    split
    · exact congrArg some hbehaviour.symm
    · exact ih (mapM_eq_ok.mpr hrest)

/-- A method does what its nearest declaration says, or else what every interface has. -/
theorem Interface.Extends.lookup_methods {chain : List InterfaceDeclaration} {i : Interface}
    (h : i.Extends c chain) (name : String) :
    (i.methods.lookup name).map Except.ok =
      match declaredMethod? chain name with
      | some m => some (m.behaviour c)
      | none => (Interface.root.methods.lookup name).map Except.ok := by
  induction h with
  | root => rfl
  | @declared bases base i d inherited h ih =>
    obtain ⟨behaviours, hbehaviours, h⟩ := Except.bind_eq_ok.mp h
    cases h
    have hown := lookup_behaviours hbehaviours name
    rw [lookup_distinctNames, ← List.map_reverse, lookup_map_name] at hown
    rw [List.lookup_append, declaredMethod?, List.findSome?_cons]
    cases hfound : d.methods.reverse.find? (·.name == name) with
    | none =>
      rw [hfound, Option.map_none, Option.map_eq_none_iff] at hown
      rw [hown, Option.none_or]
      exact ih
    | some m =>
      rw [hfound, Option.map_some] at hown
      obtain ⟨b, hb, hbehaviour⟩ := Option.map_eq_some_iff.mp hown
      rw [hb, Option.some_or, Option.map_some, hbehaviour]

/-! ## Names of queries -/

/-- No name of a query begins with an underscore. -/
theorem startsWith_underscore_eq_false {q : Method.Query}
    (h : Method.Query.ofName? name = .ok q) : name.startsWith "_" = false := by
  rw [String.startsWith_string_eq_false_iff]
  rintro ⟨rest, hrest⟩
  obtain ⟨p, -, rfl, -⟩ := Method.ofName?_eq_ok_iff_phrase.mp h
  have hspelling : p.spelling.toList = p.verb.opening ++ Method.charsOf p.words :=
    String.toList_ofList
  rw [hspelling] at hrest
  -- a verb opens the name, and none begins so
  cases hverb : p.verb <;> rw [hverb] at hrest <;> cases hrest

theorem followsGrammar_of_query {q : Method.Query} (h : Method.Query.ofName? name = .ok q) :
    Method.followsGrammar name = true := by
  rw [Method.followsGrammar, h]
  rfl

/-- A method that is named like a query runs its SQL, or else the query. -/
theorem MethodDeclaration.behaviour_of_query {m : MethodDeclaration} {q : Method.Query}
    (h : Method.Query.ofName? m.name = .ok q) :
    m.behaviour c = match m.sql with
      | some sql => do return .sql sql ((← returnsMany? c m.returns).getD false)
      | none => do return .dispatch (← returnsMany? c m.returns) := by
  rw [behaviour, startsWith_underscore_eq_false h, followsGrammar_of_query h]
  rfl

/-- The method of that name that is declared has the name. -/
theorem name_of_declaredMethod? {chain : List InterfaceDeclaration} {m : MethodDeclaration}
    (h : declaredMethod? chain name = some m) : m.name = name := by
  obtain ⟨d, -, hd⟩ := List.exists_of_findSome?_eq_some h
  simpa using List.find?_some hd

/-! ## Calls -/

/-- The method is annotated with a result that has a meaning, and this is a collection or not. -/
def MethodDeclaration.Declares (c : Catalogue) (m : MethodDeclaration) (many : Bool) : Prop :=
  ∃ typeText meaning, m.returns = some typeText ∧ c.scope.resolve typeText = .ok meaning
    ∧ meaning.returnsMany = many

theorem returnsMany?_eq_some_iff {m : MethodDeclaration} {many : Bool} :
    returnsMany? c m.returns = .ok (some many) ↔ m.Declares c many := by
  unfold returnsMany? MethodDeclaration.Declares
  cases hreturns : m.returns with
  | none => simp
  | some typeText =>
    cases hresolve : c.scope.resolve typeText with
    | ok meaning => simp [hresolve]
    | error e => cases e <;> simp [hresolve]

variable [Database δ] {x : Library} {e : Entity} {query : QueryObject}
  {chain : List InterfaceDeclaration} {q : Method.Query} {args : List Value} {v : Value}
  {w w' : World δ}

/-- What every interface has runs the query of its name. -/
theorem call_undeclared (hroot : query.interface.methods.lookup name
      = Interface.root.methods.lookup name) (h : query.call x name args w = (.ok v, w')) :
    invoke x query.entity name args none w = (.ok v, w') := by
  unfold QueryObject.call at h
  rw [hroot] at h
  cases hfound : Interface.root.methods.lookup name with
  | none =>
    rw [hfound] at h
    dsimp only [QueryObject.callUndeclared] at h
    split at h
    · cases h
    · exact h
  | some b =>
    have hmem := mem_of_lookup hfound
    simp only [Interface.root, List.mem_cons, Prod.mk.injEq, List.not_mem_nil, or_false] at hmem
    rw [hfound] at h
    rcases hmem with ⟨-, rfl⟩ | ⟨-, rfl⟩ | ⟨-, rfl⟩ | ⟨-, rfl⟩
    all_goals
      dsimp only at h
      split at h
      · exact h
      · cases h

/-- A method that is named like a query runs the query, or the SQL that its declaration gives
instead. -/
theorem call_query (hextends : query.interface.Extends x.catalogue chain)
    (hq : Method.Query.ofName? name = .ok q) (h : query.call x name args w = (.ok v, w')) :
    (declaredMethod? chain name = none
        ∧ invoke x query.entity name args none w = (.ok v, w'))
      ∨ ∃ m many, declaredMethod? chain name = some m
        ∧ returnsMany? x.catalogue m.returns = .ok many
        ∧ ((m.sql = none ∧ invoke x query.entity name args many w = (.ok v, w'))
          ∨ ∃ sql, m.sql = some sql
            ∧ runSql x query.entity sql args (many.getD false) w = (.ok v, w')) := by
  have hlookup := hextends.lookup_methods name
  cases hdeclared : declaredMethod? chain name with
  | none =>
    rw [hdeclared] at hlookup
    have hsame : query.interface.methods.lookup name = Interface.root.methods.lookup name :=
      Option.map_injective (fun _ _ => Except.ok.inj) hlookup
    exact .inl ⟨rfl, call_undeclared hsame h⟩
  | some m =>
    rw [hdeclared] at hlookup
    obtain ⟨b, hb, hbehaviour⟩ := Option.map_eq_some_iff.mp hlookup
    rw [← name_of_declaredMethod? hdeclared] at hq
    rw [MethodDeclaration.behaviour_of_query hq] at hbehaviour
    unfold QueryObject.call at h
    rw [hb] at h
    cases hsql : m.sql with
    | none =>
      rw [hsql] at hbehaviour
      obtain ⟨many, hmany, hdispatch⟩ := Except.bind_eq_ok.mp hbehaviour.symm
      cases hdispatch
      exact .inr ⟨m, many, rfl, hmany, .inl ⟨hsql, h⟩⟩
    | some sql =>
      rw [hsql] at hbehaviour
      obtain ⟨many, hmany, hdispatch⟩ := Except.bind_eq_ok.mp hbehaviour.symm
      cases hdispatch
      exact .inr ⟨m, many, rfl, hmany, .inr ⟨sql, hsql, h⟩⟩

/-! ## Finding all -/

/-- The statement of a call : the SQL that the declaration gives, or else what the name selects. -/
inductive CalledStatement (e : Entity) (q : Method.Query) (declared : Option MethodDeclaration) :
    Statement → Prop
  | given {sql : SqlQuery} (stated : declared.bind (·.sql) = some sql)
      (captures : sql.captures = true) : CalledStatement e q declared (.verbatim sql.sql)
  | named {selection : Selection} (unstated : declared.bind (·.sql) = none)
      (compiled : Compiled e q selection) :
      CalledStatement e q declared (.select e.table selection)

/-- A method that finds all gives a list unless it is declared with another result. Given SQL does so
only if it is declared with a list. -/
def GivesList (c : Catalogue) (declared : Option MethodDeclaration) : Prop :=
  ∀ m, declared = some m → if m.sql.isSome then m.Declares c true else ¬m.Declares c false

/-- The entities of a statement's rows are the result, in a list or the first alone. -/
def GivesEntities (x : Library) (e : Entity) (s : Statement) (ps : List Value) (w : World δ)
    (many : Bool) (v : Value) (w' : World δ) : Prop :=
  ∃ reply lookups vs, v = (if many then .list vs else vs.head?.getD .null)
    ∧ RowsFetched x e s ps w reply (if many then reply.fetched else reply.fetched.take 1) lookups
      vs w'
    ∧ List.Forall₂ (IsEntityOf x e w'.records)
      (if many then reply.fetched else reply.fetched.take 1) vs
    ∧ vs.Nodup

theorem loadResult_givesEntities {s : Statement} {ps : List Value} {many : Bool}
    (hc : x.catalogue.Distinct) (he : e.Distinct)
    (h : loadResult x e s ps many w = (.ok v, w')) : GivesEntities x e s ps w many v w' := by
  obtain ⟨reply, lookups, vs, hv, hfetched⟩ := exists_rowsFetched hc he h
  exact ⟨reply, lookups, vs, hv, hfetched, hfetched.entities⟩

/-- A name that finds all gives a list of all entities, unless it is told otherwise. -/
theorem invoke_findAll {many : Option Bool} (hc : x.catalogue.Distinct) (he : e.Distinct)
    (hq : Method.Query.ofName? name = .ok q) (hverb : q.verb = .findAll)
    (h : invoke x e name args many w = (.ok v, w')) :
    ∃ selection ps, Compiled e q selection ∧ bindArguments w.records args = .ok ps
      ∧ GivesEntities x e (.select e.table selection) ps w (many.getD true) v w' := by
  rw [invoke_eq_runQuery hq, runQuery, hverb] at h
  obtain ⟨selection, hselection, h⟩ := Op.ofResult_bind_eq_ok.mp h
  rw [Op.records_bind] at h
  obtain ⟨ps, hps, h⟩ := Op.ofResult_bind_eq_ok.mp h
  rw [hverb] at h
  exact ⟨selection, ps, (selectionFor_eq_ok hselection).2.1, hps,
    loadResult_givesEntities hc he h⟩

/-- Given SQL gives entities as well, or is run for its effect. -/
theorem runSql_eq_ok {sql : SqlQuery} {many : Bool} (hc : x.catalogue.Distinct) (he : e.Distinct)
    (h : runSql x e sql args many w = (.ok v, w')) :
    (sql.captures = false ∧ v = .bool true)
      ∨ sql.captures = true ∧ ∃ ps, bindArguments w.records args = .ok ps
        ∧ GivesEntities x e (.verbatim sql.sql) ps w many v w' := by
  rw [runSql, Op.records_bind] at h
  obtain ⟨ps, hps, h⟩ := Op.ofResult_bind_eq_ok.mp h
  split at h
  · next hcaptures => exact .inr ⟨hcaptures, ps, hps, loadResult_givesEntities hc he h⟩
  · next hcaptures =>
    obtain ⟨_, _, -, h⟩ := Op.bind_eq_ok.mp h
    cases h
    exact .inl ⟨Bool.not_eq_true _ ▸ hcaptures, rfl⟩

/-- A query object has the interface of its name and an entity that is described. -/
theorem Interfaces.createQuery_eq_ok {known : Interfaces} {interfaceName : String}
    {entity : Option String} (h : known.createQuery x interfaceName entity = .ok query) :
    known.interface? interfaceName = some query.interface
      ∧ ∃ className, x.catalogue.describe className = .ok query.entity := by
  unfold createQuery at h
  split at h
  · next i hi =>
    unfold QueryObject.create at h
    split at h
    · cases h
    next className _ =>
    split at h
    · next e he =>
      cases h
      exact ⟨hi, className, he⟩
    · cases h
  · cases h

/-- Whether a declared method gives a list is said by what its result is declared with. -/
theorem givesList_some_iff {m : MethodDeclaration} {many : Option Bool}
    (h : returnsMany? c m.returns = .ok many) :
    GivesList c (some m) ↔ many.getD m.sql.isNone = true := by
  have hdeclares : ∀ b, m.Declares c b ↔ many = some b := fun b => by
    rw [← returnsMany?_eq_some_iff, h, Except.ok.injEq]
  have hsome : GivesList c (some m) ↔
      if m.sql.isSome then m.Declares c true else ¬m.Declares c false :=
    ⟨fun h => h m rfl, fun h _ hm => Option.some.inj hm ▸ h⟩
  rw [hsome, hdeclares, hdeclares]
  cases m.sql <;> rcases many with _ | _ | _ <;> simp

namespace Sample

/-- An interface that declares a list in one method and one product in another. -/
def products : InterfaceDeclaration where
  name := "ProductQuery"
  entity := some "Product"
  methods :=
    [{ name := "findAllByActive", returns := some "list[Product]" },
     { name := "findAllByName", returns := some "Product" }]

/-- What is made of the declaration. -/
def known : Interfaces :=
  (Interfaces.ofDeclarations library.catalogue [products] []).toOption.getD {}

/-- A query object of the interface. -/
def productQuery : QueryObject :=
  (known.createQuery library "ProductQuery" none).toOption.getD ⟨.root, productEntity⟩

theorem ofDeclarations_products :
    Interfaces.ofDeclarations library.catalogue [products] [] = .ok known := by
  obtain ⟨made, hmade⟩ := Except.exists_ok
    (r := Interfaces.ofDeclarations library.catalogue [products] []) (by decide +kernel)
  rw [known, hmade]
  rfl

theorem createQuery_products :
    known.createQuery library "ProductQuery" none = .ok productQuery := by
  obtain ⟨query, hquery⟩ := Except.exists_ok
    (r := known.createQuery library "ProductQuery" none) (by decide +kernel)
  rw [productQuery, hquery]
  rfl

end Sample

/-- A result that is a list. -/
def isList (r : Except Failure Value) : Bool :=
  match r with
  | .ok (.list _) => true
  | _ => false

end EntityMap
