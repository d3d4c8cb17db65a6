import EntityMap.Method.Token

/-!
# Queries named by methods

The grammar of method names is

    save
    findAll [OrderBy Field [Asc|Desc]]
    findAllBy Predicate [OrderBy Field [Asc|Desc]]
    findBy Predicate [OrderBy Field [Asc|Desc]]
    existsBy Predicate
    deleteBy Predicate
    updateBy Predicate
    update Field (And Field)* By Predicate

where a predicate is a list of fields joined by `And` and `Or`, and a field is one or more words
or `All`. `Query.ofName?` reads a name word by word: `Progress.next?` says which words may come
next and `Progress.query?` whether the name may end here. A word that may not come next is
blamed with the words before it (`SyntaxError`).
-/

namespace EntityMap.Method

/-! ## Queries -/

/-- What a query does. -/
inductive Verb
  | save | find | findAll | exist | delete | update
  deriving DecidableEq, Repr

/-- The verb as it opens a method name. -/
def Verb.word : Verb → String
  | .save => "save"
  | .find => "find"
  | .findAll => "findAll"
  | .exist => "exists"
  | .delete => "delete"
  | .update => "update"

/-- The verbs whose rows come in an order that the name may state. -/
def Verb.isFind : Verb → Bool
  | .find | .findAll => true
  | _ => false

/-- How two comparisons are joined. -/
inductive Connector
  | and | or
  deriving DecidableEq, Repr

/-- The word of SQL for a connector. -/
def Connector.word : Connector → String
  | .and => "AND"
  | .or => "OR"

/-- The direction of an order. -/
inductive Direction
  | asc | desc
  deriving DecidableEq, Repr

/-- The word of SQL for a direction. -/
def Direction.word : Direction → String
  | .asc => "ASC"
  | .desc => "DESC"

/-- The meaning of a method name. There is one connector fewer than there are terms. -/
structure Query where
  name : String
  verb : Verb
  terms : List String
  connectors : List Connector
  orderField : Option String
  direction : Direction
  setFields : List String
  deriving DecidableEq, Repr

/-- The name compares at least one field. -/
def Query.hasPredicate (q : Query) : Bool :=
  !q.terms.isEmpty

/-! ## Reading -/

/-- What is known of a query while its name is read. -/
structure Draft where
  verb : Verb
  setFields : List String := []
  terms : List String := []
  connectors : List Connector := []
  deriving DecidableEq, Repr

/-- The draft with one more term. -/
def Draft.addTerm (d : Draft) (term : String) : Draft :=
  { d with terms := d.terms ++ [term] }

/-- The draft with one more connector. -/
def Draft.addConnector (d : Draft) (c : Connector) : Draft :=
  { d with connectors := d.connectors ++ [c] }

/-- The finished query. -/
def Draft.toQuery (d : Draft) (name : String) (orderField : Option String)
    (direction : Direction) : Query :=
  { name, verb := d.verb, terms := d.terms, connectors := d.connectors, orderField, direction,
    setFields := d.setFields }

/-- How much of a method name is read. -/
inductive Progress
  /-- Nothing. -/
  | start
  /-- `save`. -/
  | saved
  /-- `find`. -/
  | found
  /-- `findAll`. -/
  | foundAll
  /-- A verb that only `By` can follow. -/
  | verb (v : Verb)
  /-- `update`. -/
  | updating
  /-- The fields `done` to set, and a part of one more. -/
  | setField (done : List String) (part : String)
  /-- The fields `done` to set, and `And`. -/
  | setNext (done : List String)
  /-- A `By` or a connector that a term must follow. -/
  | termNext (d : Draft)
  /-- A part of a term. -/
  | term (d : Draft) (part : String)
  /-- `Order`. -/
  | order (d : Draft)
  /-- `OrderBy`. -/
  | orderBy (d : Draft)
  /-- A part of the field to order by. -/
  | orderField (d : Draft) (part : String)
  /-- The direction of the order. -/
  | directed (d : Draft) (field : String) (direction : Direction)
  deriving DecidableEq, Repr

/-- The first word of a field, its first letter made small. -/
def fieldStart (word : String) : String :=
  match word.toList with
  | [] => word
  | c :: cs => String.ofList (c.toLower :: cs)

/-- What is read after one more word, if that word may come next. -/
def Progress.next? (t : Token) : Progress → Option Progress
  | .start =>
    match t.kind with
    | .save => some .saved
    | .find => some .found
    | .exist => some (.verb .exist)
    | .delete => some (.verb .delete)
    | .update => some .updating
    | _ => none
  | .saved => none
  | .found =>
    match t.kind with
    | .all => some .foundAll
    | .by_ => some (.termNext { verb := .find })
    | _ => none
  | .foundAll =>
    match t.kind with
    | .by_ => some (.termNext { verb := .findAll })
    | .order => some (.order { verb := .findAll })
    | _ => none
  | .verb v =>
    match t.kind with
    | .by_ => some (.termNext { verb := v })
    | _ => none
  | .updating =>
    match t.kind with
    | .by_ => some (.termNext { verb := .update })
    | .word | .all => some (.setField [] (fieldStart t.text))
    | _ => none
  | .setField done part =>
    match t.kind with
    | .word | .all => some (.setField done (part ++ t.text))
    | .and => some (.setNext (done ++ [part]))
    | .by_ => some (.termNext { verb := .update, setFields := done ++ [part] })
    | _ => none
  | .setNext done =>
    match t.kind with
    | .word | .all => some (.setField done (fieldStart t.text))
    | _ => none
  | .termNext d =>
    match t.kind with
    | .word | .all => some (.term d (fieldStart t.text))
    | _ => none
  | .term d part =>
    match t.kind with
    | .word | .all => some (.term d (part ++ t.text))
    | .and => some (.termNext ((d.addTerm part).addConnector .and))
    | .or => some (.termNext ((d.addTerm part).addConnector .or))
    | .order => if d.verb.isFind then some (.order (d.addTerm part)) else none
    | _ => none
  | .order d =>
    match t.kind with
    | .by_ => some (.orderBy d)
    | _ => none
  | .orderBy d =>
    match t.kind with
    | .word | .all => some (.orderField d (fieldStart t.text))
    | _ => none
  | .orderField d part =>
    match t.kind with
    | .word | .all => some (.orderField d (part ++ t.text))
    | .asc => some (.directed d part .asc)
    | .desc => some (.directed d part .desc)
    | _ => none
  | .directed .. => none

/-- The query of a name that ends here, if it may. -/
def Progress.query? (name : String) : Progress → Option Query
  | .saved => some (Draft.toQuery { verb := .save } name none .asc)
  | .foundAll => some (Draft.toQuery { verb := .findAll } name none .asc)
  | .term d part => some ((d.addTerm part).toQuery name none .asc)
  | .orderField d part => some (d.toQuery name (some part) .asc)
  | .directed d field direction => some (d.toQuery name (some field) direction)
  | _ => none

/-! ## Blame -/

/-- Why a text is no method name. -/
inductive SyntaxError
  | illegalCharacter (c : Char) (position : Nat)
  | unrecognizedVerb (name : String)
  | orderWithoutField (name : String)
  | missingPredicate (name : String)
  | danglingConnector (word name : String)
  | unexpectedEnd (name : String)
  | unexpectedWord (word : String) (position : Nat) (name : String)
  deriving DecidableEq, Repr

/-- The error as it is reported. -/
def SyntaxError.message : SyntaxError → String
  | .illegalCharacter c position =>
    "Illegal character '" ++ c.toString ++ "' at position " ++ toString position
      ++ " in method name"
  | .unrecognizedVerb name => "Unrecognized verb in method name '" ++ name ++ "'"
  | .orderWithoutField name => "OrderBy in method '" ++ name ++ "' has no following field"
  | .missingPredicate name => "Method '" ++ name ++ "' requires at least one predicate field"
  | .danglingConnector word name =>
    "Connector '" ++ word ++ "' at end of method '" ++ name ++ "' has no following field"
  | .unexpectedEnd name => "Unexpected end of method name '" ++ name ++ "'"
  | .unexpectedWord word position name =>
    "Unexpected '" ++ word ++ "' at position " ++ toString position ++ " in method '" ++ name
      ++ "'"

/-- The error for a word that may not follow the words `before` (nearest first). -/
def blameWord (name : String) (before : List Token) (t : Token) : SyntaxError :=
  match before, t.kind with
  | ⟨.by_, _, _⟩ :: _, .order | ⟨.by_, _, _⟩ :: _, .and | ⟨.by_, _, _⟩ :: _, .or =>
    .missingPredicate name
  | _, _ => .unexpectedWord t.text t.position name

/-- The error for a name that ends after the words `before` (nearest first). -/
def blameEnd (name : String) : List Token → SyntaxError
  | ⟨.by_, _, _⟩ :: ⟨.order, _, _⟩ :: _ => .orderWithoutField name
  | ⟨.by_, _, _⟩ :: _ => .missingPredicate name
  | ⟨.and, word, _⟩ :: _ | ⟨.or, word, _⟩ :: _ => .danglingConnector word name
  | _ => .unexpectedEnd name

/-- Reads the rest of a name after the words `before` (nearest first). -/
def readFrom (name : String) (before : List Token) (p : Progress) :
    List Token → Except SyntaxError Query
  | [] =>
    match p.query? name with
    | some q => .ok q
    | none => .error (blameEnd name before)
  | t :: ts =>
    match p.next? t with
    | some p' => readFrom name (t :: before) p' ts
    | none => .error (blameWord name before t)

/-- The query that a method name means. -/
def Query.ofName? (name : String) : Except SyntaxError Query :=
  match tokenize name with
  | .error (c, position) => .error (.illegalCharacter c position)
  | .ok [] => .error (.unrecognizedVerb name)
  | .ok (t :: ts) =>
    if t.kind.isVerb then readFrom name [] .start (t :: ts) else .error (.unrecognizedVerb name)

/-- The text is a method name of the grammar. -/
def followsGrammar (name : String) : Bool :=
  (Query.ofName? name).isOk

end EntityMap.Method
