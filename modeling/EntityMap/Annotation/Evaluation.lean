import EntityMap.Annotation.Member
import EntityMap.Annotation.Operation

/-!
# Evaluating expressions

`Scope.evaluate` gives the meaning of an expression among the names of a scope. Operands are
evaluated from left to right and the first fault counts; what a condition does not need is not
evaluated. Inside functions and comprehensions a scope may know fewer names than outside
(`Scope.enter`).
-/

namespace EntityMap.Annotation

open Number

/-- The names that an annotation may use. -/
structure Scope where
  /-- What a name means. -/
  find? : String → Option Meaning
  /-- What a name means inside a function or a comprehension. -/
  inner? : String → Option Meaning
  /-- What a declared class holds under a name. -/
  held? : String → String → Option Meaning

/-- The scope inside a function or a comprehension that gives names a meaning of its own. -/
def Scope.enter (s : Scope) (names : List (String × Meaning)) : Scope :=
  let find (name : String) : Option Meaning := (names.lookup name).or (s.inner? name)
  { s with find? := find, inner? := find }

namespace Meaning

/-! ## Calls -/

/-- The integer that a number or a text gives. -/
def toInteger (m : Meaning) : Except AnnotationError Meaning :=
  match m, m.integer? with
  | _, some i => .ok (int i)
  | value (.real x), _ =>
    match x with
    | .nan => .error .unusable
    | .infinite _ => .error .tooLarge
    | _ => .ok (int (truncate x.toRat))
  | value (.text s), _ =>
    match intOfText? s with
    | some i => .ok (int i)
    | none => .error .unusable
  | _, _ => .error .meaningless

/-- The real number that a number or a text gives. -/
def toReal (m : Meaning) : Except AnnotationError Meaning :=
  match m, m.real? with
  | _, some x => .ok (value (.real x))
  | value (.text s), _ =>
    match realOfText? s with
    | some x => .ok (value (.real x))
    | none => .error .unusable
  | _, _ => .error .meaningless

/-- The empty value of a class. -/
def emptyOf (className : String) : Except AnnotationError Meaning :=
  match className with
  | "int" => .ok (int 0)
  | "str" => .ok (text "")
  | "bool" => .ok (bool false)
  | "float" => .ok (value (.real (.ofInt 0)))
  | "bytes" => .ok (value (.bytes []))
  | "bytearray" => .ok (value (.buffer []))
  | "list" => .ok (list [])
  | "tuple" => .ok (tuple [])
  | "set" => .ok (set false [])
  | "frozenset" => .ok (set true [])
  | "dict" => .ok (mapping [])
  | "complex" => .ok (complex ⟨.zero false, .zero false⟩)
  | "object" => .ok (value .plain)
  | _ => .error .meaningless

/-- The value of a class that is made of another. -/
def convertedTo (className : String) (m : Meaning) : Except AnnotationError Meaning :=
  match className with
  | "type" => .ok m.classOf
  | "int" => m.toInteger
  | "str" => .ok (text m.display)
  | "bool" => .ok (bool m.isTrue)
  | "float" => m.toReal
  | "list" => do return list (← m.elements)
  | "tuple" => do return tuple (← m.elements)
  | "set" => do setOf false (← m.elements)
  | "frozenset" => do setOf true (← m.elements)
  | _ => .error .meaningless

/-- The text that an error shows for what it was made of. -/
def errorText (className : String) (args : List Meaning) : String :=
  match args with
  | [] => ""
  | [a] => if className = "KeyError" then a.literal else a.display
  | [a, b] =>
    if className ∈ systemErrors then "[Errno " ++ a.display ++ "] " ++ b.display
    else (tuple args).literal
  | _ => (tuple args).literal

/-- An error of a class. Some are made of given parts only. -/
def errorOf (className : String) (args : List Meaning) : Except AnnotationError Meaning :=
  if className ∈ ["UnicodeDecodeError", "UnicodeEncodeError", "UnicodeTranslateError",
      "BaseExceptionGroup", "ExceptionGroup"] then .error .meaningless
  else .ok (object (errorText className args))

/-- The meaning may be called. -/
def isCallable : Meaning → Bool
  | known _ | declared _ | form _ | listForm | generic .. | listOf _ | alternatives false _
  | unpacked _ => true
  | object shown => shown ∈ functionNames
  | _ => false

/-- The value of a call of a class. -/
def callClass (className : String) (args : List Meaning) : Except AnnotationError Meaning :=
  if className ∈ errorClasses then errorOf className args
  else match args with
    | [] => emptyOf className
    | [a] => convertedTo className a
    | _ => .error .meaningless

/-- The value of a call. -/
def call (m : Meaning) (args : List Meaning) : Except AnnotationError Meaning :=
  match m, args with
  | known className, _ | generic className _ _, _ => callClass className args
  | declared className, [] => .ok (entity className)
  | object "len", [a] => do return int (← a.elements).length
  | object "repr", [a] => .ok (text a.literal)
  | object "print", _ => .ok null
  | object "callable", [a] => .ok (bool a.isCallable)
  | _, _ => .error .meaningless

/-! ## Texts -/

/-- The text that a formatted text shows for a meaning. Only numbers and texts can be laid out. -/
def formatted (m : Meaning) (conversion : Option Char) (layout : String) :
    Except AnnotationError String :=
  match conversion with
  | some 's' => .ok m.display
  | some _ => .ok m.literal
  | none =>
    match layout, m with
    | "", _ | _, value (.text _) => .ok m.display
    | _, _ => if m.real?.isSome then .ok m.display else .error .meaningless

end Meaning

/-! ## Targets -/

/-- The names of a clause's targets with their parts of a value. -/
def bindTarget : Nat → Expr → Meaning → Except AnnotationError (List (String × Meaning))
  | 0, _, _ => .error .tooDeep
  | n + 1, target, m =>
    match target with
    | .name s => .ok [(s, m)]
    | .tuple ts | .list ts => do
      let ms ← m.elements
      match ts.findIdx? isSpread with
      | none =>
        if ts.length = ms.length then
          return (← (ts.zip ms).mapM fun p => bindTarget n p.1 p.2).flatten
        else throw .unusable
      | some i =>
        if ms.length + 1 < ts.length then throw .unusable
        else
          let rest := ms.length + 1 - ts.length
          let parts := ms.take i ++ Meaning.list ((ms.drop i).take rest) :: ms.drop (i + rest)
          return (← (ts.zip parts).mapM fun p => bindTarget n p.1 p.2).flatten
    | .spread t => bindTarget n t m
    | _ => .error .meaningless

/-! ## Expressions -/

section

variable (evaluate : Scope → Expr → Except AnnotationError Meaning)

/-- The elements that an expression among others stands for. -/
def elementsOf (s : Scope) : Expr → Except AnnotationError (List Meaning)
  | .spread e => do (← evaluate s e).elements
  | e => do return [← evaluate s e]

/-- The elements that expressions stand for. -/
def allElements (s : Scope) (es : List Expr) : Except AnnotationError (List Meaning) := do
  return (← es.mapM (elementsOf evaluate s)).flatten

/-- The entries that an expression in a mapping stands for. -/
def entriesOf (s : Scope) : Expr → Except AnnotationError (List (Meaning × Meaning))
  | .entry k v => do return [(← evaluate s k, ← evaluate s v)]
  | .spreadEntries e => do
    match ← evaluate s e with
    | .mapping es => return es
    | _ => throw .meaningless
  | _ => .error .meaningless

/-- The mapping of entries, whose keys must be able to be keys. -/
def mappingOf (es : List (Meaning × Meaning)) : Except AnnotationError Meaning :=
  if es.all fun e => e.1.isKey then
    .ok (.mapping (es.foldl (fun known e => Meaning.insertEntry e.1 e.2 known) []))
  else .error .meaningless

/-- The value of comparisons with a value; those after one that does not hold are not made. -/
def compareAll (s : Scope) (first : Meaning) :
    List (Comparison × Expr) → Except AnnotationError Meaning
  | [] => .ok first
  | [(c, e)] => do return .bool (← first.applyComparison c (← evaluate s e))
  | (c, e) :: others => do
    let m ← evaluate s e
    if ← first.applyComparison c m then compareAll s m others else return .bool false

/-- All conditions count as true; those after one that does not are not evaluated. -/
def allTrue (s : Scope) : List Expr → Except AnnotationError Bool
  | [] => .ok true
  | e :: es => do if (← evaluate s e).isTrue then allTrue s es else return false

/-- What is produced for all values of the targets of clauses. The source of the first clause is
evaluated outside. -/
def collectAll (s : Scope) (produce : Scope → Except AnnotationError (List (Meaning × Meaning))) :
    Bool → List (String × Meaning) → List Expr →
      Except AnnotationError (List (Meaning × Meaning))
  | _, names, [] => produce (s.enter names)
  | isFirst, names, .clause target source conditions :: clauses => do
    let items ← (← evaluate (if isFirst then s else s.enter names) source).elements
    let results ← items.mapM fun m => do
      let names := (← bindTarget (maxOpenBrackets + 2) target m) ++ names
      if ← allTrue evaluate (s.enter names) conditions then
        collectAll s produce false names clauses
      else return []
    return results.flatten
  | _, _, _ :: _ => .error .meaningless

/-- The value of a comprehension. The elements of a generator are not evaluated. -/
def comprehension (s : Scope) (kind : Collection) (element : Expr) (clauses : List Expr) :
    Except AnnotationError Meaning := do
  let single (t : Scope) : Except AnnotationError (List (Meaning × Meaning)) := do
    return [(← evaluate t element, Meaning.null)]
  match kind with
  | .list => return .list ((← collectAll evaluate s single true [] clauses).map (·.1))
  | .set => Meaning.setOf false ((← collectAll evaluate s single true [] clauses).map (·.1))
  | .mapping =>
    mappingOf (← collectAll evaluate s (fun t => entriesOf evaluate t element) true [] clauses)
  | .generator =>
    match clauses with
    | .clause _ source _ :: _ => do
      let _ ← (← evaluate s source).elements
      return .object "<genexpr>"
    | _ => throw .meaningless

/-- The values that parameters have of their own. -/
def initialValues (s : Scope) (parameters : List (String × Option Expr)) :
    Except AnnotationError (List (String × Meaning)) :=
  parameters.foldlM (fun known p =>
    match p.2 with
    | some e => do return known ++ [(p.1, ← evaluate s e)]
    | none => .ok known) []

/-- Gives parameters their arguments by place, and the others the values of their own. -/
def bindParameters (parameters : List String) (initial : List (String × Meaning))
    (args : List Meaning) : Except AnnotationError (List (String × Meaning)) :=
  let names := parameters.zip args ++ initial
  if parameters.length < args.length || parameters.any fun p => (names.lookup p).isNone then
    .error .meaningless
  else .ok names

/-- The value of a call. A function that is called where it stands is entered. -/
def callValue (s : Scope) (callee : Expr) (args : List Expr) : Except AnnotationError Meaning := do
  match callee with
  | .function parameters true body =>
    let initial ← initialValues evaluate s parameters
    let ms ← allElements evaluate s args
    evaluate (s.enter (← bindParameters (parameters.map (·.1)) initial ms)) body
  | _ =>
    let m ← evaluate s callee
    m.call (← allElements evaluate s args)

/-- The meaning of an expression, given those of its parts. -/
def evaluateWith (s : Scope) : Expr → Except AnnotationError Meaning
  | .constant v => .ok (.value v)
  | .imaginary x => .ok (.complex ⟨.zero false, x⟩)
  | .ellipsis => .ok .ellipsis
  | .name x =>
    match s.find? x with
    | some m => .ok m
    | none => .error (.undefined x)
  | .formatted parts => do
    return .text (String.join ((← parts.mapM (evaluate s)).map (·.display)))
  | .shown e conversion layout => do
    return .text (← (← evaluate s e).formatted conversion layout)
  | .tuple es => do return .tuple (← allElements evaluate s es)
  | .list es => do return .list (← allElements evaluate s es)
  | .set es => do Meaning.setOf false (← allElements evaluate s es)
  | .mapping es => do mappingOf (← es.mapM (entriesOf evaluate s)).flatten
  | .unary op e => do Meaning.applyUnary op (← evaluate s e)
  | .binary op a b => do
    let x ← evaluate s a
    x.applyBinary op (← evaluate s b)
  | .both a b => do
    let x ← evaluate s a
    if x.isTrue then evaluate s b else return x
  | .either a b => do
    let x ← evaluate s a
    if x.isTrue then return x else evaluate s b
  | .compare first others => do compareAll evaluate s (← evaluate s first) others
  | .choice condition whenTrue whenFalse => do
    if (← evaluate s condition).isTrue then evaluate s whenTrue else evaluate s whenFalse
  | .member e name => do (← evaluate s e).member s.held? name
  | .item e index => do
    let m ← evaluate s e
    m.item (← evaluate s index)
  | .slice start stop step => do
    let part : Option Expr → Except AnnotationError Meaning
      | some e => evaluate s e
      | none => .ok .null
    return .slice (← part start) (← part stop) (← part step)
  | .call callee args => callValue evaluate s callee args
  | .function parameters _ _ => do
    let _ ← initialValues evaluate s parameters
    return .object "<lambda>"
  | .comprehension kind element clauses => comprehension evaluate s kind element clauses
  | .bound _ e => evaluate s e
  | .given _ e | .spreadEntries e => do
    let _ ← evaluate s e
    throw .meaningless
  | .spread _ | .entry .. | .clause .. => .error .meaningless

end

/-- The meaning of an expression whose parts are nested to a depth below `fuel`. -/
def Scope.evaluate : Nat → Scope → Expr → Except AnnotationError Meaning
  | 0, _, _ => .error .tooDeep
  | fuel + 1, s, e => evaluateWith (Scope.evaluate fuel) s e

end EntityMap.Annotation
