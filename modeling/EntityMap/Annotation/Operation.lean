import EntityMap.Annotation.Alternatives
import EntityMap.Annotation.Display

/-!
# Operations on meanings

What the operators of an expression give. Integers are exact, and a real number takes part with the
nearest number of the format. Texts, bytes and sequences are joined and repeated, sets are compared
member by member, and indices count from either end (`position?`).
-/

namespace EntityMap.Annotation

open Number

namespace Meaning

/-! ## Numbers -/

/-- The real number that a number is. -/
def real? : Meaning → Option Binary64
  | value (.real x) => some x
  | m => m.integer?.map Binary64.ofInt

/-- The most bits of an integer that is computed. -/
def maxBits : Nat := 100000

/-- An integer, unless it is too long. -/
def boundedInt (bits : Nat) (i : Unit → Int) : Except AnnotationError Meaning :=
  if maxBits < bits then .error .unusable else .ok (int (i ()))

/-- The complex number that a number is. -/
def complex? : Meaning → Option ComplexNumber
  | complex z => some z
  | m => m.real?.map ComplexNumber.ofReal

/-- A quotient of real numbers that goes no further than the integer below it. -/
def floorQuotient (x y : Binary64) : Rat := ((x.toRat / y.toRat).floor : Int)

/-- A power of a rational with an integer exponent. -/
def ratPower (q : Rat) (n : Int) : Rat :=
  if 0 ≤ n then q ^ n.toNat else 1 / q ^ (-n).toNat

/-- A real number, unless it is beyond the greatest. -/
def finiteReal (q : Rat) : Except AnnotationError Meaning :=
  match Binary64.ofRat q with
  | .infinite _ => .error .tooLarge
  | x => .ok (value (.real x))

/-- An operation on two integers. -/
def onIntegers (op : BinaryOp) (x y : Int) : Except AnnotationError Meaning :=
  match op with
  | .add => .ok (int (x + y))
  | .subtract => .ok (int (x - y))
  | .multiply => .ok (int (x * y))
  | .shiftLeft =>
    if y < 0 then .error .unusable
    else boundedInt (if x = 0 then 0 else y.toNat) fun _ => x * Int.pow 2 y.toNat
  | .shiftRight =>
    if y < 0 then .error .unusable
    else .ok (int (if x.natAbs.log2 < y.toNat then (if x < 0 then -1 else 0)
      else x.fdiv (Int.pow 2 y.toNat)))
  | .divide =>
    if y = 0 then .error .divisionByZero
    else match Binary64.ofQuotient? (if y < 0 then -x else x) y.natAbs with
      | some q => .ok (value (.real q))
      | none => .error .tooLarge
  | .floorDivide => if y = 0 then .error .divisionByZero else .ok (int (x.fdiv y))
  | .remainder => if y = 0 then .error .divisionByZero else .ok (int (x.fmod y))
  | .power =>
    if 0 ≤ y then boundedInt (x.natAbs.log2 * y.toNat) fun _ => Int.pow x y.toNat
    else if x = 0 then .error .divisionByZero
    else finiteReal (ratPower x y)
  | _ => .error .meaningless

/-- An operation on two real numbers. -/
def onReals (op : BinaryOp) (x y : Binary64) : Except AnnotationError Meaning :=
  let result (q : Unit → Rat) : Except AnnotationError Meaning :=
    if x.isFinite && y.isFinite then .ok (value (.real (Binary64.ofRat (q ()))))
    else .ok (value (.real .nan))
  match op with
  | .add => .ok (value (.real (x.plus y)))
  | .subtract => .ok (value (.real (x.minus y)))
  | .multiply => .ok (value (.real (x.times y)))
  | .divide => if y.isZero then .error .divisionByZero else .ok (value (.real (x.dividedBy y)))
  | .floorDivide =>
    if y.isZero then .error .divisionByZero else result fun _ => floorQuotient x y
  | .remainder =>
    if y.isZero then .error .divisionByZero
    else result fun _ => x.toRat - y.toRat * floorQuotient x y
  | .power =>
    if y.toRat.den = 1 ∧ y.toRat.num.natAbs ≤ 2000 ∧ x.isFinite then
      if x.toRat = 0 ∧ y.toRat < 0 then .error .divisionByZero
      else finiteReal (ratPower x.toRat y.toRat.num)
    else .error .meaningless
  | _ => .error .meaningless

/-- An operation on two complex numbers. -/
def onComplexes (op : BinaryOp) (z w : ComplexNumber) : Except AnnotationError Meaning :=
  match op with
  | .add => .ok (complex (z.plus w))
  | .subtract => .ok (complex (z.minus w))
  | .multiply => .ok (complex (z.times w))
  | .divide => if w.isZero then .error .divisionByZero else .ok (complex (z.dividedBy w))
  | _ => .error .meaningless

/-! ## Sequences -/

/-- So many copies, one after another; none for a negative count. -/
def repeated {α : Type} (count : Int) (xs : List α) : List α :=
  (List.replicate count.toNat xs).flatten

/-- A sequence, repeated. -/
def repeatSequence (m : Meaning) (count : Int) : Except AnnotationError Meaning :=
  let size := match m with
    | value (.text s) => s.length
    | value (.bytes bs) => bs.length
    | tuple ms | list ms => ms.length
    | _ => 0
  if maxBits < size * count.toNat then .error .unusable
  else match m with
    | value (.text s) => .ok (text (String.ofList (repeated count s.toList)))
    | value (.bytes bs) => .ok (value (.bytes (repeated count bs)))
    | tuple ms => .ok (tuple (repeated count ms))
    | list ms => .ok (list (repeated count ms))
    | _ => .error .meaningless

/-- An operation on texts, bytes, sequences and sets. -/
def onParts (op : BinaryOp) (a b : Meaning) : Except AnnotationError Meaning :=
  match op, a, b with
  | .add, value (.text s), value (.text t) => .ok (text (s ++ t))
  | .add, value (.bytes s), value (.bytes t) => .ok (value (.bytes (s ++ t)))
  | .add, tuple ms, tuple ns => .ok (tuple (ms ++ ns))
  | .add, list ms, list ns => .ok (list (ms ++ ns))
  | .multiply, _, _ =>
    match a.integer?, b.integer? with
    | none, some n => repeatSequence a n
    | some n, none => repeatSequence b n
    | _, _ => .error .meaningless
  | .ampersand, set isFrozen ms, set _ ns => .ok (set isFrozen (ms.filter fun m => among ns m))
  | .subtract, set isFrozen ms, set _ ns => .ok (set isFrozen (ms.filter fun m => !among ns m))
  | .caret, set isFrozen ms, set _ ns =>
    .ok (set isFrozen
      ((ms.filter fun m => !among ns m) ++ ns.filter fun n => !among ms n))
  | _, _, _ => .error .meaningless

/-- The value of an operator between two operands. -/
def applyBinary (op : BinaryOp) (a b : Meaning) : Except AnnotationError Meaning :=
  let isBits := op = .ampersand ∨ op = .caret
  match op with
  | .bar => bar a b
  | .matrixMultiply => .error .meaningless
  | _ =>
    match a.integer?, b.integer? with
    | some x, some y =>
      if isBits then
        if op = .ampersand then bits and (bitwise (· &&& ·)) a b
        else bits xor (bitwise (· ^^^ ·)) a b
      else onIntegers op x y
    | _, _ =>
      match a.real?, b.real? with
      | some x, some y => onReals op x y
      | _, _ =>
        match a.complex?, b.complex? with
        | some z, some w => onComplexes op z w
        | _, _ => onParts op a b

/-- The value of an operator before an operand. -/
def applyUnary (op : UnaryOp) (m : Meaning) : Except AnnotationError Meaning :=
  match op, m, m.integer? with
  | .not, _, _ => .ok (bool (!m.isTrue))
  | .negate, _, some i => .ok (int (-i))
  | .keep, _, some i => .ok (int i)
  | .invert, _, some i => .ok (int (-i - 1))
  | .negate, value (.real x), _ => .ok (value (.real x.negated))
  | .keep, value (.real x), _ => .ok (value (.real x))
  | .negate, complex z, _ => .ok (complex z.negated)
  | .keep, complex z, _ => .ok (complex z)
  | _, _, _ => .error .meaningless

/-! ## Comparisons -/

/-- The order of two numbers, texts or bytes; `none` inside if neither is greater nor are they
equal. -/
def order (a b : Meaning) : Except AnnotationError (Option Ordering) :=
  match a, b with
  | value (.text s), value (.text t) => .ok (some (compare s t))
  | value (.bytes s), value (.bytes t) =>
    .ok (some (if s = t then .eq else if s < t then .lt else .gt))
  | value v, value w =>
    if v.isNumber && w.isNumber then .ok (v.compareNumbers? w) else .error .meaningless
  | _, _ => .error .meaningless

/-- The text stands somewhere in the other. -/
def isWithin (s : List Char) : List Char → Bool
  | [] => s.isEmpty
  | c :: cs => s.isPrefixOf (c :: cs) || isWithin s cs

/-- The meaning is a member of a container. -/
def isMember (m container : Meaning) : Except AnnotationError Bool :=
  match container with
  | value (.text t) =>
    match m with
    | value (.text s) => .ok (isWithin s.toList t.toList)
    | _ => .error .meaningless
  | mapping _ | set _ _ => do
    if m.isKey then return among (← container.elements) m else throw .meaningless
  | _ => do return among (← container.elements) m

/-- The value of a comparison. -/
def applyComparison (c : Comparison) (a b : Meaning) : Except AnnotationError Bool :=
  match c with
  | .equal => .ok (a.same b)
  | .unequal => .ok (!a.same b)
  | .same => .ok (a.isSameObject b)
  | .notSame => .ok (!a.isSameObject b)
  | .member => a.isMember b
  | .notMember => (a.isMember b).map (!·)
  | .less => (a.order b).map (· == some .lt)
  | .greater => (a.order b).map (· == some .gt)
  | .lessOrEqual => (a.order b).map fun o => o == some .lt || o == some .eq
  | .greaterOrEqual => (a.order b).map fun o => o == some .gt || o == some .eq

/-! ## Indices -/

/-- The place of an index in a sequence; a negative one counts from the end. -/
def position? (size : Nat) (i : Int) : Option Nat :=
  let p := if i < 0 then i + size else i
  if 0 ≤ p ∧ p < size then some p.toNat else none

/-- An end of a range, or its default. -/
def rangeEnd (m : Meaning) (default : Int) : Except AnnotationError Int :=
  match m, m.integer? with
  | value .null, _ => .ok default
  | _, some i => .ok i
  | _, none => .error .meaningless

/-- An end of a range as a place between `low` and `high`. -/
def clamp (size low high i : Int) : Int :=
  max low (min high (if i < 0 then i + size else i))

/-- The places from one up to another, in steps. -/
def placesFrom (step stop : Int) : Nat → Int → List Nat
  | 0, _ => []
  | fuel + 1, i =>
    if (0 < step ∧ i < stop) ∨ (step < 0 ∧ stop < i) then
      i.toNat :: placesFrom step stop fuel (i + step)
    else []

/-- The places that a range of indices means. -/
def places (size : Nat) (start stop step : Meaning) : Except AnnotationError (List Nat) := do
  let step ← step.rangeEnd 1
  if step = 0 then throw .unusable
  else
    let (low, high) := if 0 < step then (0, (size : Int)) else (-1, (size : Int) - 1)
    let place (m : Meaning) (default : Int) : Except AnnotationError Int :=
      match m with
      | value .null => .ok default
      | _ => do return clamp size low high (← m.rangeEnd default)
    let first ← place start (if 0 < step then low else high)
    let last ← place stop (if 0 < step then high else low)
    return placesFrom step last size first

/-- The elements at an index, which is a place or a range. -/
def selected {α : Type} (xs : List α) (index : Meaning) (one : α → Meaning)
    (several : List α → Meaning) : Except AnnotationError Meaning :=
  match index, index.integer? with
  | slice a b c, _ => do return several ((← places xs.length a b c).filterMap (xs[·]?))
  | _, some i =>
    match (position? xs.length i).bind (xs[·]?) with
    | some x => .ok (one x)
    | none => .error .noPlace
  | _, none => .error .meaningless

/-- What a meaning has at an index: an element, the value of a key, or the meaning with
arguments. -/
def item (m index : Meaning) : Except AnnotationError Meaning :=
  match m with
  | tuple ms => selected ms index id tuple
  | list ms => selected ms index id list
  | value (.text s) =>
    selected s.toList index (fun c => text (String.ofList [c])) (text <| String.ofList ·)
  | value (.bytes bs) =>
    selected bs index (fun b => int b.toNat) (value <| .bytes ·)
  | value (.buffer bs) =>
    selected bs index (fun b => int b.toNat) (value <| .buffer ·)
  | mapping es =>
    if !index.isKey then .error .meaningless
    else match es.find? fun e => e.1.same index with
      | some e => .ok e.2
      | none => .error .noKey
  | _ => m.withArguments index

end Meaning

end EntityMap.Annotation
