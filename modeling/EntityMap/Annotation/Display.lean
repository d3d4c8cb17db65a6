import EntityMap.Annotation.Meaning
import EntityMap.Value.Display

/-!
# Displays of meanings

`Meaning.literal` shows a meaning as a part of another, and `Meaning.display` as a message shows it.
Among alternatives and as an argument a class is shown by its name with the module it comes from
(`qualified`), and the class of the absent value by `None` between bars and by its own name
elsewhere. A message names a meaning that has a name (`Meaning.shortName`).
-/

namespace EntityMap.Annotation

open Number

/-- A class with the module that it comes from, unless every module has it. -/
def qualified (name : String) : String :=
  if name = "datetime" then "datetime.datetime"
  else if name ∈ importedCollections then "collections.abc." ++ name
  else name

namespace Meaning

/-- The text of a part of a complex number. -/
def partText (x : Binary64) : String :=
  let text := x.text
  if text.endsWith ".0" then (text.dropEnd 2).toString else text

/-- The text of a complex number; a real part that is zero is left out unless it is negative. -/
def complexText (z : ComplexNumber) : String :=
  if z.re = .zero false then partText z.im ++ "j"
  else
    let im := partText z.im
    "(" ++ partText z.re ++ (if im.startsWith "-" then im else "+" ++ im) ++ "j)"

/-- Elements in brackets. -/
def enclosed (opening : String) (texts : List String) (closing : String) : String :=
  opening ++ ", ".intercalate texts ++ closing

/-- How a class is shown as an argument or an alternative. -/
def classText? : Meaning → Option String
  | ellipsis => some "..."
  | known name => some (qualified name)
  | declared name => some (moduleName ++ "." ++ name)
  | _ => none

/-- A form with its members, given their texts: two members one of which is absence are optional. -/
def formText (ms : List Meaning) (texts : List String) : String :=
  if ms.length = 2 ∧ ms.any isAbsence then
    enclosed "typing.Optional["
      ((ms.zip texts).filterMap fun p => if p.1.isAbsence then none else some p.2) "]"
  else enclosed "typing.Union[" texts "]"

mutual

/-- The meaning as a part of another. -/
def literal : Meaning → String
  | value v => v.literal fun _ => ""
  | complex z => complexText z
  | ellipsis => "Ellipsis"
  | known name => "<class '" ++ qualified name ++ "'>"
  | declared name => "<class '" ++ moduleName ++ "." ++ name ++ "'>"
  | form name => "typing." ++ name
  | listForm => "typing.List"
  | generic origin ms isSpread =>
    (if isSpread then "*" else "")
      ++ enclosed (qualified origin ++ "[") (if ms.isEmpty then ["()"] else argumentTexts ms) "]"
  | listOf ms => enclosed "typing.List[" (argumentTexts ms) "]"
  | alternatives barred ms =>
    if barred then " | ".intercalate (barTexts ms) else formText ms (argumentTexts ms)
  | unpacked m => "*" ++ literal m
  | reference s => "ForwardRef(" ++ quotedText s ++ ")"
  | tuple ms => "(" ++ ", ".intercalate (literals ms) ++ (if ms.length = 1 then ",)" else ")")
  | list ms => enclosed "[" (literals ms) "]"
  | set isFrozen ms =>
    if ms.isEmpty then (if isFrozen then "frozenset()" else "set()")
    else enclosed (if isFrozen then "frozenset(\x7b" else "\x7b") (literals ms)
      (if isFrozen then "\x7d)" else "\x7d")
  | mapping es => enclosed "\x7b" (entryLiterals es) "\x7d"
  | slice a b c => enclosed "slice(" [literal a, literal b, literal c] ")"
  | entity className => className ++ "()"
  | object shown => shown

/-- The meanings as parts of another. -/
def literals : List Meaning → List String
  | [] => []
  | m :: ms => literal m :: literals ms

/-- The entries of a mapping. -/
def entryLiterals : List (Meaning × Meaning) → List String
  | [] => []
  | (k, v) :: es => (literal k ++ ": " ++ literal v) :: entryLiterals es

/-- The meanings as arguments of a class or a form. -/
def argumentTexts : List Meaning → List String
  | [] => []
  | m :: ms => (classText? m).getD (literal m) :: argumentTexts ms

/-- The meanings as alternatives between bars. -/
def barTexts : List Meaning → List String
  | [] => []
  | m :: ms =>
    (if m.isAbsence then "None" else (classText? m).getD (literal m)) :: barTexts ms

end

/-- The meaning as a text. -/
def display : Meaning → String
  | value v => v.display fun _ => ""
  | m => literal m

/-- The name of a meaning that has one. -/
def name? : Meaning → Option String
  | known name | declared name | form name | generic name _ _ => some name
  | listForm | listOf _ => some "List"
  | alternatives false [a, b] =>
    some (if a.isAbsence || b.isAbsence then "Optional" else "Union")
  | alternatives false _ => some "Union"
  | unpacked _ => some "Unpack"
  | object shown => some shown
  | _ => none

/-- The meaning as a message names it. -/
def shortName (m : Meaning) : String := m.name?.getD m.display

end Meaning

end EntityMap.Annotation
