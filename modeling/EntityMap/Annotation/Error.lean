/-!
# Faults of annotations

`AnnotationError` lists why an annotation has no meaning.
-/

namespace EntityMap

/-- Why an annotation has no meaning. -/
inductive AnnotationError
  /-- A text that is no expression. -/
  | unreadable
  /-- The empty text. -/
  | empty
  /-- A text with the character of number zero in it. -/
  | nullCharacter
  /-- A name that is not defined. -/
  | undefined (name : String)
  /-- Values put together in a way that has no meaning. -/
  | meaningless
  /-- A value that does not have what is asked of it by name. -/
  | noAttribute (name : String)
  /-- A place beyond the end of a sequence. -/
  | noPlace
  /-- A key that a mapping does not have. -/
  | noKey
  | divisionByZero
  /-- A number beyond the greatest of its kind. -/
  | tooLarge
  /-- A value of the right kind that cannot be used. -/
  | unusable
  /-- Annotations that refer to one another too deeply. -/
  | tooDeep
  deriving DecidableEq, Repr

end EntityMap
