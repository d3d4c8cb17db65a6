import EntityMap.Storage.Connection

/-!
# Scripted databases

A `Script` answers statements from a list that is written beforehand. When the list is used up, a
statement that counts is answered with zero and any other with nothing. The next connections can
be made to fail.
-/

namespace EntityMap

/-- Answers written beforehand. -/
structure Script where
  replies : List (Except String Reply) := []
  /-- How many of the next connections fail. -/
  connectErrors : Nat := 0

namespace Script

/-- The text that begins a statement that counts. -/
def countStart : String := "SELECT COUNT(*)"

/-- The answer to a statement when the list is used up. -/
def fallback (s : Statement) : Reply :=
  if s.text.startsWith countStart then { columns := ["COUNT(*)"], rows := [[.int 0]] } else {}

/-- A connection, unless it is to fail. -/
def connect (d : Script) : Except String Unit × Script :=
  match d.connectErrors with
  | 0 => (.ok (), d)
  | n + 1 => (.error "unable to open database file", { d with connectErrors := n })

/-- The next answer. -/
def next (s : Statement) (d : Script) : Except StatementError Reply × Script :=
  match d.replies with
  | [] => (.ok (fallback s), d)
  | r :: rest => (r.mapError .refused, { d with replies := rest })

end Script

instance : Database Script where
  connect _ d := d.connect
  run _ s _ d := d.next s
  commit d := (.ok (), d)
  rollback d := d
  discard d := d

end EntityMap
