import EntityMap.Schema.Definition
import EntityMap.Storage.Connection

/-!
# Creating tables

`createTable` creates the table of an entity unless the database has it already.
-/

namespace EntityMap

/-- Creates an entity's table and gives its definition. -/
def createTable {δ : Type} [Database δ] (x : Library) (e : Entity) : Op δ TableDefinition := do
  let definition ← Op.describing (x.catalogue.defineTable e)
  let _ ← writing x.management fun k => k.execute (.createTable definition) []
  return definition

end EntityMap
