import EntityMap.Schema.Declaration

/-!
# A sample catalogue

Production lines and the products that are made on them. The command line shows the tables and
statements of this catalogue.
-/

namespace EntityMap.Sample

/-- A column whose name is that of its field. -/
def column (name typeText : String) (spec : ColumnSpec) : FieldDeclaration :=
  ⟨name, typeText, .column { spec with name }⟩

/-- A key that the database counts up. -/
def key : FieldDeclaration :=
  column "id" "int" { primaryKey := true, autoIncrement := true }

/-- A production line. -/
def line : ClassDeclaration where
  name := "Line"
  table := some "lines"
  fields := [key, column "name" "str" { nullable := some false, unique := true }]

/-- A product, made on a line. -/
def product : ClassDeclaration where
  name := "Product"
  table := some "products"
  fields :=
    [key, column "name" "str" { nullable := some false, unique := true },
     column "active" "bool" { defaultValue := some "true", initial := .bool true },
     column "date_creation" "datetime" {},
     ⟨"line", "Line", .join { target := "line", related := "Line", source := "id" }⟩]

/-- The sample catalogue. -/
def catalogue : Except DeclarationError Catalogue :=
  Catalogue.ofDeclarations [line, product] []

end EntityMap.Sample
