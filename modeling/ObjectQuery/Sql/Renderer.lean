/-
From plans to statements' texts.

A plan is rendered with physical identifiers, with logical ones, or with logical ones that are then
renamed in the text. Values collected for binding are handed on also when the renaming fails.
-/
import ObjectQuery.Sql.Lowering
import ObjectQuery.Sql.Renaming
import ObjectQuery.Sql.Text

namespace ObjectQuery
namespace Sql

/-- What the text of a plan depends on besides the plan. -/
structure Renderer where
  resolver : Resolver
  kind : DatabaseKind
  identifierCase : IdentifierCase

/-- A text or an error, and the parameters as they are left behind. -/
abbrev Rendered : Type := Except Error String × Parameters

namespace Renderer

/-- The statement of a plan, with physical identifiers. -/
def lower (r : Renderer) (plan : Plan) : Except Error Select :=
  Sql.lower r.resolver (.physical r.identifierCase) plan

def lowerLogical (r : Renderer) (plan : Plan) : Except Error Select :=
  Sql.lower r.resolver .logical plan

def writeLowered (r : Renderer) (parameters : Parameters) : Except Error Select → Rendered
  | .ok select =>
    let (text, left) := select.write r.kind parameters
    (.ok text, left)
  | .error e => (.error e, parameters)

/-- The text of a plan with physical identifiers. -/
def render (r : Renderer) (plan : Plan) (parameters : Parameters) : Rendered :=
  r.writeLowered parameters (r.lower plan)

/-- The text of a plan with logical identifiers, which no database reads as it is. -/
def renderLogical (r : Renderer) (plan : Plan) (parameters : Parameters) : Rendered :=
  r.writeLowered parameters (r.lowerLogical plan)

def renamingOf (r : Renderer) (objectType : String) : Except Error Renaming :=
  match r.resolver.objectType? objectType with
  | none => .error (.ofFault (.notFound objectType))
  | some type =>
    match r.resolver.mapping? objectType with
    | none => .error (.unresolvedMapping objectType none)
    | some mapping => Renaming.ofMapping type mapping r.identifierCase (.ofKind r.kind)

/-- The text of a plan with logical identifiers, renamed to physical ones. -/
def renderRenamed (r : Renderer) (plan : Plan) (parameters : Parameters) : Rendered :=
  match r.renderLogical plan parameters with
  | (.error e, left) => (.error e, left)
  | (.ok text, left) =>
    ((r.renamingOf plan.objectType.name).bind fun names => names.apply text, left)

end Renderer
end Sql
end ObjectQuery
