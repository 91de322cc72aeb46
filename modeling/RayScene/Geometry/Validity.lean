import RayScene.Geometry.Sdf
import RayScene.Number.Notation

namespace RayScene

inductive SdfError (S : Type) where
  | tooDeep (limit : Nat)
  | emptyOperator (operator : String)
  | invalidDimensions (kind : Primitive) (dimensions : Vec3 S)
  | invalidParameter (field : String) (value : S)
  deriving DecidableEq, Repr

def SdfError.message : SdfError Single → String
  | tooDeep limit => s!"SDF tree is deeper than {limit} levels"
  | emptyOperator operator => s!"{operator} needs at least one child"
  | invalidDimensions kind dimensions =>
    let components := ", ".intercalate (dimensions.toList.map Single.literal)
    s!"{kind.name} dimensions must be positive, got [{components}]"
  | invalidParameter field value => s!"{field} must be finite and positive, got {value.plain}"

namespace Sdf

variable {S : Type} [Scalar S]

/-- The greatest depth of a tree that shaders and scene files take. -/
def maxDepth : Nat := 16

def nodeError? : Sdf S → Option (SdfError S)
  | primitive kind _ dimensions =>
    if (dimensions.toList.take kind.arity).all Scalar.isPositive then none
    else some (.invalidDimensions kind dimensions)
  | union [] => some (.emptyOperator "union")
  | intersection [] => some (.emptyOperator "intersection")
  | smoothUnion _ [] => some (.emptyOperator "smooth-union")
  | smoothUnion k _ => if Scalar.isPositive k then none else some (.invalidParameter "k" k)
  | repeated period _ =>
    (period.toList.find? (!Scalar.isPositive ·)).map (.invalidParameter "period")
  | _ => none

/-- The first fault of the tree, its depth first and then node by node from the root down. -/
def error? (node : Sdf S) : Option (SdfError S) :=
  if maxDepth < node.depth then some (.tooDeep maxDepth)
  else node.subtrees.findSome? nodeError?

def IsValid (node : Sdf S) : Prop := node.error? = none

end Sdf
end RayScene
