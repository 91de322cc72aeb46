import RayScene.Geometry.Distance

/-!
Solids as trees: primitives at the leaves, boolean operators and maps of space above them. The
`distance` of a tree is the signed distance field that it describes.
-/

namespace RayScene

inductive Primitive where
  | sphere
  | box
  | torus
  | cylinder
  deriving DecidableEq, Repr, Inhabited

namespace Primitive

def all : List Primitive := [sphere, box, torus, cylinder]

def name : Primitive → String
  | sphere => "sphere"
  | box => "box"
  | torus => "torus"
  | cylinder => "cylinder"

variable {S : Type} [Scalar S]

def distance : Primitive → Vec3 S → Vec3 S → S
  | sphere => Distance.sphere
  | box => Distance.box
  | torus => Distance.torus
  | cylinder => Distance.cylinder

/-- How many leading components of its dimensions the primitive reads. -/
def arity : Primitive → Nat
  | sphere => 1
  | torus | cylinder => 2
  | box => 3

end Primitive

inductive Sdf (S : Type) where
  | primitive (kind : Primitive) (position dimensions : Vec3 S)
  | union (children : List (Sdf S))
  | smoothUnion (k : S) (children : List (Sdf S))
  | intersection (children : List (Sdf S))
  | subtraction (base cut : Sdf S)
  | translate (offset : Vec3 S) (child : Sdf S)
  /-- The child turned by angles in degrees about x, then y, then z. -/
  | rotate (angles : Vec3 S) (child : Sdf S)
  | repeated (period : Vec3 S) (child : Sdf S)
  deriving Repr, Inhabited

namespace Sdf

variable {S : Type}

def children : Sdf S → List (Sdf S)
  | primitive .. => []
  | union cs | smoothUnion _ cs | intersection cs => cs
  | subtraction base cut => [base, cut]
  | translate _ child | rotate _ child | repeated _ child => [child]

mutual

/-- The number of levels; a lone primitive has one. -/
def depth : Sdf S → Nat
  | primitive .. => 1
  | union cs | smoothUnion _ cs | intersection cs => depthOfAll cs + 1
  | subtraction base cut => max (depth base) (depth cut) + 1
  | translate _ child | rotate _ child | repeated _ child => depth child + 1

def depthOfAll : List (Sdf S) → Nat
  | [] => 0
  | c :: cs => max (depth c) (depthOfAll cs)

end

mutual

/-- The tree itself and all trees below it, each before its children. -/
def subtrees : Sdf S → List (Sdf S)
  | node@(primitive ..) => [node]
  | node@(union cs) | node@(smoothUnion _ cs) | node@(intersection cs) => node :: subtreesOfAll cs
  | node@(subtraction base cut) => node :: (subtrees base ++ subtrees cut)
  | node@(translate _ child) | node@(rotate _ child) | node@(repeated _ child) =>
    node :: subtrees child

def subtreesOfAll : List (Sdf S) → List (Sdf S)
  | [] => []
  | c :: cs => subtrees c ++ subtreesOfAll cs

end

def primitive? : Sdf S → Option Primitive
  | primitive kind .. => some kind
  | _ => none

def isSmoothUnion : Sdf S → Bool
  | smoothUnion .. => true
  | _ => false

/-- The kinds of primitive that occur in the tree, each once and in their own order. -/
def primitives (node : Sdf S) : List Primitive :=
  Primitive.all.filter fun kind => node.subtrees.any (·.primitive? == some kind)

def usesSmoothUnion (node : Sdf S) : Bool := node.subtrees.any isSmoothUnion

variable [Scalar S]

def blend (k : S) : List S → S
  | [] => Scalar.infinity
  | d :: ds => ds.foldl (Distance.smoothUnion · · k) d

mutual

/-- The signed distance from `p` to the surface, negative inside. -/
def distance : Sdf S → Vec3 S → S
  | primitive kind position dimensions, p => kind.distance (p - position) dimensions
  | union cs, p => (distances cs p).foldl Scalar.min Scalar.infinity
  | smoothUnion k cs, p => blend k (distances cs p)
  | intersection cs, p => (distances cs p).foldl Scalar.max (-Scalar.infinity)
  | subtraction base cut, p => Scalar.max (distance base p) (-distance cut p)
  | translate offset child, p => distance child (p - offset)
  | rotate angles child, p => distance child (Distance.inverseRotate p angles)
  | repeated period child, p => distance child (Distance.repeatDomain p period)

def distances : List (Sdf S) → Vec3 S → List S
  | [], _ => []
  | c :: cs, p => distance c p :: distances cs p

end

end Sdf
end RayScene
