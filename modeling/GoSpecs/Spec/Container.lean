import GoSpecs.Spec.Conventions
import GoSpecs.Syntax.Build
import GoSpecs.Syntax.File

namespace GoSpecs

/-- What becomes of a test: a leaf with the comments that stood around the test. -/
structure Leaf where
  name : String
  doc : List Comment
  trailing : Option Comment
  body : Block

namespace Leaf

def labeledCall (func label : String) (body : Block) : Expr.Node :=
  .call (.built (.ident func))
    [.built (.stringLit label), .built (.funcLit ⟨[], []⟩ body)] false .detached

def stmt (conventions : Conventions) (leaf : Leaf) : Stmt :=
  .built (.expr (.built (labeledCall conventions.leafFunc leaf.name leaf.body)))

def comments (leaf : Leaf) (index : Nat) : List AnchoredComment :=
  leaf.doc.map (⟨.before index, ·⟩) ++ leaf.trailing.toList.map (⟨.after index, ·⟩)

end Leaf

def Block.ofLeaves (conventions : Conventions) (leaves : List Leaf) : Block :=
  .built (leaves.map (·.stmt conventions))
    (leaves.zipIdx.flatMap fun (leaf, index) => leaf.comments index)

def FuncDecl.ofLeaves (conventions : Conventions) (leaves : List Leaf) : FuncDecl where
  receiver? := none
  name := conventions.initFunc
  nameSpan := .detached
  typeParams := []
  type := ⟨[], []⟩
  body? := some (.built [.built (.expr (.built (Leaf.labeledCall conventions.containerFunc
    conventions.containerLabel (.ofLeaves conventions leaves))))] [])

def Item.ofLeaves (conventions : Conventions) (leaves : List Leaf) : Item :=
  ⟨.func (.ofLeaves conventions leaves), [], none, .detached⟩

end GoSpecs
