import GoSpecs.Proofs.Conversion.Capture
import GoSpecs.Proofs.Conversion.Groups
import GoSpecs.Proofs.Conversion.References
import GoSpecs.Proofs.Conversion.Substitution

namespace GoSpecs

namespace SourceFile

variable {file out : SourceFile} {count : Nat}

end SourceFile

namespace ContextProvider

variable (provider : ContextProvider) (conventions : Conventions) (scope : List String)

theorem uses_qualified (qualifier? : Option String) (name : String) :
    (Expr.Node.qualified qualifier? name).uses scope = [⟨qualifier?.getD name, scope, .plain⟩] := by
  cases qualifier? <;> simp [Expr.Node.qualified, Expr.built, Expr.Node.uses, Expr.uses]

end ContextProvider

namespace SourceFile

variable {file out : SourceFile} {count : Nat}

end SourceFile

end GoSpecs
