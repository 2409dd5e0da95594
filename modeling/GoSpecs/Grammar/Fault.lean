import GoSpecs.Source.Span
import GoSpecs.Token.Basic

namespace GoSpecs

inductive Expectation where
  | token (token : Token)
  | identifier
  | lineEnd
  | declaration
  | importPath
  | expression
  | type
  | fieldOrEmbedded
  | ifCondition
  | elseBranch
  | forCondition
  | clause
deriving DecidableEq

def Expectation.describe : Expectation → String
  | .token wanted => "`" ++ wanted.text ++ "`"
  | .identifier => "identifier"
  | .lineEnd => "`;` or newline"
  | .declaration => "declaration"
  | .importPath => "import path"
  | .expression => "expression"
  | .type => "type"
  | .fieldOrEmbedded => "field name or embedded type"
  | .ifCondition => "condition in if statement"
  | .elseBranch => "`if` or block after else"
  | .forCondition => "for loop condition"
  | .clause => "`case` or `default`"

inductive SyntaxFault where
  | expected (what : Expectation) (found : Option Token)
  | packageClause
  | emptySource
  | emptyImportPath
  | severalReceivers
  | mixedParams
  | unconstrainedTypeParam
  | sliceBounds
  | rangeClause
  | rangeVariables
  | oneExpression
  | switchBinding
  | switchTag
  /-- More nesting than there are tokens. No token list leads to it. -/
  | nesting
deriving DecidableEq

namespace SyntaxFault

def describeFound : Option Token → String
  | some (.semicolon true) => "newline"
  | some token => "`" ++ token.text ++ "`"
  | none => "end of file"

def message : SyntaxFault → String
  | .expected what found => "expected " ++ what.describe ++ ", found " ++ describeFound found
  | .packageClause => "expected package clause"
  | .emptySource => "empty source file"
  | .emptyImportPath => "empty import path"
  | .severalReceivers => "method has multiple receivers"
  | .mixedParams => "mixed named and unnamed parameters"
  | .unconstrainedTypeParam => "type parameter without constraint"
  | .sliceBounds => "middle and final index required in 3-index slice"
  | .rangeClause => "unexpected range clause"
  | .rangeVariables => "range clause permits at most two iteration variables"
  | .oneExpression => "expected 1 expression"
  | .switchBinding => "type switch binding must be an identifier"
  | .switchTag => "switch expression must be an expression"
  | .nesting => "nesting exceeds the number of tokens"

end SyntaxFault

structure SyntaxError where
  fault : SyntaxFault
  span : Span
deriving DecidableEq

def SyntaxError.message (error : SyntaxError) : String :=
  error.fault.message

end GoSpecs
