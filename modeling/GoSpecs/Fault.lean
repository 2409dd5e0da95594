import GoSpecs.Grammar.File
import GoSpecs.Layout.File
import GoSpecs.Spec.Conversion
import GoSpecs.Token.Stream

namespace GoSpecs

inductive Fault where
  | lexical (message : String) (span : Span)
  | grammatical (message : String) (span : Span)
  | missingImports
  | malformed (message : String)
deriving DecidableEq

namespace Fault

def detail : Fault → String
  | lexical message _ => message
  | grammatical message _ => message
  | missingImports => "file has no import declarations"
  | malformed message => message

def message : Fault → String
  | lexical message span => "Lexer error at " ++ span.describe ++ ": " ++ message
  | grammatical message span => "Parser error at " ++ span.describe ++ ": " ++ message
  | missingImports => "file has no import declarations"
  | malformed message => "Internal error: " ++ message

def span? : Fault → Option Span
  | lexical _ span => some span
  | grammatical _ span => some span
  | _ => none

def ofLexical (error : LexicalError) : Fault :=
  lexical error.message error.span

def ofSyntax (error : SyntaxError) : Fault :=
  grammatical error.message error.span

def ofConversion : ConversionError → Fault
  | .missingImports => missingImports
  | .emptyImports => malformed "import declaration has no entries"
  | .testGone name => malformed ("test " ++ name ++ " is no longer in the file")
  | .testNoFunction name => malformed ("test " ++ name ++ " is not a function")
  | .testWithoutBody name => malformed ("test " ++ name ++ " has no body")

end Fault

def lexemesOf (source : String) : Except Fault (List Lexeme) :=
  (tokenize source.toList).mapError .ofLexical

/-- The name in the package clause. The text after it need only consist of tokens. -/
def packageNameOf (source : String) : Except Fault String := do
  let lexemes ← lexemesOf source
  (SourceFile.packageName lexemes).mapError .ofSyntax

namespace SourceFile

def ofText (source : String) : Except Fault SourceFile := do
  let lexemes ← lexemesOf source
  (ofLexemes source.toList lexemes).mapError .ofSyntax

def converted (file : SourceFile) (conventions : Conventions) : Except Fault (SourceFile × Nat) :=
  (file.convert conventions).mapError .ofConversion

end SourceFile

end GoSpecs
