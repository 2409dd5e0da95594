namespace GoSpecs

inductive Keyword where
  | break | case | chan | const | continue | default | defer | else | fallthrough | for | func
  | go | goto | if | import | interface | map | package | range | return | select | struct
  | switch | type | var
deriving DecidableEq

namespace Keyword

def text : Keyword → String
  | .break => "break"
  | .case => "case"
  | .chan => "chan"
  | .const => "const"
  | .continue => "continue"
  | .default => "default"
  | .defer => "defer"
  | .else => "else"
  | .fallthrough => "fallthrough"
  | .for => "for"
  | .func => "func"
  | .go => "go"
  | .goto => "goto"
  | .if => "if"
  | .import => "import"
  | .interface => "interface"
  | .map => "map"
  | .package => "package"
  | .range => "range"
  | .return => "return"
  | .select => "select"
  | .struct => "struct"
  | .switch => "switch"
  | .type => "type"
  | .var => "var"

def all : List Keyword :=
  [.break, .case, .chan, .const, .continue, .default, .defer, .else, .fallthrough, .for, .func,
    .go, .goto, .if, .import, .interface, .map, .package, .range, .return, .select, .struct,
    .switch, .type, .var]

def ofText? (text : String) : Option Keyword :=
  all.find? (·.text == text)

end Keyword

/-- Operators and delimiters, the semicolon excepted. -/
inductive Mark where
  | plus | minus | star | slash | percent | amp | pipe | caret | shl | shr | ampCaret
  | plusEq | minusEq | starEq | slashEq | percentEq | ampEq | pipeEq | caretEq | shlEq | shrEq
  | ampCaretEq | andAnd | orOr | arrow | inc | dec | eqEq | lt | gt | eq | bang | tilde
  | notEq | ltEq | gtEq | colonEq | ellipsis
  | lparen | rparen | lbracket | rbracket | lbrace | rbrace | comma | dot | colon
deriving DecidableEq

namespace Mark

def text : Mark → String
  | .plus => "+"
  | .minus => "-"
  | .star => "*"
  | .slash => "/"
  | .percent => "%"
  | .amp => "&"
  | .pipe => "|"
  | .caret => "^"
  | .shl => "<<"
  | .shr => ">>"
  | .ampCaret => "&^"
  | .plusEq => "+="
  | .minusEq => "-="
  | .starEq => "*="
  | .slashEq => "/="
  | .percentEq => "%="
  | .ampEq => "&="
  | .pipeEq => "|="
  | .caretEq => "^="
  | .shlEq => "<<="
  | .shrEq => ">>="
  | .ampCaretEq => "&^="
  | .andAnd => "&&"
  | .orOr => "||"
  | .arrow => "<-"
  | .inc => "++"
  | .dec => "--"
  | .eqEq => "=="
  | .lt => "<"
  | .gt => ">"
  | .eq => "="
  | .bang => "!"
  | .tilde => "~"
  | .notEq => "!="
  | .ltEq => "<="
  | .gtEq => ">="
  | .colonEq => ":="
  | .ellipsis => "..."
  | .lparen => "("
  | .rparen => ")"
  | .lbracket => "["
  | .rbracket => "]"
  | .lbrace => "\x7b"
  | .rbrace => "\x7d"
  | .comma => ","
  | .dot => "."
  | .colon => ":"

def all : List Mark :=
  [.shlEq, .shrEq, .ampCaretEq, .ellipsis,
    .shl, .shr, .ampCaret, .plusEq, .minusEq, .starEq, .slashEq, .percentEq, .ampEq, .pipeEq,
    .caretEq, .andAnd, .orOr, .arrow, .inc, .dec, .eqEq, .notEq, .ltEq, .gtEq, .colonEq,
    .plus, .minus, .star, .slash, .percent, .amp, .pipe, .caret, .lt, .gt, .eq, .bang, .tilde,
    .lparen, .rparen, .lbracket, .rbracket, .lbrace, .rbrace, .comma, .dot, .colon]

def longest? (chars : List Char) : Option Mark :=
  all.find? fun mark => mark.text.toList.isPrefixOf chars

end Mark

/-- A token. Literals and comments keep their source text. -/
inductive Token where
  | keyword (word : Keyword)
  | ident (name : String)
  | number (text : String)
  | string (text : String)
  | rune (text : String)
  | mark (sign : Mark)
  /-- A semicolon, written in the source or inserted at the end of a line. -/
  | semicolon (inserted : Bool)
  /-- The end of a line. No source has it among its tokens. -/
  | newline
  | lineComment (text : String)
  | blockComment (text : String)
deriving DecidableEq

namespace Token

def text : Token → String
  | .keyword word => word.text
  | .ident name => name
  | .number text => text
  | .string text => text
  | .rune text => text
  | .mark sign => sign.text
  | .semicolon _ => ";"
  | .newline => "newline"
  | .lineComment text => text
  | .blockComment text => text

def isSemicolon : Token → Bool
  | .semicolon _ => true
  | _ => false

def isComment : Token → Bool
  | .lineComment _ => true
  | .blockComment _ => true
  | _ => false

/-- A newline right after such a token ends the statement. -/
def endsStatement : Token → Bool
  | .ident _ => true
  | .number _ => true
  | .string _ => true
  | .rune _ => true
  | .keyword .break => true
  | .keyword .continue => true
  | .keyword .fallthrough => true
  | .keyword .return => true
  | .mark .inc => true
  | .mark .dec => true
  | .mark .rparen => true
  | .mark .rbracket => true
  | .mark .rbrace => true
  | _ => false

end Token

structure Lexeme where
  token : Token
  start : Nat
  stop : Nat
deriving DecidableEq

end GoSpecs
