namespace GoSpecs

inductive UnaryOp where
  | pos | neg | not | xor | addr | recv | tilde
deriving DecidableEq

def UnaryOp.text : UnaryOp → String
  | .pos => "+"
  | .neg => "-"
  | .not => "!"
  | .xor => "^"
  | .addr => "&"
  | .recv => "<-"
  | .tilde => "~"

inductive BinaryOp where
  | orOr | andAnd | eq | ne | lt | le | gt | ge | add | sub | or | xor | mul | div | rem | shl
  | shr | and | andNot
deriving DecidableEq

namespace BinaryOp

def text : BinaryOp → String
  | .orOr => "||"
  | .andAnd => "&&"
  | .eq => "=="
  | .ne => "!="
  | .lt => "<"
  | .le => "<="
  | .gt => ">"
  | .ge => ">="
  | .add => "+"
  | .sub => "-"
  | .or => "|"
  | .xor => "^"
  | .mul => "*"
  | .div => "/"
  | .rem => "%"
  | .shl => "<<"
  | .shr => ">>"
  | .and => "&"
  | .andNot => "&^"

def precedence : BinaryOp → Nat
  | .orOr => 1
  | .andAnd => 2
  | .eq | .ne | .lt | .le | .gt | .ge => 3
  | .add | .sub | .or | .xor => 4
  | .mul | .div | .rem | .shl | .shr | .and | .andNot => 5

end BinaryOp

inductive AssignOp where
  | assign
  | define
  | compound (op : BinaryOp)
deriving DecidableEq

def AssignOp.text : AssignOp → String
  | .assign => "="
  | .define => ":="
  | .compound op => op.text ++ "="

inductive BranchKind where
  | break | continue | goto | fallthrough
deriving DecidableEq

def BranchKind.text : BranchKind → String
  | .break => "break"
  | .continue => "continue"
  | .goto => "goto"
  | .fallthrough => "fallthrough"

inductive ChanDir where
  | both | send | recv
deriving DecidableEq

end GoSpecs
