import GoSpecs.Json.Basic
import GoSpecs.Syntax.File

namespace GoSpecs

namespace Json

def tagged (kind : String) (value : Json) : Json :=
  .object [(kind, value)]

def record (kind : String) (members : List (String × Json)) : Json :=
  tagged kind (.object members)

def spanned (node span : Json) : Json :=
  .object [("node", node), ("span", span)]

end Json

def Span.toJson (span : Span) : Json :=
  if span = .detached then .null
  else
    .object [("start", .number (span.start?.getD unknownOffset)),
      ("end", .number (span.stop?.getD unknownOffset))]

def Comment.toJson (comment : Comment) : Json :=
  .object [("text", .string comment.text), ("span", comment.span.toJson)]

def Anchor.toJson : Anchor → Json
  | .before index => .tagged "Before" (.number index)
  | .after index => .tagged "After" (.number index)
  | .atEnd => .string "End"

def AnchoredComment.toJson (anchored : AnchoredComment) : Json :=
  .object [("anchor", anchored.anchor.toJson), ("comment", anchored.comment.toJson)]

def ElementComment.toJson (element : ElementComment) : Json :=
  .object [("index", .number element.index), ("comment", element.comment.toJson)]

def ImportSpec.toJson (spec : ImportSpec) : Json :=
  .object [("alias", .ofString? spec.alias?), ("path", .string spec.path),
    ("comment", .ofOption Comment.toJson spec.comment)]

def ImportGroup.toJson (group : ImportGroup) : Json :=
  .object [("specs", .array (group.specs.map ImportSpec.toJson)),
    ("parenthesized", .bool group.parenthesized)]

def UnaryOp.toJson (op : UnaryOp) : Json :=
  .string <| match op with
    | .pos => "Pos"
    | .neg => "Neg"
    | .not => "Not"
    | .xor => "Xor"
    | .addr => "Addr"
    | .recv => "Recv"
    | .tilde => "Tilde"

def BinaryOp.toJson (op : BinaryOp) : Json :=
  .string <| match op with
    | .orOr => "OrOr"
    | .andAnd => "AndAnd"
    | .eq => "Eq"
    | .ne => "Ne"
    | .lt => "Lt"
    | .le => "Le"
    | .gt => "Gt"
    | .ge => "Ge"
    | .add => "Add"
    | .sub => "Sub"
    | .or => "Or"
    | .xor => "Xor"
    | .mul => "Mul"
    | .div => "Div"
    | .rem => "Rem"
    | .shl => "Shl"
    | .shr => "Shr"
    | .and => "And"
    | .andNot => "AndNot"

def AssignOp.toJson : AssignOp → Json
  | .assign => .string "Assign"
  | .define => .string "Define"
  | .compound op => .tagged "Compound" op.toJson

def BranchKind.toJson (kind : BranchKind) : Json :=
  .string <| match kind with
    | .break => "Break"
    | .continue => "Continue"
    | .goto => "Goto"
    | .fallthrough => "Fallthrough"

def ChanDir.toJson (dir : ChanDir) : Json :=
  .string <| match dir with
    | .both => "Both"
    | .send => "Send"
    | .recv => "Recv"

mutual

def Expr.toJson : Expr → Json
  | ⟨node, span⟩ => .spanned node.toJson span.toJson

def Expr.Node.toJson : Expr.Node → Json
  | .ident name => .tagged "Ident" (.string name)
  | .literal text => .tagged "BasicLit" (.string text)
  | .composite type? elements braces comments =>
    .record "CompositeLit" [("ty", jsonOfExpr? type?), ("elts", .array (jsonOfExprs elements)),
      ("braces", braces.toJson), ("comments", .array (comments.map ElementComment.toJson))]
  | .funcLit type body => .record "FuncLit" [("ty", type.toJson), ("body", body.toJson)]
  | .paren inner => .tagged "Paren" inner.toJson
  | .selector base field => .record "Selector" [("expr", base.toJson), ("field", .string field)]
  | .index base index => .record "Index" [("expr", base.toJson), ("index", index.toJson)]
  | .indexList base indices =>
    .record "IndexList" [("expr", base.toJson), ("indices", .array (jsonOfExprs indices))]
  | .slice base low? high? max? threeIndex =>
    .record "Slice" [("expr", base.toJson), ("low", jsonOfExpr? low?), ("high", jsonOfExpr? high?),
      ("max", jsonOfExpr? max?), ("three_index", .bool threeIndex)]
  | .typeAssert base type? =>
    .record "TypeAssert" [("expr", base.toJson), ("ty", jsonOfExpr? type?)]
  | .call func args ellipsis parens =>
    .record "Call" [("func", func.toJson), ("args", .array (jsonOfExprs args)),
      ("ellipsis", .bool ellipsis), ("parens", parens.toJson)]
  | .star inner => .tagged "Star" inner.toJson
  | .unary op operand => .record "Unary" [("op", op.toJson), ("expr", operand.toJson)]
  | .binary left op right =>
    .record "Binary" [("left", left.toJson), ("op", op.toJson), ("right", right.toJson)]
  | .keyValue key value => .record "KeyValue" [("key", key.toJson), ("value", value.toJson)]
  | .arrayType length? elem =>
    .record "ArrayType" [("len", jsonOfExpr? length?), ("elem", elem.toJson)]
  | .ellipsis elem? => .tagged "Ellipsis" (jsonOfExpr? elem?)
  | .mapType key value => .record "MapType" [("key", key.toJson), ("value", value.toJson)]
  | .chanType dir elem => .record "ChanType" [("dir", dir.toJson), ("elem", elem.toJson)]
  | .funcType type => .tagged "FuncType" type.toJson
  | .structType fields braces =>
    .record "StructType" [("fields", .array (jsonOfFields fields)), ("braces", braces.toJson)]
  | .interfaceType methods braces =>
    .record "InterfaceType" [("methods", .array (jsonOfFields methods)), ("braces", braces.toJson)]

def jsonOfExpr? : Option Expr → Json
  | none => .null
  | some expr => expr.toJson

def jsonOfExprs : List Expr → List Json
  | [] => []
  | expr :: exprs => expr.toJson :: jsonOfExprs exprs

def Field.toJson : Field → Json
  | ⟨names, type, tag?, comment⟩ =>
    .object [("names", .array (names.map .string)), ("ty", type.toJson), ("tag", .ofString? tag?),
      ("comment", .ofOption Comment.toJson comment)]

def jsonOfField? : Option Field → Json
  | none => .null
  | some field => field.toJson

def jsonOfFields : List Field → List Json
  | [] => []
  | field :: fields => field.toJson :: jsonOfFields fields

def FuncType.toJson : FuncType → Json
  | ⟨params, results⟩ =>
    .object [("params", .array (jsonOfFields params)), ("results", .array (jsonOfFields results))]

def Block.toJson : Block → Json
  | ⟨stmts, comments, span⟩ =>
    .object [("stmts", .array (jsonOfStmts stmts)),
      ("comments", .array (comments.map AnchoredComment.toJson)), ("span", span.toJson)]

def jsonOfBlock? : Option Block → Json
  | none => .null
  | some block => block.toJson

def Stmt.toJson : Stmt → Json
  | ⟨node, span⟩ => .spanned node.toJson span.toJson

def Stmt.Node.toJson : Stmt.Node → Json
  | .expr expr => .tagged "Expr" expr.toJson
  | .assign targets op values =>
    .record "Assign" [("lhs", .array (jsonOfExprs targets)), ("op", op.toJson),
      ("rhs", .array (jsonOfExprs values))]
  | .incDec expr inc => .record "IncDec" [("expr", expr.toJson), ("inc", .bool inc)]
  | .send channel value => .record "Send" [("channel", channel.toJson), ("value", value.toJson)]
  | .decl decl => .tagged "Decl" decl.toJson
  | .go call => .tagged "Go" call.toJson
  | .defer call => .tagged "Defer" call.toJson
  | .ret results => .tagged "Return" (.array (jsonOfExprs results))
  | .branch kind label? => .record "Branch" [("kind", kind.toJson), ("label", .ofString? label?)]
  | .block block => .tagged "Block" block.toJson
  | .ifElse init? cond body else? =>
    .record "If" [("init", jsonOfStmt? init?), ("cond", cond.toJson), ("then_branch", body.toJson),
      ("else_branch", jsonOfStmt? else?)]
  | .forLoop init? cond? post? body =>
    .record "For" [("init", jsonOfStmt? init?), ("cond", jsonOfExpr? cond?),
      ("post", jsonOfStmt? post?), ("body", body.toJson)]
  | .rangeLoop key? value? define expr body =>
    .record "Range" [("key", jsonOfExpr? key?), ("value", jsonOfExpr? value?),
      ("define", .bool define), ("expr", expr.toJson), ("body", body.toJson)]
  | .switch init? tag? clauses =>
    .record "Switch" [("init", jsonOfStmt? init?), ("tag", jsonOfExpr? tag?),
      ("clauses", .array (jsonOfCases clauses))]
  | .typeSwitch init? binding? expr clauses =>
    .record "TypeSwitch" [("init", jsonOfStmt? init?), ("binding", .ofString? binding?),
      ("expr", expr.toJson), ("clauses", .array (jsonOfCases clauses))]
  | .select clauses => .record "Select" [("clauses", .array (jsonOfComms clauses))]
  | .labeled label stmt => .record "Labeled" [("label", .string label), ("stmt", stmt.toJson)]
  | .empty => .string "Empty"

def jsonOfStmt? : Option Stmt → Json
  | none => .null
  | some stmt => stmt.toJson

def jsonOfStmts : List Stmt → List Json
  | [] => []
  | stmt :: stmts => stmt.toJson :: jsonOfStmts stmts

def jsonOfCases : List CaseClause → List Json
  | [] => []
  | ⟨exprs, body⟩ :: clauses =>
    .object [("exprs", .array (jsonOfExprs exprs)), ("body", body.toJson)] :: jsonOfCases clauses

def jsonOfComms : List CommClause → List Json
  | [] => []
  | ⟨comm?, body⟩ :: clauses =>
    .object [("comm", jsonOfStmt? comm?), ("body", body.toJson)] :: jsonOfComms clauses

def jsonOfTypeSpecs : List TypeSpec → List Json
  | [] => []
  | ⟨name, typeParams, isAlias, type, comment⟩ :: specs =>
    .object [("name", .string name), ("type_params", .array (jsonOfFields typeParams)),
      ("alias", .bool isAlias), ("ty", type.toJson),
      ("comment", .ofOption Comment.toJson comment)] :: jsonOfTypeSpecs specs

def jsonOfValueSpecs : List ValueSpec → List Json
  | [] => []
  | ⟨names, type?, values, comment⟩ :: specs =>
    .object [("names", .array (names.map .string)), ("ty", jsonOfExpr? type?),
      ("values", .array (jsonOfExprs values)),
      ("comment", .ofOption Comment.toJson comment)] :: jsonOfValueSpecs specs

def Decl.toJson : Decl → Json
  | .imports group => .tagged "Import" group.toJson
  | .func ⟨receiver?, name, nameSpan, typeParams, type, body?⟩ =>
    .record "Func" [("recv", jsonOfField? receiver?),
      ("name", .spanned (.string name) nameSpan.toJson),
      ("type_params", .array (jsonOfFields typeParams)), ("ty", type.toJson),
      ("body", jsonOfBlock? body?)]
  | .types specs grouped =>
    .record "Type" [("specs", .array (jsonOfTypeSpecs specs)), ("grouped", .bool grouped)]
  | .values .var specs grouped =>
    .record "Var" [("specs", .array (jsonOfValueSpecs specs)), ("grouped", .bool grouped)]
  | .values .const specs grouped =>
    .record "Const" [("specs", .array (jsonOfValueSpecs specs)), ("grouped", .bool grouped)]

end

def Item.toJson (item : Item) : Json :=
  .object [("decl", item.decl.toJson), ("doc", .array (item.doc.map Comment.toJson)),
    ("comment", .ofOption Comment.toJson item.comment), ("span", item.span.toJson)]

def SourceFile.toJson (file : SourceFile) : Json :=
  .object [("header", .array (file.header.map Comment.toJson)),
    ("package", .spanned (.string file.package) file.packageSpan.toJson),
    ("items", .array (file.items.map Item.toJson)),
    ("trailing", .array (file.trailing.map Comment.toJson))]

end GoSpecs
