import GoSpecs.Grammar.Statements
import GoSpecs.Proofs.Syntax.Erase
import GoSpecs.Proofs.Syntax.WellFormed
import Mathlib.Data.List.Forall2
import Mathlib.Data.Option.Basic

namespace GoSpecs

variable {α : Type}

structure Twins (erase : α → α) (good : α → Prop) (first second : α) : Prop where
  same : erase first = erase second
  good : good first

abbrev Expr.Twins := GoSpecs.Twins Expr.erase Expr.WellFormed

abbrev Expr.Node.Twins := GoSpecs.Twins Expr.Node.erase Expr.Node.WellFormed

abbrev Field.Twins := GoSpecs.Twins Field.erase Field.WellFormed

abbrev FuncType.Twins := GoSpecs.Twins FuncType.erase FuncType.WellFormed

abbrev Block.Twins := GoSpecs.Twins Block.erase Block.WellFormed

abbrev Stmt.Twins := GoSpecs.Twins Stmt.erase Stmt.WellFormed

abbrev Stmt.Node.Twins := GoSpecs.Twins Stmt.Node.erase Stmt.Node.WellFormed

abbrev CaseClause.Twins := GoSpecs.Twins CaseClause.erase CaseClause.WellFormed

abbrev CommClause.Twins := GoSpecs.Twins CommClause.erase CommClause.WellFormed

abbrev TypeSpec.Twins := GoSpecs.Twins TypeSpec.erase TypeSpec.WellFormed

abbrev ValueSpec.Twins := GoSpecs.Twins ValueSpec.erase ValueSpec.WellFormed

abbrev Decl.Twins := GoSpecs.Twins Decl.erase Decl.WellFormed

theorem twins_list {erase : α → α} {good : α → Prop} {list list' : List α}
    (each : List.Forall₂ (Twins erase good) list list') :
    Twins (List.map erase) (fun list => ∀ entry ∈ list, good entry) list list' := by
  induction each with
  | nil => exact ⟨rfl, by simp⟩
  | cons same _ ih => exact ⟨by simp [same.same, ih.same], by simpa using ⟨same.good, ih.good⟩⟩

theorem twins_option {erase : α → α} {good : α → Prop} {part? part?' : Option α}
    (both : Option.Rel (Twins erase good) part? part?') :
    Twins (Option.map erase) (fun part? => ∀ entry ∈ part?, good entry) part? part?' := by
  cases both with
  | none => exact ⟨rfl, by simp⟩
  | some same => exact ⟨by simp [same.same], by simpa using same.good⟩

namespace Expr

theorem isTypeName_erase (expr : Expr) : expr.erase.isTypeName = expr.isTypeName := by
  fun_induction Expr.isTypeName expr with
  | case1 => simp [isTypeName]
  | case2 => simp [isTypeName]
  | case3 _ _ _ ih => simp [isTypeName, ih]
  | case4 _ _ _ ih => simp [isTypeName, ih]
  | case5 expr ident selector index indexList =>
    obtain ⟨node, span⟩ := expr
    cases node with
    | selector base field =>
      obtain ⟨base, place⟩ := base
      cases base with
      | ident name => exact absurd rfl (selector name place field span)
      | _ => simp [isTypeName]
    | ident name => exact absurd rfl (ident name span)
    | index base inner => exact absurd rfl (index base inner span)
    | indexList base inner => exact absurd rfl (indexList base inner span)
    | _ => simp [isTypeName]

theorem isLiteralType_erase (expr : Expr) : expr.erase.isLiteralType = expr.isLiteralType := by
  obtain ⟨node, span⟩ := expr
  have name := isTypeName_erase ⟨node, span⟩
  cases node with
  | arrayType _ _ => simp [isLiteralType]
  | mapType _ _ => simp [isLiteralType]
  | structType _ _ => simp [isLiteralType]
  | _ => exact name

theorem eq_ident_of_erase {expr : Expr} {name : String} {span : Span} (same : expr.erase = ⟨.ident name, span⟩) :
    ∃ span, expr = ⟨.ident name, span⟩ := by
  obtain ⟨node, place⟩ := expr
  cases node with
  | ident _ =>
    simp only [erase, Node.erase, mk.injEq, Node.ident.injEq] at same
    exact ⟨place, by rw [same.1]⟩
  | _ => simp at same

theorem eq_typeAssert_of_erase {expr base : Expr} {span : Span} (same : expr.erase = ⟨.typeAssert base none, span⟩) :
    ∃ base' span, expr = ⟨.typeAssert base' none, span⟩ ∧ base'.erase = base := by
  obtain ⟨node, place⟩ := expr
  cases node with
  | typeAssert base' type? =>
    simp only [erase, Node.erase, eraseExpr?_eq_map, mk.injEq, Node.typeAssert.injEq, Option.map_eq_none_iff] at same
    obtain ⟨⟨same, rfl⟩, -⟩ := same
    exact ⟨base', place, rfl, same⟩
  | _ => simp at same

end Expr

namespace Stmt

theorem eq_expr_of_erase {stmt : Stmt} {expr : Expr} {span : Span} (same : stmt.erase = ⟨.expr expr, span⟩) :
    ∃ expr' span, stmt = ⟨.expr expr', span⟩ ∧ expr'.erase = expr := by
  obtain ⟨node, place⟩ := stmt
  cases node with
  | expr expr' =>
    simp only [erase, Node.erase, mk.injEq, Node.expr.injEq] at same
    exact ⟨expr', place, rfl, same.1⟩
  | _ => simp at same

theorem eq_assign_of_erase {stmt : Stmt} {target value : Expr} {op : AssignOp} {span : Span}
    (same : stmt.erase = ⟨.assign [target] op [value], span⟩) :
    ∃ target' value' span, stmt = ⟨.assign [target'] op [value'], span⟩ ∧ target'.erase = target ∧
      value'.erase = value := by
  obtain ⟨node, place⟩ := stmt
  cases node with
  | assign targets op' values =>
    simp only [erase, Node.erase, eraseExprs_eq_map, mk.injEq, Node.assign.injEq, List.map_eq_singleton_iff] at same
    obtain ⟨⟨⟨target', rfl, atTarget⟩, rfl, ⟨value', rfl, atValue⟩⟩, -⟩ := same
    exact ⟨target', value', place, rfl, atTarget, atValue⟩
  | _ => simp at same

end Stmt

end GoSpecs
