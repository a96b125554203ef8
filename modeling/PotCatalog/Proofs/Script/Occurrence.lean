/-
  Parts of a script and where they occur.

  A `Part` is a script, a statement or an expression, and `Part.children` are
  the parts written directly inside it, all of them.  Every child is smaller
  than its part (`Part.sizeOf_child_lt`), so the positions in a script are
  those of a tree.
-/
import PotCatalog.Script.Calls

namespace PotCatalog.Script

/-- A part of a script. -/
inductive Part where
  | program (p : Program)
  | stmt (s : Stmt)
  | expr (e : Expr)

/-- What stands in a form. -/
def Form.parts : Form → List Part
  | .name _ | .text _ _ | .constant _ | .this | .base | .loader | .metaProperty | .privateName _
  | .hole | .shorthand _ | .missing => []
  | .template items | .array items | .object items | .sequence items => items.map .expr
  | .spread inner | .shorthandDefault _ inner | .computed inner | .paren inner | .unary _ inner
  | .update _ inner | .await inner => [.expr inner]
  | .pair first second | .binary _ first second | .assign _ first second | .member first second
  | .optionalMember first second => [.expr first, .expr second]
  | .tagged first items | .call first items | .optionalCall first items
  | .construct first items => .expr first :: items.map .expr
  | .method key params body => .expr key :: (params.map .expr ++ body.map .stmt)
  | .field first other | .declarator first other => .expr first :: other.toList.map .expr
  | .initializer body => body.map .stmt
  | .function params body | .arrow params body => params.map .expr ++ body.map .stmt
  | .classOf members parent => members.map .expr ++ parent.toList.map .expr
  | .yield operand => operand.toList.map .expr
  | .conditional test value otherwise => [.expr test, .expr value, .expr otherwise]

/-- What stands in a statement. -/
def Stmt.parts : Stmt → List Part
  | .empty | .jump => []
  | .expr e | .define e | .throwing e | .exportDefault e => [.expr e]
  | .declare declarators => declarators.map .expr
  | .block body => body.map .stmt
  | .ifElse test body otherwise => .expr test :: .stmt body :: otherwise.toList.map .stmt
  | .forLoop init test step body =>
    init.toList.map .stmt ++ test.toList.map .expr ++ step.toList.map .expr ++ [.stmt body]
  | .forEach target subject body => [.stmt target, .expr subject, .stmt body]
  | .whileLoop e body | .doLoop e body | .withScope e body => [.expr e, .stmt body]
  | .returning value | .link value => value.toList.map .expr
  | .switch subject cases => .expr subject :: cases.map .stmt
  | .switchCase test body => test.toList.map .expr ++ body.map .stmt
  | .tryCatch body catcher cleanup =>
    .stmt body :: (catcher.toList.map .stmt ++ cleanup.toList.map .stmt)
  | .handler param body => param.toList.map .expr ++ [.stmt body]
  | .labelled _ body | .exporting body => [.stmt body]

/-- The parts directly inside a part. -/
def Part.children : Part → List Part
  | .program p => p.body.map .stmt
  | .stmt s => s.parts
  | .expr e => e.form.parts

/-! ## Children are smaller -/

section
variable {p : Part}

theorem sizeOf_exprs_lt {es : List Expr} (h : p ∈ es.map Part.expr) : sizeOf p < 1 + sizeOf es := by
  obtain ⟨e, he, rfl⟩ := List.mem_map.1 h
  have hlt := List.sizeOf_lt_of_mem he
  rw [Part.expr.sizeOf_spec]
  omega

theorem sizeOf_stmts_lt {body : List Stmt} (h : p ∈ body.map Part.stmt) :
    sizeOf p < 1 + sizeOf body := by
  obtain ⟨s, hs, rfl⟩ := List.mem_map.1 h
  have hlt := List.sizeOf_lt_of_mem hs
  rw [Part.stmt.sizeOf_spec]
  omega

theorem sizeOf_optionExpr_lt {o : Option Expr} (h : p ∈ o.toList.map Part.expr) :
    sizeOf p < 1 + sizeOf o := by
  obtain ⟨e, he, rfl⟩ := List.mem_map.1 h
  rw [Option.mem_toList] at he
  simp [he]

theorem sizeOf_optionStmt_lt {o : Option Stmt} (h : p ∈ o.toList.map Part.stmt) :
    sizeOf p < 1 + sizeOf o := by
  obtain ⟨s, hs, rfl⟩ := List.mem_map.1 h
  rw [Option.mem_toList] at hs
  simp [hs]

theorem sizeOf_formPart_lt {form : Form} (h : p ∈ form.parts) : sizeOf p < 1 + sizeOf form := by
  -- each part stands in one field of the form, and is smaller than that field
  have hexprs := @sizeOf_exprs_lt p
  have hstmts := @sizeOf_stmts_lt p
  have hoption := @sizeOf_optionExpr_lt p
  cases form <;> simp only [Form.parts, List.mem_cons, List.mem_append, List.not_mem_nil] at h
  all_goals grind [Part.expr.sizeOf_spec]

theorem sizeOf_stmtPart_lt {s : Stmt} (h : p ∈ s.parts) : sizeOf p < 1 + sizeOf s := by
  have hexprs := @sizeOf_exprs_lt p
  have hstmts := @sizeOf_stmts_lt p
  have hoption := @sizeOf_optionExpr_lt p
  have hoption' := @sizeOf_optionStmt_lt p
  cases s <;> simp only [Stmt.parts, List.mem_cons, List.mem_append, List.not_mem_nil] at h
  all_goals grind [Part.expr.sizeOf_spec, Part.stmt.sizeOf_spec]

end

theorem Part.sizeOf_child_lt (p : Part) : ∀ child ∈ p.children, sizeOf child < sizeOf p := by
  intro child h
  cases p with
  | program p =>
    obtain ⟨isModule, body⟩ := p
    have hlt : sizeOf child < 1 + sizeOf body := sizeOf_stmts_lt h
    rw [Part.program.sizeOf_spec, Program.mk.sizeOf_spec]
    omega
  | stmt s =>
    rw [Part.stmt.sizeOf_spec]
    exact sizeOf_stmtPart_lt h
  | expr e =>
    obtain ⟨start, form⟩ := e
    have hlt : sizeOf child < 1 + sizeOf form := sizeOf_formPart_lt h
    rw [Part.expr.sizeOf_spec, Expr.mk.sizeOf_spec]
    omega

end PotCatalog.Script
