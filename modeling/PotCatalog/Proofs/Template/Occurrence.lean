/-
  Parts of a template and where they occur.

  A `Part` is a template, a statement, an expression or a call, and
  `Part.children` are the parts written directly inside it, all of them.  A
  position is a list of numbers, each the choice of one child, and `Part.at?` is
  the part at a position: one part may occur at several positions.

  `Part.induct` is induction over parts, and `Part.all_iff` says that something
  holds of all parts inside a part if it holds of the part itself and of all
  parts inside its children.
-/
import PotCatalog.Template.Tree

namespace PotCatalog.Template

/-! ## Parts -/

/-- A part of a template. -/
inductive Part where
  | tree (t : Tree)
  | stmt (s : Stmt)
  | expr (e : Expr)
  | call (c : Call)

/-- The expression of an argument. -/
def Argument.value : Argument → Expr
  | positional value | keyword _ value | splat value | keywordSplat value => value

/-- The expression that one more comparison compares with. -/
def Link.operand : Link → Expr
  | mk _ _ operand => operand

/-- The two expressions of an entry of a map. -/
def Entry.parts : Entry → List Expr
  | mk key value => [key, value]

/-- The expressions inside a call. -/
def Call.operands : Call → List Expr
  | mk _ callee args => callee :: args.map Argument.value

/-- The expressions directly inside an expression that is no call. -/
def Expr.operands : Expr → List Expr
  | .var _ | .constant _ | .call _ => []
  | .slice base start stop step => base :: (start.toList ++ stop.toList ++ step.toList)
  | .unary _ operand => [operand]
  | .binary _ left right => [left, right]
  | .chain first links => first :: links.map Link.operand
  | .conditional condition value otherwise => condition :: value :: otherwise.toList
  | .filter _ subject args => subject.toList ++ args.map Argument.value
  | .test _ subject args => subject :: args.map Argument.value
  | .attribute subject _ => [subject]
  | .item subject subscript => [subject, subscript]
  | .list items => items
  | .map entries => entries.flatMap Entry.parts

/-- What stands in an expression. -/
def Expr.parts : Expr → List Part
  | .call c => [.call c]
  | e => e.operands.map .expr

/-- The two expressions of an assignment. -/
def Binding.parts (b : Binding) : List Expr := [b.target, b.value]

/-- The names that a statement gives to parameters or takes from elsewhere. -/
def Stmt.names : Stmt → List Expr
  | .importFrom _ names => names.flatMap fun (name, renamed) => name :: renamed.toList
  | .define _ params _ _ | .callBlock _ params _ _ => params
  | _ => []

/-- What stands in a statement. -/
def Stmt.parts : Stmt → List Part
  | .data _ => []
  | .emit value => [.expr value]
  | .forLoop target iter filter body otherwise =>
    .expr target :: .expr iter :: (filter.toList.map .expr ++ body.map .stmt ++ otherwise.map .stmt)
  | .ifElse condition body otherwise => .expr condition :: (body.map .stmt ++ otherwise.map .stmt)
  | .withBlock bindings body =>
    (bindings.flatMap Binding.parts).map .expr ++ body.map .stmt
  | .set target value => [.expr target, .expr value]
  | .setBlock target filter body => .expr target :: (filter.toList.map .expr ++ body.map .stmt)
  | .autoEscape enabled body => .expr enabled :: body.map .stmt
  | .filterBlock filter body => .expr filter :: body.map .stmt
  | .block _ body => body.map .stmt
  | .extend name => [.expr name]
  | .embed name => [.expr name]
  | .importAs source name => [.expr source, .expr name]
  | .importFrom source names => .expr source :: (Stmt.importFrom source names).names.map .expr
  | .define _ params defaults body =>
    params.map .expr ++ defaults.map .expr ++ body.map .stmt
  | .callBlock call params defaults body =>
    .call call :: (params.map .expr ++ defaults.map .expr ++ body.map .stmt)
  | .perform call => [.call call]

namespace Part

/-- The parts directly inside a part. -/
def children : Part → List Part
  | .tree t => t.body.map .stmt
  | .stmt s => s.parts
  | .expr e => e.parts
  | .call c => c.operands.map .expr

/-- Whether a part is a call. -/
def isCall : Part → Bool
  | .call _ => true
  | _ => false

/-- Whether a part is a chain of comparisons. -/
def isChain : Part → Bool
  | .expr (.chain _ _) => true
  | _ => false

/-- The names that a part gives or takes. -/
def names : Part → List Expr
  | .stmt s => s.names
  | _ => []

/-- The part at a position. -/
def at? : Part → List Nat → Option Part
  | p, [] => some p
  | p, i :: position => p.children[i]?.bind (·.at? position)

/-- Something holds of all parts inside a part, the part included. -/
def All (P : Part → Prop) (p : Part) : Prop := ∀ position q, p.at? position = some q → P q

/-- Whether something holds of all parts inside a part, if parts stand inside
    each other less than `n` deep. -/
def holdsTo (test : Part → Bool) : Nat → Part → Bool
  | 0, _ => false
  | n + 1, p => test p && p.children.all (holdsTo test n)

/-- No call occurs in a part. -/
def CallFree (p : Part) : Prop := p.All fun q => q.isCall = false

/-! ## Positions -/

theorem at?_nil (p : Part) : p.at? [] = some p := by
  rw [at?]

theorem at?_cons (p : Part) (i : Nat) (position : List Nat) :
    p.at? (i :: position) = p.children[i]?.bind (·.at? position) := by
  rw [at?]

theorem at?_append (p : Part) (above below : List Nat) :
    p.at? (above ++ below) = (p.at? above).bind (·.at? below) := by
  induction above generalizing p with
  | nil => simp [at?_nil]
  | cons i above ih =>
    rw [List.cons_append, at?_cons, at?_cons, Option.bind_assoc]
    exact Option.bind_congr fun q _ => ih q

theorem all_iff {P : Part → Prop} {p : Part} :
    p.All P ↔ P p ∧ ∀ child ∈ p.children, child.All P := by
  constructor
  · intro h
    refine ⟨h [] p (at?_nil p), fun child hc position q hq => ?_⟩
    obtain ⟨i, hi⟩ := List.getElem?_of_mem hc
    exact h (i :: position) q (by rw [at?_cons, hi]; exact hq)
  · rintro ⟨hp, hc⟩ position q hq
    cases position with
    | nil => rw [at?_nil, Option.some.injEq] at hq; exact hq ▸ hp
    | cons i position =>
      rw [at?_cons, Option.bind_eq_some_iff] at hq
      obtain ⟨child, hi, hq⟩ := hq
      exact hc child (List.mem_of_getElem? hi) position q hq

theorem all_of_holdsTo {test : Part → Bool} {n : Nat} {p : Part} (h : p.holdsTo test n = true) :
    p.All fun q => test q = true := by
  induction n generalizing p with
  | zero => simp [holdsTo] at h
  | succ n ih =>
    simp only [holdsTo, Bool.and_eq_true, List.all_eq_true] at h
    exact all_iff.2 ⟨h.1, fun child hc => ih (h.2 child hc)⟩

end Part

/-! ## Induction -/

theorem sizeOf_value_lt (a : Argument) : sizeOf a.value < sizeOf a := by
  cases a <;> simp only [Argument.value, Argument.positional.sizeOf_spec,
    Argument.keyword.sizeOf_spec, Argument.splat.sizeOf_spec, Argument.keywordSplat.sizeOf_spec]
    <;> omega

theorem sizeOf_arguments_lt {args : List Argument} {e : Expr}
    (h : e ∈ args.map Argument.value) : sizeOf e < sizeOf args := by
  obtain ⟨a, ha, rfl⟩ := List.mem_map.1 h
  exact Nat.lt_trans (sizeOf_value_lt a) (List.sizeOf_lt_of_mem ha)

theorem sizeOf_links_lt {links : List Link} {e : Expr} (h : e ∈ links.map Link.operand) :
    sizeOf e < sizeOf links := by
  obtain ⟨l, hl, rfl⟩ := List.mem_map.1 h
  have hlt := List.sizeOf_lt_of_mem hl
  obtain ⟨op, negated, operand⟩ := l
  simp only [Link.mk.sizeOf_spec] at hlt
  simp only [Link.operand]
  omega

theorem sizeOf_entries_lt {entries : List Entry} {e : Expr} (h : e ∈ entries.flatMap Entry.parts) :
    sizeOf e < sizeOf entries := by
  obtain ⟨entry, hentry, he⟩ := List.mem_flatMap.1 h
  have hlt := List.sizeOf_lt_of_mem hentry
  obtain ⟨key, value⟩ := entry
  simp only [Entry.mk.sizeOf_spec] at hlt
  simp only [Entry.parts, List.mem_cons, List.not_mem_nil, or_false] at he
  rcases he with rfl | rfl <;> omega

theorem sizeOf_toList_lt {o : Option Expr} {e : Expr} (h : e ∈ o.toList) : sizeOf e < sizeOf o := by
  rw [Option.mem_toList] at h
  simp [h]

theorem sizeOf_callOperand_lt {c : Call} {e : Expr} (h : e ∈ c.operands) : sizeOf e < sizeOf c := by
  obtain ⟨start, callee, args⟩ := c
  rw [Call.mk.sizeOf_spec]
  rcases List.mem_cons.1 h with rfl | h
  · omega
  · have := sizeOf_arguments_lt h
    omega

theorem sizeOf_exprOperand_lt {e e' : Expr} (h : e' ∈ e.operands) : sizeOf e' < sizeOf e := by
  cases e with
  | var | constant | call => simp [Expr.operands] at h
  | slice base start stop step =>
    rw [Expr.slice.sizeOf_spec]
    simp only [Expr.operands, List.mem_cons, List.mem_append] at h
    rcases h with rfl | (h | h) | h
    · omega
    · have := sizeOf_toList_lt h; omega
    · have := sizeOf_toList_lt h; omega
    · have := sizeOf_toList_lt h; omega
  | unary op operand => rw [List.mem_singleton.1 h, Expr.unary.sizeOf_spec]; omega
  | binary op left right =>
    rw [Expr.binary.sizeOf_spec]
    simp only [Expr.operands, List.mem_cons, List.not_mem_nil, or_false] at h
    rcases h with rfl | rfl <;> omega
  | chain first links =>
    rw [Expr.chain.sizeOf_spec]
    rcases List.mem_cons.1 h with rfl | h
    · omega
    · have := sizeOf_links_lt h; omega
  | conditional condition value otherwise =>
    rw [Expr.conditional.sizeOf_spec]
    simp only [Expr.operands, List.mem_cons] at h
    rcases h with rfl | rfl | h
    · omega
    · omega
    · have := sizeOf_toList_lt h; omega
  | filter name subject args =>
    rw [Expr.filter.sizeOf_spec]
    rcases List.mem_append.1 h with h | h
    · have := sizeOf_toList_lt h; omega
    · have := sizeOf_arguments_lt h; omega
  | test name subject args =>
    rw [Expr.test.sizeOf_spec]
    rcases List.mem_cons.1 h with rfl | h
    · omega
    · have := sizeOf_arguments_lt h; omega
  | «attribute» subject name => rw [List.mem_singleton.1 h, Expr.attribute.sizeOf_spec]; omega
  | item subject subscript =>
    rw [Expr.item.sizeOf_spec]
    simp only [Expr.operands, List.mem_cons, List.not_mem_nil, or_false] at h
    rcases h with rfl | rfl <;> omega
  | list items =>
    have hlt : sizeOf e' < sizeOf items := List.sizeOf_lt_of_mem h
    rw [Expr.list.sizeOf_spec]
    omega
  | map entries =>
    rw [Expr.map.sizeOf_spec]
    have := sizeOf_entries_lt h; omega

theorem sizeOf_exprs_lt {es : List Expr} {p : Part} (h : p ∈ es.map Part.expr) :
    sizeOf p < 1 + sizeOf es := by
  obtain ⟨e, he, rfl⟩ := List.mem_map.1 h
  have := List.sizeOf_lt_of_mem he
  rw [Part.expr.sizeOf_spec]
  omega

theorem sizeOf_option_lt {o : Option Expr} {p : Part} (h : p ∈ o.toList.map Part.expr) :
    sizeOf p < 1 + sizeOf o := by
  obtain ⟨e, he, rfl⟩ := List.mem_map.1 h
  have := sizeOf_toList_lt he
  rw [Part.expr.sizeOf_spec]
  omega

theorem sizeOf_stmts_lt {body : List Stmt} {p : Part} (h : p ∈ body.map Part.stmt) :
    sizeOf p < 1 + sizeOf body := by
  obtain ⟨s, hs, rfl⟩ := List.mem_map.1 h
  have := List.sizeOf_lt_of_mem hs
  rw [Part.stmt.sizeOf_spec]
  omega

theorem sizeOf_bindings_lt {bindings : List Binding} {p : Part}
    (h : p ∈ (bindings.flatMap Binding.parts).map Part.expr) : sizeOf p < 1 + sizeOf bindings := by
  obtain ⟨e, he, rfl⟩ := List.mem_map.1 h
  obtain ⟨⟨target, value⟩, hb, he⟩ := List.mem_flatMap.1 he
  have hlt := List.sizeOf_lt_of_mem hb
  simp only [Binding.mk.sizeOf_spec] at hlt
  simp only [Binding.parts, List.mem_cons, List.not_mem_nil, or_false] at he
  rw [Part.expr.sizeOf_spec]
  rcases he with rfl | rfl <;> omega

theorem sizeOf_imports_lt {source : Expr} {names : List (Expr × Option Expr)} {p : Part}
    (h : p ∈ (Stmt.importFrom source names).names.map Part.expr) :
    sizeOf p < 1 + sizeOf names := by
  obtain ⟨e, he, rfl⟩ := List.mem_map.1 h
  obtain ⟨⟨name, renamed⟩, hn, he⟩ := List.mem_flatMap.1 he
  have hlt := List.sizeOf_lt_of_mem hn
  simp only [Prod.mk.sizeOf_spec] at hlt
  rw [Part.expr.sizeOf_spec]
  rcases List.mem_cons.1 he with rfl | he
  · omega
  · have := sizeOf_toList_lt he
    omega

theorem sizeOf_stmtPart_lt {s : Stmt} {p : Part} (h : p ∈ s.parts) : sizeOf p < 1 + sizeOf s := by
  -- each part stands in one field of the statement, and is smaller than that field
  have hexprs := @sizeOf_exprs_lt
  have hoption := @sizeOf_option_lt
  have hstmts := @sizeOf_stmts_lt
  have hbindings := @sizeOf_bindings_lt
  have himports := @sizeOf_imports_lt
  cases s <;> simp only [Stmt.parts, List.mem_cons, List.mem_append, List.not_mem_nil] at h
  all_goals grind [Part.expr.sizeOf_spec, Part.call.sizeOf_spec]

theorem Part.sizeOf_child_lt {p child : Part} (h : child ∈ p.children) : sizeOf child < sizeOf p := by
  cases p with
  | tree t =>
    obtain ⟨body⟩ := t
    have hlt : sizeOf child < 1 + sizeOf body := sizeOf_stmts_lt h
    rw [Part.tree.sizeOf_spec, Tree.mk.sizeOf_spec]
    omega
  | stmt s =>
    rw [Part.stmt.sizeOf_spec]
    exact sizeOf_stmtPart_lt h
  | expr e =>
    cases e with
    | call c => rw [List.mem_singleton.1 h]; simp
    | _ =>
      obtain ⟨e, he, rfl⟩ := List.mem_map.1 h
      have := sizeOf_exprOperand_lt he
      rw [Part.expr.sizeOf_spec, Part.expr.sizeOf_spec]
      omega
  | call c =>
    obtain ⟨e, he, rfl⟩ := List.mem_map.1 h
    have := sizeOf_callOperand_lt he
    rw [Part.expr.sizeOf_spec, Part.call.sizeOf_spec]
    omega

/-- **Induction over parts.**  What passes from all children of a part to the
    part holds of every part. -/
theorem Part.induct {motive : Part → Prop}
    (step : ∀ p : Part, (∀ child ∈ p.children, motive child) → motive p) (p : Part) : motive p :=
  step p fun child _ => Part.induct step child
termination_by sizeOf p
decreasing_by exact Part.sizeOf_child_lt ‹_›

end PotCatalog.Template
