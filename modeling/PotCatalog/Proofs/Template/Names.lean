/-
  Names in templates.

  The names that a statement gives to its parameters, or takes from another
  template, are variables, so that no calls stand in them.  This is a fact about
  the grammar: every rule for statements yields statements with plain names, if
  the rules it refers to do (`statement_yields`), and so do all rules, whatever
  their depth.

  `parse_plainNames`: the names in a template that parses are plain.
-/
import PotCatalog.Proofs.Template.Survey
import PotCatalog.Template.Statement

namespace PotCatalog.Template

/-! ## Plain names -/

/-- An expression that is a variable. -/
def Expr.IsVar (e : Expr) : Prop := ∃ name, e = .var name

/-- The statements directly inside a statement. -/
def Stmt.inner : Stmt → List Stmt
  | .forLoop _ _ _ body otherwise | .ifElse _ body otherwise => body ++ otherwise
  | .withBlock _ body | .setBlock _ _ body | .autoEscape _ body | .filterBlock _ body
  | .block _ body | .define _ _ _ body | .callBlock _ _ _ body => body
  | _ => []

/-- No calls stand in the names of a statement, nor in those of the statements
    inside it. -/
def Stmt.Plain (s : Stmt) : Prop := (Part.stmt s).PlainNames

theorem Expr.IsVar.callFree {e : Expr} (h : e.IsVar) : (Part.expr e).CallFree := by
  obtain ⟨name, rfl⟩ := h
  exact Part.all_iff.2 ⟨rfl, fun _ hchild => absurd hchild List.not_mem_nil⟩

theorem Part.names_of_ne_stmt {p : Part} (h : ∀ s, p ≠ .stmt s) : p.names = [] := by
  cases p with
  | stmt s => exact absurd rfl (h s)
  | _ => rfl

/-- Below an expression there are no statements. -/
theorem Part.not_stmt_of_mem_children {p child : Part} (hstmt : ∀ s, p ≠ .stmt s)
    (htree : ∀ t, p ≠ .tree t) (hchild : child ∈ p.children) :
    (∀ s, child ≠ .stmt s) ∧ ∀ t, child ≠ .tree t := by
  cases p with
  | tree t => exact absurd rfl (htree t)
  | stmt s => exact absurd rfl (hstmt s)
  | call c =>
    obtain ⟨e, -, rfl⟩ := List.mem_map.1 hchild
    simp
  | expr e =>
    cases e with
    | call c =>
      obtain rfl := List.mem_singleton.1 hchild
      simp
    | _ =>
      obtain ⟨e, -, rfl⟩ := List.mem_map.1 hchild
      simp

theorem Part.plainNames_of_not_stmt {p : Part} (hstmt : ∀ s, p ≠ .stmt s)
    (htree : ∀ t, p ≠ .tree t) : p.PlainNames := by
  induction p using Part.induct with
  | step p ih =>
    refine Part.all_iff.2 ⟨fun e he => ?_, fun child hchild => ?_⟩
    · rw [Part.names_of_ne_stmt hstmt] at he
      exact absurd he List.not_mem_nil
    · have hbelow := Part.not_stmt_of_mem_children hstmt htree hchild
      exact ih child hchild hbelow.1 hbelow.2

theorem Stmt.mem_inner_of_mem_parts {s q : Stmt} (h : .stmt q ∈ s.parts) : q ∈ s.inner := by
  cases s <;> simp_all [Stmt.parts, Stmt.inner]

theorem Stmt.not_tree_of_mem_parts {s : Stmt} {t : Tree} : .tree t ∉ s.parts := by
  cases s <;> simp [Stmt.parts]

/-- A statement whose names are variables has plain names, if those inside it do. -/
theorem Stmt.Plain.of_inner {s : Stmt} (hnames : ∀ e ∈ s.names, e.IsVar)
    (hinner : ∀ q ∈ s.inner, q.Plain) : s.Plain := by
  refine Part.all_iff.2 ⟨fun e he => (hnames e he).callFree, fun child hchild => ?_⟩
  by_cases hstmt : ∃ q, child = .stmt q
  · obtain ⟨q, rfl⟩ := hstmt
    exact hinner q (mem_inner_of_mem_parts hchild)
  · refine Part.plainNames_of_not_stmt (not_exists.1 hstmt) ?_
    rintro t rfl
    exact not_tree_of_mem_parts hchild

/-! ## What parsers yield -/

namespace Parser

variable {α β : Type}

/-- All results of a parser have a property. -/
def Yields (p : Parser α) (P : α → Prop) : Prop := ∀ s a s', p s = .ok (a, s') → P a

section
variable {p : Parser α} {P : α → Prop} {R : β → Prop}

theorem Yields.pure {a : α} (h : P a) : Yields (Pure.pure a) P := by
  intro s a' s' hrun
  cases hrun
  exact h

theorem Yields.fail {fault : Fault} : Yields (Parser.fail fault) P := by
  intro s a s' hrun
  cases hrun

theorem Yields.bind {f : α → Parser β} (hp : Yields p P) (hf : ∀ a, P a → Yields (f a) R) :
    Yields (p >>= f) R := by
  intro s b s' hrun
  change (p s >>= fun (a, s) => f a s) = .ok (b, s') at hrun
  cases ha : p s with
  | error e =>
    rw [ha] at hrun
    cases hrun
  | ok result =>
    obtain ⟨a, middle⟩ := result
    rw [ha] at hrun
    exact hf a (hp s a middle ha) middle b s' hrun

/-- A step whose result does not matter. -/
theorem Yields.step {f : α → Parser β} (hf : ∀ a, Yields (f a) R) : Yields (p >>= f) R :=
  Yields.bind (P := fun _ => True) (fun _ _ _ _ => trivial) fun a _ => hf a

/-- A choice between two steps whose results do not matter. -/
theorem Yields.choice {c : Prop} [Decidable c] {q : Parser α} {next : α → Parser β}
    (hnext : ∀ a, Yields (next a) R) :
    Yields (if c then p >>= next else q >>= next) R := by
  split
  · exact .step hnext
  · exact .step hnext

/-- A step that is not always taken. -/
theorem Yields.optional {c : Prop} [Decidable c] {p : Parser PUnit} {next : PUnit → Parser β}
    (hnext : Yields (next ⟨⟩) R) : Yields (if c then p >>= next else next ⟨⟩) R := by
  split
  · exact .step fun _ => hnext
  · exact hnext

-- Induction on the number of rounds; the loop stops at the bound with a fault
theorem Yields.repeatFrom {body : α → Parser (α ⊕ β)} {I : α → Prop}
    (h : ∀ a, I a → Yields (body a) (Sum.elim I R)) (n : Nat) {a : α} (ha : I a) :
    Yields (Parser.repeatFrom body n a) R := by
  induction n generalizing a with
  | zero => exact .fail
  | succ n ih =>
    intro s b s' hrun
    rw [Parser.repeatFrom] at hrun
    dsimp only at hrun
    split at hrun
    · cases hrun
    · rename_i a' middle hbody
      exact ih (h a ha s _ middle hbody) middle b s' hrun
    · rename_i b' middle hbody
      cases hrun
      exact h a ha s _ s' hbody

/-- **A loop** keeps what each of its rounds keeps. -/
theorem Yields.loop {start : α} {body : α → Parser (α ⊕ β)} {I : α → Prop}
    (h : ∀ a, I a → Yields (body a) (Sum.elim I R)) (hstart : I start) :
    Yields (loop start body) R :=
  .step fun s => .repeatFrom h (s.size + 1) hstart

theorem Yields.deeper (h : Yields p P) : Yields (deeper p) P := by
  refine .step fun s => ?_
  dsimp only
  split
  · exact .fail
  · exact .step fun _ => h.bind fun a ha => .step fun _ => .pure ha

/-- A round of a loop over items with commas between them. -/
theorem Yields.separated {closes : Parser Bool} {isFirst : Bool} {done more : Parser α}
    (hdone : Yields done P) (hmore : Yields more P) :
    Yields (do
      if ← closes then done
      else if !isFirst then
        expectSymbol .comma
        if ← closes then done else more
      else more) P := by
  refine .step fun closed => ?_
  split
  · exact hdone
  · split
    · refine .step fun _ => .step fun closed => ?_
      split
      · exact hdone
      · exact hmore
    · exact hmore

end

end Parser

open PotCatalog.Template.Parser

/-! ## Rules -/

/-- The statements that a rule yields have plain names. -/
def Goal.Plain : (g : Goal) → g.Result → Prop
  | .body _, stmts => ∀ s ∈ stmts, s.Plain
  | .conditional, s => s.Plain
  | .expression, _ | .target _, _ => True

/-- All rules yield statements with plain names. -/
def PlainRules (rules : Rules) : Prop := ∀ g, Yields (rules g) g.Plain

theorem assignedName_yields : Yields (assignedName false) Expr.IsVar := by
  refine .step fun name => .optional (Yields.loop (I := Expr.IsVar) ?_ ⟨name, rfl⟩)
  exact fun subject hsubject => .pure hsubject

section
variable {rules : Rules} (h : PlainRules rules)
include h

theorem PlainRules.body (closers : List String) :
    Yields (rules (.body closers)) fun stmts => ∀ s ∈ stmts, s.Plain :=
  h (.body closers)

theorem PlainRules.conditional : Yields (rules .conditional) Stmt.Plain := h .conditional

theorem closedBody_yields (closer : String) :
    Yields (closedBody rules closer) fun stmts => ∀ s ∈ stmts, s.Plain :=
  (h.body [closer]).bind fun _ hbody => .step fun _ => .pure hbody

theorem macroBody_yields (closer : String) :
    Yields (macroBody rules closer) fun stmts => ∀ s ∈ stmts, s.Plain :=
  .step fun _ => .step fun _ => .step fun _ => (h.body [closer]).bind fun _ hbody =>
    .step fun _ => .step fun _ => .pure hbody

theorem forLoop_yields : Yields (forLoop rules) Stmt.Plain := by
  refine .step fun target => .step fun _ => .step fun iter => .step fun word => ?_
  refine .choice fun filter => .step fun _ => .step fun _ => ?_
  refine (h.body _).bind fun body hbody => .step fun word => ?_
  have hend : ∀ otherwise : List Stmt, (∀ s ∈ otherwise, s.Plain) →
      Yields (do let _ ← next; return Stmt.forLoop target iter filter body otherwise) Stmt.Plain :=
    fun otherwise hotherwise => .step fun _ => .pure <| .of_inner (by simp [Stmt.names])
      (List.forall_mem_append.2 ⟨hbody, hotherwise⟩)
  dsimp only
  split
  · exact .step fun _ => (h.body _).bind hend
  · exact hend [] (by simp)

theorem conditional_yields : Yields (conditional rules) Stmt.Plain := by
  refine .step fun condition => .step fun _ => (h.body _).bind fun body hbody => ?_
  refine .step fun token => ?_
  have hend : ∀ otherwise : List Stmt, (∀ s ∈ otherwise, s.Plain) →
      (Stmt.ifElse condition body otherwise).Plain :=
    fun otherwise hotherwise => .of_inner (by simp [Stmt.names])
      (List.forall_mem_append.2 ⟨hbody, hotherwise⟩)
  split
  · exact .step fun _ => (closedBody_yields h _).bind fun otherwise ho => .pure (hend otherwise ho)
  · exact h.conditional.bind fun s hs => .pure (hend [s] (by simpa using hs))
  · exact .pure (hend [] (by simp))

omit h in
/-- A statement without names has plain names if the statements of its body do. -/
theorem Stmt.Plain.of_body {s : Stmt} {body : List Stmt} (hnames : s.names = [])
    (hinner : s.inner = body) (hbody : ∀ q ∈ body, q.Plain) : s.Plain :=
  .of_inner (fun _ he => absurd (hnames ▸ he) List.not_mem_nil) (hinner ▸ hbody)

omit h in
/-- A statement without names and without a body. -/
theorem Stmt.Plain.of_bare {s : Stmt} (hnames : s.names = []) (hinner : s.inner = []) : s.Plain :=
  .of_body hnames hinner fun _ hq => absurd hq List.not_mem_nil

theorem withBlock_yields : Yields (withBlock rules) Stmt.Plain :=
  .step fun _ => .step fun _ => (closedBody_yields h _).bind fun _ hbody =>
    .pure (.of_body rfl rfl hbody)

theorem setStatement_yields : Yields (setStatement rules) Stmt.Plain := by
  refine .step fun target => .step fun filtered => ?_
  split
  · refine .step fun pipe => ?_
    exact .choice fun filter => .step fun _ => (closedBody_yields h _).bind fun _ hbody =>
      .pure (.of_body rfl rfl hbody)
  · exact .step fun _ => .step fun value => .pure (.of_bare rfl rfl)

theorem block_yields : Yields (block rules) Stmt.Plain := by
  refine .step fun s => .optional (.step fun name => .step fun s => .optional ?_)
  refine .step fun _ => .step fun _ => .step fun required => .step fun _ => ?_
  refine (closedBody_yields h _).bind fun body hbody => .optional (.step fun token => ?_)
  have hend : Yields (pure (Stmt.block name body)) Stmt.Plain := .pure (.of_body rfl rfl hbody)
  dsimp only
  split
  · split
    · exact .step fun _ => hend
    · exact .step fun _ => hend
  · exact hend

omit h in
theorem embed_yields : Yields (embed rules) Stmt.Plain := by
  refine .step fun name => .step fun _ => .step fun ignores => ?_
  dsimp only
  split
  · exact .step fun _ => .step fun _ => .pure (.of_bare rfl rfl)
  · exact .pure (.of_bare rfl rfl)

omit h in
theorem importAs_yields : Yields (importAs rules) Stmt.Plain :=
  .step fun _ => .step fun _ => .step fun _ => .step fun _ => .pure (.of_bare rfl rfl)

omit h in
/-- A name is taken from another template, perhaps under a name of its own. -/
theorem importFrom_yields : Yields (importFrom rules) Stmt.Plain := by
  refine .step fun source => .step fun _ => ?_
  refine Yields.loop (I := fun (names : List (Expr × Option Expr)) =>
    ∀ taken ∈ names, ∀ e ∈ taken.1 :: taken.2.toList, e.IsVar) (fun names hnames => ?_) (by simp)
  refine .separated (.pure (Stmt.Plain.of_inner (fun e he => ?_) (by simp [Stmt.inner]))) ?_
  · obtain ⟨taken, htaken, he⟩ := List.mem_flatMap.1 he
    exact hnames taken (List.mem_reverse.1 htaken) e he
  · refine assignedName_yields.bind fun name hname => .step fun word => ?_
    dsimp only
    split
    · rw [bind_map_left]
      refine assignedName_yields.bind fun known hknown => .pure ?_
      exact List.forall_mem_cons.2 ⟨by simp [hname, hknown], hnames⟩
    · exact .pure (List.forall_mem_cons.2 ⟨by simp [hname], hnames⟩)

omit h in
theorem parameters_yields :
    Yields (parameters rules) fun read => ∀ e ∈ read.1, e.IsVar := by
  refine Yields.loop (I := fun (x : List Expr × List Expr) => ∀ e ∈ x.1, e.IsVar)
    (fun (names, defaults) hnames => ?_) (by simp)
  refine .separated (.pure (by simpa using hnames)) ?_
  refine assignedName_yields.bind fun name hname => .step fun assigns => ?_
  have hmore : ∀ e ∈ name :: names, e.IsVar := List.forall_mem_cons.2 ⟨hname, hnames⟩
  dsimp only
  split
  · exact .step fun value => .pure hmore
  · exact .optional (.pure hmore)

theorem define_yields : Yields (define rules) Stmt.Plain := by
  refine .step fun name => .step fun _ => parameters_yields.bind fun (params, defaults) hnames => ?_
  exact (macroBody_yields h _).bind fun body hbody => .pure (.of_inner hnames hbody)

theorem callBlock_yields : Yields (callBlock rules) Stmt.Plain := by
  have hcall : ∀ params defaults : List Expr, (∀ e ∈ params, e.IsVar) → Yields
      (do
        let call ← callOnly rules
        return Stmt.callBlock call params defaults (← macroBody rules "endcall")) Stmt.Plain :=
    fun params defaults hnames => .step fun call => (macroBody_yields h _).bind fun body hbody =>
      .pure (.of_inner hnames hbody)
  refine .step fun opens => ?_
  dsimp only
  split
  · exact parameters_yields.bind fun (params, defaults) hnames => hcall params defaults hnames
  · exact hcall [] [] (by simp)

theorem statement_yields : Yields (statement rules) Stmt.Plain := by
  refine .deeper (.step fun token => ?_)
  split
  · exact .fail
  · exact forLoop_yields h
  · exact h.conditional
  · exact withBlock_yields h
  · exact setStatement_yields h
  · exact .step fun enabled => .step fun _ => (closedBody_yields h _).bind fun _ hbody =>
      .pure (.of_body rfl rfl hbody)
  · exact .step fun filter => .step fun _ => (closedBody_yields h _).bind fun _ hbody =>
      .pure (.of_body rfl rfl hbody)
  · exact block_yields h
  · exact .step fun name => .pure (.of_bare rfl rfl)
  · exact embed_yields
  · exact importAs_yields
  · exact importFrom_yields
  · exact define_yields h
  · exact callBlock_yields h
  · exact .step fun call => .pure (.of_bare rfl rfl)
  · exact .fail
  · exact .fail

theorem body_yields (closers : List String) :
    Yields (body rules closers) fun stmts => ∀ s ∈ stmts, s.Plain := by
  refine Yields.loop (I := fun acc => ∀ s ∈ acc, s.Plain) (fun acc hacc => ?_) (by simp)
  have hdone : ∀ s ∈ acc.reverse, s.Plain := by simpa using hacc
  have hmore : ∀ s : Stmt, s.Plain → ∀ q ∈ s :: acc, q.Plain :=
    fun s hs => List.forall_mem_cons.2 ⟨hs, hacc⟩
  refine .step fun token => ?_
  split
  · exact .pure hdone
  · exact .pure (hmore _ (.of_bare rfl rfl))
  · exact .step fun value => .step fun _ => .pure (hmore _ (.of_bare rfl rfl))
  · refine .step fun token => ?_
    split
    · exact .fail
    · split
      · exact .pure hdone
      · exact (statement_yields h).bind fun s hs => .step fun _ => .pure (hmore s hs)
  · exact .fail

end

/-! ## Templates -/

theorem rulesOver_plain {rules : Rules} (h : PlainRules rules) : PlainRules (rulesOver rules)
  | .expression => fun _ _ _ _ => trivial
  | .body closers => body_yields h closers
  | .conditional => conditional_yields h
  | .target _ => fun _ _ _ _ => trivial

theorem rulesTo_plain (n : Nat) : PlainRules (rulesTo n) := by
  induction n with
  | zero => exact fun g => .fail
  | succ n ih => exact fun g => rulesOver_plain ih g

/-- **The names of a template that parses** are variables, and no calls stand in
    them. -/
theorem parse_plainNames {source : String} {tree : Tree} (h : parse source = .ok tree) :
    (Part.tree tree).PlainNames := by
  unfold parse at h
  dsimp only at h
  split at h
  · rename_i stmts s' hrun
    cases h
    have hplain := (rulesTo_plain _).body [] _ stmts s' hrun
    refine Part.all_iff.2 ⟨fun e he => absurd he List.not_mem_nil, fun child hchild => ?_⟩
    obtain ⟨s, hs, rfl⟩ := List.mem_map.1 hchild
    exact hplain s hs
  · cases h

end PotCatalog.Template
