/-
  Calls and document order.

  Each rule of the grammar of statements lays the statement it yields, and so all
  rules do, whatever their depth.  A template that parses is therefore written in
  tokens that come one after another, and its calls are listed in the order of
  their offsets exactly if it is tidy (`calls_inOrder_iff`).
-/
import PotCatalog.Proofs.Template.Offsets
import PotCatalog.Proofs.Template.Phrases

namespace PotCatalog.Template

open PotCatalog.Template.Parser

section
variable {rules : Rules}

/-! ## Assignment -/

theorem assignedName_lays (dotted : Bool) : Lays [] (assignedName dotted) fun e => [.expr e] := by
  refine skims_expectName.andThen fun name => Lays.optional Ensures.fail ?_
  refine Lays.mono (?_ : Lays [.expr (.var name)] _ _) fun _ _ => .of_written rfl trivial
  refine Lays.loop (I := fun subject => [.expr subject]) fun subject => ?_
  dsimp only
  split
  · refine (skims_skips _).andThen fun dot => ?_
    split
    · exact skims_expectName.andThen fun name => .node (.expr (.attribute subject name)) rfl rfl
    · exact .pure fun _ hparts => hparts
  · exact .pure fun _ hparts => hparts

theorem standAt_targetOf {names : List Expr} {offsets : List Nat} (commas : Bool)
    (hparts : StandAt (names.map .expr) offsets) :
    StandAt [.expr (targetOf names commas)] offsets := by
  unfold targetOf
  split
  · exact hparts
  · exact .of_written rfl hparts

variable (h : LayParts rules)
include h

/-- A name, or names in parentheses. -/
theorem nameOrTarget_lays {β : Type} {given : List Part} {next : Expr → Parser β}
    {final : β → List Part} (dotted : Bool)
    (hnext : ∀ e, Lays (given ++ [.expr e]) (next e) final) :
    Lays given (do
      if ← skipsSymbol .parenOpen then
        let inner ← rules (.target dotted)
        expectSymbol .parenClose
        let name ← pure inner
        next name
      else
        let name ← assignedName dotted
        next name) final := by
  refine (skims_skips _).andThen fun opens => ?_
  split
  · refine (h.target dotted).andThen fun inner => (skims_expectThat _ _).andThen fun _ => ?_
    rw [pure_bind]
    exact hnext inner
  · exact (assignedName_lays dotted).andThen hnext

theorem target_lays (dotted : Bool) : Lays [] (target rules dotted) fun e => [.expr e] := by
  refine Lays.loop (I := fun (x : List Expr × Bool) => x.1.reverse.map .expr) fun (acc, commas) => ?_
  refine Lays.optional (skims_expectThat _ _) ((skims_sees _).andThen fun ends => ?_)
  split
  · exact .pure fun _ hparts => standAt_targetOf commas hparts
  · refine nameOrTarget_lays h dotted fun name => (skims_sees _).andThen fun comma => ?_
    have hacc : acc.reverse.map Part.expr ++ [.expr name] = (name :: acc).reverse.map .expr := by
      simp
    rw [hacc]
    split
    · exact .pure fun _ hparts => hparts
    · exact .pure fun _ hparts => standAt_targetOf commas hparts

/-! ## Statements with a body -/

theorem closedBody_lays (closer : String) :
    Lays [] (closedBody rules closer) fun body => body.map .stmt :=
  (h.body [closer]).bind fun _ => skims_next.andThen fun _ => .pure fun _ hparts => hparts

theorem forLoop_lays : Lays [] (forLoop rules) fun s => [.stmt s] := by
  refine (h.target false).bind fun target => (skims_expectThat _ _).andThen fun _ => ?_
  refine (disjunctions_lays h).andThen fun iter => (skims_skips _).andThen fun word => ?_
  refine Lays.when h.expression fun filter => (skims_skips _).andThen fun _ => ?_
  refine (skims_expectThat _ _).andThen fun _ => (h.body ["endfor", "else"]).andThen fun body => ?_
  refine (skims_skips _).andThen fun word => ?_
  have hend : ∀ otherwise : List Stmt,
      Lays ([.expr target] ++ [.expr iter] ++ filter.toList.map .expr ++ body.map .stmt ++
          otherwise.map .stmt)
        (do let _ ← next; return Stmt.forLoop target iter filter body otherwise)
        fun s => [.stmt s] := by
    refine fun otherwise => skims_next.andThen fun _ => .pure fun _ hparts => .of_written rfl ?_
    simpa [Part.written, Part.visited, Part.children, Stmt.parts] using hparts
  dsimp only
  split
  · exact (skims_expectThat _ _).andThen fun _ => (h.body ["endfor"]).andThen hend
  · have hnone := hend []
    rw [List.map_nil, List.append_nil] at hnone
    exact hnone

theorem conditional_lays : Lays [] (conditional rules) fun s => [.stmt s] := by
  refine (disjunctions_lays h).bind fun condition => (skims_expectThat _ _).andThen fun _ => ?_
  refine (h.body ["endif", "else", "elif"]).andThen fun body => skims_next.andThen fun token => ?_
  split
  · refine (skims_expectThat _ _).andThen fun _ => (closedBody_lays h "endif").andThen fun otherwise => ?_
    exact .node (.stmt (.ifElse condition body otherwise)) rfl rfl
  · exact h.conditional.andThen fun s => .node (.stmt (.ifElse condition body [s])) rfl rfl
  · refine .pure fun _ hparts => .of_written rfl ?_
    simpa [Part.written, Part.visited, Part.children, Stmt.parts] using hparts

theorem withBlock_lays : Lays [] (withBlock rules) fun s => [.stmt s] := by
  refine Lays.bind (?_ : Lays [] _ fun (bindings : List Binding) =>
    (bindings.flatMap Binding.parts).map .expr) fun bindings => ?_
  · refine Lays.loop (I := fun (acc : List Binding) =>
      (acc.reverse.flatMap Binding.parts).map .expr) fun acc => (skims_sees _).andThen fun ends => ?_
    split
    · exact .pure fun _ hparts => hparts
    · refine Lays.optional (skims_expectThat _ _) (nameOrTarget_lays h false fun target => ?_)
      refine (skims_expectThat _ _).andThen fun _ => h.expression.andThen fun value => ?_
      exact .pure fun _ hparts => by simpa [Binding.parts] using hparts
  · refine (skims_expectThat _ _).andThen fun _ => (closedBody_lays h "endwith").andThen fun body => ?_
    exact .node (.stmt (.withBlock bindings body)) rfl rfl

theorem filterChain_lays : Lays [] (filterChain rules) fun e => [.expr e] := by
  refine Lays.loop (I := fun (chain : Option Expr) => chain.toList.map .expr) fun chain => ?_
  refine (skims_sees _).andThen fun ends => ?_
  dsimp only
  split
  · split
    · exact .pure fun _ hparts => hparts
    · exact Ensures.fail_bind
  · refine Lays.optional (skims_expectThat _ _) (skims_dottedName.andThen fun name => ?_)
    refine (optionalArguments_lays h).andThen fun args => .pure fun _ hparts => .of_written rfl ?_
    simpa [Part.written, Part.visited, Part.children, Expr.parts, Expr.operands] using hparts

theorem assignedValue_lays : Lays [] (assignedValue rules) fun e => [.expr e] := by
  refine h.expression.bind fun first => (skims_sees _).andThen fun comma => ?_
  split
  · refine Lays.loop (I := fun (acc : List Expr) => acc.reverse.map .expr) fun acc => ?_
    refine (skims_skips _).andThen fun comma => ?_
    split
    · refine (skims_sees _).andThen fun ends => ?_
      split
      · exact .node (.expr (.list acc.reverse)) rfl rfl
      · exact h.expression.andThen fun e => .pure fun _ hparts => by simpa using hparts
    · exact .node (.expr (.list acc.reverse)) rfl rfl
  · exact .pure fun _ hparts => hparts

theorem setStatement_lays : Lays [] (setStatement rules) fun s => [.stmt s] := by
  refine (h.target true).bind fun target => (skims_sees _).andThen fun isBlock => ?_
  split
  · refine (skims_skips _).andThen fun pipe => Lays.when (filterChain_lays h) fun filter => ?_
    refine (skims_expectThat _ _).andThen fun _ => (closedBody_lays h "endset").andThen fun body => ?_
    rw [List.append_assoc]
    exact .node (.stmt (.setBlock target filter body)) rfl rfl
  · refine (skims_expectThat _ _).andThen fun _ => (assignedValue_lays h).andThen fun value => ?_
    exact .node (.stmt (.set target value)) rfl rfl

theorem block_lays : Lays [] (block rules) fun s => [.stmt s] := by
  refine Ensures.get fun s => Lays.optional Ensures.fail ?_
  refine skims_expectName.andThen fun name => Ensures.get fun s => Lays.optional Ensures.fail ?_
  refine Ensures.change ?_ (Skims.andThen (skims_skips _) fun _ => ?_)
  · exact fun _ => rfl
  refine (skims_skips _).andThen fun required => ?_
  refine (skims_expectThat _ _).andThen fun _ => (closedBody_lays h "endblock").andThen fun body => ?_
  refine Lays.optional Ensures.fail (skims_peek.andThen fun token => ?_)
  have hblock : Lays (body.map .stmt) (pure (Stmt.block name body)) fun s => [.stmt s] :=
    .node (.stmt (.block name body)) rfl rfl
  dsimp only
  split
  · split
    · exact skims_next.andThen fun _ => hblock
    · exact Ensures.fail_bind
  · exact hblock

/-! ## Statements about other templates -/

omit h in
theorem skims_contextMark : Skims contextMark := by
  refine (skims_skips _).bind fun mark => ?_
  split
  · exact (skims_expectThat _ _).bind fun _ => .pure
  · exact .pure

theorem embed_lays : Lays [] (embed rules) fun s => [.stmt s] := by
  refine h.expression.bind fun name => skims_contextMark.andThen fun _ => ?_
  refine (skims_skips _).andThen fun ignore => ?_
  have hembed : Lays [.expr name] (pure (Stmt.embed name)) fun s => [.stmt s] :=
    .node (.stmt (.embed name)) rfl rfl
  dsimp only
  split
  · exact (skims_expectThat _ _).andThen fun _ => skims_contextMark.andThen fun _ => hembed
  · exact hembed

theorem importAs_lays : Lays [] (importAs rules) fun s => [.stmt s] := by
  refine h.expression.bind fun source => (skims_expectThat _ _).andThen fun _ => ?_
  refine h.expression.andThen fun name => skims_contextMark.andThen fun _ => ?_
  exact .node (.stmt (.importAs source name)) rfl rfl

omit h in
theorem skims_endsNames : Skims endsNames := by
  refine (skims_sees _).bind fun ends => ?_
  split
  · exact .pure
  · exact skims_contextMark

theorem importFrom_lays : Lays [] (importFrom rules) fun s => [.stmt s] := by
  refine h.expression.bind fun source => (skims_expectThat _ _).andThen fun _ => ?_
  refine Lays.loop (I := fun _ => [.expr source]) fun names => ?_
  refine Lays.separated skims_endsNames (.node (.stmt (.importFrom source names.reverse)) rfl rfl) ?_
  refine (assignedName_lays false).andThen fun name => (skims_skips _).andThen fun word => ?_
  exact .when (assignedName_lays false) fun known => .pure fun _ hparts => hparts.left.left

/-! ## Macros and calls -/

theorem parameters_lays :
    Lays [] (parameters rules) fun (_, defaults) => defaults.map .expr := by
  refine Lays.loop (I := fun (x : List Expr × List Expr) => x.2.reverse.map .expr)
    fun (names, defaults) => ?_
  refine Lays.separated (skims_skips _) (.pure fun _ hparts => hparts) ?_
  refine (assignedName_lays false).skims.andThen fun name => (skims_skips _).andThen fun assigns => ?_
  dsimp only
  split
  · exact h.expression.andThen fun value => .pure fun _ hparts => by simpa using hparts
  · exact .optional (skims_expectThat _ _) (.pure fun _ hparts => hparts)

theorem macroBody_lays (closer : String) :
    Lays [] (macroBody rules closer) fun body => body.map .stmt := by
  refine (skims_expectThat _ _).andThen fun _ => Ensures.get fun s => Ensures.change ?_ ?_
  · exact fun _ => rfl
  refine (h.body [closer]).bind fun body => Ensures.change ?_ ?_
  · exact fun _ => rfl
  exact skims_next.andThen fun _ => .pure fun _ hparts => hparts

theorem define_lays : Lays [] (define rules) fun s => [.stmt s] := by
  refine skims_expectName.andThen fun name => (skims_expectThat _ _).andThen fun _ => ?_
  refine (parameters_lays h).bind fun (params, defaults) => ?_
  refine (macroBody_lays h "endmacro").andThen fun body => ?_
  exact .node (.stmt (.define name params defaults body)) rfl rfl

omit h in
/-- The call of an expression that is one. -/
theorem standAt_call {c : Call} {offsets : List Nat} (hparts : StandAt [.expr (.call c)] offsets) :
    StandAt [.call c] offsets := by
  obtain ⟨hstarts, hinOrder⟩ := standAt_singleton.1 hparts
  refine standAt_singleton.2 ⟨hstarts, fun hinc => (hinOrder hinc).trans ?_⟩
  rw [@Part.tidy_iff (.expr (.call c))]
  exact ⟨fun htidy => htidy.2 _ List.mem_cons_self,
    fun htidy => ⟨trivial, fun q hq => List.mem_singleton.1 hq ▸ htidy⟩⟩

theorem callOnly_lays : Lays [] (callOnly rules) fun c => [.call c] := by
  refine h.expression.bind fun e => ?_
  split
  · exact .pure fun _ hparts => standAt_call hparts
  · exact .fail

theorem callBlock_lays : Lays [] (callBlock rules) fun s => [.stmt s] := by
  have hcall : ∀ params defaults : List Expr, Lays (defaults.map .expr)
      (do
        let call ← callOnly rules
        return Stmt.callBlock call params defaults (← macroBody rules "endcall"))
      fun s => [.stmt s] := by
    refine fun params defaults => (callOnly_lays h).andThen fun call => ?_
    refine (macroBody_lays h "endcall").andThen fun body => ?_
    rw [List.append_assoc]
    exact .node (.stmt (.callBlock call params defaults body)) rfl rfl
  refine (skims_skips _).andThen fun opens => ?_
  dsimp only
  split
  · exact (parameters_lays h).bind fun (params, defaults) => hcall params defaults
  · exact hcall [] []

/-! ## All statements -/

theorem statement_lays : Lays [] (statement rules) fun s => [.stmt s] := by
  refine Lays.deeper (skims_next.andThen fun token => ?_)
  split
  · exact .fail
  · exact forLoop_lays h
  · exact h.conditional
  · exact withBlock_lays h
  · exact setStatement_lays h
  · refine h.expression.bind fun enabled => (skims_expectThat _ _).andThen fun _ => ?_
    exact (closedBody_lays h _).andThen fun body => .node (.stmt (.autoEscape enabled body)) rfl rfl
  · refine (filterChain_lays h).bind fun filter => (skims_expectThat _ _).andThen fun _ => ?_
    exact (closedBody_lays h _).andThen fun body => .node (.stmt (.filterBlock filter body)) rfl rfl
  · exact block_lays h
  · exact h.expression.bind fun name => .node (.stmt (.extend name)) rfl rfl
  · exact embed_lays h
  · exact importAs_lays h
  · exact importFrom_lays h
  · exact define_lays h
  · exact callBlock_lays h
  · exact (callOnly_lays h).bind fun call => .node (.stmt (.perform call)) rfl rfl
  · exact .fail
  · exact .fail

theorem body_lays (closers : List String) :
    Lays [] (body rules closers) fun stmts => stmts.map .stmt := by
  refine Lays.loop (I := fun (acc : List Stmt) => acc.reverse.map .stmt) fun acc => ?_
  have hstmt : ∀ s : Stmt, Lays (acc.reverse.map .stmt ++ [.stmt s])
      (pure (Sum.inl (s :: acc) : List Stmt ⊕ List Stmt))
      (Sum.elim (fun acc => acc.reverse.map .stmt) fun stmts => stmts.map .stmt) :=
    fun s => .pure fun _ hparts => by simpa using hparts
  refine skims_next.andThen fun token => ?_
  split
  · exact .pure fun _ hparts => hparts
  · rename_i text
    refine (hstmt (.data text)).mono fun offsets hparts => .append_of_written rfl ?_
    rw [← List.append_nil (acc.reverse.map Part.stmt)] at hparts
    exact hparts
  · refine h.expression.andThen fun value => (skims_expectThat _ _).andThen fun _ => ?_
    exact (hstmt (.emit value)).mono fun _ hparts => .append_of_written rfl hparts
  · refine skims_peek.andThen fun token => ?_
    split
    · exact .fail
    · split
      · exact .pure fun _ hparts => hparts
      · exact (statement_lays h).andThen fun s => (skims_expectThat _ _).andThen fun _ => hstmt s
  · exact .fail

end

/-! ## Templates -/

theorem rulesOver_layParts {rules : Rules} (h : LayParts rules) : LayParts (rulesOver rules)
  | .expression => expression_lays h
  | .body closers => body_lays h closers
  | .conditional => conditional_lays h
  | .target dotted => target_lays h dotted

theorem rulesTo_layParts (n : Nat) : LayParts (rulesTo n) := by
  induction n with
  | zero => exact fun g => .fail
  | succ n ih => exact fun g => rulesOver_layParts ih g

/-- A template is written in its tokens. -/
theorem parse_standsAt_scan {source : String} {tree : Tree} (h : parse source = .ok tree) :
    (Part.tree tree).StandsAt ((scan source).lexemes.map Lexeme.start) := by
  unfold parse at h
  dsimp only at h
  split at h
  · rename_i stmts s' hrun
    cases h
    obtain ⟨used, hused, hparts⟩ := (rulesTo_layParts _).body [] _ stmts s' hrun
    have hstands : (Part.tree ⟨stmts⟩).StandsAt used := .of_written rfl (hparts [] trivial)
    change (scan source).lexemes.map Lexeme.start = used ++ s'.ahead at hused
    rw [hused]
    exact hstands.mono (List.sublist_append_left ..)
  · cases h

/-- A template is written in tokens that come one after another. -/
theorem parse_standsAt {source : String} {tree : Tree} (h : parse source = .ok tree) :
    ∃ offsets, Increasing offsets ∧ (Part.tree tree).StandsAt offsets :=
  ⟨_, List.pairwise_map.2 (scan_increasing source), parse_standsAt_scan h⟩

/-- **Calls and document order.**  The calls of a template that parses are listed
    in the order of their offsets exactly if the template is tidy. -/
theorem calls_inOrder_iff {source : String} {tree : Tree} (h : parse source = .ok tree) :
    calls source = .ok tree.calls ∧ (InOrder tree.calls ↔ (Part.tree tree).Tidy) := by
  obtain ⟨offsets, hincreasing, hstands⟩ := parse_standsAt h
  refine ⟨?_, hstands.inOrder_iff hincreasing⟩
  unfold calls
  rw [h]

/-! ## Two templates -/

theorem exists_tree_of_starts (source : String) (starts : List Nat)
    (h : (parse source).toOption.map (fun tree => tree.calls.map Call.start) = some starts) :
    ∃ tree, parse source = .ok tree ∧ (InOrder tree.calls ↔ starts.Pairwise (· ≤ ·)) := by
  cases htree : parse source with
  | error failure =>
    rw [htree] at h
    cases h
  | ok tree =>
    rw [htree] at h
    cases h
    exact ⟨tree, rfl, List.pairwise_map.symm⟩

/-- The template `{% if _("a") %}{{ _("b", _("c")) }}{% else %}{{ _("d") }}{% endif %}` -/
def branches : String :=
  "\x7b% if _(\"a\") %\x7d\x7b\x7b _(\"b\", _(\"c\")) \x7d\x7d\x7b% else %\x7d" ++
    "\x7b\x7b _(\"d\") \x7d\x7d\x7b% endif %\x7d"

/-- The calls of `branches` are in order, so it is tidy. -/
theorem branches_calls_inOrder :
    ∃ tree, calls branches = .ok tree.calls ∧ InOrder tree.calls ∧ (Part.tree tree).Tidy := by
  obtain ⟨tree, htree, hstarts⟩ :=
    exists_tree_of_starts branches [6, 18, 25, 48] (by decide +kernel)
  have hinOrder := hstarts.2 (by decide)
  obtain ⟨hcalls, htidy⟩ := calls_inOrder_iff htree
  exact ⟨tree, hcalls, hinOrder, htidy.1 hinOrder⟩

/-- The template `{{ _("a") if _("b") else _("c") }}` -/
def lateTest : String := "\x7b\x7b _(\"a\") if _(\"b\") else _(\"c\") \x7d\x7d"

/-- The test of a conditional is listed before the value in front of it. -/
theorem lateTest_calls_not_inOrder : ∃ tree, parse lateTest = .ok tree ∧ ¬ InOrder tree.calls := by
  obtain ⟨tree, htree, hstarts⟩ :=
    exists_tree_of_starts lateTest [13, 3, 25] (by decide +kernel)
  exact ⟨tree, htree, fun hinOrder => absurd (hstarts.1 hinOrder) (by decide)⟩

end PotCatalog.Template
