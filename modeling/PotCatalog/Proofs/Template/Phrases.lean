/-
  The tokens of expressions.

  Each rule of the grammar of expressions lays the expression it yields, given
  that the rules it refers to do.  A call is reported where the step before it
  starts, and that token is at hand until the arguments come (`postfixes_lays`).
-/
import PotCatalog.Proofs.Template.Reading

namespace PotCatalog.Template

open PotCatalog.Template.Parser

/-! ## Rules that refer to each other -/

/-- The parts of what a rule yields. -/
def Goal.parts : (g : Goal) → g.Result → List Part
  | .expression, e => [.expr e]
  | .body _, stmts => stmts.map .stmt
  | .conditional, s => [.stmt s]
  | .target _, e => [.expr e]

/-- All rules lay the parts of what they yield. -/
def LayParts (rules : Rules) : Prop := ∀ g, Lays [] (rules g) g.parts

section
variable {rules : Rules} (h : LayParts rules)
include h

theorem LayParts.expression : Lays [] (rules .expression) fun e => [.expr e] := h .expression

theorem LayParts.body (closers : List String) :
    Lays [] (rules (.body closers)) fun stmts => stmts.map .stmt :=
  h (.body closers)

theorem LayParts.conditional : Lays [] (rules .conditional) fun s => [.stmt s] := h .conditional

theorem LayParts.target (dotted : Bool) : Lays [] (rules (.target dotted)) fun e => [.expr e] :=
  h (.target dotted)

/-! ## Lists -/

omit h in
theorem items_lays {α : Type} {close : Symbol} {item : Parser α} {parts : α → List Part}
    (hitem : Lays [] item parts) : Lays [] (items close item) fun all => all.flatMap parts := by
  refine Lays.loop (I := fun (acc : List α) => acc.reverse.flatMap parts) fun acc => ?_
  refine Lays.separated (skims_skips _) (.pure fun _ hparts => hparts) ?_
  exact hitem.andThen fun a => .pure fun _ hparts => by simpa using hparts

/-! ## Arguments -/

theorem argument_lays (named : Bool) :
    Lays [] (argument rules named) fun a => [.expr a.value] := by
  refine (skims_skips _).andThen fun power => ?_
  split
  · exact h.expression.bind fun value => .pure fun _ hparts => hparts
  · refine (skims_skips _).andThen fun times => ?_
    split
    · exact h.expression.bind fun value => .pure fun _ hparts => hparts
    · refine h.expression.bind fun value => ?_
      have hpositional : Lays [.expr value] (if named = true then fail .positionalAfterKeyword else
          pure (Argument.positional value)) fun a => [.expr a.value] := by
        split
        · exact .fail
        · exact .pure fun _ hparts => hparts
      dsimp only
      split
      · refine (skims_skips _).andThen fun assigns => ?_
        split
        · exact h.expression.andThen fun value => .pure fun _ hparts => hparts.right
        · exact hpositional
      · exact hpositional

/-- Arguments stand behind their opening parenthesis. -/
theorem arguments_behind {A : Assertion} {B : List Nat → Prop}
    (hopen : Ensures A (expectSymbol .parenOpen) fun _ read _ => B read) :
    Ensures A (arguments rules) fun args read _ => ∃ before after, read = before ++ after ∧
      B before ∧ StandAt ((args.map Argument.value).map .expr) after := by
  refine hopen.bind fun _ => Lays.behind ?_ B
  refine Lays.loop (I := fun (acc : List Argument) => (acc.reverse.map Argument.value).map .expr)
    fun acc => ?_
  refine Lays.separated (skims_skips _) (.pure fun _ hparts => hparts) ?_
  refine (argument_lays h _).andThen fun a => ?_
  dsimp only
  split
  · exact .fail
  · exact .pure fun _ hparts => by simpa using hparts

theorem arguments_lays :
    Lays [] (arguments rules) fun args => (args.map Argument.value).map .expr := by
  refine (arguments_behind h (B := fun _ => True) (skims_expectThat _ _)).mono
    (fun _ _ _ => trivial) ?_
  rintro args _ _ ⟨before, after, rfl, -, hargs⟩
  exact hargs.mono (List.sublist_append_right ..)

/-- A call of what is written before, reported at a token at hand. -/
theorem arguments_call (start : Nat) (callee : Expr) :
    Ensures (fun read ahead => AtHand start read ahead ∧ StandAt [.expr callee] read)
      (arguments rules) fun args read _ => (Part.call (.mk start callee args)).StandsAt read := by
  have hopen : Ensures (fun read ahead => AtHand start read ahead ∧ StandAt [.expr callee] read)
      (expectSymbol .parenOpen) fun _ read _ => start ∈ read ∧ StandAt [.expr callee] read :=
    (expectThat_atHand _ _ start).and ((skims_expectThat _ _).lays [.expr callee])
  refine (arguments_behind h (B := fun read => start ∈ read ∧ StandAt [.expr callee] read)
    hopen).mono (fun _ _ hread => hread) ?_
  rintro args _ _ ⟨before, after, rfl, ⟨hstart, hcallee⟩, hargs⟩
  exact standsAt_call hstart (standAt_singleton.1 hcallee) hargs

theorem optionalArguments_lays :
    Lays [] (optionalArguments rules) fun args => (args.map Argument.value).map .expr := by
  refine (skims_sees _).andThen fun opens => ?_
  split
  · exact arguments_lays h
  · exact .pure fun _ hparts => hparts

/-! ## Operands -/

omit h in
theorem skims_joinTexts (first : String) : Skims (joinTexts first) := by
  refine Skims.loop fun acc => skims_peek.bind fun token => ?_
  split
  · exact skims_next.bind fun _ => .pure
  · exact .pure

theorem parenthesized_lays : Lays [] (parenthesized rules) fun e => [.expr e] := by
  refine (skims_skips _).andThen fun closed => ?_
  split
  · exact .node (.expr (.list [])) rfl rfl
  · refine h.expression.bind fun first => (skims_sees _).andThen fun comma => ?_
    split
    · refine Lays.loop (I := fun (acc : List Expr) => acc.reverse.map .expr) fun acc => ?_
      refine (skims_skips _).andThen fun closed => ?_
      split
      · exact .node (.expr (.list acc.reverse)) rfl rfl
      · refine (skims_expectThat _ _).andThen fun _ => (skims_skips _).andThen fun closed => ?_
        split
        · exact .node (.expr (.list acc.reverse)) rfl rfl
        · exact h.expression.andThen fun e => .pure fun _ hparts => by simpa using hparts
    · exact (skims_expectThat _ _).andThen fun _ => .pure fun _ hparts => hparts

theorem entry_lays : Lays [] (entry rules) fun entry => entry.parts.map .expr := by
  refine h.expression.bind fun key => (skims_expectThat _ _).andThen fun _ => ?_
  exact h.expression.andThen fun value => .pure fun _ hparts => hparts

theorem operand_lays : Lays [] (operand rules) fun e => [.expr e] := by
  refine Lays.deeper (skims_next.andThen fun token => ?_)
  split
  · exact .fail
  · split
    · exact .node (.expr (.constant _)) rfl rfl
    · exact .node (.expr (.var _)) rfl rfl
  · exact (skims_joinTexts _).andThen fun text => .node (.expr (.constant _)) rfl rfl
  · refine skims_peekText.andThen fun more => ?_
    split
    · exact (skims_joinTexts _).andThen fun text => .node (.expr (.constant _)) rfl rfl
    · exact .node (.expr (.constant _)) rfl rfl
  · exact .node (.expr (.constant _)) rfl rfl
  · exact .node (.expr (.constant _)) rfl rfl
  · exact parenthesized_lays h
  · refine (items_lays h.expression).bind fun all => .pure fun _ hparts => ?_
    rw [← List.map_eq_flatMap] at hparts
    exact .of_written rfl hparts
  · refine (items_lays (entry_lays h)).bind fun all => .pure fun _ hparts => ?_
    rw [← List.map_flatMap] at hparts
    exact .of_written rfl hparts
  · exact .fail

omit h in
theorem standAt_repeat {op : UnaryOp} {e : Expr} {offsets : List Nat} (n : Nat)
    (hparts : StandAt [.expr e] offsets) :
    StandAt [.expr (n.repeat (.unary op) e)] offsets := by
  induction n with
  | zero => exact hparts
  | succ n ih => exact .of_written rfl ih

omit h in
/-- Signs or words are counted. -/
theorem skims_count (test : Token → Bool) :
    Skims (loop 0 fun n => do if ← skips test then return .inl (n + 1) else return .inr n) := by
  refine Skims.loop fun n => (skims_skips _).bind fun found => ?_
  split
  · exact .pure
  · exact .pure

theorem negation_lays : Lays [] (negation rules) fun e => [.expr e] := by
  refine (skims_count _).andThen fun signs => (operand_lays h).bind fun value => ?_
  exact .pure fun _ hparts => standAt_repeat signs hparts

theorem subscript_lays (subject : Expr) :
    Lays [.expr subject] (subscript rules subject) fun e => [.expr e] := by
  refine (skims_sees _).andThen fun _ => Lays.unless h.expression fun start => ?_
  refine (skims_skips _).andThen fun slices => ?_
  split
  · refine (skims_sees _).andThen fun _ => Lays.unless h.expression fun stop => ?_
    refine (skims_skips _).andThen fun steps => ?_
    have hslice : ∀ step : Option Expr,
        Lays ([.expr subject] ++ start.toList.map .expr ++ stop.toList.map .expr ++
            step.toList.map .expr)
          (do expectSymbol .bracketClose; return Expr.slice subject start stop step)
          fun e => [.expr e] := by
      refine fun step => (skims_expectThat _ _).andThen fun _ => .pure fun _ hparts => ?_
      refine .of_written rfl ?_
      simpa [Part.written, Part.visited, Part.children, Expr.parts, Expr.operands] using hparts
    dsimp only
    split
    · exact (skims_sees _).andThen fun _ => .unless h.expression hslice
    · exact .absent hslice
  · refine (skims_expectThat _ _).andThen fun _ => ?_
    split
    · exact .node (.expr (.item _ _)) rfl rfl
    · exact .fail

omit h in
theorem attributeOf_lays (subject : Expr) :
    Lays [.expr subject] (attributeOf subject) fun e => [.expr e] := by
  refine skims_next.andThen fun token => ?_
  split
  · exact .fail
  · dsimp only
    split
    · rename_i e he
      refine .pure fun offsets hsubject => ?_
      split at he
      · cases he
        exact .of_written rfl hsubject
      · rename_i index
        cases he
        have hindex : StandAt [.expr (.constant (.integer index))] [] :=
          .of_written rfl trivial
        have hparts := hsubject.append hindex
        rw [List.append_nil] at hparts
        exact .of_written rfl hparts
      · cases he
    · exact .fail

theorem postfixes_lays (start : Nat) (subject : Expr) :
    Ensures (fun read ahead => AtHand start read ahead ∧ StandAt [.expr subject] read)
      (postfixes rules start subject) fun e read _ => StandAt [.expr e] read := by
  refine Ensures.mono (Ensures.loop (I := fun (x : Nat × Expr) read ahead =>
    AtHand x.1 read ahead ∧ StandAt [.expr x.2] read) fun (start, subject) => ?_)
    (fun _ _ hread => hread) fun _ _ _ hread => hread
  -- `here` is at hand for the round to come, `start` for a call in this one
  refine (here_atHand _).bind fun here => (ensures_peek _).bind fun token => ?_
  have hskip : Ensures (fun read ahead => AtHand here read ahead ∧ AtHand start read ahead ∧
      StandAt [.expr subject] read) next fun _ read ahead => AtHand here read ahead ∧
      StandAt [.expr subject] read :=
    ((skims_next.lays _).atHand here).mono (fun _ _ hread => ⟨hread.1, hread.2.2⟩)
      fun _ _ _ hread => hread
  split
  · exact hskip.bind fun _ => ((attributeOf_lays subject).atHand here).bind fun e =>
      .pure fun _ _ hread => hread
  · exact hskip.bind fun _ => ((subscript_lays h subject).atHand here).bind fun e =>
      .pure fun _ _ hread => hread
  · refine (((arguments_lays h).skims.atHand here).and (arguments_call h start subject)).bind
      fun args => .pure fun _ _ ⟨hhere, hcall⟩ => ⟨hhere, ?_⟩
    exact .of_written rfl (standAt_singleton.2 hcall)
  · exact .pure fun _ _ hread => hread.2.2

theorem postfixed_lays : Lays [] (postfixed rules) fun e => [.expr e] := by
  refine (here_atHand _).bind fun start => ((negation_lays h).atHand start).bind fun value => ?_
  exact postfixes_lays h start value

omit h in
theorem skims_dottedName : Skims dottedName := by
  refine skims_expectName.bind fun first => Skims.loop fun name => (skims_skips _).bind fun dot => ?_
  split
  · exact skims_expectName.bind fun _ => .pure
  · exact .pure

theorem test_lays (subject : Expr) :
    Lays [.expr subject] (test rules subject) fun e => [.expr e] := by
  refine (skims_skips _).andThen fun negated => skims_dottedName.andThen fun name => ?_
  have hargs : ∀ args : List Argument,
      Lays ([.expr subject] ++ (args.map Argument.value).map .expr)
        (pure (if negated then .unary .not (.test name subject args) else .test name subject args))
        fun e => [.expr e] := by
    refine fun args => .pure fun _ hparts => ?_
    have htest : StandAt [.expr (.test name subject args)] _ := .of_written rfl hparts
    split
    · exact .of_written rfl htest
    · exact htest
  refine (skims_sees _).andThen fun opens => (skims_sees _).andThen fun starts => ?_
  dsimp only
  split
  · exact (arguments_lays h).andThen hargs
  · split
    · exact (postfixed_lays h).andThen fun e => hargs [.positional e]
    · exact hargs []

theorem filters_lays (subject : Expr) :
    Lays [.expr subject] (filters rules subject) fun e => [.expr e] := by
  refine Lays.loop (I := fun subject => [.expr subject]) fun subject => ?_
  refine (skims_skips _).andThen fun filtered => ?_
  split
  · refine skims_dottedName.andThen fun name => (optionalArguments_lays h).andThen fun args => ?_
    exact .node (.expr (.filter name (some subject) args)) rfl rfl
  · refine (skims_skips _).andThen fun tested => ?_
    split
    · exact (test_lays h subject).bind fun e => .pure fun _ hparts => hparts
    · exact .pure fun _ hparts => hparts

theorem unary_lays : Lays [] (unary rules) fun e => [.expr e] :=
  (postfixed_lays h).bind fun e => filters_lays h e

/-! ## Operators -/

omit h in
theorem leftAssociative_lays {level : Parser Expr} (op? : Token → Option BinaryOp)
    (hlevel : Lays [] level fun e => [.expr e]) :
    Lays [] (leftAssociative level op?) fun e => [.expr e] := by
  refine hlevel.bind fun first => Lays.loop (I := fun left => [.expr left]) fun left => ?_
  refine skims_peek.andThen fun token => ?_
  split
  · refine skims_next.andThen fun _ => hlevel.andThen fun right => ?_
    exact .node (.expr (.binary _ left right)) rfl rfl
  · exact .pure fun _ hparts => hparts

theorem sums_lays : Lays [] (sums rules) fun e => [.expr e] :=
  leftAssociative_lays _ (leftAssociative_lays _ (leftAssociative_lays _
    (leftAssociative_lays _ (unary_lays h))))

omit h in
theorem skims_comparisonOperator : Skims comparisonOperator := by
  refine (skims_skips _).bind fun negated => ?_
  split
  · exact (skims_expectThat _ _).bind fun _ => .pure
  · refine skims_peek.bind fun token => ?_
    split
    · exact skims_next.bind fun _ => .pure
    · exact .pure

omit h in
theorem standAt_compare {first : Expr} {links : List Link} {offsets : List Nat}
    (hparts : StandAt (.expr first :: (links.map Link.operand).map .expr) offsets) :
    StandAt [.expr (compare first links)] offsets := by
  unfold compare
  split
  · exact hparts
  · exact .of_written rfl hparts
  · exact .of_written rfl (StandAt.of_written rfl hparts)
  · exact .of_written rfl trivial

theorem comparisons_lays : Lays [] (comparisons rules) fun e => [.expr e] := by
  refine (sums_lays h).bind fun first => ?_
  refine Lays.loop (I := fun (links : List Link) =>
    .expr first :: (links.reverse.map Link.operand).map .expr) fun links => ?_
  refine skims_comparisonOperator.andThen fun operator => ?_
  split
  · exact (sums_lays h).andThen fun right => .pure fun _ hparts => by
      simpa [Link.operand] using hparts
  · exact .pure fun _ hparts => standAt_compare hparts

theorem negations_lays : Lays [] (negations rules) fun e => [.expr e] := by
  refine (skims_count _).andThen fun count => (comparisons_lays h).bind fun value => ?_
  exact .pure fun _ hparts => standAt_repeat count hparts

theorem disjunctions_lays : Lays [] (disjunctions rules) fun e => [.expr e] :=
  leftAssociative_lays _ (leftAssociative_lays _ (negations_lays h))

theorem expression_lays : Lays [] (expression rules) fun e => [.expr e] := by
  refine Lays.deeper ((disjunctions_lays h).bind fun first => ?_)
  refine Lays.loop (I := fun value => [.expr value]) fun value => (skims_skips _).andThen fun word => ?_
  split
  · refine (disjunctions_lays h).andThen fun condition => (skims_skips _).andThen fun word => ?_
    exact .when h.expression fun otherwise =>
      .node (.expr (.conditional condition value otherwise)) rfl rfl
  · exact .pure fun _ hparts => hparts

end

end PotCatalog.Template
