/-
  The calls of a script, all of them.

  `Part.calls_eq`: the calls of a part are the part itself, if it is a call,
  and the calls of its children in their order.  So the calls of a script are
  the calls at all its positions.

  What a call site keeps of a call is said without the search for it:
  `Expr.Wraps` is an expression in any number of parentheses, and
  `CodePoints.Spells` says that a value is a text, unit by unit.

  `Program.sites_survey`: every call has its site, with its name and its
  literal arguments, whatever becomes of the calls around it.
-/
import PotCatalog.Extract
import PotCatalog.Proofs.Positions
import PotCatalog.Proofs.Script.Occurrence
import PotCatalog.Proofs.Script.Spelling

namespace PotCatalog.Script

/-! ## One step -/

/-- The calls that are listed for a part. -/
def Part.calls : Part → List Call
  | .program p => p.calls
  | .stmt s => s.calls
  | .expr e => e.calls

/-- The part itself, if it is a call. -/
def Part.call? : Part → Option Call
  | .expr (.mk start (.call callee args)) => some ⟨start, callee, args⟩
  | _ => none

/-- The call at a position. -/
def Part.callAt? (p : Part) (position : List Nat) : Option Call :=
  itemAt? Part.children Part.call? p position

theorem optionCalls_eq (o : Option Expr) :
    optionCalls o = (o.toList.map .expr).flatMap Part.calls := by
  cases o <;> simp [optionCalls, Part.calls]

theorem listCalls_eq (es : List Expr) : listCalls es = (es.map .expr).flatMap Part.calls := by
  induction es with
  | nil => rfl
  | cons e es ih => simp [listCalls, ih, Part.calls]

theorem optionBodyCalls_eq (o : Option Stmt) :
    optionBodyCalls o = (o.toList.map .stmt).flatMap Part.calls := by
  cases o <;> simp [optionBodyCalls, Part.calls]

theorem bodyCalls_eq (body : List Stmt) : bodyCalls body = (body.map .stmt).flatMap Part.calls := by
  induction body with
  | nil => rfl
  | cons s body ih => simp [bodyCalls, ih, Part.calls]

theorem Form.calls_eq (start : Nat) (form : Form) :
    form.calls start =
      (Part.expr (.mk start form)).call?.toList ++ form.parts.flatMap Part.calls := by
  cases form <;>
    simp [Form.calls, Form.parts, Part.call?, Part.calls, optionCalls_eq, listCalls_eq, bodyCalls_eq]

theorem Stmt.calls_eq (s : Stmt) : s.calls = s.parts.flatMap Part.calls := by
  cases s <;>
    simp [Stmt.calls, Stmt.parts, Part.calls, optionCalls_eq, listCalls_eq, optionBodyCalls_eq,
      bodyCalls_eq]

/-- **The calls of a part**, from those of its children. -/
theorem Part.calls_eq (p : Part) : p.calls = p.call?.toList ++ p.children.flatMap Part.calls := by
  cases p with
  | program p => exact bodyCalls_eq p.body
  | stmt s => exact Stmt.calls_eq s
  | expr e =>
    obtain ⟨start, form⟩ := e
    rw [Part.calls, Expr.calls]
    exact Form.calls_eq start form

/-! ## Parentheses -/

/-- An expression is another one, in any number of parentheses. -/
inductive Expr.Wraps : Expr → Expr → Prop where
  | self (e : Expr) : Wraps e e
  | paren {start inner e} (h : Wraps inner e) : Wraps (.mk start (.paren inner)) e

theorem Expr.bare_of_ne_paren {start : Nat} {form : Form} (h : ∀ inner, form ≠ .paren inner) :
    (Expr.mk start form).bare = .mk start form := by
  rw [Expr.bare]
  intro _ inner heq
  exact h inner (Expr.mk.inj heq).2

theorem Expr.wraps_bare (e : Expr) : e.Wraps e.bare := by
  fun_induction Expr.bare e with
  | case1 start inner ih => exact .paren ih
  | case2 e _ => exact .self e

theorem Expr.Wraps.bare_eq {e e' : Expr} (h : e.Wraps e') : e.bare = e'.bare := by
  induction h with
  | self => rfl
  | paren _ ih => rw [Expr.bare, ih]

theorem Call.name?_eq_some_iff {c : Call} {name : String} :
    c.name? = some name ↔ ∃ start, c.callee.Wraps (.mk start (.name name)) := by
  constructor
  · intro h
    have hwraps := c.callee.wraps_bare
    rw [Call.name?] at h
    generalize c.callee.bare = bare at h hwraps
    obtain ⟨start, form⟩ := bare
    cases form with
    | name other =>
      obtain rfl : other = name := Option.some.inj h
      exact ⟨start, hwraps⟩
    | _ => cases h
  · rintro ⟨start, h⟩
    rw [Call.name?, h.bare_eq, Expr.bare_of_ne_paren (by simp)]
    rfl

/-! ## Literals -/

theorem Expr.argument_eq_literal_iff {e : Expr} {text : String} :
    e.argument = .literal text ↔
      (∀ value, e.form ≠ .spread value) ∧
      ∃ start value written, e.Wraps (.mk start (.text value written)) ∧ value.Spells text := by
  constructor
  · intro h
    have hwraps := e.wraps_bare
    rw [Expr.argument] at h
    generalize e.bare = bare at h hwraps
    obtain ⟨start, form⟩ := bare
    cases form with
    | text value written =>
      have htext : value.text? = some text := by
        cases htext : value.text? with
        | none => simp [Expr.form, htext] at h
        | some other => simpa [Expr.form, htext] using h
      refine ⟨?_, start, value, written, hwraps, CodePoints.text?_eq_some_iff.1 htext⟩
      intro inner hspread
      cases hwraps <;> simp [Expr.form] at hspread
    | _ => cases h
  · rintro ⟨-, start, value, written, hwraps, hspells⟩
    rw [Expr.argument, hwraps.bare_eq, Expr.bare_of_ne_paren (by simp)]
    simp only [Expr.form, CodePoints.text?_eq_some_iff.2 hspells]

/-! ## Scripts -/

/-- A call site keeps the name of a call, if its callee is a name, and the
    texts of those arguments that are strings; both may stand in
    parentheses. -/
structure Call.Lowered (c : Call) (site : CallSite) : Prop where
  callee_iff : ∀ name, site.callee = some name ↔ ∃ start, c.callee.Wraps (.mk start (.name name))
  length_args : site.args.length = c.args.length
  literal_iff : ∀ (i : Nat) (text : String), site.args[i]? = some (.literal text) ↔
    ∃ e, c.args[i]? = some e ∧ (∀ value, e.form ≠ .spread value) ∧
      ∃ start value written, e.Wraps (.mk start (.text value written)) ∧ value.Spells text

theorem Call.site_lowered (text : List Char) (c : Call) : c.Lowered (c.site text) where
  callee_iff _ := Call.name?_eq_some_iff
  length_args := List.length_map _
  literal_iff i literal := by
    rw [Call.site, List.getElem?_map, Option.map_eq_some_iff]
    exact exists_congr fun e => and_congr_right fun _ => Expr.argument_eq_literal_iff

/-- A list holds the calls of a script with their positions: each position
    once, and an outer call before the calls inside it. -/
structure Program.Surveyed (p : Program) (found : List (List Nat × Call)) : Prop where
  nodup : (found.map Prod.fst).Nodup
  outer_first : found.Pairwise fun a b => ¬ b.1 <+: a.1
  mem_iff : ∀ position c, (position, c) ∈ found ↔ (Part.program p).callAt? position = some c

theorem Program.exists_surveyed (p : Program) :
    ∃ found, found.map Prod.snd = p.calls ∧ p.Surveyed found := by
  obtain ⟨found, hcalls, hfound⟩ :=
    exists_listing sizeOf Part.sizeOf_child_lt Part.calls_eq (.program p)
  exact ⟨found, hcalls, hfound.nodup, hfound.outer_first, hfound.mem_iff⟩

theorem Program.mem_calls {p : Program} {position : List Nat} {c : Call}
    (h : (Part.program p).callAt? position = some c) : c ∈ p.calls := by
  obtain ⟨found, hcalls, hfound⟩ := p.exists_surveyed
  rw [← hcalls]
  exact List.mem_map_of_mem ((hfound.mem_iff position c).2 h)

theorem sites_of_read {p : Program} {source : String} (h : read source = .ok p) :
    sites source = .ok (p.calls.map (Call.site (withoutMark source.toList))) := by
  unfold sites
  generalize read source = result at h ⊢
  subst h
  rfl

theorem extract_of_read {p : Program} {source : String} (file : String) (h : read source = .ok p) :
    extract .script file source =
      SourceKind.script.markers.collect file source
        (p.calls.map (Call.site (withoutMark source.toList))) := by
  have hsites : SourceKind.script.sites source =
      .ok (p.calls.map (Call.site (withoutMark source.toList))) := sites_of_read h
  unfold extract
  rw [hsites]

/-- **The calls of a script are collected completely and lowered faithfully.**
    They can be listed with their positions, each position once and an outer
    call before those inside it; and what a call at any position amounts to is
    in the result of the file, whatever the calls around it amount to. -/
theorem Program.sites_survey (p : Program) :
    (∃ found, found.map Prod.snd = p.calls ∧ p.Surveyed found) ∧
    (∀ text (c : Call), c.Lowered (c.site text)) ∧
    ∀ file source, read source = .ok p →
      sites source = .ok (p.calls.map (Call.site (withoutMark source.toList))) ∧
      ∀ position c, (Part.program p).callAt? position = some c →
        ∀ site, site = c.site (withoutMark source.toList) →
          (∀ m, SourceKind.script.markers.judge file site = .message m →
            m ∈ (extract .script file source).messages) ∧
          (∀ reason, SourceKind.script.markers.judge file site = .refused reason →
            .invalidCall (Context.of file source site.position) reason ∈
              (extract .script file source).issues) := by
  refine ⟨p.exists_surveyed, Call.site_lowered, ?_⟩
  intro file source hread
  refine ⟨sites_of_read hread, ?_⟩
  rintro position c hat site rfl
  have hsite : c.site (withoutMark source.toList) ∈
      p.calls.map (Call.site (withoutMark source.toList)) :=
    List.mem_map_of_mem (Program.mem_calls hat)
  rw [extract_of_read file hread]
  constructor
  · intro m hm
    exact List.mem_filterMap.2 ⟨_, hsite, by rw [hm]⟩
  · intro reason hreason
    exact List.mem_filterMap.2 ⟨_, hsite, by rw [hreason]⟩

/-- The inner call is found, although the outer one has no literal argument. -/
example :
    sites "gettext((gettext)('a'));" =
      .ok [⟨some "gettext", ⟨1, 1⟩, [.expression]⟩, ⟨some "gettext", ⟨1, 9⟩, [.literal "a"]⟩] := by
  decide +kernel

end PotCatalog.Script
