/-
  The calls of a template, all of them but those in chains.

  `Part.calls_eq`: the calls of a part are the part itself, if it is a call,
  and the calls of its children in their order.  The two exceptions are names,
  which hold no calls, and chains of comparisons, which are not looked into
  (`Part.calls_chain`).

  `Part.survey`: so the calls of a part are the calls at all its positions that
  are not inside a chain, each once for each position and each before the calls
  inside it.  `Tree.calls_survey`: nothing is missing exactly if no chain holds
  a call, and `chainTemplate` is a template where a call is missing.
-/
import PotCatalog.Proofs.Template.Occurrence
import PotCatalog.Template.Calls

namespace PotCatalog.Template

/-! ## One step -/

/-- The calls that are listed for a part. -/
def Part.calls : Part → List Call
  | .tree t => t.calls
  | .stmt s => s.calls
  | .expr e => e.calls
  | .call c => c.calls

/-- The part itself, if it is a call. -/
def Part.own : Part → List Call
  | .call c => [c]
  | _ => []

theorem optionCalls_eq (o : Option Expr) : optionCalls o = (o.toList.map .expr).flatMap Part.calls := by
  cases o <;> simp [optionCalls, Part.calls]

theorem listCalls_eq (es : List Expr) : listCalls es = (es.map .expr).flatMap Part.calls := by
  induction es with
  | nil => rfl
  | cons e es ih => simp [listCalls, ih, Part.calls]

theorem argumentsCalls_eq (args : List Argument) :
    argumentsCalls args = ((args.map Argument.value).map .expr).flatMap Part.calls := by
  induction args with
  | nil => rfl
  | cons a args ih => cases a <;> simp [argumentsCalls, Argument.calls, Argument.value, ih, Part.calls]

theorem entriesCalls_eq (entries : List Entry) :
    entriesCalls entries = ((entries.flatMap Entry.parts).map .expr).flatMap Part.calls := by
  induction entries with
  | nil => rfl
  | cons entry entries ih =>
    obtain ⟨key, value⟩ := entry
    simp [entriesCalls, Entry.parts, ih, Part.calls]

theorem bindingsCalls_eq (bindings : List Binding) :
    bindings.flatMap (fun b => b.target.calls ++ b.value.calls) =
      ((bindings.flatMap Binding.parts).map .expr).flatMap Part.calls := by
  induction bindings with
  | nil => rfl
  | cons b bindings ih => simp [Binding.parts, ih, Part.calls]

theorem bodyCalls_eq (body : List Stmt) : bodyCalls body = (body.map .stmt).flatMap Part.calls := by
  induction body with
  | nil => rfl
  | cons s body ih => simp [bodyCalls, ih, Part.calls]

theorem Part.calls_chain (first : Expr) (links : List Link) :
    (Part.expr (.chain first links)).calls = [] := by
  simp [Part.calls, Expr.calls]

theorem Expr.calls_eq {e : Expr} (h : (Part.expr e).isChain = false) :
    e.calls = e.parts.flatMap Part.calls := by
  cases e with
  | chain first links => simp [Part.isChain] at h
  | var | constant => rfl
  | call c => simp [Expr.calls, Expr.parts, Part.calls]
  | _ =>
    simp [Expr.calls, Expr.parts, Expr.operands, Part.calls, optionCalls_eq, listCalls_eq,
      argumentsCalls_eq, entriesCalls_eq]

theorem flatMap_names {names : List Expr} (h : ∀ e ∈ names, e.calls = []) :
    (names.map .expr).flatMap Part.calls = [] := by
  rw [List.flatMap_eq_nil_iff]
  intro p hp
  obtain ⟨e, he, rfl⟩ := List.mem_map.1 hp
  exact h e he

theorem Stmt.calls_eq {s : Stmt} (h : ∀ e ∈ s.names, e.calls = []) :
    s.calls = s.parts.flatMap Part.calls := by
  have hnames := flatMap_names h
  cases s with
  | importFrom source names =>
    rw [Stmt.parts, List.flatMap_cons, hnames]
    simp [Stmt.calls, Part.calls]
  | define name params defaults body =>
    rw [Stmt.names] at hnames
    simp [Stmt.calls, Stmt.parts, hnames, listCalls_eq, bodyCalls_eq]
  | callBlock call params defaults body =>
    rw [Stmt.names] at hnames
    simp [Stmt.calls, Stmt.parts, hnames, listCalls_eq, bodyCalls_eq, Part.calls]
  | _ =>
    simp [Stmt.calls, Stmt.parts, Part.calls, optionCalls_eq, bodyCalls_eq, bindingsCalls_eq]

/-- **The calls of a part**, from those of its children. -/
theorem Part.calls_eq {p : Part} (hchain : p.isChain = false) (hnames : ∀ e ∈ p.names, e.calls = []) :
    p.calls = p.own ++ p.children.flatMap Part.calls := by
  cases p with
  | tree t => exact bodyCalls_eq t.body
  | stmt s => exact Stmt.calls_eq hnames
  | expr e => exact Expr.calls_eq hchain
  | call c =>
    obtain ⟨start, callee, args⟩ := c
    simp [Part.calls, Part.own, Part.children, Call.calls, Call.operands, argumentsCalls_eq]

/-! ## All positions -/

/-- Whether a position is inside a chain of comparisons. -/
def Part.hides (p : Part) (position : List Nat) : Prop :=
  ∃ above below q, position = above ++ below ∧ below ≠ [] ∧ p.at? above = some q ∧ q.isChain = true

/-- The parts of a list and their positions: the first number chooses one of
    the list. -/
def atIn? (parts : List Part) : List Nat → Option Part
  | [] => none
  | i :: position => parts[i]?.bind (·.at? position)

/-- Whether a position in a list of parts is inside a chain. -/
def hidesIn (parts : List Part) : List Nat → Prop
  | [] => False
  | i :: position => ∃ p, parts[i]? = some p ∧ p.hides position

/-- Calls listed with their positions: those at all positions that are not
    hidden, an outer call before the calls inside it. -/
structure Survey (at? : List Nat → Option Part) (hidden : List Nat → Prop) (calls : List Call)
    (found : List (List Nat × Call)) : Prop where
  calls_eq : found.map Prod.snd = calls
  mem_iff : ∀ position c,
    (position, c) ∈ found ↔ at? position = some (.call c) ∧ ¬ hidden position
  outer_first : found.Pairwise fun a b => ¬ b.1 <+: a.1

theorem Part.not_hides_nil (p : Part) : ¬ p.hides [] := by
  rintro ⟨above, below, q, h, hb, -⟩
  exact hb (List.append_eq_nil_iff.1 h.symm).2

theorem Part.hides_cons {p : Part} {i : Nat} {position : List Nat} :
    p.hides (i :: position) ↔ p.isChain = true ∨ hidesIn p.children (i :: position) := by
  constructor
  · rintro ⟨above, below, q, h, hb, hq, hc⟩
    cases above with
    | nil =>
      rw [Part.at?_nil, Option.some.injEq] at hq
      exact Or.inl (hq ▸ hc)
    | cons j above =>
      rw [List.cons_append, List.cons.injEq] at h
      obtain ⟨rfl, rfl⟩ := h
      rw [Part.at?_cons, Option.bind_eq_some_iff] at hq
      obtain ⟨child, hi, hq⟩ := hq
      exact Or.inr ⟨child, hi, above, below, q, rfl, hb, hq, hc⟩
  · rintro (h | ⟨child, hi, above, below, q, rfl, hb, hq, hc⟩)
    · exact ⟨[], i :: position, p, rfl, by simp, Part.at?_nil p, h⟩
    · refine ⟨i :: above, below, q, rfl, hb, ?_, hc⟩
      rw [Part.at?_cons, hi]
      exact hq

/-- A position in a list of parts with one more part before them. -/
def later (found : List (List Nat × Call)) : List (List Nat × Call) :=
  found.map fun (position, c) => (position.modifyHead (· + 1), c)

/-- A position in a part as one in a list of parts that starts with it. -/
def inFirst (found : List (List Nat × Call)) : List (List Nat × Call) :=
  found.map fun (position, c) => (0 :: position, c)

theorem Survey.ne_nil {parts : List Part} {calls : List Call} {found : List (List Nat × Call)}
    (h : Survey (atIn? parts) (hidesIn parts) calls found) : ∀ a ∈ found, a.1 ≠ [] := by
  rintro ⟨position, c⟩ ha rfl
  have := ((h.mem_iff [] c).1 ha).1
  simp [atIn?] at this

theorem Survey.nil : Survey (atIn? []) (hidesIn []) [] [] where
  calls_eq := rfl
  mem_iff position c := by cases position <;> simp [atIn?]
  outer_first := .nil

theorem modifyHead_prefix_iff {p q : List Nat} (hp : p ≠ []) (hq : q ≠ []) :
    p.modifyHead (· + 1) <+: q.modifyHead (· + 1) ↔ p <+: q := by
  cases p with
  | nil => exact absurd rfl hp
  | cons i p =>
    cases q with
    | nil => exact absurd rfl hq
    | cons j q => simp [List.cons_prefix_cons]

theorem mem_inFirst {found : List (List Nat × Call)} {position : List Nat} {c : Call} :
    (position, c) ∈ inFirst found ↔ ∃ below, position = 0 :: below ∧ (below, c) ∈ found := by
  simp only [inFirst, List.mem_map, Prod.mk.injEq, Prod.exists]
  constructor
  · rintro ⟨below, c, hmem, rfl, rfl⟩
    exact ⟨below, rfl, hmem⟩
  · rintro ⟨below, rfl, hmem⟩
    exact ⟨below, c, hmem, rfl, rfl⟩

theorem mem_later {found : List (List Nat × Call)} (hne : ∀ a ∈ found, a.1 ≠ [])
    {position : List Nat} {c : Call} :
    (position, c) ∈ later found ↔
      ∃ i below, position = (i + 1) :: below ∧ (i :: below, c) ∈ found := by
  simp only [later, List.mem_map, Prod.mk.injEq, Prod.exists]
  constructor
  · rintro ⟨old, c, hmem, rfl, rfl⟩
    obtain ⟨i, below, rfl⟩ := List.exists_cons_of_ne_nil (hne _ hmem)
    exact ⟨i, below, rfl, hmem⟩
  · rintro ⟨i, below, rfl, hmem⟩
    exact ⟨i :: below, c, hmem, rfl, rfl⟩

/-- **One more part before a list of parts.** -/
theorem Survey.cons {p : Part} {parts : List Part} {calls calls' : List Call}
    {found found' : List (List Nat × Call)} (h : Survey p.at? p.hides calls found)
    (h' : Survey (atIn? parts) (hidesIn parts) calls' found') :
    Survey (atIn? (p :: parts)) (hidesIn (p :: parts)) (calls ++ calls')
      (inFirst found ++ later found') where
  calls_eq := by
    rw [← h.calls_eq, ← h'.calls_eq]
    simp [inFirst, later, Function.comp_def]
  mem_iff position c := by
    rw [List.mem_append, mem_inFirst, mem_later h'.ne_nil]
    -- the first number of a position tells the first part from the later ones
    cases position with
    | nil => simp [atIn?]
    | cons i position =>
      cases i with
      | zero => simp [atIn?, hidesIn, h.mem_iff position c]
      | succ i =>
        have hshift : (∃ j below, (i + 1) :: position = (j + 1) :: below ∧ (j :: below, c) ∈ found') ↔
            (i :: position, c) ∈ found' := by
          constructor
          · rintro ⟨j, below, he, hmem⟩
            simp only [List.cons.injEq, Nat.add_right_cancel_iff] at he
            rwa [he.1, he.2]
          · exact fun hmem => ⟨i, position, rfl, hmem⟩
        rw [hshift, h'.mem_iff]
        simp [atIn?, hidesIn]
  outer_first := by
    rw [List.pairwise_append]
    refine ⟨?_, ?_, ?_⟩
    · rw [inFirst, List.pairwise_map]
      refine h.outer_first.imp fun hab => ?_
      simpa [List.cons_prefix_cons] using hab
    · rw [later, List.pairwise_map]
      refine h'.outer_first.imp_of_mem fun ha hb hab => ?_
      rwa [modifyHead_prefix_iff (h'.ne_nil _ hb) (h'.ne_nil _ ha)]
    · intro a ha b hb
      obtain ⟨a', -, rfl⟩ := List.mem_map.1 ha
      obtain ⟨b', hb', rfl⟩ := List.mem_map.1 hb
      obtain ⟨i, rest, hi⟩ := List.exists_cons_of_ne_nil (h'.ne_nil b' hb')
      simp [hi, List.cons_prefix_cons]

/-- The parts of a list are surveyed one after another. -/
theorem survey_list {parts : List Part}
    (h : ∀ p ∈ parts, ∃ found, Survey p.at? p.hides p.calls found) :
    ∃ found, Survey (atIn? parts) (hidesIn parts) (parts.flatMap Part.calls) found := by
  induction parts with
  | nil => exact ⟨[], .nil⟩
  | cons p parts ih =>
    obtain ⟨found, hp⟩ := h p (by simp)
    obtain ⟨found', hparts⟩ := ih fun q hq => h q (by simp [hq])
    exact ⟨_, hp.cons hparts⟩

theorem Survey.chain {p : Part} (h : p.isChain = true) : Survey p.at? p.hides p.calls [] where
  calls_eq := by
    cases p with
    | expr e =>
      cases e with
      | chain first links => simp [Part.calls_chain]
      | _ => simp [Part.isChain] at h
    | _ => simp [Part.isChain] at h
  mem_iff position c := by
    cases position with
    | nil =>
      rw [Part.at?_nil]
      simp only [List.not_mem_nil, false_iff, not_and, Option.some.injEq]
      rintro rfl
      simp [Part.isChain] at h
    | cons i position => simp [Part.hides_cons, h]
  outer_first := .nil

/-- **From the children of a part to the part**, which stands before them. -/
theorem Survey.node {p : Part} {found : List (List Nat × Call)} (hchain : p.isChain = false)
    (h : Survey (atIn? p.children) (hidesIn p.children) (p.children.flatMap Part.calls) found) :
    Survey p.at? p.hides (p.own ++ p.children.flatMap Part.calls)
      (p.own.map (([], ·)) ++ found) where
  calls_eq := by simp [h.calls_eq, Function.comp_def]
  mem_iff position c := by
    rw [List.mem_append]
    cases position with
    | nil =>
      have hno : ([], c) ∉ found := fun hmem => h.ne_nil _ hmem rfl
      rw [Part.at?_nil]
      cases p <;> simp [Part.own, hno, Part.not_hides_nil, eq_comm]
    | cons i position =>
      rw [Part.at?_cons, Part.hides_cons, h.mem_iff]
      simp [hchain, atIn?]
  outer_first := by
    rw [List.pairwise_append]
    refine ⟨by cases p <;> simp [Part.own], h.outer_first, ?_⟩
    intro a ha b hb
    obtain ⟨c, -, rfl⟩ := List.mem_map.1 ha
    simpa using h.ne_nil b hb

theorem mem_children_of_mem_names {p : Part} {e : Expr} (h : e ∈ p.names) :
    Part.expr e ∈ p.children := by
  cases p with
  | stmt s =>
    cases s with
    | importFrom source names => exact List.mem_cons_of_mem _ (List.mem_map_of_mem h)
    | define name params defaults body =>
      exact List.mem_append_left _ (List.mem_append_left _ (List.mem_map_of_mem h))
    | callBlock call params defaults body =>
      exact List.mem_cons_of_mem _
        (List.mem_append_left _ (List.mem_append_left _ (List.mem_map_of_mem h)))
    | _ => simp [Part.names, Stmt.names] at h
  | _ => simp [Part.names] at h

theorem Survey.callFree {p : Part} {found : List (List Nat × Call)}
    (h : Survey p.at? p.hides p.calls found) (hfree : p.CallFree) : p.calls = [] := by
  rw [← h.calls_eq, List.map_eq_nil_iff, List.eq_nil_iff_forall_not_mem]
  rintro ⟨position, c⟩ hmem
  have := hfree position _ ((h.mem_iff position c).1 hmem).1
  simp [Part.isCall] at this

/-- The names in a part are free of calls. -/
def Part.PlainNames (p : Part) : Prop := p.All fun q => ∀ e ∈ q.names, (Part.expr e).CallFree

/-- **The calls of a part are those at its positions outside of chains.** -/
theorem Part.survey {p : Part} (hnames : p.PlainNames) :
    ∃ found, Survey p.at? p.hides p.calls found := by
  induction p using Part.induct with
  | step p ih =>
    obtain ⟨hown, hbelow⟩ := Part.all_iff.1 hnames
    have hchildren : ∀ child ∈ p.children, ∃ found, Survey child.at? child.hides child.calls found :=
      fun child hc => ih child hc (hbelow child hc)
    cases hchain : p.isChain with
    | true => exact ⟨[], .chain hchain⟩
    | false =>
      have hempty : ∀ e ∈ p.names, e.calls = [] := by
        intro e he
        obtain ⟨found, hfound⟩ := hchildren _ (mem_children_of_mem_names he)
        exact hfound.callFree (hown e he)
      obtain ⟨found, hfound⟩ := survey_list hchildren
      rw [Part.calls_eq hchain hempty]
      exact ⟨_, hfound.node hchain⟩

/-! ## Templates -/

theorem Survey.nodup {at? : List Nat → Option Part} {hidden : List Nat → Prop} {calls : List Call}
    {found : List (List Nat × Call)} (h : Survey at? hidden calls found) :
    (found.map Prod.fst).Nodup := by
  rw [List.Nodup, List.pairwise_map]
  exact h.outer_first.imp fun {a b} hab he => hab (by simp [he])

/-- A survey is complete exactly if no chain holds a call. -/
theorem Survey.complete_iff {p : Part} {calls : List Call} {found : List (List Nat × Call)}
    (h : Survey p.at? p.hides calls found) :
    (∀ position c, p.at? position = some (.call c) → (position, c) ∈ found) ↔
      p.All fun q => q.isChain = true → q.CallFree := by
  constructor
  · intro hall above q hq hchain below r hr
    cases r with
    | call c =>
      have hat : p.at? (above ++ below) = some (.call c) := by rw [Part.at?_append, hq]; exact hr
      have hseen := ((h.mem_iff _ c).1 (hall _ c hat)).2
      cases below with
      | nil =>
        rw [Part.at?_nil, Option.some.injEq] at hr
        rw [hr] at hchain
        simp [Part.isChain] at hchain
      | cons i below => exact absurd ⟨above, i :: below, q, rfl, by simp, hq, hchain⟩ hseen
    | _ => rfl
  · intro hfree position c hat
    refine (h.mem_iff position c).2 ⟨hat, ?_⟩
    rintro ⟨above, below, q, rfl, -, hq, hchain⟩
    rw [Part.at?_append, hq] at hat
    exact absurd (hfree above q hq hchain below _ hat) (by simp [Part.isCall])

/-- **The calls of a template.**  They can be listed with their positions: each
    position once, an outer call before the calls inside it, and exactly the
    calls at all positions that are not inside a chain of comparisons.  So none
    is missing exactly if no chain holds a call. -/
theorem Tree.calls_survey (t : Tree) (hnames : (Part.tree t).PlainNames) :
    ∃ found : List (List Nat × Call),
      found.map Prod.snd = t.calls ∧
      (found.map Prod.fst).Nodup ∧
      found.Pairwise (fun a b => ¬ b.1 <+: a.1) ∧
      (∀ position c, (position, c) ∈ found ↔
        (Part.tree t).at? position = some (.call c) ∧ ¬ (Part.tree t).hides position) ∧
      ((∀ position c, (Part.tree t).at? position = some (.call c) → (position, c) ∈ found) ↔
        (Part.tree t).All fun q => q.isChain = true → q.CallFree) := by
  obtain ⟨found, h⟩ := Part.survey hnames
  exact ⟨found, h.calls_eq, h.nodup, h.outer_first, h.mem_iff, h.complete_iff⟩

theorem Part.plainNames_of_holdsTo {p : Part} (n : Nat)
    (h : p.holdsTo (fun q => q.names.all fun e => (Part.expr e).holdsTo (!·.isCall) n) n = true) :
    p.PlainNames := by
  intro position q hq e he
  have hall := List.all_eq_true.1 (Part.all_of_holdsTo h position q hq) e he
  intro below r hr
  simpa using Part.all_of_holdsTo hall below r hr

/-- The call `_("…")`. -/
def markerCall (start : Nat) (text : String) : Call :=
  .mk start (.var "_") [.positional (.constant (.text text))]

/-- A macro whose parameter has a call as its default, and an import. -/
def macroTemplate : Tree :=
  ⟨[.define "m" [.var "x"] [.call (markerCall 13 "a")]
      [.emit (.call (.mk 26 (.var "f") [.keyword "k" (.call (markerCall 30 "b"))]))],
    .importFrom (.constant (.text "lib")) [(.var "y", some (.var "z"))]]⟩

theorem macroTemplate_calls_survey :
    (Part.tree macroTemplate).PlainNames ∧
    ∃ found : List (List Nat × Call),
      found.map Prod.snd = macroTemplate.calls ∧
      (found.map Prod.fst).Nodup ∧
      found.Pairwise (fun a b => ¬ b.1 <+: a.1) ∧
      (∀ position c, (position, c) ∈ found ↔
        (Part.tree macroTemplate).at? position = some (.call c) ∧
          ¬ (Part.tree macroTemplate).hides position) ∧
      ((∀ position c, (Part.tree macroTemplate).at? position = some (.call c) →
          (position, c) ∈ found) ↔
        (Part.tree macroTemplate).All fun q => q.isChain = true → q.CallFree) := by
  have h : (Part.tree macroTemplate).PlainNames := Part.plainNames_of_holdsTo 9 (by decide)
  exact ⟨h, macroTemplate.calls_survey h⟩

/-- The template `{{ 1 < _("a") < 3 }}`. -/
def chainTemplate : Tree :=
  ⟨[.emit (.chain (.constant (.integer 1))
      [.mk .less false (.call (markerCall 7 "a")), .mk .less false (.constant (.integer 3))])]⟩

/-- A chain of comparisons hides a call. -/
theorem chainTemplate_calls :
    (Part.tree chainTemplate).PlainNames ∧
      (Part.tree chainTemplate).at? [0, 0, 1, 0] = some (.call (markerCall 7 "a")) ∧
      chainTemplate.calls = [] := by
  exact ⟨Part.plainNames_of_holdsTo 9 (by decide), by rfl, by rfl⟩

end PotCatalog.Template
