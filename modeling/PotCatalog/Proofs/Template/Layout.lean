/-
  The order of calls.

  `Part.visited` are the parts that are looked into for calls, in the order in
  which that is done, and `Part.written` are the same parts in the order in which
  they are written.  The two orders differ in a conditional, whose test is looked
  into before the value written in front of it, and in a call block, whose call
  is looked into before the defaults written in front of it.

  `Part.StandsAt` says that a part is written in the tokens that start at the
  given offsets.  Its calls then start there, and they are listed in the order of
  their offsets exactly if the part is tidy: the two orders do not clash anywhere
  in it, and no call is reported behind one in its callee.
-/
import Mathlib.Data.List.Basic
import Mathlib.Order.Nat
import PotCatalog.Proofs.Template.Survey
import PotCatalog.Template.Sites

namespace PotCatalog.Template

/-! ## Two orders -/

/-- The parts that are looked into for the calls of a part. -/
def Part.visited : Part → List Part
  | .expr (.chain _ _) => []
  | .stmt (.importFrom source _) => [.expr source]
  | .stmt (.define _ _ defaults body) => defaults.map .expr ++ body.map .stmt
  | .stmt (.callBlock c _ defaults body) => .call c :: (defaults.map .expr ++ body.map .stmt)
  | p => p.children

/-- The same parts in the order in which they are written. -/
def Part.written : Part → List Part
  | .expr (.conditional condition value otherwise) =>
    .expr value :: .expr condition :: otherwise.toList.map .expr
  | .stmt (.callBlock c _ defaults body) => defaults.map .expr ++ .call c :: body.map .stmt
  | p => p.visited

/-- The calls of a part, from those of the parts looked into. -/
theorem Part.calls_visited (p : Part) : p.calls = p.own ++ p.visited.flatMap Part.calls := by
  have hnames : ∀ e ∈ ([] : List Expr), e.calls = [] := fun _ he => absurd he List.not_mem_nil
  cases p with
  | tree t => exact Part.calls_eq rfl hnames
  | call c => exact Part.calls_eq rfl hnames
  | expr e =>
    cases e with
    | chain first links => exact Part.calls_chain first links
    | _ => exact Part.calls_eq rfl hnames
  | stmt s =>
    cases s with
    | importFrom | define | callBlock =>
      simp [Part.calls, Stmt.calls, Part.own, Part.visited, listCalls_eq, bodyCalls_eq]
    | _ => exact Part.calls_eq rfl hnames

/-- Nothing in a part itself brings its calls out of their order: the two orders
    of its parts do not clash, and a call is not reported behind a call in its
    callee. -/
def Part.KeepsOrder : Part → Prop
  | .expr (.conditional condition value _) => condition.calls = [] ∨ value.calls = []
  | .stmt (.callBlock _ _ defaults _) => listCalls defaults = []
  | .call (.mk start callee _) => ∀ inner ∈ callee.calls, start ≤ inner.start
  | _ => True

/-- A part keeps the order of its calls, and so do all parts looked into. -/
inductive Part.Tidy : Part → Prop where
  | intro {p : Part} (hself : p.KeepsOrder) (hinside : ∀ q ∈ p.visited, q.Tidy) : p.Tidy

theorem Part.tidy_iff {p : Part} : p.Tidy ↔ p.KeepsOrder ∧ ∀ q ∈ p.visited, q.Tidy :=
  ⟨fun ⟨hself, hinside⟩ => ⟨hself, hinside⟩, fun ⟨hself, hinside⟩ => ⟨hself, hinside⟩⟩

/-- Calls in the order of their offsets. -/
def InOrder (calls : List Call) : Prop := calls.Pairwise (·.start ≤ ·.start)

/-! ## Stretches of tokens -/

/-- The offsets of tokens one after another. -/
abbrev Increasing (offsets : List Nat) : Prop := offsets.Pairwise (· < ·)

theorem Increasing.lt {before after : List Nat} (h : Increasing (before ++ after)) {m n : Nat}
    (hm : m ∈ before) (hn : n ∈ after) : m < n :=
  (List.pairwise_append.1 h).2.2 m hm n hn

/-- Calls of one stretch of tokens and then of a later one. -/
theorem inOrder_append_iff {xs ys : List Call} {before after : List Nat}
    (h : Increasing (before ++ after)) (hxs : ∀ c ∈ xs, c.start ∈ before)
    (hys : ∀ c ∈ ys, c.start ∈ after) : InOrder (xs ++ ys) ↔ InOrder xs ∧ InOrder ys := by
  rw [InOrder, List.pairwise_append]
  constructor
  · exact fun ⟨hx, hy, _⟩ => ⟨hx, hy⟩
  · exact fun ⟨hx, hy⟩ => ⟨hx, hy, fun c hc d hd => (h.lt (hxs c hc) (hys d hd)).le⟩

/-- Calls of one stretch of tokens and then of an earlier one. -/
theorem inOrder_append_swapped_iff {xs ys : List Call} {before after : List Nat}
    (h : Increasing (before ++ after)) (hxs : ∀ c ∈ xs, c.start ∈ after)
    (hys : ∀ c ∈ ys, c.start ∈ before) :
    InOrder (xs ++ ys) ↔ (xs = [] ∨ ys = []) ∧ InOrder xs ∧ InOrder ys := by
  rw [InOrder, List.pairwise_append]
  constructor
  · rintro ⟨hx, hy, hxy⟩
    refine ⟨?_, hx, hy⟩
    by_contra! hne
    obtain ⟨c, hc⟩ := List.exists_mem_of_ne_nil xs hne.1
    obtain ⟨d, hd⟩ := List.exists_mem_of_ne_nil ys hne.2
    exact absurd (hxy c hc d hd) (Nat.not_le.2 (h.lt (hys d hd) (hxs c hc)))
  · rintro ⟨rfl | rfl, hx, hy⟩
    · exact ⟨hx, hy, by simp⟩
    · exact ⟨hx, hy, by simp⟩

/-- A part is written in the tokens that start at the given offsets. -/
structure Part.StandsAt (p : Part) (offsets : List Nat) : Prop where
  starts : ∀ c ∈ p.calls, c.start ∈ offsets
  inOrder_iff : Increasing offsets → (InOrder p.calls ↔ p.Tidy)

/-- Parts are written one after another in the tokens that start at the given
    offsets. -/
def StandAt : List Part → List Nat → Prop
  | [], _ => True
  | p :: rest, offsets =>
    ∃ first others, offsets = first ++ others ∧ p.StandsAt first ∧ StandAt rest others

section
variable {p : Part} {parts others : List Part} {offsets offsets' : List Nat}

theorem Part.StandsAt.mono (h : p.StandsAt offsets) (hsub : offsets.Sublist offsets') :
    p.StandsAt offsets' :=
  ⟨fun c hc => hsub.subset (h.starts c hc), fun hinc => h.inOrder_iff (hinc.sublist hsub)⟩

theorem StandAt.mono (h : StandAt parts offsets) (hsub : offsets.Sublist offsets') :
    StandAt parts offsets' := by
  induction parts generalizing offsets offsets' with
  | nil => trivial
  | cons p rest ih =>
    obtain ⟨first, others, rfl, hp, hrest⟩ := h
    obtain ⟨first', others', rfl, hfirst, hothers⟩ := List.append_sublist_iff.1 hsub
    exact ⟨first', others', rfl, hp.mono hfirst, ih hrest hothers⟩

theorem StandAt.append (h : StandAt parts offsets) (h' : StandAt others offsets') :
    StandAt (parts ++ others) (offsets ++ offsets') := by
  induction parts generalizing offsets with
  | nil => exact h'.mono (List.sublist_append_right ..)
  | cons p rest ih =>
    obtain ⟨first, more, rfl, hp, hrest⟩ := h
    exact ⟨first, more ++ offsets', List.append_assoc .., hp, ih hrest⟩

theorem StandAt.split (h : StandAt (parts ++ others) offsets) :
    ∃ before after, offsets = before ++ after ∧ StandAt parts before ∧ StandAt others after := by
  induction parts generalizing offsets with
  | nil => exact ⟨[], offsets, rfl, trivial, h⟩
  | cons p rest ih =>
    obtain ⟨first, more, rfl, hp, hrest⟩ := h
    obtain ⟨before, after, rfl, hbefore, hafter⟩ := ih hrest
    exact ⟨first ++ before, after, (List.append_assoc ..).symm, ⟨first, before, rfl, hp, hbefore⟩,
      hafter⟩

theorem StandAt.left (h : StandAt (parts ++ others) offsets) : StandAt parts offsets := by
  obtain ⟨before, after, rfl, hparts, -⟩ := h.split
  exact hparts.mono (List.sublist_append_left ..)

theorem StandAt.right (h : StandAt (parts ++ others) offsets) : StandAt others offsets := by
  obtain ⟨before, after, rfl, -, hothers⟩ := h.split
  exact hothers.mono (List.sublist_append_right ..)

theorem standAt_singleton : StandAt [p] offsets ↔ p.StandsAt offsets := by
  constructor
  · rintro ⟨first, others, rfl, hp, -⟩
    exact hp.mono (List.sublist_append_left ..)
  · exact fun hp => ⟨offsets, [], (List.append_nil _).symm, hp, trivial⟩

theorem StandAt.starts (h : StandAt parts offsets) :
    ∀ c ∈ parts.flatMap Part.calls, c.start ∈ offsets := by
  induction parts generalizing offsets with
  | nil => simp
  | cons p rest ih =>
    obtain ⟨first, others, rfl, hp, hrest⟩ := h
    intro c hc
    rcases List.mem_append.1 hc with hc | hc
    · exact List.mem_append_left _ (hp.starts c hc)
    · exact List.mem_append_right _ (ih hrest c hc)

theorem StandAt.inOrder_iff (h : StandAt parts offsets) (hinc : Increasing offsets) :
    InOrder (parts.flatMap Part.calls) ↔ ∀ p ∈ parts, p.Tidy := by
  induction parts generalizing offsets with
  | nil => simp [InOrder]
  | cons p rest ih =>
    obtain ⟨first, others, rfl, hp, hrest⟩ := h
    obtain ⟨hfirst, hothers, -⟩ := List.pairwise_append.1 hinc
    rw [List.flatMap_cons, inOrder_append_iff hinc hp.starts hrest.starts, hp.inOrder_iff hfirst,
      ih hrest hothers, List.forall_mem_cons]

end

/-! ## Parts in their tokens -/

section
variable {offsets before after : List Nat}

theorem Part.StandsAt.of_visited {p : Part} (hown : p.own = []) (hkeeps : p.KeepsOrder)
    (h : StandAt p.visited offsets) : p.StandsAt offsets := by
  have hcalls : p.calls = p.visited.flatMap Part.calls := by
    rw [Part.calls_visited, hown, List.nil_append]
  refine ⟨?_, fun hinc => ?_⟩
  · rw [hcalls]
    exact h.starts
  · rw [hcalls, h.inOrder_iff hinc, Part.tidy_iff]
    exact (and_iff_right hkeeps).symm

/-- A part that is looked into in the middle first. -/
theorem Part.StandsAt.of_swapped {p : Part} {early middle late : List Part} (hown : p.own = [])
    (hvisited : p.visited = middle ++ early ++ late)
    (hkeeps : p.KeepsOrder ↔ middle.flatMap Part.calls = [] ∨ early.flatMap Part.calls = [])
    (h : StandAt (early ++ middle ++ late) offsets) : p.StandsAt offsets := by
  obtain ⟨front, third, rfl, hfront, hlate⟩ := h.split
  obtain ⟨first, second, rfl, hearly, hmiddle⟩ := hfront.split
  have hcalls : p.calls = (middle.flatMap Part.calls ++ early.flatMap Part.calls) ++
      late.flatMap Part.calls := by
    rw [Part.calls_visited, hown, hvisited, List.nil_append, List.flatMap_append,
      List.flatMap_append]
  have hstarts : ∀ c ∈ middle.flatMap Part.calls ++ early.flatMap Part.calls,
      c.start ∈ first ++ second := by
    intro c hc
    rcases List.mem_append.1 hc with hc | hc
    · exact List.mem_append_right _ (hmiddle.starts c hc)
    · exact List.mem_append_left _ (hearly.starts c hc)
  refine ⟨?_, fun hinc => ?_⟩
  · intro c hc
    rw [hcalls] at hc
    rcases List.mem_append.1 hc with hc | hc
    · exact List.mem_append_left _ (hstarts c hc)
    · exact List.mem_append_right _ (hlate.starts c hc)
  · obtain ⟨hfront, hthird, -⟩ := List.pairwise_append.1 hinc
    obtain ⟨hfirst, hsecond, -⟩ := List.pairwise_append.1 hfront
    rw [hcalls, inOrder_append_iff hinc hstarts hlate.starts,
      inOrder_append_swapped_iff hfront hmiddle.starts hearly.starts, hmiddle.inOrder_iff hsecond,
      hearly.inOrder_iff hfirst, hlate.inOrder_iff hthird, ← hkeeps, @Part.tidy_iff p, hvisited,
      List.forall_mem_append, List.forall_mem_append, and_assoc]

theorem standsAt_call {start : Nat} {callee : Expr} {args : List Argument} (hstart : start ∈ before)
    (hcallee : (Part.expr callee).StandsAt before)
    (hargs : StandAt ((args.map Argument.value).map .expr) after) :
    (Part.call (.mk start callee args)).StandsAt (before ++ after) := by
  have hvisited : (Part.call (.mk start callee args)).visited =
      .expr callee :: (args.map Argument.value).map .expr := rfl
  have hcalls : (Part.call (.mk start callee args)).calls = .mk start callee args ::
      (callee.calls ++ ((args.map Argument.value).map .expr).flatMap Part.calls) := by
    rw [Part.calls_visited, hvisited]
    rfl
  refine ⟨?_, fun hinc => ?_⟩
  · intro c hc
    rw [hcalls] at hc
    rcases List.mem_cons.1 hc with rfl | hc
    · exact List.mem_append_left _ hstart
    · rcases List.mem_append.1 hc with hc | hc
      · exact List.mem_append_left _ (hcallee.starts c hc)
      · exact List.mem_append_right _ (hargs.starts c hc)
  · obtain ⟨hbefore, hafter, -⟩ := List.pairwise_append.1 hinc
    have hfirst : (∀ c ∈ callee.calls ++ ((args.map Argument.value).map .expr).flatMap Part.calls,
        start ≤ c.start) ↔ ∀ c ∈ callee.calls, start ≤ c.start := by
      rw [List.forall_mem_append]
      exact and_iff_left fun c hc => (hinc.lt hstart (hargs.starts c hc)).le
    rw [hcalls, InOrder, List.pairwise_cons,
      @Part.tidy_iff (.call (.mk start callee args)), hvisited, List.forall_mem_cons,
      ← hargs.inOrder_iff hafter, ← hcallee.inOrder_iff hbefore,
      ← inOrder_append_iff hinc hcallee.starts hargs.starts]
    exact and_congr_left' hfirst

/-- **A part stands where its parts do**, in the order in which they are
    written. -/
theorem Part.StandsAt.of_written {p : Part} (hcall : p.isCall = false)
    (h : StandAt p.written offsets) : p.StandsAt offsets := by
  cases p with
  | call c => simp [Part.isCall] at hcall
  | tree t => exact .of_visited rfl trivial h
  | expr e =>
    cases e with
    | conditional condition value otherwise =>
      refine @Part.StandsAt.of_swapped _ _ [.expr value] [.expr condition]
        (otherwise.toList.map .expr) rfl rfl ?_ h
      simp [Part.KeepsOrder, Part.calls]
    | _ => exact .of_visited rfl trivial h
  | stmt s =>
    cases s with
    | callBlock c params defaults body =>
      have hne : c.calls ≠ [] := by
        obtain ⟨start, callee, args⟩ := c
        simp [Call.calls]
      refine @Part.StandsAt.of_swapped _ _ (defaults.map .expr) [.call c] (body.map .stmt) rfl rfl ?_
        (by simpa [Part.written] using h)
      simp [Part.KeepsOrder, Part.calls, hne, listCalls_eq]
    | _ => exact .of_visited rfl trivial h

theorem StandAt.of_written {p : Part} (hcall : p.isCall = false) (h : StandAt p.written offsets) :
    StandAt [p] offsets :=
  standAt_singleton.2 (Part.StandsAt.of_written hcall h)

theorem StandAt.append_of_written {parts : List Part} {p : Part} (hcall : p.isCall = false)
    (h : StandAt (parts ++ p.written) offsets) : StandAt (parts ++ [p]) offsets := by
  obtain ⟨before, after, rfl, hparts, hwritten⟩ := h.split
  exact hparts.append (.of_written hcall hwritten)

end

end PotCatalog.Template
