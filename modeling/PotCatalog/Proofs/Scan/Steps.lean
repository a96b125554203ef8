/-
  The steps of a path.

  The steps of a path are its components without a dot at the start; two paths
  that differ only in idle parts have the same steps.  Joining paths appends
  their steps, and the name of a path below a base directory is made of steps.

  `steps_join_displayPath_iff`: a base directory joined with the name of a path
  below it has the steps of that path, unless the path strays from the base.
-/
import Mathlib.Data.List.Basic
import PotCatalog.Path

namespace PotCatalog

/-! ## Parts -/

theorem splitSlash_eq_splitOn (cs : List Char) : splitSlash cs = cs.splitOn '/' := by
  induction cs with
  | nil => rfl
  | cons c cs ih =>
    rw [splitSlash, List.splitOn_cons_eq_if_modifyHead, ← ih]
    by_cases hc : c = '/'
    · simp [hc]
    · simp only [hc, ↓reduceIte, beq_iff_eq]
      cases hs : splitSlash cs with
      | nil => exact absurd (ih ▸ hs) (List.splitOn_ne_nil '/' cs)
      | cons part parts => rfl

theorem splitSlash_append (xs ys : List Char) :
    splitSlash (xs ++ '/' :: ys) = splitSlash xs ++ splitSlash ys := by
  simp only [splitSlash_eq_splitOn, List.splitOn_append_cons_self]

theorem splitSlash_slash (cs : List Char) : splitSlash ('/' :: cs) = [] :: splitSlash cs := by
  rw [splitSlash, if_pos rfl]

theorem splitSlash_ne_nil (cs : List Char) : splitSlash cs ≠ [] := by
  rw [splitSlash_eq_splitOn]
  exact List.splitOn_ne_nil '/' cs

theorem splitSlash_of_notMem {cs : List Char} (h : '/' ∉ cs) : splitSlash cs = [cs] := by
  rw [splitSlash_eq_splitOn, List.splitOn_eq_singleton h]

theorem slash_notMem_of_mem_splitSlash {cs part : List Char} (h : part ∈ splitSlash cs) :
    '/' ∉ part := by
  fun_induction splitSlash cs generalizing part with
  | case1 => simp_all
  | case2 cs ih =>
    rcases List.mem_cons.1 h with rfl | h
    · simp
    · exact ih h
  | case3 c cs hc hnil => exact absurd hnil (splitSlash_ne_nil cs)
  | case4 c cs hc first rest heq ih =>
    rw [heq] at ih
    rcases List.mem_cons.1 h with rfl | h
    · have hfirst : '/' ∉ first := ih (List.mem_cons_self ..)
      simp [hfirst, Ne.symm hc]
    · exact ih (List.mem_cons_of_mem _ h)

theorem subset_of_mem_splitSlash {cs part : List Char} (h : part ∈ splitSlash cs) : part ⊆ cs := by
  fun_induction splitSlash cs generalizing part with
  | case1 => simp_all
  | case2 cs ih =>
    rcases List.mem_cons.1 h with rfl | h
    · exact List.nil_subset _
    · exact List.subset_cons_of_subset _ (ih h)
  | case3 c cs hc hnil => exact absurd hnil (splitSlash_ne_nil cs)
  | case4 c cs hc first rest heq ih =>
    rw [heq] at ih
    rcases List.mem_cons.1 h with rfl | h
    · exact List.cons_subset_cons _ (ih (List.mem_cons_self ..))
    · exact List.subset_cons_of_subset _ (ih (List.mem_cons_of_mem _ h))

/-! ## Steps -/

namespace Path

/-- The components of a path without a dot at its start. -/
def steps (p : Path) : List Component := p.components.filter (· ≠ .current)

/-- Whether a path starts with a single dot. -/
def startsAtDot (p : Path) : Bool := (splitSlash p.text.toList).head? == some ['.']

end Path

theorem Component.ofPart?_nil : Component.ofPart? [] = none := rfl

theorem Component.ofPart?_dot : Component.ofPart? ['.'] = none := rfl

theorem Component.ofPart?_ne_current {part : List Char} {c : Component}
    (h : Component.ofPart? part = some c) : c ≠ .current ∧ c ≠ .root := by
  unfold Component.ofPart? at h
  split at h
  · simp at h
  · split at h <;> simp only [Option.some.injEq] at h <;> subst h <;> simp

namespace Path

variable (base p : Path)

theorem isAbsolute_iff :
    p.isAbsolute = true ↔ ∃ part parts, splitSlash p.text.toList = [] :: part :: parts := by
  rw [isAbsolute]
  cases p.text.toList with
  | nil => simp [splitSlash]
  | cons c cs =>
    rw [splitSlash]
    by_cases hc : c = '/'
    · obtain ⟨part, parts, h⟩ := List.exists_cons_of_ne_nil (splitSlash_ne_nil cs)
      simp [hc, h]
    · cases splitSlash cs <;> simp [hc]

theorem isAbsolute_of_slash_notMem {text : String} (h : '/' ∉ text.toList) :
    (Path.mk text).isAbsolute = false := by
  rw [Bool.eq_false_iff, Ne, isAbsolute_iff, splitSlash_of_notMem h]
  simp

theorem startsAtDot_iff :
    p.startsAtDot = true ↔ ∃ parts, splitSlash p.text.toList = ['.'] :: parts := by
  rw [startsAtDot, beq_iff_eq, List.head?_eq_some_iff]

theorem anatomy_eq :
    p.anatomy =
      if p.isAbsolute then (.root, (splitSlash p.text.toList).tail)
      else if p.startsAtDot then (.current, (splitSlash p.text.toList).tail)
      else (.plain, splitSlash p.text.toList) := by
  have habs := isAbsolute_iff p
  have hdot := startsAtDot_iff p
  rw [anatomy]
  split
  case h_1 part parts hs =>
    rw [if_pos (habs.2 ⟨part, parts, hs⟩), hs, List.tail_cons]
  case h_2 parts hs =>
    have hrel : ¬ p.isAbsolute = true := by simp [habs, hs]
    rw [if_neg hrel, if_pos (hdot.2 ⟨parts, hs⟩), hs, List.tail_cons]
  case h_3 hroot hcurrent =>
    have hrel : ¬ p.isAbsolute = true := fun h => by
      obtain ⟨part, parts, hs⟩ := habs.1 h
      exact hroot part parts hs
    have hplain : ¬ p.startsAtDot = true := fun h => by
      obtain ⟨parts, hs⟩ := hdot.1 h
      exact hcurrent parts hs
    rw [if_neg hrel, if_neg hplain]

theorem components_eq :
    p.components =
      (if p.isAbsolute then [.root] else if p.startsAtDot then [.current] else []) ++
        (splitSlash p.text.toList).filterMap Component.ofPart? := by
  rw [components, anatomy_eq]
  by_cases habs : p.isAbsolute = true
  · obtain ⟨part, parts, hs⟩ := (isAbsolute_iff p).1 habs
    simp [habs, hs, List.filterMap_cons, Component.ofPart?_nil]
  · by_cases hdot : p.startsAtDot = true
    · obtain ⟨parts, hs⟩ := (startsAtDot_iff p).1 hdot
      simp [habs, hdot, hs, List.filterMap_cons, Component.ofPart?_dot]
    · simp [habs, hdot]

theorem steps_eq :
    p.steps =
      (if p.isAbsolute then [.root] else []) ++
        (splitSlash p.text.toList).filterMap Component.ofPart? := by
  have hkept : ∀ c ∈ (splitSlash p.text.toList).filterMap Component.ofPart?, c ≠ .current := by
    intro c hc
    obtain ⟨part, -, hpart⟩ := List.mem_filterMap.1 hc
    exact (Component.ofPart?_ne_current hpart).1
  rw [steps, components_eq, List.filter_append,
    List.filter_eq_self.2 fun c hc => decide_eq_true (hkept c hc)]
  congr 1
  split
  · rfl
  · split <;> rfl

theorem steps_of_slash_notMem {text : String} (h : '/' ∉ text.toList) :
    (Path.mk text).steps = (Component.ofPart? text.toList).toList := by
  rw [steps_eq, isAbsolute_of_slash_notMem h, splitSlash_of_notMem h]
  cases hpart : Component.ofPart? text.toList <;> simp [hpart]

theorem text_ne_empty_of_steps_ne_nil {p : Path} (h : p.steps ≠ []) : p.text ≠ "" := by
  intro hempty
  rw [show p = ⟨""⟩ from congrArg Path.mk hempty] at h
  exact h rfl

theorem components_eq_steps :
    p.components = (if p.startsAtDot then [.current] else []) ++ p.steps := by
  rw [components_eq, steps_eq]
  by_cases habs : p.isAbsolute = true
  · obtain ⟨part, parts, hs⟩ := (isAbsolute_iff p).1 habs
    have hdot : p.startsAtDot = false := by simp [startsAtDot, hs]
    simp [habs, hdot]
  · simp [habs]

theorem isAbsolute_iff_root_mem_steps : p.isAbsolute = true ↔ .root ∈ p.steps := by
  have hroot : .root ∉ (splitSlash p.text.toList).filterMap Component.ofPart? := by
    intro h
    obtain ⟨part, -, hpart⟩ := List.mem_filterMap.1 h
    exact (Component.ofPart?_ne_current hpart).2 rfl
  rw [steps_eq, List.mem_append]
  by_cases habs : p.isAbsolute = true
  · simp [habs]
  · simp [habs, hroot]

theorem isAbsolute_congr {p q : Path} (h : p.steps = q.steps) : p.isAbsolute = q.isAbsolute := by
  rw [Bool.eq_iff_iff, isAbsolute_iff_root_mem_steps, isAbsolute_iff_root_mem_steps, h]

/-! ## Joining -/

variable {base p}

theorem join_of_isAbsolute (hp : p.isAbsolute = true) : base.join p = p := by
  rw [join, if_pos hp]

theorem join_of_text_eq_empty (hb : base.text = "") : base.join p = p := by
  cases p with
  | mk text => by_cases hp : (Path.mk text).isAbsolute = true <;> simp [join, hp, hb]

/-- Only an empty part at the end of a base directory gets lost in a join. -/
theorem exists_splitSlash_join (hp : p.isAbsolute = false) (hb : base.text ≠ "") :
    ∃ parts, parts ≠ [] ∧
      splitSlash (base.join p).text.toList = parts ++ splitSlash p.text.toList ∧
      (splitSlash base.text.toList = parts ∨ splitSlash base.text.toList = parts ++ [[]]) := by
  have hne : base.text.isEmpty = false := by simpa [String.isEmpty_iff] using hb
  by_cases hslash : base.endsInSlash = true
  · obtain ⟨xs, hxs⟩ := List.getLast?_eq_some_iff.1 (beq_iff_eq.1 hslash)
    refine ⟨splitSlash xs, splitSlash_ne_nil xs, ?_, Or.inr ?_⟩
    · simp [join, hp, hslash, hxs, splitSlash_append]
    · rw [hxs, splitSlash_append]
      rfl
  · refine ⟨splitSlash base.text.toList, splitSlash_ne_nil _, ?_, Or.inl rfl⟩
    simp [join, hp, hslash, hne, splitSlash_append]

theorem filterMap_splitSlash_join (hp : p.isAbsolute = false) :
    (splitSlash (base.join p).text.toList).filterMap Component.ofPart? =
      (splitSlash base.text.toList).filterMap Component.ofPart? ++
        (splitSlash p.text.toList).filterMap Component.ofPart? := by
  by_cases hb : base.text = ""
  · simp [join_of_text_eq_empty hb, hb, splitSlash, Component.ofPart?_nil]
  · obtain ⟨parts, -, hjoin, hbase⟩ := exists_splitSlash_join hp hb
    rw [hjoin, List.filterMap_append]
    rcases hbase with h | h <;> simp [h, Component.ofPart?_nil]

theorem isAbsolute_join (hp : p.isAbsolute = false) :
    (base.join p).isAbsolute = base.isAbsolute := by
  by_cases hb : base.text = ""
  · rw [join_of_text_eq_empty hb, hp, isAbsolute, hb]
    rfl
  · have hne : base.text.toList ≠ [] := by simpa using hb
    obtain ⟨c, cs, hcs⟩ := List.exists_cons_of_ne_nil hne
    have hjoin : ∃ rest, (base.join p).text.toList = c :: rest := by
      by_cases hslash : base.endsInSlash = true
      · exact ⟨cs ++ p.text.toList, by simp [join, hp, hslash, hcs]⟩
      · exact ⟨cs ++ '/' :: p.text.toList, by simp [join, hp, hslash, hb, hcs]⟩
    obtain ⟨rest, hrest⟩ := hjoin
    rw [isAbsolute, isAbsolute, hrest, hcs, List.head?_cons, List.head?_cons]

theorem steps_join (hp : p.isAbsolute = false) : (base.join p).steps = base.steps ++ p.steps := by
  simp only [steps_eq, isAbsolute_join hp, hp, filterMap_splitSlash_join hp,
    Bool.false_eq_true, ↓reduceIte, List.nil_append, List.append_assoc]

theorem startsAtDot_join (hp : p.isAbsolute = false) (hb : base.text ≠ "") :
    (base.join p).startsAtDot = base.startsAtDot := by
  obtain ⟨parts, hne, hjoin, hbase⟩ := exists_splitSlash_join hp hb
  obtain ⟨part, parts, rfl⟩ := List.exists_cons_of_ne_nil hne
  rw [startsAtDot, startsAtDot, hjoin]
  rcases hbase with h | h <;> simp [h]

theorem components_prefix_join (hp : p.isAbsolute = false) :
    base.components <+: (base.join p).components := by
  by_cases hb : base.text = ""
  · have hnil : base.components = [] := by simp [components, anatomy, hb, splitSlash, Component.ofPart?_nil]
    rw [hnil]
    exact List.nil_prefix
  · rw [components_eq_steps, components_eq_steps, steps_join hp, startsAtDot_join hp hb,
      ← List.append_assoc]
    exact List.prefix_append _ _

/-- Whether a path goes on from another one.  Nothing is asked of a path that
    goes on from the working directory. -/
def Extends (q p : Path) : Prop :=
  q.isAbsolute = p.isAbsolute ∧ (p.steps ≠ [] → p.components <+: q.components)

theorem Extends.refl (p : Path) : p.Extends p := ⟨rfl, fun _ => List.prefix_rfl⟩

theorem Extends.trans {p q r : Path} (hrq : r.Extends q) (hqp : q.Extends p) : r.Extends p := by
  refine ⟨hrq.1.trans hqp.1, fun hne => ?_⟩
  have hpq := hqp.2 hne
  have hne' : q.steps ≠ [] := (hpq.filter _).ne_nil hne
  exact hpq.trans (hrq.2 hne')

theorem extends_join (hp : p.isAbsolute = false) : (base.join p).Extends base :=
  ⟨isAbsolute_join hp, fun _ => components_prefix_join hp⟩

end Path

/-! ## Rendering -/

namespace Component

/-- A component that a part inside a path can stand for. -/
def IsInner (c : Component) : Prop :=
  ofPart? c.text.toList = some c ∧ '/' ∉ c.text.toList

/-- Components that can be the steps of a path: the root stands at the start
    only. -/
def AreSteps (steps : List Component) : Prop :=
  ∃ inner : List Component, (∀ c ∈ inner, c.IsInner) ∧ (steps = inner ∨ steps = .root :: inner)

theorem isInner_of_ofPart? {part : List Char} {c : Component} (hslash : '/' ∉ part)
    (h : ofPart? part = some c) : c.IsInner := by
  have htext : c.text.toList = part := by
    unfold ofPart? at h
    split at h
    · simp at h
    · split at h
      case isTrue hdots => simp [← Option.some.inj h, text, hdots]
      case isFalse => simp [← Option.some.inj h, text]
  rw [IsInner, htext]
  exact ⟨h, hslash⟩

theorem not_isInner_root : ¬ root.IsInner := by
  rintro ⟨h, -⟩
  exact absurd h (by decide)

theorem AreSteps.of_append {before after : List Component} (h : AreSteps (before ++ after)) :
    AreSteps after := by
  obtain ⟨inner, hinner, hsteps⟩ := h
  cases before with
  | nil => exact ⟨inner, hinner, hsteps⟩
  | cons c before =>
    refine ⟨after, fun d hd => hinner d ?_, Or.inl rfl⟩
    rcases hsteps with rfl | hsteps
    · exact List.mem_append_right _ hd
    · rw [← (List.cons.inj hsteps).2]
      exact List.mem_append_right _ hd

theorem AreSteps.eq_nil_of_root_mem {before after : List Component} (h : AreSteps (before ++ after))
    (hroot : .root ∈ after) : before = [] := by
  obtain ⟨inner, hinner, hsteps⟩ := h
  have hnot : .root ∉ inner := fun hmem => not_isInner_root (hinner .root hmem)
  cases before with
  | nil => rfl
  | cons c before =>
    exfalso
    rcases hsteps with rfl | hsteps
    · exact hnot (List.mem_append_right _ hroot)
    · exact hnot ((List.cons.inj hsteps).2 ▸ List.mem_append_right _ hroot)

theorem render_of_isInner {steps : List Component} (h : ∀ c ∈ steps, c.IsInner) :
    render steps = "/".intercalate (steps.map text) := by
  unfold render
  split
  case h_1 rest => exact absurd (h .root (List.mem_cons_self ..)) not_isInner_root
  case h_2 => rfl

theorem toList_render_root (steps : List Component) :
    (render (.root :: steps)).toList = '/' :: ("/".intercalate (steps.map text)).toList := by
  simp [render]

end Component

theorem splitSlash_intercalate {steps : List Component} (h : ∀ c ∈ steps, c.IsInner)
    (hne : steps ≠ []) :
    splitSlash ("/".intercalate (steps.map Component.text)).toList =
      steps.map fun c => c.text.toList := by
  rw [splitSlash_eq_splitOn, String.toList_intercalate, List.map_map]
  refine List.splitOn_intercalate '/' ?_ (by simpa using hne)
  intro part hpart
  obtain ⟨c, hc, rfl⟩ := List.mem_map.1 hpart
  exact (h c hc).2

theorem filterMap_splitSlash_intercalate {steps : List Component} (h : ∀ c ∈ steps, c.IsInner) :
    (splitSlash ("/".intercalate (steps.map Component.text)).toList).filterMap Component.ofPart? =
      steps := by
  by_cases hne : steps = []
  · rw [hne]
    rfl
  · rw [splitSlash_intercalate h hne, List.filterMap_map]
    exact (List.filterMap_congr fun c hc => (h c hc).1).trans List.filterMap_some

namespace Path

theorem areSteps_steps (p : Path) : Component.AreSteps p.steps := by
  refine ⟨(splitSlash p.text.toList).filterMap Component.ofPart?, ?_, ?_⟩
  · intro c hc
    obtain ⟨part, hmem, hpart⟩ := List.mem_filterMap.1 hc
    exact Component.isInner_of_ofPart? (slash_notMem_of_mem_splitSlash hmem) hpart
  · rw [steps_eq]
    cases p.isAbsolute with
    | false => exact Or.inl rfl
    | true => exact Or.inr rfl

theorem isAbsolute_render {steps : List Component} (h : ∀ c ∈ steps, c.IsInner) :
    (Path.mk (Component.render steps)).isAbsolute = false := by
  rw [Bool.eq_false_iff, Ne, isAbsolute_iff, Component.render_of_isInner h]
  rintro ⟨part, parts, hs⟩
  cases steps with
  | nil => simp [splitSlash] at hs
  | cons c steps =>
    rw [splitSlash_intercalate h (by simp), List.map_cons] at hs
    have hc := (h c (List.mem_cons_self ..)).1
    rw [(List.cons.inj hs).1, Component.ofPart?_nil] at hc
    exact absurd hc (by simp)

/-- Steps are read back from the path that they are rendered to. -/
theorem steps_render {steps : List Component} (h : Component.AreSteps steps) :
    (Path.mk (Component.render steps)).steps = steps := by
  obtain ⟨inner, hinner, rfl | rfl⟩ := h
  · rw [steps_eq, isAbsolute_render hinner, Component.render_of_isInner hinner,
      filterMap_splitSlash_intercalate hinner]
    rfl
  · have habs : (Path.mk (Component.render (.root :: inner))).isAbsolute = true := by
      simp [isAbsolute, Component.toList_render_root]
    rw [steps_eq, habs, Component.toList_render_root, splitSlash_slash, List.filterMap_cons,
      Component.ofPart?_nil, filterMap_splitSlash_intercalate hinner]
    rfl

/-! ## Names below a base directory -/

variable {base p : Path}

/-- Whether a path strays from a base directory: it is read from the working
    directory, which is not the base, and does not start like the base. -/
def Strays (base p : Path) : Prop :=
  p.isAbsolute = false ∧ base.steps ≠ [] ∧ ¬ base.components <+: p.components

/-- The name of a path is rendered from its last steps: those behind the base
    directory, or all of them. -/
theorem exists_displayPath_eq (base p : Path) :
    ∃ before rest, p.steps = before ++ rest ∧ displayPath base p = Component.render rest ∧
      (base.components <+: p.components ∧ before = base.steps ∨
        ¬ base.components <+: p.components ∧ before = []) := by
  rw [displayPath]
  cases hstrip : stripStart? base.components p.components with
  | some rest =>
    have hrest := stripStart?_eq_some_iff.1 hstrip
    refine ⟨base.steps, rest.filter (· ≠ .current), ?_, rfl, Or.inl ⟨⟨rest, hrest.symm⟩, rfl⟩⟩
    rw [steps, steps, hrest, List.filter_append]
  | none =>
    refine ⟨[], p.steps, rfl, rfl, Or.inr ⟨?_, rfl⟩⟩
    rintro ⟨rest, hrest⟩
    rw [stripStart?_eq_some_iff.2 hrest.symm] at hstrip
    exact absurd hstrip (by simp)

theorem steps_displayPath {before rest : List Component} (hsteps : p.steps = before ++ rest)
    (hname : displayPath base p = Component.render rest) :
    (Path.mk (displayPath base p)).steps = rest := by
  rw [hname, steps_render (hsteps ▸ areSteps_steps p).of_append]

/-- A path that strays is looked for below the base directory a second time. -/
theorem Strays.steps_join_displayPath (h : base.Strays p) :
    (base.join ⟨displayPath base p⟩).steps = base.steps ++ p.steps := by
  obtain ⟨hrel, -, hnot⟩ := h
  obtain ⟨before, rest, hsteps, hname, ⟨hbelow, -⟩ | ⟨-, rfl⟩⟩ := exists_displayPath_eq base p
  · exact absurd hbelow hnot
  · have hname' : (Path.mk (displayPath base p)).steps = p.steps :=
      (steps_displayPath hsteps hname).trans hsteps.symm
    rw [steps_join ((isAbsolute_congr hname').trans hrel), hname']

/-- A base directory joined with the name of a path below it leads through the
    steps of that path. -/
theorem steps_join_displayPath (h : ¬ base.Strays p) :
    (base.join ⟨displayPath base p⟩).steps = p.steps := by
  obtain ⟨before, rest, hsteps, hname, hbefore⟩ := exists_displayPath_eq base p
  have hrest := steps_displayPath hsteps hname
  cases habs : (Path.mk (displayPath base p)).isAbsolute with
  | true =>
    -- the root stands at the start only, so nothing was taken away
    have hroot : .root ∈ rest := hrest ▸ (isAbsolute_iff_root_mem_steps _).1 habs
    have hnil : before = [] := (hsteps ▸ areSteps_steps p).eq_nil_of_root_mem hroot
    rw [join_of_isAbsolute habs, hrest, hsteps, hnil, List.nil_append]
  | false =>
    rw [steps_join habs, hrest]
    rcases hbefore with ⟨-, rfl⟩ | ⟨hnot, rfl⟩
    · exact hsteps.symm
    · have hrel : p.isAbsolute = false := by
        rw [← habs]
        exact isAbsolute_congr (hsteps.trans hrest.symm)
      have hnil : base.steps = [] := by
        by_contra hne
        exact h ⟨hrel, hne, hnot⟩
      rw [hnil, hsteps]

/-- **The name of a path below a base directory gives back the path.**  Joined
    with the base it has the steps of the path exactly if the path does not
    stray from the base. -/
theorem steps_join_displayPath_iff :
    (base.join ⟨displayPath base p⟩).steps = p.steps ↔ ¬ base.Strays p := by
  constructor
  · intro heq hstrays
    rw [hstrays.steps_join_displayPath] at heq
    exact hstrays.2.1 (List.append_left_eq_self.1 heq)
  · exact steps_join_displayPath

end Path

end PotCatalog
