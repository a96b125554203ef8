/-
  What parsers read.

  `Parser.Ensures` is a triple about the tokens read so far and those ahead, which
  stand for each other by their offsets.  Most parsers only add parts to those
  written before (`Parser.Lays`), or read tokens that hold no parts
  (`Parser.Skims`); for these the rules speak of lists of parts.
-/
import PotCatalog.Proofs.Template.Layout

namespace PotCatalog.Template

/-- Where the tokens ahead start. -/
def State.ahead (s : State) : List Nat := s.pending.map Lexeme.start

namespace Parser

variable {α β : Type}

/-! ## Triples -/

/-- A statement about where the tokens read and those ahead start. -/
abbrev Assertion := List Nat → List Nat → Prop

/-- A parser that is run where `A` holds and yields a result reads tokens such
    that `B` holds behind them. -/
def Ensures (A : Assertion) (p : Parser α) (B : α → Assertion) : Prop :=
  ∀ s a s', p s = .ok (a, s') → ∃ used, s.ahead = used ++ s'.ahead ∧
    ∀ read, A read s.ahead → B a (read ++ used) s'.ahead

section
variable {A A' : Assertion} {p : Parser α} {B B' : α → Assertion} {C : β → Assertion}

theorem Ensures.mono (h : Ensures A p B) (hpre : ∀ read ahead, A' read ahead → A read ahead)
    (hpost : ∀ a read ahead, B a read ahead → B' a read ahead) : Ensures A' p B' := by
  intro s a s' hrun
  obtain ⟨used, hused, hB⟩ := h s a s' hrun
  exact ⟨used, hused, fun read hread => hpost a _ _ (hB read (hpre read _ hread))⟩

/-- A run reads the same tokens, whatever is said about it. -/
theorem Ensures.and (h : Ensures A p B) (h' : Ensures A' p B') :
    Ensures (fun read ahead => A read ahead ∧ A' read ahead) p
      fun a read ahead => B a read ahead ∧ B' a read ahead := by
  intro s a s' hrun
  obtain ⟨used, hused, hB⟩ := h s a s' hrun
  obtain ⟨used', hused', hB'⟩ := h' s a s' hrun
  obtain rfl : used = used' := List.append_cancel_right (hused.symm.trans hused')
  exact ⟨used, hused, fun read ⟨hread, hread'⟩ => ⟨hB read hread, hB' read hread'⟩⟩

/-- A parser that reads nothing. -/
theorem Ensures.still (h : ∀ s a s', p s = .ok (a, s') → s'.ahead = s.ahead ∧
    ∀ read, A read s.ahead → B a read s.ahead) : Ensures A p B := by
  intro s a s' hrun
  obtain ⟨hahead, hB⟩ := h s a s' hrun
  refine ⟨[], hahead.symm, fun read hread => ?_⟩
  rw [List.append_nil, hahead]
  exact hB read hread

theorem Ensures.pure {a : α} (h : ∀ read ahead, A read ahead → B a read ahead) :
    Ensures A (Pure.pure a) B := by
  refine .still fun s a' s' hrun => ?_
  cases hrun
  exact ⟨rfl, fun read hread => h read _ hread⟩

theorem Ensures.fail {fault : Fault} : Ensures A (fail fault) B := by
  intro s a s' hrun
  cases hrun

theorem Ensures.fail_bind {fault : Fault} {f : α → Parser β} :
    Ensures A (Parser.fail fault >>= f) C := by
  intro s a s' hrun
  cases hrun

theorem Ensures.bind {f : α → Parser β} (hp : Ensures A p B) (hf : ∀ a, Ensures (B a) (f a) C) :
    Ensures A (p >>= f) C := by
  intro s b s' hrun
  change (p s >>= fun (a, s) => f a s) = .ok (b, s') at hrun
  cases ha : p s with
  | error e =>
    rw [ha] at hrun
    cases hrun
  | ok result =>
    obtain ⟨a, middle⟩ := result
    rw [ha] at hrun
    obtain ⟨used, hused, hB⟩ := hp s a middle ha
    obtain ⟨used', hused', hC⟩ := hf a middle b s' hrun
    refine ⟨used ++ used', by rw [hused, hused', List.append_assoc], fun read hread => ?_⟩
    rw [← List.append_assoc]
    exact hC _ (hB read hread)

/-- What is asked of the state changes nothing. -/
theorem Ensures.get {f : State → Parser β} (hf : ∀ s, Ensures A (f s) C) :
    Ensures A (MonadState.get >>= f) C :=
  fun s => hf s s

theorem Ensures.change {f : State → State} (hf : ∀ s, (f s).pending = s.pending)
    {next : PUnit → Parser β} (hnext : Ensures A (next ⟨⟩) C) :
    Ensures A (modify f >>= next) C := by
  intro s b s' hrun
  have hahead : (f s).ahead = s.ahead := congrArg (List.map Lexeme.start) (hf s)
  rw [← hahead]
  exact hnext (f s) b s' hrun

-- Induction on the number of rounds; the loop stops at the bound with a fault
theorem Ensures.repeatFrom {body : α → Parser (α ⊕ β)} {I : α → Assertion}
    (h : ∀ a, Ensures (I a) (body a) (Sum.elim I C)) (n : Nat) (a : α) :
    Ensures (I a) (repeatFrom body n a) C := by
  induction n generalizing a with
  | zero => exact .fail
  | succ n ih =>
    intro s b s' hrun
    rw [Parser.repeatFrom] at hrun
    dsimp only at hrun
    split at hrun
    · cases hrun
    · rename_i a' middle hbody
      obtain ⟨used, hused, hI⟩ := h a s _ middle hbody
      obtain ⟨used', hused', hC⟩ := ih a' middle b s' hrun
      refine ⟨used ++ used', by rw [hused, hused', List.append_assoc], fun read hread => ?_⟩
      rw [← List.append_assoc]
      exact hC _ (hI read hread)
    · rename_i b' middle hbody
      cases hrun
      exact h a s _ s' hbody

/-- **A loop** keeps what each of its rounds keeps. -/
theorem Ensures.loop {start : α} {body : α → Parser (α ⊕ β)} {I : α → Assertion}
    (h : ∀ a, Ensures (I a) (body a) (Sum.elim I C)) : Ensures (I start) (loop start body) C :=
  .get fun s => .repeatFrom h (s.size + 1) start

theorem Ensures.deeper (h : Ensures A p B) : Ensures A (deeper p) B := by
  refine .get fun s => ?_
  dsimp only
  split
  · exact .fail
  · refine Ensures.change ?_ (h.bind fun a => Ensures.change ?_ (.pure fun _ _ hB => hB))
    · exact fun _ => rfl
    · exact fun _ => rfl

end

/-! ## Tokens without parts -/

/-- A parser reads tokens, whatever it makes of them. -/
def Skims (p : Parser α) : Prop := Ensures (fun _ _ => True) p fun _ _ _ => True

section
variable {p : Parser α}

theorem Ensures.skims {A : Assertion} {B : α → Assertion} (h : Ensures A p B) : Skims p := by
  intro s a s' hrun
  obtain ⟨used, hused, -⟩ := h s a s' hrun
  exact ⟨used, hused, fun _ _ => trivial⟩

theorem Skims.pure {a : α} : Skims (Pure.pure a : Parser α) := Ensures.pure fun _ _ h => h

theorem Skims.bind {f : α → Parser β} (hp : Skims p) (hf : ∀ a, Skims (f a)) : Skims (p >>= f) :=
  Ensures.bind hp hf

theorem Skims.loop {start : α} {body : α → Parser (α ⊕ β)} (h : ∀ a, Skims (body a)) :
    Skims (loop start body) :=
  Ensures.loop (I := fun _ _ _ => True) fun a =>
    Ensures.mono (h a) (fun _ _ h => h) fun result _ _ _ => by cases result <;> trivial

theorem ensures_peek (A : Assertion) : Ensures A peek fun _ => A := by
  refine .still fun s a s' hrun => ⟨?_, fun _ hread => hread⟩
  unfold peek at hrun
  split at hrun
  · cases hrun
    rfl
  · split at hrun <;> cases hrun
    rfl

theorem skims_peek : Skims peek := ensures_peek _

theorem skims_peekText : Skims peekText := by
  refine Ensures.still fun s a s' hrun => ⟨?_, fun _ _ => trivial⟩
  unfold peekText at hrun
  split at hrun <;> cases hrun <;> rfl

/-- What `next` reads. -/
theorem ahead_of_next {s s' : State} {token : Option Token} (hrun : next s = .ok (token, s')) :
    token = none ∧ s'.ahead = s.ahead ∨ ∃ start, s.ahead = start :: s'.ahead := by
  unfold next at hrun
  split at hrun
  · rename_i lexeme rest hpending
    cases hrun
    exact .inr ⟨lexeme.start, congrArg (List.map Lexeme.start) hpending⟩
  · split at hrun <;> cases hrun
    exact .inl ⟨rfl, rfl⟩

theorem skims_next : Skims next := by
  intro s token s' hrun
  rcases ahead_of_next hrun with ⟨-, hahead⟩ | ⟨start, hahead⟩
  · exact ⟨[], hahead.symm, fun _ _ => trivial⟩
  · exact ⟨[start], hahead, fun _ _ => trivial⟩

theorem skims_sees (test : Token → Bool) : Skims (sees test) :=
  skims_peek.bind fun _ => .pure

theorem skims_skips (test : Token → Bool) : Skims (skips test) := by
  refine (skims_sees test).bind fun seen => ?_
  split
  · exact skims_next.bind fun _ => .pure
  · exact .pure

theorem skims_expectThat (expected : Expected) (test : Token → Option α) :
    Skims (expectThat expected test) := by
  refine skims_next.bind fun token => ?_
  split
  · exact Ensures.fail
  · split
    · exact .pure
    · exact Ensures.fail

theorem skims_expectName : Skims expectName := skims_expectThat _ _

end

/-! ## The token at hand -/

/-- The token that starts here has been read or comes next, or there is none. -/
def AtHand (start : Nat) : Assertion := fun read ahead =>
  start ∈ read ∨ ∀ first ∈ ahead.head?, first = start

theorem AtHand.of_read {start : Nat} {read used ahead : List Nat}
    (h : AtHand start read (used ++ ahead)) : AtHand start (read ++ used) ahead := by
  rcases h with h | h
  · exact .inl (List.mem_append_left _ h)
  · cases used with
    | nil => exact .inr h
    | cons first rest =>
      obtain rfl := h first rfl
      exact .inl (List.mem_append_right _ List.mem_cons_self)

theorem Skims.atHand {p : Parser α} (h : Skims p) (start : Nat) :
    Ensures (AtHand start) p fun _ => AtHand start := by
  intro s a s' hrun
  obtain ⟨used, hused, -⟩ := h s a s' hrun
  refine ⟨used, hused, fun read hread => ?_⟩
  rw [hused] at hread
  exact hread.of_read

theorem here_atHand (A : Assertion) :
    Ensures A here fun start read ahead => AtHand start read ahead ∧ A read ahead := by
  refine .still fun s start s' hrun => ?_
  cases hrun
  refine ⟨rfl, fun read hread => ⟨.inr fun first hfirst => ?_, hread⟩⟩
  rw [State.ahead, List.head?_map] at hfirst
  rw [hfirst, Option.getD_some]

theorem expectThat_atHand (expected : Expected) (test : Token → Option α) (start : Nat) :
    Ensures (AtHand start) (expectThat expected test) fun _ read _ => start ∈ read := by
  have hnext : Ensures (AtHand start) next fun token read _ => token = none ∨ start ∈ read := by
    intro s token s' hrun
    rcases ahead_of_next hrun with ⟨hnone, hahead⟩ | ⟨first, hahead⟩
    · exact ⟨[], hahead.symm, fun _ _ => .inl hnone⟩
    · refine ⟨[first], hahead, fun read hread => .inr ?_⟩
      rcases hread with hread | hread
      · exact List.mem_append_left _ hread
      · rw [hahead] at hread
        obtain rfl := hread first rfl
        exact List.mem_append_right _ List.mem_cons_self
  refine hnext.bind fun token => ?_
  split
  · exact .fail
  · split
    · exact .pure fun _ _ hread => hread.resolve_left (Option.some_ne_none _)
    · exact .fail

/-! ## Parts -/

/-- Behind the parts given, a parser that yields a result reads tokens such that
    the parts of its result are written in all of them. -/
def Lays (given : List Part) (p : Parser α) (parts : α → List Part) : Prop :=
  Ensures (fun read _ => StandAt given read) p fun a read _ => StandAt (parts a) read

section
variable {given : List Part} {p : Parser α} {parts : α → List Part} {f : α → Parser β}
  {final : β → List Part}

theorem Lays.pure {a : α} (h : ∀ offsets, StandAt given offsets → StandAt (parts a) offsets) :
    Lays given (Pure.pure a) parts :=
  Ensures.pure fun read _ => h read

/-- Other parts are there as well. -/
theorem Lays.mono {given' : List Part} (h : Lays given' p parts)
    (hgiven : ∀ offsets, StandAt given offsets → StandAt given' offsets) : Lays given p parts :=
  Ensures.mono h (fun read _ => hgiven read) fun _ _ _ hparts => hparts

theorem Lays.fail {fault : Fault} : Lays given (fail fault) parts := Ensures.fail

theorem Lays.bind (hp : Lays given p parts) (hf : ∀ a, Lays (parts a) (f a) final) :
    Lays given (p >>= f) final :=
  Ensures.bind hp hf

/-- What a parser lays comes behind what is there. -/
theorem Lays.behind (h : Lays [] p parts) (A : List Nat → Prop) :
    Ensures (fun read _ => A read) p fun a read _ =>
      ∃ before after, read = before ++ after ∧ A before ∧ StandAt (parts a) after := by
  intro s a s' hrun
  obtain ⟨used, hused, hparts⟩ := h s a s' hrun
  exact ⟨used, hused, fun read hread => ⟨read, used, rfl, hread, hparts [] trivial⟩⟩

theorem Lays.frame (h : Lays [] p parts) (given : List Part) :
    Lays given p fun a => given ++ parts a := by
  refine (h.behind (StandAt given)).mono (fun _ _ hgiven => hgiven) ?_
  rintro a _ _ ⟨before, after, rfl, hgiven, hparts⟩
  exact hgiven.append hparts

theorem Lays.andThen (hp : Lays [] p parts) (hf : ∀ a, Lays (given ++ parts a) (f a) final) :
    Lays given (p >>= f) final :=
  (hp.frame given).bind hf

theorem Skims.lays (h : Skims p) (given : List Part) : Lays given p fun _ => given := by
  intro s a s' hrun
  obtain ⟨used, hused, -⟩ := h s a s' hrun
  exact ⟨used, hused, fun read hread => hread.mono (List.sublist_append_left ..)⟩

theorem Skims.andThen (hp : Skims p) (hf : ∀ a, Lays given (f a) final) :
    Lays given (p >>= f) final :=
  (hp.lays given).bind hf

theorem Lays.atHand (h : Lays given p parts) (start : Nat) :
    Ensures (fun read ahead => AtHand start read ahead ∧ StandAt given read) p
      fun a read ahead => AtHand start read ahead ∧ StandAt (parts a) read :=
  (h.skims.atHand start).and h

/-- **A loop** that gathers parts, `I` being those of what it has gathered. -/
theorem Lays.loop {start : α} {body : α → Parser (α ⊕ β)} {I : α → List Part}
    (h : ∀ a, Lays (I a) (body a) (Sum.elim I final)) : Lays (I start) (loop start body) final := by
  refine Ensures.loop (I := fun a read _ => StandAt (I a) read) fun a =>
    Ensures.mono (h a) (fun _ _ hparts => hparts) fun result _ _ hparts => ?_
  cases result with
  | inl a => exact hparts
  | inr b => exact hparts

theorem Lays.deeper (h : Lays given p parts) : Lays given (deeper p) parts := Ensures.deeper h

/-- A round of a loop over items with commas between them. -/
theorem Lays.separated {closes : Parser Bool} {isFirst : Bool} {done more : Parser α}
    (hcloses : Skims closes) (hdone : Lays given done parts) (hmore : Lays given more parts) :
    Lays given (do
      if ← closes then done
      else if !isFirst then
        expectSymbol .comma
        if ← closes then done else more
      else more) parts := by
  refine hcloses.andThen fun closed => ?_
  split
  · exact hdone
  · split
    · refine (skims_expectThat _ _).andThen fun _ => hcloses.andThen fun closed => ?_
      split
      · exact hdone
      · exact hmore
    · exact hmore

theorem Lays.absent {next : Option Expr → Parser β}
    (hnext : ∀ o, Lays (given ++ o.toList.map .expr) (next o) final) :
    Lays given (Pure.pure none >>= next) final := by
  have hnone := hnext none
  rw [Option.toList_none, List.map_nil, List.append_nil] at hnone
  exact hnone

theorem Lays.present {e : Parser Expr} {next : Option Expr → Parser β}
    (he : Lays [] e fun e => [.expr e])
    (hnext : ∀ o, Lays (given ++ o.toList.map .expr) (next o) final) :
    Lays given (some <$> e >>= next) final := by
  rw [bind_map_left]
  exact he.andThen fun value => hnext (some value)

/-- An expression that may be missing. -/
theorem Lays.unless {e : Parser Expr} {next : Option Expr → Parser β} {c : Bool}
    (he : Lays [] e fun e => [.expr e])
    (hnext : ∀ o, Lays (given ++ o.toList.map .expr) (next o) final) :
    Lays given (if c = true then Pure.pure none >>= next else some <$> e >>= next) final := by
  split
  · exact .absent hnext
  · exact .present he hnext

/-- An expression that may be there. -/
theorem Lays.when {e : Parser Expr} {next : Option Expr → Parser β} {c : Bool}
    (he : Lays [] e fun e => [.expr e])
    (hnext : ∀ o, Lays (given ++ o.toList.map .expr) (next o) final) :
    Lays given (if c = true then some <$> e >>= next else Pure.pure none >>= next) final := by
  split
  · exact .present he hnext
  · exact .absent hnext

/-- A step that is not always taken. -/
theorem Lays.optional {c : Prop} [Decidable c] {step : Parser PUnit} {next : PUnit → Parser β}
    (hstep : Skims step) (hnext : Lays given (next ⟨⟩) final) :
    Lays given (if c then step >>= next else next ⟨⟩) final := by
  split
  · exact hstep.andThen fun _ => hnext
  · exact hnext

/-- A part is made of the parts that are there. -/
theorem Lays.node {a : α} (part : Part) (hparts : parts a = [part]) (hcall : part.isCall = false) :
    Lays part.written (Pure.pure a) parts := by
  refine .pure fun offsets hwritten => ?_
  rw [hparts]
  exact .of_written hcall hwritten

end

end Parser

end PotCatalog.Template
