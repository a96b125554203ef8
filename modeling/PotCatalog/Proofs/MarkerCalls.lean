/-
  What becomes of the calls of a file.

  A call of a marker marks a text if its arguments are what the marker asks for
  (`CallSite.Marks`), and fails otherwise, for one reason (`CallSite.Fails`).
  `Sorts` relates calls to the messages and issues that are due for them, one
  call at a time.

  `collect_sorts`: collecting the calls of a file yields what is due, every
  marker call either marks a text or fails, and the fourth reason, a marker that
  is neither singular nor plural, never arises.
-/
import Mathlib.Logic.Basic
import PotCatalog.Proofs.Judgement

namespace PotCatalog

/-! ## Marker calls -/

/-- The marker of a kind of source for a message without a plural form. -/
inductive SingularMarker : SourceKind → String → Prop where
  | template : SingularMarker .template "_"
  | script : SingularMarker .script "gettext"

/-- The marker of a kind of source for a message with a plural form, and the
    least number of its arguments. -/
inductive PluralMarker : SourceKind → String → Nat → Prop where
  | template : PluralMarker .template "_plural" 3
  | script : PluralMarker .script "ngettext" 2

namespace CallSite

/-- A call calls a marker of a kind of source. -/
def CallsMarker (kind : SourceKind) (call : CallSite) : Prop :=
  ∃ name, call.callee = some name ∧
    (SingularMarker kind name ∨ ∃ least, PluralMarker kind name least)

/-- A call marks a text, and the plural form that goes with it. -/
inductive Marks (kind : SourceKind) (call : CallSite) : String → Option String → Prop where
  | singular {name msgid : String} {rest : List CallArgument} :
      SingularMarker kind name → call.callee = some name →
      call.args = .literal msgid :: rest → Marks kind call msgid none
  | plural {name msgid plural : String} {least : Nat} {rest : List CallArgument} :
      PluralMarker kind name least → call.callee = some name → least ≤ call.args.length →
      call.args = .literal msgid :: .literal plural :: rest → Marks kind call msgid (some plural)

/-- A call of a marker marks no text, for a reason.  Too few arguments of a
    plural marker count before what the arguments are. -/
inductive Fails (kind : SourceKind) (call : CallSite) : Refusal → Prop where
  | empty {name : String} :
      SingularMarker kind name → call.callee = some name → call.args = [] →
      Fails kind call .emptyCall
  | nonLiteral {name : String} {rest : List CallArgument} :
      SingularMarker kind name → call.callee = some name → call.args = .expression :: rest →
      Fails kind call .nonLiteral
  | incomplete {name : String} {least : Nat} :
      PluralMarker kind name least → call.callee = some name → call.args.length < least →
      Fails kind call (.incompletePlural kind)
  | nonLiteralPlural {name : String} {least : Nat} :
      PluralMarker kind name least → call.callee = some name → least ≤ call.args.length →
      call.args[0]? = some .expression ∨ call.args[1]? = some .expression →
      Fails kind call .nonLiteral

end CallSite

/-- The messages and issues that are due for the calls of a file, in the order of
    the calls. -/
inductive Sorts (kind : SourceKind) (file source : String) :
    List CallSite → List Message → List Issue → Prop where
  | nil : Sorts kind file source [] [] []
  | message {call : CallSite} {calls : List CallSite} {messages : List Message}
      {issues : List Issue} {msgid : String} {plural : Option String} :
      call.Marks kind msgid plural → Sorts kind file source calls messages issues →
      Sorts kind file source (call :: calls)
        (⟨msgid, plural, [⟨file, call.position.line⟩]⟩ :: messages) issues
  | issue {call : CallSite} {calls : List CallSite} {messages : List Message}
      {issues : List Issue} {reason : Refusal} :
      call.Fails kind reason → Sorts kind file source calls messages issues →
      Sorts kind file source (call :: calls) messages
        (.invalidCall
          ⟨file, call.position, (lineAt source call.position.line).getD ""⟩ reason :: issues)
  | other {call : CallSite} {calls : List CallSite} {messages : List Message}
      {issues : List Issue} :
      ¬ call.CallsMarker kind → Sorts kind file source calls messages issues →
      Sorts kind file source (call :: calls) messages issues

/-! ## The markers of a kind -/

variable {kind : SourceKind}

theorem singularMarker_iff {name : String} :
    SingularMarker kind name ↔ name = kind.markers.singular := by
  constructor
  · rintro (_ | _) <;> rfl
  · rintro rfl
    cases kind with
    | template => exact .template
    | script => exact .script

theorem pluralMarker_iff {name : String} {least : Nat} :
    PluralMarker kind name least ↔
      name = kind.markers.plural ∧ least = kind.markers.pluralArguments := by
  constructor
  · rintro (_ | _) <;> exact ⟨rfl, rfl⟩
  · rintro ⟨rfl, rfl⟩
    cases kind with
    | template => exact .template
    | script => exact .script

theorem SourceKind.plural_ne_singular (kind : SourceKind) :
    kind.markers.plural ≠ kind.markers.singular := by
  cases kind <;> decide

theorem SourceKind.markers_kind (kind : SourceKind) : kind.markers.kind = kind := by
  cases kind <;> rfl

/-- Enough arguments for a plural marker are at least two. -/
theorem PluralMarker.exists_two {name : String} {least : Nat} (h : PluralMarker kind name least)
    {args : List CallArgument} (hleast : least ≤ args.length) :
    ∃ first second rest, args = first :: second :: rest := by
  have htwo : 2 ≤ args.length := by cases h <;> omega
  match args, htwo with
  | first :: second :: rest, _ => exact ⟨first, second, rest, rfl⟩

/-! ## One call -/

namespace CallSite

variable {call : CallSite} {msgid : String} {plural : Option String} {reason : Refusal}

theorem Marks.callsMarker (h : call.Marks kind msgid plural) : call.CallsMarker kind := by
  cases h with
  | singular hname hcallee => exact ⟨_, hcallee, Or.inl hname⟩
  | plural hname hcallee => exact ⟨_, hcallee, Or.inr ⟨_, hname⟩⟩

theorem Fails.callsMarker (h : call.Fails kind reason) : call.CallsMarker kind := by
  cases h with
  | empty hname hcallee | nonLiteral hname hcallee => exact ⟨_, hcallee, Or.inl hname⟩
  | incomplete hname hcallee | nonLiteralPlural hname hcallee =>
    exact ⟨_, hcallee, Or.inr ⟨_, hname⟩⟩

theorem callsMarker_iff : call.CallsMarker kind ↔ kind.markers.isMarkerCall call = true := by
  simp only [CallsMarker, singularMarker_iff, pluralMarker_iff, MarkerSet.isMarkerCall,
    decide_eq_true_eq]
  constructor
  · rintro ⟨name, hcallee, rfl | ⟨least, rfl, -⟩⟩
    · exact Or.inl hcallee
    · exact Or.inr hcallee
  · rintro (hcallee | hcallee)
    · exact ⟨_, hcallee, Or.inl rfl⟩
    · exact ⟨_, hcallee, Or.inr ⟨_, rfl, rfl⟩⟩

/-- With enough arguments, the first two of a plural marker decide. -/
theorem texts?_of_enough (hcallee : call.callee = some kind.markers.plural)
    (hleast : kind.markers.pluralArguments ≤ call.args.length) :
    kind.markers.texts? call =
      match call.args with
      | .literal msgid :: .literal plural :: _ => some (msgid, some plural)
      | _ => none := by
  have hsingular : call.callee ≠ some kind.markers.singular := by
    simp [hcallee, kind.plural_ne_singular]
  unfold MarkerSet.texts?
  exact (if_neg hsingular).trans (if_pos ⟨hcallee, hleast⟩)

theorem Marks.judge_eq (h : call.Marks kind msgid plural) (file : String) :
    kind.markers.judge file call = .message ⟨msgid, plural, [⟨file, call.position.line⟩]⟩ := by
  rw [MarkerSet.judge_eq]
  cases h with
  | singular hname hcallee hargs =>
    obtain rfl := singularMarker_iff.1 hname
    simp [MarkerSet.texts?, hcallee, hargs]
  | plural hname hcallee hleast hargs =>
    obtain ⟨rfl, rfl⟩ := pluralMarker_iff.1 hname
    rw [texts?_of_enough hcallee hleast, hargs]

theorem Fails.judge_eq (h : call.Fails kind reason) (file : String) :
    kind.markers.judge file call = .refused reason := by
  rw [MarkerSet.judge_eq]
  cases h with
  | empty hname hcallee hargs | nonLiteral hname hcallee hargs =>
    obtain rfl := singularMarker_iff.1 hname
    simp [MarkerSet.texts?, MarkerSet.isMarkerCall, MarkerSet.fault, hcallee, hargs]
  | incomplete hname hcallee hfew =>
    obtain ⟨rfl, rfl⟩ := pluralMarker_iff.1 hname
    simp [MarkerSet.texts?, MarkerSet.isMarkerCall, MarkerSet.fault, hcallee,
      kind.plural_ne_singular, kind.markers_kind, hfew, Nat.not_le.2 hfew]
  | nonLiteralPlural hname hcallee hleast hargs =>
    obtain ⟨rfl, rfl⟩ := pluralMarker_iff.1 hname
    have hnone : kind.markers.texts? call = none := by
      rw [texts?_of_enough hcallee hleast]
      split
      · rename_i hliterals
        simp [hliterals] at hargs
      · rfl
    simp [hnone, MarkerSet.isMarkerCall, MarkerSet.fault, hcallee, kind.plural_ne_singular,
      Nat.not_lt.2 hleast]

theorem judge_eq_ignored (h : ¬ call.CallsMarker kind) (file : String) :
    kind.markers.judge file call = .ignored := by
  rw [callsMarker_iff, Bool.not_eq_true] at h
  have hnone : kind.markers.texts? call = none := by
    simp only [MarkerSet.isMarkerCall, decide_eq_false_iff_not, not_or] at h
    simp [MarkerSet.texts?, h]
  rw [MarkerSet.judge_eq, hnone, h]
  rfl

/-- A call of a marker marks a text or fails. -/
theorem CallsMarker.marks_or_fails (h : call.CallsMarker kind) :
    (∃ msgid plural, call.Marks kind msgid plural) ∨ ∃ reason, call.Fails kind reason := by
  obtain ⟨name, hcallee, hname | ⟨least, hname⟩⟩ := h
  · cases hargs : call.args with
    | nil => exact Or.inr ⟨_, .empty hname hcallee hargs⟩
    | cons first rest =>
      cases first with
      | literal msgid => exact Or.inl ⟨_, _, .singular hname hcallee hargs⟩
      | expression => exact Or.inr ⟨_, .nonLiteral hname hcallee hargs⟩
  · rcases Nat.lt_or_ge call.args.length least with hfew | hleast
    · exact Or.inr ⟨_, .incomplete hname hcallee hfew⟩
    · obtain ⟨first, second, rest, hargs⟩ := hname.exists_two hleast
      cases first with
      | expression =>
        exact Or.inr ⟨_, .nonLiteralPlural hname hcallee hleast (Or.inl (by rw [hargs]; rfl))⟩
      | literal msgid =>
        cases second with
        | expression =>
          exact Or.inr ⟨_, .nonLiteralPlural hname hcallee hleast (Or.inr (by rw [hargs]; rfl))⟩
        | literal plural => exact Or.inl ⟨_, _, .plural hname hcallee hleast hargs⟩

/-- **A marker call** marks a text or fails, and not both. -/
theorem callsMarker_iff_xor : call.CallsMarker kind ↔
    Xor (∃ msgid plural, call.Marks kind msgid plural) (∃ reason, call.Fails kind reason) := by
  have hnot : ¬ ((∃ msgid plural, call.Marks kind msgid plural) ∧
      ∃ reason, call.Fails kind reason) := by
    rintro ⟨⟨msgid, plural, hmarks⟩, reason, hfails⟩
    cases (hmarks.judge_eq "").symm.trans (hfails.judge_eq "")
  rw [xor_iff_or_and_not_and]
  constructor
  · intro h
    exact ⟨h.marks_or_fails, hnot⟩
  · rintro ⟨⟨msgid, plural, hmarks⟩ | ⟨reason, hfails⟩, -⟩
    · exact hmarks.callsMarker
    · exact hfails.callsMarker

end CallSite

/-! ## The calls of a file -/

namespace MarkerSet

variable {markers : MarkerSet} {file source : String} {call : CallSite} {calls : List CallSite}

theorem collect_cons_of_message {m : Message} (h : markers.judge file call = .message m) :
    markers.collect file source (call :: calls) =
      ⟨m :: (markers.collect file source calls).messages,
        (markers.collect file source calls).issues⟩ := by
  simp [collect, messages, refusals, h]

theorem collect_cons_of_refused {reason : Refusal} (h : markers.judge file call = .refused reason) :
    markers.collect file source (call :: calls) =
      ⟨(markers.collect file source calls).messages,
        .invalidCall (Context.of file source call.position) reason ::
          (markers.collect file source calls).issues⟩ := by
  simp [collect, messages, refusals, h]

theorem collect_cons_of_ignored (h : markers.judge file call = .ignored) :
    markers.collect file source (call :: calls) = markers.collect file source calls := by
  simp [collect, messages, refusals, h]

end MarkerSet

variable {file source : String} {calls : List CallSite}

theorem Sorts.collect_eq {messages : List Message} {issues : List Issue}
    (h : Sorts kind file source calls messages issues) :
    kind.markers.collect file source calls = ⟨messages, issues⟩ := by
  induction h with
  | nil => rfl
  | message hmarks _ ih => rw [MarkerSet.collect_cons_of_message (hmarks.judge_eq file), ih]
  | issue hfails _ ih =>
    rw [MarkerSet.collect_cons_of_refused (hfails.judge_eq file), ih]
    rfl
  | other hother _ ih =>
    rw [MarkerSet.collect_cons_of_ignored (CallSite.judge_eq_ignored hother file), ih]

theorem sorts_collect (kind : SourceKind) (file source : String) (calls : List CallSite) :
    Sorts kind file source calls (kind.markers.collect file source calls).messages
      (kind.markers.collect file source calls).issues := by
  induction calls with
  | nil => exact .nil
  | cons call rest ih =>
    by_cases h : call.CallsMarker kind
    · rcases h.marks_or_fails with ⟨msgid, plural, hmarks⟩ | ⟨reason, hfails⟩
      · rw [MarkerSet.collect_cons_of_message (hmarks.judge_eq file)]
        exact .message hmarks ih
      · rw [MarkerSet.collect_cons_of_refused (hfails.judge_eq file)]
        exact .issue hfails ih
    · rw [MarkerSet.collect_cons_of_ignored (CallSite.judge_eq_ignored h file)]
      exact .other h ih

theorem Sorts.unknownMarker_notMem {messages : List Message} {issues : List Issue}
    (h : Sorts kind file source calls messages issues) (context : Context) (name : String) :
    .invalidCall context (.unknownMarker name) ∉ issues := by
  induction h with
  | nil => exact List.not_mem_nil
  | message _ _ ih => exact ih
  | issue hfails _ ih =>
    intro hmem
    rcases List.mem_cons.1 hmem with heq | hmem
    · cases heq
      cases hfails
    · exact ih hmem
  | other _ _ ih => exact ih

/-- **What becomes of calls.**  The messages and issues collected from the calls
    of a file are those that are due, and no others; a call of a marker either
    marks a text or fails; and no marker is unknown. -/
theorem collect_sorts (kind : SourceKind) (file source : String) (calls : List CallSite) :
    (∀ messages issues, Sorts kind file source calls messages issues ↔
      kind.markers.collect file source calls = ⟨messages, issues⟩) ∧
    (∀ call : CallSite, call.CallsMarker kind ↔
      Xor (∃ msgid plural, call.Marks kind msgid plural) (∃ reason, call.Fails kind reason)) ∧
    ∀ context name, .invalidCall context (.unknownMarker name) ∉
      (kind.markers.collect file source calls).issues := by
  refine ⟨fun messages issues => ⟨Sorts.collect_eq, fun h => ?_⟩,
    fun call => CallSite.callsMarker_iff_xor, fun context name => ?_⟩
  · have hsorts := sorts_collect kind file source calls
    rwa [h] at hsorts
  · exact (sorts_collect kind file source calls).unknownMarker_notMem context name

end PotCatalog
