/-
  Valid and rejected marker calls.

  A call of a marker is valid if its arguments are the texts that the marker
  asks for, and rejected otherwise.  `judge_eq`: the verdict about a call is a
  message exactly for valid calls, with the texts of the call and its own place
  only, and a refusal exactly for rejected ones.
-/
import Mathlib.Data.List.Basic
import PotCatalog.Extract

namespace PotCatalog.MarkerSet

/-- The message and plural form of a valid marker call. -/
def texts? (markers : MarkerSet) (call : CallSite) : Option (String × Option String) :=
  if call.callee = some markers.singular then
    match call.args with
    | .literal msgid :: _ => some (msgid, none)
    | _ => none
  else if call.callee = some markers.plural ∧ markers.pluralArguments ≤ call.args.length then
    match call.args with
    | .literal msgid :: .literal plural :: _ => some (msgid, some plural)
    | _ => none
  else none

/-- Whether a call is one of a marker. -/
def isMarkerCall (markers : MarkerSet) (call : CallSite) : Bool :=
  call.callee = some markers.singular ∨ call.callee = some markers.plural

/-- Whether a call is one of a marker and not valid. -/
def rejects (markers : MarkerSet) (call : CallSite) : Bool :=
  markers.isMarkerCall call && (markers.texts? call).isNone

/-- What is wrong with a rejected call. -/
def fault (markers : MarkerSet) (call : CallSite) : Refusal :=
  if call.callee = some markers.singular then
    if call.args = [] then .emptyCall else .nonLiteral
  else if call.args.length < markers.pluralArguments then .incompletePlural markers.kind
  else .nonLiteral

theorem judge_singular {markers : MarkerSet} {call : CallSite} (file : String)
    (h : call.callee = some markers.singular) :
    markers.judge file call =
      match markers.texts? call with
      | some (msgid, plural) => .message ⟨msgid, plural, [⟨file, call.position.line⟩]⟩
      | none => .refused (markers.fault call) := by
  simp only [judge, isMarker, judgeMarker, texts?, fault, h, BEq.rfl, Bool.true_or, ↓reduceIte]
  rcases call.args with _ | ⟨first, rest⟩
  · rfl
  · cases first <;> rfl

theorem judge_plural {markers : MarkerSet} {call : CallSite} (file : String)
    (hs : call.callee ≠ some markers.singular) (h : call.callee = some markers.plural) :
    markers.judge file call =
      match markers.texts? call with
      | some (msgid, plural) => .message ⟨msgid, plural, [⟨file, call.position.line⟩]⟩
      | none => .refused (markers.fault call) := by
  have hne : markers.plural ≠ markers.singular := fun e => hs (by rw [h, e])
  by_cases hlen : call.args.length < markers.pluralArguments
  · simp [judge, isMarker, judgeMarker, texts?, fault, h, hne, hlen, Nat.not_le.2 hlen]
  · simp only [judge, isMarker, judgeMarker, texts?, fault, h, hne, hlen, BEq.rfl, Bool.or_true,
      Option.some.injEq, ↓reduceIte, Nat.not_lt.1 hlen, and_self]
    -- only the first two arguments decide
    rcases call.args with _ | ⟨first, _ | ⟨second, rest⟩⟩
    · rfl
    · cases first <;> rfl
    · cases first <;> cases second <;> rfl

/-- **Verdicts.**  A call is a message, a refusal or nothing according to
    whether it is a valid marker call, a rejected one or no marker call. -/
theorem judge_eq (markers : MarkerSet) (file : String) (call : CallSite) :
    markers.judge file call =
      match markers.texts? call with
      | some (msgid, plural) => .message ⟨msgid, plural, [⟨file, call.position.line⟩]⟩
      | none => if markers.isMarkerCall call then .refused (markers.fault call) else .ignored := by
  by_cases hs : call.callee = some markers.singular
  · rw [judge_singular file hs]
    simp [isMarkerCall, hs]
  · by_cases hp : call.callee = some markers.plural
    · rw [judge_plural file hs hp]
      simp [isMarkerCall, hp]
    · have ht : markers.texts? call = none := by simp [texts?, hs, hp]
      have hm : markers.isMarkerCall call = false := by simp [isMarkerCall, hs, hp]
      rw [ht, hm]
      cases hc : call.callee with
      | none => simp [judge, hc]
      | some name =>
        rw [hc, Option.some.injEq] at hs hp
        simp [judge, isMarker, hc, hs, hp]

/-- The messages of calls are those of the valid ones. -/
theorem messages_eq (markers : MarkerSet) (file : String) (calls : List CallSite) :
    markers.messages file calls = calls.filterMap fun call =>
      (markers.texts? call).map fun (msgid, plural) =>
        ⟨msgid, plural, [⟨file, call.position.line⟩]⟩ := by
  refine List.filterMap_congr fun call _ => ?_
  rw [judge_eq]
  cases markers.texts? call with
  | some texts => rfl
  | none => cases markers.isMarkerCall call <;> rfl

/-- The refusals of calls are those of the rejected ones. -/
theorem refusals_eq (markers : MarkerSet) (file source : String) (calls : List CallSite) :
    markers.refusals file source calls = (calls.filter markers.rejects).map fun call =>
      .invalidCall (Context.of file source call.position) (markers.fault call) := by
  rw [← List.filterMap_eq_map, List.filterMap_filter]
  refine List.filterMap_congr fun call _ => ?_
  rw [judge_eq, rejects]
  cases markers.texts? call with
  | some texts => simp
  | none => cases markers.isMarkerCall call <;> rfl

end PotCatalog.MarkerSet
