/-
  Joining the messages of some texts.

  Messages with different texts have nothing to do with each other: to join
  messages and then look at some texts only is the same as to join only the
  messages with these texts (`dedupe_restrict`).

  `merge_frame`: a file that changes touches the texts that it has before or
  after the change, and nothing else.
-/
import Mathlib.Data.List.Basic
import PotCatalog.ParseError

namespace PotCatalog

/-! ## Some texts -/

namespace Deduped

/-- What has come of the texts that satisfy `p`. -/
def restrict (p : String → Bool) (d : Deduped) : Deduped :=
  ⟨d.messages.filter (p ·.msgid), d.conflicts.filter (p ·.msgid)⟩

variable {p : String → Bool} {m : Message}

theorem filter_extend (known : List Message) :
    (extend m known).filter (p ·.msgid) = extend m (known.filter (p ·.msgid)) := by
  rw [extend, extend, List.filter_map]
  have hmsgid : (p ·.msgid) ∘ (fun k : Message =>
      if k.msgid = m.msgid then { k with locations := k.locations ++ m.locations } else k) =
      (p ·.msgid) := by
    funext k
    rw [Function.comp_apply]
    split_ifs <;> rfl
  rw [hmsgid]

theorem extend_of_forall_ne {known : List Message} (h : ∀ k ∈ known, k.msgid ≠ m.msgid) :
    extend m known = known := by
  rw [extend]
  conv_rhs => rw [← List.map_id known]
  refine List.map_congr_left fun k hk => ?_
  rw [if_neg (h k hk), id]

theorem find?_filter_of_pos (h : p m.msgid = true) (known : List Message) :
    (known.filter (p ·.msgid)).find? (·.msgid = m.msgid) = known.find? (·.msgid = m.msgid) := by
  rw [List.find?_filter]
  refine congrArg (fun q => known.find? q) (funext fun k => ?_)
  by_cases hk : k.msgid = m.msgid
  · simp [hk, h]
  · simp [hk]

theorem msgid_of_mem_conflictWith {first : Message} {c : PluralConflict}
    (h : c ∈ conflictWith first m) : c.msgid = m.msgid := by
  unfold conflictWith at h
  split_ifs at h
  · cases h
  · split at h
    · cases h
    · rw [List.mem_singleton.1 h]

/-- A message with one of the texts is added to what has come of them. -/
theorem restrict_add_of_pos (h : p m.msgid = true) (d : Deduped) :
    (d.add m).restrict p = (d.restrict p).add m := by
  have hfind : (d.restrict p).messages.find? (·.msgid = m.msgid) =
      d.messages.find? (·.msgid = m.msgid) := find?_filter_of_pos h d.messages
  rw [add, add, hfind]
  cases d.messages.find? (·.msgid = m.msgid) with
  | none => simp [restrict, List.filter_append, h]
  | some first =>
    have hall : (conflictWith first m).filter (p ·.msgid) = conflictWith first m :=
      List.filter_eq_self.2 fun c hc => by rw [msgid_of_mem_conflictWith hc, h]
    simp only [restrict, filter_extend, List.filter_append, hall]

/-- A message with another text changes nothing. -/
theorem restrict_add_of_neg (h : p m.msgid = false) (d : Deduped) :
    (d.add m).restrict p = d.restrict p := by
  rw [add]
  cases d.messages.find? (·.msgid = m.msgid) with
  | none => simp [restrict, List.filter_append, h]
  | some first =>
    have hnone : (conflictWith first m).filter (p ·.msgid) = [] :=
      List.filter_eq_nil_iff.2 fun c hc => by simp [msgid_of_mem_conflictWith hc, h]
    have hother : ∀ k ∈ d.messages.filter (p ·.msgid), k.msgid ≠ m.msgid := by
      intro k hk hsame
      have hp := (List.mem_filter.1 hk).2
      rw [hsame, h] at hp
      cases hp
    simp only [restrict, filter_extend, extend_of_forall_ne hother, List.filter_append, hnone,
      List.append_nil]

theorem restrict_foldl_add (messages : List Message) (d : Deduped) :
    (messages.foldl add d).restrict p =
      (messages.filter (p ·.msgid)).foldl add (d.restrict p) := by
  induction messages generalizing d with
  | nil => rfl
  | cons m rest ih =>
    rw [List.foldl_cons, ih, List.filter_cons]
    cases h : p m.msgid with
    | true => rw [restrict_add_of_pos h, if_pos rfl, List.foldl_cons]
    | false => rw [restrict_add_of_neg h, if_neg Bool.false_ne_true]

end Deduped

/-- **Joining respects texts.** -/
theorem dedupe_restrict (p : String → Bool) (messages : List Message) :
    (dedupe messages).restrict p = dedupe (messages.filter (p ·.msgid)) :=
  Deduped.restrict_foldl_add messages ⟨[], []⟩

/-! ## A file that changes -/

/-- Whether a file yields a message with a text. -/
def Extraction.mentions (msgid : String) (e : Extraction) : Bool :=
  e.messages.any (·.msgid = msgid)

theorem Extraction.filter_messages_eq_nil {p : String → Bool} {e : Extraction}
    (h : ∀ msgid, p msgid = true → e.mentions msgid = false) :
    e.messages.filter (p ·.msgid) = [] := by
  refine List.filter_eq_nil_iff.2 fun m hm hp => ?_
  have hmentioned : e.mentions m.msgid = true := List.any_eq_true.2 ⟨m, hm, by simp⟩
  rw [h _ hp] at hmentioned
  cases hmentioned

theorem filter_messages_around {p : String → Bool} {e : Extraction}
    (h : ∀ msgid, p msgid = true → e.mentions msgid = false) (before after : List Extraction) :
    ((before ++ [e] ++ after).flatMap Extraction.messages).filter (p ·.msgid) =
      ((before ++ after).flatMap Extraction.messages).filter (p ·.msgid) := by
  simp only [List.flatMap_append, List.flatMap_singleton, List.filter_append,
    Extraction.filter_messages_eq_nil h, List.append_nil]

/-- What has come of texts that a file does not have is what comes of the other
    files. -/
theorem restrict_dedupe_around {p : String → Bool} {e : Extraction}
    (h : ∀ msgid, p msgid = true → e.mentions msgid = false) (before after : List Extraction) :
    (dedupe ((before ++ [e] ++ after).flatMap Extraction.messages)).restrict p =
      (dedupe ((before ++ after).flatMap Extraction.messages)).restrict p := by
  rw [dedupe_restrict, dedupe_restrict, filter_messages_around h]

theorem merge_around_issues (before after : List Extraction) (e : Extraction) :
    (merge (before ++ [e] ++ after)).issues =
      before.flatMap Extraction.issues ++ e.issues ++ after.flatMap Extraction.issues ++
        (dedupe ((before ++ [e] ++ after).flatMap Extraction.messages)).conflicts.map
          .pluralConflict := by
  simp [merge]

theorem merge_around_of_no_messages {e : Extraction} (h : e.messages = [])
    (before after : List Extraction) :
    (merge (before ++ [e] ++ after)).messages = (merge (before ++ after)).messages := by
  simp [merge, h]

/-- **A changed file touches its own texts only.**  If one file yields something
    else than before, then the entries of all texts that it has neither before
    nor after the change stay the same and in the same order, and so do the
    conflicts about them and the issues of the other files.  A file that cannot be
    read or parsed leaves the entries of the other files. -/
theorem merge_frame (before after : List Extraction) (old new : Extraction) :
    let untouched msgid := !(old.mentions msgid || new.mentions msgid)
    (merge (before ++ [old] ++ after)).messages.filter (untouched ·.msgid) =
        (merge (before ++ [new] ++ after)).messages.filter (untouched ·.msgid) ∧
      (∃ conflicts conflicts' : List PluralConflict,
        (merge (before ++ [old] ++ after)).issues =
          before.flatMap Extraction.issues ++ old.issues ++ after.flatMap Extraction.issues ++
            conflicts.map .pluralConflict ∧
        (merge (before ++ [new] ++ after)).issues =
          before.flatMap Extraction.issues ++ new.issues ++ after.flatMap Extraction.issues ++
            conflicts'.map .pluralConflict ∧
        conflicts.filter (untouched ·.msgid) = conflicts'.filter (untouched ·.msgid)) ∧
      (∀ file source error,
        (merge (before ++ [.parseFailure file source error] ++ after)).messages =
          (merge (before ++ after)).messages) ∧
      ∀ file error,
        (merge (before ++ [.readFailure file error] ++ after)).messages =
          (merge (before ++ after)).messages := by
  intro untouched
  have hold : ∀ msgid, untouched msgid = true → old.mentions msgid = false := by
    intro msgid h
    simp only [untouched, Bool.not_eq_true', Bool.or_eq_false_iff] at h
    exact h.1
  have hnew : ∀ msgid, untouched msgid = true → new.mentions msgid = false := by
    intro msgid h
    simp only [untouched, Bool.not_eq_true', Bool.or_eq_false_iff] at h
    exact h.2
  have hsame := (restrict_dedupe_around hold before after).trans
    (restrict_dedupe_around hnew before after).symm
  refine ⟨congrArg Deduped.messages hsame, ?_, ?_, ?_⟩
  · exact ⟨_, _, merge_around_issues before after old, merge_around_issues before after new,
      congrArg Deduped.conflicts hsame⟩
  · intro file source error
    exact merge_around_of_no_messages rfl before after
  · intro file error
    exact merge_around_of_no_messages rfl before after

end PotCatalog
