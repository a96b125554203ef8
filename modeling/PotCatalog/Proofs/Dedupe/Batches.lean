/-
  Joining messages in batches.

  Entries have different texts, so that joining them again changes nothing
  (`dedupe_of_nodup`), and adding a message looks at the entries only, not at
  the conflicts met so far (`Deduped.foldl_add_behind`).  What has come of some
  messages can therefore stand in for them when more messages follow.

  `dedupe_batches`: messages that come in batches, each joined with the entries
  so far, yield what they yield at once.
-/
import PotCatalog.Proofs.Dedupe

namespace PotCatalog

namespace Deduped

/-- What has come of messages, behind conflicts met earlier. -/
def behind (earlier : List PluralConflict) (d : Deduped) : Deduped :=
  ⟨d.messages, earlier ++ d.conflicts⟩

/-- Joins a batch of messages with the entries so far. -/
def feed (d : Deduped) (batch : List Message) : Deduped :=
  (dedupe (d.messages ++ batch)).behind d.conflicts

/-! ## Earlier conflicts -/

theorem add_behind (earlier : List PluralConflict) (d : Deduped) (m : Message) :
    (d.behind earlier).add m = (d.add m).behind earlier := by
  simp only [add, behind]
  cases d.messages.find? (·.msgid = m.msgid) with
  | none => rfl
  | some first => simp only [List.append_assoc]

theorem foldl_add_behind (earlier : List PluralConflict) (d : Deduped) (messages : List Message) :
    messages.foldl add (d.behind earlier) = (messages.foldl add d).behind earlier := by
  induction messages generalizing d with
  | nil => rfl
  | cons m rest ih => rw [List.foldl_cons, add_behind, ih, List.foldl_cons]

/-! ## New texts -/

/-- Messages whose texts are new become entries as they are. -/
theorem foldl_add_of_nodup {d : Deduped} {messages : List Message}
    (h : ((d.messages ++ messages).map Message.msgid).Nodup) :
    messages.foldl add d = ⟨d.messages ++ messages, d.conflicts⟩ := by
  induction messages generalizing d with
  | nil => rw [List.foldl_nil, List.append_nil]
  | cons m rest ih =>
    have hnew : d.messages.find? (·.msgid = m.msgid) = none := by
      rw [List.map_append, List.map_cons, List.nodup_append] at h
      exact find?_has_eq_none_iff.2 fun k hk =>
        h.2.2 _ (List.mem_map_of_mem hk) _ List.mem_cons_self
    have hadd : d.add m = ⟨d.messages ++ [m], d.conflicts⟩ := by rw [add, hnew]
    rw [List.foldl_cons, hadd, ih (by simpa using h), List.append_assoc, List.singleton_append]

end Deduped

theorem dedupe_of_nodup {messages : List Message} (h : (messages.map Message.msgid).Nodup) :
    dedupe messages = ⟨messages, []⟩ :=
  Deduped.foldl_add_of_nodup h

theorem dedupe_dedupe (messages : List Message) :
    dedupe (dedupe messages).messages = ⟨(dedupe messages).messages, []⟩ :=
  dedupe_of_nodup (dedupe_nodup messages)

/-! ## Batches -/

theorem dedupe_append (xs ys : List Message) :
    dedupe (xs ++ ys) = ys.foldl Deduped.add (dedupe xs) :=
  List.foldl_append

/-- **One more batch**: the entries of the messages so far stand in for them. -/
theorem feed_dedupe (xs ys : List Message) : (dedupe xs).feed ys = dedupe (xs ++ ys) := by
  have hsplit : dedupe xs = (dedupe (dedupe xs).messages).behind (dedupe xs).conflicts := by
    rw [dedupe_dedupe, Deduped.behind, List.append_nil]
  calc (dedupe xs).feed ys
      = (ys.foldl Deduped.add (dedupe (dedupe xs).messages)).behind (dedupe xs).conflicts := by
        rw [Deduped.feed, dedupe_append]
    _ = ys.foldl Deduped.add ((dedupe (dedupe xs).messages).behind (dedupe xs).conflicts) := by
        rw [Deduped.foldl_add_behind]
    _ = dedupe (xs ++ ys) := by rw [← hsplit, dedupe_append]

theorem foldl_feed_dedupe (xs : List Message) (batches : List (List Message)) :
    batches.foldl Deduped.feed (dedupe xs) = dedupe (xs ++ batches.flatten) := by
  induction batches generalizing xs with
  | nil => rw [List.foldl_nil, List.flatten_nil, List.append_nil]
  | cons batch rest ih =>
    rw [List.foldl_cons, feed_dedupe, ih, List.flatten_cons, List.append_assoc]

/-- **Batches do not matter.**  Joining messages, and later joining the entries
    with more messages, yields the entries of all messages and, behind the first
    conflicts, the rest of their conflicts.  So messages that come in batches, cut
    anywhere, yield what they yield at once, and joining entries again changes
    nothing. -/
theorem dedupe_batches :
    (∀ xs ys : List Message,
      (dedupe ((dedupe xs).messages ++ ys)).messages = (dedupe (xs ++ ys)).messages ∧
        (dedupe (xs ++ ys)).conflicts =
          (dedupe xs).conflicts ++ (dedupe ((dedupe xs).messages ++ ys)).conflicts) ∧
      (∀ batches : List (List Message),
        batches.foldl Deduped.feed ⟨[], []⟩ = dedupe batches.flatten) ∧
      ∀ messages : List Message,
        (dedupe (dedupe messages).messages).messages = (dedupe messages).messages ∧
          (dedupe (dedupe messages).messages).conflicts = [] := by
  refine ⟨fun xs ys => ?_, fun batches => ?_, fun messages => ?_⟩
  · rw [← feed_dedupe xs ys]
    exact ⟨rfl, rfl⟩
  · exact foldl_feed_dedupe [] batches
  · rw [dedupe_dedupe]
    exact ⟨rfl, rfl⟩

end PotCatalog
