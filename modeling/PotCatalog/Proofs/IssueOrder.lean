/-
  The order of issues.

  Issues are ordered by their addresses: the bytes of the path, then the line,
  then the column, with zero for what an issue does not have (`le_iff_address`).
  Ordering is stable, so the issues at one address keep their order
  (`filter_address_sort`), and the addresses in an ordered list do not depend on
  the order in which the issues came (`map_address_sort`).

  `findings_in_order`: what a run has found is complete, in order and counted.
-/
import Mathlib.Data.Char
import Mathlib.Data.List.Lex
import Mathlib.Data.List.Sort
import Mathlib.Data.Prod.Lex
import PotCatalog.Findings
import PotCatalog.Proofs.Command.Status
import PotCatalog.Proofs.Text.ByteOrder

namespace PotCatalog

/-! ## Order of bytes -/

theorem bytesOf_injective : Function.Injective bytesOf := by
  intro s t h
  have hbytes : s.toUTF8 = t.toUTF8 := ByteArray.ext (Array.toList_inj.1 h)
  rwa [String.toUTF8_eq_toByteArray, String.toUTF8_eq_toByteArray, String.toByteArray_inj] at hbytes

/-- The order of texts is that of their bytes. -/
theorem bytesOf_lt_iff {s t : String} : bytesOf s < bytesOf t ↔ s.toList < t.toList := by
  refine ⟨fun h => ?_, bytesOf_lt_of_lt⟩
  rcases lt_trichotomy s.toList t.toList with hlt | heq | hgt
  · exact hlt
  · rw [String.toList_inj.1 heq] at h
    exact absurd h (List.lt_irrefl _)
  · exact absurd h (List.lt_asymm (bytesOf_lt_of_lt hgt))

namespace Issue

/-! ## Addresses -/

/-- Where an issue is: the bytes of the path, the line and the column, in this
    order.  A conflict has no column, and a file as a whole has no line. -/
def address : Issue → List UInt8 ×ₗ ℕ ×ₗ ℕ
  | parseError _ (some context) _ | invalidCall context _ =>
    toLex (bytesOf context.file, toLex (context.position.line, context.position.column))
  | parseError file none _ => toLex (bytesOf file, toLex (0, 0))
  | pluralConflict conflict =>
    toLex (bytesOf conflict.location.path, toLex (conflict.location.line, 0))

/-- The key of an issue with the characters of the path. -/
def charKey (issue : Issue) : List Char ×ₗ ℕ ×ₗ ℕ :=
  toLex (issue.key.1.toList, toLex issue.key.2)

theorem le_iff_charKey {a b : Issue} : a.le b = true ↔ a.charKey ≤ b.charKey := by
  simp only [le, charKey, Prod.Lex.toLex_le_toLex, String.toList_inj, String.lt_iff,
    Bool.or_eq_true, Bool.and_eq_true, decide_eq_true_eq, beq_iff_eq]

theorem address_eq_key (issue : Issue) :
    issue.address = toLex (bytesOf issue.key.1, toLex issue.key.2) := by
  rcases issue with ⟨_, _ | _, _⟩ | _ | _ <;> rfl

/-- **Issues are ordered by their addresses.** -/
theorem le_iff_address {a b : Issue} : a.le b = true ↔ a.address ≤ b.address := by
  simp only [le_iff_charKey, charKey, address_eq_key, Prod.Lex.toLex_le_toLex, bytesOf_lt_iff,
    bytesOf_injective.eq_iff, String.toList_inj]

theorem address_inj {a b : Issue} : a.address = b.address ↔ a.key = b.key := by
  rw [address_eq_key, address_eq_key, toLex_inj, Prod.ext_iff, Prod.ext_iff,
    bytesOf_injective.eq_iff, toLex_inj]

protected theorem le_refl (a : Issue) : a.le a = true := le_iff_charKey.2 (le_refl _)

protected theorem le_total (a b : Issue) : a.le b = true ∨ b.le a = true := by
  rw [le_iff_charKey, le_iff_charKey]
  exact le_total _ _

protected theorem le_trans {a b c : Issue} (hab : a.le b = true) (hbc : b.le c = true) :
    a.le c = true := by
  rw [le_iff_charKey] at *
  exact le_trans hab hbc

/-- Issues that may stand in either order are at one address. -/
theorem address_eq_of_le {a b : Issue} (hab : a.le b = true) (hba : b.le a = true) :
    a.address = b.address := by
  rw [le_iff_charKey] at hab hba
  have hkey := toLex_inj.1 (le_antisymm hab hba)
  simp only [Prod.mk.injEq, String.toList_inj, toLex_inj] at hkey
  exact address_inj.2 (Prod.ext hkey.1 hkey.2)

theorem le_of_address_eq {a b : Issue} (h : a.address = b.address) : a.le b = true := by
  rw [le_iff_charKey, charKey, address_inj.1 h]
  exact le_refl _

/-! ## Ordered lists -/

theorem sort_perm (issues : List Issue) : (sort issues).Perm issues := List.mergeSort_perm _ _

theorem le_trans_total :
    (∀ a b c : Issue, a.le b = true → b.le c = true → a.le c = true) ∧
      ∀ a b : Issue, (a.le b || b.le a) = true :=
  ⟨fun _ _ _ => Issue.le_trans, fun a b => by simpa using a.le_total b⟩

theorem pairwise_sort (issues : List Issue) :
    (sort issues).Pairwise fun a b => a.le b = true :=
  List.pairwise_mergeSort le_trans_total.1 le_trans_total.2 issues

/-- **Ordering is stable:** the issues at one address keep their order. -/
theorem filter_address_sort (issues : List Issue) (place : List UInt8 ×ₗ ℕ ×ₗ ℕ) :
    (sort issues).filter (·.address = place) = issues.filter (·.address = place) := by
  have hequal : (issues.filter (·.address = place)).Pairwise fun a b => a.le b = true := by
    refine List.pairwise_of_forall_mem_list fun a ha b hb => le_of_address_eq ?_
    have ha := of_decide_eq_true (List.mem_filter.1 ha).2
    have hb := of_decide_eq_true (List.mem_filter.1 hb).2
    exact ha.trans hb.symm
  have hkept : (issues.filter (·.address = place)).Sublist (sort issues) :=
    List.sublist_mergeSort le_trans_total.1 le_trans_total.2 hequal List.filter_sublist
  have hsub := hkept.filter (·.address = place)
  rw [List.filter_filter] at hsub
  simp only [Bool.and_self] at hsub
  exact (hsub.eq_of_length ((sort_perm issues).filter _).length_eq.symm).symm

/-- **The addresses in an ordered list** do not depend on the order in which the
    issues came. -/
theorem map_address_sort {xs ys : List Issue} (h : xs.Perm ys) :
    (sort xs).map address = (sort ys).map address := by
  have hperm : (sort xs).Perm (sort ys) := (sort_perm xs).trans (h.trans (sort_perm ys).symm)
  have hordered (issues : List Issue) :
      ((sort issues).map address).Pairwise (· ≤ ·) :=
    List.pairwise_map.2 ((pairwise_sort issues).imp le_iff_address.1)
  refine List.Perm.eq_of_pairwise ?_ (hordered xs) (hordered ys) (hperm.map address)
  intro p q hp hq hpq hqp
  obtain ⟨a, -, rfl⟩ := List.mem_map.1 hp
  obtain ⟨b, -, rfl⟩ := List.mem_map.1 hq
  exact address_eq_of_le (le_iff_address.2 hpq) (le_iff_address.2 hqp)

/-! ## Numbers -/

/-- Whether an issue is a call that is refused. -/
def isInvalidCall : Issue → Bool
  | invalidCall _ _ => true
  | _ => false

/-- Whether an issue is a conflict of plural forms. -/
def isPluralConflict : Issue → Bool
  | pluralConflict _ => true
  | _ => false

theorem countSeverity_error_eq (issues : List Issue) :
    countSeverity .error issues = issues.countP isParseError + issues.countP isInvalidCall := by
  unfold countSeverity
  induction issues with
  | nil => rfl
  | cons issue rest ih =>
    rw [List.countP_cons, List.countP_cons, List.countP_cons, ih]
    cases issue <;> simp [severity, isParseError, isInvalidCall] <;> omega

theorem countSeverity_warning_eq (issues : List Issue) :
    countSeverity .warning issues = issues.countP isPluralConflict := by
  unfold countSeverity
  refine List.countP_congr fun issue _ => ?_
  cases issue <;> simp [severity, isPluralConflict]

end Issue

/-! ## Findings -/

namespace Findings

variable (issues : List Issue)

theorem issues_of_perm : (of issues).issues.Perm issues := Issue.sort_perm issues

theorem parseErrors_of : (of issues).parseErrors = issues.countP Issue.isParseError :=
  (issues_of_perm issues).countP_eq _

theorem errors_of :
    (of issues).errors = issues.countP Issue.isParseError + issues.countP Issue.isInvalidCall := by
  rw [← Issue.countSeverity_error_eq]
  exact countSeverity_perm (issues_of_perm issues) .error

theorem warnings_of : (of issues).warnings = issues.countP Issue.isPluralConflict := by
  rw [← Issue.countSeverity_warning_eq]
  exact countSeverity_perm (issues_of_perm issues) .warning

end Findings

/-- **What a run has found.**  The order of issues is that of their addresses, a
    total preorder.  What is found are the issues that were raised, in this order,
    those at one address in the order in which they were raised, and their numbers
    by kind; it is what every run with these issues reports and takes its status
    from.  If targets are taken in another order, the addresses stay what they
    are, and only issues at one address change places. -/
theorem findings_in_order [TextMeasure] (issues : List Issue) :
    (∀ a b : Issue, a.le b = true ↔ a.address ≤ b.address) ∧
    (∀ a : Issue, a.le a = true) ∧
    (∀ a b : Issue, a.le b = true ∨ b.le a = true) ∧
    (∀ a b c : Issue, a.le b = true → b.le c = true → a.le c = true) ∧
    (Findings.of issues).issues.Perm issues ∧
    (Findings.of issues).issues.Pairwise (fun a b => a.address ≤ b.address) ∧
    (∀ place, (Findings.of issues).issues.filter (·.address = place) =
      issues.filter (·.address = place)) ∧
    (Findings.of issues).parseErrors = issues.countP Issue.isParseError ∧
    (Findings.of issues).errors =
      issues.countP Issue.isParseError + issues.countP Issue.isInvalidCall ∧
    (Findings.of issues).warnings = issues.countP Issue.isPluralConflict ∧
    (∀ toStdout log (p : Progress),
      (finishExtract toStdout log { p with issues := issues }).status =
        (if (report (Findings.of issues).issues).isComplete then
          if (Findings.of issues).errors = 0 then .success else .failure
        else .crashed) ∧
      ∃ summaries, (finishExtract toStdout log { p with issues := issues }).stderr =
        log ++ (report (Findings.of issues).issues).text ++ summaries) ∧
    ∀ batches others : List (List Issue), others.Perm batches →
      (Findings.of others.flatten).issues.map Issue.address =
        (Findings.of batches.flatten).issues.map Issue.address ∧
      ∀ place, ((Findings.of others.flatten).issues.filter (·.address = place)).Perm
        ((Findings.of batches.flatten).issues.filter (·.address = place)) := by
  refine ⟨fun _ _ => Issue.le_iff_address, Issue.le_refl, Issue.le_total,
    fun _ _ _ => Issue.le_trans, Findings.issues_of_perm issues, ?_,
    Issue.filter_address_sort issues, Findings.parseErrors_of issues, Findings.errors_of issues,
    Findings.warnings_of issues, fun toStdout log p => ⟨?_, ?_⟩, fun batches others h => ?_⟩
  · exact (Issue.pairwise_sort issues).imp Issue.le_iff_address.1
  · exact finishExtract_status toStdout log { p with issues := issues }
  · exact finishExtract_stderr toStdout log { p with issues := issues }
  · have hperm : others.flatten.Perm batches.flatten := h.flatten
    refine ⟨Issue.map_address_sort hperm, fun place => List.Perm.filter _ ?_⟩
    exact (Findings.issues_of_perm _).trans (hperm.trans (Findings.issues_of_perm _).symm)

/-- The issues of two targets, each with a conflict on the first line of `a.js`. -/
def twoTargets : List (List Issue) :=
  [[.pluralConflict ⟨⟨"a.js", 1⟩, "one", none, some "ones"⟩, .parseError "a.js" none "gone"],
   [.pluralConflict ⟨⟨"a.js", 1⟩, "two", some "twos", none⟩,
    .invalidCall ⟨"a.html", ⟨10, 2⟩, "x"⟩ .nonLiteral]]

/-- Taken in the other order, the targets have the same places in the report. -/
theorem twoTargets_findings_in_order :
    twoTargets.reverse.Perm twoTargets ∧
      (Findings.of twoTargets.reverse.flatten).issues.map Issue.address =
        (Findings.of twoTargets.flatten).issues.map Issue.address ∧
      (Findings.of twoTargets.flatten).errors = 2 ∧
      (Findings.of twoTargets.flatten).warnings = 2 := by
  have hreverse := List.reverse_perm twoTargets
  obtain ⟨-, -, -, -, -, -, -, -, herrors, hwarnings, -, hbatches⟩ :=
    findings_in_order twoTargets.flatten
  exact ⟨hreverse, (hbatches _ _ hreverse).1, herrors, hwarnings⟩

end PotCatalog
