import Diagnostics.Proofs.StableSort
import Diagnostics.Proofs.TextOrder
import Diagnostics.Report

/-!
# The document of a report does not depend on the schedule

Two runs of the same groups that differ only in how their workers were scheduled have the same
results, joined in different orders, and the same failures, interleaved in different ways. The
document sorts both, and the order of failures does not look at their class; so there are failures
that differ and yet may stand in either order, and no permutation argument will do. What settles it
is that the sort is stable and that the group comes first in the key: failures of different groups
are told apart, and those of one group never change places.
-/

set_option autoImplicit false

namespace Diagnostics

open StableSort

/-- What failures are sorted by. -/
def Failure.key (failure : Failure) : List Text :=
  [failure.group, failure.source, failure.message]

/-- The order of failures is the order of their keys. -/
theorem Failure.precedes_iff (a b : Failure) : a.precedes b = true ↔ a.key ≤ b.key := by
  unfold Failure.precedes Failure.key
  rw [List.cons_le_cons_iff, List.cons_le_cons_iff, List.cons_le_cons_iff]
  by_cases hg : a.group = b.group
  · by_cases hs : a.source = b.source
    · simp [hg, hs, Std.lt_irrefl, List.le_iff_lt_or_eq]
    · simp [hg, hs, Std.lt_irrefl]
  · simp [hg]

namespace RunReport

theorem sortedFailures_eq (report : RunReport) :
    report.sortedFailures = byKey Failure.key report.failures := by
  unfold sortedFailures byKey
  congr 1
  funext a b
  rw [Bool.eq_iff_iff, Failure.precedes_iff, decide_eq_true_eq]

theorem sortedGroups_eq (report : RunReport) :
    report.sortedGroups = byKey GroupResult.name report.groups := rfl

end RunReport

/-- Failures that are the same in each group are the same for each key. -/
theorem filter_key_eq_of_filter_group_eq {fs gs : List Failure}
    (h : ∀ name, fs.filter (·.group = name) = gs.filter (·.group = name)) (k : List Text) :
    fs.filter (·.key = k) = gs.filter (·.key = k) := by
  have hsplit : ∀ l : List Failure,
      l.filter (·.key = k) = (l.filter (·.group = k.headD [])).filter (·.key = k) := by
    intro l
    rw [List.filter_filter]
    refine List.filter_congr fun f _ => ?_
    by_cases hk : f.key = k
    · simp [← hk, Failure.key]
    · simp [hk]
  rw [hsplit fs, hsplit gs, h]

namespace RunReport

variable {r r' : RunReport}

/-- The document depends on the results of each name and the failures of each group alone. -/
theorem document_eq_of_filter_eq
    (hg : ∀ name, r.groups.filter (·.name = name) = r'.groups.filter (·.name = name))
    (hf : ∀ name, r.failures.filter (·.group = name) = r'.failures.filter (·.group = name)) :
    r.document = r'.document := by
  have hgroups : r.sortedGroups = r'.sortedGroups := by
    rw [sortedGroups_eq, sortedGroups_eq, byKey_eq_of_filter_eq hg]
  have hfailures : r.sortedFailures = r'.sortedFailures := by
    rw [sortedFailures_eq, sortedFailures_eq,
      byKey_eq_of_filter_eq (filter_key_eq_of_filter_group_eq hf)]
  rw [document, document, hgroups, hfailures]

/-- What is written, and whether it can be, depends on the document alone. -/
theorem write_eq_of_document_eq (h : r.document = r'.document) (path : Path) (disk : Disk) :
    r.write path disk = r'.write path disk := by
  unfold write
  rw [h]

/-- **The report is independent of scheduling.** Results of distinct groups, joined in any two
orders, and failures that are two interleavings of the same failures of each group, give the same
document, and the same octets in the same file, or the same refusal, wherever it is written. -/
theorem report_schedule_independent (hg : r.groups.Perm r'.groups)
    (hn : (r.groups.map GroupResult.name).Nodup)
    (hf : ∀ name, r.failures.filter (·.group = name) = r'.failures.filter (·.group = name)) :
    r.document = r'.document ∧
      ∀ (path : Path) (disk : Disk), r.write path disk = r'.write path disk := by
  have hdoc : r.document = r'.document :=
    document_eq_of_filter_eq (filter_eq_of_perm_of_nodup hg hn) hf
  exact ⟨hdoc, write_eq_of_document_eq hdoc⟩

def startFailure : Failure := ⟨"trace", "wpr -x", .captureStart, "wpr -x: exit status 1"⟩

/-- The failure of a stop phase that has the label of its start phase and ended as badly: it has the
same key, and another class. -/
def stopFailure : Failure := ⟨"trace", "wpr -x", .process, "wpr -x: exit status 1"⟩

def queryFailure : Failure := ⟨"wmi", "Disk (root)", .query, "Disk (root): no"⟩

/-- A schedule in which the capture has started when the query fails, and that joins it first. -/
def captureFirst : RunReport :=
  ⟨[⟨"trace", []⟩, ⟨"wmi", []⟩], [startFailure, queryFailure, stopFailure]⟩

/-- A schedule of the same two groups in which the query fails first. -/
def queryFirst : RunReport :=
  ⟨[⟨"wmi", []⟩, ⟨"trace", []⟩], [queryFailure, startFailure, stopFailure]⟩

/-- The two schedules have different records, with failures that the order does not tell apart. -/
theorem report_schedule_independent_capture :
    captureFirst.groups.Perm queryFirst.groups ∧
      (captureFirst.groups.map GroupResult.name).Nodup ∧
      (∀ name, captureFirst.failures.filter (·.group = name) =
        queryFirst.failures.filter (·.group = name)) ∧
      captureFirst.failures ≠ queryFirst.failures ∧ startFailure.key = stopFailure.key ∧
      captureFirst.document = queryFirst.document ∧
      ∀ (path : Path) (disk : Disk), captureFirst.write path disk = queryFirst.write path disk := by
  have hg : captureFirst.groups.Perm queryFirst.groups := List.Perm.swap _ _ _
  have hn : (captureFirst.groups.map GroupResult.name).Nodup := by decide
  have hf : ∀ name, captureFirst.failures.filter (·.group = name) =
      queryFirst.failures.filter (·.group = name) := by
    intro name
    have hne : startFailure.group ≠ queryFailure.group := by decide
    by_cases hs : startFailure.group = name
    · have hq : ¬ queryFailure.group = name := fun hq => hne (hs.trans hq.symm)
      simp [captureFirst, queryFirst, hs, hq]
    · simp [captureFirst, queryFirst, hs, List.filter_cons]
  exact ⟨hg, hn, hf, by decide, rfl, report_schedule_independent hg hn hf⟩

end RunReport

end Diagnostics
