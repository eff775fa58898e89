import Diagnostics.Proofs.Disk.Backlog
import Diagnostics.Proofs.Task.Retry
import Diagnostics.Proofs.Task.Turns

/-!
# Answers that cannot be written

What is written to an artifact is kept back, so a full device refuses it at one of two times. If a
write is refused and nothing else is kept back, the task tells that it could not write its artifact.
If something is still kept back, closing the file is refused as well, and by then the task has left
the part of its work in which it expects a refusal. Which of the two it is depends on the lengths of
the header and of the answer alone (`Backlog.refusesWrite_pair_iff`), and for most lengths it is the
second: the run ends with a fault that is no error of the task, and what is recorded is a failure
that nobody expected (`QueryTask.run_on_full_device`).
-/

set_option autoImplicit false

namespace Diagnostics

open Diagnostics.Action Disk

namespace QueryTask

/-- What a run ends with on a full device whose query was answered with the text: what is wrong with
a header that is not even kept back, the task's own error, or the refusal itself. -/
def writeFault (task : QueryTask) (context : Context) (text : Text) : Fault :=
  let noSpace : OsFault := .errno .noSpace none
  match Text.Utf8.encode task.header with
  | .error e => .unencodable e
  | .ok _ =>
    if Backlog.refusesWrite [task.header, text] then
      notWritten task.label (context.artifactPath task.output) noSpace
    else .os noSpace

/-- The lengths of the header and of the text are such that a write is refused and nothing is left
for the closing of the file: the header is a chunk, or the text is one and the header is more than a
block, or neither is a chunk and both together are. -/
def WritesThrough (task : QueryTask) (text : Text) : Prop :=
  ∃ header, Text.Utf8.encode task.header = .ok header ∧
    (Backlog.chunkSize ≤ header.length ∨ ∃ octets, Text.Utf8.encode text = .ok octets ∧
      if Backlog.chunkSize ≤ octets.length then Backlog.blockSize < header.length
      else Backlog.chunkSize ≤ header.length + octets.length)

/-- A header that has octets has some. -/
theorem encode_header_ne_nil {task : QueryTask} {octets : List UInt8}
    (h : Text.Utf8.encode task.header = .ok octets) : octets ≠ [] := by
  obtain ⟨-, rfl⟩ := Text.Utf8.encode_eq_ok_iff.mp h
  have hfirst : CodePoint.ofChar 'Q' ∈ task.header := by
    unfold header
    simp only [List.mem_append]
    exact Or.inl (Or.inl (Or.inl (Or.inl (by decide))))
  intro hnil
  exact absurd (List.flatMap_eq_nil_iff.mp hnil _ hfirst) (by decide)

section

variable {task : QueryTask} {context : Context} {s : Session} {place : Location} {disk : Disk}
  {text : Text}

theorem refusesWrite_iff (task : QueryTask) (text : Text) :
    Backlog.refusesWrite [task.header, text] = true ↔ task.WritesThrough text := by
  rw [Backlog.refusesWrite_pair_iff]
  refine exists_congr fun header => and_congr_right fun hheader => ?_
  have hsome : header.length ≠ 0 := by simpa using encode_header_ne_nil hheader
  simp [hsome]

theorem writeFault_of_writesThrough (h : task.WritesThrough text) :
    task.writeFault context text =
      notWritten task.label (context.artifactPath task.output) (.errno .noSpace none) := by
  have hrefuses := (task.refusesWrite_iff text).mpr h
  obtain ⟨header, hheader, -⟩ := h
  unfold writeFault
  rw [hheader]
  exact if_pos hrefuses

/-- For all other lengths the fault is one that no task expects. -/
theorem writeFault_ne_task (h : ¬ task.WritesThrough text) (e : TaskError) :
    task.writeFault context text ≠ .task e := by
  have hrefuses : Backlog.refusesWrite [task.header, text] = false :=
    Bool.eq_false_iff.mpr fun hrefuses => h ((task.refusesWrite_iff text).mp hrefuses)
  unfold writeFault
  rw [hrefuses]
  cases Text.Utf8.encode task.header <;> exact nofun

/-- What is kept back is nothing if the header has no octets. -/
theorem encodeUntil_header (task : QueryTask) (context : Context) (text : Text) :
    ∃ octets error, Text.Utf8.encodeUntil [task.header, text] = (octets, error) ∧
      (octets ≠ [] ∧ task.writeFault context text =
          (if Backlog.refusesWrite [task.header, text] then
            notWritten task.label (context.artifactPath task.output) (.errno .noSpace none)
          else .os (.errno .noSpace none)) ∨
        octets = [] ∧ ∃ e, error = some e ∧ task.writeFault context text = .unencodable e) := by
  unfold Text.Utf8.encodeUntil writeFault
  cases hheader : Text.Utf8.encode task.header with
  | ok octets =>
    exact ⟨_, _, rfl,
      Or.inl ⟨List.append_ne_nil_of_left_ne_nil (encode_header_ne_nil hheader) _, rfl⟩⟩
  | error e => exact ⟨_, _, rfl, Or.inr ⟨rfl, e, rfl, rfl⟩⟩

theorem settle_run_of_full (hground : s.IsGrounded)
    (hopened : s.host.disk.openForWriting (context.artifactPath task.output) = .ok (place, disk))
    (hfull : disk.top.at? place = some .full)
    (htold : (settle (task.answer context) (task.opened context s)).1 = .ok text) :
    (settle (task.run context) s).1 = .error (task.writeFault context text) := by
  have hbegun : (task.opened context s).IsGrounded :=
    (Session.extends_answer hground _).isGrounded hground
  have hextends := Session.extends_settle (task.answer context) hbegun
  rw [settle_run_of_opened hopened, settle_bind]
  cases hanswer : settle (task.answer context) (task.opened context s) with
  | mk outcome t =>
    rw [hanswer] at htold hextends
    obtain rfl : outcome = .ok text := htold
    have hstays : t.host.disk.top.at? place = some .full := by
      refine Disk.Extends.at?_full hextends ?_
      rwa [opened_eq hopened]
    obtain ⟨octets, error, hoctets, hends⟩ := task.encodeUntil_header context text
    dsimp only
    rw [settle_bind, settle_writeArtifact hoctets, flushAt_full hstays]
    rcases hends with ⟨hsome, hfault⟩ | ⟨rfl, e, rfl, hfault⟩
    · rw [hfault, if_neg (by simpa using hsome)]
    · rw [hfault]
      rfl

/-- **An answer that cannot be written.** If the artifact opens and its device is full, then
whatever the answer to the query, the run ends with a fault, and running this task and others after
it records one failure for it, returns no artifact of it, and goes on with the others. The fault is
the task's own error that it could not write its artifact, and the failure is one of reading and
writing, exactly if the header and the answer have certain lengths; otherwise nobody expected
them. -/
theorem run_on_full_device (hground : s.IsGrounded)
    (hopened : s.host.disk.openForWriting (context.artifactPath task.output) = .ok (place, disk))
    (hfull : disk.top.at? place = some .full)
    (htold : (settle (task.answer context) (task.opened context s)).1 = .ok text)
    (later : List Task) :
    ∃ fault failure, ∃ t : Session, (settle (task.run context) s).1 = .error fault ∧
      t.failures = s.failures ++ [failure] ∧
      settle (runAll context (.query task :: later)) s = settle (runAll context later) t ∧
      failure.group = context.group ∧ failure.source = task.label ∧
      (task.WritesThrough text ∧ failure.kind = .io ∧
          fault = notWritten task.label (context.artifactPath task.output) (.errno .noSpace none) ∨
        ¬ task.WritesThrough text ∧ failure.kind = .unexpected ∧ ∀ e, fault ≠ .task e) := by
  let turn : TaskTurn := ⟨.query task, s⟩
  have houtcome : turn.outcome context = .error (task.writeFault context text) :=
    settle_run_of_full hground hopened hfull htold
  have hartifact : turn.artifact? context = none := by
    unfold TaskTurn.artifact?
    rw [houtcome]
  have hafter : settle (runAll context (.query task :: later)) s =
      settle (runAll context later) (turn.after context) := by
    show settle (turn.task.runRecorded context >>= fun path =>
      runAll context later >>= fun paths => pure (path.toList ++ paths)) turn.before = _
    rw [settle_bind, turn.settle_runRecorded, hartifact]
    simp only [Option.toList_none, List.nil_append, bind_pure]
  have hfailures : (turn.after context).failures = s.failures ++ turn.verdict context :=
    turn.after_failures context
  unfold TaskTurn.verdict at hfailures
  rw [houtcome] at hfailures
  by_cases hthrough : task.WritesThrough text
  · rw [writeFault_of_writesThrough hthrough] at houtcome hfailures
    exact ⟨_, _, _, houtcome, hfailures, hafter, rfl, rfl, Or.inl ⟨hthrough, rfl, rfl⟩⟩
  · have hunexpected := @writeFault_ne_task task context text hthrough
    cases hfault : task.writeFault context text with
    | task e => exact absurd hfault (hunexpected e)
    | _ =>
      rw [hfault] at houtcome hfailures hunexpected
      exact ⟨_, _, _, houtcome, hfailures, hafter, rfl, rfl,
        Or.inr ⟨hthrough, rfl, hunexpected⟩⟩

end

namespace Example

/-- The same disk with a full device where the artifact is to be. -/
def crammed : Session :=
  { flaky with host.disk := ⟨.directory [([0x73], .directory [([0x71], .full)])], [], []⟩ }

end Example

open QueryTask.Example

/-- Two failed attempts and an answer of one letter: closing the file is refused. -/
theorem run_on_full_device_crammed :
    crammed.IsGrounded ∧
      (∃ place disk, crammed.host.disk.openForWriting (patient.artifactPath query.output) =
        .ok (place, disk) ∧ disk.top.at? place = some .full) ∧
      (settle (query.answer patient) (query.opened patient crammed)).1 = .ok "x" ∧
      ∃ failure, ∃ t : Session, t.failures = [failure] ∧ failure.kind = .unexpected ∧
        settle (runAll patient [.query query]) crammed = (.ok [], t) := by
  have hground : crammed.IsGrounded := ⟨_, rfl⟩
  have hopened : crammed.host.disk.openForWriting (patient.artifactPath query.output) =
      .ok ([[0x73], [0x71]], crammed.host.disk) := by
    rfl
  have hfull : crammed.host.disk.top.at? [[0x73], [0x71]] = some .full := rfl
  have htold : (settle (query.answer patient) (query.opened patient crammed)).1 = .ok "x" := by
    decide +kernel
  have hkept : ¬ query.WritesThrough "x" := by
    rw [← query.refusesWrite_iff]
    decide +kernel
  obtain ⟨fault, failure, t, -, hfailures, hall, -, -, hends⟩ :=
    run_on_full_device hground hopened hfull htold []
  rcases hends with ⟨hthrough, -⟩ | ⟨-, hkind, -⟩
  · exact absurd hthrough hkept
  · exact ⟨hground, ⟨_, _, hopened, hfull⟩, htold, failure, t, hfailures, hkind, hall⟩

/-- A refused write of a query that was answered: the run does not end with an error of the task,
of whatever kind. -/
theorem refused_write_unexpected :
    (∃ place disk, crammed.host.disk.openForWriting (patient.artifactPath query.output) =
        .ok (place, disk) ∧ disk.top.at? place = some .full) ∧
      (settle (query.answer patient) (query.opened patient crammed)).1 = .ok "x" ∧
      ¬ ∃ e : TaskError, e.kind = .io ∧ e.source = query.label ∧
        (settle (query.run patient) crammed).1 = .error (.task e) := by
  have hrun : (settle (query.run patient) crammed).1 = .error (.os (.errno .noSpace none)) := by
    decide +kernel
  refine ⟨⟨[[0x73], [0x71]], crammed.host.disk, rfl, rfl⟩, by decide +kernel, ?_⟩
  rintro ⟨e, -, -, hends⟩
  rw [hrun] at hends
  cases hends

end QueryTask

end Diagnostics
