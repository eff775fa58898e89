import Diagnostics.Proofs.Cim.Command
import Diagnostics.Proofs.Task.Redirected
import Diagnostics.Proofs.Text.Lenient
import Diagnostics.Proofs.Text.Pieces

/-!
# What comes of a query that is put through PowerShell

PowerShell is a program like others: it may not be there, be refused, run out of its time, end
badly, and print whatever octets it likes. What becomes of the query is told by `settle_ask_eq`, one
case for each, and all but one of them are failed queries. So the attempts go on as long as there
are any left (`AnswersOrFails.retried`).

In the one case that is left the answer is the ordinary output. It is read leniently, which no
octets can stop (`Text.Utf8.reads_iff`), and its newlines are unified.

Two things are no failed queries, and nobody puts a query again after them: a word of the command
line that has no octets, and a time limit that the machine cannot keep. The second is found out only
when PowerShell has been started.
-/

set_option autoImplicit false

namespace Diagnostics

open Diagnostics.Action

/-! ## A program whose output is kept -/

theorem Host.perform_capture_outcome (host : Host) (argv : List Text) (timeout : Option Binary64)
    (c : Completion) :
    (host.perform argv timeout .capture c).1 =
      .ok (if timeout.any (· < c.seconds) then .timedOut
        else .exited (c.status argv host.disk) c.stdout c.stderr) := by
  unfold perform Completion.status
  cases timeout.any (· < c.seconds)
  all_goals simp

namespace Cim

section

variable {powershell className namespaceName : Text}

/-- Whether all that a query is made of can be handed to the operating system. -/
theorem wordsHaveOctets_argv :
    WordsHaveOctets (argv powershell className namespaceName) ↔
      WordsHaveOctets [powershell, className, namespaceName] := by
  have hoctets : ∀ s : Text, s.HasOctets ↔ ∀ c ∈ s, c.inPath = true :=
    fun s => Disk.exists_pathOctets_iff
  have hoptions : Text.HasOctets "-NoProfile" ∧ Text.HasOctets "-NonInteractive" ∧
      Text.HasOctets "-Command" := by
    decide
  have hcommand : (command className namespaceName).HasOctets ↔
      className.HasOctets ∧ namespaceName.HasOctets := by
    have hopen : ∀ c ∈ ("Get-CimInstance -ClassName " : Text), c.inPath = true := by decide
    have hbetween : ∀ c ∈ (" -Namespace '" : Text), c.inPath = true := by decide
    have hclose : ∀ c ∈ ("' | Format-List -Property *" : Text), c.inPath = true := by decide
    unfold command
    simp only [hoctets, List.forall_mem_append, mem_doubleQuotes]
    exact ⟨fun h => ⟨h.1.1.1.2, h.1.2⟩, fun h => ⟨⟨⟨⟨hopen, h.1⟩, hbetween⟩, h.2⟩, hclose⟩⟩
  unfold WordsHaveOctets argv
  simp [hoptions, hcommand]

/-- **What becomes of a query**, by what comes of PowerShell next. -/
theorem settle_ask_eq (hwords : WordsHaveOctets [powershell, className, namespaceName])
    (timeout : Option Binary64) (s : Session) :
    (settle (ask powershell timeout className namespaceName) s).1 =
      match s.host.launch? powershell with
      | none => .error (.query (.noShell powershell))
      | some (.refused e) =>
        .error (.query (if e = .noEntry then .noShell powershell
          else .notStarted (.errno e (some powershell))))
      | some (.completed c) =>
        match s.host.limitError? timeout .capture with
        | some e => .error (.untimed e)
        | none =>
          if timeout.any (· < c.seconds) then
            .error (.query (.timedOut className namespaceName (timeout.getD 0)))
          else if c.status (argv powershell className namespaceName) s.host.disk = 0 then
            .ok (printed c.stdout)
          else
            .error (.query (.exitStatus className namespaceName
              (c.status (argv powershell className namespaceName) s.host.disk)
              (detail c.stdout c.stderr))) := by
  unfold ask
  rw [settle_bind, settle_attempt, settle_start,
    s.host.start_of_launch? _ _ (wordsHaveOctets_argv.mpr hwords)]
  rw [show (argv powershell className namespaceName).headD "" = powershell from rfl]
  cases s.host.launch? powershell with
  | none => rfl
  | some launch =>
    cases launch with
    | refused e =>
      dsimp only
      by_cases he : e = .noEntry
      · subst he
        rfl
      · rw [if_neg he]
        split
        · rename_i heq
          cases heq
          exact absurd rfl he
        · rfl
    | completed c =>
      dsimp only
      cases s.host.limitError? timeout .capture with
      | some e => rfl
      | none =>
        dsimp only
        rw [Host.perform_capture_outcome]
        cases timeout.any (· < c.seconds) with
        | true => rfl
        | false =>
          dsimp only [Host.note]
          by_cases hstatus : c.status (argv powershell className namespaceName) s.host.disk = 0
          · simp [hstatus]
          · simp [hstatus]

/-- A query that cannot even be asked for ends with the fault of the word that has no octets. -/
theorem settle_ask_of_argvFault? {fault : Fault}
    (h : Host.argvFault? (argv powershell className namespaceName) = some fault)
    (timeout : Option Binary64) (s : Session) :
    (settle (ask powershell timeout className namespaceName) s).1 = .error fault := by
  unfold ask
  rw [settle_bind, settle_attempt, settle_start, s.host.start_of_argvFault? _ _ h]
  rcases Host.argvFault?_cases h with ⟨error, rfl⟩ | rfl
  · rfl
  · rfl

end

/-! ## Octets as a text -/

/-- Octets say a text: it is made of the characters they are read as, with each pair of carriage
return and line feed a line feed, and then each carriage return that is left. -/
def Says (octets : List UInt8) (text : Text) : Prop :=
  ∃ chars, Text.Utf8.Reads octets chars ∧
    text = Text.replaceName "\r" "\n" (Text.replaceName "\r\n" "\n" (Text.ofChars chars))

theorem says_iff {octets : List UInt8} {text : Text} :
    Says octets text ↔ text = printed octets := by
  unfold Says printed
  rw [Text.ofChars_unifyNewlines]
  constructor
  · rintro ⟨chars, hreads, rfl⟩
    rw [Text.Utf8.reads_iff.mp hreads]
  · rintro rfl
    exact ⟨_, Text.Utf8.reads_iff.mpr rfl, rfl⟩

theorem return_not_mem_printed (octets : List UInt8) :
    CodePoint.ofChar '\r' ∉ printed octets := by
  intro hmem
  obtain ⟨c, hc, hreturn⟩ := List.mem_map.mp hmem
  rw [CodePoint.ofChar_inj.mp hreturn] at hc
  exact Text.not_mem_unifyNewlines _ hc

/-! ## Queries -/

/-- What a query comes to that is put through PowerShell. -/
structure AnswersOrFails (powershell className namespaceName : Text)
    (timeout : Option Binary64) (s : Session) : Prop where
  /-- PowerShell is started once. -/
  calls : callsOf (ask powershell timeout className namespaceName) s =
    [.run (argv powershell className namespaceName) timeout .capture]
  /-- The query is answered exactly if PowerShell ends in time and with a status of zero, and then
  by what its ordinary output says, whatever its error output is. -/
  answered : ∀ text, (settle (ask powershell timeout className namespaceName) s).1 = .ok text ↔
    ∃ c, s.host.launch? powershell = some (.completed c) ∧
      c.EndsWell (argv powershell className namespaceName) timeout s.host.disk ∧
        Says c.stdout text
  no_return : ∀ text, (settle (ask powershell timeout className namespaceName) s).1 = .ok text →
    CodePoint.ofChar '\r' ∉ text
  /-- If it is not answered, it is a failed query. -/
  answered_or_failed :
    (∃ text, (settle (ask powershell timeout className namespaceName) s).1 = .ok text) ∨
      ∃ fault, (settle (ask powershell timeout className namespaceName) s).1 = .error (.query fault)
  /-- If it is not answered, a task that has attempts left pauses and makes the next one. -/
  retried : (∀ text, (settle (ask powershell timeout className namespaceName) s).1 ≠ .ok text) →
    ∀ (task : QueryTask) (context : Context), task.className = className →
      task.namespaceName = namespaceName → context.backend = .cim powershell timeout →
        ∀ retries, settle (task.askAgain context (retries + 1)) s =
          settle (context.pause >>= fun _ => task.askAgain context retries)
            (task.asked context s 0)

section

variable {powershell className namespaceName : Text} {timeout : Option Binary64} {s : Session}

theorem answered_iff (hwords : WordsHaveOctets [powershell, className, namespaceName])
    (hlimit : ∀ c, s.host.launch? powershell = some (.completed c) →
      s.host.limitError? timeout .capture = none) (text : Text) :
    (settle (ask powershell timeout className namespaceName) s).1 = .ok text ↔
      ∃ c, s.host.launch? powershell = some (.completed c) ∧
        c.EndsWell (argv powershell className namespaceName) timeout s.host.disk ∧
          Says c.stdout text := by
  rw [settle_ask_eq hwords]
  cases hlaunch : s.host.launch? powershell with
  | none => simp
  | some launch =>
    cases launch with
    | refused e => simp
    | completed c =>
      dsimp only
      rw [hlimit c hlaunch]
      unfold Completion.EndsWell
      cases htime : timeout.any (· < c.seconds)
      · by_cases hstatus : c.status (argv powershell className namespaceName) s.host.disk = 0
        · have hsays : printed c.stdout = text ↔ Says c.stdout text := by
            rw [says_iff]
            exact eq_comm
          simpa [htime, hstatus] using hsays
        · simp [htime, hstatus]
      · simp [htime]

theorem answered_or_failed (hwords : WordsHaveOctets [powershell, className, namespaceName])
    (hlimit : ∀ c, s.host.launch? powershell = some (.completed c) →
      s.host.limitError? timeout .capture = none) :
    (∃ text, (settle (ask powershell timeout className namespaceName) s).1 = .ok text) ∨
      ∃ fault,
        (settle (ask powershell timeout className namespaceName) s).1 = .error (.query fault) := by
  rw [settle_ask_eq hwords]
  split
  · exact Or.inr ⟨_, rfl⟩
  · exact Or.inr ⟨_, rfl⟩
  · rename_i c hlaunch
    rw [hlimit c hlaunch]
    split_ifs
    · exact Or.inr ⟨_, rfl⟩
    · exact Or.inl ⟨_, rfl⟩
    · exact Or.inr ⟨_, rfl⟩

theorem answersOrFails_of_wordsHaveOctets
    (hwords : WordsHaveOctets [powershell, className, namespaceName])
    (hlimit : ∀ c, s.host.launch? powershell = some (.completed c) →
      s.host.limitError? timeout .capture = none) :
    AnswersOrFails powershell className namespaceName timeout s where
  calls := callsOf_ask className namespaceName powershell timeout s
  answered := answered_iff hwords hlimit
  no_return := by
    intro text htext
    obtain ⟨c, -, -, hsays⟩ := (answered_iff hwords hlimit text).mp htext
    rw [says_iff.mp hsays]
    exact return_not_mem_printed c.stdout
  answered_or_failed := answered_or_failed hwords hlimit
  retried := by
    intro hnot task context hclass hnamespace hbackend retries
    obtain ⟨text, htext⟩ | ⟨fault, hfault⟩ := answered_or_failed hwords hlimit
    · exact absurd htext (hnot text)
    · apply QueryTask.settle_askAgain_of_fails_zero
      refine ⟨.query fault, ?_, rfl⟩
      show (settle (context.backend.ask task.className task.namespaceName) s).1 = _
      rw [hbackend, hclass, hnamespace]
      exact hfault

end

/-- **A query through PowerShell is answered or is a failed query**, whatever PowerShell does, as
long as all words of its command line have octets and its time limit, if it comes to that, can be
kept. A word without octets and a limit that cannot be kept end the query with a fault of another
kind, after which no attempt is made again. PowerShell is started once in any case. -/
theorem ask_answersOrFails (powershell className namespaceName : Text) (timeout : Option Binary64)
    (s : Session) :
    (WordsHaveOctets [powershell, className, namespaceName] →
      (∀ c, s.host.launch? powershell = some (.completed c) →
        s.host.limitError? timeout .capture = none) →
      AnswersOrFails powershell className namespaceName timeout s) ∧
    (¬ WordsHaveOctets [powershell, className, namespaceName] →
      ∃ fault, (settle (ask powershell timeout className namespaceName) s).1 = .error fault ∧
        fault.isRetried = false ∧
        callsOf (ask powershell timeout className namespaceName) s =
          [.run (argv powershell className namespaceName) timeout .capture]) ∧
    (WordsHaveOctets [powershell, className, namespaceName] →
      ∀ c e, s.host.launch? powershell = some (.completed c) →
        s.host.limitError? timeout .capture = some e →
        (settle (ask powershell timeout className namespaceName) s).1 = .error (.untimed e) ∧
        callsOf (ask powershell timeout className namespaceName) s =
          [.run (argv powershell className namespaceName) timeout .capture]) := by
  have hcalls := callsOf_ask className namespaceName powershell timeout s
  refine ⟨answersOrFails_of_wordsHaveOctets, fun hwords => ?_,
    fun hwords c e hlaunch hlimit => ⟨?_, hcalls⟩⟩
  · obtain ⟨fault, hfault⟩ := Host.exists_argvFault? (wordsHaveOctets_argv.not.mpr hwords)
    refine ⟨fault, settle_ask_of_argvFault? hfault timeout s, ?_, hcalls⟩
    rcases Host.argvFault?_cases hfault with ⟨error, rfl⟩ | rfl
    · rfl
    · rfl
  · rw [settle_ask_eq hwords, hlaunch]
    dsimp only
    rw [hlimit]

namespace Example

/-- PowerShell prints an octet that no character has, a newline of two characters and a letter, and
something to its error output too. -/
def garbled : Session where
  host :=
    { disk := ⟨.directory [], [], []⟩
      programs := fun name =>
        if name = "powershell" then
          some fun _ => .completed ⟨false, [], [0xFF, 0x0D, 0x0A, 0x41], [0x21], 0, 0⟩
        else none
      started := fun _ => 0
      answers := fun _ _ => .text ""
      asked := fun _ => 0
      cancelled := false
      calls := [] }
  failures := []

/-- A class that has no octets and no U+0000 either. -/
def half : Text := [CodePoint.ofNat 0xD800]

end Example

/-- The octet is read as U+FFFD and the newline as a line feed, and the error output is not told. -/
theorem ask_answersOrFails_garbled :
    AnswersOrFails "powershell" "C" "n" none Example.garbled ∧
      (settle (ask "powershell" none "C" "n") Example.garbled).1 = .ok ("\uFFFD\nA" : Text) :=
  ⟨(ask_answersOrFails "powershell" "C" "n" none Example.garbled).1 (by decide) fun _ _ => rfl,
    by decide +kernel⟩

/-- Two queries that are neither answered nor failed queries, although PowerShell would end well:
one for a class of half a surrogate pair, and one with an endless limit. -/
theorem ask_breaks_off :
    (CodePoint.ofChar '\x00' ∉ Example.half ∧
      (settle (ask "powershell" none Example.half "n") Example.garbled).1 =
        .error (.unencodable ⟨CodePoint.ofNat 0xD800, 27, 1⟩)) ∧
    (settle (ask "powershell" (some (.infinite false)) "C" "n") Example.garbled).1 =
      .error (.untimed .infinite) := by
  refine ⟨⟨by decide, by decide +kernel⟩, by decide +kernel⟩

end Cim

end Diagnostics
