import Diagnostics.Proofs.Calls
import Diagnostics.Proofs.Disk.Takes
import Diagnostics.Proofs.Report.Surrogates
import Diagnostics.Proofs.Text.Utf8
import Diagnostics.Proofs.Task.Artifact
import Diagnostics.Proofs.Task.Attempts
import Diagnostics.Proofs.Writing
import Mathlib.Logic.Function.Iterate

/-!
# Putting a query again

A query that fails is put again after a pause. Each attempt is made on the session that the attempt
and the pause before it have left (`QueryTask.attempted`), so a query has a sequence of outcomes,
whatever the backend is; and with a query service they are the answers that it was given beforehand
(`QueryTask.outcome_service`). Three things can become of it: the first outcome that is no failure
ends the attempts, or all of them fail, or a pause between them cannot be timed
(`QueryTask.settle_askAgain_of_first`, `QueryTask.settle_askAgain_of_fails`,
`QueryTask.settle_askAgain_of_not_pauses`). The artifact is opened before the first attempt and
written after the last, and in between nobody writes (`Session.Called`). So what a run returns, what
it calls and what it leaves in the artifact follow from the outcomes (`QueryTask.run_retries`).
-/

set_option autoImplicit false

namespace Diagnostics

open Diagnostics.Action Disk

/-! ## Attempts -/

/-- The request by which a query is put. -/
def Backend.request (backend : Backend) (className namespaceName : Text) : Request :=
  match backend with
  | .service => .query className namespaceName
  | .cim powershell timeout => .start (Cim.argv powershell className namespaceName) timeout .capture

/-- Putting a query writes no files: the service is asked, or programs write none. -/
def Backend.WritesNothing (backend : Backend) (host : Host) : Prop :=
  backend = .service ∨ host.WritesNothing

namespace Context

/-- How often a query is put at most. -/
def limit (context : Context) : Nat :=
  (max 1 context.attempts).toNat

/-- The calls that are made before a query is put again. -/
def pauseCalls (context : Context) : List Call :=
  if 0 < context.retryDelay then [.wait context.retryDelay false] else []

end Context

namespace QueryTask

section

variable (task : QueryTask) (context : Context) (s : Session)

/-- The session on which the query is put again after it was put on one. -/
def again : Session :=
  (settle context.pause (settle (task.ask context) s).2).2

/-- The session on which an attempt is made, if all are made. They count from zero. -/
def attempted (n : Nat) : Session :=
  (task.again context)^[n] s

/-- How an attempt ends. -/
def outcome (n : Nat) : Except Fault Text :=
  (settle (task.ask context) (task.attempted context s n)).1

/-- The session that an attempt leaves. -/
def asked (n : Nat) : Session :=
  (settle (task.ask context) (task.attempted context s n)).2

/-- An attempt ends so that another one may follow. -/
def Fails (n : Nat) : Prop :=
  ∃ fault, task.outcome context s n = .error fault ∧ fault.isRetried = true

/-- The pause after an attempt comes to an end: there is none, or it is cut short, or it can be
timed. -/
def Pauses (n : Nat) : Prop :=
  0 < context.retryDelay → (task.asked context s n).host.cancelled = true ∨
    s.host.platform.CanWait context.retryDelay

/-- An attempt ends so that another one may follow, and so does the pause after it. -/
def GoesOn (n : Nat) : Prop :=
  task.Fails context s n ∧ task.Pauses context s n

/-- The calls of so many attempts, with pauses between them. -/
def attemptCalls (n : Nat) : List Call :=
  List.intercalate context.pauseCalls
    (List.replicate n ((context.backend.request task.className task.namespaceName).calls false))

/-- The session on which the query is put first: the artifact was opened. -/
def opened : Session :=
  (s.answer (.openFile (context.artifactPath task.output))).2

/-- A run ends so after these calls, and leaves its artifact with the content. -/
structure EndsAfter (made : List Call) (outcome : Except Fault Path) (content : List UInt8) :
    Prop where
  outcome : (settle (task.run context) s).1 = outcome
  calls : (settle (task.run context) s).2.host.calls.map Call.uninterrupted =
    s.host.calls.map Call.uninterrupted ++ made
  content : (settle (task.run context) s).2.host.disk.read (context.artifactPath task.output) =
    .ok content

/-- What a run comes to whose outcomes are those from the opened artifact on. -/
structure Retries : Prop where
  /-- A text without surrogates follows the header in the artifact. -/
  answered : ∀ k < context.limit, (∀ j < k, task.GoesOn context (task.opened context s) j) →
    ∀ text, task.outcome context (task.opened context s) k = .ok text →
      ¬ Text.HasSurrogate (task.header ++ text) →
        ∃ octets, Text.Utf8.encode (task.header ++ text) = .ok octets ∧
          task.EndsAfter context s (task.attemptCalls context (k + 1))
            (.ok (context.artifactPath task.output)) octets
  /-- A surrogate ends the writing before the header or the text that holds it. -/
  unencodable : ∀ k < context.limit, (∀ j < k, task.GoesOn context (task.opened context s) j) →
    ∀ text, task.outcome context (task.opened context s) k = .ok text →
      Text.HasSurrogate (task.header ++ text) →
        ∃ octets e, Text.Utf8.encodeUntil [task.header, text] = (octets, some e) ∧
          task.EndsAfter context s (task.attemptCalls context (k + 1)) (.error (.unencodable e))
            octets
  /-- A fault of another kind goes through as it is. -/
  stopped : ∀ k < context.limit, (∀ j < k, task.GoesOn context (task.opened context s) j) →
    ∀ fault, task.outcome context (task.opened context s) k = .error fault →
      fault.isRetried = false →
        task.EndsAfter context s (task.attemptCalls context (k + 1)) (.error fault) []
  /-- If every attempt fails, the words of the last failure are told. -/
  exhausted : (∀ j < context.limit - 1, task.GoesOn context (task.opened context s) j) →
    ∀ fault, task.outcome context (task.opened context s) (context.limit - 1) = .error fault →
      fault.isRetried = true →
        task.EndsAfter context s (task.attemptCalls context context.limit)
          (.error (.task (.failed task.label (.unanswered fault.message)))) []
  /-- A pause that cannot be timed is the last that is asked for. -/
  untimed : ∀ k < context.limit - 1, (∀ j < k, task.GoesOn context (task.opened context s) j) →
    task.Fails context (task.opened context s) k →
      ¬ task.Pauses context (task.opened context s) k →
        task.EndsAfter context s (task.attemptCalls context (k + 1) ++ context.pauseCalls)
          (.error (.untimed .beyondClock)) []

end

section

variable {task : QueryTask} {context : Context} {s : Session}

/-- One attempt less from the session on that the first leaves is the same sequence. -/
theorem fails_again {n : Nat} :
    task.Fails context (task.again context s) n ↔ task.Fails context s (n + 1) :=
  Iff.rfl

theorem pauses_again {n : Nat} :
    task.Pauses context (task.again context s) n ↔ task.Pauses context s (n + 1) := by
  have hplatform : (task.again context s).host.platform = s.host.platform :=
    (settle_platform _ _).trans (settle_platform _ s)
  unfold Pauses
  rw [hplatform]
  exact Iff.rfl

theorem goesOn_again {n : Nat} :
    task.GoesOn context (task.again context s) n ↔ task.GoesOn context s (n + 1) :=
  and_congr fails_again pauses_again

/-! ## Pauses -/

theorem waitError?_asked : (task.asked context s 0).host.waitError? context.retryDelay = none ↔
    (task.asked context s 0).host.cancelled = true ∨
      s.host.platform.CanWait context.retryDelay := by
  have hplatform : (task.asked context s 0).host.platform = s.host.platform := settle_platform _ s
  rw [Host.waitError?_eq_none_iff, hplatform]

theorem settle_pause_of_pauses (h : task.Pauses context s 0) :
    settle context.pause (task.asked context s 0) = (.ok (), task.again context s) := by
  refine Prod.ext ?_ rfl
  unfold Context.pause
  split
  case isTrue hdelay =>
    rw [settle_wait, Host.wait_of_none (waitError?_asked.mpr (h hdelay))]
  case isFalse => rfl

theorem settle_pause_of_not_pauses (h : ¬ task.Pauses context s 0) :
    settle context.pause (task.asked context s 0) =
      (.error (.untimed .beyondClock), task.again context s) := by
  refine Prod.ext ?_ rfl
  obtain ⟨hdelay, hwait⟩ := Classical.not_imp.mp h
  rw [← waitError?_asked] at hwait
  obtain ⟨e, he⟩ := Option.ne_none_iff_exists'.mp hwait
  obtain ⟨-, -, rfl⟩ := Host.waitError?_eq_some_iff.mp he
  unfold Context.pause
  rw [if_pos hdelay, settle_wait, Host.wait_of_error he]

/-! ## How the attempts end -/

theorem settle_askAgain_of_not_fails (h : ¬ task.Fails context s 0) (retries : Nat) :
    settle (task.askAgain context retries) s =
      (task.outcome context s 0, task.asked context s 0) := by
  have hends : ∀ fault, task.outcome context s 0 = .error fault → fault.isRetried = false :=
    fun fault hfault => Bool.eq_false_iff.mpr fun hretried => h ⟨fault, hfault, hretried⟩
  show _ = settle (task.ask context) s
  cases hsettle : settle (task.ask context) s with
  | mk outcome t =>
    cases outcome with
    | ok text =>
      cases retries with
      | zero => rw [askAgain_zero, settle_bind, settle_attempt, hsettle]; rfl
      | succ retries => rw [askAgain_succ, settle_bind, settle_attempt, hsettle]; rfl
    | error fault =>
      have hfinal : ¬ fault.isRetried = true :=
        Bool.eq_false_iff.mp (hends fault (congrArg Prod.fst hsettle))
      cases retries with
      | zero =>
        rw [askAgain_zero, settle_bind, settle_attempt, hsettle]
        exact congrArg (fun fault => (Except.error fault, t)) (if_neg hfinal)
      | succ retries =>
        rw [askAgain_succ, settle_bind, settle_attempt, hsettle]
        dsimp only
        rw [if_neg hfinal]
        rfl

theorem settle_askAgain_zero {fault : Fault} (h : task.outcome context s 0 = .error fault)
    (hretried : fault.isRetried = true) :
    settle (task.askAgain context 0) s =
      (.error (.task (.failed task.label (.unanswered fault.message))),
        task.asked context s 0) := by
  have h : (settle (task.ask context) s).1 = .error fault := h
  rw [askAgain_zero, settle_bind, settle_attempt, h]
  exact congrArg (fun fault => (Except.error fault, task.asked context s 0)) (if_pos hretried)

/-- A failed attempt is followed by a pause. -/
theorem settle_askAgain_of_fails_zero (h : task.Fails context s 0) (retries : Nat) :
    settle (task.askAgain context (retries + 1)) s =
      settle (context.pause >>= fun _ => task.askAgain context retries)
        (task.asked context s 0) := by
  obtain ⟨fault, hfault, hretried⟩ := h
  have hfault : (settle (task.ask context) s).1 = .error fault := hfault
  rw [askAgain_succ, settle_bind, settle_attempt, hfault]
  dsimp only
  rw [if_pos hretried]
  rfl

/-- After the pause come the attempts that are left. -/
theorem settle_askAgain_succ (h : task.GoesOn context s 0) (retries : Nat) :
    settle (task.askAgain context (retries + 1)) s =
      settle (task.askAgain context retries) (task.again context s) := by
  rw [settle_askAgain_of_fails_zero h.1, settle_bind, settle_pause_of_pauses h.2]

/-- **The first attempt that does not fail is the last.** -/
theorem settle_askAgain_of_first {retries k : Nat} (hk : k ≤ retries)
    (hbefore : ∀ j < k, task.GoesOn context s j) (h : ¬ task.Fails context s k) :
    settle (task.askAgain context retries) s =
      (task.outcome context s k, task.asked context s k) := by
  induction k generalizing s retries with
  | zero => exact settle_askAgain_of_not_fails h retries
  | succ k ih =>
    obtain ⟨retries, rfl⟩ : ∃ r, retries = r + 1 := ⟨retries - 1, by omega⟩
    rw [settle_askAgain_succ (hbefore 0 (Nat.succ_pos k))]
    exact ih (Nat.le_of_succ_le_succ hk)
      (fun j hj => goesOn_again.mpr (hbefore (j + 1) (Nat.succ_lt_succ hj)))
      fun hnext => h (fails_again.mp hnext)

/-- **If all attempts fail, the last failure is told.** -/
theorem settle_askAgain_of_fails {retries : Nat} (hbefore : ∀ j < retries, task.GoesOn context s j)
    {fault : Fault} (hlast : task.outcome context s retries = .error fault)
    (hretried : fault.isRetried = true) :
    settle (task.askAgain context retries) s =
      (.error (.task (.failed task.label (.unanswered fault.message))),
        task.asked context s retries) := by
  induction retries generalizing s with
  | zero => exact settle_askAgain_zero hlast hretried
  | succ retries ih =>
    rw [settle_askAgain_succ (hbefore 0 (Nat.succ_pos _))]
    exact ih (fun j hj => goesOn_again.mpr (hbefore (j + 1) (Nat.succ_lt_succ hj))) hlast

/-- **A pause that cannot be timed ends the attempts.** -/
theorem settle_askAgain_of_not_pauses {retries k : Nat} (hk : k < retries)
    (hbefore : ∀ j < k, task.GoesOn context s j) (hfails : task.Fails context s k)
    (h : ¬ task.Pauses context s k) :
    settle (task.askAgain context retries) s =
      (.error (.untimed .beyondClock), task.attempted context s (k + 1)) := by
  obtain ⟨retries, rfl⟩ : ∃ r, retries = r + 1 := ⟨retries - 1, by omega⟩
  induction k generalizing s retries with
  | zero =>
    rw [settle_askAgain_of_fails_zero hfails, settle_bind, settle_pause_of_not_pauses h]
    rfl
  | succ k ih =>
    obtain ⟨retries, rfl⟩ : ∃ r, retries = r + 1 := ⟨retries - 1, by omega⟩
    rw [settle_askAgain_succ (hbefore 0 (Nat.succ_pos k))]
    exact ih (fun j hj => goesOn_again.mpr (hbefore (j + 1) (Nat.succ_lt_succ hj)))
      (fails_again.mpr hfails) (fun hpauses => h (pauses_again.mp hpauses)) retries (by omega)

end

end QueryTask

/-! ## What is called meanwhile -/

/-- From one session to another these calls were made, and nothing was written. -/
structure Session.Called (s t : Session) (made : List Call) : Prop where
  disk : t.host.disk = s.host.disk
  programs : t.host.programs = s.host.programs
  calls : t.host.calls.map Call.uninterrupted = s.host.calls.map Call.uninterrupted ++ made

theorem Session.Called.trans {s t u : Session} {made made' : List Call} (h : s.Called t made)
    (h' : t.Called u made') : s.Called u (made ++ made') where
  disk := h'.disk.trans h.disk
  programs := h'.programs.trans h.programs
  calls := by rw [h'.calls, h.calls, List.append_assoc]

theorem Session.Called.writesNothing {s t : Session} {made : List Call} (h : s.Called t made)
    {backend : Backend} (hquiet : backend.WritesNothing s.host) : backend.WritesNothing t.host := by
  refine hquiet.imp_right fun hwrites executable outcomes hprogram => ?_
  rw [h.programs] at hprogram
  exact hwrites executable outcomes hprogram

theorem Session.map_answer_calls (s : Session) (r : Request) :
    (s.answer r).2.host.calls.map Call.uninterrupted =
      s.host.calls.map Call.uninterrupted ++ r.calls false := by
  rw [answer_calls, List.map_append, Request.map_uninterrupted_calls]

namespace Backend

/-- A query is put by one request. -/
theorem settle_ask (backend : Backend) (className namespaceName : Text) (s : Session) :
    (settle (backend.ask className namespaceName) s).2 =
      (s.answer (backend.request className namespaceName)).2 := by
  cases backend with
  | service => rfl
  | cim powershell timeout =>
    show (settle (Cim.ask powershell timeout className namespaceName) s).2 = _
    unfold Cim.ask
    rw [settle_bind, settle_attempt, settle_start]
    dsimp only
    cases (s.host.start (Cim.argv powershell className namespaceName) timeout .capture).1 with
    | ok ending =>
      cases ending with
      | exited code stdout stderr =>
        dsimp only
        split <;> rfl
      | timedOut => rfl
    | error fault =>
      cases fault with
      | os e =>
        dsimp only
        split <;> rfl
      | _ => rfl

theorem called_request {backend : Backend} {s : Session} (hquiet : backend.WritesNothing s.host)
    (className namespaceName : Text) :
    s.Called (s.answer (backend.request className namespaceName)).2
      ((backend.request className namespaceName).calls false) := by
  cases backend with
  | service =>
    refine ⟨?_, ?_, s.map_answer_calls _⟩
    all_goals
      unfold request
      rw [s.answer_query]
      rfl
  | cim powershell timeout =>
    have hwrites : s.host.WritesNothing := hquiet.resolve_left nofun
    obtain ⟨_, _, hbecomes, hdisk⟩ :=
      Host.start_becomes hwrites (Cim.argv powershell className namespaceName) timeout .capture
    exact ⟨hbecomes.disk.trans (hdisk.elim id fun ⟨_, hdelivered⟩ => hdelivered),
      hbecomes.programs, s.map_answer_calls _⟩

end Backend

theorem Context.called_pause (context : Context) (s : Session) :
    s.Called (settle context.pause s).2 context.pauseCalls := by
  unfold pause pauseCalls
  split
  · exact ⟨rfl, rfl, s.map_answer_calls (.wait context.retryDelay)⟩
  · exact ⟨rfl, rfl, (List.append_nil _).symm⟩

namespace QueryTask

variable {task : QueryTask} {context : Context} {s : Session}

theorem called_ask (hquiet : context.backend.WritesNothing s.host) :
    s.Called (settle (task.ask context) s).2
      ((context.backend.request task.className task.namespaceName).calls false) := by
  unfold ask
  rw [Backend.settle_ask]
  exact Backend.called_request hquiet _ _

/-- So many attempts make so many calls, with the pauses between them. -/
theorem called_asked (hquiet : context.backend.WritesNothing s.host) (n : Nat) :
    s.Called (task.asked context s n) (task.attemptCalls context (n + 1)) := by
  induction n generalizing s with
  | zero =>
    have hcalls : task.attemptCalls context 1 =
        (context.backend.request task.className task.namespaceName).calls false := by
      simp [attemptCalls]
    rw [hcalls]
    exact called_ask hquiet
  | succ n ih =>
    have hfirst := (@called_ask task context s hquiet).trans (context.called_pause _)
    have hcalls : task.attemptCalls context (n + 2) =
        (context.backend.request task.className task.namespaceName).calls false ++
          context.pauseCalls ++ task.attemptCalls context (n + 1) := by
      unfold attemptCalls
      rw [List.replicate_succ, List.replicate_succ, List.intercalate_cons_cons]
    rw [hcalls]
    exact hfirst.trans (ih (hfirst.writesNothing hquiet))

end QueryTask

/-! ## Writing an artifact -/

section

variable {s : Session} {place : Location}

/-- What was kept back reaches the disk at the end, and a refusal is told rather than a surrogate in
the texts. -/
theorem settle_writeArtifact {texts : List Text} {octets : List UInt8}
    {error : Option Text.Utf8.EncodeError}
    (h : Text.Utf8.encodeUntil texts = (octets, error)) (refused : OsFault → Fault) :
    settle (writeArtifact place texts refused) s =
      (if (s.host.disk.flushAt place octets).1 then
          error.elim (.ok ()) fun e => .error (.unencodable e)
        else
          .error (if Backlog.refusesWrite texts then refused (.errno .noSpace none)
            else .os (.errno .noSpace none)),
        s.withDisk (s.host.disk.flushAt place octets).2) := by
  unfold writeArtifact
  rw [h]
  dsimp only
  rw [settle_request]
  unfold Session.answer
  dsimp only
  cases (s.host.disk.flushAt place octets).1
  · rfl
  · cases error <;> rfl

end

namespace QueryTask

section

variable {task : QueryTask} {context : Context} {s : Session} {place : Location} {disk : Disk}

theorem opened_eq (h : s.host.disk.openForWriting (context.artifactPath task.output) =
    .ok (place, disk)) : task.opened context s = s.withDisk disk := by
  unfold opened Session.answer
  dsimp only
  rw [h]

/-- Once the artifact is open, a run puts the query and writes what it was told. -/
theorem settle_run_of_opened (h : s.host.disk.openForWriting (context.artifactPath task.output) =
    .ok (place, disk)) :
    settle (task.run context) s =
      settle (task.answer context >>= fun text =>
        writeArtifact place [task.header, text]
            (notWritten task.label (context.artifactPath task.output)) >>= fun _ =>
          pure (context.artifactPath task.output)) (task.opened context s) := by
  unfold run
  dsimp only
  rw [settle_bind, settle_openArtifact_of_ok h, opened_eq h]

theorem settle_run_of_error {fault : OsFault}
    (h : s.host.disk.openForWriting (context.artifactPath task.output) = .error (.os fault)) :
    settle (task.run context) s =
      (.error (.task (.failed task.label
        (.notCreated (context.artifactPath task.output) fault))), s) := by
  unfold run
  dsimp only
  rw [settle_bind, settle_openArtifact_of_error h]
  rfl

/-! ## What a run comes to -/

theorem limit_eq (context : Context) : context.limit - 1 = (context.attempts - 1).toNat := by
  unfold Context.limit
  omega

theorem limit_pos (context : Context) : 0 < context.limit := by
  unfold Context.limit
  omega

theorem answer_of_first {k : Nat} (hk : k < context.limit)
    (hbefore : ∀ j < k, task.GoesOn context s j) (h : ¬ task.Fails context s k) :
    settle (task.answer context) s = (task.outcome context s k, task.asked context s k) := by
  unfold answer
  rw [← limit_eq]
  exact settle_askAgain_of_first (Nat.le_sub_one_of_lt hk) hbefore h

theorem answer_of_fails (hbefore : ∀ j < context.limit - 1, task.GoesOn context s j)
    {fault : Fault} (hlast : task.outcome context s (context.limit - 1) = .error fault)
    (hretried : fault.isRetried = true) :
    settle (task.answer context) s =
      (.error (.task (.failed task.label (.unanswered fault.message))),
        task.asked context s (context.limit - 1)) := by
  unfold answer
  rw [← limit_eq]
  exact settle_askAgain_of_fails hbefore hlast hretried

theorem answer_of_not_pauses {k : Nat} (hk : k < context.limit - 1)
    (hbefore : ∀ j < k, task.GoesOn context s j) (hfails : task.Fails context s k)
    (h : ¬ task.Pauses context s k) :
    settle (task.answer context) s =
      (.error (.untimed .beyondClock), task.attempted context s (k + 1)) := by
  unfold answer
  rw [← limit_eq]
  exact settle_askAgain_of_not_pauses hk hbefore hfails h

theorem map_opened_calls :
    (task.opened context s).host.calls.map Call.uninterrupted =
      s.host.calls.map Call.uninterrupted :=
  (s.map_answer_calls _).trans (List.append_nil _)

/-- A run that is not told a text leaves the artifact as it was opened. -/
theorem endsAfter_of_fault (hground : s.IsGrounded)
    (htakes : s.host.disk.Takes (context.artifactPath task.output)) {made : List Call}
    {fault : Fault} {t : Session}
    (h : settle (task.answer context) (task.opened context s) = (.error fault, t))
    (hcalled : (task.opened context s).Called t made) :
    task.EndsAfter context s made (.error fault) [] := by
  obtain ⟨place, disk, content, hopened, hfile⟩ := (takes_iff_opened hground).mp htakes
  have hrun : settle (task.run context) s = (.error fault, t) := by
    rw [settle_run_of_opened hopened, settle_bind, h]
  refine ⟨by rw [hrun], by rw [hrun, hcalled.calls, map_opened_calls], ?_⟩
  rw [hrun, hcalled.disk, opened_eq hopened]
  exact (read_flushAt hground hopened hfile []).2

/-- A run that is told a text leaves in the artifact what of the header and the text has octets. -/
theorem endsAfter_of_text (hground : s.IsGrounded)
    (htakes : s.host.disk.Takes (context.artifactPath task.output)) {made : List Call}
    {text : Text} {t : Session}
    (h : settle (task.answer context) (task.opened context s) = (.ok text, t))
    (hcalled : (task.opened context s).Called t made)
    {octets : List UInt8} {error : Option Text.Utf8.EncodeError}
    (hoctets : Text.Utf8.encodeUntil [task.header, text] = (octets, error)) :
    task.EndsAfter context s made
      (error.elim (.ok (context.artifactPath task.output)) fun e => .error (.unencodable e))
      octets := by
  obtain ⟨place, disk, content, hopened, hfile⟩ := (takes_iff_opened hground).mp htakes
  obtain ⟨htaken, hread⟩ := read_flushAt hground hopened hfile octets
  have hdisk : t.host.disk = disk := by rw [hcalled.disk, opened_eq hopened, Session.withDisk_disk]
  have hrun : settle (task.run context) s =
      (error.elim (.ok (context.artifactPath task.output)) fun e => .error (.unencodable e),
        t.withDisk (disk.flushAt place octets).2) := by
    rw [settle_run_of_opened hopened, settle_bind, h]
    dsimp only
    rw [settle_bind, settle_writeArtifact hoctets, hdisk, if_pos htaken]
    cases error <;> rfl
  refine ⟨by rw [hrun], ?_, by rw [hrun]; exact hread⟩
  rw [hrun]
  exact hcalled.calls.trans (by rw [map_opened_calls])

/-- What the outcomes say, if the artifact takes what is written. -/
theorem retries_of_takes (hground : s.IsGrounded)
    (htakes : s.host.disk.Takes (context.artifactPath task.output))
    (hquiet : context.backend.WritesNothing s.host) : task.Retries context s := by
  have hquiet' : context.backend.WritesNothing (task.opened context s).host := by
    unfold opened
    rw [s.answer_openFile]
    exact hquiet
  have hcalled : ∀ n, (task.opened context s).Called (task.asked context (task.opened context s) n)
      (task.attemptCalls context (n + 1)) := called_asked hquiet'
  have htold : ∀ k < context.limit, (∀ j < k, task.GoesOn context (task.opened context s) j) →
      ∀ text, task.outcome context (task.opened context s) k = .ok text →
        settle (task.answer context) (task.opened context s) =
          (.ok text, task.asked context (task.opened context s) k) := by
    intro k hk hbefore text htext
    rw [answer_of_first hk hbefore, htext]
    rintro ⟨fault, hfault, -⟩
    rw [htext] at hfault
    cases hfault
  constructor
  case answered =>
    intro k hk hbefore text htext hscalars
    obtain ⟨octets, hoctets⟩ := Text.Utf8.exists_encode_iff.mpr hscalars
    have hwritten : Text.Utf8.encodeUntil [task.header, text] = (octets, none) :=
      Text.Utf8.encodeUntil_eq_none_iff.mpr (by simpa using hoctets)
    exact ⟨octets, hoctets,
      endsAfter_of_text hground htakes (htold k hk hbefore text htext) (hcalled k) hwritten⟩
  case unencodable =>
    intro k hk hbefore text htext hsurrogate
    cases hwritten : Text.Utf8.encodeUntil [task.header, text] with
    | mk octets error =>
      cases error with
      | none =>
        have hoctets := Text.Utf8.encodeUntil_eq_none_iff.mp hwritten
        refine absurd hsurrogate (Text.Utf8.exists_encode_iff.mp ⟨octets, ?_⟩)
        simpa using hoctets
      | some e =>
        exact ⟨octets, e, rfl,
          endsAfter_of_text hground htakes (htold k hk hbefore text htext) (hcalled k) hwritten⟩
  case stopped =>
    intro k hk hbefore fault hfault hstops
    refine endsAfter_of_fault hground htakes ?_ (hcalled k)
    rw [answer_of_first hk hbefore, hfault]
    rintro ⟨other, hother, hretried⟩
    obtain rfl : fault = other := Except.error.inj (hfault.symm.trans hother)
    rw [hretried] at hstops
    cases hstops
  case exhausted =>
    intro hbefore fault hlast hretried
    refine endsAfter_of_fault hground htakes (answer_of_fails hbefore hlast hretried) ?_
    have hcalls := hcalled (context.limit - 1)
    rwa [Nat.sub_add_cancel (limit_pos context)] at hcalls
  case untimed =>
    intro k hk hbefore hfails hpause
    refine endsAfter_of_fault hground htakes (answer_of_not_pauses hk hbefore hfails hpause) ?_
    have hagain : task.attempted context (task.opened context s) (k + 1) =
        (settle context.pause (task.asked context (task.opened context s) k)).2 := by
      unfold attempted
      rw [Function.iterate_succ_apply']
      rfl
    rw [hagain]
    exact (hcalled k).trans (context.called_pause _)

/-- What a service told a query is what was given beforehand. -/
theorem outcome_service (h : context.backend = .service) (n : Nat) :
    task.outcome context s n =
      (s.host.answers task.className (s.host.asked task.className + n)).told := by
  have hask : ∀ t : Session, settle (task.ask context) t =
      t.answer (.query task.className task.namespaceName) := by
    intro t
    unfold ask
    rw [h]
    rfl
  induction n generalizing s with
  | zero =>
    show (settle (task.ask context) s).1 = _
    rw [hask, s.answer_query]
    rfl
  | succ n ih =>
    show task.outcome context (task.again context s) n = _
    have hagain : (task.again context s).host.answers = s.host.answers ∧
        (task.again context s).host.asked task.className = s.host.asked task.className + 1 := by
      unfold again
      rw [hask, s.answer_query]
      unfold Context.pause
      split
      all_goals exact ⟨rfl, if_pos rfl⟩
    rw [ih, hagain.1, hagain.2, Nat.add_right_comm, Nat.add_assoc]

end

/-- **A query is put until it is answered, and no more often than the context allows.** On a machine
whose working directory is there, if a file can be written where the artifact is to be and putting
the query writes none, a run comes to what the outcomes of the query say, and the pauses between
them (`Retries`). If the artifact cannot be opened, nothing is called and nothing changes. The
outcomes of a query service are the answers that it was given beforehand, whatever these are. -/
theorem run_retries (task : QueryTask) (context : Context) (s : Session) :
    (s.IsGrounded → s.host.disk.Takes (context.artifactPath task.output) →
      context.backend.WritesNothing s.host → task.Retries context s) ∧
    (∀ fault, s.host.disk.openForWriting (context.artifactPath task.output) =
        .error (.os fault) →
      settle (task.run context) s =
        (.error (.task (.failed task.label
          (.notCreated (context.artifactPath task.output) fault))), s)) ∧
    (context.backend = .service → ∀ n,
      task.outcome context (task.opened context s) n =
        (s.host.answers task.className (s.host.asked task.className + n)).told) := by
  refine ⟨retries_of_takes, fun _ => settle_run_of_error, fun h n => ?_⟩
  · rw [outcome_service h]
    unfold opened
    rw [s.answer_openFile]
    rfl

namespace Example

/-- A query whose artifact goes to a directory that is there. -/
def query : QueryTask := ⟨"C", "n", "q"⟩

/-- Half a second is waited between attempts. -/
def patient : Context := ⟨Path.ofText "s", .service, "G", 3, Binary64.ofRatio false 1 2⟩

/-- More seconds are waited between attempts than the clock holds. -/
def idle : Context :=
  { patient with retryDelay := Binary64.ofRatio false 10000000000 1 }

/-- A disk with one directory. -/
def prepared : Disk := ⟨.directory [([0x73], .directory [])], [], []⟩

/-- A session on a host whose service answers so. -/
def sessionOf (answers : Nat → Answer) : Session where
  host :=
    { disk := prepared
      programs := fun _ => none
      started := fun _ => 0
      answers := fun _ => answers
      asked := fun _ => 0
      cancelled := false
      calls := [] }
  failures := []

/-- A service that fails twice. -/
def flaky : Session :=
  sessionOf fun k => if k < 2 then .failed (.query (.reported "busy")) else .text "x"

/-- A text that has no octets. -/
def half : Text := [CodePoint.ofNat 0xD800]

theorem takes_prepared : prepared.Takes (patient.artifactPath query.output) := by
  have hvacant : prepared.locate ⟨true, true⟩ (patient.artifactPath query.output) =
      .ok (.vacant [[0x73], [0x71]]) := by
    decide +kernel
  exact .vacant hvacant

end Example

open QueryTask.Example

/-- A service that fails twice is asked three times, and waited for in between. -/
theorem run_retries_flaky :
    flaky.IsGrounded ∧ flaky.host.disk.Takes (patient.artifactPath query.output) ∧
      patient.backend.WritesNothing flaky.host ∧
      (∃ octets, Text.Utf8.encode (query.header ++ "x") = .ok octets ∧
        query.EndsAfter patient flaky (query.attemptCalls patient 3)
          (.ok (patient.artifactPath query.output)) octets) ∧
      query.attemptCalls patient 3 =
        [.query "C" "n", .wait patient.retryDelay false, .query "C" "n",
          .wait patient.retryDelay false, .query "C" "n"] := by
  have hground : flaky.IsGrounded := ⟨_, rfl⟩
  have htakes : flaky.host.disk.Takes (patient.artifactPath query.output) := takes_prepared
  have hquiet : patient.backend.WritesNothing flaky.host := Or.inl rfl
  obtain ⟨hretries, -, houtcome⟩ := run_retries query patient flaky
  have htold : query.outcome patient (query.opened patient flaky) 2 = .ok "x" := houtcome rfl 2
  have hbefore : ∀ j < 2, query.GoesOn patient (query.opened patient flaky) j := by
    intro j hj
    refine ⟨⟨.query (.reported "busy"), ?_, rfl⟩, fun _ => Or.inr (by decide +kernel)⟩
    rw [houtcome rfl j]
    show (if 0 + j < 2 then Answer.failed (.query (.reported "busy")) else .text "x").told = _
    rw [if_pos (by omega)]
    rfl
  have hscalars : ¬ Text.HasSurrogate (query.header ++ "x") := by
    unfold Text.HasSurrogate
    decide +kernel
  exact ⟨hground, htakes, hquiet,
    (hretries hground htakes hquiet).answered 2 (by decide) hbefore "x" htold hscalars,
    by decide +kernel⟩

/-- Two queries that break off. One is told a text with a surrogate and does not end with its
artifact; the other would be answered at its third attempt, but its first pause cannot be timed. -/
theorem run_breaks_off :
    ((sessionOf fun _ => .text half).host.disk.Takes (patient.artifactPath query.output) ∧
      query.outcome patient (query.opened patient (sessionOf fun _ => .text half)) 0 = .ok half ∧
      (settle (query.run patient) (sessionOf fun _ => .text half)).1 =
        .error (.unencodable ⟨CodePoint.ofNat 0xD800, 0, 1⟩)) ∧
    (flaky.host.disk.Takes (idle.artifactPath query.output) ∧
      query.outcome idle (query.opened idle flaky) 2 = .ok "x" ∧
      (settle (query.run idle) flaky).1 = .error (.untimed .beyondClock) ∧
      (settle (query.run idle) flaky).2.host.calls =
        [.query "C" "n", .wait idle.retryDelay false]) := by
  refine ⟨⟨takes_prepared, ?_, ?_⟩, takes_prepared, ?_, ?_, ?_⟩
  all_goals decide +kernel

end QueryTask

end Diagnostics
