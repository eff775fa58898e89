import Diagnostics.Proofs.Disk.Extends
import Diagnostics.Proofs.Interference
import Diagnostics.Proofs.Territory

/-!
# The artifacts that tasks return

A task returns the path of its artifact. If the task opened the artifact, the path names a file when
the task ends, whatever others do meanwhile, because nothing on the way there can remove a file
(`Session.extends_answer`). If it left that to its program, all that is known is that the program
ended with a status of zero.
-/

set_option autoImplicit false

namespace Diagnostics

open Diagnostics.Action Disk

/-- From one session to another nothing was removed. -/
def Session.Extends (s t : Session) : Prop :=
  s.host.disk.Extends t.host.disk

/-- From one session to another nothing was removed, and only files were added. -/
def Session.AddsFiles (s t : Session) : Prop :=
  s.host.disk.AddsFiles t.host.disk

def Session.IsGrounded (s : Session) : Prop :=
  s.host.disk.IsGrounded

/-! ## No request removes anything -/

section

variable {host : Host} {s t : Session}

theorem Redirect.addsFiles_deliver (redirect : Redirect) (octets : List UInt8) (d : Disk) :
    d.AddsFiles (redirect.deliver octets d).2 := by
  cases redirect with
  | file place => exact addsFiles_writeAt d place octets
  | discard => exact .refl d
  | capture => exact .refl d

theorem Host.addsFiles_perform (hground : host.disk.IsGrounded) (argv : List Text)
    (timeout : Option Binary64) (redirect : Redirect) (c : Completion) :
    host.disk.AddsFiles (host.perform argv timeout redirect c).2.disk := by
  have hdisk : (host.perform argv timeout redirect c).2.disk =
      (redirect.deliver (c.stdout ++ c.stderr) (host.disk.writeArguments argv c.writes).2).2 := by
    unfold perform Redirect.deliver
    dsimp only
    split_ifs <;> cases redirect <;> rfl
  rw [hdisk]
  exact (addsFiles_writeArguments argv c.writes hground).trans (redirect.addsFiles_deliver _ _)

theorem Host.addsFiles_start (hground : host.disk.IsGrounded) (argv : List Text)
    (timeout : Option Binary64) (redirect : Redirect) :
    host.disk.AddsFiles (host.start argv timeout redirect).2.disk := by
  rcases host.start_snd_cases timeout redirect argv with h | h | ⟨c, -, h⟩
  · rw [h]
    exact .refl _
  · rw [h]
    exact .refl _
  · rw [h]
    exact @addsFiles_perform
      { host.note (.run argv timeout redirect.channel) with
        started := bump host.started (argv.headD "") } hground argv timeout redirect c

/-- **A request that is not for directories adds files at the most.** -/
theorem Session.addsFiles_answer (hground : s.IsGrounded) {r : Request}
    (hr : ∀ path, r ≠ .ensureDirectories path) : s.AddsFiles (s.answer r).2 := by
  have hdisk : s.host.disk.IsGrounded := hground
  unfold Session.AddsFiles
  cases r with
  | openFile path =>
    unfold Session.answer
    dsimp only
    cases hopened : s.host.disk.openForWriting path with
    | error e => exact .refl _
    | ok opened => exact (openForWriting_ok hdisk hopened).1
  | closeFile place octets => exact addsFiles_flushAt _ place octets
  | ensureDirectories path => exact absurd rfl (hr path)
  | start argv timeout redirect => exact Host.addsFiles_start hdisk argv timeout redirect
  | query className namespaceName =>
    rw [s.answer_query]
    exact .refl _
  | collect roots => exact .refl _
  | wait seconds => exact .refl _
  | record failure => exact .refl _
  | recorded => exact .refl _

/-- **No request removes anything.** -/
theorem Session.extends_answer (hground : s.IsGrounded) (r : Request) :
    s.Extends (s.answer r).2 := by
  by_cases hr : ∀ path, r ≠ .ensureDirectories path
  · exact (addsFiles_answer hground hr).toExtends
  · push Not at hr
    obtain ⟨path, rfl⟩ := hr
    exact extends_ensureDirectories hground path

theorem Session.Extends.isGrounded (h : s.Extends t) (hground : s.IsGrounded) : t.IsGrounded :=
  Disk.Extends.isGrounded h hground

theorem Session.extends_settle {α : Type} (work : Action α) (hground : s.IsGrounded) :
    s.Extends (settle work s).2 := by
  induction work generalizing s with
  | done outcome => exact Disk.Extends.refl _
  | request r next ih =>
    have hanswer := Session.extends_answer hground r
    exact Disk.Extends.trans hanswer (ih _ (hanswer.isGrounded hground))

theorem staysWithin_extends :
    FanOut.StaysWithin Session.IsGrounded (fun _ _ => True) Session.Extends where
  refl _ := .refl _
  trans := .trans
  answer _ hground :=
    ⟨(Session.extends_answer hground _).isGrounded hground, Session.extends_answer hground _⟩
  record _ hground := ⟨hground, .refl _⟩

end

/-! ## What a task returns -/

/-- How a task with an artifact ends: what it returns is the artifact's path, which names a file if
the task opened it. -/
def Task.Yields (task : Task) (context : Context) (outcome : Except Fault Path) (s : Session) :
    Prop :=
  ∀ path, outcome = .ok path → path = context.artifactPath task.output ∧
    (task.opens = true → s.host.disk.isFile path = true)

theorem Task.yields_error (task : Task) (context : Context) (fault : Fault) (s : Session) :
    task.Yields context (.error fault) s :=
  fun _ hpath => nomatch hpath

section

variable {context : Context} {s : Session}

theorem openFile_establishes {path : Path} :
    (openFile path).Establishes Session.IsGrounded Session.Extends
      (fun outcome t => ∀ place, outcome = .ok place → t.host.disk.isFile path = true) s := by
  intro t hground _ place hplace
  have hdisk : t.host.disk.IsGrounded := hground
  unfold Session.answer at hplace ⊢
  dsimp only at hplace ⊢
  cases hopened : t.host.disk.openForWriting path with
  | error e =>
    rw [hopened] at hplace
    cases hplace
  | ok opened => exact (openForWriting_ok hdisk hopened).2

theorem openArtifact_establishes {label : Text} {path : Path} :
    (openArtifact label path).Establishes Session.IsGrounded Session.Extends
      (fun outcome t => ∀ place, outcome = .ok place → t.host.disk.isFile path = true) s := by
  unfold openArtifact
  rw [establishes_bind, establishes_attempt]
  refine openFile_establishes.mono fun outcome t hfile => ?_
  rcases outcome with (_ | _ | _ | _ | _ | _ | _) | place
  case ok =>
    intro other _
    exact hfile place rfl
  all_goals
    intro other hother
    cases hother

/-- Whatever is done after an artifact was opened, its path goes on naming a file. -/
theorem establishes_isFile {α : Type} {path : Path} {work : Action α}
    (hfile : s.host.disk.isFile path = true) :
    work.Establishes Session.IsGrounded Session.Extends
      (fun _ t => t.host.disk.isFile path = true) s :=
  ((establishes_of_forall fun _ _ => trivial).frame hfile
    (fun hextends hs => Disk.Extends.isFile hextends hs)
    fun r hground ht => (Session.extends_answer hground r).isFile ht).mono fun _ _ h => h.2

theorem ProcessTask.run_establishes (task : ProcessTask) :
    (task.run context).Establishes Session.IsGrounded Session.Extends
      ((Task.process task).Yields context) s := by
  unfold run
  dsimp only
  cases hown : task.ownFile with
  | true =>
    have hopens : (Task.process task).opens = false := by
      show (!task.ownFile) = false
      rw [hown]
      rfl
    rw [if_pos rfl, establishes_bind]
    refine establishes_of_forall fun outcome t => ?_
    cases outcome with
    | error fault => exact Task.yields_error _ _ _ _
    | ok _ =>
      rintro path ⟨⟩
      refine ⟨rfl, fun h => ?_⟩
      rw [hopens] at h
      cases h
  | false =>
    rw [if_neg Bool.false_ne_true, establishes_bind]
    refine openArtifact_establishes.mono fun outcome t hopened => ?_
    cases outcome with
    | error fault => exact Task.yields_error _ _ _ _
    | ok place =>
      dsimp only
      rw [establishes_bind]
      refine (establishes_isFile (hopened place rfl)).mono fun outcome t hfile => ?_
      cases outcome with
      | error fault => exact Task.yields_error _ _ _ _
      | ok _ =>
        rintro path ⟨⟩
        exact ⟨rfl, fun _ => hfile⟩

theorem QueryTask.run_establishes (task : QueryTask) :
    (task.run context).Establishes Session.IsGrounded Session.Extends
      ((Task.query task).Yields context) s := by
  unfold run
  dsimp only
  rw [establishes_bind]
  refine openArtifact_establishes.mono fun outcome t hopened => ?_
  cases outcome with
  | error fault => exact Task.yields_error _ _ _ _
  | ok place =>
    -- What follows is the query and the writing, after which the path is returned.
    have hrest : (do
        let text ← task.answer context
        writeArtifact place [task.header, text]
          (notWritten task.label (context.artifactPath task.output)) : Action Unit).Establishes
            Session.IsGrounded Session.Extends
            (fun _ t => t.host.disk.isFile (context.artifactPath task.output) = true) t :=
      establishes_isFile (hopened place rfl)
    dsimp only
    rw [← bind_assoc, establishes_bind]
    refine hrest.mono fun outcome t hfile => ?_
    cases outcome with
    | error fault => exact Task.yields_error _ _ _ _
    | ok _ =>
      rintro path ⟨⟩
      exact ⟨rfl, fun _ => hfile⟩

theorem CaptureTask.run_establishes {task : CaptureTask} (hstart : task.start.ownFile = true)
    (hstop : task.stop.ownFile = true) :
    (task.run context).Establishes Session.IsGrounded Session.Extends
      ((Task.capture task).Yields context) s := by
  have hopens : (Task.capture task).opens = false := by
    show (!task.start.ownFile || !task.stop.ownFile) = false
    rw [hstart, hstop]
    rfl
  -- The end of the stop phase is the end of the capture, and it is about the same artifact.
  have hrest : ∀ {s : Session}, (do
      wait task.dwell
      task.stop.run context : Action Path).Establishes Session.IsGrounded Session.Extends
        ((Task.capture task).Yields context) s := by
    intro s
    rw [establishes_bind]
    refine establishes_of_forall fun outcome t => ?_
    cases outcome with
    | error fault => exact Task.yields_error _ _ _ _
    | ok _ =>
      refine task.stop.run_establishes.mono fun outcome u hyields path hpath => ?_
      refine ⟨(hyields path hpath).1, fun h => ?_⟩
      rw [hopens] at h
      cases h
  unfold run
  rw [establishes_bind, establishes_attempt]
  refine establishes_of_forall fun outcome t => ?_
  rcases outcome with (e | _ | _ | _ | _ | _ | _) | _
  case error.task =>
    show (context.report e _ >>= fun _ => _).Establishes _ _ _ _
    rw [establishes_bind]
    refine establishes_of_forall fun outcome t => ?_
    cases outcome with
    | error fault => exact Task.yields_error _ _ _ _
    | ok _ => exact hrest
  case ok => exact hrest
  all_goals exact Task.yields_error _ _ _ _

/-- **What a task returns.** -/
theorem Task.run_establishes {task : Task} (h : task.IsCatalogued) :
    (task.run context).Establishes Session.IsGrounded Session.Extends (task.Yields context) s := by
  cases task with
  | process task => exact task.run_establishes
  | query task => exact task.run_establishes
  | capture task => exact CaptureTask.run_establishes h.1 h.2.1
  | stub output fault => exact h.elim

/-! ## What a group lists -/

/-- A path is that of the artifact of one of these tasks, and names a file if the task opened it. -/
def IsYieldOf (context : Context) (tasks : List Task) (path : Path) (s : Session) : Prop :=
  ∃ task ∈ tasks, path = context.artifactPath task.output ∧
    (task.opens = true → s.host.disk.isFile path = true)

theorem IsYieldOf.of_extends {tasks : List Task} {path : Path} {t : Session} (hst : s.Extends t)
    (h : IsYieldOf context tasks path s) : IsYieldOf context tasks path t := by
  obtain ⟨task, htask, hpath, hfile⟩ := h
  exact ⟨task, htask, hpath, fun hopens => Disk.Extends.isFile hst (hfile hopens)⟩

theorem Task.runRecorded_establishes {task : Task} (h : task.IsCatalogued) :
    (task.runRecorded context).Establishes Session.IsGrounded Session.Extends
      (fun outcome t => ∀ path, outcome = .ok (some path) → IsYieldOf context [task] path t) s := by
  unfold Task.runRecorded
  rw [establishes_bind, establishes_attempt]
  refine (Task.run_establishes h).mono fun outcome t hyields => ?_
  rcases outcome with (e | _ | _ | _ | _ | _ | _) | returned
  case ok =>
    rintro path ⟨⟩
    exact ⟨task, List.mem_singleton_self task, hyields returned rfl⟩
  -- A failure is recorded and nothing is returned.
  all_goals
    intro u _ _ path hpath
    cases hpath

theorem runAll_establishes {tasks : List Task} (h : ∀ task ∈ tasks, task.IsCatalogued) :
    (runAll context tasks).Establishes Session.IsGrounded Session.Extends
      (fun outcome t => ∀ paths, outcome = .ok paths →
        ∀ path ∈ paths, IsYieldOf context tasks path t) s := by
  induction tasks generalizing s with
  | nil =>
    rintro paths ⟨⟩ path hpath
    cases hpath
  | cons task tasks ih =>
    unfold runAll
    rw [establishes_bind]
    have htask := h task List.mem_cons_self
    refine (Task.runRecorded_establishes htask).mono fun outcome t hfirst => ?_
    cases outcome with
    | error fault =>
      intro paths hpaths
      cases hpaths
    | ok returned =>
      dsimp only
      rw [establishes_bind]
      -- What the first task has returned stays as it is while the others run.
      have hkept := (ih fun task htask => h task (List.mem_cons_of_mem _ htask)).frame
        (P := fun u => ∀ path ∈ returned.toList, IsYieldOf context [task] path u) (s := t)
        (fun path hpath => hfirst path (congrArg Except.ok (Option.mem_toList.mp hpath)))
        (fun hextends hyields path hpath => (hyields path hpath).of_extends hextends)
        (fun r hground hyields path hpath =>
          (hyields path hpath).of_extends (Session.extends_answer hground r))
      refine hkept.mono fun outcome u hboth => ?_
      cases outcome with
      | error fault =>
        intro paths hpaths
        cases hpaths
      | ok rest =>
        rintro paths ⟨⟩ path hpath
        rcases List.mem_append.mp hpath with hpath | hpath
        · obtain ⟨other, hother, hyield⟩ := hboth.2 path hpath
          exact ⟨other, List.mem_cons.mpr (Or.inl (List.mem_singleton.mp hother)), hyield⟩
        · obtain ⟨other, hother, hyield⟩ := hboth.1 rest rfl path hpath
          exact ⟨other, List.mem_cons_of_mem _ hother, hyield⟩

/-- What a group of tasks lists. -/
def Group.Lists (context : Context) (group : Group) (outcome : Except Fault GroupResult)
    (s : Session) : Prop :=
  ∀ tasks, group.work = .tasks tasks → ∀ result, outcome = .ok result →
    ∀ path ∈ result.artifacts, IsYieldOf context tasks path s

theorem Group.Lists.of_extends {group : Group} {outcome : Except Fault GroupResult} {t : Session}
    (hst : s.Extends t) (h : group.Lists context outcome s) : group.Lists context outcome t :=
  fun tasks hwork result hresult path hpath =>
    (h tasks hwork result hresult path hpath).of_extends hst

theorem Group.gather_establishes {group : Group} (h : group.IsCatalogued) :
    (group.gather context).Establishes Session.IsGrounded Session.Extends (group.Lists context)
      s := by
  unfold Group.gather
  unfold Group.IsCatalogued at h
  cases hwork : group.work with
  | tasks tasks =>
    rw [hwork] at h
    dsimp only
    rw [establishes_bind]
    refine (runAll_establishes h).mono fun outcome t hyields => ?_
    cases outcome with
    | error fault =>
      intro _ _ result hresult
      cases hresult
    | ok paths =>
      rintro others hothers result ⟨⟩ path hpath
      rw [hwork] at hothers
      cases hothers
      exact hyields paths rfl path hpath
  | roots roots =>
    refine establishes_of_forall fun outcome t tasks htasks => ?_
    rw [hwork] at htasks
    cases htasks
  | broken fault =>
    rw [hwork] at h
    exact h.elim

end

end Diagnostics
