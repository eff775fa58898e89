import Diagnostics.Proofs.Guarantee
import Diagnostics.Proofs.Task.Attempts
import Diagnostics.Group

/-!
# What a group does to a session

A task opens its artifact, if that is not left to its program, and writes to what it has opened,
starts its programs, asks for its class, and records failures that are attributed to its group. It
does nothing else, whatever the machine answers and whatever other groups do meanwhile. `Task.Makes`
says so request by request, and `Task.Times` says how long its programs may run and how long it
waits. `Task.run_guarantees` proves both along the task's run.

A group makes the requests of its tasks, or walks its roots (`Group.Admits`), and so does
`gather_guarantees` say, together with how a group ends: a result has the group's name, and a group
that ends with a fault has recorded before only what its work reports by itself.
-/

set_option autoImplicit false

namespace Diagnostics

open Diagnostics.Action

/-- The program that queries are put with. -/
def Backend.programs : Backend → List Text
  | .service => []
  | .cim powershell _ => [powershell]

/-- What the query service is asked for. -/
def Backend.classes (backend : Backend) (className : Text) : List Text :=
  match backend with
  | .service => [className]
  | .cim _ _ => []

/-- The limit that queries are put with. -/
def Backend.timeouts : Backend → List (Option Binary64)
  | .service => []
  | .cim _ timeout => [timeout]

def Task.programs (context : Context) : Task → List Text
  | .process task => [task.executable]
  | .query _ => context.backend.programs
  | .capture task => [task.start.executable, task.stop.executable]
  | .stub _ _ => []

def Task.classes (context : Context) : Task → List Text
  | .query task => context.backend.classes task.className
  | _ => []

/-- The programs that a task starts by itself, in their order. -/
def Task.processes : Task → List ProcessTask
  | .process task => [task]
  | .capture task => [task.start, task.stop]
  | .query _ => []
  | .stub _ _ => []

/-- The limits that a task starts programs with. -/
def Task.timeouts (context : Context) : Task → List (Option Binary64)
  | .query _ => context.backend.timeouts
  | task => task.processes.map ProcessTask.timeout

/-- How long a task can wait at a time. A query that is put again at once does not wait. -/
def Task.waits (context : Context) : Task → List Binary64
  | .query _ => if 0 < context.retryDelay then [context.retryDelay] else []
  | .capture task => [task.dwell]
  | _ => []

/-- Whether a task opens its artifact, in one phase at least, and does not leave that to its
programs. -/
def Task.opens : Task → Bool
  | .process task => !task.ownFile
  | .query _ => true
  | .capture task => !task.start.ownFile || !task.stop.ownFile
  | .stub _ _ => true

/-- Whether a request is one that a task makes, which writes to such places only. -/
def Task.Makes (task : Task) (context : Context) (here : Location → Prop) : Request → Prop
  | .openFile path => task.opens = true ∧ path = context.artifactPath task.output
  | .closeFile place _ => here place
  | .start argv _ redirect =>
    argv.headD "" ∈ task.programs context ∧ ∀ place, redirect = .file place → here place
  | .query className _ => className ∈ task.classes context
  | .wait _ => True
  | .record failure => failure.group = context.group
  | .ensureDirectories _ => False
  | .collect _ => False
  | .recorded => False

/-- Whether a request takes as long as the task says. -/
def Task.Times (task : Task) (context : Context) : Request → Prop
  | .start _ timeout _ => timeout ∈ task.timeouts context
  | .wait seconds => seconds ∈ task.waits context
  | _ => True

/-- A request of a task, which takes as long as the task says. -/
structure Task.Asks (task : Task) (context : Context) (here : Location → Prop) (r : Request) :
    Prop where
  makes : task.Makes context here r
  times : task.Times context r

namespace Group

def tasks (group : Group) : List Task :=
  match group.work with
  | .tasks tasks => tasks
  | _ => []

theorem tasks_of_work {group : Group} {tasks : List Task} (h : group.work = .tasks tasks) :
    group.tasks = tasks := by
  unfold Group.tasks
  rw [h]

def outputs (group : Group) : List Text :=
  group.tasks.map Task.output

def programs (group : Group) (context : Context) : List Text :=
  group.tasks.flatMap (Task.programs context)

def classes (group : Group) (context : Context) : List Text :=
  group.tasks.flatMap (Task.classes context)

/-- The limits that the tasks of a group start programs with. -/
def timeouts (group : Group) (context : Context) : List (Option Binary64) :=
  group.tasks.flatMap (Task.timeouts context)

/-- The times that the tasks of a group can wait for. -/
def waits (group : Group) (context : Context) : List Binary64 :=
  group.tasks.flatMap (Task.waits context)

/-- What a group reports by itself before it ends with a fault: the errors of work that breaks. -/
def announced (group : Group) : List Failure :=
  match group.work with
  | .broken reported _ => reported.map (·.toFailure group.name none)
  | _ => []

/-- Whether a request is one that a group makes, which writes to such places only. -/
def Admits (group : Group) (context : Context) (here : Location → Prop) : Request → Prop
  | .openFile path => ∃ output ∈ group.outputs, path = context.artifactPath output
  | .closeFile place _ => here place
  | .ensureDirectories _ => False
  | .collect roots => group.work = .roots roots
  | .start argv _ redirect =>
    argv.headD "" ∈ group.programs context ∧ ∀ place, redirect = .file place → here place
  | .query className _ => className ∈ group.classes context
  | .wait seconds => seconds ∈ group.waits context
  | .record failure => failure.group = group.name
  | .recorded => False

end Group

/-- Opening the artifact of a task gives places of this kind only. -/
def Task.OpensAt (task : Task) (context : Context) (inv : Session → Prop)
    (here : Location → Prop) : Prop :=
  task.opens = true → ∀ s, inv s → ∀ place disk,
    s.host.disk.openForWriting (context.artifactPath task.output) = .ok (place, disk) → here place

/-- Opening the artifacts of a group gives places of this kind only. -/
def Group.OpensAt (group : Group) (context : Context) (inv : Session → Prop)
    (here : Location → Prop) : Prop :=
  ∀ s, inv s → ∀ output ∈ group.outputs, ∀ place disk,
    s.host.disk.openForWriting (context.artifactPath output) = .ok (place, disk) → here place

/-- What a task asks for is admitted to its group. -/
theorem Task.Asks.admits {group : Group} {task : Task} {context : Context}
    {here : Location → Prop} {r : Request} (h : task.Asks context here r)
    (htask : task ∈ group.tasks) (hname : context.group = group.name) :
    group.Admits context here r := by
  obtain ⟨hmakes, htimes⟩ := h
  cases r with
  | openFile path => exact ⟨task.output, List.mem_map_of_mem htask, hmakes.2⟩
  | closeFile place octets => exact hmakes
  | start argv timeout redirect => exact ⟨List.mem_flatMap.mpr ⟨task, htask, hmakes.1⟩, hmakes.2⟩
  | query className namespaceName => exact List.mem_flatMap.mpr ⟨task, htask, hmakes⟩
  | wait seconds => exact List.mem_flatMap.mpr ⟨task, htask, htimes⟩
  | record failure => exact hmakes.trans hname
  | ensureDirectories path => exact hmakes.elim
  | collect roots => exact hmakes.elim
  | recorded => exact hmakes.elim

section

variable {context : Context} {inv : Session → Prop} {allowed : Request → Prop}
  {here : Location → Prop} {past : List Failure}

/-! ## What the parts of a task do -/

theorem openFile_guarantees {post : List Failure → Except Fault Location → Prop} {path : Path}
    (hallowed : allowed (.openFile path))
    (hopen : ∀ s, inv s → ∀ place disk, s.host.disk.openForWriting path = .ok (place, disk) →
      here place)
    (hok : ∀ place, here place → post past (.ok place))
    (herr : ∀ fault, post past (.error fault)) :
    (openFile path).Guarantees inv allowed post past := by
  unfold openFile
  rw [guarantees_silent rfl]
  refine ⟨hallowed, fun s hs => ?_⟩
  cases h : s.host.disk.openForWriting path with
  | ok opened =>
    obtain ⟨place, disk⟩ := opened
    have hanswer : (s.answer (.openFile path)).1 = .ok place := by
      simp only [Session.answer, h]
    rw [hanswer]
    exact hok place (hopen s hs place disk h)
  | error e =>
    have hanswer : (s.answer (.openFile path)).1 = .error e.toFault := by
      simp only [Session.answer, h]
    rw [hanswer]
    exact herr e.toFault

theorem openArtifact_guarantees {post : List Failure → Except Fault Location → Prop}
    {label : Text} {path : Path} (hallowed : allowed (.openFile path))
    (hopen : ∀ s, inv s → ∀ place disk, s.host.disk.openForWriting path = .ok (place, disk) →
      here place)
    (hok : ∀ place, here place → post past (.ok place))
    (herr : ∀ fault, post past (.error fault)) :
    (openArtifact label path).Guarantees inv allowed post past := by
  unfold openArtifact
  rw [guarantees_bind, guarantees_attempt]
  refine openFile_guarantees hallowed hopen hok fun fault => ?_
  cases fault
  all_goals exact herr _

theorem writeArtifact_guarantees {post : List Failure → Except Fault Unit → Prop}
    {place : Location} (hallowed : ∀ octets, allowed (.closeFile place octets)) (texts : List Text)
    (refused : OsFault → Fault) (hpost : ∀ outcome, post past outcome) :
    (writeArtifact place texts refused).Guarantees inv allowed post past := by
  unfold writeArtifact
  dsimp only
  rw [guarantees_silent rfl]
  refine ⟨hallowed _, fun s _ => ?_⟩
  cases (s.answer (.closeFile place (Text.Utf8.encodeUntil texts).1)).1
  · exact hpost _
  · cases (Text.Utf8.encodeUntil texts).2
    · exact hpost _
    · exact hpost _

theorem ProcessTask.execute_guarantees {task : ProcessTask}
    {post : List Failure → Except Fault Unit → Prop} {argv : List Text} {redirect : Redirect}
    (hallowed : allowed (.start argv task.timeout redirect))
    (hpost : ∀ outcome, post past outcome) :
    (task.execute argv redirect).Guarantees inv allowed post past := by
  unfold execute
  rw [guarantees_bind, guarantees_attempt]
  unfold start
  rw [guarantees_silent rfl]
  refine ⟨hallowed, fun s _ => ?_⟩
  rcases (s.answer (.start argv task.timeout redirect)).1 with
    (_ | _ | _ | _ | _ | _ | _ | _) | (code | _)
  case ok.exited =>
    rw [guarantees_done]
    dsimp only
    split
    · exact hpost _
    · exact hpost _
  all_goals exact hpost _

theorem wait_guarantees {post : List Failure → Except Fault Unit → Prop} {seconds : Binary64}
    (hallowed : allowed (.wait seconds)) (hpost : ∀ outcome, post past outcome) :
    (wait seconds).Guarantees inv allowed post past := by
  unfold wait
  rw [guarantees_silent rfl]
  exact ⟨hallowed, fun _ _ => hpost _⟩

/-- Putting a query starts the program for it or asks the service. -/
theorem ask_guarantees {post : List Failure → Except Fault Text → Prop} {backend : Backend}
    {className namespaceName : Text}
    (hstart : ∀ argv, argv.headD "" ∈ backend.programs → ∀ timeout ∈ backend.timeouts,
      allowed (.start argv timeout .capture))
    (hquery : ∀ c ∈ backend.classes className, allowed (.query c namespaceName))
    (hpost : ∀ outcome, post past outcome) :
    (backend.ask className namespaceName).Guarantees inv allowed post past := by
  cases backend with
  | service =>
    show (query className namespaceName).Guarantees _ _ _ _
    unfold query
    rw [guarantees_silent rfl]
    exact ⟨hquery _ List.mem_cons_self, fun s _ => hpost _⟩
  | cim powershell timeout =>
    show (Cim.ask powershell timeout className namespaceName).Guarantees _ _ _ _
    unfold Cim.ask start
    rw [guarantees_bind, guarantees_attempt, guarantees_silent rfl]
    refine ⟨hstart _ List.mem_cons_self _ List.mem_cons_self, fun s _ => ?_⟩
    generalize (s.answer (.start (Cim.argv powershell className namespaceName) timeout
      .capture)).1 = ending
    rcases ending with (_ | _ | fault | _ | _ | _ | _ | _) | (code | _)
    case error.os =>
      rw [guarantees_done]
      dsimp only
      split
      · exact hpost _
      · exact hpost _
    case ok.exited =>
      rw [guarantees_done]
      dsimp only
      split
      · exact hpost _
      · exact hpost _
    all_goals exact hpost _

/-! ## What each kind of task does -/

theorem ProcessTask.run_guarantees {task : ProcessTask}
    {post : List Failure → Except Fault Path → Prop}
    (hopen : (Task.process task).OpensAt context inv here)
    (hok : post past (.ok (context.artifactPath task.output)))
    (herr : ∀ fault, post past (.error fault)) :
    (task.run context).Guarantees inv ((Task.process task).Asks context here) post past := by
  unfold run
  dsimp only
  cases hown : task.ownFile with
  | true =>
    rw [if_pos rfl, guarantees_bind]
    refine execute_guarantees ⟨⟨List.mem_cons_self, by simp⟩, List.mem_cons_self⟩ fun outcome => ?_
    cases outcome with
    | error fault => exact herr fault
    | ok _ => exact hok
  | false =>
    have hopens : (Task.process task).opens = true := by
      show (!task.ownFile) = true
      rw [hown]
      rfl
    rw [if_neg Bool.false_ne_true, guarantees_bind]
    refine openArtifact_guarantees ⟨⟨hopens, rfl⟩, trivial⟩ (hopen hopens)
      (fun place hplace => ?_) herr
    dsimp only
    rw [guarantees_bind]
    refine execute_guarantees ⟨⟨List.mem_cons_self, ?_⟩, List.mem_cons_self⟩ fun outcome => ?_
    · rintro _ ⟨⟩
      exact hplace
    · cases outcome with
      | error fault => exact herr fault
      | ok _ => exact hok

namespace QueryTask

variable {task : QueryTask}

theorem askAgain_guarantees {post : List Failure → Except Fault Text → Prop}
    (hpost : ∀ outcome, post past outcome) (retries : Nat) :
    (task.askAgain context retries).Guarantees inv ((Task.query task).Asks context here) post
      past := by
  have hask : ∀ {post : List Failure → Except Fault Text → Prop},
      (∀ outcome, post past outcome) →
        (task.ask context).Guarantees inv ((Task.query task).Asks context here) post past :=
    fun hpost => ask_guarantees (fun _ hprogram _ htimeout => ⟨⟨hprogram, by simp⟩, htimeout⟩)
      (fun _ hclass => ⟨hclass, trivial⟩) hpost
  induction retries with
  | zero =>
    rw [askAgain_zero, guarantees_bind, guarantees_attempt]
    exact hask fun outcome => hpost _
  | succ retries ih =>
    -- A failed attempt is followed by a wait, if there is a delay, and by the other attempts.
    have hagain : (context.pause >>= fun _ => task.askAgain context retries).Guarantees inv
        ((Task.query task).Asks context here) post past := by
      unfold Context.pause
      split
      case isTrue hdelay =>
        have hwait : context.retryDelay ∈ (Task.query task).waits context := by
          unfold Task.waits
          rw [if_pos hdelay]
          exact List.mem_cons_self
        rw [guarantees_bind]
        refine wait_guarantees ⟨trivial, hwait⟩ fun outcome => ?_
        cases outcome with
        | error fault => exact hpost _
        | ok _ => exact ih
      case isFalse => exact ih
    rw [askAgain_succ, guarantees_bind, guarantees_attempt]
    refine hask fun outcome => ?_
    cases outcome with
    | ok text => exact hpost _
    | error fault =>
      dsimp only
      split
      · exact hagain
      · exact hpost _

theorem run_guarantees {post : List Failure → Except Fault Path → Prop}
    (hopen : (Task.query task).OpensAt context inv here)
    (hok : post past (.ok (context.artifactPath task.output)))
    (herr : ∀ fault, post past (.error fault)) :
    (task.run context).Guarantees inv ((Task.query task).Asks context here) post past := by
  unfold run
  dsimp only
  rw [guarantees_bind]
  refine openArtifact_guarantees ⟨⟨rfl, rfl⟩, trivial⟩ (hopen rfl) (fun place hplace => ?_) herr
  dsimp only
  rw [guarantees_bind]
  refine askAgain_guarantees (fun outcome => ?_) _
  cases outcome with
  | error fault => exact herr fault
  | ok text =>
    dsimp only
    rw [guarantees_bind]
    refine writeArtifact_guarantees (fun _ => ⟨hplace, trivial⟩) _ _ fun outcome => ?_
    cases outcome with
    | error fault => exact herr fault
    | ok _ => exact hok

end QueryTask

theorem report_guarantees {post : List Failure → Except Fault Unit → Prop} (e : TaskError)
    (kind : Option FailureKind)
    (hallowed : ∀ failure : Failure, failure.group = context.group → allowed (.record failure))
    (hpost : ∀ past outcome, post past outcome) :
    (context.report e kind).Guarantees inv allowed post past := by
  unfold Context.report
  rw [guarantees_recordFailure]
  exact ⟨hallowed _ rfl, fun _ => hpost _ _⟩

namespace CaptureTask

variable {task : CaptureTask}

/-- What the start phase asks for, the capture asks for. -/
theorem asks_start {r : Request} (h : (Task.process task.start).Asks context here r) :
    (Task.capture task).Asks context here r := by
  obtain ⟨hmakes, htimes⟩ := h
  cases r with
  | openFile path =>
    refine ⟨⟨Bool.or_eq_true_iff.mpr (Or.inl hmakes.1), ?_⟩, trivial⟩
    exact hmakes.2.trans (congrArg context.artifactPath task.sameOutput)
  | start argv timeout redirect =>
    exact ⟨⟨List.mem_cons.mpr (Or.inl (List.mem_singleton.mp hmakes.1)), hmakes.2⟩,
      List.mem_cons.mpr (Or.inl (List.mem_singleton.mp htimes))⟩
  | query className namespaceName => exact absurd hmakes List.not_mem_nil
  | wait seconds => exact absurd htimes List.not_mem_nil
  | _ => exact ⟨hmakes, trivial⟩

/-- What the stop phase asks for, the capture asks for. -/
theorem asks_stop {r : Request} (h : (Task.process task.stop).Asks context here r) :
    (Task.capture task).Asks context here r := by
  obtain ⟨hmakes, htimes⟩ := h
  cases r with
  | openFile path => exact ⟨⟨Bool.or_eq_true_iff.mpr (Or.inr hmakes.1), hmakes.2⟩, trivial⟩
  | start argv timeout redirect =>
    exact ⟨⟨List.mem_cons_of_mem _ hmakes.1, hmakes.2⟩, List.mem_cons_of_mem _ htimes⟩
  | query className namespaceName => exact absurd hmakes List.not_mem_nil
  | wait seconds => exact absurd htimes List.not_mem_nil
  | _ => exact ⟨hmakes, trivial⟩

theorem run_guarantees {post : List Failure → Except Fault Path → Prop}
    (hopen : (Task.capture task).OpensAt context inv here)
    (hok : ∀ past, post past (.ok (context.artifactPath task.stop.output)))
    (herr : ∀ past fault, post past (.error fault)) :
    (task.run context).Guarantees inv ((Task.capture task).Asks context here) post past := by
  have hopenStart : (Task.process task.start).OpensAt context inv here := by
    intro hopens s hs place disk hopened
    refine hopen (Bool.or_eq_true_iff.mpr (Or.inl hopens)) s hs place disk ?_
    rw [← hopened]
    exact congrArg (s.host.disk.openForWriting <| context.artifactPath ·) task.sameOutput.symm
  have hopenStop : (Task.process task.stop).OpensAt context inv here :=
    fun hopens => hopen (Bool.or_eq_true_iff.mpr (Or.inr hopens))
  -- After a start phase that is stepped over come the wait and the stop phase.
  have hrest : ∀ past, (do
      wait task.dwell
      task.stop.run context : Action Path).Guarantees inv ((Task.capture task).Asks context here)
        post past := by
    intro past
    rw [guarantees_bind]
    refine wait_guarantees ⟨trivial, List.mem_cons_self⟩ fun outcome => ?_
    cases outcome with
    | error fault => exact herr _ _
    | ok _ => exact (ProcessTask.run_guarantees hopenStop (hok _) (herr _)).weaken fun _ => asks_stop
  unfold run
  rw [guarantees_bind, guarantees_attempt]
  refine (ProcessTask.run_guarantees hopenStart (hrest _) fun fault => ?_).weaken
    fun _ => asks_start
  cases fault with
  -- Only an error of the task is stepped over; it is recorded first.
  | task e =>
    show (context.report e _ >>= fun _ => _).Guarantees _ _ _ _
    rw [guarantees_bind]
    exact report_guarantees e _ (fun _ hfailure => ⟨hfailure, trivial⟩) fun past outcome => by
      cases outcome with
      | ok => exact hrest past
      | error => exact herr _ _
  | _ => exact herr _ _

end CaptureTask

theorem runStub_guarantees {post : List Failure → Except Fault Path → Prop} {output : Text}
    {fault : Option Fault} (hopen : (Task.stub output fault).OpensAt context inv here)
    (hok : post past (.ok (context.artifactPath output)))
    (herr : ∀ fault, post past (.error fault)) :
    (runStub output fault context).Guarantees inv ((Task.stub output fault).Asks context here) post
      past := by
  unfold runStub
  cases fault with
  | some fault => exact herr fault
  | none =>
    dsimp only
    rw [guarantees_bind]
    refine openFile_guarantees ⟨⟨rfl, rfl⟩, trivial⟩ (hopen rfl) (fun place hplace => ?_) herr
    dsimp only
    rw [guarantees_bind]
    refine writeArtifact_guarantees (fun _ => ⟨hplace, trivial⟩) _ _ fun outcome => ?_
    cases outcome with
    | error fault => exact herr fault
    | ok _ => exact hok

/-- **What a task does.** Whatever else happens to the session meanwhile, a task makes only requests
that are its own and take as long as it says, and what it returns is the path of its artifact. -/
theorem Task.run_guarantees {post : List Failure → Except Fault Path → Prop} {task : Task}
    (hopen : task.OpensAt context inv here)
    (hok : ∀ past, post past (.ok (context.artifactPath task.output)))
    (herr : ∀ past fault, post past (.error fault)) :
    (task.run context).Guarantees inv (task.Asks context here) post past := by
  cases task with
  | process task => exact task.run_guarantees hopen (hok _) (herr _)
  | query task => exact task.run_guarantees hopen (hok _) (herr _)
  | capture task => exact task.run_guarantees hopen hok herr
  | stub output fault => exact runStub_guarantees hopen (hok _) (herr _)

/-- A task whose failure is recorded has no fault left to end with. -/
theorem Task.runRecorded_guarantees {post : List Failure → Except Fault (Option Path) → Prop}
    {task : Task} (hopen : task.OpensAt context inv here)
    (hsome : ∀ past, post past (.ok (some (context.artifactPath task.output))))
    (hnone : ∀ past, post past (.ok none)) :
    (task.runRecorded context).Guarantees inv (task.Asks context here) post past := by
  unfold Task.runRecorded
  rw [guarantees_bind, guarantees_attempt]
  have hfailed : ∀ (past : List Failure) (failure : Failure), failure.group = context.group → (do
      recordFailure failure
      return none : Action (Option Path)).Guarantees inv (task.Asks context here) post past := by
    intro past failure hfailure
    rw [guarantees_bind, guarantees_recordFailure]
    exact ⟨⟨hfailure, trivial⟩, fun _ => hnone _⟩
  refine Task.run_guarantees hopen hsome fun past fault => ?_
  cases fault
  all_goals exact hfailed _ _ rfl

/-! ## What a group does -/

/-- Tasks one after another ask for what each asks for. -/
theorem runAll_guarantees {post : List Failure → Except Fault (List Path) → Prop}
    {tasks : List Task} (hopen : ∀ task ∈ tasks, task.OpensAt context inv here)
    (hasks : ∀ task ∈ tasks, ∀ r, task.Asks context here r → allowed r)
    (hpost : ∀ past paths, post past (.ok paths)) :
    (runAll context tasks).Guarantees inv allowed post past := by
  induction tasks generalizing past post with
  | nil => exact hpost _ _
  | cons task tasks ih =>
    unfold runAll
    rw [guarantees_bind]
    -- Whatever a task has returned, the others follow.
    have hrest : ∀ (past : List Failure) (path : Option Path), (do
        let paths ← runAll context tasks
        return path.toList ++ paths : Action (List Path)).Guarantees inv allowed post past := by
      intro past path
      rw [guarantees_bind]
      exact ih (fun task htask => hopen task (List.mem_cons_of_mem _ htask))
        (fun task htask => hasks task (List.mem_cons_of_mem _ htask)) fun past paths => hpost _ _
    exact (Task.runRecorded_guarantees (hopen task List.mem_cons_self) (fun _ => hrest _ _)
      fun _ => hrest _ _).weaken (hasks task List.mem_cons_self)

/-- Errors are recorded in their order, whatever happens between two of them. -/
theorem reportAll_guarantees {post : List Failure → Except Fault Unit → Prop}
    (hallowed : ∀ failure : Failure, failure.group = context.group → allowed (.record failure))
    (errors : List TaskError)
    (hpost : post (past ++ errors.map (·.toFailure context.group none)) (.ok ())) :
    (context.reportAll errors).Guarantees inv allowed post past := by
  induction errors generalizing past with
  | nil =>
    rw [List.map_nil, List.append_nil] at hpost
    exact hpost
  | cons e errors ih =>
    unfold Context.reportAll
    rw [guarantees_bind]
    unfold Context.report
    rw [guarantees_recordFailure]
    refine ⟨hallowed _ rfl, fun _ => ih ?_⟩
    simpa using hpost

/-- How a group ends: what it gives has its name, and before a fault it has recorded what it reports
by itself and nothing else. -/
def Group.Ends (group : Group) (past : List Failure) (outcome : Except Fault GroupResult) : Prop :=
  (∀ result, outcome = .ok result → result.name = group.name) ∧
    ∀ fault, outcome = .error fault → past = group.announced

/-- A group asks for what its tasks ask for, or walks its roots and records what it met there, or
records what it reports by itself. -/
theorem Group.gather_guarantees_of_asks {group : Group} (hname : context.group = group.name)
    (hopen : ∀ task ∈ group.tasks, task.OpensAt context inv here)
    (hasks : ∀ task ∈ group.tasks, ∀ r, task.Asks context here r → allowed r)
    (hcollect : ∀ roots, group.work = .roots roots → allowed (.collect roots))
    (hrecord : ∀ failure : Failure, failure.group = context.group → allowed (.record failure)) :
    (group.gather context).Guarantees inv allowed group.Ends [] := by
  have hok : ∀ (past : List Failure) (paths : List Path),
      group.Ends past (.ok ⟨group.name, paths⟩) := by
    intro past paths
    exact ⟨fun result hresult => by rw [← Except.ok.inj hresult], fun _ hfault => nomatch hfault⟩
  have herr : ∀ {past : List Failure}, past = group.announced → ∀ fault : Fault,
      group.Ends past (.error fault) := by
    intro past hpast fault
    exact ⟨fun _ hresult => (nomatch hresult), fun _ _ => hpast⟩
  unfold gather
  cases hwork : group.work with
  | broken reported fault =>
    have hannounced : group.announced = reported.map (·.toFailure group.name none) := by
      unfold announced
      rw [hwork]
    dsimp only
    rw [guarantees_bind]
    refine reportAll_guarantees hrecord reported (herr ?_ fault)
    rw [hannounced, hname, List.nil_append]
  | tasks tasks =>
    rw [tasks_of_work hwork] at hopen hasks
    dsimp only
    rw [guarantees_bind]
    exact runAll_guarantees hopen hasks fun past paths => hok past paths
  | roots roots =>
    have hannounced : [] = group.announced := by
      unfold announced
      rw [hwork]
    dsimp only
    rw [guarantees_bind]
    unfold collectRoots collect
    rw [guarantees_bind, guarantees_silent rfl]
    refine ⟨hcollect roots hwork, fun s _ => ?_⟩
    cases (s.answer (.collect roots)).1 with
    | error fault => exact herr hannounced fault
    | ok found =>
      obtain ⟨paths, errors⟩ := found
      show (context.reportAll errors >>= fun _ => _).Guarantees _ _ _ _
      rw [guarantees_bind]
      exact reportAll_guarantees hrecord errors (hok _ paths)

/-- **What a group does.** Whatever else happens to the session meanwhile, a group makes only
requests that are its own, and ends as a group does. -/
theorem Group.gather_guarantees {group : Group} (hopen : group.OpensAt context inv here)
    (hname : context.group = group.name) :
    (group.gather context).Guarantees inv (group.Admits context here) group.Ends [] :=
  gather_guarantees_of_asks hname
    (fun task htask _ s hs => hopen s hs task.output (List.mem_map_of_mem htask))
    (fun _ htask _ hasks => hasks.admits htask hname)
    (fun _ hwork => hwork) fun _ hfailure => hfailure.trans hname

end

end Diagnostics
