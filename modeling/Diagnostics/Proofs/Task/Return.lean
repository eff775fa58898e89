import Diagnostics.Proofs.Catalog.Accepted
import Diagnostics.Proofs.FanOut.Accounting
import Diagnostics.Proofs.FanOut.Moments
import Diagnostics.Proofs.Interference

/-!
# When a task has returned

A group runs its tasks one after another. When one of them has returned its artifact, what is left
to the group is to run the others and to end with the artifacts so far and theirs
(`Group.remaining`). So the moment of a return can be told by the work that is left
(`Group.HasReturned`), and each artifact that a group ends with has such a moment
(`FanOut.exists_return`).
-/

set_option autoImplicit false

namespace Diagnostics

open Diagnostics.Action

/-- What a group does after some of its tasks: it runs the others and ends with all artifacts. -/
def Group.remaining (group : Group) (context : Context) (artifacts : List Path)
    (later : List Task) : Action GroupResult := do
  let paths ← runAll context later
  return ⟨group.name, artifacts ++ paths⟩

/-- This is the work that is left to a group when a task of it has just returned its artifact. -/
def Group.HasReturned (group : Group) (context : Context) (task : Task)
    (rest : Action GroupResult) : Prop :=
  ∃ earlier later artifacts, group.work = .tasks (earlier ++ task :: later) ∧
    rest = group.remaining (context.forGroup group.name)
      (artifacts ++ [context.artifactPath task.output]) later

/-- A task of a group has just returned its artifact. -/
def FanOut.HasReturned (f : FanOut) (context : Context) (group : Group) (task : Task) : Prop :=
  ∃ reported rest, .running group reported rest ∈ f.workers ∧ group.HasReturned context task rest

/-- A path is that of an artifact which a task of the group has just returned, if it is a group of
tasks. -/
def Group.Returns (context : Context) (group : Group) (rest : Action GroupResult) (path : Path) :
    Prop :=
  ∀ tasks, group.work = .tasks tasks →
    ∃ task, path = context.artifactPath task.output ∧ group.HasReturned context task rest

section

variable {context : Context} {group : Group}

theorem Group.gather_eq_remaining {tasks : List Task} (hwork : group.work = .tasks tasks) :
    group.gather context = group.remaining context [] tasks := by
  unfold gather remaining
  rw [hwork]
  rfl

theorem Group.remaining_cons (artifacts : List Path) (task : Task) (later : List Task) :
    group.remaining context artifacts (task :: later) =
      task.runRecorded context >>= fun path =>
        group.remaining context (artifacts ++ path.toList) later := by
  unfold remaining
  rw [runAll]
  simp only [bind_assoc, pure_bind, List.append_assoc]

/-- Whatever comes of the other tasks, the artifacts so far are among those that the group ends
with. -/
theorem Group.remaining_guarantees (artifacts : List Path) (later : List Task) :
    (group.remaining context artifacts later).Guarantees (fun _ => True) (fun _ => True)
      (fun _ outcome => ∃ result, outcome = .ok result ∧
        ∀ path ∈ artifacts, path ∈ result.artifacts) [] := by
  unfold remaining
  have hopen : ∀ task ∈ later, task.OpensAt context (fun _ => True) fun _ => True :=
    fun _ _ _ _ _ _ _ _ => trivial
  rw [guarantees_bind]
  refine runAll_guarantees hopen (fun _ _ _ _ => trivial) fun _ paths => ?_
  exact ⟨_, rfl, fun path hpath => List.mem_append_left paths hpath⟩

/-- Each task marks its return. -/
theorem Group.remaining_marks {tasks earlier later : List Task} {artifacts : List Path}
    {seen : Path → Prop} (hwork : group.work = .tasks tasks) (htasks : tasks = earlier ++ later)
    (hseen : ∀ path ∈ artifacts, seen path) :
    (group.remaining (context.forGroup group.name) artifacts later).Marks GroupResult.artifacts
      (group.Returns context) seen := by
  induction later generalizing earlier artifacts seen with
  | nil =>
    rintro result ⟨⟩ path hpath
    rw [List.append_nil] at hpath
    exact Or.inl (hseen path hpath)
  | cons task later ih =>
    have hothers : tasks = (earlier ++ [task]) ++ later := by
      rw [htasks, List.append_assoc]
      rfl
    have hopen : task.OpensAt (context.forGroup group.name) (fun _ => True) fun _ => True :=
      fun _ _ _ _ _ _ => trivial
    rw [remaining_cons]
    refine Marks.bind [] ((Task.runRecorded_guarantees hopen (fun past => ?_) fun past => ?_).weaken
      fun _ _ => trivial)
    · rintro _ ⟨⟩
      -- The artifact is returned now, and so it counts as seen from here on.
      refine Marks.of_mark (ih hothers fun path hpath => ?_)
      rcases List.mem_append.mp hpath with hpath | hpath
      · exact Or.inl (hseen path hpath)
      · refine Or.inr fun _ _ => ⟨task, List.mem_singleton.mp hpath, ?_⟩
        exact ⟨earlier, later, artifacts, by rw [hwork, htasks], rfl⟩
    · rintro _ ⟨⟩
      refine ih hothers fun path hpath => hseen path ?_
      rwa [Option.toList_none, List.append_nil] at hpath

theorem Group.gather_marks (h : group.IsCatalogued) :
    (group.gather (context.forGroup group.name)).Marks GroupResult.artifacts
      (group.Returns context) fun _ => False := by
  cases hwork : group.work with
  | tasks tasks =>
    rw [gather_eq_remaining hwork]
    exact remaining_marks hwork (List.nil_append tasks).symm fun _ hpath => nomatch hpath
  | roots roots =>
    refine marks_of_forall fun rest path tasks htasks => ?_
    rw [hwork] at htasks
    cases htasks
  | broken fault =>
    unfold IsCatalogued at h
    rw [hwork] at h
    exact h.elim

end

namespace FanOut

variable {context : Context} {limit : Nat} {selected : List Group} {s : Session} {f g : FanOut}
  {group : Group} {task : Task}

/-- **Each artifact that a group of tasks ends with was returned by one of them**, at some moment of
the run. -/
theorem exists_return (hselected : ∀ group ∈ selected, group.IsCatalogued)
    (h : Steps context limit (initial selected s) g) {j : Joined} (hj : j ∈ g.joined)
    {result : GroupResult} (hresult : j.outcome = .ok result) {tasks : List Task}
    (hwork : j.group.work = .tasks tasks) {path : Path} (hpath : path ∈ result.artifacts) :
    ∃ task f, path = context.artifactPath task.output ∧ Steps context limit (initial selected s) f ∧
      Steps context limit f g ∧ f.HasReturned context j.group task := by
  obtain ⟨f, reported, rest, hbefore, hafter, hmem, hreturns⟩ :=
    exists_moment (fun group hgroup => Group.gather_marks (hselected group hgroup)) h hj hresult
      hpath
  obtain ⟨task, hartifact, hreturned⟩ := hreturns tasks hwork
  exact ⟨task, f, hartifact, hbefore, hafter, reported, rest, hmem, hreturned⟩

/-- **What was returned is listed.** Whatever comes of the others, the artifact that a task has
returned is among those that its group ends with. -/
theorem HasReturned.exists_joined {past : List Failure} (hf : Consistent context selected past f)
    (hnames : (selected.map Group.name).Nodup) (hreturned : f.HasReturned context group task)
    (h : Steps context limit f g) (hg : Consistent context selected past g)
    (hdone : g.workers = []) :
    ∃ j ∈ g.joined, j.group = group ∧
      ∃ result, j.outcome = .ok result ∧ context.artifactPath task.output ∈ result.artifacts := by
  obtain ⟨reported, rest, hw, earlier, later, artifacts, -, rfl⟩ := hreturned
  have hnow : Establishing context (fun _ => True) (fun _ _ => True)
      (fun other outcome _ => other = group → ∃ result, outcome = .ok result ∧
        context.artifactPath task.output ∈ result.artifacts) f := by
    refine ⟨trivial, fun w' hw' => ?_, fun j hj heq => ?_⟩
    · by_cases hsame : w'.group = group
      · obtain rfl := hf.eq_of_group_eq hnames hw' hw hsame
        refine (Group.remaining_guarantees _ later).establishes.mono fun outcome _ hlisted _ => ?_
        obtain ⟨result, hresult, hall⟩ := hlisted
        exact ⟨result, hresult, hall _ (List.mem_append_right _ List.mem_cons_self)⟩
      · exact establishes_of_forall fun _ _ heq => absurd heq hsame
    · exact absurd heq (hf.group_ne_of_joined hnames hw hj)
  have hstays : StaysWithin (fun _ => True) (fun _ _ => True) (fun _ _ => True) :=
    ⟨fun _ => trivial, fun _ _ => trivial, fun _ _ => ⟨trivial, trivial⟩,
      fun _ _ => ⟨trivial, trivial⟩⟩
  have hended := (hnow.of_steps hstays (fun _ _ _ _ _ hpost => hpost) h).1.joined
  have hgroup : group ∈ selected :=
    hf.groups.mem_iff.mp (List.mem_append_left _ (List.mem_map_of_mem hw))
  obtain ⟨j, hj, rfl⟩ := List.mem_map.mp ((hg.accounts hdone).groups.mem_iff.mpr hgroup)
  exact ⟨j, hj, rfl, hended j hj rfl⟩

end FanOut

end Diagnostics
