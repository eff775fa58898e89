import Diagnostics.Proofs.FanOut.Step

/-!
# Running groups one after another is one of the schedules

`orchestrate` runs the selected groups in the order in which they are given and joins each before
the next one begins. That is a sequence of steps of a run that fans out, so whatever holds of all
schedules holds of it; and it shows that there is a schedule to the end at all.

Where there is one group, there is no other schedule (`FanOut.steps_of_steps_of_one`).
-/

set_option autoImplicit false

namespace Diagnostics

open Diagnostics.Action

namespace FanOut

variable {context : Context} {limit : Nat}

/-- A worker does all that is left of its work while the others wait. -/
theorem steps_settle (before after : List Worker) (joined : List Joined) (group : Group)
    (rest : Action GroupResult) : ∀ (reported : List Failure) (s : Session), ∃ reported',
      Steps context limit ⟨s, before ++ .running group reported rest :: after, joined⟩
        ⟨(rest.settle s).2, before ++ .running group reported' (.done (rest.settle s).1) :: after,
          joined⟩ := by
  induction rest with
  | done outcome => exact fun reported s => ⟨reported, .refl⟩
  | request r next ih =>
    intro reported s
    obtain ⟨reported', hsteps⟩ := ih (s.answer r).1 (reported ++ r.failures) (s.answer r).2
    exact ⟨reported', .head (.advance group reported r next) hsteps⟩

/-- A group that is run with its failure recorded is a group that is run and joined. -/
theorem settle_gatherRecorded {group : Group} {s : Session} {j : Joined}
    (hgroup : j.group = group)
    (houtcome : j.outcome = ((group.gather (context.forGroup group.name)).settle s).1) :
    (group.gatherRecorded context).settle s =
      (.ok j.result,
        ((group.gather (context.forGroup group.name)).settle s).2.recordAll j.crash) := by
  have hcontext : { context with group := group.name } = context.forGroup group.name := rfl
  unfold Group.gatherRecorded Joined.result Joined.crash
  rw [hcontext, settle_bind, settle_attempt, houtcome, hgroup]
  dsimp only
  cases ((group.gather (context.forGroup group.name)).settle s).1 with
  | ok result =>
    unfold Session.recordAll
    rw [List.append_nil]
    rfl
  | error fault => rfl

/-- Groups one after another, from any moment at which no other worker is at work. -/
theorem steps_gatherGroups (hlimit : 0 < limit) :
    ∀ (groups : List Group) (s : Session) (joined : List Joined), ∃ js : List Joined,
      (gatherGroups context groups).settle s =
          (.ok (js.map Joined.result), ((gatherGroups context groups).settle s).2) ∧
        Steps context limit ⟨s, groups.map .queued, joined⟩
          ⟨((gatherGroups context groups).settle s).2, [], joined ++ js⟩
  | [], s, joined => ⟨[], rfl, by rw [List.append_nil]; exact .refl⟩
  | group :: groups, s, joined => by
    -- All others are queued, so there is room for one.
    have hroom : ((groups.map Worker.queued).countP Worker.isBusy) < limit := by
      rwa [List.countP_eq_zero.mpr (by simp [Worker.isBusy])]
    obtain ⟨reported, hwork⟩ := @steps_settle context limit [] (groups.map .queued) joined group
      (group.gather (context.forGroup group.name)) [] s
    -- The group with its end, as it is joined.
    let j : Joined := ⟨group, reported, ((group.gather (context.forGroup group.name)).settle s).1⟩
    let t := ((group.gather (context.forGroup group.name)).settle s).2.recordAll j.crash
    obtain ⟨js, hsettle, hsteps⟩ := steps_gatherGroups hlimit groups t (joined ++ [j])
    have hfirst : (group.gatherRecorded context).settle s = (.ok j.result, t) :=
      settle_gatherRecorded rfl rfl
    have hall : (gatherGroups context (group :: groups)).settle s =
        (.ok ((j :: js).map Joined.result), ((gatherGroups context groups).settle t).2) := by
      show (group.gatherRecorded context >>= fun result =>
        gatherGroups context groups >>= fun results => pure (result :: results)).settle s = _
      rw [settle_bind, hfirst]
      dsimp only
      rw [settle_bind, hsettle]
      rfl
    refine ⟨j :: js, by rw [hall], ?_⟩
    rw [hall]
    have hbegin : Step context limit ⟨s, (group :: groups).map .queued, joined⟩
        ⟨s, .running group [] (group.gather (context.forGroup group.name)) ::
          groups.map .queued, joined⟩ :=
      @Step.begin context limit s [] (groups.map .queued) joined group hroom
    have hjoin : Step context limit
        ⟨((group.gather (context.forGroup group.name)).settle s).2,
          .running group reported (.done j.outcome) :: groups.map .queued, joined⟩
        ⟨t, groups.map .queued, joined ++ [j]⟩ :=
      @Step.join context limit _ [] (groups.map .queued) joined j
    rw [List.append_assoc, List.singleton_append] at hsteps
    exact .head hbegin (hwork.trans (.head hjoin hsteps))

/-- There is a run of any groups that joins all its workers, and its session is the one that running
them one after another leaves. -/
theorem exists_complete (hlimit : 0 < limit) (groups : List Group) (s : Session) :
    ∃ f, Steps context limit (initial groups s) f ∧ f.workers = [] ∧
      (gatherGroups context groups).settle s = (.ok f.report.groups, f.session) := by
  obtain ⟨js, hsettle, hsteps⟩ := steps_gatherGroups hlimit groups s []
  exact ⟨_, hsteps, rfl, hsettle⟩

/-- Without the staging directory there is no run. -/
theorem settle_orchestrate_of_error {groups : List Group} {includeTrace : Bool}
    {maxWorkers : Option Int} {s t : Session} {fault : Fault}
    (h : (ensureDirectories context.staging).settle s = (.error fault, t)) :
    (orchestrate groups context includeTrace maxWorkers).settle s = (.error fault, t) := by
  unfold orchestrate
  rw [settle_bind, h]

/-- Once the staging directory was made, `orchestrate` returns the report of a run that fanned out
and has joined all its workers. If there is nobody to join, the run is over when it begins. -/
theorem exists_complete_of_orchestrate {groups : List Group} {includeTrace : Bool}
    {maxWorkers : Option Int} {s s₀ : Session}
    (hlimit : selectedGroups groups includeTrace ≠ [] → 0 < limit)
    (hworkers : maxWorkers.any (· < 0) = false)
    (hmade : (ensureDirectories context.staging).settle s = (.ok (), s₀)) :
    ∃ f, Steps context limit (initial (selectedGroups groups includeTrace) s₀) f ∧
      f.workers = [] ∧
      (orchestrate groups context includeTrace maxWorkers).settle s = (.ok f.report, f.session) := by
  unfold orchestrate
  rw [settle_bind, hmade]
  by_cases hselected : selectedGroups groups includeTrace = []
  · rw [hselected]
    exact ⟨initial [] s₀, .refl, rfl, rfl⟩
  · obtain ⟨f, hsteps, hjoined, hsettle⟩ :=
      @exists_complete context limit (hlimit hselected) (selectedGroups groups includeTrace) s₀
    refine ⟨f, hsteps, hjoined, ?_⟩
    dsimp only
    rw [if_neg (by simpa using hselected), if_neg (by simp [hworkers]), settle_bind, hsettle]
    rfl

/-! ## A group by itself -/

/-- Where there is nobody, nothing happens. -/
theorem eq_of_steps_of_workers_nil {f g : FanOut} (h : Steps context limit f g)
    (hnobody : f.workers = []) : g = f := by
  rcases Relation.ReflTransGen.cases_head h with heq | ⟨next, hstep, -⟩
  · exact heq.symm
  · cases hstep
    all_goals exact absurd hnobody (List.append_ne_nil_of_right_ne_nil _ (List.cons_ne_nil _ _))

/-- A worker does a part of its work, and then it has the rest left. -/
theorem steps_settle_bind {α : Type} {before others : List Worker} {joined : List Joined}
    {group : Group} {work : Action α} {after : α → Action GroupResult} {a : α} {t : Session}
    {reported : List Failure} {s : Session} (h : work.settle s = (.ok a, t)) : ∃ reported',
      Steps context limit ⟨s, before ++ .running group reported (work >>= after) :: others, joined⟩
        ⟨t, before ++ .running group reported' (after a) :: others, joined⟩ := by
  induction work generalizing reported s with
  | done outcome =>
    cases h
    exact ⟨reported, .refl⟩
  | request r next ih =>
    obtain ⟨reported', hsteps⟩ := ih (s.answer r).1 h
    exact ⟨reported', .head (.advance group reported r fun x => next x >>= after) hsteps⟩

/-- What becomes of a run with one worker left. -/
def afterOne (context : Context) (s : Session) (joined : List Joined) : Worker → FanOut
  | .queued group => ⟨s, [.running group [] (group.gather (context.forGroup group.name))], joined⟩
  | .running group reported (.request r next) =>
    ⟨(s.answer r).2, [.running group (reported ++ r.failures) (next (s.answer r).1)], joined⟩
  | .running group reported (.done outcome) =>
    ⟨s.recordAll (Joined.crash ⟨group, reported, outcome⟩), [],
      joined ++ [⟨group, reported, outcome⟩]⟩

theorem eq_afterOne_of_step {s : Session} {w : Worker} {joined : List Joined} {g : FanOut}
    (h : Step context limit ⟨s, [w], joined⟩ g) : g = afterOne context s joined w := by
  have hone : ∀ {before after : List Worker} {w' : Worker},
      [w] = before ++ w' :: after → before = [] ∧ w' = w ∧ after = [] := by
    intro before after w' heq
    simpa [List.append_eq_cons_iff, eq_comm] using heq
  generalize hf : (⟨s, [w], joined⟩ : FanOut) = f at h
  cases h
  all_goals
    obtain ⟨rfl, hworkers, rfl⟩ := FanOut.mk.inj hf
    obtain ⟨rfl, rfl, rfl⟩ := hone hworkers
    rfl

/-- **A group by itself has one schedule.** With one worker left, a run comes through every moment
that it can come to before it ends. -/
theorem steps_of_steps_of_one {s : Session} {w : Worker} {joined : List Joined} {f g : FanOut}
    (hf : Steps context limit ⟨s, [w], joined⟩ f) (hg : Steps context limit ⟨s, [w], joined⟩ g)
    (hdone : g.workers = []) : Steps context limit f g := by
  generalize hstart : (⟨s, [w], joined⟩ : FanOut) = start at hf hg
  induction hf using Relation.ReflTransGen.head_induction_on generalizing s w joined with
  | refl => exact hg
  | head hstep hlater ih =>
    subst hstart
    rcases Relation.ReflTransGen.cases_head hg with rfl | ⟨next, hnext, hg⟩
    · cases hdone
    · rw [eq_afterOne_of_step hnext] at hg
      rw [eq_afterOne_of_step hstep] at hlater ih
      rcases w with group | ⟨group, reported, outcome | ⟨r, next⟩⟩
      · exact ih rfl hg
      · -- The one worker is joined, and nobody is left.
        rw [eq_of_steps_of_workers_nil hlater rfl, eq_of_steps_of_workers_nil hg rfl]
      · exact ih rfl hg

end FanOut

end Diagnostics
