import Diagnostics.Proofs.FanOut.Schedule
import Diagnostics.Proofs.Gather.Run

/-!
# Runs on machines that are alike

A run follows a schedule (`GatherRun.Follows`), and every run follows one. Where two requests come
to the same work, with the same context, groups and room for workers, and their machines are alike
to all requests that the groups make, a schedule of one is a schedule of the other
(`GatherRun.exists_alike`): the same workers take the same turns, and what they are answered is the
same.
-/

set_option autoImplicit false

namespace Diagnostics

open Diagnostics.Action

variable {env env' : Environment} {backend backend' : Option Backend}
  {request request' : GatherRequest} {host host' : Host} {Q : Session → Session → Prop}

/-- The workers of a run take their turns by a schedule, until all are joined. -/
def GatherRun.Follows (run : GatherRun env backend request host) (schedule : List Nat) : Prop :=
  (FanOut.initial run.selected run.begun).follow run.context (run.settings.workerLimit run.groups)
    schedule = some run.ended

theorem GatherRun.exists_follows (run : GatherRun env backend request host) :
    ∃ schedule, run.Follows schedule :=
  FanOut.steps_iff_exists_schedule.mp run.steps

/-- What a schedule leads to on one machine, it leads to on another that is alike to what the run
asks for. -/
theorem GatherRun.exists_alike {allowed : Request → Prop} (hQ : Session.Answers allowed Q)
    (hsessions : Q ⟨host, []⟩ ⟨host', []⟩) (run : GatherRun env backend request host)
    (hmakes : allowed (.ensureDirectories run.context.staging))
    (hgroups : ∀ group ∈ run.selected, (group.gather (run.context.forGroup group.name)).Guarantees
      (fun _ => True) allowed (fun _ _ => True) [])
    {settings : Settings} {groups : List Group}
    (hplanned : request'.plan env' host'.disk = .ok (settings, groups))
    (hcontext : settings.context backend' = run.context)
    (hselected : settings.selected groups = run.selected)
    (hlimit : settings.workerLimit groups = run.settings.workerLimit run.groups)
    {schedule : List Nat} (h : run.Follows schedule) :
    ∃ run' : GatherRun env' backend' request' host', run'.settings = settings ∧
      run'.Follows schedule ∧ run.ended.Alike Q run'.ended := by
  have hstaging : settings.staging = run.settings.staging := congrArg Context.staging hcontext
  have hdirectories : (ensureDirectories run.settings.staging).Guarantees (fun _ => True) allowed
      (fun _ _ => True) [] := ⟨hmakes, fun _ _ => trivial⟩
  obtain ⟨hmade, hbegun⟩ := hQ.settle hdirectories hsessions
  rw [run.made] at hmade hbegun
  rw [← hstaging] at hmade hbegun
  generalize hsettled : (ensureDirectories settings.staging).settle ⟨host', []⟩ = settled
    at hmade hbegun
  obtain ⟨outcome, begun⟩ := settled
  obtain rfl : .ok () = outcome := hmade
  have hinitial : (FanOut.initial run.selected run.begun).Alike Q
      (FanOut.initial run.selected begun) := ⟨hbegun, rfl, rfl⟩
  have hguarded : FanOut.Guarded run.context (fun _ => True) (fun _ => allowed)
      (FanOut.initial run.selected run.begun) := by
    refine ⟨trivial, fun w hw => ?_⟩
    obtain ⟨group, hgroup, rfl⟩ := List.mem_map.mp hw
    exact hgroups group hgroup
  obtain ⟨ended, hfollow, hended⟩ := hinitial.follow hQ hguarded h
  rw [← hselected, ← hcontext, ← hlimit] at hfollow
  exact ⟨⟨settings, groups, hplanned, begun, hsettled, ended,
    FanOut.steps_iff_exists_schedule.mpr ⟨schedule, hfollow⟩,
    hended.workers.symm.trans run.joined⟩, rfl, hfollow, hended⟩

end Diagnostics
