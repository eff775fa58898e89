import Diagnostics.Proofs.Guarantee
import Diagnostics.Orchestration
import Mathlib.Logic.Hydra
import Mathlib.Logic.Relation

/-!
# Groups that run at the same time

A run fans out: each selected group gets a worker, at most so many workers are at work at once, and
whatever has ended is joined, in any order. `FanOut.Step` is one step of that. A worker begins; or
it makes the next request of its work, which the shared session answers in one go; or its work has
ended and it is joined, and then a fault of it is recorded as a failure of the group.

The workers take turns as they like, so a statement about all sequences of steps is one about all
schedules. No schedule goes on for ever (`FanOut.step_wellFounded`), and none gets stuck before all
workers are joined (`FanOut.exists_step`).
-/

set_option autoImplicit false

namespace Diagnostics

/-- The context in which a group runs. -/
def Context.forGroup (context : Context) (name : Text) : Context :=
  { context with group := name }

/-- A group that is to be joined: it waits for its turn, or has so much of its work left. What it
has recorded so far is kept with it. -/
inductive Worker where
  | queued (group : Group)
  | running (group : Group) (reported : List Failure) (rest : Action GroupResult)

namespace Worker

def group : Worker → Group
  | .queued group => group
  | .running group _ _ => group

def reported : Worker → List Failure
  | .queued _ => []
  | .running _ reported _ => reported

/-- The work that is left to do. -/
def rest (context : Context) : Worker → Action GroupResult
  | .queued group => group.gather (context.forGroup group.name)
  | .running _ _ rest => rest

/-- Whether a worker takes up room among those at work. -/
def isBusy : Worker → Bool
  | .running _ _ (.request _ _) => true
  | _ => false

end Worker

/-- A group that has ended and was joined. -/
structure Joined where
  group : Group
  reported : List Failure
  outcome : Except Fault GroupResult

namespace Joined

/-- What is joined of a group: after a fault, no artifacts. -/
def result (j : Joined) : GroupResult :=
  match j.outcome with
  | .ok result => result
  | .error _ => ⟨j.group.name, []⟩

/-- What is recorded when a group is joined: its fault, if it ended with one. -/
def crash (j : Joined) : List Failure :=
  match j.outcome with
  | .ok _ => []
  | .error fault => [fault.toFailure j.group.name j.group.name]

/-- Everything that was recorded of a group, in order. -/
def failures (j : Joined) : List Failure :=
  j.reported ++ j.crash

end Joined

def Session.recordAll (s : Session) (failures : List Failure) : Session :=
  { s with failures := s.failures ++ failures }

/-- A run that has fanned out: the session that all share, the workers that are not joined yet, and
what was joined, in the order in which it was. -/
structure FanOut where
  session : Session
  workers : List Worker
  joined : List Joined

namespace FanOut

def initial (selected : List Group) (s : Session) : FanOut :=
  ⟨s, selected.map .queued, []⟩

/-- The report, whose failures are those recorded by now. -/
def report (f : FanOut) : RunReport :=
  ⟨f.joined.map Joined.result, f.session.failures⟩

/-- One step of a run of which at most so many workers are at work. -/
inductive Step (context : Context) (limit : Nat) : FanOut → FanOut → Prop
  | begin {s : Session} {before after : List Worker} {joined : List Joined} (group : Group) :
      (before ++ after).countP Worker.isBusy < limit →
      Step context limit ⟨s, before ++ .queued group :: after, joined⟩
        ⟨s, before ++ .running group [] (group.gather (context.forGroup group.name)) :: after,
          joined⟩
  /-- A worker makes a request, which the session answers. -/
  | advance {s : Session} {before after : List Worker} {joined : List Joined} (group : Group)
      (reported : List Failure) (r : Request) (next : r.Answer → Action GroupResult) :
      Step context limit ⟨s, before ++ .running group reported (.request r next) :: after, joined⟩
        ⟨(s.answer r).2,
          before ++ .running group (reported ++ r.failures) (next (s.answer r).1) :: after, joined⟩
  /-- A worker whose work has ended is joined. -/
  | join {s : Session} {before after : List Worker} {joined : List Joined} (j : Joined) :
      Step context limit
        ⟨s, before ++ .running j.group j.reported (.done j.outcome) :: after, joined⟩
        ⟨s.recordAll j.crash, before ++ after, joined ++ [j]⟩

abbrev Steps (context : Context) (limit : Nat) : FanOut → FanOut → Prop :=
  Relation.ReflTransGen (Step context limit)

end FanOut

/-! ## Every schedule comes to an end -/

/-- What becomes of a worker that takes its turn. -/
inductive Worker.Follows (context : Context) : Worker → Worker → Prop
  | begun (group : Group) :
      Follows context (.running group [] (group.gather (context.forGroup group.name)))
        (.queued group)
  | advanced (group : Group) (reported past : List Failure) (r : Request)
      (next : r.Answer → Action GroupResult) (x : r.Answer) :
      Follows context (.running group past (next x)) (.running group reported (.request r next))

namespace Worker

variable {context : Context}

/-- A worker at work has so many turns left as its work is deep. -/
theorem acc_running (group : Group) (reported : List Failure) (rest : Action GroupResult) :
    Acc (Follows context) (.running group reported rest) := by
  induction rest generalizing reported with
  | done outcome => exact ⟨_, fun w hw => by cases hw⟩
  | request r next ih =>
    refine ⟨_, fun w hw => ?_⟩
    cases hw
    exact ih _ _

theorem follows_wellFounded : WellFounded (Follows context) := by
  refine ⟨fun w => ?_⟩
  cases w with
  | running group reported rest => exact acc_running group reported rest
  | queued group =>
    refine ⟨_, fun w hw => ?_⟩
    cases hw
    exact acc_running _ _ _

end Worker

namespace FanOut

variable {context : Context} {limit : Nat}

/-- One among others, and the others. -/
theorem mem_middle {α : Type} {before after : List α} {a b : α} :
    a ∈ before ++ b :: after ↔ a = b ∨ a ∈ before ++ after := by
  rw [List.perm_middle.mem_iff, List.mem_cons]

/-! ### What one step can do -/

section

variable {f g : FanOut}

/-- A worker has the same work left as before the step, or it has made the request that the step
was. -/
theorem Step.of_mem_workers (h : Step context limit f g) {w : Worker} (hw : w ∈ g.workers) :
    (∃ v ∈ f.workers, v.group = w.group ∧ v.reported = w.reported ∧
      v.rest context = w.rest context) ∨
    ∃ group reported r next, .running group reported (.request r next) ∈ f.workers ∧
      g.session = (f.session.answer r).2 ∧
      w = .running group (reported ++ r.failures) (next (f.session.answer r).1) := by
  cases h with
  | @begin s before after joined group hroom =>
    -- A worker that begins has the same work left as when it was queued.
    rcases mem_middle.mp hw with rfl | hmem
    · exact Or.inl ⟨.queued group, mem_middle.mpr (Or.inl rfl), rfl, rfl, rfl⟩
    · exact Or.inl ⟨w, mem_middle.mpr (Or.inr hmem), rfl, rfl, rfl⟩
  | @advance s before after joined group reported r next =>
    rcases mem_middle.mp hw with rfl | hmem
    · exact Or.inr ⟨group, reported, r, next, mem_middle.mpr (Or.inl rfl), rfl, rfl⟩
    · exact Or.inl ⟨w, mem_middle.mpr (Or.inr hmem), rfl, rfl, rfl⟩
  | @join s before after joined j => exact Or.inl ⟨w, mem_middle.mpr (Or.inr hw), rfl, rfl, rfl⟩

/-- What is joined was joined before the step, or is a worker whose work was done then. -/
theorem Step.of_mem_joined (h : Step context limit f g) {j : Joined} (hj : j ∈ g.joined) :
    j ∈ f.joined ∨ .running j.group j.reported (.done j.outcome) ∈ f.workers := by
  cases h with
  | @begin s before after joined group hroom => exact Or.inl hj
  | @advance s before after joined group reported r next => exact Or.inl hj
  | @join s before after joined k =>
    rcases List.mem_append.mp hj with hj | hj
    · exact Or.inl hj
    · rw [List.mem_singleton.mp hj]
      exact Or.inr (mem_middle.mpr (Or.inl rfl))

/-- The session has stayed, or has answered a request of a worker, or has recorded a crash. -/
theorem Step.session_cases (h : Step context limit f g) :
    g.session = f.session ∨
      (∃ group reported r next, .running group reported (.request r next) ∈ f.workers ∧
        g.session = (f.session.answer r).2) ∨
      ∃ j : Joined, g.session = f.session.recordAll j.crash := by
  cases h with
  | begin group hroom => exact Or.inl rfl
  | advance group reported r next =>
    exact Or.inr (Or.inl ⟨group, reported, r, next, mem_middle.mpr (Or.inl rfl), rfl⟩)
  | join j => exact Or.inr (Or.inr ⟨j, rfl⟩)

end

/-- Each step replaces one of the workers by what becomes of it, or by nothing. -/
theorem Step.cutExpand {f g : FanOut} (h : Step context limit f g) :
    Relation.CutExpand (Worker.Follows context) (g.workers : Multiset Worker) f.workers := by
  -- The others, before and behind it, stay what they are.
  have hmiddle : ∀ (before after : List Worker) (w : Worker),
      ((before ++ w :: after : List Worker) : Multiset Worker) =
        ((before ++ after : List Worker) : Multiset Worker) + {w} := by
    intro before after w
    rw [Multiset.coe_eq_coe.mpr List.perm_middle, ← Multiset.cons_coe, ← Multiset.singleton_add,
      add_comm]
  cases h with
  | begin group _ =>
    rw [hmiddle, hmiddle, Relation.cutExpand_add_left]
    exact Relation.cutExpand_singleton_singleton (.begun group)
  | advance group reported r next =>
    rw [hmiddle, hmiddle, Relation.cutExpand_add_left]
    exact Relation.cutExpand_singleton_singleton (.advanced group _ _ r next _)
  | @join s before after joined j =>
    rw [hmiddle, ← add_zero ((before ++ after : List Worker) : Multiset Worker), add_assoc,
      Relation.cutExpand_add_left, zero_add]
    exact Relation.cutExpand_singleton (by simp)

/-- No schedule goes on for ever. -/
theorem step_wellFounded : WellFounded fun g f => Step context limit f g :=
  (InvImage.wf (fun f : FanOut => (f.workers : Multiset Worker))
    Worker.follows_wellFounded.cutExpand).mono fun _ _ => Step.cutExpand

/-- A run in which someone is at work can go on. -/
theorem exists_step_of_running {s : Session} {workers : List Worker} {joined : List Joined}
    {group : Group} {reported : List Failure} {rest : Action GroupResult}
    (h : .running group reported rest ∈ workers) :
    ∃ g, Step context limit ⟨s, workers, joined⟩ g := by
  obtain ⟨before, after, rfl⟩ := List.append_of_mem h
  cases rest with
  | done outcome => exact ⟨_, .join ⟨group, reported, outcome⟩⟩
  | request r next => exact ⟨_, .advance group reported r next⟩

/-- A run that has not joined everyone can go on, if at least one worker may be at work. -/
theorem exists_step (hlimit : 0 < limit) {f : FanOut} (h : f.workers ≠ []) :
    ∃ g, Step context limit f g := by
  obtain ⟨s, workers, joined⟩ := f
  by_cases hrunning : ∃ group reported rest, Worker.running group reported rest ∈ workers
  · obtain ⟨group, reported, rest, hmem⟩ := hrunning
    exact exists_step_of_running hmem
  · -- Everyone is queued, so nobody takes up room and the first one may begin.
    have hbusy : ∀ w ∈ workers, Worker.isBusy w = false := by
      intro w hw
      cases w with
      | queued group => rfl
      | running group reported rest => exact absurd ⟨group, reported, rest, hw⟩ hrunning
    obtain ⟨w, workers, rfl⟩ := List.exists_cons_of_ne_nil h
    cases w with
    | running group reported rest =>
      exact absurd ⟨group, reported, rest, List.mem_cons_self⟩ hrunning
    | queued group =>
      have hcount : workers.countP Worker.isBusy = 0 :=
        List.countP_eq_zero.mpr fun w hw => by simp [hbusy w (List.mem_cons_of_mem _ hw)]
      refine ⟨_, @Step.begin context limit s [] workers joined group ?_⟩
      rw [List.nil_append, hcount]
      exact hlimit

end FanOut

end Diagnostics
