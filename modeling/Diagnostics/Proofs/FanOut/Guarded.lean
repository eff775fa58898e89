import Diagnostics.Proofs.FanOut.Step

/-!
# What all workers leave alone

Each worker of a run guarantees which requests it makes. If no such request breaks an invariant of
the session, and each leads to a session that is related to the one before, then that holds of whole
runs: the invariant holds at every moment, and any two moments are related (`Guarded.of_steps`). The
relation is what the workers leave alone taken together, so it has to add up.
-/

set_option autoImplicit false

namespace Diagnostics

namespace FanOut

variable {context : Context} {limit : Nat} {inv : Session → Prop}
  {rel : Session → Session → Prop} {allowed : Group → Request → Prop} {f g : FanOut}

/-- The requests that are allowed to groups keep an invariant of sessions and stay within a
relation, and so does joining a worker. -/
structure StaysWithin (inv : Session → Prop) (allowed : Group → Request → Prop)
    (rel : Session → Session → Prop) : Prop where
  refl : ∀ s, rel s s
  trans : ∀ {s t u}, rel s t → rel t u → rel s u
  answer : ∀ {group r s}, allowed group r → inv s → inv (s.answer r).2 ∧ rel s (s.answer r).2
  record : ∀ {s} (failures : List Failure), inv s →
    inv (s.recordAll failures) ∧ rel s (s.recordAll failures)

/-- The invariant holds after a step if all requests that workers are about to make are allowed. -/
theorem StaysWithin.step (hstays : StaysWithin inv allowed rel) (hsession : inv f.session)
    (hallowed : ∀ group reported r next,
      .running group reported (.request r next) ∈ f.workers → allowed group r)
    (h : Step context limit f g) : inv g.session ∧ rel f.session g.session := by
  rcases h.session_cases with heq | ⟨group, reported, r, next, hmem, heq⟩ | ⟨j, heq⟩
  · rw [heq]
    exact ⟨hsession, hstays.refl _⟩
  · rw [heq]
    exact hstays.answer (hallowed _ _ _ _ hmem) hsession
  · rw [heq]
    exact hstays.record j.crash hsession

/-- A moment at which the invariant holds and each worker makes only requests that are allowed to
its group from then on. -/
structure Guarded (context : Context) (inv : Session → Prop) (allowed : Group → Request → Prop)
    (f : FanOut) : Prop where
  session : inv f.session
  workers : ∀ w ∈ f.workers,
    (w.rest context).Guarantees inv (allowed w.group) (fun _ _ => True) w.reported

theorem Guarded.step (hstays : StaysWithin inv allowed rel)
    (hf : Guarded context inv allowed f) (h : Step context limit f g) :
    Guarded context inv allowed g ∧ rel f.session g.session := by
  obtain ⟨hsession, hworkers⟩ := hf
  obtain ⟨hinv, hrel⟩ := hstays.step hsession (fun _ _ _ _ hmem => (hworkers _ hmem).1) h
  refine ⟨⟨hinv, fun w hw => ?_⟩, hrel⟩
  rcases h.of_mem_workers hw with
    ⟨v, hv, hgroup, hreported, hrest⟩ | ⟨group, reported, r, next, hmem, -, rfl⟩
  · rw [← hgroup, ← hreported, ← hrest]
    exact hworkers v hv
  · exact (hworkers _ hmem).2 f.session hsession

/-- **Runs stay within what their steps stay within.** -/
theorem Guarded.of_steps (hstays : StaysWithin inv allowed rel)
    (hf : Guarded context inv allowed f) (h : Steps context limit f g) :
    Guarded context inv allowed g ∧ rel f.session g.session := by
  induction h with
  | refl => exact ⟨hf, hstays.refl _⟩
  | tail _ hstep ih =>
    obtain ⟨hguarded, hrel⟩ := ih
    obtain ⟨hguarded', hrel'⟩ := hguarded.step hstays hstep
    exact ⟨hguarded', hstays.trans hrel hrel'⟩

end FanOut

end Diagnostics
