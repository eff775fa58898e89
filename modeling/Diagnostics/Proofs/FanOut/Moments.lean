import Diagnostics.Proofs.FanOut.Step

/-!
# The moment at which something was added

What a piece of work ends with was put together on the way. `Action.Marks` says of each part of it
that the work marks it at some point: there is a mark for the work that is left then. In a run of
many workers that point is a moment of the run, since nothing that is left to a worker is stepped
over; so whatever is joined of a worker has such a moment for each of its parts
(`FanOut.exists_moment`).
-/

set_option autoImplicit false

namespace Diagnostics

namespace Action

variable {α β γ : Type} {parts : α → List γ} {mark : Action α → γ → Prop}
  {seen seen' : γ → Prop}

/-- Each part of what the work ends with was seen before, or is marked on the way, whatever sessions
answer. -/
def Marks (parts : α → List γ) (mark : Action α → γ → Prop) : Action α → (γ → Prop) → Prop
  | .done outcome, seen => ∀ a, outcome = .ok a → ∀ c ∈ parts a, seen c ∨ mark (.done outcome) c
  | .request r next, seen => ∀ s : Session,
    (next (s.answer r).1).Marks parts mark fun c => seen c ∨ mark (.request r next) c

theorem Marks.mono {work : Action α} (h : work.Marks parts mark seen)
    (hseen : ∀ c, seen c → seen' c) : work.Marks parts mark seen' := by
  induction work generalizing seen seen' with
  | done outcome => exact fun a ha c hc => (h a ha c hc).imp_left (hseen c)
  | request r next ih => exact fun s => ih _ (h s) fun c => Or.imp_left (hseen c)

theorem marks_of_forall {work : Action α} (hmark : ∀ rest c, mark rest c) :
    work.Marks parts mark seen := by
  induction work generalizing seen with
  | done outcome => exact fun _ _ c _ => Or.inr (hmark _ c)
  | request r next ih => exact fun s => ih _

/-- What is marked now counts as seen. -/
theorem Marks.of_mark {work : Action α} (h : work.Marks parts mark fun c => seen c ∨ mark work c) :
    work.Marks parts mark seen := by
  cases work with
  | done outcome => exact fun a ha c hc => (h a ha c hc).elim id Or.inr
  | request r next => exact fun s => (h s).mono fun c hc => hc.elim id Or.inr

/-- Work marks all that is left to the work behind it. -/
theorem Marks.bind {work : Action β} {after : β → Action α} (past : List Failure)
    (h : work.Guarantees (fun _ => True) (fun _ => True)
      (fun _ outcome => ∀ b, outcome = .ok b → (after b).Marks parts mark seen) past) :
    (work >>= after).Marks parts mark seen := by
  induction work generalizing past seen with
  | done outcome =>
    cases outcome with
    | error fault => exact fun a ha => nomatch ha
    | ok b => exact h b rfl
  | request r next ih =>
    intro s
    refine ih _ _ ((h.2 s trivial).mono fun _ outcome hmarks b hb => ?_)
    exact (hmarks b hb).mono fun c => Or.inl

end Action

namespace FanOut

variable {γ : Type} {context : Context} {limit : Nat} {start f g : FanOut} {group : Group} {c : γ}
  {parts : GroupResult → List γ} {mark : Group → Action GroupResult → γ → Prop}

/-- The run came to a moment at which a worker of the group had work left that marks this. -/
def Marked (context : Context) (limit : Nat) (mark : Group → Action GroupResult → γ → Prop)
    (start f : FanOut) (group : Group) (c : γ) : Prop :=
  ∃ moment reported rest, Steps context limit start moment ∧ Steps context limit moment f ∧
    .running group reported rest ∈ moment.workers ∧ mark group rest c

/-- At a moment of the run, each worker will mark what has not been marked yet, and all that was
joined has been. -/
structure Marking (context : Context) (limit : Nat) (parts : GroupResult → List γ)
    (mark : Group → Action GroupResult → γ → Prop) (start f : FanOut) : Prop where
  steps : Steps context limit start f
  workers : ∀ w ∈ f.workers, (w.rest context).Marks parts (mark w.group)
    (Marked context limit mark start f w.group)
  joined : ∀ j ∈ f.joined, ∀ result, j.outcome = .ok result → ∀ c ∈ parts result,
    Marked context limit mark start f j.group c

theorem Marked.tail (h : Marked context limit mark start f group c)
    (hstep : Step context limit f g) :
    Marked context limit mark start g group c := by
  obtain ⟨moment, reported, rest, hbefore, hafter, hmem, hmark⟩ := h
  exact ⟨moment, reported, rest, hbefore, hafter.tail hstep, hmem, hmark⟩

theorem Marking.step (hf : Marking context limit parts mark start f)
    (h : Step context limit f g) : Marking context limit parts mark start g := by
  obtain ⟨hsteps, hworkers, hjoined⟩ := hf
  -- What was marked by now is marked afterwards, and so is what the work that is left marks.
  have hlater : ∀ {group : Group} (c : γ), Marked context limit mark start f group c →
      Marked context limit mark start g group c := fun _ hc => hc.tail h
  have hnow : ∀ {group : Group} {reported : List Failure} {rest : Action GroupResult},
      .running group reported rest ∈ f.workers → ∀ c, mark group rest c →
        Marked context limit mark start g group c :=
    fun hmem _ hmark => ⟨f, _, _, hsteps, .single h, hmem, hmark⟩
  refine ⟨hsteps.tail h, fun w hw => ?_, fun j hj result hresult c hc => ?_⟩
  · rcases h.of_mem_workers hw with
      ⟨v, hv, hgroup, -, hrest⟩ | ⟨group, reported, r, next, hmem, -, rfl⟩
    · rw [← hgroup, ← hrest]
      exact (hworkers v hv).mono hlater
    · exact (hworkers _ hmem f.session).mono fun c hc => hc.elim (hlater c) (hnow hmem c)
  · rcases h.of_mem_joined hj with hj | hmem
    · exact hlater c (hjoined j hj result hresult c hc)
    · -- The work of the one that is joined was done, and it marks what is left.
      exact (hworkers _ hmem result hresult c hc).elim (hlater c) (hnow hmem c)

/-- **Whatever is joined was marked at some moment.** -/
theorem exists_moment {selected : List Group} {s : Session}
    (hmarks : ∀ group ∈ selected, (group.gather (context.forGroup group.name)).Marks parts
      (mark group) fun _ => False)
    (h : Steps context limit (initial selected s) g) {j : Joined} (hj : j ∈ g.joined)
    {result : GroupResult} (hresult : j.outcome = .ok result) (hc : c ∈ parts result) :
    Marked context limit mark (initial selected s) g j.group c := by
  have hinitial : Marking context limit parts mark (initial selected s) (initial selected s) := by
    refine ⟨.refl, fun w hw => ?_, fun j hj => nomatch hj⟩
    obtain ⟨group, hgroup, rfl⟩ := List.mem_map.mp hw
    exact (hmarks group hgroup).mono fun _ hfalse => hfalse.elim
  have hmarking : Marking context limit parts mark (initial selected s) g := by
    clear hj
    induction h with
    | refl => exact hinitial
    | tail _ hstep ih => exact ih.step hstep
  exact hmarking.joined j hj result hresult c hc

end FanOut

end Diagnostics
