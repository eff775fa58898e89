import Diagnostics.Proofs.FanOut.Guarded

/-!
# What a piece of work establishes while others go on

`Action.Guarantees` says how work can end, whatever the session has become meanwhile. If it is known
what the others can do to the session, more can be said: how the session is when the work ends.
`Action.Establishes` is that. Between two requests of the work the session may go over to any other
one that it is related to, and in the end the outcome and the session satisfy the postcondition.
There is one equation for each way to build an action, as there is for `settle`; and what neither
others nor the work's own requests can undo is carried along (`Establishes.frame`).

Work that establishes something does so in every run whose steps stay within the relation
(`FanOut.Establishing.of_steps`).
-/

set_option autoImplicit false

namespace Diagnostics

namespace Action

variable {α β : Type} {inv : Session → Prop} {rel : Session → Session → Prop}
  {post post' : Except Fault α → Session → Prop} {s t : Session} {work : Action α}

/-- From this session on, whatever others do to it within the relation, the work ends as the
postcondition says. -/
def Establishes (inv : Session → Prop) (rel : Session → Session → Prop)
    (post : Except Fault α → Session → Prop) : Action α → Session → Prop
  | .done outcome, s => post outcome s
  | .request r next, s =>
    ∀ t, inv t → rel s t → (next (t.answer r).1).Establishes inv rel post (t.answer r).2

theorem Establishes.mono (h : work.Establishes inv rel post s)
    (hpost : ∀ outcome t, post outcome t → post' outcome t) : work.Establishes inv rel post' s := by
  induction work generalizing s with
  | done outcome => exact hpost outcome s h
  | request r next ih => exact fun t ht hst => ih _ (h t ht hst)

/-- Others can do no more from a later session on. -/
theorem Establishes.of_rel (hst : rel s t) (htrans : ∀ {s t u}, rel s t → rel t u → rel s u)
    (hpost : ∀ outcome {s t}, rel s t → post outcome s → post outcome t)
    (h : work.Establishes inv rel post s) : work.Establishes inv rel post t := by
  cases work with
  | done outcome => exact hpost outcome hst h
  | request r next => exact fun u hu htu => h u hu (htrans hst htu)

/-- What neither others nor requests undo holds in the end as well. -/
theorem Establishes.frame {P : Session → Prop} (h : work.Establishes inv rel post s) (hs : P s)
    (hrel : ∀ {s t}, rel s t → P s → P t)
    (hanswer : ∀ {t} (r : Request), inv t → P t → P (t.answer r).2) :
    work.Establishes inv rel (fun outcome t => post outcome t ∧ P t) s := by
  induction work generalizing s with
  | done outcome => exact ⟨h, hs⟩
  | request r next ih => exact fun t ht hst => ih _ (h t ht hst) (hanswer r ht (hrel hst hs))

theorem establishes_of_forall (hpost : ∀ outcome t, post outcome t) :
    work.Establishes inv rel post s := by
  induction work generalizing s with
  | done outcome => exact hpost outcome s
  | request r next ih => exact fun t _ _ => ih _

/-- How work ends whatever the session has become is how it ends within the relation. -/
theorem Guarantees.establishes {allowed : Request → Prop} {past : List Failure}
    {ends : Except Fault α → Prop} (h : work.Guarantees inv allowed (fun _ => ends) past) :
    work.Establishes inv rel (fun outcome _ => ends outcome) s := by
  induction work generalizing past s with
  | done outcome => exact h
  | request r next ih => exact fun t ht _ => ih _ (h.2 t ht)

/-- What follows a piece of work has to establish the end, from wherever that has left the session.
-/
theorem establishes_bind {after : α → Action β} {post : Except Fault β → Session → Prop} :
    (work >>= after).Establishes inv rel post s ↔
      work.Establishes inv rel (fun outcome t =>
        match outcome with
        | .ok a => (after a).Establishes inv rel post t
        | .error fault => post (.error fault) t) s := by
  induction work generalizing s with
  | done outcome => cases outcome <;> rfl
  | request r next ih =>
    rw [request_bind]
    exact forall_congr' fun t => imp_congr_right fun _ => imp_congr_right fun _ => ih _

theorem establishes_attempt {post : Except Fault (Except Fault α) → Session → Prop} :
    work.attempt.Establishes inv rel post s ↔
      work.Establishes inv rel (fun outcome t => post (.ok outcome) t) s := by
  induction work generalizing s with
  | done outcome => rfl
  | request r next ih =>
    exact forall_congr' fun t => imp_congr_right fun _ => imp_congr_right fun _ => ih _

end Action

namespace FanOut

variable {context : Context} {limit : Nat} {inv : Session → Prop}
  {rel : Session → Session → Prop} {post : Group → Except Fault GroupResult → Session → Prop}
  {f g : FanOut}

/-- A moment from which on each worker will establish something of its group, and at which that
holds of the groups that were joined. -/
structure Establishing (context : Context) (inv : Session → Prop)
    (rel : Session → Session → Prop) (post : Group → Except Fault GroupResult → Session → Prop)
    (f : FanOut) : Prop where
  session : inv f.session
  workers : ∀ w ∈ f.workers, (w.rest context).Establishes inv rel (post w.group) f.session
  joined : ∀ j ∈ f.joined, post j.group j.outcome f.session

theorem Establishing.step (hstays : StaysWithin inv (fun _ _ => True) rel)
    (hstable : ∀ group outcome {s t}, rel s t → post group outcome s → post group outcome t)
    (hf : Establishing context inv rel post f) (h : Step context limit f g) :
    Establishing context inv rel post g ∧ rel f.session g.session := by
  obtain ⟨hsession, hworkers, hjoined⟩ := hf
  obtain ⟨hinv, hrel⟩ := hstays.step hsession (fun _ _ _ _ _ => trivial) h
  refine ⟨⟨hinv, fun w hw => ?_, fun j hj => hstable _ _ hrel ?_⟩, hrel⟩
  · rcases h.of_mem_workers hw with
      ⟨v, hv, hgroup, -, hrest⟩ | ⟨group, reported, r, next, hmem, heq, rfl⟩
    · rw [← hgroup, ← hrest]
      exact (hworkers v hv).of_rel hrel hstays.trans (hstable _)
    · rw [heq]
      exact hworkers _ hmem f.session hsession (hstays.refl _)
  · rcases h.of_mem_joined hj with hj | hmem
    · exact hjoined j hj
    · exact hworkers _ hmem

/-- **What work establishes, runs establish.** -/
theorem Establishing.of_steps (hstays : StaysWithin inv (fun _ _ => True) rel)
    (hstable : ∀ group outcome {s t}, rel s t → post group outcome s → post group outcome t)
    (hf : Establishing context inv rel post f) (h : Steps context limit f g) :
    Establishing context inv rel post g ∧ rel f.session g.session := by
  induction h with
  | refl => exact ⟨hf, hstays.refl _⟩
  | tail _ hstep ih =>
    obtain ⟨hmoment, hrel⟩ := ih
    obtain ⟨hmoment', hrel'⟩ := hmoment.step hstays hstable hstep
    exact ⟨hmoment', hstays.trans hrel hrel'⟩

end FanOut

end Diagnostics
