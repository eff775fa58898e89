import Diagnostics.Proofs.Action

/-!
# What a piece of work guarantees, whatever else happens meanwhile

Work that shares a session with other work does not know what its requests will be answered with:
between two of them the others have had their turns. What can still be said of it is what holds for
every answer that some session could have given. `Action.Guarantees` says three things at once:
which requests the work makes at all, how it can end, and what it has recorded when it ends. It is
the weakest precondition of that, so there is one equation for each way to build an action, as there
is for `settle`.
-/

set_option autoImplicit false

namespace Diagnostics

/-- The failures that a request records. -/
def Request.failures : Request → List Failure
  | .record failure => [failure]
  | _ => []

namespace Session

/-- What is recorded is recorded by a request, behind everything else. -/
theorem answer_failures (s : Session) (r : Request) :
    (s.answer r).2.failures = s.failures ++ r.failures := by
  cases r
  case record failure => rfl
  case openFile path =>
    unfold answer Request.failures
    dsimp only
    split <;> simp
  all_goals simp [answer, Request.failures]

end Session

namespace Action

variable {α β : Type} {inv : Session → Prop} {allowed : Request → Prop}
  {post : List Failure → Except Fault α → Prop} {past : List Failure}

/-- Whatever requests are answered with by sessions that satisfy the invariant, the work makes
allowed requests only, and its end together with all failures that it has recorded, after those of
the past, satisfies the postcondition. -/
def Guarantees (inv : Session → Prop) (allowed : Request → Prop)
    (post : List Failure → Except Fault α → Prop) : Action α → List Failure → Prop
  | .done outcome, past => post past outcome
  | .request r next, past =>
    allowed r ∧ ∀ s, inv s → (next (s.answer r).1).Guarantees inv allowed post (past ++ r.failures)

theorem guarantees_done (outcome : Except Fault α) :
    (Action.done outcome).Guarantees inv allowed post past ↔ post past outcome :=
  Iff.rfl

theorem guarantees_request (r : Request) (next : r.Answer → Action α) :
    (Action.request r next).Guarantees inv allowed post past ↔
      allowed r ∧
        ∀ s, inv s → (next (s.answer r).1).Guarantees inv allowed post (past ++ r.failures) :=
  Iff.rfl

/-- A request that records nothing leaves the past as it was. -/
theorem guarantees_silent {r : Request} (hr : r.failures = []) (next : r.Answer → Action α) :
    (Action.request r next).Guarantees inv allowed post past ↔
      allowed r ∧ ∀ s, inv s → (next (s.answer r).1).Guarantees inv allowed post past := by
  rw [guarantees_request, hr, List.append_nil]

theorem Guarantees.mono {post' : List Failure → Except Fault α → Prop} {work : Action α}
    (h : work.Guarantees inv allowed post past)
    (hpost : ∀ past outcome, post past outcome → post' past outcome) :
    work.Guarantees inv allowed post' past := by
  induction work generalizing past with
  | done outcome => exact hpost _ _ h
  | request r next ih => exact ⟨h.1, fun s hs => ih _ (h.2 s hs)⟩

theorem Guarantees.weaken {allowed' : Request → Prop} {work : Action α}
    (h : work.Guarantees inv allowed post past) (hallowed : ∀ r, allowed r → allowed' r) :
    work.Guarantees inv allowed' post past := by
  induction work generalizing past with
  | done outcome => exact h
  | request r next ih => exact ⟨hallowed r h.1, fun s hs => ih _ (h.2 s hs)⟩

/-- Any work makes requests and comes to an end. -/
theorem guarantees_true (work : Action α) (past : List Failure) :
    work.Guarantees inv (fun _ => True) (fun _ _ => True) past := by
  induction work generalizing past with
  | done outcome => trivial
  | request r next ih => exact ⟨trivial, fun s _ => ih _ _⟩

/-- Which requests work makes does not depend on what was recorded before. -/
theorem Guarantees.of_past {work : Action α}
    (h : work.Guarantees inv allowed (fun _ _ => True) past) (past' : List Failure) :
    work.Guarantees inv allowed (fun _ _ => True) past' := by
  induction work generalizing past past' with
  | done outcome => trivial
  | request r next ih => exact ⟨h.1, fun s hs => ih _ (h.2 s hs) _⟩

/-- What follows a piece of work has to guarantee the end, whatever it goes on from. -/
theorem guarantees_bind {work : Action α} {after : α → Action β}
    {post : List Failure → Except Fault β → Prop} :
    (work >>= after).Guarantees inv allowed post past ↔
      work.Guarantees inv allowed (fun past outcome =>
        match outcome with
        | .ok a => (after a).Guarantees inv allowed post past
        | .error fault => post past (.error fault)) past := by
  induction work generalizing past with
  | done outcome => cases outcome <;> rfl
  | request r next ih =>
    rw [request_bind, guarantees_request, guarantees_request]
    exact and_congr_right fun _ => forall_congr' fun s => imp_congr_right fun _ => ih _

theorem guarantees_attempt {work : Action α}
    {post : List Failure → Except Fault (Except Fault α) → Prop} :
    work.attempt.Guarantees inv allowed post past ↔
      work.Guarantees inv allowed (fun past outcome => post past (.ok outcome)) past := by
  induction work generalizing past with
  | done outcome => rfl
  | request r next ih =>
    show _ ∧ _ ↔ _ ∧ _
    exact and_congr_right fun _ => forall_congr' fun s => imp_congr_right fun _ => ih _

/-- What work guarantees whatever requests are answered with holds when it is done on a session. -/
theorem Guarantees.settle {work : Action α} {s : Session}
    (h : work.Guarantees (fun _ => True) allowed post s.failures) :
    post (settle work s).2.failures (settle work s).1 := by
  induction work generalizing s with
  | done outcome => exact h
  | request r next ih =>
    rw [settle_request]
    apply ih
    rw [Session.answer_failures]
    exact h.2 s trivial

/-- Work that is guaranteed to record nothing leaves the failures as they are. -/
theorem Guarantees.settle_failures {work : Action α} {s : Session}
    (h : work.Guarantees (fun _ => True) allowed (fun past _ => past = s.failures) s.failures) :
    (work.settle s).2.failures = s.failures :=
  Guarantees.settle h

theorem guarantees_recordFailure {failure : Failure}
    {post : List Failure → Except Fault Unit → Prop} :
    (recordFailure failure).Guarantees inv allowed post past ↔
      allowed (.record failure) ∧ ((∃ s, inv s) → post (past ++ [failure]) (.ok ())) :=
  and_congr_right fun _ => ⟨fun h ⟨s, hs⟩ => h s hs, fun h s hs => h ⟨s, hs⟩⟩

end Action

end Diagnostics
