import Diagnostics.Session

/-!
# How a piece of work ends

A piece of work is a tree of requests, and `settle` walks down it on one session. There is one
equation for each way to build an action; after these nothing has to look at the tree itself.
-/

set_option autoImplicit false

namespace Diagnostics.Action

variable {α β γ : Type}

/-! ## Sequencing -/

@[simp] theorem done_ok_bind (a : α) (after : α → Action β) :
    (Action.done (.ok a) >>= after) = after a := rfl

@[simp] theorem done_error_bind (fault : Fault) (after : α → Action β) :
    (Action.done (.error fault) >>= after) = .done (.error fault) := rfl

@[simp] theorem request_bind (r : Request) (next : r.Answer → Action α) (after : α → Action β) :
    (Action.request r next >>= after) = .request r fun x => next x >>= after := rfl

theorem bind_done_ok (work : Action α) : (work >>= fun a => .done (.ok a)) = work := by
  induction work with
  | done outcome => cases outcome <;> rfl
  | request r next ih =>
    rw [request_bind]
    exact congrArg (Action.request r) (funext ih)

theorem bind_bind (work : Action α) (after : α → Action β) (last : β → Action γ) :
    (work >>= after) >>= last = work >>= fun a => after a >>= last := by
  induction work with
  | done outcome => cases outcome <;> rfl
  | request r next ih =>
    rw [request_bind, request_bind, request_bind]
    exact congrArg (Action.request r) (funext ih)

instance : LawfulMonad Action :=
  LawfulMonad.mk' Action bind_done_ok (fun _ _ => rfl) bind_bind

/-! ## Settling -/

@[simp] theorem settle_done (outcome : Except Fault α) (s : Session) :
    settle (.done outcome) s = (outcome, s) := rfl

@[simp] theorem settle_request (r : Request) (next : r.Answer → Action α) (s : Session) :
    settle (.request r next) s = settle (next (s.answer r).1) (s.answer r).2 := rfl

@[simp] theorem settle_pure (a : α) (s : Session) : settle (pure a) s = (.ok a, s) := rfl

@[simp] theorem settle_throw (fault : Fault) (s : Session) :
    settle (throw fault : Action α) s = (.error fault, s) := rfl

/-- What follows a piece of work is done only if it ended with a value. -/
theorem settle_bind (work : Action α) (after : α → Action β) (s : Session) :
    settle (work >>= after) s =
      match settle work s with
      | (.ok a, t) => settle (after a) t
      | (.error fault, t) => (.error fault, t) := by
  induction work generalizing s with
  | done outcome => cases outcome <;> rfl
  | request r next ih =>
    rw [request_bind, settle_request, settle_request]
    exact ih _ _

@[simp] theorem settle_attempt (work : Action α) (s : Session) :
    settle (attempt work) s = (.ok (settle work s).1, (settle work s).2) := by
  induction work generalizing s with
  | done outcome => rfl
  | request r next ih => exact ih _ _

@[simp] theorem settle_recordFailure (failure : Failure) (s : Session) :
    settle (recordFailure failure) s =
      (.ok (), { s with failures := s.failures ++ [failure] }) := rfl

@[simp] theorem settle_wait (seconds : Binary64) (s : Session) :
    settle (wait seconds) s = ((s.host.wait seconds).1, s.withHost (s.host.wait seconds).2) := rfl

@[simp] theorem settle_start (argv : List Text) (timeout : Option Binary64) (redirect : Redirect)
    (s : Session) :
    settle (start argv timeout redirect) s =
      ((s.host.start argv timeout redirect).1,
        s.withHost (s.host.start argv timeout redirect).2) := rfl

end Diagnostics.Action
