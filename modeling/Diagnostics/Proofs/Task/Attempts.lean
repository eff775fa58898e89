import Diagnostics.Proofs.Action
import Diagnostics.Task.Run

/-!
# Attempts at a query

There are two kinds of attempts at a query, the last one and one that others may follow. What each
does with its outcome is one equation (`QueryTask.askAgain_zero`, `QueryTask.askAgain_succ`), and
after these nothing has to tell faults apart.
-/

set_option autoImplicit false

namespace Diagnostics

open Diagnostics.Action

/-- Whether a query that ended with the fault is put again. -/
def Fault.isRetried : Fault → Bool
  | .query _ | .os _ => true
  | _ => false

/-- What is done before a query is put again. -/
def Context.pause (context : Context) : Action Unit :=
  if 0 < context.retryDelay then wait context.retryDelay else pure ()

namespace QueryTask

variable (task : QueryTask) (context : Context)

/-- Puts the query once. -/
def ask : Action Text :=
  context.backend.ask task.className task.namespaceName

/-- What the last attempt makes of its fault. -/
def giveUp (fault : Fault) : Fault :=
  if fault.isRetried then .task (.failed task.label (.unanswered fault.message)) else fault

theorem askAgain_zero :
    task.askAgain context 0 =
      attempt (task.ask context) >>= fun outcome => .done (outcome.mapError task.giveUp) := by
  rw [askAgain]
  refine congrArg (attempt (task.ask context) >>= ·) (funext fun outcome => ?_)
  rcases outcome with (_ | _ | _ | _ | _ | _ | _ | _) | _
  all_goals rfl

theorem askAgain_succ (retries : Nat) :
    task.askAgain context (retries + 1) =
      attempt (task.ask context) >>= fun
        | .ok text => pure text
        | .error fault =>
          if fault.isRetried then context.pause >>= fun _ => task.askAgain context retries
          else throw fault := by
  rw [askAgain]
  refine congrArg (attempt (task.ask context) >>= ·) (funext fun outcome => ?_)
  unfold Context.pause
  by_cases hdelay : 0 < context.retryDelay
  all_goals
    simp only [hdelay, if_true, if_false]
    rcases outcome with (_ | _ | _ | _ | _ | _ | _ | _) | _
    all_goals rfl

end QueryTask

end Diagnostics
