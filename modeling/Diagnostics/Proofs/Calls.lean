import Diagnostics.Proofs.Task.Start

/-!
# The record of calls

A host keeps a record of the calls that were made of it. Each request adds its own to the end
(`Session.answer_calls`), and all that a call says beyond the request is whether a wait found the run
interrupted, which `Call.uninterrupted` leaves out.
-/

set_option autoImplicit false

namespace Diagnostics

/-- The same call, by which nobody had interrupted the run. -/
def Call.uninterrupted : Call → Call
  | .wait seconds _ => .wait seconds false
  | call => call

/-- The calls that a request makes of the machine. -/
def Request.calls (cancelled : Bool) : Request → List Call
  | .start argv timeout redirect => [.run argv timeout redirect.channel]
  | .query className namespaceName => [.query className namespaceName]
  | .wait seconds => [.wait seconds cancelled]
  | _ => []

@[simp] theorem Request.map_uninterrupted_calls (r : Request) (cancelled : Bool) :
    (r.calls cancelled).map Call.uninterrupted = r.calls false := by
  cases r <;> rfl

theorem Session.answer_calls (s : Session) (r : Request) :
    (s.answer r).2.host.calls = s.host.calls ++ r.calls s.host.cancelled := by
  cases r with
  | openFile path =>
    unfold answer Request.calls
    dsimp only
    split <;> simp [withDisk]
  | start argv timeout redirect => exact Host.start_calls _ _ _ _
  | query className namespaceName =>
    unfold answer Host.ask
    dsimp only
    split <;> rfl
  | wait seconds => rfl
  | _ => simp [answer, Request.calls, withDisk]

end Diagnostics
