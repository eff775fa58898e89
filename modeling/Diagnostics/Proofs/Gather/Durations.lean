import Diagnostics.Proofs.Calls
import Diagnostics.Proofs.Catalog.Durations
import Diagnostics.Proofs.FanOut.Guarded
import Diagnostics.Proofs.Gather.Run

/-!
# Durations of a run

Numbers of seconds come from three places: the catalog, the environment, and the request. All that a
run does with them is to limit its programs and to wait (`FanOut.callsOnly_of_steps`), and each was
checked where it came from, by refusing what compares with zero in the wrong way. A NaN does not
compare, so what a run takes is in range or is a NaN that it was given
(`GatherRequest.durations_in_range_or_nan`).
-/

set_option autoImplicit false

namespace Diagnostics

open Diagnostics.Action

/-! ## Calls and their durations -/

namespace Call

/-- A program is limited to a positive time, if at all, and a wait is not for less than nothing. -/
def InRange : Call → Prop
  | .run _ timeout _ => ∀ limit, timeout = some limit → 0 < limit
  | .query _ _ => True
  | .wait seconds _ => 0 ≤ seconds

/-- A call with a NaN for its duration, which is among the limits or the waits that were given. -/
inductive HasNaN (timeouts : List (Option Binary64)) (waits : List Binary64) : Call → Prop
  | run {argv : List Text} {channel : Channel} (h : some .nan ∈ timeouts) :
    HasNaN timeouts waits (.run argv (some .nan) channel)
  | wait {cancelled : Bool} (h : .nan ∈ waits) : HasNaN timeouts waits (.wait .nan cancelled)

/-- The duration of a call is one of the limits or waits that were given. -/
def Takes (timeouts : List (Option Binary64)) (waits : List Binary64) : Call → Prop
  | .run _ timeout _ => timeout ∈ timeouts
  | .query _ _ => True
  | .wait seconds _ => seconds ∈ waits

/-- A duration that is not on the wrong side of zero is in range, or it is a NaN. -/
theorem Takes.inRange_or_hasNaN {timeouts : List (Option Binary64)} {waits : List Binary64}
    {call : Call} (h : call.Takes timeouts waits)
    (htimeouts : ∀ limit, some limit ∈ timeouts → ¬ limit ≤ 0)
    (hwaits : ∀ seconds ∈ waits, ¬ seconds < 0) :
    call.InRange ∨ call.HasNaN timeouts waits := by
  cases call with
  | run argv timeout channel =>
    cases timeout with
    | none => exact Or.inl nofun
    | some limit =>
      rcases eq_or_ne limit .nan with rfl | hnan
      · exact Or.inr (.run h)
      · left
        rintro _ ⟨⟩
        exact (Binary64.not_le hnan Binary64.zero_ne_nan).mp (htimeouts limit h)
  | query className namespaceName => exact Or.inl trivial
  | wait seconds cancelled =>
    rcases eq_or_ne seconds .nan with rfl | hnan
    · exact Or.inr (.wait h)
    · exact Or.inl ((Binary64.not_lt hnan Binary64.zero_ne_nan).mp (hwaits seconds h))

end Call

namespace Session

/-- What was called between two sessions has a property, and what was called before is on record
unchanged. -/
def CallsOnly (p : Call → Prop) (s t : Session) : Prop :=
  ∃ made, t.host.calls = s.host.calls ++ made ∧ ∀ call ∈ made, p call

theorem CallsOnly.refl (p : Call → Prop) (s : Session) : s.CallsOnly p s :=
  ⟨[], (List.append_nil _).symm, nofun⟩

theorem CallsOnly.trans {p : Call → Prop} {s t u : Session} (h : s.CallsOnly p t)
    (h' : t.CallsOnly p u) : s.CallsOnly p u := by
  obtain ⟨made, hcalls, hmade⟩ := h
  obtain ⟨made', hcalls', hmade'⟩ := h'
  refine ⟨made ++ made', ?_, fun call hcall => ?_⟩
  · rw [hcalls', hcalls, List.append_assoc]
  · rcases List.mem_append.mp hcall with hcall | hcall
    · exact hmade call hcall
    · exact hmade' call hcall

end Session

/-! ## What groups take their durations from -/

/-- A request that takes as long as its task says makes calls that do. -/
theorem Task.Times.takes {group : Group} {task : Task} {context : Context} {r : Request}
    (h : task.Times context r) (htask : task ∈ group.tasks) (cancelled : Bool) :
    ∀ call ∈ r.calls cancelled, call.Takes (group.timeouts context) (group.waits context) := by
  intro call hcall
  cases r with
  | start argv timeout redirect =>
    rw [List.mem_singleton.mp hcall]
    exact List.mem_flatMap.mpr ⟨task, htask, h⟩
  | query className namespaceName =>
    rw [List.mem_singleton.mp hcall]
    trivial
  | wait seconds =>
    rw [List.mem_singleton.mp hcall]
    exact List.mem_flatMap.mpr ⟨task, htask, h⟩
  | _ => exact absurd hcall List.not_mem_nil

theorem Call.Takes.mono {timeouts timeouts' : List (Option Binary64)} {waits waits' : List Binary64}
    {call : Call} (h : call.Takes timeouts waits) (htimeouts : timeouts ⊆ timeouts')
    (hwaits : waits ⊆ waits') : call.Takes timeouts' waits' := by
  cases call with
  | run argv timeout channel => exact htimeouts h
  | query className namespaceName => trivial
  | wait seconds cancelled => exact hwaits h

/-- **While groups run, programs are started with the limits of tasks, and waits are those of
tasks.** -/
theorem FanOut.callsOnly_of_steps {context : Context} {limit : Nat} {selected : List Group}
    {timeouts : List (Option Binary64)} {waits : List Binary64}
    (htimeouts : ∀ group ∈ selected, group.timeouts context ⊆ timeouts)
    (hwaits : ∀ group ∈ selected, group.waits context ⊆ waits) {s : Session} {f : FanOut}
    (h : Steps context limit (initial selected s) f) :
    s.CallsOnly (Call.Takes timeouts waits) f.session := by
  have hstays : StaysWithin (fun _ => True)
      (fun _ r => ∀ cancelled, ∀ call ∈ r.calls cancelled, call.Takes timeouts waits)
      (Session.CallsOnly (Call.Takes timeouts waits)) :=
    ⟨.refl _, .trans, fun hr _ => ⟨trivial, _, Session.answer_calls _ _, hr _⟩,
      fun _ _ => ⟨trivial, .refl _ _⟩⟩
  have hinitial : Guarded context (fun _ => True)
      (fun _ r => ∀ cancelled, ∀ call ∈ r.calls cancelled, call.Takes timeouts waits)
      (initial selected s) := by
    refine ⟨trivial, fun w hw => ?_⟩
    obtain ⟨group, hgroup, rfl⟩ := List.mem_map.mp hw
    have hasks : ∀ task ∈ group.tasks, ∀ r,
        task.Asks (context.forGroup group.name) (fun _ => True) r →
          ∀ cancelled, ∀ call ∈ r.calls cancelled, call.Takes timeouts waits :=
      fun task htask r hasks cancelled call hcall =>
        (hasks.times.takes htask cancelled call hcall).mono (htimeouts group hgroup)
          (hwaits group hgroup)
    -- Walking roots and recording what was met there calls nothing.
    exact (Group.gather_guarantees_of_asks rfl (fun _ _ _ _ _ _ _ _ => trivial) hasks
      (fun _ _ _ => List.forall_mem_nil _) fun _ _ _ => List.forall_mem_nil _).mono
        fun _ _ _ => trivial
  exact (hinitial.of_steps hstays h).2

/-! ## What a run is given -/

namespace Settings

/-- The limits that the groups of a run start programs with. -/
def timeouts (s : Settings) (backend : Option Backend) (groups : List Group) :
    List (Option Binary64) :=
  (s.selected groups).flatMap (·.timeouts (s.context backend))

/-- The times that the groups of a run wait for. -/
def waits (s : Settings) (backend : Option Backend) (groups : List Group) : List Binary64 :=
  (s.selected groups).flatMap (·.waits (s.context backend))

end Settings

section

variable {env : Environment} {backend : Option Backend} {request : GatherRequest} {host : Host}
  {disk : Disk} {settings : Settings} {groups : List Group}

/-- The selected groups of a plan have durations that were checked. -/
theorem GatherRequest.isTimely_of_plan (h : request.plan env disk = .ok (settings, groups)) :
    ∀ group ∈ settings.selected groups, group.IsTimely := by
  obtain ⟨-, hvalid, path, hload⟩ := plan_ok h
  obtain ⟨document, hparse⟩ := Catalog.load_ok hload
  have hdwell := (Settings.validate_ok_iff.mp hvalid).traceDwell
  intro group hgroup
  exact isTimely_of_mem_overrideDwell (Catalog.parse_isTimely hparse) hdwell group
    (List.mem_of_mem_filter hgroup)

/-- A backend that the caller gives has no limit, or one in range. -/
def Backend.IsTimely (backend : Backend) : Prop :=
  ∀ limit, some limit ∈ backend.timeouts → 0 < limit

theorem GatherRequest.not_le_zero_of_mem_timeouts (hbackend : ∀ given ∈ backend, given.IsTimely)
    (h : request.plan env disk = .ok (settings, groups)) {limit : Binary64}
    (hlimit : some limit ∈ settings.timeouts backend groups) : ¬ limit ≤ 0 := by
  obtain ⟨group, hgroup, hlimit⟩ := List.mem_flatMap.mp hlimit
  obtain ⟨task, htask, hlimit⟩ := List.mem_flatMap.mp hlimit
  have htimely := isTimely_of_plan h group hgroup task htask
  have hprocesses : some limit ∈ task.processes.map ProcessTask.timeout → ¬ limit ≤ 0 := by
    intro hlimit
    obtain ⟨program, hprogram, hlimit⟩ := List.mem_map.mp hlimit
    exact htimely.timeout program hprogram limit hlimit
  cases task with
  | query query =>
    cases backend with
    | none =>
      obtain ⟨-, hvalid, -⟩ := plan_ok h
      cases List.mem_singleton.mp hlimit
      exact (Settings.validate_ok_iff.mp hvalid).queryTimeout
    | some given => exact Binary64.not_le_of_lt (hbackend given rfl limit hlimit)
  | process task => exact hprocesses hlimit
  | capture task => exact hprocesses hlimit
  | stub output fault => exact hprocesses hlimit

theorem GatherRequest.not_lt_zero_of_mem_waits
    (h : request.plan env disk = .ok (settings, groups)) {seconds : Binary64}
    (hseconds : seconds ∈ settings.waits backend groups) : ¬ seconds < 0 := by
  obtain ⟨group, hgroup, hseconds⟩ := List.mem_flatMap.mp hseconds
  obtain ⟨task, htask, hseconds⟩ := List.mem_flatMap.mp hseconds
  have htimely := isTimely_of_plan h group hgroup task htask
  cases task with
  | query query =>
    dsimp only [Task.waits] at hseconds
    split at hseconds
    case isTrue hdelay =>
      rw [List.mem_singleton.mp hseconds]
      exact Binary64.not_lt_of_le (Or.inl hdelay)
    case isFalse => exact absurd hseconds List.not_mem_nil
  | capture capture =>
    rw [List.mem_singleton.mp hseconds]
    exact htimely.dwell capture rfl
  | process task => exact absurd hseconds List.not_mem_nil
  | stub output fault => exact absurd hseconds List.not_mem_nil

/-- The calls of a run are its groups'. -/
theorem GatherRun.callsOnly (run : GatherRun env backend request host) :
    ∃ made, run.outcome.2.calls = host.calls ++ made ∧ ∀ call ∈ made,
      call.Takes (run.settings.timeouts backend run.groups)
        (run.settings.waits backend run.groups) := by
  have hbegun : run.begun.host.calls = host.calls := by
    have hmade := run.made
    rw [ensureDirectories_settle] at hmade
    rw [← (Prod.mk.inj hmade).2]
    rfl
  have hsubset : ∀ {α : Type} (f : Group → List α), ∀ group ∈ run.settings.selected run.groups,
      f group ⊆ (run.settings.selected run.groups).flatMap f :=
    fun f group hgroup x hx => List.mem_flatMap.mpr ⟨group, hgroup, hx⟩
  have hcalls := FanOut.callsOnly_of_steps (hsubset _) (hsubset _) run.steps
  unfold Session.CallsOnly at hcalls
  rw [hbegun] at hcalls
  exact hcalls

/-- **Durations are in range, unless they were given as NaN.** However a request ends, whatever the
schedule, and so in what `gather` does: each program that was started was limited to a positive time
or not at all, and each wait was for a time that is not negative, or the duration was a NaN. And
then this NaN is a limit or a dwell of the catalog, or what the settings have for them. -/
theorem GatherRequest.durations_in_range_or_nan (hbackend : ∀ given ∈ backend, given.IsTimely)
    {ended : Except GatherFault GatherResult × Host}
    (hend : request.CanEnd env backend host ended) :
    ∃ made, ended.2.calls = host.calls ++ made ∧ ∀ call ∈ made,
      call.InRange ∨ ∃ settings groups, request.plan env host.disk = .ok (settings, groups) ∧
        call.HasNaN (settings.timeouts backend groups) (settings.waits backend groups) := by
  cases hend with
  | refused hplan => exact ⟨[], (List.append_nil _).symm, nofun⟩
  | unstaged hplan hmade => exact ⟨[], (List.append_nil _).symm, nofun⟩
  | ran run =>
    obtain ⟨made, hcalls, hmade⟩ := run.callsOnly
    refine ⟨made, hcalls, fun call hcall => ?_⟩
    have htakes := (hmade call hcall).inRange_or_hasNaN
      (fun _ => not_le_zero_of_mem_timeouts hbackend run.planned)
      fun _ => not_lt_zero_of_mem_waits run.planned
    exact htakes.imp_right fun hnan => ⟨_, _, run.planned, hnan⟩

end

namespace GatherRun.Example

/-- A capture with a dwell and a limit on its stop phase. -/
def timed : Host :=
  machine (catalog [("T", [task "capture" [("dwell_seconds", .integer 5),
    ("start", .object (program "wpr" "t")),
    ("stop", .object (("timeout_seconds", .integer 3) :: program "wpr" "t"))]])]) []
    (printing "wpr" 0x31)

/-- An environment that replaces the dwell of captures. -/
def dwelling (seconds : Text) : Environment :=
  fun name => if name = Variable.traceDwell.name then some seconds else none

/-- The calls of the capture: its start, its wait, and its stop within three seconds. -/
def timedCalls (dwell : Binary64) : List Call :=
  [.run ["wpr"] none .discard, .wait dwell false,
    .run ["wpr"] (some (.finite false (3 * 2 ^ 51) (-51))) .discard]

end GatherRun.Example

namespace GatherRequest

open GatherRun.Example

/-- A dwell of half a second goes before the catalog's, and nothing is out of range. -/
theorem durations_in_range_or_nan_capture :
    (gather (dwelling "0.5") none (request "s") timed).2.calls =
        timedCalls (.finite false (2 ^ 52) (-53)) ∧
      ∀ call ∈ timedCalls (.finite false (2 ^ 52) (-53)), call.InRange := by
  obtain ⟨hcalled, hgiven⟩ :
      (gather (dwelling "0.5") none (request "s") timed).2.calls =
          timedCalls (.finite false (2 ^ 52) (-53)) ∧
        ((request "s").plan (dwelling "0.5") timed.disk).toOption.map
            (fun plan => (plan.1.timeouts none plan.2, plan.1.waits none plan.2)) =
          some ([none, some (.finite false (3 * 2 ^ 51) (-51))],
            [.finite false (2 ^ 52) (-53)]) := by
    decide +kernel
  refine ⟨hcalled, ?_⟩
  obtain ⟨made, hcalls, hmade⟩ := @durations_in_range_or_nan _ none _ _ nofun _
    (gather_canEnd (dwelling "0.5") none (request "s") timed)
  rw [hcalled] at hcalls
  rw [show timedCalls _ = made from hcalls]
  intro call hcall
  refine (hmade call hcall).resolve_right ?_
  rintro ⟨settings, groups, hplan, hnan⟩
  rw [hplan] at hgiven
  obtain ⟨htimeouts, hwaits⟩ := Prod.mk.inj (Option.some.inj hgiven)
  dsimp only at htimeouts hwaits
  -- None of the durations that were given is a NaN.
  cases hnan with
  | run h =>
    rw [htimeouts] at h
    exact absurd h (by decide)
  | wait h =>
    rw [hwaits] at h
    exact absurd h (by decide)

/-- A dwell of NaN is not refused, and the run waits for it. -/
theorem dwell_out_of_range :
    (gather (dwelling "nan") none (request "s") timed).1.isOk = true ∧
      (gather (dwelling "nan") none (request "s") timed).2.calls = timedCalls .nan ∧
      ¬ ∀ call ∈ timedCalls .nan, call.InRange := by
  refine ⟨by decide +kernel, by decide +kernel, fun hrange => ?_⟩
  have hwait : (0 : Binary64) ≤ .nan := hrange (.wait .nan false) (by decide)
  exact absurd hwait (by decide)

end GatherRequest

end Diagnostics
