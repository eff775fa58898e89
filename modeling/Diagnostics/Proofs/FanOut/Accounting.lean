import Diagnostics.Proofs.FanOut.Step
import Diagnostics.Proofs.Footprint
import Diagnostics.Proofs.Interleaving

/-!
# A run loses nothing and counts nothing twice

Whatever the schedule, a run that has joined all its workers has one result for each selected group,
and its record is an interleaving of what the groups recorded and of what was recorded in joining
them: the failures of a group stand in the order in which the group recorded them, the failure of
its crash, if it crashed, behind them.

The invariant is `FanOut.Consistent`. It relates the record at every moment to what the workers have
recorded so far and to what was joined, and it keeps for each worker what its remaining work
guarantees, which is why the end of the work says something about its past.
-/

set_option autoImplicit false

namespace Diagnostics

open Diagnostics.Action

/-- What is known of a group that has recorded so much: its failures are its own. -/
def Group.Owns (group : Group) (reported : List Failure) : Prop :=
  ∀ failure ∈ reported, failure.group = group.name

/-- Nothing is known of the session, and nothing of the places that are written to. -/
abbrev Group.Makes (group : Group) (context : Context) : Request → Prop :=
  group.Admits (context.forGroup group.name) fun _ => True

/-- What a request of a group records is the group's own. -/
theorem Group.Admits.owns {group : Group} {context : Context} {here : Location → Prop}
    {r : Request} (h : group.Admits context here r) : group.Owns r.failures := by
  intro failure hfailure
  cases r
  case record f =>
    obtain rfl := List.mem_singleton.mp hfailure
    exact h
  all_goals exact absurd hfailure List.not_mem_nil

namespace FanOut

variable {context : Context} {limit : Nat} {selected : List Group} {past : List Failure}

/-- What holds at every moment of a run. -/
structure Consistent (context : Context) (selected : List Group) (past : List Failure)
    (f : FanOut) : Prop where
  /-- Every selected group has its worker or was joined. -/
  groups : (f.workers.map Worker.group ++ f.joined.map Joined.group).Perm selected
  /-- The record is what all of them have recorded. -/
  record : ∃ added, f.session.failures = past ++ added ∧
    Interleaves (f.workers.map Worker.reported ++ f.joined.map Joined.failures) added
  /-- A worker goes on as its group does. -/
  working : ∀ group reported rest, .running group reported rest ∈ f.workers →
    rest.Guarantees (fun _ => True) (group.Makes context) group.Ends reported ∧
      group.Owns reported
  /-- What was joined had ended as its group does. -/
  ended : ∀ j ∈ f.joined, j.group.Ends j.reported j.outcome ∧ j.group.Owns j.reported

theorem consistent_initial (s : Session) :
    Consistent context selected s.failures (initial selected s) where
  groups := by simp [initial, Worker.group, Function.comp_def]
  record := by
    refine ⟨[], (List.append_nil _).symm, Interleaves.of_forall_nil ?_⟩
    simp [initial, Worker.reported]
  working := by simp [initial]
  ended := by simp [initial]

/-- A worker that has recorded more, in the middle of all others. -/
theorem interleaves_advance {before after : List Worker} {joined : List Joined} {w : Worker}
    {added : List Failure} (w' : Worker) (more : List Failure)
    (h : Interleaves ((before ++ w :: after).map Worker.reported ++ joined.map Joined.failures)
      added) (hw : w'.reported = w.reported ++ more) :
    Interleaves ((before ++ w' :: after).map Worker.reported ++ joined.map Joined.failures)
      (added ++ more) := by
  rw [List.map_append, List.map_cons, List.append_assoc, List.cons_append] at h ⊢
  rw [hw]
  exact h.append_middle more

/-- A worker that is joined, with what is recorded in doing so. -/
theorem interleaves_join {before after : List Worker} {joined : List Joined} {w : Worker}
    {j : Joined} {added : List Failure}
    (h : Interleaves ((before ++ w :: after).map Worker.reported ++ joined.map Joined.failures)
      added) (hw : w.reported = j.reported) :
    Interleaves ((before ++ after).map Worker.reported ++ (joined ++ [j]).map Joined.failures)
      (added ++ j.crash) := by
  rw [List.map_append, List.map_cons, List.append_assoc, List.cons_append, hw] at h
  refine (h.append_middle j.crash).perm ?_
  rw [List.map_append, List.map_append, List.map_singleton, List.append_assoc,
    ← List.append_assoc (after.map _)]
  exact List.Perm.append_left _ (List.perm_append_singleton _ _).symm

theorem Consistent.step {f g : FanOut} (hf : Consistent context selected past f)
    (h : Step context limit f g) : Consistent context selected past g := by
  obtain ⟨hgroups, ⟨added, hrecord, hparts⟩, hworking, hended⟩ := hf
  cases h with
  | @begin s before after joined group hroom =>
    refine ⟨?_, ⟨added, hrecord, ?_⟩, fun group' reported rest hmem => ?_, hended⟩
    · simpa [Worker.group] using hgroups
    · -- Beginning adds nothing to what the group has recorded.
      have hnew := interleaves_advance (.running group []
        (group.gather (context.forGroup group.name))) [] hparts rfl
      rwa [List.append_nil] at hnew
    · rcases mem_middle.mp hmem with heq | hmem
      · cases heq
        exact ⟨Group.gather_guarantees (fun _ _ _ _ _ _ _ => trivial) rfl,
          fun _ h => absurd h List.not_mem_nil⟩
      · exact hworking _ _ _ (mem_middle.mpr (Or.inr hmem))
  | @advance s before after joined group reported r next =>
    -- What is guaranteed of a request: that it is the group's own, and the rest after any answer.
    obtain ⟨⟨hmakes, hnext⟩, howns⟩ :=
      hworking group reported _ (List.mem_append_right _ List.mem_cons_self)
    refine ⟨?_, ⟨added ++ r.failures, ?_, ?_⟩, fun group' reported' rest hmem => ?_, hended⟩
    · simpa [Worker.group] using hgroups
    · rw [Session.answer_failures]
      show s.failures ++ r.failures = _
      rw [← List.append_assoc]
      exact congrArg (· ++ r.failures) hrecord
    · exact interleaves_advance _ r.failures hparts rfl
    · rcases mem_middle.mp hmem with heq | hmem
      · cases heq
        refine ⟨hnext s trivial, fun failure hfailure => ?_⟩
        rcases List.mem_append.mp hfailure with hfailure | hfailure
        · exact howns failure hfailure
        · exact hmakes.owns failure hfailure
      · exact hworking _ _ _ (mem_middle.mpr (Or.inr hmem))
  | @join s before after joined j =>
    refine ⟨?_, ⟨added ++ j.crash, ?_, ?_⟩, fun group' reported' rest hmem => ?_, fun k hk => ?_⟩
    · -- The group goes over from the workers to what was joined.
      refine List.Perm.trans ?_ hgroups
      simp only [List.map_append, List.map_cons, List.map_nil, List.append_assoc]
      refine List.Perm.append_left _ ?_
      rw [← List.append_assoc, List.cons_append]
      exact List.perm_append_singleton _ _
    · show s.failures ++ j.crash = _
      rw [← List.append_assoc]
      exact congrArg (· ++ j.crash) hrecord
    · exact interleaves_join hparts rfl
    · exact hworking group' reported' rest (mem_middle.mpr (Or.inr hmem))
    · rcases List.mem_append.mp hk with hk | hk
      · exact hended k hk
      · obtain rfl := List.mem_singleton.mp hk
        exact hworking _ _ _ (List.mem_append_right _ List.mem_cons_self)

/-- Every reachable moment of a run is consistent. -/
theorem consistent_of_steps {s : Session} {f : FanOut}
    (h : Steps context limit (initial selected s) f) :
    Consistent context selected s.failures f := by
  induction h with
  | refl => exact consistent_initial s
  | tail _ hstep ih => exact ih.step hstep

/-- Names are used once, so each group is that of one worker, or of one that was joined. -/
theorem Consistent.nodup {f : FanOut} (hf : Consistent context selected past f)
    (hnames : (selected.map Group.name).Nodup) :
    (f.workers.map Worker.group ++ f.joined.map Joined.group).Nodup :=
  hf.groups.nodup_iff.mpr (List.Nodup.of_map _ hnames)

theorem Consistent.eq_of_group_eq {f : FanOut} (hf : Consistent context selected past f)
    (hnames : (selected.map Group.name).Nodup) {w w' : Worker} (hw : w ∈ f.workers)
    (hw' : w' ∈ f.workers) (h : w.group = w'.group) : w = w' :=
  List.inj_on_of_nodup_map (hf.nodup hnames).of_append_left hw hw' h

theorem Consistent.group_ne_of_joined {f : FanOut} (hf : Consistent context selected past f)
    (hnames : (selected.map Group.name).Nodup) {w : Worker} {j : Joined} (hw : w ∈ f.workers)
    (hj : j ∈ f.joined) : j.group ≠ w.group :=
  fun heq => (List.nodup_append'.mp (hf.nodup hnames)).2.2 (List.mem_map_of_mem hw)
    (heq ▸ List.mem_map_of_mem hj)

/-! ## The end of a run -/

/-- What a run that has joined all its workers has to show for them. -/
structure Accounts (selected : List Group) (past : List Failure) (f : FanOut) : Prop where
  /-- Every selected group was joined once, and no other. -/
  groups : (f.joined.map Joined.group).Perm selected
  /-- What was joined of a group has its name. -/
  names : f.report.groups.map GroupResult.name = f.joined.map fun j => j.group.name
  /-- A group that ended with a fault has no artifacts, and one failure for it, of its own name,
  behind what its work reported by itself. -/
  crashed : ∀ j ∈ f.joined, ∀ fault, j.outcome = .error fault →
    j.result = ⟨j.group.name, []⟩ ∧
      j.failures = j.group.announced ++ [⟨j.group.name, j.group.name, .unexpected,
        j.group.name ++ ": " ++ fault.message⟩]
  /-- Failures are attributed to the group that they are of. -/
  owned : ∀ j ∈ f.joined, j.group.Owns j.failures
  /-- The failures of the report are those of the past and an interleaving of those of all groups. -/
  failures : ∃ added, f.report.failures = past ++ added ∧
    Interleaves (f.joined.map Joined.failures) added

theorem owns_crash (j : Joined) : j.group.Owns j.crash := by
  intro failure hfailure
  unfold Joined.crash at hfailure
  cases houtcome : j.outcome with
  | ok result =>
    rw [houtcome] at hfailure
    exact absurd hfailure List.not_mem_nil
  | error fault =>
    rw [houtcome] at hfailure
    obtain rfl := List.mem_singleton.mp hfailure
    rfl

theorem result_name {j : Joined} (h : j.group.Ends j.reported j.outcome) :
    j.result.name = j.group.name := by
  unfold Joined.result
  cases houtcome : j.outcome with
  | ok result => exact h.1 result houtcome
  | error fault => rfl

/-- What is joined of a group has artifacts only if the group ended with them. -/
theorem ok_of_mem_result {j : Joined} {path : Path} (h : path ∈ j.result.artifacts) :
    ∃ result, j.outcome = .ok result ∧ path ∈ result.artifacts := by
  unfold Joined.result at h
  cases houtcome : j.outcome with
  | ok result =>
    rw [houtcome] at h
    exact ⟨result, rfl, h⟩
  | error fault =>
    rw [houtcome] at h
    cases h

theorem Consistent.accounts {f : FanOut} (hf : Consistent context selected past f)
    (hdone : f.workers = []) : f.Accounts selected past where
  groups := by simpa [hdone] using hf.groups
  names := by
    show (f.joined.map Joined.result).map GroupResult.name = _
    rw [List.map_map]
    exact List.map_congr_left fun j hj => result_name (hf.ended j hj).1
  crashed := by
    intro j hj fault hfault
    have hreported : j.reported = j.group.announced := (hf.ended j hj).1.2 fault hfault
    unfold Joined.result Joined.failures Joined.crash
    rw [hfault, hreported]
    exact ⟨rfl, rfl⟩
  owned := by
    intro j hj failure hfailure
    rcases List.mem_append.mp hfailure with hfailure | hfailure
    · exact (hf.ended j hj).2 failure hfailure
    · exact owns_crash j failure hfailure
  failures := by
    obtain ⟨added, hrecord, hparts⟩ := hf.record
    rw [hdone] at hparts
    exact ⟨added, hrecord, hparts⟩

/-- With distinct names, the failures of one name are those of one group, in their order. -/
theorem Accounts.filter_failures {f : FanOut} (hf : f.Accounts selected past)
    (hnames : (selected.map Group.name).Nodup) {j : Joined} (hj : j ∈ f.joined) :
    f.report.failures.filter (·.group = j.group.name) =
      past.filter (·.group = j.group.name) ++ j.failures := by
  obtain ⟨added, hfailures, hparts⟩ := hf.failures
  obtain ⟨before, after, hjoined⟩ := List.append_of_mem hj
  have hdistinct : (f.joined.map fun j => j.group.name).Nodup := by
    refine (List.Perm.nodup_iff ?_).mpr hnames
    simpa [Function.comp_def] using hf.groups.map Group.name
  have hown : j.failures.filter (·.group = j.group.name) = j.failures :=
    List.filter_eq_self.mpr fun failure hfailure => by simpa using hf.owned j hj failure hfailure
  -- Names are distinct, so nobody else has recorded anything under this one.
  have hothers : ∀ part ∈ (before ++ after).map Joined.failures,
      part.filter (·.group = j.group.name) = [] := by
    intro part hpart
    obtain ⟨k, hk, rfl⟩ := List.mem_map.mp hpart
    refine List.filter_eq_nil_iff.mpr fun failure hfailure => ?_
    have hkmem : k ∈ f.joined := by
      rw [hjoined]
      exact mem_middle.mpr (Or.inr hk)
    rw [hjoined, List.map_append, List.map_cons, List.nodup_middle, List.nodup_cons,
      ← List.map_append] at hdistinct
    rw [decide_eq_true_eq, hf.owned k hkmem failure hfailure]
    exact fun hname => hdistinct.1 (hname ▸ List.mem_map_of_mem hk)
  rw [hjoined, List.map_append, List.map_cons] at hparts
  have hfilter := ((hparts.perm List.perm_middle).filter (·.group = j.group.name))
  rw [List.map_cons, ← List.map_append] at hfilter
  rw [hfailures, List.filter_append, hfilter.eq_of_forall_nil, hown]
  intro part hpart
  obtain ⟨kept, hkept, rfl⟩ := List.mem_map.mp hpart
  exact hothers kept hkept

/-- **Fan-out and fan-in.** From the moment that the workers are made, no schedule goes on for ever
or gets stuck, whatever the number of workers at work; and when all workers are joined, the report
has one result for each selected group and for no other, a group that crashed has no artifacts and
one failure that names it, behind those that it reported before, and the failures are exactly those
that the groups recorded and those of the crashes, with the ones of each group in the order in which
they were recorded. -/
theorem fan_out_accounts {groups : List Group} {includeTrace : Bool} {s : Session} {f : FanOut}
    (hlimit : 0 < limit)
    (h : Steps context limit (initial (selectedGroups groups includeTrace) s) f) :
    Acc (fun g f => Step context limit f g) f ∧
      (f.workers ≠ [] → ∃ g, Step context limit f g) ∧
      (f.workers = [] → f.Accounts (selectedGroups groups includeTrace) s.failures) :=
  ⟨step_wellFounded.apply f, exists_step hlimit, (consistent_of_steps h).accounts⟩

namespace Example

/-- A group whose work reports an error before it breaks. -/
def crashing : Group := ⟨"crashing", false, .broken [.reported .io "disk" "dusty"] (.broken "boom")⟩

def failing : Group := ⟨"failing", false, .tasks [.stub "a" (some (.broken "no"))]⟩

/-- A group that runs only when traces are asked for. -/
def tracing : Group := ⟨"tracing", true, .tasks []⟩

def stage : Context := ⟨Path.ofText "stage", .service, "", 1, 0⟩

def bare : Session :=
  ⟨⟨⟨.directory [], [], []⟩, fun _ => none, fun _ => 0, fun _ _ => .text "", fun _ => 0, false,
    [], .posix⟩, []⟩

def taskFailure : Failure := ⟨"failing", "stub a", .unexpected, "stub a: no"⟩

def dustFailure : Failure := ⟨"crashing", "disk", .io, "dusty"⟩

def crashFailure : Failure := ⟨"crashing", "crashing", .unexpected, "crashing: boom"⟩

/-- The end of a run in which the group that was given second is joined first. -/
def joinedSecondFirst : FanOut :=
  ⟨{ bare with failures := [dustFailure, taskFailure, crashFailure] }, [],
    [⟨failing, [taskFailure], .ok ⟨"failing", []⟩⟩,
      ⟨crashing, [dustFailure], .error (.broken "boom")⟩]⟩

end Example

open FanOut.Example

/-- Both groups begin and record a failure each, the second is joined, and then the first, which has
crashed, is. -/
theorem fan_out_accounts_crash :
    Steps stage 2 (initial (selectedGroups [crashing, tracing, failing] false) bare)
        joinedSecondFirst ∧
      joinedSecondFirst.report =
        ⟨[⟨"failing", []⟩, ⟨"crashing", []⟩], [dustFailure, taskFailure, crashFailure]⟩ ∧
      joinedSecondFirst.Accounts (selectedGroups [crashing, tracing, failing] false) [] := by
  let ended : Worker := .running crashing [dustFailure] (.done (.error (.broken "boom")))
  let dusty : Session := { bare with failures := [dustFailure] }
  have hsteps : Steps stage 2 (initial (selectedGroups [crashing, tracing, failing] false) bare)
      joinedSecondFirst :=
    .head (@Step.begin stage 2 bare [] [.queued failing] [] crashing (by decide)) <|
    .head (@Step.advance stage 2 bare [] [.queued failing] [] crashing [] (.record dustFailure) _) <|
    .head (@Step.begin stage 2 dusty [ended] [] [] failing (by decide)) <|
    .head (@Step.advance stage 2 dusty [ended] [] [] failing [] (.record taskFailure) _) <|
    .head (@Step.join stage 2 _ [ended] [] [] ⟨failing, [taskFailure], .ok ⟨"failing", []⟩⟩) <|
    .head (@Step.join stage 2 _ [] [] _ ⟨crashing, [dustFailure], .error (.broken "boom")⟩) .refl
  exact ⟨hsteps, rfl, (fan_out_accounts (by decide) hsteps).2.2 rfl⟩

end FanOut

end Diagnostics
