import Diagnostics.Proofs.FanOut.Guarded

/-!
# Schedules, and what follows one on sessions that are alike

Who takes the next turn is all that is open in a run: the worker says what the turn is, and the
session what comes of it. So a schedule is a list of positions among the workers
(`FanOut.follow`), and there is a schedule for whatever a run comes to
(`FanOut.steps_iff_exists_schedule`).

Sessions are alike to requests of some kind if each has one answer on both and leaves sessions that
are (`Session.Answers`). Work that makes only such requests does not tell these sessions apart, and
neither do groups that run at the same time: a schedule that can be followed on one can be followed
on the other, and leads to the same workers (`FanOut.Alike.follow`).
-/

set_option autoImplicit false

namespace Diagnostics

/-! ## Sessions -/

/-- Requests of this kind, those that record among them, have the same answer from sessions that
are alike, and leave such sessions. -/
structure Session.Answers (allowed : Request → Prop) (Q : Session → Session → Prop) : Prop where
  answer : ∀ {s s' : Session} {r : Request}, allowed r → Q s s' →
    (s.answer r).1 = (s'.answer r).1 ∧ Q (s.answer r).2 (s'.answer r).2
  record : ∀ failure, allowed (.record failure)

namespace Session.Answers

variable {allowed : Request → Prop} {Q : Session → Session → Prop}
  (hQ : Session.Answers allowed Q) {s s' : Session}

include hQ

theorem settle {α : Type} {work : Action α} {past : List Failure}
    (hwork : work.Guarantees (fun _ => True) allowed (fun _ _ => True) past) (h : Q s s') :
    (work.settle s).1 = (work.settle s').1 ∧ Q (work.settle s).2 (work.settle s').2 := by
  induction work generalizing s s' past with
  | done outcome => exact ⟨rfl, h⟩
  | request r next ih =>
    obtain ⟨hanswer, hleft⟩ := hQ.answer hwork.1 h
    rw [Action.settle_request, Action.settle_request, ← hanswer]
    exact ih _ (hwork.2 s trivial) hleft

theorem recordAll (failures : List Failure) (h : Q s s') :
    Q (s.recordAll failures) (s'.recordAll failures) := by
  induction failures generalizing s s' with
  | nil =>
    unfold Session.recordAll
    rw [List.append_nil, List.append_nil]
    exact h
  | cons failure failures ih =>
    have hrecorded := ih (hQ.answer (hQ.record failure) h).2
    unfold Session.recordAll Session.answer at hrecorded
    unfold Session.recordAll
    rw [List.append_cons, List.append_cons s'.failures]
    exact hrecorded

end Session.Answers

/-! ## Schedules -/

namespace FanOut

variable {context : Context} {limit : Nat} {f f' g : FanOut}

/-- The moment after the turn of the worker at a position, if it can take one: there has to be room
for a worker that is to begin. -/
def turn (context : Context) (limit : Nat) (f : FanOut) (i : Nat) : Option FanOut :=
  match f.workers[i]? with
  | none => none
  | some (.queued group) =>
    if (f.workers.eraseIdx i).countP Worker.isBusy < limit then
      let begun := .running group [] (group.gather (context.forGroup group.name))
      some { f with workers := f.workers.set i begun }
    else none
  | some (.running group reported (.request r next)) =>
    let answered := f.session.answer r
    let advanced := .running group (reported ++ r.failures) (next answered.1)
    some { f with session := answered.2, workers := f.workers.set i advanced }
  | some (.running group reported (.done outcome)) =>
    let j : Joined := ⟨group, reported, outcome⟩
    some ⟨f.session.recordAll j.crash, f.workers.eraseIdx i, f.joined ++ [j]⟩

/-- The moment after the turns of a schedule, if all of them can be taken. -/
def follow (context : Context) (limit : Nat) : FanOut → List Nat → Option FanOut
  | f, [] => some f
  | f, i :: schedule =>
    match f.turn context limit i with
    | some g => g.follow context limit schedule
    | none => none

section

variable {s : Session} {before after : List Worker} {joined : List Joined}

theorem turn_queued (group : Group) :
    turn context limit ⟨s, before ++ .queued group :: after, joined⟩ before.length =
      if (before ++ after).countP Worker.isBusy < limit then
        some ⟨s, before ++ .running group [] (group.gather (context.forGroup group.name)) :: after,
          joined⟩
      else none := by
  simp [turn, List.eraseIdx_append_of_length_le]

theorem turn_request (group : Group) (reported : List Failure) (r : Request)
    (next : r.Answer → Action GroupResult) :
    turn context limit ⟨s, before ++ .running group reported (.request r next) :: after, joined⟩
        before.length =
      some ⟨(s.answer r).2,
        before ++ .running group (reported ++ r.failures) (next (s.answer r).1) :: after,
        joined⟩ := by
  simp [turn]

theorem turn_done (j : Joined) :
    turn context limit ⟨s, before ++ .running j.group j.reported (.done j.outcome) :: after, joined⟩
        before.length =
      some ⟨s.recordAll j.crash, before ++ after, joined ++ [j]⟩ := by
  simp [turn, List.eraseIdx_append_of_length_le]

end

/-- A turn is a step, and each step is the turn of some worker. -/
theorem step_iff_exists_turn : Step context limit f g ↔ ∃ i, f.turn context limit i = some g := by
  constructor
  · intro h
    cases h with
    | @begin s before after joined group hroom =>
      exact ⟨before.length, by rw [turn_queued, if_pos hroom]⟩
    | @advance s before after joined group reported r next =>
      exact ⟨before.length, turn_request group reported r next⟩
    | @join s before after joined j => exact ⟨before.length, turn_done j⟩
  · rintro ⟨i, h⟩
    obtain ⟨s, workers, joined⟩ := f
    cases hworker : workers[i]? with
    | none =>
      unfold turn at h
      rw [hworker] at h
      cases h
    | some w =>
      obtain ⟨hi, rfl⟩ := List.getElem?_eq_some_iff.mp hworker
      obtain ⟨before, w, after, rfl, rfl⟩ : ∃ before w after,
          workers = before ++ w :: after ∧ before.length = i :=
        ⟨workers.take i, workers[i], workers.drop (i + 1), by simp, by simp [hi.le]⟩
      cases w with
      | queued group =>
        rw [turn_queued] at h
        split at h
        · cases h
          exact .begin group ‹_›
        · cases h
      | running group reported rest =>
        cases rest with
        | request r next =>
          rw [turn_request] at h
          cases h
          exact .advance group reported r next
        | done outcome =>
          rw [turn_done ⟨group, reported, outcome⟩] at h
          cases h
          exact .join ⟨group, reported, outcome⟩

theorem follow_cons (f : FanOut) (i : Nat) (schedule : List Nat) :
    f.follow context limit (i :: schedule) =
      Option.bind (f.turn context limit i) fun g => g.follow context limit schedule := by
  rw [follow]
  cases f.turn context limit i <;> rfl

/-- Whatever a run comes to is what some schedule leads to. -/
theorem steps_iff_exists_schedule :
    Steps context limit f g ↔ ∃ schedule, f.follow context limit schedule = some g := by
  constructor
  · intro h
    induction h using Relation.ReflTransGen.head_induction_on with
    | refl => exact ⟨[], rfl⟩
    | head hstep _ ih =>
      obtain ⟨i, hturn⟩ := step_iff_exists_turn.mp hstep
      obtain ⟨schedule, hfollow⟩ := ih
      exact ⟨i :: schedule, by rw [follow_cons, hturn, Option.bind_some, hfollow]⟩
  · rintro ⟨schedule, h⟩
    induction schedule generalizing f with
    | nil =>
      cases h
      exact .refl
    | cons i schedule ih =>
      rw [follow_cons] at h
      obtain ⟨next, hturn, hfollow⟩ := Option.bind_eq_some_iff.mp h
      exact .head (step_iff_exists_turn.mpr ⟨i, hturn⟩) (ih hfollow)

/-! ## Moments that are alike -/

/-- Two moments with the same workers, on sessions that are alike. -/
structure Alike (Q : Session → Session → Prop) (f f' : FanOut) : Prop where
  session : Q f.session f'.session
  workers : f.workers = f'.workers
  joined : f.joined = f'.joined

variable {allowed : Request → Prop} {Q : Session → Session → Prop}

theorem Alike.symm (hQ : ∀ {s s'}, Q s s' → Q s' s) (h : f.Alike Q f') : f'.Alike Q f :=
  ⟨hQ h.session, h.workers.symm, h.joined.symm⟩

theorem Alike.report_eq (h : f.Alike Q f')
    (hfailures : f.session.failures = f'.session.failures) : f.report = f'.report := by
  unfold report
  rw [h.joined, hfailures]

/-- The worker whose turn it is does the same at both moments. -/
theorem Alike.turn (hQ : Session.Answers allowed Q)
    (hf : Guarded context (fun _ => True) (fun _ => allowed) f) (h : f.Alike Q f') {i : Nat}
    (hturn : f.turn context limit i = some g) :
    ∃ g', f'.turn context limit i = some g' ∧ g.Alike Q g' := by
  obtain ⟨s, workers, joined⟩ := f
  obtain ⟨s', workers', joined'⟩ := f'
  obtain ⟨hs, rfl, rfl⟩ : Q s s' ∧ workers = workers' ∧ joined = joined' :=
    ⟨h.session, h.workers, h.joined⟩
  unfold FanOut.turn at hturn ⊢
  dsimp only at hturn ⊢
  split at hturn
  · cases hturn
  · split at hturn
    · cases hturn
      rw [if_pos ‹_›]
      exact ⟨_, rfl, hs, rfl, rfl⟩
    · cases hturn
  · rename_i hworker
    cases hturn
    have hallowed := (hf.workers _ (List.mem_of_getElem? hworker)).1
    obtain ⟨hanswer, hleft⟩ := hQ.answer hallowed hs
    rw [← hanswer]
    exact ⟨_, rfl, hleft, rfl, rfl⟩
  · cases hturn
    exact ⟨_, rfl, hQ.recordAll _ hs, rfl, rfl⟩

/-- **A schedule is followed alike on sessions that are.** -/
theorem Alike.follow (hQ : Session.Answers allowed Q)
    (hf : Guarded context (fun _ => True) (fun _ => allowed) f) (h : f.Alike Q f')
    {schedule : List Nat} (hfollow : f.follow context limit schedule = some g) :
    ∃ g', f'.follow context limit schedule = some g' ∧ g.Alike Q g' := by
  have hstays : StaysWithin (fun _ => True) (fun _ => allowed) fun _ _ => True :=
    ⟨fun _ => trivial, fun _ _ => trivial, fun _ _ => ⟨trivial, trivial⟩,
      fun _ _ => ⟨trivial, trivial⟩⟩
  induction schedule generalizing f f' with
  | nil =>
    cases hfollow
    exact ⟨f', rfl, h⟩
  | cons i schedule ih =>
    rw [follow_cons] at hfollow
    obtain ⟨next, hturn, hrest⟩ := Option.bind_eq_some_iff.mp hfollow
    obtain ⟨next', hturn', hnext⟩ := h.turn hQ hf hturn
    have hguarded := (hf.step hstays (step_iff_exists_turn.mpr ⟨i, hturn⟩)).1
    obtain ⟨g', hfollow', hg⟩ := ih hguarded hnext hrest
    exact ⟨g', by rw [follow_cons, hturn', Option.bind_some, hfollow'], hg⟩

end FanOut

end Diagnostics
