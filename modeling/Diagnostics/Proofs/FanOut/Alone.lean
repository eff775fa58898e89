import Diagnostics.Proofs.FanOut.Accounting
import Diagnostics.Proofs.Territory

/-!
# Each group ends as it would alone

Groups that share no file, and whose shared programs and classes are steady, do not notice each
other. At every moment of a run, whatever the schedule, each worker is on a course that it could be
on alone: there is a session that nobody else has touched, in which all that is the group's own is
as it is in the shared one, and from which the rest of the work leads to the end that the group
would come to if it ran by itself (`Worker.OnCourse`). A step of the worker moves that session
along, and a step of another worker leaves it where it is.
-/

set_option autoImplicit false

namespace Diagnostics

open Diagnostics.Action Disk

/-- What keeps groups apart on a machine: the staging directory is empty, no program writes files by
itself, no walk gets there, whether they can wait does not depend on when the run is cut short, no
file is two groups' own, and programs and classes of two groups are steady. -/
structure Apart (selected : List Group) (context : Context) (base : Host) (home : Location) :
    Prop where
  empty : base.disk.EmptyAt context.staging home
  writes : base.WritesNothing
  keepsOut : ∀ group ∈ selected, group.KeepsOut base home
  time : ∀ group ∈ selected, base.KeepsTime (group.waits context)
  names : (selected.map Group.name).Nodup
  files : ∀ group ∈ selected, ∀ other ∈ selected, ∀ name,
    group.OwnsFile name → other.OwnsFile name → group = other
  programs : ∀ group ∈ selected, ∀ other ∈ selected, group ≠ other →
    ∀ p ∈ group.programs context, p ∈ other.programs context → base.IsSteadyProgram p
  classes : ∀ group ∈ selected, ∀ other ∈ selected, group ≠ other →
    ∀ c ∈ group.classes context, c ∈ other.classes context → base.IsSteadyClass c

/-- What is admitted to a group does not depend on the group that the context names. -/
theorem Group.admits_forGroup (group : Group) (context : Context) (here : Location → Prop) :
    group.Admits (context.forGroup group.name) here = group.Admits context here := by
  funext r
  cases r <;> rfl

/-- What a group comes to by itself. -/
def Group.alone (group : Group) (context : Context) (s : Session) :
    Except Fault GroupResult × Session :=
  (group.gather (context.forGroup group.name)).settle s

namespace Worker

/-- A worker is where it could be by itself. The machine is the shared one, the session the one that
the run began with. -/
def OnCourse (context : Context) (s : Session) (home : Location) (host : Host) (w : Worker) :
    Prop :=
  ∃ t : Session, s.host.Staged home t.host ∧ w.group.Alike context s.host home host t.host ∧
    (w.rest context).settle t = w.group.alone context s ∧
    t.failures = s.failures ++ w.reported ∧
    (w.rest context).Guarantees (fun u => s.host.Staged home u.host)
      (w.group.Admits context (w.group.OwnsPlace home)) (fun _ _ => True) w.reported

section

variable {context : Context} {s t : Session} {home : Location} {host host' : Host}

/-- A worker that makes a request gets the answer that it would have got alone. -/
theorem OnCourse.advance {group : Group} {reported : List Failure} {r : Request}
    {next : r.Answer → Action GroupResult} (hempty : s.host.disk.EmptyAt context.staging home)
    (hwrites : s.host.WritesNothing) (hgroup : group.KeepsOut s.host home)
    (htime : s.host.KeepsTime (group.waits context)) (hstaged : s.host.Staged home t.host)
    (h : OnCourse context s home t.host (.running group reported (.request r next))) :
    s.host.Staged home (t.answer r).2.host ∧
      group.Spares context home t.host (t.answer r).2.host ∧
      OnCourse context s home (t.answer r).2.host
        (.running group (reported ++ r.failures) (next (t.answer r).1)) := by
  obtain ⟨u, hu, halike, hrest, hfailures, hadmits, hnext⟩ := h
  have hanswered : group.Answered context s.host home r t u :=
    hadmits.answered hempty hwrites hgroup htime hstaged hu halike
  refine ⟨hanswered.staged, hanswered.spares, (u.answer r).2, hanswered.staged',
    hanswered.alike, ?_, ?_, hnext t hstaged⟩
  · show (next (t.answer r).1).settle (u.answer r).2 = group.alone context s
    rw [hanswered.same]
    exact hrest
  · rw [Session.answer_failures, hfailures, List.append_assoc]
    rfl

/-- A worker does not notice a group that spares what is its own. -/
theorem OnCourse.of_spares {w : Worker} {other : Group} (h : w.OnCourse context s home host)
    (hother : other.Spares context home host host')
    (hfiles : ∀ name, w.group.OwnsFile name → ¬ other.OwnsFile name)
    (hprograms : ∀ p ∈ w.group.programs context, p ∈ other.programs context →
      s.host.IsSteadyProgram p)
    (hclasses : ∀ c ∈ w.group.classes context, c ∈ other.classes context →
      s.host.IsSteadyClass c) :
    w.OnCourse context s home host' := by
  obtain ⟨u, hu, halike, hcourse⟩ := h
  exact ⟨u, hu, halike.of_spares hother hfiles hprograms hclasses, hcourse⟩

end

end Worker

def Joined.worker (j : Joined) : Worker :=
  .running j.group j.reported (.done j.outcome)

namespace FanOut

/-- The workers, those that were joined among them. -/
def everyone (f : FanOut) : List Worker :=
  f.workers ++ f.joined.map Joined.worker

/-- What holds at every moment of a run of groups that are kept apart. -/
structure Undisturbed (context : Context) (selected : List Group) (s : Session) (home : Location)
    (f : FanOut) : Prop where
  staged : s.host.Staged home f.session.host
  onCourse : ∀ w ∈ f.everyone, w.OnCourse context s home f.session.host
  /-- Names that are no group's own stay without a file. -/
  others : AgreeOn (fun name => ∀ group ∈ selected, ¬ group.OwnsFile name) home
    f.session.host.disk s.host.disk

variable {context : Context} {limit : Nat} {selected : List Group} {s : Session} {home : Location}
  {f g : FanOut}

theorem staged_self (hempty : s.host.disk.EmptyAt context.staging home) :
    s.host.Staged home s.host :=
  ⟨⟨[], onlyFiles_nil, hempty.withEntries_nil.symm⟩, rfl, rfl, rfl, fun _ => rfl⟩

theorem undisturbed_initial (hapart : Apart selected context s.host home) {order : List Group}
    (horder : order.Perm selected) : Undisturbed context selected s home (initial order s) where
  staged := staged_self hapart.empty
  onCourse := by
    intro w hw
    obtain ⟨group, hgroup, rfl⟩ : ∃ group ∈ order, Worker.queued group = w := by
      simpa [everyone, initial] using hw
    refine ⟨s, staged_self hapart.empty,
      ⟨fun _ _ => rfl, fun _ _ => Or.inr rfl, fun _ _ => Or.inr rfl⟩, rfl,
      (List.append_nil _).symm, ?_⟩
    show (group.gather (context.forGroup group.name)).Guarantees _
      (group.Admits context (group.OwnsPlace home)) _ []
    rw [← Group.admits_forGroup]
    have hopen : group.OpensAt (context.forGroup group.name) (fun u => s.host.Staged home u.host)
        (group.OwnsPlace home) :=
      (hapart.keepsOut group (horder.mem_iff.mp hgroup)).opensAt hapart.empty
    exact (Group.gather_guarantees hopen rfl).mono fun _ _ _ => trivial
  others := fun _ _ => rfl

theorem everyone_append (t : Session) (before after : List Worker) (w : Worker)
    (joined : List Joined) :
    everyone ⟨t, before ++ w :: after, joined⟩ =
      before ++ w :: (after ++ joined.map Joined.worker) := by
  simp [everyone]

/-- Nobody is lost when one is joined. -/
theorem everyone_join {t t' : Session} {before after : List Worker} {joined : List Joined}
    {j : Joined} : (everyone ⟨t', before ++ after, joined ++ [j]⟩).Perm
      (everyone ⟨t, before ++ j.worker :: after, joined⟩) := by
  rw [everyone_append, everyone, List.map_append, List.map_singleton, List.append_assoc,
    ← List.append_assoc after]
  exact (List.perm_append_singleton j.worker _).append_left before

/-- Everyone has a group of its own. -/
theorem group_ne_of_mem {before rest : List Worker} {w w' : Worker}
    (hgroups : ((before ++ w :: rest).map Worker.group).Perm selected)
    (hnames : (selected.map Group.name).Nodup) (hw' : w' ∈ before ++ rest) :
    w'.group ≠ w.group := by
  have hnodup : ((before ++ w :: rest).map Worker.group).Nodup :=
    hgroups.nodup_iff.mpr (List.Nodup.of_map _ hnames)
  rw [List.map_append, List.map_cons, List.nodup_middle, List.nodup_cons, ← List.map_append]
    at hnodup
  exact fun heq => hnodup.1 (heq ▸ List.mem_map_of_mem hw')

theorem Undisturbed.step (hapart : Apart selected context s.host home)
    (hf : Undisturbed context selected s home f)
    (hgroups : (f.everyone.map Worker.group).Perm selected) (h : Step context limit f g) :
    Undisturbed context selected s home g := by
  obtain ⟨hstaged, hcourse, hothers⟩ := hf
  cases h with
  | @begin t before after joined group hroom =>
    -- A worker that begins has the same work left as when it was queued.
    refine ⟨hstaged, fun w hw => ?_, hothers⟩
    rw [everyone_append] at hw hcourse
    rcases mem_middle.mp hw with rfl | hmem
    · exact hcourse (.queued group) (mem_middle.mpr (Or.inl rfl))
    · exact hcourse w (mem_middle.mpr (Or.inr hmem))
  | @join t before after joined j =>
    -- What was joined is the worker that it was.
    exact ⟨hstaged, fun w hw => hcourse w (everyone_join.mem_iff.mp hw), hothers⟩
  | @advance t before after joined group reported r next =>
    rw [everyone_append] at hcourse hgroups
    have hselected : ∀ w ∈ before ++ (.running group reported (.request r next)) ::
        (after ++ joined.map Joined.worker), Worker.group w ∈ selected :=
      fun w hw => hgroups.mem_iff.mp (List.mem_map_of_mem hw)
    have hself : (.running group reported (.request r next)) ∈
        before ++ (.running group reported (.request r next)) ::
          (after ++ joined.map Joined.worker) := mem_middle.mpr (Or.inl rfl)
    have hmem : group ∈ selected := hselected _ hself
    obtain ⟨hstaged', hspares, hnext⟩ := (hcourse _ hself).advance hapart.empty hapart.writes
      (hapart.keepsOut group hmem) (hapart.time group hmem) hstaged
    -- Anyone else has not been disturbed.
    have hother : ∀ w ∈ before ++ (after ++ joined.map Joined.worker),
        w.OnCourse context s home (t.answer r).2.host := by
      intro w hw
      have hne : w.group ≠ group := group_ne_of_mem hgroups hapart.names hw
      have hin : w ∈ before ++ (.running group reported (.request r next)) ::
          (after ++ joined.map Joined.worker) := mem_middle.mpr (Or.inr hw)
      have hsel := hselected w hin
      exact (hcourse w hin).of_spares hspares
        (fun name hown hown' => hne (hapart.files _ hsel group hmem name hown hown'))
        (hapart.programs _ hsel group hmem hne) (hapart.classes _ hsel group hmem hne)
    refine ⟨hstaged', fun w hw => ?_, fun name hname => ?_⟩
    · rw [everyone_append] at hw
      rcases mem_middle.mp hw with rfl | hin
      · exact hnext
      · exact hother w hin
    · exact (hspares.files name (hname group hmem)).trans (hothers name hname)

theorem everyone_groups (f : FanOut) :
    f.everyone.map Worker.group = f.workers.map Worker.group ++ f.joined.map Joined.group := by
  simp [everyone, Function.comp_def, Joined.worker, Worker.group]

/-- Every reachable moment of a run of groups that are kept apart is undisturbed, in whichever order
the groups were given. -/
theorem undisturbed_of_steps (hapart : Apart selected context s.host home) {order : List Group}
    (horder : order.Perm selected) (h : Steps context limit (initial order s) f) :
    Undisturbed context selected s home f := by
  induction h with
  | refl => exact undisturbed_initial hapart horder
  | tail hsteps hstep ih =>
    refine ih.step hapart ?_ hstep
    rw [everyone_groups]
    exact (consistent_of_steps hsteps).groups.trans horder

/-! ## What is joined -/

/-- A group that ran by itself, as it is joined. -/
def solo (context : Context) (s : Session) (group : Group) : Joined where
  group := group
  reported := (group.alone context s).2.failures.drop s.failures.length
  outcome := (group.alone context s).1

/-- **Nobody notices anybody.** What is joined of a group is what it would have come to alone, and
so are its files. -/
theorem Undisturbed.eq_solo (hf : Undisturbed context selected s home f) {j : Joined}
    (hj : j ∈ f.joined) :
    j = solo context s j.group ∧
      AgreeOn j.group.OwnsFile home f.session.host.disk
        (j.group.alone context s).2.host.disk := by
  obtain ⟨t, -, halike, hrest, hfailures, -⟩ :=
    hf.onCourse j.worker (List.mem_append_right _ (List.mem_map_of_mem hj))
  have hend : j.group.alone context s = (j.outcome, t) := hrest.symm
  have hreported : t.failures = s.failures ++ j.reported := hfailures
  unfold solo
  rw [hend, hreported, List.drop_left]
  exact ⟨rfl, halike.files⟩

/-- Whatever the order and the schedule, a run that has joined all its workers has joined what the
groups come to alone. -/
theorem joined_perm (hapart : Apart selected context s.host home) {order : List Group}
    (horder : order.Perm selected) (h : Steps context limit (initial order s) f)
    (hdone : f.workers = []) : f.joined.Perm (selected.map (solo context s)) := by
  have hf := undisturbed_of_steps hapart horder h
  have hsolo : f.joined = (f.joined.map Joined.group).map (solo context s) := by
    rw [List.map_map]
    exact (List.map_id f.joined).symm.trans
      (List.map_congr_left fun j hj => (hf.eq_solo hj).1)
  rw [hsolo]
  exact (((consistent_of_steps h).accounts hdone).groups.trans horder).map _

theorem agreeOn_of_steps (hapart : Apart selected context s.host home) {order : List Group}
    (horder : order.Perm selected) (h : Steps context limit (initial order s) f)
    (hdone : f.workers = []) {group : Group} (hgroup : group ∈ selected) :
    AgreeOn group.OwnsFile home f.session.host.disk (group.alone context s).2.host.disk := by
  have hf := undisturbed_of_steps hapart horder h
  have hgroups := ((consistent_of_steps h).accounts hdone).groups.trans horder
  obtain ⟨j, hj, rfl⟩ := List.mem_map.mp (hgroups.mem_iff.mpr hgroup)
  exact (hf.eq_solo hj).2

end FanOut

end Diagnostics
