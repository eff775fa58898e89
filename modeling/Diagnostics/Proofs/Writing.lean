import Diagnostics.Proofs.Catalog.Unique
import Diagnostics.Proofs.FanOut.Alone
import Diagnostics.Proofs.FanOut.Guarded

/-!
# What is written to the staging directory

As long as no program writes files by itself, a run writes to what it has opened, and it opens
artifacts in the staging directory. `Request.WritesTo` says of a request that these files have names
of some kind; then it leaves a disk of the run, and every file of another name as it is
(`Request.WritesTo.answer`). The tasks that open their artifacts settle which names these are: a
program that is to write its own file adds none (`Group.gather_writesTo`).
-/

set_option autoImplicit false

namespace Diagnostics

open Diagnostics.Action Disk

/-- A request writes to files of such names in the staging directory, if it writes to any. -/
def Request.WritesTo (staging : Path) (home : Location) (names : FileName → Prop) : Request → Prop
  | .openFile path => ∃ output, IsBareName output ∧ path = staging.join output ∧
      ∀ name, Text.Utf8.encodeName output = .ok name → names name
  | .closeFile place _ => IsNamedIn home names place
  | .ensureDirectories _ => False
  | .start _ _ redirect => ∀ place, redirect = .file place → IsNamedIn home names place
  | _ => True

theorem Request.WritesTo.mono {staging : Path} {home : Location} {names names' : FileName → Prop}
    {r : Request} (h : r.WritesTo staging home names) (hnames : ∀ name, names name → names' name) :
    r.WritesTo staging home names' := by
  have hplace : ∀ {place}, IsNamedIn home names place → IsNamedIn home names' place :=
    fun ⟨name, hname, hplace⟩ => ⟨name, hnames name hname, hplace⟩
  cases r with
  | openFile path =>
    obtain ⟨output, hbare, hpath, hspelled⟩ := h
    exact ⟨output, hbare, hpath, fun name hname => hnames name (hspelled name hname)⟩
  | closeFile place octets => exact hplace h
  | start argv timeout redirect => exact fun place hredirect => hplace (h place hredirect)
  | ensureDirectories path => exact h
  | _ => trivial

section

variable {base host : Host} {context : Context} {home : Location} {names : FileName → Prop}
  {s : Session} {r : Request}

/-- Starting a program delivers its output, if it does anything to the disk. -/
theorem Host.start_becomes (hwrites : host.WritesNothing) (argv : List Text)
    (timeout : Option Binary64) (redirect : Redirect) :
    ∃ disk started, host.Becomes (host.start argv timeout redirect).2 disk started host.asked ∧
      (disk = host.disk ∨ ∃ octets, disk = (redirect.deliver octets host.disk).2) := by
  rcases host.start_snd_cases timeout redirect argv with h | h | ⟨c, hnext, h⟩
  · rw [h]
    exact ⟨_, _, host.becomes_replaced, Or.inl rfl⟩
  · rw [h]
    exact ⟨_, _, host.becomes_replaced, Or.inl rfl⟩
  · have hc : c.writes = [] := hwrites.of_launch? hnext
    rw [h, perform_of_writes_nil hc]
    exact ⟨_, _, ⟨rfl, rfl, rfl, rfl, rfl, rfl, fun hkeeps => hkeeps.of_launch? hnext⟩,
      Or.inr ⟨_, rfl⟩⟩

/-- An operation that keeps to files of some names leaves a disk of the run, and all other files. -/
theorem Disk.KeepsTo.leaves {α : Type} {op : Disk → α × Disk} {host' : Host}
    {started asked : Text → Nat} (hempty : base.disk.EmptyAt context.staging home)
    (hop : base.disk.KeepsTo home names op) (hs : base.Staged home host)
    (hbecomes : host.Becomes host' (op host.disk).2 started asked) :
    base.Staged home host' ∧ AgreeOn (fun name => ¬ names name) home host'.disk host.disk := by
  refine ⟨hs.becomes hbecomes (hop.staged hs.disk), ?_⟩
  rw [hbecomes.disk]
  exact hop.spares hempty hs.disk

/-- **A request leaves alone what it does not write to.** -/
theorem Request.WritesTo.answer (hempty : base.disk.EmptyAt context.staging home)
    (hwrites : base.WritesNothing) (hr : r.WritesTo context.staging home names)
    (hs : base.Staged home s.host) :
    base.Staged home (s.answer r).2.host ∧
      AgreeOn (fun name => ¬ names name) home (s.answer r).2.host.disk s.host.disk := by
  have hidle : base.disk.KeepsTo home names fun d => ((), d) := keepsTo_pure ()
  cases r with
  | openFile path =>
    obtain ⟨output, hbare, rfl, hnames⟩ := hr
    have hop : base.disk.KeepsTo home names (opened (context.staging.join output)) :=
      keepsTo_opened hempty hbare hnames
    rw [s.answer_openFile]
    exact hop.leaves hempty hs (Host.becomes_replaced _)
  | closeFile place octets =>
    obtain ⟨name, hname, rfl⟩ := hr
    exact (keepsTo_flushAt hempty hname octets).leaves hempty hs (Host.becomes_replaced _)
  | start argv timeout redirect =>
    obtain ⟨disk, started, hbecomes, rfl | ⟨octets, rfl⟩⟩ :=
      Host.start_becomes (hs.writesNothing hwrites) argv timeout redirect
    · exact hidle.leaves hempty hs hbecomes
    · exact (keepsTo_deliver hempty hr octets).leaves hempty hs hbecomes
  | query className namespaceName =>
    rw [s.answer_query]
    exact hidle.leaves hempty hs (Host.becomes_replaced _)
  | collect roots => exact hidle.leaves hempty hs (Host.becomes_replaced _)
  | wait seconds => exact hidle.leaves hempty hs (Host.becomes_replaced _)
  | record failure => exact hidle.leaves hempty hs (Host.becomes_replaced _)
  | recorded => exact hidle.leaves hempty hs (Host.becomes_replaced _)
  | ensureDirectories path => exact hr.elim

end

/-! ## What tasks and groups write to -/

/-- If a task opens its artifact, the names are those that the artifact's spells. -/
structure Task.WritesTo (task : Task) (names : FileName → Prop) : Prop where
  bare : IsBareName task.output
  names : task.opens = true → ∀ name, Text.Utf8.encodeName task.output = .ok name → names name

section

variable {base : Host} {context : Context} {home : Location} {names : FileName → Prop}
  {task : Task} {r : Request}

theorem Task.WritesTo.opensAt (h : task.WritesTo names)
    (hempty : base.disk.EmptyAt context.staging home) :
    task.OpensAt context (fun s => base.Staged home s.host) (IsNamedIn home names) :=
  fun hopens _ hs _ _ hopened =>
    isNamedIn_of_openForWriting hempty h.bare (h.names hopens) hs hopened

theorem Task.Makes.writesTo (hr : task.Makes context (IsNamedIn home names) r)
    (h : task.WritesTo names) : r.WritesTo context.staging home names := by
  cases r with
  | openFile path => exact ⟨task.output, h.bare, hr.2, h.names hr.1⟩
  | closeFile place octets => exact hr
  | start argv timeout redirect => exact hr.2
  | ensureDirectories path => exact hr
  | _ => trivial

theorem runAll_writesTo (hempty : base.disk.EmptyAt context.staging home) {tasks : List Task}
    (h : ∀ task ∈ tasks, task.WritesTo names) {past : List Failure} :
    (runAll context tasks).Guarantees (fun s => base.Staged home s.host)
      (·.WritesTo context.staging home names) (fun _ _ => True) past :=
  runAll_guarantees (fun task htask => (h task htask).opensAt hempty)
    (fun task htask _ hasks => hasks.makes.writesTo (h task htask)) fun _ _ => trivial

/-- A group writes to the files that its tasks write to. -/
theorem Group.gather_writesTo {group : Group} (hname : context.group = group.name)
    (hempty : base.disk.EmptyAt context.staging home)
    (h : ∀ task ∈ group.tasks, task.WritesTo names) :
    (group.gather context).Guarantees (fun s => base.Staged home s.host)
      (·.WritesTo context.staging home names) (fun _ _ => True) [] :=
  (Group.gather_guarantees_of_asks hname (fun task htask => (h task htask).opensAt hempty)
    (fun task htask _ hasks => hasks.makes.writesTo (h task htask)) (fun _ _ => trivial)
    fun _ _ => trivial).mono fun _ _ _ => trivial

end

/-- A file name is spelled by the artifact of a task of the group that opens it. -/
def Group.Opens (group : Group) (name : FileName) : Prop :=
  ∃ task ∈ group.tasks, task.opens = true ∧ Text.Utf8.encodeName task.output = .ok name

theorem Group.IsCatalogued.writesTo {group : Group} (h : group.IsCatalogued) :
    ∀ task ∈ group.tasks, task.WritesTo group.Opens :=
  fun task htask => ⟨h.isBareName _ (List.mem_map_of_mem htask),
    fun hopens _ hname => ⟨task, htask, hopens, hname⟩⟩

theorem Task.WritesTo.mono {task : Task} {names names' : FileName → Prop} (h : task.WritesTo names)
    (hnames : ∀ name, names name → names' name) : task.WritesTo names' :=
  ⟨h.bare, fun hopens name hname => hnames name (h.names hopens name hname)⟩

/-! ## What groups write to that run at the same time -/

namespace FanOut

/-- A moment of a run on disks that began with one, from which on the workers of each group write to
files of its names only. -/
def WritesTo (base : Host) (context : Context) (home : Location) (names : Group → FileName → Prop)
    (f : FanOut) : Prop :=
  Guarded context (fun s => base.Staged home s.host)
    (fun group r => r.WritesTo context.staging home (names group)) f

variable {base : Host} {context : Context} {limit : Nat} {home : Location}
  {names : Group → FileName → Prop} {f g : FanOut}

/-- Groups that have not begun will write to what their tasks write to. -/
theorem writesTo_initial {s : Session} (hempty : s.host.disk.EmptyAt context.staging home)
    {selected : List Group}
    (h : ∀ group ∈ selected, ∀ task ∈ group.tasks, task.WritesTo (names group)) :
    WritesTo s.host context home names (initial selected s) where
  session := staged_self hempty
  workers w hw := by
    obtain ⟨group, hgroup, rfl⟩ := List.mem_map.mp hw
    exact @Group.gather_writesTo s.host (context.forGroup group.name) home _ group rfl hempty
      (h group hgroup)

/-- **A run spares the files that none of its workers writes to.** -/
theorem WritesTo.of_steps (hempty : base.disk.EmptyAt context.staging home)
    (hwrites : base.WritesNothing) (hf : f.WritesTo base context home names)
    (h : Steps context limit f g) {spared : FileName → Prop}
    (hspared : ∀ group name, spared name → ¬ names group name) :
    g.WritesTo base context home names ∧
      AgreeOn spared home g.session.host.disk f.session.host.disk := by
  have hstays : StaysWithin (fun s => base.Staged home s.host)
      (fun group r => r.WritesTo context.staging home (names group))
      (fun s t => AgreeOn spared home t.host.disk s.host.disk) := by
    refine ⟨fun _ _ _ => rfl, fun h h' => h'.trans h, fun hr hs => ?_, fun _ hs =>
      ⟨hs, fun _ _ => rfl⟩⟩
    obtain ⟨hstaged, hagree⟩ := hr.answer hempty hwrites hs
    exact ⟨hstaged, hagree.mono (hspared _)⟩
  exact Guarded.of_steps hstays hf h

end FanOut

end Diagnostics
