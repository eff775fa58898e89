import Diagnostics.Proofs.Disk.Territory
import Diagnostics.Proofs.Disk.Walk
import Diagnostics.Proofs.Footprint
import Diagnostics.Proofs.Task.Start

/-!
# What is a group's own

A group meets the machine in three ways: in the files of its artifacts, in how often its programs
were started, and in how often its classes were asked for. On two machines that are alike in these
(`Group.Alike`) its requests are answered alike, and the machines are alike afterwards; and on one
machine its requests leave alone whatever is not its own (`Group.Spares`). Both are one theorem,
`Group.Admits.answered`, with one case for each request.

A program or class that always has the same outcome is nobody's own: how often it was used does not
matter. Such ones may be shared. What all groups share besides is the user's wish to cancel. It
shortens waits and does nothing else, except that a wait that cannot be timed fails unless it is cut
short; so either nobody cuts the run short, or all waits can be timed (`Host.KeepsTime`).
-/

set_option autoImplicit false

namespace Diagnostics

open Disk

def Host.IsSteadyProgram (host : Host) (executable : Text) : Prop :=
  ∀ outcomes, host.programs executable = some outcomes → ∀ j k, outcomes j = outcomes k

def Host.IsSteadyClass (host : Host) (className : Text) : Prop :=
  ∀ j k, host.answers className j = host.answers className k

def Host.WritesNothing (host : Host) : Prop :=
  ∀ executable outcomes, host.programs executable = some outcomes →
    ∀ k c, outcomes k = .completed c → c.writes = []

/-- The run stays as it is, cut short or not: it has been cut short, or no program cuts it short. -/
def Host.KeepsCancelled (host : Host) : Prop :=
  host.cancelled = true ∨ ∀ executable outcomes, host.programs executable = some outcomes →
    ∀ k c, outcomes k = .completed c → c.cancels = false

/-- Whether one of these waits can be timed does not depend on when the run is cut short. -/
def Host.KeepsTime (host : Host) (waits : List Binary64) : Prop :=
  host.KeepsCancelled ∨ ∀ seconds ∈ waits, host.platform.CanWait seconds

/-- A machine of a run: that of the beginning, apart from the files in the staging directory, from
what was counted and noted, and from the user's wish to cancel. -/
structure Host.Staged (base : Host) (home : Location) (host : Host) : Prop where
  disk : base.disk.Staged home host.disk
  programs : host.programs = base.programs
  answers : host.answers = base.answers
  platform : host.platform = base.platform
  cancelled : base.KeepsCancelled → host.cancelled = base.cancelled

/-- A place is that of a file of such a name in the staging directory. -/
def IsNamedIn (home : Location) (names : FileName → Prop) (place : Location) : Prop :=
  ∃ name, names name ∧ place = home ++ [name]

namespace Group

def OwnsFile (group : Group) (name : FileName) : Prop :=
  ∃ output ∈ group.outputs, Text.Utf8.encodeName output = .ok name

/-- A place is that of one of the group's artifacts. -/
def OwnsPlace (group : Group) (home place : Location) : Prop :=
  ∃ name, group.OwnsFile name ∧ place = home ++ [name]

/-- What is relied on for a group: its artifacts have bare names, and the walks of its roots do not
get to the staging directory. -/
structure KeepsOut (group : Group) (base : Host) (home : Location) : Prop where
  bare : ∀ output ∈ group.outputs, IsBareName output
  roots : ∀ roots, group.work = .roots roots → ∀ root ∈ roots, ¬ base.disk.RootReaches home root

/-- Two machines are alike in what is the group's own. -/
structure Alike (group : Group) (context : Context) (base : Host) (home : Location)
    (host host' : Host) : Prop where
  files : AgreeOn group.OwnsFile home host.disk host'.disk
  started : ∀ p ∈ group.programs context,
    base.IsSteadyProgram p ∨ host.started p = host'.started p
  asked : ∀ c ∈ group.classes context, base.IsSteadyClass c ∨ host.asked c = host'.asked c

/-- From one machine to another, what is not the group's own has stayed. -/
structure Spares (group : Group) (context : Context) (home : Location) (host host' : Host) :
    Prop where
  files : AgreeOn (fun name => ¬ group.OwnsFile name) home host'.disk host.disk
  started : ∀ p, p ∉ group.programs context → host'.started p = host.started p
  asked : ∀ c, c ∉ group.classes context → host'.asked c = host.asked c

/-- How two sessions answer a request, seen by a group. -/
structure Answered (group : Group) (context : Context) (base : Host) (home : Location)
    (r : Request) (s t : Session) : Prop where
  same : (s.answer r).1 = (t.answer r).1
  staged : base.Staged home (s.answer r).2.host
  staged' : base.Staged home (t.answer r).2.host
  alike : group.Alike context base home (s.answer r).2.host (t.answer r).2.host
  spares : group.Spares context home s.host (s.answer r).2.host

end Group

section

variable {group : Group} {context : Context} {base host host' : Host} {home : Location}
  {s t : Session} {r : Request}

/-- Whatever is the group's own, or shared and steady, another group that spares it does not
disturb. -/
theorem Group.Alike.of_spares {other : Group} {host'' : Host}
    (h : group.Alike context base home host host'') (hother : other.Spares context home host host')
    (hfiles : ∀ name, group.OwnsFile name → ¬ other.OwnsFile name)
    (hprograms : ∀ p ∈ group.programs context, p ∈ other.programs context → base.IsSteadyProgram p)
    (hclasses : ∀ c ∈ group.classes context, c ∈ other.classes context → base.IsSteadyClass c) :
    group.Alike context base home host' host'' where
  files := (hother.files.mono hfiles).trans h.files
  started p hp := by
    by_cases hshared : p ∈ other.programs context
    · exact Or.inl (hprograms p hp hshared)
    · rw [hother.started p hshared]
      exact h.started p hp
  asked c hc := by
    by_cases hshared : c ∈ other.classes context
    · exact Or.inl (hclasses c hc hshared)
    · rw [hother.asked c hshared]
      exact h.asked c hc

/-! ## What a request does to the machine -/

/-- Counting that looks at these names only and counts none but these. -/
def CountsOnly (names : List Text) (count : (Text → Nat) → Text → Nat) : Prop :=
  (∀ counts counts' name, counts name = counts' name → count counts name = count counts' name) ∧
    ∀ counts name, name ∉ names → count counts name = counts name

theorem countsOnly_id (names : List Text) : CountsOnly names fun counts => counts :=
  ⟨fun _ _ _ heq => heq, fun _ _ _ => rfl⟩

theorem countsOnly_bump {names : List Text} {name : Text} (h : name ∈ names) :
    CountsOnly names fun counts => Host.bump counts name := by
  refine ⟨fun counts counts' other heq => ?_, fun counts other hother => ?_⟩
  · show (if other = name then _ else _) = if other = name then _ else _
    rw [heq]
  · have hne : other ≠ name := fun heq => hother (heq ▸ h)
    exact if_neg hne

/-- A machine has become another one that differs in the disk, in what was counted and noted, and
perhaps in the user's wish to cancel. -/
structure Host.Becomes (host host' : Host) (disk : Disk) (started asked : Text → Nat) : Prop where
  disk : host'.disk = disk
  programs : host'.programs = host.programs
  answers : host'.answers = host.answers
  started : host'.started = started
  asked : host'.asked = asked
  platform : host'.platform = host.platform
  cancelled : host.KeepsCancelled → host'.cancelled = host.cancelled

/-- Nothing else has changed if only these things, and what was noted, were replaced. -/
theorem Host.becomes_replaced (host : Host) {disk : Disk} {started asked : Text → Nat}
    {calls : List Call} :
    host.Becomes { host with disk := disk, started := started, asked := asked, calls := calls }
      disk started asked :=
  ⟨rfl, rfl, rfl, rfl, rfl, rfl, fun _ => rfl⟩

theorem Host.Staged.keepsCancelled (hs : base.Staged home host) (h : base.KeepsCancelled) :
    host.KeepsCancelled := by
  unfold KeepsCancelled
  rw [hs.cancelled h, hs.programs]
  exact h

theorem Host.Staged.becomes {disk : Disk} {started asked : Text → Nat}
    (h : base.Staged home host) (hbecomes : host.Becomes host' disk started asked)
    (hdisk : base.disk.Staged home disk) : base.Staged home host' where
  disk := hbecomes.disk ▸ hdisk
  programs := hbecomes.programs.trans h.programs
  answers := hbecomes.answers.trans h.answers
  platform := hbecomes.platform.trans h.platform
  cancelled hkeeps := (hbecomes.cancelled (h.keepsCancelled hkeeps)).trans (h.cancelled hkeeps)

/-- A request is answered as the group expects if it is an operation on the disk and two ways of
counting, each of which keeps to what is the group's own. -/
theorem answered_of_becomes (hempty : base.disk.EmptyAt context.staging home)
    {α : Type} {op : Disk → α × Disk} (hop : base.disk.KeepsTo home group.OwnsFile op)
    {started asked : (Text → Nat) → Text → Nat}
    (hstarted : CountsOnly (group.programs context) started)
    (hasked : CountsOnly (group.classes context) asked)
    (hs : base.Staged home s.host) (ht : base.Staged home t.host)
    (h : group.Alike context base home s.host t.host)
    (hsame : (op s.host.disk).1 = (op t.host.disk).1 → (s.answer r).1 = (t.answer r).1)
    (hs' : s.host.Becomes (s.answer r).2.host (op s.host.disk).2 (started s.host.started)
      (asked s.host.asked))
    (ht' : t.host.Becomes (t.answer r).2.host (op t.host.disk).2 (started t.host.started)
      (asked t.host.asked)) :
    group.Answered context base home r s t := by
  obtain ⟨hx, hagree⟩ := hop.agree hempty hs.disk ht.disk h.files
  refine ⟨hsame hx, hs.becomes hs' (hop.staged hs.disk), ht.becomes ht' (hop.staged ht.disk),
    ⟨?_, fun p hp => ?_, fun c hc => ?_⟩, ⟨?_, fun p hp => ?_, fun c hc => ?_⟩⟩
  · rw [hs'.disk, ht'.disk]
    exact hagree
  · rw [hs'.started, ht'.started]
    exact (h.started p hp).imp_right (hstarted.1 _ _ p)
  · rw [hs'.asked, ht'.asked]
    exact (h.asked c hc).imp_right (hasked.1 _ _ c)
  · rw [hs'.disk]
    exact hop.spares hempty hs.disk
  · rw [hs'.started]
    exact hstarted.2 _ p hp
  · rw [hs'.asked]
    exact hasked.2 _ c hc

theorem answered_of_keepsTo (hempty : base.disk.EmptyAt context.staging home)
    {α : Type} {op : Disk → α × Disk} (hop : base.disk.KeepsTo home group.OwnsFile op)
    (f : α → r.Answer)
    (hr : ∀ s : Session, s.answer r = (f (op s.host.disk).1, s.withDisk (op s.host.disk).2))
    (hs : base.Staged home s.host) (ht : base.Staged home t.host)
    (h : group.Alike context base home s.host t.host) :
    group.Answered context base home r s t := by
  refine answered_of_becomes hempty hop (countsOnly_id _) (countsOnly_id _) hs ht h
    (fun hx => ?_) ?_ ?_
  · rw [hr, hr]
    exact congrArg f hx
  · rw [hr]
    exact Host.becomes_replaced _
  · rw [hr]
    exact Host.becomes_replaced _

/-! ## Starting a program -/

/-- Where the output of a program goes. -/
def Redirect.deliver (redirect : Redirect) (octets : List UInt8) (disk : Disk) : Bool × Disk :=
  match redirect with
  | .file place => disk.writeAt place octets
  | .discard => (true, disk)
  | .capture => (true, disk)

/-- How a program without files of its own ends, once it is known whether its output was taken. -/
def Completion.ending (c : Completion) (platform : Platform) (timeout : Option Binary64)
    (taken : Bool) : Except Fault Ending :=
  if platform.relaysOutput && !taken then .error (.os (.errno .noSpace none))
  else if timeout.any (· < c.seconds) then .ok .timedOut
  else .ok (.exited c.exitCode c.stdout c.stderr)

/-- A program without files of its own delivers its output, and that is all. -/
theorem perform_of_writes_nil {c : Completion} (hc : c.writes = []) (argv : List Text)
    (timeout : Option Binary64) (redirect : Redirect) :
    host.perform argv timeout redirect c =
      (c.ending host.platform timeout (redirect.deliver (c.stdout ++ c.stderr) host.disk).1,
        { host with
          disk := (redirect.deliver (c.stdout ++ c.stderr) host.disk).2
          cancelled := host.cancelled || c.cancels }) := by
  have hending : ∀ (taken : Bool) (left : Host),
      (if host.platform.relaysOutput && !taken then (.error (.os (.errno .noSpace none)), left)
        else if timeout.any (· < c.seconds) then (.ok .timedOut, left)
        else (.ok (.exited c.exitCode c.stdout c.stderr), left)) =
      (c.ending host.platform timeout taken, left) := by
    intro taken left
    unfold Completion.ending
    split
    · rfl
    · split <;> rfl
  unfold Host.perform Redirect.deliver
  rw [hc]
  cases redirect
  all_goals exact hending _ _

theorem Host.Staged.writesNothing (hs : base.Staged home host) (h : base.WritesNothing) :
    host.WritesNothing := by
  intro executable outcomes hprogram
  rw [hs.programs] at hprogram
  exact h executable outcomes hprogram

/-- What comes next of a program is one of its outcomes. -/
theorem Host.exists_of_launch? {executable : Text} {launch : Launch}
    (h : host.launch? executable = some launch) :
    ∃ outcomes k, host.programs executable = some outcomes ∧ outcomes k = launch := by
  unfold launch? program? at h
  obtain ⟨outcomes, hprogram, hlaunch⟩ := Option.map_eq_some_iff.mp h
  split at hprogram
  · cases hprogram
  · exact ⟨outcomes, _, hprogram, hlaunch⟩

theorem Host.WritesNothing.of_launch? {executable : Text} {c : Completion}
    (h : host.WritesNothing) (hnext : host.launch? executable = some (.completed c)) :
    c.writes = [] := by
  obtain ⟨outcomes, k, hprogram, hcompleted⟩ := exists_of_launch? hnext
  exact h _ outcomes hprogram k c hcompleted

/-- Where nobody can cut the run short, the next program does not. -/
theorem Host.KeepsCancelled.of_launch? {executable : Text} {c : Completion}
    (h : host.KeepsCancelled) (hnext : host.launch? executable = some (.completed c)) :
    (host.cancelled || c.cancels) = host.cancelled := by
  rcases h with hcancelled | hnone
  · rw [hcancelled, Bool.true_or]
  · obtain ⟨outcomes, k, hprogram, hcompleted⟩ := exists_of_launch? hnext
    rw [hnone _ outcomes hprogram k c hcompleted, Bool.or_false]

theorem launch?_eq_of_alike (hs : base.Staged home host) (ht : base.Staged home host')
    (h : group.Alike context base home host host') {executable : Text}
    (hmem : executable ∈ group.programs context) :
    host.launch? executable = host'.launch? executable := by
  unfold Host.launch? Host.program?
  rw [hs.programs, ht.programs]
  split
  · rfl
  · cases hprogram : base.programs executable with
    | none => rfl
    | some outcomes =>
      rw [Option.map_some, Option.map_some]
      rcases h.started executable hmem with hsteady | hcount
      · rw [hsteady outcomes hprogram (host.started executable)]
      · rw [hcount]

/-- A program's output goes to files of these names. -/
theorem keepsTo_deliver {names : FileName → Prop} (hempty : base.disk.EmptyAt context.staging home)
    {redirect : Redirect}
    (hplace : ∀ place, redirect = .file place → IsNamedIn home names place)
    (octets : List UInt8) : base.disk.KeepsTo home names (redirect.deliver octets) := by
  cases redirect with
  | file place =>
    obtain ⟨name, hname, rfl⟩ := hplace place rfl
    exact keepsTo_writeAt hempty hname octets
  | discard => exact keepsTo_pure true
  | capture => exact keepsTo_pure true

theorem answered_start (hempty : base.disk.EmptyAt context.staging home)
    (hwrites : base.WritesNothing) {argv : List Text} {timeout : Option Binary64}
    {redirect : Redirect} (hmem : argv.headD "" ∈ group.programs context)
    (hplace : ∀ place, redirect = .file place → group.OwnsPlace home place)
    (hs : base.Staged home s.host) (ht : base.Staged home t.host)
    (h : group.Alike context base home s.host t.host) :
    group.Answered context base home (.start argv timeout redirect) s t := by
  have hanswer : ∀ s : Session, s.answer (.start argv timeout redirect) =
      ((s.host.start argv timeout redirect).1,
        s.withHost (s.host.start argv timeout redirect).2) := fun _ => rfl
  -- A start that does not come to the program leaves the disk as it is.
  have hidle : base.disk.KeepsTo home group.OwnsFile fun d => ((), d) := keepsTo_pure ()
  by_cases hwords : WordsHaveOctets argv
  case neg =>
    obtain ⟨fault, hfault⟩ := Host.exists_argvFault? hwords
    have hstart := fun host : Host => host.start_of_argvFault? timeout redirect hfault
    refine answered_of_becomes hempty hidle (countsOnly_id _) (countsOnly_id _) hs ht h
      (fun _ => ?_) ?_ ?_
    all_goals simp only [hanswer, hstart]
    · exact Host.becomes_replaced _
    · exact Host.becomes_replaced _
  case pos =>
    have hs' := s.host.start_of_launch? timeout redirect hwords
    have ht' := t.host.start_of_launch? timeout redirect hwords
    have hplatform : t.host.platform = s.host.platform := ht.platform.trans hs.platform.symm
    have hlimit : t.host.limitError? timeout redirect = s.host.limitError? timeout redirect := by
      unfold Host.limitError?
      rw [hplatform]
    rw [← launch?_eq_of_alike hs ht h hmem, hlimit] at ht'
    cases hnext : s.host.launch? (argv.headD "") with
    | none =>
      rw [hnext] at hs' ht'
      refine answered_of_becomes hempty hidle (countsOnly_id _) (countsOnly_id _) hs ht h
        (fun _ => ?_) ?_ ?_
      all_goals simp only [hanswer, hs', ht']
      · exact Host.becomes_replaced _
      · exact Host.becomes_replaced _
    | some launch =>
      rw [hnext] at hs' ht'
      cases launch with
      | refused e =>
        refine answered_of_becomes hempty hidle (countsOnly_bump hmem) (countsOnly_id _) hs ht h
          (fun _ => ?_) ?_ ?_
        all_goals simp only [hanswer, hs', ht']
        · exact Host.becomes_replaced _
        · exact Host.becomes_replaced _
      | completed c =>
        dsimp only at hs' ht'
        cases hkept : s.host.limitError? timeout redirect with
        | some e =>
          rw [hkept] at hs' ht'
          refine answered_of_becomes hempty hidle (countsOnly_bump hmem) (countsOnly_id _) hs ht h
            (fun _ => ?_) ?_ ?_
          all_goals simp only [hanswer, hs', ht']
          · exact Host.becomes_replaced _
          · exact Host.becomes_replaced _
        | none =>
          have hnext' := (launch?_eq_of_alike hs ht h hmem).symm.trans hnext
          have hc : c.writes = [] := (hs.writesNothing hwrites).of_launch? hnext
          rw [hkept] at hs' ht'
          dsimp only at hs' ht'
          rw [perform_of_writes_nil hc] at hs' ht'
          refine answered_of_becomes hempty (keepsTo_deliver hempty hplace (c.stdout ++ c.stderr))
            (countsOnly_bump hmem) (countsOnly_id _) hs ht h (fun hx => ?_) ?_ ?_
          all_goals simp only [hanswer, hs', ht']
          · show c.ending s.host.platform timeout _ = c.ending t.host.platform timeout _
            rw [hplatform]
            exact congrArg (c.ending s.host.platform timeout) hx
          · exact ⟨rfl, rfl, rfl, rfl, rfl, rfl, fun hkeeps => hkeeps.of_launch? hnext⟩
          · exact ⟨rfl, rfl, rfl, rfl, rfl, rfl, fun hkeeps => hkeeps.of_launch? hnext'⟩

/-! ## All requests -/

theorem Session.answer_openFile (s : Session) (path : Path) :
    s.answer (.openFile path) = ((opened path s.host.disk).1.mapError DiskError.toFault,
      s.withDisk (opened path s.host.disk).2) := by
  unfold answer opened
  dsimp only
  cases s.host.disk.openForWriting path <;> rfl

/-- What the one who asks gets of an answer. -/
def Answer.told : Answer → Except Fault Text
  | .text s => .ok s
  | .failed fault => .error fault

theorem Session.answer_query (s : Session) (className namespaceName : Text) :
    s.answer (.query className namespaceName) =
      ((s.host.answers className (s.host.asked className)).told,
        s.withHost { s.host with
          calls := s.host.calls ++ [.query className namespaceName]
          asked := Host.bump s.host.asked className }) := by
  unfold answer Host.ask
  dsimp only
  cases s.host.answers className (s.host.asked className) <;> rfl

theorem answered_query (hempty : base.disk.EmptyAt context.staging home)
    {className namespaceName : Text} (hmem : className ∈ group.classes context)
    (hs : base.Staged home s.host) (ht : base.Staged home t.host)
    (h : group.Alike context base home s.host t.host) :
    group.Answered context base home (.query className namespaceName) s t := by
  refine answered_of_becomes hempty (keepsTo_pure ()) (countsOnly_id _) (countsOnly_bump hmem) hs
    ht h (fun _ => ?_) ?_ ?_
  all_goals simp only [Session.answer_query]
  · rw [hs.answers, ht.answers]
    rcases h.asked className hmem with hsteady | hcount
    · rw [hsteady (s.host.asked className) (t.host.asked className)]
    · rw [hcount]
  · exact Host.becomes_replaced _
  · exact Host.becomes_replaced _

/-- A wait is refused alike by the machines of a run that keeps its time. -/
theorem waitError?_eq_of_staged {waits : List Binary64} (htime : base.KeepsTime waits)
    {seconds : Binary64} (hseconds : seconds ∈ waits) (hs : base.Staged home host)
    (ht : base.Staged home host') : host.waitError? seconds = host'.waitError? seconds := by
  rcases htime with hkeeps | hcan
  · unfold Host.waitError?
    rw [hs.cancelled hkeeps, ht.cancelled hkeeps, hs.platform, ht.platform]
  · have hnone : ∀ {host : Host}, base.Staged home host → host.waitError? seconds = none :=
      fun hs => Host.waitError?_eq_none_iff.mpr (Or.inr (hs.platform ▸ hcan seconds hseconds))
    rw [hnone hs, hnone ht]

/-- **A group meets its own only.** A request that a group makes is answered alike by two sessions
that are alike in what is the group's own; they are so afterwards, and what is not the group's own
has stayed. -/
theorem Group.Admits.answered (hempty : base.disk.EmptyAt context.staging home)
    (hwrites : base.WritesNothing) (hgroup : group.KeepsOut base home)
    (htime : base.KeepsTime (group.waits context))
    (hr : group.Admits context (group.OwnsPlace home) r)
    (hs : base.Staged home s.host) (ht : base.Staged home t.host)
    (h : group.Alike context base home s.host t.host) :
    group.Answered context base home r s t := by
  have hidle : base.disk.KeepsTo home group.OwnsFile fun d => ((), d) := keepsTo_pure ()
  cases r with
  | openFile path =>
    obtain ⟨output, hout, rfl⟩ := hr
    have hop : base.disk.KeepsTo home group.OwnsFile (opened (context.artifactPath output)) :=
      keepsTo_opened hempty (hgroup.bare output hout) fun name hname => ⟨output, hout, hname⟩
    exact answered_of_keepsTo hempty hop (·.mapError DiskError.toFault)
      (fun s => s.answer_openFile _) hs ht h
  | closeFile place octets =>
    obtain ⟨name, hname, rfl⟩ := hr
    exact answered_of_keepsTo hempty (keepsTo_flushAt hempty hname octets) id (fun _ => rfl) hs ht h
  | collect roots =>
    have hcollect : ∀ host : Host, base.Staged home host →
        host.disk.collect roots = base.disk.collect roots := by
      intro host hstaged
      obtain ⟨entries, -, hdisk⟩ := hstaged.disk
      rw [hdisk]
      exact collect_withEntries hempty (hgroup.roots roots hr)
    refine answered_of_becomes hempty hidle (countsOnly_id _) (countsOnly_id _) hs ht h
      (fun _ => ?_) (Host.becomes_replaced _)
      (Host.becomes_replaced _)
    show (s.host.disk.collect roots).mapError _ = (t.host.disk.collect roots).mapError _
    rw [hcollect s.host hs, hcollect t.host ht]
  | start argv timeout redirect => exact answered_start hempty hwrites hr.1 hr.2 hs ht h
  | query className namespaceName => exact answered_query hempty hr hs ht h
  | wait seconds =>
    refine answered_of_becomes hempty hidle (countsOnly_id _) (countsOnly_id _) hs ht h
      (fun _ => ?_) (Host.becomes_replaced _)
      (Host.becomes_replaced _)
    show (s.host.wait seconds).1 = (t.host.wait seconds).1
    unfold Host.wait
    rw [waitError?_eq_of_staged htime hr hs ht]
  | record failure =>
    exact answered_of_becomes hempty hidle (countsOnly_id _) (countsOnly_id _) hs ht h
      (fun _ => rfl) (Host.becomes_replaced _)
      (Host.becomes_replaced _)
  | ensureDirectories path => exact hr.elim
  | recorded => exact hr.elim

/-- Artifacts are opened at places in the staging directory. -/
theorem isNamedIn_of_openForWriting (hempty : base.disk.EmptyAt context.staging home)
    {output : Text} (hbare : IsBareName output) {names : FileName → Prop}
    (hnames : ∀ name, Text.Utf8.encodeName output = .ok name → names name)
    (hs : base.Staged home host) {place : Location} {disk : Disk}
    (hopened : host.disk.openForWriting (context.artifactPath output) = .ok (place, disk)) :
    IsNamedIn home names place := by
  obtain ⟨entries, hfiles, hdisk⟩ := hs.disk
  rw [hdisk] at hopened
  unfold Context.artifactPath at hopened
  rcases openForWriting_artifact hempty hbare with ⟨e, hrefused⟩ | ⟨name, hname, hok⟩
  · rw [hrefused entries hfiles] at hopened
    cases hopened
  · rw [hok entries hfiles] at hopened
    cases hopened
    exact ⟨name, hnames name hname, rfl⟩

/-- The artifacts of a group are opened at places that are its own. -/
theorem Group.KeepsOut.opensAt (hempty : base.disk.EmptyAt context.staging home)
    (hgroup : group.KeepsOut base home) :
    group.OpensAt context (fun s => base.Staged home s.host) (group.OwnsPlace home) :=
  fun _ hs output hout _ _ hopened => isNamedIn_of_openForWriting hempty (hgroup.bare output hout)
    (fun _ hname => ⟨output, hout, hname⟩) hs hopened

end

end Diagnostics
