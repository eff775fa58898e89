import Diagnostics.Proofs.Catalog.Untraced
import Diagnostics.Proofs.Contents
import Diagnostics.Proofs.FanOut.Accounting
import Diagnostics.Proofs.Gather.Alike
import Diagnostics.Proofs.Text.Utf8

/-!
# Leaving traces out is not having them

A run that leaves traces out selects the groups that a catalog without trace groups has, and a run
that includes them selects all that there are. So the two have the same work to do, if the second is
given the catalog without trace groups (`Settings.selected_untraced`). What is left to tell them
apart is what the catalog's file holds, and no request reads it: by every schedule they make the
same calls, report the same, and leave the same files but for that one.
-/

set_option autoImplicit false

namespace Diagnostics

open Diagnostics.Action Disk

/-! ## The same work -/

@[simp] theorem Group.withDwell_trace (dwell : Binary64) (group : Group) :
    (group.withDwell dwell).trace = group.trace := by
  unfold withDwell
  cases group.work <;> rfl

/-- Whether a trace is left out does not depend on how long it is to run. -/
theorem overrideDwell_filter (dwell : Option Binary64) (groups : List Group) :
    overrideDwell dwell (groups.filter (!·.trace)) =
      (overrideDwell dwell groups).filter (!·.trace) := by
  cases dwell with
  | none => rfl
  | some dwell =>
    show (groups.filter (!·.trace)).map _ = (groups.map (Group.withDwell dwell)).filter _
    rw [List.filter_map]
    congr 1
    exact List.filter_congr fun group _ => by simp

/-- Selecting all groups that have no mark is leaving traces out. -/
theorem selectedGroups_untraced (dwell : Option Binary64) (groups : List Group) :
    selectedGroups (overrideDwell dwell (groups.filter (!·.trace))) true =
      selectedGroups (overrideDwell dwell groups) false := by
  rw [overrideDwell_filter]
  simp [selectedGroups]

namespace Settings

/-- The same settings, by which traces are included. -/
def withTraces (s : Settings) : Settings :=
  { s with includeTrace := true }

variable {settings : Settings} {groups : List Group}

theorem selected_untraced (h : settings.includeTrace = false) (groups : List Group) :
    settings.withTraces.selected (groups.filter (!·.trace)) = settings.selected groups := by
  unfold selected
  rw [h]
  exact selectedGroups_untraced settings.traceDwell groups

theorem workerLimit_untraced (h : settings.includeTrace = false) (groups : List Group) :
    settings.withTraces.workerLimit (groups.filter (!·.trace)) = settings.workerLimit groups := by
  unfold workerLimit
  rw [selected_untraced h]
  rfl

end Settings

theorem gatherGroupsWith_untraced {settings : Settings} (h : settings.includeTrace = false)
    (backend : Option Backend) (strict : Bool) (groups : List Group) (host : Host) :
    gatherGroupsWith settings.withTraces backend strict (groups.filter (!·.trace)) host =
      gatherGroupsWith settings backend strict groups host := by
  have hselected := selectedGroups_untraced settings.traceDwell groups
  have hwork : orchestrate (overrideDwell settings.withTraces.traceDwell (groups.filter (!·.trace)))
      (settings.withTraces.context backend) settings.withTraces.includeTrace
        settings.withTraces.maxWorkers =
      orchestrate (overrideDwell settings.traceDwell groups) (settings.context backend)
        settings.includeTrace settings.maxWorkers := by
    rw [← h] at hselected
    unfold orchestrate
    rw [← hselected]
    rfl
  rw [gatherGroupsWith_eq, gatherGroupsWith_eq, hwork]
  rfl

/-! ## The same but for the catalog's file -/

section

variable {place : Location} {host host' : Host}

theorem Settings.conclude_sameBut (settings : Settings) (strict : Bool) (report : RunReport)
    (h : host.SameBut place host') :
    (settings.conclude strict report host).1 = (settings.conclude strict report host').1 ∧
      (settings.conclude strict report host).2.SameBut place
        (settings.conclude strict report host').2 := by
  obtain ⟨disk, hdisk, rfl⟩ := h
  obtain ⟨hwritten, hleft⟩ := (isLikeness_sameBut place).writeReport report
    (settings.staging.child RunReport.fileName) hdisk
  unfold conclude
  dsimp only
  rw [hwritten]
  exact ⟨rfl, _, hleft, rfl⟩

theorem gatherGroupsWith_sameBut (settings : Settings) (backend : Option Backend) (strict : Bool)
    (groups : List Group) (h : host.SameBut place host') :
    (gatherGroupsWith settings backend strict groups host).1 =
        (gatherGroupsWith settings backend strict groups host').1 ∧
      (gatherGroupsWith settings backend strict groups host).2.SameBut place
        (gatherGroupsWith settings backend strict groups host').2 := by
  rw [gatherGroupsWith_eq, gatherGroupsWith_eq]
  obtain ⟨houtcome, hleft⟩ := (Session.answers_sameBut place).settle
    (guarantees_true (orchestrate (overrideDwell settings.traceDwell groups)
      (settings.context backend) settings.includeTrace settings.maxWorkers) []) (h.session [])
  generalize (orchestrate (overrideDwell settings.traceDwell groups) (settings.context backend)
    settings.includeTrace settings.maxWorkers).settle ⟨host, []⟩ = settled at houtcome hleft
  generalize (orchestrate (overrideDwell settings.traceDwell groups) (settings.context backend)
    settings.includeTrace settings.maxWorkers).settle ⟨host', []⟩ = settled' at houtcome hleft
  obtain ⟨outcome, s⟩ := settled
  obtain ⟨outcome', s'⟩ := settled'
  obtain rfl : outcome = outcome' := houtcome
  cases outcome with
  | error fault => exact ⟨rfl, hleft.host⟩
  | ok report => exact settings.conclude_sameBut strict report hleft.host

end

/-- Two runs end in the same way: they report the same, return the same, and leave machines that are
the same but for what the file at a place holds. -/
structure GatherRun.EndsLike (place : Location) {env env' : Environment}
    {backend backend' : Option Backend} {request request' : GatherRequest} {host host' : Host}
    (run : GatherRun env backend request host)
    (run' : GatherRun env' backend' request' host') : Prop where
  report : run.ended.report = run'.ended.report
  outcome : run.outcome.1 = run'.outcome.1
  left : run.outcome.2.SameBut place run'.outcome.2

/-- A moment at which no group with the trace mark has a worker, or has had one. -/
structure FanOut.IsUntraced (f : FanOut) : Prop where
  workers : ∀ w ∈ f.workers, w.group.trace = false
  joined : ∀ j ∈ f.joined, j.group.trace = false

section

variable {env env' : Environment} {backend : Option Backend} {request request' : GatherRequest}
  {host host' : Host} {settings : Settings} {place : Location}

/-- A catalog that is accepted is the plan's, unless the settings are refused. -/
theorem GatherRequest.plan_of_hasCatalog {path : Path} {document : Json} {groups : List Group}
    (hsettings : request.settings env = .ok settings) (hpath : settings.catalog = some path)
    (hcatalog : host.disk.HasCatalog path place document)
    (haccepted : Catalog.parse document = .ok groups) :
    request.plan env host.disk =
      (settings.validate.mapError .settings).map fun () => (settings, groups) := by
  unfold plan
  rw [hsettings]
  dsimp only
  cases settings.validate with
  | error e => rfl
  | ok _ =>
    dsimp only
    rw [hpath]
    dsimp only
    rw [hcatalog.load_eq, haccepted]
    rfl

theorem GatherRun.endsLike_of_alike {run : GatherRun env backend request host}
    {run' : GatherRun env' backend request' host'} (hstrict : request'.strict = request.strict)
    (hstaging : run'.settings.staging = run.settings.staging)
    (h : run.ended.Alike (Session.SameBut place) run'.ended) : run.EndsLike place run' := by
  have hreport : run.ended.report = run'.ended.report := h.report_eq h.session.failures
  have hconclude : run'.outcome =
      run.settings.conclude request.strict run.ended.report run'.ended.session.host := by
    unfold outcome Settings.conclude
    rw [hstrict, hstaging, ← hreport]
  obtain ⟨houtcome, hleft⟩ :=
    run.settings.conclude_sameBut request.strict run.ended.report h.session.host
  rw [← hconclude] at houtcome hleft
  exact ⟨hreport, houtcome, hleft⟩

/-- A run that leaves traces out has workers for other groups only. -/
theorem GatherRun.isUntraced_of_passes (run : GatherRun env backend request host)
    (h : run.settings.includeTrace = false) {f : FanOut} (hpasses : run.Passes f) :
    f.IsUntraced := by
  have hgroups := (FanOut.consistent_of_steps hpasses.1).groups
  have hselected : ∀ group ∈ run.selected, group.trace = false := by
    intro group hgroup
    unfold selected Settings.selected selectedGroups at hgroup
    rw [h] at hgroup
    simpa using List.of_mem_filter hgroup
  refine ⟨fun w hw => hselected _ ?_, fun j hj => hselected _ ?_⟩
  · exact hgroups.mem_iff.mp (List.mem_append_left _ (List.mem_map_of_mem hw))
  · exact hgroups.mem_iff.mp (List.mem_append_right _ (List.mem_map_of_mem hj))

/-- A run that leaves traces out has one that is like it, by the same schedule, on a machine whose
catalog has no trace groups, and the other way round. -/
theorem GatherRun.exists_endsLike_withTraces {groups : List Group}
    (hstrict : request'.strict = request.strict) (huntraced : settings.includeTrace = false)
    (hplan : request.plan env host.disk = .ok (settings, groups))
    (hplan' : request'.plan env' host'.disk =
      .ok (settings.withTraces, groups.filter (!·.trace)))
    (h : host.SameBut place host') {schedule : List Nat} :
    (∀ run : GatherRun env backend request host, run.Follows schedule →
        ∃ run' : GatherRun env' backend request' host',
          run'.Follows schedule ∧ run.EndsLike place run') ∧
      ∀ run' : GatherRun env' backend request' host', run'.Follows schedule →
        ∃ run : GatherRun env backend request host,
          run.Follows schedule ∧ run.EndsLike place run' := by
  have hanswers := Session.answers_sameBut place
  constructor
  · intro run hfollows
    obtain ⟨rfl, rfl⟩ : run.settings = settings ∧ run.groups = groups :=
      Prod.mk.inj (Except.ok.inj (run.planned.symm.trans hplan))
    obtain ⟨run', hsettings, hfollows', hended⟩ :=
      run.exists_alike hanswers (h.session []) trivial (fun _ _ => guarantees_true _ _) hplan' rfl
        (Settings.selected_untraced huntraced _) (Settings.workerLimit_untraced huntraced _)
        hfollows
    have hstaging : run'.settings.staging = run.settings.staging := by
      rw [hsettings]
      rfl
    exact ⟨run', hfollows', endsLike_of_alike hstrict hstaging hended⟩
  · intro run' hfollows
    obtain ⟨hsettings, hgroups⟩ :
        run'.settings = settings.withTraces ∧ run'.groups = groups.filter (!·.trace) :=
      Prod.mk.inj (Except.ok.inj (run'.planned.symm.trans hplan'))
    have hselected : settings.selected groups = run'.selected := by
      unfold selected
      rw [hsettings, hgroups, Settings.selected_untraced huntraced]
    have hlimit : settings.workerLimit groups = run'.settings.workerLimit run'.groups := by
      rw [hsettings, hgroups, Settings.workerLimit_untraced huntraced]
    have hcontext : settings.context backend = run'.context := by
      unfold context
      rw [hsettings]
      rfl
    obtain ⟨run, hrun, hfollows', hended⟩ :=
      run'.exists_alike hanswers (h.symm.session []) trivial (fun _ _ => guarantees_true _ _) hplan
        hcontext hselected hlimit hfollows
    have hstaging : run'.settings.staging = run.settings.staging := by
      rw [hsettings, hrun]
      rfl
    exact ⟨run, hfollows', endsLike_of_alike hstrict hstaging (hended.symm Session.SameBut.symm)⟩

/-- **Leaving traces out is not having them.** A request that leaves traces out and one that
includes them but is the same otherwise are made of two machines that are the same, except that the
catalog of the second is that of the first without its trace groups. That catalog is accepted if the
first is. Then both requests end in the same way: with the same report, lines and success, or for
the same reason, after the same calls, and they leave the same files but for the catalog's. So do
the runs of both that follow one schedule, whichever it is; and at no moment of the first has a
trace group a worker that could start a program, put a query or wait. -/
theorem traces_left_out_as_absent {path : Path} {document : Json} {groups : List Group}
    {octets : List UInt8} (backend : Option Backend)
    (hsettings : request.settings env = .ok settings) (huntraced : settings.includeTrace = false)
    (hsettings' : request'.settings env' = .ok settings.withTraces)
    (hstrict : request'.strict = request.strict) (hpath : settings.catalog = some path)
    (hcatalog : host.disk.HasCatalog path place document)
    (haccepted : Catalog.parse document = .ok groups)
    (hreads : Catalog.ReadsAs octets (Catalog.withoutTraces document)) :
    Catalog.parse (Catalog.withoutTraces document) = .ok (groups.filter (!·.trace)) ∧
      (gather env backend request host).1 =
        (gather env' backend request' (host.withFile place octets)).1 ∧
      (gather env backend request host).2.SameBut place
        (gather env' backend request' (host.withFile place octets)).2 ∧
      (∀ schedule (run : GatherRun env backend request host), run.Follows schedule →
        ∃ run' : GatherRun env' backend request' (host.withFile place octets),
          run'.Follows schedule ∧ run.EndsLike place run') ∧
      (∀ schedule (run' : GatherRun env' backend request' (host.withFile place octets)),
        run'.Follows schedule → ∃ run : GatherRun env backend request host,
          run.Follows schedule ∧ run.EndsLike place run') ∧
      ∀ (run : GatherRun env backend request host) f, run.Passes f → f.IsUntraced := by
  have haccepted' := Catalog.parse_withoutTraces haccepted
  obtain ⟨old, hat, -⟩ := hcatalog.holds
  have hsame : host.SameBut place (host.withFile place octets) := Host.sameBut_withFile hat octets
  have hplan := GatherRequest.plan_of_hasCatalog hsettings hpath hcatalog haccepted
  have hplan' := @GatherRequest.plan_of_hasCatalog _ _ (host.withFile place octets) _ _ _ _ _
    hsettings' hpath (hcatalog.put hreads) haccepted'
  have hvalid : settings.withTraces.validate = settings.validate := rfl
  rw [hvalid] at hplan'
  have hselects : ∀ run : GatherRun env backend request host,
      run.settings.includeTrace = false := by
    intro run
    rw [Except.ok.inj ((GatherRequest.plan_ok run.planned).1.symm.trans hsettings)]
    exact huntraced
  rw [gather_eq, gather_eq]
  cases hchecked : settings.validate with
  | error e =>
    -- Both requests are refused, and there are no runs.
    rw [hchecked] at hplan hplan'
    rw [hplan, hplan']
    exact ⟨haccepted', rfl, hsame, fun _ run _ => absurd (run.planned.symm.trans hplan) nofun,
      fun _ run' _ => absurd (run'.planned.symm.trans hplan') nofun,
      fun run _ hpasses => run.isUntraced_of_passes (hselects run) hpasses⟩
  | ok _ =>
    rw [hchecked] at hplan hplan'
    obtain ⟨houtcome, hleft⟩ :=
      gatherGroupsWith_sameBut settings backend request.strict groups hsame
    have hruns := fun schedule => @GatherRun.exists_endsLike_withTraces env env' backend request
      request' host _ settings place groups hstrict huntraced hplan hplan' hsame schedule
    rw [hplan, hplan']
    dsimp only [Except.mapError, Except.map]
    rw [hstrict, gatherGroupsWith_untraced huntraced, houtcome]
    exact ⟨haccepted', rfl, hleft, fun schedule => (hruns schedule).1,
      fun schedule => (hruns schedule).2,
      fun run _ hpasses => run.isUntraced_of_passes (hselects run) hpasses⟩

end

namespace GatherRun.Example

def markedGroup : Json :=
  .object [("name", .text "T"), ("trace", .bool true),
    ("tasks", .array [task "process" (program "q" "t")])]

/-- A document with a group of one program in front of others. -/
def documentBefore (others : List Json) : Json :=
  .object [("groups", .array (
    .object [("name", .text "G"), ("tasks", .array [task "process" (program "p" "o")])] :: others))]

/-- A text of a document. -/
def textOf (document : Json) : List UInt8 :=
  match Text.Utf8.encode document.write with
  | .ok octets => octets
  | .error _ => []

/-- A machine on which every program prints one octet. Of the two groups of its catalog the second has
the mark. -/
def marked : Host :=
  machine (textOf (documentBefore [markedGroup])) [] fun _ =>
    some fun _ => .completed ⟨false, [], [0x31], [], 0, 0⟩

/-- Asks for the groups of the catalog, traces included. -/
def includingRequest : GatherRequest :=
  { request "s" with includeTrace := some true }

theorem readsAs_textOf {document : Json} (h : (Text.Utf8.encode document.write).isOk = true)
    (hread : Json.read (Text.unifyNewlines document.write.chars) = .ok document) :
    Catalog.ReadsAs (textOf document) document := by
  unfold textOf
  cases hencode : Text.Utf8.encode document.write with
  | ok octets => exact ⟨_, Text.Utf8.decode_of_encode hencode, hread⟩
  | error e =>
    rw [hencode] at h
    cases h

end GatherRun.Example

open GatherRun.Example

set_option maxRecDepth 8192 in
/-- The program of the trace group is started if traces are included, and not else: that is as if
the catalog had no such group. -/
theorem traces_left_out_as_absent_marked :
    (gather (fun _ => none) none includingRequest marked).2.calls.length = 2 ∧
      (gather (fun _ => none) none (request "s") marked).2.calls.length = 1 ∧
      (gather (fun _ => none) none (request "s") marked).1.isOk = true ∧
      (gather (fun _ => none) none (request "s") marked).1 =
        (gather (fun _ => none) none includingRequest
          (marked.withFile [catalogName] (textOf (documentBefore [])))).1 := by
  have hmarked :
      Catalog.ReadsAs (textOf (documentBefore [markedGroup])) (documentBefore [markedGroup]) :=
    readsAs_textOf (by decide +kernel) rfl
  have hplain : Catalog.ReadsAs (textOf (documentBefore []))
      (Catalog.withoutTraces (documentBefore [markedGroup])) :=
    readsAs_textOf (by decide +kernel) rfl
  have hcatalog : marked.disk.HasCatalog (Path.ofText "c") [catalogName]
      (documentBefore [markedGroup]) := ⟨rfl, _, rfl, hmarked⟩
  obtain ⟨-, hgather, -⟩ := @traces_left_out_as_absent (fun _ => none) (fun _ => none) (request "s")
    includingRequest marked _ _ _ _ _ _ none rfl rfl rfl rfl rfl hcatalog rfl hplain
  exact ⟨by decide +kernel, by decide +kernel, by decide +kernel, hgather⟩

end Diagnostics
