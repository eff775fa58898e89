import Diagnostics.Proofs.Catalog.Overflow
import Diagnostics.Proofs.Catalog.Unique
import Diagnostics.Proofs.Number.Order

/-!
# Exactly the grammar is accepted

**`accepts_exactly_described`**: a document without NaN, in which no number of seconds is too large
for binary64, is read as groups when it describes these groups (`Describes`), and is rejected when
it describes none.

What the reader compares with zero is the other way round than what is asked for: a limit passes
that is *not* at most zero. The two are the same for a number that is one, so bounds are changed
part by part along the rules (`Describes.mono`). That nothing but a rejection comes out otherwise is
shown along the reader (`parse_onlyRejects`), where the one other fault is that of bringing a number
to binary64.
-/

set_option autoImplicit false

namespace Diagnostics

namespace Catalog

open Diagnostics.Json (field? IsPart)

/-! ## Bounds -/

/-- What is asked for: a limit is above zero, and a dwell is at least zero. -/
def Bounds.stated : Bounds where
  timeout
    | .integer i => 0 < i
    | .number x => 0 < x
  dwell
    | .integer i => 0 ≤ i
    | .number x => 0 ≤ x

/-- On the numbers of a value, what keeps to the one keeps to the other. -/
def Bounds.Implies (b c : Bounds) (v : Json) : Prop :=
  ∀ w t, IsPart w v → Seconds.ofJson? w = some t →
    (b.timeout t → c.timeout t) ∧ (b.dwell t → c.dwell t)

section Mono

variable {α : Type} {b c : Bounds} {fields : List (Text × Json)}

theorem Bounds.Implies.item {items : List Json} (h : b.Implies c (.array items)) {v : Json}
    (hv : v ∈ items) : b.Implies c v :=
  fun w t hw => h w t (.item hv hw)

theorem Bounds.Implies.field (h : b.Implies c (.object fields)) {name : Text} {v : Json}
    (hv : field? name fields = some v) : b.Implies c v :=
  fun w t hw => h w t (.field hv hw)

theorem RequiredField.mono {reads reads' : Json → α → Prop} {field : Option Json} {a : α}
    (h : RequiredField reads field a) (himp : ∀ v, field = some v → reads v a → reads' v a) :
    RequiredField reads' field a := by
  cases field with
  | none => exact h
  | some v => exact himp v rfl h

theorem OptionalField.mono {reads reads' : Json → α → Prop} {default : α} {field : Option Json}
    {a : α} (h : OptionalField reads default field a)
    (himp : ∀ v, field = some v → reads v a → reads' v a) :
    OptionalField reads' default field a := by
  cases field with
  | none => exact h
  | some v => exact himp v rfl h

theorem IsArray.mono {reads reads' : Json → α → Prop} {v : Json} {list : List α}
    (h : IsArray reads v list) (hb : b.Implies c v)
    (himp : ∀ w, b.Implies c w → ∀ a, reads w a → reads' w a) : IsArray reads' v list := by
  obtain ⟨vs, rfl, h⟩ := h
  refine ⟨vs, rfl, ?_⟩
  refine ((List.forall₂_and_left vs list).mpr ⟨fun w hw => hw, h⟩).imp fun w a hw => ?_
  exact himp w (hb.item hw.1) a hw.2

theorem IsObject.mono {reads reads' : List (Text × Json) → α → Prop} {v : Json} {a : α}
    (h : IsObject reads v a) (hb : b.Implies c v)
    (himp : ∀ fields, b.Implies c (.object fields) → reads fields a → reads' fields a) :
    IsObject reads' v a := by
  obtain ⟨fields, rfl, h⟩ := h
  exact ⟨fields, rfl, himp fields hb h⟩

theorem IsSeconds.mono {bound bound' : Seconds → Prop} {v : Json} {x : Binary64}
    (h : IsSeconds bound v x) (himp : ∀ t, Seconds.ofJson? v = some t → bound t → bound' t) :
    IsSeconds bound' v x := by
  obtain ⟨t, ht, hbound, hx⟩ := h
  exact ⟨t, ht, himp t ht hbound, hx⟩

theorem DescribesProcess.mono {ownFile : Option Bool} {task : ProcessTask}
    (h : DescribesProcess b fields ownFile task) (hb : b.Implies c (.object fields)) :
    DescribesProcess c fields ownFile task where
  executable := h.executable
  arguments := h.arguments
  output := h.output
  ownFile := h.ownFile
  timeout := by
    refine h.timeout.mono fun v hv htimeout => ?_
    rcases htimeout with hnull | ⟨x, hx, hseconds⟩
    · exact Or.inl hnull
    · exact Or.inr ⟨x, hx, hseconds.mono fun t ht => (hb.field hv v t .self ht).1⟩

theorem DescribesCapture.mono {task : CaptureTask} (h : DescribesCapture b fields task)
    (hb : b.Implies c (.object fields)) : DescribesCapture c fields task where
  start := h.start.mono fun _ hv hstart => hstart.mono (hb.field hv) fun _ hb h => h.mono hb
  stop := h.stop.mono fun _ hv hstop => hstop.mono (hb.field hv) fun _ hb h => h.mono hb
  dwell := h.dwell.mono fun v hv hdwell =>
    hdwell.mono fun t ht => (hb.field hv v t .self ht).2

theorem DescribesTask.mono {task : Task} (h : DescribesTask b fields task)
    (hb : b.Implies c (.object fields)) : DescribesTask c fields task := by
  cases h with
  | process kind h => exact .process kind (h.mono hb)
  | query kind h => exact .query kind h
  | capture kind h => exact .capture kind (h.mono hb)

theorem DescribesWork.mono {work : Work} (h : DescribesWork b fields work)
    (hb : b.Implies c (.object fields)) : DescribesWork c fields work := by
  cases h with
  | tasks alone h =>
    refine .tasks alone (h.mono fun v hv htasks => ?_)
    exact htasks.mono (hb.field hv) fun w hb task htask =>
      htask.mono hb fun _ hb h => h.mono hb
  | roots alone h => exact .roots alone h

theorem DescribesGroup.mono {group : Group} (h : DescribesGroup b fields group)
    (hb : b.Implies c (.object fields)) : DescribesGroup c fields group where
  name := h.name
  trace := h.trace
  work := h.work.mono hb

theorem DescribesGroups.mono {groups : List Group} (h : DescribesGroups b fields groups)
    (hb : b.Implies c (.object fields)) : DescribesGroups c fields groups :=
  RequiredField.mono h fun _ hv hgroups =>
    hgroups.mono (hb.field hv) fun _ hb _ hgroup => hgroup.mono hb fun _ hb h => h.mono hb

end Mono

/-- The document is an object of groups that follow the rules, the names of groups and those of
artifacts are used once, and captures are alone. -/
structure Describes (bounds : Bounds) (document : Json) (groups : List Group) : Prop where
  document : IsObject (DescribesGroups bounds) document groups
  names : (groups.map Group.name).Nodup
  outputs : (groups.flatMap Group.outputs).Nodup
  captures : ∀ group ∈ groups, group.CapturesAlone

theorem Describes.mono {b c : Bounds} {document : Json} {groups : List Group}
    (h : Describes b document groups) (hb : b.Implies c document) :
    Describes c document groups where
  document := h.document.mono hb fun _ hb hgroups => hgroups.mono hb
  names := h.names
  outputs := h.outputs
  captures := h.captures

theorem parse_ok_iff_describes {document : Json} {groups : List Group} :
    parse document = .ok groups ↔ Describes .checked document groups := by
  rw [parse_ok_iff, checkUnique_ok_iff]
  constructor
  · rintro ⟨hgroups, hnames, houtputs, hcaptures⟩
    exact ⟨hgroups, hnames, houtputs, hcaptures⟩
  · intro h
    exact ⟨h.document, h.names, h.outputs, h.captures⟩

/-! ## Documents without NaN -/

theorem Bounds.checked_of_stated {t : Seconds} :
    (stated.timeout t → checked.timeout t) ∧ (stated.dwell t → checked.dwell t) := by
  cases t with
  | integer i =>
    exact ⟨fun h => decide_eq_false (Int.not_le.mpr h), fun h => decide_eq_false (Int.not_lt.mpr h)⟩
  | number x =>
    exact ⟨fun h => decide_eq_false (Binary64.not_le_of_lt h),
      fun h => decide_eq_false (Binary64.not_lt_of_le h)⟩

theorem Bounds.stated_of_checked {t : Seconds} (ht : t ≠ .number .nan) :
    (checked.timeout t → stated.timeout t) ∧ (checked.dwell t → stated.dwell t) := by
  cases t with
  | integer i =>
    exact ⟨fun h => Int.not_le.mp (of_decide_eq_false h),
      fun h => Int.not_lt.mp (of_decide_eq_false h)⟩
  | number x =>
    have hx : x ≠ .nan := fun hx => ht (by rw [hx])
    have hzero : (0 : Binary64) ≠ .nan := nofun
    exact ⟨fun h => (Binary64.not_le hx hzero).mp (of_decide_eq_false h),
      fun h => (Binary64.not_lt hx hzero).mp (of_decide_eq_false h)⟩

theorem Bounds.stated_implies_checked (v : Json) : stated.Implies checked v :=
  fun _ _ _ _ => checked_of_stated

/-- A number that is no NaN and passes the check keeps to what is asked for. -/
theorem Bounds.checked_implies_stated {v : Json} (hnan : ¬ IsPart (.number .nan) v) :
    checked.Implies stated v := by
  intro w t hw ht
  refine stated_of_checked ?_
  rintro rfl
  rw [Seconds.eq_toJson_of_ofJson? ht] at hw
  exact hnan hw

theorem describes_checked_iff {document : Json} (hnan : ¬ IsPart (.number .nan) document)
    {groups : List Group} :
    Describes .checked document groups ↔ Describes .stated document groups := by
  constructor
  · exact fun h => h.mono (Bounds.checked_implies_stated hnan)
  · exact fun h => h.mono (Bounds.stated_implies_checked document)

/-- Whether an integer in a field has a binary64 form. -/
def fits (name : Text) (fields : List (Text × Json)) : Bool :=
  match field? name fields with
  | some (.integer i) => (Binary64.ofInt? i).isSome
  | _ => true

theorem ne_none_of_fits {name : Text} {fields : List (Text × Json)} (h : fits name fields = true)
    {i : Int} (hi : field? name fields = some (.integer i)) : Binary64.ofInt? i ≠ none := by
  unfold fits at h
  rw [hi] at h
  exact Option.isSome_iff_ne_none.mp h

/-- Whether a value is no NaN, and the integers in it that stand for seconds are not too large. -/
def isSound : Json → Bool
  | .number x => !x.isNaN
  | .object fields => fits "timeout_seconds" fields && fits "dwell_seconds" fields
  | _ => true

theorem not_isPart_nan_of_every {document : Json} (h : document.every isSound = true) :
    ¬ IsPart (.number .nan) document := by
  intro hpart
  cases Json.of_every hpart h

theorem secondsFit_of_every {document : Json} (h : document.every isSound = true) :
    SecondsFit document where
  timeout _ _ hpart := ne_none_of_fits (Bool.and_eq_true_iff.mp (Json.of_every hpart h)).1
  dwell _ _ hpart := ne_none_of_fits (Bool.and_eq_true_iff.mp (Json.of_every hpart h)).2

/-- **A catalog is read exactly when it follows the rules**, as the groups that it describes, and
rejected otherwise; if no number in it is a NaN and none of its seconds is too large. -/
theorem accepts_exactly_described {document : Json} (hnan : ¬ IsPart (.number .nan) document)
    (hfit : SecondsFit document) :
    (∀ groups, parse document = .ok groups ↔ Describes .stated document groups) ∧
      ((¬ ∃ groups, Describes .stated document groups) →
        ∃ e, parse document = .error (.rejected e)) := by
  have hread : ∀ groups, parse document = .ok groups ↔ Describes .stated document groups :=
    fun groups => parse_ok_iff_describes.trans (describes_checked_iff hnan)
  refine ⟨hread, fun hnone => ?_⟩
  cases hparse : parse document with
  | ok groups => exact absurd ⟨groups, (hread groups).mp hparse⟩ hnone
  | error fault =>
    obtain ⟨e, rfl⟩ := parse_onlyRejects hfit fault hparse
    exact ⟨e, rfl⟩

/-- A program with a limit on its time, and files to look for when traces are asked for. -/
def exampleCatalog : Json :=
  .object [("groups", .array [
    .object [("name", .text "net"), ("tasks", .array [
      .object [("type", .text "process"), ("executable", .text "netsh"), ("args", .text "show all"),
        ("output", .text "net.txt"), ("timeout_seconds", .integer 30)]])],
    .object [("name", .text "logs"), ("trace", .bool true),
      ("roots", .array [.text "/var/log"])]])]

theorem exampleCatalog_described :
    ¬ IsPart (.number .nan) exampleCatalog ∧ SecondsFit exampleCatalog ∧
      Describes .stated exampleCatalog
        [⟨"net", false, .tasks [.process
            ⟨"netsh", "show all", "net.txt", false, Binary64.ofInt? 30⟩]⟩,
          ⟨"logs", true, .roots [Path.ofText "/var/log"]⟩] := by
  have hsound : exampleCatalog.every isSound = true := by decide
  have hnan := not_isPart_nan_of_every hsound
  have hfit := secondsFit_of_every hsound
  refine ⟨hnan, hfit, ?_⟩
  exact ((accepts_exactly_described hnan hfit).1 _).mp (by decide)

end Catalog

end Diagnostics
