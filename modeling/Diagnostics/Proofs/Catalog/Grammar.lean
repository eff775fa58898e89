import Diagnostics.Catalog.Load
import Mathlib.Data.List.Forall2

/-!
# The grammar of catalogs

What a document has to look like to be read as groups, and as which, one rule for each kind of
value. The rules do not tell in which order the reader looks at things, nor at which place of the
document; they put together what is read of a value (`IsText`, `IsSeconds`, …) and how it stands in
an object (`RequiredField`, `OptionalField`) or in an array (`IsArray`).

Each function of the reader decides one rule, and its lemma says so: `parseTask_ok_iff`,
`parseGroup_ok_iff`, and **`parse_ok_iff`** for whole documents.

The rules leave open which numbers of seconds are taken (`Bounds`). What the reader looks at is
`Bounds.checked`, and it lets a NaN pass, which compares with nothing.
-/

set_option autoImplicit false

namespace Diagnostics

/-- A name that a path is made of by itself: not blank, and without a slash. -/
def IsBareName (name : Text) : Prop :=
  name.allBlank = false ∧ (Path.ofText name).name = name

namespace Catalog

open Diagnostics.Json (field?)

/-- Which numbers of seconds are taken for a limit on time, and which for a dwell. -/
structure Bounds where
  timeout : Seconds → Prop
  dwell : Seconds → Prop

/-- A limit that is not at most zero, and a dwell that is not below it. -/
def Bounds.checked : Bounds where
  timeout t := t.isNotPositive = false
  dwell t := t.isNegative = false

/-! ## Values -/

section Values

variable {α : Type}

def IsText (v : Json) (s : Text) : Prop :=
  v = .text s

def IsNonBlank (v : Json) (s : Text) : Prop :=
  v = .text s ∧ s.allBlank = false

def IsOutput (v : Json) (s : Text) : Prop :=
  v = .text s ∧ IsBareName s

def IsBool (v : Json) (b : Bool) : Prop :=
  v = .bool b

/-- A number in bounds, whichever way it is written, and the binary64 that stands for it. -/
def IsSeconds (bound : Seconds → Prop) (v : Json) (x : Binary64) : Prop :=
  ∃ t, Seconds.ofJson? v = some t ∧ bound t ∧ t.toBinary64 = .ok x

def IsTimeout (bounds : Bounds) (v : Json) (limit : Option Binary64) : Prop :=
  v = .null ∧ limit = none ∨ ∃ x, limit = some x ∧ IsSeconds bounds.timeout v x

def IsArray (reads : Json → α → Prop) (v : Json) (list : List α) : Prop :=
  ∃ vs, v = .array vs ∧ List.Forall₂ reads vs list

def IsObject (reads : List (Text × Json) → α → Prop) (v : Json) (a : α) : Prop :=
  ∃ fields, v = .object fields ∧ reads fields a

/-- The field is there, and it is read. -/
def RequiredField (reads : Json → α → Prop) : Option Json → α → Prop
  | none, _ => False
  | some v, a => reads v a

/-- The field is read if it is there, and stands for a default if it is not. -/
def OptionalField (reads : Json → α → Prop) (default : α) : Option Json → α → Prop
  | none, a => a = default
  | some v, a => reads v a

@[simp] theorem requiredField_none {reads : Json → α → Prop} {a : α} :
    ¬ RequiredField reads none a :=
  id

@[simp] theorem requiredField_some {reads : Json → α → Prop} {v : Json} {a : α} :
    RequiredField reads (some v) a ↔ reads v a :=
  Iff.rfl

@[simp] theorem optionalField_none {reads : Json → α → Prop} {default a : α} :
    OptionalField reads default none a ↔ a = default :=
  Iff.rfl

@[simp] theorem optionalField_some {reads : Json → α → Prop} {default a : α} {v : Json} :
    OptionalField reads default (some v) a ↔ reads v a :=
  Iff.rfl

theorem requiredField_isOutput_iff {field : Option Json} {s : Text} :
    RequiredField IsOutput field s ↔
      RequiredField IsNonBlank field s ∧ (Path.ofText s).name = s := by
  cases field <;> simp [IsOutput, IsNonBlank, IsBareName, and_assoc]

theorem requiredField_isArray_iff {reads : Json → α → Prop} {field : Option Json} {list : List α} :
    RequiredField (IsArray reads) field list ↔
      ∃ vs, field = some (.array vs) ∧ List.Forall₂ reads vs list := by
  cases field <;> simp [IsArray]

/-- What an array is read as comes from its values. -/
theorem exists_of_mem_array {reads : Json → α → Prop} {field : Option Json} {list : List α}
    (h : RequiredField (IsArray reads) field list) {a : α} (ha : a ∈ list) : ∃ v, reads v a := by
  obtain ⟨vs, -, hvs⟩ := requiredField_isArray_iff.mp h
  obtain ⟨i, hi, rfl⟩ := List.getElem_of_mem ha
  exact ⟨_, hvs.get (hvs.length_eq.symm ▸ hi) hi⟩

theorem requiredField_isObject_iff {reads : List (Text × Json) → α → Prop} {field : Option Json}
    {a : α} :
    RequiredField (IsObject reads) field a ↔
      ∃ fields, field = some (.object fields) ∧ reads fields a := by
  cases field <;> simp [IsObject]

end Values

/-! ## The rules -/

section Rules

variable (bounds : Bounds) (fields : List (Text × Json))

/-- Whether the program writes its own file: settled beforehand, or read. -/
inductive DescribesOwnFile : Option Bool → Bool → Prop
  | settled (b : Bool) : DescribesOwnFile (some b) b
  | read {b : Bool} (h : OptionalField IsBool false (field? "produces_own_file" fields) b) :
    DescribesOwnFile none b

structure DescribesProcess (ownFile : Option Bool) (task : ProcessTask) : Prop where
  executable : RequiredField IsNonBlank (field? "executable" fields) task.executable
  arguments : OptionalField IsText "" (field? "args" fields) task.arguments
  output : RequiredField IsOutput (field? "output" fields) task.output
  ownFile : DescribesOwnFile fields ownFile task.ownFile
  timeout : OptionalField (IsTimeout bounds) none (field? "timeout_seconds" fields) task.timeout

structure DescribesQuery (task : QueryTask) : Prop where
  className : RequiredField IsNonBlank (field? "class" fields) task.className
  namespaceName : RequiredField IsNonBlank (field? "namespace" fields) task.namespaceName
  output : RequiredField IsOutput (field? "output" fields) task.output

/-- A phase of a capture, which writes its own file. -/
abbrev DescribesPhase (task : ProcessTask) : Prop :=
  DescribesProcess bounds fields (some true) task

/-- A capture. That its phases have one output is part of its type. -/
structure DescribesCapture (task : CaptureTask) : Prop where
  start : RequiredField (IsObject (DescribesPhase bounds)) (field? "start" fields) task.start
  stop : RequiredField (IsObject (DescribesPhase bounds)) (field? "stop" fields) task.stop
  dwell : OptionalField (IsSeconds bounds.dwell) CaptureTask.defaultDwell
    (field? "dwell_seconds" fields) task.dwell

inductive DescribesTask : Task → Prop
  | process {task : ProcessTask} (kind : field? "type" fields = some (.text "process"))
      (h : DescribesProcess bounds fields none task) : DescribesTask (.process task)
  | query {task : QueryTask} (kind : field? "type" fields = some (.text "query"))
      (h : DescribesQuery fields task) : DescribesTask (.query task)
  | capture {task : CaptureTask} (kind : field? "type" fields = some (.text "capture"))
      (h : DescribesCapture bounds fields task) : DescribesTask (.capture task)

/-- Exactly one of the two fields is there. -/
inductive DescribesWork : Work → Prop
  | tasks {tasks : List Task} (alone : field? "roots" fields = none)
      (h : RequiredField (IsArray (IsObject (DescribesTask bounds))) (field? "tasks" fields) tasks) :
      DescribesWork (.tasks tasks)
  | roots {roots : List Text} (alone : field? "tasks" fields = none)
      (h : RequiredField (IsArray IsText) (field? "roots" fields) roots) :
      DescribesWork (.roots (roots.map Path.ofText))

structure DescribesGroup (group : Group) : Prop where
  name : RequiredField IsNonBlank (field? "name" fields) group.name
  trace : OptionalField IsBool false (field? "trace" fields) group.trace
  work : DescribesWork bounds fields group.work

def DescribesGroups (groups : List Group) : Prop :=
  RequiredField (IsArray (IsObject (DescribesGroup bounds))) (field? "groups" fields) groups

end Rules

/-! ## Steps of the reader -/

section Steps

variable {α β : Type}

/-- A reading in two steps succeeds when both do. -/
theorem bind_ok_iff {ε : Type} {x : Except ε α} {f : α → Except ε β} {b : β} :
    x >>= f = .ok b ↔ ∃ a, x = .ok a ∧ f a = .ok b := by
  cases x <;> simp [bind, Except.bind]

theorem map_ok_iff {ε : Type} {x : Except ε α} {f : α → β} {b : β} :
    x.map f = .ok b ↔ ∃ a, x = .ok a ∧ f a = b := by
  cases x <;> simp [Except.map]

/-- Reads the values of an array, each by its index, up to the first that is not read. -/
def readAll (read : Nat → Json → Except CatalogFault α) :
    (index : Nat) → List Json → Except CatalogFault (List α)
  | _, [] => .ok []
  | index, v :: vs => do
    let a ← read index v
    let list ← readAll read (index + 1) vs
    return a :: list

theorem readAll_ok_iff {read : Nat → Json → Except CatalogFault α} {reads : Json → α → Prop}
    (hread : ∀ index v a, read index v = .ok a ↔ reads v a) {vs : List Json} :
    ∀ {index : Nat} {list : List α}, readAll read index vs = .ok list ↔
      List.Forall₂ reads vs list := by
  induction vs with
  | nil =>
    intro index list
    simp [readAll, eq_comm]
  | cons v vs ih =>
    intro index list
    simp only [readAll, bind_ok_iff, hread, ih, List.forall₂_cons_left_iff]
    constructor
    · rintro ⟨a, ha, rest, hrest, ⟨⟩⟩
      exact ⟨a, rest, ha, hrest, rfl⟩
    · rintro ⟨a, rest, ha, hrest, rfl⟩
      exact ⟨a, ha, rest, hrest, rfl⟩

@[simp] theorem reject_ne_ok {place : Place} {complaint : Complaint} {a : α} :
    reject place complaint ≠ .ok a :=
  nofun

end Steps

/-! ## Fields -/

section Fields

variable {place : Place} {fields : List (Text × Json)}

theorem requiredText_ok_iff {name : String} {s : Text} :
    requiredText place fields name = .ok s ↔ RequiredField IsNonBlank (field? name fields) s := by
  unfold requiredText
  cases field? name fields with
  | none => simp
  | some v =>
    cases v with
    | text t =>
      simp only [requiredField_some, IsNonBlank, Json.text.injEq]
      split
      next hblank =>
        simp only [reject_ne_ok, false_iff]
        rintro ⟨rfl, hs⟩
        simp [hs] at hblank
      next hblank =>
        constructor
        · rintro ⟨⟩
          exact ⟨rfl, by simpa using hblank⟩
        · rintro ⟨rfl, -⟩
          rfl
    | _ => simp [IsNonBlank]

theorem requiredOutput_ok_iff {output : Text} :
    requiredOutput place fields = .ok output ↔
      RequiredField IsOutput (field? "output" fields) output := by
  unfold requiredOutput
  rw [requiredField_isOutput_iff]
  simp only [bind_ok_iff, requiredText_ok_iff]
  constructor
  · rintro ⟨s, hs, h⟩
    split at h
    next hname =>
      cases h
      exact ⟨hs, hname⟩
    next => cases h
  · rintro ⟨h, hname⟩
    exact ⟨output, h, if_pos hname⟩

theorem optionalBool_ok_iff {name : String} {b : Bool} :
    optionalBool place fields name = .ok b ↔ OptionalField IsBool false (field? name fields) b := by
  unfold optionalBool
  cases field? name fields with
  | none => simp [eq_comm]
  | some v => cases v <;> simp [IsBool]

theorem optionalArguments_ok_iff {s : Text} :
    optionalArguments place fields = .ok s ↔ OptionalField IsText "" (field? "args" fields) s := by
  unfold optionalArguments
  cases field? "args" fields with
  | none => simp [eq_comm]
  | some v => cases v <;> simp [IsText]

/-- What is settled beforehand, or else what is read. -/
def ownFileOf (place : Place) (fields : List (Text × Json)) : Option Bool → Except CatalogFault Bool
  | some b => .ok b
  | none => optionalBool place fields "produces_own_file"

theorem ownFileOf_ok_iff {ownFile : Option Bool} {b : Bool} :
    ownFileOf place fields ownFile = .ok b ↔ DescribesOwnFile fields ownFile b := by
  cases ownFile with
  | none =>
    unfold ownFileOf
    rw [optionalBool_ok_iff]
    constructor
    · exact .read
    · intro h
      cases h with
      | read h => exact h
  | some own =>
    constructor
    · intro h
      cases h
      exact .settled b
    · intro h
      cases h
      rfl

/-- The limit in binary64, if there is one. -/
def limitOf : Option Seconds → Except CatalogFault (Option Binary64)
  | some t => t.toBinary64.map some
  | none => .ok none

/-- The reader of programs, with each of its two choices as a step. -/
theorem parseProcess_eq (ownFile : Option Bool) :
    parseProcess place ownFile fields = (do
      let arguments ← optionalArguments place fields
      let ownFile ← ownFileOf place fields ownFile
      let timeout ← optionalTimeout place fields
      let executable ← requiredText place fields "executable"
      let output ← requiredOutput place fields
      let timeout ← limitOf timeout
      return { executable, arguments, output, ownFile, timeout }) := by
  unfold parseProcess
  refine bind_congr fun arguments => ?_
  cases ownFile with
  | none =>
    refine bind_congr fun own => bind_congr fun t => bind_congr fun executable =>
      bind_congr fun output => ?_
    cases t <;> rfl
  | some own =>
    refine bind_congr fun own => bind_congr fun t => bind_congr fun executable =>
      bind_congr fun output => ?_
    cases t <;> rfl

theorem optionalDwell_ok_iff (place : Place) {x : Binary64} :
    (∃ t, optionalDwell place fields = .ok t ∧ t.toBinary64 = .ok x) ↔
      OptionalField (IsSeconds Bounds.checked.dwell) CaptureTask.defaultDwell
        (field? "dwell_seconds" fields) x := by
  unfold optionalDwell
  cases field? "dwell_seconds" fields with
  | none => simp [Seconds.toBinary64, eq_comm]
  | some v =>
    dsimp only
    rw [optionalField_some]
    unfold IsSeconds
    cases Seconds.ofJson? v with
    | none => simp
    | some t => cases h : t.isNegative <;> simp [Bounds.checked, h]

theorem optionalTimeout_ok_iff (place : Place) {limit : Option Binary64} :
    (∃ t, optionalTimeout place fields = .ok t ∧ limitOf t = .ok limit) ↔
      OptionalField (IsTimeout Bounds.checked) none (field? "timeout_seconds" fields) limit := by
  have hread : ∀ t : Seconds,
      (∃ u, (if t.isNotPositive then reject place .timeoutNotPositive else .ok (some t)) = .ok u ∧
        limitOf u = .ok limit) ↔
      ∃ x, limit = some x ∧ Bounds.checked.timeout t ∧ t.toBinary64 = .ok x := by
    intro t
    cases h : t.isNotPositive with
    | false =>
      constructor
      · rintro ⟨u, ⟨⟩, hu⟩
        obtain ⟨x, hx, rfl⟩ := map_ok_iff.mp hu
        exact ⟨x, rfl, h, hx⟩
      · rintro ⟨x, rfl, -, hx⟩
        exact ⟨some t, rfl, map_ok_iff.mpr ⟨x, hx, rfl⟩⟩
    | true => simp [Bounds.checked, h]
  unfold optionalTimeout
  cases field? "timeout_seconds" fields with
  | none => simp [limitOf, eq_comm]
  | some v =>
    cases v with
    | null => simp [limitOf, IsTimeout, IsSeconds, Seconds.ofJson?, eq_comm]
    | integer i => simpa [IsTimeout, IsSeconds, Seconds.ofJson?] using hread (.integer i)
    | number x => simpa [IsTimeout, IsSeconds, Seconds.ofJson?] using hread (.number x)
    | _ => simp [IsTimeout, IsSeconds, Seconds.ofJson?]

end Fields

/-! ## Tasks -/

theorem parseProcess_ok_iff {place : Place} {ownFile : Option Bool} {fields : List (Text × Json)}
    {task : ProcessTask} :
    parseProcess place ownFile fields = .ok task ↔
      DescribesProcess .checked fields ownFile task := by
  rw [parseProcess_eq]
  simp only [bind_ok_iff, optionalArguments_ok_iff, ownFileOf_ok_iff, requiredText_ok_iff,
    requiredOutput_ok_iff]
  constructor
  · rintro ⟨arguments, harguments, ownFile, hown, t, ht, executable, hexecutable, output, houtput,
      timeout, htimeout, ⟨⟩⟩
    exact ⟨hexecutable, harguments, houtput, hown, (optionalTimeout_ok_iff place).mp ⟨t, ht, htimeout⟩⟩
  · intro h
    obtain ⟨t, ht, htimeout⟩ := (optionalTimeout_ok_iff place).mpr h.timeout
    exact ⟨_, h.arguments, _, h.ownFile, t, ht, _, h.executable, _, h.output, _, htimeout, rfl⟩

theorem parseQuery_ok_iff {place : Place} {fields : List (Text × Json)} {task : QueryTask} :
    parseQuery place fields = .ok task ↔ DescribesQuery fields task := by
  unfold parseQuery
  simp only [bind_ok_iff, requiredText_ok_iff, requiredOutput_ok_iff]
  constructor
  · rintro ⟨className, hclass, namespaceName, hnamespace, output, houtput, ⟨⟩⟩
    exact ⟨hclass, hnamespace, houtput⟩
  · intro h
    exact ⟨_, h.className, _, h.namespaceName, _, h.output, rfl⟩

theorem ofPhases?_eq_some_iff {start stop : ProcessTask} {dwell : Binary64} {task : CaptureTask} :
    CaptureTask.ofPhases? start stop dwell = some task ↔
      task.start = start ∧ task.stop = stop ∧ task.dwell = dwell := by
  unfold CaptureTask.ofPhases?
  constructor
  · intro h
    split at h
    · cases h
      exact ⟨rfl, rfl, rfl⟩
    · cases h
  · rintro ⟨rfl, rfl, rfl⟩
    exact dif_pos task.sameOutput

theorem parseCapture_ok_iff {group index : Nat} {fields : List (Text × Json)}
    {task : CaptureTask} :
    parseCapture group index fields = .ok task ↔ DescribesCapture .checked fields task := by
  unfold parseCapture
  dsimp only
  constructor
  · intro h
    split at h
    next startFields stopFields hstart hstop =>
      simp only [bind_ok_iff, parseProcess_ok_iff] at h
      obtain ⟨d, hd, start, hstartPhase, stop, hstopPhase, dwell, hdwell, h⟩ := h
      split at h
      next built hbuilt =>
        cases h
        obtain ⟨rfl, rfl, rfl⟩ := ofPhases?_eq_some_iff.mp hbuilt
        refine ⟨?_, ?_, (optionalDwell_ok_iff _).mp ⟨d, hd, hdwell⟩⟩
        · rw [hstart]
          exact ⟨startFields, rfl, hstartPhase⟩
        · rw [hstop]
          exact ⟨stopFields, rfl, hstopPhase⟩
      next => cases h
    next => cases h
  · intro h
    obtain ⟨d, hd, hdwell⟩ := (optionalDwell_ok_iff (.task group index)).mpr h.dwell
    obtain ⟨startFields, hstart, hstartPhase⟩ := requiredField_isObject_iff.mp h.start
    obtain ⟨stopFields, hstop, hstopPhase⟩ := requiredField_isObject_iff.mp h.stop
    rw [hstart, hstop]
    simp only [bind_ok_iff, parseProcess_ok_iff]
    refine ⟨d, hd, task.start, hstartPhase, task.stop, hstopPhase, task.dwell, hdwell, ?_⟩
    rw [ofPhases?_eq_some_iff.mpr ⟨rfl, rfl, rfl⟩]
    rfl

theorem query_ne_process : Text.ofString "query" ≠ "process" := by decide

theorem capture_ne_process : Text.ofString "capture" ≠ "process" := by decide

theorem capture_ne_query : Text.ofString "capture" ≠ "query" := by decide

theorem parseTask_ok_iff {group index : Nat} {v : Json} {task : Task} :
    parseTask group index v = .ok task ↔ IsObject (DescribesTask .checked) v task := by
  unfold parseTask
  dsimp only
  constructor
  · intro h
    split at h
    next fields =>
      refine ⟨fields, rfl, ?_⟩
      split at h
      next kind hkind =>
        split_ifs at h with hprocess hquery hcapture
        · obtain ⟨task, htask, rfl⟩ := map_ok_iff.mp h
          exact .process (hprocess ▸ hkind) (parseProcess_ok_iff.mp htask)
        · obtain ⟨task, htask, rfl⟩ := map_ok_iff.mp h
          exact .query (hquery ▸ hkind) (parseQuery_ok_iff.mp htask)
        · obtain ⟨task, htask, rfl⟩ := map_ok_iff.mp h
          exact .capture (hcapture ▸ hkind) (parseCapture_ok_iff.mp htask)
        · cases h
      next => cases h
    next => cases h
  · rintro ⟨fields, rfl, h⟩
    cases h with
    | process kind h =>
      simp only [kind, ↓reduceIte]
      exact map_ok_iff.mpr ⟨_, parseProcess_ok_iff.mpr h, rfl⟩
    | query kind h =>
      simp only [kind, if_neg query_ne_process, ↓reduceIte]
      exact map_ok_iff.mpr ⟨_, parseQuery_ok_iff.mpr h, rfl⟩
    | capture kind h =>
      simp only [kind, if_neg capture_ne_process, if_neg capture_ne_query, ↓reduceIte]
      exact map_ok_iff.mpr ⟨_, parseCapture_ok_iff.mpr h, rfl⟩

theorem parseTasks_eq (group : Nat) (vs : List Json) :
    ∀ index, parseTasks group index vs = readAll (parseTask group) index vs := by
  induction vs with
  | nil => exact fun _ => rfl
  | cons v vs ih =>
    intro index
    rw [parseTasks, readAll, ih]

theorem parseTasks_ok_iff {group index : Nat} {vs : List Json} {tasks : List Task} :
    parseTasks group index vs = .ok tasks ↔
      List.Forall₂ (IsObject (DescribesTask .checked)) vs tasks := by
  rw [parseTasks_eq]
  refine readAll_ok_iff fun _ _ _ => ?_
  exact parseTask_ok_iff

/-! ## Groups -/

theorem texts?_eq_some_iff {vs : List Json} :
    ∀ {texts : List Text}, texts? vs = some texts ↔ List.Forall₂ IsText vs texts := by
  induction vs with
  | nil =>
    intro texts
    simp [texts?, eq_comm]
  | cons v vs ih =>
    intro texts
    rw [List.forall₂_cons_left_iff]
    cases v with
    | text s => simp [texts?, IsText, ih, eq_comm (a := texts)]
    | _ => simp [texts?, IsText]

theorem parseWork_ok_iff {index : Nat} {fields : List (Text × Json)} {work : Work} :
    parseWork index fields = .ok work ↔ DescribesWork .checked fields work := by
  unfold parseWork
  dsimp only
  constructor
  · intro h
    split at h
    next vs htasks hroots =>
      split at h
      next roots htexts =>
        cases h
        refine .roots htasks (requiredField_isArray_iff.mpr ⟨vs, hroots, ?_⟩)
        exact texts?_eq_some_iff.mp htexts
      next => cases h
    next => cases h
    next vs htasks hroots =>
      obtain ⟨tasks, hparse, rfl⟩ := map_ok_iff.mp h
      refine .tasks hroots (requiredField_isArray_iff.mpr ⟨vs, htasks, ?_⟩)
      exact parseTasks_ok_iff.mp hparse
    next => cases h
    next => cases h
  · intro h
    cases h with
    | tasks alone h =>
      obtain ⟨vs, htasks, h⟩ := requiredField_isArray_iff.mp h
      rw [alone, htasks]
      exact map_ok_iff.mpr ⟨_, parseTasks_ok_iff.mpr h, rfl⟩
    | roots alone h =>
      obtain ⟨vs, hroots, h⟩ := requiredField_isArray_iff.mp h
      rw [alone, hroots]
      dsimp only
      rw [texts?_eq_some_iff.mpr h]

theorem parseGroup_ok_iff {index : Nat} {v : Json} {group : Group} :
    parseGroup index v = .ok group ↔ IsObject (DescribesGroup .checked) v group := by
  cases v with
  | object fields =>
    simp only [parseGroup, bind_ok_iff, requiredText_ok_iff, optionalBool_ok_iff, parseWork_ok_iff]
    constructor
    · rintro ⟨name, hname, trace, htrace, work, hwork, ⟨⟩⟩
      exact ⟨fields, rfl, hname, htrace, hwork⟩
    · rintro ⟨_, ⟨⟩, h⟩
      exact ⟨_, h.name, _, h.trace, _, h.work, rfl⟩
  | _ => simp [parseGroup, IsObject]

theorem parseGroups_eq (vs : List Json) :
    ∀ index, parseGroups index vs = readAll parseGroup index vs := by
  induction vs with
  | nil => exact fun _ => rfl
  | cons v vs ih =>
    intro index
    rw [parseGroups, readAll, ih]

theorem parseGroups_ok_iff {index : Nat} {vs : List Json} {groups : List Group} :
    parseGroups index vs = .ok groups ↔
      List.Forall₂ (IsObject (DescribesGroup .checked)) vs groups := by
  rw [parseGroups_eq]
  refine readAll_ok_iff fun _ _ _ => ?_
  exact parseGroup_ok_iff

/-- A document is read when its groups follow the rules and pass the check on names. -/
theorem parse_ok_iff {document : Json} {groups : List Group} :
    parse document = .ok groups ↔
      IsObject (DescribesGroups .checked) document groups ∧ checkUnique groups = .ok () := by
  unfold parse
  constructor
  · intro h
    split at h
    next fields =>
      split at h
      next vs hvs =>
        obtain ⟨parsed, hparsed, h⟩ := bind_ok_iff.mp h
        split at h
        next hunique =>
          cases h
          refine ⟨⟨fields, rfl, requiredField_isArray_iff.mpr ⟨vs, hvs, ?_⟩⟩, hunique⟩
          exact parseGroups_ok_iff.mp hparsed
        next => cases h
      next => cases h
    next => cases h
  · rintro ⟨⟨fields, rfl, h⟩, hunique⟩
    obtain ⟨vs, hvs, h⟩ := requiredField_isArray_iff.mp h
    simp only [hvs]
    refine bind_ok_iff.mpr ⟨groups, parseGroups_ok_iff.mpr h, ?_⟩
    rw [hunique]
    rfl

end Catalog

end Diagnostics
