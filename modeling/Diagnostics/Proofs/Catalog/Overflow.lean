import Diagnostics.Proofs.Catalog.Rejection

/-!
# Documents that are neither read nor rejected

A document is read, or it is rejected with a complaint, or it has a number of seconds that is too
large for binary64, written as an integer. Since the reader stops at the first fault, it comes to
such a number only if nothing before it is wrong (`Overflows`), and then, and only then, that is
what it tells (`parse_tooLarge_iff`). Every other fault of a group is a complaint about a place in
that group, and every other fault of a task one that is told with the task (`parseGroup_failsWith`,
`parseTask_failsWith`); so in a document without such numbers a catalog is read or rejected,
**`parse_onlyRejects`**.
-/

set_option autoImplicit false

namespace Diagnostics

namespace Catalog

open Diagnostics.Json (field?)

/-! ## The rules -/

section Rules

/-- An integer that is too large for binary64. -/
def TooLarge (i : Int) : Prop :=
  Binary64.ofInt? i = none

/-- The first value that is not read is one that overflows. -/
inductive FirstOverflows {α : Type} (reads : Json → α → Prop) (overflows : Json → Prop) :
    List Json → Prop
  | here {v : Json} {vs : List Json} (h : overflows v) : FirstOverflows reads overflows (v :: vs)
  | later {v : Json} {a : α} {vs : List Json} (hv : reads v a)
      (h : FirstOverflows reads overflows vs) : FirstOverflows reads overflows (v :: vs)

/-- An object whose fields overflow. -/
inductive ObjectOverflows (overflows : List (Text × Json) → Prop) : Json → Prop
  | object {fields : List (Text × Json)} (h : overflows fields) :
      ObjectOverflows overflows (.object fields)

variable (fields : List (Text × Json))

/-- Nothing is wrong with a program but that its limit is too large. -/
structure ProcessOverflows (ownFile : Option Bool) : Prop where
  executable : ∃ s, RequiredField IsNonBlank (field? "executable" fields) s
  arguments : ∃ s, OptionalField IsText "" (field? "args" fields) s
  output : ∃ s, RequiredField IsOutput (field? "output" fields) s
  ownFile : ∃ b, DescribesOwnFile fields ownFile b
  timeout : ∃ i, field? "timeout_seconds" fields = some (.integer i) ∧ 0 < i ∧ TooLarge i

/-- The dwell is missing, or a number that is not below zero. -/
def DwellChecked : Prop :=
  ∀ v, field? "dwell_seconds" fields = some v →
    ∃ t, Seconds.ofJson? v = some t ∧ t.isNegative = false

/-- A capture: its dwell is looked at, then its phases are read, and at last its dwell is. -/
inductive CaptureOverflows : Prop
  | start {start stop : List (Text × Json)} (hstart : field? "start" fields = some (.object start))
      (hstop : field? "stop" fields = some (.object stop)) (dwell : DwellChecked fields)
      (h : ProcessOverflows start (some true)) : CaptureOverflows
  | stop {start stop : List (Text × Json)} {first : ProcessTask}
      (hstart : field? "start" fields = some (.object start))
      (hstop : field? "stop" fields = some (.object stop)) (dwell : DwellChecked fields)
      (hfirst : DescribesPhase .checked start first) (h : ProcessOverflows stop (some true)) :
      CaptureOverflows
  | dwell {start stop : List (Text × Json)} {first second : ProcessTask} {i : Int}
      (hstart : field? "start" fields = some (.object start))
      (hstop : field? "stop" fields = some (.object stop))
      (hfirst : DescribesPhase .checked start first)
      (hsecond : DescribesPhase .checked stop second)
      (h : field? "dwell_seconds" fields = some (.integer i)) (hi : 0 ≤ i) (hlarge : TooLarge i) :
      CaptureOverflows

inductive TaskOverflows : Prop
  | process (kind : field? "type" fields = some (.text "process"))
      (h : ProcessOverflows fields none) : TaskOverflows
  | capture (kind : field? "type" fields = some (.text "capture"))
      (h : CaptureOverflows fields) : TaskOverflows

structure GroupOverflows : Prop where
  name : ∃ s, RequiredField IsNonBlank (field? "name" fields) s
  trace : ∃ b, OptionalField IsBool false (field? "trace" fields) b
  alone : field? "roots" fields = none
  tasks : ∃ vs, field? "tasks" fields = some (.array vs) ∧
    FirstOverflows (IsObject (DescribesTask .checked)) (ObjectOverflows TaskOverflows) vs

/-- The first fault of a document is a number of seconds that is too large. -/
def Overflows : Json → Prop :=
  ObjectOverflows fun fields => ∃ vs, field? "groups" fields = some (.array vs) ∧
    FirstOverflows (IsObject (DescribesGroup .checked)) (ObjectOverflows GroupOverflows) vs

end Rules

theorem firstOverflows_cons_iff {α : Type} {reads : Json → α → Prop} {overflows : Json → Prop}
    {v : Json} {vs : List Json} :
    FirstOverflows reads overflows (v :: vs) ↔
      overflows v ∨ (∃ a, reads v a) ∧ FirstOverflows reads overflows vs := by
  constructor
  · intro h
    cases h with
    | here h => exact Or.inl h
    | later hv h => exact Or.inr ⟨⟨_, hv⟩, h⟩
  · intro h
    rcases h with h | ⟨⟨a, hv⟩, h⟩
    · exact .here h
    · exact .later hv h

theorem objectOverflows_iff {overflows : List (Text × Json) → Prop} {fields : List (Text × Json)} :
    ObjectOverflows overflows (.object fields) ↔ overflows fields := by
  constructor
  · intro h
    cases h with
    | object h => exact h
  · exact .object

/-! ## Steps of the reader -/

section Steps

variable {α β : Type}

theorem bind_error_iff {ε : Type} {x : Except ε α} {f : α → Except ε β} {e : ε} :
    x >>= f = .error e ↔ x = .error e ∨ ∃ a, x = .ok a ∧ f a = .error e := by
  cases x <;> simp [bind, Except.bind]

theorem map_error_iff {ε : Type} {x : Except ε α} {f : α → β} {e : ε} :
    x.map f = .error e ↔ x = .error e := by
  cases x <;> simp [Except.map]

theorem OnlyRejects.ne_tooLarge {x : Except CatalogFault α} (h : OnlyRejects x) :
    x ≠ .error .tooLarge := by
  intro hx
  obtain ⟨e, he⟩ := h _ hx
  cases he

theorem FailsWith.ne_tooLarge {places : Place → Prop} {x : Except CatalogFault α}
    (h : FailsWith (ComplainsAt places) x) : x ≠ .error .tooLarge := by
  intro hx
  obtain ⟨_, _, -, he⟩ := h _ hx
  cases he

@[simp] theorem reject_ne_tooLarge {place : Place} {complaint : Complaint} :
    (reject place complaint : Except CatalogFault α) ≠ .error .tooLarge :=
  nofun

@[simp] theorem ok_ne_tooLarge {a : α} : (.ok a : Except CatalogFault α) ≠ .error .tooLarge :=
  nofun

/-- Reading stops at a number that is too large if all values before that are read. -/
theorem readAll_tooLarge_iff {read : Nat → Json → Except CatalogFault α} {reads : Json → α → Prop}
    {overflows : Json → Prop}
    (hlarge : ∀ index v, read index v = .error .tooLarge ↔ overflows v)
    (hread : ∀ index v a, read index v = .ok a ↔ reads v a) {vs : List Json} :
    ∀ {index : Nat}, readAll read index vs = .error .tooLarge ↔
      FirstOverflows reads overflows vs := by
  induction vs with
  | nil =>
    intro index
    constructor
    · exact nofun
    · exact nofun
  | cons v vs ih =>
    intro index
    rw [firstOverflows_cons_iff, readAll]
    simp only [bind_error_iff, hlarge, hread, ih]
    simp [pure, Except.pure]

end Steps

/-! ## Numbers of seconds -/

section Fields

variable {place : Place} {fields : List (Text × Json)}

theorem toBinary64_tooLarge_iff {t : Seconds} :
    t.toBinary64 = .error .tooLarge ↔ ∃ i, t = .integer i ∧ TooLarge i := by
  cases t with
  | number x => simp [Seconds.toBinary64]
  | integer i => cases hi : Binary64.ofInt? i <;> simp [Seconds.toBinary64, TooLarge, hi]

theorem limitOf_tooLarge_iff {limit : Option Seconds} :
    limitOf limit = .error .tooLarge ↔ ∃ i, limit = some (.integer i) ∧ TooLarge i := by
  cases limit with
  | none => simp [limitOf]
  | some t => simp [limitOf, map_error_iff, toBinary64_tooLarge_iff]

theorem optionalTimeout_integer_iff {i : Int} :
    optionalTimeout place fields = .ok (some (.integer i)) ↔
      field? "timeout_seconds" fields = some (.integer i) ∧ 0 < i := by
  unfold optionalTimeout
  cases field? "timeout_seconds" fields with
  | none => simp
  | some v =>
    cases v with
    | integer j =>
      simp only [Seconds.ofJson?, Seconds.isNotPositive, decide_eq_true_eq]
      by_cases hj : j ≤ 0
      · simp only [hj, if_true, reject_ne_ok, false_iff, not_and]
        rintro ⟨⟩
        omega
      · simp only [hj, if_false]
        constructor
        · rintro ⟨⟩
          exact ⟨rfl, by omega⟩
        · rintro ⟨⟨⟩, -⟩
          rfl
    | number x =>
      simp only [Seconds.ofJson?]
      split <;> simp
    | _ => simp [Seconds.ofJson?]

theorem exists_optionalDwell_iff (place : Place) :
    (∃ t, optionalDwell place fields = .ok t) ↔ DwellChecked fields := by
  unfold optionalDwell DwellChecked
  cases field? "dwell_seconds" fields with
  | none => simp
  | some v =>
    cases hv : Seconds.ofJson? v with
    | none => simp [hv]
    | some t => cases ht : t.isNegative <;> simp [hv, ht]

theorem optionalDwell_integer_iff (place : Place) {i : Int} :
    optionalDwell place fields = .ok (.integer i) ↔
      field? "dwell_seconds" fields = some (.integer i) ∧ 0 ≤ i := by
  constructor
  · intro h
    have hfield := field_eq_integer_of_optionalDwell h
    obtain ⟨t, ht, hnegative⟩ := (exists_optionalDwell_iff place).mp ⟨_, h⟩ _ hfield
    cases ht
    exact ⟨hfield, by simpa [Seconds.isNegative] using hnegative⟩
  · rintro ⟨hfield, hi⟩
    have hnegative : ¬ i < 0 := by omega
    simp [optionalDwell, hfield, Seconds.ofJson?, Seconds.isNegative, hnegative]

end Fields

/-! ## Tasks -/

theorem parseProcess_tooLarge_iff {place : Place} {ownFile : Option Bool}
    {fields : List (Text × Json)} :
    parseProcess place ownFile fields = .error .tooLarge ↔ ProcessOverflows fields ownFile := by
  rw [parseProcess_eq]
  simp only [bind_error_iff, optionalArguments_complains.ne_tooLarge,
    ownFileOf_complains.ne_tooLarge, optionalTimeout_complains.ne_tooLarge,
    requiredText_complains.ne_tooLarge, requiredOutput_complains.ne_tooLarge,
    limitOf_tooLarge_iff, false_or, optionalArguments_ok_iff, ownFileOf_ok_iff,
    requiredText_ok_iff, requiredOutput_ok_iff]
  constructor
  · rintro ⟨arguments, harguments, own, hown, t, ht, executable, hexecutable, output, houtput,
      ⟨i, rfl, hi⟩ | ⟨limit, -, ⟨⟩⟩⟩
    obtain ⟨hfield, hpositive⟩ := optionalTimeout_integer_iff.mp ht
    exact ⟨⟨_, hexecutable⟩, ⟨_, harguments⟩, ⟨_, houtput⟩, ⟨_, hown⟩, i, hfield, hpositive, hi⟩
  · intro h
    obtain ⟨executable, hexecutable⟩ := h.executable
    obtain ⟨arguments, harguments⟩ := h.arguments
    obtain ⟨output, houtput⟩ := h.output
    obtain ⟨own, hown⟩ := h.ownFile
    obtain ⟨i, hfield, hpositive, hi⟩ := h.timeout
    exact ⟨_, harguments, _, hown, _, optionalTimeout_integer_iff.mpr ⟨hfield, hpositive⟩,
      _, hexecutable, _, houtput, Or.inl ⟨i, rfl, hi⟩⟩

/-- The reader of captures, in the order of its steps. -/
theorem parseCapture_tooLarge_of_phases {group index : Nat} {fields start stop : List (Text × Json)}
    (hstart : field? "start" fields = some (.object start))
    (hstop : field? "stop" fields = some (.object stop)) :
    parseCapture group index fields = .error .tooLarge ↔
      ∃ t, optionalDwell (.task group index) fields = .ok t ∧
        (ProcessOverflows start (some true) ∨ ∃ first, DescribesPhase .checked start first ∧
          (ProcessOverflows stop (some true) ∨ ∃ second, DescribesPhase .checked stop second ∧
            ∃ i, t = .integer i ∧ TooLarge i)) := by
  simp only [parseCapture, hstart, hstop, bind_error_iff, optionalDwell_complains.ne_tooLarge,
    parseProcess_tooLarge_iff, parseProcess_ok_iff, toBinary64_tooLarge_iff, false_or]
  refine exists_congr fun t => and_congr_right fun _ => or_congr_right ?_
  refine exists_congr fun first => and_congr_right fun _ => or_congr_right ?_
  refine exists_congr fun second => and_congr_right fun _ => or_iff_left ?_
  -- Phases that differ are a complaint.
  rintro ⟨dwell, -, h⟩
  split at h
  · cases h
  · cases h

theorem parseCapture_tooLarge_iff {group index : Nat} {fields : List (Text × Json)} :
    parseCapture group index fields = .error .tooLarge ↔ CaptureOverflows fields := by
  constructor
  · intro h
    have hphases : ∃ start stop, field? "start" fields = some (.object start) ∧
        field? "stop" fields = some (.object stop) := by
      unfold parseCapture at h
      dsimp only at h
      split at h
      next start stop hstart hstop => exact ⟨start, stop, hstart, hstop⟩
      next => exact absurd h reject_ne_tooLarge
    obtain ⟨start, stop, hstart, hstop⟩ := hphases
    obtain ⟨t, ht, h⟩ := (parseCapture_tooLarge_of_phases hstart hstop).mp h
    have hchecked := (exists_optionalDwell_iff _).mp ⟨t, ht⟩
    rcases h with h | ⟨first, hfirst, h | ⟨second, hsecond, i, rfl, hi⟩⟩
    · exact .start hstart hstop hchecked h
    · exact .stop hstart hstop hchecked hfirst h
    · obtain ⟨hfield, hnonneg⟩ := (optionalDwell_integer_iff _).mp ht
      exact .dwell hstart hstop hfirst hsecond hfield hnonneg hi
  · intro h
    cases h with
    | start hstart hstop hchecked h =>
      obtain ⟨t, ht⟩ := (exists_optionalDwell_iff (.task group index)).mpr hchecked
      exact (parseCapture_tooLarge_of_phases hstart hstop).mpr ⟨t, ht, Or.inl h⟩
    | stop hstart hstop hchecked hfirst h =>
      obtain ⟨t, ht⟩ := (exists_optionalDwell_iff (.task group index)).mpr hchecked
      exact (parseCapture_tooLarge_of_phases hstart hstop).mpr
        ⟨t, ht, Or.inr ⟨_, hfirst, Or.inl h⟩⟩
    | dwell hstart hstop hfirst hsecond hfield hnonneg hi =>
      have ht := (optionalDwell_integer_iff (.task group index)).mpr ⟨hfield, hnonneg⟩
      exact (parseCapture_tooLarge_of_phases hstart hstop).mpr
        ⟨_, ht, Or.inr ⟨_, hfirst, Or.inr ⟨_, hsecond, _, rfl, hi⟩⟩⟩

theorem parseTask_tooLarge_iff {group index : Nat} {v : Json} :
    parseTask group index v = .error .tooLarge ↔ ObjectOverflows TaskOverflows v := by
  cases v with
  | object fields =>
    rw [objectOverflows_iff]
    simp only [parseTask]
    constructor
    · intro h
      split at h
      next kind hkind =>
        split_ifs at h with hprocess hquery hcapture
        · rw [map_error_iff, parseProcess_tooLarge_iff] at h
          exact .process (hprocess ▸ hkind) h
        · rw [map_error_iff] at h
          exact absurd h parseQuery_complains.ne_tooLarge
        · rw [map_error_iff, parseCapture_tooLarge_iff] at h
          exact .capture (hcapture ▸ hkind) h
        · exact absurd h reject_ne_tooLarge
      next => exact absurd h reject_ne_tooLarge
    · intro h
      cases h with
      | process kind h =>
        simp only [kind, ↓reduceIte]
        rw [map_error_iff, parseProcess_tooLarge_iff]
        exact h
      | capture kind h =>
        simp only [kind, if_neg capture_ne_process, if_neg capture_ne_query, ↓reduceIte]
        rw [map_error_iff, parseCapture_tooLarge_iff]
        exact h
  | _ =>
    constructor
    · intro h
      exact absurd h reject_ne_tooLarge
    · intro h
      cases h

theorem parseTasks_tooLarge_iff {group index : Nat} {vs : List Json} :
    parseTasks group index vs = .error .tooLarge ↔
      FirstOverflows (IsObject (DescribesTask .checked)) (ObjectOverflows TaskOverflows) vs := by
  rw [parseTasks_eq]
  refine readAll_tooLarge_iff (fun _ _ => ?_) fun _ _ _ => ?_
  · exact parseTask_tooLarge_iff
  · exact parseTask_ok_iff

/-! ## Groups -/

theorem parseWork_tooLarge_iff {index : Nat} {fields : List (Text × Json)} :
    parseWork index fields = .error .tooLarge ↔ field? "roots" fields = none ∧
      ∃ vs, field? "tasks" fields = some (.array vs) ∧
        FirstOverflows (IsObject (DescribesTask .checked)) (ObjectOverflows TaskOverflows) vs := by
  unfold parseWork
  dsimp only
  constructor
  · intro h
    split at h
    next => split at h <;> cases h
    next => cases h
    next vs htasks hroots =>
      rw [map_error_iff, parseTasks_tooLarge_iff] at h
      exact ⟨hroots, vs, htasks, h⟩
    next => cases h
    next => cases h
  · rintro ⟨hroots, vs, htasks, h⟩
    rw [hroots, htasks]
    exact map_error_iff.mpr (parseTasks_tooLarge_iff.mpr h)

theorem parseGroup_tooLarge_iff {index : Nat} {v : Json} :
    parseGroup index v = .error .tooLarge ↔ ObjectOverflows GroupOverflows v := by
  cases v with
  | object fields =>
    rw [objectOverflows_iff]
    simp only [parseGroup, bind_error_iff, requiredText_complains.ne_tooLarge,
      optionalBool_complains.ne_tooLarge, requiredText_ok_iff, optionalBool_ok_iff,
      parseWork_tooLarge_iff, false_or]
    constructor
    · rintro ⟨name, hname, trace, htrace, ⟨halone, htasks⟩ | ⟨work, -, ⟨⟩⟩⟩
      exact ⟨⟨name, hname⟩, ⟨trace, htrace⟩, halone, htasks⟩
    · intro h
      obtain ⟨name, hname⟩ := h.name
      obtain ⟨trace, htrace⟩ := h.trace
      exact ⟨name, hname, trace, htrace, Or.inl ⟨h.alone, h.tasks⟩⟩
  | _ =>
    constructor
    · intro h
      exact absurd h reject_ne_tooLarge
    · intro h
      cases h

theorem parseGroups_tooLarge_iff {index : Nat} {vs : List Json} :
    parseGroups index vs = .error .tooLarge ↔
      FirstOverflows (IsObject (DescribesGroup .checked)) (ObjectOverflows GroupOverflows) vs := by
  rw [parseGroups_eq]
  refine readAll_tooLarge_iff (fun _ _ => ?_) fun _ _ _ => ?_
  · exact parseGroup_tooLarge_iff
  · exact parseGroup_ok_iff

/-- **A document has a number that is too large exactly if that is its first fault.** -/
theorem parse_tooLarge_iff {document : Json} :
    parse document = .error .tooLarge ↔ Overflows document := by
  unfold Overflows
  cases document with
  | object fields =>
    rw [objectOverflows_iff]
    unfold parse
    dsimp only
    constructor
    · intro h
      split at h
      next vs hvs =>
        rw [bind_error_iff, parseGroups_tooLarge_iff] at h
        rcases h with h | ⟨groups, -, h⟩
        · exact ⟨vs, hvs, h⟩
        · split at h <;> cases h
      next => cases h
    · rintro ⟨vs, hvs, h⟩
      rw [hvs]
      exact bind_error_iff.mpr (Or.inl (parseGroups_tooLarge_iff.mpr h))
  | _ =>
    constructor
    · exact nofun
    · intro h
      cases h

/-! ## Documents without such numbers -/

section Fit

variable {fields : List (Text × Json)}

theorem FirstOverflows.exists_mem {α : Type} {reads : Json → α → Prop} {overflows : Json → Prop}
    {vs : List Json} (h : FirstOverflows reads overflows vs) : ∃ v ∈ vs, overflows v := by
  induction h with
  | here h => exact ⟨_, List.mem_cons_self, h⟩
  | later _ _ ih =>
    obtain ⟨v, hv, h⟩ := ih
    exact ⟨v, List.mem_cons_of_mem _ hv, h⟩

theorem SecondsFit.not_processOverflows (hfit : SecondsFit (.object fields))
    (ownFile : Option Bool) : ¬ ProcessOverflows fields ownFile := by
  intro h
  obtain ⟨i, hfield, -, hi⟩ := h.timeout
  exact hfit.timeout fields i .self hfield hi

theorem SecondsFit.not_captureOverflows (hfit : SecondsFit (.object fields)) :
    ¬ CaptureOverflows fields := by
  intro h
  cases h with
  | start hstart _ _ h => exact (hfit.field hstart).not_processOverflows _ h
  | stop _ hstop _ _ h => exact (hfit.field hstop).not_processOverflows _ h
  | dwell _ _ _ _ hfield _ hi => exact hfit.dwell fields _ .self hfield hi

theorem SecondsFit.not_taskOverflows {v : Json} (hfit : SecondsFit v) :
    ¬ ObjectOverflows TaskOverflows v := by
  rintro ⟨h⟩
  cases h with
  | process _ h => exact hfit.not_processOverflows _ h
  | capture _ h => exact hfit.not_captureOverflows h

theorem SecondsFit.not_groupOverflows {v : Json} (hfit : SecondsFit v) :
    ¬ ObjectOverflows GroupOverflows v := by
  rintro ⟨h⟩
  obtain ⟨vs, hvs, htasks⟩ := h.tasks
  obtain ⟨w, hw, h⟩ := htasks.exists_mem
  exact ((hfit.field hvs).item hw).not_taskOverflows h

theorem SecondsFit.not_overflows {document : Json} (hfit : SecondsFit document) :
    ¬ Overflows document := by
  rintro ⟨vs, hvs, hgroups⟩
  obtain ⟨w, hw, h⟩ := hgroups.exists_mem
  exact ((hfit.field hvs).item hw).not_groupOverflows h

end Fit

/-! ## Every other fault is a complaint -/

end Catalog

namespace Place

/-- The place that is told at the beginning of a complaint: a phase is told with its task. -/
def told : Place → Place
  | .phase i j _ => .task i j
  | place => place

/-- The group that a place is in. -/
def groupIndex : Place → Nat
  | .group i => i
  | .task i _ => i
  | .phase i _ _ => i

theorem groupIndex_of_told_eq {place : Place} {i j : Nat} (h : place.told = .task i j) :
    place.groupIndex = i := by
  cases place with
  | group => cases h
  | task =>
    cases h
    rfl
  | phase =>
    cases h
    rfl

end Place

namespace Catalog

/-- A complaint about one of these places, or a number that is too large. -/
def ComplainsOrOverflows (places : Place → Prop) (fault : CatalogFault) : Prop :=
  fault = .tooLarge ∨ ComplainsAt places fault

section Faults

variable {α : Type} {place : Place} {fields : List (Text × Json)} {places places' : Place → Prop}

theorem FailsWith.orOverflows {x : Except CatalogFault α} (h : FailsWith (ComplainsAt places) x) :
    FailsWith (ComplainsOrOverflows places) x :=
  h.mono fun _ => Or.inr

theorem FailsWith.widen {x : Except CatalogFault α} (h : FailsWith (ComplainsOrOverflows places) x)
    (hplaces : ∀ place, places place → places' place) :
    FailsWith (ComplainsOrOverflows places') x :=
  h.mono fun _ => Or.imp_right fun hcomplains => hcomplains.mono hplaces

theorem toBinary64_overflows (t : Seconds) : FailsWith (ComplainsOrOverflows places) t.toBinary64 := by
  intro fault h
  cases t with
  | number x => cases h
  | integer i =>
    simp only [Seconds.toBinary64] at h
    split at h
    · cases h
    · cases h
      exact Or.inl rfl

theorem limitOf_overflows (limit : Option Seconds) :
    FailsWith (ComplainsOrOverflows places) (limitOf limit) := by
  cases limit with
  | none => exact .ok none
  | some t => exact (toBinary64_overflows t).map some

theorem readAll_failsWith {p : CatalogFault → Prop} {read : Nat → Json → Except CatalogFault α}
    (hread : ∀ index v, FailsWith p (read index v)) (vs : List Json) :
    ∀ index, FailsWith p (readAll read index vs) := by
  induction vs with
  | nil => exact fun _ => .ok []
  | cons v vs ih =>
    intro index
    exact (hread index v).bind fun a => (ih (index + 1)).bind fun list => .ok _

theorem parseProcess_failsWith {ownFile : Option Bool} :
    FailsWith (ComplainsOrOverflows (· = place)) (parseProcess place ownFile fields) := by
  rw [parseProcess_eq]
  refine optionalArguments_complains.orOverflows.bind fun arguments => ?_
  refine ownFileOf_complains.orOverflows.bind fun own => ?_
  refine optionalTimeout_complains.orOverflows.bind fun limit => ?_
  refine requiredText_complains.orOverflows.bind fun executable => ?_
  refine requiredOutput_complains.orOverflows.bind fun output => ?_
  exact (limitOf_overflows limit).bind fun timeout => .ok _

/-- A fault of a phase is told as one of its capture. -/
theorem parseCapture_failsWith {group index : Nat} :
    FailsWith (ComplainsOrOverflows (·.told = .task group index))
      (parseCapture group index fields) := by
  have hreject : ∀ complaint, FailsWith (ComplainsOrOverflows (·.told = .task group index))
      (reject (.task group index) complaint : Except CatalogFault CaptureTask) :=
    fun complaint => (reject_complains _ _).orOverflows.widen (by rintro _ rfl; rfl)
  unfold parseCapture
  dsimp only
  split
  · refine (optionalDwell_complains.orOverflows.widen (by rintro _ rfl; rfl)).bind fun d => ?_
    refine (parseProcess_failsWith.widen (by rintro _ rfl; rfl)).bind fun start => ?_
    refine (parseProcess_failsWith.widen (by rintro _ rfl; rfl)).bind fun stop => ?_
    refine (toBinary64_overflows d).bind fun dwell => ?_
    split
    · exact .ok _
    · exact hreject _
  · exact hreject _

theorem parseTask_failsWith {group index : Nat} {v : Json} :
    FailsWith (ComplainsOrOverflows (·.told = .task group index)) (parseTask group index v) := by
  have hreject : ∀ complaint, FailsWith (ComplainsOrOverflows (·.told = .task group index))
      (reject (.task group index) complaint : Except CatalogFault Task) :=
    fun complaint => (reject_complains _ _).orOverflows.widen (by rintro _ rfl; rfl)
  unfold parseTask
  dsimp only
  split
  · split
    · split_ifs
      · exact (parseProcess_failsWith.widen (by rintro _ rfl; rfl)).map _
      · exact (parseQuery_complains.orOverflows.widen (by rintro _ rfl; rfl)).map _
      · exact parseCapture_failsWith.map _
      · exact hreject _
    · exact hreject _
  · exact hreject _

theorem parseWork_failsWith {index : Nat} :
    FailsWith (ComplainsOrOverflows (·.groupIndex = index)) (parseWork index fields) := by
  have hreject : ∀ complaint, FailsWith (ComplainsOrOverflows (·.groupIndex = index))
      (reject (.group index) complaint : Except CatalogFault Work) :=
    fun complaint => (reject_complains _ _).orOverflows.widen (by rintro _ rfl; rfl)
  unfold parseWork
  dsimp only
  split
  · split
    · exact .ok _
    · exact hreject _
  · exact hreject _
  · rw [parseTasks_eq]
    refine (readAll_failsWith (fun _ _ => ?_) _ _).map _
    exact parseTask_failsWith.widen fun _ => Place.groupIndex_of_told_eq
  · exact hreject _
  · exact hreject _

theorem parseGroup_failsWith {index : Nat} {v : Json} :
    FailsWith (ComplainsOrOverflows (·.groupIndex = index)) (parseGroup index v) := by
  unfold parseGroup
  dsimp only
  split
  · refine (requiredText_complains.orOverflows.widen (by rintro _ rfl; rfl)).bind fun name => ?_
    refine (optionalBool_complains.orOverflows.widen (by rintro _ rfl; rfl)).bind fun trace => ?_
    exact parseWork_failsWith.bind fun work => .ok _
  · exact (reject_complains _ _).orOverflows.widen (by rintro _ rfl; rfl)

theorem parse_failsWith {document : Json} :
    FailsWith (fun fault => fault = .tooLarge ∨ ∃ e, fault = .rejected e) (parse document) := by
  unfold parse
  split
  · split
    · rw [parseGroups_eq]
      refine (readAll_failsWith (fun _ _ => ?_) _ _).bind fun groups => ?_
      · refine parseGroup_failsWith.mono fun fault => Or.imp_right ?_
        rintro ⟨place, complaint, -, rfl⟩
        exact ⟨_, rfl⟩
      · split
        · exact .ok _
        · exact .error (Or.inr ⟨_, rfl⟩)
    · exact .error (Or.inr ⟨_, rfl⟩)
  · exact .error (Or.inr ⟨_, rfl⟩)

end Faults

/-- A document is read or rejected, unless its first fault is a number that is too large. -/
theorem parse_onlyRejects_iff {document : Json} :
    OnlyRejects (parse document) ↔ ¬ Overflows document := by
  rw [← parse_tooLarge_iff]
  constructor
  · exact OnlyRejects.ne_tooLarge
  · intro h fault hfault
    rcases parse_failsWith fault hfault with rfl | hrejected
    · exact absurd hfault h
    · exact hrejected

theorem parse_onlyRejects {document : Json} (hfit : SecondsFit document) :
    OnlyRejects (parse document) :=
  parse_onlyRejects_iff.mpr hfit.not_overflows

end Catalog

end Diagnostics
