import Diagnostics.Proofs.Catalog.Exact
import Mathlib.Data.Nat.Find
import Mathlib.Order.Bounds.Basic

/-!
# The first fault of a catalog is the one that is told

The reader goes through groups and tasks in order and stops at the first that is not well-formed, so
that one is told, by its index at the beginning of the message, and nothing behind it matters
(`firstFault_told`). Names are looked at when all groups were read; a complaint about names says
that every group is well-formed.

Two facts make this up. Reading an array comes to the fault of the first value that is not read
(`readAll_of_firstFault`), which is used for groups and again for the tasks of a group. And a fault
of a group or of a task is a complaint about a place in it (`parseGroup_failsWith`,
`parseTask_failsWith`), which its words begin with; a phase of a capture is told with the task, so
that holds there too.
-/

set_option autoImplicit false

namespace Diagnostics

/-! ## The words of a complaint -/

theorem Text.ofString_append (a b : String) : ofString (a ++ b) = ofString a ++ ofString b := by
  simp [ofString, ofChars]

theorem Complaint.prefix_text (place : String) (complaint : Complaint) :
    Text.ofString place <+: complaint.text place := by
  cases complaint
  all_goals
    simp only [text, Text.ofString_append, List.append_assoc]
    exact List.prefix_append _ _

namespace Place

/-- A complaint begins with its place; one about a phase begins with the task. -/
theorem told_text_prefix (place : Place) (complaint : Complaint) :
    Text.ofString place.told.text <+: (CatalogError.malformed place complaint).message := by
  cases place with
  | group i => exact complaint.prefix_text _
  | task i j => exact complaint.prefix_text _
  | phase i j phase =>
    show Text.ofString (task i j).text <+:
      Text.ofString ((task i j).text ++ ": ") ++ complaint.text _
    rw [Text.ofString_append, List.append_assoc]
    exact List.prefix_append _ _

theorem text_task (i j : Nat) : (task i j).text = (group i).text ++ s!".tasks[{j}]" := by
  have hbracket : "].tasks[" = "]" ++ ".tasks[" := by decide
  show "catalog.groups[" ++ toString i ++ "].tasks[" ++ toString j ++ "]" =
    "catalog.groups[" ++ toString i ++ "]" ++ (".tasks[" ++ toString j ++ "]")
  rw [hbracket]
  simp only [String.append_assoc]

theorem group_text_prefix_task (i j : Nat) :
    Text.ofString (group i).text <+: Text.ofString (task i j).text := by
  rw [text_task, Text.ofString_append]
  exact List.prefix_append _ _

/-- What is told of a place in a group begins with the group. -/
theorem group_text_prefix_told (place : Place) :
    Text.ofString (group place.groupIndex).text <+: Text.ofString place.told.text := by
  cases place with
  | group i => exact List.prefix_rfl
  | task i j => exact group_text_prefix_task i j
  | phase i j phase => exact group_text_prefix_task i j

end Place

/-- The error is about names that are used twice, or a capture that is not alone. -/
def CatalogError.IsAboutNames : CatalogError → Prop
  | .duplicateGroup _ | .captureNotAlone _ | .sharedOutput _ _ _ _ => True
  | _ => False

namespace Catalog

open Diagnostics.Json (field? IsPart)

/-! ## The first of several values -/

/-- The index is the least of a value that is not well-formed. -/
def FirstFault (wellFormed : Json → Prop) (vs : List Json) (i : Nat) : Prop :=
  IsLeast {i : Nat | ∃ v, vs[i]? = some v ∧ ¬ wellFormed v} i

section First

variable {wellFormed : Json → Prop} {vs vs' : List Json} {i : Nat}

theorem exists_firstFault (h : ∃ v ∈ vs, ¬ wellFormed v) : ∃ i, FirstFault wellFormed vs i := by
  classical
  have hindex : ∃ i : Nat, ∃ v, vs[i]? = some v ∧ ¬ wellFormed v := by
    obtain ⟨v, hv, hnot⟩ := h
    obtain ⟨i, hi⟩ := List.getElem?_of_mem hv
    exact ⟨i, v, hi, hnot⟩
  exact ⟨Nat.find hindex, Nat.find_spec hindex, fun j hj => Nat.find_min' hindex hj⟩

theorem FirstFault.before (h : FirstFault wellFormed vs i) : ∀ v ∈ vs.take i, wellFormed v := by
  intro v hv
  obtain ⟨j, hj⟩ := List.getElem?_of_mem hv
  rw [List.getElem?_take] at hj
  split at hj
  next hlt =>
    by_contra hnot
    have hleast : i ≤ j := h.2 ⟨v, hj, hnot⟩
    omega
  next => cases hj

theorem FirstFault.eq_of {j : Nat} {v : Json} (h : FirstFault wellFormed vs i)
    (hv : vs[j]? = some v) (hnot : ¬ wellFormed v) (hbefore : ∀ w ∈ vs.take j, wellFormed w) :
    i = j := by
  have hle : i ≤ j := h.2 ⟨v, hv, hnot⟩
  refine Nat.le_antisymm hle (Nat.not_lt.mp fun hlt => ?_)
  obtain ⟨w, hw, hfault⟩ := h.1
  refine hfault (hbefore w (List.mem_of_getElem? (i := i) ?_))
  rw [List.getElem?_take, if_pos hlt]
  exact hw

section Reading

variable {α : Type} {read : Nat → Json → Except CatalogFault α}

/-- An array is read if each of its values is. -/
theorem exists_readAll : ∀ {vs : List Json}, (∀ v ∈ vs, ∀ index, ∃ a, read index v = .ok a) →
    ∀ index, ∃ list, readAll read index vs = .ok list
  | [], _, _ => ⟨[], rfl⟩
  | v :: vs, hread, index => by
    rw [List.forall_mem_cons] at hread
    obtain ⟨a, ha⟩ := hread.1 index
    obtain ⟨list, hlist⟩ := exists_readAll hread.2 (index + 1)
    exact ⟨a :: list, bind_ok_iff.mpr ⟨a, ha, bind_ok_iff.mpr ⟨list, hlist, rfl⟩⟩⟩

/-- The values of an array that was read were read. -/
theorem exists_of_readAll : ∀ {vs : List Json} {index : Nat} {list : List α},
    readAll read index vs = .ok list → ∀ v ∈ vs, ∃ index a, read index v = .ok a
  | [], _, _, _ => nofun
  | v :: vs, index, list, h => by
    obtain ⟨a, ha, h⟩ := bind_ok_iff.mp h
    obtain ⟨rest, hrest, -⟩ := bind_ok_iff.mp h
    exact List.forall_mem_cons.mpr ⟨⟨index, a, ha⟩, exists_of_readAll hrest⟩

/-- Reading an array comes to the fault of the first value that is not read. -/
theorem readAll_of_firstFault {v : Json} {fault : CatalogFault} :
    ∀ {vs : List Json} {index i : Nat}, (∀ w ∈ vs.take i, ∀ index, ∃ a, read index w = .ok a) →
      vs[i]? = some v → read (index + i) v = .error fault → readAll read index vs = .error fault
  | [], _, _, _, hv, _ => nomatch hv
  | w :: vs, index, 0, _, hv, hfault => by
    cases hv
    exact bind_error_iff.mpr (Or.inl hfault)
  | w :: vs, index, i + 1, hbefore, hv, hfault => by
    rw [List.take_succ_cons, List.forall_mem_cons] at hbefore
    obtain ⟨a, ha⟩ := hbefore.1 index
    have hrest := readAll_of_firstFault hbefore.2 hv
      (show read (index + 1 + i) v = .error fault by rwa [Nat.add_right_comm])
    exact bind_error_iff.mpr (Or.inr ⟨a, ha, bind_error_iff.mpr (Or.inl hrest)⟩)

end Reading

end First

/-! ## Well-formed values -/

def IsTask (v : Json) : Prop :=
  ∃ task, IsObject (DescribesTask .stated) v task

def IsGroup (v : Json) : Prop :=
  ∃ group, IsObject (DescribesGroup .stated) v group

/-- The own fields of a group are well-formed, and it has an array of tasks. -/
structure OwnsTasks (fields : List (Text × Json)) (tasks : List Json) : Prop where
  name : ∃ s, RequiredField IsNonBlank (field? "name" fields) s
  trace : ∃ b, OptionalField IsBool false (field? "trace" fields) b
  alone : field? "roots" fields = none
  tasks : field? "tasks" fields = some (.array tasks)

section

variable {v : Json} {fields : List (Text × Json)} {vs : List Json}

/-- Without a NaN in it, a value is well-formed if it is read, wherever it stands. -/
theorem isTask_iff (hnan : ¬ IsPart (.number .nan) v) (group index : Nat) :
    IsTask v ↔ ∃ task, parseTask group index v = .ok task := by
  refine exists_congr fun task => Iff.trans ⟨fun h => ?_, fun h => ?_⟩ parseTask_ok_iff.symm
  · exact h.mono (Bounds.stated_implies_checked v) fun _ hb h => h.mono hb
  · exact h.mono (Bounds.checked_implies_stated hnan) fun _ hb h => h.mono hb

theorem isGroup_iff (hnan : ¬ IsPart (.number .nan) v) (index : Nat) :
    IsGroup v ↔ ∃ group, parseGroup index v = .ok group := by
  refine exists_congr fun group => Iff.trans ⟨fun h => ?_, fun h => ?_⟩ parseGroup_ok_iff.symm
  · exact h.mono (Bounds.stated_implies_checked v) fun _ hb h => h.mono hb
  · exact h.mono (Bounds.checked_implies_stated hnan) fun _ hb h => h.mono hb

/-- What is left of a group with well-formed fields of its own is to read its tasks. -/
theorem OwnsTasks.parseGroup_eq {tasks : List Json} (h : OwnsTasks fields tasks) (index : Nat) :
    ∃ name trace, parseGroup index (.object fields) =
      (parseTasks index 0 tasks).map fun list => ⟨name, trace, .tasks list⟩ := by
  obtain ⟨name, hname⟩ := h.name
  obtain ⟨trace, htrace⟩ := h.trace
  have hname := (@requiredText_ok_iff (.group index) _ _ _).mpr hname
  have htrace := (@optionalBool_ok_iff (.group index) _ _ _).mpr htrace
  refine ⟨name, trace, ?_⟩
  simp only [parseGroup, hname, htrace, parseWork, h.alone, h.tasks]
  cases parseTasks index 0 tasks <;> rfl

/-- If such a group is not well-formed, then one of its tasks is the first that is not, and the
fault of the group is that task's. -/
theorem OwnsTasks.exists_firstFault {tasks : List Json} (h : OwnsTasks fields tasks)
    (hnan : ¬ IsPart (.number .nan) (.object fields)) (hnot : ¬ IsGroup (.object fields))
    (index : Nat) : ∃ j, FirstFault IsTask tasks j ∧ ∀ fault,
      parseGroup index (.object fields) = .error fault →
        ComplainsOrOverflows (·.told = .task index j) fault := by
  obtain ⟨name, trace, hparse⟩ := h.parseGroup_eq index
  have hclean : ∀ t ∈ tasks, ¬ IsPart (.number .nan) t :=
    fun t ht hpart => hnan (.field h.tasks (.item ht hpart))
  have hread : ∀ t ∈ tasks, IsTask t → ∀ j, ∃ task, parseTask index j t = .ok task :=
    fun t ht htask j => (isTask_iff (hclean t ht) index j).mp htask
  have hbad : ∃ t ∈ tasks, ¬ IsTask t := by
    by_contra hall
    push Not at hall
    -- All tasks are read, so the group is.
    obtain ⟨list, hlist⟩ := exists_readAll (fun t ht => hread t ht (hall t ht)) 0
    refine hnot ((isGroup_iff hnan index).mpr ⟨⟨name, trace, .tasks list⟩, ?_⟩)
    rw [hparse, parseTasks_eq, hlist]
    rfl
  obtain ⟨j, hfirst⟩ := Catalog.exists_firstFault hbad
  refine ⟨j, hfirst, fun fault hfault => ?_⟩
  obtain ⟨t, ht, hnotTask⟩ := hfirst.1
  have hmem := List.mem_of_getElem? ht
  cases htask : parseTask index j t with
  | ok task => exact absurd ((isTask_iff (hclean t hmem) index j).mpr ⟨task, htask⟩) hnotTask
  | error told =>
    have hstops : parseTasks index 0 tasks = .error told := by
      rw [parseTasks_eq]
      refine readAll_of_firstFault (fun w hw => ?_) ht (by rwa [Nat.zero_add])
      exact hread w (List.mem_of_mem_take hw) (hfirst.before w hw)
    rw [hparse, hstops] at hfault
    cases hfault
    exact parseTask_failsWith _ htask

/-- A document comes to the fault of its first group that is not read, whatever is behind it. -/
theorem parse_of_firstFault {i : Nat} {fault : CatalogFault}
    (hgroups : field? "groups" fields = some (.array vs))
    (hbefore : ∀ w ∈ vs.take i, ∀ index, ∃ group, parseGroup index w = .ok group)
    (hv : vs[i]? = some v) (hfault : parseGroup i v = .error fault) :
    parse (.object fields) = .error fault := by
  unfold parse
  dsimp only
  rw [hgroups]
  refine bind_error_iff.mpr (Or.inl ?_)
  rw [parseGroups_eq]
  exact readAll_of_firstFault hbefore hv (by rwa [Nat.zero_add])

/-- Documents that have the same groups up to the first fault come to the same fault. -/
theorem FirstFault.exists_fault {i : Nat} (hfirst : FirstFault IsGroup vs i)
    (hclean : ∀ v ∈ vs, ¬ IsPart (.number .nan) v) : ∃ v fault, vs[i]? = some v ∧ ¬ IsGroup v ∧
      parseGroup i v = .error fault ∧ ∀ fields' vs', field? "groups" fields' = some (.array vs') →
        vs'.take (i + 1) = vs.take (i + 1) → parse (.object fields') = .error fault := by
  obtain ⟨v, hv, hnot⟩ := hfirst.1
  have hmem := List.mem_of_getElem? hv
  cases hgroup : parseGroup i v with
  | ok group => exact absurd ((isGroup_iff (hclean v hmem) i).mpr ⟨group, hgroup⟩) hnot
  | error fault =>
    refine ⟨v, fault, hv, hnot, hgroup, fun fields' vs' hgroups' hsame => ?_⟩
    have htake : vs'.take i = vs.take i := by
      have h := congrArg (List.take i) hsame
      rwa [List.take_take, List.take_take, Nat.min_eq_left (Nat.le_succ _)] at h
    have hget : vs'[i]? = vs[i]? := by
      have h := congrArg (·[i]?) hsame
      simpa [List.getElem?_take] using h
    refine parse_of_firstFault hgroups' (fun w hw index => ?_) (hget.trans hv) hgroup
    rw [htake] at hw
    exact (isGroup_iff (hclean w (List.mem_of_mem_take hw)) index).mp (hfirst.before w hw)

/-- If names are complained about, then all groups were read. -/
theorem isGroup_of_isAboutNames {e : CatalogError}
    (hgroups : field? "groups" fields = some (.array vs))
    (hclean : ∀ v ∈ vs, ¬ IsPart (.number .nan) v)
    (h : parse (.object fields) = .error (.rejected e)) (hnames : e.IsAboutNames) :
    ∀ v ∈ vs, IsGroup v := by
  unfold parse at h
  dsimp only at h
  rw [hgroups] at h
  rcases bind_error_iff.mp h with hfault | ⟨groups, hread, -⟩
  · rw [parseGroups_eq] at hfault
    have hcomplains := readAll_failsWith
      (fun _ _ => parseGroup_failsWith.widen fun _ _ => trivial) vs 0 _ hfault
    rcases hcomplains with hlarge | ⟨place, complaint, -, hcomplaint⟩
    · cases hlarge
    · cases hcomplaint
      exact hnames.elim
  · intro v hv
    rw [parseGroups_eq] at hread
    obtain ⟨index, group, hgroup⟩ := exists_of_readAll hread v hv
    exact (isGroup_iff (hclean v hv) index).mpr ⟨group, hgroup⟩

end

/-- A document with these groups is rejected for the first of them that is not well-formed. -/
structure RejectedAtFirst (fields : List (Text × Json)) (vs : List Json) (e : CatalogError)
    (i : Nat) : Prop where
  first : FirstFault IsGroup vs i
  rejected : parse (.object fields) = .error (.rejected e)
  /-- The message begins with the group. -/
  group : Text.ofString (Place.group i).text <+: e.message
  /-- If nothing but its tasks can be wrong with the group, the message begins with the first of
  them that is not well-formed. -/
  task : ∀ own tasks, vs[i]? = some (.object own) → OwnsTasks own tasks →
    ∃ j, FirstFault IsTask tasks j ∧ Text.ofString (Place.task i j).text <+: e.message
  /-- Nothing behind the group matters. -/
  behind : ∀ fields' vs', field? "groups" fields' = some (.array vs') →
    vs'.take (i + 1) = vs.take (i + 1) → parse (.object fields') = .error (.rejected e)

/-- **The first fault of a catalog is told.** If one of the groups of a document is not well-formed,
then the document is rejected for the first that is not; and names are complained about only if
every group is well-formed. No number in the document is a NaN, and none of its seconds is too
large. -/
theorem firstFault_told {fields : List (Text × Json)} {vs : List Json}
    (hgroups : field? "groups" fields = some (.array vs))
    (hnan : ¬ IsPart (.number .nan) (.object fields)) (hfit : SecondsFit (.object fields)) :
    ((∃ v ∈ vs, ¬ IsGroup v) → ∃ i e, RejectedAtFirst fields vs e i) ∧
      ∀ e, parse (.object fields) = .error (.rejected e) → e.IsAboutNames →
        ∀ v ∈ vs, IsGroup v := by
  have hclean : ∀ v ∈ vs, ¬ IsPart (.number .nan) v :=
    fun v hv hpart => hnan (.field hgroups (.item hv hpart))
  refine ⟨fun hbad => ?_, fun e he hnames => isGroup_of_isAboutNames hgroups hclean he hnames⟩
  obtain ⟨i, hfirst⟩ := exists_firstFault hbad
  obtain ⟨v, fault, hv, hnot, hfault, hbehind⟩ := hfirst.exists_fault hclean
  have hparse := hbehind fields vs hgroups rfl
  have hlarge : fault ≠ .tooLarge := by
    rintro rfl
    exact (parse_onlyRejects hfit).ne_tooLarge hparse
  -- The complaint is about a place in the group.
  obtain ⟨place, complaint, rfl, rfl⟩ := (parseGroup_failsWith _ hfault).resolve_left hlarge
  refine ⟨place.groupIndex, _, hfirst, hparse, ?_, fun own tasks hown howns => ?_, hbehind⟩
  · exact place.group_text_prefix_told.trans (place.told_text_prefix complaint)
  · cases hv.symm.trans hown
    have hmem := List.mem_of_getElem? hv
    obtain ⟨j, hfirstTask, htask⟩ := howns.exists_firstFault (hclean _ hmem) hnot place.groupIndex
    refine ⟨j, hfirstTask, ?_⟩
    -- It is about the task, or about a phase, and then it is told with the task.
    obtain ⟨_, _, htold, ⟨⟩⟩ := (htask _ hfault).resolve_left hlarge
    rw [← htold]
    exact place.told_text_prefix complaint

/-! ## A catalog with several faults -/

def soundTask : Json :=
  .object [("type", .text "process"), ("executable", .text "netsh"), ("output", .text "net.txt")]

/-- The phases are about two artifacts. -/
def tornCapture : Json :=
  .object [("type", .text "capture"),
    ("start", .object [("executable", .text "wpr"), ("output", .text "a")]),
    ("stop", .object [("executable", .text "wpr"), ("output", .text "b")])]

def soundGroup : Json :=
  .object [("name", .text "net"), ("tasks", .array [soundTask])]

/-- The fields of a group with a fault in its second task, and a fault behind it. -/
def tornFields : List (Text × Json) :=
  [("name", .text "net"), ("tasks", .array [soundTask, tornCapture, .null])]

/-- Two groups of one name, the second of which is not well-formed, and a third that is none. -/
def faultyGroups : List Json :=
  [soundGroup, .object tornFields, .null]

theorem ownsTasks_tornFields : OwnsTasks tornFields [soundTask, tornCapture, .null] where
  name := ⟨"net", rfl, rfl⟩
  trace := ⟨false, rfl⟩
  alone := rfl
  tasks := rfl

/-- The torn capture is told, and neither what is behind it nor the name that is used twice. -/
theorem firstFault_told_capture :
    ∃ e, RejectedAtFirst [("groups", .array faultyGroups)] faultyGroups e 1 ∧
      Text.ofString "catalog.groups[1].tasks[1]" <+: e.message := by
  have hread : field? "groups" [("groups", .array faultyGroups)] = some (.array faultyGroups) := rfl
  have hsound : (Json.object [("groups", .array faultyGroups)]).every isSound = true := by decide
  have hnan := not_isPart_nan_of_every hsound
  have hgroup : IsGroup soundGroup :=
    (isGroup_iff (not_isPart_nan_of_every (by decide)) 0).mpr ⟨_, rfl⟩
  have htorn : ¬ IsGroup (.object tornFields) := by
    rw [isGroup_iff (not_isPart_nan_of_every (by decide)) 1]
    rintro ⟨_, ⟨⟩⟩
  have htask : IsTask soundTask :=
    (isTask_iff (not_isPart_nan_of_every (by decide)) 1 0).mpr ⟨_, rfl⟩
  have hcapture : ¬ IsTask tornCapture := by
    rw [isTask_iff (not_isPart_nan_of_every (by decide)) 1 1]
    rintro ⟨_, ⟨⟩⟩
  obtain ⟨i, e, h⟩ := (firstFault_told hread hnan (secondsFit_of_every hsound)).1
    ⟨.object tornFields, by simp [faultyGroups], htorn⟩
  obtain rfl : i = 1 := h.first.eq_of rfl htorn (List.forall_mem_singleton.mpr hgroup)
  obtain ⟨j, hfirst, hprefix⟩ := h.task tornFields _ rfl ownsTasks_tornFields
  obtain rfl : j = 1 := hfirst.eq_of rfl hcapture (List.forall_mem_singleton.mpr htask)
  exact ⟨e, h, hprefix⟩

end Catalog

end Diagnostics
