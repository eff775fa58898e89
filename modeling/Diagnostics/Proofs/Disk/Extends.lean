import Diagnostics.Proofs.Disk.Made
import Diagnostics.Host

/-!
# Nothing is ever removed

No request of a run removes anything or puts something of another kind in its place: files are
created or get other contents, and directories are made (`Disk.Extends`). So a path that leads
somewhere leads there still after any number of requests, a path that names a file goes on naming
one, and a file that was opened is named by the path that it was opened by (`openForWriting_ok`).

Only a request for directories makes any; all others add files at the most (`Disk.AddsFiles`).
-/

set_option autoImplicit false

namespace Diagnostics

open Disk

namespace Disk

/-- Whatever is on the first disk is on the second, with the same kind. -/
structure Extends (d d' : Disk) : Prop where
  workingDirectory : d'.workingDirectory = d.workingDirectory
  kept : ∀ place, d.top.at? place ≠ none → d'.top.outlineAt place = d.top.outlineAt place

/-- Whatever is on the first disk is on the second, and nothing else is there but files. -/
structure AddsFiles (d d' : Disk) : Prop extends Extends d d' where
  added : ∀ place node, d.top.at? place = none → d'.top.at? place = some node →
    ∃ content, node = .file content

/-- Whether a path names a file. -/
def isFile (disk : Disk) (path : Path) : Bool :=
  match disk.node? true path with
  | .ok (.file _) => true
  | .ok .full => true
  | _ => false

variable {d d' d'' : Disk} {path : Path} {place : Location}

theorem outlineAt_eq_none_iff {top : Node} :
    top.outlineAt place = none ↔ top.at? place = none := by
  unfold Node.outlineAt
  rw [Option.map_eq_none_iff]

namespace Extends

theorem refl (d : Disk) : d.Extends d :=
  ⟨rfl, fun _ _ => rfl⟩

theorem at?_ne_none (h : d.Extends d') (hplace : d.top.at? place ≠ none) :
    d'.top.at? place ≠ none := by
  rw [Ne, ← outlineAt_eq_none_iff, h.kept place hplace, outlineAt_eq_none_iff]
  exact hplace

/-- A full device stays full, whatever is done meanwhile. -/
theorem at?_full (h : d.Extends d') (hfull : d.top.at? place = some .full) :
    d'.top.at? place = some .full := by
  have hkept := h.kept place (by rw [hfull]; exact Option.some_ne_none _)
  unfold Node.outlineAt at hkept
  rw [hfull] at hkept
  obtain ⟨node, hnode, houtline⟩ := Option.map_eq_some_iff.mp hkept
  cases node with
  | full => exact hnode
  | _ => cases houtline

theorem trans (h : d.Extends d') (h' : d'.Extends d'') : d.Extends d'' where
  workingDirectory := h'.workingDirectory.trans h.workingDirectory
  kept place hplace := (h'.kept place (h.at?_ne_none hplace)).trans (h.kept place hplace)

theorem isDirectoryAt (h : d.Extends d') (hplace : d.top.IsDirectoryAt place) :
    d'.top.IsDirectoryAt place :=
  isDirectoryAt_of_outline hplace (h.kept place hplace.at?_ne_none)

theorem isGrounded (h : d.Extends d') (hground : d.IsGrounded) : d'.IsGrounded := by
  unfold IsGrounded
  rw [h.workingDirectory]
  exact h.isDirectoryAt hground

/-- A path that leads somewhere leads there still. -/
theorem locate {intent : Intent} (h : d.Extends d')
    (hlocate : d.locate intent path = .ok (.found place)) :
    d'.locate intent path = .ok (.found place) := by
  obtain ⟨octets, hoctets, hne, hshort, hresolve⟩ := locate_eq_ok_iff.mp hlocate
  refine locate_eq_ok_iff.mpr ⟨octets, hoctets, hne, hshort, ?_⟩
  rw [h.workingDirectory, resolve_congr_outline _ _ _ _ fun seen hseen =>
    h.kept seen (at?_ne_none_of_resolve hresolve seen hseen)]
  exact hresolve

end Extends

theorem isFile_iff : d.isFile path = true ↔
    ∃ place, d.locate ⟨true, false⟩ path = .ok (.found place) ∧
      (d.top.outlineAt place = some (.file []) ∨ d.top.outlineAt place = some .full) := by
  unfold isFile node? Node.outlineAt
  cases d.locate ⟨true, false⟩ path with
  | error e => simp
  | ok arrival =>
    cases arrival with
    | vacant place => simp
    | found place =>
      rcases hat : d.top.at? place with _ | (_ | _ | _ | _)
      all_goals simp [hat, Node.outline]

/-- A file can be read. -/
theorem exists_read_of_isFile (h : d.isFile path = true) : ∃ octets, d.read path = .ok octets := by
  unfold isFile at h
  unfold Disk.read
  cases hnode : d.node? true path with
  | error e =>
    rw [hnode] at h
    cases h
  | ok node =>
    rw [hnode] at h
    cases node with
    | file content => exact ⟨content, rfl⟩
    | full => exact ⟨[], rfl⟩
    | _ => cases h

/-- A path that names a file goes on naming one. -/
theorem Extends.isFile (h : d.Extends d') (hfile : d.isFile path = true) :
    d'.isFile path = true := by
  obtain ⟨place, hlocate, hkind⟩ := isFile_iff.mp hfile
  have hsome : d.top.at? place ≠ none := by
    intro hnone
    rw [outlineAt_eq_none_iff.mpr hnone] at hkind
    rcases hkind with hkind | hkind
    all_goals cases hkind
  refine isFile_iff.mpr ⟨place, h.locate hlocate, ?_⟩
  rw [h.kept place hsome]
  exact hkind

/-- A path that leads to a directory leads to it still. -/
theorem Extends.isDirectory (h : d.Extends d') (hthere : d.isDirectory path = true) :
    d'.isDirectory path = true := by
  obtain ⟨place, hlocate, hplace⟩ := isDirectory_iff.mp hthere
  exact isDirectory_iff.mpr ⟨place, h.locate hlocate, h.isDirectoryAt hplace⟩

theorem outlineAt_eq_file_iff {top : Node} :
    top.outlineAt place = some (.file []) ↔ ∃ content, top.at? place = some (.file content) := by
  unfold Node.outlineAt
  rcases top.at? place with _ | (_ | _ | _ | _)
  all_goals simp [Node.outline]

namespace AddsFiles

theorem refl (d : Disk) : d.AddsFiles d where
  toExtends := .refl d
  added place node hnone hsome := by
    rw [hnone] at hsome
    cases hsome

theorem trans (h : d.AddsFiles d') (h' : d'.AddsFiles d'') : d.AddsFiles d'' where
  toExtends := h.toExtends.trans h'.toExtends
  added place node hnone hsome := by
    cases hbetween : d'.top.at? place with
    | none => exact h'.added place node hbetween hsome
    | some other =>
      -- What was added before is a file still.
      obtain ⟨content, rfl⟩ := h.added place other hnone hbetween
      have hfile := h'.kept place (by rw [hbetween]; exact Option.some_ne_none _)
      rw [outlineAt_eq_file_iff.mpr ⟨content, hbetween⟩] at hfile
      obtain ⟨later, hlater⟩ := outlineAt_eq_file_iff.mp hfile
      exact ⟨later, Option.some.inj (hsome.symm.trans hlater)⟩

end AddsFiles

/-! ## Single operations -/

/-- A file in the place of a file changes nothing that is seen elsewhere. -/
theorem view_graft_file {top : Node} {old : List UInt8} (hat : top.at? place = some (.file old))
    (content : List UInt8) {seen : Location} (hne : seen ≠ place) :
    (Node.graft (.file content) top place).view seen = top.view seen := by
  have hleaf : ∀ (name : FileName) (rest : Location),
      (Node.file content).view (name :: rest) = (Node.file old).view (name :: rest) :=
    fun _ _ => rfl
  rcases List.eq_nil_or_concat place with rfl | ⟨directory, name, rfl⟩
  · obtain ⟨first, rest, rfl⟩ := List.exists_cons_of_ne_nil hne
    rw [Node.at?_nil] at hat
    rw [Option.some.inj hat]
    exact hleaf first rest
  · rw [List.concat_eq_append] at hat hne ⊢
    obtain ⟨entries, hdirectory⟩ := Node.exists_directory_of_at? hat
    by_cases hprefix : directory ++ [name] <+: seen
    · -- Nothing is seen below a file.
      obtain ⟨rest, rfl⟩ := hprefix
      obtain ⟨first, rest, rfl⟩ :=
        List.exists_cons_of_ne_nil fun hrest : rest = [] => hne (by rw [hrest, List.append_nil])
      unfold Node.view
      rw [Node.at?_graft_child hdirectory, Node.at?_append, hat]
      exact hleaf first rest
    · exact Node.view_graft_child hdirectory _ hprefix

/-- A file in the place of a file is seen by its content only. -/
theorem outlineAt_graft_file {top : Node} {old : List UInt8}
    (hat : top.at? place = some (.file old)) (content : List UInt8) (seen : Location) :
    (Node.graft (.file content) top place).outlineAt seen = top.outlineAt seen := by
  by_cases hseen : seen = place
  · subst hseen
    unfold Node.outlineAt
    rw [Node.at?_graft_self hat, hat]
    rfl
  · exact Node.outlineAt_eq_of_view (view_graft_file hat content hseen)

theorem addsFiles_put_file {old : List UInt8} (hat : d.top.at? place = some (.file old))
    (content : List UInt8) : d.AddsFiles (d.put place (.file content)) := by
  have hsame := outlineAt_graft_file hat content
  refine ⟨⟨rfl, fun seen _ => hsame seen⟩, fun seen node hnone hsome => ?_⟩
  have hnone' := outlineAt_eq_none_iff.mp ((hsame seen).trans (outlineAt_eq_none_iff.mpr hnone))
  exact absurd (hnone'.symm.trans hsome) nofun

theorem addsFiles_put_of_isFree (hfree : d.top.IsFree place) (content : List UInt8) :
    d.AddsFiles (d.put place (.file content)) := by
  refine ⟨⟨rfl, fun _ hseen => Node.outlineAt_eq_of_view (view_of_isFree hfree hseen)⟩,
    fun seen node hnone hsome => ?_⟩
  have hsome : (Node.graft (.file content) d.top place).at? seen = some node := hsome
  by_cases hprefix : place <+: seen
  · obtain ⟨rest, rfl⟩ := hprefix
    rw [at?_append_of_isFree hfree] at hsome
    cases rest with
    | nil => exact ⟨content, (Option.some.inj hsome).symm⟩
    | cons name rest => cases hsome
  · have hview : (Node.graft (.file content) d.top place).view seen = d.top.view seen :=
      view_of_not_below hfree hprefix
    rw [(Node.at?_eq_none_iff_view _).mp hnone] at hview
    rw [(Node.at?_eq_none_iff_view _).mpr hview] at hsome
    cases hsome

theorem Made.extends {paths : Path → Prop} (h : Made paths d d') : d.Extends d' :=
  ⟨h.workingDirectory, fun place hplace => Node.outlineAt_eq_of_view (h.kept place hplace)⟩

theorem extends_ensureDirectories (hground : d.IsGrounded) (path : Path) :
    d.Extends (d.ensureDirectories path).2 :=
  (made_of_ensureDirectories hground path).extends

theorem addsFiles_writeAt (d : Disk) (place : Location) (octets : List UInt8) :
    d.AddsFiles (d.writeAt place octets).2 := by
  unfold writeAt
  rcases hat : d.top.at? place with _ | (content | _ | _ | _)
  case some.file => exact addsFiles_put_file hat _
  all_goals exact .refl d

theorem addsFiles_flushAt (d : Disk) (place : Location) (octets : List UInt8) :
    d.AddsFiles (d.flushAt place octets).2 := by
  unfold flushAt
  split
  · exact .refl d
  · exact addsFiles_writeAt d place octets

/-- **Opening a file.** The path of a file that was opened leads to it, and it has no content yet,
or its device is full. -/
theorem openForWriting_found (hground : d.IsGrounded)
    (h : d.openForWriting path = .ok (place, d')) :
    d.AddsFiles d' ∧ d'.locate ⟨true, false⟩ path = .ok (.found place) ∧
      (d'.top.at? place = some (.file []) ∨ d'.top.at? place = some .full) := by
  unfold openForWriting at h
  cases hlocate : d.locate ⟨true, true⟩ path with
  | error e =>
    rw [hlocate] at h
    cases h
  | ok arrival =>
    rw [hlocate] at h
    dsimp only at h
    obtain ⟨octets, hoctets, hne, hshort, hresolve⟩ := locate_eq_ok_iff.mp hlocate
    have hplain := resolve_create hresolve
    cases arrival with
    | vacant free =>
      have hfree : d.top.IsFree free := isFree_of_resolve (hground.writtenStart octets) hresolve
      cases h
      refine ⟨addsFiles_put_of_isFree hfree _, ?_, Or.inl (at?_of_isFree hfree)⟩
      exact locate_eq_ok_iff.mpr ⟨octets, hoctets, hne, hshort,
        resolve_graft_of_vacant hfree rfl hplain⟩
    | found there =>
      have hfound : d.locate ⟨true, false⟩ path = .ok (.found there) :=
        locate_eq_ok_iff.mpr ⟨octets, hoctets, hne, hshort, hplain⟩
      -- Whatever can be opened there is a file already.
      unfold openArrival? at h
      dsimp only at h
      rcases hat : d.top.at? there with _ | (content | _ | _ | _)
      all_goals
        rw [hat] at h
        cases h
      · have hadds := addsFiles_put_file hat []
        exact ⟨hadds, hadds.locate hfound, Or.inl (Node.at?_graft_self hat _)⟩
      · exact ⟨.refl d, hfound, Or.inr hat⟩

/-- A file that was opened is there, and its path names it. -/
theorem openForWriting_ok (hground : d.IsGrounded)
    (h : d.openForWriting path = .ok (place, d')) : d.AddsFiles d' ∧ d'.isFile path = true := by
  obtain ⟨hadds, hlocate, hplace⟩ := openForWriting_found hground h
  refine ⟨hadds, isFile_iff.mpr ⟨place, hlocate, ?_⟩⟩
  unfold Node.outlineAt
  rcases hplace with hplace | hplace
  · exact Or.inl (by rw [hplace]; rfl)
  · exact Or.inr (by rw [hplace]; rfl)

/-- What is written to a file without content is its content. -/
theorem writeAt_of_empty (h : d.top.at? place = some (.file [])) (octets : List UInt8) :
    d.writeAt place octets = (true, d.put place (.file octets)) := by
  unfold writeAt
  rw [h]
  dsimp only
  rw [List.drop_nil, List.append_nil]

theorem read_of_locate (hlocate : d.locate ⟨true, false⟩ path = .ok (.found place))
    {content : List UInt8} (hat : d.top.at? place = some (.file content)) :
    d.read path = .ok content := by
  unfold Disk.read node?
  rw [hlocate]
  dsimp only
  rw [hat]

/-- **What is written to an opened file is read back**, unless its device is full. -/
theorem read_flushAt (hground : d.IsGrounded) (h : d.openForWriting path = .ok (place, d'))
    {content : List UInt8} (hfile : d'.top.at? place = some (.file content))
    (octets : List UInt8) :
    (d'.flushAt place octets).1 = true ∧ (d'.flushAt place octets).2.read path = .ok octets := by
  obtain ⟨-, hlocate, hplace⟩ := openForWriting_found hground h
  have hempty : d'.top.at? place = some (.file []) := by
    rcases hplace with hplace | hplace
    · exact hplace
    · rw [hfile] at hplace
      cases hplace
  have hwritten : (d'.flushAt place octets).1 = true ∧
      (d'.flushAt place octets).2.top.at? place = some (.file octets) := by
    cases octets with
    | nil => exact ⟨rfl, hempty⟩
    | cons octet octets =>
      show (d'.writeAt place _).1 = true ∧ (d'.writeAt place _).2.top.at? place = _
      rw [writeAt_of_empty hempty]
      exact ⟨rfl, Node.at?_graft_self hempty _⟩
  exact ⟨hwritten.1,
    read_of_locate ((addsFiles_flushAt d' place octets).locate hlocate) hwritten.2⟩

/-! ## What programs do -/

theorem addsFiles_overwrite (hground : d.IsGrounded) (path : Path) (octets : List UInt8) :
    d.AddsFiles (d.overwrite path octets).2 := by
  unfold overwrite
  cases hopened : d.openForWriting path with
  | error e => exact .refl d
  | ok opened =>
    obtain ⟨place, disk⟩ := opened
    exact (openForWriting_ok hground hopened).1.trans (addsFiles_flushAt disk place octets)

theorem addsFiles_writeArguments (argv : List Text) (writes : List (Nat × List UInt8)) :
    ∀ {d : Disk}, d.IsGrounded → d.AddsFiles (writeArguments argv writes d).2 := by
  induction writes with
  | nil => exact fun _ => .refl _
  | cons write writes ih =>
    obtain ⟨index, octets⟩ := write
    intro d hground
    unfold writeArguments
    cases argv[index]? with
    | none => exact ih hground
    | some argument =>
      have hfirst := addsFiles_overwrite hground (Path.ofText argument) octets
      exact hfirst.trans (ih (hfirst.isGrounded hground))

end Disk

end Diagnostics
