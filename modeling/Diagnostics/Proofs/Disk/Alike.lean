import Diagnostics.Proofs.Disk.Lookup
import Diagnostics.Report

/-!
# Requests to disks that are alike

Two disks may differ in a way that no request can tell: in the order in which entries stand, or in
what a file holds that is only ever written to. `Disk.IsLikeness` says what is needed for that of a
relation between disks. The same kinds of things are seen everywhere, and the disks are alike still
when the same is put into both, or the same octets are written to what a file holds in each. Then
every request has one outcome on both disks, and leaves disks that are alike (`Disk.Respects`).
-/

set_option autoImplicit false

namespace Diagnostics

/-- What stands at two places is of one kind: nothing, links to the same target, files, or
directories. -/
inductive Node.SameKind : Option Node → Option Node → Prop
  | nothing : SameKind none none
  | files (content content' : List UInt8) : SameKind (some (.file content)) (some (.file content'))
  | full : SameKind (some .full) (some .full)
  | link (target : List UInt8) : SameKind (some (.link target)) (some (.link target))
  | directories (entries entries' : List (FileName × Node)) :
      SameKind (some (.directory entries)) (some (.directory entries'))

theorem Node.sameKind_of_outlineAt {top top' : Node} {place : Location}
    (h : top.outlineAt place = top'.outlineAt place) :
    SameKind (top.at? place) (top'.at? place) := by
  unfold Node.outlineAt at h
  generalize top.at? place = seen at h
  generalize top'.at? place = seen' at h
  rcases seen with _ | (_ | _ | _ | _)
  all_goals
    rcases seen' with _ | (_ | _ | _ | _)
    all_goals cases h
  case none.none.refl => exact .nothing
  case some.file.some.file.refl => exact .files _ _
  case some.full.some.full.refl => exact .full
  case some.link.some.link.refl => exact .link _
  case some.directory.some.directory.refl => exact .directories _ _

namespace Disk

/-- What two disks differ in is told by no look-up, and is not spread by what is written. -/
structure IsLikeness (R : Disk → Disk → Prop) : Prop where
  outlineAt : ∀ {d d'}, R d d' → ∀ place, d.top.outlineAt place = d'.top.outlineAt place
  workingDirectory : ∀ {d d'}, R d d' → d.workingDirectory = d'.workingDirectory
  put : ∀ {d d'}, R d d' → ∀ place node, R (d.put place node) (d'.put place node)
  overwrite : ∀ {d d' place content content'}, R d d' →
    d.top.at? place = some (.file content) → d'.top.at? place = some (.file content') →
      ∀ octets : List UInt8, R (d.put place (.file (octets ++ content.drop octets.length)))
        (d'.put place (.file (octets ++ content'.drop octets.length)))

/-- An operation has one outcome on disks that are alike, and leaves disks that are. -/
def Respects {α : Type} (R : Disk → Disk → Prop) (op : Disk → α × Disk) : Prop :=
  ∀ {d d' : Disk}, R d d' → (op d).1 = (op d').1 ∧ R (op d).2 (op d').2

/-- An operation was refused on both of two disks in the same way, or has left disks that are
alike. -/
inductive AlikeOutcome (R : Disk → Disk → Prop) :
    Except DiskError Disk → Except DiskError Disk → Prop
  | refused (e : DiskError) : AlikeOutcome R (.error e) (.error e)
  | left {d d' : Disk} : R d d' → AlikeOutcome R (.ok d) (.ok d')

namespace IsLikeness

variable {R : Disk → Disk → Prop} (hR : IsLikeness R) {d d' : Disk}

include hR

theorem locate (h : R d d') (intent : Intent) (path : Path) :
    d.locate intent path = d'.locate intent path := by
  unfold Disk.locate locateText
  cases pathOctets path.text with
  | error e => rfl
  | ok octets =>
    dsimp only
    rw [hR.workingDirectory h, resolve_congr_outline intent linkLimit _ (writtenNames octets)
      fun place _ => hR.outlineAt h place]

theorem sameKind (h : R d d') (place : Location) :
    Node.SameKind (d.top.at? place) (d'.top.at? place) :=
  Node.sameKind_of_outlineAt (hR.outlineAt h place)

theorem writeAt (place : Location) (octets : List UInt8) :
    Respects R fun d => d.writeAt place octets := by
  intro d d' h
  have hkind := hR.sameKind h place
  have hwritten := @hR.overwrite d d' place
  unfold Disk.writeAt
  dsimp only
  generalize d.top.at? place = seen at hkind hwritten
  generalize d'.top.at? place = seen' at hkind hwritten
  cases hkind with
  | files content content' => exact ⟨rfl, hwritten h rfl rfl octets⟩
  | _ => exact ⟨rfl, h⟩

theorem flushAt (place : Location) (octets : List UInt8) :
    Respects R fun d => d.flushAt place octets := by
  intro d d' h
  unfold Disk.flushAt
  dsimp only
  split
  · exact ⟨rfl, h⟩
  · exact hR.writeAt place octets h

/-- Opening a file is refused alike, or gives the same place. -/
theorem openForWriting (h : R d d') (path : Path) :
    (∃ e, d.openForWriting path = .error e ∧ d'.openForWriting path = .error e) ∨
      ∃ place left left', d.openForWriting path = .ok (place, left) ∧
        d'.openForWriting path = .ok (place, left') ∧ R left left' := by
  unfold Disk.openForWriting
  rw [hR.locate h]
  cases d'.locate ⟨true, true⟩ path with
  | error e => exact Or.inl ⟨e, rfl, rfl⟩
  | ok arrival =>
    cases arrival with
    | vacant place => exact Or.inr ⟨place, _, _, rfl, rfl, hR.put h place _⟩
    | found place =>
      have hkind := hR.sameKind h place
      dsimp only [openArrival?]
      generalize d.top.at? place = seen at hkind
      generalize d'.top.at? place = seen' at hkind
      cases hkind with
      | files content content' => exact Or.inr ⟨place, _, _, rfl, rfl, hR.put h place _⟩
      | full => exact Or.inr ⟨place, _, _, rfl, rfl, h⟩
      | _ => exact Or.inl ⟨_, rfl, rfl⟩

theorem makeDirectory (h : R d d') (path : Path) :
    AlikeOutcome R (d.makeDirectory path) (d'.makeDirectory path) := by
  unfold Disk.makeDirectory
  rw [hR.locate h]
  cases d'.locate ⟨false, false⟩ path with
  | error e => exact .refused e
  | ok arrival =>
    cases arrival with
    | found place => exact .refused _
    | vacant place => exact .left (hR.put h place _)

/-- Whether there is a directory is seen alike, and so is why nothing is found. -/
theorem map_isDirectory_node? (h : R d d') (follow : Bool) (path : Path) :
    (d.node? follow path).map Node.isDirectory = (d'.node? follow path).map Node.isDirectory := by
  unfold Disk.node?
  rw [hR.locate h]
  cases d'.locate ⟨follow, false⟩ path with
  | error e => rfl
  | ok arrival =>
    cases arrival with
    | vacant place => rfl
    | found place =>
      have hkind := hR.sameKind h place
      dsimp only
      generalize d.top.at? place = seen at hkind
      generalize d'.top.at? place = seen' at hkind
      cases hkind <;> rfl

theorem ensureDirectory (h : R d d') (path : Path) :
    AlikeOutcome R (d.ensureDirectory path) (d'.ensureDirectory path) := by
  have hnode := hR.map_isDirectory_node? h true path
  have hmade := hR.makeDirectory h path
  unfold Disk.ensureDirectory
  generalize d.makeDirectory path = made at hmade
  generalize d'.makeDirectory path = made' at hmade
  cases hmade with
  | left hleft => exact .left hleft
  | refused e =>
    cases e with
    | unencodable error => exact .refused _
    | embeddedNul => exact .refused _
    | os fault =>
      dsimp only
      split
      · exact .refused _
      · -- What is there already is a directory on both disks or on neither.
        generalize d.node? true path = found at hnode
        generalize d'.node? true path = found' at hnode
        cases found with
        | error f =>
          cases found' with
          | error f' =>
            cases hnode
            dsimp only
            split <;> exact .refused _
          | ok node' => cases hnode
        | ok node =>
          cases found' with
          | error f' => cases hnode
          | ok node' =>
            have hdirectory : node.isDirectory = node'.isDirectory := Except.ok.inj hnode
            dsimp only
            rw [hdirectory]
            split
            · exact .left h
            · exact .refused _

theorem ensureParts (root : Root) (parts : List Text) : Respects R (ensureParts root parts) := by
  induction parts with
  | nil =>
    intro d d' h
    have hmade := hR.ensureDirectory h ⟨root, []⟩
    unfold Disk.ensureParts
    generalize d.ensureDirectory ⟨root, []⟩ = made at hmade
    generalize d'.ensureDirectory ⟨root, []⟩ = made' at hmade
    cases hmade with
    | left hleft => exact ⟨rfl, hleft⟩
    | refused e => exact ⟨rfl, h⟩
  | cons part above ih =>
    intro d d' h
    have hmade := hR.ensureDirectory h ⟨root, (part :: above).reverse⟩
    unfold Disk.ensureParts
    dsimp only
    generalize d.ensureDirectory ⟨root, (part :: above).reverse⟩ = made at hmade
    generalize d'.ensureDirectory ⟨root, (part :: above).reverse⟩ = made' at hmade
    cases hmade with
    | left hleft => exact ⟨rfl, hleft⟩
    | refused e =>
      dsimp only
      split
      · obtain ⟨hsame, habove⟩ := ih h
        generalize Disk.ensureParts root above d = made at hsame habove
        generalize Disk.ensureParts root above d' = made' at hsame habove
        obtain ⟨outcome, left⟩ := made
        obtain ⟨outcome', left'⟩ := made'
        obtain rfl : outcome = outcome' := hsame
        cases outcome with
        | error e => exact ⟨rfl, habove⟩
        | ok _ =>
          have hagain := hR.ensureDirectory habove ⟨root, (part :: above).reverse⟩
          dsimp only at hagain ⊢
          generalize left.ensureDirectory ⟨root, (part :: above).reverse⟩ = made at hagain
          generalize left'.ensureDirectory ⟨root, (part :: above).reverse⟩ = made' at hagain
          cases hagain with
          | left hleft => exact ⟨rfl, hleft⟩
          | refused e => exact ⟨rfl, habove⟩
      · exact ⟨rfl, h⟩

theorem ensureDirectories (path : Path) : Respects R fun d => d.ensureDirectories path :=
  hR.ensureParts path.root path.parts.reverse

theorem overwritePath (path : Path) (octets : List UInt8) :
    Respects R fun d => d.overwrite path octets := by
  intro d d' h
  unfold Disk.overwrite
  dsimp only
  rcases hR.openForWriting h path with
    ⟨e, hrefused, hrefused'⟩ | ⟨place, left, left', hopened, hopened', hleft⟩
  · rw [hrefused, hrefused']
    exact ⟨rfl, h⟩
  · rw [hopened, hopened']
    exact hR.flushAt place octets hleft

/-- A program writes the same of its files. -/
theorem writeArguments (argv : List Text) (writes : List (Nat × List UInt8)) :
    Respects R (writeArguments argv writes) := by
  induction writes with
  | nil => exact fun h => ⟨rfl, h⟩
  | cons write writes ih =>
    obtain ⟨index, octets⟩ := write
    intro d d' h
    unfold Disk.writeArguments
    cases argv[index]? with
    | none =>
      obtain ⟨hrest, hleft⟩ := ih h
      exact ⟨congrArg (false && ·) hrest, hleft⟩
    | some argument =>
      obtain ⟨hfirst, hbetween⟩ := hR.overwritePath (Path.ofText argument) octets h
      obtain ⟨hrest, hleft⟩ := ih hbetween
      refine ⟨?_, hleft⟩
      dsimp only at hfirst hrest ⊢
      rw [hfirst, hrest]

/-- A report is written or refused alike. -/
theorem writeReport (report : RunReport) (path : Path) : Respects R (report.write path) := by
  intro d d' h
  unfold RunReport.write
  obtain ⟨hmade, hleft⟩ := hR.ensureDirectories path.parent h
  dsimp only at hmade hleft
  generalize d.ensureDirectories path.parent = made at hmade hleft
  generalize d'.ensureDirectories path.parent = made' at hmade hleft
  obtain ⟨outcome, left⟩ := made
  obtain ⟨outcome', left'⟩ := made'
  obtain rfl : outcome = outcome' := hmade
  cases outcome with
  | error e => exact ⟨rfl, hleft⟩
  | ok _ =>
    dsimp only at hleft ⊢
    rcases hR.openForWriting hleft path with
      ⟨e, hrefused, hrefused'⟩ | ⟨place, disk, disk', hopened, hopened', hdisk⟩
    · rw [hrefused, hrefused']
      exact ⟨rfl, hleft⟩
    · rw [hopened, hopened']
      dsimp only
      cases Text.Utf8.encode report.document.write with
      | error e => exact ⟨rfl, hdisk⟩
      | ok octets =>
        obtain ⟨htaken, hwritten⟩ := hR.flushAt place octets hdisk
        dsimp only at htaken hwritten ⊢
        rw [htaken]
        exact ⟨rfl, hwritten⟩

end IsLikeness

end Disk

end Diagnostics
