import Diagnostics.Proofs.Catalog.Accepted
import Diagnostics.Proofs.Disk.Lookup
import Diagnostics.Proofs.Text.Names

/-!
# Looking up an artifact

An artifact is looked up by finding the staging directory and looking up one name there
(`locate_child`), on whatever way the directory is reached, be it through links, through its own
parent or from the top. What is refused before that is refused because of the path itself, and so on
every disk (`locate_child_cases`).

The look-up goes by octets. A path ends with the name of its entry, and the octets of a name hold no
slash, so they are the last of the names that the octets of the path spell.
-/

set_option autoImplicit false

namespace Diagnostics

open Disk

/-! ## The path of an artifact -/

theorem IsBareName.forall_not_slash {output : Text} (h : IsBareName output) :
    ∀ c ∈ output, Text.isSlash c = false := by
  obtain ⟨hblank, hname⟩ := h
  have hne : output ≠ [] := by
    rintro rfl
    exact absurd hblank (by decide)
  unfold Path.name Path.ofText at hname
  cases hlast : ((Text.splitAtEach Text.isSlash output).filter Path.isPart).getLast? with
  | none =>
    rw [hlast] at hname
    exact absurd hname.symm hne
  | some part =>
    rw [hlast] at hname
    obtain rfl : part = output := hname
    exact Text.forall_of_mem_splitAtEach part (List.mem_filter.mp (List.mem_of_getLast? hlast)).1

/-- An artifact is an entry of the directory it is in. -/
theorem IsBareName.join_eq_child {output : Text} (h : IsBareName output) (staging : Path) :
    staging.join output = staging.child output := by
  have hsplit : Text.splitAtEach Text.isSlash output = [output] :=
    Text.splitAtEach_of_forall h.forall_not_slash
  have hroot : Root.ofText output = .relative := by
    unfold Root.ofText
    cases houtput : output with
    | nil => rfl
    | cons c cs =>
      have hc : Text.isSlash c = false :=
        h.forall_not_slash c (houtput ▸ List.mem_cons_self)
      simp [List.takeWhile, hc]
  have hparts : (Path.ofText output).parts = [output] := by
    have hname := h.2
    unfold Path.name at hname
    show (Text.splitAtEach Text.isSlash output).filter Path.isPart = _
    have hofText : (Path.ofText output).parts =
        (Text.splitAtEach Text.isSlash output).filter Path.isPart := rfl
    rw [hofText, hsplit] at hname
    rw [hsplit]
    cases hpart : Path.isPart output with
    | true => simp [hpart]
    | false =>
      have hempty : [output].filter Path.isPart = [] := by simp [hpart]
      rw [hempty] at hname
      exact absurd h.1 (by rw [← hname]; decide)
  unfold Path.join Path.child
  dsimp only
  rw [if_pos (show (Path.ofText output).root = .relative from hroot), hparts]

/-- Artifacts of two names are at two paths. -/
theorem IsBareName.eq_of_join_eq {output other : Text} (h : IsBareName output)
    (hother : IsBareName other) {staging : Path} (heq : staging.join output = staging.join other) :
    output = other := by
  rw [h.join_eq_child, hother.join_eq_child] at heq
  have hparts : staging.parts ++ [output] = staging.parts ++ [other] := congrArg Path.parts heq
  exact List.singleton_inj.mp (List.append_cancel_left hparts)

/-- A text that can be one of the names of a path. -/
def IsOneName (s : Text) : Prop :=
  s ≠ [] ∧ ∀ c ∈ s, Text.isSlash c = false

theorem IsBareName.isOneName {output : Text} (h : IsBareName output) : IsOneName output := by
  refine ⟨?_, h.forall_not_slash⟩
  rintro rfl
  exact absurd h.1 (by decide)

/-- The octets of a name have no slash either, and there are some. -/
theorem IsOneName.octets {s : Text} {name : FileName} (h : IsOneName s)
    (hname : Text.Utf8.encodeName s = .ok name) : name ≠ [] ∧ (0x2F : UInt8) ∉ name := by
  obtain ⟨-, rfl⟩ := Text.Utf8.encodeName_eq_ok_iff.mp hname
  constructor
  · obtain ⟨c, cs, rfl⟩ := List.exists_cons_of_ne_nil h.1
    rw [List.flatMap_cons]
    exact List.append_ne_nil_of_left_ne_nil (Text.Utf8.nameOctetsOf_ne_nil c) _
  · intro hslash
    obtain ⟨c, hc, hmem⟩ := List.mem_flatMap.mp hslash
    refine Text.Utf8.slash_not_mem_nameOctetsOf ?_ hmem
    rintro rfl
    exact absurd (h.2 _ hc) (by decide)

/-! ## Looking up the name of an artifact -/

section

variable {top : Node} {directory home : Location} {name : FileName} {names : List FileName}

/-- Before a name that is not empty, no name stands at the end. -/
theorem turn_append (create : Bool) (hname : name ≠ []) (other : FileName) (rest : List FileName) :
    turn create other (rest ++ [name]) = turn false other rest := by
  have hend : ¬ (create ∧ rest ++ [name] ≠ [] ∧ (rest ++ [name]).all List.isEmpty) := by
    rintro ⟨-, -, hall⟩
    rw [List.all_append, Bool.and_eq_true] at hall
    simp [hname] at hall
  unfold turn
  rw [if_neg hend, if_neg fun h : (false : Bool) = true ∧ _ => Bool.false_ne_true h.1]

/-- How a look-up for the directory goes on with one more name. -/
theorem advance_append (intent : Intent) (hname : name ≠ []) {entries : List (FileName × Node)}
    (hhome : top.at? home = some (.directory entries)) :
    ∀ {directory : Location} {progress : Progress},
      advance top ⟨true, false⟩ directory names = .ok progress →
      (progress = .arrived (.found home) →
        advance top intent directory (names ++ [name]) = advance top intent home [name]) ∧
      (∀ d target rest, progress = .crossing d target rest →
        advance top intent directory (names ++ [name]) =
          .ok (.crossing d target (rest ++ [name]))) := by
  induction names with
  | nil =>
    intro directory progress hadvance
    cases hadvance
    refine ⟨fun hfound => ?_, fun _ _ _ hcrossing => by cases hcrossing⟩
    cases hfound
    rfl
  | cons other rest ih =>
    intro directory progress hadvance
    rw [List.cons_append, advance_cons, turn_append intent.create hname]
    rw [advance_cons] at hadvance
    dsimp only at hadvance
    cases hturn : turn false other rest with
    | refused e =>
      rw [hturn] at hadvance
      cases hadvance
    | stay =>
      rw [hturn] at hadvance
      exact ih hadvance
    | up =>
      rw [hturn] at hadvance
      exact ih hadvance
    | look =>
      rw [hturn] at hadvance
      dsimp only at hadvance ⊢
      rcases hat : top.at? (directory ++ [other]) with _ | (_ | _ | _ | _)
      all_goals rw [hat] at hadvance
      case some.directory => exact ih hadvance
      case none =>
        dsimp only at hadvance
        split at hadvance
        · cases hadvance
          exact ⟨(fun hfound => by cases hfound), fun _ _ _ hcrossing => by cases hcrossing⟩
        · cases hadvance
      -- With one more name behind it, a link is not at the end and is crossed as well.
      case some.link =>
        dsimp only at hadvance ⊢
        rw [if_neg fun h => h.2 rfl] at hadvance
        rw [if_neg fun h => List.append_ne_nil_of_right_ne_nil rest (List.cons_ne_nil name []) h.1]
        cases hadvance
        refine ⟨(fun hfound => by cases hfound), fun _ _ _ hcrossing => ?_⟩
        cases hcrossing
        rfl
      all_goals
        dsimp only at hadvance
        split at hadvance
        · cases hadvance
          refine ⟨fun hfound => ?_, fun _ _ _ hcrossing => by cases hcrossing⟩
          cases hfound
          rw [hhome] at hat
          cases hat
        · cases hadvance

/-- A look-up that finds a directory goes on from there with one more name. -/
theorem resolve_append (intent : Intent) (hname : name ≠ []) {entries : List (FileName × Node)}
    (hhome : top.at? home = some (.directory entries)) {links : Nat}
    (h : resolve top ⟨true, false⟩ links directory names = .ok (.found home)) :
    ∃ left, resolve top intent links directory (names ++ [name]) =
      resolve top intent left home [name] := by
  refine resolve_ok_induction
    (P := fun links directory names => ∃ left,
      resolve top intent links directory (names ++ [name]) = resolve top intent left home [name])
    (fun links directory names hadvance => ?_)
    (fun links directory names d target rest hadvance ih => ?_) h
  · refine ⟨links, ?_⟩
    rw [resolve, resolve, (advance_append intent hname hhome hadvance).1 rfl]
  · obtain ⟨left, hleft⟩ := ih
    refine ⟨left, ?_⟩
    rw [resolve_of_crossing ((advance_append intent hname hhome hadvance).2 d target rest rfl),
      ← List.append_assoc, hleft]

end

/-! ## From the path to the names -/

/-- The octets that a path reaches the disk as are those of a name, without a zero. -/
theorem Disk.pathOctets_eq_ok_iff {written : Text} {octets : List UInt8} :
    pathOctets written = .ok octets ↔
      Text.Utf8.encodeName written = .ok octets ∧ octets.contains 0 = false := by
  unfold pathOctets
  cases Text.Utf8.encodeName written with
  | error e => simp
  | ok others =>
    dsimp only
    split
    · rename_i hzero
      constructor
      · exact fun h => nomatch h
      · rintro ⟨hothers, hnone⟩
        rw [Except.ok.inj hothers, hnone] at hzero
        cases hzero
    · rename_i hzero
      constructor
      · intro h
        obtain rfl := Except.ok.inj h
        exact ⟨rfl, Bool.eq_false_iff.mpr hzero⟩
      · rintro ⟨hothers, -⟩
        rw [Except.ok.inj hothers]

/-- A path leads somewhere if it has octets, not too many, and looking them up does. -/
theorem Disk.locate_eq_ok_iff {disk : Disk} {intent : Intent} {path : Path} {arrival : Arrival} :
    disk.locate intent path = .ok arrival ↔
      ∃ octets, pathOctets path.text = .ok octets ∧ octets ≠ [] ∧ octets.length < pathLimit ∧
        resolve disk.top intent linkLimit (writtenStart disk.workingDirectory octets)
          (writtenNames octets) = .ok arrival := by
  unfold locate locateText
  cases pathOctets path.text with
  | error e => simp
  | ok octets =>
    dsimp only
    constructor
    · intro h
      refine ⟨octets, rfl, ?_⟩
      split at h
      · cases h
      · split at h
        · cases h
        · refine ⟨‹_›, by omega, ?_⟩
          split at h
          · rename_i hresolve
            rw [hresolve, Except.ok.inj h]
          · cases h
    · rintro ⟨_, heq, hne, hshort, hresolve⟩
      obtain rfl := Except.ok.inj heq
      rw [if_neg hne, if_neg (by omega), hresolve]

theorem IsOneName.writtenNames {s : Text} {name : FileName} (h : IsOneName s)
    (hname : Text.Utf8.encodeName s = .ok name) : writtenNames name = [name] :=
  Text.splitAtEach_of_forall fun _ hb =>
    decide_eq_false fun hslash => (h.octets hname).2 (hslash ▸ hb)

/-- The path of an entry ends with its name. -/
theorem Path.exists_child_text (above : Path) (part : Text) :
    ∃ front, (above.child part).text = front ++ part := by
  unfold Path.text Path.child
  rw [if_neg (by simp)]
  by_cases hparts : above.parts = []
  · refine ⟨above.root.text, ?_⟩
    rw [hparts]
    simp [Text.join]
  · refine ⟨above.root.text ++ Text.join "/" above.parts ++ "/", ?_⟩
    rw [Text.join_append_singleton _ _ hparts, List.append_assoc, List.append_assoc,
      List.append_assoc]

/-- An entry of the working directory or of the top, each of which is spelled in its own way. -/
theorem exists_names_child_root {disk : Disk} {root : Root} {output : Text} {home : Location}
    {octets : List UInt8} (hone : IsOneName output)
    (hlocate : disk.locate ⟨true, false⟩ ⟨root, []⟩ = .ok (.found home))
    (hoctets : Text.Utf8.encodeName (root.text ++ output) = .ok octets) :
    ∃ name names, Text.Utf8.encodeName output = .ok name ∧ writtenNames octets = names ++ [name] ∧
      resolve disk.top ⟨true, false⟩ linkLimit (writtenStart disk.workingDirectory octets) names =
        .ok (.found home) := by
  obtain ⟨written, hpath, -, -, hresolve⟩ := locate_eq_ok_iff.mp hlocate
  have hwritten := (pathOctets_eq_ok_iff.mp hpath).1
  obtain ⟨x, name, hx, hname, rfl⟩ := Text.Utf8.encodeName_append hoctets
  refine ⟨name, ?_⟩
  cases root with
  | relative =>
    obtain rfl : [] = x := Except.ok.inj hx
    obtain rfl : [0x2E] = written := Except.ok.inj hwritten
    refine ⟨[], hname, hone.writtenNames hname, ?_⟩
    have hstart : writtenStart disk.workingDirectory ([] ++ name) = disk.workingDirectory := by
      refine if_neg fun hhead => (hone.octets hname).2 ?_
      exact List.mem_of_head? hhead
    rw [hstart]
    exact hresolve
  | slash =>
    obtain rfl : [0x2F] = x := Except.ok.inj hx
    obtain rfl : [0x2F] = written := Except.ok.inj hwritten
    refine ⟨[[]], hname, ?_, hresolve⟩
    show [] :: writtenNames name = _
    rw [hone.writtenNames hname]
    rfl
  | doubleSlash =>
    obtain rfl : [0x2F, 0x2F] = x := Except.ok.inj hx
    obtain rfl : [0x2F, 0x2F] = written := Except.ok.inj hwritten
    refine ⟨[[], []], hname, ?_, hresolve⟩
    show [] :: [] :: writtenNames name = _
    rw [hone.writtenNames hname]
    rfl

/-- The names of an entry: those that lead to the directory, and its own. -/
theorem exists_names_child {disk : Disk} {staging : Path} {output : Text} {home : Location}
    {octets : List UInt8} (hone : IsOneName output)
    (hlocate : disk.locate ⟨true, false⟩ staging = .ok (.found home))
    (hoctets : Text.Utf8.encodeName (staging.child output).text = .ok octets) :
    ∃ name names, Text.Utf8.encodeName output = .ok name ∧ writtenNames octets = names ++ [name] ∧
      resolve disk.top ⟨true, false⟩ linkLimit (writtenStart disk.workingDirectory octets) names =
        .ok (.found home) := by
  have htext : (staging.child output).text =
      staging.root.text ++ Text.join "/" (staging.parts ++ [output]) := by
    unfold Path.text Path.child
    rw [if_neg (by simp)]
  rw [htext] at hoctets
  by_cases hparts : staging.parts = []
  · obtain ⟨root, parts⟩ := staging
    obtain rfl : parts = [] := hparts
    rw [show Text.join "/" ([] ++ [output]) = output by simp [Text.join]] at hoctets
    exact exists_names_child_root hone hlocate hoctets
  · obtain ⟨written, hpath, hne, -, hresolve⟩ := locate_eq_ok_iff.mp hlocate
    have hwritten := (pathOctets_eq_ok_iff.mp hpath).1
    have hstaging : staging.text = staging.root.text ++ Text.join "/" staging.parts := by
      unfold Path.text
      rw [if_neg fun h => hparts h.2]
    rw [Text.join_append_singleton _ _ hparts, ← List.append_assoc, ← List.append_assoc,
      ← hstaging] at hoctets
    -- What is written is the directory, a slash and the name.
    obtain ⟨x, name, hx, hname, rfl⟩ := Text.Utf8.encodeName_append hoctets
    obtain ⟨y, slash, hy, hslash, rfl⟩ := Text.Utf8.encodeName_append hx
    obtain rfl : written = y := Except.ok.inj (hwritten.symm.trans hy)
    obtain rfl : [0x2F] = slash := Except.ok.inj hslash
    refine ⟨name, writtenNames written, hname, ?_, ?_⟩
    · rw [List.append_assoc, List.singleton_append]
      unfold writtenNames
      rw [Text.splitAtEach_append (by decide)]
      exact congrArg _ (hone.writtenNames hname)
    · obtain ⟨b, written, rfl⟩ := List.exists_cons_of_ne_nil hne
      exact hresolve

/-- The path of an entry is refused on every disk, and not for want of a directory, or it is looked
up on every disk. -/
theorem locate_child_cases {part : Text} (hone : IsOneName part) (above : Path) :
    (∃ e, e ≠ refusal .noEntry (above.child part) ∧
      ∀ (intent : Intent) (d : Disk), d.locate intent (above.child part) = .error e) ∨
    ∃ octets name, pathOctets (above.child part).text = .ok octets ∧ octets ≠ [] ∧
      ¬ pathLimit ≤ octets.length ∧ Text.Utf8.encodeName part = .ok name := by
  cases hoctets : pathOctets (above.child part).text with
  | error e =>
    refine Or.inl ⟨e, ?_, fun intent d => ?_⟩
    · rintro rfl
      unfold pathOctets at hoctets
      split at hoctets
      · cases hoctets
      · split at hoctets <;> cases hoctets
    · unfold locate locateText
      rw [hoctets]
  | ok octets =>
    obtain ⟨front, htext⟩ := above.exists_child_text part
    have hencode := (pathOctets_eq_ok_iff.mp hoctets).1
    rw [htext] at hencode
    obtain ⟨x, name, -, hname, rfl⟩ := Text.Utf8.encodeName_append hencode
    have hne : x ++ name ≠ [] := List.append_ne_nil_of_right_ne_nil x (hone.octets hname).1
    by_cases hshort : pathLimit ≤ (x ++ name).length
    · refine Or.inl ⟨refusal .nameTooLong (above.child part), (fun h => by cases h),
        fun intent d => ?_⟩
      unfold locate locateText
      rw [hoctets]
      dsimp only
      rw [if_neg hne, if_pos hshort]
      rfl
    · exact Or.inr ⟨x ++ name, name, rfl, hne, hshort, hname⟩

/-- An entry is looked up by finding the directory and looking up one name there. -/
theorem locate_child {disk : Disk} {above : Path} {part : Text} {home : Location}
    {octets : List UInt8} {name : FileName} {entries : List (FileName × Node)}
    (hone : IsOneName part) (hoctets : pathOctets (above.child part).text = .ok octets)
    (hne : octets ≠ []) (hshort : ¬ pathLimit ≤ octets.length)
    (hname : Text.Utf8.encodeName part = .ok name)
    (hlocate : disk.locate ⟨true, false⟩ above = .ok (.found home))
    (hhome : disk.top.at? home = some (.directory entries)) (intent : Intent) :
    ∃ left, disk.locate intent (above.child part) =
      match resolve disk.top intent left home [name] with
      | .ok arrival => .ok arrival
      | .error e => .error (refusal e (above.child part)) := by
  obtain ⟨other, names, hother, hnames, hresolve⟩ :=
    exists_names_child hone hlocate (pathOctets_eq_ok_iff.mp hoctets).1
  obtain rfl : name = other := Except.ok.inj (hname.symm.trans hother)
  obtain ⟨left, hleft⟩ := resolve_append intent (hone.octets hname).1 hhome hresolve
  refine ⟨left, ?_⟩
  unfold locate locateText
  rw [hoctets]
  dsimp only
  rw [if_neg hne, if_neg hshort, hnames, hleft]
  rfl

end Diagnostics
