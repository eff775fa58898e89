import Diagnostics.Proofs.Disk.Staging

/-!
# Look-ups that end at nothing

A look-up that ends at nothing ends at a free place in a directory; and when a directory is made
there, or a file, the same look-up ends at it, and takes the same steps before
(`resolve_graft_of_vacant`). If others are at work, it ends there still or at what they have put
there (`resolve_of_vacant`). Whether it follows a link at its end makes no difference to that, since there
is no link at its end, and what is asked for the sake of a file that is to be created only adds
refusals.
-/

set_option autoImplicit false

namespace Diagnostics

open Disk

/-! ## Whether a link at the end is followed -/

section

variable {top top' : Node} {intent : Intent} {directory place : Location}
  {entries : List (FileName × Node)} {name : FileName} {names : List FileName}

/-- It makes no difference, unless the walk ends at a link. -/
theorem advance_intent (names : List FileName) : ∀ directory : Location,
    advance top ⟨false, false⟩ directory names = advance top ⟨true, false⟩ directory names ∨
      (∃ place, advance top ⟨false, false⟩ directory names = .ok (.arrived (.found place))) ∧
        ∃ d target rest,
          advance top ⟨true, false⟩ directory names = .ok (.crossing d target rest) := by
  induction names with
  | nil => exact fun _ => Or.inl rfl
  | cons name rest ih =>
    intro directory
    rw [advance_cons, advance_cons]
    dsimp only
    cases turn false name rest with
    | stay => exact ih directory
    | up => exact ih directory.dropLast
    | refused e => exact Or.inl rfl
    | look =>
      dsimp only
      rcases top.at? (directory ++ [name]) with _ | (_ | _ | target | _)
      case some.directory => exact ih _
      case some.link =>
        dsimp only
        rw [if_neg fun h : rest = [] ∧ ¬ (true : Bool) = true => h.2 rfl]
        -- A link at the very end is arrived at, or crossed; any other is crossed in both ways.
        by_cases hrest : rest = []
        · rw [if_pos ⟨hrest, Bool.false_ne_true⟩]
          exact Or.inr ⟨⟨_, rfl⟩, _, _, _, rfl⟩
        · rw [if_neg fun h => hrest h.1]
          exact Or.inl rfl
      all_goals exact Or.inl rfl

theorem resolve_intent : ∀ (links : Nat) (directory : Location) (names : List FileName),
    resolve top ⟨false, false⟩ links directory names =
        resolve top ⟨true, false⟩ links directory names ∨
      ∃ place, resolve top ⟨false, false⟩ links directory names = .ok (.found place) := by
  intro links
  induction links with
  | zero =>
    intro directory names
    unfold resolve
    rcases @advance_intent top names directory with heq | ⟨⟨place, hfound⟩, -⟩
    · rw [heq]
      exact Or.inl rfl
    · rw [hfound]
      exact Or.inr ⟨place, rfl⟩
  | succ links ih =>
    intro directory names
    unfold resolve
    rcases @advance_intent top names directory with heq | ⟨⟨place, hfound⟩, -⟩
    · rw [heq]
      cases advance top ⟨true, false⟩ directory names with
      | error e => exact Or.inl rfl
      | ok progress =>
        cases progress with
        | arrived arrival => exact Or.inl rfl
        | crossing d target rest => exact ih _ _
    · rw [hfound]
      exact Or.inr ⟨place, rfl⟩

/-! ## Whether a file is to be created -/

/-- That only adds refusals. -/
theorem advance_create (names : List FileName) : ∀ {directory : Location} {progress : Progress},
    advance top ⟨true, true⟩ directory names = .ok progress →
      advance top ⟨true, false⟩ directory names = .ok progress := by
  induction names with
  | nil => exact fun h => h
  | cons name rest ih =>
    intro directory progress hadvance
    rw [advance_cons] at hadvance ⊢
    dsimp only at hadvance ⊢
    -- The turn is the same, or it is a refusal.
    have hturn : turn true name rest = turn false name rest ∨
        ∃ e, turn true name rest = .refused e := by
      unfold turn
      split
      · exact Or.inl rfl
      · split
        · exact Or.inl rfl
        · rw [if_neg fun h : (false : Bool) = true ∧ _ => Bool.false_ne_true h.1]
          split
          · exact Or.inr ⟨_, rfl⟩
          · exact Or.inl rfl
    rcases hturn with hturn | ⟨e, hturn⟩
    · rw [hturn] at hadvance
      cases hfalse : turn false name rest with
      | refused e =>
        rw [hfalse] at hadvance
        cases hadvance
      | stay =>
        rw [hfalse] at hadvance
        exact ih hadvance
      | up =>
        rw [hfalse] at hadvance
        exact ih hadvance
      | look =>
        rw [hfalse] at hadvance
        dsimp only at hadvance ⊢
        rcases hat : top.at? (directory ++ [name]) with _ | (_ | _ | _ | _)
        all_goals rw [hat] at hadvance
        case some.directory => exact ih hadvance
        all_goals exact hadvance
    · rw [hturn] at hadvance
      cases hadvance

theorem resolve_create {links : Nat} {arrival : Arrival}
    (h : resolve top ⟨true, true⟩ links directory names = .ok arrival) :
    resolve top ⟨true, false⟩ links directory names = .ok arrival := by
  refine resolve_ok_induction
    (P := fun links directory names =>
      resolve top ⟨true, false⟩ links directory names = .ok arrival)
    (fun links directory names hadvance => resolve_of_arrived (advance_create names hadvance))
    (fun links directory names d target rest hadvance ih => ?_) h
  rw [resolve_of_crossing (advance_create names hadvance)]
  exact ih

/-! ## Where a look-up ends at nothing -/

def Node.IsDirectoryAt (top : Node) (place : Location) : Prop :=
  ∃ entries, top.at? place = some (.directory entries)

/-- A place is free: nothing of its name is in the directory that it is to be in. -/
def Node.IsFree (top : Node) (place : Location) : Prop :=
  ∃ directory name entries, place = directory ++ [name] ∧
    top.at? directory = some (.directory entries) ∧ Node.entry? name entries = none

/-- What stands at a directory is in directories up to the top. -/
theorem Node.IsDirectoryAt.nil (h : top.IsDirectoryAt directory) : top.IsDirectoryAt [] := by
  obtain ⟨entries, hat⟩ := h
  cases directory with
  | nil => exact ⟨entries, hat⟩
  | cons name rest =>
    obtain ⟨others, child, rfl, -, -⟩ := Node.exists_of_at?_cons hat
    exact ⟨others, Node.at?_nil _⟩

theorem Node.IsDirectoryAt.at?_ne_none (h : top.IsDirectoryAt place) : top.at? place ≠ none := by
  obtain ⟨entries, hat⟩ := h
  rw [hat]
  exact Option.some_ne_none _

theorem Node.IsDirectoryAt.writtenStart (h : top.IsDirectoryAt directory) (target : List UInt8) :
    top.IsDirectoryAt (writtenStart directory target) := by
  unfold Diagnostics.writtenStart
  split
  · exact h.nil
  · exact h

/-- A name that is not in its directory is a free place. -/
theorem Node.IsDirectoryAt.isFree (h : top.IsDirectoryAt directory)
    (hat : top.at? (directory ++ [name]) = none) : top.IsFree (directory ++ [name]) := by
  obtain ⟨entries, hentries⟩ := h
  refine ⟨directory, name, entries, rfl, hentries, ?_⟩
  rw [Node.at?_append, hentries, Option.bind_some, Node.at?_cons] at hat
  cases hentry : Node.entry? name entries with
  | none => rfl
  | some child =>
    rw [hentry, Option.bind_some, Node.at?_nil] at hat
    cases hat

/-- Where a walk from a directory can get: to a free place, or before a link in a directory. -/
theorem advance_stands : ∀ {directory : Location} {progress : Progress},
    top.IsDirectoryAt directory → advance top intent directory names = .ok progress →
      (∀ place, progress = .arrived (.vacant place) → top.IsFree place) ∧
        ∀ d target rest, progress = .crossing d target rest → top.IsDirectoryAt d := by
  induction names with
  | nil =>
    intro directory progress _ hadvance
    cases hadvance
    exact ⟨(fun _ h => by cases h), fun _ _ _ h => by cases h⟩
  | cons name rest ih =>
    intro directory progress hdirectory hadvance
    rw [advance_cons] at hadvance
    cases hturn : turn intent.create name rest with
    | refused e =>
      rw [hturn] at hadvance
      cases hadvance
    | stay =>
      rw [hturn] at hadvance
      exact ih hdirectory hadvance
    | up =>
      rw [hturn] at hadvance
      obtain ⟨entries, hat⟩ := hdirectory
      exact ih (exists_at?_dropLast hat) hadvance
    | look =>
      rw [hturn] at hadvance
      dsimp only at hadvance
      rcases hat : top.at? (directory ++ [name]) with _ | (_ | _ | _ | entries)
      all_goals rw [hat] at hadvance
      case some.directory => exact ih ⟨entries, hat⟩ hadvance
      case none =>
        dsimp only at hadvance
        split at hadvance
        · cases hadvance
          refine ⟨fun place h => ?_, fun _ _ _ h => by cases h⟩
          cases h
          exact hdirectory.isFree hat
        · cases hadvance
      case some.link =>
        dsimp only at hadvance
        split at hadvance
        · cases hadvance
          exact ⟨(fun _ h => by cases h), fun _ _ _ h => by cases h⟩
        · cases hadvance
          refine ⟨(fun _ h => by cases h), fun _ _ _ h => ?_⟩
          cases h
          exact hdirectory
      all_goals
        dsimp only at hadvance
        split at hadvance
        · cases hadvance
          exact ⟨(fun _ h => by cases h), fun _ _ _ h => by cases h⟩
        · cases hadvance

theorem isFree_of_resolve {links : Nat} (hdirectory : top.IsDirectoryAt directory)
    (h : resolve top intent links directory names = .ok (.vacant place)) : top.IsFree place := by
  refine resolve_ok_induction (P := fun _ directory _ => top.IsDirectoryAt directory → top.IsFree place)
    (fun links directory names hadvance hdirectory => ?_)
    (fun links directory names d target rest hadvance ih hdirectory => ?_) h hdirectory
  · exact (advance_stands hdirectory hadvance).1 place rfl
  · exact ih (((advance_stands hdirectory hadvance).2 d target rest rfl).writtenStart target)

/-! ## A new directory -/

/-- Nothing stands at a free place or below it. -/
theorem Node.IsFree.at?_append (hfree : top.IsFree place) (rest : Location) :
    top.at? (place ++ rest) = none := by
  obtain ⟨directory, name, entries, rfl, hat, hnone⟩ := hfree
  rw [List.append_assoc, Node.at?_append, hat, Option.bind_some, List.singleton_append,
    Node.at?_cons, hnone]
  rfl

/-- Elsewhere than at a free place and below it, the same is seen after a node was put there. -/
theorem view_of_not_below {node : Node} (hfree : top.IsFree place) {seen : Location}
    (hseen : ¬ place <+: seen) : (Node.graft node top place).view seen = top.view seen := by
  obtain ⟨directory, name, entries, rfl, hat, -⟩ := hfree
  exact Node.view_graft_child hat node hseen

/-- Where something stood, the same is seen after a node was put at a free place. -/
theorem view_of_isFree {node : Node} (hfree : top.IsFree place) {seen : Location}
    (hseen : top.at? seen ≠ none) : (Node.graft node top place).view seen = top.view seen := by
  refine view_of_not_below hfree ?_
  rintro ⟨rest, rfl⟩
  exact hseen (hfree.at?_append rest)

/-- At a free place, and below it, stands what was put there. -/
theorem at?_append_of_isFree {node : Node} (hfree : top.IsFree place) (rest : Location) :
    (Node.graft node top place).at? (place ++ rest) = node.at? rest := by
  obtain ⟨directory, name, entries, rfl, hat, -⟩ := hfree
  exact Node.at?_graft_child hat node name rest

theorem at?_of_isFree {node : Node} (hfree : top.IsFree place) :
    (Node.graft node top place).at? place = some node := by
  have hself := @at?_append_of_isFree top place node hfree []
  rwa [List.append_nil, Node.at?_nil] at hself

theorem isDirectoryAt_of_outline (h : top.IsDirectoryAt place)
    (houtline : top'.outlineAt place = top.outlineAt place) : top'.IsDirectoryAt place := by
  obtain ⟨entries, hat⟩ := h
  unfold Node.outlineAt at houtline
  rw [hat, Option.map_some] at houtline
  obtain ⟨node, hnode, houtline⟩ := Option.map_eq_some_iff.mp houtline
  cases node with
  | directory others => exact ⟨others, hnode⟩
  | _ => cases houtline

theorem isDirectoryAt_of_view (h : top.IsDirectoryAt place)
    (hview : top'.view place = top.view place) : top'.IsDirectoryAt place :=
  isDirectoryAt_of_outline h (Node.outlineAt_eq_of_view hview)

/-- The arrival at a place at which there is no link. -/
def arrivalAt (top : Node) (place : Location) : Arrival :=
  match top.at? place with
  | none => .vacant place
  | some _ => .found place

theorem arrivalAt_of_some {node : Node} (h : top.at? place = some node) :
    arrivalAt top place = .found place := by
  unfold arrivalAt
  rw [h]

/-- A walk that ended at nothing ends at the same place, whether something has been put there or
not, if that is no link. -/
theorem advance_of_vacant
    (hkept : ∀ seen, top.at? seen ≠ none → top'.outlineAt seen = top.outlineAt seen)
    (hlink : ∀ target, top'.at? place ≠ some (.link target)) :
    ∀ {directory : Location},
      advance top intent directory names = .ok (.arrived (.vacant place)) →
        advance top' intent directory names = .ok (.arrived (arrivalAt top' place)) := by
  induction names with
  | nil =>
    intro directory hadvance
    cases hadvance
  | cons name rest ih =>
    intro directory hadvance
    rw [advance_cons] at hadvance ⊢
    cases hturn : turn intent.create name rest with
    | refused e =>
      rw [hturn] at hadvance
      cases hadvance
    | stay =>
      rw [hturn] at hadvance
      exact ih hadvance
    | up =>
      rw [hturn] at hadvance
      exact ih hadvance
    | look =>
      rw [hturn] at hadvance
      dsimp only at hadvance ⊢
      rcases hat : top.at? (directory ++ [name]) with _ | (_ | _ | _ | entries)
      all_goals rw [hat] at hadvance
      -- Here the walk ended, and now it ends at what was put here.
      case none =>
        dsimp only at hadvance
        split at hadvance
        · rename_i hrest
          cases hadvance
          unfold arrivalAt
          rw [hrest]
          rcases hnew : top'.at? (directory ++ [name]) with _ | (_ | _ | target | _)
          case some.link => exact absurd hnew (hlink target)
          all_goals rfl
        · cases hadvance
      case some.directory =>
        have hthere : top.IsDirectoryAt (directory ++ [name]) := ⟨entries, hat⟩
        obtain ⟨others, hothers⟩ :=
          isDirectoryAt_of_outline hthere (hkept _ hthere.at?_ne_none)
        rw [hothers]
        exact ih hadvance
      all_goals
        dsimp only at hadvance
        split at hadvance <;> cases hadvance

theorem resolve_of_vacant {links : Nat}
    (hkept : ∀ seen, top.at? seen ≠ none → top'.outlineAt seen = top.outlineAt seen)
    (hlink : ∀ target, top'.at? place ≠ some (.link target))
    (h : resolve top intent links directory names = .ok (.vacant place)) :
    resolve top' intent links directory names = .ok (arrivalAt top' place) := by
  refine resolve_ok_induction
    (P := fun links directory names =>
      resolve top' intent links directory names = .ok (arrivalAt top' place))
    (fun links directory names hadvance =>
      resolve_of_arrived (advance_of_vacant hkept hlink hadvance))
    (fun links directory names d target rest hadvance ih => ?_) h
  have hsame : advance top' intent directory names = .ok (.crossing d target rest) := by
    rw [advance_congr intent names directory fun seen hseen =>
      hkept seen (at?_ne_none_of_advance hadvance trivial seen hseen)]
    exact hadvance
  rw [resolve_of_crossing hsame]
  exact ih

/-- A look-up that ended at a free place ends at what was put there. -/
theorem resolve_graft_of_vacant {links : Nat} {node : Node} (hfree : top.IsFree place)
    (hlink : node.isLink = false)
    (h : resolve top intent links directory names = .ok (.vacant place)) :
    resolve (Node.graft node top place) intent links directory names = .ok (.found place) := by
  have hat : (Node.graft node top place).at? place = some node := at?_of_isFree hfree
  rw [← arrivalAt_of_some hat]
  refine resolve_of_vacant (fun seen hseen => Node.outlineAt_eq_of_view
    (view_of_isFree hfree hseen)) (fun target htarget => ?_) h
  rw [hat] at htarget
  cases Option.some.inj htarget
  cases hlink

end

end Diagnostics
