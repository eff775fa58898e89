import Diagnostics.Disk.Resolve
import Diagnostics.Proofs.Disk.Graft

/-!
# What a look-up looks at

A walk along names takes one turn for each name, and which turn it is depends on the names alone
(`turn`, `advance_cons`). Whatever is shown of walks is shown turn by turn.

The outcome of a look-up depends on the places that it looks at, and at each of them only on what
kind of thing is there. `resolveLooks` lists these places; two trees in which the same kinds of
things are at all of them give the same outcome. A look-up that has found something has seen
something at every place it looked at, so it never looked into a directory without entries.
-/

set_option autoImplicit false

namespace Diagnostics

variable {top top' : Node} {intent : Intent} {home directory : Location}

/-! ## One name of a walk -/

/-- What a walk does with a name, as far as that is settled before anything is looked up. -/
inductive Turn where
  | stay
  | up
  | refused (e : Errno)
  | look

/-- The turn that a name with others behind it is. Only a file that is to be created cannot be
named like a directory. -/
def turn (create : Bool) (name : FileName) (rest : List FileName) : Turn :=
  if name = [] ∨ name = dot then .stay
  else if name = dotDot then .up
  else if create ∧ rest ≠ [] ∧ rest.all List.isEmpty then .refused .isDirectory
  else if nameLimit < name.length then .refused .nameTooLong
  else .look

theorem eq_of_turn_eq_stay {create : Bool} {name : FileName} {rest : List FileName}
    (h : turn create name rest = .stay) : name = [] ∨ name = dot := by
  unfold turn at h
  split at h
  · assumption
  · split at h
    · cases h
    · split at h
      · cases h
      · split at h <;> cases h

theorem eq_of_turn_eq_up {create : Bool} {name : FileName} {rest : List FileName}
    (h : turn create name rest = .up) : name = dotDot := by
  unfold turn at h
  split at h
  · cases h
  · split at h
    · assumption
    · split at h
      · cases h
      · split at h <;> cases h

theorem eq_of_turn_eq_refused {create : Bool} {name : FileName} {rest : List FileName} {e : Errno}
    (h : turn create name rest = .refused e) : e = .isDirectory ∨ e = .nameTooLong := by
  unfold turn at h
  split at h
  · cases h
  · split at h
    · cases h
    · split at h
      · cases h
        exact Or.inl rfl
      · split at h
        · cases h
          exact Or.inr rfl
        · cases h

/-- A walk takes one turn after another. -/
theorem advance_cons (top : Node) (intent : Intent) (directory : Location) (name : FileName)
    (rest : List FileName) :
    advance top intent directory (name :: rest) =
      match turn intent.create name rest with
      | .stay => advance top intent directory rest
      | .up => advance top intent directory.dropLast rest
      | .refused e => .error e
      | .look =>
        match top.at? (directory ++ [name]) with
        | none =>
          if rest = [] then .ok (.arrived (.vacant (directory ++ [name]))) else .error .noEntry
        | some (.link target) =>
          if rest = [] ∧ ¬ intent.follow then .ok (.arrived (.found (directory ++ [name])))
          else .ok (.crossing directory target rest)
        | some (.directory _) => advance top intent (directory ++ [name]) rest
        | some _ =>
          if rest = [] then .ok (.arrived (.found (directory ++ [name]))) else .error .notDirectory := by
  rw [advance]
  unfold turn
  split
  · rfl
  · split
    · rfl
    · split
      · rfl
      · split <;> rfl

/-- The places that a walk along names looks at. -/
def advanceLooks (top : Node) (intent : Intent) : Location → List FileName → List Location
  | _, [] => []
  | directory, name :: rest =>
    if name = [] ∨ name = dot then advanceLooks top intent directory rest
    else if name = dotDot then advanceLooks top intent directory.dropLast rest
    else if intent.create ∧ rest ≠ [] ∧ rest.all List.isEmpty then []
    else if nameLimit < name.length then []
    else
      (directory ++ [name]) ::
        match top.at? (directory ++ [name]) with
        | some (.directory _) => advanceLooks top intent (directory ++ [name]) rest
        | _ => []

/-- The places that a look-up looks at. -/
def resolveLooks (top : Node) (intent : Intent) :
    (links : Nat) → Location → List FileName → List Location
  | links, directory, names =>
    advanceLooks top intent directory names ++
      match advance top intent directory names with
      | .ok (.crossing directory target rest) =>
        match links with
        | 0 => []
        | links + 1 =>
          resolveLooks top intent links (writtenStart directory target)
            (writtenNames target ++ rest)
      | _ => []

theorem advanceLooks_cons (top : Node) (intent : Intent) (directory : Location) (name : FileName)
    (rest : List FileName) :
    advanceLooks top intent directory (name :: rest) =
      match turn intent.create name rest with
      | .stay => advanceLooks top intent directory rest
      | .up => advanceLooks top intent directory.dropLast rest
      | .refused _ => []
      | .look =>
        (directory ++ [name]) ::
          match top.at? (directory ++ [name]) with
          | some (.directory _) => advanceLooks top intent (directory ++ [name]) rest
          | _ => [] := by
  rw [advanceLooks]
  unfold turn
  split
  · rfl
  · split
    · rfl
    · split
      · rfl
      · split <;> rfl

/-! ## The same is seen -/

/-- A walk depends on the kinds of what it looks at. -/
theorem advance_congr (intent : Intent) (names : List FileName) : ∀ directory : Location,
    (∀ place ∈ advanceLooks top intent directory names,
      top'.outlineAt place = top.outlineAt place) →
      advance top' intent directory names = advance top intent directory names := by
  induction names with
  | nil => exact fun _ _ => rfl
  | cons name rest ih =>
    intro directory hkinds
    rw [advanceLooks_cons] at hkinds
    rw [advance_cons, advance_cons]
    cases hturn : turn intent.create name rest with
    | refused e => rfl
    | stay =>
      rw [hturn] at hkinds
      exact ih directory hkinds
    | up =>
      rw [hturn] at hkinds
      exact ih directory.dropLast hkinds
    | look =>
      rw [hturn] at hkinds
      have hhere := hkinds _ List.mem_cons_self
      have hbelow := fun place hplace => hkinds place (List.mem_cons_of_mem _ hplace)
      unfold Node.outlineAt at hhere
      dsimp only
      -- What stands here is of the same kind in both trees, and a link is the same link.
      rcases hold : top.at? (directory ++ [name]) with _ | (_ | _ | _ | _)
      all_goals
        rcases hnew : top'.at? (directory ++ [name]) with _ | (_ | _ | _ | _)
      all_goals rw [hold, hnew] at hhere
      case some.directory.some.directory =>
        rw [hold] at hbelow
        exact ih (directory ++ [name]) hbelow
      case some.link.some.link =>
        cases hhere
        rfl
      all_goals first | rfl | cases hhere

/-- A look-up depends on the kinds of what it looks at. -/
theorem resolve_congr_outline (intent : Intent) : ∀ (links : Nat) (directory : Location)
    (names : List FileName),
    (∀ place ∈ resolveLooks top intent links directory names,
      top'.outlineAt place = top.outlineAt place) →
      resolve top' intent links directory names = resolve top intent links directory names := by
  intro links
  induction links with
  | zero =>
    intro directory names hkinds
    unfold resolveLooks at hkinds
    unfold resolve
    rw [advance_congr intent names directory fun place hplace =>
      hkinds place (List.mem_append_left _ hplace)]
  | succ links ih =>
    intro directory names hkinds
    unfold resolveLooks at hkinds
    unfold resolve
    rw [advance_congr intent names directory fun place hplace =>
      hkinds place (List.mem_append_left _ hplace)]
    cases hadvance : advance top intent directory names with
    | error e => rfl
    | ok progress =>
      cases progress with
      | arrived arrival => rfl
      | crossing directory target rest =>
        rw [hadvance] at hkinds
        exact ih _ _ fun place hplace => hkinds place (List.mem_append_right _ hplace)

/-- A look-up depends on what is seen where it looks. -/
theorem resolve_congr (intent : Intent) (links : Nat) (directory : Location)
    (names : List FileName)
    (hview : ∀ place ∈ resolveLooks top intent links directory names,
      top'.view place = top.view place) :
    resolve top' intent links directory names = resolve top intent links directory names :=
  resolve_congr_outline intent links directory names fun place hplace =>
    Node.outlineAt_eq_of_view (hview place hplace)

/-- Other entries of a directory do not matter to a look-up that does not look below it. -/
theorem resolve_withEntries {old entries : List (FileName × Node)} {links : Nat}
    {names : List FileName} (hhome : top.at? home = some (.directory old))
    (hlooks : ∀ place ∈ resolveLooks top intent links directory names, ¬ Node.Below home place) :
    resolve (top.withEntries home entries) intent links directory names =
      resolve top intent links directory names :=
  resolve_congr intent links directory names fun place hplace =>
    Node.view_withEntries hhome (hlooks place hplace)

/-- A look-up that arrives somewhere does so without a link, or crosses a link and arrives there
from behind it. -/
theorem resolve_ok_cases {links : Nat} {names : List FileName} {arrival : Arrival}
    (h : resolve top intent links directory names = .ok arrival) :
    advance top intent directory names = .ok (.arrived arrival) ∨
      ∃ left d target rest, links = left + 1 ∧
        advance top intent directory names = .ok (.crossing d target rest) ∧
        resolve top intent left (writtenStart d target) (writtenNames target ++ rest) =
          .ok arrival := by
  unfold resolve at h
  cases hadvance : advance top intent directory names with
  | error e =>
    rw [hadvance] at h
    cases h
  | ok progress =>
    rw [hadvance] at h
    cases progress with
    | arrived other =>
      cases h
      exact Or.inl rfl
    | crossing d target rest =>
      cases links with
      | zero => cases h
      | succ left => exact Or.inr ⟨left, d, target, rest, rfl, rfl, h⟩

/-- What holds of a look-up that arrives can be shown from its end back to its beginning. -/
theorem resolve_ok_induction {arrival : Arrival} {P : Nat → Location → List FileName → Prop}
    (arrived : ∀ links directory names,
      advance top intent directory names = .ok (.arrived arrival) → P links directory names)
    (crossing : ∀ links directory names d target rest,
      advance top intent directory names = .ok (.crossing d target rest) →
        P links (writtenStart d target) (writtenNames target ++ rest) →
          P (links + 1) directory names) :
    ∀ {links : Nat} {directory : Location} {names : List FileName},
      resolve top intent links directory names = .ok arrival → P links directory names := by
  intro links
  induction links with
  | zero =>
    intro directory names hresolve
    rcases resolve_ok_cases hresolve with hadvance | ⟨left, d, target, rest, hlinks, -, -⟩
    · exact arrived 0 directory names hadvance
    · cases hlinks
  | succ links ih =>
    intro directory names hresolve
    rcases resolve_ok_cases hresolve with hadvance | ⟨_, d, target, rest, ⟨⟩, hadvance, hbehind⟩
    · exact arrived (links + 1) directory names hadvance
    · exact crossing links directory names d target rest hadvance (ih hbehind)

theorem resolve_of_arrived {links : Nat} {names : List FileName} {arrival : Arrival}
    (h : advance top intent directory names = .ok (.arrived arrival)) :
    resolve top intent links directory names = .ok arrival := by
  unfold resolve
  rw [h]

theorem resolve_of_crossing {links : Nat} {names rest : List FileName} {d : Location}
    {target : List UInt8} (h : advance top intent directory names = .ok (.crossing d target rest)) :
    resolve top intent (links + 1) directory names =
      resolve top intent links (writtenStart d target) (writtenNames target ++ rest) := by
  rw [resolve, h]

/-! ## Something is seen -/

/-- Whether a walk has not failed: it has found something, or stands before a link. -/
def Progress.IsSighted : Progress → Prop
  | .arrived (.found _) => True
  | .arrived (.vacant _) => False
  | .crossing _ _ _ => True

theorem at?_ne_none_of_advance {names : List FileName} :
    ∀ {directory : Location} {progress : Progress},
      advance top intent directory names = .ok progress → progress.IsSighted →
        ∀ place ∈ advanceLooks top intent directory names, top.at? place ≠ none := by
  induction names with
  | nil => exact fun _ _ place hplace => absurd hplace List.not_mem_nil
  | cons name rest ih =>
    intro directory progress hadvance hsighted place hplace
    rw [advance_cons] at hadvance
    rw [advanceLooks_cons] at hplace
    cases hturn : turn intent.create name rest with
    | refused e =>
      rw [hturn] at hadvance
      cases hadvance
    | stay =>
      rw [hturn] at hadvance hplace
      exact ih hadvance hsighted place hplace
    | up =>
      rw [hturn] at hadvance hplace
      exact ih hadvance hsighted place hplace
    | look =>
      rw [hturn] at hadvance hplace
      dsimp only at hadvance hplace
      rcases hat : top.at? (directory ++ [name]) with _ | (_ | _ | _ | _)
      all_goals rw [hat] at hadvance hplace
      -- Where nothing stands a walk ends at nothing or fails, and neither is sighted.
      case none =>
        dsimp only at hadvance
        split at hadvance
        · cases hadvance
          exact hsighted.elim
        · cases hadvance
      case some.directory =>
        rcases List.mem_cons.mp hplace with rfl | hplace
        · rw [hat]
          exact Option.some_ne_none _
        · exact ih hadvance hsighted place hplace
      all_goals
        obtain rfl := List.mem_singleton.mp hplace
        rw [hat]
        exact Option.some_ne_none _

/-- A look-up that finds something has seen something wherever it looked. -/
theorem at?_ne_none_of_resolve {found : Location} {links : Nat} {names : List FileName}
    (h : resolve top intent links directory names = .ok (.found found)) :
    ∀ place ∈ resolveLooks top intent links directory names, top.at? place ≠ none := by
  refine resolve_ok_induction
    (P := fun links directory names =>
      ∀ place ∈ resolveLooks top intent links directory names, top.at? place ≠ none)
    (fun links directory names hadvance place hplace => ?_)
    (fun links directory names d target rest hadvance ih place hplace => ?_) h
  · unfold resolveLooks at hplace
    rw [hadvance, List.append_nil] at hplace
    exact at?_ne_none_of_advance hadvance trivial place hplace
  · unfold resolveLooks at hplace
    rw [hadvance] at hplace
    rcases List.mem_append.mp hplace with hplace | hplace
    · exact at?_ne_none_of_advance hadvance trivial place hplace
    · exact ih place hplace

/-- A look-up that finds something finds the same whatever entries an empty directory gets. -/
theorem resolve_withEntries_of_found {found : Location} {entries : List (FileName × Node)}
    {links : Nat} {names : List FileName} (hhome : top.at? home = some (.directory []))
    (hresolve : resolve top intent links directory names = .ok (.found found)) :
    resolve (top.withEntries home entries) intent links directory names = .ok (.found found) := by
  rw [resolve_withEntries hhome fun place hplace hbelow =>
    at?_ne_none_of_resolve hresolve place hplace (Node.at?_of_below hhome hbelow)]
  exact hresolve

end Diagnostics
