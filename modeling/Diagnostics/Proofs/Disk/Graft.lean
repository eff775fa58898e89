import Diagnostics.Disk.Node

/-!
# A directory with other entries

A run changes one directory of the tree, the staging directory, and nothing that stands elsewhere.
So the trees of a run are all one tree in which the entries of one directory are exchanged
(`Node.withEntries`), and what matters about such a tree falls into two parts: what stands below
the directory depends on the entries alone, and what is seen elsewhere does not depend on them.
-/

set_option autoImplicit false

namespace Diagnostics.Node

variable {top node new : Node} {name : FileName} {entries : List (FileName × Node)}
  {home place : Location}

/-! ## Entries -/

theorem setEntry_self (h : entry? name entries = some node) :
    setEntry name node entries = entries := by
  induction entries with
  | nil => cases h
  | cons e entries ih =>
    obtain ⟨n, old⟩ := e
    unfold entry? at h
    unfold setEntry
    split at h
    · rw [if_pos ‹_›, Option.some.inj h]
    · rw [if_neg ‹_›, ih h]

theorem setEntry_setEntry (name : FileName) (node new : Node)
    (entries : List (FileName × Node)) :
    setEntry name new (setEntry name node entries) = setEntry name new entries := by
  induction entries with
  | nil => simp [setEntry]
  | cons e entries ih =>
    obtain ⟨n, old⟩ := e
    by_cases h : n = name
    · simp [setEntry, h]
    · simp [setEntry, h, ih]

/-! ## Locations -/

@[simp] theorem at?_nil (node : Node) : node.at? [] = some node := by
  cases node <;> rfl

theorem at?_cons (entries : List (FileName × Node)) (name : FileName) (rest : Location) :
    (directory entries).at? (name :: rest) =
      Option.bind ( entry? name entries) fun child => child.at? rest := by
  rw [at?]
  cases entry? name entries <;> rfl

/-- Something stands below a directory only. -/
theorem exists_of_at?_cons {rest : Location} (h : top.at? (name :: rest) = some node) :
    ∃ entries child, top = directory entries ∧ entry? name entries = some child ∧
      child.at? rest = some node := by
  cases top with
  | directory entries =>
    rw [at?_cons] at h
    obtain ⟨child, hchild, hat⟩ := Option.bind_eq_some_iff.mp h
    exact ⟨entries, child, rfl, hchild, hat⟩
  | _ => cases h

theorem at?_append (node : Node) (place rest : Location) :
    node.at? (place ++ rest) = (node.at? place).bind (·.at? rest) := by
  induction place generalizing node with
  | nil => rw [List.nil_append, at?_nil, Option.bind_some]
  | cons name place ih =>
    cases node with
    | directory entries =>
      rw [List.cons_append, at?_cons, at?_cons]
      cases entry? name entries with
      | none => rfl
      | some child => exact ih child
    | _ => rfl

/-- What has a name stands in a directory. -/
theorem exists_directory_of_at? (h : top.at? (place ++ [name]) = some node) :
    ∃ entries, top.at? place = some (directory entries) := by
  rw [at?_append] at h
  obtain ⟨above, habove, hlast⟩ := Option.bind_eq_some_iff.mp h
  obtain ⟨entries, -, rfl, -⟩ := exists_of_at?_cons hlast
  exact ⟨entries, habove⟩

@[simp] theorem graft_nil (new node : Node) : graft new node [] = new := by
  cases node <;> rfl

/-- A node is put below a directory by putting it into one of the entries. -/
theorem graft_cons (new : Node) {child : Node} (rest : Location)
    (h : entry? name entries = some child) :
    graft new (directory entries) (name :: rest) =
      directory (setEntry name (graft new child rest) entries) := by
  cases rest with
  | nil =>
    rw [graft]
    cases child <;> rfl
  | cons next rest =>
    rw [graft, h]
    exact List.cons_ne_nil next rest

/-- Nothing is put below what is no directory. -/
theorem graft_of_isDirectory_eq_false {node : Node} (h : node.isDirectory = false) {new : Node}
    {name : FileName} {rest : Location} : graft new node (name :: rest) = node := by
  have hnot : ∀ entries, node ≠ directory entries := by
    rintro entries rfl
    cases h
  rw [graft]
  · exact fun entries heq _ => hnot entries heq
  · exact hnot

/-- The tree in which the directory at a place has other entries. -/
def withEntries (top : Node) (home : Location) (entries : List (FileName × Node)) : Node :=
  graft (directory entries) top home

theorem withEntries_nil (top : Node) (entries : List (FileName × Node)) :
    top.withEntries [] entries = directory entries := by
  exact graft_nil _ _

/-- Exchanging entries below a directory happens in one of its entries. -/
theorem withEntries_cons {child : Node} {others : List (FileName × Node)} (rest : Location)
    (h : entry? name others = some child) :
    (directory others).withEntries (name :: rest) entries =
      directory (setEntry name (child.withEntries rest entries) others) :=
  graft_cons _ rest h

theorem withEntries_self (h : top.at? home = some (directory entries)) :
    top.withEntries home entries = top := by
  induction home generalizing top with
  | nil =>
    rw [withEntries_nil]
    rw [at?_nil] at h
    exact (Option.some.inj h).symm
  | cons name home ih =>
    obtain ⟨others, child, rfl, hchild, hat⟩ := exists_of_at?_cons h
    rw [withEntries_cons home hchild, ih hat, setEntry_self hchild]

/-- Below the directory stands what stands below its entries. -/
theorem at?_withEntries (h : top.at? home = some node) (rest : Location) :
    (top.withEntries home entries).at? (home ++ rest) = (directory entries).at? rest := by
  induction home generalizing top with
  | nil => rw [withEntries_nil, List.nil_append]
  | cons name home ih =>
    obtain ⟨others, child, rfl, hchild, hat⟩ := exists_of_at?_cons h
    rw [withEntries_cons home hchild, List.cons_append, at?_cons, entry?_setEntry_self]
    exact ih hat

theorem at?_withEntries_self (h : top.at? home = some node) :
    (top.withEntries home entries).at? home = some (directory entries) := by
  have hself := @at?_withEntries top node entries home h []
  rwa [List.append_nil, at?_nil] at hself

/-- Putting a node into the directory is exchanging its entries. -/
theorem graft_withEntries (h : top.at? home = some node) (new : Node) (name : FileName) :
    graft new (top.withEntries home entries) (home ++ [name]) =
      top.withEntries home (setEntry name new entries) := by
  induction home generalizing top with
  | nil => rw [withEntries_nil, withEntries_nil, List.nil_append, graft]
  | cons other home ih =>
    obtain ⟨others, child, rfl, hchild, hat⟩ := exists_of_at?_cons h
    have hset := entry?_setEntry_self other (child.withEntries home entries) others
    rw [withEntries_cons home hchild, withEntries_cons home hchild, List.cons_append,
      graft_cons _ _ hset, ih hat, setEntry_setEntry]

/-! ## What is seen without looking into directories -/

/-- A node without what is below it. -/
def bare : Node → Node
  | .directory _ => .directory []
  | node => node

/-- What is seen at a place. -/
def view (top : Node) (place : Location) : Option Node :=
  (top.at? place).map bare

/-- A node without its content, and without what is below it. -/
def outline : Node → Node
  | .file _ => .file []
  | .directory _ => .directory []
  | node => node

/-- What kind of thing is at a place. -/
def outlineAt (top : Node) (place : Location) : Option Node :=
  (top.at? place).map outline

/-- What is seen tells the kind. -/
theorem outlineAt_eq_of_view {top' : Node} (h : top'.view place = top.view place) :
    top'.outlineAt place = top.outlineAt place := by
  have hbare : ∀ node : Node, node.bare.outline = node.outline := fun node => by cases node <;> rfl
  have hview : ∀ node : Node, node.outlineAt place = (node.view place).map outline := by
    intro node
    unfold outlineAt view
    rw [Option.map_map]
    exact congrArg (Option.map · (node.at? place)) (funext fun child => (hbare child).symm)
  rw [hview, hview, h]

def Below (home place : Location) : Prop :=
  home <+: place ∧ place ≠ home

theorem exists_of_below (h : Below home place) : ∃ rest, rest ≠ [] ∧ place = home ++ rest := by
  obtain ⟨⟨rest, rfl⟩, hne⟩ := h
  exact ⟨rest, fun hrest => hne (by rw [hrest, List.append_nil]), rfl⟩

/-- Elsewhere than below the directory, what is seen does not depend on its entries. -/
theorem view_withEntries {old : List (FileName × Node)}
    (h : top.at? home = some (directory old)) (hplace : ¬ Below home place) :
    (top.withEntries home entries).view place = top.view place := by
  induction home generalizing top place with
  | nil =>
    have hnil : place = [] :=
      Classical.byContradiction fun hne => hplace ⟨List.nil_prefix, hne⟩
    rw [at?_nil] at h
    rw [hnil, withEntries_nil, Option.some.inj h]
    rfl
  | cons name home ih =>
    obtain ⟨others, child, rfl, hchild, hat⟩ := exists_of_at?_cons h
    rw [withEntries_cons home hchild]
    cases place with
    | nil => rfl
    | cons other place =>
      unfold view
      rw [at?_cons, at?_cons]
      -- Only the entry on the way to the directory is exchanged.
      by_cases hname : other = name
      · subst hname
        rw [entry?_setEntry_self, hchild]
        refine ih hat fun hbelow => hplace ⟨List.cons_prefix_cons.mpr ⟨rfl, hbelow.1⟩, ?_⟩
        exact fun heq => hbelow.2 (List.cons.inj heq).2
      · rw [entry?_setEntry_of_ne hname]

/-- What is above the directory has it below with other entries. -/
theorem at?_withEntries_above {rest : Location} (h : top.at? place = some node) :
    (top.withEntries (place ++ rest) entries).at? place = some (node.withEntries rest entries) := by
  induction place generalizing top with
  | nil =>
    rw [at?_nil] at h
    rw [List.nil_append, at?_nil, Option.some.inj h]
  | cons name place ih =>
    obtain ⟨others, child, rfl, hchild, hat⟩ := exists_of_at?_cons h
    rw [List.cons_append, withEntries_cons _ hchild, at?_cons, entry?_setEntry_self]
    exact ih hat

/-- What is neither above nor below the directory stays. -/
theorem at?_withEntries_aside (h : top.at? home = some node) (habove : ¬ place <+: home)
    (hbelow : ¬ home <+: place) : (top.withEntries home entries).at? place = top.at? place := by
  induction home generalizing top place with
  | nil => exact absurd List.nil_prefix hbelow
  | cons name home ih =>
    obtain ⟨others, child, rfl, hchild, hat⟩ := exists_of_at?_cons h
    rw [withEntries_cons home hchild]
    cases place with
    | nil => exact absurd List.nil_prefix habove
    | cons other place =>
      rw [at?_cons, at?_cons]
      by_cases hname : other = name
      · subst hname
        rw [entry?_setEntry_self, hchild]
        exact ih hat (fun hprefix => habove (List.cons_prefix_cons.mpr ⟨rfl, hprefix⟩))
          fun hprefix => hbelow (List.cons_prefix_cons.mpr ⟨rfl, hprefix⟩)
      · rw [entry?_setEntry_of_ne hname]

/-- An entry stands somewhere among the others, and is exchanged there. -/
theorem exists_of_entry? (h : entry? name entries = some node) :
    ∃ before after, entries = before ++ (name, node) :: after ∧
      ∀ new, setEntry name new entries = before ++ (name, new) :: after := by
  induction entries with
  | nil => cases h
  | cons e entries ih =>
    obtain ⟨n, old⟩ := e
    unfold entry? at h
    split at h
    · rename_i hn
      subst hn
      obtain rfl := Option.some.inj h
      exact ⟨[], entries, rfl, fun new => by simp [setEntry]⟩
    · rename_i hn
      obtain ⟨before, after, rfl, hset⟩ := ih h
      exact ⟨(n, old) :: before, after, rfl, fun new => by simp [setEntry, hn, hset]⟩

/-- An entry of a directory is put there by exchanging entries. -/
theorem graft_child (h : top.at? home = some (directory entries)) (new : Node) (name : FileName) :
    graft new top (home ++ [name]) = top.withEntries home (setEntry name new entries) := by
  rw [← graft_withEntries h, withEntries_self h]

/-- At an entry that was put there, and below it, stands what was put there. -/
theorem at?_graft_child (h : top.at? home = some (directory entries)) (new : Node)
    (name : FileName) (rest : Location) :
    (graft new top (home ++ [name])).at? (home ++ [name] ++ rest) = new.at? rest := by
  rw [graft_child h, List.append_assoc, at?_withEntries h, List.singleton_append, at?_cons,
    entry?_setEntry_self, Option.bind_some]

/-- What is put in the place of something stands there. -/
theorem at?_graft_self (h : top.at? place = some node) (new : Node) :
    (graft new top place).at? place = some new := by
  rcases List.eq_nil_or_concat place with rfl | ⟨home, name, rfl⟩
  · rw [graft, at?_nil]
  · rw [List.concat_eq_append] at h ⊢
    obtain ⟨entries, hhome⟩ := exists_directory_of_at? h
    have hchild := at?_graft_child hhome new name []
    rwa [List.append_nil, at?_nil] at hchild

/-- Elsewhere the same is seen. -/
theorem view_graft_child (h : top.at? home = some (directory entries)) (new : Node)
    {name : FileName} {seen : Location} (hseen : ¬ home ++ [name] <+: seen) :
    (graft new top (home ++ [name])).view seen = top.view seen := by
  rw [graft_child h]
  -- Below the directory the entry of another name is seen; elsewhere no entry is.
  by_cases hbelow : Below home seen
  · obtain ⟨rest, hrest, rfl⟩ := exists_of_below hbelow
    obtain ⟨other, rest, rfl⟩ := List.exists_cons_of_ne_nil hrest
    have hother : other ≠ name := by
      rintro rfl
      exact hseen ⟨rest, by rw [List.append_assoc, List.singleton_append]⟩
    unfold view
    rw [at?_withEntries h, at?_append, h, Option.bind_some, at?_cons, at?_cons,
      entry?_setEntry_of_ne hother]
  · exact view_withEntries h hbelow

theorem at?_eq_none_iff_view (place : Location) :
    top.at? place = none ↔ top.view place = none := by
  unfold view
  rw [Option.map_eq_none_iff]

/-- Nothing stands below a directory without entries. -/
theorem at?_of_below (h : top.at? home = some (directory [])) (hplace : Below home place) :
    top.at? place = none := by
  obtain ⟨rest, hrest, rfl⟩ := exists_of_below hplace
  obtain ⟨name, rest, rfl⟩ := List.exists_cons_of_ne_nil hrest
  rw [at?_append, h, Option.bind_some, at?_cons]
  rfl

end Diagnostics.Node
