import Diagnostics.Proofs.Task.Capture
import Diagnostics.Proofs.Task.Retry

/-!
# The command that a query is put by

In the command, the class stands as it is and the namespace as a literal: between apostrophes, with
its own apostrophes doubled. A literal is read from its opening apostrophe on, where two apostrophes
stand for one and one that stands alone is the end (`readLiteral`). What is read is what was
written, and what is behind it is left, as long as that does not begin with an apostrophe again
(`readLiteral_eq_some_iff`).

A class can hold anything, also what looks like the words in front of the namespace, so from the
left a command cannot be taken apart. From the right it can: doubling is the same in both directions
(`reverse_doubleQuotes`), and in front of the opening apostrophe is a space. So a command is that of
one class and one namespace only (`command_inj`).
-/

set_option autoImplicit false

namespace Diagnostics.Cim

open Diagnostics.Action

/-- What is said from an opening apostrophe on, up to one that stands alone, and what is behind. -/
def readBody : Text → Option (Text × Text)
  | [] => none
  | [c] => if c = '\'' then some ([], []) else none
  | c :: d :: rest =>
    if c ≠ '\'' then (readBody (d :: rest)).map (Prod.map (c :: ·) id)
    else if d = '\'' then (readBody rest).map (Prod.map (c :: ·) id)
    else some ([], d :: rest)

/-- What the literal at the beginning of a text says, and what is behind it. -/
def readLiteral : Text → Option (Text × Text)
  | [] => none
  | c :: rest => if c = '\'' then readBody rest else none

/-! ## Literals -/

section

variable {c : CodePoint} {s t rest : Text}

theorem doubleQuotes_cons_of_ne (h : c ≠ '\'') (s : Text) :
    doubleQuotes (c :: s) = c :: doubleQuotes s := by
  simp [doubleQuotes, h]

theorem doubleQuotes_cons_quote (s : Text) :
    doubleQuotes (CodePoint.ofChar '\'' :: s) =
      CodePoint.ofChar '\'' :: CodePoint.ofChar '\'' :: doubleQuotes s := by
  simp [doubleQuotes]

/-- Doubling is the same in both directions. -/
theorem reverse_doubleQuotes (s : Text) : (doubleQuotes s).reverse = doubleQuotes s.reverse := by
  unfold doubleQuotes
  rw [List.reverse_flatMap]
  apply List.flatMap_congr
  intro c _
  by_cases hc : c = '\'' <;> simp [hc]

theorem mem_doubleQuotes : c ∈ doubleQuotes s ↔ c ∈ s := by
  unfold doubleQuotes
  rw [List.mem_flatMap]
  constructor
  · rintro ⟨d, hd, hc⟩
    split at hc
    · have hcd : c = d := by simpa using hc
      exact hcd ▸ hd
    · exact List.mem_singleton.mp hc ▸ hd
  · intro hc
    refine ⟨c, hc, ?_⟩
    split <;> simp

theorem readBody_cons_of_ne (h : c ≠ '\'') (s : Text) :
    readBody (c :: s) = (readBody s).map (Prod.map (c :: ·) id) := by
  cases s with
  | nil => simp [readBody, h]
  | cons d s => rw [readBody, if_pos h]

theorem readBody_pair (s : Text) :
    readBody (CodePoint.ofChar '\'' :: CodePoint.ofChar '\'' :: s) =
      (readBody s).map (Prod.map (CodePoint.ofChar '\'' :: ·) id) := by
  simp [readBody]

theorem readBody_alone (h : rest.head? ≠ some (CodePoint.ofChar '\'')) :
    readBody (CodePoint.ofChar '\'' :: rest) = some ([], rest) := by
  cases rest with
  | nil => simp [readBody]
  | cons d rest =>
    have hd : d ≠ '\'' := by simpa using h
    simp [readBody, hd]

theorem readBody_doubleQuotes (s : Text) (h : rest.head? ≠ some (CodePoint.ofChar '\'')) :
    readBody (doubleQuotes s ++ CodePoint.ofChar '\'' :: rest) = some (s, rest) := by
  induction s with
  | nil => exact readBody_alone h
  | cons c s ih =>
    by_cases hc : c = '\''
    · subst hc
      rw [doubleQuotes_cons_quote, List.cons_append, List.cons_append, readBody_pair, ih]
      rfl
    · rw [doubleQuotes_cons_of_ne hc, List.cons_append, readBody_cons_of_ne hc, ih]
      rfl

theorem map_cons_eq_some {said : Option (Text × Text)}
    (h : said.map (Prod.map (c :: ·) id) = some (s, rest)) :
    ∃ behind, s = c :: behind ∧ said = some (behind, rest) := by
  obtain ⟨⟨behind, left⟩, hsaid, hpair⟩ := Option.map_eq_some_iff.mp h
  obtain ⟨rfl, rfl⟩ := Prod.mk.inj hpair
  exact ⟨behind, rfl, hsaid⟩

/-- **What is read is what was written**, and nothing else is read. -/
theorem readBody_eq_some_iff :
    readBody t = some (s, rest) ↔
      t = doubleQuotes s ++ CodePoint.ofChar '\'' :: rest ∧
        rest.head? ≠ some (CodePoint.ofChar '\'') := by
  constructor
  · intro h
    fun_induction readBody t generalizing s with
    | case1 => simp at h
    | case2 =>
      obtain ⟨rfl, rfl⟩ : [] = s ∧ [] = rest := by simpa using h
      simp [doubleQuotes]
    | case3 => simp at h
    | case4 c d tail hc ih =>
      obtain ⟨said, rfl, hread⟩ := map_cons_eq_some h
      obtain ⟨htext, hrest⟩ := ih hread
      refine ⟨?_, hrest⟩
      rw [doubleQuotes_cons_of_ne hc, htext]
      rfl
    | case5 c tail hc ih =>
      obtain rfl : c = '\'' := not_not.mp hc
      obtain ⟨said, rfl, hread⟩ := map_cons_eq_some h
      obtain ⟨htext, hrest⟩ := ih hread
      refine ⟨?_, hrest⟩
      rw [doubleQuotes_cons_quote, htext]
      rfl
    | case6 c d tail hc hd =>
      obtain rfl : c = '\'' := not_not.mp hc
      obtain ⟨rfl, rfl⟩ : [] = s ∧ d :: tail = rest := by simpa using h
      refine ⟨rfl, ?_⟩
      simpa using hd
  · rintro ⟨rfl, h⟩
    exact readBody_doubleQuotes s h

/-- A text between apostrophes. -/
def literal (s : Text) : Text :=
  CodePoint.ofChar '\'' :: (doubleQuotes s ++ [CodePoint.ofChar '\''])

theorem reverse_literal (s : Text) : (literal s).reverse = literal s.reverse := by
  simp [literal, reverse_doubleQuotes]

theorem readLiteral_eq_some_iff :
    readLiteral t = some (s, rest) ↔
      t = literal s ++ rest ∧ rest.head? ≠ some (CodePoint.ofChar '\'') := by
  unfold literal
  rw [List.cons_append, List.append_assoc]
  cases t with
  | nil => simp [readLiteral]
  | cons c t =>
    unfold readLiteral
    dsimp only
    by_cases hc : c = '\''
    · rw [if_pos hc, readBody_eq_some_iff, hc, List.cons_inj_right]
      rfl
    · rw [if_neg hc]
      simp [hc]

/-- A literal that is the end of a text can be told from what is before it: it is read backwards. -/
theorem append_literal_inj {front front' : Text}
    (h : front.getLast? ≠ some (CodePoint.ofChar '\''))
    (h' : front'.getLast? ≠ some (CodePoint.ofChar '\'')) :
    front ++ literal s = front' ++ literal t ↔ front = front' ∧ s = t := by
  constructor
  · intro heq
    rw [← List.head?_reverse] at h h'
    have hread := congrArg (fun text => readLiteral text.reverse) heq
    simp only [List.reverse_append, reverse_literal] at hread
    rw [readLiteral_eq_some_iff.mpr ⟨rfl, h⟩, readLiteral_eq_some_iff.mpr ⟨rfl, h'⟩] at hread
    obtain ⟨hs, hfront⟩ := Prod.mk.inj (Option.some.inj hread)
    exact ⟨List.reverse_inj.mp hfront, List.reverse_inj.mp hs⟩
  · rintro ⟨rfl, rfl⟩
    rfl

end

/-! ## Commands -/

section

variable (className namespaceName : Text)

theorem command_eq :
    command className namespaceName =
      "Get-CimInstance -ClassName " ++ className ++ " -Namespace " ++
        (literal namespaceName ++ " | Format-List -Property *") := by
  have hopen : (" -Namespace '" : Text) = " -Namespace " ++ [CodePoint.ofChar '\''] := rfl
  have hclose : ("' | Format-List -Property *" : Text) =
    CodePoint.ofChar '\'' :: " | Format-List -Property *" := rfl
  unfold command literal
  simp [hopen, hclose]

variable {className namespaceName} in
theorem command_inj {otherClass otherNamespace : Text} :
    command className namespaceName = command otherClass otherNamespace ↔
      className = otherClass ∧ namespaceName = otherNamespace := by
  have hlast : ∀ s : Text,
      (s ++ (" -Namespace " : Text)).getLast? ≠ some (CodePoint.ofChar '\'') := by
    intro s
    rw [List.getLast?_append,
      show (" -Namespace " : Text).getLast? = some (CodePoint.ofChar ' ') from rfl]
    simp [CodePoint.ofChar_inj]
  rw [command_eq, command_eq, ← List.append_assoc, ← List.append_assoc, List.append_cancel_right_eq,
    append_literal_inj (hlast _) (hlast _), List.append_cancel_right_eq, List.append_cancel_left_eq]

/-- A query is put by one program, which is started once. -/
theorem callsOf_ask (powershell : Text) (timeout : Option Binary64) (s : Session) :
    callsOf (ask powershell timeout className namespaceName) s =
      [.run (argv powershell className namespaceName) timeout .capture] := by
  have hsettle := (Backend.cim powershell timeout).settle_ask className namespaceName s
  unfold callsOf
  rw [show (settle (ask powershell timeout className namespaceName) s).2 = _ from hsettle,
    Session.answer_calls]
  exact List.drop_left

/-- **A command tells which class and which namespace are asked for**, whatever characters they
hold. It is the last word that PowerShell is started with. What stands in it behind the class and
the words in front of the namespace is a literal that says the namespace, up to the words in which
every command ends. And the command of another class or another namespace is another command. -/
theorem command_unambiguous :
    (∀ powershell timeout s, callsOf (ask powershell timeout className namespaceName) s =
      [.run [powershell, "-NoProfile", "-NonInteractive", "-Command",
        command className namespaceName] timeout .capture]) ∧
    (∃ quoted, command className namespaceName =
        "Get-CimInstance -ClassName " ++ className ++ " -Namespace " ++ quoted ∧
      readLiteral quoted = some (namespaceName, (" | Format-List -Property *" : Text))) ∧
    ∀ otherClass otherNamespace,
      command className namespaceName = command otherClass otherNamespace ↔
        className = otherClass ∧ namespaceName = otherNamespace := by
  refine ⟨callsOf_ask className namespaceName, ⟨_, command_eq className namespaceName, ?_⟩,
    fun _ _ => command_inj⟩
  rw [readLiteral_eq_some_iff]
  exact ⟨rfl, by decide⟩

/-- A class that goes on like a namespace is not mistaken for one. -/
example : command "C -Namespace 'a" "b" ≠ command "C" "a' -Namespace 'b" := by decide +kernel

end

end Diagnostics.Cim
