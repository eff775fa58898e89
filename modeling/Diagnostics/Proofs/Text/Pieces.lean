import Diagnostics.Proofs.Text.Names
import Diagnostics.Text.Lines
import Mathlib.Data.List.Infix

/-!
# A text cut at a name

Replacing a name goes along the text with a counter for the occurrence that was found last. What the
walk comes to can be said without it: the name occurs nowhere and nothing is cut, or there is a
piece in front of the occurrence furthest to the left, and what is behind that occurrence is cut
again (`CutAt`). A text is cut in one way only, and the walk finds it (`cutAt_iff`).

So the pieces between occurrences hold the name no more, the text is these pieces joined by the
name, and the replaced text is the same pieces joined by what stands in its place. Unifying newlines
comes to two such replacements (`ofChars_unifyNewlines`).
-/

set_option autoImplicit false

namespace Diagnostics.Text

/-- A text cut at the occurrences of a name, one after another. -/
inductive CutAt (name : Text) : Text → List Text → Prop where
  /-- The name does not occur. -/
  | whole {s : Text} (absent : ¬ name <:+: s) : CutAt name s [s]
  /-- No occurrence begins further to the left than the one behind the first piece. -/
  | found {piece rest : Text} {pieces : List Text}
      (leftmost : ∀ before after, piece ++ name ++ rest = before ++ name ++ after →
        piece.length ≤ before.length)
      (behind : CutAt name rest pieces) : CutAt name (piece ++ name ++ rest) (piece :: pieces)

variable {name replacement s : Text} {c : CodePoint}

/-! ## The walk -/

theorem piecesFrom_skip (name : Text) (skip : Nat) (s : Text) :
    piecesFrom name skip s = piecesFrom name 0 (s.drop skip) := by
  induction skip generalizing s with
  | zero => rfl
  | succ skip ih =>
    cases s with
    | nil => rfl
    | cons c s =>
      rw [piecesFrom, List.drop_succ_cons]
      exact ih s

theorem pieces_of_ne_nil (hne : name ≠ []) (s : Text) : pieces name s = piecesFrom name 0 s := by
  simp [pieces, hne]

theorem pieces_nil (hne : name ≠ []) : pieces name [] = [[]] := by
  simp [pieces_of_ne_nil hne, piecesFrom]

/-- An occurrence in front is passed over as a whole. -/
theorem pieces_append (hne : name ≠ []) (rest : Text) :
    pieces name (name ++ rest) = [] :: pieces name rest := by
  rw [pieces_of_ne_nil hne, pieces_of_ne_nil hne]
  obtain ⟨c, others, rfl⟩ := List.exists_cons_of_ne_nil hne
  have hprefix : (c :: others).isPrefixOf (c :: (others ++ rest)) = true :=
    List.isPrefixOf_iff_prefix.mpr (List.prefix_append (c :: others) rest)
  rw [List.cons_append, piecesFrom, if_pos hprefix, piecesFrom_skip]
  simp

/-- What begins no occurrence belongs to the piece in front. -/
theorem pieces_cons (hne : name ≠ []) (h : ¬ name <+: c :: s) :
    pieces name (c :: s) = consPiece c (pieces name s) := by
  have hprefix : ¬ name.isPrefixOf (c :: s) = true := by
    simpa using h
  rw [pieces_of_ne_nil hne, pieces_of_ne_nil hne, piecesFrom, if_neg hprefix]

/-! ## Cuts -/

namespace CutAt

variable {pieces pieces' : List Text}

theorem ne_nil (h : CutAt name s pieces) : pieces ≠ [] := by
  cases h <;> simp

theorem nil (hne : name ≠ []) : CutAt name [] [[]] := by
  apply whole
  simpa using hne

/-- An occurrence in front leaves an empty piece. -/
theorem front (h : CutAt name s pieces) : CutAt name (name ++ s) ([] :: pieces) :=
  @found name [] s pieces (fun before _ _ => Nat.zero_le before.length) h

/-- A code point that begins no occurrence goes into the first piece. -/
theorem cons (hcut : CutAt name s pieces) (h : ¬ name <+: c :: s) :
    CutAt name (c :: s) (consPiece c pieces) := by
  cases hcut with
  | whole absent =>
    apply whole
    rw [List.infix_cons_iff]
    simp [h, absent]
  | @found piece rest pieces leftmost behind =>
    refine @found name (c :: piece) rest pieces (fun before after hplace => ?_) behind
    cases before with
    | nil =>
      -- An occurrence at the very front would begin with the code point.
      refine absurd ⟨after, ?_⟩ h
      simpa using hplace.symm
    | cons d before =>
      have htail : piece ++ name ++ rest = before ++ name ++ after := by
        simpa using congrArg List.tail hplace
      simpa using leftmost before after htail

/-- **A text is cut in one way only.** -/
theorem unique (h : CutAt name s pieces) (h' : CutAt name s pieces') : pieces = pieces' := by
  induction h generalizing pieces' with
  | whole absent =>
    cases h' with
    | whole => rfl
    | found leftmost behind => exact absurd ⟨_, _, rfl⟩ absent
  | @found piece rest pieces leftmost behind ih =>
    generalize hs : piece ++ name ++ rest = s at h'
    cases h' with
    | whole absent => exact absurd ⟨piece, rest, hs⟩ absent
    | @found piece' rest' pieces' leftmost' behind' =>
      have hlength : piece.length = piece'.length :=
        Nat.le_antisymm (leftmost _ _ hs) (leftmost' _ _ hs.symm)
      rw [List.append_assoc, List.append_assoc] at hs
      obtain ⟨hpiece, hrest⟩ := List.append_inj hs hlength
      rw [List.append_cancel_left hrest] at ih
      rw [hpiece, ih behind']

/-- The pieces hold the name no more. -/
theorem not_infix (hne : name ≠ []) (h : CutAt name s pieces) :
    ∀ piece ∈ pieces, ¬ name <:+: piece := by
  induction h with
  | whole absent => simpa using absent
  | @found piece rest pieces leftmost behind ih =>
    rw [List.forall_mem_cons]
    refine ⟨?_, ih⟩
    rintro ⟨before, after, rfl⟩
    have hplace := leftmost before (after ++ name ++ rest) (by simp)
    have hlength := List.length_pos_iff.mpr hne
    simp only [List.length_append] at hplace
    omega

/-- The pieces and the name make up the text. -/
theorem join_eq (h : CutAt name s pieces) : join name pieces = s := by
  induction h with
  | whole absent => simp [join]
  | @found piece rest pieces leftmost behind ih =>
    rw [join_cons _ _ behind.ne_nil, ih]

end CutAt

/-- **The walk cuts a text where the name occurs.** -/
theorem cutAt_pieces (hne : name ≠ []) (s : Text) : CutAt name s (pieces name s) := by
  induction hlength : s.length using Nat.strongRecOn generalizing s with
  | _ n ih =>
    by_cases h : name <+: s
    · obtain ⟨rest, rfl⟩ := h
      rw [pieces_append hne]
      have hpos := List.length_pos_iff.mpr hne
      rw [List.length_append] at hlength
      exact (ih rest.length (by omega) rest rfl).front
    · cases s with
      | nil => exact pieces_nil hne ▸ CutAt.nil hne
      | cons c s =>
        rw [pieces_cons hne h]
        rw [List.length_cons] at hlength
        exact (ih s.length (by omega) s rfl).cons h

theorem cutAt_iff (hne : name ≠ []) {parts : List Text} :
    CutAt name s parts ↔ parts = pieces name s := by
  constructor
  · intro h
    exact h.unique (cutAt_pieces hne s)
  · rintro rfl
    exact cutAt_pieces hne s

/-! ## What stands in the place of a name -/

theorem replaceName_nil (hne : name ≠ []) : replaceName name replacement [] = [] := by
  simp [replaceName, pieces_nil hne, join]

theorem replaceName_append (hne : name ≠ []) (rest : Text) :
    replaceName name replacement (name ++ rest) =
      replacement ++ replaceName name replacement rest := by
  unfold replaceName
  rw [pieces_append hne, join_cons _ _ (cutAt_pieces hne rest).ne_nil]
  rfl

theorem replaceName_cons (hne : name ≠ []) (h : ¬ name <+: c :: s) :
    replaceName name replacement (c :: s) = c :: replaceName name replacement s := by
  unfold replaceName
  rw [pieces_cons hne h]
  obtain ⟨first, others, hpieces⟩ := List.exists_cons_of_ne_nil (cutAt_pieces hne s).ne_nil
  rw [hpieces, consPiece]
  cases others with
  | nil => simp [join]
  | cons second others =>
    rw [join_cons _ _ (List.cons_ne_nil _ _), join_cons _ _ (List.cons_ne_nil _ _)]
    rfl

/-- A text that does not mention the name stays as it is. -/
theorem replaceName_of_not_infix (h : ¬ name <:+: s) : replaceName name replacement s = s := by
  have hne : name ≠ [] := by
    rintro rfl
    exact h List.nil_infix
  rw [replaceName, ← (cutAt_iff hne).mp (CutAt.whole h)]
  simp [join]

/-- What stands in the place of the name is in the text if the name was. -/
theorem infix_replaceName (hne : name ≠ []) (h : name <:+: s) :
    replacement <:+: replaceName name replacement s := by
  unfold replaceName
  generalize hpieces : pieces name s = pieces
  cases (cutAt_iff hne).mpr hpieces.symm with
  | whole absent => exact absurd h absent
  | @found piece rest pieces leftmost behind =>
    exact ⟨piece, join replacement pieces, (join_cons _ _ behind.ne_nil).symm⟩

theorem ofChars_cons (c : Char) (cs : List Char) :
    ofChars (c :: cs) = CodePoint.ofChar c :: ofChars cs := rfl

/-- Newlines are unified by two replacements, one after the other. -/
theorem ofChars_unifyNewlines (cs : List Char) :
    ofChars (unifyNewlines cs) = replaceName "\r" "\n" (replaceName "\r\n" "\n" (ofChars cs)) := by
  have hpair : ofString "\r\n" ≠ [] := by decide
  have hreturn : ofString "\r" ≠ [] := by decide
  -- The second replacement goes along the text a code point at a time.
  have hreplaced : ∀ s, replaceName "\r" "\n" (CodePoint.ofChar '\r' :: s) =
      CodePoint.ofChar '\n' :: replaceName "\r" "\n" s :=
    replaceName_append hreturn
  have hkept : ∀ (c : Char) (s : Text), c ≠ '\r' →
      replaceName "\r" "\n" (CodePoint.ofChar c :: s) =
        CodePoint.ofChar c :: replaceName "\r" "\n" s := by
    intro c s hc
    apply replaceName_cons hreturn
    intro hprefix
    exact hc (CodePoint.ofChar_inj.mp (List.cons_prefix_cons.mp hprefix).1.symm)
  fun_induction unifyNewlines cs with
  | case1 =>
    show _ = replaceName "\r" "\n" (replaceName "\r\n" "\n" [])
    rw [replaceName_nil hpair, replaceName_nil hreturn]
    rfl
  | case2 cs ih =>
    have hfront : replaceName "\r\n" "\n" (ofChars ('\r' :: '\n' :: cs)) =
        CodePoint.ofChar '\n' :: replaceName "\r\n" "\n" (ofChars cs) :=
      replaceName_append hpair (ofChars cs)
    rw [hfront, hkept '\n' _ (by decide), ofChars_cons, ih]
  | case3 c cs hnot ih =>
    have hfront : ¬ ofString "\r\n" <+: CodePoint.ofChar c :: ofChars cs := by
      intro hprefix
      obtain ⟨hc, hrest⟩ := List.cons_prefix_cons.mp hprefix
      cases cs with
      | nil => simp [ofChars] at hrest
      | cons d cs =>
        have hd := (List.cons_prefix_cons.mp hrest).1
        rw [CodePoint.ofChar_inj] at hc hd
        exact hnot cs hc.symm (hd ▸ rfl)
    rw [ofChars_cons, ofChars_cons, replaceName_cons hpair hfront]
    by_cases hc : c = '\r'
    · rw [if_pos hc, hc, hreplaced, ih]
    · rw [if_neg hc, hkept c _ hc, ih]

end Diagnostics.Text
