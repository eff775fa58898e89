import Diagnostics.Json.Reader
import Diagnostics.Proofs.Report.Surrogates
import Diagnostics.Proofs.Text.Utf8

/-!
# Reading what was written

A document of texts, arrays and objects that holds no surrogate is read back from its written form
(`read_write`). The characters of a written value lead the reader over that value and stop it right
behind (`value_writeValue`), and a value is read in as many steps as it has characters, which is
fewer than the reader allows itself.

Inside a text the reader takes one code point after another, each from what was written for it
(`textBody_escapeCodePoint`). No carriage return stands in a written document, since in a text it is
escaped, so unifying newlines leaves the document as it was written (`read_unifyNewlines_write`).
-/

set_option autoImplicit false

namespace Diagnostics

namespace Json

open Text

/-- A value is made of texts, arrays and objects, and of characters alone. -/
inductive IsPlain : Json → Prop
  | text {s : Text} (h : ¬ s.HasSurrogate) : IsPlain (.text s)
  | array {items : List Json} (h : ∀ v ∈ items, IsPlain v) : IsPlain (.array items)
  | object {fields : List (Text × Json)}
      (hnames : ∀ f ∈ fields, ¬ f.1.HasSurrogate) (hvalues : ∀ f ∈ fields, IsPlain f.2) :
      IsPlain (.object fields)

/-! ## Texts -/

/-- The unit of an escaped control is its number. -/
theorem unit?_hexDigits {n : Nat} (h : n < 0x20) :
    ∃ a b c d, hexDigits 4 n = [a, b, c, d] ∧ unit? a b c d = some n := by
  have hall : ∀ n < 0x20,
      unit? '0' '0' (hexDigit (n / 16 % 16)) (hexDigit (n % 16)) = some n ∧
        hexDigits 4 n = ['0', '0', hexDigit (n / 16 % 16), hexDigit (n % 16)] := by
    decide
  exact ⟨_, _, _, _, (hall n h).2, (hall n h).1⟩

/-- An escape of four digits that are no surrogate is read without a look at what follows. -/
theorem escape_unit {n opening : Nat} {a b c d : Char} (hunit : unit? a b c d = some n)
    (hlow : n < 0xD800) {rest : List Char} (hrest : rest ≠ []) :
    escape opening ('u' :: a :: b :: c :: d :: rest) = .ok (CodePoint.ofNat n, 5) := by
  obtain ⟨e, rest, rfl⟩ := List.exists_cons_of_ne_nil hrest
  have hno : ¬ (0xD800 ≤ n ∧ n ≤ 0xDBFF) := by omega
  simp [escape, hunit, hno]

theorem textBody_escape {opening length : Nat} {x : CodePoint} {rest : List Char}
    (h : escape opening rest = .ok (x, length)) :
    textBody opening 0 ('\\' :: rest) = prepend x (textBody opening length rest) := by
  simp [textBody, h]

/-- A code point that is written as it is. -/
theorem textBody_plain {opening : Nat} {x : Char} {rest : List Char} (hquote : x ≠ '"')
    (hbackslash : x ≠ '\\') (hcontrol : ¬ x.toNat < 0x20) :
    textBody opening 0 (x :: rest) = prepend x (textBody opening 0 rest) := by
  have hno : ¬ x.toNat ≤ 0x1F := by omega
  simp [textBody, hquote, hbackslash, hno]

/-- **One code point is read from what was written for it.** -/
theorem textBody_escapeCodePoint {c : CodePoint} (hc : c.isSurrogate = false) (opening : Nat)
    {rest : List Char} (hrest : rest ≠ []) :
    textBody opening 0 ((escapeCodePoint c).chars ++ rest) =
      prepend c (textBody opening 0 rest) := by
  obtain ⟨x, rfl⟩ := CodePoint.exists_ofChar hc
  unfold escapeCodePoint
  split_ifs with hquote hbackslash hline hreturn htab hback hfeed hcontrol
  · rw [hquote]
    simp [textBody, escape, escaped?]
  · rw [hbackslash]
    simp [textBody, escape, escaped?]
  · rw [hline]
    simp [textBody, escape, escaped?]
  · rw [hreturn]
    simp [textBody, escape, escaped?]
  · rw [htab]
    simp [textBody, escape, escaped?]
  · rw [hback]
    simp [textBody, escape, escaped?]
  · rw [hfeed]
    simp [textBody, escape, escaped?]
  · obtain ⟨a, b, c, d, hdigits, hunit⟩ := unit?_hexDigits hcontrol
    have hsame : CodePoint.ofNat (CodePoint.ofChar x).value = CodePoint.ofChar x := by
      simp [CodePoint.ofNat, (CodePoint.ofChar x).value_lt]
    have hescape := @escape_unit _ opening _ _ _ _ hunit (by omega) _ hrest
    rw [hsame] at hescape
    simp only [chars_cons_ofChar, chars_ofChars, hdigits, List.cons_append, List.nil_append]
    exact textBody_escape hescape
  · rw [chars_cons_ofChar]
    apply textBody_plain
    · simpa [CodePoint.ofChar_inj] using hquote
    · simpa [CodePoint.ofChar_inj] using hbackslash
    · exact hcontrol

/-- A text is read from what stands between its quotes. -/
theorem textBody_flatMap (opening : Nat) {s : Text} (hs : ¬ s.HasSurrogate) (rest : List Char) :
    textBody opening 0 (chars (s.flatMap escapeCodePoint) ++ '"' :: rest) = .ok (s, rest) := by
  induction s with
  | nil => simp [textBody]
  | cons c s ih =>
    rw [hasSurrogate_cons, not_or, Bool.not_eq_true] at hs
    rw [List.flatMap_cons, chars_append, List.append_assoc,
      textBody_escapeCodePoint hs.1 opening (by simp), ih hs.2]
    rfl

/-- The characters of a written text, quotes included. -/
theorem chars_writeText (s : Text) :
    (writeText s).chars = '"' :: chars (s.flatMap escapeCodePoint) ++ ['"'] := by
  simp [writeText]

/-! ## Values -/

theorem skipSpace_cons {c : Char} (hc : isSpace c = false) (rest : List Char) :
    skipSpace (c :: rest) = c :: rest := by
  simp [skipSpace, hc]

theorem skipSpace_space {c : Char} (hc : isSpace c = true) (rest : List Char) :
    skipSpace (c :: rest) = skipSpace rest := by
  simp [skipSpace, hc]

/-- A new line is skipped. -/
theorem skipSpace_newLine (depth : Nat) (rest : List Char) :
    skipSpace (chars (newLine depth) ++ rest) = skipSpace rest := by
  have hblanks : ∀ n, skipSpace (chars (List.replicate n (' ' : CodePoint)) ++ rest) =
      skipSpace rest := by
    intro n
    induction n with
    | zero => rfl
    | succ n ih =>
      rw [List.replicate_succ, chars_cons_ofChar, List.cons_append, skipSpace_space (by decide)]
      exact ih
  rw [newLine, chars_cons_ofChar, List.cons_append, skipSpace_space (by decide)]
  exact hblanks _

theorem length_newLine_pos (depth : Nat) : 0 < (chars (newLine depth)).length := by
  simp [newLine]

theorem chars_writeArray (depth : Nat) (v : Json) (vs : List Json) :
    chars (writeValue depth (.array (v :: vs))) =
      '[' :: (chars (writeItems (depth + 1) (v :: vs)) ++ (chars (newLine depth) ++ [']'])) := by
  simp [writeValue]

theorem chars_writeObject (depth : Nat) (f : Text × Json) (fs : List (Text × Json)) :
    chars (writeValue depth (.object (f :: fs))) =
      '\x7b' :: (chars (writeFields (depth + 1) (f :: fs)) ++
        (chars (newLine depth) ++ ['\x7d'])) := by
  simp [writeValue]

/-- What a written value begins with is no space, closes no array and marks no byte order. -/
theorem exists_cons_writeValue {v : Json} (hv : v.IsPlain) (depth : Nat) :
    ∃ c rest, chars (writeValue depth v) = c :: rest ∧
      isSpace c = false ∧ c ≠ ']' ∧ c ≠ '\uFEFF' := by
  cases hv with
  | @text s _ => exact ⟨'"', _, chars_writeText s, by decide⟩
  | @array items _ =>
    cases items with
    | nil => exact ⟨'[', [']'], by simp [writeValue], by decide⟩
    | cons v vs => exact ⟨'[', _, chars_writeArray depth v vs, by decide⟩
  | @object fields _ _ =>
    cases fields with
    | nil => exact ⟨'\x7b', ['\x7d'], by simp [writeValue], by decide⟩
    | cons f fs => exact ⟨'\x7b', _, chars_writeObject depth f fs, by decide⟩

theorem skipSpace_writeValue {v : Json} (hv : v.IsPlain) (depth : Nat) (rest : List Char) :
    skipSpace (chars (writeValue depth v) ++ rest) = chars (writeValue depth v) ++ rest := by
  obtain ⟨c, others, hwrite, hc, -⟩ := exists_cons_writeValue hv depth
  rw [hwrite, List.cons_append, skipSpace_cons hc]

/-- An array that does not end at once is read item by item. -/
theorem value_array {steps : Nat} {s : List Char} (h : ∀ rest, skipSpace s ≠ ']' :: rest) :
    value (steps + 1) ('[' :: s) =
      (items steps (skipSpace s)).map fun read => (.array read.1, read.2) := by
  rw [value]
  dsimp only
  split
  · rename_i rest heq
    exact absurd heq (h rest)
  · cases items steps (skipSpace s) <;> rfl

theorem value_object {steps : Nat} {s : List Char} (h : ∀ rest, skipSpace s ≠ '\x7d' :: rest) :
    value (steps + 1) ('\x7b' :: s) =
      (members steps (skipSpace s)).map fun read => (.object read.1, read.2) := by
  rw [value]
  dsimp only
  split
  · rename_i rest heq
    exact absurd heq (h rest)
  · cases members steps (skipSpace s) <;> rfl

theorem items_last {steps : Nat} {s between rest : List Char} {v : Json}
    (hv : value steps s = .ok (v, between)) (hend : skipSpace between = ']' :: rest) :
    items (steps + 1) s = .ok ([v], rest) := by
  simp [items, hv, hend, bind, Except.bind, pure, Except.pure]

theorem items_more {steps : Nat} {s between behind rest : List Char} {v : Json} {vs : List Json}
    (hv : value steps s = .ok (v, between)) (hcomma : skipSpace between = ',' :: behind)
    (hvs : items steps (skipSpace behind) = .ok (vs, rest)) :
    items (steps + 1) s = .ok (v :: vs, rest) := by
  simp [items, hv, hcomma, hvs, bind, Except.bind, pure, Except.pure]

theorem members_last {steps : Nat} {s named between rest : List Char} {n : Text} {v : Json}
    (hn : textBody (s.length + 1) 0 s = .ok (n, ':' :: named))
    (hv : value steps (skipSpace named) = .ok (v, between))
    (hend : skipSpace between = '\x7d' :: rest) :
    members (steps + 1) ('"' :: s) = .ok ([(n, v)], rest) := by
  have hcolon : skipSpace (':' :: named) = ':' :: named := skipSpace_cons (by decide) _
  simp [members, hn, hcolon, hv, hend, bind, Except.bind, pure, Except.pure]

theorem members_more {steps : Nat} {s named between behind rest : List Char} {n : Text} {v : Json}
    {fields : List (Text × Json)} (hn : textBody (s.length + 1) 0 s = .ok (n, ':' :: named))
    (hv : value steps (skipSpace named) = .ok (v, between))
    (hcomma : skipSpace between = ',' :: behind)
    (hfields : members steps (skipSpace behind) = .ok (fields, rest)) :
    members (steps + 1) ('"' :: s) = .ok ((n, v) :: fields, rest) := by
  have hcolon : skipSpace (':' :: named) = ':' :: named := skipSpace_cons (by decide) _
  simp [members, hn, hcolon, hv, hcomma, hfields, bind, Except.bind, pure, Except.pure]

/-- The first item begins with no bracket that would close the array. -/
theorem skipSpace_writeItems_ne {v : Json} (hv : v.IsPlain) (vs : List Json) (depth : Nat)
    (tail rest : List Char) :
    skipSpace (chars (writeItems depth (v :: vs)) ++ tail) ≠ ']' :: rest := by
  obtain ⟨c, others, hwrite, hc, hne, -⟩ := exists_cons_writeValue hv depth
  cases vs with
  | nil => simp [writeItems, skipSpace_newLine, hwrite, skipSpace_cons hc, hne]
  | cons w vs => simp [writeItems, skipSpace_newLine, hwrite, skipSpace_cons hc, hne]

theorem skipSpace_writeFields_ne (f : Text × Json) (fs : List (Text × Json)) (depth : Nat)
    (tail rest : List Char) :
    skipSpace (chars (writeFields depth (f :: fs)) ++ tail) ≠ '\x7d' :: rest := by
  have hquote : isSpace '"' = false := by decide
  cases fs with
  | nil => simp [writeFields, skipSpace_newLine, chars_writeText, skipSpace_cons hquote]
  | cons g fs => simp [writeFields, skipSpace_newLine, chars_writeText, skipSpace_cons hquote]

/-- One step is left for a text that is not empty if it has no more characters than steps. -/
theorem exists_succ_of_length_le {cs : List Char} {steps : Nat} (hcs : cs ≠ [])
    (h : cs.length ≤ steps) : ∃ n, steps = n + 1 :=
  Nat.exists_eq_add_one_of_ne_zero
    (Nat.ne_of_gt (Nat.lt_of_lt_of_le (List.length_pos_iff.mpr hcs) h))

mutual

theorem value_writeValue : ∀ {v : Json}, v.IsPlain → ∀ (depth steps : Nat) (rest : List Char),
    (chars (writeValue depth v)).length ≤ steps →
      value steps (chars (writeValue depth v) ++ rest) = .ok (v, rest)
  | .null, hv, _, _, _, _ => nomatch hv
  | .bool _, hv, _, _, _, _ => nomatch hv
  | .integer _, hv, _, _, _, _ => nomatch hv
  | .number _, hv, _, _, _, _ => nomatch hv
  | .text s, .text hs, depth, steps, rest, hsteps => by
    rw [writeValue, chars_writeText] at hsteps ⊢
    obtain ⟨steps, rfl⟩ := exists_succ_of_length_le (by simp) hsteps
    simp only [List.cons_append, List.append_assoc, List.nil_append]
    rw [value]
    dsimp only
    rw [textBody_flatMap _ hs]
    rfl
  | .array [], _, depth, steps, rest, hsteps => by
    have hwrite : chars (writeValue depth (.array [])) = ['[', ']'] := by simp [writeValue]
    rw [hwrite] at hsteps ⊢
    obtain ⟨steps, rfl⟩ := exists_succ_of_length_le (by simp) hsteps
    rfl
  | .array (v :: vs), .array hvs, depth, steps, rest, hsteps => by
    rw [chars_writeArray] at hsteps ⊢
    obtain ⟨steps, rfl⟩ := exists_succ_of_length_le (by simp) hsteps
    have htail : skipSpace (chars (newLine depth) ++ (']' :: rest)) = ']' :: rest := by
      rw [skipSpace_newLine, skipSpace_cons (by decide)]
    simp only [List.length_cons, List.length_append] at hsteps
    have hitems := items_writeItems (List.cons_ne_nil v vs) hvs (depth + 1) steps htail (by omega)
    simp only [List.cons_append, List.append_assoc, List.nil_append]
    rw [value_array (skipSpace_writeItems_ne (hvs v List.mem_cons_self) vs _ _), hitems]
    rfl
  | .object [], _, depth, steps, rest, hsteps => by
    have hwrite : chars (writeValue depth (.object [])) = ['\x7b', '\x7d'] := by
      simp [writeValue]
    rw [hwrite] at hsteps ⊢
    obtain ⟨steps, rfl⟩ := exists_succ_of_length_le (by simp) hsteps
    rfl
  | .object ((n, v) :: fs), .object hnames hvalues, depth, steps, rest, hsteps => by
    rw [chars_writeObject] at hsteps ⊢
    obtain ⟨steps, rfl⟩ := exists_succ_of_length_le (by simp) hsteps
    have htail : skipSpace (chars (newLine depth) ++ ('\x7d' :: rest)) = '\x7d' :: rest := by
      rw [skipSpace_newLine, skipSpace_cons (by decide)]
    simp only [List.length_cons, List.length_append] at hsteps
    have hmembers := members_writeFields (List.cons_ne_nil _ fs) hnames hvalues (depth + 1) steps
      htail (by omega)
    simp only [List.cons_append, List.append_assoc, List.nil_append]
    rw [value_object (skipSpace_writeFields_ne _ _ _ _), hmembers]
    rfl

theorem items_writeItems : ∀ {vs : List Json}, vs ≠ [] → (∀ v ∈ vs, v.IsPlain) →
    ∀ (depth steps : Nat) {tail rest : List Char}, skipSpace tail = ']' :: rest →
      (chars (writeItems depth vs)).length ≤ steps →
        items steps (skipSpace (chars (writeItems depth vs) ++ tail)) = .ok (vs, rest)
  | [], hne, _, _, _, _, _, _, _ => absurd rfl hne
  | [v], _, hvs, depth, steps, tail, rest, htail, hsteps => by
    have hv := hvs v List.mem_cons_self
    have hline := length_newLine_pos depth
    rw [writeItems, chars_append] at hsteps ⊢
    rw [List.length_append] at hsteps
    cases steps with
    | zero => omega
    | succ steps =>
      rw [List.append_assoc, skipSpace_newLine, skipSpace_writeValue hv]
      exact items_last (value_writeValue hv depth steps tail (by omega)) htail
  | v :: w :: vs, _, hvs, depth, steps, tail, rest, htail, hsteps => by
    have hv := hvs v List.mem_cons_self
    have hline := length_newLine_pos depth
    have hcomma : chars ("," : Text) = [','] := rfl
    rw [writeItems, chars_append, chars_append, chars_append] at hsteps ⊢
    simp only [List.length_append] at hsteps
    cases steps with
    | zero => omega
    | succ steps =>
      simp only [List.append_assoc]
      rw [skipSpace_newLine, skipSpace_writeValue hv]
      have hitems := items_writeItems (List.cons_ne_nil w vs)
        (fun x hx => hvs x (List.mem_cons_of_mem _ hx)) depth steps htail (by omega)
      exact items_more (value_writeValue hv depth steps _ (by omega))
        (skipSpace_cons (by decide) _) hitems

theorem members_writeFields : ∀ {fs : List (Text × Json)}, fs ≠ [] →
    (∀ f ∈ fs, ¬ f.1.HasSurrogate) → (∀ f ∈ fs, f.2.IsPlain) →
      ∀ (depth steps : Nat) {tail rest : List Char}, skipSpace tail = '\x7d' :: rest →
        (chars (writeFields depth fs)).length ≤ steps →
          members steps (skipSpace (chars (writeFields depth fs) ++ tail)) = .ok (fs, rest)
  | [], hne, _, _, _, _, _, _, _, _ => absurd rfl hne
  | [(n, v)], _, hnames, hvalues, depth, steps, tail, rest, htail, hsteps => by
    have hn := hnames _ List.mem_cons_self
    have hv : v.IsPlain := hvalues _ List.mem_cons_self
    have hline := length_newLine_pos depth
    have hcolon : chars (": " : Text) = [':', ' '] := rfl
    simp only [writeFields, chars_append, chars_writeText, hcolon, List.length_append,
      List.length_cons, List.append_assoc, List.cons_append, List.nil_append] at hsteps ⊢
    cases steps with
    | zero => omega
    | succ steps =>
      rw [skipSpace_newLine, skipSpace_cons (by decide)]
      refine members_last (textBody_flatMap _ hn _) ?_ htail
      rw [skipSpace_space (by decide), skipSpace_writeValue hv]
      exact value_writeValue hv depth steps tail (by omega)
  | (n, v) :: f :: fs, _, hnames, hvalues, depth, steps, tail, rest, htail, hsteps => by
    have hn := hnames _ List.mem_cons_self
    have hv : v.IsPlain := hvalues _ List.mem_cons_self
    have hline := length_newLine_pos depth
    have hcolon : chars (": " : Text) = [':', ' '] := rfl
    have hcomma : chars ("," : Text) = [','] := rfl
    simp only [writeFields, chars_append, chars_writeText, hcolon, hcomma, List.length_append,
      List.length_cons, List.append_assoc, List.cons_append, List.nil_append] at hsteps ⊢
    cases steps with
    | zero => omega
    | succ steps =>
      have hfields := members_writeFields (List.cons_ne_nil f fs)
        (fun g hg => hnames g (List.mem_cons_of_mem _ hg))
        (fun g hg => hvalues g (List.mem_cons_of_mem _ hg)) depth steps htail (by omega)
      rw [skipSpace_newLine, skipSpace_cons (by decide)]
      refine members_more (textBody_flatMap _ hn _) ?_ (skipSpace_cons (by decide) _) hfields
      rw [skipSpace_space (by decide), skipSpace_writeValue hv]
      exact value_writeValue hv depth steps _ (by omega)

end

/-! ## Documents -/

/-- **A written document is read back.** -/
theorem read_write {v : Json} (hv : v.IsPlain) : read (chars v.write) = .ok v := by
  obtain ⟨c, rest, hwrite, hspace, -, hmark⟩ := exists_cons_writeValue hv 0
  have hread := value_writeValue hv 0 (2 * (c :: rest).length + 1) [] (by
    rw [hwrite]
    omega)
  rw [List.append_nil, hwrite] at hread
  have hdocument : document (c :: rest) = .ok v := by
    unfold document
    split
    · rename_i others heq
      exact absurd (List.cons.inj heq).1 hmark
    · rw [skipSpace_cons hspace, hread]
      rfl
  rw [write, hwrite, read, hdocument]
  rfl

/-! ## Newlines -/

/-- A carriage return is escaped like every other control. -/
theorem return_not_mem_escapeCodePoint (c : CodePoint) :
    CodePoint.ofChar '\r' ∉ escapeCodePoint c := by
  unfold escapeCodePoint
  split_ifs with hquote hbackslash hline hreturn htab hback hfeed hcontrol
  case pos => decide
  case pos => decide
  case pos => decide
  case pos => decide
  case pos => decide
  case pos => decide
  case pos => decide
  case pos =>
    have hdigits : ∀ n < 0x20, CodePoint.ofChar '\r' ∉
        CodePoint.ofChar '\\' :: CodePoint.ofChar 'u' :: ofChars (hexDigits 4 n) := by
      decide
    exact hdigits _ hcontrol
  case neg => simpa using Ne.symm hreturn

theorem return_not_mem_writeText (s : Text) : CodePoint.ofChar '\r' ∉ writeText s := by
  have hbody : CodePoint.ofChar '\r' ∉ s.flatMap escapeCodePoint := by
    intro hmem
    obtain ⟨c, -, hc⟩ := List.mem_flatMap.mp hmem
    exact return_not_mem_escapeCodePoint c hc
  have hquote : CodePoint.ofChar '\r' ∉ ("\"" : Text) := by decide
  simp [writeText, hbody, hquote]

theorem return_not_mem_newLine (depth : Nat) : CodePoint.ofChar '\r' ∉ newLine depth := by
  have hline : CodePoint.ofChar '\r' ≠ CodePoint.ofChar '\n' := by decide
  have hspace : CodePoint.ofChar '\r' ≠ CodePoint.ofChar ' ' := by decide
  simp [newLine, hline, hspace]

/-- What the writer puts around and between values. -/
theorem return_not_mem_marks : ∀ mark ∈ ["[", "]", "\x7b", "\x7d", ",", ": ", "[]", "\x7b\x7d"],
    CodePoint.ofChar '\r' ∉ ofString mark := by
  decide

mutual

theorem return_not_mem_writeValue (depth : Nat) :
    ∀ {v : Json}, v.IsPlain → CodePoint.ofChar '\r' ∉ writeValue depth v
  | .null, hv => nomatch hv
  | .bool _, hv => nomatch hv
  | .integer _, hv => nomatch hv
  | .number _, hv => nomatch hv
  | .text s, _ => by
    rw [writeValue]
    exact return_not_mem_writeText s
  | .array [], _ => by
    rw [writeValue]
    exact return_not_mem_marks _ (by simp)
  | .array (v :: vs), .array hvs => by
    have hitems := return_not_mem_writeItems (depth + 1) hvs
    simp [writeValue, hitems, return_not_mem_newLine, return_not_mem_marks]
  | .object [], _ => by
    rw [writeValue]
    exact return_not_mem_marks _ (by simp)
  | .object (f :: fs), .object _ hvalues => by
    have hfields := return_not_mem_writeFields (depth + 1) hvalues
    simp [writeValue, hfields, return_not_mem_newLine, return_not_mem_marks]

theorem return_not_mem_writeItems (depth : Nat) :
    ∀ {vs : List Json}, (∀ v ∈ vs, v.IsPlain) → CodePoint.ofChar '\r' ∉ writeItems depth vs
  | [], _ => by simp [writeItems]
  | [v], hvs => by
    have hv := return_not_mem_writeValue depth (hvs v List.mem_cons_self)
    simp [writeItems, hv, return_not_mem_newLine]
  | v :: w :: vs, hvs => by
    have hv := return_not_mem_writeValue depth (hvs v List.mem_cons_self)
    have hrest := return_not_mem_writeItems depth fun x hx => hvs x (List.mem_cons_of_mem _ hx)
    simp [writeItems, hv, hrest, return_not_mem_newLine, return_not_mem_marks]

theorem return_not_mem_writeFields (depth : Nat) : ∀ {fs : List (Text × Json)},
    (∀ f ∈ fs, f.2.IsPlain) → CodePoint.ofChar '\r' ∉ writeFields depth fs
  | [], _ => by simp [writeFields]
  | [(n, v)], hvalues => by
    have hv : CodePoint.ofChar '\r' ∉ writeValue depth v :=
      return_not_mem_writeValue depth (hvalues _ List.mem_cons_self)
    simp [writeFields, hv, return_not_mem_newLine, return_not_mem_marks, return_not_mem_writeText]
  | (n, v) :: f :: fs, hvalues => by
    have hv : CodePoint.ofChar '\r' ∉ writeValue depth v :=
      return_not_mem_writeValue depth (hvalues _ List.mem_cons_self)
    have hrest := return_not_mem_writeFields depth fun g hg => hvalues g (List.mem_cons_of_mem _ hg)
    simp [writeFields, hv, hrest, return_not_mem_newLine, return_not_mem_marks,
      return_not_mem_writeText]

end

/-- **A written document is read as it was written**, also by a reader that unifies newlines. -/
theorem read_unifyNewlines_write {v : Json} (hv : v.IsPlain) :
    read (unifyNewlines (chars v.write)) = .ok v := by
  have hreturn : '\r' ∉ chars v.write := by
    rw [mem_chars]
    exact return_not_mem_writeValue 0 hv
  rw [unifyNewlines_eq_self hreturn, read_write hv]

end Json

end Diagnostics
