import Diagnostics.Proofs.Text.Names

/-!
# Characters and their octets

A strict reading takes back what encoding wrote, and takes nothing else: octets are read as
characters exactly if they are the octets of these characters (`decode_eq_ok_iff`). The machine is
followed a character at a time. From between two characters the octets of a character lead it to
that character and back (`eventsFrom_octetsOf`), and where it tells a character first, the octets
of that character were in front (`exists_eq_octetsOf_append`). Both go through the four lengths of
an encoded character.
-/

set_option autoImplicit false

namespace Diagnostics

/-! ## Characters and their numbers -/

namespace CodePoint

/-- The numbers of characters are those below U+110000 that are no surrogates. -/
theorem toNat_bounds (c : Char) : c.toNat < 0xD800 ∨ 0xDFFF < c.toNat ∧ c.toNat < 0x110000 :=
  c.valid

theorem toNat_ofNat {n : Nat} (h : n < 0xD800 ∨ 0xDFFF < n ∧ n < 0x110000) :
    (Char.ofNat n).toNat = n := by
  have hvalid : n.isValidChar := h
  unfold Char.ofNat
  rw [dif_pos hvalid]
  rfl

@[simp] theorem toChar?_ofChar (c : Char) : (ofChar c).toChar? = some c := by
  have hvalue : (ofChar c).value = c.toNat := rfl
  simp [toChar?, hvalue]

/-- A code point that is no surrogate is a character. -/
theorem exists_ofChar {c : CodePoint} (h : c.isSurrogate = false) : ∃ x, c = ofChar x := by
  have hbounds := c.value_lt
  rw [Bool.eq_false_iff, Ne, isSurrogate_iff] at h
  refine ⟨Char.ofNat c.value, ?_⟩
  have hvalue : (Char.ofNat c.value).toNat = c.value := toNat_ofNat (by omega)
  cases c
  simp [ofChar, hvalue]

theorem toChar?_eq_some_iff {c : CodePoint} {x : Char} : c.toChar? = some x ↔ c = ofChar x := by
  constructor
  · intro h
    cases hc : c.isSurrogate with
    | true => simp [toChar?, hc] at h
    | false =>
      obtain ⟨y, rfl⟩ := exists_ofChar hc
      rw [toChar?_ofChar] at h
      rw [Option.some.inj h]
  · intro h
    rw [h, toChar?_ofChar]

end CodePoint

namespace Text

/-- The characters of a text; a surrogate is none. -/
def chars (s : Text) : List Char :=
  s.filterMap CodePoint.toChar?

@[simp] theorem chars_nil : chars [] = [] := rfl

@[simp] theorem chars_cons_ofChar (c : Char) (s : Text) :
    chars (CodePoint.ofChar c :: s) = c :: s.chars := by
  simp [chars]

@[simp] theorem chars_append (s t : Text) : chars (s ++ t) = s.chars ++ t.chars := by
  simp [chars]

@[simp] theorem chars_ofChars (cs : List Char) : chars (ofChars cs) = cs := by
  induction cs with
  | nil => rfl
  | cons c cs ih =>
    rw [ofChars, List.map_cons, chars_cons_ofChar]
    exact congrArg (c :: ·) ih

@[simp] theorem chars_ofString (s : String) : chars (ofString s) = s.toList :=
  chars_ofChars s.toList

theorem mem_chars {x : Char} {s : Text} : x ∈ s.chars ↔ CodePoint.ofChar x ∈ s := by
  simp [chars, CodePoint.toChar?_eq_some_iff]

/-- A text without surrogates is the text of its characters. -/
theorem ofChars_chars {s : Text} (h : ∀ c ∈ s, c.isSurrogate = false) : ofChars s.chars = s := by
  induction s with
  | nil => rfl
  | cons c s ih =>
    obtain ⟨x, rfl⟩ := CodePoint.exists_ofChar (h c List.mem_cons_self)
    have htail := ih fun d hd => h d (List.mem_cons_of_mem _ hd)
    rw [chars_cons_ofChar, ofChars, List.map_cons]
    exact congrArg (CodePoint.ofChar x :: ·) htail

end Text

end Diagnostics

namespace Diagnostics.Text.Utf8

open CodePoint

variable {p owed bits low high start span : Nat} {b : UInt8} {bs : List UInt8}

/-! ## Single steps of the machine -/

theorem eventsFrom_cons (p : Nat) (state : State) (b : UInt8) (bs : List UInt8) :
    eventsFrom p state (b :: bs) =
      (step p b state).1 ++ eventsFrom (p + 1) (step p b state).2 bs := by
  cases state <;> rfl

/-- The last octet owed completes the character under way. -/
theorem eventsFrom_last (howed : owed ≤ 1) (hlow : low ≤ b.toNat) (hhigh : b.toNat ≤ high) :
    eventsFrom p (.within owed bits low high start span) (b :: bs) =
      .char (Char.ofNat (bits * 64 + (b.toNat - 0x80))) :: eventsFrom (p + 1) .between bs := by
  simp [eventsFrom_cons, step, howed, hlow, hhigh]

/-- An octet within the bounds that is not the last one owed is added to the bits. -/
theorem eventsFrom_more (howed : 1 < owed) (hlow : low ≤ b.toNat) (hhigh : b.toNat ≤ high) :
    eventsFrom p (.within owed bits low high start span) (b :: bs) =
      eventsFrom (p + 1)
        (.within (owed - 1) (bits * 64 + (b.toNat - 0x80)) 0x80 0xBF start (span + 1)) bs := by
  simp [eventsFrom_cons, step, Nat.not_le.mpr howed, hlow, hhigh]

/-- Inside a character the machine tells a character only after an octet within the bounds. -/
theorem exists_of_within {c : Char} {es : List Event}
    (h : eventsFrom p (.within owed bits low high start span) bs = .char c :: es) :
    ∃ b rest, bs = b :: rest ∧ low ≤ b.toNat ∧ b.toNat ≤ high := by
  cases bs with
  | nil => simp [eventsFrom] at h
  | cons b bs =>
    refine ⟨b, bs, rfl, ?_⟩
    by_contra hout
    simp [eventsFrom_cons, step, hout] at h

theorem exists_of_last {c : Char} {es : List Event} (howed : owed ≤ 1)
    (h : eventsFrom p (.within owed bits low high start span) bs = .char c :: es) :
    ∃ b rest, bs = b :: rest ∧ low ≤ b.toNat ∧ b.toNat ≤ high ∧
      c = Char.ofNat (bits * 64 + (b.toNat - 0x80)) ∧
        es = eventsFrom (p + 1) .between rest := by
  obtain ⟨b, rest, rfl, hlow, hhigh⟩ := exists_of_within h
  rw [eventsFrom_last howed hlow hhigh] at h
  injection h with hc hes
  injection hc with hc
  exact ⟨b, rest, rfl, hlow, hhigh, hc.symm, hes.symm⟩

theorem exists_of_more {c : Char} {es : List Event} (howed : 1 < owed)
    (h : eventsFrom p (.within owed bits low high start span) bs = .char c :: es) :
    ∃ b rest, bs = b :: rest ∧ low ≤ b.toNat ∧ b.toNat ≤ high ∧
      eventsFrom (p + 1)
        (.within (owed - 1) (bits * 64 + (b.toNat - 0x80)) 0x80 0xBF start (span + 1)) rest =
          .char c :: es := by
  obtain ⟨b, rest, rfl, hlow, hhigh⟩ := exists_of_within h
  rw [eventsFrom_more howed hlow hhigh] at h
  exact ⟨b, rest, rfl, hlow, hhigh, h⟩

/-- A character under way is told, or told to be ill-formed. -/
theorem eventsFrom_within_ne_nil :
    eventsFrom p (.within owed bits low high start span) bs ≠ [] := by
  induction bs generalizing p owed bits low high span with
  | nil => simp [eventsFrom]
  | cons b bs ih =>
    by_cases hin : low ≤ b.toNat ∧ b.toNat ≤ high
    · by_cases howed : owed ≤ 1
      · simp [eventsFrom_last howed hin.1 hin.2]
      · rw [eventsFrom_more (Nat.not_le.mp howed) hin.1 hin.2]
        exact ih
    · simp [eventsFrom_cons, step, hin]

theorem eventsFrom_between_eq_nil_iff : eventsFrom p .between bs = [] ↔ bs = [] := by
  cases bs with
  | nil => simp [eventsFrom]
  | cons b bs =>
    simp only [eventsFrom_cons, step, begin, reduceCtorEq, iff_false]
    split_ifs
    all_goals simp [eventsFrom_within_ne_nil]

/-! ## Whole characters -/

theorem eventsFrom_lead_one (h : b.toNat < 0x80) :
    eventsFrom p .between (b :: bs) =
      .char (Char.ofNat b.toNat) :: eventsFrom (p + 1) .between bs := by
  simp [eventsFrom_cons, step, begin, h]

theorem eventsFrom_lead_two (hlow : 0xC2 ≤ b.toNat) (hhigh : b.toNat < 0xE0) :
    eventsFrom p .between (b :: bs) =
      eventsFrom (p + 1) (.within 1 (b.toNat - 0xC0) 0x80 0xBF p 1) bs := by
  have h1 : ¬ b.toNat < 0x80 := by omega
  have h2 : ¬ b.toNat < 0xC2 := by omega
  simp [eventsFrom_cons, step, begin, h1, h2, hhigh]

theorem eventsFrom_lead_three (hlow : 0xE0 ≤ b.toNat) (hhigh : b.toNat < 0xF0) :
    eventsFrom p .between (b :: bs) =
      eventsFrom (p + 1)
        (.within 2 (b.toNat - 0xE0) (if b.toNat = 0xE0 then 0xA0 else 0x80)
          (if b.toNat = 0xED then 0x9F else 0xBF) p 1) bs := by
  have h1 : ¬ b.toNat < 0x80 := by omega
  have h2 : ¬ b.toNat < 0xC2 := by omega
  have h3 : ¬ b.toNat < 0xE0 := by omega
  simp [eventsFrom_cons, step, begin, h1, h2, h3, hhigh]

theorem eventsFrom_lead_four (hlow : 0xF0 ≤ b.toNat) (hhigh : b.toNat < 0xF5) :
    eventsFrom p .between (b :: bs) =
      eventsFrom (p + 1)
        (.within 3 (b.toNat - 0xF0) (if b.toNat = 0xF0 then 0x90 else 0x80)
          (if b.toNat = 0xF4 then 0x8F else 0xBF) p 1) bs := by
  have h1 : ¬ b.toNat < 0x80 := by omega
  have h2 : ¬ b.toNat < 0xC2 := by omega
  have h3 : ¬ b.toNat < 0xE0 := by omega
  have h4 : ¬ b.toNat < 0xF0 := by omega
  simp [eventsFrom_cons, step, begin, h1, h2, h3, h4, hhigh]

/-- An octet that continues characters, or that no character begins with, is told as ill-formed. -/
theorem eventsFrom_no_lead (h : 0x80 ≤ b.toNat ∧ b.toNat < 0xC2 ∨ 0xF5 ≤ b.toNat) :
    eventsFrom p .between (b :: bs) =
      .malformed p 1 .startByte :: eventsFrom (p + 1) .between bs := by
  simp only [eventsFrom_cons, step, begin]
  split_ifs
  all_goals first | omega | rfl

/-- The octets of a character lead the machine to that character. -/
theorem eventsFrom_octetsOf (p : Nat) (c : Char) (bs : List UInt8) :
    eventsFrom p .between (octetsOf c.toNat ++ bs) =
      .char c :: eventsFrom (p + (octetsOf c.toNat).length) .between bs := by
  have hbounds := toNat_bounds c
  have hchar : ∀ n, n = c.toNat → Char.ofNat n = c := by
    intro n hn
    rw [hn, Char.ofNat_toNat]
  have hoctet : ∀ n < 256, (UInt8.ofNat n).toNat = n := fun _ => UInt8.toNat_ofNat_of_lt'
  unfold octetsOf
  split_ifs with h1 h2 h3
  · have ha := hoctet c.toNat (by omega)
    rw [List.singleton_append, eventsFrom_lead_one (by omega), ha, hchar _ rfl]
    rfl
  · have ha := hoctet (0xC0 + c.toNat / 64) (by omega)
    have hb := hoctet (0x80 + c.toNat % 64) (by omega)
    rw [List.cons_append, eventsFrom_lead_two (by omega) (by omega), List.singleton_append,
      eventsFrom_last (by omega) (by omega) (by omega), hchar _ (by omega)]
    rfl
  · have ha := hoctet (0xE0 + c.toNat / 4096) (by omega)
    have hb := hoctet (0x80 + c.toNat / 64 % 64) (by omega)
    have hc := hoctet (0x80 + c.toNat % 64) (by omega)
    rw [List.cons_append, eventsFrom_lead_three (by omega) (by omega), List.cons_append,
      eventsFrom_more (by omega) (by split_ifs <;> omega) (by split_ifs <;> omega),
      List.singleton_append, eventsFrom_last (by omega) (by omega) (by omega), hchar _ (by omega)]
    rfl
  · have ha := hoctet (0xF0 + c.toNat / 262144) (by omega)
    have hb := hoctet (0x80 + c.toNat / 4096 % 64) (by omega)
    have hc := hoctet (0x80 + c.toNat / 64 % 64) (by omega)
    have hd := hoctet (0x80 + c.toNat % 64) (by omega)
    rw [List.cons_append, eventsFrom_lead_four (by omega) (by omega), List.cons_append,
      eventsFrom_more (by omega) (by split_ifs <;> omega) (by split_ifs <;> omega),
      List.cons_append, eventsFrom_more (by omega) (by omega) (by omega),
      List.singleton_append, eventsFrom_last (by omega) (by omega) (by omega), hchar _ (by omega)]
    rfl

/-! ### The octets of each length -/

section

variable {a b d e : UInt8}

theorem ofNat_eq_of_eq_toNat {n : Nat} (h : n = b.toNat) : UInt8.ofNat n = b := by
  rw [h, UInt8.ofNat_toNat]

theorem octetsOf_one (ha : a.toNat < 0x80) : octetsOf a.toNat = [a] := by
  rw [octetsOf, if_pos ha, ofNat_eq_of_eq_toNat rfl]

theorem octetsOf_two (ha : 0xC2 ≤ a.toNat) (ha' : a.toNat < 0xE0) (hb : 0x80 ≤ b.toNat)
    (hb' : b.toNat ≤ 0xBF) :
    octetsOf ((a.toNat - 0xC0) * 64 + (b.toNat - 0x80)) = [a, b] := by
  rw [octetsOf, if_neg (by omega), if_pos (by omega), @ofNat_eq_of_eq_toNat a _ (by omega),
    @ofNat_eq_of_eq_toNat b _ (by omega)]

/-- The bound that comes with the first lead of this length rules out overlong forms. -/
theorem octetsOf_three (ha : 0xE0 ≤ a.toNat) (ha' : a.toNat < 0xF0) (hb : 0x80 ≤ b.toNat)
    (hb' : b.toNat ≤ 0xBF) (hd : 0x80 ≤ d.toNat) (hd' : d.toNat ≤ 0xBF)
    (hoverlong : a.toNat = 0xE0 → 0xA0 ≤ b.toNat) :
    octetsOf (((a.toNat - 0xE0) * 64 + (b.toNat - 0x80)) * 64 + (d.toNat - 0x80)) = [a, b, d] := by
  rw [octetsOf, if_neg (by omega), if_neg (by omega), if_pos (by omega),
    @ofNat_eq_of_eq_toNat a _ (by omega), @ofNat_eq_of_eq_toNat b _ (by omega),
    @ofNat_eq_of_eq_toNat d _ (by omega)]

theorem octetsOf_four (ha : 0xF0 ≤ a.toNat) (ha' : a.toNat < 0xF5) (hb : 0x80 ≤ b.toNat)
    (hb' : b.toNat ≤ 0xBF) (hd : 0x80 ≤ d.toNat) (hd' : d.toNat ≤ 0xBF) (he : 0x80 ≤ e.toNat)
    (he' : e.toNat ≤ 0xBF) (hoverlong : a.toNat = 0xF0 → 0x90 ≤ b.toNat) :
    octetsOf ((((a.toNat - 0xF0) * 64 + (b.toNat - 0x80)) * 64 + (d.toNat - 0x80)) * 64 +
      (e.toNat - 0x80)) = [a, b, d, e] := by
  rw [octetsOf, if_neg (by omega), if_neg (by omega), if_neg (by omega),
    @ofNat_eq_of_eq_toNat a _ (by omega), @ofNat_eq_of_eq_toNat b _ (by omega),
    @ofNat_eq_of_eq_toNat d _ (by omega), @ofNat_eq_of_eq_toNat e _ (by omega)]

end

/-- A character that the machine has put together has the octets that it was put together from. -/
theorem exists_append_of_octetsOf {c : Char} {n : Nat} {octets rest : List UInt8} {es : List Event}
    (hc : c = Char.ofNat n) (hn : n < 0xD800 ∨ 0xDFFF < n ∧ n < 0x110000)
    (hoctets : octetsOf n = octets)
    (hes : es = eventsFrom (p + octets.length) .between rest) :
    ∃ tail, octets ++ rest = octetsOf c.toNat ++ tail ∧
      es = eventsFrom (p + (octetsOf c.toNat).length) .between tail := by
  rw [hc, toNat_ofNat hn, hoctets]
  exact ⟨rest, rfl, hes⟩

/-- Where the machine tells a character first, the octets of that character were in front. -/
theorem exists_eq_octetsOf_append {c : Char} {es : List Event}
    (h : eventsFrom p .between bs = .char c :: es) :
    ∃ rest, bs = octetsOf c.toNat ++ rest ∧
      es = eventsFrom (p + (octetsOf c.toNat).length) .between rest := by
  cases bs with
  | nil => simp [eventsFrom] at h
  | cons a bs =>
    have ha := a.toNat_lt
    by_cases h1 : a.toNat < 0x80
    · rw [eventsFrom_lead_one h1] at h
      injection h with hc hes
      injection hc with hc
      exact exists_append_of_octetsOf hc.symm (by omega) (octetsOf_one h1) hes.symm
    by_cases h2 : a.toNat < 0xC2
    · simp [eventsFrom_no_lead (Or.inl ⟨Nat.not_lt.mp h1, h2⟩)] at h
    by_cases h3 : a.toNat < 0xE0
    · rw [eventsFrom_lead_two (by omega) h3] at h
      obtain ⟨b, rest, rfl, hb, hb', hc, hes⟩ := exists_of_last (by omega) h
      exact exists_append_of_octetsOf hc (by omega) (octetsOf_two (by omega) h3 hb hb') hes
    by_cases h4 : a.toNat < 0xF0
    · rw [eventsFrom_lead_three (by omega) h4] at h
      obtain ⟨b, _, rfl, hb, hb', h⟩ := exists_of_more (by omega) h
      obtain ⟨d, rest, rfl, hd, hd', hc, hes⟩ := exists_of_last (by omega) h
      have hoverlong : a.toNat = 0xE0 → 0xA0 ≤ b.toNat := by
        intro hlead
        simpa [hlead] using hb
      have hsurrogate : a.toNat = 0xED → b.toNat ≤ 0x9F := by
        intro hlead
        simpa [hlead] using hb'
      have hlow : 0x80 ≤ b.toNat := by split_ifs at hb <;> omega
      have hhigh : b.toNat ≤ 0xBF := by split_ifs at hb' <;> omega
      exact exists_append_of_octetsOf hc (by omega)
        (octetsOf_three (by omega) h4 hlow hhigh hd hd' hoverlong) hes
    by_cases h5 : a.toNat < 0xF5
    · rw [eventsFrom_lead_four (by omega) h5] at h
      obtain ⟨b, _, rfl, hb, hb', h⟩ := exists_of_more (by omega) h
      obtain ⟨d, _, rfl, hd, hd', h⟩ := exists_of_more (by omega) h
      obtain ⟨e, rest, rfl, he, he', hc, hes⟩ := exists_of_last (by omega) h
      have hoverlong : a.toNat = 0xF0 → 0x90 ≤ b.toNat := by
        intro hlead
        simpa [hlead] using hb
      have hlargest : a.toNat = 0xF4 → b.toNat ≤ 0x8F := by
        intro hlead
        simpa [hlead] using hb'
      have hlow : 0x80 ≤ b.toNat := by split_ifs at hb <;> omega
      have hhigh : b.toNat ≤ 0xBF := by split_ifs at hb' <;> omega
      exact exists_append_of_octetsOf hc (by omega)
        (octetsOf_four (by omega) h5 hlow hhigh hd hd' he he' hoverlong) hes
    · simp [eventsFrom_no_lead (Or.inr (Nat.not_lt.mp h5))] at h

theorem eventsFrom_eq_map_char_iff {cs : List Char} :
    eventsFrom p .between bs = cs.map Event.char ↔ bs = cs.flatMap fun c => octetsOf c.toNat := by
  induction cs generalizing p bs with
  | nil => simpa using eventsFrom_between_eq_nil_iff
  | cons c cs ih =>
    rw [List.map_cons, List.flatMap_cons]
    constructor
    · intro h
      obtain ⟨rest, rfl, hes⟩ := exists_eq_octetsOf_append h
      rw [ih.mp hes.symm]
    · intro h
      rw [h, eventsFrom_octetsOf, ih.mpr rfl]

/-! ## Strict readings -/

theorem strict_eq_ok_iff {octets : List UInt8} {es : List Event} {cs : List Char} :
    strict octets es = .ok cs ↔ es = cs.map Event.char := by
  induction es generalizing cs with
  | nil =>
    cases cs <;> simp [strict]
  | cons e es ih =>
    cases e with
    | malformed start span why =>
      cases cs <;> simp [strict]
    | char c =>
      cases hread : strict octets es with
      | error e =>
        have hne : ∀ cs, es ≠ List.map Event.char cs := by
          intro cs heq
          rw [ih.mpr heq] at hread
          cases hread
        cases cs <;> simp [strict, hread, Except.map, hne]
      | ok read =>
        obtain rfl := ih.mp hread
        have hchar : Function.Injective Event.char := by
          intro c d h
          injection h
        rw [strict, hread]
        show Except.ok (c :: read) = Except.ok cs ↔ List.map Event.char (c :: read) = _
        rw [List.map_injective_iff.mpr hchar |>.eq_iff, Except.ok.injEq]

/-- A text has octets if each of its code points has. -/
theorem encode_eq_ok_iff {s : Text} {octets : List UInt8} :
    encode s = .ok octets ↔
      (∀ c ∈ s, isEncodable c = true) ∧ (s.flatMap fun c => octetsOf c.value) = octets := by
  unfold encode
  rw [← @firstError?_eq_none_iff isEncodable 0]
  cases firstError? isEncodable 0 s with
  | none => simp
  | some e => simp

theorem encode_append_eq_ok_iff {s t : Text} {octets : List UInt8} :
    encode (s ++ t) = .ok octets ↔
      ∃ first others, encode s = .ok first ∧ encode t = .ok others ∧ first ++ others = octets := by
  simp only [encode_eq_ok_iff, List.forall_mem_append, List.flatMap_append]
  constructor
  · rintro ⟨⟨hs, ht⟩, rfl⟩
    exact ⟨_, _, ⟨hs, rfl⟩, ⟨ht, rfl⟩, rfl⟩
  · rintro ⟨_, _, ⟨hs, rfl⟩, ⟨ht, rfl⟩, rfl⟩
    exact ⟨⟨hs, ht⟩, rfl⟩

/-- Texts that are written one after another are written to the end exactly if they have octets as
one text, and these are what is written. -/
theorem encodeUntil_eq_none_iff {texts : List Text} {octets : List UInt8} :
    encodeUntil texts = (octets, none) ↔ encode texts.flatten = .ok octets := by
  induction texts generalizing octets with
  | nil => simp [encodeUntil, encode, firstError?]
  | cons s rest ih =>
    rw [List.flatten_cons, encode_append_eq_ok_iff]
    unfold encodeUntil
    cases encode s with
    | error e => simp
    | ok first =>
      dsimp only
      constructor
      · intro h
        obtain ⟨hoctets, hnone⟩ := Prod.mk.inj h
        exact ⟨first, _, rfl, ih.mp (Prod.ext rfl hnone), hoctets⟩
      · rintro ⟨_, others, ⟨⟩, hothers, rfl⟩
        rw [ih.mpr hothers]

theorem encode_ofChars (cs : List Char) :
    encode (ofChars cs) = .ok (cs.flatMap fun c => octetsOf c.toNat) := by
  have hall : firstError? isEncodable 0 (ofChars cs) = none := by
    rw [firstError?_eq_none_iff]
    simp [ofChars, isEncodable]
  rw [encode, hall, ofChars, List.flatMap_map]
  rfl

/-- **Reading takes back what was written.** Octets are read as characters exactly if they are the
octets that these characters are written with. -/
theorem decode_eq_ok_iff {octets : List UInt8} {cs : List Char} :
    decode octets = .ok cs ↔ encode (ofChars cs) = .ok octets := by
  rw [decode, strict_eq_ok_iff, events, eventsFrom_eq_map_char_iff, encode_ofChars]
  simp [eq_comm]

/-- The octets of a text are read as its characters. -/
theorem decode_of_encode {s : Text} {octets : List UInt8} (h : encode s = .ok octets) :
    decode octets = .ok s.chars := by
  rw [decode_eq_ok_iff, ofChars_chars]
  · exact h
  · intro c hc
    unfold encode at h
    split at h
    · cases h
    · rename_i hnone
      simpa [isEncodable] using firstError?_eq_none_iff.mp hnone c hc

end Diagnostics.Text.Utf8
