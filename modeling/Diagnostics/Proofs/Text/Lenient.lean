import Diagnostics.Proofs.Text.Utf8

/-!
# Reading whatever octets there are

Octets that are no characters can be read too, and what is read is settled without the machine.
Octets in front of others are ill-formed if no character is read there and they are as many as a
character may still begin with, or a single one that no character begins with (`IllFormed`). A
lenient reading puts U+FFFD in the place of each such sequence and goes on behind it (`Reads`). All
octets have one such reading, and it is the one of the machine (`reads_iff`).

The machine is followed an event at a time (`Tells`). Inside a character, the octets within its
bounds are exactly those with which a character goes on: others would lead it to an ill-formed
sequence where the character is read (`Leads.bounds`), and from within the bounds it comes to some
character in the end (`Leads.beginsChar`).
-/

set_option autoImplicit false

namespace Diagnostics.Text.Utf8

variable {p owed bits low high start span : Nat} {b : UInt8} {octets octets' bs rest : List UInt8}
  {why : Malformation} {es : List Event}

/-! ## Ill-formed sequences -/

/-- The octets of a character, or the first few of them. -/
def BeginsChar (octets : List UInt8) : Prop :=
  ∃ c : Char, octets <+: octetsOf c.toNat

/-- Octets that are ill-formed in front of others. -/
structure IllFormed (octets rest : List UInt8) : Prop where
  ne_nil : octets ≠ []
  no_char : ∀ c : Char, ¬ octetsOf c.toNat <+: octets ++ rest
  begins : octets.length = 1 ∨ BeginsChar octets
  longest : ∀ b ∈ rest.head?, ¬ BeginsChar (octets ++ [b])

theorem BeginsChar.of_append (h : BeginsChar (octets ++ rest)) : BeginsChar octets := by
  obtain ⟨c, hc⟩ := h
  exact ⟨c, (List.prefix_append octets rest).trans hc⟩

namespace IllFormed

/-- No octet of an ill-formed sequence is ASCII: by itself it would be a character. -/
theorem not_ascii (h : IllFormed octets rest) : ∀ b ∈ octets, 0x80 ≤ b.toNat := by
  intro b hb
  by_contra hascii
  have hlt : b.toNat < 0x80 := Nat.not_le.mp hascii
  have hchar : octetsOf (Char.ofNat b.toNat).toNat = [b] := by
    rw [CodePoint.toNat_ofNat (by omega), octetsOf_one hlt]
  have hfront : octets = [b] := by
    rcases h.begins with hlength | ⟨c, hc⟩
    · obtain ⟨a, rfl⟩ := List.length_eq_one_iff.mp hlength
      rw [List.mem_singleton.mp hb]
    · have hvalue : c.toNat = b.toNat :=
        eq_of_mem_octetsOf (CodePoint.ofChar c).value_lt hlt (hc.subset hb)
      obtain ⟨more, hmore⟩ := hc
      rw [hvalue, octetsOf_one hlt] at hmore
      obtain ⟨hnil, -⟩ | ⟨hfront, -⟩ := List.append_eq_singleton_iff.mp hmore
      · exact absurd hnil h.ne_nil
      · exact hfront
  apply h.no_char (Char.ofNat b.toNat)
  rw [hchar, hfront]
  exact List.prefix_append [b] rest

theorem eq_nil_of_append {more : List UInt8} (h : IllFormed octets (more ++ rest))
    (hmore : IllFormed (octets ++ more) rest) : more = [] := by
  cases more with
  | nil => rfl
  | cons b more =>
    have hpos := List.length_pos_iff.mpr h.ne_nil
    rcases hmore.begins with hlength | hbegins
    · rw [List.length_append, List.length_cons] at hlength
      omega
    · rw [List.append_cons] at hbegins
      exact absurd hbegins.of_append (h.longest b rfl)

/-- Where octets are ill-formed, no fewer and no more are. -/
theorem unique {rest' : List UInt8} (h : IllFormed octets rest) (h' : IllFormed octets' rest')
    (heq : octets ++ rest = octets' ++ rest') : octets = octets' ∧ rest = rest' := by
  rcases List.append_eq_append_iff.mp heq with ⟨more, rfl, rfl⟩ | ⟨more, rfl, rfl⟩
  · rw [h.eq_nil_of_append h']
    simp
  · rw [h'.eq_nil_of_append h]
    simp

end IllFormed

/-! ## The machine inside a character -/

/-- The octets take the machine from between two characters to the state, whatever comes behind
them. -/
def Leads (p : Nat) (octets : List UInt8) (state : State) : Prop :=
  ∀ bs, eventsFrom p .between (octets ++ bs) = eventsFrom (p + octets.length) state bs

/-- A character under way can be completed. -/
theorem exists_complete (hbounds : low ≤ high) (hhigh : high ≤ 0xBF) :
    ∃ octets c, eventsFrom p (.within owed bits low high start span) octets = [.char c] := by
  induction owed using Nat.strongRecOn generalizing p bits low high span with
  | _ owed ih =>
    have hlow : (UInt8.ofNat low).toNat = low :=
      UInt8.toNat_ofNat_of_lt' (show low < 256 by omega)
    by_cases howed : owed ≤ 1
    · exact ⟨[UInt8.ofNat low], _, eventsFrom_last howed (by omega) (by omega)⟩
    · obtain ⟨octets, c, h⟩ := @ih (owed - 1) (by omega) (p + 1)
        (bits * 64 + ((UInt8.ofNat low).toNat - 0x80)) 0x80 0xBF (span + 1) (by decide) (by decide)
      refine ⟨UInt8.ofNat low :: octets, c, ?_⟩
      rw [eventsFrom_more (by omega) (by omega) (by omega), h]

namespace Leads

theorem beginsChar (h : Leads p octets (.within owed bits low high start span))
    (hbounds : low ≤ high) (hhigh : high ≤ 0xBF) : BeginsChar octets := by
  obtain ⟨more, c, hmore⟩ := @exists_complete (p + octets.length) owed bits low high start span
    hbounds hhigh
  obtain ⟨rest, hoctets, hrest⟩ := exists_eq_octetsOf_append ((h more).trans hmore)
  rw [eventsFrom_between_eq_nil_iff.mp hrest.symm, List.append_nil] at hoctets
  exact ⟨c, more, hoctets⟩

theorem bounds (h : Leads p octets (.within owed bits low high start span))
    (hbegins : BeginsChar (octets ++ [b])) : low ≤ b.toNat ∧ b.toNat ≤ high := by
  obtain ⟨c, more, hmore⟩ := hbegins
  have hchar := eventsFrom_octetsOf p c []
  rw [List.append_nil, ← hmore, List.append_assoc, h] at hchar
  obtain ⟨d, _, hcons, hlow, hhigh⟩ := exists_of_within hchar
  cases hcons
  exact ⟨hlow, hhigh⟩

theorem more (h : Leads p octets (.within owed bits low high start span)) (howed : 1 < owed)
    (hlow : low ≤ b.toNat) (hhigh : b.toNat ≤ high) :
    Leads p (octets ++ [b])
      (.within (owed - 1) (bits * 64 + (b.toNat - 0x80)) 0x80 0xBF start (span + 1)) := by
  intro bs
  rw [List.append_assoc, h, List.singleton_append, eventsFrom_more howed hlow hhigh,
    List.length_append, List.length_singleton, Nat.add_assoc]

/-- A character under way that comes to nothing is told with its octets, which are as many as a
character may begin with, and the machine goes on behind them. -/
theorem exists_of_malformed (hleads : Leads p octets (.within owed bits low high p octets.length))
    (hbounds : low ≤ high) (hhigh : high ≤ 0xBF)
    (h : eventsFrom p .between (octets ++ bs) = .malformed start span why :: es) :
    start = p ∧ ∃ more rest, bs = more ++ rest ∧ span = (octets ++ more).length ∧
      es = eventsFrom (p + (octets ++ more).length) .between rest ∧
        BeginsChar (octets ++ more) ∧ ∀ b ∈ rest.head?, ¬ BeginsChar (octets ++ more ++ [b]) := by
  have hbegins := hleads.beginsChar hbounds hhigh
  induction bs generalizing octets owed bits low high with
  | nil =>
    rw [hleads] at h
    cases h
    refine ⟨rfl, [], [], rfl, ?_⟩
    rw [List.append_nil]
    exact ⟨rfl, rfl, hbegins, nofun⟩
  | cons b bs ih =>
    by_cases hin : low ≤ b.toNat ∧ b.toNat ≤ high
    · by_cases howed : owed ≤ 1
      · rw [hleads, eventsFrom_last howed hin.1 hin.2] at h
        cases h
      · have hmore := hleads.more (Nat.not_le.mp howed) hin.1 hin.2
        have hlength : (octets ++ [b]).length = octets.length + 1 := by simp
        rw [← hlength] at hmore
        rw [List.append_cons] at h
        obtain ⟨hstart, more, rest, rfl, hspan, hes, hbegins, hlongest⟩ :=
          ih hmore (by decide) (by decide) h (hmore.beginsChar (by decide) (by decide))
        rw [← List.append_cons] at hspan hes hbegins hlongest
        exact ⟨hstart, b :: more, rest, rfl, hspan, hes, hbegins, hlongest⟩
    · -- The octet begins what comes next.
      have hstep : eventsFrom (p + octets.length) (.within owed bits low high p octets.length)
          (b :: bs) = .malformed p octets.length .continuationByte ::
            eventsFrom (p + octets.length) .between (b :: bs) := by
        simp [eventsFrom_cons, step, hin]
      rw [hleads, hstep] at h
      cases h
      refine ⟨rfl, [], b :: bs, rfl, ?_⟩
      rw [List.append_nil]
      refine ⟨rfl, rfl, hbegins, fun d hd hmore => ?_⟩
      cases hd
      exact hin (hleads.bounds hmore)

end Leads

/-! ## The machine from one event to the next -/

/-- Where the machine tells an ill-formed sequence first, its octets were in front. -/
theorem exists_of_malformed (h : eventsFrom p .between bs = .malformed start span why :: es) :
    start = p ∧ ∃ octets rest, bs = octets ++ rest ∧ IllFormed octets rest ∧
      span = octets.length ∧ es = eventsFrom (p + octets.length) .between rest := by
  have hchar : ∀ c : Char, ¬ octetsOf c.toNat <+: bs := by
    rintro c ⟨rest, rfl⟩
    rw [eventsFrom_octetsOf] at h
    cases h
  cases bs with
  | nil => cases h
  | cons a bs =>
    -- A lead octet that comes to nothing is told with what was read after it.
    have hlead : ∀ {owed bits low high : Nat},
        Leads p [a] (.within owed bits low high p 1) → low ≤ high → high ≤ 0xBF →
          start = p ∧ ∃ octets rest, a :: bs = octets ++ rest ∧ IllFormed octets rest ∧
            span = octets.length ∧ es = eventsFrom (p + octets.length) .between rest := by
      intro owed bits low high hleads hbounds hhigh
      obtain ⟨hstart, more, rest, rfl, hspan, hes, hbegins, hlongest⟩ :=
        hleads.exists_of_malformed hbounds hhigh h
      exact ⟨hstart, a :: more, rest, rfl,
        ⟨List.cons_ne_nil _ _, hchar, Or.inr hbegins, hlongest⟩, hspan, hes⟩
    have hsingle : 0x80 ≤ a.toNat ∧ a.toNat < 0xC2 ∨ 0xF5 ≤ a.toNat →
          start = p ∧ ∃ octets rest, a :: bs = octets ++ rest ∧ IllFormed octets rest ∧
            span = octets.length ∧ es = eventsFrom (p + octets.length) .between rest := by
      intro ha
      rw [eventsFrom_no_lead ha] at h
      cases h
      refine ⟨rfl, [a], bs, rfl, ⟨List.cons_ne_nil _ _, hchar, Or.inl rfl, ?_⟩, rfl, rfl⟩
      rintro b - ⟨c, more, hmore⟩
      have hevents := eventsFrom_octetsOf p c []
      rw [List.append_nil, ← hmore, List.append_assoc, List.singleton_append,
        eventsFrom_no_lead ha] at hevents
      cases hevents
    by_cases h1 : a.toNat < 0x80
    · rw [eventsFrom_lead_one h1] at h
      cases h
    by_cases h2 : a.toNat < 0xC2
    · exact hsingle (by omega)
    by_cases h3 : a.toNat < 0xE0
    · exact hlead (fun _ => eventsFrom_lead_two (by omega) h3) (by decide) (by decide)
    by_cases h4 : a.toNat < 0xF0
    · exact hlead (fun _ => eventsFrom_lead_three (by omega) h4) (by split_ifs <;> omega)
        (by split_ifs <;> omega)
    by_cases h5 : a.toNat < 0xF5
    · exact hlead (fun _ => eventsFrom_lead_four (by omega) h5) (by split_ifs <;> omega)
        (by split_ifs <;> omega)
    · exact hsingle (by omega)

/-- What is told of octets from a position on: characters, and ill-formed sequences. -/
inductive Tells : Nat → List UInt8 → List Event → Prop where
  | nil (p : Nat) : Tells p [] []
  | char {p : Nat} {rest : List UInt8} {es : List Event} (c : Char)
      (behind : Tells (p + (octetsOf c.toNat).length) rest es) :
      Tells p (octetsOf c.toNat ++ rest) (.char c :: es)
  | malformed {p : Nat} {octets rest : List UInt8} {es : List Event} (why : Malformation)
      (ill : IllFormed octets rest) (behind : Tells (p + octets.length) rest es) :
      Tells p (octets ++ rest) (.malformed p octets.length why :: es)

/-- **The machine tells characters and ill-formed sequences**, one behind the other. -/
theorem tells_eventsFrom (p : Nat) (bs : List UInt8) : Tells p bs (eventsFrom p .between bs) := by
  induction hn : bs.length using Nat.strongRecOn generalizing p bs with
  | _ n ih =>
    -- What comes behind some octets is told from where they end.
    have hbehind : ∀ octets rest : List UInt8, bs = octets ++ rest → octets ≠ [] →
        ∀ q, Tells q rest (eventsFrom q .between rest) := by
      rintro octets rest rfl hne q
      have hlength := List.length_pos_iff.mpr hne
      rw [List.length_append] at hn
      exact ih rest.length (by omega) q rest rfl
    cases hevents : eventsFrom p .between bs with
    | nil =>
      rw [eventsFrom_between_eq_nil_iff.mp hevents]
      exact .nil p
    | cons e es =>
      cases e with
      | char c =>
        obtain ⟨rest, hbs, rfl⟩ := exists_eq_octetsOf_append hevents
        have hrest := hbehind _ rest hbs (octetsOf_ne_nil _) (p + (octetsOf c.toNat).length)
        rw [hbs]
        exact .char c hrest
      | malformed start span why =>
        obtain ⟨rfl, octets, rest, hbs, hill, rfl, rfl⟩ := exists_of_malformed hevents
        have hrest := hbehind octets rest hbs hill.ne_nil (start + octets.length)
        rw [hbs]
        exact .malformed why hill hrest

/-! ## Lenient readings -/

/-- The characters that octets are read as, whatever they are. -/
inductive Reads : List UInt8 → List Char → Prop where
  | nil : Reads [] []
  | char {rest : List UInt8} {cs : List Char} (c : Char) (behind : Reads rest cs) :
      Reads (octetsOf c.toNat ++ rest) (c :: cs)
  | illFormed {octets rest : List UInt8} {cs : List Char} (ill : IllFormed octets rest)
      (behind : Reads rest cs) : Reads (octets ++ rest) (Char.ofNat 0xFFFD :: cs)

/-- The character that an event is read as. -/
def readEvent : Event → Char
  | .char c => c
  | .malformed .. => Char.ofNat 0xFFFD

theorem decodeLossy_eq (octets : List UInt8) :
    decodeLossy octets = (events octets).map readEvent := by
  unfold decodeLossy
  refine congrArg (List.map · (events octets)) (funext fun e => ?_)
  cases e <;> rfl

theorem Tells.reads (h : Tells p bs es) : Reads bs (es.map readEvent) := by
  induction h with
  | nil p => exact .nil
  | char c behind ih => exact .char c ih
  | malformed why ill behind ih => exact .illFormed ill ih

/-- An ill-formed sequence leads the machine to an event that tells it. -/
theorem IllFormed.exists_eventsFrom (h : IllFormed octets rest) (p : Nat) :
    ∃ why, eventsFrom p .between (octets ++ rest) =
      .malformed p octets.length why :: eventsFrom (p + octets.length) .between rest := by
  cases hevents : eventsFrom p .between (octets ++ rest) with
  | nil =>
    have hnil := eventsFrom_between_eq_nil_iff.mp hevents
    exact absurd (List.append_eq_nil_iff.mp hnil).1 h.ne_nil
  | cons e es =>
    cases e with
    | char c =>
      obtain ⟨behind, heq, -⟩ := exists_eq_octetsOf_append hevents
      exact absurd ⟨behind, heq.symm⟩ (h.no_char c)
    | malformed start span why =>
      obtain ⟨rfl, octets', rest', heq, hill, rfl, rfl⟩ := exists_of_malformed hevents
      obtain ⟨rfl, rfl⟩ := h.unique hill heq
      exact ⟨why, rfl⟩

theorem Reads.eq_map_events {cs : List Char} (h : Reads bs cs) (p : Nat) :
    cs = (eventsFrom p .between bs).map readEvent := by
  induction h generalizing p with
  | nil => rfl
  | char c behind ih =>
    rw [eventsFrom_octetsOf, List.map_cons, ← ih]
    rfl
  | illFormed ill behind ih =>
    obtain ⟨why, hevents⟩ := ill.exists_eventsFrom p
    rw [hevents, List.map_cons, ← ih]
    rfl

/-- **Octets have one lenient reading**, and it is that of the machine. -/
theorem reads_iff {cs : List Char} : Reads octets cs ↔ cs = decodeLossy octets := by
  rw [decodeLossy_eq]
  constructor
  · intro h
    exact h.eq_map_events 0
  · rintro rfl
    exact (tells_eventsFrom 0 octets).reads

end Diagnostics.Text.Utf8
