import Diagnostics.Host

/-!
# What a machine refuses

A program can come to any end, and what it comes to is given beforehand. But there are things that
the machine refuses before any program has its say: a command line with a word that has no octets
(`Host.argvFault?`), a time limit that cannot be kept (`Host.limitError?`), a wait that cannot be
timed (`Host.waitError?`). None of them is an error of the operating system with a number, which is
what the callers of a program look out for; so each is told here apart from those.
-/

set_option autoImplicit false

namespace Diagnostics

/-! ## The words of a command line -/

/-- A text can be handed to the operating system: it has octets, and no zero among them. -/
def Text.HasOctets (s : Text) : Prop :=
  ∃ octets, Disk.pathOctets s = .ok octets

instance (s : Text) : Decidable s.HasOctets :=
  match h : Disk.pathOctets s with
  | .ok octets => .isTrue ⟨octets, h⟩
  | .error _ => .isFalse fun ⟨_, hok⟩ => nomatch h.symm.trans hok

/-- Every word of a command line can be handed to the operating system. -/
def WordsHaveOctets (argv : List Text) : Prop :=
  ∀ word ∈ argv, word.HasOctets

instance (argv : List Text) : Decidable (WordsHaveOctets argv) :=
  inferInstanceAs (Decidable (∀ word ∈ argv, word.HasOctets))

/-- A text without octets has a code point that stands for none, or a zero. -/
theorem Disk.pathOctets_error_cases {written : Text} {e : DiskError}
    (h : pathOctets written = .error e) :
    (∃ error, e = .unencodable error) ∨ e = .embeddedNul := by
  unfold pathOctets at h
  split at h
  · exact Or.inl ⟨_, (Except.error.inj h).symm⟩
  · split at h
    · exact Or.inr (Except.error.inj h).symm
    · cases h

namespace Host

theorem argvFault?_eq_none_iff {argv : List Text} :
    argvFault? argv = none ↔ WordsHaveOctets argv := by
  unfold WordsHaveOctets Text.HasOctets
  induction argv with
  | nil => simp [argvFault?]
  | cons word words ih =>
    rw [argvFault?, List.forall_mem_cons]
    cases Disk.pathOctets word with
    | ok octets => simpa using ih
    | error e => simp

theorem exists_argvFault? {argv : List Text} (h : ¬ WordsHaveOctets argv) :
    ∃ fault, argvFault? argv = some fault :=
  Option.ne_none_iff_exists'.mp fun hnone => h (argvFault?_eq_none_iff.mp hnone)

/-- A word without octets is told as what it is. -/
theorem argvFault?_cases {argv : List Text} {fault : Fault} (h : argvFault? argv = some fault) :
    (∃ error, fault = .unencodable error) ∨ fault = .embeddedNul := by
  induction argv with
  | nil => cases h
  | cons word words ih =>
    rw [argvFault?] at h
    split at h
    · exact ih h
    · rename_i e hword
      obtain rfl := Option.some.inj h
      rcases Disk.pathOctets_error_cases hword with ⟨error, rfl⟩ | rfl
      · exact Or.inl ⟨error, rfl⟩
      · exact Or.inr rfl

/-! ## Time limits -/

variable (host : Host) (timeout : Option Binary64)

@[simp] theorem limitError?_file (place : Location) :
    host.limitError? timeout (.file place) = none := rfl

/-- Only output that goes to the caller has its limit refused. -/
theorem limitError?_of_ne_capture {redirect : Redirect} (h : redirect ≠ .capture) :
    host.limitError? timeout redirect = none := by
  cases redirect with
  | capture => exact absurd rfl h
  | _ => rfl

/-! ## Waits -/

variable {host} {seconds : Binary64} {e : TimeError}

/-- The only thing wrong with a wait is that it goes beyond the clock. -/
theorem waitError?_eq_some_iff :
    host.waitError? seconds = some e ↔
      host.cancelled = false ∧ ¬ host.platform.CanWait seconds ∧ e = .beyondClock := by
  unfold waitError? Platform.CanWait Platform.waitError?
  cases host.cancelled with
  | true => simp
  | false =>
    rw [if_neg Bool.false_ne_true]
    split
    · simp only [Option.some.injEq, reduceCtorEq, not_false_eq_true, true_and]
      exact eq_comm
    · simp

theorem waitError?_eq_none_iff :
    host.waitError? seconds = none ↔ host.cancelled = true ∨ host.platform.CanWait seconds := by
  unfold waitError? Platform.CanWait
  cases host.cancelled <;> simp

/-- A wait is one call, whatever becomes of it. -/
@[simp] theorem wait_snd (host : Host) (seconds : Binary64) :
    (host.wait seconds).2 = host.note (.wait seconds host.cancelled) := rfl

theorem wait_of_error (h : host.waitError? seconds = some e) :
    host.wait seconds = (.error (.untimed e), host.note (.wait seconds host.cancelled)) := by
  unfold wait
  rw [h]

theorem wait_of_none (h : host.waitError? seconds = none) :
    host.wait seconds = (.ok (), host.note (.wait seconds host.cancelled)) := by
  unfold wait
  rw [h]

end Host

end Diagnostics
