import Diagnostics.Proofs.Catalog.Grammar
import Diagnostics.Settings

/-!
# What settings say

Settings were read exactly if every field comes from its own variable (`Settings.IsReadFrom`), and
they are valid exactly if every value is in range (`Settings.IsInRange`). A complaint about settings
that were read is about a value that they have (`Settings.Warrants`).
-/

set_option autoImplicit false

namespace Diagnostics.Settings

variable {env : Environment} {staging : Option Path} {s : Settings}

/-- Each field of settings comes from one variable. -/
structure IsReadFrom (env : Environment) (staging : Option Path) (s : Settings) : Prop where
  staging : s.staging = staging.getD (Path.ofText ((value? env .stagingDir).getD "diag_bundle"))
  catalog : s.catalog = (stripped? env .catalogPath).map Path.ofText
  includeTrace : ∃ b, optional (bool .includeTrace) (value? env .includeTrace) = .ok b ∧
    s.includeTrace = b.getD false
  traceDwell : optional number (stripped? env .traceDwell) = .ok s.traceDwell
  queryAttempts : integer ((value? env .queryAttempts).getD "3") = .ok s.queryAttempts
  queryRetryDelay : number ((value? env .queryRetryDelay).getD "0") = .ok s.queryRetryDelay
  maxWorkers : optional integer (stripped? env .maxWorkers) = .ok s.maxWorkers
  powershell : s.powershell = (value? env .powershell).getD "powershell.exe"
  queryTimeout : number ((value? env .queryTimeout).getD "120") = .ok s.queryTimeout

theorem ofEnv_ok_iff : ofEnv env staging = .ok s ↔ s.IsReadFrom env staging := by
  simp only [ofEnv, Catalog.bind_ok_iff]
  constructor
  · rintro ⟨trace, htrace, dwell, hdwell, attempts, hattempts, delay, hdelay, workers, hworkers,
      timeout, htimeout, ⟨⟩⟩
    exact ⟨rfl, rfl, ⟨trace, htrace, rfl⟩, hdwell, hattempts, hdelay, hworkers, rfl, htimeout⟩
  · intro h
    obtain ⟨trace, htrace, hinclude⟩ := h.includeTrace
    refine ⟨trace, htrace, _, h.traceDwell, _, h.queryAttempts, _, h.queryRetryDelay, _,
      h.maxWorkers, _, h.queryTimeout, ?_⟩
    rw [← h.staging, ← h.catalog, ← hinclude, ← h.powershell]
    rfl

/-- What is asked of the values in settings. -/
structure IsInRange (s : Settings) : Prop where
  catalog : s.catalog ≠ none
  queryAttempts : 1 ≤ s.queryAttempts
  queryRetryDelay : ¬ s.queryRetryDelay < 0
  traceDwell : s.traceDwell.any (· < 0) = false
  maxWorkers : ∀ count ∈ s.maxWorkers, 1 ≤ count
  queryTimeout : ¬ s.queryTimeout ≤ 0

/-- What settings are like that are refused with a complaint. -/
def Warrants (s : Settings) : SettingsError → Prop
  | .catalogRequired => s.catalog = none
  | .outOfRange .queryAttempts _ => s.queryAttempts < 1
  | .outOfRange .queryRetryDelay _ => s.queryRetryDelay < 0
  | .outOfRange .traceDwell _ => ∃ dwell ∈ s.traceDwell, dwell < 0
  | .outOfRange .maxWorkers _ => ∃ count ∈ s.maxWorkers, count < 1
  | .outOfRange .queryTimeout _ => s.queryTimeout ≤ 0
  | _ => False

theorem validate_ok_iff : s.validate = .ok () ↔ s.IsInRange := by
  unfold validate
  constructor
  · intro h
    split_ifs at h with hcatalog hattempts hdelay hdwell hworkers htimeout
    refine ⟨fun hnone => hcatalog (by rw [hnone]; rfl), Int.not_lt.mp hattempts, hdelay,
      Bool.eq_false_iff.mpr hdwell, fun count hcount => Int.not_lt.mp fun hlt => ?_, htimeout⟩
    rw [Option.mem_def.mp hcount] at hworkers
    exact hworkers (decide_eq_true hlt)
  · intro h
    rw [if_neg, if_neg, if_neg h.queryRetryDelay, if_neg, if_neg, if_neg h.queryTimeout]
    · intro hany
      obtain ⟨count, hcount, hlt⟩ := (Option.any_eq_true _ _).mp hany
      exact absurd (of_decide_eq_true hlt) (Int.not_lt.mpr (h.maxWorkers count hcount))
    · rw [h.traceDwell]
      exact Bool.false_ne_true
    · exact Int.not_lt.mpr h.queryAttempts
    · exact fun hnone => h.catalog (Option.isNone_iff_eq_none.mp hnone)

/-- What settings are refused for is true of them. -/
theorem warrants_of_validate {e : SettingsError} (h : s.validate = .error e) : s.Warrants e := by
  unfold validate at h
  split_ifs at h with hcatalog hattempts hdelay hdwell hworkers htimeout
  · cases h
    exact Option.isNone_iff_eq_none.mp hcatalog
  · cases h
    exact hattempts
  · cases h
    exact hdelay
  · cases h
    obtain ⟨dwell, hdwell, hlt⟩ := (Option.any_eq_true _ _).mp hdwell
    exact ⟨dwell, hdwell, of_decide_eq_true hlt⟩
  · cases h
    obtain ⟨count, hcount, hlt⟩ := (Option.any_eq_true _ _).mp hworkers
    exact ⟨count, hcount, of_decide_eq_true hlt⟩
  · cases h
    exact htimeout

end Diagnostics.Settings
