import Diagnostics.Proofs.Gather.Run

/-!
# What a request gives goes before the environment

A request can give four things that the environment has variables for. What it gives stands in the
settings (`GatherRequest.IsMadeFrom`), so the settings depend on the other variables alone, and
everything that follows depends on the settings. All that is left of a variable that is overridden
is that its text has to be of the right form. A value that is out of range is no matter: settings
are validated when they say what the request says.
-/

set_option autoImplicit false

namespace Diagnostics

/-- Whether a request gives what a variable is for. -/
def GatherRequest.overrides (request : GatherRequest) : Variable → Bool
  | .stagingDir => request.staging.isSome
  | .catalogPath => request.catalog.isSome
  | .includeTrace => request.includeTrace.isSome
  | .traceDwell => request.traceDwell.isSome
  | _ => false

section

variable {env env' : Environment} {backend : Option Backend} {request : GatherRequest} {host : Host}

/-- The variables that a request leaves to the environment say the same in both. -/
def GatherRequest.AgreeOn (request : GatherRequest) (env env' : Environment) : Prop :=
  ∀ v, request.overrides v = false → Settings.value? env' v = Settings.value? env v

theorem GatherRequest.AgreeOn.stripped? (h : request.AgreeOn env env') {v : Variable}
    (hv : request.overrides v = false) : Settings.stripped? env' v = Settings.stripped? env v := by
  unfold Settings.stripped?
  rw [h v hv]

theorem given_or_congr {α : Type} {given x y : Option α} (h : given.isSome = false → x = y) :
    given.or x = given.or y := by
  cases given with
  | none => rw [h rfl]
  | some a => rfl

theorem given_getD_congr {α : Type} {given : Option α} {x y : α}
    (h : given.isSome = false → x = y) : given.getD x = given.getD y := by
  cases given with
  | none => exact h rfl
  | some a => rfl

/-- What is read of the same text is the same. -/
theorem read_unique {α : Type} {x y : Except SettingsError α} {a b : α} (hx : x = .ok a)
    (hy : y = .ok b) (h : y = x) : b = a :=
  Except.ok.inj (hy.symm.trans (h.trans hx))

theorem GatherRequest.settings_of_isReadFrom {s : Settings}
    (h : s.IsReadFrom env request.staging) :
    request.settings env = .ok { s with
      catalog := request.catalog.or s.catalog
      traceDwell := request.traceDwell.or s.traceDwell
      includeTrace := request.includeTrace.getD s.includeTrace } := by
  unfold GatherRequest.settings
  rw [Settings.ofEnv_ok_iff.mpr h]
  rfl

/-- **Settings depend on the variables that are not overridden**, as long as the others can be
read. -/
theorem GatherRequest.AgreeOn.settings_eq (h : request.AgreeOn env env') {s s' : Settings}
    (hread : Settings.ofEnv env request.staging = .ok s)
    (hread' : Settings.ofEnv env' request.staging = .ok s') :
    request.settings env' = request.settings env := by
  have hs := Settings.ofEnv_ok_iff.mp hread
  have hs' := Settings.ofEnv_ok_iff.mp hread'
  rw [settings_of_isReadFrom hs, settings_of_isReadFrom hs', Except.ok.injEq, Settings.mk.injEq]
  refine ⟨?hstaging, ?hcatalog, ?htrace, ?hdwell, ?hattempts, ?hdelay, ?hworkers, ?hpowershell,
    ?htimeout⟩
  case hstaging =>
    rw [hs.staging, hs'.staging]
    exact given_getD_congr fun hgiven => by rw [h .stagingDir hgiven]
  case hcatalog =>
    refine given_or_congr fun hgiven => ?_
    rw [hs.catalog, hs'.catalog, h.stripped? (v := .catalogPath) hgiven]
  case htrace =>
    refine given_getD_congr fun hgiven => ?_
    obtain ⟨b, hb, htrace⟩ := hs.includeTrace
    obtain ⟨b', hb', htrace'⟩ := hs'.includeTrace
    rw [htrace, htrace', read_unique hb hb' (by rw [h .includeTrace hgiven])]
  case hdwell =>
    exact given_or_congr fun hgiven =>
      read_unique hs.traceDwell hs'.traceDwell (by rw [h.stripped? (v := .traceDwell) hgiven])
  -- The other variables are never overridden.
  case hattempts =>
    exact read_unique hs.queryAttempts hs'.queryAttempts (by rw [h .queryAttempts rfl])
  case hdelay =>
    exact read_unique hs.queryRetryDelay hs'.queryRetryDelay (by rw [h .queryRetryDelay rfl])
  case hworkers =>
    exact read_unique hs.maxWorkers hs'.maxWorkers (by rw [h.stripped? (v := .maxWorkers) rfl])
  case hpowershell => rw [hs.powershell, hs'.powershell, h .powershell rfl]
  case htimeout =>
    exact read_unique hs.queryTimeout hs'.queryTimeout (by rw [h .queryTimeout rfl])

/-! ## Everything else depends on the settings -/

theorem GatherRequest.plan_congr (h : request.settings env' = request.settings env) (disk : Disk) :
    request.plan env' disk = request.plan env disk := by
  unfold plan
  rw [h]

theorem GatherRequest.CanEnd.of_settings_eq {ended : Except GatherFault GatherResult × Host}
    (hend : request.CanEnd env backend host ended)
    (h : request.settings env' = request.settings env) :
    request.CanEnd env' backend host ended := by
  have hplan := plan_congr h host.disk
  cases hend with
  | refused hrefused => exact .refused (hplan.trans hrefused)
  | unstaged hplanned hmade => exact .unstaged (hplan.trans hplanned) hmade
  | ran run =>
    exact .ran ⟨run.settings, run.groups, hplan.trans run.planned, run.begun, run.made, run.ended,
      run.steps, run.joined⟩

/-- A value that is refused although the request overrides its variable is the request's. -/
theorem GatherRequest.lt_zero_of_validate {settings : Settings} {v : Variable} {bound : String}
    (hsettings : request.settings env = .ok settings)
    (hvalid : settings.validate = .error (.outOfRange v bound))
    (hgiven : request.overrides v = true) :
    ∃ dwell, request.traceDwell = some dwell ∧ dwell < 0 := by
  obtain ⟨s, hs, hmade⟩ := Catalog.bind_ok_iff.mp hsettings
  cases hmade
  have hwarrants := Settings.warrants_of_validate hvalid
  cases v with
  | traceDwell =>
    obtain ⟨dwell, hdwell, hlt⟩ := hwarrants
    obtain ⟨given, hrequest⟩ := Option.isSome_iff_exists.mp hgiven
    refine ⟨given, hrequest, ?_⟩
    dsimp only at hdwell
    rw [hrequest, Option.some_or] at hdwell
    rwa [Option.mem_some_iff.mp hdwell]
  | stagingDir => exact hwarrants.elim
  | catalogPath => exact hwarrants.elim
  | includeTrace => exact hwarrants.elim
  | powershell => exact hwarrants.elim
  | queryAttempts => cases hgiven
  | queryRetryDelay => cases hgiven
  | maxWorkers => cases hgiven
  | queryTimeout => cases hgiven

/-- **What a request gives goes before the environment.** Two environments that can be read and
differ in nothing but variables that a request overrides are the same to it: on every machine it has
the same outcome, an error or a result, and leaves the same machine, and so it can by any schedule.
In particular no value of the environment is refused as out of range whose variable the request
overrides: what is refused then is the request's own. -/
theorem gather_shadows_environment (backend : Option Backend) (host : Host)
    (h : request.AgreeOn env env') {s s' : Settings}
    (hread : Settings.ofEnv env request.staging = .ok s)
    (hread' : Settings.ofEnv env' request.staging = .ok s') :
    gather env' backend request host = gather env backend request host ∧
      (∀ ended, request.CanEnd env' backend host ended ↔ request.CanEnd env backend host ended) ∧
      ∀ settings v bound, request.settings env = .ok settings →
        settings.validate = .error (.outOfRange v bound) → request.overrides v = true →
          ∃ dwell, request.traceDwell = some dwell ∧ dwell < 0 := by
  have hsettings := h.settings_eq hread hread'
  refine ⟨?_, fun ended => ⟨fun hend => hend.of_settings_eq hsettings.symm,
    fun hend => hend.of_settings_eq hsettings⟩, fun _ _ _ => GatherRequest.lt_zero_of_validate⟩
  rw [gather_eq, gather_eq, GatherRequest.plan_congr hsettings]

end

namespace GatherRun.Example

/-- An environment with a dwell that is out of range. -/
def outOfRange : Environment :=
  fun name => if name = Variable.traceDwell.name then some "-5" else none

/-- Asks for the groups of the catalog, with a dwell of its own. -/
def dwellRequest : GatherRequest :=
  { request "s" with traceDwell := some 0 }

/-- A machine with a catalog of one program. -/
def programmed : Host :=
  machine (catalog [("G", [task "process" (program "p" "o")])]) [] (printing "p" 1)

end GatherRun.Example

open GatherRun.Example

/-- A dwell below zero is refused, unless the request gives one: then it is as if the environment
had none. -/
theorem gather_shadows_environment_dwell :
    (gather outOfRange none (request "s") programmed).1 =
        .error (.settings (.outOfRange .traceDwell ">= 0")) ∧
      dwellRequest.AgreeOn (fun _ => none) outOfRange ∧
      (gather outOfRange none dwellRequest programmed).1.isOk = true ∧
      gather outOfRange none dwellRequest programmed =
        gather (fun _ => none) none dwellRequest programmed := by
  have hagree : dwellRequest.AgreeOn (fun _ => none) outOfRange := by
    intro v hv
    cases v with
    | traceDwell => cases hv
    | _ => rfl
  obtain ⟨hgather, -, -⟩ :=
    @gather_shadows_environment _ _ _ none programmed hagree _ _ rfl rfl
  exact ⟨by decide +kernel, hagree, by decide +kernel, hgather⟩

end Diagnostics
