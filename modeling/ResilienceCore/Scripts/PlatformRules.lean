import ResilienceCore.Scripts.ValidateGrandCentral

/-!
# What a passing configuration keeps

`validate_grand_central` returns `True` only when the schema finds nothing
and checks 1 to 3 add no error, without anything raising on the way.  So a
passing file is a dict whose first production environment has change
management on and, if it lists `cells` under `kubernetes`, at least two of
them; whose `base_environment` lists both deployment hooks, each hook config
naming a script on disk or none; and whose env vars hold
`NEW_RELIC_APP_NAME` and refer to a secret for every name that looks like
one.  A hook listed as a string passes: the check iterates its characters,
none of which holds `script`.
-/

namespace ResilienceCore.ValidateGrandCentral

open JsonSchema

/-! ## The rules -/

/-- An environment `env.get('name') == 'production'` picks. -/
def IsProduction (env : Json) : Prop :=
  ∃ fields, env = .obj fields ∧ dictGet fields "name" = some (.str "production")

/-- Check 1 found nothing wrong with the production environment `env`. -/
structure ProductionReady (config : List (String × Json)) (env : Json) : Prop where
  changeManagement : ∃ cm, dictGet config "change_management" = some (.obj cm) ∧
    (dictGetD cm "enabled" .null).truthy = true
  cells : ∀ envFields kubernetes cells, env = .obj envFields →
    dictGet envFields "kubernetes" = some (.obj kubernetes) → dictGet kubernetes "cells" = some cells →
    ∃ n, cells.pyLen = .ok n ∧ 2 ≤ n

/-- A hook config check 2 lets through: it names no `script`, or names a
script that is on disk. -/
def ScriptOk (scriptExists : String → Bool) (hookConfig : Json) : Prop :=
  hookConfig.pyContains "script" = .ok false ∨
    ∃ fields script, hookConfig = .obj fields ∧ dictGet fields "script" = some (.str script) ∧
      scriptExists script = true

/-- Check 2 found nothing wrong with `base_environment`: both hooks are
there, and every hook config under them is let through. -/
def HooksReady (scriptExists : String → Bool) (base : List (String × Json)) : Prop :=
  ∃ hooks, dictGet base "deployment_hooks" = some (.obj hooks) ∧
    ∀ hook ∈ requiredHooks, ∃ listed hookConfigs, dictGet hooks hook = some listed ∧
      listed.pyIter = .ok hookConfigs ∧ ∀ hookConfig ∈ hookConfigs, ScriptOk scriptExists hookConfig

/-- Check 3 found nothing wrong with `base_environment`. -/
def IntegrationsReady (base : List (String × Json)) : Prop :=
  ∃ envVars, dictGet base "env_vars" = some (.obj envVars) ∧ dictGet envVars "NEW_RELIC_APP_NAME" ≠ none ∧
    ∀ entry ∈ envVars, looksSecret entry.1 = true → pyStartsWith entry.2.pyStr "secret_key_ref:" = true

/-- The platform rules of checks 1 to 3, which a file without errors keeps. -/
structure PlatformRules (scriptExists : String → Bool) (config : List (String × Json)) : Prop where
  production : ∀ envs pre env post, dictGet config "environments" = some (.arr envs) →
    envs = pre ++ env :: post → (∀ e ∈ pre, ¬ IsProduction e) → IsProduction env → ProductionReady config env
  baseEnvironment : ∃ base, dictGet config "base_environment" = some (.obj base) ∧
    HooksReady scriptExists base ∧ IntegrationsReady base

/-! ## Each check -/

theorem firstProduction_first {r : Option Json} :
    ∀ {pre : List Json} {env : Json} {post : List Json}, firstProduction (pre ++ env :: post) = .ok r →
      (∀ e ∈ pre, ¬ IsProduction e) → IsProduction env → r = some env
  | [], env, post, h, _, ⟨fields, henv, hname⟩ => by
      subst henv
      simpa [firstProduction, Json.pyGet, dictGetD, hname, Json.eqStr, bind, Except.bind, pure, Except.pure,
        eq_comm] using h
  | e :: pre, env, post, h, hpre, hprod => by
      simp only [List.cons_append, firstProduction, Except.bind_eq_ok] at h
      obtain ⟨name, hname, h⟩ := h
      split at h
      · obtain ⟨fields, rfl, hget⟩ := Json.pyGet_eq_ok.1 hname
        refine absurd ⟨fields, rfl, ?_⟩ (hpre _ (.head _))
        exact dictGet_of_dictGetD (hget.trans (Json.eqStr_iff.1 ‹_›)) (by simp)
      · exact firstProduction_first h (fun e' he' => hpre e' (.tail _ he')) hprod

theorem cellsErrors_sound {env : Json} (h : cellsErrors env = .ok []) :
    ∀ envFields kubernetes cells, env = .obj envFields →
      dictGet envFields "kubernetes" = some (.obj kubernetes) → dictGet kubernetes "cells" = some cells →
      ∃ n, cells.pyLen = .ok n ∧ 2 ≤ n := by
  rintro envFields kubernetes cells rfl hkubernetes hcells
  simp only [cellsErrors, Except.bind_eq_ok] at h
  obtain ⟨_, hget, contains, hcontains, h⟩ := h
  obtain ⟨_, ⟨⟩, rfl⟩ := Json.pyGet_eq_ok.1 hget
  simp only [dictGetD, hkubernetes, Option.getD_some, Json.pyContains, any_key_of_dictGet hcells,
    Except.ok.injEq] at hcontains
  subst hcontains
  simp only [if_true, Except.bind_eq_ok] at h
  obtain ⟨_, hk, _, hc, n, hn, h⟩ := h
  rw [Json.subscript_eq_ok.2 ⟨_, rfl, hkubernetes⟩, Except.ok.injEq] at hk
  subst hk
  rw [Json.subscript_eq_ok.2 ⟨_, rfl, hcells⟩, Except.ok.injEq] at hc
  subst hc
  refine ⟨n, hn, ?_⟩
  by_contra hlt
  simp [hlt, pure, Except.pure] at h

theorem productionChecks_sound {config : List (String × Json)} {env : Json} {warnings : List String}
    (h : productionChecks (.obj config) env = .ok ([], warnings)) : ProductionReady config env := by
  simp only [productionChecks, Except.bind_eq_ok] at h
  obtain ⟨cm, hcm, enabled, henabled, windows, -, cellErrors, hcells, h⟩ := h
  simp only [pure, Except.pure, Except.ok.injEq, Prod.mk.injEq, List.append_eq_nil] at h
  obtain ⟨⟨htruthy, rfl⟩, -⟩ := h
  refine ⟨?_, cellsErrors_sound hcells⟩
  obtain ⟨cmFields, rfl, rfl⟩ := Json.pyGet_eq_ok.1 henabled
  have htrue : (dictGetD cmFields "enabled" .null).truthy = true := by
    by_contra hfalse
    simp [hfalse] at htruthy
  have hne : cmFields ≠ [] := by
    rintro rfl
    simp [dictGetD, Json.truthy] at htrue
  obtain ⟨_, ⟨⟩, hget⟩ := Json.pyGet_eq_ok.1 hcm
  exact ⟨cmFields, dictGet_of_dictGetD hget (by simpa using hne), htrue⟩

theorem scriptError_sound {scriptExists : String → Bool} {hookConfig : Json}
    (h : scriptError scriptExists hookConfig = .ok []) : ScriptOk scriptExists hookConfig := by
  simp only [scriptError, Except.bind_eq_ok] at h
  obtain ⟨contains, hcontains, h⟩ := h
  cases contains
  · exact .inl hcontains
  · simp only [if_true, Except.bind_eq_ok] at h
    obtain ⟨script, hscript, path, hpath, h⟩ := h
    obtain ⟨fields, rfl, hget⟩ := Json.subscript_eq_ok.1 hscript
    cases script <;> simp only [Json.pyPath, reduceCtorEq] at hpath
    cases hpath
    refine .inr ⟨fields, _, rfl, hget, ?_⟩
    by_contra hmissing
    simp [hmissing, pure, Except.pure] at h

theorem scriptErrors_sound {scriptExists : String → Bool} :
    ∀ {hookConfigs : List Json}, scriptErrors scriptExists hookConfigs = .ok [] →
      ∀ hookConfig ∈ hookConfigs, ScriptOk scriptExists hookConfig
  | [], _ => by simp
  | hookConfig :: hookConfigs, h => by
      simp only [scriptErrors, Except.bind_eq_ok] at h
      obtain ⟨here, hhere, rest, hrest, h⟩ := h
      simp only [pure, Except.pure, Except.ok.injEq, List.append_eq_nil] at h
      obtain ⟨rfl, rfl⟩ := h
      exact List.forall_mem_cons.2 ⟨scriptError_sound hhere, scriptErrors_sound hrest⟩

theorem hookErrors_sound {scriptExists : String → Bool} {hooks : Json} {hook : String}
    (h : hookErrors scriptExists hooks hook = .ok []) :
    ∃ fields listed hookConfigs, hooks = .obj fields ∧ dictGet fields hook = some listed ∧
      listed.pyIter = .ok hookConfigs ∧ ∀ hookConfig ∈ hookConfigs, ScriptOk scriptExists hookConfig := by
  simp only [hookErrors, Except.bind_eq_ok] at h
  obtain ⟨contains, -, h⟩ := h
  cases contains
  · simp [pure, Except.pure] at h
  · simp only [if_true, Except.bind_eq_ok] at h
    obtain ⟨listed, hlisted, hookConfigs, hiter, h⟩ := h
    obtain ⟨fields, rfl, hget⟩ := Json.subscript_eq_ok.1 hlisted
    exact ⟨fields, listed, hookConfigs, rfl, hget, hiter, scriptErrors_sound h⟩

theorem hooksErrors_sound {scriptExists : String → Bool} {hooks : Json} :
    ∀ {names : List String}, hooksErrors scriptExists hooks names = .ok [] →
      ∀ hook ∈ names, ∃ fields listed hookConfigs, hooks = .obj fields ∧ dictGet fields hook = some listed ∧
        listed.pyIter = .ok hookConfigs ∧ ∀ hookConfig ∈ hookConfigs, ScriptOk scriptExists hookConfig
  | [], _ => by simp
  | hook :: names, h => by
      simp only [hooksErrors, Except.bind_eq_ok] at h
      obtain ⟨here, hhere, more, hmore, h⟩ := h
      simp only [pure, Except.pure, Except.ok.injEq, List.append_eq_nil] at h
      obtain ⟨rfl, rfl⟩ := h
      exact List.forall_mem_cons.2 ⟨hookErrors_sound hhere, hooksErrors_sound hmore⟩

theorem hookChecks_sound {scriptExists : String → Bool} {config base : List (String × Json)}
    (h : hookChecks scriptExists (.obj config) = .ok [])
    (hbase : dictGet config "base_environment" = some (.obj base)) : HooksReady scriptExists base := by
  simp only [hookChecks, Json.pyContains, any_key_of_dictGet hbase, Except.bind_eq_ok] at h
  obtain ⟨_, ⟨⟩, h⟩ := h
  simp only [if_true, Except.bind_eq_ok] at h
  obtain ⟨_, hsub, hooks, hhooks, h⟩ := h
  rw [Json.subscript_eq_ok.2 ⟨_, rfl, hbase⟩, Except.ok.injEq] at hsub
  subst hsub
  have hready := hooksErrors_sound h
  obtain ⟨fields, _, _, rfl, hpre, -⟩ := hready "pre_deploy" (by decide)
  obtain ⟨_, ⟨⟩, hget⟩ := Json.pyGet_eq_ok.1 hhooks
  refine ⟨fields, dictGet_of_dictGetD hget ?_, fun hook hmem => ?_⟩
  · rintro ⟨⟩
    simp at hpre
  · obtain ⟨_, listed, hookConfigs, ⟨⟩, hlisted⟩ := hready hook hmem
    exact ⟨listed, hookConfigs, hlisted⟩

theorem integrationChecks_sound {config : List (String × Json)} (h : integrationChecks (.obj config) = .ok []) :
    ∃ base, dictGet config "base_environment" = some (.obj base) ∧ IntegrationsReady base := by
  simp only [integrationChecks, Except.bind_eq_ok] at h
  obtain ⟨base, hbase, envVars, henvVars, hasAppName, happ, items, hitems, h⟩ := h
  obtain ⟨_, ⟨⟩, hbaseGet⟩ := Json.pyGet_eq_ok.1 hbase
  obtain ⟨baseFields, rfl, henvGet⟩ := Json.pyGet_eq_ok.1 henvVars
  cases envVars <;> simp only [Json.pyItems, reduceCtorEq] at hitems
  cases hitems
  simp only [pure, Except.pure, Except.ok.injEq, List.append_eq_nil, List.filterMap_eq_nil_iff] at h
  obtain ⟨happName, hsecrets⟩ := h
  cases hasAppName
  · simp at happName
  have hname : dictGet items "NEW_RELIC_APP_NAME" ≠ none := by
    simp only [Json.pyContains, Except.ok.injEq] at happ
    exact dictGet_ne_none happ
  have hitemsNe : items ≠ [] := by
    rintro rfl
    simp at hname
  have hbaseNe : baseFields ≠ [] := by
    rintro rfl
    simp [dictGetD] at henvGet
    exact hitemsNe henvGet
  refine ⟨baseFields, dictGet_of_dictGetD hbaseGet (by simpa using hbaseNe),
    items, dictGet_of_dictGetD henvGet (by simpa using hitemsNe), hname, fun entry hentry hsecret => ?_⟩
  have hnone := hsecrets entry hentry
  simp only [secretError, hsecret, Bool.true_and] at hnone
  by_contra hplain
  simp [hplain] at hnone

theorem checkConfig_sound {scriptExists : String → Bool} {config : Json} {warnings : List String}
    (h : checkConfig scriptExists config = .ok ([], warnings)) :
    schemaErrors grandCentralSchema config = [] ∧ ∃ fields, config = .obj fields ∧ PlatformRules scriptExists fields := by
  simp only [checkConfig, Except.bind_eq_ok] at h
  obtain ⟨environments, henv, items, hitems, prodEnv, hprod, production, hproduction, hookErrs, hhooks,
    integrationErrs, hint, scaling, -, entity, -, h⟩ := h
  simp only [pure, Except.pure, Except.ok.injEq, Prod.mk.injEq, List.append_eq_nil] at h
  obtain ⟨⟨⟨⟨hschema, hprodErrs⟩, rfl⟩, rfl⟩, -⟩ := h
  obtain ⟨fields, rfl, henvGet⟩ := Json.pyGet_eq_ok.1 henv
  refine ⟨?_, fields, rfl, ⟨fun envs pre env post hgetEnvs hsplit hpre hisProd => ?_, ?_⟩⟩
  · apply (bestMatch_eq_none_iff _).1
    cases hbest : bestMatch (schemaErrors grandCentralSchema (.obj fields)) <;> simp_all [schemaLines]
  · rw [dictGetD, hgetEnvs, Option.getD_some] at henvGet
    subst henvGet hsplit
    cases hitems
    cases firstProduction_first hprod hpre hisProd
    obtain ⟨envFields, rfl, hname⟩ := hisProd
    have htruthy : (Json.obj envFields).truthy = true := by
      cases envFields <;> simp_all [Json.truthy]
    simp only [productionResult, htruthy, if_true] at hproduction
    obtain ⟨errs, warns⟩ := production
    cases hprodErrs
    exact productionChecks_sound hproduction
  · obtain ⟨base, hbase, hready⟩ := integrationChecks_sound hint
    exact ⟨base, hbase, hookChecks_sound hhooks hbase, hready⟩

/-! ## A passing file -/

theorem passing_file_keeps_platform_rules (scriptExists : String → Bool) (filePath : String) (config : Json)
    (printed : List String)
    (hpass : validateGrandCentral filePath scriptExists (.ok (.ok config)) = .ok (printed, true)) :
    schemaErrors grandCentralSchema config = [] ∧
      ∃ fields, config = .obj fields ∧ PlatformRules scriptExists fields := by
  obtain ⟨errors, warnings, hcheck, hvalid, -⟩ := validateGrandCentral_config hpass
  cases errors with
  | nil => exact checkConfig_sound hcheck
  | cons => simp at hvalid

/-- A configuration with one production environment on two cells, both
hooks, and the integrations in place. -/
def productionConfig : Json :=
  .obj [("project_name", .str "payments"), ("team_name", .str "core-platform"),
    ("deploy_mechanism", .str "kubernetes"),
    ("environments", .arr [.obj [("name", .str "production"), ("deployment_windows", .arr []),
      ("kubernetes", .obj [("cells", .arr [.str "us-a", .str "us-b"])])]]),
    ("change_management", .obj [("enabled", .bool true)]),
    ("base_environment", .obj [
      ("deployment_hooks", .obj [("pre_deploy", .arr [.obj [("script", .str "scripts/migrate.sh")]]),
        ("post_deploy", .arr [])]),
      ("env_vars", .obj [("NEW_RELIC_APP_NAME", .str "payments"), ("DB_PASSWORD", .str "secret_key_ref:db")])]),
    ("entity_synthesis", .obj [])]

theorem production_config_passes :
    validateGrandCentral "grandcentral.yml" (fun _ => true) (.ok (.ok productionConfig)) =
        .ok (["✅ grandcentral.yml - Valid"], true) ∧
      schemaErrors grandCentralSchema productionConfig = [] ∧
      ∃ fields, productionConfig = .obj fields ∧ PlatformRules (fun _ => true) fields :=
  ⟨rfl, passing_file_keeps_platform_rules (fun _ => true) "grandcentral.yml" productionConfig _ rfl⟩

end ResilienceCore.ValidateGrandCentral
