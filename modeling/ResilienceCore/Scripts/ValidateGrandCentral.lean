import ResilienceCore.Scripts.JsonSchema

/-!
# `validate-grand-central.py`

The script checks each `grandcentral.yml` named on its command line: first
against `GRAND_CENTRAL_SCHEMA`, whose most relevant error becomes the first
error, then against five platform rules (production requirements, deployment
hooks, integrations, autoscaling, entity synthesis), which add errors and
warnings.  A file passes when it has no error; the exit status is 0 when
every file passes.

What `yaml.safe_load` gives for a file and whether a hook script exists on
disk are the model's inputs.  The platform checks are plain Python over the
loaded value, so a value of the wrong type makes them raise: the exception
escapes `validate_grand_central`, and `main` ends with status 1.
-/

namespace ResilienceCore.ValidateGrandCentral

open JsonSchema

/-! ## `GRAND_CENTRAL_SCHEMA` -/

def isSlugChar (c : Char) : Bool := c.isLower || c.isDigit || c == '-'

/-- `[a-z0-9-]+$` from the start of `s`: `$` matches at the end, and also
before a newline that ends the string. -/
def slugToEnd (s : List Char) : Bool :=
  let body := if s.getLast? = some '\n' then s.dropLast else s
  !body.isEmpty && body.all isSlugChar

def slugSearch (s : String) : Bool := slugToEnd s.toList

def channelSearch (s : String) : Bool :=
  match s.toList with
  | '#' :: rest => slugToEnd rest
  | _ => false

def registrySearch (s : String) : Bool := pyStartsWith s "cf-registry.nr-ops.net"

def fipsImagePath : List Char := "cf-registry.nr-ops.net/newrelic/".toList

def fipsImageFrom : List Char → Bool
  | [] => false
  | c :: cs =>
      (fipsImagePath.isPrefixOf (c :: cs) &&
        decide ("-fips".toList <:+: ((c :: cs).drop fipsImagePath.length).takeWhile (· != '\n'))) ||
      fipsImageFrom cs

/-- `re.search("cf-registry\\.nr-ops\\.net/newrelic/.*-fips", s)`: not
anchored, and `.` matches any character but a newline. -/
def fipsImageSearch (s : String) : Bool := fipsImageFrom s.toList

def requiredKeys : List String := ["project_name", "team_name", "deploy_mechanism", "environments"]

def resourcesSchema : List Keyword :=
  [.type "object", .required ["requests", "limits"],
   .properties
    [("requests", [.type "object", .required ["cpu", "memory"]]),
     ("limits", [.type "object", .required ["memory"]])]]

def environmentSchema : List Keyword :=
  [.type "object", .required ["name"],
   .properties
    [("name", [.type "string", .enum ["development", "staging", "production"]]),
     ("kubernetes", [.type "object", .properties
        [("namespace", [.type "string"]),
         ("resources", resourcesSchema)]])]]

def dockerBuildSchema : List Keyword :=
  [.type "object",
   .properties
    [("registry", [.type "string", .pattern ⟨"^cf-registry\\.nr-ops\\.net", registrySearch⟩]),
     ("build_args", [.type "object", .properties
        [("BASE_IMAGE",
          [.type "string", .pattern ⟨"cf-registry\\.nr-ops\\.net/newrelic/.*-fips", fipsImageSearch⟩])]])]]

def grandCentralSchema : List Keyword :=
  [.type "object", .required requiredKeys,
   .properties
    [("project_name", [.type "string", .pattern ⟨"^[a-z0-9-]+$", slugSearch⟩, .minLength 3, .maxLength 50]),
     ("team_name", [.type "string", .pattern ⟨"^[a-z0-9-]+$", slugSearch⟩]),
     ("deploy_mechanism", [.type "string", .enum ["kubernetes", "terraform", "ecs"]]),
     ("slack_channel", [.type "string", .pattern ⟨"^#[a-z0-9-]+$", channelSearch⟩]),
     ("docker_build", dockerBuildSchema),
     ("environments", [.type "array", .minItems 1, .items environmentSchema]),
     ("change_management", [.type "object", .properties [("enabled", [.type "boolean"])]]),
     ("monitoring", [.type "object", .properties
        [("prometheus", [.type "object", .properties [("enabled", [.type "boolean"])]])]])]]

/-- The errors `validate(instance=config, schema=GRAND_CENTRAL_SCHEMA)`
raises, as the script records them: at most one. -/
def schemaLines (config : Json) : List String :=
  (bestMatch (schemaErrors grandCentralSchema config)).toList.map
    fun e => "Schema validation failed: " ++ e.message

/-! ## The platform checks -/

/-- `next((env for env in environments if env.get('name') == 'production'), None)`:
the generator stops at the first production environment, so only the
environments up to it are asked for their name. -/
def firstProduction : List Json → Except PyException (Option Json)
  | [] => .ok none
  | env :: envs => do
      let name ← env.pyGet "name" .null
      if name.eqStr "production" then pure (some env) else firstProduction envs

def cellsErrors (prodEnv : Json) : Except PyException (List String) := do
  if ← (← prodEnv.pyGet "kubernetes" (.obj [])).pyContains "cells" then
    let n ← (← (← prodEnv.subscript "kubernetes").subscript "cells").pyLen
    pure (if n < 2 then ["Production must deploy to at least 2 cells for HA"] else [])
  else pure []

def productionChecks (config prodEnv : Json) : Except PyException (List String × List String) := do
  let enabled ← (← config.pyGet "change_management" (.obj [])).pyGet "enabled" .null
  let windows ← prodEnv.pyContains "deployment_windows"
  let cellErrors ← cellsErrors prodEnv
  pure ((if enabled.truthy then [] else ["Production environment must have change_management enabled"]) ++
      cellErrors,
    if windows then [] else ["Production should define deployment_windows"])

def productionResult (config : Json) : Option Json → Except PyException (List String × List String)
  | some env => if env.truthy then productionChecks config env else pure ([], [])
  | none => pure ([], [])

def scriptError (scriptExists : String → Bool) (hookConfig : Json) : Except PyException (List String) := do
  if ← hookConfig.pyContains "script" then
    let script ← hookConfig.subscript "script"
    let path ← script.pyPath
    pure (if scriptExists path then [] else ["Hook script not found: " ++ script.pyStr])
  else pure []

def scriptErrors (scriptExists : String → Bool) : List Json → Except PyException (List String)
  | [] => pure []
  | hookConfig :: hookConfigs => do
      let here ← scriptError scriptExists hookConfig
      let rest ← scriptErrors scriptExists hookConfigs
      pure (here ++ rest)

def hookErrors (scriptExists : String → Bool) (hooks : Json) (hook : String) : Except PyException (List String) := do
  if ← hooks.pyContains hook then scriptErrors scriptExists (← (← hooks.subscript hook).pyIter)
  else pure ["Missing required deployment hook: " ++ hook]

def requiredHooks : List String := ["pre_deploy", "post_deploy"]

def hooksErrors (scriptExists : String → Bool) (hooks : Json) : List String → Except PyException (List String)
  | [] => pure []
  | hook :: rest => do
      let here ← hookErrors scriptExists hooks hook
      let more ← hooksErrors scriptExists hooks rest
      pure (here ++ more)

def hookChecks (scriptExists : String → Bool) (config : Json) : Except PyException (List String) := do
  if ← config.pyContains "base_environment" then
    let hooks ← (← config.subscript "base_environment").pyGet "deployment_hooks" (.obj [])
    hooksErrors scriptExists hooks requiredHooks
  else pure []

/-- What `str.lower()` makes of a character, as far as the ASCII letters of
the result go: an ASCII capital and the Kelvin sign become ASCII letters;
the secret words hold no `i`, the only other ASCII letter a lowercase
mapping yields. -/
def lowerChar (c : Char) : Char := if c = '\u212A' then 'k' else c.toLower

def secretWords : List String := ["password", "token", "key", "secret"]

def looksSecret (key : String) : Bool :=
  secretWords.any fun secret => decide (secret.toList <:+: key.toList.map lowerChar)

/-- The error for one env var: a secret-looking name whose value is not a
`secret_key_ref`. -/
def secretError (entry : String × Json) : Option String :=
  if looksSecret entry.1 && !pyStartsWith entry.2.pyStr "secret_key_ref:" then
    some ("Secret '" ++ entry.1 ++ "' should use secret_key_ref")
  else none

def integrationChecks (config : Json) : Except PyException (List String) := do
  let envVars ← (← config.pyGet "base_environment" (.obj [])).pyGet "env_vars" (.obj [])
  let hasAppName ← envVars.pyContains "NEW_RELIC_APP_NAME"
  let items ← envVars.pyItems
  pure ((if hasAppName then [] else ["Missing NEW_RELIC_APP_NAME environment variable"]) ++
    items.filterMap secretError)

def scalingWarning (env : Json) : Except PyException (List String) := do
  if (← (← env.pyGet "autoscaling" (.obj [])).pyGet "enabled" .null).truthy then
    let maxReplicas ← (← env.subscript "autoscaling").pyGet "max_replicas" (.num 0)
    if ← maxReplicas.pyGt 50 then
      let name ← env.subscript "name"
      pure ["Environment " ++ name.pyStr ++ " has very high max_replicas: " ++ maxReplicas.pyStr]
    else pure []
  else pure []

def scalingWarnings : List Json → Except PyException (List String)
  | [] => pure []
  | env :: envs => do
      let here ← scalingWarning env
      let rest ← scalingWarnings envs
      pure (here ++ rest)

def autoscalingWarnings (config : Json) : Except PyException (List String) := do
  scalingWarnings (← (← config.pyGet "environments" (.arr [])).pyIter)

def entityWarnings (config : Json) : Except PyException (List String) := do
  if ← config.pyContains "entity_synthesis" then pure []
  else pure ["Missing entity_synthesis configuration for observability"]

/-- Everything `validate_grand_central` does to a loaded configuration before
it prints: the errors and the warnings, in the order it appends them. -/
def checkConfig (scriptExists : String → Bool) (config : Json) :
    Except PyException (List String × List String) := do
  let prodEnv ← firstProduction (← (← config.pyGet "environments" (.arr [])).pyIter)
  let production ← productionResult config prodEnv
  let hookErrors ← hookChecks scriptExists config
  let integrationErrors ← integrationChecks config
  let scaling ← autoscalingWarnings config
  let entity ← entityWarnings config
  pure (schemaLines config ++ production.1 ++ hookErrors ++ integrationErrors,
    production.2 ++ scaling ++ entity)

/-! ## The script -/

def report (filePath : String) (errors warnings : List String) : List String :=
  ("\n🔍 Validating: " ++ filePath) ::
    ((if errors.isEmpty then [] else "\n❌ ERRORS:" :: errors.map ("  • " ++ ·)) ++
      (if warnings.isEmpty then [] else "\n⚠️  WARNINGS:" :: warnings.map ("  • " ++ ·)))

/-- `validate_grand_central(file_path)`, given what loading the file gives
(an `open` failure escapes; a `yaml.YAMLError` is caught, with its text):
the lines it prints and what it returns, or the exception that escapes it. -/
def validateGrandCentral (filePath : String) (scriptExists : String → Bool)
    (loaded : Except PyException (Except String Json)) : Except PyException (List String × Bool) := do
  match ← loaded with
  | .error message => pure (["❌ YAML parsing error: " ++ message], false)
  | .ok config =>
      let (errors, warnings) ← checkConfig scriptExists config
      if errors.isEmpty && warnings.isEmpty then pure (["✅ " ++ filePath ++ " - Valid"], true)
      else pure (report filePath errors warnings, errors.isEmpty)

/-- The loop of `main` over the files, with `all_valid` so far: the lines
printed and the exit status.  An exception ends the run with status 1. -/
def validateAll (scriptExists : String → Bool) :
    Bool → List (String × Except PyException (Except String Json)) → List String × ℕ
  | allValid, [] => ([], if allValid then 0 else 1)
  | allValid, (filePath, loaded) :: files =>
      match validateGrandCentral filePath scriptExists loaded with
      | .error _ => ([], 1)
      | .ok (printed, valid) =>
          let (rest, status) := validateAll scriptExists (allValid && valid) files
          (printed ++ rest, status)

def main (scriptExists : String → Bool) (files : List (String × Except PyException (Except String Json))) :
    List String × ℕ :=
  if files.isEmpty then (["Usage: validate-grand-central.py <grandcentral.yml>"], 1)
  else validateAll scriptExists true files

/-! ## The run of the script -/

theorem checkConfig_errors {scriptExists : String → Bool} {config : Json} {errors warnings : List String}
    (h : checkConfig scriptExists config = .ok (errors, warnings)) : ∃ more, errors = schemaLines config ++ more := by
  simp only [checkConfig, Except.bind_eq_ok] at h
  obtain ⟨_, -, _, -, _, -, _, -, _, -, _, -, _, -, _, -, h⟩ := h
  cases h
  exact ⟨_, List.append_assoc _ _ _ |>.trans (List.append_assoc _ _ _)⟩

theorem validateGrandCentral_config {filePath : String} {scriptExists : String → Bool} {config : Json}
    {printed : List String} {valid : Bool}
    (h : validateGrandCentral filePath scriptExists (.ok (.ok config)) = .ok (printed, valid)) :
    ∃ errors warnings, checkConfig scriptExists config = .ok (errors, warnings) ∧ valid = errors.isEmpty ∧
      (errors ≠ [] → printed = report filePath errors warnings) := by
  rcases hc : checkConfig scriptExists config with e | ⟨errors, warnings⟩
  · simp [validateGrandCentral, hc, bind, Except.bind] at h
  · refine ⟨errors, warnings, rfl, ?_⟩
    cases errors <;> cases warnings <;> simp_all [validateGrandCentral, bind, Except.bind, pure, Except.pure]

theorem validateAll_status (scriptExists : String → Bool) (files : List (String × Except PyException (Except String Json))) :
    ∀ allValid : Bool,
      ((validateAll scriptExists allValid files).2 = 0 ↔
        allValid = true ∧ ∀ f ∈ files, ∃ printed, validateGrandCentral f.1 scriptExists f.2 = .ok (printed, true)) ∧
      (validateAll scriptExists allValid files).2 ≤ 1 := by
  induction files with
  | nil => intro allValid; cases allValid <;> simp [validateAll]
  | cons file files ih =>
      intro allValid
      obtain ⟨filePath, loaded⟩ := file
      rcases h : validateGrandCentral filePath scriptExists loaded with e | ⟨printed, valid⟩
      · simp [validateAll, h]
      · cases valid <;> simp [validateAll, h, ih]

theorem exit_status_zero_iff_all_pass (scriptExists : String → Bool)
    (files : List (String × Except PyException (Except String Json))) :
    ((main scriptExists files).2 = 0 ↔
      files ≠ [] ∧ ∀ f ∈ files, ∃ printed, validateGrandCentral f.1 scriptExists f.2 = .ok (printed, true)) ∧
    (main scriptExists files).2 ≤ 1 := by
  cases files with
  | nil => simp [main]
  | cons f fs => simpa [main] using validateAll_status scriptExists (f :: fs) true

/-! ## The schema's error -/

theorem schemaLines_missing {fields : List (String × Json)} {name : String} {rest : List String}
    (hmissing : requiredKeys.filter (fun key => (dictGet fields key).isNone) = name :: rest) :
    schemaLines (.obj fields) = ["Schema validation failed: " ++ requiredMessage name] := by
  rw [schemaLines, grandCentralSchema, schemaErrors_object, hmissing, List.map_cons, List.cons_append,
    bestMatch_root rfl]
  · rfl
  · intro e he hroot
    rcases List.mem_append.1 he with he | he
    · obtain ⟨_, -, rfl⟩ := List.mem_map.1 he
      rfl
    · exact absurd hroot (path_ne_nil_of_mem_propertiesErrors he)

theorem missing_required_key_reported (scriptExists : String → Bool) (filePath : String)
    (fields : List (String × Json)) (name : String) (rest : List String)
    (hmissing : requiredKeys.filter (fun key => (dictGet fields key).isNone) = name :: rest)
    (printed : List String) (valid : Bool)
    (hrun : validateGrandCentral filePath scriptExists (.ok (.ok (.obj fields))) = .ok (printed, valid)) :
    valid = false ∧ "  • Schema validation failed: " ++ requiredMessage name ∈ printed := by
  obtain ⟨errors, warnings, hcheck, rfl, hprinted⟩ := validateGrandCentral_config hrun
  obtain ⟨more, rfl⟩ := checkConfig_errors hcheck
  rw [schemaLines_missing hmissing] at hprinted ⊢
  refine ⟨rfl, ?_⟩
  have hline : "  • Schema validation failed: " ++ requiredMessage name =
      "  • " ++ ("Schema validation failed: " ++ requiredMessage name) := by
    rw [← String.append_assoc]; rfl
  simp [hprinted (List.cons_ne_nil _ _), report, hline]

theorem empty_mapping_reports_project_name :
    ∃ printed, validateGrandCentral "grandcentral.yml" (fun _ => true) (.ok (.ok (.obj []))) = .ok (printed, false) ∧
      "  • Schema validation failed: 'project_name' is a required property" ∈ printed :=
  ⟨_, rfl, (missing_required_key_reported (fun _ => true) "grandcentral.yml" [] "project_name" _ rfl _ _ rfl).2⟩

end ResilienceCore.ValidateGrandCentral
