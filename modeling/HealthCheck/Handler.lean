import HealthCheck.Report.Summary
import HealthCheck.Placeholder.Structure
import HealthCheck.Validation.Tasks

/-!
# HealthCheck — the Lambda handler

`lambda_handler` (`healthcheck.py`) runs one health check from end to end. Inside one `try` it
parses the input, checks the ARN components, builds the `placeholder_map`, loads the SKU's
expected configuration from the layer and resolves its placeholders, resolves the stream
references of a multiorg deployment, collects the expected Lambda names, runs the eleven
validations in parallel, builds the enhanced report and uploads it, and answers `200` with the
summary. Any exception on the way becomes the one `500` answer `Health check failed: {e}`, under
the execution id known at that point: `unknown` until the input is parsed.

What the code reads from outside — the environment, STS, the layer's files, the stream discovery,
what each validation task returns, the order in which the futures complete, and the upload — is
one record of collaborators. The clock, the logging and the JSON encoding of the body are left
out.

* `arnComponentsCheck_of_parseInputParameters` — the ARN check inside the `try` never fires: every
  parsed input has a partition, an account and an instance id;
* `lambdaHandler_verdict` — when every stage before the validators goes through, the answer is a
  `200` whose summary is the summary of the tasks, `HEALTHY` exactly when every task returned only
  healthy items, whatever the completion order;
* `lambdaHandler_of_pass_error` — a Lambda prefix the cleanup cannot compile turns every run on a
  configuration that holds a string into the one `500` of the template's error;
* `resolveStreamReferences_eq` — the multiorg step sets each mapping's event source to the ARN
  discovered for the stream it names, and leaves every other mapping as it was;
* `lambdaHandler_deployed_verdict` — with the deployment's own validators the verdict is
  `UNHEALTHY` when a task raised or reported a 500, else `WARNING` when the Lambda task reported
  the `ProviderCreator` warning, else `HEALTHY`.
-/

namespace HealthCheck

/-! ## §1 — collaborators and the response -/

/-- What `lambda_handler` reads from outside the code. -/
structure Collaborators where
  /-- `os.environ`. -/
  env : Environ
  /-- `str.isalnum` on one character: Unicode's letters and digits. -/
  isalnum : Char → Bool
  /-- The account STS reports, or the text of the exception it raised. -/
  sts : Except String String
  /-- What `generate_execution_id()` returns. -/
  generatedId : String
  /-- `load_expected_from_layer(sku)`: the parsed file of the SKU, or the exception. -/
  loadExpected : String → Except String PyVal
  /-- `discover_connect_streams(instance_id, region)`. -/
  discovery : StreamDiscovery
  /-- What the future of each validation task holds, from the configuration and the Lambda names
  in configuration order; the validators iterate the set of them in a `SetOrder`. -/
  validators : PyVal → List PyVal → String → Except String PyVal
  /-- The order in which `as_completed` yields the futures. -/
  completionOrder : List String
  /-- `upload_report_to_s3(health_input, report, execution_id)`: the URL, or `None` when the upload
  failed (it catches its own exceptions). -/
  upload : HealthCheckInput → PyVal → String → Option String

/-- The answer of `lambda_handler`: the status code, the execution id — which the `X-Execution-ID`
header and the body's first field both carry — and the rest of the body, before `json.dumps`. -/
structure Response where
  statusCode : Nat
  executionId : String
  body : List (String × PyVal)

/-- The answer as the dict the handler returns. -/
def Response.toPyVal (r : Response) : PyVal :=
  .dict [("statusCode", .int r.statusCode),
    ("headers", .dict [("Content-Type", .str "application/json"),
      ("X-Execution-ID", .str r.executionId)]),
    ("body", .dict (("execution_id", .str r.executionId) :: r.body))]

/-- The `except` branch. -/
def failureResponse (executionId e : String) : Response :=
  ⟨500, executionId, [("error", .str ("Health check failed: " ++ e))]⟩

/-! ## §2 — the multiorg stream step -/

/-- `resolve_dynamic_stream_references(event_source, discovered_streams)`: a string naming the CTR
stream (tested first) or the Contact Lens stream becomes the ARN discovered for it, `None` when
none was; any other string is kept, and a value that is not a string gives `None`. -/
def resolveDynamicStreamReferences (eventSource : PyVal) (found : DiscoveredStreams) :
    Option String :=
  match eventSource with
  | .str s =>
    if occurs ctrStreamRef.toList s.toList then found.ctrStreamArn
    else if occurs contactLensStreamRef.toList s.toList then found.contactLensStreamArn
    else some s
  | _ => none

/-- `d[key] = value` on a dict's bindings: an existing key keeps its place, a new one is appended. -/
def setItem : List (String × PyVal) → String → PyVal → List (String × PyVal)
  | [], key, value => [(key, value)]
  | (k, v) :: kvs, key, value =>
    if k = key then (key, value) :: kvs else (k, v) :: setItem kvs key value

/-- One pass of the multiorg loop: the mapping's `event_source` (default `""`) is resolved, and a
result that differs from it is written back; a source left unresolved is tested for the custom
resource's name, which raises when it is not iterable. Only a dict has `get`. -/
def resolveMappingStream (found : DiscoveredStreams) : PyVal → Except String PyVal
  | .dict kvs =>
    let original := (kvs.lookup "event_source").getD (.str "")
    match resolveDynamicStreamReferences original found with
    | some resolved =>
      if (PyVal.str resolved).pyEq original then .ok (.dict kvs)
      else .ok (.dict (setItem kvs "event_source" (.str resolved)))
    | none => do
      let _ ← original.contains (.str "MultiorgStreamDiscoveryCustomResource")
      pure (.dict kvs)
  | v => .error ("'" ++ v.typeName ++ "' object has no attribute 'get'")

/-- The multiorg step: when the configuration has `EventSourceMappings`, its length is read (for
the log) and each mapping is resolved in turn. The loop updates the mappings in place; only a list
holds mappings the loop can reach (the keys of a dict and the characters of a string have no
`get`), so any other container comes through as it was. -/
def resolveStreamReferences (found : DiscoveredStreams) (cfg : PyVal) : Except String PyVal := do
  if ← cfg.contains (.str "EventSourceMappings") then
    let mappings ← cfg.item "EventSourceMappings"
    let _ ← mappings.len
    let resolved ← (← mappings.iter).mapM (resolveMappingStream found)
    match cfg, mappings with
    | .dict kvs, .list _ => pure (.dict (setItem kvs "EventSourceMappings" (.list resolved)))
    | _, _ => pure cfg
  else pure cfg

/-! ## §3 — the handler -/

/-- `{fn["name"] for fn in cfg.get("LambdaFunctions", [])}`, the names in configuration order. -/
def allLambdaNames (cfg : PyVal) : Except String (List PyVal) := do
  let functions ← (← cfg.getD "LambdaFunctions" (.list [])).iter
  functions.mapM fun fn => do PyVal.hashable (← fn.item "name")

/-- `MultiThreadedValidator(health_input, cfg)` run once: the reports and `validator.errors`. -/
def runValidator (maxThreads : PyVal) (outcome : String → Except String PyVal)
    (order : List String) : Except String (List PyVal × List String) :=
  match validateAllResourcesParallel maxThreads outcome order ⟨[], []⟩ with
  | .ok report c => .ok (report, c.errors)
  | .error e _ => .error e

/-- `if not ACCOUNT_ID or not partition or not CONNECT_INSTANCE_ID: raise ...`. -/
def arnComponentsCheck (input : HealthCheckInput) : Except String Unit :=
  if input.accountId = "" || input.partition = "" || input.connectInstanceId = "" then
    .error "Invalid ARN components extracted"
  else .ok ()

/-- The configuration the validators check: the SKU's file with its placeholders resolved, and on
a multiorg deployment its stream references resolved from a discovery of the instance's
streams. -/
def expectedConfig (c : Collaborators) (input : HealthCheckInput) : Except String PyVal := do
  let cfgRaw ← c.loadExpected input.sku
  let cfg ← replacePlaceholders c.discovery (placeholderMap input) cfgRaw
  if input.sku = "multiorg" && input.connectInstanceId != "" then
    resolveStreamReferences (c.discovery input.connectInstanceId (some input.region)) cfg
  else pure cfg

/-- `response_body["s3_report"]`; `if s3_url:` takes `None` and `""` as a failed upload. -/
def s3Report (input : HealthCheckInput) (s3Url : Option String) : PyVal :=
  let bucket : PyVal := (input.s3BucketForReports.map PyVal.str).getD .none
  let key : PyVal := .str ("health_report/" ++ input.executionId ++ ".json")
  match s3Url.filter (· != "") with
  | some url => .dict [("url", .str url), ("bucket", bucket), ("key", key), ("status", .str "uploaded")]
  | none => .dict [("status", .str "failed"), ("bucket", bucket), ("key", key),
      ("error", .str "Failed to upload report to S3")]

/-- The body of the `200` answer after its execution id; the detailed results and the errors
only when `include_detailed_errors` is truthy. -/
def responseBody (input : HealthCheckInput) (overallStatus summary : PyVal)
    (s3Url : Option String) (fullReport : List PyVal) (errors : List String) :
    List (String × PyVal) :=
  [("overall_status", overallStatus), ("summary", summary), ("s3_report", s3Report input s3Url)] ++
    if input.includeDetailedErrors.truthy then
      [("detailed_results", .list fullReport), ("errors", .list (errors.map .str))]
    else []

/-- The stages after the ARN check: configuration, names, validation, report, upload. -/
def healthCheckStages (c : Collaborators) (input : HealthCheckInput) :
    Except String (List (String × PyVal)) := do
  let cfg ← expectedConfig c input
  let names ← allLambdaNames cfg
  let (fullReport, errors) ← runValidator input.maxThreads (c.validators cfg names) c.completionOrder
  let enhanced ← generateEnhancedReport input fullReport errors
  let summary ← enhanced.item "summary"
  let overall ← summary.item "overall_status"
  pure (responseBody input overall summary (c.upload input enhanced input.executionId) fullReport
    errors)

/-- The `try` block after `parse_input_parameters`. -/
def healthCheckRun (c : Collaborators) (input : HealthCheckInput) :
    Except String (List (String × PyVal)) := do
  arnComponentsCheck input
  healthCheckStages c input

/-- `lambda_handler(event, context)`. -/
def lambdaHandler (c : Collaborators) (event : PyVal) : Response :=
  match parseInputParameters c.isalnum c.env event c.sts c.generatedId with
  | .error e => failureResponse "unknown" e
  | .ok input =>
    match healthCheckRun c input with
    | .ok body => ⟨200, input.executionId, body⟩
    | .error e => failureResponse input.executionId e

/-- The environment of a RESELL deployment, with `LAMBDA_PREFIX` set when `lambdaPrefix` is. -/
def resellEnv (lambdaPrefix : Option String) : Environ := fun name =>
  ([("CONNECT_INSTANCE_ID", "12345678-1234-1234-1234-123456789012"), ("AWS_REGION", "us-west-2"),
    ("VERSION", "1.0"), ("CALL_CENTER_API_NAME", "cc"), ("SKU", "RESELL"),
    ("S3_BUCKET_FOR_TENANT_RESOURCES", "bucket")] ++
    (lambdaPrefix.map ("LAMBDA_PREFIX", ·)).toList).lookup name

theorem resellEnv_configured (lambdaPrefix : Option String) :
    Configured (resellEnv lambdaPrefix) (.ok "123456789012") "us-west-2" "123456789012"
      "12345678-1234-1234-1234-123456789012" := by
  refine ⟨rfl, by decide, rfl, ⟨by decide, by decide⟩, rfl, ⟨by decide, by decide⟩, ?_, ?_, ?_, ?_⟩ <;>
    simp [resellEnv, orDefault, List.lookup]

/-! ## §4 — the ARN check never fires

`parse_input_parameters` returns the groups of the ARN it parsed, and the parser refuses an empty
group, so the handler's test for an empty account, partition or instance id is dead code. -/

section Parsed

variable {c : Collaborators} {event : PyVal} {input : HealthCheckInput}

/-- **The ARN check passes on every parsed input.** -/
theorem arnComponentsCheck_of_parseInputParameters {isalnum : Char → Bool} {env : Environ}
    {sts : Except String String} {generatedId : String}
    (h : parseInputParameters isalnum env event sts generatedId = .ok input) :
    arnComponentsCheck input = .ok () := by
  obtain ⟨ha, hp, hi⟩ := parseInputParameters_arn_fields h
  simp [arnComponentsCheck, ha, hp, hi]

theorem arnComponentsCheck_of_parseInputParameters_example :
    ∃ input, parseInputParameters Char.isAlphanum (resellEnv none) (.dict []) (.ok "123456789012")
      "run" = .ok input ∧ arnComponentsCheck input = .ok () :=
  have h := (resellEnv_configured none).parseInputParameters_eq Char.isAlphanum
    (show ([] : List (String × PyVal)).lookup "execution_id" = none from rfl) "run"
  ⟨_, h, arnComponentsCheck_of_parseInputParameters h⟩

theorem healthCheckRun_of_parse (h : parseInputParameters c.isalnum c.env event c.sts c.generatedId = .ok input) :
    healthCheckRun c input = healthCheckStages c input := by
  obtain ⟨ha, hp, hi⟩ := parseInputParameters_arn_fields h
  simp [healthCheckRun, arnComponentsCheck, ha, hp, hi]

/-- A run whose input parses answers with what the stages after the check return. -/
theorem lambdaHandler_of_parse (h : parseInputParameters c.isalnum c.env event c.sts c.generatedId = .ok input) :
    lambdaHandler c event =
      match healthCheckStages c input with
      | .ok body => ⟨200, input.executionId, body⟩
      | .error e => failureResponse input.executionId e := by
  rw [lambdaHandler, h]
  simp only [healthCheckRun_of_parse h]

end Parsed

/-! ## §5 — the verdict

When the configuration and the Lambda names are there and the pool accepts the thread count, the
answer is a `200` whose summary is `documentedSummary` of the tasks: the collector and the summary
agree (`summarize_collected`), and the handler only copies the summary out of the report. -/

section Verdict

variable {c : Collaborators} {input : HealthCheckInput} {cfg : PyVal} {names : List PyVal}

theorem runValidator_of_pool {maxThreads : PyVal} {outcome : String → Except String PyVal}
    {order : List String} (hpool : threadPool maxThreads = .ok ()) :
    runValidator maxThreads outcome order =
      .ok (collectedReports outcome order, collectedErrors outcome order) := by
  rw [runValidator, validateAllResourcesParallel_run, hpool]
  rfl

theorem generateEnhancedReport_of_summarize {fullReport : List PyVal} {errors : List String}
    {s : Summary} (hs : summarize fullReport errors = .ok s) (input : HealthCheckInput) :
    ∃ kvs, generateEnhancedReport input fullReport errors = .ok (.dict kvs) ∧
      kvs.lookup "summary" = some s.toPyVal := by
  apply Exists.intro
  refine ⟨by rw [generateEnhancedReport, hs]; rfl, ?_⟩
  rfl

/-- The stages go through, and the body carries the tasks' summary. -/
theorem healthCheckStages_eq (hcfg : expectedConfig c input = .ok cfg)
    (hnames : allLambdaNames cfg = .ok names) (hpool : threadPool input.maxThreads = .ok ())
    (hint : ∀ t v, c.validators cfg names t = .ok v → IntStatusReport v)
    (horder : c.completionOrder.Perm validationTasks) :
    ∃ enhanced, healthCheckStages c input = .ok (responseBody input
      (.str (documentedSummary (taskStatuses (c.validators cfg names))
        (taskErrors (c.validators cfg names))).overallStatus)
      (documentedSummary (taskStatuses (c.validators cfg names))
        (taskErrors (c.validators cfg names))).toPyVal
      (c.upload input enhanced input.executionId)
      (collectedReports (c.validators cfg names) c.completionOrder)
      (collectedErrors (c.validators cfg names) c.completionOrder)) := by
  obtain ⟨kvs, hreport, hsummary⟩ := generateEnhancedReport_of_summarize
    (summarize_collected hint horder) input
  refine ⟨.dict kvs, ?_⟩
  rw [healthCheckStages, hcfg, ok_bind, hnames, ok_bind, runValidator_of_pool hpool, ok_bind]
  simp only [hreport, ok_bind, PyVal.item, hsummary]
  rfl

/-- **The handler answers with the verdict of the validations.** For every run whose input parses,
whose configuration resolves, whose Lambda names are hashable and whose thread count the pool
accepts, and every completion order: when each task raises or returns a report whose statuses
are integers, the answer is a `200` under the parsed execution id, its summary is the summary of
the tasks in registration order, its status is `HEALTHY` exactly when every task returned a
report whose items all have status 200, and `UNHEALTHY` as soon as a task raised. -/
theorem lambdaHandler_verdict {event : PyVal}
    (hparse : parseInputParameters c.isalnum c.env event c.sts c.generatedId = .ok input)
    (hcfg : expectedConfig c input = .ok cfg) (hnames : allLambdaNames cfg = .ok names)
    (hpool : threadPool input.maxThreads = .ok ())
    (hint : ∀ t v, c.validators cfg names t = .ok v → IntStatusReport v)
    (horder : c.completionOrder.Perm validationTasks) :
    (lambdaHandler c event).statusCode = 200 ∧
      (lambdaHandler c event).executionId = input.executionId ∧
      (lambdaHandler c event).body.lookup "summary" =
        some (documentedSummary (taskStatuses (c.validators cfg names))
          (taskErrors (c.validators cfg names))).toPyVal ∧
      ((lambdaHandler c event).body.lookup "overall_status" = some (.str "HEALTHY") ↔
        ∀ t ∈ validationTasks, ∃ v, c.validators cfg names t = .ok v ∧
          ∀ n ∈ reportStatuses v, n = 200) ∧
      ((∃ t ∈ validationTasks, ∃ e, c.validators cfg names t = .error e) →
        (lambdaHandler c event).body.lookup "overall_status" = some (.str "UNHEALTHY")) := by
  obtain ⟨enhanced, hstages⟩ := healthCheckStages_eq hcfg hnames hpool hint horder
  rw [lambdaHandler_of_parse hparse, hstages]
  refine ⟨rfl, rfl, rfl, ?_, fun h => ?_⟩
  · show some (PyVal.str _) = _ ↔ _
    rw [Option.some.injEq, PyVal.str.injEq]
    exact documentedSummary_healthy_iff hint
  · show some (PyVal.str _) = _
    rw [documentedSummary_unhealthy_of_error h]

end Verdict

/-- A RESELL deployment whose configuration file is empty, whose validators each report one
healthy item except the S3 one, which raises, whose futures complete in reverse order and whose
upload fails. -/
def sampleDeployment : Collaborators where
  env := resellEnv none
  isalnum := Char.isAlphanum
  sts := .ok "123456789012"
  generatedId := "run"
  loadExpected := fun _ => .ok (.dict [])
  discovery := noDiscovery
  validators := fun _ _ t =>
    if t = "s3" then .error "AccessDenied"
    else .ok (.dict [("ResourceType", .str t),
      ("DetailedHealthCheck", .list [.dict [("ResourceName", .str t), ("status", .int 200)]])])
  completionOrder := validationTasks.reverse
  upload := fun _ _ _ => none

theorem lambdaHandler_verdict_example :
    ∃ input, parseInputParameters sampleDeployment.isalnum sampleDeployment.env (.dict []) sampleDeployment.sts
        sampleDeployment.generatedId = .ok input ∧
      expectedConfig sampleDeployment input = .ok (.dict []) ∧ allLambdaNames (.dict []) = .ok [] ∧
      threadPool input.maxThreads = .ok () ∧
      (∀ t v, sampleDeployment.validators (.dict []) [] t = .ok v → IntStatusReport v) ∧
      sampleDeployment.completionOrder.Perm validationTasks ∧
      (lambdaHandler sampleDeployment (.dict [])).statusCode = 200 ∧
      (lambdaHandler sampleDeployment (.dict [])).executionId = input.executionId ∧
      (lambdaHandler sampleDeployment (.dict [])).body.lookup "summary" =
        some (documentedSummary (taskStatuses (sampleDeployment.validators (.dict []) []))
          (taskErrors (sampleDeployment.validators (.dict []) []))).toPyVal ∧
      ((lambdaHandler sampleDeployment (.dict [])).body.lookup "overall_status" =
          some (.str "HEALTHY") ↔
        ∀ t ∈ validationTasks, ∃ v, sampleDeployment.validators (.dict []) [] t = .ok v ∧
          ∀ n ∈ reportStatuses v, n = 200) ∧
      ((∃ t ∈ validationTasks, ∃ e, sampleDeployment.validators (.dict []) [] t = .error e) →
        (lambdaHandler sampleDeployment (.dict [])).body.lookup "overall_status" =
          some (.str "UNHEALTHY")) := by
  have hparse := (resellEnv_configured none).parseInputParameters_eq Char.isAlphanum
    (show ([] : List (String × PyVal)).lookup "execution_id" = none from rfl) "run"
  have hcfg : expectedConfig sampleDeployment
      (configuredInput (resellEnv none) [] "us-west-2" "123456789012"
        "12345678-1234-1234-1234-123456789012" "run") = .ok (.dict []) := by
    simp only [expectedConfig, sampleDeployment, ok_bind]
    split <;> rfl
  have hint : ∀ t v, sampleDeployment.validators (.dict []) [] t = .ok v → IntStatusReport v := by
    intro t v h
    by_cases ht : t = "s3"
    · simp [sampleDeployment, ht] at h
    · simp only [sampleDeployment, ht, if_false, Except.ok.injEq] at h
      subst h
      refine ⟨_, rfl, fun dhc hl => ?_⟩
      simp only [List.lookup] at hl
      cases hl
      exact ⟨_, rfl, by simp [List.lookup]⟩
  exact ⟨_, hparse, hcfg, rfl, rfl, hint, List.reverse_perm _,
    lambdaHandler_verdict hparse hcfg rfl rfl hint (List.reverse_perm _)⟩

/-! ## §6 — a prefix the cleanup cannot compile

`clean_duplicate_prefixes` escapes the prefix for the pattern but not for the replacement: a
prefix such as `a\q` makes `re.sub` raise on every string it is given, whatever the string. -/

/-- **A Lambda prefix the cleanup cannot compile fails every health check.** For every run whose
input parses, whose `placeholder_map` has a cleanup replacement that raises `e`, and whose
configuration file holds a string, the answer is the `500` of `e` under the parsed execution id —
before any validator runs. -/
theorem lambdaHandler_of_pass_error {c : Collaborators} {event : PyVal} {input : HealthCheckInput}
    {cfgRaw : PyVal} {e : String}
    (hparse : parseInputParameters c.isalnum c.env event c.sts c.generatedId = .ok input)
    (hpass : cleanupPass (placeholderMap input) = .error e)
    (hload : c.loadExpected input.sku = .ok cfgRaw) (hstr : hasStr cfgRaw = true) :
    lambdaHandler c event = failureResponse input.executionId e := by
  have hcfg : expectedConfig c input = .error e := by
    rw [expectedConfig, hload, ok_bind, replacePlaceholders_of_pass_error hpass, if_pos hstr]
    rfl
  rw [lambdaHandler_of_parse hparse, healthCheckStages, hcfg]
  rfl

theorem lambdaHandler_of_pass_error_example :
    ∃ input, parseInputParameters Char.isAlphanum (resellEnv (some "a\\q")) (.dict [])
        (.ok "123456789012") "run" = .ok input ∧
      cleanupPass (placeholderMap input) = .error "bad escape \\q at position 1" ∧
      hasStr (.dict [("LambdaFunctions", .list [.dict [("name", .str "$\x7bLambdaPrefix\x7d-Fn")]])]) ∧
      lambdaHandler { sampleDeployment with
          env := resellEnv (some "a\\q"),
          loadExpected := fun _ => .ok (.dict [("LambdaFunctions",
            .list [.dict [("name", .str "$\x7bLambdaPrefix\x7d-Fn")]])]) } (.dict []) =
        failureResponse "run" "bad escape \\q at position 1" :=
  have hparse := (resellEnv_configured (some "a\\q")).parseInputParameters_eq Char.isAlphanum
    (show ([] : List (String × PyVal)).lookup "execution_id" = none from rfl) "run"
  have hpass : cleanupPass (placeholderMap (configuredInput (resellEnv (some "a\\q")) []
      "us-west-2" "123456789012" "12345678-1234-1234-1234-123456789012" "run")) =
      .error "bad escape \\q at position 1" := rfl
  ⟨_, hparse, hpass, rfl, lambdaHandler_of_pass_error hparse hpass rfl rfl⟩

/-! ## §7 — the multiorg stream step -/

/-- The event source the multiorg step leaves on a mapping whose source is the string `s`: the
ARN discovered for the stream `s` names, the CTR stream first; `s` itself when it names neither,
or when that stream was not discovered. -/
def resolvedSource (found : DiscoveredStreams) (s : String) : String :=
  if occurs ctrStreamRef.toList s.toList then found.ctrStreamArn.getD s
  else if occurs contactLensStreamRef.toList s.toList then found.contactLensStreamArn.getD s
  else s

/-- A mapping whose event source, if it is a string, is set to `f` of it. -/
def mapSource (f : String → String) : PyVal → PyVal
  | .dict kvs =>
    match kvs.lookup "event_source" with
    | some (.str s) => .dict (setItem kvs "event_source" (.str (f s)))
    | _ => .dict kvs
  | v => v

/-- A mapping the loop reads without raising: a dict whose `event_source`, if set, is a string. -/
def SourcedMapping (m : PyVal) : Prop :=
  ∃ kvs, m = .dict kvs ∧ ∀ v, kvs.lookup "event_source" = some v → ∃ s, v = .str s

theorem setItem_of_lookup {kvs : List (String × PyVal)} {key : String} {v : PyVal}
    (h : kvs.lookup key = some v) : setItem kvs key v = kvs := by
  induction kvs with
  | nil => cases h
  | cons kv kvs ih =>
    obtain ⟨k, w⟩ := kv
    by_cases hk : key = k
    · subst hk
      simp only [List.lookup, beq_self_eq_true, Option.some.injEq] at h
      simp [setItem, h]
    · have hk' : (key == k) = false := by simpa using hk
      simp only [List.lookup, hk'] at h
      simp [setItem, Ne.symm hk, ih h]

/-- Writing back the resolved source: a source equal to the old one leaves the mapping as it
was. -/
theorem writeBack_eq {kvs : List (String × PyVal)} {s : String}
    (hl : kvs.lookup "event_source" = some (.str s)) (resolved : String) :
    (if (PyVal.str resolved).pyEq (.str s) then Except.ok (PyVal.dict kvs)
      else .ok (.dict (setItem kvs "event_source" (.str resolved))) : Except String PyVal) =
      .ok (.dict (setItem kvs "event_source" (.str resolved))) := by
  have heq : (PyVal.str resolved).pyEq (.str s) = (resolved == s) := rfl
  by_cases h : resolved = s
  · subst h
    rw [heq, beq_self_eq_true, if_pos rfl, setItem_of_lookup hl]
  · rw [heq, if_neg (by simpa using h)]

/-- One mapping of the loop, resolved. -/
theorem resolveMappingStream_eq {found : DiscoveredStreams} {m : PyVal} (hm : SourcedMapping m) :
    resolveMappingStream found m = .ok (mapSource (resolvedSource found) m) := by
  obtain ⟨kvs, rfl, hs⟩ := hm
  cases hl : kvs.lookup "event_source" with
  | none =>
    simp only [resolveMappingStream, mapSource, hl]
    rfl
  | some v =>
    obtain ⟨s, rfl⟩ := hs v hl
    simp only [resolveMappingStream, mapSource, hl, Option.getD_some, resolveDynamicStreamReferences,
      resolvedSource]
    split_ifs with hctr hcl
    · cases found.ctrStreamArn with
      | none => rw [PyVal.contains_str, ok_bind, Option.getD_none, setItem_of_lookup hl]; rfl
      | some arn => exact writeBack_eq hl arn
    · cases found.contactLensStreamArn with
      | none => rw [PyVal.contains_str, ok_bind, Option.getD_none, setItem_of_lookup hl]; rfl
      | some arn => exact writeBack_eq hl arn
    · exact writeBack_eq hl s

/-- **The multiorg step resolves each mapping's stream reference.** On a configuration whose
`EventSourceMappings` is a list of mappings with string sources (or none), the step returns the
configuration with each mapping's source set to the ARN discovered for the stream it names — the
whole source, not the reference in it — and every other mapping as it was; the mappings keep their
order and their other keys. -/
theorem resolveStreamReferences_eq {found : DiscoveredStreams} {kvs : List (String × PyVal)}
    {ms : List PyVal} (hms : kvs.lookup "EventSourceMappings" = some (.list ms))
    (hsrc : ∀ m ∈ ms, SourcedMapping m) :
    resolveStreamReferences found (.dict kvs) =
      .ok (.dict (setItem kvs "EventSourceMappings"
        (.list (ms.map (mapSource (resolvedSource found)))))) := by
  have hloop : ms.mapM (resolveMappingStream found) = .ok (ms.map (mapSource (resolvedSource found))) :=
    mapM_eq_ok_map fun m hm => resolveMappingStream_eq (hsrc m hm)
  simp only [resolveStreamReferences, PyVal.contains, hms, Option.isSome_some, ok_bind, if_true,
    PyVal.item, PyVal.len, PyVal.iter_list, hloop]
  rfl

theorem resolveStreamReferences_eq_example :
    let mappings : List PyVal :=
      [.dict [("function", .str "p-Ctr"),
          ("event_source", .str "MultiorgStreamDiscoveryCustomResource.CTRStreamArn")],
        .dict [("function", .str "p-Lens"),
          ("event_source", .str "MultiorgStreamDiscoveryCustomResource.ContactLensStreamArn")],
        .dict [("function", .str "p-Queue")]]
    ([("EventSourceMappings", PyVal.list mappings)].lookup "EventSourceMappings" =
        some (.list mappings) ∧ ∀ m ∈ mappings, SourcedMapping m) ∧
      resolveStreamReferences ⟨some "arn:aws:kinesis:us-west-2:1:stream/ctr", none⟩
          (.dict [("EventSourceMappings", .list mappings)]) =
        .ok (.dict (setItem [("EventSourceMappings", .list mappings)] "EventSourceMappings"
          (.list (mappings.map (mapSource
            (resolvedSource ⟨some "arn:aws:kinesis:us-west-2:1:stream/ctr", none⟩)))))) := by
  intro mappings
  have hsrc : ∀ m ∈ mappings, SourcedMapping m := by
    intro m hm
    simp only [mappings, List.mem_cons, List.mem_singleton, List.not_mem_nil, or_false] at hm
    rcases hm with rfl | rfl | rfl <;> exact ⟨_, rfl, fun v hv => by cases hv <;> exact ⟨_, rfl⟩⟩
  exact ⟨⟨rfl, hsrc⟩, resolveStreamReferences_eq rfl hsrc⟩

/-! ## §8 — the verdict of a deployed health check

With the validators of `validators/all_validators.py` as the tasks, every report is made of 200,
300 and 500 items (`validationTask_report`), so the summary's status is read off the presence of a
500, then of a 300. -/

/-- **The verdict of a deployed health check.** For every run whose input parses, whose
configuration resolves, whose Lambda names are hashable and whose thread count the pool accepts,
every completion order, and every iteration order of the set of Lambda names, when the tasks are
the deployment's validators: the answer is a `200` whose overall status is `UNHEALTHY` when a task
raised or reported a 500, else `WARNING` when the Lambda task reported a 300 — which only the
`ProviderCreator` of a BYOA tenant stack can — and `HEALTHY` otherwise. -/
theorem lambdaHandler_deployed_verdict {c : Collaborators} {aws : Aws} {event cfg : PyVal}
    {input : HealthCheckInput} {names : List PyVal} {lambdaNames : SetOrder names}
    (hparse : parseInputParameters c.isalnum c.env event c.sts c.generatedId = .ok input)
    (hcfg : expectedConfig c input = .ok cfg) (hnames : allLambdaNames cfg = .ok names)
    (hpool : threadPool input.maxThreads = .ok ())
    (hval : c.validators cfg names = validationTask aws input cfg lambdaNames.val)
    (horder : c.completionOrder.Perm validationTasks) :
    (lambdaHandler c event).statusCode = 200 ∧
      (lambdaHandler c event).body.lookup "overall_status" = some (.str
        (if 500 ∈ taskStatuses (validationTask aws input cfg lambdaNames.val) then "UNHEALTHY"
          else if 300 ∈ taskStatuses (validationTask aws input cfg lambdaNames.val) then "WARNING"
          else "HEALTHY")) ∧
      (500 ∈ taskStatuses (validationTask aws input cfg lambdaNames.val) ↔ ∃ t ∈ validationTasks,
        (∃ e, validationTask aws input cfg lambdaNames.val t = .error e) ∨
          ∃ v, validationTask aws input cfg lambdaNames.val t = .ok v ∧ 500 ∈ reportStatuses v) ∧
      (300 ∈ taskStatuses (validationTask aws input cfg lambdaNames.val) ↔
        ∃ v, validationTask aws input cfg lambdaNames.val "lambdas" = .ok v ∧
          300 ∈ reportStatuses v) := by
  have hint : ∀ t v, validationTask aws input cfg lambdaNames.val t = .ok v → IntStatusReport v :=
    fun _ _ h => (validationTask_statuses h).1
  obtain ⟨enhanced, hstages⟩ := healthCheckStages_eq hcfg hnames hpool (hval ▸ hint) horder
  rw [lambdaHandler_of_parse hparse, hstages, hval,
    documentedSummary_overall (fun _ => taskStatuses_three) (taskErrors_length hint)]
  refine ⟨rfl, rfl, ?_, taskStatuses_300⟩
  rw [taskStatuses_mem]
  simp only [and_true]

/-- The sample deployment with the deployment's validators, on `sampleAws`. -/
theorem lambdaHandler_deployed_verdict_example :
    let input := configuredInput (resellEnv none) [] "us-west-2" "123456789012"
      "12345678-1234-1234-1234-123456789012" "run"
    let lambdaNames : SetOrder [] := ⟨[], .nil⟩
    let task := validationTask sampleAws input (.dict []) lambdaNames.val
    let c : Collaborators := { sampleDeployment with
      validators := fun cfg _ => validationTask sampleAws input cfg lambdaNames.val }
    (parseInputParameters c.isalnum c.env (.dict []) c.sts c.generatedId = .ok input ∧
        expectedConfig c input = .ok (.dict []) ∧ allLambdaNames (.dict []) = .ok [] ∧
        threadPool input.maxThreads = .ok () ∧ c.validators (.dict []) [] = task ∧
        c.completionOrder.Perm validationTasks) ∧
      (lambdaHandler c (.dict [])).statusCode = 200 ∧
      (lambdaHandler c (.dict [])).body.lookup "overall_status" = some (.str
        (if 500 ∈ taskStatuses task then "UNHEALTHY"
          else if 300 ∈ taskStatuses task then "WARNING" else "HEALTHY")) ∧
      (500 ∈ taskStatuses task ↔ ∃ t ∈ validationTasks,
        (∃ e, task t = .error e) ∨ ∃ v, task t = .ok v ∧ 500 ∈ reportStatuses v) ∧
      (300 ∈ taskStatuses task ↔ ∃ v, task "lambdas" = .ok v ∧ 300 ∈ reportStatuses v) := by
  intro input lambdaNames task c
  have hparse : parseInputParameters c.isalnum c.env (.dict []) c.sts c.generatedId = .ok input :=
    (resellEnv_configured none).parseInputParameters_eq c.isalnum
      (show ([] : List (String × PyVal)).lookup "execution_id" = none from rfl) "run"
  have hcfg : expectedConfig c input = .ok (.dict []) := by
    simp only [expectedConfig, c, sampleDeployment, ok_bind]
    split <;> rfl
  exact ⟨⟨hparse, hcfg, rfl, rfl, rfl, List.reverse_perm _⟩,
    lambdaHandler_deployed_verdict hparse hcfg rfl rfl rfl (List.reverse_perm _)⟩

end HealthCheck
