import HealthCheck.Input.Arn
import HealthCheck.Placeholder.Resolve

/-!
# HealthCheck — the run's input parameters and the substitution context

`parse_input_parameters` (`models/input_parser.py`) reads the environment and the event, builds
the Connect instance ARN and parses it back; `lambda_handler` (`healthcheck.py`) turns the result
into the `placeholder_map` the resolver substitutes from. The environment is `Environ`; the STS
call and `generate_execution_id` are collaborators, passed as the account (or the text of the
exception STS raised) and as the id the generator returned.

The headline, `placeholderMap_of_parseInputParameters`: on a configured environment the map holds
the account STS reported, the region of `AWS_REGION`, the partition read off it and the instance id
of `CONNECT_INSTANCE_ID` — the round trip of the ARN in the middle loses nothing.
-/

namespace HealthCheck

/-- `os.environ.get(name)`. -/
abbrev Environ := String → Option String

/-- Python's `value or default` on an optional string. -/
def orDefault (value : Option String) (default : String) : String :=
  match value with
  | some s => if s = "" then default else s
  | none => default

/-- What `parse_input_parameters` returns (`HealthCheckInput`). -/
structure HealthCheckInput where
  ccVersion : String
  ccName : String
  sku : String
  executionId : String
  connectInstanceArn : String
  s3BucketForTenantResources : String
  s3BucketForReports : Option String
  region : String
  connectInstanceId : String
  accountId : String
  partition : String
  lambdaPrefix : Option String
  callCenterApiName : String
  includeDetailedErrors : PyVal
  maxThreads : PyVal

/-- The partition `parse_input_parameters` reads off the region. -/
def partitionOfRegion (region : String) : String :=
  if "cn-".toList.isPrefixOf region.toList then "aws-cn"
  else if "us-gov-".toList.isPrefixOf region.toList then "aws-us-gov"
  else "aws"

/-- `is_valid_execution_id`: a string of 3 to 100 characters, each alphanumeric, `-` or `_`.
`isalnum` is `str.isalnum` on one character, Unicode's letters and digits; the model takes that
table as given (on ASCII it is `Char.isAlphanum`). -/
def isValidExecutionId (isalnum : Char → Bool) : PyVal → Bool
  | .str s => 3 ≤ s.length && s.length ≤ 100 &&
      s.toList.all fun c => isalnum c || c == '-' || c == '_'
  | _ => false

/-- The required fields that are unset or empty, with the variable each comes from, in the order
of `required_fields`. -/
def missingFields (ccVersion ccName : Option String) (sku : String) (arn : Option String) :
    List String :=
  ((if orDefault ccVersion "" = "" then ["cc_version (requires VERSION environment variable)"]
    else []) ++
   (if orDefault ccName "" = "" then ["cc_name (requires CALL_CENTER_API_NAME environment variable)"]
    else []) ++
   (if sku = "" then ["sku (requires SKU environment variable)"] else []) ++
   (if orDefault arn "" = "" then
      ["connect_instance_arn (requires CONNECT_INSTANCE_ID (to build ARN) environment variable)"]
    else []))

/-- The ARN built from `CONNECT_INSTANCE_ID`, `AWS_REGION` and the STS account, or `None` without
an instance id. STS failing, or `AWS_REGION` unset, is the one error. -/
def buildConnectInstanceArn (env : Environ) (sts : Except String String) :
    Except String (Option String) :=
  match env "CONNECT_INSTANCE_ID" with
  | some id =>
    if id = "" then .ok none
    else
      match env "AWS_REGION", sts with
      | some region, .ok accountId =>
        .ok (some (connectInstanceArn (partitionOfRegion region) region accountId id))
      | _, _ => .error "Failed to determine AWS account ID and partition for ARN construction"
  | none => .ok none

/-- The execution id: the generated one when the event's is missing or falsy, the event's when it
is a valid string. -/
def executionIdOf (isalnum : Char → Bool) (given : Option PyVal) (generatedId : String) :
    Except String String :=
  match given with
  | some v =>
    if !v.truthy then .ok generatedId
    else match v with
      | .str s =>
        if isValidExecutionId isalnum v then .ok s else .error ("Invalid execution_id format: " ++ s)
      | v => .error ("Invalid execution_id format: " ++ v.toStr)
  | none => .ok generatedId

/-- `if missing_fields: raise ValueError(...)`. -/
def requireFields : List String → Except String Unit
  | [] => .ok ()
  | missing => .error ("Missing required environment variables: " ++ ", ".intercalate missing)

/-- `parse_connect_instance_arn(connect_instance_arn)`, its error re-raised with a prefix. -/
def arnComponentsOf (arn : String) : Except String ArnComponents :=
  match parseConnectInstanceArn arn with
  | .ok c => .ok c
  | .error e => .error ("Invalid connect_instance_arn: " ++ e)

def s3BucketRequired : String :=
  "S3 bucket for tenant resources is required. Set environment variable " ++
    "'S3_BUCKET_FOR_TENANT_RESOURCES'"

/-- `S3_BUCKET_FOR_TENANT_RESOURCES`, required to be set and non-empty. -/
def tenantBucket : Option String → Except String String
  | some b => if b = "" then .error s3BucketRequired else .ok b
  | none => .error s3BucketRequired

/-- The body of `parse_input_parameters`, inside its `try`. The SKU's `.lower()` is
`String.toLower`, which maps ASCII letters only. -/
def parseInputParametersBody (isalnum : Char → Bool) (env : Environ) (event : PyVal)
    (sts : Except String String) (generatedId : String) : Except String HealthCheckInput := do
  let ccVersion := env "VERSION"
  let ccName := env "CALL_CENTER_API_NAME"
  let sku := ((env "SKU").getD "").toLower
  let arn ← buildConnectInstanceArn env sts
  let executionId ← executionIdOf isalnum (← event.get "execution_id") generatedId
  requireFields (missingFields ccVersion ccName sku arn)
  let arn := orDefault arn ""
  let components ← arnComponentsOf arn
  let region :=
    if components.region = "" then (env "AWS_REGION").getD components.region else components.region
  let s3Bucket ← tenantBucket (env "S3_BUCKET_FOR_TENANT_RESOURCES")
  let includeDetailedErrors ← event.getD "include_detailed_errors" (.bool true)
  let maxThreads ← event.getD "max_threads" (.int 10)
  pure {
    ccVersion := orDefault ccVersion "", ccName := orDefault ccName "", sku, executionId,
    connectInstanceArn := arn, s3BucketForTenantResources := s3Bucket,
    s3BucketForReports := env "S3_BUCKET_FOR_REPORTS", region,
    connectInstanceId := components.instanceId, accountId := components.accountId,
    partition := components.partition, lambdaPrefix := env "LAMBDA_PREFIX",
    callCenterApiName := orDefault ccName "", includeDetailedErrors, maxThreads }

/-- `parse_input_parameters`: every error of the body is re-raised with one prefix. -/
def parseInputParameters (isalnum : Char → Bool) (env : Environ) (event : PyVal)
    (sts : Except String String) (generatedId : String) : Except String HealthCheckInput :=
  match parseInputParametersBody isalnum env event sts generatedId with
  | .ok input => .ok input
  | .error e => .error ("Failed to parse input parameters: " ++ e)

/-- The `placeholder_map` `lambda_handler` builds from the parsed input. -/
def placeholderMap (input : HealthCheckInput) : Replacements :=
  [("AWS::Region", input.region),
   ("AWS::AccountId", input.accountId),
   ("AWS::Partition", input.partition),
   ("ConnectInstanceId", orDefault (some input.connectInstanceId) "ConnectInstanceId"),
   ("CallCenterApiName", orDefault (some input.callCenterApiName) "CallCenterApiName"),
   ("S3BucketForTenantResources",
     orDefault (some input.s3BucketForTenantResources) "S3BucketForTenantResources"),
   ("LambdaPrefix", orDefault input.lambdaPrefix ""),
   ("lambdaPrefix", orDefault input.lambdaPrefix "")]

/-- A parsed input carries the components of the ARN it holds: its partition, account and
instance id are the parser's groups. -/
theorem parseInputParameters_components {isalnum : Char → Bool} {env : Environ} {event : PyVal}
    {sts : Except String String} {generatedId : String} {input : HealthCheckInput}
    (h : parseInputParameters isalnum env event sts generatedId = .ok input) :
    ∃ c, parseConnectInstanceArn input.connectInstanceArn = .ok c ∧
      input.partition = c.partition ∧ input.accountId = c.accountId ∧
      input.connectInstanceId = c.instanceId := by
  unfold parseInputParameters at h
  split at h
  · rename_i hbody
    cases h
    simp only [parseInputParametersBody, bind_eq_ok] at hbody
    obtain ⟨_, -, _, -, _, -, _, -, c, hc, _, -, _, -, _, -, hinput⟩ := hbody
    cases hinput
    refine ⟨c, ?_, rfl, rfl, rfl⟩
    unfold arnComponentsOf at hc
    split at hc <;> cases hc
    assumption
  · cases h

/-- A parsed input has a partition, an account and an instance id: the parser's groups, none of
them empty. -/
theorem parseInputParameters_arn_fields {isalnum : Char → Bool} {env : Environ} {event : PyVal}
    {sts : Except String String} {generatedId : String} {input : HealthCheckInput}
    (h : parseInputParameters isalnum env event sts generatedId = .ok input) :
    input.accountId ≠ "" ∧ input.partition ≠ "" ∧ input.connectInstanceId ≠ "" := by
  obtain ⟨c, hc, hp, ha, hi⟩ := parseInputParameters_components h
  obtain ⟨hp', -, ha', hi'⟩ := parseConnectInstanceArn_fields hc
  exact ⟨ha ▸ ha', hp ▸ hp', hi ▸ hi'⟩

/-! ## §2 — a configured environment -/

@[simp] theorem orDefault_some_of_ne {s : String} (h : s ≠ "") (default : String) :
    orDefault (some s) default = s := by
  simp [orDefault, h]

theorem orDefault_ne_empty {value : Option String} (h : orDefault value "" ≠ "") :
    ∃ s, value = some s ∧ s ≠ "" := by
  cases value with
  | none => exact absurd rfl h
  | some s => exact ⟨s, rfl, by simpa [orDefault] using h⟩

theorem toLower_ne_empty {s : String} (h : s ≠ "") : s.toLower ≠ "" := by
  rw [String.toLower, String.map_eq]
  intro h'
  exact h (String.ext (List.map_eq_nil_iff.mp (congrArg String.data h')))

theorem ArnField.ne_empty {s : String} (h : ArnField s) : s ≠ "" := h.1

theorem IsUuid.ne_empty {s : String} (h : IsUuid s) : s ≠ "" := fun hs => h.ne_nil (hs ▸ rfl)

theorem partitionOfRegion_arnField (region : String) : ArnField (partitionOfRegion region) := by
  unfold partitionOfRegion
  split_ifs <;> exact ⟨by decide, by decide⟩

/-- An environment `parse_input_parameters` accepts: the required variables are set, STS reports
an account, the region and the account are ARN fields and the instance id is a UUID. -/
structure Configured (env : Environ) (sts : Except String String)
    (region accountId instanceId : String) : Prop where
  instance_id : env "CONNECT_INSTANCE_ID" = some instanceId
  uuid : IsUuid instanceId
  aws_region : env "AWS_REGION" = some region
  region_field : ArnField region
  account : sts = .ok accountId
  account_field : ArnField accountId
  version : orDefault (env "VERSION") "" ≠ ""
  name : orDefault (env "CALL_CENTER_API_NAME") "" ≠ ""
  sku : (env "SKU").getD "" ≠ ""
  bucket : orDefault (env "S3_BUCKET_FOR_TENANT_RESOURCES") "" ≠ ""

section

variable {env : Environ} {sts : Except String String} {region accountId instanceId : String}

theorem Configured.buildConnectInstanceArn (hc : Configured env sts region accountId instanceId) :
    buildConnectInstanceArn env sts =
      .ok (some (connectInstanceArn (partitionOfRegion region) region accountId instanceId)) := by
  simp [HealthCheck.buildConnectInstanceArn, hc.instance_id, hc.uuid.ne_empty, hc.aws_region,
    hc.account]

theorem Configured.missingFields (hc : Configured env sts region accountId instanceId) :
    missingFields (env "VERSION") (env "CALL_CENTER_API_NAME") ((env "SKU").getD "").toLower
      (some (connectInstanceArn (partitionOfRegion region) region accountId instanceId)) = [] := by
  simp [HealthCheck.missingFields, hc.version, hc.name, toLower_ne_empty hc.sku,
    connectInstanceArn_ne_empty]

theorem Configured.parseConnectInstanceArn (hc : Configured env sts region accountId instanceId) :
    HealthCheck.parseConnectInstanceArn
        (connectInstanceArn (partitionOfRegion region) region accountId instanceId) =
      .ok ⟨partitionOfRegion region, region, accountId, instanceId⟩ :=
  parseConnectInstanceArn_of_match (connectInstanceArn_ne_empty _ _ _ _)
    (arnPatternMatch_connectInstanceArn (partitionOfRegion_arnField region) hc.region_field
      hc.account_field hc.uuid)
    (partitionOfRegion_arnField region).ne_nil hc.region_field.ne_nil hc.account_field.ne_nil
    hc.uuid.ne_nil hc.uuid.matches

/-- The input `parse_input_parameters` returns on a configured environment and an event that names
no execution id. -/
def configuredInput (env : Environ) (event : List (String × PyVal))
    (region accountId instanceId generatedId : String) : HealthCheckInput where
  ccVersion := orDefault (env "VERSION") ""
  ccName := orDefault (env "CALL_CENTER_API_NAME") ""
  sku := ((env "SKU").getD "").toLower
  executionId := generatedId
  connectInstanceArn := connectInstanceArn (partitionOfRegion region) region accountId instanceId
  s3BucketForTenantResources := orDefault (env "S3_BUCKET_FOR_TENANT_RESOURCES") ""
  s3BucketForReports := env "S3_BUCKET_FOR_REPORTS"
  region := region
  connectInstanceId := instanceId
  accountId := accountId
  partition := partitionOfRegion region
  lambdaPrefix := env "LAMBDA_PREFIX"
  callCenterApiName := orDefault (env "CALL_CENTER_API_NAME") ""
  includeDetailedErrors := (event.lookup "include_detailed_errors").getD (.bool true)
  maxThreads := (event.lookup "max_threads").getD (.int 10)

/-- On a configured environment and an event that names no execution id, the parser returns
`configuredInput`. -/
theorem Configured.parseInputParameters_eq (hc : Configured env sts region accountId instanceId)
    (isalnum : Char → Bool) {kvs : List (String × PyVal)} (hexec : kvs.lookup "execution_id" = none)
    (generatedId : String) :
    parseInputParameters isalnum env (.dict kvs) sts generatedId =
      .ok (configuredInput env kvs region accountId instanceId generatedId) := by
  obtain ⟨bucket, hbucket, hne⟩ := orDefault_ne_empty hc.bucket
  unfold parseInputParameters parseInputParametersBody
  simp only [hc.buildConnectInstanceArn, ok_bind, PyVal.get_dict, hexec, executionIdOf,
    hc.missingFields, requireFields, orDefault_some_of_ne (connectInstanceArn_ne_empty _ _ _ _),
    arnComponentsOf, hc.parseConnectInstanceArn, hbucket, tenantBucket, if_neg hne,
    if_neg hc.region_field.ne_empty]
  simp [configuredInput, hbucket, hne]

/-- **The handler's context carries what the environment says**: on a configured environment and
an event that names no execution id, `parse_input_parameters` succeeds, and the `placeholder_map`
`lambda_handler` builds from its result maps the region, the account and the instance id to the
values of `AWS_REGION`, STS and `CONNECT_INSTANCE_ID`, and the partition to the one the region
names — the ARN built and parsed on the way loses nothing. -/
theorem placeholderMap_of_parseInputParameters
    (hc : Configured env sts region accountId instanceId) (isalnum : Char → Bool)
    {kvs : List (String × PyVal)} (hexec : kvs.lookup "execution_id" = none) (generatedId : String) :
    ∃ input, parseInputParameters isalnum env (.dict kvs) sts generatedId = .ok input ∧
      input.executionId = generatedId ∧
      (placeholderMap input).take 4 =
        [("AWS::Region", region), ("AWS::AccountId", accountId),
          ("AWS::Partition", partitionOfRegion region), ("ConnectInstanceId", instanceId)] :=
  ⟨_, hc.parseInputParameters_eq isalnum hexec generatedId, rfl, by
    simp [placeholderMap, configuredInput, hc.uuid.ne_empty]⟩

theorem placeholderMap_of_parseInputParameters_example :
    let env : Environ := fun name =>
      [("CONNECT_INSTANCE_ID", "12345678-1234-1234-1234-123456789012"), ("AWS_REGION", "us-west-2"),
        ("VERSION", "1.0"), ("CALL_CENTER_API_NAME", "cc"), ("SKU", "RESELL"),
        ("S3_BUCKET_FOR_TENANT_RESOURCES", "bucket")].lookup name
    Configured env (.ok "123456789012") "us-west-2" "123456789012"
        "12345678-1234-1234-1234-123456789012" ∧
      ([] : List (String × PyVal)).lookup "execution_id" = none ∧
      ∃ input, parseInputParameters Char.isAlphanum env (.dict []) (.ok "123456789012") "run" =
          .ok input ∧
        input.executionId = "run" ∧
        (placeholderMap input).take 4 =
          [("AWS::Region", "us-west-2"), ("AWS::AccountId", "123456789012"),
            ("AWS::Partition", partitionOfRegion "us-west-2"),
            ("ConnectInstanceId", "12345678-1234-1234-1234-123456789012")] := by
  intro env
  have hc : Configured env (.ok "123456789012") "us-west-2" "123456789012"
      "12345678-1234-1234-1234-123456789012" :=
    ⟨rfl, by decide, rfl, ⟨by decide, by decide⟩, rfl, ⟨by decide, by decide⟩, by decide, by decide,
      by decide, by decide⟩
  have hexec : ([] : List (String × PyVal)).lookup "execution_id" = none := rfl
  exact ⟨hc, hexec, placeholderMap_of_parseInputParameters hc Char.isAlphanum hexec "run"⟩

end

end HealthCheck
