import HealthCheck.Validation.Helpers
import HealthCheck.Input.Parameters

/-!
# HealthCheck — the resource validators

The validators of `validators/all_validators.py` that check one kind of resource each:
`validate_lambdas`, `validate_layers`, `validate_policies`, `validate_alarms`, `validate_s3`,
`validate_kinesis` and `validate_kms_aliases`. Each loops over one section of the configuration and
appends report items to `health_checks`; here an entry's turn of the loop is a function returning
the items it appends, and the loop is a `mapM` over the section.

`validate_lambdas` treats the entry whose `resource_name` is `ProviderCreator` by the deployment's
SKU: skipped on MULTIORG and IMPORTXML, looked up in the tenant stack of us-east-1 on BYOA, BYOAC
and RESELL, and validated as any other function otherwise.

* `validateLambdas_item_count` — a report of `validate_lambdas` has one item for each entry of the
  section, the skipped `ProviderCreator` apart;
* `validateKinesis_listing_error` — a `ClientError` while listing the streams fails the whole
  check, whatever streams the configuration expects.
-/

namespace HealthCheck

/-! ## §1 — `validate_lambdas` -/

/-- The us-east-1 clients `validate_lambdas` opens for a tenant stack. -/
structure TenantClient where
  /-- `describe_stacks(StackName=stack)`. -/
  describeStacks : String → AwsCall PyVal
  /-- `describe_stack_resources(StackName=stack, LogicalResourceId="ProviderCreator")`. -/
  describeStackResources : String → AwsCall PyVal
  /-- `get_function(FunctionName=physical_id)` on the us-east-1 Lambda client. -/
  getFunction : PyVal → AwsCall PyVal

/-- `_verify_lambda_function_exists(physical_id, lmb_tenant, health_checks)`: what it returns —
the physical id, or `None` — and the item it appends. -/
def verifyLambdaFunctionExists (getFunction : PyVal → AwsCall PyVal) (physicalId : PyVal) :
    Except String (PyVal × List PyVal) :=
  tryCall (getFunction physicalId) (fun _ => pure (physicalId, [])) fun lambdaError =>
    if lambdaError.code = "ResourceNotFoundException" then
      (.none, [resourceItem (.str "ProviderCreator") 500
        ("ERROR: ProviderCreator Lambda function not found: " ++ physicalId.toStr ++
          " (CloudFormation stack shows resource exists but actual Lambda function is missing - " ++
          "likely deleted manually)")])
    else
      (.none, [resourceItem (.str "ProviderCreator") 500
        ("ERROR: Cannot verify ProviderCreator Lambda function " ++ physicalId.toStr ++ ": " ++
          lambdaError.text)])

/-- What the loop appends once a tenant stack answered with `resources`: the function of its first
`ProviderCreator` resource must exist; `notFound` when the stack lists none. -/
def tenantProviderItems (getFunction : PyVal → AwsCall PyVal) (resources notFound : PyVal) :
    Except String (List PyVal) := do
  if (← resources.getD "StackResources" .none).truthy then
    let physicalId ← (← (← resources.item "StackResources").first).item "PhysicalResourceId"
    let (name, appended) ← verifyLambdaFunctionExists getFunction physicalId
    if !name.truthy then pure appended
    else pure (appended ++ [resourceItem (.str "ProviderCreator") 200
      ("SUCCESS: ProviderCreator Lambda function verified: " ++ name.toStr)])
  else pure [notFound]

/-- The BYOA and BYOAC branch: `SCVBYOATenantStack` must be described, and its `ProviderCreator`
looked up; a `ClientError` of the first call is a success, of the second a warning. -/
def byoaProviderItems (tenant : TenantClient) : Except String (List PyVal) :=
  tryCall (tenant.describeStacks "SCVBYOATenantStack")
    (fun _ =>
      tryCall (tenant.describeStackResources "SCVBYOATenantStack")
        (fun resources => tenantProviderItems tenant.getFunction resources
          (resourceItem (.str "ProviderCreator") 300 ("WARNING: ProviderCreator not found in " ++
            "SCVBYOATenantStack (may be expected for Provisioned BYOA deployments)")))
        fun cfError => [resourceItem (.str "ProviderCreator") 300
          ("WARNING: CloudFormation error accessing ProviderCreator resource in SCVBYOATenantStack: " ++
            cfError.text ++ " (may be expected for Provisioned BYOA deployments)")])
    fun stackError => [resourceItem (.str "ProviderCreator") 200
      ("SUCCESS: CloudFormation error accessing SCVBYOATenantStack for BYOA/BYOAC deployment: " ++
        stackError.text ++ " (expected behavior - stack may not exist)")]

/-- The RESELL branch: `SCVTenantStack`'s `ProviderCreator` is looked up; a `ClientError` is a
success. -/
def resellProviderItems (tenant : TenantClient) : Except String (List PyVal) :=
  tryCall (tenant.describeStackResources "SCVTenantStack")
    (fun resources => tenantProviderItems tenant.getFunction resources
      (resourceItem (.str "ProviderCreator") 200
        "SUCCESS: ProviderCreator not found in SCVTenantStack (expected for some RESELL deployments)"))
    fun cfError => [resourceItem (.str "ProviderCreator") 200
      ("SUCCESS: CloudFormation error accessing SCVTenantStack or ProviderCreator resource: " ++
        cfError.text ++ " (expected behavior - stack or resource may not exist)")]

/-- The alias check, made only when the entry names an alias. -/
def aliasResults (lmb : LambdaClient) (fnConfig name : PyVal) :
    Except String (List (Bool × String)) := do
  if ← fnConfig.contains (.str "alias") then pure [← aliasExists lmb name (← fnConfig.item "alias")]
  else pure []

/-- The validation of a function by name: it must exist, and then its alias (when the entry names
one), its layers and its execution role are checked. -/
def functionItems (lmb : LambdaClient) (fnConfig name : PyVal) : Except String (List PyVal) := do
  let (found, msg) ← lambdaExists lmb name
  if !found then pure [resourceItem name 500 msg]
  else
    let results ← aliasResults lmb fnConfig name
    let layersResult ← layersAttached lmb name (← fnConfig.getD "layers" (.list []))
    let roleResult ← lambdaRoleCorrect lmb name (← fnConfig.getD "execution_role" .none)
    pure [combineResults name (results ++ [layersResult, roleResult])]

/-- The items one entry of `LambdaFunctions` appends. The SKU's `.upper()` is `String.toUpper`,
which maps ASCII letters only. -/
def lambdaItems (lmb : LambdaClient) (tenant : TenantClient) (input : HealthCheckInput)
    (fnConfig : PyVal) : Except String (List PyVal) := do
  let name ← fnConfig.item "name"
  let resourceName ← fnConfig.getD "resource_name" (.str "")
  if resourceName.pyEq (.str "ProviderCreator") then
    let sku := input.sku.toUpper
    if sku = "MULTIORG" ∨ sku = "IMPORTXML" then pure []
    else if sku = "BYOA" ∨ sku = "BYOAC" then byoaProviderItems tenant
    else if sku = "RESELL" then resellProviderItems tenant
    else functionItems lmb fnConfig name
  else functionItems lmb fnConfig name

/-- `validate_lambdas(cfg, health_input)`. -/
def validateLambdas (lmb : LambdaClient) (tenant : TenantClient) (input : HealthCheckInput)
    (cfg : PyVal) : Except String PyVal := do
  let entries ← sectionEntries cfg "LambdaFunctions"
  let healthChecks ← entries.mapM (lambdaItems lmb tenant input)
  pure (.dict [("ResourceType", .str "Lambda Function"),
    ("DetailedHealthCheck", .list healthChecks.flatten)])

/-! ## §2 — layers, policies, alarms, buckets, streams, keys -/

/-- One entry of `validate_layers`. -/
def layerItem (lmb : LambdaClient) (layerConfig : PyVal) : Except String PyVal := do
  let name ← layerConfig.item "name"
  pure (combineResults name [← lambdaLayerExists lmb name])

/-- `validate_layers(cfg)`. -/
def validateLayers (lmb : LambdaClient) (cfg : PyVal) : Except String PyVal := do
  let entries ← sectionEntries cfg "LambdaLayers"
  let healthChecks ← entries.mapM (layerItem lmb)
  pure (.dict [("ResourceType", .str "Lambda Layer"), ("DetailedHealthCheck", .list healthChecks)])

/-- One entry of `validate_policies`: a policy whose name is blank is reported under its
`resource_name`. -/
def policyItem (iam : IamClient) (polConfig : PyVal) : Except String PyVal := do
  let name ← (← polConfig.getD "name" (.str "")).strip
  let resourceName ← (← polConfig.getD "resource_name" (.str "")).strip
  let displayName := if name ≠ "" then name else resourceName
  if name = "" then
    pure (combineResults (.str displayName) [(false, "Configuration issue: Policy name is empty for '" ++
      resourceName ++ "' - check if policy exists or config needs updating")])
  else
    pure (combineResults (.str name)
      [← managedPolicyValid iam name (← polConfig.getD "expected_actions" (.list []))])

/-- `validate_policies(cfg)`. -/
def validatePolicies (iam : IamClient) (cfg : PyVal) : Except String PyVal := do
  let entries ← sectionEntries cfg "ManagedPolicies"
  let healthChecks ← entries.mapM (policyItem iam)
  pure (.dict [("ResourceType", .str "IAM Managed Policy"),
    ("DetailedHealthCheck", .list healthChecks)])

/-- One entry of `validate_alarms`: the alarm must exist and be in state `OK` or
`INSUFFICIENT_DATA`. -/
def alarmItem (describeAlarms : PyVal → List (AwsCall PyVal)) (alarmConfig : PyVal) :
    Except String PyVal := do
  let name ← alarmConfig.item "name"
  let (alarmDetails, msg) ← alarmExists describeAlarms name
  if !alarmDetails.truthy then pure (resourceItem name 500 msg)
  else
    let state ← alarmDetails.getD "StateValue" .none
    if ← (PyVal.list [.str "OK", .str "INSUFFICIENT_DATA"]).contains state then
      pure (resourceItem name 200 "healthy")
    else pure (resourceItem name 500 ("Alarm in ALARM state: " ++ name.toStr))

/-- `validate_alarms(cfg)`. -/
def validateAlarms (describeAlarms : PyVal → List (AwsCall PyVal)) (cfg : PyVal) :
    Except String PyVal := do
  let entries ← sectionEntries cfg "CloudWatchAlarms"
  let healthChecks ← entries.mapM (alarmItem describeAlarms)
  pure (.dict [("ResourceType", .str "CloudWatch Alarm"), ("DetailedHealthCheck", .list healthChecks)])

/-- The policy check, made only when the entry's `policy` is truthy. -/
def s3PolicyResults (s3 : S3Client) (bucketConfig name : PyVal) :
    Except String (List (Bool × String)) := do
  if (← bucketConfig.getD "policy" .none).truthy then pure [← s3PolicyExists s3 name] else pure []

/-- One entry of `validate_s3`: the bucket must exist, and have a policy when the entry's `policy`
is truthy. -/
def s3Item (s3 : S3Client) (bucketConfig : PyVal) : Except String PyVal := do
  let name ← bucketConfig.item "name"
  let (found, msg) ← s3BucketExists s3 name
  if !found then pure (resourceItem name 500 msg)
  else pure (combineResults name (← s3PolicyResults s3 bucketConfig name))

/-- `validate_s3(cfg)`. -/
def validateS3 (s3 : S3Client) (cfg : PyVal) : Except String PyVal := do
  let entries ← sectionEntries cfg "S3Buckets"
  let healthChecks ← entries.mapM (s3Item s3)
  pure (.dict [("ResourceType", .str "S3 Bucket"), ("DetailedHealthCheck", .list healthChecks)])

/-- `{s for p in kinesis.get_paginator("list_streams").paginate() for s in p.get("StreamNames",
[])}`: every page is fetched, and each name hashed as it goes into the set. -/
def streamNames : List (AwsCall PyVal) → AwsCall (List PyVal)
  | [] => pure []
  | fetch :: fetches => ExceptT.mk do
    match ← fetch.run with
    | .error e => pure (.error e)
    | .ok page =>
      let names ← (← (← page.getD "StreamNames" (.list [])).iter).mapM PyVal.hashable
      match ← (streamNames fetches).run with
      | .error e => pure (.error e)
      | .ok rest => pure (.ok (names ++ rest))

/-- One entry of `validate_kinesis`. -/
def kinesisItem (allStreams : List PyVal) (streamConfig : PyVal) : Except String PyVal := do
  let name ← streamConfig.item "name"
  pure (combineResults name [← kinesisStreamExists name allStreams])

/-- `validate_kinesis(cfg)`: the streams are listed before the loop, inside the same `try`; a
`ClientError` of the listing is the one item of the report. -/
def validateKinesis (listStreams : List (AwsCall PyVal)) (cfg : PyVal) : Except String PyVal := do
  let healthChecks ← tryCall (streamNames listStreams)
    (fun allStreams => do (← sectionEntries cfg "KinesisStreams").mapM (kinesisItem allStreams))
    fun e => [resourceItem (.str "All Kinesis Streams") 500 ("Could not list Kinesis streams: " ++ e.text)]
  pure (.dict [("ResourceType", .str "Kinesis Stream"), ("DetailedHealthCheck", .list healthChecks)])

/-- One entry of `validate_kms_aliases`: the alias must have a target key, and the key must be
enabled. -/
def kmsAliasItem (kms : KmsClient) (aliasConfig : PyVal) : Except String PyVal := do
  let name ← aliasConfig.item "name"
  let (targetKeyId, msg) ← getAliasTarget kms name
  if !targetKeyId.truthy then pure (resourceItem name 500 msg)
  else pure (combineResults name [← keyIsEnabled kms targetKeyId])

/-- `validate_kms_aliases(cfg)`. -/
def validateKmsAliases (kms : KmsClient) (cfg : PyVal) : Except String PyVal := do
  let entries ← sectionEntries cfg "KMSAliases"
  let healthChecks ← entries.mapM (kmsAliasItem kms)
  pure (.dict [("ResourceType", .str "KMS Alias"), ("DetailedHealthCheck", .list healthChecks)])

/-! ## §3 — what one function of `validate_lambdas` appends

Every path of the loop body ends in one item, except the skip of a MULTIORG or IMPORTXML
`ProviderCreator` — and the `continue` taken when the tenant stack names a function under an
empty id that `get_function` nonetheless found. -/

/-- The two warnings of the BYOA branch: the tenant stack lists no `ProviderCreator`, or
CloudFormation refused its resources. -/
def ByoaWarning (msg : String) : Prop :=
  msg = "WARNING: ProviderCreator not found in SCVBYOATenantStack (may be expected for " ++
      "Provisioned BYOA deployments)" ∨
    ∃ cfError : String, msg = "WARNING: CloudFormation error accessing ProviderCreator resource " ++
      "in SCVBYOATenantStack: " ++ cfError ++ " (may be expected for Provisioned BYOA deployments)"

/-- An item of the BYOA branch: a 200 or 500 item, or a 300 `ProviderCreator` warning. -/
def ByoaItem (item : PyVal) : Prop :=
  ItemShaped [200, 500] item ∨
    ∃ msg, ByoaWarning msg ∧ item = resourceItem (.str "ProviderCreator") 300 msg

/-- An item `validate_lambdas` appends under the deployment's SKU: a 200 or 500 item, or, when the
SKU is BYOA or BYOAC, a 300 warning about the `ProviderCreator` of the BYOA tenant stack. -/
def LambdaItem (sku : String) (item : PyVal) : Prop :=
  ItemShaped [200, 500] item ∨
    (sku.toUpper = "BYOA" ∨ sku.toUpper = "BYOAC") ∧
      ∃ msg, ByoaWarning msg ∧ item = resourceItem (.str "ProviderCreator") 300 msg

/-- Whether `validate_lambdas` skips an entry: the `ProviderCreator` of a MULTIORG or IMPORTXML
deployment. -/
def skipsEntry (sku : String) (fnConfig : PyVal) : Bool :=
  match fnConfig with
  | .dict kvs => ((kvs.lookup "resource_name").getD (.str "")).pyEq (.str "ProviderCreator") &&
      decide (sku.toUpper = "MULTIORG" ∨ sku.toUpper = "IMPORTXML")
  | _ => false

section Entry

variable {lmb : LambdaClient} {tenant : TenantClient} {fnConfig name : PyVal} {items : List PyVal}

theorem functionItems_single (h : functionItems lmb fnConfig name = .ok items) :
    ∃ i, items = [i] ∧ ItemShaped [200, 500] i := by
  simp only [functionItems, bind_eq_ok] at h
  obtain ⟨⟨found, msg⟩, -, h⟩ := h
  split at h
  · cases h; exact ⟨_, rfl, resourceItem_shaped (by decide) _ _⟩
  · simp only [bind_eq_ok, pure_eq_ok, Except.ok.injEq] at h
    obtain ⟨_, -, _, -, _, -, _, -, _, -, rfl⟩ := h
    exact ⟨_, rfl, combineResults_shaped _ _⟩

theorem verifyLambdaFunctionExists_cases {getFunction : PyVal → AwsCall PyVal}
    {physicalId name : PyVal} {appended : List PyVal}
    (h : verifyLambdaFunctionExists getFunction physicalId = .ok (name, appended)) :
    (name = physicalId ∧ appended = [] ∧ ∃ r, getFunction physicalId = pure r) ∨
      (name = .none ∧ ∃ i, appended = [i] ∧ ItemShaped [200, 500] i) := by
  unfold verifyLambdaFunctionExists tryCall at h
  rcases hr : (getFunction physicalId).run with e | e | r <;> rw [hr] at h
  · cases h
  · right
    simp only [ok_bind, pure_eq_ok, Except.ok.injEq] at h
    split_ifs at h <;> cases h <;> exact ⟨rfl, _, rfl, resourceItem_shaped (by decide) _ _⟩
  · cases h
    exact .inl ⟨rfl, rfl, r, hr⟩

theorem tenantProviderItems_cases {getFunction : PyVal → AwsCall PyVal} {resources notFound : PyVal}
    {items : List PyVal} (h : tenantProviderItems getFunction resources notFound = .ok items) :
    items = [notFound] ∨ (∃ i, items = [i] ∧ ItemShaped [200, 500] i) ∨
      (items = [] ∧ ∃ v r, v.truthy = false ∧ getFunction v = pure r) := by
  simp only [tenantProviderItems, bind_eq_ok] at h
  obtain ⟨_, -, h⟩ := h
  split at h
  · simp only [bind_eq_ok] at h
    obtain ⟨_, -, _, -, physicalId, -, ⟨name, appended⟩, hv, h⟩ := h
    rcases verifyLambdaFunctionExists_cases hv with ⟨rfl, rfl, r, hr⟩ | ⟨rfl, i, rfl, hi⟩
    · split at h <;> cases h
      · exact .inr (.inr ⟨rfl, _, r, by simpa using ‹(!_) = true›, hr⟩)
      · exact .inr (.inl ⟨_, rfl, resourceItem_shaped (by decide) _ _⟩)
    · cases h
      exact .inr (.inl ⟨i, rfl, hi⟩)
  · cases h
    exact .inl rfl

theorem byoaProviderItems_cases (h : byoaProviderItems tenant = .ok items) :
    (∃ i, items = [i] ∧ ByoaItem i) ∨
      (items = [] ∧ ∃ v r, v.truthy = false ∧ tenant.getFunction v = pure r) := by
  unfold byoaProviderItems tryCall at h
  rcases hs : (tenant.describeStacks "SCVBYOATenantStack").run with e | e | _ <;>
    simp only [hs, ok_bind, error_bind] at h
  · cases h
  · cases h; exact .inl ⟨_, rfl, .inl (resourceItem_shaped (by decide) _ _)⟩
  · rcases hr : (tenant.describeStackResources "SCVBYOATenantStack").run with e | e | resources <;>
      simp only [hr, ok_bind, error_bind] at h
    · cases h
    · cases h; exact .inl ⟨_, rfl, .inr ⟨_, .inr ⟨_, rfl⟩, rfl⟩⟩
    · rcases tenantProviderItems_cases h with rfl | ⟨i, rfl, hi⟩ | hempty
      · exact .inl ⟨_, rfl, .inr ⟨_, .inl rfl, rfl⟩⟩
      · exact .inl ⟨i, rfl, .inl hi⟩
      · exact .inr hempty

theorem resellProviderItems_cases (h : resellProviderItems tenant = .ok items) :
    (∃ i, items = [i] ∧ ItemShaped [200, 500] i) ∨
      (items = [] ∧ ∃ v r, v.truthy = false ∧ tenant.getFunction v = pure r) := by
  unfold resellProviderItems tryCall at h
  rcases hr : (tenant.describeStackResources "SCVTenantStack").run with e | e | resources <;>
    simp only [hr, ok_bind, error_bind] at h
  · cases h
  · cases h; exact .inl ⟨_, rfl, resourceItem_shaped (by decide) _ _⟩
  · rcases tenantProviderItems_cases h with rfl | hone | hempty
    · exact .inl ⟨_, rfl, resourceItem_shaped (by decide) _ _⟩
    · exact .inl hone
    · exact .inr hempty

/-- What one entry appends: nothing when it is skipped, else one item, unless the tenant's
`get_function` found a function under an id that is not truthy. -/
theorem lambdaItems_cases {input : HealthCheckInput}
    (h : lambdaItems lmb tenant input fnConfig = .ok items) :
    (skipsEntry input.sku fnConfig = true ∧ items = []) ∨
      (skipsEntry input.sku fnConfig = false ∧ ((∃ i, items = [i] ∧ LambdaItem input.sku i) ∨
        (items = [] ∧ ∃ v r, v.truthy = false ∧ tenant.getFunction v = pure r))) := by
  simp only [lambdaItems, bind_eq_ok] at h
  obtain ⟨name, hname, resourceName, hrn, h⟩ := h
  obtain ⟨kvs, rfl⟩ : ∃ kvs, fnConfig = .dict kvs := by
    cases fnConfig <;> first | exact ⟨_, rfl⟩ | cases hname
  simp only [PyVal.getD_dict, Except.ok.injEq] at hrn
  subst hrn
  have hfn : ∀ {items}, functionItems lmb (.dict kvs) name = .ok items →
      ∃ i, items = [i] ∧ LambdaItem input.sku i := fun h =>
    let ⟨i, hi, hs⟩ := functionItems_single h
    ⟨i, hi, .inl hs⟩
  split at h
  · rename_i hpc
    split at h
    · rename_i hsku
      cases h
      exact .inl ⟨(Bool.and_eq_true _ _).mpr ⟨hpc, decide_eq_true hsku⟩, rfl⟩
    · rename_i hsku
      refine .inr ⟨by simp only [skipsEntry, hpc, hsku, decide_False, Bool.and_false], ?_⟩
      split at h
      · rename_i hbyoa
        exact (byoaProviderItems_cases h).imp_left fun ⟨i, hi, hs⟩ =>
          ⟨i, hi, hs.imp_right fun hw => ⟨hbyoa, hw⟩⟩
      · split at h
        · exact (resellProviderItems_cases h).imp_left fun ⟨i, hi, hs⟩ => ⟨i, hi, .inl hs⟩
        · exact .inl (hfn h)
  · rename_i hpc
    exact .inr ⟨by simp only [skipsEntry, Bool.eq_false_iff.mpr hpc, Bool.false_and], .inl (hfn h)⟩

end Entry

/-- **One item per configured function.** For every configuration, deployment and AWS account
whose tenant `get_function` finds nothing under an empty id, a report of `validate_lambdas` has
one item for each entry of `LambdaFunctions`, but none for the `ProviderCreator` of a MULTIORG or
IMPORTXML deployment: no function is reported twice or left out. -/
theorem validateLambdas_item_count {lmb : LambdaClient} {tenant : TenantClient}
    {input : HealthCheckInput} {cfg report : PyVal}
    (hid : ∀ v r, tenant.getFunction v = pure r → v.truthy = true)
    (h : validateLambdas lmb tenant input cfg = .ok report) :
    ∃ entries items, sectionEntries cfg "LambdaFunctions" = .ok entries ∧
      report = .dict [("ResourceType", .str "Lambda Function"),
        ("DetailedHealthCheck", .list items)] ∧
      items.length = entries.countP fun e => !skipsEntry input.sku e := by
  simp only [validateLambdas, bind_eq_ok, pure_eq_ok, Except.ok.injEq] at h
  obtain ⟨entries, hentries, itemss, hloop, rfl⟩ := h
  refine ⟨entries, _, hentries, rfl, ?_⟩
  have hfa := mapM_eq_ok_forall₂ hloop
  clear hloop hentries
  induction hfa with
  | nil => rfl
  | cons he _ ih =>
    rw [List.flatten_cons, List.length_append, ih, List.countP_cons]
    rcases lambdaItems_cases he with ⟨hs, rfl⟩ | ⟨hs, ⟨i, rfl, -⟩ | ⟨-, v, r, hv, hr⟩⟩
    · simp [hs]
    · simp [hs]; omega
    · exact absurd (hid v r hr) (by simp [hv])

/-- Two functions, one of them missing, on a deployment whose tenant stack holds no function. -/
theorem validateLambdas_item_count_example :
    let lmb : LambdaClient := ⟨fun n => if n.pyEq (.str "Gone") then
        throw ⟨"ResourceNotFoundException", "not found"⟩ else pure (.dict []),
      fun _ _ => pure (.dict []), fun _ => pure (.dict []), [], fun _ _ => pure .none⟩
    let tenant : TenantClient := ⟨fun _ => pure (.dict []), fun _ => pure (.dict []),
      fun _ => throw ⟨"ResourceNotFoundException", "not found"⟩⟩
    let input := configuredInput (fun _ => none) [] "us-west-2" "123456789012" "instance" "run"
    let cfg := PyVal.dict [("LambdaFunctions", .list [.dict [("name", .str "Fn")],
      .dict [("name", .str "Gone")]])]
    let report := PyVal.dict [("ResourceType", .str "Lambda Function"), ("DetailedHealthCheck",
      .list [resourceItem (.str "Fn") 200 "healthy",
        resourceItem (.str "Gone") 500 "Lambda missing: Gone (ResourceNotFoundException)"])]
    ((∀ v r, tenant.getFunction v = pure r → v.truthy = true) ∧
        validateLambdas lmb tenant input cfg = .ok report) ∧
      ∃ entries items, sectionEntries cfg "LambdaFunctions" = .ok entries ∧
        report = .dict [("ResourceType", .str "Lambda Function"),
          ("DetailedHealthCheck", .list items)] ∧
        items.length = entries.countP fun e => !skipsEntry input.sku e := by
  intro lmb tenant input cfg report
  have hid : ∀ v r, tenant.getFunction v = pure r → v.truthy = true := fun _ _ h => by cases h
  have h : validateLambdas lmb tenant input cfg = .ok report := rfl
  exact ⟨⟨hid, h⟩, validateLambdas_item_count hid h⟩

/-! ## §4 — every report is a list of items

Each validator reports a dict of its resource type and a list of items built by
`combine_results` or written out; only `validate_lambdas` writes a 300. -/

/-- A validator's report whose items satisfy `P`. -/
def ReportOf (P : PyVal → Prop) (v : PyVal) : Prop :=
  ∃ resourceType items, v = .dict [("ResourceType", .str resourceType),
    ("DetailedHealthCheck", .list items)] ∧ ∀ i ∈ items, P i

/-- The loop of a validator over one section: the report's items are what the entries gave. -/
theorem reportOf_section {P : PyVal → Prop} {f : PyVal → Except String PyVal} {cfg v : PyVal}
    {key resourceType : String} (hf : ∀ {e i}, f e = .ok i → P i)
    (h : (do
      let entries ← sectionEntries cfg key
      let healthChecks ← entries.mapM f
      pure (PyVal.dict [("ResourceType", .str resourceType),
        ("DetailedHealthCheck", .list healthChecks)])) = .ok v) :
    ReportOf P v := by
  simp only [bind_eq_ok, pure_eq_ok, Except.ok.injEq] at h
  obtain ⟨_, -, items, hloop, rfl⟩ := h
  exact ⟨_, _, rfl, fun i hi => let ⟨_, _, he⟩ := mapM_ok_mem hloop i hi; hf he⟩

section Shape

variable {lmb : LambdaClient} {e i cfg v : PyVal}

theorem validateLambdas_shaped {tenant : TenantClient} {input : HealthCheckInput}
    (h : validateLambdas lmb tenant input cfg = .ok v) : ReportOf (LambdaItem input.sku) v := by
  simp only [validateLambdas, bind_eq_ok, pure_eq_ok, Except.ok.injEq] at h
  obtain ⟨_, -, itemss, hloop, rfl⟩ := h
  refine ⟨_, _, rfl, fun i hi => ?_⟩
  obtain ⟨items, hitems, hi⟩ := List.mem_flatten.mp hi
  obtain ⟨_, -, he⟩ := mapM_ok_mem hloop items hitems
  rcases lambdaItems_cases he with ⟨-, rfl⟩ | ⟨-, ⟨j, rfl, hj⟩ | ⟨rfl, -⟩⟩
  · cases hi
  · exact List.mem_singleton.mp hi ▸ hj
  · cases hi

theorem layerItem_shaped (h : layerItem lmb e = .ok i) : ItemShaped [200, 500] i := by
  simp only [layerItem, bind_eq_ok, pure_eq_ok, Except.ok.injEq] at h
  obtain ⟨_, -, _, -, rfl⟩ := h
  exact combineResults_shaped _ _

theorem validateLayers_shaped {cfg v : PyVal} (h : validateLayers lmb cfg = .ok v) :
    ReportOf (ItemShaped [200, 500]) v :=
  reportOf_section layerItem_shaped h

theorem policyItem_shaped {iam : IamClient} (h : policyItem iam e = .ok i) : ItemShaped [200, 500] i := by
  simp only [policyItem, bind_eq_ok] at h
  obtain ⟨_, -, _, -, _, -, _, -, h⟩ := h
  split at h
  · cases h; exact combineResults_shaped _ _
  · simp only [bind_eq_ok, pure_eq_ok, Except.ok.injEq] at h
    obtain ⟨_, -, _, -, rfl⟩ := h
    exact combineResults_shaped _ _

theorem validatePolicies_shaped {iam : IamClient} (h : validatePolicies iam cfg = .ok v) :
    ReportOf (ItemShaped [200, 500]) v :=
  reportOf_section policyItem_shaped h

theorem alarmItem_shaped {describeAlarms : PyVal → List (AwsCall PyVal)}
    (h : alarmItem describeAlarms e = .ok i) : ItemShaped [200, 500] i := by
  simp only [alarmItem, bind_eq_ok] at h
  obtain ⟨_, -, ⟨_, _⟩, -, h⟩ := h
  split at h
  · cases h; exact resourceItem_shaped (by decide) _ _
  · simp only [bind_eq_ok] at h
    obtain ⟨_, -, _, -, h⟩ := h
    split at h <;> cases h <;> exact resourceItem_shaped (by decide) _ _

theorem validateAlarms_shaped {describeAlarms : PyVal → List (AwsCall PyVal)}
    (h : validateAlarms describeAlarms cfg = .ok v) : ReportOf (ItemShaped [200, 500]) v :=
  reportOf_section alarmItem_shaped h

theorem s3Item_shaped {s3 : S3Client} (h : s3Item s3 e = .ok i) : ItemShaped [200, 500] i := by
  simp only [s3Item, bind_eq_ok] at h
  obtain ⟨_, -, ⟨_, _⟩, -, h⟩ := h
  split at h
  · cases h; exact resourceItem_shaped (by decide) _ _
  · simp only [bind_eq_ok, pure_eq_ok, Except.ok.injEq] at h
    obtain ⟨_, -, rfl⟩ := h
    exact combineResults_shaped _ _

theorem validateS3_shaped {s3 : S3Client} (h : validateS3 s3 cfg = .ok v) :
    ReportOf (ItemShaped [200, 500]) v :=
  reportOf_section s3Item_shaped h

theorem kmsAliasItem_shaped {kms : KmsClient} (h : kmsAliasItem kms e = .ok i) :
    ItemShaped [200, 500] i := by
  simp only [kmsAliasItem, bind_eq_ok] at h
  obtain ⟨_, -, ⟨_, _⟩, -, h⟩ := h
  split at h
  · cases h; exact resourceItem_shaped (by decide) _ _
  · simp only [bind_eq_ok, pure_eq_ok, Except.ok.injEq] at h
    obtain ⟨_, -, rfl⟩ := h
    exact combineResults_shaped _ _

theorem validateKmsAliases_shaped {kms : KmsClient} (h : validateKmsAliases kms cfg = .ok v) :
    ReportOf (ItemShaped [200, 500]) v :=
  reportOf_section kmsAliasItem_shaped h

theorem validateKinesis_shaped {listStreams : List (AwsCall PyVal)} {cfg v : PyVal}
    (h : validateKinesis listStreams cfg = .ok v) : ReportOf (ItemShaped [200, 500]) v := by
  simp only [validateKinesis, bind_eq_ok, pure_eq_ok, Except.ok.injEq] at h
  obtain ⟨items, hitems, rfl⟩ := h
  refine ⟨_, items, rfl, ?_⟩
  unfold tryCall at hitems
  rcases hs : (streamNames listStreams).run with _ | ce | allStreams <;> rw [hs] at hitems
  · cases hitems
  · cases hitems
    simpa using resourceItem_shaped (by decide) _ _
  · simp only [ok_bind, bind_eq_ok] at hitems
    obtain ⟨_, -, hloop⟩ := hitems
    intro i hi
    obtain ⟨_, _, he⟩ := mapM_ok_mem hloop i hi
    simp only [kinesisItem, bind_eq_ok, pure_eq_ok, Except.ok.injEq] at he
    obtain ⟨_, -, _, -, rfl⟩ := he
    exact combineResults_shaped _ _

end Shape

/-! ## §5 — a failed stream listing is the whole Kinesis report

The streams are listed before the loop, inside its `try`: a `ClientError` on any page of the
listing replaces the report by one failed item, whatever the configuration asks for. -/

theorem streamNames_of_failed_fetch {pages : List PyVal} {e : ClientError}
    (rest : List (AwsCall PyVal))
    (hpages : ∀ p ∈ pages, ∃ names : List String,
      p.getD "StreamNames" (.list []) = .ok (.list (names.map .str))) :
    streamNames (pages.map pure ++ throw e :: rest) = throw e := by
  induction pages with
  | nil => rfl
  | cons p pages ih =>
    obtain ⟨names, hp⟩ := hpages p (List.mem_cons_self _ _)
    rw [List.map_cons, List.cons_append, streamNames]
    simp only [ExceptT.run_pure, pure_eq_ok, ok_bind, hp, PyVal.iter_list, mapM_hashable_str,
      ih fun q hq => hpages q (List.mem_cons_of_mem _ hq)]
    rfl

/-- **A failed stream listing fails the Kinesis check, whatever is configured.** For every
configuration — one with no `KinesisStreams` included — and every listing whose pages list
stream names until a fetch fails with a `ClientError`, the report is the single failed item
`All Kinesis Streams`: an account whose listing is denied fails the health check even when it
expects no stream. -/
theorem validateKinesis_listing_error {pages : List PyVal} {e : ClientError}
    {rest : List (AwsCall PyVal)}
    (hpages : ∀ p ∈ pages, ∃ names : List String,
      p.getD "StreamNames" (.list []) = .ok (.list (names.map .str))) (cfg : PyVal) :
    validateKinesis (pages.map pure ++ throw e :: rest) cfg =
      .ok (.dict [("ResourceType", .str "Kinesis Stream"), ("DetailedHealthCheck",
        .list [resourceItem (.str "All Kinesis Streams") 500
          ("Could not list Kinesis streams: " ++ e.text)])]) := by
  rw [validateKinesis, streamNames_of_failed_fetch rest hpages, tryCall_throw]
  rfl

theorem validateKinesis_listing_error_example :
    let page := PyVal.dict [("StreamNames", .list [.str "ctr-stream"]), ("HasMoreStreams", .bool true)]
    (∀ p ∈ [page], ∃ names : List String,
        p.getD "StreamNames" (.list []) = .ok (.list (names.map .str))) ∧
      validateKinesis ([page].map pure ++ [throw ⟨"AccessDeniedException", "access denied"⟩])
          (.dict []) =
        .ok (.dict [("ResourceType", .str "Kinesis Stream"), ("DetailedHealthCheck",
          .list [resourceItem (.str "All Kinesis Streams") 500
            ("Could not list Kinesis streams: " ++ "access denied")])]) := by
  intro page
  have hpages : ∀ p ∈ [page], ∃ names : List String,
      p.getD "StreamNames" (.list []) = .ok (.list (names.map .str)) := by
    intro p hp
    rw [List.mem_singleton.mp hp]
    exact ⟨["ctr-stream"], rfl⟩
  exact ⟨hpages, validateKinesis_listing_error hpages (.dict [])⟩

end HealthCheck
