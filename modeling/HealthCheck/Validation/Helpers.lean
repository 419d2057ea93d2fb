import HealthCheck.Validation.CrossRef

/-!
# HealthCheck — the AWS helpers

`utils/aws_helpers.py` checks one resource per call. Each helper asks a service inside a `try`
that catches `ClientError` and turns it into a failed result `(False, message)`; any other
exception propagates to the validator, and from there to the task. A call is therefore an
`AwsCall`: the response, a `ClientError`, or another exception. A paginated listing is the list
of its fetches; the paginator fetches lazily, so a fetch after the one that decided is never made.

* `managedPolicyVerdict_eq` — `managed_policy_valid` reports exactly the expected actions no statement
  lists, an expected `…*` being covered by any listed action it is a prefix of: the statements'
  `Effect` is never read, and a listed wildcard covers nothing but itself;
* `layersAttached_iff` — `layers_attached` passes exactly when each expected layer name occurs
  somewhere inside the ARN of an attached layer.
-/

namespace HealthCheck

/-! ## §1 — AWS calls -/

/-- A `botocore` `ClientError`: the code of its response's `Error`, and `str(e)`. -/
structure ClientError where
  code : String
  text : String
deriving DecidableEq, Repr

/-- A call made inside a `try` that catches `ClientError`. -/
abbrev AwsCall (α : Type) := ExceptT ClientError (Except String) α

/-- `try: r = call(...); rest(r) except ClientError as e: handler(e)`. What follows the call makes
no AWS call, so it raises no `ClientError`; a `try` around several calls is one `tryCall` per call,
each with the same handler. -/
def tryCall {α β : Type} (call : AwsCall α) (rest : α → Except String β)
    (handler : ClientError → β) : Except String β := do
  match ← call.run with
  | .ok a => rest a
  | .error e => pure (handler e)

@[simp] theorem tryCall_pure {α β : Type} (a : α) (rest : α → Except String β)
    (handler : ClientError → β) : tryCall (pure a) rest handler = rest a := rfl

@[simp] theorem tryCall_throw {α β : Type} (e : ClientError) (rest : α → Except String β)
    (handler : ClientError → β) : tryCall (throw e) rest handler = .ok (handler e) := rfl

/-- `for page in paginator.paginate(): ...`, where the loop body returns as soon as `search` finds
something on a page: the fetches up to the deciding page, and none after it. -/
def pageSearch {β : Type} (search : PyVal → Except String (Option β)) :
    List (AwsCall PyVal) → AwsCall (Option β)
  | [] => pure none
  | fetch :: fetches => ExceptT.mk do
    match ← fetch.run with
    | .error e => pure (.error e)
    | .ok page =>
      match ← search page with
      | some b => pure (.ok (some b))
      | none => (pageSearch search fetches).run

/-- `'missing' if code == 'ResourceNotFoundException' else 'error'`. -/
def missingOrError (code : String) : String :=
  if code = "ResourceNotFoundException" then "missing" else "error"

/-- A report item written out: `{"ResourceName": name, "status": status, "message": msg}`. -/
def resourceItem (name : PyVal) (status : Int) (msg : String) : PyVal :=
  .dict [("ResourceName", name), ("status", .int status), ("message", .str msg)]

/-- A report item as the validators build it: a name, one of `statuses`, and a message. -/
def ItemShaped (statuses : List Int) (item : PyVal) : Prop :=
  ∃ name status msg, item = resourceItem name status msg ∧ status ∈ statuses

theorem resourceItem_shaped {statuses : List Int} {status : Int} (h : status ∈ statuses)
    (name : PyVal) (msg : String) : ItemShaped statuses (resourceItem name status msg) :=
  ⟨_, _, _, rfl, h⟩

/-- `combine_results` reports 200 or 500. -/
theorem combineResults_shaped (name : PyVal) (results : List (Bool × String)) :
    ItemShaped [200, 500] (combineResults name results) := by
  unfold combineResults
  split
  · exact resourceItem_shaped (by decide) name _
  · exact resourceItem_shaped (by decide) name _

theorem ItemShaped.mono {s s' : List Int} {item : PyVal} (h : ItemShaped s item) (hs : s ⊆ s') :
    ItemShaped s' item :=
  let ⟨_, _, _, he, hm⟩ := h
  ⟨_, _, _, he, hs hm⟩

/-! ## §2 — Lambda -/

/-- The calls the helpers make on a Lambda client. -/
structure LambdaClient where
  /-- `get_function(FunctionName=name)`. -/
  getFunction : PyVal → AwsCall PyVal
  /-- `get_alias(FunctionName=name, Name=alias)`. -/
  getAlias : PyVal → PyVal → AwsCall PyVal
  /-- `get_function_configuration(FunctionName=name)`. -/
  getFunctionConfiguration : PyVal → AwsCall PyVal
  /-- The fetches of `get_paginator("list_layers").paginate()`. -/
  listLayers : List (AwsCall PyVal)
  /-- `get_policy(FunctionName=name[, Qualifier=q])["Policy"]`, decoded by `json.loads`. -/
  getPolicy : PyVal → Option String → AwsCall PyVal

/-- `lambda_exists(name, lmb)`. -/
def lambdaExists (lmb : LambdaClient) (name : PyVal) : Except String (Bool × String) :=
  tryCall (lmb.getFunction name) (fun _ => pure (true, "healthy")) fun e =>
    (false, "Lambda " ++ missingOrError e.code ++ ": " ++ name.toStr ++ " (" ++ e.code ++ ")")

/-- `alias_exists(name, alias, lmb)`. -/
def aliasExists (lmb : LambdaClient) (name aliasName : PyVal) : Except String (Bool × String) :=
  tryCall (lmb.getAlias name aliasName) (fun _ => pure (true, "Alias exists.")) fun e =>
    (false, "Alias '" ++ aliasName.toStr ++ "' " ++ missingOrError e.code ++ " for " ++ name.toStr ++
      " (" ++ e.code ++ ")")

/-- `[layer_name for layer_name in expected if not any(layer_name in arn for arn in arns)]`. -/
def missingLayers (arns expected : List PyVal) : Except String (List PyVal) :=
  expected.filterM fun layerName => do pure !(← arns.anyM (·.contains layerName))

/-- `layers_attached(name, expected, lmb)`, without an alias, as `validate_lambdas` calls it. -/
def layersAttached (lmb : LambdaClient) (name expected : PyVal) : Except String (Bool × String) :=
  if !expected.truthy then pure (true, "No layers expected.")
  else tryCall (lmb.getFunctionConfiguration name) (fun cfg => do
      let arns ← (← (← cfg.getD "Layers" (.list [])).iter).mapM (·.item "Arn")
      let missing ← missingLayers arns (← expected.iter)
      if missing.isEmpty then pure (true, "All expected layers are attached.")
      else pure (false, "Layers missing from " ++ name.toStr ++ ": " ++ (← joinStr ", " missing)))
    fun e => (false, "Error retrieving layers for " ++ name.toStr ++ ": " ++ e.text)

/-- `lambda_role_correct(name, expected_role, lmb)`: only the part after the last `/` of each role
is compared. -/
def lambdaRoleCorrect (lmb : LambdaClient) (name expectedRole : PyVal) :
    Except String (Bool × String) :=
  if !expectedRole.truthy then pure (true, "No execution role expected.")
  else tryCall (lmb.getFunction name) (fun response => do
      let cfg ← response.item "Configuration"
      let actualRoleName ← (← cfg.item "Role").splitLast '/'
      let expectedRoleName ← expectedRole.splitLast '/'
      if actualRoleName = expectedRoleName then pure (true, "Execution role is correct.")
      else pure (false, "Role mismatch for " ++ name.toStr ++ ": expected '" ++ expectedRoleName ++
        "', found '" ++ actualRoleName ++ "'"))
    fun e => (false, "Error checking role for " ++ name.toStr ++ ": " ++ e.text)

/-- `lambda_layer_exists(layer_name, lmb)`: some page lists a layer of that name. -/
def lambdaLayerExists (lmb : LambdaClient) (layerName : PyVal) : Except String (Bool × String) :=
  tryCall (pageSearch (fun page => do
        let layers ← (← page.getD "Layers" (.list [])).iter
        let hit ← layers.anyM fun layer => do pure ((← layer.item "LayerName").pyEq layerName)
        pure (if hit then some () else none)) lmb.listLayers)
    (fun found => match found with
      | some () => pure (true, "healthy")
      | none => pure (false, "Layer missing: " ++ layerName.toStr))
    fun e => (false, "Error looking up layer " ++ layerName.toStr ++ ": " ++ e.text)

/-- `get_lambda_policy(function_name, lmb)`: the function's resource policy, else the one of its
`active` alias, else `None`; a `ClientError` of either call is logged and passed over. -/
def getLambdaPolicy (lmb : LambdaClient) (functionName : PyVal) : Except String PyVal := do
  match ← (lmb.getPolicy functionName none).run with
  | .ok policy => pure policy
  | .error _ =>
    match ← (lmb.getPolicy functionName (some "active")).run with
    | .ok policy => pure policy
    | .error _ => pure .none

/-! ## §3 — IAM managed policies -/

/-- The calls `managed_policy_valid` makes on an IAM client. -/
structure IamClient where
  /-- `list_policies(Scope="Local")`. -/
  listPolicies : AwsCall PyVal
  /-- `get_policy(PolicyArn=arn)`. -/
  getPolicy : PyVal → AwsCall PyVal
  /-- `get_policy_version(PolicyArn=arn, VersionId=ver_id)`. -/
  getPolicyVersion : PyVal → PyVal → AwsCall PyVal

/-- `next((p["Arn"] for p in policies if p["PolicyName"] == name), None)`. -/
def policyArn (name : String) : List PyVal → Except String PyVal
  | [] => .ok .none
  | p :: ps => do
    if (← p.item "PolicyName").pyEq (.str name) then p.item "Arn" else policyArn name ps

/-- The actions one statement adds to `actual_actions`: its `Action` list, or its `Action` alone
when that is not a list, when `s.get("Action")` is truthy; each goes into a set. -/
def statementActions (s : PyVal) : Except String (List PyVal) := do
  let action ← s.getD "Action" .none
  let acts ← match action with
    | .list xs => pure xs
    | _ => do pure [← s.getD "Action" (.list [])]
  if action.truthy then acts.mapM PyVal.hashable else pure []

/-- `actual_actions`, in the order the comprehension meets them. -/
def policyActions (doc : PyVal) : Except String (List PyVal) := do
  let statements ← (← doc.getD "Statement" (.list [])).iter
  List.flatten <$> statements.mapM statementActions

/-- `exp in actual_actions or (exp.endswith('*') and any(a.startswith(exp[:-1]) for a in
actual_actions))`. -/
def actionCovered (actualActions : List PyVal) (exp : PyVal) : Except String Bool := do
  let _ ← exp.hashable
  if ← (PyVal.list actualActions).contains exp then pure true
  else
    match exp with
    | .str e =>
      if e.toList.getLast? = some '*' then actualActions.anyM (·.startsWith e.toList.dropLast)
      else pure false
    | v => .error ("'" ++ v.typeName ++ "' object has no attribute 'endswith'")

/-- `missing_actions`. -/
def missingActions (actualActions expected : List PyVal) : Except String (List PyVal) :=
  expected.filterM fun exp => do pure !(← actionCovered actualActions exp)

/-- The verdict of `managed_policy_valid` on the policy's default version `doc`. -/
def managedPolicyVerdict (name : String) (doc expectedActions : PyVal) :
    Except String (Bool × String) := do
  let missing ← missingActions (← policyActions doc) (← expectedActions.iter)
  if missing.isEmpty then pure (true, "All expected actions are present.")
  else pure (false, "Policy '" ++ name ++ "' is missing actions: " ++ (PyVal.list missing).repr)

/-- `managed_policy_valid(name, expected_actions, iam)`. -/
def managedPolicyValid (iam : IamClient) (name : String) (expectedActions : PyVal) :
    Except String (Bool × String) :=
  let handler := fun (e : ClientError) => (false, "Error checking policy " ++ name ++ ": " ++ e.text)
  tryCall iam.listPolicies
    (fun listing => do
      let arn ← policyArn name (← (← listing.item "Policies").iter)
      if !arn.truthy then pure (false, "Managed policy missing: " ++ name)
      else
        tryCall (iam.getPolicy arn)
          (fun policy => do
            let verId ← (← policy.item "Policy").item "DefaultVersionId"
            tryCall (iam.getPolicyVersion arn verId)
              (fun version => do
                let doc ← (← version.item "PolicyVersion").item "Document"
                managedPolicyVerdict name doc expectedActions)
              handler)
          handler)
    handler

/-! ## §4 — CloudWatch, S3, Kinesis, KMS -/

/-- `alarm_exists(name, cw)`: the first alarm of the first page that lists one, or `None`. -/
def alarmExists (describeAlarms : PyVal → List (AwsCall PyVal)) (name : PyVal) :
    Except String (PyVal × String) :=
  tryCall (pageSearch (fun page => do
        let alarms ← page.item "MetricAlarms"
        if alarms.truthy then some <$> alarms.first else pure none) (describeAlarms name))
    (fun found => match found with
      | some alarm => pure (alarm, "healthy")
      | none => pure (.none, "Alarm missing: " ++ name.toStr))
    fun e => (.none, "Error checking alarm " ++ name.toStr ++ ": " ++ e.text)

/-- The calls the S3 helpers make. -/
structure S3Client where
  /-- `head_bucket(Bucket=name)`. -/
  headBucket : PyVal → AwsCall PyVal
  /-- `get_bucket_policy(Bucket=name)`. -/
  getBucketPolicy : PyVal → AwsCall PyVal

/-- `s3_bucket_exists(name, s3)`. -/
def s3BucketExists (s3 : S3Client) (name : PyVal) : Except String (Bool × String) :=
  tryCall (s3.headBucket name) (fun _ => pure (true, "healthy")) fun e =>
    (false, "S3 bucket missing (Error: " ++ e.code ++ "): " ++ name.toStr)

/-- `s3_policy_exists(name, s3)`. -/
def s3PolicyExists (s3 : S3Client) (name : PyVal) : Except String (Bool × String) :=
  tryCall (s3.getBucketPolicy name) (fun _ => pure (true, "Policy exists.")) fun e =>
    if e.code = "NoSuchBucketPolicy" then (false, "Bucket policy missing for " ++ name.toStr)
    else (false, "Error checking policy for " ++ name.toStr ++ ": " ++ e.code)

/-- `kinesis_stream_exists(name, all_streams)`: membership in the set of listed names. -/
def kinesisStreamExists (name : PyVal) (allStreams : List PyVal) : Except String (Bool × String) := do
  let _ ← name.hashable
  if ← (PyVal.list allStreams).contains name then pure (true, "healthy")
  else pure (false, "Kinesis stream missing: " ++ name.toStr)

/-- The calls the KMS helpers make. -/
structure KmsClient where
  /-- The fetches of `get_paginator('list_aliases').paginate()`. -/
  listAliases : List (AwsCall PyVal)
  /-- `describe_key(KeyId=key_id)`. -/
  describeKey : PyVal → AwsCall PyVal

/-- The loop over one page's aliases: the first alias named `aliasName` decides, with its
`TargetKeyId` (`None` when it has none). -/
def aliasTarget (aliasName : PyVal) : List PyVal → Except String (Option PyVal)
  | [] => .ok none
  | a :: as => do
    if (← a.getD "AliasName" .none).pyEq aliasName then some <$> a.getD "TargetKeyId" .none
    else aliasTarget aliasName as

/-- `get_alias_target(alias_name, kms)`: the target key of the first alias of that name. -/
def getAliasTarget (kms : KmsClient) (aliasName : PyVal) : Except String (PyVal × String) :=
  tryCall (pageSearch (fun page => do
        aliasTarget aliasName (← (← page.getD "Aliases" (.list [])).iter)) kms.listAliases)
    (fun found => match found with
      | some targetId =>
        if targetId.truthy then pure (targetId, "Alias exists and has a target key.")
        else pure (.none, "KMS alias exists but has no target key: " ++ aliasName.toStr)
      | none => pure (.none, "KMS alias missing: " ++ aliasName.toStr))
    fun e => (.none, "Error listing KMS aliases: " ++ e.text)

/-- `key_is_enabled(key_id, kms)`. -/
def keyIsEnabled (kms : KmsClient) (keyId : PyVal) : Except String (Bool × String) :=
  tryCall (kms.describeKey keyId) (fun response => do
      let keyMetadata ← response.getD "KeyMetadata" (.dict [])
      if (← keyMetadata.getD "Enabled" (.bool false)).truthy then pure (true, "KMS Key is enabled.")
      else pure (false, "Target KMS key '" ++ keyId.toStr ++ "' is not Enabled (State: " ++
        (← keyMetadata.getD "KeyState" .none).toStr ++ ")"))
    fun e => (false, "Error describing KMS key '" ++ keyId.toStr ++ "': " ++ e.text)

/-! ## §5 — what `managed_policy_valid` checks

On a document whose statements list string actions, `actual_actions` is the list of all the listed
actions, and its set operations are list membership. -/

/-- An expected action the listed actions cover: listed itself, or ending in `*` with the part
before the `*` a prefix of a listed action. -/
def Covers (actual : List String) (exp : String) : Prop :=
  exp ∈ actual ∨ exp.toList.getLast? = some '*' ∧ ∃ a ∈ actual, exp.toList.dropLast <+: a.toList

instance (actual : List String) : DecidablePred (Covers actual) :=
  fun _ => inferInstanceAs (Decidable (_ ∨ _))

/-- A statement that lists the string actions `acts`: its `Action` is their list, or the one
non-empty string of them. Nothing else of the statement is constrained. -/
def ListsActions (s : PyVal) (acts : List String) : Prop :=
  ∃ kvs, s = .dict kvs ∧ (kvs.lookup "Action" = some (.list (acts.map .str)) ∨
    ∃ a, a ≠ "" ∧ acts = [a] ∧ kvs.lookup "Action" = some (.str a))

theorem statementActions_eq {s : PyVal} {acts : List String} (h : ListsActions s acts) :
    statementActions s = .ok (acts.map .str) := by
  obtain ⟨kvs, rfl, hl | ⟨a, ha, rfl, hl⟩⟩ := h
  · simp only [statementActions, PyVal.getD_dict, hl, Option.getD_some, ok_bind, pure_eq_ok]
    cases acts with
    | nil => rfl
    | cons a acts => exact mapM_hashable_str (a :: acts)
  · simp only [statementActions, PyVal.getD_dict, hl, Option.getD_some, ok_bind, pure_eq_ok, PyVal.truthy, bne_iff_ne, ne_eq, ha, not_false_eq_true, decide_True, if_true]
    rfl

theorem policyActions_eq {doc : PyVal} {stmts : List PyVal} {actss : List (List String)}
    (hdoc : doc.getD "Statement" (.list []) = .ok (.list stmts))
    (hstmts : List.Forall₂ ListsActions stmts actss) :
    policyActions doc = .ok (actss.flatten.map .str) := by
  have hloop : stmts.mapM statementActions = .ok (actss.map (List.map PyVal.str)) :=
    mapM_eq_ok_of_forall₂ (List.forall₂_map_right_iff.mpr (hstmts.imp fun _ _ => statementActions_eq))
  simp only [policyActions, hdoc, ok_bind, PyVal.iter_list, hloop, List.map_flatten]
  rfl

/-- The test of one expected action is `Covers`. -/
theorem actionCovered_str (actual : List String) (e : String) :
    actionCovered (actual.map .str) (.str e) = .ok (decide (Covers actual e)) := by
  have hpre : (actual.map PyVal.str).anyM (·.startsWith e.toList.dropLast) =
      .ok (actual.any fun a => e.toList.dropLast.isPrefixOf a.toList) := by
    refine (anyM_eq_ok_any (g := fun v => match v with
      | .str a => e.toList.dropLast.isPrefixOf a.toList | _ => false) fun v hv => ?_).trans ?_
    · obtain ⟨a, -, rfl⟩ := List.mem_map.mp hv; rfl
    · rw [any_map_str]
  simp only [actionCovered, PyVal.hashable, ok_bind, PyVal.contains_list_str]
  by_cases h : e ∈ actual
  · simp only [h, decide_True, if_true, pure_eq_ok, Covers, true_or]
  · simp only [h, decide_False, Bool.false_eq_true, if_false]
    by_cases hl : e.toList.getLast? = some '*'
    · rw [if_pos hl, hpre]
      congr 1
      rw [Bool.eq_iff_iff]
      simp only [List.any_eq_true, List.isPrefixOf_iff_prefix, decide_eq_true_eq, Covers, h, hl,
        false_or, true_and]
    · rw [if_neg hl]
      simp only [Covers, h, hl, false_and, or_self, decide_False, pure_eq_ok]

theorem missingActions_str (actual expected : List String) :
    missingActions (actual.map .str) (expected.map .str) =
      .ok ((expected.filter fun e => ¬ Covers actual e).map .str) := by
  rw [missingActions, filterM_eq_ok_filter (g := fun v => match v with
    | .str e => !decide (Covers actual e) | _ => false), List.filter_map]
  · simp only [decide_not]; rfl
  · intro v hv
    obtain ⟨e, -, rfl⟩ := List.mem_map.mp hv
    simp only [actionCovered_str, ok_bind, pure_eq_ok]

/-- **What `managed_policy_valid` checks.** On a default version whose statements each list
string actions, the expected actions reported missing are exactly those the listed actions do not
cover: listed as they are, or ending in `*` with the rest a prefix of a listed action. Only
`Action` is read, so a statement that denies its actions counts as granting them; and a listed
wildcard such as `s3:*` covers no expected action but itself. -/
theorem managedPolicyVerdict_eq (name : String) {doc : PyVal} {stmts : List PyVal}
    {actss : List (List String)} (hdoc : doc.getD "Statement" (.list []) = .ok (.list stmts))
    (hstmts : List.Forall₂ ListsActions stmts actss) (expected : List String) :
    managedPolicyVerdict name doc (.list (expected.map .str)) =
      .ok (let missing := expected.filter fun e => ¬ Covers actss.flatten e
        if missing = [] then (true, "All expected actions are present.")
        else (false, "Policy '" ++ name ++ "' is missing actions: " ++
          (PyVal.list (missing.map .str)).repr)) := by
  have hempty : ∀ l : List String, (l.map PyVal.str).isEmpty = decide (l = []) := by
    intro l; cases l <;> rfl
  simp only [managedPolicyVerdict, policyActions_eq hdoc hstmts, PyVal.iter_list, ok_bind,
    missingActions_str, hempty, decide_eq_true_eq]
  split_ifs <;> rfl

/-- A policy whose one statement denies `s3:*` is reported as granting `s3:*`, and as missing
`s3:GetObject`. -/
theorem managedPolicyVerdict_deny_wildcard :
    let stmt := PyVal.dict [("Effect", .str "Deny"), ("Action", .str "s3:*")]
    let doc := PyVal.dict [("Statement", .list [stmt])]
    (doc.getD "Statement" (.list []) = .ok (.list [stmt]) ∧
        List.Forall₂ ListsActions [stmt] [["s3:*"]]) ∧
      managedPolicyVerdict "ScvS3Access" doc (.list (["s3:GetObject", "s3:*"].map .str)) =
        .ok (false, "Policy 'ScvS3Access' is missing actions: ['s3:GetObject']") := by
  intro stmt doc
  have hstmts : List.Forall₂ ListsActions [stmt] [["s3:*"]] :=
    .cons ⟨_, rfl, .inr ⟨"s3:*", by decide, rfl, rfl⟩⟩ .nil
  have hdoc : doc.getD "Statement" (.list []) = .ok (.list [stmt]) := rfl
  refine ⟨⟨hdoc, hstmts⟩, ?_⟩
  rw [managedPolicyVerdict_eq "ScvS3Access" hdoc hstmts]
  rfl

/-! ## §6 — what `layers_attached` checks -/

/-- A function configuration whose `Layers` are dicts with the ARNs `arns`. -/
def AttachedArns (fnCfg : PyVal) (arns : List String) : Prop :=
  ∃ layers, fnCfg.getD "Layers" (.list []) = .ok (.list layers) ∧
    List.Forall₂ (fun layer arn => ∃ kvs, layer = .dict kvs ∧ kvs.lookup "Arn" = some (.str arn))
      layers arns

theorem missingLayers_str (arns expected : List String) :
    missingLayers (arns.map .str) (expected.map .str) =
      .ok ((expected.filter fun l => ¬ ∃ arn ∈ arns, l.toList <:+: arn.toList).map .str) := by
  have hany : ∀ l : String, (arns.map PyVal.str).anyM (·.contains (.str l)) =
      .ok (arns.any fun arn => occurs l.toList arn.toList) := fun l =>
    (anyM_eq_ok_any (g := fun v => match v with
      | .str arn => occurs l.toList arn.toList | _ => false) fun v hv => by
        obtain ⟨a, -, rfl⟩ := List.mem_map.mp hv; rfl).trans (by rw [any_map_str])
  rw [missingLayers, filterM_eq_ok_filter (g := fun v => match v with
    | .str l => !arns.any fun arn => occurs l.toList arn.toList | _ => false), List.filter_map]
  · congr 2
    refine List.filter_congr fun l _ => ?_
    simp only [Function.comp_apply, decide_not]
    congr 1
    rw [Bool.eq_iff_iff, List.any_eq_true, decide_eq_true_eq]
    simp only [occurs_iff_isInfix]
  · intro v hv
    obtain ⟨l, -, rfl⟩ := List.mem_map.mp hv
    simp only [hany, ok_bind, pure_eq_ok]

/-- On string layer names, `layers_attached` passes when each is a substring of some attached
ARN. -/
theorem layersAttached_passes {lmb : LambdaClient} {name fnCfg : PyVal} {arns : List String}
    (hcfg : lmb.getFunctionConfiguration name = pure fnCfg) (harns : AttachedArns fnCfg arns)
    (expected : List String) :
    Prod.fst <$> layersAttached lmb name (.list (expected.map .str)) =
      .ok (decide (∀ l ∈ expected, ∃ arn ∈ arns, l.toList <:+: arn.toList)) := by
  obtain ⟨layers, hl, hfa⟩ := harns
  have harn : layers.mapM (·.item "Arn") = .ok (arns.map .str) :=
    mapM_eq_ok_of_forall₂ (List.forall₂_map_right_iff.mpr (hfa.imp fun _ _ ⟨kvs, h, ha⟩ => by
      subst h; simp only [PyVal.item, ha]))
  cases expected with
  | nil => rfl
  | cons l ls =>
    simp only [layersAttached, PyVal.truthy, List.map_cons, List.isEmpty_cons, Bool.not_false,
      Bool.not_true, Bool.false_eq_true, if_false, hcfg, tryCall_pure, hl, ok_bind,
      PyVal.iter_list, harn, ← List.map_cons, missingLayers_str]
    -- every name attached is no name missing
    have hiff : (∀ x ∈ l :: ls, ∃ arn ∈ arns, x.toList <:+: arn.toList) ↔
        (l :: ls).filter (fun x => ¬ ∃ arn ∈ arns, x.toList <:+: arn.toList) = [] := by
      rw [List.filter_eq_nil_iff]
      simp only [decide_eq_true_eq, not_not]
    simp only [hiff]
    split_ifs with h₁ h₂
    · exact (Bool.false_ne_true h₁).elim
    · exact congrArg Except.ok
        (decide_eq_true (List.map_eq_nil_iff.mp (List.isEmpty_iff.mp h₂))).symm
    · rw [joinStr, strItems_map_str]
      exact congrArg Except.ok (decide_eq_false fun h => h₂ (by rw [h]; rfl)).symm

/-- **A layer name counts as attached when it occurs anywhere inside an attached layer's ARN.**
For a function whose configuration lists layers with string ARNs, and every list of expected layer
names, `layers_attached` passes exactly when each name is a substring of some ARN: a layer whose
name only contains the expected one, or an ARN whose account or version does, passes as well. -/
theorem layersAttached_iff {lmb : LambdaClient} {name fnCfg : PyVal} {arns : List String}
    (hcfg : lmb.getFunctionConfiguration name = pure fnCfg) (harns : AttachedArns fnCfg arns)
    (expected : List String) :
    ∃ r, layersAttached lmb name (.list (expected.map .str)) = .ok r ∧
      (r.1 = true ↔ ∀ l ∈ expected, ∃ arn ∈ arns, l.toList <:+: arn.toList) := by
  obtain ⟨r, hr, h1⟩ := map_eq_ok.mp (layersAttached_passes hcfg harns expected)
  exact ⟨r, hr, by rw [h1, decide_eq_true_iff]⟩

/-- The layer `Common` counts as attached to a function that carries only `CommonUtils`. -/
theorem layersAttached_substring :
    let fnCfg := PyVal.dict [("Layers", .list [.dict [("Arn",
      .str "arn:aws:lambda:us-west-2:123456789012:layer:CommonUtils:3")]])]
    let lmb : LambdaClient := ⟨fun _ => throw ⟨"ResourceNotFoundException", "not found"⟩,
      fun _ _ => throw ⟨"ResourceNotFoundException", "not found"⟩, fun _ => pure fnCfg, [],
      fun _ _ => pure .none⟩
    (lmb.getFunctionConfiguration (.str "Fn") = pure fnCfg ∧
        AttachedArns fnCfg ["arn:aws:lambda:us-west-2:123456789012:layer:CommonUtils:3"]) ∧
      ∃ r, layersAttached lmb (.str "Fn") (.list (["Common"].map .str)) = .ok r ∧
        (r.1 = true ↔ ∀ l ∈ ["Common"], ∃ arn ∈ ["arn:aws:lambda:us-west-2:123456789012:layer:CommonUtils:3"],
          l.toList <:+: arn.toList) := by
  intro fnCfg lmb
  have harns : AttachedArns fnCfg ["arn:aws:lambda:us-west-2:123456789012:layer:CommonUtils:3"] :=
    ⟨_, rfl, .cons ⟨_, rfl, rfl⟩ .nil⟩
  exact ⟨⟨rfl, harns⟩, layersAttached_iff rfl harns ["Common"]⟩

/-! ## §7 — what `lambda_role_correct` checks -/

/-- The name part of a role, `role.split("/")[-1]`: what follows its last `/`. -/
def roleName (role : String) : String := String.mk ((role.toList.splitOn '/').getLastD [])

theorem splitLast_slash (role : String) : (PyVal.str role).splitLast '/' = .ok (roleName role) :=
  rfl

/-- On a function whose configuration names the role `actualRole`, `lambda_role_correct` passes
when no role is expected or the two roles' name parts agree: the account and the path of an
expected role ARN are never compared. -/
theorem lambdaRoleCorrect_passes {lmb : LambdaClient} {name resp : PyVal} {actualRole : String}
    (hfn : lmb.getFunction name = pure resp)
    (hrole : resp.item "Configuration" >>= (·.item "Role") = .ok (.str actualRole))
    (expectedRole : String) :
    Prod.fst <$> lambdaRoleCorrect lmb name (.str expectedRole) =
      .ok (decide (expectedRole = "" ∨ roleName actualRole = roleName expectedRole)) := by
  obtain ⟨cfg, hc, hr⟩ := bind_eq_ok.mp hrole
  by_cases he : expectedRole = ""
  · subst he; rfl
  · have htr : (expectedRole != "") = true := bne_iff_ne.mpr he
    simp only [lambdaRoleCorrect, PyVal.truthy, htr, Bool.not_true, Bool.false_eq_true, if_false,
      hfn, tryCall_pure, hc, hr, ok_bind, splitLast_slash, he, false_or]
    split_ifs with h
    · exact congrArg Except.ok (decide_eq_true h).symm
    · exact congrArg Except.ok (decide_eq_false h).symm

end HealthCheck
