import HealthCheck.Validation.Resources
import HealthCheck.Validation.Roles
import HealthCheck.Validation.Triggers
import HealthCheck.Report.Summary

/-!
# HealthCheck — the eleven validation tasks

`validate_all_resources_parallel` (`core/multithreading.py`) registers one task per validator and
runs them on the configuration, the deployment's input and the set of expected Lambda names. Here
the tasks are `validationTask`: each registered name runs its validator against the AWS account
the deployment talks to, `Aws`.

* `validationTask_report` — every report a task returns is its resource type and a list of items,
  each with a name, a status among 200 and 500, and a message; only the Lambda task may also report
  300, under a BYOA or BYOAC SKU, as a warning about the `ProviderCreator` of the BYOA tenant stack.
* `validateAllResourcesParallel_one_entry_per_task` — so on every run of these tasks the collector
  adds exactly one entry and the documented error lines per task, whatever the completion order.
-/

namespace HealthCheck

/-! ## §1 — the tasks -/

/-- The AWS account the validators ask, one client per service as the validators open them. -/
structure Aws where
  /-- `sts.get_caller_identity()["Account"]` in `validate_roles`, or the exception. -/
  account : Except String String
  /-- `iam_role_exists`'s `get_role`: found, a `ClientError`, or another exception. -/
  getRole : PyVal → Except String Bool
  /-- The IAM policy simulator of `simulate_actions`. -/
  simulate : Simulator
  /-- `boto3.client("lambda")`. -/
  lmb : LambdaClient
  /-- The us-east-1 clients of the tenant stacks. -/
  tenant : TenantClient
  /-- `boto3.client("iam")`, as `managed_policy_valid` uses it. -/
  iam : IamClient
  /-- The fetches of `describe_alarms(AlarmNames=[name])`. -/
  describeAlarms : PyVal → List (AwsCall PyVal)
  /-- `boto3.client("s3")`. -/
  s3 : S3Client
  /-- The fetches of `list_streams`. -/
  listStreams : List (AwsCall PyVal)
  /-- `boto3.client("kms")`. -/
  kms : KmsClient
  /-- `describe_rule(Name=name)`: the rule, or the text of a `ClientError`. -/
  describeRule : String → Except String PyVal
  /-- `list_event_source_mappings(FunctionName=fn)`: the response, or the text of a
  `ClientError`. -/
  listMappings : PyVal → Except String PyVal

/-- `validation_tasks`: what the future of each registered task holds. `lambdaNames` is the set
`all_lambda_names` as a `for` loop visits it. No other name is ever asked for. -/
def validationTask (aws : Aws) (input : HealthCheckInput) (cfg : PyVal) (lambdaNames : List PyVal) :
    String → Except String PyVal
  | "roles" => validateRoles aws.account aws.getRole aws.simulate cfg
  | "lambdas" => validateLambdas aws.lmb aws.tenant input cfg
  | "layers" => validateLayers aws.lmb cfg
  | "policies" => validatePolicies aws.iam cfg
  | "alarms" => validateAlarms aws.describeAlarms cfg
  | "s3" => validateS3 aws.s3 cfg
  | "kinesis" => validateKinesis aws.listStreams cfg
  | "kms_aliases" => validateKmsAliases aws.kms cfg
  | "triggers" => validateTriggersByLambdaPolicy (getLambdaPolicy aws.lmb) aws.describeRule cfg
  | "event_mappings" => validateEventSourceMappings aws.listMappings cfg lambdaNames
  | "lambda_permissions" => validateLambdaPermissions (getLambdaPolicy aws.lmb) cfg lambdaNames
  | task => .error ("no validation task " ++ task)

/-! ## §2 — the cross-reference, role and rule validators report 200 or 500 -/

section Shape

variable {cfg v e i : PyVal} {names : List PyVal}

theorem roleItem_shaped {getRole : PyVal → Except String Bool} {simulate : Simulator}
    {accountId : String} (h : roleItem getRole simulate accountId e = .ok i) :
    ItemShaped [200, 500] i := by
  simp only [roleItem, bind_eq_ok] at h
  obtain ⟨_, -, ⟨_, _⟩, -, h⟩ := h
  split at h
  · cases h; exact resourceItem_shaped (by decide) _ _
  simp only [bind_eq_ok] at h
  obtain ⟨_, -, h⟩ := h
  -- whether the actions are simulated, the item combines the results
  split at h <;> simp only [bind_eq_ok, pure_eq_ok, Except.ok.injEq] at h
  · obtain ⟨_, -, _, -, _, -, rfl⟩ := h
    exact combineResults_shaped _ _
  · obtain ⟨_, -, rfl⟩ := h
    exact combineResults_shaped _ _

theorem validateRoles_shaped {account : Except String String} {getRole : PyVal → Except String Bool}
    {simulate : Simulator} (h : validateRoles account getRole simulate cfg = .ok v) :
    ReportOf (ItemShaped [200, 500]) v :=
  reportOf_section roleItem_shaped h

theorem describedRuleItem_shaped {describeRule : String → Except String PyVal} {name : PyVal}
    {actualRuleName : String} (h : describedRuleItem describeRule name actualRuleName = .ok i) :
    ItemShaped [200, 500] i := by
  unfold describedRuleItem at h
  split at h
  · simp only [bind_eq_ok] at h
    obtain ⟨_, -, h⟩ := h
    split at h <;> cases h <;> exact combineResults_shaped _ _
  · cases h; exact combineResults_shaped _ _

theorem triggerItem_shaped {lambdaPolicy : PyVal → Except String PyVal}
    {describeRule : String → Except String PyVal} (h : triggerItem lambdaPolicy describeRule e = .ok i) :
    ItemShaped [200, 500] i := by
  simp only [triggerItem, bind_eq_ok] at h
  obtain ⟨_, -, _, -, h⟩ := h
  split at h
  · cases h; exact combineResults_shaped _ _
  simp only [bind_eq_ok] at h
  obtain ⟨_, -, _, -, h⟩ := h
  split at h
  · cases h; exact combineResults_shaped _ _
  simp only [bind_eq_ok] at h
  obtain ⟨_, -, _, -, _, -, h⟩ := h
  split at h
  · cases h; exact combineResults_shaped _ _
  simp only [bind_eq_ok] at h
  obtain ⟨_, -, h⟩ := h
  exact describedRuleItem_shaped h

theorem validateTriggers_shaped {lambdaPolicy : PyVal → Except String PyVal}
    {describeRule : String → Except String PyVal}
    (h : validateTriggersByLambdaPolicy lambdaPolicy describeRule cfg = .ok v) :
    ReportOf (ItemShaped [200, 500]) v :=
  reportOf_section triggerItem_shaped h

theorem mappingCheck_shaped {listMappings : PyVal → Except String PyVal} {name source fn : PyVal}
    (h : mappingCheck listMappings name source fn = .ok i) : ItemShaped [200, 500] i := by
  unfold mappingCheck at h
  split at h
  · cases h; exact combineResults_shaped _ _
  simp only [bind_eq_ok] at h
  obtain ⟨_, -, _, -, _, -, h⟩ := h
  split at h
  · simp only [bind_eq_ok] at h
    obtain ⟨_, -, h⟩ := h
    split at h
    · cases h; exact combineResults_shaped _ _
    · simp only [bind_eq_ok, pure_eq_ok, Except.ok.injEq] at h
      obtain ⟨_, -, rfl⟩ := h
      exact combineResults_shaped _ _
  · cases h; exact combineResults_shaped _ _

theorem eventSourceMappingItem_shaped {listMappings : PyVal → Except String PyVal}
    (h : eventSourceMappingItem listMappings names e = .ok i) : ItemShaped [200, 500] i := by
  simp only [eventSourceMappingItem, bind_eq_ok] at h
  obtain ⟨_, -, _, -, _, -, h⟩ := h
  split at h
  · cases h; exact combineResults_shaped _ _
  simp only [bind_eq_ok] at h
  obtain ⟨_, -, h⟩ := h
  split at h
  · cases h; exact combineResults_shaped _ _
  · exact mappingCheck_shaped h

theorem validateEventSourceMappings_shaped {listMappings : PyVal → Except String PyVal}
    (h : validateEventSourceMappings listMappings cfg names = .ok v) :
    ReportOf (ItemShaped [200, 500]) v :=
  reportOf_section eventSourceMappingItem_shaped h

theorem permissionCheck_shaped {lambdaPolicy : PyVal → Except String PyVal}
    {name principal source fn : PyVal}
    (h : permissionCheck lambdaPolicy name principal source fn = .ok i) : ItemShaped [200, 500] i := by
  simp only [permissionCheck, bind_eq_ok] at h
  obtain ⟨_, -, h⟩ := h
  split at h
  · cases h; exact combineResults_shaped _ _
  simp only [bind_eq_ok] at h
  obtain ⟨_, -, _, -, _, -, h⟩ := h
  split at h <;> cases h <;> exact combineResults_shaped _ _

theorem lambdaPermissionItem_shaped {lambdaPolicy : PyVal → Except String PyVal}
    (h : lambdaPermissionItem lambdaPolicy names e = .ok i) : ItemShaped [200, 500] i := by
  simp only [lambdaPermissionItem, bind_eq_ok] at h
  obtain ⟨_, -, _, -, _, -, _, -, _, -, h⟩ := h
  split at h
  · cases h; exact combineResults_shaped _ _
  · exact permissionCheck_shaped h

theorem validateLambdaPermissions_shaped {lambdaPolicy : PyVal → Except String PyVal}
    (h : validateLambdaPermissions lambdaPolicy cfg names = .ok v) :
    ReportOf (ItemShaped [200, 500]) v :=
  reportOf_section lambdaPermissionItem_shaped h

end Shape

/-! ## §3 — every task's report -/

/-- The items a task may report under the deployment's SKU: 200 or 500, and for the Lambda task the
`ProviderCreator` warnings of a BYOA tenant stack. -/
def TaskItem (sku task : String) : PyVal → Prop :=
  if task = "lambdas" then LambdaItem sku else ItemShaped [200, 500]

theorem ReportOf.mono {P Q : PyVal → Prop} {v : PyVal} (h : ReportOf P v) (hPQ : ∀ i, P i → Q i) :
    ReportOf Q v :=
  let ⟨rt, items, hv, hi⟩ := h
  ⟨rt, items, hv, fun i hm => hPQ i (hi i hm)⟩

/-- The task's validator, whichever of the eleven it is, returns a report of task items. -/
theorem validationTask_reportOf {aws : Aws} {input : HealthCheckInput} {cfg : PyVal}
    {lambdaNames : List PyVal} {t : String} {v : PyVal}
    (h : validationTask aws input cfg lambdaNames t = .ok v) : ReportOf (TaskItem input.sku t) v := by
  unfold validationTask at h
  split at h
  · exact validateRoles_shaped h
  · exact validateLambdas_shaped h
  · exact validateLayers_shaped h
  · exact validatePolicies_shaped h
  · exact validateAlarms_shaped h
  · exact validateS3_shaped h
  · exact validateKinesis_shaped h
  · exact validateKmsAliases_shaped h
  · exact validateTriggers_shaped h
  · exact validateEventSourceMappings_shaped h
  · exact validateLambdaPermissions_shaped h
  · cases h

/-- **Every validation task reports a list of well-formed items.** For every AWS account,
deployment, configuration and set of Lambda names, a task that returns reports a dict of its
resource type and its items, each a resource name, a status among 200 and 500, and a message; the
Lambda task may also report a 300, and only under a BYOA or BYOAC SKU, as one of the two
`ProviderCreator` warnings about the BYOA tenant stack. -/
theorem validationTask_report (aws : Aws) (input : HealthCheckInput) (cfg : PyVal)
    (lambdaNames : List PyVal) {t : String} {v : PyVal}
    (h : validationTask aws input cfg lambdaNames t = .ok v) :
    ReportOf (TaskItem input.sku t) v :=
  validationTask_reportOf h

/-- An AWS account where every call answers and every listing is empty. -/
def sampleAws : Aws where
  account := .ok "123456789012"
  getRole := fun _ => .ok true
  simulate := fun _ _ _ => .ok (.ok "allowed")
  lmb := ⟨fun _ => pure (.dict []), fun _ _ => pure (.dict []), fun _ => pure (.dict []), [],
    fun _ _ => pure .none⟩
  tenant := ⟨fun _ => pure (.dict []), fun _ => pure (.dict []), fun _ => pure (.dict [])⟩
  iam := ⟨pure (.dict [("Policies", .list [])]), fun _ => pure (.dict []), fun _ _ => pure (.dict [])⟩
  describeAlarms := fun _ => []
  s3 := ⟨fun _ => pure (.dict []), fun _ => pure (.dict [])⟩
  listStreams := []
  kms := ⟨[], fun _ => pure (.dict [])⟩
  describeRule := fun _ => .ok (.dict [])
  listMappings := fun _ => .ok (.dict [])

/-- The S3 task on a configuration with one bucket, which the account has. -/
theorem validationTask_report_example :
    let input := configuredInput (fun _ => none) [] "us-west-2" "123456789012" "instance" "run"
    let cfg := PyVal.dict [("S3Buckets", .list [.dict [("name", .str "reports")]])]
    let report := PyVal.dict [("ResourceType", .str "S3 Bucket"),
      ("DetailedHealthCheck", .list [resourceItem (.str "reports") 200 "healthy"])]
    validationTask sampleAws input cfg [] "s3" = .ok report ∧ ReportOf (TaskItem input.sku "s3") report := by
  intro input cfg report
  have h : validationTask sampleAws input cfg [] "s3" = .ok report := rfl
  exact ⟨h, validationTask_report _ _ _ _ h⟩

/-! ## §4 — the statuses of the deployed tasks

`taskStatuses` lists the statuses of what each task put in the report: the items of its report, or
the one 500 item of a task that raised. With the deployment's validators every status is 200, 300
or 500, and a 300 comes from the Lambda task. -/

theorem ReportOf.statuses {P : PyVal → Prop} {statuses : List Int} {v : PyVal} (h : ReportOf P v)
    (hP : ∀ i, P i → ItemShaped statuses i) :
    IntStatusReport v ∧ ∀ n ∈ reportStatuses v, n ∈ statuses := by
  obtain ⟨rt, items, rfl, hi⟩ := h
  refine ⟨⟨_, rfl, fun dhc hl => ?_⟩, fun n hn => ?_⟩
  · cases hl
    refine ⟨items, rfl, fun i hm => ?_⟩
    obtain ⟨name, s, msg, rfl, -⟩ := hP i (hi i hm)
    exact ⟨_, rfl, fun st hst => by cases hst; exact ⟨s, rfl⟩⟩
  · obtain ⟨i, hm, rfl⟩ := List.mem_map.mp hn
    obtain ⟨name, s, msg, rfl, hs⟩ := hP i (hi i hm)
    exact hs

theorem TaskItem.shaped {sku t : String} {i : PyVal} (h : TaskItem sku t i) :
    ItemShaped (if t = "lambdas" then [200, 300, 500] else [200, 500]) i := by
  unfold TaskItem at h
  split_ifs at h ⊢
  · rcases h with h | ⟨-, msg, -, rfl⟩
    · exact h.mono (by decide)
    · exact resourceItem_shaped (by decide) _ _
  · exact h

section Deployed

variable {aws : Aws} {input : HealthCheckInput} {cfg : PyVal} {lambdaNames : List PyVal}

theorem validationTask_statuses {t : String} {v : PyVal}
    (h : validationTask aws input cfg lambdaNames t = .ok v) :
    IntStatusReport v ∧
      ∀ n ∈ reportStatuses v, n ∈ (if t = "lambdas" then [200, 300, 500] else [200, 500]) :=
  (validationTask_reportOf h).statuses fun _ => TaskItem.shaped

theorem taskStatuses_mem {n : Int} :
    n ∈ taskStatuses (validationTask aws input cfg lambdaNames) ↔
      ∃ t ∈ validationTasks, ((∃ e, validationTask aws input cfg lambdaNames t = .error e) ∧ n = 500) ∨
        ∃ v, validationTask aws input cfg lambdaNames t = .ok v ∧ n ∈ reportStatuses v := by
  simp only [taskStatuses, List.mem_flatMap]
  refine exists_congr fun t => and_congr_right fun _ => ?_
  cases validationTask aws input cfg lambdaNames t with
  | error e => simp [documentedEntry, failedReport, reportStatuses, itemStatus, List.lookup]
  | ok v => simp [documentedEntry]

theorem taskStatuses_three {n : Int}
    (h : n ∈ taskStatuses (validationTask aws input cfg lambdaNames)) :
    n = 200 ∨ n = 300 ∨ n = 500 := by
  obtain ⟨t, -, ⟨-, rfl⟩ | ⟨v, hv, hn⟩⟩ := taskStatuses_mem.mp h
  · simp
  · have := (validationTask_statuses hv).2 n hn
    split_ifs at this <;> simp only [List.mem_cons, List.mem_singleton, List.not_mem_nil,
      or_false] at this <;> omega

theorem taskStatuses_300 :
    300 ∈ taskStatuses (validationTask aws input cfg lambdaNames) ↔
      ∃ v, validationTask aws input cfg lambdaNames "lambdas" = .ok v ∧ 300 ∈ reportStatuses v := by
  rw [taskStatuses_mem]
  constructor
  · rintro ⟨t, -, ⟨-, h⟩ | ⟨v, hv, hn⟩⟩
    · cases h
    · have := (validationTask_statuses hv).2 300 hn
      split_ifs at this with ht
      · exact ht ▸ ⟨v, hv, hn⟩
      · simp at this
  · rintro ⟨v, hv, hn⟩
    exact ⟨"lambdas", by decide, .inr ⟨v, hv, hn⟩⟩

end Deployed

/-! ## §5 — the collector over the deployed tasks

The eleven registered tasks never return a value the collector cannot read: each report is a dict
whose `DetailedHealthCheck` is a list of dict items, so every completed future adds exactly its own
entry. -/

/-- A report of dict items is one the collector reads without raising. -/
theorem ReportOf.wellFormed {P : PyVal → Prop} {v : PyVal} (h : ReportOf P v)
    (hP : ∀ i, P i → ∃ ikvs, i = .dict ikvs) : WellFormedReport v := by
  obtain ⟨rt, items, rfl, hi⟩ := h
  exact ⟨_, rfl, fun dhc hl => by cases hl; exact ⟨items, rfl, fun i hm => hP i (hi i hm)⟩⟩

theorem validationTask_wellFormed {aws : Aws} {input : HealthCheckInput} {cfg : PyVal}
    {lambdaNames : List PyVal} {t : String} {v : PyVal}
    (h : validationTask aws input cfg lambdaNames t = .ok v) : WellFormedReport v :=
  (validationTask_reportOf h).wellFormed fun _ hi =>
    let ⟨_, _, _, he, _⟩ := TaskItem.shaped hi
    ⟨_, he⟩

/-- **One entry per task, on every run of the deployed tasks.** For every AWS account, deployment
whose thread count the pool accepts, configuration, set of Lambda names and completion order of the
eleven futures, `validate_all_resources_parallel` returns one entry per task — the task's report,
or the synthesized failure of a task that raised — and adds the documented error lines of each
task, both up to permutation: the report has eleven entries. -/
theorem validateAllResourcesParallel_one_entry_per_task (aws : Aws) (input : HealthCheckInput)
    (cfg : PyVal) (lambdaNames : List PyVal) {order : List String}
    (hpool : threadPool input.maxThreads = .ok ()) (hp : order.Perm validationTasks)
    (c : Collector) :
    ∃ report errs,
      validateAllResourcesParallel input.maxThreads (validationTask aws input cfg lambdaNames)
          order c = .ok report ⟨report, c.errors ++ errs⟩ ∧
      report.Perm (validationTasks.map fun t =>
        documentedEntry t (validationTask aws input cfg lambdaNames t)) ∧
      errs.Perm (validationTasks.flatMap fun t =>
        documentedErrors t (validationTask aws input cfg lambdaNames t)) ∧
      report.length = 11 := by
  have hwf : ∀ t v, validationTask aws input cfg lambdaNames t = .ok v → WellFormedReport v :=
    fun _ _ => validationTask_wellFormed
  refine ⟨_, _, by rw [validateAllResourcesParallel_run, hpool], ?_, ?_, ?_⟩
  · rw [collectedReports_of_wellFormed hwf]; exact hp.map _
  · rw [collectedErrors_of_wellFormed hwf]; exact hp.flatMap_right _
  · rw [collectedReports_of_wellFormed hwf, List.length_map, hp.length_eq]; rfl

/-- The deployed tasks on `sampleAws`, the futures completing in reverse registration order. -/
theorem validateAllResourcesParallel_one_entry_per_task_example :
    let input := configuredInput (fun _ => none) [] "us-west-2" "123456789012" "instance" "run"
    (threadPool input.maxThreads = .ok () ∧ validationTasks.reverse.Perm validationTasks) ∧
    ∃ report errs,
      validateAllResourcesParallel input.maxThreads (validationTask sampleAws input (.dict []) [])
          validationTasks.reverse ⟨[], []⟩ = .ok report ⟨report, [] ++ errs⟩ ∧
      report.Perm (validationTasks.map fun t =>
        documentedEntry t (validationTask sampleAws input (.dict []) [] t)) ∧
      errs.Perm (validationTasks.flatMap fun t =>
        documentedErrors t (validationTask sampleAws input (.dict []) [] t)) ∧
      report.length = 11 := by
  intro input
  have hpool : threadPool input.maxThreads = .ok () := rfl
  exact ⟨⟨hpool, List.reverse_perm _⟩, validateAllResourcesParallel_one_entry_per_task sampleAws
    input (.dict []) [] hpool (List.reverse_perm _) ⟨[], []⟩⟩


end HealthCheck
