import HealthCheck.Validation.CrossRef

/-!
# HealthCheck — the EventBridge rule validator

`validate_triggers_by_lambda_policy` (`validators/all_validators.py`) reports one item per rule of
the `EventBridgeRules` section. It does not look the configured rule up: it reads the resource
policy of the rule's first target Lambda, takes the source ARN of the first statement that grants
`events.amazonaws.com`, and asks EventBridge whether the rule that ARN names is `ENABLED`. The
item of a healthy rule names the rule found in the policy.

`get_lambda_policy` and `describe_rule` are collaborators: the parsed policy (`None` when there is
none) or an exception that propagates, and the rule's description or the text of a
`ClientError`.

* `triggerItem_status_name_irrelevant` — the status of a rule's item does not depend on the rule's
  configured name: a configured rule passes when its target is triggered by any enabled rule.
-/

namespace HealthCheck

/-! ## §1 — the validator -/

/-- `next((stmt.get("Condition", {}).get("ArnLike", {}).get("AWS:SourceArn") for stmt in statements
if stmt.get("Principal", {}).get("Service") == "events.amazonaws.com"), None)`. -/
def eventsRuleArn : List PyVal → Except String PyVal
  | [] => .ok .none
  | stmt :: stmts => do
    let service ← (← stmt.getD "Principal" (.dict [])).getD "Service" .none
    if service.pyEq (.str "events.amazonaws.com") then
      (← (← stmt.getD "Condition" (.dict [])).getD "ArnLike" (.dict [])).getD "AWS:SourceArn" .none
    else eventsRuleArn stmts

/-- The `try` block: the found rule must be `ENABLED`; a `ClientError` of `describe_rule` fails the
configured rule. -/
def describedRuleItem (describeRule : String → Except String PyVal) (name : PyVal)
    (actualRuleName : String) : Except String PyVal :=
  match describeRule actualRuleName with
  | .ok ruleDetails => do
    let state ← ruleDetails.getD "State" .none
    if state.pyEq (.str "ENABLED") then
      pure (combineResults (.str actualRuleName) [(true, "healthy")])
    else
      pure (combineResults (.str actualRuleName)
        [(false, "Rule '" ++ actualRuleName ++ "' is not ENABLED (State: " ++ state.toStr ++ ")")])
  | .error e =>
    pure (combineResults name
      [(false, "Could not describe the found rule '" ++ actualRuleName ++ "': " ++ e)])

/-- One rule of `validate_triggers_by_lambda_policy`. -/
def triggerItem (lambdaPolicy : PyVal → Except String PyVal)
    (describeRule : String → Except String PyVal) (ruleConfig : PyVal) : Except String PyVal := do
  let name ← ruleConfig.item "name"
  let targets ← ruleConfig.getD "targets" (.list [])
  if !targets.truthy then
    pure (combineResults name [(false, "Rule has no targets defined in expected config.")])
  else
    let targetLambdaName ← targets.first
    let policy ← lambdaPolicy targetLambdaName
    if !policy.truthy then
      pure (combineResults name
        [(false, "No resource policy found for target Lambda '" ++ targetLambdaName.toStr ++ "'")])
    else
      let ruleArn ← eventsRuleArn (← (← policy.getD "Statement" (.list [])).iter)
      if !ruleArn.truthy then
        pure (combineResults name [(false, "No EventBridge trigger found in policy for Lambda '" ++
          targetLambdaName.toStr ++ "'")])
      else
        describedRuleItem describeRule name (← ruleArn.splitLast '/')

/-- `validate_triggers_by_lambda_policy(cfg, all_lambda_names)`; the names are not read. -/
def validateTriggersByLambdaPolicy (lambdaPolicy : PyVal → Except String PyVal)
    (describeRule : String → Except String PyVal) (cfg : PyVal) : Except String PyVal := do
  let rules ← sectionEntries cfg "EventBridgeRules"
  let checks ← rules.mapM (triggerItem lambdaPolicy describeRule)
  pure (.dict [("ResourceType", .str "EventBridge Rule"), ("DetailedHealthCheck", .list checks)])

/-! ## §2 — the configured name decides nothing -/

/-- The `status` of a report item. -/
def statusOf : PyVal → Option PyVal
  | .dict kvs => kvs.lookup "status"
  | _ => none

theorem statusOf_combineResults (n₁ n₂ : PyVal) (results : List (Bool × String)) :
    statusOf (combineResults n₁ results) = statusOf (combineResults n₂ results) := by
  unfold combineResults; split <;> rfl

/-- A step of the validator that both runs take alike keeps their statuses alike. -/
theorem map_statusOf_bind {α : Type} (x : Except String α) {f g : α → Except String PyVal}
    (h : ∀ a, (f a).map statusOf = (g a).map statusOf) :
    (x >>= f).map statusOf = (x >>= g).map statusOf := by
  cases x with
  | error e => rfl
  | ok a => exact h a

theorem describedRuleItem_status (describeRule : String → Except String PyVal) (n₁ n₂ : PyVal)
    (actualRuleName : String) :
    (describedRuleItem describeRule n₁ actualRuleName).map statusOf =
      (describedRuleItem describeRule n₂ actualRuleName).map statusOf := by
  unfold describedRuleItem
  cases describeRule actualRuleName with
  | ok _ => rfl
  | error e => exact congrArg Except.ok (statusOf_combineResults n₁ n₂ _)

/-- **The configured rule name decides nothing.** Two configurations of a rule that differ only
in its name give items of the same status, or raise the same exception: the validator checks that
the rule's first target is triggered by some enabled EventBridge rule, whichever rule that is. -/
theorem triggerItem_status_name_irrelevant (lambdaPolicy : PyVal → Except String PyVal)
    (describeRule : String → Except String PyVal) (rest : List (String × PyVal)) (n₁ n₂ : PyVal) :
    (triggerItem lambdaPolicy describeRule (.dict (("name", n₁) :: rest))).map statusOf =
      (triggerItem lambdaPolicy describeRule (.dict (("name", n₂) :: rest))).map statusOf := by
  have htargets : ∀ n : PyVal, (PyVal.dict (("name", n) :: rest)).getD "targets" (.list []) =
      (PyVal.dict rest).getD "targets" (.list []) := fun n => rfl
  simp only [triggerItem, PyVal.item, List.lookup, beq_self_eq_true, htargets]
  cases (PyVal.dict rest).getD "targets" (.list []) with
  | error e => rfl
  | ok targets =>
    simp only [ok_bind]
    -- each `if` fails the configured rule, under either name; the rest is taken alike
    split_ifs
    · exact congrArg Except.ok (statusOf_combineResults n₁ n₂ _)
    refine map_statusOf_bind _ fun _ => map_statusOf_bind _ fun _ => ?_
    split_ifs
    · exact congrArg Except.ok (statusOf_combineResults n₁ n₂ _)
    refine map_statusOf_bind _ fun _ => map_statusOf_bind _ fun _ => map_statusOf_bind _ fun _ => ?_
    split_ifs
    · exact congrArg Except.ok (statusOf_combineResults n₁ n₂ _)
    exact map_statusOf_bind _ fun _ => describedRuleItem_status describeRule n₁ n₂ _

/-- The rule `ExpectedRule` passes, reported under the name of the rule its target's policy
names. -/
example : triggerItem
    (fun _ => .ok (.dict [("Statement", .list [.dict [
      ("Principal", .dict [("Service", .str "events.amazonaws.com")]),
      ("Condition", .dict [("ArnLike", .dict [
        ("AWS:SourceArn", .str "arn:aws:events:us-west-2:123456789012:rule/OtherRule")])])]])]))
    (fun _ => .ok (.dict [("State", .str "ENABLED")]))
    (.dict [("name", .str "ExpectedRule"), ("targets", .list [.str "Fn"])]) =
    .ok (.dict [("ResourceName", .str "OtherRule"), ("status", .int 200),
      ("message", .str "healthy")]) := rfl

end HealthCheck
