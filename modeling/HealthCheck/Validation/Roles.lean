import HealthCheck.Validation.CrossRef

/-!
# HealthCheck — the IAM role validator

`validate_roles` (`validators/all_validators.py`) reports one item per role of the `IAMRoles`
section: the role must exist, and the actions of its `simulate_actions` list are run through the
IAM policy simulator by `simulate_actions` (`utils/aws_helpers.py`). That helper skips the
simulation of an action that holds `*`, and of every action when the resource holds a `*` in its
resource part — in particular when the resource is `*` itself, its default. `validate_roles` calls
it without a resource.

The AWS calls are collaborators: STS gives the account or raises, `get_role` finds the role, fails
with a `ClientError`, or raises something else, and the simulator returns the decision, the text
of a `ClientError`, or raises.

* `simulateActions_of_wildcard` — on a resource with a wildcard in its resource part, no action
  reaches the simulator, and every result is a pass;
* `validateRoles_simulator_irrelevant` — the report of `validate_roles` is the same whatever the
  simulator would say: the permission simulation it asks for never runs;
* `validateRoles_items` — every item is a found role reported healthy, or a role `get_role` did not
  find: no permission a role lacks is ever reported.
-/

namespace HealthCheck

/-! ## §1 — `simulate_actions` -/

/-- `simulate_principal_policy(PolicySourceArn=..., ActionNames=[act], ResourceArns=[resource])`
read down to `["EvaluationResults"][0]["EvalDecision"]`: the decision, or the text of a
`ClientError` (inside), or an exception that propagates (outside). -/
abbrev Simulator := String → PyVal → String → Except String (Except String String)

/-- `has_problematic_wildcard`: the resource `*`, a `*` in the resource part of an ARN (its sixth
`:`-separated field and on), or a `*` anywhere in a resource of fewer than six fields. -/
def hasProblematicWildcard (resourceArn : String) : Bool :=
  if resourceArn ≠ "*" ∧ '*' ∈ resourceArn.toList then
    let arnParts := resourceArn.toList.splitOn ':'
    if 6 ≤ arnParts.length then '*' ∈ [':'].intercalate (arnParts.drop 5) else true
  else resourceArn = "*"

/-- The result `simulate_actions` records for one action. -/
def simulateAction (simulate : Simulator) (role : PyVal) (accountId resourceArn : String)
    (act : PyVal) : Except String (Bool × String) := do
  if ← act.contains (.str "*") then
    pure (true, "Simulation: Role '" ++ role.toStr ++ "' - Skipped wildcard action '" ++
      act.toStr ++ "' (not supported by IAM simulation)")
  else if hasProblematicWildcard resourceArn then
    pure (true, "Simulation: Role '" ++ role.toStr ++ "' - Skipped action '" ++ act.toStr ++
      "' on wildcard resource '" ++ resourceArn ++ "' (may cause implicit deny in simulation)")
  else
    match ← simulate ("arn:aws:iam::" ++ accountId ++ ":role/" ++ role.toStr) act resourceArn with
    | .ok decision =>
      if decision = "allowed" then
        pure (true, "Simulation: Role '" ++ role.toStr ++ "' ALLOWS '" ++ act.toStr ++ "'.")
      else
        pure (false, "Simulation: Role '" ++ role.toStr ++ "' DENIES '" ++ act.toStr ++
          "' (Reason: " ++ decision ++ ").")
    | .error e =>
      pure (false, "Simulation Error for '" ++ act.toStr ++ "' on role '" ++ role.toStr ++ "': " ++ e)

/-- `simulate_actions(role, actions, iam_client, account_id, resource_arn)`: one result per
action, in order. -/
def simulateActions (simulate : Simulator) (role : PyVal) (actions : List PyVal)
    (accountId resourceArn : String) : Except String (List (Bool × String)) :=
  actions.mapM (simulateAction simulate role accountId resourceArn)

/-! ## §2 — `validate_roles` -/

/-- `iam_role_exists(name, iam)`: `get_role` finds the role (`.ok true`), fails with a
`ClientError` (`.ok false`), or raises. -/
def iamRoleExists (getRole : PyVal → Except String Bool) (role : PyVal) :
    Except String (Bool × String) :=
  (fun found => if found then (true, "healthy") else (false, "IAM role missing: " ++ role.toStr)) <$>
    getRole role

/-- One role of `validate_roles`. The actions are simulated when the role's `simulate_actions`
is truthy and STS gave an account; the call passes no resource, so the resource is `*`. -/
def roleItem (getRole : PyVal → Except String Bool) (simulate : Simulator) (accountId : String)
    (roleConfig : PyVal) : Except String PyVal := do
  let name ← roleConfig.item "name"
  let (found, msg) ← iamRoleExists getRole name
  if !found then
    pure (.dict [("ResourceName", name), ("status", .int 500), ("message", .str msg)])
  else
    let actionsToSimulate ← roleConfig.getD "simulate_actions" .none
    let results ←
      if actionsToSimulate.truthy && accountId != "UNKNOWN" then do
        let _ ← actionsToSimulate.len
        simulateActions simulate name (← actionsToSimulate.iter) accountId "*"
      else pure []
    pure (combineResults name results)

/-- `validate_roles(cfg)`; an account STS does not give is `UNKNOWN`. -/
def validateRoles (account : Except String String) (getRole : PyVal → Except String Bool)
    (simulate : Simulator) (cfg : PyVal) : Except String PyVal := do
  let accountId := match account with
    | .ok a => a
    | .error _ => "UNKNOWN"
  let roles ← sectionEntries cfg "IAMRoles"
  let healthChecks ← roles.mapM (roleItem getRole simulate accountId)
  pure (.dict [("ResourceType", .str "IAM Role"), ("DetailedHealthCheck", .list healthChecks)])

/-! ## §3 — a wildcard resource never reaches the simulator -/

section Wildcard

variable {resourceArn : String} {role : PyVal} {accountId : String}

/-- On such a resource, an action's result does not depend on the simulator. -/
theorem simulateAction_of_wildcard (h : hasProblematicWildcard resourceArn = true)
    (sim₁ sim₂ : Simulator) (act : PyVal) :
    simulateAction sim₁ role accountId resourceArn act =
      simulateAction sim₂ role accountId resourceArn act := by
  unfold simulateAction
  cases act.contains (.str "*") with
  | error e => rfl
  | ok b => cases b <;> simp only [ok_bind, h, if_true, Bool.false_eq_true, if_false]

/-- On such a resource, every action passes. -/
theorem simulateAction_pass_of_wildcard (h : hasProblematicWildcard resourceArn = true)
    {sim : Simulator} {act : PyVal} {r : Bool × String}
    (hr : simulateAction sim role accountId resourceArn act = .ok r) : r.1 = true := by
  unfold simulateAction at hr
  cases hc : act.contains (.str "*") with
  | error e => rw [hc] at hr; cases hr
  | ok b =>
    rw [hc, ok_bind] at hr
    cases b <;> simp only [h, if_true, Bool.false_eq_true, if_false, pure_eq_ok, Except.ok.injEq] at hr <;>
      rw [← hr]

/-- **A wildcard resource skips the simulator.** Whatever it would say, every action gets the
same results, and each result is a pass. -/
theorem simulateActions_of_wildcard (h : hasProblematicWildcard resourceArn = true)
    (sim₁ sim₂ : Simulator) (actions : List PyVal) :
    simulateActions sim₁ role actions accountId resourceArn =
        simulateActions sim₂ role actions accountId resourceArn ∧
      ∀ results, simulateActions sim₁ role actions accountId resourceArn = .ok results →
        ∀ r ∈ results, r.1 = true := by
  refine ⟨mapM_congr_of_mem fun act _ => simulateAction_of_wildcard h sim₁ sim₂ act, ?_⟩
  intro results hres r hr
  obtain ⟨act, -, hact⟩ := mapM_ok_mem hres r hr
  exact simulateAction_pass_of_wildcard h hact

end Wildcard

/-! ## §4 — `validate_roles` never runs the simulation

`validate_roles` calls `simulate_actions` without a resource, so with `*`: whatever the role may
or may not do, the simulation is skipped and the role passes as soon as `get_role` finds it. -/

theorem hasProblematicWildcard_star : hasProblematicWildcard "*" = true := rfl

/-- `combine_results` of passes only is the healthy item. -/
theorem combineResults_of_pass {name : PyVal} {results : List (Bool × String)}
    (h : ∀ r ∈ results, r.1 = true) :
    combineResults name results =
      .dict [("ResourceName", name), ("status", .int 200), ("message", .str "healthy")] := by
  have hnone : results.filterMap (fun r => if r.1 then none else some r.2) = [] :=
    List.filterMap_eq_nil_iff.mpr fun r hr => by simp [h r hr]
  simp only [combineResults, hnone]

theorem roleItem_simulator_irrelevant (getRole : PyVal → Except String Bool)
    (sim₁ sim₂ : Simulator) (accountId : String) :
    roleItem getRole sim₁ accountId = roleItem getRole sim₂ accountId := by
  have hsim : ∀ name actions, simulateActions sim₁ name actions accountId "*" =
      simulateActions sim₂ name actions accountId "*" :=
    fun _ actions => (simulateActions_of_wildcard hasProblematicWildcard_star sim₁ sim₂ actions).1
  funext roleConfig
  simp only [roleItem, hsim]

/-- **The simulator is never consulted.** For every configuration, every account STS gives or
fails to give, and every answer of `get_role`, two simulators give the same report: the
permission simulation `validate_roles` asks for does not run. -/
theorem validateRoles_simulator_irrelevant (account : Except String String)
    (getRole : PyVal → Except String Bool) (sim₁ sim₂ : Simulator) (cfg : PyVal) :
    validateRoles account getRole sim₁ cfg = validateRoles account getRole sim₂ cfg := by
  simp only [validateRoles, roleItem_simulator_irrelevant getRole sim₁ sim₂]

/-- One role's item: healthy when `get_role` found it, missing when it did not. -/
theorem roleItem_eq_ok {getRole : PyVal → Except String Bool} {sim : Simulator}
    {accountId : String} {roleConfig item : PyVal}
    (h : roleItem getRole sim accountId roleConfig = .ok item) :
    ∃ name, (getRole name = .ok true ∧
        item = .dict [("ResourceName", name), ("status", .int 200), ("message", .str "healthy")]) ∨
      (getRole name = .ok false ∧ item = .dict [("ResourceName", name), ("status", .int 500),
        ("message", .str ("IAM role missing: " ++ name.toStr))]) := by
  unfold roleItem at h
  obtain ⟨name, -, h⟩ := bind_eq_ok.mp h
  obtain ⟨⟨found, msg⟩, hexists, h⟩ := bind_eq_ok.mp h
  obtain ⟨b, hb, hfm⟩ := map_eq_ok.mp hexists
  refine ⟨name, ?_⟩
  cases b with
  | false =>
    simp only [Bool.false_eq_true, if_false, Prod.mk.injEq] at hfm
    obtain ⟨rfl, rfl⟩ := hfm
    exact .inr ⟨hb, (Except.ok.inj h).symm⟩
  | true =>
    simp only [if_true, Prod.mk.injEq] at hfm
    obtain ⟨rfl, rfl⟩ := hfm
    simp only [Bool.not_true, Bool.false_eq_true, if_false] at h
    obtain ⟨actions, -, h⟩ := bind_eq_ok.mp h
    refine .inl ⟨hb, ?_⟩
    split at h
    · obtain ⟨_, -, h⟩ := bind_eq_ok.mp h
      obtain ⟨acts, -, h⟩ := bind_eq_ok.mp h
      obtain ⟨results, hres, h⟩ := bind_eq_ok.mp h
      rw [← Except.ok.inj h, combineResults_of_pass
        ((simulateActions_of_wildcard hasProblematicWildcard_star sim sim acts).2 results hres)]
    · rw [← Except.ok.inj h, combineResults_of_pass (by simp)]

/-- **A role is reported failing only when `get_role` does not find it.** Every item of a report
`validate_roles` returns is a role `get_role` found, reported healthy with status 200, or a role it
did not find, reported missing with status 500 — whatever actions the configuration asks to
simulate, and whatever the role is allowed to do. -/
theorem validateRoles_items {account : Except String String}
    {getRole : PyVal → Except String Bool} {sim : Simulator} {cfg report : PyVal}
    (h : validateRoles account getRole sim cfg = .ok report) :
    ∃ items, report = .dict [("ResourceType", .str "IAM Role"), ("DetailedHealthCheck", .list items)] ∧
      ∀ item ∈ items, ∃ name,
        (getRole name = .ok true ∧
          item = .dict [("ResourceName", name), ("status", .int 200), ("message", .str "healthy")]) ∨
        (getRole name = .ok false ∧ item = .dict [("ResourceName", name), ("status", .int 500),
          ("message", .str ("IAM role missing: " ++ name.toStr))]) := by
  unfold validateRoles at h
  obtain ⟨roles, -, h⟩ := bind_eq_ok.mp h
  obtain ⟨items, hitems, h⟩ := bind_eq_ok.mp h
  refine ⟨items, (Except.ok.inj h).symm, fun item hitem => ?_⟩
  obtain ⟨rc, -, hrc⟩ := mapM_ok_mem hitems item hitem
  exact roleItem_eq_ok hrc

theorem validateRoles_items_example :
    let getRole : PyVal → Except String Bool := fun n => .ok (decide (n.toStr = "AgentRole"))
    let cfg : PyVal := .dict [("IAMRoles", .list [
      .dict [("name", .str "AgentRole"), ("simulate_actions", .list [.str "s3:PutObject"])],
      .dict [("name", .str "GoneRole")]])]
    ∃ report, validateRoles (.ok "123456789012") getRole (fun _ _ _ => .ok (.ok "implicitDeny")) cfg =
        .ok report ∧
      ∃ items, report = .dict [("ResourceType", .str "IAM Role"), ("DetailedHealthCheck", .list items)] ∧
        ∀ item ∈ items, ∃ name,
          (getRole name = .ok true ∧
            item = .dict [("ResourceName", name), ("status", .int 200), ("message", .str "healthy")]) ∨
          (getRole name = .ok false ∧ item = .dict [("ResourceName", name), ("status", .int 500),
            ("message", .str ("IAM role missing: " ++ name.toStr))]) := by
  intro getRole cfg
  have h : validateRoles (.ok "123456789012") getRole (fun _ _ _ => .ok (.ok "implicitDeny")) cfg =
      .ok (.dict [("ResourceType", .str "IAM Role"), ("DetailedHealthCheck", .list [
        .dict [("ResourceName", .str "AgentRole"), ("status", .int 200), ("message", .str "healthy")],
        .dict [("ResourceName", .str "GoneRole"), ("status", .int 500),
          ("message", .str "IAM role missing: GoneRole")]])]) := rfl
  exact ⟨_, h, validateRoles_items h⟩

end HealthCheck
