import HealthCheck.Python.Text

/-!
# HealthCheck — the cross-reference validators

`validate_event_source_mappings` and `validate_lambda_permissions` (`validators/all_validators.py`)
check each entry of their config section against the function it names. The entry names the
function by a reference, and the validator resolves it against `all_lambda_names`, the set of
declared function names, with `next(n for n in all_lambda_names if ref in n)`: the first name, in
the set's iteration order, that contains the reference.

The AWS calls are collaborators: `list_event_source_mappings` returns the response dict or the text
of a `ClientError`, and `get_lambda_policy` returns the parsed policy (`None` when there is none).
The set is a list of its members, in its iteration order (`SetOrder`); Python draws that order per
process, from the strings' randomised hashes. A member that is not a string raises `TypeError`
when the search reaches it (`pickFunction_of_not_iterable`).

* `pickFunction_str` — on a string reference and string names, the pick is `List.find?`.
* `pickFunction_perm` — when at most one name contains the reference, every iteration order picks
  the same name; `validateEventSourceMappings_perm` and `validateLambdaPermissions_perm` lift that
  to the whole report, over every config and every collaborator.
* `validateLambdaPermissions_enumeration_order` — without that uniqueness the report depends on
  the order: a reference contained in two names is resolved to either, and the item flips.
-/

namespace HealthCheck

/-! ## §1 — report items and config sections -/

/-- `combine_results`: one report item for a resource, `healthy` with status 200 when every check
passed, else status 500 and the failure messages joined by `; `. -/
def combineResults (resourceName : PyVal) (results : List (Bool × String)) : PyVal :=
  match results.filterMap fun r => if r.1 then none else some r.2 with
  | [] => .dict [("ResourceName", resourceName), ("status", .int 200), ("message", .str "healthy")]
  | failures =>
    .dict [("ResourceName", resourceName), ("status", .int 500),
      ("message", .str ("; ".intercalate failures))]

/-- The entries a validator loops over: `for entry in cfg.get(key, [])`. -/
def sectionEntries (cfg : PyVal) (key : String) : Except String (List PyVal) :=
  cfg.getD key (.list []) >>= PyVal.iter

/-- `next((n for n in all_lambda_names if ref in n), None)`, over the names in iteration order. -/
def pickFunction (ref : PyVal) (names : List PyVal) : Except String (Option PyVal) :=
  names.findM? fun n => n.contains ref

/-- `if not actual_fn_name`: nothing was picked, or the name picked is falsy. -/
def foundName : Option PyVal → Option PyVal
  | some fn => if fn.truthy then some fn else none
  | none => none

/-! ## §2 — the two validators -/

/-- The part of `validate_event_source_mappings` inside its `try`, once the reference has resolved
to `fn`: the first mapping of `fn` whose `EventSourceArn` contains the expected source must be
`Enabled`. A `ClientError` of the listing call becomes a failed item; any other exception
propagates. -/
def mappingCheck (listMappings : PyVal → Except String PyVal) (name expectedSource fn : PyVal) :
    Except String PyVal :=
  match listMappings fn with
  | .error e =>
    .ok (combineResults name
      [(false, "API Error validating event source mapping for " ++ fn.toStr ++ ": " ++ e)])
  | .ok response => do
    let mappings ← (← response.getD "EventSourceMappings" (.list [])).iter
    let found := (← mappings.findM? fun m => do
      (← m.getD "EventSourceArn" (.str "")).contains expectedSource).getD .none
    if found.truthy then
      if (← found.getD "State" .none).pyEq (.str "Enabled") then
        pure (combineResults name [(true, "healthy")])
      else
        let state ← found.item "State"
        pure (combineResults name [(false, "Mapping is not Enabled (State: " ++ state.toStr ++ ")")])
    else
      pure (combineResults name [(false, "No mapping found for function '" ++ fn.toStr ++
        "' with source like '" ++ expectedSource.toStr ++ "'")])

/-- One entry of `validate_event_source_mappings`. -/
def eventSourceMappingItem (listMappings : PyVal → Except String PyVal) (names : List PyVal)
    (mappingConfig : PyVal) : Except String PyVal := do
  let name ← mappingConfig.item "name"
  let expectedFnRef ← mappingConfig.item "function"
  let expectedSource ← mappingConfig.getD "event_source" .none
  if !expectedSource.truthy then
    pure (combineResults name [(false, "event_source not defined in config")])
  else
    match foundName (← pickFunction expectedFnRef names) with
    | none =>
      pure (combineResults name
        [(false, "Could not find deployed Lambda for reference '" ++ expectedFnRef.toStr ++ "'")])
    | some fn => mappingCheck listMappings name expectedSource fn

/-- `validate_event_source_mappings`. -/
def validateEventSourceMappings (listMappings : PyVal → Except String PyVal) (cfg : PyVal)
    (names : List PyVal) : Except String PyVal := do
  let entries ← sectionEntries cfg "EventSourceMappings"
  let checks ← entries.mapM (eventSourceMappingItem listMappings names)
  pure (.dict [("ResourceType", .str "Event Source Mapping"), ("DetailedHealthCheck", .list checks)])

/-- Whether one policy statement grants the expected principal for the expected source:
`s.get("Principal", {}).get("Service") == expected_principal and
expected_source in s.get("Condition", {}).get("ArnLike", {}).get("AWS:SourceArn", "")`. -/
def statementGrants (expectedPrincipal expectedSource : PyVal) (s : PyVal) :
    Except String Bool := do
  let service ← (← s.getD "Principal" (.dict [])).getD "Service" .none
  if service.pyEq expectedPrincipal then
    let arnLike ← (← s.getD "Condition" (.dict [])).getD "ArnLike" (.dict [])
    (← arnLike.getD "AWS:SourceArn" (.str "")).contains expectedSource
  else pure false

/-- The part of `validate_lambda_permissions` after the reference has resolved to `fn`: some
statement of `fn`'s resource policy must grant the principal for the source. -/
def permissionCheck (lambdaPolicy : PyVal → Except String PyVal)
    (name expectedPrincipal expectedSource fn : PyVal) : Except String PyVal := do
  let policy ← lambdaPolicy fn
  if !policy.truthy then
    pure (combineResults name [(false, "No resource policy found for Lambda '" ++ fn.toStr ++ "'")])
  else
    let statements ← (← policy.getD "Statement" (.list [])).iter
    if ← statements.anyM (statementGrants expectedPrincipal expectedSource) then
      pure (combineResults name [(true, "healthy")])
    else
      pure (combineResults name [(false, "Permission NOT found for principal '" ++
        expectedPrincipal.toStr ++ "' and source matching '" ++ expectedSource.toStr ++ "'")])

/-- One entry of `validate_lambda_permissions`. -/
def lambdaPermissionItem (lambdaPolicy : PyVal → Except String PyVal) (names : List PyVal)
    (permConfig : PyVal) : Except String PyVal := do
  let name ← permConfig.item "name"
  let expectedFnRef ← permConfig.item "function"
  let expectedPrincipal ← permConfig.item "principal"
  let expectedSource ← permConfig.item "source"
  match foundName (← pickFunction expectedFnRef names) with
  | none =>
    pure (combineResults name [(false, "Could not find a unique deployed Lambda for reference '" ++
      expectedFnRef.toStr ++ "'")])
  | some fn => permissionCheck lambdaPolicy name expectedPrincipal expectedSource fn

/-- `validate_lambda_permissions`. -/
def validateLambdaPermissions (lambdaPolicy : PyVal → Except String PyVal) (cfg : PyVal)
    (names : List PyVal) : Except String PyVal := do
  let entries ← sectionEntries cfg "LambdaPermissions"
  let checks ← entries.mapM (lambdaPermissionItem lambdaPolicy names)
  pure (.dict [("ResourceType", .str "Lambda Permission"), ("DetailedHealthCheck", .list checks)])

/-! ## §3 — the pick and the iteration order -/

/-- On a string reference and string names the pick is `List.find?`: the first name that contains
it. -/
theorem pickFunction_str (r : String) (names : List String) :
    pickFunction (.str r) (names.map .str) =
      .ok ((names.find? fun n => occurs r.toList n.toList).map .str) := by
  induction names with
  | nil => rfl
  | cons n names ih =>
    simp only [pickFunction, List.map_cons, List.findM?, PyVal.contains_str, ok_bind,
      List.find?_cons] at ih ⊢
    cases occurs r.toList n.toList
    · exact ih
    · rfl

/-- Any other reference raises `TypeError` at the first name, and only an empty set lets it
through. -/
theorem pickFunction_of_not_str {ref : PyVal} (h : ∀ r, ref ≠ .str r) (n : String)
    (names : List PyVal) :
    pickFunction ref (.str n :: names) =
      .error ("'in <string>' requires string as left operand, not " ++ ref.typeName) := by
  cases ref <;> first | rfl | exact absurd rfl (h _)

/-- A name that is not a string — `None`, a bool or an int, the other hashable values — raises
`TypeError` when the search reaches it. -/
theorem pickFunction_of_not_iterable {n : PyVal} (hn : n.hashable = .ok n) (hs : ∀ s, n ≠ .str s)
    (r : String) (names : List PyVal) :
    pickFunction (.str r) (n :: names) =
      .error ("argument of type '" ++ n.typeName ++ "' is not iterable") := by
  cases n <;> first | rfl | exact absurd rfl (hs _) | cases hn

/-- At most one of the names contains the reference: the "unique deployed Lambda" the permission
validator's message asks for. -/
def UniqueRef (names : List String) (ref : PyVal) : Prop :=
  ∀ r, ref = .str r → ∀ a ∈ names, ∀ b ∈ names,
    occurs r.toList a.toList = true → occurs r.toList b.toList = true → a = b

/-- `find?` returns the one element that satisfies the test, wherever it stands in the list. -/
theorem find?_perm_of_unique {α : Type} {p : α → Bool} {l₁ l₂ : List α} (hp : l₁.Perm l₂)
    (hu : ∀ a ∈ l₁, ∀ b ∈ l₁, p a = true → p b = true → a = b) : l₁.find? p = l₂.find? p := by
  cases h₁ : l₁.find? p with
  | none =>
    exact (List.find?_eq_none.mpr fun x hx => List.find?_eq_none.mp h₁ x (hp.mem_iff.mpr hx)).symm
  | some a =>
    have ha := List.mem_of_find?_eq_some h₁
    cases h₂ : l₂.find? p with
    | none => exact absurd (List.find?_some h₁) (List.find?_eq_none.mp h₂ a (hp.mem_iff.mp ha))
    | some b =>
      have hb := hp.mem_iff.mpr (List.mem_of_find?_eq_some h₂)
      rw [hu a ha b hb (List.find?_some h₁) (List.find?_some h₂)]

/-- **A unique match is picked whatever the iteration order.** -/
theorem pickFunction_perm {names₁ names₂ : List String} {ref : PyVal} (hp : names₁.Perm names₂)
    (hu : UniqueRef names₁ ref) :
    pickFunction ref (names₁.map .str) = pickFunction ref (names₂.map .str) := by
  by_cases hs : ∃ r, ref = .str r
  · obtain ⟨r, rfl⟩ := hs
    rw [pickFunction_str, pickFunction_str, find?_perm_of_unique hp (hu r rfl)]
  · have h : ∀ r, ref ≠ .str r := fun r hr => hs ⟨r, hr⟩
    rcases names₁ with _ | ⟨a, l₁⟩ <;> rcases names₂ with _ | ⟨b, l₂⟩
    · rfl
    · exact absurd hp.length_eq (by simp)
    · exact absurd hp.length_eq (by simp)
    · rw [List.map_cons, List.map_cons, pickFunction_of_not_str h, pickFunction_of_not_str h]

/-! ## §4 — the reports and the iteration order -/

/-- The `function` references the entries of a config section bind. -/
def sectionRefs (cfg : PyVal) (key : String) : List PyVal :=
  match sectionEntries cfg key with
  | .ok entries => entries.filterMap fun entry =>
    match entry.item "function" with
    | .ok ref => some ref
    | .error _ => none
  | .error _ => []

theorem mem_sectionRefs {cfg : PyVal} {key : String} {entries : List PyVal} {entry ref : PyVal}
    (he : sectionEntries cfg key = .ok entries) (hentry : entry ∈ entries)
    (href : entry.item "function" = .ok ref) : ref ∈ sectionRefs cfg key := by
  simp only [sectionRefs, he, List.mem_filterMap]
  exact ⟨entry, hentry, by rw [href]⟩

section

variable {names₁ names₂ : List PyVal}

/-- An entry's item reads the names only through the pick of its reference. -/
theorem eventSourceMappingItem_congr (listMappings : PyVal → Except String PyVal) {entry : PyVal}
    (h : ∀ ref, entry.item "function" = .ok ref → pickFunction ref names₁ = pickFunction ref names₂) :
    eventSourceMappingItem listMappings names₁ entry =
      eventSourceMappingItem listMappings names₂ entry := by
  unfold eventSourceMappingItem
  cases hf : entry.item "function" with
  | error e => simp only [hf, error_bind]
  | ok ref => simp only [hf, ok_bind, h ref hf]

theorem lambdaPermissionItem_congr (lambdaPolicy : PyVal → Except String PyVal) {entry : PyVal}
    (h : ∀ ref, entry.item "function" = .ok ref → pickFunction ref names₁ = pickFunction ref names₂) :
    lambdaPermissionItem lambdaPolicy names₁ entry = lambdaPermissionItem lambdaPolicy names₂ entry := by
  unfold lambdaPermissionItem
  cases hf : entry.item "function" with
  | error e => simp only [hf, error_bind]
  | ok ref => simp only [hf, ok_bind, h ref hf]

end

section

variable {names₁ names₂ : List String}

/-- **Event source mappings: unique references make the report order-free.** When every
reference of the `EventSourceMappings` section is contained in at most one declared name, the
report is the same for every iteration order of the names, whatever the config and whatever
`list_event_source_mappings` answers. -/
theorem validateEventSourceMappings_perm (listMappings : PyVal → Except String PyVal) (cfg : PyVal)
    (hp : names₁.Perm names₂) (hu : ∀ ref ∈ sectionRefs cfg "EventSourceMappings", UniqueRef names₁ ref) :
    validateEventSourceMappings listMappings cfg (names₁.map .str) =
      validateEventSourceMappings listMappings cfg (names₂.map .str) := by
  unfold validateEventSourceMappings
  cases he : sectionEntries cfg "EventSourceMappings" with
  | error e => rfl
  | ok entries =>
    simp only [ok_bind]
    rw [mapM_congr_of_mem fun entry hentry => eventSourceMappingItem_congr listMappings
      fun ref href => pickFunction_perm hp (hu ref (mem_sectionRefs he hentry href))]

/-- **Lambda permissions: unique references make the report order-free.** -/
theorem validateLambdaPermissions_perm (lambdaPolicy : PyVal → Except String PyVal) (cfg : PyVal)
    (hp : names₁.Perm names₂) (hu : ∀ ref ∈ sectionRefs cfg "LambdaPermissions", UniqueRef names₁ ref) :
    validateLambdaPermissions lambdaPolicy cfg (names₁.map .str) =
      validateLambdaPermissions lambdaPolicy cfg (names₂.map .str) := by
  unfold validateLambdaPermissions
  cases he : sectionEntries cfg "LambdaPermissions" with
  | error e => rfl
  | ok entries =>
    simp only [ok_bind]
    rw [mapM_congr_of_mem fun entry hentry => lambdaPermissionItem_congr lambdaPolicy
      fun ref href => pickFunction_perm hp (hu ref (mem_sectionRefs he hentry href))]

theorem validateLambdaPermissions_perm_example :
    let cfg : PyVal := .dict [("LambdaPermissions", .list [.dict [("name", .str "P"),
      ("function", .str "A-Fn"), ("principal", .str "events.amazonaws.com"),
      ("source", .str "rule/R")]])]
    (["A-Fn", "B-Fn"].Perm ["B-Fn", "A-Fn"] ∧
      ∀ ref ∈ sectionRefs cfg "LambdaPermissions", UniqueRef ["A-Fn", "B-Fn"] ref) ∧
    validateLambdaPermissions (fun _ => .ok .none) cfg (["A-Fn", "B-Fn"].map .str) =
      validateLambdaPermissions (fun _ => .ok .none) cfg (["B-Fn", "A-Fn"].map .str) := by
  intro cfg
  have hu : ∀ ref ∈ sectionRefs cfg "LambdaPermissions", UniqueRef ["A-Fn", "B-Fn"] ref := by
    intro ref href r hr
    obtain rfl : ref = .str "A-Fn" := List.mem_singleton.mp (show ref ∈ [PyVal.str "A-Fn"] from href)
    cases hr
    decide
  exact ⟨⟨.swap _ _ _, hu⟩, validateLambdaPermissions_perm _ cfg (.swap _ _ _) hu⟩

/-- Two declared names contain the reference `Fn`, and only `A-Fn` has a resource policy: one
iteration order of the same set reports the permission healthy, the other reports the policy
missing. -/
theorem validateLambdaPermissions_enumeration_order :
    let cfg : PyVal := .dict [("LambdaPermissions", .list [.dict [("name", .str "P"),
      ("function", .str "Fn"), ("principal", .str "events.amazonaws.com"),
      ("source", .str "rule/R")]])]
    let lambdaPolicy : PyVal → Except String PyVal := fun fn =>
      if fn.pyEq (.str "A-Fn") then
        .ok (.dict [("Statement", .list [.dict [
          ("Principal", .dict [("Service", .str "events.amazonaws.com")]),
          ("Condition", .dict [("ArnLike", .dict [("AWS:SourceArn", .str "arn:aws:events:rule/R")])])]])])
      else .ok .none
    ["A-Fn", "B-Fn"].Perm ["B-Fn", "A-Fn"] ∧
    validateLambdaPermissions lambdaPolicy cfg (["A-Fn", "B-Fn"].map .str) =
      .ok (.dict [("ResourceType", .str "Lambda Permission"), ("DetailedHealthCheck", .list
        [.dict [("ResourceName", .str "P"), ("status", .int 200), ("message", .str "healthy")]])]) ∧
    validateLambdaPermissions lambdaPolicy cfg (["B-Fn", "A-Fn"].map .str) =
      .ok (.dict [("ResourceType", .str "Lambda Permission"), ("DetailedHealthCheck", .list
        [.dict [("ResourceName", .str "P"), ("status", .int 500),
          ("message", .str "No resource policy found for Lambda 'B-Fn'")]])]) :=
  ⟨.swap _ _ _, rfl, rfl⟩

theorem validateEventSourceMappings_perm_example :
    let cfg : PyVal := .dict [("EventSourceMappings", .list [.dict [("name", .str "M"),
      ("function", .str "A-Fn"), ("event_source", .str "stream/ctr")]])]
    (["A-Fn", "B-Fn"].Perm ["B-Fn", "A-Fn"] ∧
      ∀ ref ∈ sectionRefs cfg "EventSourceMappings", UniqueRef ["A-Fn", "B-Fn"] ref) ∧
    validateEventSourceMappings (fun _ => .error "AccessDenied") cfg (["A-Fn", "B-Fn"].map .str) =
      validateEventSourceMappings (fun _ => .error "AccessDenied") cfg (["B-Fn", "A-Fn"].map .str) := by
  intro cfg
  have hu : ∀ ref ∈ sectionRefs cfg "EventSourceMappings", UniqueRef ["A-Fn", "B-Fn"] ref := by
    intro ref href r hr
    obtain rfl : ref = .str "A-Fn" := List.mem_singleton.mp (show ref ∈ [PyVal.str "A-Fn"] from href)
    cases hr
    decide
  exact ⟨⟨.swap _ _ _, hu⟩, validateEventSourceMappings_perm _ cfg (.swap _ _ _) hu⟩

end

end HealthCheck
