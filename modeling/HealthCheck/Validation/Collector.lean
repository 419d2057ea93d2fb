import HealthCheck.Python.Value

/-!
# HealthCheck — the collector of `validate_all_resources_parallel`

`MultiThreadedValidator.validate_all_resources_parallel` (`core/multithreading.py`) submits the
eleven validation tasks to a thread pool and collects their futures in the order `as_completed`
yields them. The tasks share nothing with the collector, so what the collector sees of the
concurrency is that order alone, and the outcome of each future: the report the task returned, or
the exception it raised.

The loop body is Python with two mutable lists and exceptions, so it is modelled in
`EStateM String Collector`: a statement may change `full_report` and `self.errors`, and may raise,
and what it changed before raising stays changed. That is the behaviour that matters here:
`full_report.append(result)` runs before the post-processing of `result`, so a returned value the
post-processing cannot read is reported twice — as itself, and as the synthesized failed report.

* `collect_run` — one pass of the loop adds exactly `collected t o`;
* `validateAllResourcesParallel_run` — a whole run is the concatenation over the completion order;
* `validateAllResourcesParallel_none_result` — a task returning `None` gives twelve entries;
* `validateAllResourcesParallel_perm` — every completion order gives the same reports and errors up
  to permutation, for every outcome of every task;
* `validateAllResourcesParallel_wellFormed` — when every returned report is well formed, one entry
  per task, the report itself or the synthesized failure.
-/

namespace HealthCheck

/-! ## §1 — the collector's statements -/

/-- The state the collection loop mutates: the local `full_report` and `self.errors`. -/
structure Collector where
  fullReport : List PyVal
  errors : List String

/-- Python statements over the collector. -/
abbrev Py := EStateM String Collector

/-- Evaluating an expression that may raise. -/
def raiseOf {α : Type} : Except String α → Py α
  | .ok a => pure a
  | .error e => throw e

/-- `full_report.append(v)`. -/
def appendReport (v : PyVal) : Py Unit :=
  modify fun c => { c with fullReport := c.fullReport ++ [v] }

/-- `self.errors.append(msg)`. -/
def appendError (msg : String) : Py Unit :=
  modify fun c => { c with errors := c.errors ++ [msg] }

/-- `hc.get("status") == 200`. -/
def statusIs200 (hc : PyVal) : Except String Bool :=
  (fun status => (status.getD .none).eqInt 200) <$> hc.get "status"

/-- `f"{hc.get('ResourceName', 'Unknown')}: {hc.get('message', 'Unknown error')}"`. -/
def itemError (hc : PyVal) : Except String String := do
  let name ← hc.getD "ResourceName" (.str "Unknown")
  let message ← hc.getD "message" (.str "Unknown error")
  pure (name.toStr ++ ": " ++ message.toStr)

/-- One pass of `for health_check in health_checks`: a non-200 item appends its error line. -/
def trackItem (hc : PyVal) : Py Unit := do
  if !(← raiseOf (statusIs200 hc)) then
    appendError (← raiseOf (itemError hc))

/-- `f"Failed to validate {task_name}: {str(e)}"`. -/
def failureMessage (taskName e : String) : String :=
  "Failed to validate " ++ taskName ++ ": " ++ e

/-- The report the `except` branch synthesizes for a task that failed. -/
def failedReport (taskName errorMsg : String) : PyVal :=
  .dict [("ResourceType", .str ("Failed " ++ taskName)),
    ("DetailedHealthCheck", .list [.dict [("ResourceName", .str taskName), ("status", .int 500),
      ("message", .str errorMsg)]])]

/-- The statements of the `try` after `full_report.append(result)`. The resource type and the
healthy count only feed a log line, but evaluating them may raise. -/
def trackResult (result : PyVal) : Py Unit := do
  let _resourceType ← raiseOf (result.getD "ResourceType" (.str "Unknown"))
  let healthChecks ← raiseOf (result.getD "DetailedHealthCheck" (.list []) >>= PyVal.iter)
  let _healthy ← raiseOf (healthChecks.filterM statusIs200)
  healthChecks.forM trackItem

/-- The `try` of the collection loop, for a future holding `outcome`. -/
def collectTry (outcome : Except String PyVal) : Py Unit := do
  let result ← raiseOf outcome
  appendReport result
  trackResult result

/-- The `except` of the collection loop. -/
def collectExcept (taskName e : String) : Py Unit := do
  let errorMsg := failureMessage taskName e
  appendError errorMsg
  appendReport (failedReport taskName errorMsg)

/-- One pass of the collection loop, for the future of `taskName`. -/
def collect (taskName : String) (outcome : Except String PyVal) : Py Unit :=
  tryCatch (collectTry outcome) (collectExcept taskName)

/-- `ThreadPoolExecutor(max_workers=...)`: `None` takes the default, and a count below 1 is
refused. -/
def threadPool (maxWorkers : PyVal) : Except String Unit :=
  match maxWorkers with
  | .none => .ok ()
  | v =>
    match v.num? with
    | some n => if n ≤ 0 then .error "max_workers must be greater than 0" else .ok ()
    | none => .error ("'<=' not supported between instances of '" ++ v.typeName ++ "' and 'int'")

/-- The tasks of `validation_tasks`, in the order they are registered. -/
def validationTasks : List String :=
  ["roles", "lambdas", "layers", "policies", "alarms", "s3", "kinesis", "kms_aliases", "triggers",
    "event_mappings", "lambda_permissions"]

/-- `validate_all_resources_parallel` once the tasks have run: `outcome t` is what the future of
task `t` holds, and `order` is the order in which `as_completed` yields the futures. -/
def validateAllResourcesParallel (maxThreads : PyVal) (outcome : String → Except String PyVal)
    (order : List String) : Py (List PyVal) := do
  modify fun c => { c with fullReport := [] }
  raiseOf (threadPool maxThreads)
  order.forM fun t => collect t (outcome t)
  return (← get).fullReport

/-! ## §2 — what one pass adds -/

/-- The loop over the items, run: the error lines it appends, and the exception that stops it,
if one does. -/
def trackItems : List PyVal → List String × Option String
  | [] => ([], none)
  | hc :: hcs =>
    match statusIs200 hc with
    | .error e => ([], some e)
    | .ok true => trackItems hcs
    | .ok false =>
      match itemError hc with
      | .error e => ([], some e)
      | .ok line => (line :: (trackItems hcs).1, (trackItems hcs).2)

/-- The statements after `full_report.append(result)`, run. -/
def postProcess (result : PyVal) : List String × Option String :=
  match result.getD "ResourceType" (.str "Unknown") with
  | .error e => ([], some e)
  | .ok _ =>
    match result.getD "DetailedHealthCheck" (.list []) >>= PyVal.iter with
    | .error e => ([], some e)
    | .ok healthChecks =>
      match healthChecks.filterM statusIs200 with
      | .error e => ([], some e)
      | .ok _ => trackItems healthChecks

/-- What the future of `taskName` adds to `full_report` and to the errors. -/
def collected (taskName : String) : Except String PyVal → List PyVal × List String
  | .error e => ([failedReport taskName (failureMessage taskName e)], [failureMessage taskName e])
  | .ok result =>
    match postProcess result with
    | (lines, none) => ([result], lines)
    | (lines, some e) =>
      ([result, failedReport taskName (failureMessage taskName e)],
        lines ++ [failureMessage taskName e])

section Run

variable {α β : Type} {x : Py α} {f : α → Py β} {c c' : Collector}

theorem bind_run_ok {a : α} (h : x c = .ok a c') : (x >>= f) c = f a c' := by
  show EStateM.bind x f c = _
  simp only [EStateM.bind, h]

theorem bind_run_error {e : String} (h : x c = .error e c') : (x >>= f) c = .error e c' := by
  show EStateM.bind x f c = _
  simp only [EStateM.bind, h]

@[simp] theorem raiseOf_ok_run (a : α) (c : Collector) : raiseOf (.ok a) c = .ok a c := rfl

@[simp] theorem raiseOf_error_run (e : String) (c : Collector) :
    (raiseOf (.error e) : Py α) c = .error e c := rfl

theorem raiseOf_bind_ok {a : α} {e : Except String α} (h : e = .ok a) :
    (raiseOf e >>= f) c = f a c := by
  subst h; rfl

theorem raiseOf_bind_error {e : Except String α} {msg : String} (h : e = .error msg) :
    (raiseOf e >>= f) c = .error msg c := by
  subst h; rfl

end Run

/-- One item: a `200` appends nothing, any other status appends the item's error line. -/
theorem trackItem_run (hc : PyVal) (c : Collector) :
    trackItem hc c =
      match statusIs200 hc with
      | .error e => .error e c
      | .ok true => .ok () c
      | .ok false =>
        match itemError hc with
        | .error e => .error e c
        | .ok line => .ok () { c with errors := c.errors ++ [line] } := by
  unfold trackItem
  cases statusIs200 hc with
  | error e => rfl
  | ok b => cases b <;> [cases itemError hc <;> rfl; rfl]

/-- The item loop appends what `trackItems` says, and raises where it says. -/
theorem forM_trackItem_run (hcs : List PyVal) (c : Collector) :
    (hcs.forM trackItem) c =
      match (trackItems hcs).2 with
      | none => .ok () { c with errors := c.errors ++ (trackItems hcs).1 }
      | some e => .error e { c with errors := c.errors ++ (trackItems hcs).1 } := by
  induction hcs generalizing c with
  | nil => simp [trackItems]; rfl
  | cons hc hcs ih =>
    show (trackItem hc >>= fun _ => hcs.forM trackItem) c = _
    have hrun := trackItem_run hc c
    cases hs : statusIs200 hc with
    | error e =>
      rw [hs] at hrun
      rw [bind_run_error hrun]
      simp [trackItems, hs]
    | ok b =>
      cases b with
      | true =>
        rw [hs] at hrun
        rw [bind_run_ok hrun, ih]
        simp only [trackItems, hs]
      | false =>
        cases hl : itemError hc with
        | error e =>
          rw [hs, hl] at hrun
          rw [bind_run_error hrun]
          simp [trackItems, hs, hl]
        | ok line =>
          rw [hs, hl] at hrun
          rw [bind_run_ok hrun, ih]
          simp [trackItems, hs, hl]

theorem appendReport_run (v : PyVal) (c : Collector) :
    appendReport v c = .ok () { c with fullReport := c.fullReport ++ [v] } := rfl

/-- The post-processing appends what `postProcess` says, and raises where it says. -/
theorem trackResult_run (result : PyVal) (c : Collector) :
    trackResult result c =
      match (postProcess result).2 with
      | none => .ok () { c with errors := c.errors ++ (postProcess result).1 }
      | some e => .error e { c with errors := c.errors ++ (postProcess result).1 } := by
  unfold trackResult postProcess
  cases h₁ : result.getD "ResourceType" (.str "Unknown") with
  | error e => rw [bind_run_error (raiseOf_error_run e c)]; simp
  | ok _ =>
    rw [bind_run_ok (raiseOf_ok_run _ c)]
    cases h₂ : result.getD "DetailedHealthCheck" (.list []) >>= PyVal.iter with
    | error e => rw [bind_run_error (raiseOf_error_run e c)]; simp
    | ok healthChecks =>
      rw [bind_run_ok (raiseOf_ok_run _ c)]
      cases h₃ : healthChecks.filterM statusIs200 with
      | error e => rw [bind_run_error (raiseOf_error_run e c)]; simp [h₃]
      | ok _ => rw [bind_run_ok (raiseOf_ok_run _ c), forM_trackItem_run]; simp [h₃]

/-- **One pass of the collection loop adds exactly `collected`**, whatever the future holds: it
never raises, a failed task adds its synthesized report and error line, and a returned value is
appended before it is read, so a value the post-processing cannot read adds itself and the
synthesized report. -/
theorem collect_run (taskName : String) (outcome : Except String PyVal) (c : Collector) :
    collect taskName outcome c =
      .ok () { fullReport := c.fullReport ++ (collected taskName outcome).1,
               errors := c.errors ++ (collected taskName outcome).2 } := by
  show EStateM.tryCatch (collectTry outcome) (collectExcept taskName) c = _
  unfold EStateM.tryCatch collectTry
  cases outcome with
  | error e =>
    rw [bind_run_error (raiseOf_error_run e c)]
    rfl
  | ok result =>
    rw [bind_run_ok (raiseOf_ok_run _ c), bind_run_ok (appendReport_run result c), trackResult_run]
    simp only [collected]
    rcases postProcess result with ⟨lines, _ | e⟩
    · rfl
    · show EStateM.Result.ok ()
          ({ fullReport := c.fullReport ++ [result] ++ [failedReport taskName (failureMessage taskName e)],
             errors := c.errors ++ lines ++ [failureMessage taskName e] } : Collector) = _
      simp only [List.append_assoc, List.singleton_append]

/-! ## §3 — a run -/

/-- The reports a run collects: what each future adds, in completion order. -/
def collectedReports (outcome : String → Except String PyVal) (order : List String) : List PyVal :=
  order.flatMap fun t => (collected t (outcome t)).1

/-- The error lines a run adds, in completion order. -/
def collectedErrors (outcome : String → Except String PyVal) (order : List String) : List String :=
  order.flatMap fun t => (collected t (outcome t)).2

/-- The loop over the futures adds, in completion order, what each one adds. -/
theorem forM_collect_run (outcome : String → Except String PyVal) (order : List String)
    (c : Collector) :
    (order.forM fun t => collect t (outcome t)) c =
      .ok () { fullReport := c.fullReport ++ collectedReports outcome order,
               errors := c.errors ++ collectedErrors outcome order } := by
  induction order generalizing c with
  | nil => simp [collectedReports, collectedErrors]; rfl
  | cons t order ih =>
    show (collect t (outcome t) >>= fun _ => order.forM _) c = _
    rw [bind_run_ok (collect_run t (outcome t) c), ih]
    simp [collectedReports, collectedErrors, List.append_assoc]

/-- **A run of `validate_all_resources_parallel`**: when the pool accepts the thread count, it
returns what the futures add, in completion order, and appends their error lines to
`self.errors`; otherwise the pool raises before any future is read. -/
theorem validateAllResourcesParallel_run (maxThreads : PyVal)
    (outcome : String → Except String PyVal) (order : List String) (c : Collector) :
    validateAllResourcesParallel maxThreads outcome order c =
      match threadPool maxThreads with
      | .ok () =>
        .ok (collectedReports outcome order)
          { fullReport := collectedReports outcome order,
            errors := c.errors ++ collectedErrors outcome order }
      | .error e => .error e { c with fullReport := [] } := by
  unfold validateAllResourcesParallel
  rw [bind_run_ok (show (modify fun c : Collector => { c with fullReport := [] } : Py Unit) c =
    .ok () { c with fullReport := [] } from rfl)]
  cases threadPool maxThreads with
  | error e => exact bind_run_error (raiseOf_error_run e _)
  | ok u =>
    rw [bind_run_ok (raiseOf_ok_run u _), bind_run_ok (forM_collect_run outcome order _)]
    simp only [List.nil_append]
    rfl

/-- The `roles` task returns `None` and every other task an empty report: the run returns twelve
entries — `None` itself, then the synthesized `Failed roles` — and an error line for a task that
raised nothing. -/
theorem validateAllResourcesParallel_none_result :
    let outcome : String → Except String PyVal := fun t =>
      if t = "roles" then .ok .none
      else .ok (.dict [("ResourceType", .str t), ("DetailedHealthCheck", .list [])])
    ∃ report c, validateAllResourcesParallel (.int 10) outcome validationTasks ⟨[], []⟩ = .ok report c ∧
      report.length = 12 ∧
      report.take 2 = [.none, failedReport "roles"
        "Failed to validate roles: 'NoneType' object has no attribute 'get'"] ∧
      c.errors = ["Failed to validate roles: 'NoneType' object has no attribute 'get'"] :=
  ⟨_, _, rfl, rfl, rfl, rfl⟩

/-- **Completion order only permutes the result.** For every outcome of every task — a report, a
value the post-processing cannot read, or an exception — two completion orders of the same
futures return reports that are permutations of each other and add error lines that are
permutations of each other. -/
theorem validateAllResourcesParallel_perm {maxThreads : PyVal}
    {outcome : String → Except String PyVal} {order₁ order₂ : List String}
    (hp : order₁.Perm order₂) (hpool : threadPool maxThreads = .ok ()) (c : Collector) :
    ∃ report₁ report₂ errs₁ errs₂,
      validateAllResourcesParallel maxThreads outcome order₁ c =
        .ok report₁ ⟨report₁, c.errors ++ errs₁⟩ ∧
      validateAllResourcesParallel maxThreads outcome order₂ c =
        .ok report₂ ⟨report₂, c.errors ++ errs₂⟩ ∧
      report₁.Perm report₂ ∧ errs₁.Perm errs₂ :=
  ⟨collectedReports outcome order₁, collectedReports outcome order₂, collectedErrors outcome order₁,
    collectedErrors outcome order₂, by rw [validateAllResourcesParallel_run, hpool],
    by rw [validateAllResourcesParallel_run, hpool], hp.flatMap_right _, hp.flatMap_right _⟩

theorem validateAllResourcesParallel_perm_example :
    let outcome : String → Except String PyVal := fun t =>
      if t = "roles" then .ok .none
      else if t = "s3" then .error "AccessDenied"
      else .ok (.dict [("ResourceType", .str t), ("DetailedHealthCheck", .list [])])
    (validationTasks.Perm validationTasks.reverse ∧ threadPool (.int 10) = .ok ()) ∧
    ∃ report₁ report₂ errs₁ errs₂,
      validateAllResourcesParallel (.int 10) outcome validationTasks ⟨[], []⟩ =
        .ok report₁ ⟨report₁, [] ++ errs₁⟩ ∧
      validateAllResourcesParallel (.int 10) outcome validationTasks.reverse ⟨[], []⟩ =
        .ok report₂ ⟨report₂, [] ++ errs₂⟩ ∧
      report₁.Perm report₂ ∧ errs₁.Perm errs₂ :=
  have hpool : threadPool (.int 10) = .ok () := rfl
  ⟨⟨(List.reverse_perm _).symm, hpool⟩,
    validateAllResourcesParallel_perm (List.reverse_perm _).symm hpool ⟨[], []⟩⟩

/-! ## §4 — well-formed reports -/

/-- A report the collector reads without raising: a dict whose `DetailedHealthCheck`, if present,
is a list of dicts. -/
def WellFormedReport (v : PyVal) : Prop :=
  ∃ kvs, v = .dict kvs ∧ ∀ dhc, kvs.lookup "DetailedHealthCheck" = some dhc →
    ∃ items, dhc = .list items ∧ ∀ item ∈ items, ∃ ikvs, item = .dict ikvs

/-- The entry documented for a task: the report it returned, or the synthesized failure. -/
def documentedEntry (taskName : String) : Except String PyVal → PyVal
  | .ok v => v
  | .error e => failedReport taskName (failureMessage taskName e)

/-- The error line documented for an item whose status is not 200:
`'{ResourceName}: {message}'`, with the defaults `Unknown` and `Unknown error`. -/
def documentedItemError : PyVal → Option String
  | .dict kvs =>
    if ((kvs.lookup "status").getD .none).eqInt 200 then none
    else some (((kvs.lookup "ResourceName").getD (.str "Unknown")).toStr ++ ": " ++
      ((kvs.lookup "message").getD (.str "Unknown error")).toStr)
  | _ => none

/-- The error lines documented for a task: one per non-200 item of the report it returned, in
item order, or the failure line of a task that raised. -/
def documentedErrors (taskName : String) : Except String PyVal → List String
  | .ok (.dict kvs) =>
    match kvs.lookup "DetailedHealthCheck" with
    | some (.list items) => items.filterMap documentedItemError
    | _ => []
  | .ok _ => []
  | .error e => [failureMessage taskName e]

section Dicts

variable {items : List PyVal}

theorem trackItems_of_dicts (h : ∀ item ∈ items, ∃ ikvs, item = .dict ikvs) :
    trackItems items = (items.filterMap documentedItemError, none) := by
  induction items with
  | nil => rfl
  | cons item items ih =>
    obtain ⟨ikvs, rfl⟩ := h item (List.mem_cons_self _ _)
    have ih := ih fun i hi => h i (List.mem_cons_of_mem _ hi)
    by_cases h200 : ((ikvs.lookup "status").getD .none).eqInt 200 = true <;>
      simp [trackItems, statusIs200, itemError, documentedItemError, h200, ih]

theorem filterAuxM_statusIs200_ok (h : ∀ item ∈ items, ∃ ikvs, item = .dict ikvs)
    (acc : List PyVal) : ∃ r, List.filterAuxM statusIs200 items acc = .ok r := by
  induction items generalizing acc with
  | nil => exact ⟨acc, rfl⟩
  | cons item items ih =>
    obtain ⟨ikvs, rfl⟩ := h item (List.mem_cons_self _ _)
    exact ih (fun i hi => h i (List.mem_cons_of_mem _ hi)) _

end Dicts

/-- A well-formed report adds itself and its items' error lines. -/
theorem collected_of_wellFormed {taskName : String} {outcome : Except String PyVal}
    (h : ∀ v, outcome = .ok v → WellFormedReport v) :
    collected taskName outcome = ([documentedEntry taskName outcome], documentedErrors taskName outcome) := by
  cases outcome with
  | error e => rfl
  | ok v =>
    obtain ⟨kvs, rfl, hdhc⟩ := h v rfl
    have hitems : ∃ items, (PyVal.dict kvs).getD "DetailedHealthCheck" (.list []) >>= PyVal.iter =
        .ok items ∧ (∀ item ∈ items, ∃ ikvs, item = .dict ikvs) ∧
        documentedErrors taskName (.ok (.dict kvs)) = items.filterMap documentedItemError := by
      cases hl : kvs.lookup "DetailedHealthCheck" with
      | none => exact ⟨[], by simp [hl], by simp, by simp [documentedErrors, hl]⟩
      | some dhc =>
        obtain ⟨items, rfl, hd⟩ := hdhc dhc hl
        exact ⟨items, by simp [hl], hd, by simp [documentedErrors, hl]⟩
    obtain ⟨items, hiter, hd, hclaim⟩ := hitems
    obtain ⟨r, hr⟩ := filterAuxM_statusIs200_ok hd []
    have hfilter : items.filterM statusIs200 = .ok r.reverse := by
      simp only [List.filterM, hr]; rfl
    have hpost : postProcess (.dict kvs) = (items.filterMap documentedItemError, none) := by
      unfold postProcess
      rw [hiter]
      simp only [PyVal.getD_dict, hfilter]
      exact trackItems_of_dicts hd
    simp only [collected, hpost, documentedEntry, hclaim]

/-- On well-formed outcomes each completed future adds its own entry, in completion order. -/
theorem collectedReports_of_wellFormed {outcome : String → Except String PyVal}
    (hwf : ∀ t v, outcome t = .ok v → WellFormedReport v) (order : List String) :
    collectedReports outcome order = order.map fun t => documentedEntry t (outcome t) := by
  have h : ∀ t, collected t (outcome t) = _ := fun t => collected_of_wellFormed (hwf t)
  simp [collectedReports, h, List.map_eq_flatMap]

/-- On well-formed outcomes each completed future adds its documented error lines. -/
theorem collectedErrors_of_wellFormed {outcome : String → Except String PyVal}
    (hwf : ∀ t v, outcome t = .ok v → WellFormedReport v) (order : List String) :
    collectedErrors outcome order = order.flatMap fun t => documentedErrors t (outcome t) := by
  have h : ∀ t, collected t (outcome t) = _ := fun t => collected_of_wellFormed (hwf t)
  simp [collectedErrors, h]

/-- **Well-formed reports are collected once each.** When the pool accepts the thread count and
every task raises or returns a well-formed report, every completion order returns one entry per
task — the report or the synthesized failure — and adds the documented error lines, both up to
permutation; in particular the report has eleven entries. -/
theorem validateAllResourcesParallel_wellFormed {maxThreads : PyVal}
    {outcome : String → Except String PyVal} {order : List String}
    (hpool : threadPool maxThreads = .ok ())
    (hwf : ∀ t v, outcome t = .ok v → WellFormedReport v) (hp : order.Perm validationTasks)
    (c : Collector) :
    ∃ report errs,
      validateAllResourcesParallel maxThreads outcome order c = .ok report ⟨report, c.errors ++ errs⟩ ∧
      report.Perm (validationTasks.map fun t => documentedEntry t (outcome t)) ∧
      errs.Perm (validationTasks.flatMap fun t => documentedErrors t (outcome t)) ∧
      report.length = 11 := by
  refine ⟨_, _, by rw [validateAllResourcesParallel_run, hpool], ?_, ?_, ?_⟩
  · rw [collectedReports_of_wellFormed hwf]; exact hp.map _
  · rw [collectedErrors_of_wellFormed hwf]; exact hp.flatMap_right _
  · rw [collectedReports_of_wellFormed hwf, List.length_map, hp.length_eq]; rfl

theorem validateAllResourcesParallel_wellFormed_example :
    let report : String → PyVal := fun t =>
      .dict [("ResourceType", .str t),
        ("DetailedHealthCheck", .list [.dict [("ResourceName", .str t), ("status", .int 404)]])]
    let outcome : String → Except String PyVal := fun t =>
      if t = "s3" then .error "AccessDenied" else .ok (report t)
    (threadPool (.int 4) = .ok () ∧ (∀ t v, outcome t = .ok v → WellFormedReport v) ∧
      validationTasks.reverse.Perm validationTasks) ∧
    ∃ report errs,
      validateAllResourcesParallel (.int 4) outcome validationTasks.reverse ⟨[], []⟩ =
        .ok report ⟨report, [] ++ errs⟩ ∧
      report.Perm (validationTasks.map fun t => documentedEntry t (outcome t)) ∧
      errs.Perm (validationTasks.flatMap fun t => documentedErrors t (outcome t)) ∧
      report.length = 11 := by
  intro report outcome
  have hpool : threadPool (.int 4) = .ok () := rfl
  have hwf : ∀ t v, outcome t = .ok v → WellFormedReport v := by
    intro t v h
    by_cases ht : t = "s3"
    · simp [outcome, ht] at h
    · simp only [outcome, ht, if_false, Except.ok.injEq] at h
      subst h
      refine ⟨_, rfl, fun dhc hl => ?_⟩
      simp only [List.lookup, report] at hl
      cases hl
      exact ⟨_, rfl, by simp⟩
  exact ⟨⟨hpool, hwf, List.reverse_perm _⟩,
    validateAllResourcesParallel_wellFormed hpool hwf (List.reverse_perm _) ⟨[], []⟩⟩

end HealthCheck
