import HealthCheck.Validation.Collector
import HealthCheck.Input.Parameters

/-!
# HealthCheck — the summary of the enhanced report

`generate_enhanced_report` (`core/reporting.py`) counts the items of the collected reports into
four counters — every item, the healthy ones (`status == 200`), the unhealthy ones
(`status >= 400`) and the rest — reading a missing `status` as 500, and derives the overall status
from the counters and the error list. `lambda_handler` (`healthcheck.py`) calls it on what
`validate_all_resources_parallel` returned and on `validator.errors`.

* `summarize_eq` — on reports whose statuses are integers, the summary is `documentedSummary` of their
  statuses: the three-bucket count the documentation describes;
* `summarize_counts` — that count, the partition of the total, and its independence of the order
  of the reports, of their items and of the errors;
* `validateAllResourcesParallel_summary` — the collector and the summary agree: the error count is
  the number of unhealthy and warning items, the status is `HEALTHY` exactly when every task
  returned only healthy items, and no completion order changes the summary.
-/

namespace HealthCheck

/-! ## §1 — `generate_enhanced_report` -/

/-- The four counters of `generate_enhanced_report`. -/
structure Counts where
  total : Nat
  healthy : Nat
  unhealthy : Nat
  warnings : Nat

/-- One item: `status = hc.get("status", 500)`, then `status == 200`, `status >= 400`, or
neither. -/
def countItem (acc : Counts) (hc : PyVal) : Except String Counts := do
  let status ← hc.getD "status" (.int 500)
  if status.eqInt 200 then pure { acc with healthy := acc.healthy + 1 }
  else if ← status.geInt 400 then pure { acc with unhealthy := acc.unhealthy + 1 }
  else pure { acc with warnings := acc.warnings + 1 }

/-- One report: the number of its items is added to the total, then each item is counted. -/
def countReport (acc : Counts) (report : PyVal) : Except String Counts := do
  let healthChecks ← report.getD "DetailedHealthCheck" (.list [])
  let total ← healthChecks.len
  let items ← healthChecks.iter
  items.foldlM countItem { acc with total := acc.total + total }

/-- The loop over `full_report`. -/
def countResources (fullReport : List PyVal) : Except String Counts :=
  fullReport.foldlM countReport ⟨0, 0, 0, 0⟩

/-- The overall status: `UNHEALTHY` on an unhealthy item, else `WARNING` on a warning item or an
error, else `HEALTHY`. -/
def overallStatus (unhealthy warnings : Nat) (errors : List String) : String :=
  if unhealthy > 0 then "UNHEALTHY"
  else if warnings > 0 || !errors.isEmpty then "WARNING"
  else "HEALTHY"

/-- The `summary` block of the enhanced report. -/
structure Summary where
  overallStatus : String
  totalResources : Nat
  healthy : Nat
  unhealthy : Nat
  warnings : Nat
  errorCount : Nat
  deriving DecidableEq

/-- The summary `generate_enhanced_report` computes. -/
def summarize (fullReport : List PyVal) (errors : List String) : Except String Summary := do
  let c ← countResources fullReport
  pure ⟨overallStatus c.unhealthy c.warnings errors, c.total, c.healthy, c.unhealthy, c.warnings,
    errors.length⟩

/-- The summary as the report writes it. -/
def Summary.toPyVal (s : Summary) : PyVal :=
  .dict [("overall_status", .str s.overallStatus), ("total_resources", .int s.totalResources),
    ("healthy", .int s.healthy), ("unhealthy", .int s.unhealthy), ("warnings", .int s.warnings),
    ("error_count", .int s.errorCount)]

/-- `generate_enhanced_report`, without `execution_metadata` (a clock reading, and the execution
time when debug logging is on). -/
def generateEnhancedReport (input : HealthCheckInput) (fullReport : List PyVal)
    (errors : List String) : Except String PyVal := do
  let summary ← summarize fullReport errors
  pure (.dict [
    ("input_parameters", .dict [("cc_version", .str input.ccVersion), ("cc_name", .str input.ccName),
      ("sku", .str input.sku), ("execution_id", .str input.executionId),
      ("connect_instance_arn", .str input.connectInstanceArn), ("region", .str input.region),
      ("max_threads", input.maxThreads)]),
    ("summary", summary.toPyVal),
    ("detailed_results", .list fullReport),
    ("errors", .list (errors.map .str))])

/-! ## §2 — the three-bucket count

On reports whose statuses are integers, every step of the loop is a classification of one
integer, so the counters are `List.countP`s over the list of all item statuses. -/

/-- A report whose statuses the summary reads as integers: a dict whose `DetailedHealthCheck`, if
present, is a list of dicts whose `status`, if present, is an int. -/
def IntStatusReport (v : PyVal) : Prop :=
  ∃ kvs, v = .dict kvs ∧ ∀ dhc, kvs.lookup "DetailedHealthCheck" = some dhc →
    ∃ items, dhc = .list items ∧ ∀ item ∈ items, ∃ ikvs, item = .dict ikvs ∧
      ∀ s, ikvs.lookup "status" = some s → ∃ n : Int, s = .int n

/-- The status the summary reads off an item: its `status`, 500 when it has none. -/
def itemStatus : PyVal → Int
  | .dict ikvs =>
    match ikvs.lookup "status" with
    | some (.int n) => n
    | _ => 500
  | _ => 500

/-- The statuses of a report's items, in item order. -/
def reportStatuses : PyVal → List Int
  | .dict kvs =>
    match kvs.lookup "DetailedHealthCheck" with
    | some (.list items) => items.map itemStatus
    | _ => []
  | _ => []

/-- The summary the documentation describes, from the item statuses and the error list. -/
def documentedSummary (statuses : List Int) (errors : List String) : Summary :=
  let healthy := statuses.countP (· = 200)
  let unhealthy := statuses.countP (400 ≤ ·)
  let warnings := statuses.countP fun s => s ≠ 200 ∧ s < 400
  { overallStatus :=
      if 0 < unhealthy then "UNHEALTHY"
      else if 0 < warnings ∨ errors ≠ [] then "WARNING"
      else "HEALTHY",
    totalResources := statuses.length, healthy, unhealthy, warnings, errorCount := errors.length }

/-- Counting one status. -/
def tally (acc : Counts) (s : Int) : Counts :=
  if s = 200 then { acc with healthy := acc.healthy + 1 }
  else if 400 ≤ s then { acc with unhealthy := acc.unhealthy + 1 }
  else { acc with warnings := acc.warnings + 1 }

theorem foldl_tally (statuses : List Int) (acc : Counts) :
    statuses.foldl tally acc =
      ⟨acc.total, acc.healthy + statuses.countP (· = 200),
        acc.unhealthy + statuses.countP (400 ≤ ·),
        acc.warnings + statuses.countP fun s => s ≠ 200 ∧ s < 400⟩ := by
  induction statuses generalizing acc with
  | nil => rfl
  | cons s statuses ih =>
    rw [List.foldl_cons, ih]
    unfold tally
    split_ifs <;> simp (disch := omega) only [List.countP_cons, Counts.mk.injEq, decide_eq_true_eq,
      if_pos, if_neg, true_and] <;> omega

/-- Every status falls in exactly one bucket. -/
theorem countP_buckets (statuses : List Int) :
    statuses.countP (· = 200) + statuses.countP (400 ≤ ·) +
      statuses.countP (fun s => s ≠ 200 ∧ s < 400) = statuses.length := by
  induction statuses with
  | nil => rfl
  | cons s statuses ih =>
    simp only [List.countP_cons, List.length_cons, decide_eq_true_eq]
    split_ifs <;> omega

theorem countItem_of_int {ikvs : List (String × PyVal)}
    (h : ∀ s, ikvs.lookup "status" = some s → ∃ n : Int, s = .int n) (acc : Counts) :
    countItem acc (.dict ikvs) = .ok (tally acc (itemStatus (.dict ikvs))) := by
  have hstatus : (PyVal.dict ikvs).getD "status" (.int 500) = .ok (.int (itemStatus (.dict ikvs))) := by
    cases hs : ikvs.lookup "status" with
    | none => simp only [itemStatus, PyVal.getD_dict, hs]; rfl
    | some s => obtain ⟨n, rfl⟩ := h s hs; simp only [itemStatus, PyVal.getD_dict, hs]; rfl
  unfold countItem tally
  rw [hstatus, ok_bind]
  simp only [PyVal.eqInt, PyVal.geInt, beq_iff_eq, ok_bind, decide_eq_true_eq]
  split_ifs <;> rfl

/-- What counting a report with the given item statuses adds. -/
def addCounts (acc : Counts) (statuses : List Int) : Counts :=
  ⟨acc.total + statuses.length, acc.healthy + statuses.countP (· = 200),
    acc.unhealthy + statuses.countP (400 ≤ ·),
    acc.warnings + statuses.countP fun s => s ≠ 200 ∧ s < 400⟩

theorem addCounts_append (acc : Counts) (l₁ l₂ : List Int) :
    addCounts (addCounts acc l₁) l₂ = addCounts acc (l₁ ++ l₂) := by
  simp only [addCounts, List.length_append, List.countP_append, Counts.mk.injEq]
  omega

theorem countReport_of_int {report : PyVal} (h : IntStatusReport report) (acc : Counts) :
    countReport acc report = .ok (addCounts acc (reportStatuses report)) := by
  obtain ⟨kvs, rfl, hdhc⟩ := h
  unfold countReport reportStatuses
  cases hl : kvs.lookup "DetailedHealthCheck" with
  | none => simp [hl, PyVal.len, addCounts]
  | some dhc =>
    obtain ⟨items, rfl, hitems⟩ := hdhc dhc hl
    have hfold : items.foldlM countItem { acc with total := acc.total + items.length } =
        .ok ((items.map itemStatus).foldl tally { acc with total := acc.total + items.length }) := by
      rw [List.foldl_map]
      exact foldlM_ok_of_forall fun item hitem b => by
        obtain ⟨ikvs, rfl, hint⟩ := hitems item hitem
        exact countItem_of_int hint b
    simp only [hl, PyVal.getD_dict, Option.getD_some, PyVal.len, PyVal.iter_list, ok_bind, hfold,
      foldl_tally, addCounts, List.length_map]

theorem countResources_of_int {reports : List PyVal} (h : ∀ r ∈ reports, IntStatusReport r) :
    countResources reports = .ok (addCounts ⟨0, 0, 0, 0⟩ (reports.flatMap reportStatuses)) := by
  have hfold : ∀ acc, reports.foldl (fun acc r => addCounts acc (reportStatuses r)) acc =
      addCounts acc (reports.flatMap reportStatuses) := by
    clear h
    induction reports with
    | nil => intro acc; simp [addCounts]
    | cons r reports ih => intro acc; rw [List.foldl_cons, ih, addCounts_append, List.flatMap_cons]
  unfold countResources
  rw [foldlM_ok_of_forall fun r hr acc => countReport_of_int (h r hr) acc, hfold]

theorem overallStatus_eq (unhealthy warnings : Nat) (errors : List String) :
    overallStatus unhealthy warnings errors =
      if 0 < unhealthy then "UNHEALTHY"
      else if 0 < warnings ∨ errors ≠ [] then "WARNING"
      else "HEALTHY" := by
  cases errors <;> simp [overallStatus]

/-- **The summary is the three-bucket count.** On reports whose statuses are integers the summary
is `documentedSummary` of all their item statuses, in report order then item order, and of the
errors. -/
theorem summarize_eq {reports : List PyVal} (h : ∀ r ∈ reports, IntStatusReport r)
    (errors : List String) :
    summarize reports errors = .ok (documentedSummary (reports.flatMap reportStatuses) errors) := by
  unfold summarize
  rw [countResources_of_int h]
  simp only [addCounts, Nat.zero_add, overallStatus_eq, ok_bind]
  rfl

theorem documentedSummary_perm {statuses₁ statuses₂ : List Int} {errors₁ errors₂ : List String}
    (hs : statuses₁.Perm statuses₂) (he : errors₁.Perm errors₂) :
    documentedSummary statuses₁ errors₁ = documentedSummary statuses₂ errors₂ := by
  have hnil : errors₁ = [] ↔ errors₂ = [] :=
    ⟨fun h => (h ▸ he).symm.eq_nil, fun h => (h ▸ he).eq_nil⟩
  simp only [documentedSummary, hs.countP_eq, hs.length_eq, he.length_eq, ne_eq, hnil]

/-- **The summary, for every input.** For every list of reports whose statuses are integers and
every error list: the summary is the three-bucket count of all item statuses (a missing status
read as 500) with `error_count = len(errors)` and the documented overall status; the total is
the sum of the three buckets; and any reports and errors with the same statuses up to order and
the same errors up to order — a permutation of the reports, of a report's items, or of the
errors — give the same summary. -/
theorem summarize_counts {reports : List PyVal} (h : ∀ r ∈ reports, IntStatusReport r)
    (errors : List String) :
    summarize reports errors = .ok (documentedSummary (reports.flatMap reportStatuses) errors) ∧
    (reports.flatMap reportStatuses).length =
      (reports.flatMap reportStatuses).countP (· = 200) +
        (reports.flatMap reportStatuses).countP (400 ≤ ·) +
        (reports.flatMap reportStatuses).countP (fun s => s ≠ 200 ∧ s < 400) ∧
    ∀ reports' errors', (∀ r ∈ reports', IntStatusReport r) →
      (reports'.flatMap reportStatuses).Perm (reports.flatMap reportStatuses) →
      errors'.Perm errors → summarize reports' errors' = summarize reports errors :=
  ⟨summarize_eq h errors, (countP_buckets _).symm, fun _ _ h' hs he => by
    rw [summarize_eq h', summarize_eq h, documentedSummary_perm hs he]⟩

theorem summarize_counts_example :
    let reports : List PyVal :=
      [.dict [("ResourceType", .str "Lambda"), ("DetailedHealthCheck", .list [
        .dict [("ResourceName", .str "fn"), ("status", .int 200)],
        .dict [("ResourceName", .str "alias"), ("status", .int 302)],
        .dict [("ResourceName", .str "layer")]])],
       .dict [("ResourceType", .str "S3")]]
    (∀ r ∈ reports, IntStatusReport r) ∧
    summarize reports ["layer: Unknown error"] =
      .ok (documentedSummary (reports.flatMap reportStatuses) ["layer: Unknown error"]) ∧
    (reports.flatMap reportStatuses).length =
      (reports.flatMap reportStatuses).countP (· = 200) +
        (reports.flatMap reportStatuses).countP (400 ≤ ·) +
        (reports.flatMap reportStatuses).countP (fun s => s ≠ 200 ∧ s < 400) ∧
    ∀ reports' errors', (∀ r ∈ reports', IntStatusReport r) →
      (reports'.flatMap reportStatuses).Perm (reports.flatMap reportStatuses) →
      errors'.Perm ["layer: Unknown error"] →
      summarize reports' errors' = summarize reports ["layer: Unknown error"] := by
  intro reports
  have h : ∀ r ∈ reports, IntStatusReport r := by
    intro r hr
    simp only [reports, List.mem_cons, List.mem_singleton, List.not_mem_nil, or_false] at hr
    rcases hr with rfl | rfl
    · refine ⟨_, rfl, fun dhc hl => ?_⟩
      cases hl
      refine ⟨_, rfl, fun item hitem => ?_⟩
      simp only [List.mem_cons, List.mem_singleton, List.not_mem_nil, or_false] at hitem
      rcases hitem with rfl | rfl | rfl <;> exact ⟨_, rfl, fun s hs => by cases hs <;> exact ⟨_, rfl⟩⟩
    · exact ⟨_, rfl, fun dhc hl => by cases hl⟩
  exact ⟨h, summarize_counts h _⟩

/-! ## §3 — the collector's reports, summarized

`lambda_handler` summarizes what the collector returned together with `validator.errors`. A task
that raised contributes one item of status 500 and one error line; a task that returned a report
contributes its items and one error line per item whose status is not 200. So the error count is
the number of non-200 items, which is the number of unhealthy and warning items. -/

theorem IntStatusReport.wellFormed {v : PyVal} (h : IntStatusReport v) : WellFormedReport v := by
  obtain ⟨kvs, rfl, hdhc⟩ := h
  exact ⟨kvs, rfl, fun dhc hl => (hdhc dhc hl).imp fun items ⟨hd, hi⟩ =>
    ⟨hd, fun item hitem => (hi item hitem).imp fun _ hik => hik.1⟩⟩

theorem reportStatuses_failedReport (taskName errorMsg : String) :
    reportStatuses (failedReport taskName errorMsg) = [500] := rfl

theorem documentedEntry_intStatus {taskName : String} {outcome : Except String PyVal}
    (h : ∀ v, outcome = .ok v → IntStatusReport v) : IntStatusReport (documentedEntry taskName outcome) := by
  cases outcome with
  | ok v => exact h v rfl
  | error e =>
    refine ⟨_, rfl, fun dhc hl => ?_⟩
    cases hl
    exact ⟨_, rfl, fun item hitem => by
      rw [List.mem_singleton] at hitem
      exact ⟨_, hitem, fun s hs => by cases hs; exact ⟨_, rfl⟩⟩⟩

/-- An item's error line is left out exactly when its status reads as 200. -/
theorem documentedItemError_isSome {ikvs : List (String × PyVal)}
    (h : ∀ s, ikvs.lookup "status" = some s → ∃ n : Int, s = .int n) :
    (documentedItemError (.dict ikvs)).isSome = decide (itemStatus (.dict ikvs) ≠ 200) := by
  unfold documentedItemError itemStatus
  cases hs : ikvs.lookup "status" with
  | none => simp [hs, PyVal.eqInt]
  | some s =>
    obtain ⟨n, rfl⟩ := h s hs
    by_cases h200 : n = 200 <;> simp [hs, PyVal.eqInt, h200]

/-- A task adds one error line per item of its entry whose status is not 200. -/
theorem documentedErrors_length {taskName : String} {outcome : Except String PyVal}
    (h : ∀ v, outcome = .ok v → IntStatusReport v) :
    (documentedErrors taskName outcome).length =
      (reportStatuses (documentedEntry taskName outcome)).countP (· ≠ 200) := by
  cases outcome with
  | error e => rfl
  | ok v =>
    obtain ⟨kvs, rfl, hdhc⟩ := h v rfl
    simp only [documentedErrors, documentedEntry, reportStatuses]
    cases hl : kvs.lookup "DetailedHealthCheck" with
    | none => rfl
    | some dhc =>
      obtain ⟨items, rfl, hitems⟩ := hdhc dhc hl
      simp only [List.length_filterMap_eq_countP, List.countP_map]
      exact List.countP_congr fun item hitem => by
        obtain ⟨ikvs, rfl, hint⟩ := hitems item hitem
        simp [documentedItemError_isSome hint]

theorem length_flatMap_eq_countP {α : Type} {f : α → List String} {g : α → List Int}
    {p : Int → Bool} :
    ∀ {l : List α}, (∀ a ∈ l, (f a).length = (g a).countP p) →
      (l.flatMap f).length = (l.flatMap g).countP p
  | [], _ => rfl
  | a :: l, h => by
    simp only [List.flatMap_cons, List.length_append, List.countP_append,
      h a (List.mem_cons_self _ _), length_flatMap_eq_countP fun b hb => h b (List.mem_cons_of_mem _ hb)]

/-- The non-200 statuses are the unhealthy and the warning ones. -/
theorem countP_ne_200 (statuses : List Int) :
    statuses.countP (· ≠ 200) =
      statuses.countP (400 ≤ ·) + statuses.countP (fun s => s ≠ 200 ∧ s < 400) := by
  induction statuses with
  | nil => rfl
  | cons s statuses ih =>
    simp only [List.countP_cons, decide_eq_true_eq]
    split_ifs <;> omega

section Collected

variable {maxThreads : PyVal} {outcome : String → Except String PyVal} {order : List String}

/-- The statuses of the entries of the tasks, in registration order. -/
def taskStatuses (outcome : String → Except String PyVal) : List Int :=
  validationTasks.flatMap fun t => reportStatuses (documentedEntry t (outcome t))

/-- The error lines of the tasks, in registration order. -/
def taskErrors (outcome : String → Except String PyVal) : List String :=
  validationTasks.flatMap fun t => documentedErrors t (outcome t)

theorem taskErrors_length (hint : ∀ t v, outcome t = .ok v → IntStatusReport v) :
    (taskErrors outcome).length = (taskStatuses outcome).countP (· ≠ 200) :=
  length_flatMap_eq_countP fun t _ => documentedErrors_length (hint t)

/-- All statuses are 200 exactly when every task returned a report whose items are all 200. -/
theorem taskStatuses_all_200_iff :
    (∀ n ∈ taskStatuses outcome, n = 200) ↔
      ∀ t ∈ validationTasks, ∃ v, outcome t = .ok v ∧ ∀ n ∈ reportStatuses v, n = 200 := by
  simp only [taskStatuses, List.mem_flatMap]
  constructor
  · intro h t ht
    cases ho : outcome t with
    | error e =>
      have := h 500 ⟨t, ht, by rw [ho]; exact List.mem_singleton_self _⟩
      omega
    | ok v => exact ⟨v, rfl, fun n hn => h n ⟨t, ht, by rw [ho]; exact hn⟩⟩
  · rintro h n ⟨t, ht, hn⟩
    obtain ⟨v, hv, hall⟩ := h t ht
    rw [hv] at hn
    exact hall n hn

/-- On integer-status outcomes, whatever the completion order, the summary of what a run collects
is the summary of the tasks in registration order. -/
theorem summarize_collected (hint : ∀ t v, outcome t = .ok v → IntStatusReport v)
    (hp : order.Perm validationTasks) :
    summarize (collectedReports outcome order) (collectedErrors outcome order) =
      .ok (documentedSummary (taskStatuses outcome) (taskErrors outcome)) := by
  have hwf : ∀ t v, outcome t = .ok v → WellFormedReport v := fun t v h => (hint t v h).wellFormed
  have hrep : (collectedReports outcome order).Perm
      (validationTasks.map fun t => documentedEntry t (outcome t)) := by
    rw [collectedReports_of_wellFormed hwf]; exact hp.map _
  have herr : (collectedErrors outcome order).Perm (taskErrors outcome) := by
    rw [collectedErrors_of_wellFormed hwf]; exact hp.flatMap_right _
  have hreports : ∀ r ∈ collectedReports outcome order, IntStatusReport r := fun r hr => by
    obtain ⟨t, -, rfl⟩ := List.mem_map.mp (hrep.mem_iff.mp hr)
    exact documentedEntry_intStatus (hint t)
  have hstatuses : ((collectedReports outcome order).flatMap reportStatuses).Perm
      (taskStatuses outcome) := by
    have := hrep.flatMap_right reportStatuses
    rwa [List.flatMap_map] at this
  rw [summarize_eq hreports, documentedSummary_perm hstatuses herr]

/-- The tasks' summary is `HEALTHY` exactly when every task returned a report whose items are all
200. -/
theorem documentedSummary_healthy_iff (hint : ∀ t v, outcome t = .ok v → IntStatusReport v) :
    (documentedSummary (taskStatuses outcome) (taskErrors outcome)).overallStatus = "HEALTHY" ↔
      ∀ t ∈ validationTasks, ∃ v, outcome t = .ok v ∧ ∀ n ∈ reportStatuses v, n = 200 := by
  have hne := countP_ne_200 (taskStatuses outcome)
  have hall : (∀ n ∈ taskStatuses outcome, n = 200) ↔
      (taskStatuses outcome).countP (· ≠ 200) = 0 := by
    simp [List.countP_eq_zero]
  have herrors : taskErrors outcome ≠ [] ↔ 0 < (taskStatuses outcome).countP (· ≠ 200) := by
    rw [← List.length_pos, taskErrors_length hint]
  rw [← taskStatuses_all_200_iff, hall]
  simp only [documentedSummary, herrors]
  split_ifs with hu hw
  · exact iff_of_false (by decide) (by omega)
  · exact iff_of_false (by decide) (by omega)
  · exact iff_of_true rfl (by omega)

/-- A task that raised makes the tasks' summary `UNHEALTHY`: its synthesized item has status
500. -/
theorem documentedSummary_unhealthy_of_error (h : ∃ t ∈ validationTasks, ∃ e, outcome t = .error e) :
    (documentedSummary (taskStatuses outcome) (taskErrors outcome)).overallStatus = "UNHEALTHY" := by
  obtain ⟨t, ht, e, he⟩ := h
  have h500 : 500 ∈ taskStatuses outcome :=
    List.mem_flatMap.mpr ⟨t, ht, by rw [he]; exact List.mem_singleton_self _⟩
  have hpos : 0 < (taskStatuses outcome).countP (400 ≤ ·) :=
    List.countP_pos_iff.mpr ⟨500, h500, by decide⟩
  simp only [documentedSummary, if_pos hpos]

/-- On statuses among 200, 300 and 500, with one error line per non-200 status, the overall status
is decided by the presence of a 500, then of a 300. -/
theorem documentedSummary_overall {statuses : List Int} {errors : List String}
    (hs : ∀ s ∈ statuses, s = 200 ∨ s = 300 ∨ s = 500)
    (herr : errors.length = statuses.countP (· ≠ 200)) :
    (documentedSummary statuses errors).overallStatus =
      if 500 ∈ statuses then "UNHEALTHY" else if 300 ∈ statuses then "WARNING" else "HEALTHY" := by
  have hu : 0 < statuses.countP (400 ≤ ·) ↔ 500 ∈ statuses := by
    rw [List.countP_pos_iff]
    constructor
    · rintro ⟨s, hm, hle⟩
      rcases hs s hm with rfl | rfl | rfl <;> simp_all
    · exact fun h => ⟨500, h, by decide⟩
  have hw : 0 < statuses.countP (fun s => s ≠ 200 ∧ s < 400) ↔ 300 ∈ statuses := by
    rw [List.countP_pos_iff]
    constructor
    · rintro ⟨s, hm, hle⟩
      rcases hs s hm with rfl | rfl | rfl <;> simp_all
    · exact fun h => ⟨300, h, by decide⟩
  have he : errors ≠ [] ↔ 500 ∈ statuses ∨ 300 ∈ statuses := by
    rw [← List.length_pos, herr, countP_ne_200, ← hu, ← hw]
    omega
  simp only [documentedSummary, hu, hw, he]
  by_cases h5 : 500 ∈ statuses <;> by_cases h3 : 300 ∈ statuses <;> simp [h5, h3]

/-- **The collector and the summary agree.** For every assignment of outcomes in which each task
raises or returns a report whose statuses are integers, and every completion order: the summary
`lambda_handler` computes from the collected reports and `validator.errors` has
`error_count = unhealthy + warnings = total_resources - healthy`; its status is `HEALTHY` exactly
when every task returned a report whose items all have status 200, and `UNHEALTHY` as soon as a
task raised; and it is the summary of the tasks in registration order, so no completion order
changes it. -/
theorem validateAllResourcesParallel_summary (hpool : threadPool maxThreads = .ok ())
    (hint : ∀ t v, outcome t = .ok v → IntStatusReport v) (hp : order.Perm validationTasks) :
    ∃ report errs s,
      validateAllResourcesParallel maxThreads outcome order ⟨[], []⟩ = .ok report ⟨report, errs⟩ ∧
      summarize report errs = .ok s ∧
      s.errorCount = s.unhealthy + s.warnings ∧
      s.unhealthy + s.warnings = s.totalResources - s.healthy ∧
      (s.overallStatus = "HEALTHY" ↔
        ∀ t ∈ validationTasks, ∃ v, outcome t = .ok v ∧ ∀ n ∈ reportStatuses v, n = 200) ∧
      ((∃ t ∈ validationTasks, ∃ e, outcome t = .error e) → s.overallStatus = "UNHEALTHY") ∧
      s = documentedSummary (taskStatuses outcome) (taskErrors outcome) := by
  have hcount := taskErrors_length hint
  have hne := countP_ne_200 (taskStatuses outcome)
  have hbuckets := countP_buckets (taskStatuses outcome)
  refine ⟨_, _, _, by rw [validateAllResourcesParallel_run, hpool, List.nil_append],
    summarize_collected hint hp, ?_, ?_, documentedSummary_healthy_iff hint,
    documentedSummary_unhealthy_of_error, rfl⟩
  · simp only [documentedSummary]; omega
  · simp only [documentedSummary]; omega

theorem validateAllResourcesParallel_summary_example :
    let outcome : String → Except String PyVal := fun t =>
      if t = "s3" then .error "AccessDenied"
      else .ok (.dict [("ResourceType", .str t),
        ("DetailedHealthCheck", .list [.dict [("ResourceName", .str t), ("status", .int 200)]])])
    (threadPool (.int 4) = .ok () ∧ (∀ t v, outcome t = .ok v → IntStatusReport v) ∧
      validationTasks.reverse.Perm validationTasks) ∧
    ∃ report errs s,
      validateAllResourcesParallel (.int 4) outcome validationTasks.reverse ⟨[], []⟩ =
        .ok report ⟨report, errs⟩ ∧
      summarize report errs = .ok s ∧
      s.errorCount = s.unhealthy + s.warnings ∧
      s.unhealthy + s.warnings = s.totalResources - s.healthy ∧
      (s.overallStatus = "HEALTHY" ↔
        ∀ t ∈ validationTasks, ∃ v, outcome t = .ok v ∧ ∀ n ∈ reportStatuses v, n = 200) ∧
      ((∃ t ∈ validationTasks, ∃ e, outcome t = .error e) → s.overallStatus = "UNHEALTHY") ∧
      s = documentedSummary (taskStatuses outcome) (taskErrors outcome) := by
  intro outcome
  have hpool : threadPool (.int 4) = .ok () := rfl
  have hint : ∀ t v, outcome t = .ok v → IntStatusReport v := by
    intro t v h
    by_cases ht : t = "s3"
    · simp [outcome, ht] at h
    · simp only [outcome, ht, if_false, Except.ok.injEq] at h
      subst h
      refine ⟨_, rfl, fun dhc hl => ?_⟩
      simp only [List.lookup] at hl
      cases hl
      exact ⟨_, rfl, by simp [List.lookup]⟩
  exact ⟨⟨hpool, hint, List.reverse_perm _⟩,
    validateAllResourcesParallel_summary hpool hint (List.reverse_perm _)⟩

end Collected

end HealthCheck
