import HealthCheck.Python.Text

/-!
# HealthCheck — the CSV report

`generate_csv_report` (`core/reporting.py`) writes one header line and one line per item of every
resource-type report, each field between double quotes, the lines joined by LF. Only the message
has its quotes doubled; the resource name and type are written between the quotes as they are.

`readCsv` is the reader the documentation promises the output is meant for: RFC 4180 with LF
between records, a field in double quotes holding commas, line breaks and `""` for a quote.

* `csvRecords_generateCsvReport` — the round trip: when the names and types hold no `"`, the
  reader returns the header and, in report order then item order, the name, the type, the status
  word and the message of every item, whatever the messages hold;
* `csvRecords_quote_in_name` — a name holding `","` is read as two fields.
-/

namespace HealthCheck

/-! ## §1 — `generate_csv_report` -/

/-- The header line. -/
def csvHeader : String := "ResourceName,ResourceType,Status,Message"

/-- `f'"{resource_name}","{resource_type}","{status}","{message}"'`. -/
def csvLine (resourceName resourceType status message : String) : String :=
  "\"" ++ resourceName ++ "\",\"" ++ resourceType ++ "\",\"" ++ status ++ "\",\"" ++ message ++ "\""

/-- The line of one item of a report of the given resource type. -/
def csvItemLine (resourceType hc : PyVal) : Except String String := do
  let resourceName ← hc.getD "ResourceName" (.str "Unknown")
  let status := if ((← hc.get "status").getD .none).eqInt 200 then "HEALTHY" else "UNHEALTHY"
  let message ← (← hc.getD "message" (.str "")).replace "\"" "\"\""
  pure (csvLine resourceName.toStr resourceType.toStr status message)

/-- The lines of one resource-type report. -/
def csvReportLines (resourceTypeReport : PyVal) : Except String (List String) := do
  let resourceType ← resourceTypeReport.getD "ResourceType" (.str "Unknown")
  let healthChecks ← (← resourceTypeReport.getD "DetailedHealthCheck" (.list [])).iter
  healthChecks.mapM (csvItemLine resourceType)

/-- `generate_csv_report`. -/
def generateCsvReport (report : PyVal) : Except String String := do
  let reports ← (← report.getD "detailed_results" (.list [])).iter
  let lines ← reports.mapM csvReportLines
  pure ("\n".intercalate (csvHeader :: lines.flatten))

/-! ## §2 — the RFC 4180 reader -/

/-- Where the reader is within a field. -/
inductive CsvState where
  | fieldStart
  | unquoted
  | quoted
  | quoteSeen
  deriving DecidableEq

/-- RFC 4180 reading, one character at a time, of `field` (the current field so far) and
`record` (the current record's fields so far). A quote may only open a field; inside quotes `""`
is a quote, and a closing quote must be followed by a comma, a line break or the end. -/
def readCsv : CsvState → List Char → List (List Char) → List Char →
    Option (List (List (List Char)))
  | st, field, record, [] => if st = .quoted then none else some [record ++ [field]]
  | st, field, record, c :: cs =>
    match st with
    | .fieldStart | .unquoted =>
      if c = '"' then (if st = .fieldStart then readCsv .quoted field record cs else none)
      else if c = ',' then readCsv .fieldStart [] (record ++ [field]) cs
      else if c = '\n' then ((record ++ [field]) :: ·) <$> readCsv .fieldStart [] [] cs
      else readCsv .unquoted (field ++ [c]) record cs
    | .quoted =>
      if c = '"' then readCsv .quoteSeen field record cs
      else readCsv .quoted (field ++ [c]) record cs
    | .quoteSeen =>
      if c = '"' then readCsv .quoted (field ++ ['"']) record cs
      else if c = ',' then readCsv .fieldStart [] (record ++ [field]) cs
      else if c = '\n' then ((record ++ [field]) :: ·) <$> readCsv .fieldStart [] [] cs
      else none

section Steps

variable (field : List Char) (record : List (List Char)) (cs : List Char)

@[simp] theorem readCsv_fieldStart_quote :
    readCsv .fieldStart field record ('"' :: cs) = readCsv .quoted field record cs := rfl

@[simp] theorem readCsv_quoteSeen_comma :
    readCsv .quoteSeen field record (',' :: cs) = readCsv .fieldStart [] (record ++ [field]) cs := rfl

@[simp] theorem readCsv_quoteSeen_newline :
    readCsv .quoteSeen field record ('\n' :: cs) =
      ((record ++ [field]) :: ·) <$> readCsv .fieldStart [] [] cs := rfl

@[simp] theorem readCsv_quoteSeen_nil : readCsv .quoteSeen field record [] = some [record ++ [field]] :=
  rfl

@[simp] theorem readCsv_unquoted_newline :
    readCsv .unquoted field record ('\n' :: cs) =
      ((record ++ [field]) :: ·) <$> readCsv .fieldStart [] [] cs := rfl

@[simp] theorem readCsv_unquoted_nil : readCsv .unquoted field record [] = some [record ++ [field]] :=
  rfl

end Steps

/-- The records of a text. -/
def csvRecords (text : String) : Option (List (List String)) :=
  (readCsv .fieldStart [] [] text.toList).map (·.map (·.map String.mk))

/-! ## §3 — reading the rendered lines back -/

/-- The characters `message.replace('"', '""')` writes. -/
def escapeQuotes (s : List Char) : List Char :=
  s.flatMap fun c => if c = '"' then ['"', '"'] else [c]

theorem replace_quote (m : String) :
    (PyVal.str m).replace "\"" "\"\"" = .ok ⟨escapeQuotes m.toList⟩ := by
  simp only [PyVal.replace]
  rw [show "\"".toList = ['"'] from rfl, pyReplace_singleton]
  rfl

theorem escapeQuotes_of_quoteFree {s : List Char} (h : '"' ∉ s) : escapeQuotes s = s := by
  induction s with
  | nil => rfl
  | cons c s ih =>
    have hc : c ≠ '"' := fun hc => h (hc ▸ List.mem_cons_self _ _)
    simp [escapeQuotes, hc] at ih ⊢
    exact ih fun hs => h (List.mem_cons_of_mem _ hs)

/-- **A quoted field reads back**: the escaped text of `s` and its closing quote leave `s` as the
field. -/
theorem readCsv_quoted_escaped (s : List Char) (field : List Char) (record : List (List Char))
    (rest : List Char) :
    readCsv .quoted field record (escapeQuotes s ++ '"' :: rest) =
      readCsv .quoteSeen (field ++ s) record rest := by
  induction s generalizing field with
  | nil => simp [escapeQuotes, readCsv]
  | cons c s ih =>
    by_cases hc : c = '"'
    · subst hc
      simp only [escapeQuotes, List.flatMap_cons, if_pos, List.cons_append] at ih ⊢
      simp [readCsv, ih]
    · simp only [escapeQuotes, List.flatMap_cons, if_neg hc, List.cons_append] at ih ⊢
      simp [readCsv, hc, ih]

theorem readCsv_quoted_plain {s : List Char} (h : '"' ∉ s) (field : List Char)
    (record : List (List Char)) (rest : List Char) :
    readCsv .quoted field record (s ++ '"' :: rest) = readCsv .quoteSeen (field ++ s) record rest := by
  rw [← readCsv_quoted_escaped, escapeQuotes_of_quoteFree h]

/-- One line of the report as the documentation describes it. -/
structure CsvRow where
  resourceName : String
  resourceType : String
  status : String
  message : String

/-- The four fields of a row. -/
def CsvRow.fields (r : CsvRow) : List String :=
  [r.resourceName, r.resourceType, r.status, r.message]

/-- The line `generate_csv_report` writes for a row. -/
def CsvRow.line (r : CsvRow) : String :=
  csvLine r.resourceName r.resourceType r.status ⟨escapeQuotes r.message.toList⟩

/-- A row whose unescaped fields hold no `"`. -/
def CsvRow.Plain (r : CsvRow) : Prop :=
  '"' ∉ r.resourceName.toList ∧ '"' ∉ r.resourceType.toList ∧ '"' ∉ r.status.toList

/-- A row's line reads back as its four fields. -/
theorem readCsv_line {r : CsvRow} (h : r.Plain) (tail : List Char) :
    readCsv .fieldStart [] [] (r.line.toList ++ tail) =
      readCsv .quoteSeen r.message.toList
        [r.resourceName.toList, r.resourceType.toList, r.status.toList] tail := by
  obtain ⟨hn, ht, hs⟩ := h
  have e₁ : "\"".toList = ['"'] := rfl
  have e₂ : "\",\"".toList = ['"', ',', '"'] := rfl
  simp only [CsvRow.line, csvLine, toList_append, e₁, e₂, List.append_assoc, List.cons_append,
    List.singleton_append, List.nil_append]
  rw [readCsv_fieldStart_quote, readCsv_quoted_plain hn, readCsv_quoteSeen_comma,
    readCsv_fieldStart_quote, readCsv_quoted_plain ht, readCsv_quoteSeen_comma,
    readCsv_fieldStart_quote, readCsv_quoted_plain hs, readCsv_quoteSeen_comma,
    readCsv_fieldStart_quote]
  show readCsv .quoted [] _ (escapeQuotes r.message.toList ++ '"' :: tail) = _
  rw [readCsv_quoted_escaped]
  simp

theorem readCsv_header (tail : List Char) :
    readCsv .fieldStart [] [] (csvHeader.toList ++ tail) =
      readCsv .unquoted "Message".toList
        ["ResourceName".toList, "ResourceType".toList, "Status".toList] tail := rfl

/-- After a field that ends a line, the remaining lines read back as their rows. -/
theorem readCsv_rows {rows : List CsvRow} (h : ∀ r ∈ rows, r.Plain) {st : CsvState}
    (hst : st = .unquoted ∨ st = .quoteSeen) (field : List Char) (record : List (List Char)) :
    readCsv st field record (rows.flatMap fun r => '\n' :: r.line.toList) =
      some ((record ++ [field]) :: rows.map fun r => r.fields.map String.toList) := by
  induction rows generalizing st field record with
  | nil => rcases hst with rfl | rfl <;> rfl
  | cons r rows ih =>
    have hrest := ih (fun r' hr' => h r' (List.mem_cons_of_mem _ hr')) (.inr rfl)
    rcases hst with rfl | rfl <;>
      simp only [List.flatMap_cons, List.cons_append, readCsv_unquoted_newline,
        readCsv_quoteSeen_newline, readCsv_line (h r (List.mem_cons_self _ _)), hrest] <;> rfl

theorem intercalate_go_toList (acc : String) (lines : List String) :
    (String.intercalate.go acc "\n" lines).toList =
      acc.toList ++ lines.flatMap fun l => '\n' :: l.toList := by
  induction lines generalizing acc with
  | nil => simp [String.intercalate.go]
  | cons l lines ih =>
    rw [String.intercalate.go, ih, toList_append, toList_append, List.flatMap_cons,
      List.append_assoc, List.append_assoc]
    rfl

/-- **The rendered lines read back**: after the header, every row whose name, type and status hold
no `"` is read as its four fields, whatever its message holds. -/
theorem csvRecords_lines {rows : List CsvRow} (h : ∀ r ∈ rows, r.Plain) :
    csvRecords ("\n".intercalate (csvHeader :: rows.map CsvRow.line)) =
      some (["ResourceName", "ResourceType", "Status", "Message"] :: rows.map CsvRow.fields) := by
  unfold csvRecords
  rw [show "\n".intercalate (csvHeader :: rows.map CsvRow.line) =
    String.intercalate.go csvHeader "\n" (rows.map CsvRow.line) from rfl, intercalate_go_toList,
    readCsv_header, List.flatMap_map, readCsv_rows h (.inl rfl)]
  simp [CsvRow.fields]

/-! ## §4 — the rows of a report -/

/-- A string without `"`. -/
def QuoteFree (v : PyVal) : Prop := ∃ s, v = .str s ∧ '"' ∉ s.toList

/-- An item the renderer writes as four fields: a dict whose `ResourceName`, if present, is a
string without `"`, and whose `message`, if present, is a string. -/
def CsvItem (hc : PyVal) : Prop :=
  ∃ kvs, hc = .dict kvs ∧ (∀ n, kvs.lookup "ResourceName" = some n → QuoteFree n) ∧
    ∀ m, kvs.lookup "message" = some m → ∃ s, m = .str s

/-- A resource-type report the renderer writes line by line: a dict whose `ResourceType`, if
present, is a string without `"`, and whose `DetailedHealthCheck`, if present, is a list of such
items. -/
def CsvResourceReport (rt : PyVal) : Prop :=
  ∃ kvs, rt = .dict kvs ∧ (∀ t, kvs.lookup "ResourceType" = some t → QuoteFree t) ∧
    ∀ dhc, kvs.lookup "DetailedHealthCheck" = some dhc →
      ∃ items, dhc = .list items ∧ ∀ item ∈ items, CsvItem item

/-- A report whose `detailed_results`, if present, is a list of such resource-type reports. -/
def CsvReport (report : PyVal) : Prop :=
  ∃ kvs, report = .dict kvs ∧ ∀ results, kvs.lookup "detailed_results" = some results →
    ∃ rts, results = .list rts ∧ ∀ rt ∈ rts, CsvResourceReport rt

/-- The row documented for an item: its name (default `Unknown`), the resource type, `HEALTHY`
when its status is 200 and `UNHEALTHY` otherwise, and its message (default empty). -/
def itemRow (resourceType : String) : PyVal → CsvRow
  | .dict kvs =>
    ⟨((kvs.lookup "ResourceName").getD (.str "Unknown")).toStr, resourceType,
      if ((kvs.lookup "status").getD .none).eqInt 200 then "HEALTHY" else "UNHEALTHY",
      ((kvs.lookup "message").getD (.str "")).toStr⟩
  | _ => ⟨"", resourceType, "", ""⟩

/-- The rows documented for a resource-type report (type default `Unknown`), in item order. -/
def reportRows : PyVal → List CsvRow
  | .dict kvs =>
    match kvs.lookup "DetailedHealthCheck" with
    | some (.list items) => items.map (itemRow ((kvs.lookup "ResourceType").getD (.str "Unknown")).toStr)
    | _ => []
  | _ => []

/-- The rows documented for a report, in report order then item order. -/
def documentedRows : PyVal → List CsvRow
  | .dict kvs =>
    match kvs.lookup "detailed_results" with
    | some (.list reports) => reports.flatMap reportRows
    | _ => []
  | _ => []

theorem getD_quoteFree {o : Option PyVal} (h : ∀ v, o = some v → QuoteFree v) {d : String}
    (hd : '"' ∉ d.toList) : ∃ s, o.getD (.str d) = .str s ∧ '"' ∉ s.toList := by
  cases o with
  | none => exact ⟨d, rfl, hd⟩
  | some v => obtain ⟨s, rfl, hs⟩ := h v rfl; exact ⟨s, rfl, hs⟩

theorem csvItemLine_ok {item : PyVal} (h : CsvItem item) {resourceType : String}
    (ht : '"' ∉ resourceType.toList) :
    csvItemLine (.str resourceType) item = .ok (itemRow resourceType item).line ∧
      (itemRow resourceType item).Plain := by
  obtain ⟨kvs, rfl, hn, hm⟩ := h
  obtain ⟨name, hname, hnq⟩ := getD_quoteFree hn (d := "Unknown") (by decide)
  obtain ⟨msg, hmsg⟩ : ∃ msg, (kvs.lookup "message").getD (.str "") = .str msg := by
    cases hl : kvs.lookup "message" with
    | none => exact ⟨"", rfl⟩
    | some m => obtain ⟨s, rfl⟩ := hm m hl; exact ⟨s, rfl⟩
  refine ⟨?_, ?_, ht, ?_⟩
  · simp only [csvItemLine, PyVal.getD_dict, PyVal.get_dict, hname, hmsg, ok_bind, replace_quote,
      itemRow, CsvRow.line, PyVal.toStr_str]
    rfl
  · simpa [itemRow, hname] using hnq
  · simp only [itemRow]
    split <;> decide

theorem csvReportLines_ok {rt : PyVal} (h : CsvResourceReport rt) :
    csvReportLines rt = .ok ((reportRows rt).map CsvRow.line) ∧ ∀ r ∈ reportRows rt, r.Plain := by
  obtain ⟨kvs, rfl, ht, hdhc⟩ := h
  obtain ⟨t, htype, htq⟩ := getD_quoteFree ht (d := "Unknown") (by decide)
  cases hl : kvs.lookup "DetailedHealthCheck" with
  | none =>
    simp only [csvReportLines, reportRows, PyVal.getD_dict, hl, htype, Option.getD_none, ok_bind,
      PyVal.iter_list]
    exact ⟨rfl, by simp⟩
  | some dhc =>
    obtain ⟨items, rfl, hitems⟩ := hdhc dhc hl
    have hmap : items.mapM (csvItemLine (.str t)) = .ok (items.map fun item => (itemRow t item).line) :=
      mapM_eq_ok_map fun item hitem => (csvItemLine_ok (hitems item hitem) htq).1
    refine ⟨?_, ?_⟩
    · simp only [csvReportLines, reportRows, PyVal.getD_dict, hl, htype, Option.getD_some, ok_bind,
        PyVal.iter_list, hmap, PyVal.toStr_str, List.map_map]
      rfl
    · simp only [reportRows, hl, htype, PyVal.toStr_str, List.mem_map]
      rintro r ⟨item, hitem, rfl⟩
      exact (csvItemLine_ok (hitems item hitem) htq).2

theorem generateCsvReport_ok {report : PyVal} (h : CsvReport report) :
    generateCsvReport report =
        .ok ("\n".intercalate (csvHeader :: (documentedRows report).map CsvRow.line)) ∧
      ∀ r ∈ documentedRows report, r.Plain := by
  obtain ⟨kvs, rfl, hres⟩ := h
  cases hl : kvs.lookup "detailed_results" with
  | none =>
    simp only [generateCsvReport, documentedRows, PyVal.getD_dict, hl, Option.getD_none, ok_bind,
      PyVal.iter_list]
    exact ⟨rfl, by simp⟩
  | some results =>
    obtain ⟨rts, rfl, hrts⟩ := hres results hl
    have hmap : rts.mapM csvReportLines = .ok (rts.map fun rt => (reportRows rt).map CsvRow.line) :=
      mapM_eq_ok_map fun rt hrt => (csvReportLines_ok (hrts rt hrt)).1
    refine ⟨?_, ?_⟩
    · simp only [generateCsvReport, documentedRows, PyVal.getD_dict, hl, Option.getD_some, ok_bind,
        PyVal.iter_list, hmap, List.flatMap, List.map_flatten, List.map_map]
      rfl
    · simp only [documentedRows, hl, List.mem_flatMap]
      rintro r ⟨rt, hrt, hr⟩
      exact (csvReportLines_ok (hrts rt hrt)).2 r hr

/-- **The CSV report reads back.** For every report whose `detailed_results` is a list of
resource-type reports with string types, names and messages (defaults `Unknown`, `Unknown` and
empty) and any statuses, where the types and names hold no `"`: the RFC 4180 reading of
`generate_csv_report` is the header and then, for each item in report order then item order, its
name, its type, `HEALTHY` or `UNHEALTHY`, and its message — whatever quotes, commas and line
breaks the messages hold. -/
theorem csvRecords_generateCsvReport {report : PyVal} (h : CsvReport report) :
    ∃ text, generateCsvReport report = .ok text ∧
      csvRecords text = some (["ResourceName", "ResourceType", "Status", "Message"] ::
        (documentedRows report).map CsvRow.fields) :=
  ⟨_, (generateCsvReport_ok h).1, csvRecords_lines (generateCsvReport_ok h).2⟩

theorem csvRecords_generateCsvReport_example :
    let report : PyVal := .dict [("detailed_results", .list [.dict [("ResourceType", .str "Lambda"),
      ("DetailedHealthCheck", .list [.dict [("ResourceName", .str "fn"), ("status", .int 404),
        ("message", .str "say \"hi\", then\nbye")]])]])]
    CsvReport report ∧
    ∃ text, generateCsvReport report = .ok text ∧
      csvRecords text = some (["ResourceName", "ResourceType", "Status", "Message"] ::
        (documentedRows report).map CsvRow.fields) := by
  intro report
  have h : CsvReport report := by
    refine ⟨_, rfl, fun results hl => ?_⟩
    cases hl
    refine ⟨_, rfl, fun rt hrt => ?_⟩
    rw [List.mem_singleton] at hrt
    subst hrt
    refine ⟨_, rfl, fun t ht => ?_, fun dhc hd => ?_⟩
    · cases ht; exact ⟨_, rfl, by decide⟩
    · cases hd
      refine ⟨_, rfl, fun item hitem => ?_⟩
      rw [List.mem_singleton] at hitem
      subst hitem
      exact ⟨_, rfl, fun n hn => by cases hn; exact ⟨_, rfl, by decide⟩,
        fun m hm => by cases hm; exact ⟨_, rfl⟩⟩
  exact ⟨h, csvRecords_generateCsvReport h⟩

/-- A name holding `","` between its quotes is read as two fields. -/
theorem csvRecords_quote_in_name :
    let report : PyVal := .dict [("detailed_results", .list [.dict [("ResourceType", .str "Lambda"),
      ("DetailedHealthCheck", .list [.dict [("ResourceName", .str "a\",\"b"), ("status", .int 200),
        ("message", .str "ok")]])]])]
    ∃ text, generateCsvReport report = .ok text ∧
      csvRecords text = some [["ResourceName", "ResourceType", "Status", "Message"],
        ["a", "b", "Lambda", "HEALTHY", "ok"]] :=
  ⟨_, rfl, rfl⟩

end HealthCheck
