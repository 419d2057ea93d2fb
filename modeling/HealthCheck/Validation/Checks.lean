import HealthCheck.Validation.Resources
import HealthCheck.Report.Summary

/-!
# HealthCheck — what the resource checks decide

The checks of `validators/all_validators.py` read on the answers AWS gives.
`lambda_layer_exists`, `alarm_exists` and `get_alias_target` walk a paginator and return from
inside the loop: the first page that settles the question decides, and the fetches after it are
never made. `validate_kinesis` builds its set of streams from every page before its loop. A page
that answers is described by what it lists; the fetches after the given pages are arbitrary,
failing ones included.

* `lambdaLayerExists_pages` — a layer is found as soon as a page lists it; pages that do not list
  it are read and passed over, and the fetches after the first that does are never made;
* `alarmItem_pages` — the first alarm the listing returns decides, healthy in state `OK` or
  `INSUFFICIENT_DATA`;
* `validateKinesis_listed` — on a listing that answers, each configured stream is reported
  healthy exactly when some page, not only the first, lists it;
* `kmsAliasItem_pages` — the first alias of the name over all the pages decides: without a target
  key it fails, with one the key's `Enabled` flag decides;
* `functionItems_verdict` — a function that exists is reported healthy exactly when its alias (if
  the entry names one) exists, every expected layer name occurs inside an attached layer's ARN,
  and the roles agree after their last `/`.
-/

namespace HealthCheck

/-! ## §1 — pages and report items -/

/-- On pages that answer, `pageSearch` returns what the first page that finds something finds;
when none does, the fetches after them decide. -/
theorem pageSearch_append {β : Type} {search : PyVal → Except String (Option β)} :
    ∀ {pages : List PyVal} {found : List (Option β)},
      List.Forall₂ (fun page r => search page = .ok r) pages found →
      ∀ rest, pageSearch search (pages.map pure ++ rest) =
        match found.findSome? id with
        | some b => pure (some b)
        | none => pageSearch search rest
  | [], [], .nil, _ => rfl
  | _ :: _, r :: _, .cons h hs, rest => by
    rw [List.map_cons, List.cons_append, pageSearch, List.findSome?_cons]
    simp only [ExceptT.run_pure, pure_bind, h, ok_bind]
    cases r with
    | some b => rfl
    | none => exact pageSearch_append hs rest

theorem combineResults_single (name : PyVal) (b : Bool) (msg : String) :
    combineResults name [(b, msg)] =
      if b then resourceItem name 200 "healthy" else resourceItem name 500 msg := by
  cases b <;> rfl

/-- The status of a combined item: 200 exactly when every check passed. -/
theorem itemStatus_combineResults (name : PyVal) :
    ∀ rs : List (Bool × String),
      itemStatus (combineResults name rs) = if rs.all (·.1) then 200 else 500
  | [] => rfl
  | (true, _) :: rs => itemStatus_combineResults name rs
  | (false, _) :: _ => rfl

/-! ## §2 — `lambda_layer_exists` -/

/-- A page of `list_layers` listing the layers `names`: its `Layers` are dicts with those
`LayerName`s. -/
def LayersPage (page : PyVal) (names : List String) : Prop :=
  ∃ layers, page.getD "Layers" (.list []) = .ok (.list layers) ∧
    List.Forall₂ (fun layer n => ∃ kvs, layer = .dict kvs ∧ kvs.lookup "LayerName" = some (.str n))
      layers names

theorem findSome?_mem_flatten {α : Type} [DecidableEq α] (a : α) :
    ∀ xss : List (List α),
      (xss.map fun xs => if a ∈ xs then some () else none).findSome? id =
        if a ∈ xss.flatten then some () else none
  | [] => rfl
  | xs :: xss => by
    by_cases h : a ∈ xs
    · simp [h]
    · simp [h, findSome?_mem_flatten a xss]

/-- **The layer lookup stops at the first page that lists the layer.** For every Lambda client
whose layer listing starts with answered pages, `lambda_layer_exists` finds a layer those pages
list without making any later fetch, so a later failure cannot change its verdict; a layer they do
not list is left to the fetches after them. -/
theorem lambdaLayerExists_pages {lmb : LambdaClient} {n : String} {pages : List PyVal}
    {namess : List (List String)} {rest : List (AwsCall PyVal)}
    (hlist : lmb.listLayers = pages.map pure ++ rest)
    (hpages : List.Forall₂ LayersPage pages namess) :
    lambdaLayerExists lmb (.str n) =
      if n ∈ namess.flatten then .ok (true, "healthy")
      else lambdaLayerExists { lmb with listLayers := rest } (.str n) := by
  have hsearch : ∀ page names, LayersPage page names → (do
        let layers ← (← page.getD "Layers" (.list [])).iter
        let hit ← layers.anyM fun layer => do pure ((← layer.item "LayerName").pyEq (.str n))
        pure (if hit then some () else none) : Except String (Option Unit)) =
      .ok (if n ∈ names then some () else none) := by
    rintro page names ⟨layers, hl, hfa⟩
    have hhit : layers.anyM (fun layer => do pure ((← layer.item "LayerName").pyEq (.str n))) =
        .ok (names.any (· == n)) :=
      anyM_eq_ok_of_forall₂ (hfa.imp fun _ _ ⟨kvs, h, hn⟩ => by
        subst h; simp only [PyVal.item, hn]; rfl)
    simp only [hl, ok_bind, PyVal.iter_list, hhit]
    congr 2
    simp only [List.any_eq_true, beq_iff_eq, exists_eq_right]
  rw [lambdaLayerExists, hlist,
    pageSearch_append (List.forall₂_map_right_iff.mpr (hpages.imp hsearch)), findSome?_mem_flatten]
  split_ifs <;> rfl

/-- The second page lists `CommonUtils`: the layer is found, and the throttled fetch after that
page is never made. -/
theorem lambdaLayerExists_pages_example :
    let page₁ := PyVal.dict [("Layers", .list [.dict [("LayerName", .str "Other")]])]
    let page₂ := PyVal.dict [("Layers", .list [.dict [("LayerName", .str "CommonUtils")]])]
    let throttled : AwsCall PyVal := throw ⟨"ThrottlingException", "Rate exceeded"⟩
    let lmb : LambdaClient := ⟨fun _ => pure .none, fun _ _ => pure .none, fun _ => pure .none,
      [pure page₁, pure page₂, throttled], fun _ _ => pure .none⟩
    (lmb.listLayers = [page₁, page₂].map pure ++ [throttled] ∧
        List.Forall₂ LayersPage [page₁, page₂] [["Other"], ["CommonUtils"]]) ∧
      lambdaLayerExists lmb (.str "CommonUtils") = .ok (true, "healthy") := by
  intro page₁ page₂ throttled lmb
  have hlist : lmb.listLayers = [page₁, page₂].map pure ++ [throttled] := rfl
  have hpages : List.Forall₂ LayersPage [page₁, page₂] [["Other"], ["CommonUtils"]] :=
    .cons ⟨_, rfl, .cons ⟨_, rfl, rfl⟩ .nil⟩ (.cons ⟨_, rfl, .cons ⟨_, rfl, rfl⟩ .nil⟩ .nil)
  refine ⟨⟨hlist, hpages⟩, ?_⟩
  rw [lambdaLayerExists_pages hlist hpages, if_pos (by decide)]

/-! ## §3 — `validate_alarms` -/

/-- A page of `describe_alarms` whose `MetricAlarms` are `alarms`. -/
def AlarmsPage (page : PyVal) (alarms : List PyVal) : Prop :=
  ∃ kvs, page = .dict kvs ∧ kvs.lookup "MetricAlarms" = some (.list alarms)

/-- An alarm in the state `state`. -/
def AlarmState (alarm : PyVal) (state : String) : Prop :=
  ∃ kvs, alarm = .dict kvs ∧ kvs.lookup "StateValue" = some (.str state)

theorem findSome?_map_head? {α : Type} :
    ∀ xss : List (List α), (xss.map List.head?).findSome? id = xss.flatten.head?
  | [] => rfl
  | [] :: xss => findSome?_map_head? xss
  | (_ :: _) :: _ => rfl

/-- **The first alarm returned decides, and `INSUFFICIENT_DATA` counts as healthy.** For every
alarm entry named `n` whose `describe_alarms` listing starts with answered pages: the first alarm of
the first page that lists any decides, before any later fetch is made; it is healthy exactly when
its state is `OK` or `INSUFFICIENT_DATA`. When those pages list no alarm, the fetches after them
decide. -/
theorem alarmItem_pages {describeAlarms : PyVal → List (AwsCall PyVal)} {n : String}
    {pages : List PyVal} {alarmss : List (List PyVal)} {states : List String}
    {rest : List (AwsCall PyVal)} (hfetch : describeAlarms (.str n) = pages.map pure ++ rest)
    (hpages : List.Forall₂ AlarmsPage pages alarmss)
    (hstates : List.Forall₂ AlarmState alarmss.flatten states) {alarmConfig : PyVal}
    (hname : alarmConfig.item "name" = .ok (.str n)) :
    alarmItem describeAlarms alarmConfig =
      match states.head? with
      | none => alarmItem (fun _ => rest) alarmConfig
      | some s =>
        .ok (if s = "OK" ∨ s = "INSUFFICIENT_DATA" then resourceItem (.str n) 200 "healthy"
          else resourceItem (.str n) 500 ("Alarm in ALARM state: " ++ n)) := by
  have hsearch : ∀ page alarms, AlarmsPage page alarms → (do
        let alarms ← page.item "MetricAlarms"
        if alarms.truthy then some <$> alarms.first else pure none : Except String (Option PyVal)) =
      .ok alarms.head? := by
    rintro page alarms ⟨kvs, rfl, hl⟩
    cases alarms <;> simp only [PyVal.item, hl, ok_bind] <;> rfl
  simp only [alarmItem, hname, ok_bind, alarmExists]
  rw [hfetch, pageSearch_append (List.forall₂_map_right_iff.mpr (hpages.imp hsearch)),
    findSome?_map_head?]
  generalize alarmss.flatten = flat at hstates ⊢
  cases hstates with
  | nil => rfl
  | @cons _ s _ _ h _ =>
    obtain ⟨kvs, rfl, hs⟩ := h
    have htr : (PyVal.dict kvs).truthy = true := by cases kvs; cases hs; rfl
    simp only [List.head?_cons, tryCall_pure, pure_bind, htr, Bool.not_true,
      Bool.false_eq_true, if_false, ok_bind, PyVal.getD_dict, hs, Option.getD_some, PyVal.contains,
      List.any_cons, List.any_nil, PyVal.pyEq_str, Bool.or_false, PyVal.toStr_str]
    have hcond : ((s == "OK" || s == "INSUFFICIENT_DATA") = true) ↔
        (s = "OK" ∨ s = "INSUFFICIENT_DATA") := by
      simp only [Bool.or_eq_true, beq_iff_eq]
    simp only [hcond]
    split_ifs <;> rfl

/-- An empty first page is passed over, and an alarm without enough data is healthy. -/
theorem alarmItem_pages_example :
    let page₁ := PyVal.dict [("MetricAlarms", .list [])]
    let alarm := PyVal.dict [("AlarmName", .str "ScvLambdaErrors"),
      ("StateValue", .str "INSUFFICIENT_DATA")]
    let page₂ := PyVal.dict [("MetricAlarms", .list [alarm])]
    let describeAlarms : PyVal → List (AwsCall PyVal) := fun _ => [pure page₁, pure page₂]
    let alarmConfig := PyVal.dict [("name", .str "ScvLambdaErrors")]
    (describeAlarms (.str "ScvLambdaErrors") = [page₁, page₂].map pure ++ [] ∧
        List.Forall₂ AlarmsPage [page₁, page₂] [[], [alarm]] ∧
        List.Forall₂ AlarmState [[], [alarm]].flatten ["INSUFFICIENT_DATA"] ∧
        alarmConfig.item "name" = .ok (.str "ScvLambdaErrors")) ∧
      alarmItem describeAlarms alarmConfig =
        .ok (resourceItem (.str "ScvLambdaErrors") 200 "healthy") := by
  intro page₁ alarm page₂ describeAlarms alarmConfig
  have hfetch : describeAlarms (.str "ScvLambdaErrors") = [page₁, page₂].map pure ++ [] := rfl
  have hpages : List.Forall₂ AlarmsPage [page₁, page₂] [[], [alarm]] :=
    .cons ⟨_, rfl, rfl⟩ (.cons ⟨_, rfl, rfl⟩ .nil)
  have hstates : List.Forall₂ AlarmState [[], [alarm]].flatten ["INSUFFICIENT_DATA"] :=
    .cons ⟨_, rfl, rfl⟩ .nil
  have hname : alarmConfig.item "name" = .ok (.str "ScvLambdaErrors") := rfl
  refine ⟨⟨hfetch, hpages, hstates, hname⟩, ?_⟩
  rw [alarmItem_pages hfetch hpages hstates hname]
  exact congrArg Except.ok (if_pos (.inr rfl))

/-! ## §4 — `validate_kinesis` reads every page -/

/-- A page of `list_streams` listing the streams `names`. -/
def StreamsPage (page : PyVal) (names : List String) : Prop :=
  page.getD "StreamNames" (.list []) = .ok (.list (names.map .str))

theorem streamNames_answered :
    ∀ {pages : List PyVal} {namess : List (List String)}, List.Forall₂ StreamsPage pages namess →
      streamNames (pages.map pure) = pure (namess.flatten.map .str)
  | [], [], .nil => rfl
  | _ :: _, _ :: _, .cons h hs => by
    unfold StreamsPage at h
    rw [List.map_cons, streamNames]
    simp only [ExceptT.run_pure, pure_bind, h, ok_bind, PyVal.iter_list, mapM_hashable_str,
      streamNames_answered hs, List.flatten_cons, List.map_append]
    rfl

theorem kinesisStreamExists_str (n : String) (names : List String) :
    kinesisStreamExists (.str n) (names.map .str) =
      .ok (if n ∈ names then (true, "healthy") else (false, "Kinesis stream missing: " ++ n)) := by
  simp only [kinesisStreamExists, PyVal.hashable, ok_bind, PyVal.contains_list_str,
    decide_eq_true_eq]
  split_ifs <;> rfl

/-- **Every page of the stream listing counts.** For every listing whose pages answer and every
configuration whose `KinesisStreams` entries are named, `validate_kinesis` reports one item per
entry, in order, healthy exactly when some page lists the stream — a stream listed only on a later
page is found. -/
theorem validateKinesis_listed {pages : List PyVal} {namess : List (List String)}
    (hpages : List.Forall₂ StreamsPage pages namess) {cfg : PyVal} {entries : List PyVal}
    {ns : List String} (hcfg : sectionEntries cfg "KinesisStreams" = .ok entries)
    (hnames : List.Forall₂ (fun entry n => entry.item "name" = .ok (.str n)) entries ns) :
    validateKinesis (pages.map pure) cfg =
      .ok (.dict [("ResourceType", .str "Kinesis Stream"), ("DetailedHealthCheck",
        .list (ns.map fun n => if n ∈ namess.flatten then resourceItem (.str n) 200 "healthy"
          else resourceItem (.str n) 500 ("Kinesis stream missing: " ++ n)))]) := by
  have hitems : entries.mapM (kinesisItem (namess.flatten.map .str)) =
      .ok (ns.map fun n => if n ∈ namess.flatten then resourceItem (.str n) 200 "healthy"
          else resourceItem (.str n) 500 ("Kinesis stream missing: " ++ n)) :=
    mapM_eq_ok_of_forall₂ (List.forall₂_map_right_iff.mpr (hnames.imp fun _ n h => by
      simp only [kinesisItem, h, ok_bind, kinesisStreamExists_str, combineResults_single]
      split_ifs <;> rfl))
  rw [validateKinesis, streamNames_answered hpages, tryCall_pure, hcfg, ok_bind, hitems]
  rfl

/-- A stream listed on the second page only is found; one no page lists is reported missing. -/
theorem validateKinesis_listed_example :
    let page₁ := PyVal.dict [("StreamNames", .list [.str "ctr-stream"])]
    let page₂ := PyVal.dict [("StreamNames", .list [.str "lens-stream"])]
    let entries := [PyVal.dict [("name", .str "lens-stream")], .dict [("name", .str "gone-stream")]]
    let cfg := PyVal.dict [("KinesisStreams", .list entries)]
    (List.Forall₂ StreamsPage [page₁, page₂] [["ctr-stream"], ["lens-stream"]] ∧
        sectionEntries cfg "KinesisStreams" = .ok entries ∧
        List.Forall₂ (fun entry n => entry.item "name" = .ok (.str n)) entries
          ["lens-stream", "gone-stream"]) ∧
      validateKinesis ([page₁, page₂].map pure) cfg =
        .ok (.dict [("ResourceType", .str "Kinesis Stream"), ("DetailedHealthCheck",
          .list [resourceItem (.str "lens-stream") 200 "healthy",
            resourceItem (.str "gone-stream") 500 "Kinesis stream missing: gone-stream"])]) := by
  intro page₁ page₂ entries cfg
  have hpages : List.Forall₂ StreamsPage [page₁, page₂] [["ctr-stream"], ["lens-stream"]] :=
    .cons rfl (.cons rfl .nil)
  have hcfg : sectionEntries cfg "KinesisStreams" = .ok entries := rfl
  have hnames : List.Forall₂ (fun entry n => entry.item "name" = .ok (.str n)) entries
      ["lens-stream", "gone-stream"] := .cons rfl (.cons rfl .nil)
  refine ⟨⟨hpages, hcfg, hnames⟩, ?_⟩
  rw [validateKinesis_listed hpages hcfg hnames]
  rfl

/-! ## §5 — `validate_kms_aliases` -/

/-- An alias of `list_aliases` named `entry.1`, with the target key `entry.2` if it has one. -/
def AliasEntry (aliasItem : PyVal) (entry : String × Option String) : Prop :=
  ∃ kvs, aliasItem = .dict kvs ∧ kvs.lookup "AliasName" = some (.str entry.1) ∧
    kvs.lookup "TargetKeyId" = entry.2.map .str

/-- A page of `list_aliases` listing the aliases `entries`. -/
def AliasesPage (page : PyVal) (entries : List (String × Option String)) : Prop :=
  ∃ aliases, page.getD "Aliases" (.list []) = .ok (.list aliases) ∧
    List.Forall₂ AliasEntry aliases entries

/-- What `get_alias_target` reads as an alias's target: `TargetKeyId`, or `None`. -/
def targetOf (entry : String × Option String) : PyVal :=
  (entry.2.map PyVal.str).getD .none

theorem aliasTarget_entries (n : String) :
    ∀ {aliases : List PyVal} {entries : List (String × Option String)},
      List.Forall₂ AliasEntry aliases entries →
      aliasTarget (.str n) aliases = .ok ((entries.find? (·.1 == n)).map targetOf)
  | [], [], .nil => rfl
  | _ :: _, e :: _, .cons ⟨kvs, h, hn, ht⟩ hs => by
    subst h
    simp only [aliasTarget, PyVal.getD_dict, hn, ht, Option.getD_some, ok_bind, PyVal.pyEq_str,
      List.find?_cons]
    by_cases hb : (e.1 == n) = true
    · simp only [hb, if_true]; rfl
    · simp only [Bool.eq_false_iff.mpr hb, Bool.false_eq_true, if_false]
      exact aliasTarget_entries n hs

theorem findSome?_map_find? {α β : Type} (p : α → Bool) (g : α → β) :
    ∀ xss : List (List α),
      (xss.map fun xs => (xs.find? p).map g).findSome? id = (xss.flatten.find? p).map g
  | [] => rfl
  | xs :: xss => by
    rw [List.map_cons, List.findSome?_cons, List.flatten_cons, List.find?_append]
    cases xs.find? p
    · exact findSome?_map_find? p g xss
    · rfl

theorem getAliasTarget_pages {kms : KmsClient} {n : String} {pages : List PyVal}
    {entriess : List (List (String × Option String))} {rest : List (AwsCall PyVal)}
    (hlist : kms.listAliases = pages.map pure ++ rest)
    (hpages : List.Forall₂ AliasesPage pages entriess) :
    getAliasTarget kms (.str n) =
      match entriess.flatten.find? (·.1 == n) with
      | none => getAliasTarget { kms with listAliases := rest } (.str n)
      | some e => .ok (if (targetOf e).truthy then (targetOf e, "Alias exists and has a target key.")
          else (.none, "KMS alias exists but has no target key: " ++ n)) := by
  have hsearch : ∀ page entries, AliasesPage page entries →
      (do aliasTarget (.str n) (← (← page.getD "Aliases" (.list [])).iter) :
        Except String (Option PyVal)) = .ok ((entries.find? (·.1 == n)).map targetOf) := by
    rintro page entries ⟨aliases, hl, hfa⟩
    simp only [hl, ok_bind, PyVal.iter_list, aliasTarget_entries n hfa]
  rw [getAliasTarget, hlist,
    pageSearch_append (List.forall₂_map_right_iff.mpr (hpages.imp hsearch)), findSome?_map_find?]
  cases entriess.flatten.find? (·.1 == n) with
  | none => rfl
  | some e =>
    simp only [Option.map_some', tryCall_pure]
    split_ifs <;> rfl

/-- **The first alias of the name decides the KMS check.** For every KMS client whose alias listing
starts with answered pages, and every entry named `n`: the first alias named `n` over those pages
decides, before any later fetch is made. Without a target key the entry fails; with one, the item
is `combine_results` of `key_is_enabled` on that key. A name those pages do not list is left to
the fetches after them. -/
theorem kmsAliasItem_pages {kms : KmsClient} {n : String} {pages : List PyVal}
    {entriess : List (List (String × Option String))} {rest : List (AwsCall PyVal)}
    (hlist : kms.listAliases = pages.map pure ++ rest)
    (hpages : List.Forall₂ AliasesPage pages entriess) {aliasConfig : PyVal}
    (hname : aliasConfig.item "name" = .ok (.str n)) :
    kmsAliasItem kms aliasConfig =
      match entriess.flatten.find? (·.1 == n) with
      | none => kmsAliasItem { kms with listAliases := rest } aliasConfig
      | some (_, some t) =>
        if t = "" then
          .ok (resourceItem (.str n) 500 ("KMS alias exists but has no target key: " ++ n))
        else (fun r => combineResults (.str n) [r]) <$> keyIsEnabled kms (.str t)
      | some (_, none) =>
        .ok (resourceItem (.str n) 500 ("KMS alias exists but has no target key: " ++ n)) := by
  simp only [kmsAliasItem, hname, ok_bind]
  rw [getAliasTarget_pages hlist hpages]
  generalize entriess.flatten.find? (·.1 == n) = found
  rcases found with _ | ⟨_, _ | t⟩
  · rfl
  · rfl
  · by_cases ht : t = ""
    · subst ht; rfl
    · have htr : (t != "") = true := bne_iff_ne.mpr ht
      simp only [targetOf, Option.map_some', Option.getD_some, PyVal.truthy, htr, if_true,
        ok_bind, Bool.not_true, Bool.false_eq_true, if_false, if_neg ht]
      cases keyIsEnabled kms (.str t) <;> rfl

/-- The alias is listed on the second page with an enabled key: the entry is healthy. -/
theorem kmsAliasItem_pages_example :
    let page₁ := PyVal.dict [("Aliases", .list [.dict [("AliasName", .str "alias/other"),
      ("TargetKeyId", .str "key-0")]])]
    let page₂ := PyVal.dict [("Aliases", .list [.dict [("AliasName", .str "alias/scv"),
      ("TargetKeyId", .str "key-1")]])]
    let kms : KmsClient := ⟨[pure page₁, pure page₂], fun _ => pure (.dict [("KeyMetadata",
      .dict [("Enabled", .bool true), ("KeyState", .str "Enabled")])])⟩
    let aliasConfig := PyVal.dict [("name", .str "alias/scv")]
    (kms.listAliases = [page₁, page₂].map pure ++ [] ∧
        List.Forall₂ AliasesPage [page₁, page₂]
          [[("alias/other", some "key-0")], [("alias/scv", some "key-1")]] ∧
        aliasConfig.item "name" = .ok (.str "alias/scv")) ∧
      kmsAliasItem kms aliasConfig = .ok (resourceItem (.str "alias/scv") 200 "healthy") := by
  intro page₁ page₂ kms aliasConfig
  have hlist : kms.listAliases = [page₁, page₂].map pure ++ [] := rfl
  have hpages : List.Forall₂ AliasesPage [page₁, page₂]
      [[("alias/other", some "key-0")], [("alias/scv", some "key-1")]] :=
    .cons ⟨_, rfl, .cons ⟨_, rfl, rfl, rfl⟩ .nil⟩ (.cons ⟨_, rfl, .cons ⟨_, rfl, rfl, rfl⟩ .nil⟩ .nil)
  have hname : aliasConfig.item "name" = .ok (.str "alias/scv") := rfl
  refine ⟨⟨hlist, hpages, hname⟩, ?_⟩
  rw [kmsAliasItem_pages hlist hpages hname]
  rfl

/-! ## §6 — the check of one function of `validate_lambdas` -/

/-- The alias check passes when the entry names no alias, or `get_alias` finds the one it
names. -/
theorem aliasResults_passes {lmb : LambdaClient} {kvs : List (String × PyVal)} {name : PyVal}
    (halias : ∀ a, kvs.lookup "alias" = some a →
      (∃ r, lmb.getAlias name a = pure r) ∨ ∃ e, lmb.getAlias name a = throw e) :
    ∃ rs, aliasResults lmb (.dict kvs) name = .ok rs ∧
      (rs.all (·.1) = true ↔
        ∀ a, kvs.lookup "alias" = some a → ∃ r, lmb.getAlias name a = pure r) := by
  cases hl : kvs.lookup "alias" with
  | none =>
    refine ⟨[], ?_, iff_of_true rfl fun _ h => nomatch h⟩
    simp only [aliasResults, PyVal.contains, hl, Option.isSome_none]
    rfl
  | some a =>
    have hrun : aliasResults lmb (.dict kvs) name = (fun r => [r]) <$> aliasExists lmb name a := by
      simp only [aliasResults, PyVal.contains, hl, Option.isSome_some, PyVal.item, ok_bind,
        if_true]
      cases aliasExists lmb name a <;> rfl
    rcases halias a hl with ⟨r, hr⟩ | ⟨e, he⟩
    · refine ⟨_, by rw [hrun, aliasExists, hr, tryCall_pure]; rfl, ?_⟩
      exact iff_of_true rfl fun _ h => Option.some.inj h ▸ ⟨r, hr⟩
    · refine ⟨_, by rw [hrun, aliasExists, he, tryCall_throw]; rfl, ?_⟩
      refine iff_of_false Bool.false_ne_true fun h => ?_
      obtain ⟨r, hr⟩ := h a rfl
      rw [he] at hr
      cases hr

/-- **What decides a Lambda function's item.** For every function that `get_function` finds, whose
configuration names the role `actualRole` and lists layers with string ARNs, and every entry that
expects string layer names and the role `expectedRole` (an alias it names being found or answered
by a `ClientError`): `validate_lambdas` reports one item, healthy exactly when the alias exists,
each expected layer name is a substring of an attached ARN, and no role is expected or the roles
agree after their last `/` — the account and path of the expected role are never compared. -/
theorem functionItems_verdict {lmb : LambdaClient} {name : String} {kvs : List (String × PyVal)}
    {resp fnCfg : PyVal} {arns expected : List String} {actualRole expectedRole : String}
    (hfn : lmb.getFunction (.str name) = pure resp)
    (hrole : resp.item "Configuration" >>= (·.item "Role") = .ok (.str actualRole))
    (hcfg : lmb.getFunctionConfiguration (.str name) = pure fnCfg)
    (harns : AttachedArns fnCfg arns)
    (hlayers : (PyVal.dict kvs).getD "layers" (.list []) = .ok (.list (expected.map .str)))
    (hexpected : (PyVal.dict kvs).getD "execution_role" .none = .ok (.str expectedRole))
    (halias : ∀ a, kvs.lookup "alias" = some a →
      (∃ r, lmb.getAlias (.str name) a = pure r) ∨ ∃ e, lmb.getAlias (.str name) a = throw e) :
    ∃ item, functionItems lmb (.dict kvs) (.str name) = .ok [item] ∧
      (itemStatus item = 200 ↔
        (∀ a, kvs.lookup "alias" = some a → ∃ r, lmb.getAlias (.str name) a = pure r) ∧
        (∀ l ∈ expected, ∃ arn ∈ arns, l.toList <:+: arn.toList) ∧
        (expectedRole = "" ∨ roleName actualRole = roleName expectedRole)) := by
  obtain ⟨rs, hrs, hall⟩ := aliasResults_passes halias
  obtain ⟨lr, hlr, hl1⟩ := map_eq_ok.mp (layersAttached_passes hcfg harns expected)
  obtain ⟨rr, hrr, hr1⟩ := map_eq_ok.mp (lambdaRoleCorrect_passes hfn hrole expectedRole)
  refine ⟨combineResults (.str name) (rs ++ [lr, rr]), ?_, ?_⟩
  · simp only [functionItems, lambdaExists, hfn, tryCall_pure, ok_bind, Bool.not_true,
      Bool.false_eq_true, if_false, hrs, hlayers, hlr, hexpected, hrr]
    rfl
  · rw [itemStatus_combineResults, List.all_append, ← hall]
    simp only [List.all_cons, List.all_nil, hl1, hr1, Bool.and_true, Bool.and_eq_true,
      decide_eq_true_eq]
    split_ifs with h
    · exact iff_of_true rfl h
    · exact iff_of_false (by decide) h

/-- A function whose role lives in another account, under another path, but ends in the expected
name, and whose layer `CommonUtils` contains the expected `Common`, is reported healthy. -/
theorem functionItems_verdict_example :
    let resp := PyVal.dict [("Configuration", .dict [("Role",
      .str "arn:aws:iam::123456789012:role/ScvRole")])]
    let fnCfg := PyVal.dict [("Layers", .list [.dict [("Arn",
      .str "arn:aws:lambda:us-west-2:123456789012:layer:CommonUtils:3")]])]
    let lmb : LambdaClient := ⟨fun _ => pure resp,
      fun _ _ => throw ⟨"ResourceNotFoundException", "Alias not found"⟩, fun _ => pure fnCfg, [],
      fun _ _ => pure .none⟩
    let kvs := [("name", PyVal.str "Fn"), ("layers", .list [.str "Common"]),
      ("execution_role", .str "arn:aws:iam::999999999999:role/ops/ScvRole")]
    (lmb.getFunction (.str "Fn") = pure resp ∧
        resp.item "Configuration" >>= (·.item "Role") =
          .ok (.str "arn:aws:iam::123456789012:role/ScvRole") ∧
        lmb.getFunctionConfiguration (.str "Fn") = pure fnCfg ∧
        AttachedArns fnCfg ["arn:aws:lambda:us-west-2:123456789012:layer:CommonUtils:3"] ∧
        (PyVal.dict kvs).getD "layers" (.list []) = .ok (.list (["Common"].map .str)) ∧
        (PyVal.dict kvs).getD "execution_role" .none =
          .ok (.str "arn:aws:iam::999999999999:role/ops/ScvRole")) ∧
      ∃ item, functionItems lmb (.dict kvs) (.str "Fn") = .ok [item] ∧ itemStatus item = 200 := by
  intro resp fnCfg lmb kvs
  have hfn : lmb.getFunction (.str "Fn") = pure resp := rfl
  have hrole : resp.item "Configuration" >>= (·.item "Role") =
      .ok (.str "arn:aws:iam::123456789012:role/ScvRole") := rfl
  have hcfg : lmb.getFunctionConfiguration (.str "Fn") = pure fnCfg := rfl
  have harns : AttachedArns fnCfg ["arn:aws:lambda:us-west-2:123456789012:layer:CommonUtils:3"] :=
    ⟨_, rfl, .cons ⟨_, rfl, rfl⟩ .nil⟩
  have hlayers : (PyVal.dict kvs).getD "layers" (.list []) = .ok (.list (["Common"].map .str)) :=
    rfl
  have hexpected : (PyVal.dict kvs).getD "execution_role" .none =
      .ok (.str "arn:aws:iam::999999999999:role/ops/ScvRole") := rfl
  have halias : ∀ a, kvs.lookup "alias" = some a →
      (∃ r, lmb.getAlias (.str "Fn") a = pure r) ∨ ∃ e, lmb.getAlias (.str "Fn") a = throw e :=
    fun _ h => nomatch h
  obtain ⟨item, hitem, hstatus⟩ :=
    functionItems_verdict hfn hrole hcfg harns hlayers hexpected halias
  refine ⟨⟨hfn, hrole, hcfg, harns, hlayers, hexpected⟩, item, hitem, hstatus.mpr ?_⟩
  refine ⟨fun _ h => (nomatch h), fun l hl => ?_, .inr (by decide)⟩
  rw [List.mem_singleton.mp hl]
  exact ⟨_, List.mem_singleton_self _,
    ⟨"arn:aws:lambda:us-west-2:123456789012:layer:".toList, "Utils:3".toList, rfl⟩⟩

end HealthCheck
