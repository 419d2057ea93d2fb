import HealthCheck.Python.Text

/-!
# HealthCheck — the Connect instance ARN

`parse_input_parameters` (`models/input_parser.py`) builds the Connect instance ARN from
`CONNECT_INSTANCE_ID`, `AWS_REGION`, the account STS reports and a partition read off the region,
and hands it straight to `parse_connect_instance_arn` (`utils/arn_utils.py`), whose four groups
become the account, partition, region and instance id of the run.

`arnPatternMatch` is `re.match` of `^arn:([^:]+):connect:([^:]+):([^:]+):instance/(.+)$`: a group
`([^:]+)` is the maximal run before the next `:` (a shorter run leaves a non-colon where the
pattern wants `:`), and `(.+)$` is the maximal run without a newline, which `$` accepts at the end
of the text or before one final newline. `uuidMatch` is `re.match` of the UUID pattern, whose `$`
also accepts one final newline.

The headline, `parseConnectInstanceArn_connectInstanceArn`: the parser decodes what the builder
writes, for every partition, region and account without `:` and every UUID.
-/

namespace HealthCheck

/-! ## §1 — maximal runs -/

/-- `l` with the prefix `pre` removed, if `l` starts with it. -/
def stripPrefix? (pre l : List Char) : Option (List Char) :=
  if pre.isPrefixOf l then some (l.drop pre.length) else none

@[simp] theorem stripPrefix?_append (pre l : List Char) : stripPrefix? pre (pre ++ l) = some l := by
  simp [stripPrefix?, List.isPrefixOf_iff_prefix]

@[simp] theorem stripPrefix?_cons_append (c : Char) (pre l : List Char) :
    stripPrefix? (c :: pre) (c :: (pre ++ l)) = some l := stripPrefix?_append (c :: pre) l

@[simp] theorem stripPrefix?_singleton (c : Char) (l : List Char) :
    stripPrefix? [c] (c :: l) = some l := stripPrefix?_append [c] l

/-- A run of characters satisfying `p`, stopped by one that does not. -/
theorem takeWhile_append_stop {p : Char → Bool} {w rest : List Char} {c : Char}
    (hw : ∀ x ∈ w, p x = true) (hc : p c = false) : (w ++ c :: rest).takeWhile p = w := by
  induction w with
  | nil => simp [List.takeWhile_cons, hc]
  | cons x xs ih =>
    simp only [List.cons_append, List.takeWhile_cons, hw x (List.mem_cons_self x xs), if_true]
    rw [ih fun y hy => hw y (List.mem_cons_of_mem x hy)]

/-- A run of characters satisfying `p` up to the end of the text. -/
theorem takeWhile_of_all {p : Char → Bool} {w : List Char} (hw : ∀ x ∈ w, p x = true) :
    w.takeWhile p = w := List.takeWhile_eq_self_iff.mpr hw

/-! ## §2 — the parser -/

/-- A character of `[^:]`. -/
def notColon (c : Char) : Bool := c != ':'

/-- The groups of `^arn:([^:]+):connect:([^:]+):([^:]+):instance/(.+)$`, if it matches. -/
def arnPatternMatch (arn : List Char) : Option (List Char × List Char × List Char × List Char) := do
  let s₁ ← stripPrefix? "arn:".toList arn
  let partition := s₁.takeWhile notColon
  guard (partition ≠ [])
  let s₂ ← stripPrefix? ":connect:".toList (s₁.drop partition.length)
  let region := s₂.takeWhile notColon
  guard (region ≠ [])
  let s₃ ← stripPrefix? ":".toList (s₂.drop region.length)
  let accountId := s₃.takeWhile notColon
  guard (accountId ≠ [])
  let s₄ ← stripPrefix? ":instance/".toList (s₃.drop accountId.length)
  let instanceId := s₄.takeWhile (· != '\n')
  guard (instanceId ≠ [])
  guard (s₄.drop instanceId.length = [] ∨ s₄.drop instanceId.length = ['\n'])
  pure (partition, region, accountId, instanceId)

def isHexDigit (c : Char) : Bool :=
  ('0' ≤ c && c ≤ '9') || ('a' ≤ c && c ≤ 'f') || ('A' ≤ c && c ≤ 'F')

/-- `l` past a run of exactly `n` hex digits. -/
def stripHex : Nat → List Char → Option (List Char)
  | 0, l => some l
  | n + 1, c :: l => if isHexDigit c then stripHex n l else none
  | _ + 1, [] => none

/-- What follows a UUID's five hex groups at the head of `l`, if they are there. -/
def stripUuid (l : List Char) : Option (List Char) := do
  let l ← stripHex 8 l
  let l ← stripPrefix? ['-'] l
  let l ← stripHex 4 l
  let l ← stripPrefix? ['-'] l
  let l ← stripHex 4 l
  let l ← stripPrefix? ['-'] l
  let l ← stripHex 4 l
  let l ← stripPrefix? ['-'] l
  stripHex 12 l

/-- `re.match('^[0-9a-fA-F]{8}-…-[0-9a-fA-F]{12}$', instance_id)`. -/
def uuidMatch (instanceId : List Char) : Bool :=
  match stripUuid instanceId with
  | some [] | some ['\n'] => true
  | _ => false

/-- A UUID: five groups of 8, 4, 4, 4 and 12 hex digits joined by `-`, and nothing else. -/
def IsUuid (instanceId : String) : Prop := stripUuid instanceId.toList = some []

instance (s : String) : Decidable (IsUuid s) := inferInstanceAs (Decidable (_ = _))

/-- What `parse_connect_instance_arn` returns. -/
structure ArnComponents where
  partition : String
  region : String
  accountId : String
  instanceId : String
  deriving DecidableEq

def parseConnectInstanceArn (arn : String) : Except String ArnComponents :=
  if arn = "" then .error "ARN cannot be empty"
  else
    match arnPatternMatch arn.toList with
    | none => .error ("Invalid Connect instance ARN format: " ++ arn)
    | some (partition, region, accountId, instanceId) =>
      if partition = [] then .error "Partition cannot be empty in ARN"
      else if region = [] then .error "Region cannot be empty in ARN"
      else if accountId = [] then .error "Account ID cannot be empty in ARN"
      else if instanceId = [] then .error "Instance ID cannot be empty in ARN"
      else if !uuidMatch instanceId then
        .error ("Invalid Connect instance ID format: " ++ String.mk instanceId)
      else .ok ⟨String.mk partition, String.mk region, String.mk accountId, String.mk instanceId⟩

/-- The groups the parser returns are never empty. -/
theorem parseConnectInstanceArn_fields {arn : String} {c : ArnComponents}
    (h : parseConnectInstanceArn arn = .ok c) :
    c.partition ≠ "" ∧ c.region ≠ "" ∧ c.accountId ≠ "" ∧ c.instanceId ≠ "" := by
  have hmk : ∀ {l : List Char}, l ≠ [] → String.mk l ≠ "" := fun hl he => hl (congrArg String.data he)
  unfold parseConnectInstanceArn at h
  -- the emptiness test, the pattern, the four group tests and the UUID test each raise
  iterate 7 (split at h; · cases h)
  rename_i h₁ h₂ h₃ h₄ _
  cases h
  exact ⟨hmk h₁, hmk h₂, hmk h₃, hmk h₄⟩

/-- The ARN `parse_input_parameters` builds:
`f"arn:{partition}:connect:{region}:{account_id}:instance/{connect_instance_id}"`. -/
def connectInstanceArn (partition region accountId instanceId : String) : String :=
  "arn:" ++ partition ++ ":connect:" ++ region ++ ":" ++ accountId ++ ":instance/" ++ instanceId

/-! ## §3 — the round trip -/

/-- A field the builder writes between two `:`, as the parser needs it. -/
def ArnField (s : String) : Prop := s ≠ "" ∧ ':' ∉ s.toList

theorem ArnField.run {s : String} (h : ArnField s) : ∀ x ∈ s.toList, notColon x = true :=
  fun x hx => by simpa [notColon] using fun hc : x = ':' => h.2 (hc ▸ hx)

theorem ArnField.ne_nil {s : String} (h : ArnField s) : s.toList ≠ [] := fun hs =>
  h.1 (by cases s; simp_all [String.toList])

/-- What `stripHex` passes over are hex digits. -/
theorem stripHex_eq_some {n : Nat} {l l' : List Char} (h : stripHex n l = some l') :
    ∃ pre, l = pre ++ l' ∧ ∀ x ∈ pre, isHexDigit x = true := by
  induction n generalizing l with
  | zero => cases h; exact ⟨[], rfl, by simp⟩
  | succ n ih =>
    cases l with
    | nil => cases h
    | cons c l =>
      simp only [stripHex] at h
      split at h
      · obtain ⟨pre, rfl, hpre⟩ := ih h
        exact ⟨c :: pre, rfl, by simp_all⟩
      · cases h

theorem stripPrefix?_eq_some {pre l l' : List Char} (h : stripPrefix? pre l = some l') :
    l = pre ++ l' := by
  unfold stripPrefix? at h
  split at h
  · cases h
    exact (List.prefix_iff_eq_append.mp (List.isPrefixOf_iff_prefix.mp ‹_›)).symm
  · cases h

/-- A UUID holds no newline: `stripUuid` passes over hex digits and dashes only. -/
theorem IsUuid.no_newline {s : String} (h : IsUuid s) : ∀ x ∈ s.toList, (x != '\n') = true := by
  have hex : ∀ {n l l'}, stripHex n l = some l' → (∀ x ∈ l', (x != '\n') = true) →
      ∀ x ∈ l, (x != '\n') = true := fun h hl' => by
    obtain ⟨pre, rfl, hpre⟩ := stripHex_eq_some h
    refine List.forall_mem_append.mpr ⟨fun x hx => ?_, hl'⟩
    simp only [bne_iff_ne, ne_eq]
    rintro rfl
    exact absurd (hpre _ hx) (by decide)
  have dash : ∀ {l l'}, stripPrefix? ['-'] l = some l' → (∀ x ∈ l', (x != '\n') = true) →
      ∀ x ∈ l, (x != '\n') = true := fun h hl' => by
    rw [stripPrefix?_eq_some h]
    exact List.forall_mem_cons.mpr ⟨rfl, hl'⟩
  have h' := h
  simp only [IsUuid, stripUuid, Option.bind_eq_bind, Option.bind_eq_some] at h'
  obtain ⟨l₁, h₁, l₂, h₂, l₃, h₃, l₄, h₄, l₅, h₅, l₆, h₆, l₇, h₇, l₈, h₈, h₉⟩ := h'
  exact hex h₁ <| dash h₂ <| hex h₃ <| dash h₄ <| hex h₅ <| dash h₆ <| hex h₇ <| dash h₈ <|
    hex h₉ (by simp)

/-- A UUID passes the parser's check. -/
theorem IsUuid.matches {s : String} (h : IsUuid s) : uuidMatch s.toList = true := by
  unfold uuidMatch; rw [h]

theorem IsUuid.ne_nil {s : String} (h : IsUuid s) : s.toList ≠ [] := by
  intro hs; rw [IsUuid, hs] at h; cases h

theorem connectInstanceArn_ne_empty (partition region accountId instanceId : String) :
    connectInstanceArn partition region accountId instanceId ≠ "" := fun h => by
  have h' := congrArg String.toList h
  simp only [connectInstanceArn, toList_append, List.append_assoc] at h'
  exact List.cons_ne_nil _ _ h'

/-- The parser's success case: a non-empty ARN whose pattern match finds four non-empty groups,
the last a UUID, is returned as those groups. -/
theorem parseConnectInstanceArn_of_match {arn : String} {partition region accountId instanceId : List Char}
    (hne : arn ≠ "")
    (hm : arnPatternMatch arn.toList = some (partition, region, accountId, instanceId))
    (hp : partition ≠ []) (hr : region ≠ []) (ha : accountId ≠ []) (hi : instanceId ≠ [])
    (hu : uuidMatch instanceId = true) :
    parseConnectInstanceArn arn =
      .ok ⟨String.mk partition, String.mk region, String.mk accountId, String.mk instanceId⟩ := by
  unfold parseConnectInstanceArn
  simp only [if_neg hne, hm, if_neg hp, if_neg hr, if_neg ha, if_neg hi, hu, Bool.not_true,
    Bool.false_eq_true, if_false]

/-- The groups `re.match` finds in the built ARN are its four fields. -/
theorem arnPatternMatch_connectInstanceArn {partition region accountId instanceId : String}
    (hp : ArnField partition) (hr : ArnField region) (ha : ArnField accountId)
    (hi : IsUuid instanceId) :
    arnPatternMatch (connectInstanceArn partition region accountId instanceId).toList =
      some (partition.toList, region.toList, accountId.toList, instanceId.toList) := by
  have e₁ : ":connect:".toList = ':' :: "connect:".toList := rfl
  have e₂ : ":".toList = [':'] := rfl
  have e₃ : ":instance/".toList = ':' :: "instance/".toList := rfl
  have hnl : instanceId.toList.takeWhile (· != '\n') = instanceId.toList :=
    takeWhile_of_all hi.no_newline
  simp only [connectInstanceArn, toList_append, List.append_assoc, arnPatternMatch,
    stripPrefix?_append, e₁, e₂, e₃, List.cons_append, List.singleton_append,
    takeWhile_append_stop (c := ':') hp.run rfl, takeWhile_append_stop (c := ':') hr.run rfl,
    takeWhile_append_stop (c := ':') ha.run rfl, List.drop_left, hnl, hp.ne_nil, hr.ne_nil, ha.ne_nil, hi.ne_nil,
    Option.bind_eq_bind, Option.some_bind, List.nil_append, ne_eq, not_false_eq_true, guard_true,
    Option.pure_def, stripPrefix?_cons_append, stripPrefix?_singleton, List.drop_length, true_or]


/-- **The parser decodes what the builder writes**: for every partition, region and account that
are non-empty and hold no `:`, and every UUID, `parse_connect_instance_arn` returns exactly the
four values the ARN was built from. -/
theorem parseConnectInstanceArn_connectInstanceArn {partition region accountId instanceId : String}
    (hp : ArnField partition) (hr : ArnField region) (ha : ArnField accountId)
    (hi : IsUuid instanceId) :
    parseConnectInstanceArn (connectInstanceArn partition region accountId instanceId) =
      .ok ⟨partition, region, accountId, instanceId⟩ :=
  parseConnectInstanceArn_of_match (connectInstanceArn_ne_empty _ _ _ _)
    (arnPatternMatch_connectInstanceArn hp hr ha hi) hp.ne_nil hr.ne_nil ha.ne_nil hi.ne_nil
    hi.matches

theorem parseConnectInstanceArn_example :
    (ArnField "aws" ∧ ArnField "us-west-2" ∧ ArnField "123456789012" ∧
      IsUuid "12345678-1234-1234-1234-123456789012") ∧
    parseConnectInstanceArn (connectInstanceArn "aws" "us-west-2" "123456789012"
        "12345678-1234-1234-1234-123456789012") =
      .ok ⟨"aws", "us-west-2", "123456789012", "12345678-1234-1234-1234-123456789012"⟩ := by
  have h : ArnField "aws" ∧ ArnField "us-west-2" ∧ ArnField "123456789012" ∧
      IsUuid "12345678-1234-1234-1234-123456789012" := by
    refine ⟨⟨?_, ?_⟩, ⟨?_, ?_⟩, ⟨?_, ?_⟩, ?_⟩ <;> decide
  exact ⟨h, parseConnectInstanceArn_connectInstanceArn h.1 h.2.1 h.2.2.1 h.2.2.2⟩

/-- Python's `$` also matches before a final newline, so an id with one matches the UUID pattern;
the ARN regex's `(.+)$` stops before that newline, and the id comes back without it. -/
theorem parseConnectInstanceArn_trailing_newline :
    let instanceId := "12345678-1234-1234-1234-123456789012\n"
    (ArnField "aws" ∧ ArnField "us-west-2" ∧ ArnField "123456789012" ∧
      uuidMatch instanceId.toList = true) ∧
    parseConnectInstanceArn (connectInstanceArn "aws" "us-west-2" "123456789012" instanceId) =
      .ok ⟨"aws", "us-west-2", "123456789012", "12345678-1234-1234-1234-123456789012"⟩ ∧
    parseConnectInstanceArn (connectInstanceArn "aws" "us-west-2" "123456789012" instanceId) ≠
      .ok ⟨"aws", "us-west-2", "123456789012", instanceId⟩ := by
  intro instanceId
  -- the instance group `(.+)$` ends before the newline
  have hm : arnPatternMatch (connectInstanceArn "aws" "us-west-2" "123456789012" instanceId).toList =
      some ("aws".toList, "us-west-2".toList, "123456789012".toList,
        "12345678-1234-1234-1234-123456789012".toList) := by decide
  have h : parseConnectInstanceArn (connectInstanceArn "aws" "us-west-2" "123456789012"
      instanceId) = .ok ⟨"aws", "us-west-2", "123456789012", "12345678-1234-1234-1234-123456789012"⟩ :=
    parseConnectInstanceArn_of_match (connectInstanceArn_ne_empty _ _ _ _) hm
      (by decide) (by decide) (by decide) (by decide) (by decide)
  refine ⟨⟨⟨by decide, by decide⟩, ⟨by decide, by decide⟩, ⟨by decide, by decide⟩, by decide⟩, h, ?_⟩
  rw [h]
  exact fun he => absurd (congrArg ArnComponents.instanceId (Except.ok.inj he)) (by decide)

end HealthCheck
