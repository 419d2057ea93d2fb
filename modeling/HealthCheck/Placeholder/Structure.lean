import HealthCheck.Placeholder.Resolve

/-!
# HealthCheck — what resolution keeps

`replace_placeholders` rewrites string leaves only. This module proves that of the model, and
finds the one way the walk can fail:

* `cleanDuplicatePrefixes_eq` — the cleanup is set up once per context (`cleanupPass`): Python
  compiles its replacement string `prefix + "-"` before it scans, so either every text goes
  through the same function, or every call raises the same `re.error`, whatever the text.
* `replacePlaceholders_sameShape` — a resolved document has the keys, the list lengths and the
  non-string scalars of the input, and a string wherever the input had one.
* `replacePlaceholders_of_pass_error` — with a prefix such as `a\q`, which is escaped for the
  pattern (`re.escape`) but not for the replacement, every string leaf raises, and so does every
  document that holds a string.
* `replacePlaceholders_plain_str` — a leaf with no token in it comes back unchanged.
-/

namespace HealthCheck

/-! ## §1 — the cleanup is set up once per context -/

/-- The pass `clean_duplicate_prefixes` makes under the context `r`: one function of the text, or
the error compiling its replacement string. -/
def cleanupPass (r : Replacements) : Except String (List Char → List Char) :=
  match cleanupPrefix r with
  | none => .ok id
  | some p =>
    (fun items => pyReplace (duplicatePrefix p) (expandTemplate items (duplicatePrefix p))) <$>
      compileTemplate (p ++ "-").toList

theorem cleanDuplicatePrefixes_eq (text : List Char) (r : Replacements) :
    cleanDuplicatePrefixes text r = (· text) <$> cleanupPass r := by
  unfold cleanDuplicatePrefixes cleanupPass
  cases cleanupPrefix r with
  | none => rfl
  | some p =>
    dsimp only
    cases compileTemplate (p ++ "-").toList <;> rfl

/-- A pass that applies is the identity on a text holding no duplicated prefix. -/
theorem cleanupPass_apply_of_not_occurs {r : Replacements} {f : List Char → List Char}
    (h : cleanupPass r = .ok f) {t : List Char}
    (ht : ∀ p, cleanupPrefix r = some p → occurs (duplicatePrefix p) t = false) : f t = t := by
  unfold cleanupPass at h
  cases hp : cleanupPrefix r with
  | none => rw [hp] at h; cases h; rfl
  | some p =>
    rw [hp] at h
    obtain ⟨items, -, rfl⟩ := map_eq_ok.mp h
    exact pyReplace_of_not_occurs _ (ht p hp)

section

variable (discover : StreamDiscovery) (r : Replacements)

/-- The text `replace_placeholders_in_string` hands to its cleanup. -/
def substituted (text : List Char) : List Char :=
  substitutePlaceholders (fixCustomResourceOutputs discover (fixMultiorgRoleReferences text r) r) r

theorem replacePlaceholdersInString_eq (text : List Char) :
    replacePlaceholdersInString discover text r = (· (substituted discover r text)) <$> cleanupPass r :=
  cleanDuplicatePrefixes_eq _ _

variable {discover r}

theorem replacePlaceholdersInString_of_pass_ok {f : List Char → List Char}
    (h : cleanupPass r = .ok f) (text : List Char) :
    replacePlaceholdersInString discover text r = .ok (f (substituted discover r text)) := by
  rw [replacePlaceholdersInString_eq, h]; rfl

theorem replacePlaceholdersInString_of_pass_error {e : String} (h : cleanupPass r = .error e)
    (text : List Char) : replacePlaceholdersInString discover text r = .error e := by
  rw [replacePlaceholdersInString_eq, h]; rfl

/-! ## §2 — the conditional pass -/

theorem resolveConditionalOptions_of_pass_ok {f : List Char → List Char}
    (h : cleanupPass r = .ok f) (option1 option2 : List Char) :
    ∃ t, resolveConditionalOptions discover option1 option2 r = .ok t := by
  unfold resolveConditionalOptions
  simp only [replacePlaceholdersInString_of_pass_ok h, ok_bind]
  split_ifs <;> exact ⟨_, rfl⟩

theorem resolveConditionalOptions_of_pass_error {e : String} (h : cleanupPass r = .error e)
    (option1 option2 : List Char) :
    resolveConditionalOptions discover option1 option2 r = .error e := by
  unfold resolveConditionalOptions
  simp only [replacePlaceholdersInString_of_pass_error h, error_bind]
  split_ifs <;> rfl

theorem replaceConditionalMatch_of_pass_ok {f : List Char → List Char}
    (h : cleanupPass r = .ok f) (m : List Char) :
    ∃ t, replaceConditionalMatch discover m r = .ok t := by
  unfold replaceConditionalMatch
  split
  · exact resolveConditionalOptions_of_pass_ok h _ _
  · exact ⟨_, rfl⟩

theorem replaceConditionalMatch_of_pass_error {e : String} (h : cleanupPass r = .error e)
    (m : List Char) :
    (∃ t, replaceConditionalMatch discover m r = .ok t) ∨ replaceConditionalMatch discover m r = .error e := by
  unfold replaceConditionalMatch
  split
  · exact .inr (resolveConditionalOptions_of_pass_error h _ _)
  · exact .inl ⟨_, rfl⟩

/-- `mapM` in `Except` returns when every call does. -/
theorem mapM_ok_of_forall {α β : Type} {f : α → Except String β} {l : List α}
    (h : ∀ x ∈ l, ∃ y, f x = .ok y) : ∃ ys, l.mapM f = .ok ys := by
  induction l with
  | nil => exact ⟨[], rfl⟩
  | cons x xs ih =>
    obtain ⟨y, hy⟩ := h x (List.mem_cons_self x xs)
    obtain ⟨ys, hys⟩ := ih fun z hz => h z (List.mem_cons_of_mem x hz)
    exact ⟨y :: ys, by rw [List.mapM_cons, hy, hys]; rfl⟩

/-- `mapM` in `Except` returns, or raises the one error its calls may raise. -/
theorem mapM_ok_or_error {α β : Type} {f : α → Except String β} {l : List α} {e : String}
    (h : ∀ x ∈ l, (∃ y, f x = .ok y) ∨ f x = .error e) :
    (∃ ys, l.mapM f = .ok ys) ∨ l.mapM f = .error e := by
  induction l with
  | nil => exact .inl ⟨[], rfl⟩
  | cons x xs ih =>
    rcases h x (List.mem_cons_self x xs) with ⟨y, hy⟩ | hy
    · rcases ih (fun z hz => h z (List.mem_cons_of_mem x hz)) with ⟨ys, hys⟩ | hys
      · exact .inl ⟨y :: ys, by rw [List.mapM_cons, hy, hys]; rfl⟩
      · exact .inr (by rw [List.mapM_cons, hy, hys]; rfl)
    · exact .inr (by rw [List.mapM_cons, hy]; rfl)

theorem resolveConditionalPlaceholder_of_pass_ok {f : List Char → List Char}
    (h : cleanupPass r = .ok f) (value : List Char) :
    ∃ t, resolveConditionalPlaceholder discover value r = .ok t := by
  obtain ⟨parts, hparts⟩ := mapM_ok_of_forall (l := conditionalMatcher.scan 0 value)
    (f := conditionalPiece discover r) fun
      | .lit c, _ => ⟨_, rfl⟩
      | .hit m, _ => replaceConditionalMatch_of_pass_ok h m
  exact ⟨_, by rw [resolveConditionalPlaceholder, hparts]; rfl⟩

theorem resolveConditionalPlaceholder_of_pass_error {e : String} (h : cleanupPass r = .error e)
    (value : List Char) :
    (∃ t, resolveConditionalPlaceholder discover value r = .ok t) ∨
      resolveConditionalPlaceholder discover value r = .error e := by
  rcases mapM_ok_or_error (l := conditionalMatcher.scan 0 value) (e := e)
    (f := conditionalPiece discover r) (fun
      | .lit c, _ => .inl ⟨_, rfl⟩
      | .hit m, _ => replaceConditionalMatch_of_pass_error h m) with ⟨parts, hparts⟩ | hparts
  · exact .inl ⟨_, by rw [resolveConditionalPlaceholder, hparts]; rfl⟩
  · exact .inr (by rw [resolveConditionalPlaceholder, hparts]; rfl)

/-- Without a `|` the conditional pass returns its text. -/
theorem resolveConditionalPlaceholder_of_not_mem (value : List Char) (hv : '|' ∉ value) :
    resolveConditionalPlaceholder discover value r = .ok value := by
  have hscan : conditionalMatcher.scan 0 value = value.map .lit :=
    Matcher.scan_of_no_match _ fun t ht _ => conditionalFind_none_of_not_mem hv t ht
  have hmap : ∀ l : List Char,
      (l.map Piece.lit).mapM (conditionalPiece discover r) = .ok (l.map fun c => [c]) := by
    intro l
    induction l with
    | nil => rfl
    | cons c cs ih => rw [List.map_cons, List.mapM_cons, ih]; rfl
  rw [resolveConditionalPlaceholder, hscan, hmap]
  exact congrArg Except.ok (List.flatMap_singleton' value)

/-! ## §3 — string leaves -/

theorem replacePlaceholders_str_of_pass_ok {f : List Char → List Char}
    (h : cleanupPass r = .ok f) (s : String) :
    ∃ t, replacePlaceholders discover r (.str s) = .ok (.str t) := by
  obtain ⟨resolved, hres⟩ := resolveConditionalPlaceholder_of_pass_ok h s.toList
  exact ⟨_, by rw [replacePlaceholders, hres, ok_bind, replacePlaceholdersInString_of_pass_ok h]; rfl⟩

/-- The reference keys the two fixes rewrite. -/
def referenceKeys : List String :=
  roleReferences.map Prod.fst ++ [ctrStreamRef, contactLensStreamRef]

theorem replaceEach_of_not_occurs {mappings : List (String × String)} {t : List Char}
    (h : ∀ kv ∈ mappings, occurs kv.1.toList t = false) : replaceEach mappings t = t := by
  induction mappings with
  | nil => rfl
  | cons kv kvs ih =>
    simp only [replaceEach, List.foldl_cons]
    rw [pyReplace_of_not_occurs _ (h kv (List.mem_cons_self kv kvs))]
    exact ih fun kv' hkv' => h kv' (List.mem_cons_of_mem kv hkv')

theorem mem_setDefault {mappings : List (String × String)} {ref arn : String}
    {kv : String × String} (h : kv ∈ setDefault mappings ref arn) : kv ∈ mappings ∨ kv = (ref, arn) := by
  unfold setDefault at h
  split at h
  · exact .inl h
  · simpa using h

theorem customMappings_keys (t : List Char) (p : String) :
    ∀ kv ∈ customMappings discover t r p, kv.1 = ctrStreamRef ∨ kv.1 = contactLensStreamRef := by
  intro kv hkv
  rcases mem_setDefault hkv with hkv | rfl
  · rcases mem_setDefault hkv with hkv | rfl
    · simp only [discoveredMappings, List.mem_append, List.mem_map] at hkv
      rcases hkv with ⟨_, _, rfl⟩ | ⟨_, _, rfl⟩
      · exact .inl rfl
      · exact .inr rfl
    · exact .inl rfl
  · exact .inr rfl

/-- A text with none of the reference keys and no `${` reaches the cleanup unchanged. -/
theorem substituted_of_plain (t : List Char) (hph : occurs "$\x7b".toList t = false)
    (hkeys : ∀ k ∈ referenceKeys, occurs k.toList t = false) : substituted discover r t = t := by
  have hfix1 : fixMultiorgRoleReferences t r = t := by
    unfold fixMultiorgRoleReferences
    split
    · rfl
    · refine replaceEach_of_not_occurs fun kv hkv => hkeys kv.1 ?_
      obtain ⟨⟨ref, role⟩, hmem, rfl⟩ := List.mem_map.mp hkv
      exact List.mem_append_left _
        (show ref ∈ roleReferences.map Prod.fst from List.mem_map_of_mem Prod.fst hmem)
  have hfix2 : fixCustomResourceOutputs discover t r = t := by
    unfold fixCustomResourceOutputs
    split
    · rfl
    · refine replaceEach_of_not_occurs fun kv hkv => hkeys kv.1 ?_
      rcases customMappings_keys t _ kv hkv with hk | hk <;> simp [referenceKeys, hk]
  unfold substituted substitutePlaceholders
  rw [hfix1, hfix2, Matcher.scan_of_no_match _ fun u hu _ =>
    placeholderFind_none_of_not_occurs hph u hu]
  exact flatMap_map_lit_render _ t

/-- A string leaf holding no `|`, no `${`, none of the reference keys and no duplicated prefix
comes back as it is. -/
theorem replacePlaceholders_plain_str {f : List Char → List Char} (h : cleanupPass r = .ok f)
    (s : String) (hbar : '|' ∉ s.toList) (hph : occurs "$\x7b".toList s.toList = false)
    (hkeys : ∀ k ∈ referenceKeys, occurs k.toList s.toList = false)
    (hdup : ∀ p, cleanupPrefix r = some p → occurs (duplicatePrefix p) s.toList = false) :
    replacePlaceholders discover r (.str s) = .ok (.str s) := by
  rw [replacePlaceholders, resolveConditionalPlaceholder_of_not_mem _ hbar, ok_bind,
    replacePlaceholdersInString_of_pass_ok h, substituted_of_plain _ hph hkeys,
    cleanupPass_apply_of_not_occurs h hdup]
  rfl

theorem replacePlaceholders_plain_str_example :
    let r : Replacements := [("LambdaPrefix", "p"), ("lambdaPrefix", "p")]
    (cleanupPass r = .ok (pyReplace (duplicatePrefix "p") "p-".toList) ∧
      '|' ∉ "p-Handler".toList ∧ occurs "$\x7b".toList "p-Handler".toList = false ∧
      (∀ k ∈ referenceKeys, occurs k.toList "p-Handler".toList = false) ∧
      ∀ p, cleanupPrefix r = some p → occurs (duplicatePrefix p) "p-Handler".toList = false) ∧
    replacePlaceholders noDiscovery r (.str "p-Handler") = .ok (.str "p-Handler") := by
  intro r
  have hpass : cleanupPass r = .ok (pyReplace (duplicatePrefix "p") "p-".toList) := rfl
  have hbar : '|' ∉ "p-Handler".toList := by decide
  have hph : occurs "$\x7b".toList "p-Handler".toList = false := by decide
  have hkeys : ∀ k ∈ referenceKeys, occurs k.toList "p-Handler".toList = false := by decide
  have hdup : ∀ p, cleanupPrefix r = some p → occurs (duplicatePrefix p) "p-Handler".toList = false := by
    intro p hp
    cases hp
    decide
  exact ⟨⟨hpass, hbar, hph, hkeys, hdup⟩,
    replacePlaceholders_plain_str hpass "p-Handler" hbar hph hkeys hdup⟩

end

/-! ## §4 — the document walk -/

mutual
/-- `d'` has the shape of `d`: the same dict keys in the same order, the same list lengths, the
same `None`, booleans and integers, and a string wherever `d` has one. -/
def SameShape : PyVal → PyVal → Prop
  | .none, .none => True
  | .bool a, .bool b => a = b
  | .int a, .int b => a = b
  | .str _, .str _ => True
  | .list xs, .list ys => SameShapeList xs ys
  | .dict kvs, .dict kvs' => SameShapeDict kvs kvs'
  | _, _ => False

def SameShapeList : List PyVal → List PyVal → Prop
  | [], [] => True
  | x :: xs, y :: ys => SameShape x y ∧ SameShapeList xs ys
  | _, _ => False

def SameShapeDict : List (String × PyVal) → List (String × PyVal) → Prop
  | [], [] => True
  | (k, v) :: kvs, (k', v') :: kvs' => k = k' ∧ SameShape v v' ∧ SameShapeDict kvs kvs'
  | _, _ => False
end

mutual
/-- Whether a document holds a string, the leaves `replace_placeholders` rewrites. -/
def hasStr : PyVal → Bool
  | .str _ => true
  | .list xs => hasStrList xs
  | .dict kvs => hasStrDict kvs
  | _ => false

def hasStrList : List PyVal → Bool
  | [] => false
  | x :: xs => hasStr x || hasStrList xs

def hasStrDict : List (String × PyVal) → Bool
  | [] => false
  | (_, v) :: kvs => hasStr v || hasStrDict kvs
end

section

variable {discover : StreamDiscovery} {r : Replacements}

mutual
/-- **Resolution keeps the document's shape**: whatever it returns has the input's keys, list
lengths and non-string scalars, and strings where the input has strings. -/
theorem replacePlaceholders_sameShape : ∀ (d : PyVal) {d' : PyVal},
    replacePlaceholders discover r d = .ok d' → SameShape d d'
  | .none, _, h => by cases h; trivial
  | .bool _, _, h => by cases h; rfl
  | .int _, _, h => by cases h; rfl
  | .str s, _, h => by
    rw [replacePlaceholders] at h
    obtain ⟨_, -, h⟩ := bind_eq_ok.mp h
    obtain ⟨_, -, h⟩ := bind_eq_ok.mp h
    cases h; trivial
  | .list xs, _, h => by
    rw [replacePlaceholders] at h
    obtain ⟨ys, hys, rfl⟩ := map_eq_ok.mp h
    exact replacePlaceholdersList_sameShape xs hys
  | .dict kvs, _, h => by
    rw [replacePlaceholders] at h
    obtain ⟨kvs', hkvs, rfl⟩ := map_eq_ok.mp h
    exact replacePlaceholdersDict_sameShape kvs hkvs

theorem replacePlaceholdersList_sameShape : ∀ (xs : List PyVal) {ys : List PyVal},
    replacePlaceholdersList discover r xs = .ok ys → SameShapeList xs ys
  | [], _, h => by cases h; trivial
  | x :: xs, _, h => by
    rw [replacePlaceholdersList] at h
    obtain ⟨y, hy, h⟩ := bind_eq_ok.mp h
    obtain ⟨ys, hys, h⟩ := bind_eq_ok.mp h
    cases h
    exact ⟨replacePlaceholders_sameShape x hy, replacePlaceholdersList_sameShape xs hys⟩

theorem replacePlaceholdersDict_sameShape : ∀ (kvs : List (String × PyVal))
    {kvs' : List (String × PyVal)},
    replacePlaceholdersDict discover r kvs = .ok kvs' → SameShapeDict kvs kvs'
  | [], _, h => by cases h; trivial
  | (k, v) :: kvs, _, h => by
    rw [replacePlaceholdersDict] at h
    obtain ⟨v', hv, h⟩ := bind_eq_ok.mp h
    obtain ⟨kvs', hkvs, h⟩ := bind_eq_ok.mp h
    cases h
    exact ⟨rfl, replacePlaceholders_sameShape v hv, replacePlaceholdersDict_sameShape kvs hkvs⟩
end

mutual
theorem replacePlaceholders_ok_of_pass {f : List Char → List Char} (h : cleanupPass r = .ok f) :
    ∀ d : PyVal, ∃ d', replacePlaceholders discover r d = .ok d'
  | .none => ⟨_, rfl⟩
  | .bool _ => ⟨_, rfl⟩
  | .int _ => ⟨_, rfl⟩
  | .str s => (replacePlaceholders_str_of_pass_ok h s).elim fun _ ht => ⟨_, ht⟩
  | .list xs => by
    obtain ⟨ys, hys⟩ := replacePlaceholdersList_ok_of_pass h xs
    exact ⟨.list ys, by rw [replacePlaceholders, hys]; rfl⟩
  | .dict kvs => by
    obtain ⟨kvs', hkvs⟩ := replacePlaceholdersDict_ok_of_pass h kvs
    exact ⟨.dict kvs', by rw [replacePlaceholders, hkvs]; rfl⟩

theorem replacePlaceholdersList_ok_of_pass {f : List Char → List Char}
    (h : cleanupPass r = .ok f) : ∀ xs : List PyVal, ∃ ys, replacePlaceholdersList discover r xs = .ok ys
  | [] => ⟨_, rfl⟩
  | x :: xs => by
    obtain ⟨y, hy⟩ := replacePlaceholders_ok_of_pass h x
    obtain ⟨ys, hys⟩ := replacePlaceholdersList_ok_of_pass h xs
    exact ⟨y :: ys, by rw [replacePlaceholdersList, hy, ok_bind, hys]; rfl⟩

theorem replacePlaceholdersDict_ok_of_pass {f : List Char → List Char}
    (h : cleanupPass r = .ok f) :
    ∀ kvs : List (String × PyVal), ∃ kvs', replacePlaceholdersDict discover r kvs = .ok kvs'
  | [] => ⟨_, rfl⟩
  | (k, v) :: kvs => by
    obtain ⟨v', hv⟩ := replacePlaceholders_ok_of_pass h v
    obtain ⟨kvs', hkvs⟩ := replacePlaceholdersDict_ok_of_pass h kvs
    exact ⟨(k, v') :: kvs', by rw [replacePlaceholdersDict, hv, ok_bind, hkvs]; rfl⟩
end

mutual
/-- **Under a context whose cleanup replacement does not compile, a document raises exactly when
it holds a string**, with the template's one error, and comes back as it is otherwise. -/
theorem replacePlaceholders_of_pass_error {e : String} (h : cleanupPass r = .error e) :
    ∀ d : PyVal, replacePlaceholders discover r d = if hasStr d then .error e else .ok d
  | .none => rfl
  | .bool _ => rfl
  | .int _ => rfl
  | .str s => by
    rw [replacePlaceholders]
    rcases resolveConditionalPlaceholder_of_pass_error h s.toList with ⟨resolved, hres⟩ | hres
    · rw [hres, ok_bind, replacePlaceholdersInString_of_pass_error h]; rfl
    · rw [hres]; rfl
  | .list xs => by
    rw [replacePlaceholders, replacePlaceholdersList_of_pass_error h xs, hasStr]
    cases hasStrList xs <;> rfl
  | .dict kvs => by
    rw [replacePlaceholders, replacePlaceholdersDict_of_pass_error h kvs, hasStr]
    cases hasStrDict kvs <;> rfl

theorem replacePlaceholdersList_of_pass_error {e : String} (h : cleanupPass r = .error e) :
    ∀ xs : List PyVal,
      replacePlaceholdersList discover r xs = if hasStrList xs then .error e else .ok xs
  | [] => rfl
  | x :: xs => by
    rw [replacePlaceholdersList, replacePlaceholders_of_pass_error h x,
      replacePlaceholdersList_of_pass_error h xs, hasStrList]
    cases hasStr x <;> cases hasStrList xs <;> rfl

theorem replacePlaceholdersDict_of_pass_error {e : String} (h : cleanupPass r = .error e) :
    ∀ kvs : List (String × PyVal),
      replacePlaceholdersDict discover r kvs = if hasStrDict kvs then .error e else .ok kvs
  | [] => rfl
  | (k, v) :: kvs => by
    rw [replacePlaceholdersDict, replacePlaceholders_of_pass_error h v,
      replacePlaceholdersDict_of_pass_error h kvs, hasStrDict]
    cases hasStr v <;> cases hasStrDict kvs <;> rfl
end

/-- **Every string leaf raises under a context whose cleanup replacement does not compile**, the
same error whatever the leaf. -/
theorem replacePlaceholders_str_of_pass_error {e : String} (h : cleanupPass r = .error e)
    (s : String) : replacePlaceholders discover r (.str s) = .error e :=
  replacePlaceholders_of_pass_error h (.str s)

theorem replacePlaceholders_str_of_pass_error_example :
    cleanupPass [("LambdaPrefix", "a\\q"), ("lambdaPrefix", "a\\q")] =
        .error "bad escape \\q at position 1" ∧
      replacePlaceholders noDiscovery [("LambdaPrefix", "a\\q"), ("lambdaPrefix", "a\\q")]
        (.str "plain") = .error "bad escape \\q at position 1" := by
  have h : cleanupPass [("LambdaPrefix", "a\\q"), ("lambdaPrefix", "a\\q")] =
      .error "bad escape \\q at position 1" := rfl
  exact ⟨h, replacePlaceholders_str_of_pass_error h _⟩

/-- **A document resolves whenever the cleanup's replacement compiles** (always so when no prefix
is set), and the result has the document's shape. -/
theorem replacePlaceholders_resolves {f : List Char → List Char} (h : cleanupPass r = .ok f)
    (d : PyVal) : ∃ d', replacePlaceholders discover r d = .ok d' ∧ SameShape d d' :=
  (replacePlaceholders_ok_of_pass h d).imp fun _ hd => ⟨hd, replacePlaceholders_sameShape d hd⟩

theorem replacePlaceholders_resolves_example :
    let r : Replacements := [("LambdaPrefix", "p"), ("lambdaPrefix", "p")]
    let d : PyVal := .dict [("Lambdas", .list [.dict [("name", .str "$\x7bLambdaPrefix\x7d-p-Fn"),
      ("memory", .int 128), ("alias", .str "live|$\x7bLambdaPrefix\x7d-alias")]])]
    cleanupPass r = .ok (pyReplace (duplicatePrefix "p") "p-".toList) ∧
      ∃ d', replacePlaceholders noDiscovery r d = .ok d' ∧ SameShape d d' := by
  intro r d
  have h : cleanupPass r = .ok (pyReplace (duplicatePrefix "p") "p-".toList) := rfl
  exact ⟨h, replacePlaceholders_resolves h d⟩

end

/-- The context `lambda_handler` builds when `LAMBDA_PREFIX` is `a\q`: the cleanup's replacement
`a\q-` does not compile, and resolving a document with a string leaf raises. -/
theorem replacePlaceholders_backslash_prefix_raises :
    replacePlaceholders noDiscovery [("LambdaPrefix", "a\\q"), ("lambdaPrefix", "a\\q")]
      (.dict [("name", .str "F1")]) = .error "bad escape \\q at position 1" := rfl

end HealthCheck
