import HealthCheck.Placeholder.Structure

/-!
# HealthCheck — the conditional rule and the duplicate-prefix cleanup at work

Runs of `resolve_conditional_options`, `resolve_conditional_placeholder` and
`replace_placeholders_in_string` on the inputs where they part from what their documentation
promises:

* a prefix set to one of the "unset" sentinels is substituted as text by step 2 while the other
  option resolves cleanly (`resolveConditionalOptions_sentinel_prefix`);
* `CONDITIONAL_RE` matches a two-option slice inside a longer word, so `a|b|c` loses its middle
  (`resolveConditionalPlaceholder_three_options`);
* one `re.sub` pass leaves a tripled prefix doubled (`replacePlaceholdersInString_tripled_prefix`).
-/

namespace HealthCheck

/-! ## §1 — what the priority rule guarantees -/

/-- The fallback steps return one of the two resolved options. -/
theorem conditionalFallback_eq_or (has1 has2 : Bool) (resolved1 resolved2 : List Char) :
    conditionalFallback has1 has2 resolved1 resolved2 = resolved1 ∨
      conditionalFallback has1 has2 resolved1 resolved2 = resolved2 := by
  unfold conditionalFallback
  split_ifs <;> simp

/-- The fallback steps return a string with a leading `-` only when both options have one. -/
theorem conditionalFallback_dash {has1 has2 : Bool} {resolved1 resolved2 : List Char}
    (h : startsWithDash (conditionalFallback has1 has2 resolved1 resolved2) = true) :
    startsWithDash resolved1 = true ∧ startsWithDash resolved2 = true := by
  unfold conditionalFallback at h
  split_ifs at h <;> simp_all

section

variable {discover : StreamDiscovery} {r : Replacements}

/-- The rule never invents a name: what it returns is one of the two options resolved by
`replace_placeholders_in_string`. -/
theorem resolveConditionalOptions_resolves_an_option {option1 option2 t : List Char}
    (h : resolveConditionalOptions discover option1 option2 r = .ok t) :
    replacePlaceholdersInString discover option1 r = .ok t ∨
      replacePlaceholdersInString discover option2 r = .ok t := by
  cases hp : cleanupPass r with
  | error e => rw [resolveConditionalOptions_of_pass_error hp] at h; cases h
  | ok f =>
    simp only [replacePlaceholdersInString_of_pass_ok hp, Except.ok.injEq]
    unfold resolveConditionalOptions at h
    simp only [replacePlaceholdersInString_of_pass_ok hp, ok_bind] at h
    split_ifs at h <;> cases h
    · exact .inl rfl
    · exact .inr rfl
    · exact .inl rfl
    · exact (conditionalFallback_eq_or _ _ _ _).imp Eq.symm Eq.symm

/-- **The leading-dash guard of steps 2 to 5**: unless step 1 fires (an option carries a prefix
token and a usable prefix is set), a result with a leading `-` means both options resolve to one. -/
theorem resolveConditionalOptions_dash {option1 option2 t : List Char}
    (h : resolveConditionalOptions discover option1 option2 r = .ok t)
    (hstep1 : ((hasLambdaPrefix option1 || hasLambdaPrefix option2) && (priorityPrefix r).isSome) = false)
    (hdash : startsWithDash t = true) :
    ∀ t₁ t₂, replacePlaceholdersInString discover option1 r = .ok t₁ →
      replacePlaceholdersInString discover option2 r = .ok t₂ →
      startsWithDash t₁ = true ∧ startsWithDash t₂ = true := by
  intro t₁ t₂ h₁ h₂
  unfold resolveConditionalOptions at h
  simp only [h₁, h₂, ok_bind] at h
  have hoff : (hasLambdaPrefix option1 && (priorityPrefix r).isSome) = false ∧
      (hasLambdaPrefix option2 && (priorityPrefix r).isSome) = false := by
    revert hstep1; cases hasLambdaPrefix option1 <;> cases hasLambdaPrefix option2 <;> simp
  simp only [hoff.1, hoff.2, Bool.false_eq_true, if_false] at h
  split_ifs at h with h₀
  · cases h; simp_all
  · cases h; exact conditionalFallback_dash hdash

theorem resolveConditionalOptions_dash_example :
    (resolveConditionalOptions noDiscovery "-a".toList "-b".toList [] = .ok "-a".toList ∧
      ((hasLambdaPrefix "-a".toList || hasLambdaPrefix "-b".toList) &&
        (priorityPrefix []).isSome) = false ∧
      startsWithDash "-a".toList = true) ∧
    ∀ t₁ t₂, replacePlaceholdersInString noDiscovery "-a".toList [] = .ok t₁ →
      replacePlaceholdersInString noDiscovery "-b".toList [] = .ok t₂ →
      startsWithDash t₁ = true ∧ startsWithDash t₂ = true := by
  have h : resolveConditionalOptions noDiscovery "-a".toList "-b".toList [] = .ok "-a".toList := rfl
  have hstep1 : ((hasLambdaPrefix "-a".toList || hasLambdaPrefix "-b".toList) &&
      (priorityPrefix []).isSome) = false := rfl
  have hdash : startsWithDash "-a".toList = true := rfl
  exact ⟨⟨h, hstep1, hdash⟩, resolveConditionalOptions_dash h hstep1 hdash⟩

end

/-- The context `lambda_handler` builds with `LAMBDA_PREFIX` set to the sentinel `LambdaPrefix`:
step 1 refuses the sentinel, and step 2 then takes the first option, sentinel substituted as
text, over the second option that resolves cleanly. -/
theorem resolveConditionalOptions_sentinel_prefix :
    let r : Replacements := [("CallCenterApiName", "cc"), ("LambdaPrefix", "LambdaPrefix"),
      ("lambdaPrefix", "LambdaPrefix")]
    resolveConditionalOptions noDiscovery "$\x7bLambdaPrefix\x7d-Fn".toList
        "$\x7bCallCenterApiName\x7d-Fn".toList r = .ok "LambdaPrefix-Fn".toList ∧
      replacePlaceholdersInString noDiscovery "$\x7bCallCenterApiName\x7d-Fn".toList r =
        .ok "cc-Fn".toList :=
  ⟨rfl, rfl⟩

/-- A word with two `|` is not left alone: the scanner rewrites its first two-option slice. -/
theorem resolveConditionalPlaceholder_three_options :
    resolveConditionalPlaceholder noDiscovery "a|b|c".toList [] = .ok "a|c".toList := rfl

/-- The context `lambda_handler` builds with `LAMBDA_PREFIX=a`: `a-a-a-` comes out `a-a-`. -/
theorem replacePlaceholdersInString_tripled_prefix :
    replacePlaceholdersInString noDiscovery "a-a-a-".toList [("LambdaPrefix", "a"), ("lambdaPrefix", "a")] =
      .ok "a-a-".toList := rfl

end HealthCheck
