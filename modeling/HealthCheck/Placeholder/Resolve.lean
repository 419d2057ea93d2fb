import HealthCheck.Placeholder.Patterns

/-!
# HealthCheck — the placeholder resolver

`utils/placeholder_utils.py`, the functions `replace_placeholders` calls, under their source
names:

* `fixMultiorgRoleReferences`, `fixCustomResourceOutputs` — rewrite fixed CloudFormation
  references (`...RoleResource.Arn`, `MultiorgStreamDiscoveryCustomResource.*StreamArn`) to ARNs;
* `cleanDuplicatePrefixes` — one `re.sub` of `prefix-prefix-` by the replacement `prefix-`;
* `replacePlaceholdersInString` — the two fixes, `PLACEHOLDER_RE.sub`, then the cleanup;
* `resolveConditionalOptions`, `resolveConditionalPlaceholder` — the `option1|option2` rule;
* `replacePlaceholders` — the walk over a document.

The stream discovery `fix_custom_resource_outputs` may call is an AWS collaborator, a parameter
(`StreamDiscovery`) of everything above it. The only way the resolver fails is the replacement
string of the cleanup's `re.sub`, which Python compiles before it scans: `cleanDuplicatePrefixes`
returns `Except`, and so does every function that calls it.
-/

namespace HealthCheck

/-- The substitution context, a `Dict[str, str]` in insertion order. -/
abbrev Replacements := List (String × String)

/-- `replacements.get(key)`. -/
def Replacements.get (r : Replacements) (key : String) : Option String := r.lookup key

/-- Python's `a or b` on two `get`s: `a` when it is a non-empty string, else `b`. -/
def pyOr (a b : Option String) : Option String :=
  if a.any (· != "") then a else b

/-- The prefix a resolver function accepts: set, non-empty, and not one of the placeholder names
that stand for "unset" (`lambda_prefix and lambda_prefix not in ["", "LambdaPrefix",
"lambdaPrefix"]`). -/
def usablePrefix : Option String → Option String
  | some p => if p = "" ∨ p = "LambdaPrefix" ∨ p = "lambdaPrefix" then none else some p
  | none => none

/-- The prefix the reference fixes and the cleanup use:
`replacements.get("lambdaPrefix") or replacements.get("LambdaPrefix")`. -/
def cleanupPrefix (r : Replacements) : Option String :=
  usablePrefix (pyOr (r.get "lambdaPrefix") (r.get "LambdaPrefix"))

/-- The prefix the conditional rule tests:
`replacements.get("LambdaPrefix") or replacements.get("lambdaPrefix")`. -/
def priorityPrefix (r : Replacements) : Option String :=
  usablePrefix (pyOr (r.get "LambdaPrefix") (r.get "lambdaPrefix"))

/-! ## The reference fixes -/

/-- The CloudFormation role references of `fix_multiorg_role_references` and the role each names,
in the dict's order. -/
def roleReferences : List (String × String) :=
  [("MultiorgMigrationRole.Arn", "MultiorgMigrationRole"),
   ("MultiorgInvokeTelephonyIntegrationApiFunctionRoleResource.Arn",
     "InvokeTelephonyIntegrationApiFunctionRole"),
   ("MultiorgContactDataSyncFunctionRoleResource.Arn", "ContactDataSyncFunctionRole"),
   ("MultiorgPostCallAnalysisTriggerFunctionRoleResource.Arn", "PostCallAnalysisTriggerFunctionRole"),
   ("MultiorgInvokeSalesforceRestApiFunctionRoleResource.Arn", "InvokeSalesforceRestApiFunctionRole"),
   ("MultiorgKvsTranscriberRoleResource.Arn", "KvsTranscriberRole"),
   ("MultiorgKvsConsumerTriggerRoleResource.Arn", "KvsConsumerTriggerRole"),
   ("MultiorgContactLensConsumerFunctionRoleResource.Arn", "ContactLensConsumerFunctionRole"),
   ("MultiorgVoiceMailAudioProcessingRoleResource.Arn", "VoiceMailAudioProcessingRole"),
   ("MultiorgVoiceMailPackagingRoleResource.Arn", "VoiceMailPackagingRole"),
   ("MultiorgVoiceMailTranscribeRoleResource.Arn", "VoiceMailTranscribeRole"),
   ("MultiorgHandleContactEventsRoleResource.Arn", "HandleContactEventsRole"),
   ("MultiorgStreamDiscoveryFunctionRoleResource.Arn", "StreamDiscoveryFunctionRole"),
   ("S3SecretCacheTTLRole.Arn", "S3SecretCacheTTLRole")]

/-- `text = text.replace(ref, arn)` for each pair in turn. -/
def replaceEach (mappings : List (String × String)) (text : List Char) : List Char :=
  mappings.foldl (fun t kv => pyReplace kv.1.toList kv.2.toList t) text

/-- `partition` and `account_id` as both fixes read them. -/
def partitionOf (r : Replacements) : String := (r.get "AWS::Partition").getD "aws"

def accountIdOf (r : Replacements) : String := (r.get "AWS::AccountId").getD "$\x7bAWS::AccountId\x7d"

def regionOf (r : Replacements) : String := (r.get "AWS::Region").getD "$\x7bAWS::Region\x7d"

def fixMultiorgRoleReferences (text : List Char) (r : Replacements) : List Char :=
  match cleanupPrefix r with
  | none => text
  | some p =>
    replaceEach (roleReferences.map fun (ref, role) =>
      (ref, "arn:" ++ partitionOf r ++ ":iam::" ++ accountIdOf r ++ ":role/" ++ p ++ "-" ++ role)) text

/-- What `discover_connect_streams(instance_id, region)` returned. -/
structure DiscoveredStreams where
  ctrStreamArn : Option String
  contactLensStreamArn : Option String

/-- The AWS stream discovery, from the Connect instance id and the region (`None` when the region
is still the placeholder). It catches its own failures. -/
abbrev StreamDiscovery := String → Option String → DiscoveredStreams

def ctrStreamRef : String := "MultiorgStreamDiscoveryCustomResource.CTRStreamArn"

def contactLensStreamRef : String := "MultiorgStreamDiscoveryCustomResource.ContactLensStreamArn"

section Discovery

variable (discover : StreamDiscovery)

/-- `mappings[ref] = arn` unless `ref` is a key already (`if ref not in custom_mappings`). -/
def setDefault (mappings : List (String × String)) (ref arn : String) : List (String × String) :=
  if (mappings.lookup ref).isSome then mappings else mappings ++ [(ref, arn)]

/-- The discovered stream ARNs, keyed by the reference each replaces, in insertion order. -/
def discoveredMappings (found : DiscoveredStreams) : List (String × String) :=
  (found.ctrStreamArn.filter (· != "")).toList.map (ctrStreamRef, ·) ++
    (found.contactLensStreamArn.filter (· != "")).toList.map (contactLensStreamRef, ·)

/-- The discovery `fix_custom_resource_outputs` makes when the text holds a stream reference and
a Connect instance id is set; nothing is found otherwise. -/
def discoverStreams (text : List Char) (r : Replacements) : DiscoveredStreams :=
  match r.get "ConnectInstanceId" with
  | some id =>
    if (occurs ctrStreamRef.toList text || occurs contactLensStreamRef.toList text) &&
        id != "" && id != "ConnectInstanceId" then
      discover id (if regionOf r != "$\x7bAWS::Region\x7d" then some (regionOf r) else none)
    else ⟨none, none⟩
  | none => ⟨none, none⟩

/-- The `custom_mappings` dict: the discovered ARNs, then a pattern-built fallback for each
reference discovery did not supply. -/
def customMappings (text : List Char) (r : Replacements) (p : String) : List (String × String) :=
  let stream (name : String) :=
    "arn:" ++ partitionOf r ++ ":kinesis:" ++ regionOf r ++ ":" ++ accountIdOf r ++ ":stream/" ++ p ++
      "-" ++ name
  setDefault (setDefault (discoveredMappings (discoverStreams discover text r))
    ctrStreamRef (stream "CTRStream")) contactLensStreamRef (stream "ContactLensStream")

def fixCustomResourceOutputs (text : List Char) (r : Replacements) : List Char :=
  match cleanupPrefix r with
  | none => text
  | some p => replaceEach (customMappings discover text r p) text

/-! ## Substitution and cleanup -/

/-- `PLACEHOLDER_RE.sub(lambda m: str(replacements.get(m.group(1), m.group(0))), text)`. -/
def substitutePlaceholders (text : List Char) (r : Replacements) : List Char :=
  (placeholderMatcher.scan 0 text).flatMap
    (Piece.render fun m => ((r.get (String.mk (placeholderName m))).map String.toList).getD m)

/-- `prefix-prefix-`, the duplicate the cleanup collapses. -/
def duplicatePrefix (p : String) : List Char := (p ++ "-" ++ p ++ "-").toList

def cleanDuplicatePrefixes (text : List Char) (r : Replacements) : Except String (List Char) :=
  match cleanupPrefix r with
  | none => .ok text
  | some p => do
    let items ← compileTemplate (p ++ "-").toList
    pure (pyReplace (duplicatePrefix p) (expandTemplate items (duplicatePrefix p)) text)

def replacePlaceholdersInString (text : List Char) (r : Replacements) : Except String (List Char) :=
  let text := fixMultiorgRoleReferences text r
  let text := fixCustomResourceOutputs discover text r
  cleanDuplicatePrefixes (substitutePlaceholders text r) r

/-! ## Conditional placeholders -/

def lambdaPrefixToken : String := "$\x7bLambdaPrefix\x7d"

def lowerLambdaPrefixToken : String := "$\x7blambdaPrefix\x7d"

/-- `"${LambdaPrefix}" in option or "${lambdaPrefix}" in option`. -/
def hasLambdaPrefix (option : List Char) : Bool :=
  occurs lambdaPrefixToken.toList option || occurs lowerLambdaPrefixToken.toList option

/-- `s.startswith('-')`. -/
def startsWithDash (s : List Char) : Bool := s.head? == some '-'

/-- Steps 2 to 5 of the priority rule once the first option, resolved, was not taken: the second
option when it resolves fully without a leading `-`, else whichever option has no leading `-`
(the one carrying the prefix token first), else the first. -/
def conditionalFallback (has1 has2 : Bool) (resolved1 resolved2 : List Char) : List Char :=
  if !searchPlaceholder resolved2 && !startsWithDash resolved2 then resolved2
  else if !startsWithDash resolved1 && !startsWithDash resolved2 then
    if has1 then resolved1 else if has2 then resolved2 else resolved1
  else if !startsWithDash resolved1 then resolved1
  else if !startsWithDash resolved2 then resolved2
  else resolved1

/-- The five-step priority rule between the two options of a conditional. -/
def resolveConditionalOptions (option1 option2 : List Char) (r : Replacements) :
    Except String (List Char) :=
  let has1 := hasLambdaPrefix option1
  let has2 := hasLambdaPrefix option2
  if has1 && (priorityPrefix r).isSome then replacePlaceholdersInString discover option1 r
  else if has2 && (priorityPrefix r).isSome then replacePlaceholdersInString discover option2 r
  else do
    let resolved1 ← replacePlaceholdersInString discover option1 r
    if !searchPlaceholder resolved1 && !startsWithDash resolved1 then pure resolved1
    else do
      let resolved2 ← replacePlaceholdersInString discover option2 r
      pure (conditionalFallback has1 has2 resolved1 resolved2)

/-- `replace_conditional_match`: a match split at `|` into anything but two parts is kept. -/
def replaceConditionalMatch (m : List Char) (r : Replacements) : Except String (List Char) :=
  match m.splitOn '|' with
  | [option1, option2] => resolveConditionalOptions discover option1 option2 r
  | _ => .ok m

/-- What `CONDITIONAL_RE.sub` writes for one piece of the text. -/
def conditionalPiece (r : Replacements) : Piece → Except String (List Char)
  | .lit c => .ok [c]
  | .hit m => replaceConditionalMatch discover m r

/-- `CONDITIONAL_RE.sub(replace_conditional_match, value)`. -/
def resolveConditionalPlaceholder (value : List Char) (r : Replacements) :
    Except String (List Char) :=
  List.flatten <$> (conditionalMatcher.scan 0 value).mapM (conditionalPiece discover r)

/-! ## The document walk -/

mutual
/-- `replace_placeholders(data, replacements)`: dict values and list items are resolved in order,
a string goes through the conditional pass then `replace_placeholders_in_string`, any other
value is returned as it is. -/
def replacePlaceholders (r : Replacements) : PyVal → Except String PyVal
  | .dict kvs => .dict <$> replacePlaceholdersDict r kvs
  | .list xs => .list <$> replacePlaceholdersList r xs
  | .str s => do
    let resolved ← resolveConditionalPlaceholder discover s.toList r
    let text ← replacePlaceholdersInString discover resolved r
    pure (.str (String.mk text))
  | v => .ok v

def replacePlaceholdersList (r : Replacements) : List PyVal → Except String (List PyVal)
  | [] => .ok []
  | x :: xs => do
    let y ← replacePlaceholders r x
    let ys ← replacePlaceholdersList r xs
    pure (y :: ys)

def replacePlaceholdersDict (r : Replacements) :
    List (String × PyVal) → Except String (List (String × PyVal))
  | [] => .ok []
  | (k, v) :: kvs => do
    let v' ← replacePlaceholders r v
    let kvs' ← replacePlaceholdersDict r kvs
    pure ((k, v') :: kvs')
end

end Discovery

/-- A discovery that finds nothing, for running the resolver on texts without stream references. -/
def noDiscovery : StreamDiscovery := fun _ _ => ⟨none, none⟩

example : resolveConditionalPlaceholder noDiscovery
    "SCV $\x7bCallCenterApiName\x7d-Function|$\x7bLambdaPrefix\x7d-Function Errors".toList
    [("CallCenterApiName", "mycc"), ("LambdaPrefix", "myorg")] = .ok "SCV myorg-Function Errors".toList := by
  rfl

end HealthCheck
