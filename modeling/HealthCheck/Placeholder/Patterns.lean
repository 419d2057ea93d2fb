import HealthCheck.Python.Text

/-!
# HealthCheck — the resolver's regular expressions

The three compiled patterns of `utils/placeholder_utils.py`, each as a `Matcher` anchored at the
head of the text, and the replacement-string grammar `re.sub` applies to the literal replacement
of `clean_duplicate_prefixes`:

* `placeholderMatcher` — `PLACEHOLDER_RE = \$\{([^}]+)\}`;
* `conditionalMatcher` — `CONDITIONAL_RE = ([^|\s]+\|[^|\s]+)`;
* `parseTemplate` / `expandTemplate` — `sre_parse.parse_template` and its expansion, for a pattern
  with no groups (the escaped duplicate-prefix pattern).

A greedy class run `[^x]+` followed by a character the class excludes never backtracks into a
shorter run (the character after a shorter run is in the class), so each pattern's match at a
position is the maximal run: `takeWhile`.
-/

namespace HealthCheck

/-! ## `PLACEHOLDER_RE` -/

/-- `\$\{([^}]+)\}` at the head of `l`: `${`, a non-empty run of characters other than `}`, `}`. -/
def placeholderFind : List Char → Option Nat
  | '$' :: '{' :: rest =>
    let name := rest.takeWhile (· != '}')
    if name ≠ [] ∧ name.length < rest.length then some (name.length + 3) else none
  | _ => none

def placeholderMatcher : Matcher where
  find := placeholderFind
  find_pos l n h := by
    unfold placeholderFind at h
    split at h
    · dsimp only at h
      split at h
      · cases h; omega
      · cases h
    · cases h

/-- `m.group(1)` of a `PLACEHOLDER_RE` match: the text between `${` and `}`. -/
def placeholderName (m : List Char) : List Char := (m.drop 2).dropLast

/-- `PLACEHOLDER_RE.search(s)`: a match starts somewhere in `s`. -/
def searchPlaceholder (s : List Char) : Bool :=
  s.tails.any fun t => (placeholderFind t).isSome

/-- A placeholder match starts with `${`. -/
theorem placeholderFind_startsWith {l : List Char} {n : Nat} (h : placeholderFind l = some n) :
    "$\x7b".toList <+: l := by
  unfold placeholderFind at h
  split at h
  · exact ⟨_, rfl⟩
  · cases h

/-- Without `${` in the text nothing matches `PLACEHOLDER_RE`. -/
theorem placeholderFind_none_of_not_occurs {s : List Char} (hs : occurs "$\x7b".toList s = false) :
    ∀ t, t <:+ s → placeholderFind t = none := by
  intro t ht
  cases h : placeholderFind t with
  | none => rfl
  | some n =>
    exact absurd ((placeholderFind_startsWith h).isInfix.trans ht.isInfix) (occurs_eq_false_iff.mp hs)

/-! ## `CONDITIONAL_RE` -/

/-- A character of `[^|\s]`: an option of a conditional holds no `|` and no whitespace. -/
def isOptionChar (c : Char) : Bool := c != '|' && !isPySpace c

/-- `[^|\s]+\|[^|\s]+` at the head of `l`: a maximal option run, `|`, and a second option run. -/
def conditionalFind (l : List Char) : Option Nat :=
  let a := l.takeWhile isOptionChar
  match l.drop a.length with
  | '|' :: rest =>
    let b := rest.takeWhile isOptionChar
    if a ≠ [] ∧ b ≠ [] then some (a.length + 1 + b.length) else none
  | _ => none

def conditionalMatcher : Matcher where
  find := conditionalFind
  find_pos l n h := by
    unfold conditionalFind at h
    dsimp only at h
    split at h
    · split at h
      · cases h; omega
      · cases h
    · cases h

/-- A conditional match holds a `|`. -/
theorem conditionalFind_occurs {l : List Char} {n : Nat} (h : conditionalFind l = some n) :
    '|' ∈ l := by
  unfold conditionalFind at h
  dsimp only at h
  split at h
  · rename_i rest hd
    exact List.mem_of_mem_drop (hd ▸ List.mem_cons_self '|' rest)
  · cases h

/-- Without `|` in the text nothing matches `CONDITIONAL_RE`. -/
theorem conditionalFind_none_of_not_mem {s : List Char} (hs : '|' ∉ s) :
    ∀ t, t <:+ s → conditionalFind t = none := by
  intro t ht
  cases h : conditionalFind t with
  | none => rfl
  | some n => exact absurd (ht.subset (conditionalFind_occurs h)) hs

/-! ## The replacement string of `re.sub`

`re.sub(pattern, repl, text)` with a string `repl` compiles `repl` before it scans the text: a
backslash starts an escape, `\g<0>` and `\0`..`\377` octal escapes and the escapes of `\a \b \f \n
\r \t \v \\` are read, a backslash before an ASCII letter that is no escape is an error, and so is
a group reference, the pattern having no groups. -/

/-- An item of a compiled replacement: a character, or the whole match (`\g<0>`). -/
inductive TemplateItem where
  | lit (c : Char)
  | wholeMatch
  deriving DecidableEq

/-- `re.error(msg, pattern, pos)` as `str()` prints it. -/
def reError (template : List Char) (msg : String) (pos : Nat) : String :=
  let before := template.take pos
  let line := before.count '\n' + 1
  let col := (before.reverse.takeWhile (· != '\n')).length + 1
  msg ++ " at position " ++ toString pos ++
    (if '\n' ∈ template then " (line " ++ toString line ++ ", column " ++ toString col ++ ")"
     else "")

/-- The character escapes a replacement string knows (`sre_parse.ESCAPES`). -/
def templateEscape : Char → Option Char
  | 'a' => some '\x07'
  | 'b' => some '\x08'
  | 'f' => some '\x0c'
  | 'n' => some '\n'
  | 'r' => some '\r'
  | 't' => some '\t'
  | 'v' => some '\x0b'
  | '\\' => some '\\'
  | _ => none

def isOctDigit (c : Char) : Bool := '0' ≤ c && c ≤ '7'

def isAsciiLetter (c : Char) : Bool := ('a' ≤ c && c ≤ 'z') || ('A' ≤ c && c ≤ 'Z')

/-- The value of a run of digits in base `b`. -/
def digitsValue (b : Nat) (ds : List Char) : Nat :=
  ds.foldl (fun v d => b * v + (d.toNat - '0'.toNat)) 0

/-- What `\g<name>` refers to, for a pattern with no groups: `\g<0>` is the whole match, any other
number is no group. A name Python's `int()` reads in some other way (a sign, spaces, non-ASCII
digits) is taken here as a bad character. -/
def groupRef (template : List Char) (start : Nat) (name : List Char) :
    Except String TemplateItem :=
  if name.all Char.isDigit then
    if digitsValue 10 name = 0 then .ok .wholeMatch
    else .error (reError template ("invalid group reference " ++ toString (digitsValue 10 name))
      (start + 3))
  else if (name.head?.all fun c => c.isAlpha || c == '_') && name.all (fun c => c.isAlphanum || c == '_')
  then .error ("unknown group name " ++ PyVal.reprStr (String.mk name))
  else .error (reError template ("bad character in group name " ++ PyVal.reprStr (String.mk name))
    (start + 3))

/-- `sre_parse.parse_template` for a pattern with no groups, reading `template` from position `i`.
Every step reads at least one character, so `template.length + 1` steps of `fuel` finish it. -/
def parseTemplate (template : List Char) : Nat → Nat → List Char → Except String (List TemplateItem)
  | 0, _, _ => .ok []
  | _ + 1, _, [] => .ok []
  | _ + 1, i, ['\\'] => .error (reError template "bad escape (end of pattern)" i)
  | fuel + 1, i, '\\' :: 'g' :: '<' :: rest =>
    let name := rest.takeWhile (· != '>')
    if name = [] then .error (reError template "missing group name" (i + 3))
    else if name.length = rest.length then
      .error (reError template "missing >, unterminated name" (i + 3))
    else do
      let item ← groupRef template i name
      (item :: ·) <$> parseTemplate template fuel (i + 4 + name.length) (rest.drop (name.length + 1))
  | _ + 1, i, '\\' :: 'g' :: _ => .error (reError template "missing <" (i + 2))
  | fuel + 1, i, '\\' :: '0' :: rest =>
    let ds := (rest.takeWhile isOctDigit).take 2
    (.lit (Char.ofNat (digitsValue 8 ds)) :: ·) <$>
      parseTemplate template fuel (i + 2 + ds.length) (rest.drop ds.length)
  | fuel + 1, i, '\\' :: c :: rest =>
    if c.isDigit then
      match rest with
      | d :: e :: tl =>
        if d.isDigit ∧ isOctDigit c ∧ isOctDigit d ∧ isOctDigit e then
          if digitsValue 8 [c, d, e] ≤ 0o377 then
            (.lit (Char.ofNat (digitsValue 8 [c, d, e])) :: ·) <$> parseTemplate template fuel (i + 4) tl
          else .error (reError template
            ("octal escape value \\" ++ String.mk [c, d, e] ++ " outside of range 0-0o377") i)
        else if d.isDigit then
          .error (reError template ("invalid group reference " ++ String.mk [c, d]) (i + 1))
        else .error (reError template ("invalid group reference " ++ c.toString) (i + 1))
      | [d] =>
        if d.isDigit then
          .error (reError template ("invalid group reference " ++ String.mk [c, d]) (i + 1))
        else .error (reError template ("invalid group reference " ++ c.toString) (i + 1))
      | [] => .error (reError template ("invalid group reference " ++ c.toString) (i + 1))
    else
      match templateEscape c with
      | some e => (.lit e :: ·) <$> parseTemplate template fuel (i + 2) rest
      | none =>
        if isAsciiLetter c then .error (reError template ("bad escape \\" ++ c.toString) i)
        else (fun items => .lit '\\' :: .lit c :: items) <$> parseTemplate template fuel (i + 2) rest
  | fuel + 1, i, c :: rest => (.lit c :: ·) <$> parseTemplate template fuel (i + 1) rest

/-- The template `re.sub` compiles from the replacement string `repl`. -/
def compileTemplate (repl : List Char) : Except String (List TemplateItem) :=
  parseTemplate repl (repl.length + 1) 0 repl

/-- The replacement `re.sub` writes for one match of a compiled template. -/
def expandTemplate (items : List TemplateItem) (whole : List Char) : List Char :=
  items.flatMap fun
    | .lit c => [c]
    | .wholeMatch => whole

/-- A replacement without a backslash is taken literally. -/
theorem parseTemplate_of_no_backslash (template : List Char) (fuel i : Nat) (s : List Char)
    (h : '\\' ∉ s) (hfuel : s.length ≤ fuel) :
    parseTemplate template fuel i s = .ok (s.map .lit) := by
  induction s generalizing fuel i with
  | nil => cases fuel <;> rfl
  | cons c cs ih =>
    obtain ⟨fuel, rfl⟩ := Nat.exists_eq_add_one_of_ne_zero (by simp at hfuel; omega : fuel ≠ 0)
    have hc : c ≠ '\\' := fun hc => h (hc ▸ List.mem_cons_self c cs)
    have hcs : '\\' ∉ cs := fun hm => h (List.mem_cons_of_mem c hm)
    -- the last arm: every arm before it starts with a backslash
    rw [parseTemplate.eq_10 _ _ _ _ _ (fun e => absurd e hc) (fun _ e => absurd e hc)
      (fun _ e => absurd e hc) (fun _ e => absurd e hc) (fun _ _ e => absurd e hc),
      ih fuel (i + 1) hcs (by simpa using hfuel)]
    rfl

theorem compileTemplate_of_no_backslash {repl : List Char} (h : '\\' ∉ repl) :
    compileTemplate repl = .ok (repl.map .lit) :=
  parseTemplate_of_no_backslash _ _ _ _ h (Nat.le_succ _)

example : compileTemplate "a\\q-".toList = .error "bad escape \\q at position 1" := rfl
example : compileTemplate "\\g<0>-".toList = .ok [.wholeMatch, .lit '-'] := rfl

end HealthCheck
