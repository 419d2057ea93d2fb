import HealthCheck.Python.Value

/-!
# HealthCheck — Python string operations

The string operations of the placeholder resolver, the CSV renderer and the validators, on the
characters of a string (`List Char`):

* `occurs` — Python's `pat in s`;
* `Matcher.scan` — the left-to-right, non-overlapping scan that `re.sub` and `str.replace` make: a
  match at the current position is taken whole and the scan resumes after it, otherwise one
  character is copied;
* `pyReplace` — `str.replace(old, new)`;
* `isPySpace` — the characters `\s` matches in a `str` pattern.

The scan is structurally recursive, with a counter for the characters of the last match still to
pass over, so `decide` runs it, and `scan_text` (the pieces spell the text back) is a plain
induction.
-/

namespace HealthCheck

@[simp] theorem toList_append (s t : String) : (s ++ t).toList = s.toList ++ t.toList := rfl

/-- `pat in s`: `pat` occurs in `s` at some position; the empty string occurs everywhere. -/
def occurs (pat : List Char) : List Char → Bool
  | [] => pat.isPrefixOf []
  | c :: cs => pat.isPrefixOf (c :: cs) || occurs pat cs

theorem occurs_iff_isInfix {pat s : List Char} : occurs pat s = true ↔ pat <:+: s := by
  induction s with
  | nil => simp [occurs, List.isPrefixOf_iff_prefix]
  | cons c cs ih => simp [occurs, ih, List.isPrefixOf_iff_prefix, List.infix_cons_iff]

theorem occurs_eq_false_iff {pat s : List Char} : occurs pat s = false ↔ ¬ pat <:+: s := by
  rw [← occurs_iff_isInfix]; simp

/-- `needle in hay`: a substring test in a string, `==` membership in a list, key membership in a
dict. -/
def PyVal.contains (hay needle : PyVal) : Except String Bool :=
  match hay, needle with
  | .str h, .str n => .ok (occurs n.toList h.toList)
  | .str _, n => .error ("'in <string>' requires string as left operand, not " ++ n.typeName)
  | .list xs, n => .ok (xs.any (PyVal.pyEq n))
  | .dict kvs, .str k => .ok (kvs.lookup k).isSome
  | .dict _, .list _ => .error "unhashable type: 'list'"
  | .dict _, .dict _ => .error "unhashable type: 'dict'"
  | .dict _, _ => .ok false
  | h, _ => .error ("argument of type '" ++ h.typeName ++ "' is not iterable")

@[simp] theorem PyVal.contains_str (h n : String) :
    (PyVal.str h).contains (.str n) = .ok (occurs n.toList h.toList) := rfl

/-- `n in names` on a list of strings is list membership. -/
theorem PyVal.contains_list_str (names : List String) (n : String) :
    (PyVal.list (names.map .str)).contains (.str n) = .ok (decide (n ∈ names)) := by
  show Except.ok ((names.map PyVal.str).any (PyVal.pyEq (.str n))) = _
  rw [any_map_str]
  congr 1
  rw [Bool.eq_iff_iff, List.any_eq_true, decide_eq_true_eq]
  simp only [PyVal.pyEq_str, beq_iff_eq]
  exact ⟨fun ⟨_, ha, he⟩ => he ▸ ha, fun h => ⟨n, h, rfl⟩⟩

/-! ## The `re.sub` scan -/

/-- A piece of a text cut by a scan: a character outside every match, or a whole match. -/
inductive Piece where
  | lit (c : Char)
  | hit (m : List Char)

/-- What a piece becomes when every match is replaced by `f` of its text. -/
def Piece.render (f : List Char → List Char) : Piece → List Char
  | .lit c => [c]
  | .hit m => f m

/-- The characters a piece stands for. -/
def Piece.text : Piece → List Char := Piece.render id

/-- A matcher anchored at the head of the text: `find l` is the length of the match that starts
where `l` starts, if there is one. A match is never empty. -/
structure Matcher where
  find : List Char → Option Nat
  find_pos : ∀ l n, find l = some n → 0 < n

/-- The pieces `re.sub` cuts a text into. `skip` counts the characters of the last match still
to pass over; a scan starts with `skip = 0`. -/
def Matcher.scan (m : Matcher) : Nat → List Char → List Piece
  | _, [] => []
  | skip + 1, _ :: cs => m.scan skip cs
  | 0, c :: cs =>
    match m.find (c :: cs) with
    | some n => .hit ((c :: cs).take n) :: m.scan (n - 1) cs
    | none => .lit c :: m.scan 0 cs

namespace Matcher

variable (m : Matcher)

@[simp] theorem scan_nil (k : Nat) : m.scan k [] = [] := by cases k <;> rfl

theorem scan_zero_cons (c : Char) (cs : List Char) :
    m.scan 0 (c :: cs) = match m.find (c :: cs) with
      | some n => .hit ((c :: cs).take n) :: m.scan (n - 1) cs
      | none => .lit c :: m.scan 0 cs := rfl

/-- Passing over the rest of a match is dropping it. -/
theorem scan_skip (k : Nat) (s : List Char) : m.scan k s = m.scan 0 (s.drop k) := by
  induction s generalizing k with
  | nil => simp
  | cons c cs ih =>
    cases k with
    | zero => rfl
    | succ k => simp only [scan, ih, List.drop_succ_cons]

/-- **The pieces spell the text back**: a scan loses and adds no character. -/
theorem scan_text (k : Nat) (s : List Char) : (m.scan k s).flatMap Piece.text = s.drop k := by
  induction s generalizing k with
  | nil => simp
  | cons c cs ih =>
    cases k with
    | succ k => exact ih k
    | zero =>
      rw [scan_zero_cons]
      cases hf : m.find (c :: cs) with
      | none => simp only [List.flatMap_cons, ih]; rfl
      | some n =>
        obtain ⟨n, rfl⟩ := Nat.exists_eq_add_one_of_ne_zero (m.find_pos _ _ hf).ne'
        simp only [List.flatMap_cons, ih, Nat.add_sub_cancel, List.drop_zero]
        exact List.take_append_drop (n + 1) (c :: cs)

/-- Where no match starts at any non-empty suffix, the scan copies every character. -/
theorem scan_of_no_match {s : List Char} (h : ∀ t, t <:+ s → t ≠ [] → m.find t = none) :
    m.scan 0 s = s.map .lit := by
  induction s with
  | nil => rfl
  | cons c cs ih =>
    rw [scan_zero_cons, h _ (List.suffix_refl _) (List.cons_ne_nil _ _)]
    exact congrArg _ (ih fun t ht => h t (ht.trans (List.suffix_cons _ _)))

end Matcher

@[simp] theorem flatMap_map_lit_render (f : List Char → List Char) (s : List Char) :
    (s.map Piece.lit).flatMap (Piece.render f) = s := by
  induction s with
  | nil => rfl
  | cons c cs ih => simp [Piece.render, ih]

/-! ## `str.replace` -/

/-- The matcher of a fixed, non-empty pattern: `str.replace`, and `re.sub` with an escaped one. -/
def Matcher.literal (pat : List Char) (h : pat ≠ []) : Matcher where
  find l := if pat.isPrefixOf l then some pat.length else none
  find_pos l n hf := by
    simp only at hf
    split at hf
    · cases hf; exact List.length_pos.mpr h
    · cases hf

/-- `s.replace(old, new)`. An empty `old` matches before and after every character. -/
def pyReplace (old new s : List Char) : List Char :=
  if h : old = [] then new ++ s.flatMap (· :: new)
  else ((Matcher.literal old h).scan 0 s).flatMap (Piece.render fun _ => new)

/-- The literal matcher finds nothing in a text the pattern does not occur in. -/
theorem Matcher.literal_no_match {pat s : List Char} (h : pat ≠ []) (hs : occurs pat s = false) :
    ∀ t, t <:+ s → t ≠ [] → (Matcher.literal pat h).find t = none := by
  intro t ht _
  have hnot : ¬ pat <+: t := fun hp =>
    occurs_eq_false_iff.mp hs (hp.isInfix.trans ht.isInfix)
  simp [Matcher.literal, List.isPrefixOf_iff_prefix, hnot]

/-- `str.replace` leaves a text alone when the pattern does not occur in it. -/
theorem pyReplace_of_not_occurs {old s : List Char} (new : List Char) (h : occurs old s = false) :
    pyReplace old new s = s := by
  have hne : old ≠ [] := by rintro rfl; cases s <;> simp [occurs] at h
  simp [pyReplace, hne, Matcher.scan_of_no_match _ (Matcher.literal_no_match hne h)]

example : pyReplace "a-a-".toList "a-".toList "a-a-a-".toList = "a-a-".toList := by decide

/-- Replacing one character rewrites each of its occurrences on its own. -/
theorem pyReplace_singleton (a : Char) (new s : List Char) :
    pyReplace [a] new s = s.flatMap fun c => if c = a then new else [c] := by
  simp only [pyReplace, List.cons_ne_nil, dite_false]
  induction s with
  | nil => rfl
  | cons c cs ih =>
    have hfind : (Matcher.literal [a] (List.cons_ne_nil _ _)).find (c :: cs) =
        if c = a then some 1 else none := by
      by_cases h : c = a <;> simp [Matcher.literal, h, Ne.symm]
    rw [Matcher.scan_zero_cons, hfind]
    by_cases h : c = a <;> simp [h, Piece.render, ih]

/-- `v.replace(old, new)`: only a string has a `replace` method. -/
def PyVal.replace (v : PyVal) (old new : String) : Except String String :=
  match v with
  | .str s => .ok ⟨pyReplace old.toList new.toList s.toList⟩
  | v => .error ("'" ++ v.typeName ++ "' object has no attribute 'replace'")

/-! ## `\s` -/

/-- The characters `\s` matches in a `str` pattern, those `str.isspace()` accepts: `\t`–`\r`,
`\x1c`–`\x1f`, space, and Unicode's other spaces and line and paragraph separators. -/
def isPySpace (c : Char) : Bool :=
  let n := c.toNat
  (0x09 ≤ n && n ≤ 0x0d) || (0x1c ≤ n && n ≤ 0x20) || n == 0x85 || n == 0xa0 || n == 0x1680 ||
    (0x2000 ≤ n && n ≤ 0x200a) || n == 0x2028 || n == 0x2029 || n == 0x202f || n == 0x205f ||
    n == 0x3000

/-! ## String methods -/

/-- `v.split(sep)[-1]`: the part after the last `sep`, the whole string when there is none; only a
string has `split`. -/
def PyVal.splitLast (v : PyVal) (sep : Char) : Except String String :=
  match v with
  | .str s => .ok (String.mk ((s.toList.splitOn sep).getLastD []))
  | v => .error ("'" ++ v.typeName ++ "' object has no attribute 'split'")

/-- `v.startswith(p)`. -/
def PyVal.startsWith (v : PyVal) (p : List Char) : Except String Bool :=
  match v with
  | .str s => .ok (p.isPrefixOf s.toList)
  | v => .error ("'" ++ v.typeName ++ "' object has no attribute 'startswith'")

/-- `v.strip()`: the string without its leading and trailing whitespace. -/
def PyVal.strip (v : PyVal) : Except String String :=
  match v with
  | .str s => .ok (String.mk ((s.toList.dropWhile isPySpace).reverse.dropWhile isPySpace).reverse)
  | v => .error ("'" ++ v.typeName ++ "' object has no attribute 'strip'")

/-- The strings of `sep.join(items)`, from the `i`-th item on: every item must be a string. -/
def strItems : Nat → List PyVal → Except String (List String)
  | _, [] => .ok []
  | i, .str s :: vs => (s :: ·) <$> strItems (i + 1) vs
  | i, v :: _ => .error ("sequence item " ++ toString i ++ ": expected str instance, " ++
      v.typeName ++ " found")

/-- `sep.join(items)`. -/
def joinStr (sep : String) (items : List PyVal) : Except String String :=
  sep.intercalate <$> strItems 0 items

@[simp] theorem strItems_map_str (i : Nat) (ss : List String) :
    strItems i (ss.map .str) = .ok ss := by
  induction ss generalizing i with
  | nil => rfl
  | cons s ss ih => simp only [List.map_cons, strItems, ih]; rfl

end HealthCheck
