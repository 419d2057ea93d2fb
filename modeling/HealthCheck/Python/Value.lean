import Mathlib

/-!
# HealthCheck — Python values

The health check passes JSON-shaped Python values between its parts: the expectation document the
placeholder resolver walks (`utils/placeholder_utils.py`), the reports the validators return, and
the dicts the collector (`core/multithreading.py`) and the report generator (`core/reporting.py`)
read. `PyVal` is that fragment of Python's object model: `None`, booleans, integers, strings, lists,
and dicts with string keys kept in insertion order.

The operations are the few the code applies to such values: `dict.get`, `==` and `>=` against an
integer, iteration in a `for` loop, and `str()` inside an f-string. Where Python raises (`.get` on a
non-dict, iterating `None`, `None >= 400`) the model returns `Except.error` carrying `str(e)`, the
text the collector writes into its error list.
-/

namespace HealthCheck

/-- A JSON-shaped Python value. A dict keeps insertion order; the dicts the code builds never
repeat a key, and `get` reads the first binding. -/
inductive PyVal where
  | none
  | bool (b : Bool)
  | int (n : Int)
  | str (s : String)
  | list (xs : List PyVal)
  | dict (kvs : List (String × PyVal))
  deriving Inhabited

namespace PyVal

/-- `type(v).__name__`, as the texts of Python's exceptions name it. -/
def typeName : PyVal → String
  | none => "NoneType"
  | bool _ => "bool"
  | int _ => "int"
  | str _ => "str"
  | list _ => "list"
  | dict _ => "dict"

/-- `v.get(key)`: the binding of `key` in a dict; no other value has a `get` method. -/
def get (v : PyVal) (key : String) : Except String (Option PyVal) :=
  match v with
  | dict kvs => .ok (kvs.lookup key)
  | v => .error ("'" ++ v.typeName ++ "' object has no attribute 'get'")

/-- `v.get(key, default)`. -/
def getD (v : PyVal) (key : String) (default : PyVal) : Except String PyVal :=
  (·.getD default) <$> v.get key

/-- `bool(v)`, Python truthiness. -/
def truthy : PyVal → Bool
  | none => false
  | bool b => b
  | int n => n != 0
  | str s => s != ""
  | list xs => !xs.isEmpty
  | dict kvs => !kvs.isEmpty

/-- The number a bool or an int stands for in a comparison. -/
def num? : PyVal → Option Int
  | bool b => some (if b then 1 else 0)
  | int n => some n
  | _ => Option.none

mutual
/-- `a == b`: lists compare item by item, dicts by their bindings in any order, and a bool equals
the int it stands for. -/
def pyEq : PyVal → PyVal → Bool
  | none, none => true
  | str a, str b => a == b
  | list xs, list ys => pyEqList xs ys
  | dict a, dict b => a.length == b.length && pyEqDict a b
  | a, b => a.num?.isSome && a.num? == b.num?

/-- Item-wise `==` of two lists. -/
def pyEqList : List PyVal → List PyVal → Bool
  | [], [] => true
  | x :: xs, y :: ys => pyEq x y && pyEqList xs ys
  | _, _ => false

/-- Every binding of the first dict is bound to an equal value in the second. -/
def pyEqDict : List (String × PyVal) → List (String × PyVal) → Bool
  | [], _ => true
  | (k, v) :: kvs, other =>
    (match other.lookup k with
     | some w => pyEq v w
     | Option.none => false) && pyEqDict kvs other
end

/-- `v == n` for an integer `n`. A bool compares as `0` or `1`; no other type equals an int. -/
def eqInt (v : PyVal) (n : Int) : Bool :=
  match v with
  | int m => m == n
  | bool b => (if b then 1 else 0) == n
  | _ => false

/-- `v >= n` for an integer `n`; Python refuses the comparison for non-numbers. -/
def geInt (v : PyVal) (n : Int) : Except String Bool :=
  match v with
  | int m => .ok (decide (n ≤ m))
  | bool b => .ok (decide (n ≤ if b then 1 else 0))
  | v => .error ("'>=' not supported between instances of '" ++ v.typeName ++ "' and 'int'")

/-- The items a `for` loop visits: a list's elements, a dict's keys, a string's characters. -/
def iter : PyVal → Except String (List PyVal)
  | list xs => .ok xs
  | dict kvs => .ok (kvs.map fun kv => str kv.1)
  | str s => .ok (s.toList.map fun c => str c.toString)
  | v => .error ("'" ++ v.typeName ++ "' object is not iterable")

/-- `len(v)`. -/
def len : PyVal → Except String Nat
  | list xs => .ok xs.length
  | dict kvs => .ok kvs.length
  | str s => .ok s.length
  | v => .error ("object of type '" ++ v.typeName ++ "' has no len()")

/-- Two lowercase hex digits, as `repr` writes `\x01`. -/
def hex2 (n : Nat) : String :=
  ⟨[Nat.digitChar (n / 16 % 16), Nat.digitChar (n % 16)]⟩

/-- One character of a string's `repr` under the quote `q`. Non-ASCII characters are written as
they are (Python also escapes the non-printable ones). -/
def reprChar (q c : Char) : String :=
  if c = q ∨ c = '\\' then "\\" ++ c.toString
  else if c = '\t' then "\\t"
  else if c = '\n' then "\\n"
  else if c = '\r' then "\\r"
  else if c.toNat < 0x20 ∨ c.toNat = 0x7f then "\\x" ++ hex2 c.toNat
  else c.toString

/-- `repr(s)` of a string: single quotes, unless the text holds a single quote and no double one. -/
def reprStr (s : String) : String :=
  let q := if s.toList.contains '\'' && !s.toList.contains '"' then '"' else '\''
  q.toString ++ String.join (s.toList.map (reprChar q)) ++ q.toString

mutual
/-- `repr(v)`, the way a value is printed inside a list or a dict. -/
def repr : PyVal → String
  | none => "None"
  | bool b => if b then "True" else "False"
  | int n => toString n
  | str s => reprStr s
  | list xs => "[" ++ reprItems xs ++ "]"
  | dict kvs => "\x7b" ++ reprEntries kvs ++ "\x7d"

/-- The comma-separated `repr`s of a list's items. -/
def reprItems : List PyVal → String
  | [] => ""
  | [x] => repr x
  | x :: xs => repr x ++ ", " ++ reprItems xs

/-- The comma-separated `key: value` entries of a dict. -/
def reprEntries : List (String × PyVal) → String
  | [] => ""
  | [(k, v)] => reprStr k ++ ": " ++ repr v
  | (k, v) :: kvs => reprStr k ++ ": " ++ repr v ++ ", " ++ reprEntries kvs
end

/-- `str(v)`, what an f-string writes for `v`: a string itself, anything else its `repr`. -/
def toStr : PyVal → String
  | str s => s
  | v => repr v

/-- `v[key]` for a string key: a dict's binding, `KeyError` without one. -/
def item (v : PyVal) (key : String) : Except String PyVal :=
  match v with
  | dict kvs =>
    match kvs.lookup key with
    | some x => .ok x
    | Option.none => .error (reprStr key)
  | list _ => .error "list indices must be integers or slices, not str"
  | str _ => .error "string indices must be integers, not 'str'"
  | v => .error ("'" ++ v.typeName ++ "' object is not subscriptable")

/-- `hash(v)`, as a set or a dict key needs it: lists and dicts are unhashable. -/
def hashable : PyVal → Except String PyVal
  | list _ => .error "unhashable type: 'list'"
  | dict _ => .error "unhashable type: 'dict'"
  | v => .ok v

/-- `v[0]`: a list's first item, a string's first character; a dict has no key `0` (its keys
are strings), and a scalar is not subscriptable. -/
def first : PyVal → Except String PyVal
  | list (x :: _) => .ok x
  | list [] => .error "list index out of range"
  | str s =>
    match s.toList with
    | c :: _ => .ok (str c.toString)
    | [] => .error "string index out of range"
  | dict _ => .error "0"
  | v => .error ("'" ++ v.typeName ++ "' object is not subscriptable")

@[simp] theorem get_dict (kvs : List (String × PyVal)) (key : String) :
    (dict kvs).get key = .ok (kvs.lookup key) := rfl

@[simp] theorem getD_dict (kvs : List (String × PyVal)) (key : String) (default : PyVal) :
    (dict kvs).getD key default = .ok ((kvs.lookup key).getD default) := rfl

@[simp] theorem iter_list (xs : List PyVal) : (list xs).iter = .ok xs := rfl

@[simp] theorem toStr_str (s : String) : (str s).toStr = s := rfl

@[simp] theorem pyEq_str (a b : String) : (str a).pyEq (str b) = (a == b) := rfl

/-- `.get` succeeds exactly on dicts. -/
theorem get_isOk_iff (v : PyVal) (key : String) :
    (∃ o, v.get key = .ok o) ↔ ∃ kvs, v = dict kvs := by
  cases v <;> simp [get]

example : (dict [("a", int 1), ("b", list [str "x'y", none])]).repr = "\x7b'a': 1, 'b': [\"x'y\", None]\x7d" := by
  decide

end PyVal

/-! ## Exceptions

Python's exceptions are `Except String`; a computation that goes on after a call goes on only
when the call returned. -/

theorem bind_eq_ok {ε α β : Type} {x : Except ε α} {f : α → Except ε β} {b : β} :
    x >>= f = .ok b ↔ ∃ a, x = .ok a ∧ f a = .ok b := by
  cases x <;> simp [bind, Except.bind]

@[simp] theorem pure_eq_ok {ε α : Type} (a : α) : (pure a : Except ε α) = .ok a := rfl

@[simp] theorem ok_bind {ε α β : Type} (a : α) (f : α → Except ε β) :
    (Except.ok a >>= f) = f a := rfl

@[simp] theorem error_bind {ε α β : Type} (e : ε) (f : α → Except ε β) :
    (Except.error e >>= f) = .error e := rfl

theorem map_eq_ok {ε α β : Type} {x : Except ε α} {f : α → β} {b : β} :
    f <$> x = .ok b ↔ ∃ a, x = .ok a ∧ f a = b := by
  cases x <;> simp [Functor.map, Except.map]


theorem foldlM_ok_of_forall {ε α β : Type} {f : β → α → Except ε β} {g : β → α → β} :
    ∀ {l : List α} {b : β}, (∀ a ∈ l, ∀ b, f b a = .ok (g b a)) → l.foldlM f b = .ok (l.foldl g b)
  | [], _, _ => rfl
  | a :: l, b, h => by
    rw [List.foldlM_cons, h a (List.mem_cons_self _ _), ok_bind, List.foldl_cons,
      foldlM_ok_of_forall fun a' ha' => h a' (List.mem_cons_of_mem _ ha')]

theorem mapM_eq_ok_map {ε α β : Type} {f : α → Except ε β} {g : α → β} :
    ∀ {l : List α}, (∀ a ∈ l, f a = .ok (g a)) → l.mapM f = .ok (l.map g)
  | [], _ => rfl
  | a :: l, h => by
    rw [List.mapM_cons, h a (List.mem_cons_self _ _),
      mapM_eq_ok_map fun b hb => h b (List.mem_cons_of_mem _ hb)]
    rfl

/-- Every value a `mapM` returns is the value of some input. -/
theorem mapM_ok_mem {ε α β : Type} {f : α → Except ε β} :
    ∀ {l : List α} {ys : List β}, l.mapM f = .ok ys → ∀ y ∈ ys, ∃ x ∈ l, f x = .ok y
  | [], ys, h => by cases h; simp
  | a :: l, ys, h => by
    rw [List.mapM_cons] at h
    obtain ⟨b, hb, h⟩ := bind_eq_ok.mp h
    obtain ⟨bs, hbs, h⟩ := bind_eq_ok.mp h
    cases h
    intro y hy
    rcases List.mem_cons.mp hy with rfl | hy
    · exact ⟨a, List.mem_cons_self _ _, hb⟩
    · obtain ⟨x, hx, hfx⟩ := mapM_ok_mem hbs y hy
      exact ⟨x, List.mem_cons_of_mem _ hx, hfx⟩

theorem mapM_congr_of_mem {ε α β : Type} {f g : α → Except ε β} :
    ∀ {l : List α}, (∀ a ∈ l, f a = g a) → l.mapM f = l.mapM g
  | [], _ => rfl
  | a :: l, h => by
    rw [List.mapM_cons, List.mapM_cons, h a (List.mem_cons_self _ _),
      mapM_congr_of_mem fun b hb => h b (List.mem_cons_of_mem _ hb)]

/-- A `mapM` that returns pairs each input with what `f` returned for it. -/
theorem mapM_eq_ok_forall₂ {ε α β : Type} {f : α → Except ε β} :
    ∀ {l : List α} {ys : List β}, l.mapM f = .ok ys → List.Forall₂ (fun x y => f x = .ok y) l ys
  | [], ys, h => by cases h; exact .nil
  | a :: l, ys, h => by
    rw [List.mapM_cons] at h
    obtain ⟨b, hb, h⟩ := bind_eq_ok.mp h
    obtain ⟨bs, hbs, h⟩ := bind_eq_ok.mp h
    cases h
    exact .cons hb (mapM_eq_ok_forall₂ hbs)

theorem mapM_eq_ok_of_forall₂ {ε α β : Type} {f : α → Except ε β} :
    ∀ {l : List α} {ys : List β}, List.Forall₂ (fun x y => f x = .ok y) l ys → l.mapM f = .ok ys
  | [], [], .nil => rfl
  | _ :: _, _ :: _, .cons h hs => by rw [List.mapM_cons, h, ok_bind, mapM_eq_ok_of_forall₂ hs]; rfl

theorem anyM_eq_ok_any {ε α : Type} {f : α → Except ε Bool} {g : α → Bool} :
    ∀ {l : List α}, (∀ a ∈ l, f a = .ok (g a)) → l.anyM f = .ok (l.any g)
  | [], _ => rfl
  | a :: l, h => by
    simp only [List.anyM, h a (List.mem_cons_self _ _), ok_bind, List.any_cons]
    cases g a
    · exact anyM_eq_ok_any fun b hb => h b (List.mem_cons_of_mem _ hb)
    · rfl

/-- An `anyM` whose tests answer, read on the values each test is about. -/
theorem anyM_eq_ok_of_forall₂ {ε α β : Type} {f : α → Except ε Bool} {g : β → Bool} :
    ∀ {l : List α} {bs : List β}, List.Forall₂ (fun a b => f a = .ok (g b)) l bs →
      l.anyM f = .ok (bs.any g)
  | [], [], .nil => rfl
  | _ :: _, b :: _, .cons h hs => by
    simp only [List.anyM, h, ok_bind, List.any_cons]
    cases g b
    · exact anyM_eq_ok_of_forall₂ hs
    · rfl

theorem filterAuxM_eq_ok {ε α : Type} {f : α → Except ε Bool} {g : α → Bool} :
    ∀ {l acc : List α}, (∀ a ∈ l, f a = .ok (g a)) →
      List.filterAuxM f l acc = .ok ((l.filter g).reverse ++ acc)
  | [], acc, _ => rfl
  | a :: l, acc, h => by
    simp only [List.filterAuxM, h a (List.mem_cons_self _ _), ok_bind,
      filterAuxM_eq_ok fun b hb => h b (List.mem_cons_of_mem _ hb), List.filter_cons]
    cases g a <;> simp

theorem filterM_eq_ok_filter {ε α : Type} {f : α → Except ε Bool} {g : α → Bool} {l : List α}
    (h : ∀ a ∈ l, f a = .ok (g a)) : l.filterM f = .ok (l.filter g) := by
  simp only [List.filterM, filterAuxM_eq_ok h, List.append_nil, ok_bind, List.reverse_reverse]
  rfl

/-- Any test over a list of strings, read on the strings. -/
theorem any_map_str (g : PyVal → Bool) :
    ∀ l : List String, (l.map PyVal.str).any g = l.any fun a => g (.str a)
  | [] => rfl
  | a :: l => by simp only [List.map_cons, List.any_cons, any_map_str g l]

theorem mapM_hashable_str : ∀ l : List String,
    (l.map PyVal.str).mapM PyVal.hashable = .ok (l.map .str)
  | [] => rfl
  | a :: l => by rw [List.map_cons, List.mapM_cons, mapM_hashable_str l]; rfl

/-! ## Sets -/

/-- `s.add(v)` on a set listed in insertion order: a value equal to a member leaves it as it is. -/
def setAdd (s : List PyVal) (v : PyVal) : List PyVal :=
  if s.any (PyVal.pyEq v) then s else s ++ [v]

/-- The members of the set built by adding the values of `vs` in turn, as a set comprehension
builds it: the first of each class of equal values. -/
def pySet (vs : List PyVal) : List PyVal := vs.foldl setAdd []

/-- An order in which a `for` loop may visit `set(vs)`: its members, in an order CPython draws from
their hashes, which it randomises per process for strings. -/
abbrev SetOrder (vs : List PyVal) : Type := {order : List PyVal // order.Perm (pySet vs)}

end HealthCheck
