import Mathlib.Data.List.Nodup
import Mathlib.Data.List.Infix

/-!
# Python values at the core's boundary

The breaker and the consumer exchange three kinds of Python value with their
collaborators: exceptions, JSON documents (Kafka record values and
dead-letter envelopes) and insertion-ordered dicts (the commit offsets).  An
exception is seen only through `type(e).__name__` and `str(e)`, which is all
the core ever reads of one.
-/

namespace ResilienceCore

/-- A raised exception, as `type(e).__name__` and `str(e)`. -/
structure PyException where
  typeName : String
  text : String
  deriving DecidableEq, Repr

/-- A JSON document, as `json.loads` returns it and `json.dumps` takes it. -/
inductive Json where
  | null
  | bool (b : Bool)
  | num (n : Int)
  | str (s : String)
  | arr (items : List Json)
  | obj (fields : List (String × Json))
  deriving Repr, Inhabited

def Json.get? : Json → String → Option Json
  | .obj fields, key => (fields.find? fun field => field.1 == key).map (·.2)
  | _, _ => none

def Json.typeName : Json → String
  | .null => "NoneType"
  | .bool _ => "bool"
  | .num _ => "int"
  | .str _ => "str"
  | .arr _ => "list"
  | .obj _ => "dict"

/-- `AttributeError` for a method the value's type does not have, such as
`.get` on a value that is not a dict. -/
def Json.noAttribute (v : Json) (name : String) : PyException :=
  ⟨"AttributeError", "'" ++ v.typeName ++ "' object has no attribute '" ++ name ++ "'"⟩

def Json.notIterable (v : Json) : PyException :=
  ⟨"TypeError", "argument of type '" ++ v.typeName ++ "' is not iterable"⟩

/-- The truth value an `if` gives a JSON value. -/
def Json.truthy : Json → Bool
  | .null => false
  | .bool b => b
  | .num n => n != 0
  | .str s => s != ""
  | .arr items => !items.isEmpty
  | .obj fields => !fields.isEmpty

def Json.pyOr : List Json → Json → Json
  | [], last => last
  | v :: vs, last => if v.truthy then v else Json.pyOr vs last

def hexByte (n : ℕ) : String :=
  let digits := Nat.toDigits 16 n
  String.mk (if digits.length < 2 then '0' :: digits else digits)

/-- `repr(s)`: single quotes, or double quotes when `s` holds a single quote
and no double quote; the backslash, the quote in use, `\n`, `\r` and `\t` are
escaped, and the other characters below 256 that are not printable as `\xhh`.
Characters above 255 are written as they are. -/
def pyReprStr (s : String) : String :=
  let double := s.toList.any (·.toNat = 39) && !s.toList.any (·.toNat = 34)
  let quote := if double then "\"" else "'"
  let escape (c : Char) : String :=
    if c.toNat = 92 then "\\\\"
    else if c.toNat = (if double then 34 else 39) then "\\" ++ c.toString
    else if c.toNat = 10 then "\\n"
    else if c.toNat = 13 then "\\r"
    else if c.toNat = 9 then "\\t"
    else if c.toNat < 32 ∨ (127 ≤ c.toNat ∧ c.toNat ≤ 160) ∨ c.toNat = 173 then "\\x" ++ hexByte c.toNat
    else c.toString
  quote ++ String.join (s.toList.map escape) ++ quote

def Json.subscript (v : Json) (key : String) : Except PyException Json :=
  match v with
  | .obj fields =>
      match (fields.find? fun field => field.1 == key) with
      | some field => .ok field.2
      | none => .error ⟨"KeyError", pyReprStr key⟩
  | .arr _ => .error ⟨"TypeError", "list indices must be integers or slices, not str"⟩
  | .str _ => .error ⟨"TypeError", "string indices must be integers, not 'str'"⟩
  | v => .error ⟨"TypeError", "'" ++ v.typeName ++ "' object is not subscriptable"⟩

def Json.eqStr : Json → String → Bool
  | .str t, s => t == s
  | _, _ => false

mutual
def Json.pyRepr : Json → String
  | .null => "None"
  | .bool b => if b then "True" else "False"
  | .num n => toString n
  | .str s => pyReprStr s
  | .arr items => "[" ++ Json.reprItems items ++ "]"
  | .obj fields => "\x7b" ++ Json.reprFields fields ++ "\x7d"
def Json.reprItems : List Json → String
  | [] => ""
  | [v] => v.pyRepr
  | v :: vs => v.pyRepr ++ ", " ++ Json.reprItems vs
def Json.reprFields : List (String × Json) → String
  | [] => ""
  | [(key, v)] => pyReprStr key ++ ": " ++ v.pyRepr
  | (key, v) :: fields => pyReprStr key ++ ": " ++ v.pyRepr ++ ", " ++ Json.reprFields fields
end

/-- `str(v)`, which is what an f-string writes. -/
def Json.pyStr : Json → String
  | .str s => s
  | v => v.pyRepr

/-! ## Insertion-ordered dicts -/

section Dict

variable {κ α : Type} [DecidableEq κ]

/-- `d[key] = value`: a present key keeps its place, a new key goes last. -/
def dictSet (d : List (κ × α)) (key : κ) (value : α) : List (κ × α) :=
  if d.any (·.1 = key) then
    d.map fun entry => if entry.1 = key then (key, value) else entry
  else d ++ [(key, value)]

/-- `dict(pairs)`: later pairs overwrite earlier ones with the same key. -/
def pyDict (pairs : List (κ × α)) : List (κ × α) :=
  pairs.foldl (fun d pair => dictSet d pair.1 pair.2) []

def dictKeys (d : List (κ × α)) : List κ := d.map (·.1)

/-- `del d[key]` on a key that is present. -/
def dictDel (d : List (κ × α)) (key : κ) : List (κ × α) := d.filter (·.1 ≠ key)

/-- `d[key]`, or `None` for a missing key. -/
def dictGet (d : List (κ × α)) (key : κ) : Option α :=
  (d.find? (·.1 = key)).map (·.2)

def dictGetD (d : List (κ × α)) (key : κ) (default : α) : α := (dictGet d key).getD default

@[simp] theorem dictGet_nil (key : κ) : dictGet ([] : List (κ × α)) key = none := rfl

theorem mem_dictKeys_iff (d : List (κ × α)) (key : κ) : key ∈ dictKeys d ↔ dictGet d key ≠ none := by
  simp [dictKeys, dictGet, List.find?_eq_none]

@[simp] theorem dictGet_cons (entry : κ × α) (d : List (κ × α)) (key : κ) :
    dictGet (entry :: d) key = if entry.1 = key then some entry.2 else dictGet d key := by
  by_cases h : entry.1 = key <;> simp [dictGet, List.find?_cons, h]

@[simp] theorem dictGet_append (d d' : List (κ × α)) (key : κ) :
    dictGet (d ++ d') key = (dictGet d key).or (dictGet d' key) := by
  induction d with
  | nil => rfl
  | cons entry d ih => by_cases h : entry.1 = key <;> simp [h, ih]

@[simp] theorem dictGet_dictDel (d : List (κ × α)) (key k : κ) :
    dictGet (dictDel d key) k = if k = key then none else dictGet d k := by
  induction d with
  | nil => simp [dictDel]
  | cons entry d ih =>
      simp only [dictDel] at ih ⊢
      by_cases he : entry.1 = key <;> by_cases hk : entry.1 = k <;>
        simp_all [List.filter_cons, Ne.symm]

theorem dictGet_ne_none {d : List (κ × α)} {key : κ} (h : d.any (·.1 = key)) :
    dictGet d key ≠ none := by
  obtain ⟨⟨a, b⟩, hmem, he⟩ := List.any_eq_true.1 h
  simp only [decide_eq_true_eq] at he
  subst he
  simpa [dictGet, List.find?_eq_none] using ⟨b, hmem⟩

private theorem dictGet_append_new {d : List (κ × α)} {key : κ} (h : ∀ entry ∈ d, entry.1 ≠ key)
    (value : α) (k : κ) :
    dictGet (d ++ [(key, value)]) k = if k = key then some value else dictGet d k := by
  induction d with
  | nil => by_cases hk : k = key <;> simp [hk, Ne.symm]
  | cons entry d ih =>
      have he := h entry (List.mem_cons_self _ _)
      rw [List.cons_append, dictGet_cons, dictGet_cons, ih fun e he' => h e (List.mem_cons_of_mem _ he')]
      by_cases hk : entry.1 = k
      · subst hk; simp [he]
      · simp [hk]

private theorem dictGet_map_replace (d : List (κ × α)) (key k : κ) (value : α) :
    dictGet (d.map fun entry => if entry.1 = key then (key, value) else entry) k =
      if k = key then (dictGet d k).map fun _ => value else dictGet d k := by
  induction d with
  | nil => simp
  | cons entry d ih =>
      by_cases he : entry.1 = key <;> by_cases hk : entry.1 = k
      · subst he; subst hk; simp
      · subst he; simp [hk, ih, Ne.symm hk]
      · subst hk; simp [he, ih, Ne.symm he]
      · simp [he, hk, ih]

@[simp] theorem dictGet_dictSet (d : List (κ × α)) (key k : κ) (value : α) :
    dictGet (dictSet d key value) k = if k = key then some value else dictGet d k := by
  unfold dictSet
  split
  · rename_i hany
    rw [dictGet_map_replace]
    split
    · subst k
      cases h : dictGet d key
      · exact absurd h (dictGet_ne_none hany)
      · rfl
    · rfl
  · rename_i hnone
    refine dictGet_append_new (fun entry hmem he => hnone ?_) value k
    exact List.any_eq_true.2 ⟨entry, hmem, by simpa using he⟩

theorem mem_of_dictGet {d : List (κ × α)} {key : κ} {value : α} (h : dictGet d key = some value) :
    (key, value) ∈ d := by
  obtain ⟨⟨k, v⟩, hfind, rfl⟩ := Option.map_eq_some'.1 h
  obtain rfl : k = key := by simpa using List.find?_some hfind
  exact List.mem_of_find?_eq_some hfind

theorem mem_dictSet {d : List (κ × α)} {key : κ} {value : α} {entry : κ × α} (h : entry ∈ dictSet d key value) :
    entry ∈ d ∨ entry = (key, value) := by
  unfold dictSet at h
  split at h
  · obtain ⟨e, he, rfl⟩ := List.mem_map.1 h
    by_cases hk : e.1 = key <;> simp [hk, he]
  · simpa using h

theorem dictKeys_dictSet_nodup (d : List (κ × α)) (key : κ) (value : α)
    (h : (dictKeys d).Nodup) : (dictKeys (dictSet d key value)).Nodup := by
  unfold dictSet dictKeys at *
  split
  · rename_i hany
    have : (d.map fun entry => if entry.1 = key then (key, value) else entry).map (·.1) =
        d.map (·.1) := by
      simp only [List.map_map]
      exact List.map_congr_left fun entry _ => by by_cases he : entry.1 = key <;> simp [he]
    rwa [this]
  · rename_i hnone
    simp only [List.map_append, List.map_cons, List.map_nil]
    refine List.nodup_append.2 ⟨h, List.nodup_singleton _, ?_⟩
    simp only [List.disjoint_singleton, List.mem_map, not_exists, not_and]
    intro entry hmem heq
    exact hnone (List.any_eq_true.2 ⟨entry, hmem, by simp [heq]⟩)

end Dict

def Json.pyGet (v : Json) (key : String) (default : Json) : Except PyException Json :=
  match v with
  | .obj fields => .ok (dictGetD fields key default)
  | v => .error (v.noAttribute "get")

def Json.pyContains (v : Json) (item : String) : Except PyException Bool :=
  match v with
  | .arr items => .ok (items.any (·.eqStr item))
  | .obj fields => .ok (fields.any (·.1 = item))
  | .str s => .ok (decide (item.toList <:+: s.toList))
  | v => .error v.notIterable

def Json.pyLen : Json → Except PyException ℕ
  | .str s => .ok s.length
  | .arr items => .ok items.length
  | .obj fields => .ok fields.length
  | v => .error ⟨"TypeError", "object of type '" ++ v.typeName ++ "' has no len()"⟩

/-- `for x in v`: a list gives its items, a dict its keys, a string its
characters. -/
def Json.pyIter : Json → Except PyException (List Json)
  | .arr items => .ok items
  | .obj fields => .ok (fields.map fun field => .str field.1)
  | .str s => .ok (s.toList.map fun c => .str c.toString)
  | v => .error ⟨"TypeError", "'" ++ v.typeName ++ "' object is not iterable"⟩

def Json.pyItems : Json → Except PyException (List (String × Json))
  | .obj fields => .ok fields
  | v => .error (v.noAttribute "items")

/-- `v > n` for an `int` `n`; a `bool` compares as 0 or 1. -/
def Json.pyGt (v : Json) (n : ℤ) : Except PyException Bool :=
  match v with
  | .num m => .ok (decide (n < m))
  | .bool b => .ok (decide (n < if b then 1 else 0))
  | v => .error ⟨"TypeError", "'>' not supported between instances of '" ++ v.typeName ++ "' and 'int'"⟩

def Json.pyPath : Json → Except PyException String
  | .str s => .ok s
  | v => .error ⟨"TypeError", "expected str, bytes or os.PathLike object, not " ++ v.typeName⟩

theorem Json.pyGet_eq_ok {v : Json} {key : String} {default r : Json} :
    v.pyGet key default = .ok r ↔ ∃ fields, v = .obj fields ∧ dictGetD fields key default = r := by
  cases v <;> simp [Json.pyGet]

theorem Json.subscript_eq_ok {v : Json} {key : String} {r : Json} :
    v.subscript key = .ok r ↔ ∃ fields, v = .obj fields ∧ dictGet fields key = some r := by
  cases v with
  | obj fields =>
      have hfind : fields.find? (fun field => field.1 == key) = fields.find? (·.1 = key) := rfl
      simp only [Json.subscript, dictGet, hfind]
      rcases h : fields.find? (·.1 = key) with _ | ⟨k, x⟩ <;> simp [h]
  | _ => simp [Json.subscript]

theorem Json.eqStr_iff {v : Json} {s : String} : v.eqStr s = true ↔ v = .str s := by
  cases v <;> simp [Json.eqStr]

theorem dictGet_of_dictGetD {d : List (String × Json)} {key : String} {default value : Json}
    (h : dictGetD d key default = value) (hne : value ≠ default) : dictGet d key = some value := by
  unfold dictGetD at h
  cases hget : dictGet d key <;> simp_all

theorem any_key_of_dictGet {d : List (String × Json)} {key : String} {value : Json}
    (h : dictGet d key = some value) : d.any (·.1 = key) = true :=
  List.any_eq_true.2 ⟨_, mem_of_dictGet h, by simp⟩

theorem Except.bind_eq_ok {ε α β : Type} {x : Except ε α} {f : α → Except ε β} {b : β} :
    x >>= f = .ok b ↔ ∃ a, x = .ok a ∧ f a = .ok b := by
  cases x <;> simp [bind, Except.bind]

end ResilienceCore
