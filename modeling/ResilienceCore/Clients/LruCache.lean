import ResilienceCore.Python

/-!
# `functools.lru_cache`

The feature-flags client and the discovery client each wrap a method in
`functools.lru_cache(maxsize=n)`.  The wrapper keeps the results of earlier
calls, keyed by the call's arguments, from least to most recently used.  It
first hashes the arguments: one that cannot be hashed, such as a dict, raises
`TypeError` before anything else happens.  On a hit it moves the entry last and
returns the stored result, and the method's body does not run.  On a miss it
runs the body; a result is stored last, after the least recently used entry is
dropped from a full cache, and an exception is passed on with nothing stored.
A key that was stored while the body ran keeps its entry.  `cache_clear()`
empties the cache.

The model follows the bounded wrapper, which both clients use (`maxsize` 1000
and 100).  The cache hangs on the function object, so one cache serves every
instance of the class; each model below has one client, and keeps the cache
beside the client's own state.
-/

namespace ResilienceCore

structure LruCache (κ α : Type) where
  maxsize : ℕ
  /-- Least recently used first. -/
  entries : List (κ × α)

/-- `TypeError: unhashable type: 'dict'`. -/
def unhashableDict : PyException := ⟨"TypeError", "unhashable type: 'dict'"⟩

namespace LruCache

variable {κ α σ : Type} [DecidableEq κ] (c : LruCache κ α)

def empty (maxsize : ℕ) : LruCache κ α := ⟨maxsize, []⟩

def lookup (key : κ) : Option α := dictGet c.entries key

/-- A hit moves the key's entry to the most recently used end. -/
def touch (key : κ) : LruCache κ α :=
  match c.lookup key with
  | some value => { c with entries := dictDel c.entries key ++ [(key, value)] }
  | none => c

/-- Storing a miss's result: a key stored meanwhile keeps its entry, and a full
cache drops its least recently used entry first. -/
def store (key : κ) (value : α) : LruCache κ α :=
  if c.entries.any (·.1 = key) then c
  else if c.maxsize ≤ c.entries.length then { c with entries := c.entries.tail ++ [(key, value)] }
  else { c with entries := c.entries ++ [(key, value)] }

def cacheClear : LruCache κ α := { c with entries := [] }

/-- What a miss passes on: a returned result is stored, an exception is not. -/
def storeResult (key : κ) : Except PyException α × LruCache κ α × σ → Except PyException α × LruCache κ α × σ
  | (.ok value, c', s') => (.ok value, c'.store key value, s')
  | (.error e, c', s') => (.error e, c', s')

/-- The wrapper around a method.  `key` is the hashed arguments, or what hashing
raised; `body` is the method, run on a miss with the cache as it then is, since
the method may clear the cache itself. -/
def wrap (key : Except PyException κ)
    (body : LruCache κ α → σ → Except PyException α × LruCache κ α × σ) (s : σ) :
    Except PyException α × LruCache κ α × σ :=
  match key with
  | .error e => (.error e, c, s)
  | .ok key =>
      match c.lookup key with
      | some value => (.ok value, c.touch key, s)
      | none => storeResult key (body c s)

@[simp] theorem lookup_empty (maxsize : ℕ) (key : κ) : (empty maxsize : LruCache κ α).lookup key = none :=
  rfl

@[simp] theorem lookup_cacheClear (key : κ) : c.cacheClear.lookup key = none := rfl

@[simp] theorem lookup_touch (key k : κ) : (c.touch key).lookup k = c.lookup k := by
  unfold touch
  split
  · rename_i value h
    by_cases hk : k = key
    · subst hk; simpa [lookup] using h.symm
    · simp [lookup, hk, Ne.symm hk]
  · rfl

theorem mem_of_lookup {key : κ} {value : α} (h : c.lookup key = some value) : (key, value) ∈ c.entries :=
  mem_of_dictGet h

theorem mem_entries_touch {key : κ} {entry : κ × α} (h : entry ∈ (c.touch key).entries) : entry ∈ c.entries := by
  unfold touch at h
  split at h
  · rename_i value hv
    rcases List.mem_append.1 h with h | h
    · exact List.mem_of_mem_filter h
    · exact List.mem_singleton.1 h ▸ c.mem_of_lookup hv
  · exact h

theorem mem_entries_store {key : κ} {value : α} {entry : κ × α} (h : entry ∈ (c.store key value).entries) :
    entry ∈ c.entries ∨ entry = (key, value) := by
  unfold store at h
  split_ifs at h
  · exact .inl h
  · rcases List.mem_append.1 h with h | h
    · exact .inl (List.mem_of_mem_tail h)
    · exact .inr (List.mem_singleton.1 h)
  · simpa using h

theorem wrap_hit {key : κ} {value : α} (h : c.lookup key = some value)
    (body : LruCache κ α → σ → Except PyException α × LruCache κ α × σ) (s : σ) :
    c.wrap (.ok key) body s = (.ok value, c.touch key, s) := by
  simp [wrap, h]

theorem wrap_miss {key : κ} (h : c.lookup key = none)
    (body : LruCache κ α → σ → Except PyException α × LruCache κ α × σ) (s : σ) :
    c.wrap (.ok key) body s = storeResult key (body c s) := by
  simp [wrap, h]

end LruCache

end ResilienceCore
