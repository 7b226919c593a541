import ResilienceCore.PyString

/-!
# The part of `jsonschema` that `validate-grand-central.py` calls

`validate(instance, schema)` runs every keyword of the schema over the
instance (`iter_errors`, in the schema's key order, descending into
`properties` and `items`) and raises the error that `best_match` picks
among them.  The keywords are those `GRAND_CENTRAL_SCHEMA` uses, with the
messages of jsonschema 4.23; a `pattern` is `re.search`, given as the
function it computes on the strings it is run on.
-/

namespace ResilienceCore.JsonSchema

inductive PathItem where
  | key (name : String)
  | index (i : ℕ)
  deriving DecidableEq, Repr

structure Pattern where
  source : String
  search : String → Bool

/-- The schema keywords of draft 2020-12 that the script's schema uses. -/
inductive Keyword where
  | type (name : String)
  | required (names : List String)
  | properties (schemas : List (String × List Keyword))
  | items (schema : List Keyword)
  | pattern (p : Pattern)
  | minLength (n : ℕ)
  | maxLength (n : ℕ)
  | minItems (n : ℕ)
  | enum (values : List String)

def isType : Json → String → Bool
  | .obj _, "object" => true
  | .arr _, "array" => true
  | .str _, "string" => true
  | .bool _, "boolean" => true
  | .num _, "integer" => true
  | .num _, "number" => true
  | .null, "null" => true
  | _, _ => false

def typeOf : List Keyword → Option String
  | [] => none
  | .type name :: _ => some name
  | _ :: schema => typeOf schema

/-- A `ValidationError`: its message, its path from the instance's root,
and whether the instance it is about has the type its schema declares. -/
structure ValidationError where
  message : String
  path : List PathItem
  matchesType : Bool

def raiseAt (schemaType : Option String) (value : Json) (message : String) : ValidationError :=
  ⟨message, [], (schemaType.map (isType value)).getD false⟩

/-- `descend(..., path=p)`: the error seen from the parent instance. -/
def ValidationError.under (p : PathItem) (e : ValidationError) : ValidationError :=
  { e with path := p :: e.path }

def typeMessage (value : Json) (name : String) : String :=
  value.pyRepr ++ " is not of type " ++ pyReprStr name

def requiredMessage (name : String) : String :=
  pyReprStr name ++ " is a required property"

def tooShortMessage (instanceRepr : String) (n : ℕ) : String :=
  instanceRepr ++ if n = 1 then " should be non-empty" else " is too short"

def tooLongMessage (instanceRepr : String) (n : ℕ) : String :=
  instanceRepr ++ if n = 0 then " is expected to be empty" else " is too long"

mutual
def keywordsErrors (schemaType : Option String) (value : Json) : List Keyword → List ValidationError
  | [] => []
  | k :: ks => keywordErrors schemaType value k ++ keywordsErrors schemaType value ks
def keywordErrors (schemaType : Option String) (value : Json) : Keyword → List ValidationError
  | .type name =>
      if isType value name then [] else [raiseAt schemaType value (typeMessage value name)]
  | .required names =>
      match value with
      | .obj fields =>
          (names.filter fun name => (dictGet fields name).isNone).map fun name =>
            raiseAt schemaType value (requiredMessage name)
      | _ => []
  | .properties schemas =>
      match value with
      | .obj fields => propertiesErrors fields schemas
      | _ => []
  | .items schema =>
      match value with
      | .arr items =>
          items.enum.flatMap fun (i, item) =>
            (keywordsErrors (typeOf schema) item schema).map (·.under (.index i))
      | _ => []
  | .pattern p =>
      match value with
      | .str s =>
          if p.search s then []
          else [raiseAt schemaType value (pyReprStr s ++ " does not match " ++ pyReprStr p.source)]
      | _ => []
  | .minLength n =>
      match value with
      | .str s => if s.length < n then [raiseAt schemaType value (tooShortMessage (pyReprStr s) n)] else []
      | _ => []
  | .maxLength n =>
      match value with
      | .str s => if n < s.length then [raiseAt schemaType value (tooLongMessage (pyReprStr s) n)] else []
      | _ => []
  | .minItems n =>
      match value with
      | .arr items =>
          if items.length < n then [raiseAt schemaType value (tooShortMessage value.pyRepr n)] else []
      | _ => []
  | .enum values =>
      if values.any value.eqStr then []
      else [raiseAt schemaType value
        (value.pyRepr ++ " is not one of " ++ (Json.arr (values.map .str)).pyRepr)]
def propertiesErrors (fields : List (String × Json)) : List (String × List Keyword) → List ValidationError
  | [] => []
  | (name, schema) :: schemas =>
      (match dictGet fields name with
        | some v => (keywordsErrors (typeOf schema) v schema).map (·.under (.key name))
        | none => []) ++
      propertiesErrors fields schemas
end

def schemaErrors (schema : List Keyword) (value : Json) : List ValidationError :=
  keywordsErrors (typeOf schema) value schema

/-- Python's `<` on two path items.  Paths compared by `best_match` part
at a common parent, so the two items are keys of one dict or indices of one
list. -/
def PathItem.lt : PathItem → PathItem → Bool
  | .key a, .key b => !pyStrLE b.toList a.toList
  | .index i, .index j => decide (i < j)
  | _, _ => false

def pathLT : List PathItem → List PathItem → Bool
  | [], [] => false
  | [], _ :: _ => true
  | _ :: _, [] => false
  | a :: p, b :: q => if a = b then pathLT p q else a.lt b

/-- `relevance(e) > relevance(best)` for the key of `by_relevance`:
`(-len(path), path, ..., not _matches_type())`; the keywords of the schema
are neither weak nor strong. -/
def ValidationError.moreRelevant (e best : ValidationError) : Bool :=
  e.path.length < best.path.length ||
    (e.path.length == best.path.length &&
      (pathLT best.path e.path || (decide (e.path = best.path) && !e.matchesType && best.matchesType)))

/-- `best_match(errors)`: `max` by relevance, which keeps the first of
equally relevant errors; the errors here have no `context`. -/
def bestMatch : List ValidationError → Option ValidationError
  | [] => none
  | e :: es => some (es.foldl (fun best e' => if e'.moreRelevant best then e' else best) e)

/-! ## Reading the errors -/

theorem schemaErrors_object (names : List String) (schemas : List (String × List Keyword))
    (fields : List (String × Json)) :
    schemaErrors [.type "object", .required names, .properties schemas] (.obj fields) =
      (names.filter fun name => (dictGet fields name).isNone).map
          (fun name => raiseAt (some "object") (.obj fields) (requiredMessage name)) ++
        propertiesErrors fields schemas := by
  simp [schemaErrors, typeOf, keywordsErrors, keywordErrors, isType]

/-! ## When a schema finds nothing -/

variable {schemaType : Option String} {value : Json}

@[simp] theorem keywordsErrors_nil : keywordsErrors schemaType value [] = [] := by simp [keywordsErrors]

@[simp] theorem keywordsErrors_cons (k : Keyword) (ks : List Keyword) :
    keywordsErrors schemaType value (k :: ks) = keywordErrors schemaType value k ++ keywordsErrors schemaType value ks := by
  simp [keywordsErrors]

@[simp] theorem type_eq_nil {name : String} :
    keywordErrors schemaType value (.type name) = [] ↔ isType value name = true := by
  simp [keywordErrors]

@[simp] theorem required_eq_nil {fields : List (String × Json)} {names : List String} :
    keywordErrors schemaType (.obj fields) (.required names) = [] ↔ ∀ name ∈ names, dictGet fields name ≠ none := by
  simp [keywordErrors, List.filter_eq_nil_iff, Option.isNone_iff_eq_none]

@[simp] theorem properties_eq (fields : List (String × Json)) (schemas : List (String × List Keyword)) :
    keywordErrors schemaType (.obj fields) (.properties schemas) = propertiesErrors fields schemas := by
  simp [keywordErrors]

@[simp] theorem propertiesErrors_nil (fields : List (String × Json)) : propertiesErrors fields [] = [] := by
  simp [propertiesErrors]

@[simp] theorem propertiesErrors_cons_eq_nil {fields : List (String × Json)} {name : String} {schema : List Keyword}
    {schemas : List (String × List Keyword)} :
    propertiesErrors fields ((name, schema) :: schemas) = [] ↔
      (∀ v, dictGet fields name = some v → schemaErrors schema v = []) ∧ propertiesErrors fields schemas = [] := by
  simp only [propertiesErrors, List.append_eq_nil]
  cases dictGet fields name <;> simp [schemaErrors]

@[simp] theorem items_eq_nil {items : List Json} {schema : List Keyword} :
    keywordErrors schemaType (.arr items) (.items schema) = [] ↔ ∀ item ∈ items, schemaErrors schema item = [] := by
  simp only [keywordErrors, schemaErrors, List.flatMap_eq_nil_iff, List.map_eq_nil_iff, Prod.forall]
  constructor
  · intro h item hmem
    obtain ⟨i, hi, rfl⟩ := List.mem_iff_getElem.1 hmem
    exact h i _ (List.mem_enum_iff_getElem?.2 (by simp [hi]))
  · exact fun h _ item hmem => h item (List.snd_mem_of_mem_enum hmem)

@[simp] theorem pattern_eq_nil {s : String} {p : Pattern} :
    keywordErrors schemaType (.str s) (.pattern p) = [] ↔ p.search s = true := by
  simp [keywordErrors]

@[simp] theorem minLength_eq_nil {s : String} {n : ℕ} :
    keywordErrors schemaType (.str s) (.minLength n) = [] ↔ n ≤ s.length := by
  simp [keywordErrors]

@[simp] theorem maxLength_eq_nil {s : String} {n : ℕ} :
    keywordErrors schemaType (.str s) (.maxLength n) = [] ↔ s.length ≤ n := by
  simp [keywordErrors]

@[simp] theorem minItems_eq_nil {items : List Json} {n : ℕ} :
    keywordErrors schemaType (.arr items) (.minItems n) = [] ↔ n ≤ items.length := by
  simp [keywordErrors]

@[simp] theorem enum_eq_nil {s : String} {values : List String} :
    keywordErrors schemaType (.str s) (.enum values) = [] ↔ s ∈ values := by
  simp [keywordErrors, Json.eqStr]

theorem schemaErrors_typed_eq_nil (name : String) (rest : List Keyword) :
    schemaErrors (.type name :: rest) value = [] ↔
      isType value name = true ∧ keywordsErrors (some name) value rest = [] := by
  simp [schemaErrors, typeOf]

theorem schemaErrors_object_eq_nil (rest : List Keyword) :
    schemaErrors (.type "object" :: rest) value = [] ↔
      ∃ fields, value = .obj fields ∧ keywordsErrors (some "object") (.obj fields) rest = [] := by
  cases value <;> simp [schemaErrors_typed_eq_nil, isType]

theorem schemaErrors_string_eq_nil (rest : List Keyword) :
    schemaErrors (.type "string" :: rest) value = [] ↔
      ∃ s, value = .str s ∧ keywordsErrors (some "string") (.str s) rest = [] := by
  cases value <;> simp [schemaErrors_typed_eq_nil, isType]

theorem schemaErrors_array_eq_nil (rest : List Keyword) :
    schemaErrors (.type "array" :: rest) value = [] ↔
      ∃ items, value = .arr items ∧ keywordsErrors (some "array") (.arr items) rest = [] := by
  cases value <;> simp [schemaErrors_typed_eq_nil, isType]

theorem schemaErrors_boolean_eq_nil :
    schemaErrors [.type "boolean"] value = [] ↔ ∃ b, value = .bool b := by
  cases value <;> simp [schemaErrors_typed_eq_nil, isType]

/-! ## Which error `best_match` picks -/

theorem bestMatch_eq_none_iff (es : List ValidationError) : bestMatch es = none ↔ es = [] := by
  cases es <;> simp [bestMatch]

theorem foldl_relevance_keep (e : ValidationError) :
    ∀ es : List ValidationError, (∀ e' ∈ es, e'.moreRelevant e = false) →
      es.foldl (fun best e' => if e'.moreRelevant best then e' else best) e = e
  | [], _ => rfl
  | e' :: es, h => by
      rw [List.foldl_cons, if_neg (by simp [h e' (.head _)])]
      exact foldl_relevance_keep e es fun e'' he'' => h e'' (.tail _ he'')

theorem moreRelevant_root {e e' : ValidationError} (hroot : e.path = [])
    (hsame : e'.path = [] → e'.matchesType = e.matchesType) : e'.moreRelevant e = false := by
  unfold ValidationError.moreRelevant
  rw [hroot]
  cases hp : e'.path with
  | nil => simp [pathLT, hsame hp]
  | cons _ _ => simp

theorem bestMatch_root {e : ValidationError} {es : List ValidationError} (hroot : e.path = [])
    (hsame : ∀ e' ∈ es, e'.path = [] → e'.matchesType = e.matchesType) : bestMatch (e :: es) = some e :=
  congrArg some (foldl_relevance_keep e es fun e' he' => moreRelevant_root hroot (hsame e' he'))

theorem path_ne_nil_of_mem_propertiesErrors {fields : List (String × Json)} :
    ∀ {schemas : List (String × List Keyword)} {e : ValidationError}, e ∈ propertiesErrors fields schemas → e.path ≠ []
  | [], _, h => by simp [propertiesErrors] at h
  | (name, schema) :: schemas, e, h => by
      rw [propertiesErrors, List.mem_append] at h
      rcases h with h | h
      · split at h
        · obtain ⟨e', -, rfl⟩ := List.mem_map.1 h
          simp [ValidationError.under]
        · simp at h
      · exact path_ne_nil_of_mem_propertiesErrors h

end ResilienceCore.JsonSchema
