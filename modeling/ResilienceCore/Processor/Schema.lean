import ResilienceCore.PyString

/-!
# The data processor's request schemas

The data processor validates its request bodies with marshmallow schemas and
builds cache keys and SQL statements from what they load.  This module models
`json.dumps` (with `ensure_ascii`, the default separators and `sort_keys`),
marshmallow 3's `Schema.load` for `ProcessRequestSchema` and
`QueryRequestSchema` (fields in declaration order, `missing=` defaults, the
`None` check, each field's deserialization and its validator, then the unknown
keys), the `/query` cache key and the statement `execute_query` sends.

`fields.DateTime` parses with marshmallow's own ISO 8601 reader, which
differs between marshmallow versions; the model takes it as a parameter
`parse`, and the datetimes it returns as values of a type `α`.
-/

namespace ResilienceCore

/-! ## `json.dumps` -/

def hex4 (n : ℕ) : String :=
  let digits := Nat.toDigits 16 n
  String.mk (List.replicate (4 - digits.length) '0' ++ digits)

/-- How `json.dumps` writes a character of a string: the two-character
escapes, printable ASCII as it is, and every other character as `\uXXXX`, in
a surrogate pair above the Basic Multilingual Plane. -/
def jsonEscape (c : Char) : String :=
  if c.toNat = 34 then "\\\""
  else if c.toNat = 92 then "\\\\"
  else if c.toNat = 10 then "\\n"
  else if c.toNat = 13 then "\\r"
  else if c.toNat = 9 then "\\t"
  else if c.toNat = 8 then "\\b"
  else if c.toNat = 12 then "\\f"
  else if 32 ≤ c.toNat ∧ c.toNat ≤ 126 then c.toString
  else if c.toNat < 65536 then "\\u" ++ hex4 c.toNat
  else "\\u" ++ hex4 (55296 + (c.toNat - 65536) / 1024) ++ "\\u" ++ hex4 (56320 + (c.toNat - 65536) % 1024)

def jsonQuote (s : String) : String := "\"" ++ String.join (s.toList.map jsonEscape) ++ "\""

mutual
def Json.dumps (sortKeys : Bool) : Json → String
  | .null => "null"
  | .bool b => if b then "true" else "false"
  | .num n => toString n
  | .str s => jsonQuote s
  | .arr items => "[" ++ ", ".intercalate (Json.dumpItems sortKeys items) ++ "]"
  | .obj fields =>
      let written := Json.dumpFields sortKeys fields
      let written := if sortKeys then written.insertionSort (fun a b => pyStrLE a.1.toList b.1.toList) else written
      "\x7b" ++ ", ".intercalate (written.map fun item => jsonQuote item.1 ++ ": " ++ item.2) ++ "\x7d"
def Json.dumpItems (sortKeys : Bool) : List Json → List String
  | [] => []
  | v :: vs => v.dumps sortKeys :: Json.dumpItems sortKeys vs
def Json.dumpFields (sortKeys : Bool) : List (String × Json) → List (String × String)
  | [] => []
  | (key, v) :: fields => (key, v.dumps sortKeys) :: Json.dumpFields sortKeys fields
end

example : (Json.obj [("b", .arr [.num 1, .null]), ("a", .str "é\"")]).dumps true =
    "\x7b\"a\": \"\\u00e9\\\"\", \"b\": [1, null]\x7d" := by decide

namespace Processor

/-! ## marshmallow fields -/

/-- `Field.deserialize(data.get(name, missing))`: `onMissing` for a missing
key (the required error, or the `missing=` default, which no validator sees),
`onNone` for `None` (the null error, or `None` where the field allows it),
and otherwise the field's deserialization and then its validator. -/
def loadField {β : Type} (data : List (String × Json)) (name : String) (onMissing onNone : Except String β)
    (deserialize : Json → Except String β) (validate : β → Bool) : Except String β :=
  match dictGet data name with
  | none => onMissing
  | some .null => onNone
  | some raw => (deserialize raw).bind fun value => if validate value then .ok value else .error "Invalid value."

def missingRequired {β : Type} : Except String β := .error "Missing data for required field."

def mayNotBeNull {β : Type} : Except String β := .error "Field may not be null."

def loadStr : Json → Except String String
  | .str s => .ok s
  | _ => .error "Not a valid string."

def loadDict : Json → Except String (List (String × Json))
  | .obj fields => .ok fields
  | _ => .error "Not a valid mapping type."

/-- `fields.Int`, which is not strict: `int(value)`, refusing booleans. -/
def loadInt : Json → Except String ℤ
  | .num n => .ok n
  | .str s =>
      match pyInt s with
      | .ok n => .ok n
      | .error _ => .error "Not a valid integer."
  | _ => .error "Not a valid integer."

/-- `fields.DateTime`, reading with marshmallow's parser `parse`; a falsy
value is refused before it. -/
def loadDateTime {α : Type} (parse : String → Option α) : Json → Except String α
  | .str s =>
      if s = "" then .error "Not a valid datetime."
      else match parse s with
        | some d => .ok d
        | none => .error "Not a valid datetime."
  | _ => .error "Not a valid datetime."

def fieldErrors {β : Type} (name : String) : Except String β → List (String × Json)
  | .error message => [(name, .arr [.str message])]
  | .ok _ => []

def unknownFields (data : List (String × Json)) (declared : List String) : List (String × Json) :=
  ((dictKeys data).filter (· ∉ declared)).map fun key => (key, .arr [.str "Unknown field."])

def invalidInputType : List (String × Json) := [("_schema", .arr [.str "Invalid input type."])]

/-! ## `ProcessRequestSchema` -/

structure ProcessRequest where
  dataId : String
  processingType : String
  parameters : List (String × Json)
  priority : ℤ

/-- `process_schema.load(body)`: the loaded request, or `e.messages`. -/
def ProcessRequest.load : Json → Except (List (String × Json)) ProcessRequest
  | .obj data =>
      let dataId := loadField data "data_id" missingRequired mayNotBeNull loadStr fun _ => true
      let processingType := loadField data "processing_type" missingRequired mayNotBeNull loadStr fun _ => true
      let parameters := loadField data "parameters" (.ok []) mayNotBeNull loadDict fun _ => true
      let priority := loadField data "priority" (.ok 5) mayNotBeNull loadInt fun x => decide (1 ≤ x ∧ x ≤ 10)
      let unknown := unknownFields data ["data_id", "processing_type", "parameters", "priority"]
      match dataId, processingType, parameters, priority, unknown with
      | .ok dataId, .ok processingType, .ok parameters, .ok priority, [] =>
          .ok ⟨dataId, processingType, parameters, priority⟩
      | _, _, _, _, _ =>
          .error (fieldErrors "data_id" dataId ++ fieldErrors "processing_type" processingType ++
            fieldErrors "parameters" parameters ++ fieldErrors "priority" priority ++ unknown)
  | _ => .error invalidInputType

/-! ## `QueryRequestSchema` -/

structure QueryRequest (α : Type) where
  queryType : String
  filters : List (String × Json)
  startTime : Option α
  endTime : Option α
  limit : ℤ
  offset : ℤ

/-- `query_schema.load(body)`, `fields.DateTime` reading with `parse`. -/
def QueryRequest.load {α : Type} (parse : String → Option α) : Json → Except (List (String × Json)) (QueryRequest α)
  | .obj data =>
      let queryType := loadField data "query_type" missingRequired mayNotBeNull loadStr fun _ => true
      let filters := loadField data "filters" (.ok []) mayNotBeNull loadDict fun _ => true
      let startTime := loadField data "start_time" (.ok none) (.ok none) (fun raw => (loadDateTime parse raw).map some)
        fun _ => true
      let endTime := loadField data "end_time" (.ok none) (.ok none) (fun raw => (loadDateTime parse raw).map some)
        fun _ => true
      let limit := loadField data "limit" (.ok 100) mayNotBeNull loadInt fun x => decide (1 ≤ x ∧ x ≤ 1000)
      let offset := loadField data "offset" (.ok 0) mayNotBeNull loadInt fun x => decide (0 ≤ x)
      let unknown := unknownFields data ["query_type", "filters", "start_time", "end_time", "limit", "offset"]
      match queryType, filters, startTime, endTime, limit, offset, unknown with
      | .ok queryType, .ok filters, .ok startTime, .ok endTime, .ok limit, .ok offset, [] =>
          .ok ⟨queryType, filters, startTime, endTime, limit, offset⟩
      | _, _, _, _, _, _, _ =>
          .error (fieldErrors "query_type" queryType ++ fieldErrors "filters" filters ++
            fieldErrors "start_time" startTime ++ fieldErrors "end_time" endTime ++ fieldErrors "limit" limit ++
            fieldErrors "offset" offset ++ unknown)
  | _ => .error invalidInputType

variable {α : Type}

/-- `f"query:{json.dumps(data, sort_keys=True)}"`: a `datetime` in the data
is not JSON serializable. -/
def QueryRequest.cacheKey (data : QueryRequest α) : Except PyException String :=
  match data.startTime, data.endTime with
  | none, none =>
      .ok ("query:" ++ (Json.obj [("query_type", .str data.queryType), ("filters", .obj data.filters),
        ("start_time", .null), ("end_time", .null), ("limit", .num data.limit), ("offset", .num data.offset)]).dumps
          true)
  | _, _ => .error ⟨"TypeError", "Object of type datetime is not JSON serializable"⟩

/-! ## The statement of `execute_query` -/

inductive SqlParam (α : Type) where
  | json (v : Json)
  | datetime (d : α)

def aggregatedQuery : String :=
  "\n            SELECT \n                data_id,\n                processing_type,\n                result,\n" ++
    "                created_at\n            FROM processed_results\n            WHERE 1=1\n        "

def rawQuery : String :=
  "\n            SELECT \n                data_id,\n                timestamp,\n                value,\n" ++
    "                tags\n            FROM data_points\n            WHERE 1=1\n        "

/-- The conditions `execute_query` adds, each with its parameter: the time
bounds, then one per filter, its key written into the statement. -/
def QueryRequest.conditions (data : QueryRequest α) : List (String × String × SqlParam α) :=
  (data.startTime.map fun d => ("timestamp >= :start_time", "start_time", SqlParam.datetime d)).toList ++
    (data.endTime.map fun d => ("timestamp <= :end_time", "end_time", SqlParam.datetime d)).toList ++
    data.filters.map fun filter => (filter.1 ++ " = :" ++ filter.1, filter.1, SqlParam.json filter.2)

def QueryRequest.statement (data : QueryRequest α) : Except PyException (String × List (String × SqlParam α)) :=
  let base? :=
    if data.queryType = "aggregated" then some aggregatedQuery
    else if data.queryType = "raw" then some rawQuery else none
  match base? with
  | none => .error ⟨"ValueError", "Unknown query type: " ++ data.queryType⟩
  | some base =>
      let conditions := data.conditions
      let text := base ++
        (if conditions.isEmpty then "" else " AND " ++ " AND ".intercalate (conditions.map (·.1))) ++
        " ORDER BY timestamp DESC LIMIT :limit OFFSET :offset"
      .ok (text, pyDict (conditions.map (·.2) ++ [("limit", .json (.num data.limit)), ("offset", .json (.num data.offset))]))

def QueryRequest.results (data : QueryRequest α) (rows : List (List (String × Json))) : Json :=
  .obj [("query_type", .str data.queryType), ("count", .num rows.length), ("limit", .num data.limit),
    ("offset", .num data.offset), ("data", .arr (rows.map .obj))]

end Processor

end ResilienceCore
