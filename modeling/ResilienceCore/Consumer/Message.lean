import ResilienceCore.Python

/-!
# The consumer's data model

`ConsumerConfig` keeps the fields that the consumer's own methods read; the
others only configure the Kafka client.  A polled `ConsumerRecord` becomes the
`message` dict of `_add_to_batch`, and a dead-lettered message is wrapped in
the `dlq_message` dict of `_send_to_dlq`.

The collaborators the consumer calls, `message_handler`, `consumer.commit`,
`error_handler` and the DLQ producer, form an `Env`.  Each answers a call from
the calls made before it, so a theorem over every `Env` covers every pattern of
returns and raises.  What the consumer did is its `log` of `Effect`s, oldest
first; each call is logged with the answer it got.
-/

namespace ResilienceCore.Consumer

structure ConsumerConfig where
  consumerGroup : String
  batchSize : ℕ := 1000
  batchTimeoutMs : ℕ := 5000
  enableDlq : Bool := true
  dlqTopic : Option String := none

def cleanPlatformConfig : ConsumerConfig :=
  { consumerGroup := "clean-platform-consumer", batchSize := 1000 }

structure TopicPartition where
  topic : String
  partition : ℕ
  deriving DecidableEq, Repr

/-- The fields of a kafka-python `ConsumerRecord` that `_add_to_batch` reads. -/
structure ConsumerRecord where
  topic : String
  partition : ℕ
  offset : ℕ
  timestamp : ℕ
  key : Option String
  value : Json
  headers : List (String × String)
  deriving Repr

/-- The `message` dict `_add_to_batch` builds. -/
structure Message where
  topic : String
  partition : ℕ
  offset : ℕ
  key : Option String
  value : Json
  timestamp : ℕ
  headers : List (String × String)
  deriving Repr

def Message.ofRecord (record : ConsumerRecord) : Message :=
  { topic := record.topic, partition := record.partition, offset := record.offset,
    key := record.key, value := record.value, timestamp := record.timestamp,
    headers := if record.headers = [] then [] else pyDict record.headers }

def Message.tp (m : Message) : TopicPartition := ⟨m.topic, m.partition⟩

def Message.toJson (m : Message) : Json :=
  .obj [("topic", .str m.topic), ("partition", .num m.partition), ("offset", .num m.offset),
    ("key", match m.key with | some k => .str k | none => .null), ("value", m.value),
    ("timestamp", .num m.timestamp),
    ("headers", .obj (m.headers.map fun header => (header.1, .str header.2)))]

structure DlqMessage where
  originalMessage : Message
  error : String
  errorType : String
  timestamp : ℕ
  consumerGroup : String
  retryCount : Int
  deriving Repr

/-- `json.dumps(dlq_message)` as the DLQ producer's `value_serializer` writes it,
which is what `json.loads` gives back to a consumer of the DLQ topic. -/
def DlqMessage.toJson (d : DlqMessage) : Json :=
  .obj [("original_message", d.originalMessage.toJson), ("error", .str d.error),
    ("error_type", .str d.errorType), ("timestamp", .num d.timestamp),
    ("consumer_group", .str d.consumerGroup), ("retry_count", .num d.retryCount)]

/-- A call the consumer made, with the answer it got. -/
inductive Effect where
  | handle (batch : List Message) (result : Except PyException Unit)
  | commit (offsets : List (TopicPartition × ℕ)) (result : Except PyException Unit)
  | errorHandle (error : PyException) (message : Message) (result : Except PyException Unit)
  /-- `dlq_producer.send(topic, value=..., key=...)` and its `future.get`. -/
  | dlqSend (topic : String) (key : Option String) (value : DlqMessage)
      (result : Except PyException Unit)
  | processed (topic : String) (partition : Int) (status : String) (count : ℕ)
  | processingTime (topic : String) (operation : String)
  | consumerClose
  | dlqProducerClose
  deriving Repr

/-- The collaborators' answers, each from the calls made before it. -/
structure Env where
  messageHandler : List Effect → List Message → Except PyException Unit
  commit : List Effect → List (TopicPartition × ℕ) → Except PyException Unit
  errorHandler : List Effect → PyException → Message → Except PyException Unit
  dlqSend : List Effect → String → Option String → DlqMessage → Except PyException Unit

/-- The consumer's mutable state.  Clock readings are milliseconds. -/
structure OptimizedKafkaConsumer where
  running : Bool
  batchQueue : List Message
  lastBatchTime : ℕ
  dlqProducer : Bool
  log : List Effect

namespace OptimizedKafkaConsumer

/-- `__init__` at clock reading `now`, then `start()`. -/
def start (cfg : ConsumerConfig) (now : ℕ) : OptimizedKafkaConsumer :=
  ⟨true, [], now, cfg.enableDlq, []⟩

@[simp] theorem start_log (cfg : ConsumerConfig) (now : ℕ) : (start cfg now).log = [] := rfl

@[simp] theorem start_batchQueue (cfg : ConsumerConfig) (now : ℕ) :
    (start cfg now).batchQueue = [] := rfl

variable (c : OptimizedKafkaConsumer) (e : Effect)

def emit : OptimizedKafkaConsumer := { c with log := c.log ++ [e] }

@[simp] theorem emit_log : (c.emit e).log = c.log ++ [e] := rfl
@[simp] theorem emit_batchQueue : (c.emit e).batchQueue = c.batchQueue := rfl
@[simp] theorem emit_running : (c.emit e).running = c.running := rfl
@[simp] theorem emit_lastBatchTime : (c.emit e).lastBatchTime = c.lastBatchTime := rfl
@[simp] theorem emit_dlqProducer : (c.emit e).dlqProducer = c.dlqProducer := rfl

theorem emit_emit (e' : Effect) : (c.emit e).emit e' = { c with log := c.log ++ [e, e'] } := by
  simp [emit]

end OptimizedKafkaConsumer

end ResilienceCore.Consumer
