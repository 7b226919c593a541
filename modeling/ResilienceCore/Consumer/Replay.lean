import ResilienceCore.Consumer.Batching

/-!
# Replaying dead letters: where `retry_count` lives

`_send_to_dlq` writes `retry_count` into the envelope, and the envelope becomes
the value of a record on the DLQ topic.  A consumer of that topic puts the whole
envelope under `value` of the message dict `_add_to_batch` builds, while
`_send_to_dlq` reads `message.get('retry_count', 0)` from the top level of that
dict, where `_add_to_batch` never puts the key.  So every envelope the consumer
sends says `retry_count: 1`, whatever the replayed envelope said.
-/

namespace ResilienceCore.Consumer

open OptimizedKafkaConsumer

variable {env : Env} {cfg : ConsumerConfig}

theorem dlqSent_errorBlock (dlq : Bool) (now : ℕ) (error : PyException) (msg : Message)
    (r s : Except PyException Unit) :
    dlqSent (errorBlock cfg dlq now error msg r s) ⊆ [dlqMessageFor cfg now msg error] := by
  rcases r with e | ⟨⟩ <;> cases dlq <;> simp [errorBlock, dlqSent]

theorem handleBatchError_dlqSent (now : ℕ) (batch : List Message) (error : PyException)
    (c : OptimizedKafkaConsumer) :
    ∃ seg, (handleBatchError env cfg now batch error c).log = c.log ++ seg ∧
      ∀ v ∈ dlqSent seg, v = dlqMessageFor cfg now v.originalMessage error := by
  obtain ⟨answers, -, -, heq⟩ := @handleBatchError_eq env cfg now batch error c
  refine ⟨_, by rw [heq], fun v hv => ?_⟩
  simp only [dlqSent_append, List.mem_append] at hv
  rcases hv with hv | hv
  · obtain ⟨p, -, hp⟩ : ∃ p ∈ batch.zip answers, v ∈ dlqSent (errorBlock cfg
        (cfg.enableDlq && c.dlqProducer) now error p.1 p.2.1 p.2.2) := by
      simpa [dlqSent, List.filterMap_flatMap] using hv
    rw [List.mem_singleton.1 (dlqSent_errorBlock _ _ _ _ _ _ hp)]
    rfl
  · simp [dlqSent] at hv

theorem processBatch_retryCount (now : ℕ) (batch : List Message) (c : OptimizedKafkaConsumer) :
    ∃ seg, (processBatch env cfg now batch c).log = c.log ++ seg ∧
      ∀ v ∈ dlqSent seg, v.retryCount = 1 := by
  have hfail : ∀ e (pre : List Effect), dlqSent pre = [] →
      ∃ seg, (handleBatchError env cfg now batch e { c with log := c.log ++ pre }).log =
        c.log ++ seg ∧ ∀ v ∈ dlqSent seg, v.retryCount = 1 := fun e pre hpre => by
    obtain ⟨seg, hseg, hv⟩ := @handleBatchError_dlqSent env cfg now batch e { c with log := c.log ++ pre }
    refine ⟨pre ++ seg, by rw [hseg, List.append_assoc], fun v hv' => ?_⟩
    rw [dlqSent_append, hpre, List.nil_append] at hv'
    rw [hv v hv']
    rfl
  rcases @processBatch_cases env cfg now batch c with ⟨e, -, heq⟩ | ⟨e, -, -, -, heq⟩ |
    ⟨result, -, -, -, heq⟩
  · rw [heq]; exact hfail e [.handle batch (.error e)] rfl
  · rw [heq, emit_emit]
    exact hfail e [.handle batch (.ok ()), .commit (commitOffsets batch) (.error e)] rfl
  · exact ⟨_, by rw [heq], by simp [dlqSent]⟩

theorem run_retryCount (c : OptimizedKafkaConsumer) (acts : List Action) :
    ∃ seg, (run env cfg c acts).log = c.log ++ seg ∧ ∀ v ∈ dlqSent seg, v.retryCount = 1 :=
  run_log_of_segments (fun _ seg => ∀ v ∈ dlqSent seg, v.retryCount = 1) (fun _ => by simp [dlqSent])
    (fun _ l l' hl hl' v hv => by
      rw [dlqSent_append] at hv
      exact (List.mem_append.1 hv).elim (hl v) (hl' v))
    (fun d => by cases d <;> simp [dlqSent]) processBatch_retryCount c acts

/--
A polled record whose value is an envelope `_send_to_dlq` produced, with any
`retry_count`, carries that count under the message dict's `value`; the dict
itself has no `retry_count`, so `_send_to_dlq` reads 0 and writes 1.  Along any
run from `start()`, whatever is polled and whatever the collaborators answer,
every envelope sent carries `retry_count` 1, so no chain of replays and failures
ever counts past 1.
-/
theorem replayed_envelope_retry_count_is_one (d : DlqMessage) (record : ConsumerRecord)
    (hr : record.value = d.toJson) :
    ((Message.ofRecord record).toJson.get? "value").bind (·.get? "retry_count") =
        some (.num d.retryCount) ∧
      (Message.ofRecord record).toJson.get? "retry_count" = none ∧
      retryCount (Message.ofRecord record) = .ok 1 ∧
      ∀ (env : Env) (cfg : ConsumerConfig) (now : ℕ) (acts : List Action),
        ∀ v ∈ dlqSent (run env cfg (start cfg now) acts).log, v.retryCount = 1 := by
  have hv : (Message.ofRecord record).toJson.get? "value" = some d.toJson := by rw [← hr]; rfl
  refine ⟨by rw [hv]; rfl, rfl, retryCount_eq _, fun env cfg now acts => ?_⟩
  obtain ⟨seg, hlog, hseg⟩ := @run_retryCount env cfg (start cfg now) acts
  rw [hlog, start_log, List.nil_append]
  exact hseg

/-- The envelope `_send_to_dlq` wrote for `platformEvent 0` after `invalidEvent`. -/
def firstEnvelope : DlqMessage := dlqMessageFor cleanPlatformConfig 0 (platformEvent 0) invalidEvent

/-- That envelope, polled back from `platform-events-dlq`. -/
def replayRecord : ConsumerRecord :=
  { topic := "platform-events-dlq", partition := 0, offset := 0, timestamp := 0, key := none,
    value := firstEnvelope.toJson, headers := [] }

theorem replayRecord_retry_count_is_one :
    replayRecord.value = firstEnvelope.toJson ∧
    ((Message.ofRecord replayRecord).toJson.get? "value").bind (·.get? "retry_count") =
        some (.num firstEnvelope.retryCount) ∧
      (Message.ofRecord replayRecord).toJson.get? "retry_count" = none ∧
      retryCount (Message.ofRecord replayRecord) = .ok 1 ∧
      ∀ (env : Env) (cfg : ConsumerConfig) (now : ℕ) (acts : List Action),
        ∀ v ∈ dlqSent (run env cfg (start cfg now) acts).log, v.retryCount = 1 :=
  ⟨rfl, replayed_envelope_retry_count_is_one firstEnvelope replayRecord rfl⟩

/-- A handler that raises on every batch. -/
def failAll : Env := { allReturn with messageHandler := fun _ _ => .error invalidEvent }

/-- The replayed record's batch fails again: the new envelope wraps it and still
says 1, where a count of replays would say 2. -/
example : firstEnvelope.retryCount = 1 ∧
    (dlqSent (processBatch failAll cleanPlatformConfig 0 [.ofRecord replayRecord]
      (start cleanPlatformConfig 0)).log).map (fun v => (v.originalMessage.topic, v.retryCount)) =
      [("platform-events-dlq", 1)] := by
  decide

end ResilienceCore.Consumer
