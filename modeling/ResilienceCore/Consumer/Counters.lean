import ResilienceCore.Consumer.Batching
import Mathlib.Data.List.Forall2

/-!
# The processed-messages counter

`_process_batch` and `_handle_batch_error` each add to `MESSAGES_PROCESSED`
once per batch: `len(batch)` under the labels of `batch[0]`, with status
`'success'` after the handler and the commit returned, and `'error'` once
`_handle_batch_error` has run.  A batch may hold records of several topics and
partitions, since `_add_to_batch` queues every polled record in one list; all
of them are counted under the first record's topic and partition.
-/

namespace ResilienceCore.Consumer

open OptimizedKafkaConsumer

/-- The batches passed to `message_handler`, with what each call did. -/
def handledResults (log : List Effect) : List (List Message × Except PyException Unit) :=
  log.filterMap fun
    | .handle batch result => some (batch, result)
    | _ => none

/-- The `MESSAGES_PROCESSED` increments: topic, partition and status labels, and
the amount. -/
def processedIncs (log : List Effect) : List (String × Int × String × ℕ) :=
  log.filterMap fun
    | .processed topic partition status count => some (topic, partition, status, count)
    | _ => none

/-- The counter's value under one set of labels. -/
def processedTotal (log : List Effect) (topic : String) (partition : Int) (status : String) : ℕ :=
  ((processedIncs log).filter fun inc => inc.1 = topic ∧ inc.2.1 = partition ∧ inc.2.2.1 = status).foldr
    (fun inc total => inc.2.2.2 + total) 0

/-- Each increment of `log` belongs to one batch handed to `message_handler`, in
order: the whole batch, under its first record's labels, as `'success'` only
when the handler returned. -/
def CountedPerBatch (log : List Effect) : Prop :=
  List.Forall₂ (fun (handled : List Message × Except PyException Unit)
      (inc : String × Int × String × ℕ) =>
      inc.1 = topicLabel handled.1 ∧ inc.2.1 = partitionLabel handled.1 ∧
        inc.2.2.2 = handled.1.length ∧
        (inc.2.2.1 = "success" ∧ handled.2 = .ok () ∨ inc.2.2.1 = "error"))
    (handledResults log) (processedIncs log)

@[simp] theorem handledResults_append (l l' : List Effect) :
    handledResults (l ++ l') = handledResults l ++ handledResults l' :=
  List.filterMap_append _ _ _

@[simp] theorem processedIncs_append (l l' : List Effect) :
    processedIncs (l ++ l') = processedIncs l ++ processedIncs l' :=
  List.filterMap_append _ _ _

theorem CountedPerBatch.append {l l' : List Effect} (h : CountedPerBatch l)
    (h' : CountedPerBatch l') : CountedPerBatch (l ++ l') := by
  unfold CountedPerBatch at *
  rw [handledResults_append, processedIncs_append]
  exact List.rel_append h h'

variable {env : Env} {cfg : ConsumerConfig}

theorem errorBlock_uncounted (dlq : Bool) (now : ℕ) (error : PyException) (msg : Message)
    (r s : Except PyException Unit) :
    handledResults (errorBlock cfg dlq now error msg r s) = [] ∧
      processedIncs (errorBlock cfg dlq now error msg r s) = [] := by
  rcases r with e | ⟨⟩ <;> cases dlq <;> exact ⟨rfl, rfl⟩

theorem handleBatchError_counted (now : ℕ) (batch : List Message) (error : PyException)
    (c : OptimizedKafkaConsumer) :
    ∃ seg, (handleBatchError env cfg now batch error c).log = c.log ++ seg ∧
      handledResults seg = [] ∧
      processedIncs seg = [(topicLabel batch, partitionLabel batch, "error", batch.length)] := by
  obtain ⟨answers, -, -, heq⟩ := @handleBatchError_eq env cfg now batch error c
  have hblocks : ∀ l : List (Message × Except PyException Unit × Except PyException Unit),
      handledResults (l.flatMap fun p =>
          errorBlock cfg (cfg.enableDlq && c.dlqProducer) now error p.1 p.2.1 p.2.2) = [] ∧
        processedIncs (l.flatMap fun p =>
          errorBlock cfg (cfg.enableDlq && c.dlqProducer) now error p.1 p.2.1 p.2.2) = [] := by
    intro l
    induction l with
    | nil => exact ⟨rfl, rfl⟩
    | cons p l ih =>
        obtain ⟨h₁, h₂⟩ :=
          @errorBlock_uncounted cfg (cfg.enableDlq && c.dlqProducer) now error p.1 p.2.1 p.2.2
        simp only [List.flatMap_cons, handledResults_append, processedIncs_append, h₁, h₂, ih.1,
          ih.2, List.append_nil, and_self]
  refine ⟨_, by rw [heq], ?_, ?_⟩
  · rw [handledResults_append, (hblocks _).1]; rfl
  · rw [processedIncs_append, (hblocks _).2]; rfl

theorem processBatch_counted (now : ℕ) (batch : List Message) (c : OptimizedKafkaConsumer) :
    ∃ seg status, (processBatch env cfg now batch c).log = c.log ++ seg ∧
      handledResults seg = [(batch, env.messageHandler c.log batch)] ∧
      processedIncs seg = [(topicLabel batch, partitionLabel batch, status, batch.length)] ∧
      (status = "success" ∧ env.messageHandler c.log batch = .ok () ∨ status = "error") := by
  rcases @processBatch_cases env cfg now batch c with ⟨e, hr, heq⟩ | ⟨e, hr, hc, -, heq⟩ |
    ⟨result, hr, -, -, heq⟩
  · obtain ⟨seg, hseg, hh, hp⟩ :=
      @handleBatchError_counted env cfg now batch e (c.emit (.handle batch (.error e)))
    refine ⟨[.handle batch (.error e)] ++ seg, "error", by rw [heq, hseg]; simp [emit],
      by rw [handledResults_append, hh, hr]; rfl, by rw [processedIncs_append, hp]; rfl, .inr rfl⟩
  · obtain ⟨seg, hseg, hh, hp⟩ := @handleBatchError_counted env cfg now batch e
      ((c.emit (.handle batch (.ok ()))).emit (.commit (commitOffsets batch) (.error e)))
    refine ⟨[.handle batch (.ok ()), .commit (commitOffsets batch) (.error e)] ++ seg, "error",
      by rw [heq, hseg]; simp [emit], by rw [handledResults_append, hh, hr]; rfl,
      by rw [processedIncs_append, hp]; rfl, .inr rfl⟩
  · exact ⟨[.handle batch (.ok ()), .commit (commitOffsets batch) result,
      .processed (topicLabel batch) (partitionLabel batch) "success" batch.length,
      .processingTime (topicLabel batch) "batch_processing"], "success", by rw [heq],
      by rw [hr]; rfl, rfl, .inl ⟨rfl, hr⟩⟩

/--
Along any run from `start()`, whatever is polled and whatever the collaborators
answer, the `MESSAGES_PROCESSED` increments are, in order, one per batch handed
to `message_handler`: each adds the batch's whole length under the topic and
partition of its first record, with status `'success'` only when the handler
returned, and `'error'` whenever it raised.
-/
theorem processed_counts_batch_under_first_labels (now : ℕ) (acts : List Action) :
    CountedPerBatch (run env cfg (start cfg now) acts).log := by
  obtain ⟨seg, hlog, hseg⟩ := @run_log_of_segments env cfg (fun _ => CountedPerBatch)
    (fun _ => List.Forall₂.nil) (fun _ _ _ h h' => h.append h')
    (fun d => by cases d <;> exact List.Forall₂.nil)
    (fun now batch c => by
      obtain ⟨seg, status, hlog, hh, hp, hs⟩ := @processBatch_counted env cfg now batch c
      refine ⟨seg, hlog, show CountedPerBatch seg from ?_⟩
      unfold CountedPerBatch
      rw [hh, hp]
      exact List.Forall₂.cons ⟨rfl, rfl, rfl, hs⟩ List.Forall₂.nil)
    (start cfg now) acts
  rw [hlog, start_log, List.nil_append]
  exact hseg

/-- A platform-events record of partition 1. -/
def partitionOneEvent (offset : ℕ) : Message := { platformEvent offset with partition := 1 }

/-- One record of each of partitions 0 and 1, handled in one batch that
succeeds: partition 0 is credited with both, partition 1 with none. -/
example :
    processedTotal (processBatch allReturn cleanPlatformConfig 0
        [platformEvent 0, partitionOneEvent 0] (start cleanPlatformConfig 0)).log
        "platform-events" 0 "success" = 2 ∧
      processedTotal (processBatch allReturn cleanPlatformConfig 0
        [platformEvent 0, partitionOneEvent 0] (start cleanPlatformConfig 0)).log
        "platform-events" 1 "success" = 0 := by
  decide

end ResilienceCore.Consumer
