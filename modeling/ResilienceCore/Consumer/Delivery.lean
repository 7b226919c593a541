import ResilienceCore.Consumer.Batching

/-!
# What a commit covers

`Delivered` is what the log says of every batch handed over and every commit,
in log order.  After a batch whose handler raised come, for each of its
messages, an `error_handler` call and, with the DLQ on and that call returning,
a DLQ send.  Before each commit stands a batch whose handler returned, and the
commit carries that batch's offsets.  Every action keeps it.

So when each partition's offsets ascend in poll order, a commit of `o` for a
partition covers every polled record of it below `o`: the record went to
`message_handler` in some batch, and that call returned or the record took the
error path.  Nothing more: with the DLQ off, a record of a failed batch is
committed past without being processed or dead-lettered
(`failed_record_committed_past`).
-/

namespace ResilienceCore.Consumer

open OptimizedKafkaConsumer

/-- What the log says of every failed batch and every commit; `dlq` is
`enable_dlq and dlq_producer`. -/
structure Delivered (env : Env) (dlq : Bool) (log : List Effect) : Prop where
  failed : ∀ pre batch e post, log = pre ++ Effect.handle batch (.error e) :: post →
    ∀ msg ∈ batch, ∃ r mid rest, post = mid ++ Effect.errorHandle e msg r :: rest ∧
      (∃ calls, env.errorHandler calls e msg = r) ∧
      (dlq = true → r = .ok () → ∃ topic key value sent,
        Effect.dlqSend topic key value sent ∈ rest ∧ value.originalMessage = msg)
  committed : ∀ pre offsets r post, log = pre ++ Effect.commit offsets r :: post →
    ∃ batch, Effect.handle batch (.ok ()) ∈ pre ∧ offsets = commitOffsets batch

namespace Delivered

variable {env : Env} {dlq : Bool} {log log' : List Effect}

private theorem mem_of_eq_append_cons {pre post : List Effect} {x : Effect}
    (h : log = pre ++ x :: post) : x ∈ log := by
  simp [h]

private theorem eq_append_cons_of_append {pre post : List Effect} {x : Effect}
    (h : log ++ log' = pre ++ x :: post) :
    (∃ post', log = pre ++ x :: post' ∧ post = post' ++ log') ∨
      ∃ pre', log' = pre' ++ x :: post ∧ pre = log ++ pre' := by
  rcases List.append_eq_append_iff.1 h with ⟨a', rfl, h'⟩ | ⟨c', rfl, h'⟩
  · exact .inr ⟨a', h', rfl⟩
  · cases c' with
    | nil => exact .inr ⟨[], by simpa using h'.symm, by simp⟩
    | cons y c'' =>
        obtain ⟨rfl, rfl⟩ := List.cons.inj h'
        exact .inl ⟨c'', rfl, rfl⟩

theorem nil : Delivered env dlq [] :=
  ⟨fun _ _ _ _ h => absurd (mem_of_eq_append_cons h) (List.not_mem_nil _),
    fun _ _ _ _ h => absurd (mem_of_eq_append_cons h) (List.not_mem_nil _)⟩

theorem append (h : Delivered env dlq log) (h' : Delivered env dlq log') :
    Delivered env dlq (log ++ log') := by
  refine ⟨fun pre batch e post hsplit msg hmsg => ?_, fun pre offsets r post hsplit => ?_⟩
  · rcases eq_append_cons_of_append hsplit with ⟨post', hl, rfl⟩ | ⟨pre', hl', -⟩
    · obtain ⟨r, mid, rest, rfl, hcall, hdlq⟩ := h.failed pre batch e post' hl msg hmsg
      refine ⟨r, mid, rest ++ log', by simp, hcall, fun hd hok => ?_⟩
      obtain ⟨topic, key, value, sent, hs, hv⟩ := hdlq hd hok
      exact ⟨topic, key, value, sent, List.mem_append_left _ hs, hv⟩
    · exact h'.failed pre' batch e post hl' msg hmsg
  · rcases eq_append_cons_of_append hsplit with ⟨post', hl, -⟩ | ⟨pre', hl', rfl⟩
    · exact h.committed pre offsets r post' hl
    · obtain ⟨batch, hb, rfl⟩ := h'.committed pre' offsets r post hl'
      exact ⟨batch, List.mem_append_right _ hb, rfl⟩

theorem close (dlqClose : Bool) :
    Delivered env dlq (.consumerClose :: if dlqClose then [.dlqProducerClose] else []) := by
  refine ⟨fun pre batch e post h => ?_, fun pre offsets r post h => ?_⟩ <;>
    have hx := mem_of_eq_append_cons h <;> cases dlqClose <;> simp at hx

end Delivered

variable {env : Env} {cfg : ConsumerConfig}

theorem processBatch_delivered (now : ℕ) (batch : List Message) (c : OptimizedKafkaConsumer) :
    ∃ seg, (processBatch env cfg now batch c).log = c.log ++ seg ∧
      Delivered env (cfg.enableDlq && c.dlqProducer) seg := by
  obtain ⟨suffix, heq, hh, hc, hm⟩ := @processBatch_eq env cfg now batch c
  refine ⟨_, by rw [heq], fun pre batch' e post hsplit msg hmsg => ?_,
    fun pre offsets r post hsplit => ?_⟩
  · cases pre with
    | nil =>
        obtain ⟨hb, rfl⟩ := List.cons.inj hsplit
        obtain ⟨rfl, hres⟩ := Effect.handle.inj hb
        obtain ⟨r, mid, rest, hrest, hcall, hdlq⟩ := hm e hres msg hmsg
        refine ⟨r, mid, rest, hrest, hcall, fun hd hok => ?_⟩
        simp only [Bool.and_eq_true] at hd
        obtain ⟨topic, key, sent, hs⟩ := hdlq hd.1 hd.2 hok
        exact ⟨topic, key, _, sent, hs, rfl⟩
    | cons y pre =>
        have := mem_handled_iff.2 ⟨_, Delivered.mem_of_eq_append_cons (List.cons.inj hsplit).2⟩
        rw [hh] at this
        cases this
  · cases pre with
    | nil => cases (List.cons.inj hsplit).1
    | cons y pre =>
        obtain ⟨rfl, hsuf⟩ := List.cons.inj hsplit
        obtain ⟨hok, rfl⟩ := hc offsets r (Delivered.mem_of_eq_append_cons hsuf)
        exact ⟨batch, by rw [hok]; exact List.mem_cons_self _ _, rfl⟩

theorem run_delivered (c : OptimizedKafkaConsumer) (acts : List Action) :
    ∃ seg, (run env cfg c acts).log = c.log ++ seg ∧
      Delivered env (cfg.enableDlq && c.dlqProducer) seg :=
  run_log_of_segments (fun d => Delivered env (cfg.enableDlq && d)) (fun _ => .nil)
    (fun _ _ _ h h' => h.append h') (fun _ => .close _) processBatch_delivered c acts

/-! ## The commit covers every earlier record -/

/--
Take any run from `start()` in which each partition's offsets strictly increase
in poll order, with timer flushes and `stop()` anywhere, any answers from
`message_handler`, `consumer.commit` and the DLQ sink, and an `error_handler`
that returns.  When a commit maps a partition to `o`, every polled record of it
with offset below `o` went to `message_handler` in some batch.  That call
returned, or it raised and the record went to `error_handler`, and then to the
DLQ when `enable_dlq` is set.
-/
theorem commit_covers_dispatched_records (now : ℕ) (acts : List Action)
    (hinc : ((polled acts).map Message.ofRecord).Pairwise fun m m' =>
      m.tp = m'.tp → m.offset < m'.offset)
    (herr : ∀ calls error msg, env.errorHandler calls error msg = .ok ()) :
    ∀ offsets result, Effect.commit offsets result ∈ (run env cfg (start cfg now) acts).log →
      ∀ tp o, dictGet offsets tp = some o →
      ∀ record ∈ polled acts, (Message.ofRecord record).tp = tp → record.offset < o →
        ∃ batch, Message.ofRecord record ∈ batch ∧
          (Effect.handle batch (.ok ()) ∈ (run env cfg (start cfg now) acts).log ∨
            ∃ e, Effect.handle batch (.error e) ∈ (run env cfg (start cfg now) acts).log ∧
              Effect.errorHandle e (Message.ofRecord record) (.ok ()) ∈
                (run env cfg (start cfg now) acts).log ∧
              (cfg.enableDlq = true → ∃ topic key value sent,
                Effect.dlqSend topic key value sent ∈ (run env cfg (start cfg now) acts).log ∧
                  value.originalMessage = Message.ofRecord record)) := by
  intro offsets result hc tp o ho record hrec htp hlt
  obtain ⟨seg, hlog, hD⟩ := @run_delivered env cfg (start cfg now) acts
  obtain ⟨new, hlog', hcat⟩ := @run_flatten env cfg (start cfg now) acts
  simp only [start_log, start_batchQueue, List.nil_append, start, Bool.and_self] at hlog hlog' hcat hD
  rw [← hlog] at hD
  rw [← hlog'] at hcat
  -- the committed batch and its last record of the partition
  obtain ⟨pre₀, post₀, hsplit₀⟩ := List.append_of_mem hc
  obtain ⟨batch₀, hh₀, rfl⟩ := hD.committed pre₀ offsets result post₀ hsplit₀
  rw [dictGet_commitOffsets, Option.map_eq_some'] at ho
  obtain ⟨last, hlast, rfl⟩ := ho
  obtain ⟨hlast_mem, hlast_tp⟩ := lastOf_mem hlast
  have hlast_done : last ∈ (handled (run env cfg (start cfg now) acts).log).flatten :=
    List.mem_flatten.2 ⟨batch₀, mem_handled_iff.2 ⟨.ok (), by rw [hsplit₀]; simp [hh₀]⟩, hlast_mem⟩
  -- the record was dispatched: in the open queue it would come after `last`
  have hdone : Message.ofRecord record ∈ (handled (run env cfg (start cfg now) acts).log).flatten := by
    have hm : Message.ofRecord record ∈ (polled acts).map Message.ofRecord :=
      List.mem_map_of_mem _ hrec
    rw [← hcat] at hm hinc
    rcases List.mem_append.1 hm with hm | hm
    · exact hm
    · have := (List.pairwise_append.1 hinc).2.2 last hlast_done _ hm (hlast_tp.trans htp.symm)
      exact absurd this (by simp only [Message.ofRecord]; omega)
  obtain ⟨batch, hbatch, hmem⟩ := List.mem_flatten.1 hdone
  obtain ⟨res, hres⟩ := mem_handled_iff.1 hbatch
  refine ⟨batch, hmem, ?_⟩
  rcases res with e | ⟨⟩
  · -- the failed batch's `error_handler` call, which returned, and the DLQ send after it
    obtain ⟨pre, post, hsplit⟩ := List.append_of_mem hres
    obtain ⟨r, mid, rest, rfl, ⟨calls, hr⟩, hdlq⟩ := hD.failed pre batch e post hsplit _ hmem
    rw [herr] at hr
    subst hr
    refine .inr ⟨e, hres, by rw [hsplit]; simp, fun hd => ?_⟩
    obtain ⟨topic, key, value, sent, hs, hv⟩ := hdlq hd rfl
    exact ⟨topic, key, value, sent, by rw [hsplit]; simp [hs], hv⟩
  · exact .inl hres

theorem timerStopActions_commit_covers :
    ((polled timerStopActions).map Message.ofRecord).Pairwise (fun m m' =>
      m.tp = m'.tp → m.offset < m'.offset) ∧
    (∀ calls error msg, allReturn.errorHandler calls error msg = .ok ()) ∧
    ∀ offsets result, Effect.commit offsets result ∈
        (run allReturn cleanPlatformConfig (start cleanPlatformConfig 0) timerStopActions).log →
      ∀ tp o, dictGet offsets tp = some o →
      ∀ record ∈ polled timerStopActions, (Message.ofRecord record).tp = tp → record.offset < o →
        ∃ batch, Message.ofRecord record ∈ batch ∧
          (Effect.handle batch (.ok ()) ∈
              (run allReturn cleanPlatformConfig (start cleanPlatformConfig 0) timerStopActions).log ∨
            ∃ e, Effect.handle batch (.error e) ∈
                (run allReturn cleanPlatformConfig (start cleanPlatformConfig 0) timerStopActions).log ∧
              Effect.errorHandle e (Message.ofRecord record) (.ok ()) ∈
                (run allReturn cleanPlatformConfig (start cleanPlatformConfig 0) timerStopActions).log ∧
              (cleanPlatformConfig.enableDlq = true → ∃ topic key value sent,
                Effect.dlqSend topic key value sent ∈
                  (run allReturn cleanPlatformConfig (start cleanPlatformConfig 0)
                    timerStopActions).log ∧
                  value.originalMessage = Message.ofRecord record)) :=
  ⟨by decide, fun _ _ _ => rfl,
    commit_covers_dispatched_records 0 timerStopActions (by decide) (fun _ _ _ => rfl)⟩

/-- `enable_dlq = False` and one record per batch. -/
def noDlqSingles : ConsumerConfig := { cleanPlatformConfig with batchSize := 1, enableDlq := false }

def malformedEvent : PyException := ⟨"ValueError", "malformed event"⟩

/-- A handler that raises on the record at offset 0 and returns otherwise. -/
def failOnOffsetZero : Env :=
  { allReturn with
    messageHandler := fun _ batch => if batch.any (·.offset = 0) then .error malformedEvent
      else .ok () }

def dlqOffLog : List Effect :=
  (run failOnOffsetZero noDlqSingles (start noDlqSingles 0)
    [.add (platformRecord 0) 0, .add (platformRecord 1) 0]).log

/-- The record at offset 0 fails and is not dead-lettered, yet the commit after
the record at offset 1 moves the partition to 2. -/
theorem failed_record_committed_past :
    Effect.commit [(⟨"platform-events", 0⟩, 2)] (.ok ()) ∈ dlqOffLog ∧
      (∀ batch, Effect.handle batch (.ok ()) ∈ dlqOffLog →
        Message.ofRecord (platformRecord 0) ∉ batch) ∧
      ∀ topic key value sent, Effect.dlqSend topic key value sent ∉ dlqOffLog := by
  have hlog : dlqOffLog =
      [.handle [.ofRecord (platformRecord 0)] (.error malformedEvent),
        .errorHandle malformedEvent (.ofRecord (platformRecord 0)) (.ok ()),
        .processed "platform-events" 0 "error" 1,
        .handle [.ofRecord (platformRecord 1)] (.ok ()),
        .commit [(⟨"platform-events", 0⟩, 2)] (.ok ()),
        .processed "platform-events" 0 "success" 1,
        .processingTime "platform-events" "batch_processing"] := rfl
  simp [hlog, platformRecord, Message.ofRecord]

end ResilienceCore.Consumer
