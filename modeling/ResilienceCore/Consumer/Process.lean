import ResilienceCore.Consumer.Message

/-!
# Processing one batch

`_process_batch` calls `message_handler`, then `_commit_batch_offsets`, then
the success metrics, all inside one `try`; whatever escapes from them goes to
`_handle_batch_error`.  `_commit_batch_offsets` swallows only
`CommitFailedError`.  `_handle_batch_error` runs `error_handler` and the DLQ
send for each message inside one `try` per message, so a raising
`error_handler` also skips that message's DLQ send.

Every one of these methods only appends to the consumer's log.
-/

namespace ResilienceCore.Consumer

open OptimizedKafkaConsumer

variable (env : Env) (cfg : ConsumerConfig)

/-- `isinstance(e, CommitFailedError)`; kafka-python defines no subclass of it. -/
def isCommitFailedError (e : PyException) : Bool := e.typeName == "CommitFailedError"

/-- The `offsets` dict of `_commit_batch_offsets`: each message in turn sets its
partition's entry to its offset + 1. -/
def commitOffsets (batch : List Message) : List (TopicPartition × ℕ) :=
  batch.foldl (fun offsets msg => dictSet offsets msg.tp (msg.offset + 1)) []

def commitBatchOffsets (batch : List Message) (c : OptimizedKafkaConsumer) :
    OptimizedKafkaConsumer × Option PyException :=
  let offsets := commitOffsets batch
  let result := env.commit c.log offsets
  let c := c.emit (.commit offsets result)
  match result with
  | .ok () => (c, none)
  | .error e => if isCommitFailedError e then (c, none) else (c, some e)

/-- `self.config.dlq_topic or f"{message['topic']}-dlq"`. -/
def dlqTopicFor (message : Message) : String :=
  match cfg.dlqTopic with
  | some topic => if topic = "" then message.topic ++ "-dlq" else topic
  | none => message.topic ++ "-dlq"

def retryCount (message : Message) : Except PyException Int :=
  match message.toJson.get? "retry_count" with
  | none => .ok 1
  | some (.num n) => .ok (n + 1)
  | some (.bool b) => .ok ((if b then 1 else 0) + 1)
  | some _ => .error ⟨"TypeError", "unsupported operand type(s) for +"⟩

/-- `_send_to_dlq`: a failed send is logged; only building the envelope could raise. -/
def sendToDlq (now : ℕ) (message : Message) (error : PyException) (c : OptimizedKafkaConsumer) :
    OptimizedKafkaConsumer × Option PyException :=
  match retryCount message with
  | .error e => (c, some e)
  | .ok retry =>
      let topic := dlqTopicFor cfg message
      let value : DlqMessage := ⟨message, error.text, error.typeName, now, cfg.consumerGroup, retry⟩
      (c.emit (.dlqSend topic message.key value (env.dlqSend c.log topic message.key value)), none)

/-- One pass of `_handle_batch_error`'s loop; what raises in it is caught and logged. -/
def handleMessageError (now : ℕ) (error : PyException) (c : OptimizedKafkaConsumer)
    (msg : Message) : OptimizedKafkaConsumer :=
  let result := env.errorHandler c.log error msg
  let c := c.emit (.errorHandle error msg result)
  match result with
  | .error _ => c
  | .ok () => if cfg.enableDlq ∧ c.dlqProducer then (sendToDlq env cfg now msg error c).1 else c

def topicLabel : List Message → String
  | [] => "unknown"
  | msg :: _ => msg.topic

def partitionLabel : List Message → Int
  | [] => -1
  | msg :: _ => msg.partition

def handleBatchError (now : ℕ) (batch : List Message) (error : PyException)
    (c : OptimizedKafkaConsumer) : OptimizedKafkaConsumer :=
  let c := batch.foldl (handleMessageError env cfg now error) c
  c.emit (.processed (topicLabel batch) (partitionLabel batch) "error" batch.length)

def processBatch (now : ℕ) (batch : List Message) (c : OptimizedKafkaConsumer) :
    OptimizedKafkaConsumer :=
  let topic := topicLabel batch
  let result := env.messageHandler c.log batch
  let c := c.emit (.handle batch result)
  match result with
  | .error e => handleBatchError env cfg now batch e c
  | .ok () =>
      match commitBatchOffsets env batch c with
      | (c, some e) => handleBatchError env cfg now batch e c
      | (c, none) =>
          (c.emit (.processed topic (partitionLabel batch) "success" batch.length)).emit
            (.processingTime topic "batch_processing")

/-! ## What each method appends to the log -/

def handled (log : List Effect) : List (List Message) :=
  log.filterMap fun
    | .handle batch _ => some batch
    | _ => none

def commits (log : List Effect) : List (List (TopicPartition × ℕ)) :=
  log.filterMap fun
    | .commit offsets _ => some offsets
    | _ => none

def errorHandled (log : List Effect) : List Message :=
  log.filterMap fun
    | .errorHandle _ msg _ => some msg
    | _ => none

def dlqSent (log : List Effect) : List DlqMessage :=
  log.filterMap fun
    | .dlqSend _ _ value _ => some value
    | _ => none

@[simp] theorem handled_nil : handled [] = [] := rfl

@[simp] theorem errorHandled_append (l l' : List Effect) :
    errorHandled (l ++ l') = errorHandled l ++ errorHandled l' :=
  List.filterMap_append _ _ _

@[simp] theorem dlqSent_append (l l' : List Effect) :
    dlqSent (l ++ l') = dlqSent l ++ dlqSent l' :=
  List.filterMap_append _ _ _

@[simp] theorem handled_append (l l' : List Effect) :
    handled (l ++ l') = handled l ++ handled l' :=
  List.filterMap_append _ _ _

theorem mem_handled_iff {batch : List Message} {log : List Effect} :
    batch ∈ handled log ↔ ∃ r, Effect.handle batch r ∈ log := by
  simp only [handled, List.mem_filterMap]
  constructor
  · rintro ⟨e, he, h⟩
    cases e <;> simp only [Option.some.injEq, reduceCtorEq] at h
    exact ⟨_, h ▸ he⟩
  · rintro ⟨r, hr⟩
    exact ⟨_, hr, rfl⟩

def lastOf (batch : List Message) (tp : TopicPartition) : Option Message :=
  (batch.filter fun msg => msg.tp = tp).getLast?

def dlqMessageFor (now : ℕ) (msg : Message) (error : PyException) : DlqMessage :=
  ⟨msg, error.text, error.typeName, now, cfg.consumerGroup, 1⟩

/-- What one pass of `_handle_batch_error`'s loop appends, given the answers of
`error_handler` and of the DLQ send; `dlq` is `enable_dlq and dlq_producer`. -/
def errorBlock (dlq : Bool) (now : ℕ) (error : PyException) (msg : Message)
    (handled sent : Except PyException Unit) : List Effect :=
  .errorHandle error msg handled ::
    match handled with
    | .ok () =>
        if dlq then [.dlqSend (dlqTopicFor cfg msg) msg.key (dlqMessageFor cfg now msg error) sent]
        else []
    | .error _ => []

variable {env cfg}

@[simp] theorem retryCount_eq (msg : Message) : retryCount msg = .ok 1 := rfl

theorem handleMessageError_eq (now : ℕ) (error : PyException) (c : OptimizedKafkaConsumer)
    (msg : Message) : ∃ sent, handleMessageError env cfg now error c msg =
      { c with log := c.log ++ (errorBlock cfg (cfg.enableDlq && c.dlqProducer) now error msg
          (env.errorHandler c.log error msg) sent) } := by
  unfold handleMessageError
  cases env.errorHandler c.log error msg with
  | error e => exact ⟨.ok (), by simp [errorBlock, emit]⟩
  | ok u =>
      by_cases hd : cfg.enableDlq = true ∧ c.dlqProducer = true
      · refine ⟨env.dlqSend (c.log ++ [.errorHandle error msg (.ok u)]) (dlqTopicFor cfg msg)
          msg.key (dlqMessageFor cfg now msg error), ?_⟩
        simp [hd, errorBlock, sendToDlq, emit, dlqMessageFor]
      · refine ⟨.ok (), ?_⟩
        simp only [Bool.and_eq_true] at hd
        simp [hd, errorBlock, emit]

theorem handleBatchError_eq (now : ℕ) (batch : List Message) (error : PyException)
    (c : OptimizedKafkaConsumer) :
    ∃ answers : List (Except PyException Unit × Except PyException Unit),
      answers.length = batch.length ∧
      (∀ p ∈ batch.zip answers, ∃ calls, env.errorHandler calls error p.1 = p.2.1) ∧
      handleBatchError env cfg now batch error c =
        { c with log := c.log ++ ((batch.zip answers).flatMap (fun p =>
            errorBlock cfg (cfg.enableDlq && c.dlqProducer) now error p.1 p.2.1 p.2.2) ++
          [.processed (topicLabel batch) (partitionLabel batch) "error" batch.length]) } := by
  suffices h : ∀ (c : OptimizedKafkaConsumer) (rest : List Message),
      ∃ answers : List (Except PyException Unit × Except PyException Unit),
        answers.length = rest.length ∧
        (∀ p ∈ rest.zip answers, ∃ calls, env.errorHandler calls error p.1 = p.2.1) ∧
        rest.foldl (handleMessageError env cfg now error) c =
          { c with log := c.log ++ (rest.zip answers).flatMap (fun p =>
              errorBlock cfg (cfg.enableDlq && c.dlqProducer) now error p.1 p.2.1 p.2.2) } by
    obtain ⟨answers, hlen, hans, hfold⟩ := h c batch
    exact ⟨answers, hlen, hans, by simp [handleBatchError, hfold, emit]⟩
  intro c rest
  induction rest generalizing c with
  | nil => exact ⟨[], rfl, by simp, by simp⟩
  | cons msg rest ih =>
      obtain ⟨sent, hmsg⟩ := @handleMessageError_eq env cfg now error c msg
      obtain ⟨answers, hlen, hans, hfold⟩ := ih (handleMessageError env cfg now error c msg)
      refine ⟨(env.errorHandler c.log error msg, sent) :: answers, by simp [hlen], ?_, ?_⟩
      · simp only [List.zip_cons_cons, List.mem_cons, forall_eq_or_imp]
        exact ⟨⟨c.log, rfl⟩, hans⟩
      · rw [List.foldl_cons, hfold, hmsg]
        simp

theorem commitBatchOffsets_eq (batch : List Message) (c : OptimizedKafkaConsumer) :
    commitBatchOffsets env batch c =
      (c.emit (.commit (commitOffsets batch) (env.commit c.log (commitOffsets batch))),
        match env.commit c.log (commitOffsets batch) with
        | .ok () => none
        | .error e => if isCommitFailedError e then none else some e) := by
  unfold commitBatchOffsets
  dsimp only
  cases env.commit c.log (commitOffsets batch) with
  | ok u => rfl
  | error e => by_cases h : isCommitFailedError e <;> simp [h]

theorem handled_flatMap {α : Type} (l : List α) (f : α → List Effect) :
    handled (l.flatMap f) = l.flatMap fun a => handled (f a) := by
  induction l with
  | nil => rfl
  | cons a l ih => simp [List.flatMap_cons, ih]

@[simp] theorem handled_errorBlock (dlq : Bool) (now : ℕ) (error : PyException) (msg : Message)
    (r s : Except PyException Unit) : handled (errorBlock cfg dlq now error msg r s) = [] := by
  rcases r with e | ⟨⟩ <;> cases dlq <;> rfl

theorem commit_not_mem_errorBlock (dlq : Bool) (now : ℕ) (error : PyException) (msg : Message)
    (r s : Except PyException Unit) (offsets : List (TopicPartition × ℕ))
    (result : Except PyException Unit) :
    Effect.commit offsets result ∉ errorBlock cfg dlq now error msg r s := by
  rcases r with e | ⟨⟩ <;> cases dlq <;> simp [errorBlock]

private theorem exists_mem_zip {α β : Type} {l : List α} {l' : List β}
    (h : l'.length = l.length) {a : α} (ha : a ∈ l) : ∃ b, (a, b) ∈ l.zip l' := by
  induction l generalizing l' with
  | nil => cases ha
  | cons x xs ih =>
      cases l' with
      | nil => cases h
      | cons y ys =>
          rcases List.mem_cons.1 ha with rfl | ha
          · exact ⟨y, by simp⟩
          · obtain ⟨b, hb⟩ := ih (by simpa using h) ha
            exact ⟨b, List.mem_cons_of_mem _ hb⟩

theorem handleBatchError_log (now : ℕ) (batch : List Message) (error : PyException)
    (c : OptimizedKafkaConsumer) :
    ∃ suffix, handleBatchError env cfg now batch error c = { c with log := c.log ++ suffix } ∧
      handled suffix = [] ∧ (∀ offsets r, Effect.commit offsets r ∉ suffix) ∧
      ∀ msg ∈ batch, ∃ r mid rest, suffix = mid ++ Effect.errorHandle error msg r :: rest ∧
        (∃ calls, env.errorHandler calls error msg = r) ∧
        (cfg.enableDlq = true → c.dlqProducer = true → r = .ok () →
          ∃ topic key sent, Effect.dlqSend topic key (dlqMessageFor cfg now msg error) sent ∈ rest) := by
  obtain ⟨answers, hlen, hans, heq⟩ := @handleBatchError_eq env cfg now batch error c
  refine ⟨_, heq, by rw [handled_append, handled_flatMap]; simp; rfl,
    fun offsets r hr => ?_, fun msg hmsg => ?_⟩
  · simp only [List.mem_append, List.mem_flatMap, List.mem_singleton, reduceCtorEq,
      or_false] at hr
    obtain ⟨p, -, hp⟩ := hr
    exact commit_not_mem_errorBlock _ _ _ _ _ _ _ _ hp
  · obtain ⟨a, ha⟩ := exists_mem_zip hlen hmsg
    obtain ⟨pre, post, hsplit⟩ := List.append_of_mem ha
    let block := errorBlock cfg (cfg.enableDlq && c.dlqProducer) now error msg a.1 a.2
    let blocks := fun l : List (Message × Except PyException Unit × Except PyException Unit) =>
      l.flatMap fun p => errorBlock cfg (cfg.enableDlq && c.dlqProducer) now error p.1 p.2.1 p.2.2
    refine ⟨a.1, blocks pre, block.tail ++ (blocks post ++
        [.processed (topicLabel batch) (partitionLabel batch) "error" batch.length]),
      by rw [hsplit]; simp [blocks]; rfl, hans _ ha,
      fun hd hp hr => ⟨dlqTopicFor cfg msg, msg.key, a.2, List.mem_append_left _ ?_⟩⟩
    simp [block, errorBlock, hr, hd, hp]

theorem processBatch_error {now : ℕ} {batch : List Message} {c : OptimizedKafkaConsumer}
    {e : PyException} (hr : env.messageHandler c.log batch = .error e) :
    processBatch env cfg now batch c =
      handleBatchError env cfg now batch e (c.emit (.handle batch (.error e))) := by
  simp only [processBatch, hr]

theorem processBatch_ok {now : ℕ} {batch : List Message} {c : OptimizedKafkaConsumer}
    (hr : env.messageHandler c.log batch = .ok ()) :
    ∃ result post, processBatch env cfg now batch c =
        { c with log := c.log ++ .handle batch (.ok ()) :: .commit (commitOffsets batch) result ::
          post } ∧
      handled post = [] ∧ ∀ offsets r, Effect.commit offsets r ∉ post := by
  let success : List Effect := [.processed (topicLabel batch) (partitionLabel batch) "success"
    batch.length, .processingTime (topicLabel batch) "batch_processing"]
  simp only [processBatch, hr, commitBatchOffsets_eq]
  cases hc : env.commit (c.emit (.handle batch (.ok ()))).log (commitOffsets batch) with
  | ok v => exact ⟨.ok v, success, by simp [emit, success], rfl, by simp [success]⟩
  | error e' =>
      by_cases hf : isCommitFailedError e'
      · exact ⟨.error e', success, by simp [emit, hf, success], rfl, by simp [success]⟩
      · obtain ⟨post, heq, hh, hc', -⟩ := @handleBatchError_log env cfg now batch e'
          ((c.emit (.handle batch (.ok ()))).emit (.commit (commitOffsets batch) (.error e')))
        exact ⟨.error e', post, by simp only [if_neg hf]; rw [heq]; simp [emit], hh, hc'⟩

theorem processBatch_cases (now : ℕ) (batch : List Message) (c : OptimizedKafkaConsumer) :
    (∃ e, env.messageHandler c.log batch = .error e ∧
      processBatch env cfg now batch c =
        handleBatchError env cfg now batch e (c.emit (.handle batch (.error e)))) ∨
    (∃ e, env.messageHandler c.log batch = .ok () ∧
      env.commit (c.log ++ [.handle batch (.ok ())]) (commitOffsets batch) = .error e ∧
      isCommitFailedError e = false ∧
      processBatch env cfg now batch c =
        handleBatchError env cfg now batch e
          ((c.emit (.handle batch (.ok ()))).emit (.commit (commitOffsets batch) (.error e)))) ∨
    (∃ result, env.messageHandler c.log batch = .ok () ∧
      env.commit (c.log ++ [.handle batch (.ok ())]) (commitOffsets batch) = result ∧
      (result = .ok () ∨ ∃ e, result = .error e ∧ isCommitFailedError e = true) ∧
      processBatch env cfg now batch c =
        { c with log := c.log ++ [.handle batch (.ok ()), .commit (commitOffsets batch) result,
          .processed (topicLabel batch) (partitionLabel batch) "success" batch.length,
          .processingTime (topicLabel batch) "batch_processing"] }) := by
  rcases hr : env.messageHandler c.log batch with e | ⟨⟩
  · exact .inl ⟨e, rfl, processBatch_error hr⟩
  · right
    rcases hcommit : env.commit (c.log ++ [.handle batch (.ok ())]) (commitOffsets batch) with
      e | ⟨⟩
    · cases hf : isCommitFailedError e
      · refine .inl ⟨e, rfl, hcommit, hf, ?_⟩
        simp [processBatch, hr, commitBatchOffsets_eq, emit, hcommit, hf]
      · refine .inr ⟨.error e, rfl, hcommit, .inr ⟨e, rfl, hf⟩, ?_⟩
        simp [processBatch, hr, commitBatchOffsets_eq, emit, hcommit, hf]
    · refine .inr ⟨.ok (), rfl, hcommit, .inl rfl, ?_⟩
      simp [processBatch, hr, commitBatchOffsets_eq, emit, hcommit]

theorem processBatch_eq (now : ℕ) (batch : List Message) (c : OptimizedKafkaConsumer) :
    ∃ suffix, processBatch env cfg now batch c =
        { c with log := c.log ++ .handle batch (env.messageHandler c.log batch) :: suffix } ∧
      handled suffix = [] ∧
      (∀ offsets r, Effect.commit offsets r ∈ suffix →
        env.messageHandler c.log batch = .ok () ∧ offsets = commitOffsets batch) ∧
      ∀ e, env.messageHandler c.log batch = .error e → ∀ msg ∈ batch, ∃ r mid rest,
        suffix = mid ++ Effect.errorHandle e msg r :: rest ∧
        (∃ calls, env.errorHandler calls e msg = r) ∧
        (cfg.enableDlq = true → c.dlqProducer = true → r = .ok () →
          ∃ topic key sent, Effect.dlqSend topic key (dlqMessageFor cfg now msg e) sent ∈ rest) := by
  cases hr : env.messageHandler c.log batch with
  | error e =>
      obtain ⟨suffix, heq, hh, hc, hm⟩ :=
        @handleBatchError_log env cfg now batch e (c.emit (.handle batch (.error e)))
      refine ⟨suffix, by rw [processBatch_error hr, heq]; simp [emit], hh,
        fun o r h => absurd h (hc o r), ?_⟩
      rintro e' ⟨⟩ msg hmsg
      exact hm msg hmsg
  | ok u =>
      obtain ⟨result, post, heq, hh, hc⟩ := processBatch_ok hr
      refine ⟨_, heq, by simpa [handled] using hh, fun o r h => ?_, fun e h => by cases h⟩
      rcases List.mem_cons.1 h with h | h
      · cases h; exact ⟨rfl, rfl⟩
      · exact absurd h (hc o r)

theorem processBatch_frame (now : ℕ) (batch : List Message) (c : OptimizedKafkaConsumer) :
    ∃ new, processBatch env cfg now batch c = { c with log := c.log ++ new } ∧
      handled new = [batch] := by
  obtain ⟨suffix, h, hh, -⟩ := @processBatch_eq env cfg now batch c
  exact ⟨_, h, by simp [handled, ← hh]⟩

/-! ## The commit offsets -/

theorem dictGet_commitOffsets (batch : List Message) (tp : TopicPartition) :
    dictGet (commitOffsets batch) tp = (lastOf batch tp).map (·.offset + 1) := by
  induction batch using List.reverseRecOn with
  | nil => rfl
  | append_singleton batch msg ih =>
      rw [commitOffsets, List.foldl_append, ← commitOffsets]
      by_cases h : msg.tp = tp
      · simp [h, lastOf]
      · simp [Ne.symm h, h, lastOf, ih]

theorem commitOffsets_nodup (batch : List Message) : (dictKeys (commitOffsets batch)).Nodup := by
  induction batch using List.reverseRecOn with
  | nil => exact List.nodup_nil
  | append_singleton batch msg ih =>
      rw [commitOffsets, List.foldl_append, ← commitOffsets]
      exact dictKeys_dictSet_nodup _ _ _ ih

theorem lastOf_mem {batch : List Message} {tp : TopicPartition} {last : Message}
    (hlast : lastOf batch tp = some last) : last ∈ batch ∧ last.tp = tp := by
  simpa using List.mem_of_getLast?_eq_some hlast

theorem lastOf_offset_max {batch : List Message} {tp : TopicPartition} {last : Message}
    (hasc : (batch.filter fun msg => msg.tp = tp).Pairwise fun a b => a.offset ≤ b.offset)
    (hlast : lastOf batch tp = some last) :
    last ∈ batch ∧ last.tp = tp ∧ ∀ msg ∈ batch, msg.tp = tp → msg.offset ≤ last.offset := by
  obtain ⟨init, hinit⟩ := List.getLast?_eq_some_iff.1 hlast
  refine ⟨(lastOf_mem hlast).1, (lastOf_mem hlast).2, fun msg hm htp => ?_⟩
  have hm' : msg ∈ init ++ [last] := by rw [← hinit]; simp [hm, htp]
  rw [hinit] at hasc
  rcases List.mem_append.1 hm' with hi | hl
  · exact (List.pairwise_append.1 hasc).2.2 msg hi last (List.mem_singleton_self _)
  · rw [List.mem_singleton.1 hl]

theorem mem_dictKeys_commitOffsets (batch : List Message) (tp : TopicPartition) :
    tp ∈ dictKeys (commitOffsets batch) ↔ ∃ msg ∈ batch, msg.tp = tp := by
  rw [mem_dictKeys_iff, dictGet_commitOffsets]
  simp [lastOf, List.filter_eq_nil_iff]

/--
After a handler that returns, `_process_batch` calls `consumer.commit` exactly
once, right after it.  The mapping has each partition of the batch as a key,
once, and maps it to 1 + the offset of the partition's last record in the
batch, which is the largest offset when the partition's offsets ascend there.
-/
theorem processBatch_commits_last_offsets (now : ℕ) (batch : List Message)
    (c : OptimizedKafkaConsumer) (hok : env.messageHandler c.log batch = .ok ()) :
    ∃ result post, (processBatch env cfg now batch c).log =
        c.log ++ .handle batch (.ok ()) :: .commit (commitOffsets batch) result :: post ∧
      (∀ offsets r, Effect.commit offsets r ∉ post) ∧
      (dictKeys (commitOffsets batch)).Nodup ∧
      (∀ tp, tp ∈ dictKeys (commitOffsets batch) ↔ ∃ msg ∈ batch, msg.tp = tp) ∧
      (∀ tp, dictGet (commitOffsets batch) tp = (lastOf batch tp).map (·.offset + 1)) ∧
      ∀ tp, (batch.filter fun msg => msg.tp = tp).Pairwise (fun a b => a.offset ≤ b.offset) →
        ∀ msg ∈ batch, msg.tp = tp → ∃ last ∈ batch, last.tp = tp ∧
          (∀ m ∈ batch, m.tp = tp → m.offset ≤ last.offset) ∧
          dictGet (commitOffsets batch) tp = some (last.offset + 1) := by
  obtain ⟨result, post, heq, -, hc⟩ := @processBatch_ok env cfg now batch c hok
  refine ⟨result, post, by rw [heq], hc, commitOffsets_nodup batch,
    mem_dictKeys_commitOffsets batch, dictGet_commitOffsets batch, fun tp hasc msg hmsg htp => ?_⟩
  obtain ⟨last, hlast⟩ : ∃ last, lastOf batch tp = some last := by
    refine Option.ne_none_iff_exists'.1 fun h => ?_
    have := (mem_dictKeys_iff _ tp).1 ((mem_dictKeys_commitOffsets batch tp).2 ⟨msg, hmsg, htp⟩)
    simp [dictGet_commitOffsets, h] at this
  obtain ⟨hmem, htp', hmax⟩ := lastOf_offset_max hasc hlast
  exact ⟨last, hmem, htp', hmax, by simp [dictGet_commitOffsets, hlast]⟩

def platformEvent (offset : ℕ) : Message :=
  { topic := "platform-events", partition := 0, offset := offset, key := none, value := .obj [],
    timestamp := 0, headers := [] }

def eventBatch : List Message := [platformEvent 0, platformEvent 1]

def allReturn : Env :=
  ⟨fun _ _ => .ok (), fun _ _ => .ok (), fun _ _ _ => .ok (), fun _ _ _ _ => .ok ()⟩

theorem eventBatch_commits_last_offsets :
    allReturn.messageHandler (start cleanPlatformConfig 0).log eventBatch = .ok () ∧
    ∃ result post,
      (processBatch allReturn cleanPlatformConfig 0 eventBatch (start cleanPlatformConfig 0)).log =
        (start cleanPlatformConfig 0).log ++
          .handle eventBatch (.ok ()) :: .commit (commitOffsets eventBatch) result :: post ∧
      (∀ offsets r, Effect.commit offsets r ∉ post) ∧
      (dictKeys (commitOffsets eventBatch)).Nodup ∧
      (∀ tp, tp ∈ dictKeys (commitOffsets eventBatch) ↔ ∃ msg ∈ eventBatch, msg.tp = tp) ∧
      (∀ tp, dictGet (commitOffsets eventBatch) tp = (lastOf eventBatch tp).map (·.offset + 1)) ∧
      ∀ tp, (eventBatch.filter fun msg => msg.tp = tp).Pairwise (fun a b => a.offset ≤ b.offset) →
        ∀ msg ∈ eventBatch, msg.tp = tp → ∃ last ∈ eventBatch, last.tp = tp ∧
          (∀ m ∈ eventBatch, m.tp = tp → m.offset ≤ last.offset) ∧
          dictGet (commitOffsets eventBatch) tp = some (last.offset + 1) :=
  ⟨rfl, processBatch_commits_last_offsets 0 eventBatch (start cleanPlatformConfig 0) rfl⟩

def redeliveredBatch : List Message := [platformEvent 5, platformEvent 3]

/-- The commit for that batch maps the partition to 4, not to 1 + 5. -/
theorem redeliveredBatch_commit_not_max :
    redeliveredBatch.map (·.offset) = [5, 3] ∧
      commits (processBatch allReturn cleanPlatformConfig 0 redeliveredBatch
        (start cleanPlatformConfig 0)).log = [[(⟨"platform-events", 0⟩, 4)]] := by
  decide

/-! ## The error path after a handler that returned, and inside it -/

def commitTimeout : PyException := ⟨"KafkaTimeoutError", "Timeout committing offsets"⟩

def commitTimeoutRun : OptimizedKafkaConsumer :=
  processBatch { allReturn with commit := fun _ _ => .error commitTimeout } cleanPlatformConfig 0
    eventBatch (start cleanPlatformConfig 0)

/-- The commit was called, so the handler had returned; still both messages
went to `error_handler` and to the DLQ. -/
theorem commitTimeout_dead_letters_processed_batch :
    commits commitTimeoutRun.log = [commitOffsets eventBatch] ∧
      (errorHandled commitTimeoutRun.log).map (·.offset) = [0, 1] ∧
      (dlqSent commitTimeoutRun.log).map (·.originalMessage.offset) = [0, 1] := by
  decide

def invalidEvent : PyException := ⟨"ValueError", "invalid event"⟩

def errorHandlerRaiseRun : OptimizedKafkaConsumer :=
  handleBatchError
    { allReturn with
      errorHandler := fun _ _ msg => if msg.offset = 0 then .error ⟨"KeyError", "event_type"⟩
        else .ok () }
    cleanPlatformConfig 0 eventBatch invalidEvent (start cleanPlatformConfig 0)

/-- Both messages reach `error_handler`, but only the second is dead-lettered. -/
theorem errorHandler_raise_skips_dlq_send :
    (start cleanPlatformConfig 0).dlqProducer = true ∧ cleanPlatformConfig.enableDlq = true ∧
      (errorHandled errorHandlerRaiseRun.log).map (·.offset) = [0, 1] ∧
      (dlqSent errorHandlerRaiseRun.log).map (·.originalMessage.offset) = [1] := by
  decide

/-- `error_handler or self._default_error_handler` when no `error_handler` is
given: the default only logs, so it returns. -/
def Env.defaultErrorHandler (env : Env) : Env := { env with errorHandler := fun _ _ _ => .ok () }

private theorem foldl_defaultErrorHandler (now : ℕ) (error : PyException) (hd : cfg.enableDlq = true)
    (batch : List Message) {c : OptimizedKafkaConsumer} (hp : c.dlqProducer = true) :
    ∃ new, (batch.foldl (handleMessageError env.defaultErrorHandler cfg now error) c) =
        { c with log := c.log ++ new } ∧
      errorHandled new = batch ∧ dlqSent new = batch.map fun msg => dlqMessageFor cfg now msg error := by
  induction batch generalizing c with
  | nil => exact ⟨[], by simp, rfl, rfl⟩
  | cons msg batch ih =>
      obtain ⟨sent, hmsg⟩ := @handleMessageError_eq env.defaultErrorHandler cfg now error c msg
      obtain ⟨new, hfold, herr, hdlq⟩ := @ih (handleMessageError env.defaultErrorHandler cfg now error c msg)
        (by rw [hmsg]; exact hp)
      refine ⟨errorBlock cfg true now error msg (.ok ()) sent ++ new, ?_, ?_, ?_⟩
      · rw [List.foldl_cons, hfold, hmsg]
        simp [Env.defaultErrorHandler, hd, hp]
      · rw [errorHandled_append, herr]; rfl
      · rw [dlqSent_append, hdlq]; rfl

/-- With the default `error_handler` and the DLQ on, `_handle_batch_error` calls
`error_handler` on each message once and dead-letters each message once, in
batch order, each envelope carrying its message. -/
theorem defaultErrorHandler_dead_letters_each (now : ℕ) (batch : List Message)
    (error : PyException) (c : OptimizedKafkaConsumer) (hd : cfg.enableDlq = true)
    (hp : c.dlqProducer = true) :
    ∃ new, handleBatchError env.defaultErrorHandler cfg now batch error c =
        { c with log := c.log ++ new } ∧
      errorHandled new = batch ∧ dlqSent new = batch.map fun msg => dlqMessageFor cfg now msg error := by
  obtain ⟨new, hfold, herr, hdlq⟩ := @foldl_defaultErrorHandler env cfg now error hd batch c hp
  refine ⟨new ++ [.processed (topicLabel batch) (partitionLabel batch) "error" batch.length],
    by simp [handleBatchError, hfold, emit], ?_, ?_⟩
  · rw [errorHandled_append, herr]; exact List.append_nil _
  · rw [dlqSent_append, hdlq]; exact List.append_nil _

theorem eventBatch_dead_lettered_each :
    cleanPlatformConfig.enableDlq = true ∧ (start cleanPlatformConfig 0).dlqProducer = true ∧
    ∃ new, handleBatchError allReturn.defaultErrorHandler cleanPlatformConfig 0 eventBatch
          invalidEvent (start cleanPlatformConfig 0) =
        { start cleanPlatformConfig 0 with log := (start cleanPlatformConfig 0).log ++ new } ∧
      errorHandled new = eventBatch ∧
      dlqSent new = eventBatch.map fun msg => dlqMessageFor cleanPlatformConfig 0 msg invalidEvent :=
  ⟨rfl, rfl, defaultErrorHandler_dead_letters_each 0 eventBatch invalidEvent _ rfl rfl⟩

end ResilienceCore.Consumer
