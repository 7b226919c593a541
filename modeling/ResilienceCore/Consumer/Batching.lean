import ResilienceCore.Consumer.Process

/-!
# The poll loop and its batches

`_consume_messages` turns each poll into one `_add_to_batch` per record, in the
order it iterates the returned dict, or into one `_check_batch_timeout` when the
poll came back empty.  Each of these, and `stop()`, runs as one atomic
`Action`: a run of the loop, with `stop()` from a signal handler between any two
of them, is a list of actions (`consumeMessages_run`).

Between actions the queue is shorter than `batch_size`.  So a batch that
`_add_to_batch` flushes holds exactly `batch_size` records, one that the timer
or `stop()` flushes holds fewer, and no action drops, copies or reorders a
record.
-/

namespace ResilienceCore.Consumer

open OptimizedKafkaConsumer

variable (env : Env) (cfg : ConsumerConfig)

/-- `_flush_batch`; `now` is the reading it stamps into `last_batch_time`. -/
def flushBatch (now : ℕ) (c : OptimizedKafkaConsumer) : OptimizedKafkaConsumer :=
  if c.batchQueue.isEmpty then c
  else processBatch env cfg now c.batchQueue { c with batchQueue := [], lastBatchTime := now }

def addToBatch (now : ℕ) (record : ConsumerRecord) (c : OptimizedKafkaConsumer) :
    OptimizedKafkaConsumer :=
  let c := { c with batchQueue := c.batchQueue ++ [Message.ofRecord record] }
  if cfg.batchSize ≤ c.batchQueue.length then flushBatch env cfg now c else c

/-- `_check_batch_timeout`: `checkedAt` is its `current_time`, `flushedAt` the
reading `_flush_batch` stamps. -/
def checkBatchTimeout (checkedAt flushedAt : ℕ) (c : OptimizedKafkaConsumer) :
    OptimizedKafkaConsumer :=
  if (cfg.batchTimeoutMs : ℤ) ≤ (checkedAt : ℤ) - c.lastBatchTime ∧ c.batchQueue.isEmpty = false
  then if c.batchQueue.isEmpty then c else flushBatch env cfg flushedAt c
  else c

def stop (now : ℕ) (c : OptimizedKafkaConsumer) : OptimizedKafkaConsumer :=
  let c := { c with running := false }
  let c := if c.batchQueue.isEmpty then c else flushBatch env cfg now c
  let c := c.emit .consumerClose
  if c.dlqProducer then c.emit .dlqProducerClose else c

/-- One answer of `consumer.poll`: the returned dict's items in iteration order,
or what it raised, with the clock readings of the loop body that follows. -/
structure Poll where
  result : Except PyException (List (TopicPartition × List ConsumerRecord))
  checkedAt : ℕ
  flushedAt : ℕ

/-- One pass of `_consume_messages`'s body; a raising poll is logged and slept on. -/
def consumeOnce (c : OptimizedKafkaConsumer) (poll : Poll) : OptimizedKafkaConsumer :=
  match poll.result with
  | .error _ => c
  | .ok messages =>
      if messages.isEmpty then checkBatchTimeout env cfg poll.checkedAt poll.flushedAt c
      else messages.foldl (fun c item =>
        item.2.foldl (fun c record => addToBatch env cfg poll.flushedAt record c) c) c

def consumeMessages : List Poll → OptimizedKafkaConsumer → OptimizedKafkaConsumer
  | [], c => c
  | poll :: polls, c => if c.running then consumeMessages polls (consumeOnce env cfg c poll) else c

/-! ## Runs of atomic actions -/

/-- The loop's atomic steps, and `stop()`. -/
inductive Action where
  /-- `_add_to_batch(record)`; `now` is the reading a flush stamps. -/
  | add (record : ConsumerRecord) (now : ℕ)
  /-- `_check_batch_timeout()` after an empty poll. -/
  | emptyPoll (checkedAt flushedAt : ℕ)
  | pollError (error : PyException)
  | stop (now : ℕ)

def Action.isAdd : Action → Bool
  | .add _ _ => true
  | _ => false

def Action.records : Action → List ConsumerRecord
  | .add record _ => [record]
  | _ => []

def polled (acts : List Action) : List ConsumerRecord := acts.flatMap Action.records

def exec (c : OptimizedKafkaConsumer) : Action → OptimizedKafkaConsumer
  | .add record now => addToBatch env cfg now record c
  | .emptyPoll checkedAt flushedAt => checkBatchTimeout env cfg checkedAt flushedAt c
  | .pollError _ => c
  | .stop now => stop env cfg now c

def run (c : OptimizedKafkaConsumer) (acts : List Action) : OptimizedKafkaConsumer :=
  acts.foldl (exec env cfg) c

def Poll.actions (poll : Poll) : List Action :=
  match poll.result with
  | .error e => [.pollError e]
  | .ok messages =>
      if messages.isEmpty then [.emptyPoll poll.checkedAt poll.flushedAt]
      else messages.flatMap fun item => item.2.map fun record => .add record poll.flushedAt

def Poll.records (poll : Poll) : List ConsumerRecord :=
  match poll.result with
  | .error _ => []
  | .ok messages => messages.flatMap (·.2)

/-- What one action may hand to `message_handler`: nothing, or one nonempty
batch that is full exactly when `_add_to_batch` flushed it. -/
def Dispatch (a : Action) (batches : List (List Message)) : Prop :=
  batches = [] ∨ ∃ batch, batches = [batch] ∧ batch ≠ [] ∧
    if a.isAdd then batch.length = cfg.batchSize else batch.length < cfg.batchSize

variable {env cfg}

@[simp] theorem run_nil (c : OptimizedKafkaConsumer) : run env cfg c [] = c := rfl

@[simp] theorem run_cons (c : OptimizedKafkaConsumer) (a : Action) (acts : List Action) :
    run env cfg c (a :: acts) = run env cfg (exec env cfg c a) acts := rfl

theorem run_append (c : OptimizedKafkaConsumer) (acts acts' : List Action) :
    run env cfg c (acts ++ acts') = run env cfg (run env cfg c acts) acts' :=
  List.foldl_append _ _ _ _

@[simp] theorem polled_nil : polled [] = [] := rfl

@[simp] theorem polled_cons (a : Action) (acts : List Action) :
    polled (a :: acts) = a.records ++ polled acts := rfl

theorem polled_replicate (n : ℕ) (record : ConsumerRecord) (now : ℕ) :
    polled (List.replicate n (.add record now)) = List.replicate n record := by
  induction n with
  | zero => rfl
  | succ n ih => rw [List.replicate_succ, polled_cons, ih]; rfl

/-! ## The loop is a run -/

@[simp] theorem flushBatch_running (now : ℕ) (c : OptimizedKafkaConsumer) :
    (flushBatch env cfg now c).running = c.running := by
  unfold flushBatch; split
  · rfl
  · obtain ⟨_, h, -⟩ := @processBatch_frame env cfg now c.batchQueue
      { c with batchQueue := [], lastBatchTime := now }
    rw [h]

@[simp] theorem flushBatch_dlqProducer (now : ℕ) (c : OptimizedKafkaConsumer) :
    (flushBatch env cfg now c).dlqProducer = c.dlqProducer := by
  unfold flushBatch; split
  · rfl
  · obtain ⟨_, h, -⟩ := @processBatch_frame env cfg now c.batchQueue
      { c with batchQueue := [], lastBatchTime := now }
    rw [h]


private theorem foldl_addToBatch (now : ℕ) (records : List ConsumerRecord)
    (c : OptimizedKafkaConsumer) :
    records.foldl (fun c record => addToBatch env cfg now record c) c =
      run env cfg c (records.map fun record => .add record now) := by
  induction records generalizing c with
  | nil => rfl
  | cons record records ih => exact ih _

private theorem foldl_items_addToBatch (now : ℕ)
    (messages : List (TopicPartition × List ConsumerRecord)) (c : OptimizedKafkaConsumer) :
    messages.foldl (fun c item => item.2.foldl (fun c record => addToBatch env cfg now record c) c) c =
      run env cfg c (messages.flatMap fun item => item.2.map fun record => .add record now) := by
  induction messages generalizing c with
  | nil => rfl
  | cons item messages ih => rw [List.foldl_cons, ih, List.flatMap_cons, run_append, foldl_addToBatch]

theorem consumeOnce_eq_run (c : OptimizedKafkaConsumer) (poll : Poll) :
    consumeOnce env cfg c poll = run env cfg c poll.actions := by
  unfold consumeOnce Poll.actions
  rcases poll.result with e | messages
  · rfl
  · by_cases h : messages.isEmpty <;> simp [h, exec, foldl_items_addToBatch]

theorem polled_actions (poll : Poll) : polled poll.actions = poll.records := by
  rcases poll with ⟨_ | messages, checkedAt, flushedAt⟩
  · rfl
  · by_cases h : messages.isEmpty
    · simp_all [Poll.actions, Poll.records, Action.records]
    · simp [Poll.actions, Poll.records, h, polled, List.flatMap_assoc, List.flatMap_map,
        Action.records]

theorem exec_running {a : Action} (ha : ∀ now, a ≠ .stop now) (c : OptimizedKafkaConsumer) :
    (exec env cfg c a).running = c.running := by
  cases a with
  | add record now => simp only [exec, addToBatch]; split <;> simp
  | emptyPoll checkedAt flushedAt =>
      simp only [exec, checkBatchTimeout]; split_ifs <;> simp
  | pollError e => rfl
  | stop now => exact absurd rfl (ha now)

theorem run_running {acts : List Action} (ha : ∀ a ∈ acts, ∀ now, a ≠ .stop now)
    (c : OptimizedKafkaConsumer) : (run env cfg c acts).running = c.running := by
  induction acts generalizing c with
  | nil => rfl
  | cons a acts ih =>
      rw [run_cons, ih (fun a' h => ha a' (List.mem_cons_of_mem _ h)),
        exec_running (ha a (List.mem_cons_self _ _))]

theorem Poll.actions_ne_stop (poll : Poll) : ∀ a ∈ poll.actions, ∀ now, a ≠ .stop now := by
  rcases poll with ⟨_ | messages, checkedAt, flushedAt⟩
  · simp [Poll.actions]
  · by_cases h : messages.isEmpty
    · simp [Poll.actions, h]
    · simp only [Poll.actions, h, Bool.false_eq_true, if_false, List.mem_flatMap, List.mem_map]
      rintro a ⟨item, -, record, -, rfl⟩ now ⟨⟩

theorem consumeMessages_run (polls : List Poll) {c : OptimizedKafkaConsumer}
    (h : c.running = true) :
    consumeMessages env cfg polls c = run env cfg c (polls.flatMap Poll.actions) := by
  induction polls generalizing c with
  | nil => rfl
  | cons poll polls ih =>
      have hrun : (consumeOnce env cfg c poll).running = true := by
        rw [consumeOnce_eq_run, run_running poll.actions_ne_stop, h]
      rw [consumeMessages, if_pos h, ih hrun, consumeOnce_eq_run, List.flatMap_cons, run_append]

def platformRecord (offset : ℕ) : ConsumerRecord :=
  { topic := "platform-events", partition := 0, offset := offset, timestamp := 0, key := none,
    value := .obj [], headers := [] }

/-! ## One action -/

variable {c : OptimizedKafkaConsumer}

theorem flushBatch_of_ne_nil (now : ℕ) (h : c.batchQueue ≠ []) :
    ∃ new, flushBatch env cfg now c =
        { c with batchQueue := [], lastBatchTime := now, log := c.log ++ new } ∧
      handled new = [c.batchQueue] := by
  obtain ⟨new, heq, hh⟩ := @processBatch_frame env cfg now c.batchQueue
    { c with batchQueue := [], lastBatchTime := now }
  exact ⟨new, by rw [flushBatch, if_neg (by simpa using h), heq], hh⟩

theorem stop_eq (now : ℕ) (c : OptimizedKafkaConsumer) :
    stop env cfg now c =
      let flushed := flushBatch env cfg now { c with running := false }
      { flushed with
        log := flushed.log ++ .consumerClose :: if c.dlqProducer then [.dlqProducerClose] else [] } := by
  by_cases h : c.batchQueue.isEmpty
  · rw [show flushBatch env cfg now { c with running := false } = { c with running := false } from if_pos h]
    cases hd : c.dlqProducer <;> simp [stop, emit, h, hd]
  · cases hd : c.dlqProducer <;> simp [stop, emit, h, hd]

@[simp] theorem handled_consumerClose (l : List Effect) :
    handled (.consumerClose :: l) = handled l := rfl

@[simp] theorem handled_dlqProducerClose (l : List Effect) :
    handled (.dlqProducerClose :: l) = handled l := rfl

theorem exec_spec (a : Action) :
    ∃ new, (exec env cfg c a).log = c.log ++ new ∧
      (handled new).flatten ++ (exec env cfg c a).batchQueue =
        c.batchQueue ++ a.records.map Message.ofRecord ∧
      (c.batchQueue.length < cfg.batchSize →
        (exec env cfg c a).batchQueue.length < cfg.batchSize ∧ Dispatch cfg a (handled new)) := by
  cases a with
  | add record now =>
      by_cases hfull : cfg.batchSize ≤ c.batchQueue.length + 1
      · obtain ⟨new, heq, hh⟩ := @flushBatch_of_ne_nil env cfg
          { c with batchQueue := c.batchQueue ++ [Message.ofRecord record] } now (by simp)
        refine ⟨new, ?_, ?_, fun hq => ⟨?_, .inr ⟨_, hh, by simp, ?_⟩⟩⟩ <;>
          simp [exec, addToBatch, hfull, heq, hh, Action.records, Action.isAdd] <;> omega
      · refine ⟨[], ?_, ?_, fun _ => ⟨?_, .inl rfl⟩⟩ <;>
          simp [exec, addToBatch, hfull, Action.records]
        omega
  | emptyPoll checkedAt flushedAt =>
      by_cases hflush : (cfg.batchTimeoutMs : ℤ) ≤ (checkedAt : ℤ) - c.lastBatchTime ∧
          c.batchQueue.isEmpty = false
      · obtain ⟨new, heq, hh⟩ := @flushBatch_of_ne_nil env cfg c flushedAt
          (by simpa using hflush.2)
        refine ⟨new, ?_, ?_, fun hq => ⟨?_, .inr ⟨_, hh, by simpa using hflush.2, ?_⟩⟩⟩ <;>
          simp [exec, checkBatchTimeout, hflush, heq, hh, Action.records, Action.isAdd] <;> omega
      · have hc : exec env cfg c (.emptyPoll checkedAt flushedAt) = c := if_neg hflush
        rw [hc]
        exact ⟨[], by simp, by simp [Action.records], fun hq => ⟨hq, .inl rfl⟩⟩
  | pollError e => exact ⟨[], by simp [exec], by simp [exec, Action.records], fun hq => ⟨hq, .inl rfl⟩⟩
  | stop now =>
      let closes : List Effect := .consumerClose :: if c.dlqProducer then [.dlqProducerClose] else []
      have hcloses : handled closes = [] := by simp only [closes]; split <;> rfl
      rw [exec, stop_eq]
      by_cases h0 : c.batchQueue = []
      · simp only [flushBatch, h0, List.isEmpty_nil, if_true]
        exact ⟨closes, rfl, by simp [hcloses, h0, Action.records],
          fun hq => ⟨by simpa [h0] using hq, .inl hcloses⟩⟩
      · obtain ⟨new, heq, hh⟩ := @flushBatch_of_ne_nil env cfg { c with running := false } now h0
        simp only [heq]
        exact ⟨new ++ closes, by simp [closes], by simp [hh, hcloses, Action.records], fun hq =>
          ⟨by simp; omega, .inr ⟨_, by simp [hh, hcloses], h0, by simpa [Action.isAdd] using hq⟩⟩⟩

theorem Dispatch.mem {a : Action} {batches : List (List Message)} (hd : Dispatch cfg a batches)
    {batch : List Message} (hb : batch ∈ batches) :
    batch ≠ [] ∧ batch.length ≤ cfg.batchSize ∧ (a.isAdd → batch.length = cfg.batchSize) := by
  rcases hd with rfl | ⟨b, rfl, hne, hlen⟩
  · cases hb
  · rw [List.mem_singleton.1 hb]
    cases ha : a.isAdd <;> simp only [ha, if_true, if_false, Bool.false_eq_true] at hlen <;>
      simp [hne, hlen, Nat.le_of_lt]

@[simp] theorem exec_dlqProducer (c : OptimizedKafkaConsumer) (a : Action) :
    (exec env cfg c a).dlqProducer = c.dlqProducer := by
  cases a with
  | add record now => simp only [exec, addToBatch]; split <;> simp
  | emptyPoll checkedAt flushedAt => simp only [exec, checkBatchTimeout]; split_ifs <;> simp
  | pollError e => rfl
  | stop now => rw [exec, stop_eq]; simp

theorem run_log_of_segments (P : Bool → List Effect → Prop) (hnil : ∀ d, P d [])
    (happ : ∀ d l l', P d l → P d l' → P d (l ++ l'))
    (hclose : ∀ d : Bool, P d (.consumerClose :: if d then [.dlqProducerClose] else []))
    (hbatch : ∀ now batch (c : OptimizedKafkaConsumer),
      ∃ seg, (processBatch env cfg now batch c).log = c.log ++ seg ∧ P c.dlqProducer seg)
    (c : OptimizedKafkaConsumer) (acts : List Action) :
    ∃ seg, (run env cfg c acts).log = c.log ++ seg ∧ P c.dlqProducer seg := by
  have hflush : ∀ now (c : OptimizedKafkaConsumer),
      ∃ seg, (flushBatch env cfg now c).log = c.log ++ seg ∧ P c.dlqProducer seg := fun now c => by
    unfold flushBatch
    split
    · exact ⟨[], by simp, hnil _⟩
    · exact hbatch now c.batchQueue _
  have hexec : ∀ (c : OptimizedKafkaConsumer) (a : Action),
      ∃ seg, (exec env cfg c a).log = c.log ++ seg ∧ P c.dlqProducer seg := fun c a => by
    cases a with
    | add record now =>
        simp only [exec, addToBatch]
        split
        · exact hflush now _
        · exact ⟨[], by simp, hnil _⟩
    | emptyPoll checkedAt flushedAt =>
        simp only [exec, checkBatchTimeout]
        split_ifs
        · exact ⟨[], by simp, hnil _⟩
        · exact hflush flushedAt c
        · exact ⟨[], by simp, hnil _⟩
    | pollError e => exact ⟨[], by simp [exec], hnil _⟩
    | stop now =>
        obtain ⟨seg, hlog, hseg⟩ := hflush now { c with running := false }
        exact ⟨seg ++ _, by rw [exec, stop_eq]; simp only [hlog, List.append_assoc],
          happ _ _ _ hseg (hclose _)⟩
  induction acts generalizing c with
  | nil => exact ⟨[], by simp, hnil _⟩
  | cons a acts ih =>
      obtain ⟨seg₁, hlog₁, h₁⟩ := hexec c a
      obtain ⟨seg₂, hlog₂, h₂⟩ := ih (exec env cfg c a)
      rw [exec_dlqProducer] at h₂
      exact ⟨seg₁ ++ seg₂, by rw [run_cons, hlog₂, hlog₁, List.append_assoc], happ _ _ _ h₁ h₂⟩

/-! ## Whole runs -/

theorem run_flatten (acts : List Action) :
    ∃ new, (run env cfg c acts).log = c.log ++ new ∧
      (handled new).flatten ++ (run env cfg c acts).batchQueue =
        c.batchQueue ++ (polled acts).map Message.ofRecord := by
  induction acts generalizing c with
  | nil => exact ⟨[], by simp, by simp⟩
  | cons a acts ih =>
      obtain ⟨new₁, hlog₁, hcat₁, -⟩ := @exec_spec env cfg c a
      obtain ⟨new₂, hlog₂, hcat₂⟩ := @ih (exec env cfg c a)
      refine ⟨new₁ ++ new₂, by rw [run_cons, hlog₂, hlog₁, List.append_assoc], ?_⟩
      rw [run_cons, handled_append, List.flatten_append, List.append_assoc, hcat₂,
        ← List.append_assoc, hcat₁]
      simp

theorem run_spec (hq : c.batchQueue.length < cfg.batchSize) (acts : List Action) :
    ∃ new, (run env cfg c acts).log = c.log ++ new ∧
      (run env cfg c acts).batchQueue.length < cfg.batchSize ∧
      ∀ batch ∈ handled new, batch ≠ [] ∧ batch.length ≤ cfg.batchSize ∧
        ((∀ a ∈ acts, a.isAdd) → batch.length = cfg.batchSize) := by
  induction acts generalizing c with
  | nil => exact ⟨[], by simp, hq, by simp⟩
  | cons a acts ih =>
      obtain ⟨new₁, hlog₁, -, hstep⟩ := @exec_spec env cfg c a
      obtain ⟨hq₁, hd₁⟩ := hstep hq
      obtain ⟨new₂, hlog₂, hq₂, hb₂⟩ := ih hq₁
      refine ⟨new₁ ++ new₂, by rw [run_cons, hlog₂, hlog₁, List.append_assoc], hq₂, ?_⟩
      intro batch hb
      rw [handled_append] at hb
      rcases List.mem_append.1 hb with hb | hb
      · obtain ⟨hne, hle, hadd⟩ := hd₁.mem hb
        exact ⟨hne, hle, fun hall => hadd (hall a (List.mem_cons_self _ _))⟩
      · obtain ⟨hne, hle, hadd⟩ := hb₂ batch hb
        exact ⟨hne, hle, fun hall => hadd fun a' ha' => hall a' (List.mem_cons_of_mem _ ha')⟩

private theorem length_flatten_of_forall {L : List (List Message)} {n : ℕ}
    (h : ∀ b ∈ L, b.length = n) : L.flatten.length = L.length * n := by
  induction L with
  | nil => simp
  | cons b L ih =>
      simp only [List.flatten_cons, List.length_append, List.length_cons,
        h b (List.mem_cons_self _ _), ih fun b' hb' => h b' (List.mem_cons_of_mem _ hb')]
      rw [Nat.succ_mul, Nat.add_comm]

theorem run_adds_batch_count (hB : 1 ≤ cfg.batchSize) (hq : c.batchQueue = [])
    (acts : List Action) (hadd : ∀ a ∈ acts, a.isAdd) :
    ∃ new, (run env cfg c acts).log = c.log ++ new ∧
      (handled new).length = (polled acts).length / cfg.batchSize := by
  obtain ⟨new, hlog, hq', hb⟩ := @run_spec env cfg c (by simp [hq]; omega) acts
  obtain ⟨new', hlog', hcat⟩ := @run_flatten env cfg c acts
  obtain rfl : new = new' := List.append_cancel_left (hlog.symm.trans hlog')
  have hfull : (handled new).flatten.length = (handled new).length * cfg.batchSize :=
    length_flatten_of_forall fun b hb' => (hb b hb').2.2 hadd
  have hlen := congrArg List.length hcat
  simp only [List.length_append, hq, List.length_nil, List.length_map, Nat.zero_add, hfull] at hlen
  refine ⟨new, hlog, (Nat.div_eq_of_lt_le (by omega) ?_).symm⟩
  rw [Nat.succ_mul]
  omega

/--
Take any run from `start()`: records added, empty polls at any clock readings,
failed polls and `stop()` calls, in any order, with `batch_size ≥ 1`.  The
batches handed to `message_handler`, in dispatch order, then the open queue,
are the added records in order.  Each batch is nonempty and at most
`batch_size` long.  Each action hands over at most one batch: exactly
`batch_size` records when `_add_to_batch` flushed it, fewer when the timer or
`stop()` did.  With adds alone, `n` records make `n / batch_size` batches.
-/
theorem batches_concatenate_to_polled_records (hB : 1 ≤ cfg.batchSize) (now : ℕ)
    (acts : List Action) :
    (handled (run env cfg (start cfg now) acts).log).flatten ++
        (run env cfg (start cfg now) acts).batchQueue = (polled acts).map Message.ofRecord ∧
      (∀ batch ∈ handled (run env cfg (start cfg now) acts).log,
        batch ≠ [] ∧ batch.length ≤ cfg.batchSize) ∧
      (∀ pre a post, acts = pre ++ a :: post → ∃ new,
        (run env cfg (start cfg now) (pre ++ [a])).log =
          (run env cfg (start cfg now) pre).log ++ new ∧ Dispatch cfg a (handled new)) ∧
      ((∀ a ∈ acts, a.isAdd) →
        (handled (run env cfg (start cfg now) acts).log).length =
          (polled acts).length / cfg.batchSize) := by
  have h0 : (start cfg now).batchQueue.length < cfg.batchSize := by simp; omega
  obtain ⟨new, hlog, -, hb⟩ := @run_spec env cfg _ h0 acts
  obtain ⟨new', hlog', hcat⟩ := @run_flatten env cfg (start cfg now) acts
  simp only [start_log, start_batchQueue, List.nil_append] at hlog hlog' hcat
  refine ⟨by rw [hlog', hcat], fun batch h => ?_, fun pre a post _ => ?_, fun hadd => ?_⟩
  · obtain ⟨hne, hle, -⟩ := hb batch (hlog ▸ h)
    exact ⟨hne, hle⟩
  · obtain ⟨-, -, hq, -⟩ := @run_spec env cfg _ h0 pre
    obtain ⟨new'', hlog'', -, hstep⟩ := @exec_spec env cfg (run env cfg (start cfg now) pre) a
    exact ⟨new'', by rw [run_append, run_cons, run_nil, hlog''], (hstep hq).2⟩
  · obtain ⟨new', hlog', hlen⟩ := @run_adds_batch_count env cfg (start cfg now) hB rfl acts hadd
    rw [hlog', start_log, List.nil_append, hlen]

def timerStopActions : List Action :=
  [.add (platformRecord 0) 100, .add (platformRecord 1) 200, .emptyPoll 5100 5100,
    .add (platformRecord 2) 5200, .stop 5300]

theorem timerStopActions_batches :
    1 ≤ cleanPlatformConfig.batchSize ∧
    (handled (run allReturn cleanPlatformConfig (start cleanPlatformConfig 0) timerStopActions).log).flatten ++
        (run allReturn cleanPlatformConfig (start cleanPlatformConfig 0) timerStopActions).batchQueue =
          (polled timerStopActions).map Message.ofRecord ∧
      (∀ batch ∈ handled (run allReturn cleanPlatformConfig (start cleanPlatformConfig 0)
          timerStopActions).log, batch ≠ [] ∧ batch.length ≤ cleanPlatformConfig.batchSize) ∧
      (∀ pre a post, timerStopActions = pre ++ a :: post → ∃ new,
        (run allReturn cleanPlatformConfig (start cleanPlatformConfig 0) (pre ++ [a])).log =
          (run allReturn cleanPlatformConfig (start cleanPlatformConfig 0) pre).log ++ new ∧
          Dispatch cleanPlatformConfig a (handled new)) ∧
      ((∀ a ∈ timerStopActions, a.isAdd) →
        (handled (run allReturn cleanPlatformConfig (start cleanPlatformConfig 0)
          timerStopActions).log).length = (polled timerStopActions).length / cleanPlatformConfig.batchSize) :=
  ⟨by decide, batches_concatenate_to_polled_records (by decide) 0 timerStopActions⟩

def batchOf500 : ConsumerConfig := { cleanPlatformConfig with batchSize := 500 }

example : (handled (run allReturn batchOf500 (start batchOf500 0)
    (List.replicate 1500 (.add (platformRecord 0) 0))).log).length = 3 := by
  obtain ⟨new, hlog, hlen⟩ := @run_adds_batch_count allReturn batchOf500 (start batchOf500 0)
    (by decide) rfl (List.replicate 1500 (.add (platformRecord 0) 0))
    (fun a ha => by rw [List.eq_of_mem_replicate ha]; rfl)
  rw [hlog, start_log, List.nil_append, hlen, polled_replicate, List.length_replicate]
  rfl

end ResilienceCore.Consumer
