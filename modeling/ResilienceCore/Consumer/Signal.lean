import Mathlib.Data.List.Basic

/-!
# `stop()` from a signal handler

`__init__` installs `_signal_handler` for SIGTERM and SIGINT.  Python runs it
on the main thread, between two bytecodes of whichever frame is running there:
the poll loop of `start()`, or a `stop()` already in progress.  The handler
calls `stop()`, which enters `with self.batch_lock:`.  `batch_lock` is a
`threading.Lock`, which is not reentrant, and only the main thread takes it.

`MainThread` keeps the main thread's frames, the running one first, and whether
it holds `batch_lock`.  A signal that arrives while the lock is free lets
`stop()` run to its end and return to the interrupted frame.  One that arrives
while it is held, anywhere in the locked block of `_add_to_batch` or
`_check_batch_timeout` (each spans the whole `message_handler` call of a flush)
or of a `stop()` in progress, blocks for good: the frame holding the lock runs
again only once the handler has returned.
-/

namespace ResilienceCore.Consumer

/-- The three `with self.batch_lock:` blocks. -/
inductive LockedBlock where
  | addToBatch
  | checkBatchTimeout
  | stop
  deriving DecidableEq, Repr

/-- Where a frame of the main thread stands. -/
inductive Pc where
  | loop
  | acquire (block : LockedBlock)
  | locked (block : LockedBlock)
  | stopEntry
  | stopRest
  deriving DecidableEq, Repr

structure MainThread where
  frames : List Pc
  lockHeld : Bool
  deriving DecidableEq, Repr

inductive Event where
  | enter (block : LockedBlock)
  | advance
  /-- SIGTERM or SIGINT: `_signal_handler` starts on top of the running frame. -/
  | signal
  deriving DecidableEq, Repr

namespace MainThread

def init : MainThread := ⟨[.loop], false⟩

/-- One event, or `none` when it cannot happen now. -/
def step (t : MainThread) : Event → Option MainThread
  | .signal => some { t with frames := .stopEntry :: t.frames }
  | .enter block =>
      match t.frames with
      | .loop :: rest =>
          if block = .stop then none else some { t with frames := .acquire block :: rest }
      | _ => none
  | .advance =>
      match t.frames with
      | .acquire block :: rest => if t.lockHeld then none else some ⟨.locked block :: rest, true⟩
      | .locked .stop :: rest => some ⟨.stopRest :: rest, false⟩
      | .locked _ :: rest => some ⟨.loop :: rest, false⟩
      | .stopEntry :: rest => some { t with frames := .acquire .stop :: rest }
      | .stopRest :: rest => some { t with frames := rest }
      | _ => none

def run (t : MainThread) : List Event → Option MainThread
  | [] => some t
  | e :: events => (t.step e).bind fun t' => t'.run events

@[simp] theorem run_nil (t : MainThread) : t.run [] = some t := rfl

theorem run_cons (t : MainThread) (e : Event) (events : List Event) :
    t.run (e :: events) = (t.step e).bind fun t' => t'.run events := rfl

def Waiting (f : Pc) : Prop := f = .stopEntry ∨ f = .acquire .stop

/-- While the lock is held, only new signals, and the handlers' steps up to their
`with`, can happen on top of the frames `below`. -/
def Stuck (below : List Pc) (t : MainThread) : Prop :=
  ∃ above, t.frames = above ++ below ∧ above ≠ [] ∧ (∀ f ∈ above, Waiting f) ∧ t.lockHeld = true

theorem Stuck.step {below : List Pc} {t t' : MainThread} (h : Stuck below t) {e : Event}
    (hstep : t.step e = some t') : Stuck below t' := by
  obtain ⟨above, hframes, hne, hwait, hlock⟩ := h
  obtain ⟨f, rest, rfl⟩ := List.exists_cons_of_ne_nil hne
  have hf : Waiting f := hwait f (List.mem_cons_self _ _)
  cases e with
  | signal =>
      cases hstep
      refine ⟨.stopEntry :: f :: rest, by simp [hframes], by simp, ?_, hlock⟩
      simpa [Waiting] using hwait
  | enter block =>
      rcases hf with rfl | rfl <;> simp [MainThread.step, hframes] at hstep
  | advance =>
      rcases hf with rfl | rfl <;> simp [MainThread.step, hframes, hlock] at hstep
      subst hstep
      refine ⟨.acquire .stop :: rest, by simp, by simp, ?_, rfl⟩
      simpa [Waiting] using hwait

theorem Stuck.run {below : List Pc} {t t' : MainThread} (h : Stuck below t) {events : List Event}
    (hrun : t.run events = some t') : Stuck below t' := by
  induction events generalizing t with
  | nil => cases hrun; exact h
  | cons e events ih =>
      rw [run_cons, Option.bind_eq_some] at hrun
      obtain ⟨t₁, h₁, hrun⟩ := hrun
      exact ih (h.step h₁) hrun

theorem signal_while_locked {t t' : MainThread} (hlock : t.lockHeld = true)
    {events : List Event} (hrun : t.run (.signal :: events) = some t') : Stuck t.frames t' :=
  @Stuck.run t.frames ⟨.stopEntry :: t.frames, t.lockHeld⟩ t'
    ⟨[.stopEntry], rfl, by simp, by simp [Waiting], hlock⟩ events hrun

theorem signal_while_unlocked {t : MainThread} (hlock : t.lockHeld = false) :
    t.run [.signal, .advance, .advance, .advance, .advance] = some t := by
  obtain ⟨frames, lockHeld⟩ := t
  subst hlock
  rfl

/-- `stop()` from a signal handler returns to the interrupted frame exactly when
`batch_lock` is free at the moment of the signal. -/
theorem signal_returns_iff (t : MainThread) :
    (∃ events, t.run (.signal :: events) = some t) ↔ t.lockHeld = false := by
  constructor
  · rintro ⟨events, hrun⟩
    cases hlock : t.lockHeld
    · rfl
    · obtain ⟨above, hframes, hne, -⟩ := signal_while_locked hlock hrun
      have := congrArg List.length hframes
      simp only [List.length_append] at this
      exact absurd this (by have := List.length_pos.2 hne; omega)
  · intro hlock
    exact ⟨_, signal_while_unlocked hlock⟩

def insideAddToBatch : MainThread := ⟨[.locked .addToBatch], true⟩

/-- The loop reaches `insideAddToBatch`; a SIGTERM then leaves `stop()` waiting
on `batch_lock` forever, with the loop frame under it holding the lock. -/
theorem signal_inside_addToBatch_never_returns :
    init.run [.enter .addToBatch, .advance] = some insideAddToBatch ∧
      ∀ events t', insideAddToBatch.run (.signal :: events) = some t' →
        ∃ above, t'.frames = above ++ [.locked .addToBatch] ∧ above ≠ [] ∧
          (∀ f ∈ above, f = .stopEntry ∨ f = .acquire .stop) ∧ t'.lockHeld = true :=
  ⟨rfl, fun _ _ hrun => signal_while_locked rfl hrun⟩

end MainThread

end ResilienceCore.Consumer
