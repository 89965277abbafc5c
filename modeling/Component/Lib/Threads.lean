import Mathlib

/-!
# Threads over a shared state

Threads take turns in any order. In its turn a thread runs one section, which reads and changes the
shared state and leaves the thread with what it knows for its next section (`Pool.advance`). A
condition on the shared state together with an assertion about what each thread knows is kept in
every order of turns if the section of a single thread keeps it (`Holds.advance`).

The sections may write to a common log. If what a section adds to the log is what it adds to the
part of its own thread, then in every order of turns the log consists of the parts of all threads
(`Logged.advance`): no entry is lost, and none is written twice. What a section never changes of its
thread stays as it is for all threads (`map_advance`), and a thread stays at its position
(`get_advance`).
-/

namespace Component.Lib.Threads

variable {σ τ : Type}

/-- A shared state and the threads that have been started. -/
structure Pool (σ τ : Type) where
  shared : σ
  threads : List τ

/-- The thread at a position runs its next section. -/
def Pool.advance (turn : σ → τ → σ × τ) (pool : Pool σ τ) (position : Nat) : Pool σ τ :=
  match pool.threads[position]? with
  | none => pool
  | some thread =>
      let after := turn pool.shared thread
      { shared := after.1, threads := pool.threads.set position after.2 }

/-- A new thread joins. -/
def Pool.spawn (pool : Pool σ τ) (thread : τ) : Pool σ τ :=
  { pool with threads := pool.threads ++ [thread] }

/-- The shared state meets a condition, and each thread meets its assertion. -/
structure Holds (inv : σ → Prop) (assertion : τ → Prop) (pool : Pool σ τ) : Prop where
  shared : inv pool.shared
  threads : ∀ thread ∈ pool.threads, assertion thread

variable {inv : σ → Prop} {assertion : τ → Prop} {pool : Pool σ τ}

/-- What no section changes of its thread is not changed. -/
theorem map_advance {α : Type} {f : τ → α} {turn : σ → τ → σ × τ}
    (hturn : ∀ shared thread, f (turn shared thread).2 = f thread) (position : Nat) :
    (pool.advance turn position).threads.map f = pool.threads.map f := by
  unfold Pool.advance
  split
  · rfl
  · next thread hthread =>
      obtain ⟨hlt, rfl⟩ := List.getElem?_eq_some_iff.mp hthread
      rw [List.map_set, hturn, ← List.map_set, List.set_getElem_self]

/-- The thread at a position runs a section if it is its turn, and waits otherwise. -/
theorem get_advance {turn : σ → τ → σ × τ} {position : Nat} {thread : τ}
    (hthread : pool.threads[position]? = some thread) (other : Nat) :
    (pool.advance turn other).threads[position]? =
      some (if other = position then (turn pool.shared thread).2 else thread) := by
  unfold Pool.advance
  split
  · next hnone =>
      have hother : other ≠ position := by
        rintro rfl
        cases hnone.symm.trans hthread
      rw [if_neg hother, hthread]
  · next running hrunning =>
      by_cases hother : other = position
      · subst hother
        obtain rfl : running = thread := Option.some.inj (hrunning.symm.trans hthread)
        rw [if_pos rfl]
        exact List.getElem?_set_self (List.getElem?_eq_some_iff.mp hrunning).1
      · rw [if_neg hother]
        exact (List.getElem?_set_ne hother).trans hthread

/-- One section of one thread keeps what holds of all. -/
theorem Holds.advance {turn : σ → τ → σ × τ} (h : Holds inv assertion pool)
    (hturn : ∀ shared thread, inv shared → assertion thread →
      inv (turn shared thread).1 ∧ assertion (turn shared thread).2) (position : Nat) :
    Holds inv assertion (pool.advance turn position) := by
  unfold Pool.advance
  split
  · exact h
  · next thread hthread =>
      have hafter := hturn pool.shared thread h.shared
        (h.threads thread (List.mem_of_getElem? hthread))
      refine ⟨hafter.1, fun other hother => ?_⟩
      rcases List.mem_or_eq_of_mem_set hother with hold | rfl
      · exact h.threads other hold
      · exact hafter.2

/-- A new thread that satisfies the assertion may be added. -/
theorem Holds.spawn (h : Holds inv assertion pool) {thread : τ} (hthread : assertion thread) :
    Holds inv assertion (pool.spawn thread) := by
  refine ⟨h.shared, fun other hother => ?_⟩
  rcases List.mem_append.mp hother with hold | hnew
  · exact h.threads other hold
  · exact List.mem_singleton.mp hnew ▸ hthread

/-- The log consists of the parts of the threads, in some order. -/
def Logged {α : Type} (log : σ → List α) (part : τ → List α) (pool : Pool σ τ) : Prop :=
  (log pool.shared).Perm (pool.threads.flatMap part)

section Log

variable {α : Type} {log : σ → List α} {part : τ → List α}

/-- A longer part of one thread makes all parts longer by as much. -/
theorem flat_map_set_perm {threads : List τ} {position : Nat} {thread after : τ} {new : List α}
    (hthread : threads[position]? = some thread) (hafter : part after = part thread ++ new) :
    ((threads.set position after).flatMap part).Perm (threads.flatMap part ++ new) := by
  induction threads generalizing position with
  | nil => cases hthread
  | cons first threads ih =>
      cases position with
      | zero =>
          cases hthread
          rw [List.set_cons_zero, List.flatMap_cons, List.flatMap_cons, hafter, List.append_assoc,
            List.append_assoc]
          exact List.Perm.append_left _ List.perm_append_comm
      | succ position =>
          rw [List.set_cons_succ, List.flatMap_cons, List.flatMap_cons, List.append_assoc]
          exact List.Perm.append_left _ (ih hthread)

/-- A section that adds the same entries to the log and to the part of its thread. -/
theorem Logged.advance {turn : σ → τ → σ × τ} (h : Logged log part pool)
    (hholds : Holds inv assertion pool)
    (hturn : ∀ shared thread, inv shared → assertion thread →
      ∃ new, log (turn shared thread).1 = log shared ++ new ∧
        part (turn shared thread).2 = part thread ++ new) (position : Nat) :
    Logged log part (pool.advance turn position) := by
  unfold Pool.advance
  split
  · exact h
  · next thread hthread =>
      obtain ⟨new, hlog, hpart⟩ := hturn pool.shared thread hholds.shared
        (hholds.threads thread (List.mem_of_getElem? hthread))
      unfold Logged
      rw [hlog]
      exact (List.Perm.append_right new h).trans (flat_map_set_perm hthread hpart).symm

/-- A thread that starts with nothing in the log. -/
theorem Logged.spawn (h : Logged log part pool) {thread : τ} (hthread : part thread = []) :
    Logged log part (pool.spawn thread) := by
  unfold Logged Pool.spawn
  rw [List.flatMap_append, List.flatMap_singleton, hthread, List.append_nil]
  exact h

end Log

end Component.Lib.Threads
