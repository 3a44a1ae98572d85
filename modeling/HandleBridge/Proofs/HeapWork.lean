import HandleBridge.Proofs.Courses
import HandleBridge.Proofs.Lives

/-!
Work on the in-memory heap, told by what it answers and what it does to the heap. The journal has no say in either, so
work is run here on the heap alone (`onHeap`), step by step along its actions, and a log of what was asked for tells
which run of calls led to a heap.
-/

namespace HandleBridge

/-- Call that an effect makes. -/
def Effect.call? : Effect → Option (Call Value)
  | .call c => some c
  | .note _ => none

def callsIn (log : List Asked) : List (Call Value) := log.filterMap fun asked => asked.effect.call?

namespace Bridge

variable (b : Bridge) {α β : Type}

/-- Lets a heap answer what proxies ask for. -/
def answerOnHeap : (e : Effect) → StateM Heap e.Answer
  | .call c => fun heap => heap.respond b.package b.config.heap c
  | .note _ => pure ()

/-- Runs work on a heap. -/
def onHeap (x : Action α) (heap : Heap) : Except Error α × Heap := Script.run b.answerOnHeap x.run heap

/-- What the heap alone answers is what the heap with its journal answers. -/
theorem run_answerOnHeap (r : Routine α) (native : Native) :
    r.run b.answerOnHeap native.heap = ((b.runInMemory r native).1,(b.runInMemory r native).2.heap) := by
  induction r generalizing native with
  | done a => rfl
  | ask e next ih =>
    have answered : b.answerOnHeap e native.heap =
        ((b.answerInMemory e native).1,(b.answerInMemory e native).2.heap) := by
      cases e <;> rfl
    show (next (b.answerOnHeap e native.heap).1).run b.answerOnHeap (b.answerOnHeap e native.heap).2 = _
    rw [answered]
    exact ih _ _

/-- A log changes nothing of a run. -/
theorem run_recording (r : Routine α) (native : Native) (log : List Asked) :
    (r.run (recording b.answerInMemory) (native,log)).1 = (b.runInMemory r native).1 ∧
      (r.run (recording b.answerInMemory) (native,log)).2.1 = (b.runInMemory r native).2 := by
  induction r generalizing native log with
  | done a => exact ⟨rfl,rfl⟩
  | ask e next ih => exact ih _ _ _

/-- The calls in a log lead to the heap at its end. -/
theorem after_recording (r : Routine α) {native : Native} {log : List Asked}
    (led : native.heap = Heap.empty.after b.package b.config.heap (callsIn log)) :
    let (_,native,log) := r.run (recording b.answerInMemory) (native,log)
    native.heap = Heap.empty.after b.package b.config.heap (callsIn log) := by
  induction r generalizing native log with
  | done a => exact led
  | ask e next ih =>
    refine ih (b.answerInMemory e native).1 ?_
    rw [callsIn,List.filterMap_append]
    cases e with
    | note e =>
      rw [show List.filterMap _ [_] = [] from rfl,List.append_nil]
      exact led
    | call c =>
      rw [Heap.after_append]
      exact congrArg (fun heap => (Heap.respond b.package b.config.heap heap c).2) led

/-- A run adds calls to those in the log. -/
theorem callsIn_recording (r : Routine α) (native : Native) (log : List Asked) :
    ∃ more, callsIn (r.run (recording b.answerInMemory) (native,log)).2.2 = callsIn log ++ more := by
  induction r generalizing native log with
  | done a => exact ⟨[],(List.append_nil _).symm⟩
  | ask e next ih =>
    obtain ⟨more,later⟩ := ih (b.answerInMemory e native).1 (b.answerInMemory e native).2
      (log ++ [⟨e,(b.answerInMemory e native).1⟩])
    refine ⟨callsIn [⟨e,(b.answerInMemory e native).1⟩] ++ more,later.trans ?_⟩
    simp only [callsIn,List.filterMap_append,List.append_assoc]

variable (heap : Heap)

theorem onHeap_throw (e : Error) : b.onHeap (throw e : Action α) heap = (.error e,heap) := rfl

theorem onHeap_lift (x : Except Error α) : b.onHeap (liftM x) heap = (x,heap) := by
  cases x <;> rfl

theorem onHeap_bind (x : Action α) (f : α → Action β) : b.onHeap (x >>= f) heap =
    match b.onHeap x heap with
    | (.ok a,next) => b.onHeap (f a) next
    | (.error e,next) => (.error e,next) := by
  show Script.run b.answerOnHeap (x.run >>= ExceptT.bindCont f) heap = _
  rw [Script.run_seq]
  show Script.run b.answerOnHeap (ExceptT.bindCont f (b.onHeap x heap).1) (b.onHeap x heap).2 = _
  generalize b.onHeap x heap = result
  obtain ⟨result,next⟩ := result
  cases result <;> rfl

/-- What a proxy reports of a call is not seen on the heap. -/
theorem onHeap_call (other : Bridge) (c : Call Value) :
    b.onHeap (other.call c) heap = heap.respond b.package b.config.heap c := by
  have announced : (other.announce c).run b.answerOnHeap heap = ((),heap) := by
    unfold announce
    split <;> rfl
  have reported : ∀ answer next, (do reportFailure c answer; return answer : Routine (Except Error c.Reply)).run
      b.answerOnHeap next = (answer,next) := by
    intro answer next
    cases answer <;> rfl
  show Script.run b.answerOnHeap (other.call c).run heap = _
  rw [call_run,Script.run_seq,announced,Script.run_seq,reported]
  rfl

variable {b heap} {next last : Heap} {a : α}

/-- Work after work succeeds exactly when the one and then the other does. -/
theorem onHeap_bind_eq_ok {x : Action α} {f : α → Action β} {result : β} :
    b.onHeap (x >>= f) heap = (.ok result,last) ↔
      ∃ a next, b.onHeap x heap = (.ok a,next) ∧ b.onHeap (f a) next = (.ok result,last) := by
  rw [onHeap_bind]
  generalize b.onHeap x heap = done
  obtain ⟨done,middle⟩ := done
  cases done <;> simp

theorem onHeap_lift_eq_ok {x : Except Error α} :
    b.onHeap (liftM x) heap = (.ok a,next) ↔ x = .ok a ∧ heap = next := by
  rw [onHeap_lift,Prod.mk.injEq]

end Bridge

end HandleBridge
