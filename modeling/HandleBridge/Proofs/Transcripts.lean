import HandleBridge.Boundary.Call
import Mathlib.Data.List.Basic

/-!
Transcripts: what a script asked for and was answered, in order. What is so of every transcript that a script can have
is shown along the script, request by request, and then is so of each run, whoever answers.
-/

namespace HandleBridge.Script

variable {Request : Type} {Answer : Request → Type} {α β σ : Type}

/-- A request with its answer. -/
structure Entry (Answer : Request → Type) where
  request : Request
  answer : Answer request

/-- A responder that writes a transcript. -/
def transcribing (respond : (r : Request) → StateM σ (Answer r)) (r : Request) :
    StateM (σ × List (Entry Answer)) (Answer r) :=
  fun (state,transcript) =>
    let (answer,state) := respond r state
    (answer,state,transcript ++ [⟨r,answer⟩])

/-- What every answer keeps, a run keeps. -/
theorem run_keeps {respond : (r : Request) → StateM σ (Answer r)} {holds : σ → Prop}
    (keeps : ∀ r state, holds state → holds (respond r state).2) (s : Script Request Answer α) {state : σ}
    (start : holds state) : holds (s.run respond state).2 := by
  induction s generalizing state with
  | done a => exact start
  | ask r next ih => exact ih _ (keeps r state start)

/-- Whether a condition holds of every transcript of a script with its result, whatever it is answered. -/
def Ensures : Script Request Answer α → (List (Entry Answer) → α → Prop) → Prop
  | done a, post => post [] a
  | ask r next, post => ∀ answer, (next answer).Ensures fun transcript a => post (⟨r,answer⟩ :: transcript) a

namespace Ensures

variable {s : Script Request Answer α} {post first : List (Entry Answer) → α → Prop}

theorem pure {a : α} (holds : post [] a) : Ensures (Pure.pure a) post := holds

theorem bind {f : α → Script Request Answer β} {post : List (Entry Answer) → β → Prop} (ensures : s.Ensures first)
    (rest : ∀ transcript a, first transcript a → (f a).Ensures fun more b => post (transcript ++ more) b) :
    (s >>= f).Ensures post := by
  induction s generalizing first post with
  | done a => exact rest [] a ensures
  | ask r next ih =>
    intro answer
    exact ih answer (ensures answer) fun transcript a holds => rest (⟨r,answer⟩ :: transcript) a holds

theorem mono (ensures : s.Ensures first) (weaker : ∀ transcript a, first transcript a → post transcript a) :
    s.Ensures post := by
  induction s generalizing first post with
  | done a => exact weaker [] a ensures
  | ask r next ih =>
    intro answer
    exact ih answer (ensures answer) fun transcript a => weaker (⟨r,answer⟩ :: transcript) a

/-- What is made of the result at the end. -/
theorem map {f : α → β} {post : List (Entry Answer) → β → Prop}
    (ensures : s.Ensures fun transcript a => post transcript (f a)) : (f <$> s).Ensures post := by
  rw [map_eq_pure_bind]
  refine ensures.bind fun transcript a holds => pure ?_
  rw [List.append_nil]
  exact holds

/-- What is so of every transcript is so of what one run adds to a transcript. -/
theorem run (ensures : s.Ensures post) (respond : (r : Request) → StateM σ (Answer r)) (state : σ)
    (transcript : List (Entry Answer)) :
    let (a,_,after) := s.run (transcribing respond) (state,transcript)
    ∃ added, after = transcript ++ added ∧ post added a := by
  induction s generalizing post state transcript with
  | done a => exact ⟨[],(List.append_nil _).symm,ensures⟩
  | ask r next ih =>
    obtain ⟨added,after,holds⟩ := ih _ (ensures (respond r state).1) (respond r state).2
      (transcript ++ [⟨r,(respond r state).1⟩])
    exact ⟨⟨r,(respond r state).1⟩ :: added,after.trans (List.append_cons ..).symm,holds⟩

end Ensures

end HandleBridge.Script
