import HandleBridge.Proofs.BuiltPackages
import HandleBridge.Proofs.CarefulCode
import HandleBridge.Proofs.Courses

/-!
What enters a foreign library, whatever the library answers. No proxy hands it a null handle, and of the further
entries that the adapter makes to explain a failure all but one ask about the handles of the call. The one asks for
the class of what a written value refers to, and a value may refer to null.
-/

namespace HandleBridge

namespace Foreign

/-- An entry that was entered, with what it left behind. -/
structure Crossing where
  call : Call RawValue
  outcome : Outcome call.Reply

/-- Entering a library for the class of null, right after it found a type to be wrong with a null object that was
written and then knew the class of what was written to. -/
inductive Probe : List Crossing → Call RawValue → Prop
  | mk (earlier : List Crossing) (h : Handle) (f : FeatureId) (cls : ClassId) :
    Probe (earlier ++ [⟨.set h f (RawValue.borrow (.object .null)),⟨.typeMismatch,()⟩⟩,⟨.classOf h,⟨.ok,cls⟩⟩])
      (.classOf .null)

/-- Whether an entry may be entered after others. -/
def Admissible (before : List Crossing) (c : Call RawValue) : Prop := c.NullFree ∨ Probe before c

/-- Whether every entry of a log was one that may be entered after those before it. -/
def Guarded (log : List Crossing) : Prop := ∀ before c, before ++ [c] <+: log → Admissible before c.call

theorem Guarded.append {log : List Crossing} {c : Crossing} (guarded : Guarded log)
    (admissible : Admissible log c.call) : Guarded (log ++ [c]) := by
  intro before last within
  rcases List.prefix_concat_iff.mp within with same | earlier
  · obtain ⟨rfl,rfl⟩ := List.append_inj' same rfl |>.imp id List.singleton_inj.mp
    exact admissible
  · exact guarded before last earlier

variable {σ α β : Type}

/-- A library that enters its traffic into a log. -/
def tracing (answer : (r : Request) → StateM σ (Answer r)) : (r : Request) → StateM (σ × List Crossing) (Answer r)
  | .enter c => fun (library,log) =>
    let (outcome,library) := answer (.enter c) library
    (outcome,library,log ++ [⟨c,outcome⟩])
  | .readText buffer => fun (library,log) =>
    let (bytes,library) := answer (.readText buffer) library
    (bytes,library,log)
  | .freeString buffer => fun (library,log) =>
    let ((),library) := answer (.freeString buffer) library
    ((),library,log)

/-- Whether an exchange, from a log on, enters only what may be entered, and ends with a result of a given sort. -/
def Exchange.Guards (x : Exchange α) (log : List Crossing) (post : α → List Crossing → Prop) : Prop :=
  match x with
  | Script.done a => post a log
  | Script.ask (.enter c) next =>
    Admissible log c ∧ ∀ outcome, Exchange.Guards (next outcome) (log ++ [⟨c,outcome⟩]) post
  | Script.ask (.readText _) next => ∀ bytes, Exchange.Guards (next bytes) log post
  | Script.ask (.freeString _) next => Exchange.Guards (next ()) log post

namespace Exchange.Guards

variable {log : List Crossing} {post : α → List Crossing → Prop} {last : β → List Crossing → Prop}

theorem pure {a : α} (holds : post a log) : Exchange.Guards (Pure.pure a) log post := holds

theorem bind {x : Exchange α} {f : α → Exchange β}
    (guards : Exchange.Guards x log fun a log => Exchange.Guards (f a) log last) :
    Exchange.Guards (x >>= f) log last := by
  induction x generalizing log with
  | done a => exact guards
  | ask r next ih =>
    cases r with
    | enter c => exact ⟨guards.1,fun outcome => ih outcome (guards.2 outcome)⟩
    | readText buffer => exact fun bytes => ih bytes (guards bytes)
    | freeString buffer => exact ih () guards

theorem mono {x : Exchange α} {weaker : α → List Crossing → Prop} (guards : Exchange.Guards x log post)
    (weaken : ∀ a log, post a log → weaker a log) : Exchange.Guards x log weaker := by
  induction x generalizing log with
  | done a => exact weaken a log guards
  | ask r next ih =>
    cases r with
    | enter c => exact ⟨guards.1,fun outcome => ih outcome (guards.2 outcome)⟩
    | readText buffer => exact fun bytes => ih bytes (guards bytes)
    | freeString buffer => exact ih () guards

theorem run (answer : (r : Request) → StateM σ (Answer r)) {x : Exchange α} (guards : Exchange.Guards x log post)
    (library : σ) (guarded : Guarded log) :
    let (a,_,log) := x.run (tracing answer) (library,log)
    post a log ∧ Guarded log := by
  induction x generalizing library log with
  | done a => exact ⟨guards,guarded⟩
  | ask r next ih =>
    cases r with
    | enter c => exact ih _ (guards.2 _) _ (guarded.append guards.1)
    | readText buffer => exact ih _ (guards _) _ guarded
    | freeString buffer => exact ih () guards _ guarded

theorem enterEntry {c : Call RawValue} (admissible : Admissible log c) :
    Exchange.Guards (enterEntry c) log fun outcome after => after = log ++ [⟨c,outcome⟩] :=
  ⟨admissible,fun _ => rfl⟩

end Exchange.Guards

namespace Adapter

variable {p : Package} {log : List Crossing} {h : Handle} {c : Call Value}

theorem nullFree_map (c : Call Value) (f : Value → RawValue) : (c.map f).NullFree ↔ c.NullFree := by
  cases c <;> rfl

theorem guards_look {c : Call RawValue} (admissible : Admissible log c) :
    Exchange.Guards (look c) log fun seen after =>
      ∀ reply ∈ seen, after = log ++ [⟨c,⟨.ok,reply⟩⟩] := by
  refine .bind ((Exchange.Guards.enterEntry admissible).mono ?_)
  rintro ⟨status,out⟩ _ rfl
  refine .pure ?_
  dsimp only
  split
  · rename_i same
    rintro _ ⟨⟩
    rw [same]
  · nofun

/-- What is seen of a class shows in the log that the library knew it. -/
theorem guards_classOf (admissible : Admissible log (.classOf h)) :
    Exchange.Guards (classOf p h) log fun seen after =>
      ∀ cls ∈ seen, ∃ id, after = log ++ [⟨.classOf h,⟨.ok,id⟩⟩] := by
  refine .bind ((guards_look admissible).mono fun seen after looked => .pure ?_)
  intro cls found
  obtain ⟨id,there,-⟩ := Option.bind_eq_some_iff.mp found
  exact ⟨id,looked id there⟩

theorem guards_featureFailure (f : FeatureId) (notNull : h.isNull = false) :
    Exchange.Guards (featureFailure p h f) log fun _ _ => True := by
  refine .bind ((guards_classOf (.inl (Call.nullFree_one rfl notNull))).mono fun seen _ _ => ?_)
  cases seen with
  | none => exact trivial
  | some cls =>
    dsimp only
    split <;> exact trivial

theorem guards_indexFailure (i : UInt64) (notNull : h.isNull = false) :
    Exchange.Guards (indexFailure h i) log fun _ _ => True :=
  .bind ((guards_look (.inl (Call.nullFree_one rfl notNull))).mono fun _ _ _ => trivial)

theorem guards_elementFailure {element : Handle} (notNull : element.isNull = false) :
    Exchange.Guards (elementFailure p h element) log fun _ _ => True :=
  .bind ((guards_classOf (.inl (Call.nullFree_one rfl notNull))).mono fun _ _ _ => trivial)

/-- Only the class of what the value refers to is asked for without a check of the handle. -/
theorem guards_valueFailure (f : FeatureId) (v : Value) (notNull : h.isNull = false) (earlier : List Crossing) :
    Exchange.Guards (valueFailure p h f v) (earlier ++ [⟨.set h f (RawValue.borrow v),⟨.typeMismatch,()⟩⟩])
      fun _ _ => True := by
  refine .bind ((guards_classOf (.inl (Call.nullFree_one rfl notNull))).mono fun seen after looked => ?_)
  cases seen with
  | none => exact trivial
  | some cls =>
    obtain ⟨id,rfl⟩ := looked cls rfl
    dsimp only
    split
    · exact trivial
    · split
      · rename_i element _ _
        refine .bind ((guards_classOf ?_).mono fun _ _ _ => trivial)
        cases isNull : element.isNull with
        | false => exact .inl (Call.nullFree_one rfl isNull)
        | true =>
          obtain rfl := (Handle.isNull_eq_true_iff element).mp isNull
          rw [List.append_assoc]
          exact .inr (.mk earlier h f id)
      · exact trivial
      · exact trivial

theorem guards_rangeFailure (nullFree : c.NullFree) : Exchange.Guards (rangeFailure p c) log fun _ _ => True := by
  cases c with
  | listAt l i => exact guards_indexFailure i (nullFree l (by simp [Call.arguments]))
  | insertAt l i e => exact guards_indexFailure i (nullFree l (by simp [Call.arguments]))
  | get h f resolve => exact guards_featureFailure f (nullFree h (by simp [Call.arguments]))
  | set h f v => exact guards_featureFailure f (nullFree h (by simp [Call.arguments]))
  | isSet h f => exact guards_featureFailure f (nullFree h (by simp [Call.arguments]))
  | unset h f => exact guards_featureFailure f (nullFree h (by simp [Call.arguments]))
  | _ => exact trivial

/-- Once an entry found a type to be wrong, the class of a null object that was written may be asked for. -/
theorem guards_typeFailure (nullFree : c.NullFree) {out : (c.map RawValue.borrow).Reply} :
    Exchange.Guards (typeFailure p c) (log ++ [⟨c.map RawValue.borrow,⟨.typeMismatch,out⟩⟩]) fun _ _ => True := by
  cases c with
  | set h f v => exact guards_valueFailure f v (nullFree h (by simp [Call.arguments])) log
  | pushBack l e => exact guards_elementFailure (nullFree e (by simp [Call.arguments]))
  | insertAt l i e => exact guards_elementFailure (nullFree e (by simp [Call.arguments]))
  | _ => exact trivial

theorem guards_diagnose (nullFree : c.NullFree) (status : Status) {out : (c.map RawValue.borrow).Reply} :
    Exchange.Guards (diagnose p c status) (log ++ [⟨c.map RawValue.borrow,⟨status,out⟩⟩]) fun _ _ => True := by
  unfold diagnose
  split
  · exact trivial
  split
  · exact trivial
  split
  · exact .bind ((guards_rangeFailure nullFree).mono fun _ _ _ => trivial)
  split
  · rename_i same
    rw [same]
    exact .bind ((guards_typeFailure nullFree).mono fun _ _ _ => trivial)
  · exact trivial

/-- Entering a call without null handles, and explaining its failure, enters only what may be entered. -/
theorem guards_enter (nullFree : c.NullFree) : Exchange.Guards (enter p c) log fun _ _ => True := by
  have admissible : Admissible log (c.map RawValue.borrow) := .inl ((nullFree_map c _).mpr nullFree)
  refine .bind ((Exchange.Guards.enterEntry admissible).mono ?_)
  rintro ⟨status,out⟩ _ rfl
  dsimp only
  split
  · exact trivial
  · exact .bind ((guards_diagnose nullFree status).mono fun _ _ _ => trivial)

theorem guards_nonNull {x : Exchange (Except Error Handle)} (guards : Exchange.Guards x log fun _ _ => True) :
    Exchange.Guards (do return (← x) >>= nonNull) log fun result _ => ∀ k, result = .ok k → k.isNull = false := by
  refine .bind (guards.mono fun result _ _ => .pure fun k same => ?_)
  cases result with
  | error e => cases same
  | ok made =>
    change nonNull made = .ok k at same
    unfold nonNull at same
    split at same
    · cases same
    · rename_i notNull
      cases same
      exact Bool.not_eq_true _ ▸ notNull

theorem guards_takeOver (raw : RawValue) : Exchange.Guards (takeOver raw) log fun _ _ => True := by
  unfold takeOver
  split
  · exact fun _ => trivial
  · exact trivial

/-- A call without null handles enters only what may be entered, and no null handle comes back for what it made. -/
theorem guards_call (nullFree : c.NullFree) :
    Exchange.Guards (call p c) log fun answer _ => (Effect.call c).Gives answer := by
  have entered : Exchange.Guards (enter p c) log fun _ _ => True := guards_enter nullFree
  have given {k : Call Value} {answer : Except Error k.Reply} (gives : ∀ reply, answer = .ok reply → k.Gives reply) :
      (Effect.call k).Gives answer := by
    cases answer with
    | ok reply => exact gives reply rfl
    | error e => exact trivial
  cases c with
  | create cls => exact (guards_nonNull entered).mono fun _ _ notNull => given notNull
  | createList cls => exact (guards_nonNull entered).mono fun _ _ notNull => given notNull
  | upcast k => exact (guards_nonNull entered).mono fun _ _ notNull => given notNull
  | copy k => exact (guards_nonNull entered).mono fun _ _ notNull => given notNull
  | get h f resolve =>
    refine .bind (entered.mono fun result _ _ => ?_)
    cases result with
    | ok raw => exact (guards_takeOver raw).mono fun _ _ _ => given fun _ _ => trivial
    | error e => exact trivial
  | _ => exact entered.mono fun _ _ _ => given fun _ _ => trivial

end Adapter

/-- Lets a library answer what proxies ask for, with a log of its traffic. -/
def answering (p : Package) (answer : (r : Request) → StateM σ (Answer r)) :
    (e : Effect) → StateM (σ × List Crossing) e.Answer
  | .call c => (Adapter.call p c).run (tracing answer)
  | .note _ => pure ()

/-- A library that answers calls without null handles keeps the log guarded. -/
theorem answering_keeps (p : Package) (answer : (r : Request) → StateM σ (Answer r)) (e : Effect) (nullFree : e.NullFree)
    (native : σ × List Crossing) (guarded : Guarded native.2) :
    e.Gives (answering p answer e native).1 ∧ Guarded (answering p answer e native).2.2 := by
  cases e with
  | call c => exact (Adapter.guards_call nullFree).run answer native.1 guarded
  | note e => exact ⟨trivial,guarded⟩

end Foreign

namespace Session

open Foreign

/-- Whether a session against a library has base handles for its object proxies and guarded traffic behind it. -/
structure Course.Safe {σ : Type} (c : Course (σ × List Crossing)) : Prop where
  based : c.state.Based
  guarded : Guarded c.native.2

variable {σ : Type} {b : Bridge} {p : Package} {answer : (r : Request) → StateM σ (Answer r)}
  {c : Course (σ × List Crossing)}

theorem run_careful {α : Type} (p : Package) (answer : (r : Request) → StateM σ (Answer r)) {r : Routine α}
    {post : α → Prop} (careful : Routine.Careful r post) (guarded : Guarded c.native.2) :
    let (a,native,_) := r.run (recording (answering p answer)) (c.native,c.log)
    post a ∧ Guarded native.2 :=
  careful.run (fun (s : (σ × List Crossing) × List Asked) => Guarded s.1.2)
    (fun s e nullFree guarded => answering_keeps p answer e nullFree s.1 guarded) guarded

/-- Every step keeps a session safe. -/
theorem safe_step (safe : c.Safe) {step : Step} (native : step.isNative = false) (as : Option String) :
    (c.step b (answering p answer) step as).2.Safe := by
  obtain ⟨⟨based,-⟩,guarded⟩ :=
    run_careful p answer (step.careful_performSaving b as native c.state safe.based) safe.guarded
  exact ⟨based,guarded⟩

/-- So do any number of steps. -/
theorem safe_play (safe : c.Safe) {steps : List (Step × Option String)}
    (native : ∀ step ∈ steps, step.1.isNative = false) : (c.play b (answering p answer) steps).Safe := by
  induction steps generalizing c with
  | nil => exact safe
  | cons step rest ih =>
    obtain ⟨head,rest⟩ := List.forall_mem_cons.mp native
    exact ih (safe_step safe head step.2) rest

theorem safe_finish (safe : c.Safe) : (c.finish b (answering p answer)).Safe :=
  ⟨nofun,(run_careful p answer (c.state.careful_finish b) safe.guarded).2⟩

/-- Whatever a library answers, no proxy enters it with a null handle for an object, a list, an element or a source.
Null comes up at one place only: where the library found a type to be wrong with a null object that was written, the
adapter asks it for the class of null. -/
theorem null_crosses_to_explain_only (b : Bridge) (p : Package) (answer : (r : Request) → StateM σ (Answer r))
    (library : σ) (steps : List (Step × Option String)) (proxied : ∀ step ∈ steps, step.1.isNative = false) :
    let c := (Course.start (library,([] : List Crossing))).play b (answering p answer) steps
    Guarded c.native.2 ∧ Guarded (c.finish b (answering p answer)).native.2 := by
  have start : (Course.start (library,([] : List Crossing))).Safe := by
    refine ⟨nofun,fun before c within => ?_⟩
    have empty := List.prefix_nil.mp within
    simp at empty
  have played : Course.Safe (Course.play b (answering p answer) (Course.start (library,[])) steps) :=
    safe_play start proxied
  exact ⟨played.guarded,(safe_finish played).guarded⟩

/-- A library whose objects are all nodes, and which finds a type to be wrong with everything that is done to them. -/
def nodesOnly : (r : Request) → StateM Unit (Answer r)
  | .enter (.create _) => pure ⟨.ok,⟨5⟩⟩
  | .enter (.upcast h) => pure ⟨.ok,h⟩
  | .enter (.classOf _) => pure ⟨.ok,⟨1⟩⟩
  | .enter c => pure ⟨.typeMismatch,blank c⟩
  | .readText buffer => pure buffer.bytes
  | .freeString _ => pure ()

/-- A node is made, and its tag is set to the null object. -/
def nullTag : List (Step × Option String) :=
  [(.createAs .reflective "Node" "n",none),(.set "n" ⟨0⟩ (.value (.object .null)),none)]

/-- Traffic of those steps with that library. -/
def nullTagTraffic : List Crossing :=
  ((Course.start ((),([] : List Crossing))).play ⟨forest,{}⟩ (answering forest nodesOnly) nullTag).native.2

/-- The library is entered for the class of null, and not every entry had a handle. -/
theorem class_of_null_asked :
    nullTagTraffic.map Crossing.call = [.create ⟨1⟩,.upcast ⟨5⟩,.classOf ⟨5⟩,
        .set ⟨5⟩ ⟨0⟩ (RawValue.borrow (.object .null)),.classOf ⟨5⟩,.classOf .null] ∧
      ¬∀ crossing ∈ nullTagTraffic, crossing.call.NullFree := by
  constructor
  · decide +kernel
  · decide +kernel

/-- That one entry is the one to explain the failure; all others had handles. -/
theorem null_crosses_to_explain_tag :
    Guarded nullTagTraffic ∧ (nullTagTraffic.take 5).all fun crossing => crossing.call.NullFree := by
  constructor
  · exact (null_crosses_to_explain_only ⟨forest,{}⟩ forest nodesOnly () nullTag (by decide)).1
  · decide +kernel

end Session

end HandleBridge
