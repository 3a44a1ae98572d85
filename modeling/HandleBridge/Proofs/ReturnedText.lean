import HandleBridge.Foreign.Adapter
import HandleBridge.Proofs.Transcripts
import HandleBridge.Proxy.Basic

/-!
Text that a foreign library hands out, whatever the library answers. A read that is answered with text reads the
text and gives it back, once each and in this order, before it is answered itself, and also where the text is not
well-formed. No other call gives anything back. So between any two calls what was handed out is what was given back,
piece by piece.
-/

namespace HandleBridge.Foreign

variable {α β σ : Type}

/-- A request to a library, with its answer. -/
abbrev Exchanged := Script.Entry Answer

namespace Exchanged

/-- Text that the library handed out: the entry of a read that reports success left a string with a buffer. -/
def handedOut? : Exchanged → Option Buffer
  | ⟨.enter (.get _ _ _),⟨status,raw⟩⟩ => if status = Status.ok then raw.buffer? else none
  | _ => none

theorem handedOut?_get (h : Handle) (f : FeatureId) (resolve : Bool) (outcome : Outcome RawValue) :
    handedOut? ⟨.enter (.get h f resolve),outcome⟩ =
      if outcome.status = Status.ok then outcome.out.buffer? else none := rfl

/-- Text that was given back. -/
def givenBack? : Exchanged → Option Buffer
  | ⟨.freeString buffer,_⟩ => some buffer
  | _ => none

/-- Whether an exchange is an entry that was entered and handed out no text. -/
inductive Textless : Exchanged → Prop where
  | entry {c : Call RawValue} {outcome : Outcome c.Reply} (none : handedOut? ⟨.enter c,outcome⟩ = none) :
    Textless ⟨.enter c,outcome⟩

theorem Textless.handedOut?_eq {x : Exchanged} (textless : Textless x) : x.handedOut? = none := by
  cases textless with
  | entry none => exact none

theorem Textless.givenBack?_eq {x : Exchanged} (textless : Textless x) : x.givenBack? = none := by
  cases textless with
  | entry _ => rfl

end Exchanged

def handedOut (traffic : List Exchanged) : List Buffer := traffic.filterMap Exchanged.handedOut?

def givenBack (traffic : List Exchanged) : List Buffer := traffic.filterMap Exchanged.givenBack?

/-- A boundary call with the traffic that it led to and its answer. -/
structure Dealing where
  call : Call Value
  traffic : List Exchanged
  answer : Except Error call.Reply

/-- Whether a call keeps no text of the library: either it came by none and gave none back, or it is a read whose entry
left text, and then it reads that text, gives it back and answers what it read, or that this was not well-formed. -/
inductive Dealing.Settled : Dealing → Prop where
  | textless {c : Call Value} {traffic : List Exchanged} {answer : Except Error c.Reply}
    (all : ∀ x ∈ traffic, x.Textless) : Settled ⟨c,traffic,answer⟩
  | text {h : Handle} {f : FeatureId} {resolve : Bool} {raw : RawValue} {buffer : Buffer}
    (handed : raw.buffer? = some buffer) (bytes : List UInt8) :
    Settled ⟨.get h f resolve,
      [⟨.enter (.get h f resolve),⟨.ok,raw⟩⟩,⟨.readText buffer,bytes⟩,⟨.freeString buffer,()⟩],
      RawValue.toText (some { buffer with bytes })⟩

/-- A call that settled its text gave back what was handed out. -/
theorem Dealing.Settled.balance {d : Dealing} (settled : d.Settled) : handedOut d.traffic = givenBack d.traffic := by
  cases settled with
  | textless all =>
    have none : handedOut _ = [] := List.filterMap_eq_nil_iff.mpr fun x member => (all x member).handedOut?_eq
    have nothing : givenBack _ = [] := List.filterMap_eq_nil_iff.mpr fun x member => (all x member).givenBack?_eq
    rw [none,nothing]
  | @text h f resolve raw buffer handed bytes =>
    have left : Exchanged.handedOut? ⟨.enter (.get h f resolve),⟨.ok,raw⟩⟩ = some buffer := by
      rw [Exchanged.handedOut?_get,if_pos rfl,handed]
    rw [handedOut,List.filterMap_cons_some left]
    rfl

/-- So did a book of such calls, text by text and in order. -/
theorem balance_of_settled {book : List Dealing} (settled : ∀ d ∈ book, d.Settled) :
    handedOut (book.flatMap Dealing.traffic) = givenBack (book.flatMap Dealing.traffic) := by
  rw [handedOut,givenBack,List.filterMap_flatMap,List.filterMap_flatMap]
  exact List.flatMap_congr fun d member => (settled d member).balance

/-- Whether an exchange hands out no text and gives none back, whatever it is answered. -/
def Exchange.Quiet (x : Exchange α) : Prop := Script.Ensures x fun traffic _ => ∀ x ∈ traffic, Exchanged.Textless x

namespace Exchange.Quiet

theorem pure (a : α) : Exchange.Quiet (Pure.pure a) := fun _ none => absurd none List.not_mem_nil

theorem bind {x : Exchange α} {f : α → Exchange β} (first : Exchange.Quiet x) (rest : ∀ a, Exchange.Quiet (f a)) :
    Exchange.Quiet (x >>= f) := by
  refine Script.Ensures.bind first fun traffic a quiet => Script.Ensures.mono (rest a) fun more b still y member => ?_
  rcases List.mem_append.mp member with member | member
  · exact quiet y member
  · exact still y member

/-- An entry other than that of a read hands out nothing. -/
theorem enterEntry {c : Call RawValue} (other : ∀ outcome, Exchanged.handedOut? ⟨.enter c,outcome⟩ = none) :
    Exchange.Quiet (enterEntry c) := by
  intro outcome x member
  obtain rfl := List.mem_singleton.mp member
  exact .entry (other outcome)

end Exchange.Quiet

namespace Adapter

variable (p : Package) {c : Call Value}

theorem quiet_look {c : Call RawValue} (other : ∀ outcome, Exchanged.handedOut? ⟨.enter c,outcome⟩ = none) :
    Exchange.Quiet (look c) := (Exchange.Quiet.enterEntry other).bind fun _ => .pure _

theorem quiet_classOf (h : Handle) : Exchange.Quiet (classOf p h) :=
  (quiet_look fun _ => rfl).bind fun _ => .pure _

theorem quiet_featureFailure (h : Handle) (f : FeatureId) : Exchange.Quiet (featureFailure p h f) := by
  refine (quiet_classOf p h).bind fun seen => ?_
  cases seen with
  | none => exact .pure _
  | some cls =>
    dsimp only
    split <;> exact .pure _

theorem quiet_indexFailure (list : Handle) (i : UInt64) : Exchange.Quiet (indexFailure list i) :=
  (quiet_look fun _ => rfl).bind fun _ => .pure _

theorem quiet_elementFailure (list element : Handle) : Exchange.Quiet (elementFailure p list element) :=
  (quiet_classOf p element).bind fun _ => .pure _

theorem quiet_valueFailure (h : Handle) (f : FeatureId) (v : Value) : Exchange.Quiet (valueFailure p h f v) := by
  refine (quiet_classOf p h).bind fun seen => ?_
  cases seen with
  | none => exact .pure _
  | some cls =>
    dsimp only
    split
    · exact .pure _
    · split
      · exact (quiet_classOf p _).bind fun _ => .pure _
      · exact .pure _
      · exact .pure _

theorem quiet_rangeFailure (c : Call Value) : Exchange.Quiet (rangeFailure p c) := by
  cases c with
  | listAt list i => exact quiet_indexFailure list i
  | insertAt list i element => exact quiet_indexFailure list i
  | get h f resolve => exact quiet_featureFailure p h f
  | set h f v => exact quiet_featureFailure p h f
  | isSet h f => exact quiet_featureFailure p h f
  | unset h f => exact quiet_featureFailure p h f
  | _ => exact .pure _

theorem quiet_typeFailure (c : Call Value) : Exchange.Quiet (typeFailure p c) := by
  cases c with
  | set h f v => exact quiet_valueFailure p h f v
  | pushBack list element => exact quiet_elementFailure p list element
  | insertAt list i element => exact quiet_elementFailure p list element
  | _ => exact .pure _

/-- Explaining a failure comes by no text. -/
theorem quiet_diagnose (c : Call Value) (status : Status) : Exchange.Quiet (diagnose p c status) := by
  unfold diagnose
  split
  · exact .pure _
  split
  · exact .pure _
  split
  · exact (quiet_rangeFailure p c).bind fun _ => .pure _
  split
  · exact (quiet_typeFailure p c).bind fun _ => .pure _
  · exact .pure _

theorem quiet_enter (other : ∀ outcome, Exchanged.handedOut? ⟨.enter (c.map RawValue.borrow),outcome⟩ = none) :
    Exchange.Quiet (enter p c) := by
  refine (Exchange.Quiet.enterEntry other).bind fun outcome => ?_
  by_cases succeeded : outcome.status = Status.ok
  · rw [if_pos succeeded]
    exact .pure _
  · rw [if_neg succeeded]
    exact (quiet_diagnose p c outcome.status).bind fun _ => .pure _

/-- Whether a call settles its text, whatever it is answered. -/
def Settles (c : Call Value) (x : Exchange (Except Error c.Reply)) : Prop :=
  Script.Ensures x fun traffic answer => Dealing.Settled ⟨c,traffic,answer⟩

theorem settles_of_quiet {x : Exchange (Except Error c.Reply)} (quiet : Exchange.Quiet x) : Settles c x :=
  Script.Ensures.mono quiet fun _ _ all => .textless all

/-- The entry of a read left its result, or it failed and no text came of it. -/
theorem enters_get (h : Handle) (f : FeatureId) (resolve : Bool) :
    Script.Ensures (enter p (.get h f resolve)) fun traffic result =>
      (∃ raw, result = .ok raw ∧ traffic = [⟨.enter (.get h f resolve),⟨.ok,raw⟩⟩]) ∨
        ∃ e, result = .error e ∧ ∀ x ∈ traffic, Exchanged.Textless x := by
  rintro ⟨status,raw⟩
  by_cases succeeded : status = Status.ok
  · subst succeeded
    exact .inl ⟨raw,rfl,rfl⟩
  · show Script.Ensures (if status = Status.ok then _ else _) _
    rw [if_neg succeeded]
    refine Script.Ensures.bind (quiet_diagnose p _ status) fun traffic e quiet => .inr ⟨e,rfl,?_⟩
    have failed : Exchanged.handedOut? ⟨.enter (.get h f resolve),⟨status,raw⟩⟩ = none := by
      rw [Exchanged.handedOut?_get,if_neg succeeded]
    rw [List.append_nil]
    exact List.forall_mem_cons.mpr ⟨.entry failed,quiet⟩

/-- A read settles its text, be it well-formed or not. -/
theorem settles_get (h : Handle) (f : FeatureId) (resolve : Bool) :
    Settles (.get h f resolve) (call p (.get h f resolve)) := by
  refine Script.Ensures.bind (enters_get p h f resolve) fun traffic result entered => ?_
  rcases entered with ⟨raw,rfl,rfl⟩ | ⟨e,rfl,textless⟩
  · show Script.Ensures (takeOver raw) _
    unfold takeOver
    split
    · rename_i buffer handed
      obtain ⟨tagged,-⟩ := RawValue.buffer?_eq_some_iff.mp handed
      intro bytes _
      have settled : Dealing.Settled ⟨.get h f resolve,_,RawValue.toText (some { buffer with bytes })⟩ :=
        .text handed bytes
      have decoded : RawValue.toValue { raw with text := some { buffer with bytes } } =
          RawValue.toText (some { buffer with bytes }) := RawValue.toValue_of_stringTag tagged
      rw [← decoded] at settled
      exact settled
    · rename_i none
      have silent : Exchanged.handedOut? ⟨.enter (.get h f resolve),⟨.ok,raw⟩⟩ = Option.none := by
        rw [Exchanged.handedOut?_get,if_pos rfl,none]
      exact .textless (List.forall_mem_singleton.mpr (.entry silent))
  · refine .textless ?_
    rw [List.append_nil]
    exact textless

/-- Every call settles its text. -/
theorem settles_call (c : Call Value) : Settles c (call p c) := by
  cases c with
  | get h f resolve => exact settles_get p h f resolve
  | create cls => exact settles_of_quiet ((quiet_enter p fun _ => rfl).bind fun _ => .pure _)
  | createList cls => exact settles_of_quiet ((quiet_enter p fun _ => rfl).bind fun _ => .pure _)
  | upcast h => exact settles_of_quiet ((quiet_enter p fun _ => rfl).bind fun _ => .pure _)
  | copy h => exact settles_of_quiet ((quiet_enter p fun _ => rfl).bind fun _ => .pure _)
  | _ => exact settles_of_quiet (quiet_enter p fun _ => rfl)

end Adapter

/-- Lets a library answer what a client asks for, and keeps a book of how it was dealt with. -/
def bookkeeping (p : Package) (answer : (r : Request) → StateM σ (Answer r)) :
    (e : Effect) → StateM (σ × List Dealing) e.Answer
  | .call c => fun (library,book) =>
    let (result,library,traffic) := (Adapter.call p c).run (Script.transcribing answer) (library,[])
    (result,library,book ++ [⟨c,traffic,result⟩])
  | .note _ => pure ()

/-- Whatever a client asks for, the book stays settled. -/
theorem settled_bookkeeping (p : Package) (answer : (r : Request) → StateM σ (Answer r)) (e : Effect) (library : σ)
    {book : List Dealing} (settled : ∀ d ∈ book, d.Settled) :
    ∀ d ∈ (bookkeeping p answer e (library,book)).2.2, d.Settled := by
  cases e with
  | note e => exact settled
  | call c =>
    intro d member
    rcases List.mem_append.mp member with member | member
    · exact settled d member
    · obtain rfl := List.mem_singleton.mp member
      obtain ⟨traffic,after,last⟩ := Script.Ensures.run (Adapter.settles_call p c) answer library []
      rw [List.nil_append] at after
      rw [← after] at last
      exact last

/-- In every run of a client, whatever the library answers: each call settles its text, so a read whose entry left
text reads it, gives it back once and answers then, and nothing else is ever given back. After any number of calls
the text that was handed out is the text that was given back. -/
theorem text_returned_once (p : Package) (answer : (r : Request) → StateM σ (Answer r)) (library : σ)
    (client : Routine α) :
    let (_,_,book) := client.run (bookkeeping p answer) (library,[])
    (∀ d ∈ book, d.Settled) ∧
      ∀ before, before <+: book →
        handedOut (before.flatMap Dealing.traffic) = givenBack (before.flatMap Dealing.traffic) := by
  have keeps (e : Effect) (state : σ × List Dealing) (settled : ∀ d ∈ state.2, d.Settled) :
      ∀ d ∈ (bookkeeping p answer e state).2.2, d.Settled := settled_bookkeeping p answer e state.1 settled
  have settled : ∀ d ∈ (client.run (bookkeeping p answer) (library,[])).2.2, d.Settled :=
    Script.run_keeps keeps client fun d none => absurd none List.not_mem_nil
  refine ⟨settled,fun before within => balance_of_settled fun d member => ?_⟩
  exact settled d (within.subset member)

/-- A library that answers every read with a byte that is no text. -/
def garbling : (r : Request) → StateM Unit (Answer r)
  | .enter (.get _ _ _) => pure ⟨.ok,{ tag := RawValue.stringTag, text := some ⟨8,[0xFF]⟩ }⟩
  | .enter c => pure ⟨.ok,blank c⟩
  | .readText buffer => pure buffer.bytes
  | .freeString _ => pure ()

/-- What is no text goes back all the same. -/
example :
    let (answer,_,book) := (Routine.ask (.get ⟨5⟩ ⟨0⟩ false)).run (bookkeeping ⟨"forest","urn:forest",[]⟩ garbling) ((),[])
    answer.isOk = false ∧ givenBack (book.flatMap Dealing.traffic) = [⟨8,[0xFF]⟩] := by
  constructor
  · decide
  · decide

end HandleBridge.Foreign
