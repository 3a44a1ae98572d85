import HandleBridge.Proofs.PlainCode
import HandleBridge.Proofs.Transcripts

/-!
Relayed errors: what the boundary calls of an operation have to do with its result. An operation that succeeds had
success with every call that it made. A call that fails is the last one, and the result of the operation is its error,
word for word. The one call that may still follow is the destruction of an object that the operation had come to own
and could not wrap; its own answer is only reported.
-/

namespace HandleBridge

variable {α β σ : Type}

/-- A boundary call that was made, with its answer. -/
structure Answered where
  call : Call Value
  answer : Except Error call.Reply

namespace Answered

/-- The error that a call failed with. -/
def failure? (a : Answered) : Option Error :=
  match a.answer with
  | .ok _ => none
  | .error e => some e

def AllSucceeded (calls : List Answered) : Prop := ∀ a ∈ calls, a.failure? = none

theorem allSucceeded_nil : AllSucceeded [] := fun _ none => absurd none List.not_mem_nil

theorem AllSucceeded.append {calls more : List Answered} (first : AllSucceeded calls) (rest : AllSucceeded more) :
    AllSucceeded (calls ++ more) := by
  intro a member
  rcases List.mem_append.mp member with member | member
  · exact first a member
  · exact rest a member

end Answered

open Answered

/-- The boundary call in an entry of a transcript, unless it is a report. -/
def called? : Script.Entry Effect.Answer → Option Answered
  | ⟨.call c,answer⟩ => some ⟨c,answer⟩
  | ⟨.note _,_⟩ => none

def callsOf (transcript : List (Script.Entry Effect.Answer)) : List Answered := transcript.filterMap called?

/-- Whether a condition holds of the boundary calls of a routine and of its result, whatever it is answered. -/
def Makes (r : Routine α) (post : List Answered → α → Prop) : Prop :=
  Script.Ensures r fun transcript a => post (callsOf transcript) a

namespace Makes

variable {r : Routine α} {post first : List Answered → α → Prop}

theorem pure {a : α} (holds : post [] a) : Makes (Pure.pure a) post := holds

theorem note {e : Event} {post : List Answered → Unit → Prop} (holds : post [] ()) : Makes (Routine.note e) post :=
  fun _ => holds

theorem ask (c : Call Value) : Makes (Routine.ask c) fun calls answer => calls = [⟨c,answer⟩] := fun _ => rfl

theorem bind {f : α → Routine β} {post : List Answered → β → Prop} (makes : Makes r first)
    (rest : ∀ calls a, first calls a → Makes (f a) fun more b => post (calls ++ more) b) : Makes (r >>= f) post := by
  refine Script.Ensures.bind makes fun transcript a holds => ?_
  refine Script.Ensures.mono (rest _ a holds) fun more b after => ?_
  rw [callsOf,List.filterMap_append]
  exact after

/-- What comes after work that makes no call. -/
theorem after {f : α → Routine β} {post : List Answered → β → Prop} (silent : Makes r fun calls _ => calls = [])
    (rest : ∀ a, Makes (f a) post) : Makes (r >>= f) post := by
  refine silent.bind fun calls a none => ?_
  subst none
  exact rest a

theorem mono (makes : Makes r first) (weaker : ∀ calls a, first calls a → post calls a) : Makes r post :=
  Script.Ensures.mono makes fun _ => weaker _

theorem map {f : α → β} {post : List Answered → β → Prop} (makes : Makes r fun calls a => post calls (f a)) :
    Makes (f <$> r) post := Script.Ensures.map makes

/-- A boundary call makes itself, with the answer that it hands on. -/
theorem call (b : Bridge) (c : Call Value) : Makes (b.call c).run fun calls answer => calls = [⟨c,answer⟩] := by
  have announced : Makes (b.announce c) fun calls _ => calls = [] := by
    unfold Bridge.announce
    split
    · exact note rfl
    · exact pure rfl
  have reported (answer : Except Error c.Reply) : Makes (Bridge.reportFailure c answer) fun calls _ => calls = [] := by
    cases answer with
    | ok reply => exact pure rfl
    | error e => exact note rfl
  rw [Bridge.call_run]
  refine announced.after fun _ => (ask c).bind fun calls answer asked => (reported answer).after fun _ => pure ?_
  rw [asked,List.append_nil]

/-- A proxy that goes away asks at most for the destruction of what it owns. -/
theorem drop (b : Bridge) (p : Proxy) :
    Makes (p.drop b) fun calls _ => calls = [] ∨ p.owns = true ∧ ∃ answer, calls = [⟨.destroy p.handle,answer⟩] := by
  cases owns : p.owns with
  | false =>
    rw [Proxy.drop_of_not_owns b owns]
    exact .inl rfl
  | true =>
    have destroyed : Makes (do b.call (.destroy p.handle); return true : Action Bool).run
        fun calls _ => ∃ answer, calls = [⟨.destroy p.handle,answer⟩] := by
      refine bind (call b (.destroy p.handle)) fun calls answer asked => ?_
      subst asked
      cases answer <;> exact ⟨_,rfl⟩
    have released : Makes (p.release b).run fun calls _ => ∃ answer, calls = [⟨.destroy p.handle,answer⟩] := by
      rw [p.release_of_owns b owns]
      exact fun _ => destroyed
    refine released.bind fun calls result asked => ?_
    obtain ⟨answer,rfl⟩ := asked
    cases result with
    | ok => exact .inr ⟨rfl,answer,rfl⟩
    | error e => exact fun _ => .inr ⟨rfl,answer,rfl⟩

end Makes

/-- Whether some calls explain a result: all of them succeeded, or all but the last, whose error is the result. -/
inductive Relayed : List Answered → Except Error α → Prop where
  | succeeded {calls : List Answered} (all : AllSucceeded calls) (result : Except Error α) : Relayed calls result
  | failed {calls : List Answered} {last : Answered} {e : Error} (all : AllSucceeded calls)
    (failure : last.failure? = some e) : Relayed (calls ++ [last]) (.error e)

namespace Relayed

variable {calls more : List Answered}

theorem allSucceeded {a : α} (relayed : Relayed calls (.ok a)) : AllSucceeded calls := by
  cases relayed with
  | succeeded all => exact all

/-- An error is an error of every type of result. -/
theorem ofError {e : Error} (relayed : Relayed calls (.error e : Except Error α)) :
    Relayed calls (.error e : Except Error β) := by
  cases relayed with
  | succeeded all => exact .succeeded all _
  | failed all failure => exact .failed all failure

theorem prepend {result : Except Error α} (all : AllSucceeded calls) (relayed : Relayed more result) :
    Relayed (calls ++ more) result := by
  cases relayed with
  | succeeded rest => exact .succeeded (all.append rest) _
  | failed rest failure =>
    rw [← List.append_assoc]
    exact .failed (all.append rest) failure

theorem call (a : Answered) : Relayed [a] a.answer := by
  obtain ⟨c,answer⟩ := a
  cases answer with
  | ok reply =>
    refine .succeeded (fun a member => ?_) _
    obtain rfl := List.mem_singleton.mp member
    rfl
  | error e =>
    have refused : failure? ⟨c,.error e⟩ = some e := rfl
    exact .failed allSucceeded_nil refused

/-- A call that fails is the last one, and the result is its error. -/
theorem stops {result : Except Error α} (relayed : Relayed calls result) {before after : List Answered} {a : Answered}
    (split : calls = before ++ a :: after) {e : Error} (failure : a.failure? = some e) :
    after = [] ∧ result = .error e := by
  cases relayed with
  | succeeded all =>
    have member : a ∈ calls := split ▸ List.mem_append_right before List.mem_cons_self
    exact absurd (failure.symm.trans (all a member)) (Option.some_ne_none e)
  | @failed calls last _ all lastFailed =>
    rcases after.eq_nil_or_concat with rfl | ⟨rest,z,rfl⟩
    · obtain ⟨-,same⟩ := List.append_inj' split rfl
      obtain rfl := List.singleton_inj.mp same
      obtain rfl := Option.some.inj (failure.symm.trans lastFailed)
      exact ⟨rfl,rfl⟩
    · rw [List.concat_eq_append,← List.cons_append,← List.append_assoc] at split
      obtain ⟨rfl,-⟩ := List.append_inj' split rfl
      have member : a ∈ before ++ a :: rest := List.mem_append_right before List.mem_cons_self
      exact absurd (failure.symm.trans (all a member)) (Option.some_ne_none e)

end Relayed

/-- Whether an action is explained by its calls, whatever it is answered. -/
def Relays (x : Action α) : Prop := Makes x.run Relayed

namespace Relays

theorem pure (a : α) : Relays (Pure.pure a : Action α) := Relayed.succeeded allSucceeded_nil _

theorem throw (e : Error) : Relays (throw e : Action α) := Relayed.succeeded allSucceeded_nil _

theorem bind {x : Action α} {f : α → Action β} (first : Relays x) (rest : ∀ a, Relays (f a)) : Relays (x >>= f) := by
  refine Makes.bind first fun calls result relayed => ?_
  cases result with
  | ok a => exact (rest a).mono fun more b next => next.prepend relayed.allSucceeded
  | error e =>
    show Relayed (calls ++ []) _
    rw [List.append_nil]
    exact relayed.ofError

theorem call (b : Bridge) (c : Call Value) : Relays (b.call c) := by
  refine (Makes.call b c).mono fun calls answer asked => ?_
  rw [asked]
  exact Relayed.call ⟨c,answer⟩

theorem note (e : Event) : Relays (liftM (Routine.note e) : Action Unit) :=
  fun _ => Relayed.succeeded allSucceeded_nil _

/-- Plain work is explained by its calls. -/
theorem plain {x : Action α} (plain : Plain x) : Relays x := by
  induction plain with
  | pure a => exact pure a
  | throw e => exact throw e
  | call b c => exact call b c
  | bind _ _ first rest => exact first.bind rest

/-- Releasing a proxy hands on the error of its call. -/
theorem release (b : Bridge) (p : Proxy) : Relays (p.release b) := by
  cases owns : p.owns with
  | false =>
    rw [p.release_of_not_owns b owns]
    exact pure false
  | true =>
    rw [p.release_of_owns b owns]
    exact (note _).bind fun _ => (call b _).bind fun _ => pure true

theorem createListOf (b : Bridge) (view : View) (name : String) : Relays (b.createListOf view name) :=
  (plain (.lift _)).bind fun _ => (plain (.lift _)).bind fun _ => (call b _).bind fun _ => (note _).bind fun _ => pure _

theorem createList (b : Bridge) (view : View) : Relays (b.createList view) :=
  (plain (.lift _)).bind fun name => createListOf b view name

end Relays

/-! ### Operations that come to own an object -/

/-- Whether some calls explain a result, except that what the operation had come to own may be destroyed after it
failed. -/
inductive Concluded (owned : List Answered → Handle → Prop) : List Answered → Except Error α → Prop where
  | relayed {calls : List Answered} {result : Except Error α} (relayed : Relayed calls result) :
    Concluded owned calls result
  | dropped {calls : List Answered} {e : Error} {h : Handle} (relayed : Relayed calls (.error e : Except Error α))
    (owns : owned calls h) (answer : Except Error Unit) :
    Concluded owned (calls ++ [⟨.destroy h,answer⟩]) (.error e)

/-- How the calls of an operation bear on its result: those of its work, and those of a drop after the work. -/
structure Explained (owned : List Answered → Handle → Prop) (work dropped : List Answered)
    (result : Except Error α) : Prop where
  /-- Success takes the success of every call. -/
  succeeds : ∀ a, result = .ok a → AllSucceeded (work ++ dropped)
  /-- The first failure ends the work, and its error is the result. -/
  stops : ∀ before call after e, work = before ++ call :: after → call.failure? = some e →
    after = [] ∧ result = .error e
  /-- All that may come after the work is one destruction, of what was owned, because of an error. -/
  drops : dropped = [] ∨ ∃ e h answer, result = .error e ∧ owned work h ∧ dropped = [⟨.destroy h,answer⟩]

/-- The calls come in two parts: those of the work, and those of the drop that its failure led to. -/
theorem Concluded.explained {owned : List Answered → Handle → Prop} {calls : List Answered} {result : Except Error α}
    (concluded : Concluded owned calls result) :
    ∃ work dropped, calls = work ++ dropped ∧ Explained owned work dropped result := by
  cases concluded with
  | relayed relayed =>
    refine ⟨calls,[],(List.append_nil calls).symm,?_,fun _ _ _ _ split => relayed.stops split,.inl rfl⟩
    rintro a rfl
    rw [List.append_nil]
    exact relayed.allSucceeded
  | @dropped work e h relayed owns answer =>
    refine ⟨work,[⟨.destroy h,answer⟩],rfl,?_,?_,.inr ⟨e,h,answer,rfl,owns,rfl⟩⟩
    · rintro a ⟨⟩
    · intro before call after e' split failure
      obtain ⟨last,same⟩ := relayed.stops split failure
      cases same
      exact ⟨last,rfl⟩

/-- Whether an action is explained by its calls and a drop of what it owns. -/
def Concludes (owned : List Answered → Handle → Prop) (x : Action α) : Prop := Makes x.run (Concluded owned)

namespace Concludes

variable {owned : List Answered → Handle → Prop} {x : Action α}

theorem ofRelays (relays : Relays x) : Concludes owned x := Makes.mono relays fun _ _ => .relayed

theorem mono {fewer : List Answered → Handle → Prop} (concludes : Concludes fewer x)
    (more : ∀ calls h, fewer calls h → owned calls h) : Concludes owned x := by
  refine Makes.mono concludes fun calls result concluded => ?_
  cases concluded with
  | relayed relayed => exact .relayed relayed
  | dropped relayed owns answer => exact .dropped relayed (more _ _ owns) answer

theorem map (f : α → β) (concludes : Concludes owned x) : Concludes owned (f <$> x) := by
  rw [Concludes,ExceptT.run_map]
  refine Makes.map (Makes.mono concludes fun calls result concluded => ?_)
  cases concluded with
  | @relayed _ result relayed =>
    refine .relayed ?_
    cases result with
    | ok a => exact .succeeded relayed.allSucceeded _
    | error e => exact relayed.ofError
  | dropped relayed owns answer => exact .dropped relayed.ofError owns answer

theorem afterCheck {check : Except Error α} {f : α → Action β} (rest : ∀ a, Concludes owned (f a)) :
    Concludes owned (liftM check >>= f) := by
  cases check with
  | ok a => exact rest a
  | error e => exact ofRelays (Relays.throw e)

theorem afterNote {e : Event} {f : Unit → Action β} (rest : Concludes owned (f ())) :
    Concludes owned (liftM (Routine.note e) >>= f) := fun _ => rest

/-- What an operation owns may depend on the call that it starts with. -/
theorem afterCall (b : Bridge) (c : Call Value) {f : c.Reply → Action β}
    (rest : ∀ reply, Concludes (fun calls => owned (⟨c,.ok reply⟩ :: calls)) (f reply)) :
    Concludes owned (b.call c >>= f) := by
  refine Makes.bind (Makes.call b c) fun calls answer asked => ?_
  subst asked
  cases answer with
  | error e =>
    have failed : Relayed [⟨c,.error e⟩] (.error e : Except Error c.Reply) := Relayed.call ⟨c,.error e⟩
    exact .relayed failed.ofError
  | ok reply =>
    refine Makes.mono (rest reply) fun more result concluded => ?_
    have succeeded : AllSucceeded [⟨c,.ok reply⟩] := (Relayed.call ⟨c,.ok reply⟩).allSucceeded
    cases concluded with
    | relayed relayed => exact .relayed (relayed.prepend succeeded)
    | dropped relayed owns answer => exact .dropped (relayed.prepend succeeded) owns answer

/-- Wrapping is explained by the calls that look at the object; a proxy that cannot be wrapped is dropped. -/
theorem wrap (b : Bridge) (required : Option String) (p : Proxy) :
    Concludes (fun _ h => p.owns = true ∧ h = p.handle) (b.wrap required p) := by
  refine Makes.bind (Relays.plain (b.plain_inspect p required)) fun calls result relayed => ?_
  cases result with
  | ok found =>
    show Concluded _ (calls ++ []) _
    rw [List.append_nil]
    exact .relayed (.succeeded relayed.allSucceeded _)
  | error e =>
    refine Makes.bind (Makes.drop b p) fun more _ dropped => ?_
    show Concluded _ (calls ++ (more ++ [])) _
    rw [List.append_nil]
    rcases dropped with rfl | ⟨owns,answer,rfl⟩
    · rw [List.append_nil]
      exact .relayed relayed.ofError
    · exact .dropped relayed.ofError ⟨owns,rfl⟩ answer

/-- Creating owns the object once the call to create has succeeded. -/
theorem createAs (b : Bridge) (view : View) (name : String) :
    Concludes (fun calls h => ∃ cls, calls.head? = some ⟨.create cls,.ok h⟩) (b.createAs view name) := by
  refine afterCheck fun cls => afterCall b (.create cls.id) fun h => afterNote ?_
  refine (wrap b view.required (.owning h)).mono fun calls _ owned => ?_
  obtain ⟨-,rfl⟩ := owned
  exact ⟨cls.id,rfl⟩

theorem create (b : Bridge) (view : View) :
    Concludes (fun calls h => ∃ cls, calls.head? = some ⟨.create cls,.ok h⟩) (b.create view) :=
  afterCheck fun name => createAs b view name

/-- Duplicating owns the copy once the call to copy has succeeded. -/
theorem duplicate (b : Bridge) (o : ObjectProxy) (view : View) :
    Concludes (fun calls h => ∃ source, calls.head? = some ⟨.copy source,.ok h⟩) (o.duplicate b view) := by
  refine afterCheck fun source => afterCall b (.copy source) fun copy => afterNote ?_
  refine (wrap b view.required (.owning copy)).mono fun calls _ owned => ?_
  obtain ⟨-,rfl⟩ := owned
  exact ⟨source,rfl⟩

/-- Adopting owns its handle from the start. -/
theorem adopt (b : Bridge) (view : View) (k : Handle) : Concludes (fun _ h => h = k) (b.adopt view k) := by
  by_cases null : k.isNull
  · rw [Bridge.adopt,Handle.nonNull?,if_pos null]
    exact ofRelays (Relays.pure none)
  · rw [Bridge.adopt,Handle.nonNull?,if_neg null]
    refine afterNote (((wrap b view.required (.owning k)).map some).mono ?_)
    exact fun _ _ owned => owned.2

end Concludes

/-! ### All operations -/

/-- One step of an iteration over a list that had `length` elements: an element, or none at the end. -/
def ListProxy.next (b : Bridge) (l : ListProxy) (index length : UInt64) : Action (Option (Option ObjectProxy)) :=
  if index < length then some <$> l.elementAt b index else pure none

namespace ListProxy

variable (b : Bridge) (l : ListProxy)

/-- An iteration goes step by step, past the elements that cannot be read. -/
theorem itemsFrom_eq_next {index length : UInt64} {count : Nat} (left : index.toNat + count = length.toNat) :
    l.itemsFrom b index count = do
      match ← (l.next b index length).run with
      | .ok none => return []
      | .ok (some item) => return .ok item :: (← l.itemsFrom b (index + 1) (count - 1))
      | .error e => return .error e :: (← l.itemsFrom b (index + 1) (count - 1)) := by
  cases count with
  | zero =>
    have ended : ¬index < length := by rw [UInt64.lt_iff_toNat_lt]; omega
    rw [next,if_neg ended]
    rfl
  | succ count =>
    have goesOn : index < length := by rw [UInt64.lt_iff_toNat_lt]; omega
    rw [next,if_pos goesOn,ExceptT.run_map,bind_map_left]
    refine congrArg (Bind.bind _) (funext fun item => ?_)
    cases item <;> rfl

theorem plain_next (index length : UInt64) : Plain (l.next b index length) := by
  by_cases goesOn : index < length
  · rw [next,if_pos goesOn]
    exact (plain_elementAt b l index).map some
  · rw [next,if_neg goesOn]
    exact .pure none

end ListProxy

/-- An operation of proxies, with what it is given. -/
inductive Operation where
  | create (view : View)
  | createAs (view : View) (name : String)
  | wrapBorrowed (view : View) (h : Handle)
  | adopt (view : View) (h : Handle)
  /-- Makes an object proxy of a bare one. -/
  | wrap (required : Option String) (p : Proxy)
  | release (p : Proxy)
  | downcast (o : ObjectProxy) (view : View)
  | duplicate (o : ObjectProxy) (view : View)
  | get (o : ObjectProxy) (f : FeatureId) (resolve : Bool)
  | set (o : ObjectProxy) (f : FeatureId) (v : Value)
  | isSet (o : ObjectProxy) (f : FeatureId)
  | unset (o : ObjectProxy) (f : FeatureId)
  | initialise (o : ObjectProxy)
  | getAs (o : ObjectProxy) (t : HostType) (f : FeatureId)
  | getNamed (o : ObjectProxy) (name : String)
  | setNamed (o : ObjectProxy) (name : String) (v : Value)
  | reference (o : ObjectProxy) (f : FeatureId) (view : View)
  | setReference (o : ObjectProxy) (f : FeatureId) (target : Option ObjectProxy)
  | list (o : ObjectProxy) (f : FeatureId) (view : View)
  | createList (view : View)
  | createListOf (view : View) (name : String)
  | borrowList (view : View) (h : Handle) (elementClass : ClassId)
  | size (l : ListProxy)
  | isEmpty (l : ListProxy)
  | elementAt (l : ListProxy) (index : UInt64)
  | handleAt (l : ListProxy) (index : UInt64)
  | pushBack (l : ListProxy) (element : ObjectProxy)
  | insertAt (l : ListProxy) (position : UInt64) (element : ObjectProxy)
  | insertAll (l other : ListProxy)
  | clear (l : ListProxy)
  | handles (l : ListProxy)
  /-- Does one step of an iteration. -/
  | next (l : ListProxy) (index length : UInt64)

namespace Operation

/-- What an operation answers if it succeeds. -/
abbrev Result : Operation → Type
  | create _ | createAs _ _ | wrap _ _ | downcast _ _ | duplicate _ _ => ObjectProxy
  | wrapBorrowed _ _ | adopt _ _ | reference _ _ _ | elementAt _ _ => Option ObjectProxy
  | get _ _ _ | getNamed _ _ => Value
  | getAs _ t _ => t.Carrier
  | release _ | isSet _ _ | isEmpty _ => Bool
  | list _ _ _ | createList _ | createListOf _ _ | borrowList _ _ _ => ListProxy
  | size _ => UInt64
  | handleAt _ _ => Handle
  | handles _ => List Handle
  | next _ _ _ => Option (Option ObjectProxy)
  | set _ _ _ | unset _ _ | initialise _ | setNamed _ _ _ | setReference _ _ _ | pushBack _ _ | insertAt _ _ _
  | insertAll _ _ | clear _ => Unit

def action (b : Bridge) : (op : Operation) → Action op.Result
  | create view => b.create view
  | createAs view name => b.createAs view name
  | wrapBorrowed view h => b.wrapBorrowed view h
  | adopt view h => b.adopt view h
  | wrap required p => b.wrap required p
  | release p => p.release b
  | downcast o view => o.downcast b view
  | duplicate o view => o.duplicate b view
  | get o f resolve => o.get b f resolve
  | set o f v => o.set b f v
  | isSet o f => o.isSet b f
  | unset o f => o.unset b f
  | initialise o => o.initialise b
  | getAs o t f => o.getAs b t f
  | getNamed o name => o.getNamed b name
  | setNamed o name v => o.setNamed b name v
  | reference o f view => o.reference b f view
  | setReference o f target => o.setReference b f target
  | list o f view => o.list b f view
  | createList view => b.createList view
  | createListOf view name => b.createListOf view name
  | borrowList view h elementClass => b.borrowList view h elementClass
  | size l => l.size b
  | isEmpty l => l.isEmpty b
  | elementAt l index => l.elementAt b index
  | handleAt l index => l.handleAt b index
  | pushBack l element => l.pushBack b element
  | insertAt l position element => l.insertAt b position element
  | insertAll l other => l.insertAll b other
  | clear l => l.clear b
  | handles l => l.handles b
  | next l index length => l.next b index length

/-- Whether an operation owns an object once some calls succeeded, before there is a proxy to hold it. -/
def Owns : Operation → List Answered → Handle → Prop
  | create _ | createAs _ _ => fun calls h => ∃ cls, calls.head? = some ⟨.create cls,.ok h⟩
  | duplicate _ _ => fun calls h => ∃ source, calls.head? = some ⟨.copy source,.ok h⟩
  | adopt _ k => fun _ h => h = k
  | wrap _ p => fun _ h => p.owns = true ∧ h = p.handle
  | _ => fun _ _ => False

/-- Every operation is explained by its calls and the drop of what it came to own. -/
theorem concludes (b : Bridge) (op : Operation) : Concludes op.Owns (op.action b) := by
  cases op with
  | create view => exact Concludes.create b view
  | createAs view name => exact Concludes.createAs b view name
  | adopt view h => exact Concludes.adopt b view h
  | wrap required p => exact Concludes.wrap b required p
  | duplicate o view => exact Concludes.duplicate b o view
  | release p => exact .ofRelays (Relays.release b p)
  | createList view => exact .ofRelays (Relays.createList b view)
  | createListOf view name => exact .ofRelays (Relays.createListOf b view name)
  | wrapBorrowed view h => exact .ofRelays (.plain (b.plain_wrapBorrowed view h))
  | downcast o view => exact .ofRelays (.plain (o.plain_downcast b view))
  | get o f resolve => exact .ofRelays (.plain (o.plain_get b f resolve))
  | set o f v => exact .ofRelays (.plain (o.plain_set b f v))
  | isSet o f => exact .ofRelays (.plain (o.plain_isSet b f))
  | unset o f => exact .ofRelays (.plain (o.plain_unset b f))
  | initialise o => exact .ofRelays (.plain (o.plain_initialise b))
  | getAs o t f => exact .ofRelays (.plain (o.plain_getAs b f t))
  | getNamed o name => exact .ofRelays (.plain (o.plain_getNamed b name))
  | setNamed o name v => exact .ofRelays (.plain (o.plain_setNamed b name v))
  | reference o f view => exact .ofRelays (.plain (o.plain_reference b f view))
  | setReference o f target => exact .ofRelays (.plain (o.plain_setReference b f target))
  | list o f view => exact .ofRelays (.plain (o.plain_list b f view))
  | borrowList view h elementClass => exact .ofRelays (.plain (.lift _))
  | size l => exact .ofRelays (.plain (l.plain_size b))
  | isEmpty l => exact .ofRelays (.plain (l.plain_isEmpty b))
  | elementAt l index => exact .ofRelays (.plain (l.plain_elementAt b index))
  | handleAt l index => exact .ofRelays (.plain (l.plain_handleAt b index))
  | pushBack l element => exact .ofRelays (.plain (l.plain_pushBack b element))
  | insertAt l position element => exact .ofRelays (.plain (l.plain_insertAt b position element))
  | insertAll l other => exact .ofRelays (.plain (l.plain_insertAll b other))
  | clear l => exact .ofRelays (.plain (l.plain_clear b))
  | handles l => exact .ofRelays (.plain (l.plain_handles b))
  | next l index length => exact .ofRelays (.plain (l.plain_next b index length))

/-- In every operation, whatever is answered to its calls: if it succeeds, then so did every call that it made. A call
that fails is the last one of its work, and the result of the operation is the error of that call. Only one call may
come after the work of an operation that failed: it destroys the object that the operation owned and could not wrap,
and whatever is answered to it leaves the result as it is. -/
theorem errors_reach_caller (b : Bridge) (op : Operation) (respond : (e : Effect) → StateM σ e.Answer) (native : σ) :
    let (result,_,transcript) := (op.action b).run.run (Script.transcribing respond) (native,[])
    ∃ work dropped, callsOf transcript = work ++ dropped ∧ Explained op.Owns work dropped result := by
  obtain ⟨transcript,after,concluded⟩ := Script.Ensures.run (op.concludes b) respond native []
  obtain ⟨work,dropped,split,explained⟩ := concluded.explained
  refine ⟨work,dropped,?_,explained⟩
  rw [after]
  exact split

/-- A handle that cannot be wrapped is destroyed after the call that was refused. -/
example :
    let refusing : (e : Effect) → StateM Unit e.Answer
      | .call _ => pure (.error .nullHandle)
      | .note _ => pure ()
    let adopted := ((adopt .reflective ⟨7⟩).action ⟨⟨"forest","urn:forest",[]⟩,{}⟩).run
    (callsOf (adopted.run (Script.transcribing refusing) ((),[])).2.2).map Answered.call =
      [.upcast ⟨7⟩,.destroy ⟨7⟩] := by decide

end Operation

end HandleBridge
