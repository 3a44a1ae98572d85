import HandleBridge.Proofs.PlainCode

/-!
Careful code: work that passes no null handle to a boundary call, as long as the native side answers no null handle
where it makes or converts something. All work of proxies and sessions is careful. A proxy refuses to work without a
handle, and an object proxy keeps the handle that it got from the native side when it was made.
-/

namespace HandleBridge

namespace Call

/-- Handles among the arguments of a call. What a value refers to that is written is none of them. -/
def arguments {V : Type} : Call V → List Handle
  | create _ | createList _ => []
  | destroy h | upcast h | initialise h | copy h | classOf h | get h _ _ | set h _ _ | isSet h _ | unset h _
  | listSize h | listAt h _ | clear h => [h]
  | pushBack h k | insertAt h _ k | insertAll h k => [h,k]

/-- Whether no argument of a call is null. -/
def NullFree {V : Type} (c : Call V) : Prop := ∀ h ∈ c.arguments, h.isNull = false

instance {V : Type} (c : Call V) : Decidable c.NullFree :=
  inferInstanceAs (Decidable (∀ h ∈ c.arguments, h.isNull = false))

theorem nullFree_one {V : Type} {c : Call V} {h : Handle} (only : c.arguments = [h]) (notNull : h.isNull = false) :
    c.NullFree := by
  intro k member
  rw [only,List.mem_singleton] at member
  exact member ▸ notNull

theorem nullFree_two {V : Type} {c : Call V} {h k : Handle} (both : c.arguments = [h,k]) (first : h.isNull = false)
    (second : k.isNull = false) : c.NullFree := by
  intro other member
  simp only [both,List.mem_cons,List.not_mem_nil,or_false] at member
  rcases member with rfl | rfl
  · exact first
  · exact second

/-- Whether a reply is not null if it is the handle of something that the call made or converted. -/
def Gives : (c : Call Value) → c.Reply → Prop
  | .create _,h | .createList _,h | .upcast _,h | .copy _,h => h.isNull = false
  | _,_ => True

end Call

namespace Effect

/-- Whether an effect passes no null handle. -/
def NullFree : Effect → Prop
  | call c => c.NullFree
  | note _ => True

/-- Whether an answer is one to count with. -/
def Gives : (e : Effect) → e.Answer → Prop
  | call c,.ok reply => c.Gives reply
  | _,_ => True

end Effect

/-- Whether a routine passes no null handle and ends with a result of a given sort. -/
def Routine.Careful {α : Type} (r : Routine α) (post : α → Prop) : Prop :=
  match r with
  | Script.done a => post a
  | Script.ask e next => e.NullFree ∧ ∀ answer, e.Gives answer → Routine.Careful (next answer) post

namespace Routine.Careful

variable {α β : Type} {post : α → Prop} {last : β → Prop}

theorem pure {a : α} (holds : post a) : Routine.Careful (Pure.pure a) post := holds

/-- Careful work followed by work that is careful with what came of it is careful. -/
theorem bind {r : Routine α} {f : α → Routine β} (first : Routine.Careful r post)
    (rest : ∀ a, post a → Routine.Careful (f a) last) : Routine.Careful (r >>= f) last := by
  induction r with
  | done a => exact rest a first
  | ask e next ih => exact ⟨first.1,fun answer gives => ih answer (first.2 answer gives)⟩

theorem mono {r : Routine α} {weaker : α → Prop} (careful : Routine.Careful r post) (weaken : ∀ a, post a → weaker a) :
    Routine.Careful r weaker := by
  induction r with
  | done a => exact weaken a careful
  | ask e next ih => exact ⟨careful.1,fun answer gives => ih answer (careful.2 answer gives)⟩

theorem note (e : Event) : Routine.Careful (Routine.note e) fun _ => True := ⟨trivial,fun _ _ => trivial⟩

theorem ask {c : Call Value} (nullFree : c.NullFree) :
    Routine.Careful (Routine.ask c) fun answer => ∀ reply, answer = .ok reply → c.Gives reply := by
  refine ⟨nullFree,fun answer gives => ?_⟩
  rintro reply rfl
  exact gives

/-- What a responder keeps while it answers calls without null handles, it keeps while it answers a careful routine. -/
theorem run {σ : Type} (Inv : σ → Prop) {respond : (e : Effect) → StateM σ e.Answer} {r : Routine α} {s : σ}
    (keeps : ∀ s e, e.NullFree → Inv s → e.Gives (respond e s).1 ∧ Inv (respond e s).2)
    (careful : Routine.Careful r post) (inv : Inv s) : post (r.run respond s).1 ∧ Inv (r.run respond s).2 := by
  induction r generalizing s with
  | done a => exact ⟨careful,inv⟩
  | ask e next ih =>
    obtain ⟨gives,inv⟩ := keeps s e careful.1 inv
    exact ih _ (careful.2 _ gives) inv

end Routine.Careful

/-- Whether an action passes no null handle and succeeds with results of a given sort only. -/
def Careful {α : Type} (x : Action α) (post : α → Prop) : Prop :=
  Routine.Careful x.run fun result => ∀ a, result = .ok a → post a

namespace Careful

variable {α β : Type} {post : α → Prop} {last : β → Prop}

theorem pure {a : α} (holds : post a) : Careful (Pure.pure a) post := by
  rintro _ ⟨⟩
  exact holds

theorem throw (e : Error) : Careful (throw e : Action α) post := nofun

theorem bind {x : Action α} {f : α → Action β} (first : Careful x post)
    (rest : ∀ a, post a → Careful (f a) last) : Careful (x >>= f) last := by
  refine Routine.Careful.bind first fun result holds => ?_
  cases result with
  | ok a => exact rest a (holds a rfl)
  | error e => exact (nofun : ∀ b, Except.error e = Except.ok b → last b)

theorem mono {x : Action α} {weaker : α → Prop} (careful : Careful x post) (weaken : ∀ a, post a → weaker a) :
    Careful x weaker :=
  Routine.Careful.mono careful fun _ holds a same => weaken a (holds a same)

theorem map {x : Action α} {f : α → β} (careful : Careful x post) (holds : ∀ a, post a → last (f a)) :
    Careful (f <$> x) last := by
  rw [map_eq_pure_bind]
  exact careful.bind fun a ofA => .pure (holds a ofA)

theorem lift {x : Except Error α} (holds : ∀ a, x = .ok a → post a) : Careful (liftM x : Action α) post := by
  cases x with
  | ok a => exact pure (holds a rfl)
  | error e => exact throw e

theorem routine {r : Routine α} (careful : Routine.Careful r post) : Careful (liftM r : Action α) post :=
  Routine.Careful.bind careful fun _ holds => pure holds

theorem note (e : Event) : Careful (liftM (Routine.note e) : Action Unit) fun _ => True :=
  routine (.note e)

theorem any (x : Except Error α) : Careful (liftM x : Action α) fun _ => True := lift fun _ _ => trivial

/-- A call without null handles is careful, and what it replies is as good as the call says. -/
theorem call (b : Bridge) {c : Call Value} {post : c.Reply → Prop} (nullFree : c.NullFree)
    (holds : ∀ reply, c.Gives reply → post reply) : Careful (b.call c) post := by
  have announced : Routine.Careful (b.announce c) fun _ => True := by
    unfold Bridge.announce
    split
    · exact .note _
    · exact trivial
  have reported (answer : Except Error c.Reply) : Routine.Careful (Bridge.reportFailure c answer) fun _ => True := by
    cases answer with
    | ok => exact trivial
    | error e => exact .note _
  unfold Careful
  rw [Bridge.call_run]
  exact announced.bind fun _ _ => .bind (.ask nullFree) fun answer gives => (reported answer).bind fun _ _ =>
    fun reply same => holds reply (gives reply same)

theorem one (b : Bridge) {c : Call Value} {h : Handle} {post : c.Reply → Prop} (only : c.arguments = [h])
    (notNull : h.isNull = false) (holds : ∀ reply, c.Gives reply → post reply) : Careful (b.call c) post :=
  call b (Call.nullFree_one only notNull) holds

theorem two (b : Bridge) {c : Call Value} {h k : Handle} {post : c.Reply → Prop} (both : c.arguments = [h,k])
    (first : h.isNull = false) (second : k.isNull = false) (holds : ∀ reply, c.Gives reply → post reply) :
    Careful (b.call c) post :=
  call b (Call.nullFree_two both first second) holds

theorem check {p : Prop} [Decidable p] {e : Error} {rest : PUnit → Action α}
    (careful : Careful (rest ⟨⟩) post) :
    Careful (if p then rest ⟨⟩ else MonadExcept.throw e >>= rest) post := by
  split
  · exact careful
  · exact nofun

theorem refuse {p : Prop} [Decidable p] {e : Error} {rest : PUnit → Action α}
    (careful : Careful (rest ⟨⟩) post) :
    Careful (if p then MonadExcept.throw e >>= rest else rest ⟨⟩) post := by
  split
  · exact nofun
  · exact careful

theorem mapM {f : α → Action β} (each : ∀ a, Careful (f a) fun _ => True) (as : List α) :
    Careful (as.mapM f) fun _ => True := by
  induction as with
  | nil =>
    rw [List.mapM_nil]
    exact .pure trivial
  | cons a as ih =>
    rw [List.mapM_cons]
    exact (each a).bind fun _ _ => ih.bind fun _ _ => .pure trivial

end Careful

/-! ### Proxies -/

theorem Proxy.isNull_of_live {p : Proxy} {h : Handle} (live : p.live = .ok h) : h.isNull = false := by
  unfold Proxy.live at live
  split at live
  · cases live
  · split at live
    · cases live
    · rename_i notNull
      cases live
      exact Bool.not_eq_true _ ▸ notNull

section Proxies

variable (b : Bridge)

/-- A live proxy has a handle that is not null. -/
theorem Proxy.careful_live (p : Proxy) : Careful (liftM p.live : Action Handle) (·.isNull = false) :=
  .lift fun _ live => isNull_of_live live

/-- A proxy destroys only what its own handle refers to, which is not null. -/
theorem Proxy.careful_release (p : Proxy) : Careful (p.release b) fun _ => True := by
  cases owns : p.owns with
  | false =>
    rw [p.release_of_not_owns b owns]
    exact .pure trivial
  | true =>
    rw [p.release_of_owns b owns]
    have notNull : p.handle.isNull = false := by
      rw [Proxy.owns,Bool.and_eq_true,Bool.not_eq_true'] at owns
      exact owns.1
    exact (Careful.note _).bind fun _ _ => .bind (.one b rfl notNull fun _ given => given) fun _ _ => .pure trivial

theorem Proxy.careful_drop (p : Proxy) : Routine.Careful (p.drop b) fun _ => True := by
  refine Routine.Careful.bind (p.careful_release b) fun result _ => ?_
  cases result with
  | ok => exact trivial
  | error e => exact .note _

/-- Whether the base handle of an object proxy is there. -/
def ObjectProxy.Based (o : ObjectProxy) : Prop := o.base.isNull = false

namespace Bridge

theorem careful_inspect (p : Proxy) (required : Option String) :
    Careful (b.inspect p required) (·.1.isNull = false) := by
  refine p.careful_live.bind fun h live => .bind (.one b rfl live fun _ given => given) fun base given =>
    .bind (.one b rfl given fun _ given => given) fun cls _ => (Careful.any _).bind fun cls _ => ?_
  cases required with
  | none => exact .pure given
  | some name => exact (Careful.any _).bind fun expected _ => .check (.pure given)

/-- An object proxy that was wrapped has a base handle. -/
theorem careful_wrap (required : Option String) (p : Proxy) : Careful (b.wrap required p) ObjectProxy.Based := by
  refine Routine.Careful.bind (b.careful_inspect p required) fun result found => ?_
  cases result with
  | ok seen =>
    rintro o ⟨⟩
    exact found seen rfl
  | error e =>
    refine (p.careful_drop b).bind fun _ _ => ?_
    rintro o ⟨⟩

theorem careful_createAs (view : View) (name : String) : Careful (b.createAs view name) ObjectProxy.Based :=
  (Careful.any _).bind fun _ _ => .bind (.call b nofun fun _ given => given) fun h _ =>
    (Careful.note _).bind fun _ _ => b.careful_wrap view.required (.owning h)

theorem careful_create (view : View) : Careful (b.create view) ObjectProxy.Based :=
  (Careful.any _).bind fun name _ => b.careful_createAs view name

/-- Null makes no object proxy, so every one that is made has a base handle. -/
theorem careful_wrapBorrowed (view : View) (h : Handle) :
    Careful (b.wrapBorrowed view h) fun found => ∀ o ∈ found, o.Based := by
  unfold wrapBorrowed
  split
  · refine (b.careful_wrap _ _).map fun o based => ?_
    rintro _ ⟨⟩
    exact based
  · exact .pure nofun

theorem careful_adopt (view : View) (h : Handle) :
    Careful (b.adopt view h) fun found => ∀ o ∈ found, o.Based := by
  unfold adopt
  split
  · rename_i k _
    have adopted : Routine.Careful (Proxy.adopt k) fun _ => True :=
      Routine.Careful.bind (.note _) fun _ _ => .pure trivial
    refine (Careful.routine adopted).bind fun p _ => (b.careful_wrap _ p).map fun o based => ?_
    rintro _ ⟨⟩
    exact based
  · exact .pure nofun

end Bridge

namespace ObjectProxy

variable {o : ObjectProxy} (based : o.Based) (f : FeatureId)
include based

/-- The base handle that a reflective call is made on is not null. -/
theorem careful_liveBase : Careful (liftM o.liveBase : Action Handle) (·.isNull = false) := by
  refine .lift fun h live => ?_
  unfold liveBase at live
  cases held : o.proxy.live with
  | ok k =>
    rw [held] at live
    cases live
    exact based
  | error e =>
    rw [held] at live
    cases live

theorem careful_get (resolve : Bool) : Careful (o.get b f resolve) fun _ => True :=
  (Careful.any _).bind fun _ _ => (careful_liveBase based).bind fun _ live =>
    .one b rfl live fun _ _ => trivial

theorem careful_set (v : Value) : Careful (o.set b f v) fun _ => True :=
  (Careful.any _).bind fun _ _ => .refuse <| (careful_liveBase based).bind fun _ live =>
    .one b rfl live fun _ _ => trivial

theorem careful_isSet : Careful (o.isSet b f) fun _ => True :=
  (Careful.any _).bind fun _ _ => (careful_liveBase based).bind fun _ live =>
    .one b rfl live fun _ _ => trivial

theorem careful_unset : Careful (o.unset b f) fun _ => True :=
  (Careful.any _).bind fun _ _ => (careful_liveBase based).bind fun _ live =>
    .one b rfl live fun _ _ => trivial

theorem careful_initialise : Careful (o.initialise b) fun _ => True :=
  (careful_liveBase based).bind fun _ live =>
    .one b rfl live fun _ _ => trivial

theorem careful_getAs (t : HostType) : Careful (o.getAs b t f) fun _ => True :=
  (careful_get b based f false).bind fun _ _ => .any _

theorem careful_getNamed (name : String) : Careful (o.getNamed b name) fun _ => True :=
  (Careful.any _).bind fun f _ => careful_get b based f false

theorem careful_setNamed (name : String) (v : Value) : Careful (o.setNamed b name v) fun _ => True :=
  (Careful.any _).bind fun f _ => careful_set b based f v

/-- A reference is set to the handle of a live proxy, or to null as a value, which is no argument. -/
theorem careful_setReference (target : Option ObjectProxy) : Careful (o.setReference b f target) fun _ => True := by
  cases target with
  | none => exact careful_set b based f .null
  | some target => exact (target.proxy.careful_live).bind fun h _ => careful_set b based f (.object h)

theorem careful_snapshot : Careful (o.snapshot b) fun _ => True := by
  refine Careful.mapM (fun feature => ?_) _
  exact (careful_isSet b based feature.id).bind fun _ _ => (careful_get b based feature.id false).bind fun _ _ =>
    .pure trivial

/-- A reference to null is answered without a call on null. -/
theorem careful_reference (view : View) : Careful (o.reference b f view) fun _ => True := by
  refine (careful_get b based f true).bind fun v _ => ?_
  split
  · exact .pure trivial
  · exact (b.careful_wrapBorrowed view _).mono fun _ _ => trivial
  · exact .throw _

theorem careful_list (view : View) : Careful (o.list b f view) fun _ => True := by
  refine (Careful.any _).bind fun feature _ => ?_
  split
  · refine (Careful.any _).bind fun cls _ => (careful_get b based f false).bind fun v _ => ?_
    split
    · split
      · exact .throw _
      · exact .any _
    · exact .throw _
  · exact .throw _

omit based

theorem careful_downcast (o : ObjectProxy) (view : View) : Careful (o.downcast b view) Based :=
  o.proxy.careful_live.bind fun _ _ => b.careful_wrap _ _

theorem careful_duplicate (o : ObjectProxy) (view : View) : Careful (o.duplicate b view) Based :=
  o.proxy.careful_live.bind fun _ live => .bind (.one b rfl live fun _ given => given) fun _ _ =>
    (Careful.note _).bind fun _ _ => b.careful_wrap _ _

end ObjectProxy

namespace Bridge

theorem careful_createListOf (view : View) (name : String) : Careful (b.createListOf view name) fun _ => True :=
  (Careful.any _).bind fun _ _ => (Careful.any _).bind fun _ _ =>
    .bind (.call b nofun fun _ given => given) fun _ _ => (Careful.note _).bind fun _ _ => .pure trivial

theorem careful_createList (view : View) : Careful (b.createList view) fun _ => True :=
  (Careful.any _).bind fun name _ => b.careful_createListOf view name

end Bridge

namespace ListProxy

variable (l : ListProxy)

theorem careful_size : Careful (l.size b) fun _ => True :=
  l.proxy.careful_live.bind fun _ live => .one b rfl live fun _ _ => trivial

theorem careful_isEmpty : Careful (l.isEmpty b) fun _ => True := (l.careful_size b).bind fun _ _ => .pure trivial

theorem careful_handleAt (i : UInt64) : Careful (l.handleAt b i) fun _ => True :=
  l.proxy.careful_live.bind fun _ live => (l.careful_size b).bind fun _ _ =>
    .check (.one b rfl live fun _ _ => trivial)

theorem careful_elementAt (i : UInt64) : Careful (l.elementAt b i) fun _ => True :=
  (l.careful_handleAt b i).bind fun h _ => (b.careful_wrapBorrowed l.element h).mono fun _ _ => trivial

/-- An element is put into a list only when its proxy is live. -/
theorem careful_checkedElement (element : ObjectProxy) : Careful (l.checkedElement b element) (·.isNull = false) := by
  refine element.proxy.careful_live.bind fun h live => ?_
  dsimp only
  split
  · exact .bind (.one b rfl live fun _ given => given) fun cls _ => .check (.pure live)
  · exact .pure live

theorem careful_pushBack (element : ObjectProxy) : Careful (l.pushBack b element) fun _ => True :=
  l.proxy.careful_live.bind fun _ live => (l.careful_checkedElement b element).bind fun _ given =>
    .two b rfl live given fun _ _ => trivial

theorem careful_insertAt (i : UInt64) (element : ObjectProxy) : Careful (l.insertAt b i element) fun _ => True :=
  l.proxy.careful_live.bind fun _ live => (l.careful_size b).bind fun _ _ =>
    .refuse <| (l.careful_checkedElement b element).bind fun _ given =>
      .two b rfl live given fun _ _ => trivial

theorem careful_insertAll (other : ListProxy) : Careful (l.insertAll b other) fun _ => True :=
  l.proxy.careful_live.bind fun _ live => other.proxy.careful_live.bind fun _ given =>
    .refuse (.two b rfl live given fun _ _ => trivial)

theorem careful_clear : Careful (l.clear b) fun _ => True :=
  l.proxy.careful_live.bind fun _ live => .one b rfl live fun _ _ => trivial

theorem careful_handlesFrom (i : UInt64) (count : Nat) : Careful (l.handlesFrom b i count) fun _ => True := by
  induction count generalizing i with
  | zero => exact .pure trivial
  | succ count ih =>
    exact (l.careful_handleAt b i).bind fun _ _ => (ih (i + 1)).bind fun _ _ => .pure trivial

theorem careful_handles : Careful (l.handles b) fun _ => True :=
  (l.careful_size b).bind fun n _ => l.careful_handlesFrom b 0 n.toNat

/-- An iteration passes no null handle, even where elements are null. -/
theorem careful_itemsFrom (i : UInt64) (count : Nat) :
    Routine.Careful (l.itemsFrom b i count) fun _ => True := by
  induction count generalizing i with
  | zero => exact trivial
  | succ count ih =>
    exact Routine.Careful.bind (l.careful_elementAt b i) fun _ _ => (ih (i + 1)).bind fun _ _ => trivial

theorem careful_iterate : Careful (l.iterate b) fun _ => True :=
  (l.careful_size b).bind fun n _ => (Careful.routine (l.careful_itemsFrom b 0 n.toNat)).bind fun _ _ => .pure trivial

theorem careful_iterateClearing : Careful (l.iterateClearing b) fun _ => True := by
  refine (l.careful_size b).bind fun n _ => ?_
  cases n.toNat with
  | zero => exact .pure trivial
  | succ count =>
    have first : Routine.Careful (l.elementAt b 0).run fun _ => True :=
      Routine.Careful.mono (l.careful_elementAt b 0) fun _ _ => trivial
    exact (Careful.routine first).bind fun _ _ => (l.careful_clear b).bind fun _ _ =>
      (Careful.routine (l.careful_itemsFrom b 1 count)).bind fun _ _ => .pure trivial

end ListProxy

end Proxies

/-! ### Sessions -/

namespace Session

/-- Whether the base handle is there, if an object proxy is held. -/
def Held.Based : Held → Prop
  | object o _ => o.Based
  | _ => True

theorem Held.Based.withProxy {held : Held} (based : held.Based) (p : Proxy) : (held.withProxy p).Based := by
  cases held <;> exact based

/-- Whether the base handles of all object proxies that a session holds are there. -/
def State.Based (s : State) : Prop := ∀ entry ∈ s.proxies, entry.2.Based

/-- Whether work on a session passes no null handle, keeps the base handles and comes to values of a given sort. -/
def Stage.Careful {α : Type} (x : Stage α) (post : α → Prop) : Prop :=
  ∀ s : State, s.Based → Routine.Careful (x.run.run s) fun (result,u) => u.Based ∧ ∀ a, result = .ok a → post a

namespace Stage.Careful

variable {α β : Type} {post : α → Prop} {last : β → Prop}

theorem pure {a : α} (holds : post a) : Stage.Careful (Pure.pure a) post := by
  intro s based
  refine ⟨based,?_⟩
  rintro _ ⟨⟩
  exact holds

theorem stop (reason : Stop) : Stage.Careful (throw reason : Stage α) post := by
  intro s based
  exact ⟨based,nofun⟩

/-- Work on a session in two parts keeps the base handles if both parts do. -/
theorem bind {x : Stage α} {f : α → Stage β} (first : Stage.Careful x post)
    (rest : ∀ a, post a → Stage.Careful (f a) last) : Stage.Careful (x >>= f) last := by
  intro s based
  rw [Stage.run_bind]
  refine (first s based).bind ?_
  rintro ⟨result,u⟩ ⟨kept,holds⟩
  cases result with
  | ok a => exact rest a (holds a rfl) u kept
  | error reason =>
    refine ⟨kept,?_⟩
    rintro _ ⟨⟩

theorem map {x : Stage α} (f : α → β) (careful : Stage.Careful x post) : Stage.Careful (f <$> x) fun _ => True := by
  rw [map_eq_pure_bind]
  exact careful.bind fun _ _ => pure trivial

theorem act {x : Action α} (careful : HandleBridge.Careful x post) : Stage.Careful (Stage.act x) post := by
  intro s based
  rw [Stage.run_act]
  refine Routine.Careful.bind careful fun result holds => ⟨based,?_⟩
  cases result with
  | ok a =>
    rintro _ ⟨⟩
    exact holds a rfl
  | error e => rintro _ ⟨⟩

theorem always {r : Routine α} (careful : Routine.Careful r post) : Stage.Careful (Stage.always r) post := by
  intro s based
  rw [Stage.run_always]
  refine careful.bind fun a holds => ⟨based,?_⟩
  rintro _ ⟨⟩
  exact holds

theorem state : Stage.Careful (get : Stage State) State.Based := by
  intro s based
  refine ⟨based,?_⟩
  rintro _ ⟨⟩
  exact based

theorem modify {f : State → State} (keeps : ∀ s, s.Based → (f s).Based) :
    Stage.Careful (modify f : Stage Unit) fun _ => True :=
  fun s based => ⟨keeps s based,fun _ _ => trivial⟩

theorem need {x : Option α} (holds : ∀ a ∈ x, post a) : Stage.Careful (Stage.need x) post := by
  cases x with
  | none => exact stop .misuse
  | some a => exact pure (holds a rfl)

theorem find (name : String) : Stage.Careful (Stage.find name) Held.Based := by
  refine state.bind fun s based => need fun held found => ?_
  obtain ⟨key,member⟩ : ∃ key, (key,held) ∈ s.proxies := by
    obtain ⟨before,after,split,-⟩ := List.lookup_eq_some_iff.mp found
    exact ⟨name,by simp [split]⟩
  exact based _ member

theorem object (name : String) : Stage.Careful (Stage.object name) ObjectProxy.Based := by
  refine (find name).bind fun held based => ?_
  split
  · exact pure based
  · exact stop _

theorem viewed (name : String) : Stage.Careful (Stage.viewed name) (·.1.Based) := by
  refine (find name).bind fun held based => ?_
  split
  · exact pure based
  · exact stop _

theorem list (name : String) : Stage.Careful (Stage.list name) fun _ => True := by
  refine (find name).bind fun held _ => ?_
  split
  · exact pure trivial
  · exact stop _

theorem resolve (h : HandleRef) : Stage.Careful (Stage.resolve h) fun _ => True := by
  cases h with
  | literal h => exact pure trivial
  | held name => exact (find name).bind fun _ _ => pure trivial
  | saved name => exact state.bind fun _ _ => need fun _ _ => trivial

theorem evaluate (v : Operand) : Stage.Careful (Stage.evaluate v) fun _ => True := by
  cases v with
  | value v => exact pure trivial
  | object h => exact (resolve h).bind fun _ _ => pure trivial
  | list h => exact (resolve h).bind fun _ _ => pure trivial
  | reference h => exact (resolve h).bind fun _ _ => pure trivial

theorem forget (name : String) : Stage.Careful (Stage.forget name) fun _ => True :=
  modify fun _ based entry member => based entry (List.mem_filter.mp member).1

/-- Another proxy in the place of one keeps the base handles if it has its own. -/
theorem update (name : String) (held : Held) (based : held.Based) :
    Stage.Careful (Stage.update name held) fun _ => True := by
  refine (forget name).bind fun _ _ => modify fun s kept entry member => ?_
  rcases List.mem_cons.mp member with rfl | old
  · exact based
  · exact kept entry old

/-- So does a proxy that is put under a name, where the one that stood there is dropped. -/
theorem keep (b : Bridge) (name : String) (held : Held) (based : held.Based) :
    Stage.Careful (Stage.keep b name held) fun _ => True := by
  refine state.bind fun s _ => ?_
  have kept := update name held based
  dsimp only
  split
  · exact (always (Proxy.careful_drop b _)).bind fun _ _ => kept
  · exact kept

theorem takeBare (name : String) : Stage.Careful (Stage.takeBare name) fun _ => True := by
  refine (find name).bind fun held _ => ?_
  split
  · exact (forget name).bind fun _ _ => pure trivial
  · exact stop _

end Stage.Careful

variable (b : Bridge)

theorem careful_doing {work : Action Unit} (careful : HandleBridge.Careful work fun _ => True) :
    Stage.Careful (Step.doing work) fun _ => True :=
  .act (careful.bind fun _ _ => .pure trivial)

theorem careful_inserting (l : ListProxy) {insertion : Action Unit}
    (careful : HandleBridge.Careful insertion fun _ => True) :
    Stage.Careful (ListStep.inserting b l insertion) fun _ => True :=
  .act (careful.bind fun _ _ => (l.careful_size b).bind fun _ _ => .pure trivial)

/-- Every operation on a list passes no null handle. -/
theorem ListStep.careful_perform (l : ListProxy) (step : ListStep) :
    Stage.Careful (step.perform b l) fun _ => True := by
  cases step with
  | size => exact .act ((l.careful_size b).bind fun _ _ => .pure trivial)
  | isEmpty => exact .act ((l.careful_isEmpty b).map fun _ _ => trivial)
  | element i => exact .act ((l.careful_elementAt b i).map fun _ _ => trivial)
  | handle i => exact .act ((l.careful_handleAt b i).map fun _ _ => trivial)
  | pushBack name => exact (Stage.Careful.object name).bind fun o _ => careful_inserting b l (l.careful_pushBack b o)
  | insertAt i name => exact (Stage.Careful.object name).bind fun o _ => careful_inserting b l (l.careful_insertAt b i o)
  | insertAll name => exact (Stage.Careful.list name).bind fun k _ => careful_inserting b l (l.careful_insertAll b k)
  | clear => exact .act ((l.careful_clear b).bind fun _ _ => .pure trivial)
  | handles => exact .act ((l.careful_handles b).map fun _ _ => trivial)
  | iterate => exact .act ((l.careful_iterate b).bind fun _ _ => .pure trivial)
  | iterateClearing => exact .act ((l.careful_iterateClearing b).map fun _ _ => trivial)
  | info => exact .pure trivial

theorem careful_keepObject (view : TypedView) (as : String) {making : Action ObjectProxy}
    (careful : HandleBridge.Careful making ObjectProxy.Based) :
    Stage.Careful (Step.keepObject b view as making) fun _ => True :=
  (Stage.Careful.act careful).bind fun o based =>
    (Stage.Careful.keep b as (.object o view) based).bind fun _ _ => .pure trivial

theorem careful_keepObject? (view : TypedView) (as : String) {making : Action (Option ObjectProxy)}
    (careful : HandleBridge.Careful making fun found => ∀ o ∈ found, o.Based) :
    Stage.Careful (Step.keepObject? b view as making) fun _ => True := by
  refine (Stage.Careful.act careful).bind fun found based => ?_
  cases found with
  | some o => exact (Stage.Careful.keep b as (.object o view) (based o rfl)).bind fun _ _ => .pure trivial
  | none => exact .pure trivial

theorem careful_keepList (as : String) {making : Action ListProxy}
    (careful : HandleBridge.Careful making fun _ => True) :
    Stage.Careful (Step.keepList b as making) fun _ => True :=
  (Stage.Careful.act careful).bind fun l _ =>
    (Stage.Careful.keep b as (.list l) trivial).bind fun _ _ => .pure trivial

theorem careful_keepBare (as : String) (p : Proxy) :
    Stage.Careful (do
      Stage.keep b as (.bare p)
      return Result.nothing) fun _ => True :=
  (Stage.Careful.keep b as (.bare p) trivial).bind fun _ _ => .pure trivial

/-- A downcast passes none either, nor does what is done with the object that it gives. -/
theorem careful_downcastObject (o : ObjectProxy) (view : TypedView) (use : Option Use) :
    Stage.Careful (Step.downcastObject b o view use) fun _ => True := by
  refine (Stage.Careful.act (o.careful_downcast b view.toView)).bind fun seen based => ?_
  cases use with
  | none => exact .pure trivial
  | some use =>
    have read := (Stage.Careful.act (ObjectProxy.careful_get b based use.feature true)).bind fun v _ =>
      (Stage.Careful.pure trivial : Stage.Careful (Pure.pure (Result.downcast seen (some v))) fun _ => True)
    dsimp only
    split
    · exact (Stage.Careful.evaluate _).bind fun v _ =>
        (Stage.Careful.act (ObjectProxy.careful_set b based use.feature v)).bind fun _ _ => read
    · exact read

/-- Every step passes no null handle and keeps the base handles, unless it makes a boundary call of its own. -/
theorem Step.careful_perform (step : Step) (native : step.isNative = false) :
    Stage.Careful (step.perform b) fun _ => True := by
  cases step with
  | create view as => exact careful_keepObject b view as (b.careful_create _)
  | createAs view cls as => exact careful_keepObject b view as (b.careful_createAs _ cls)
  | wrap h view as =>
    exact (Stage.Careful.resolve h).bind fun k _ => careful_keepObject? b view as (b.careful_wrapBorrowed _ k)
  | adopt h view as =>
    exact (Stage.Careful.resolve h).bind fun k _ => careful_keepObject? b view as (b.careful_adopt _ k)
  | borrowBare h as => exact (Stage.Careful.resolve h).bind fun k _ => careful_keepBare b as (.borrowing k)
  | adoptBare h as =>
    refine (Stage.Careful.resolve h).bind fun k _ => ?_
    have adopted : Routine.Careful (Proxy.adopt k) fun _ => True := Routine.Careful.bind (.note _) fun _ _ => trivial
    exact (Stage.Careful.always adopted).bind fun p _ => careful_keepBare b as p
  | fromBare name view as =>
    exact (Stage.Careful.takeBare name).bind fun p _ => careful_keepObject b view as (b.careful_wrap _ p)
  | fromBareOf name cls as =>
    exact (Stage.Careful.takeBare name).bind fun p _ => careful_keepObject b .reflective as (b.careful_wrap _ p)
  | toBare name as =>
    exact (Stage.Careful.object name).bind fun o _ => (Stage.Careful.forget name).bind fun _ _ =>
      careful_keepBare b as o.proxy
  | toHandle name => exact (Stage.Careful.takeBare name).bind fun _ _ => .pure trivial
  | info name => exact (Stage.Careful.find name).bind fun _ _ => .pure trivial
  | release name =>
    exact (Stage.Careful.find name).bind fun held based =>
      (Stage.Careful.update name _ (based.withProxy .retired)).bind fun _ _ =>
        .act ((held.proxy.careful_release b).map fun _ _ => trivial)
  | drop name =>
    exact (Stage.Careful.find name).bind fun held _ => (Stage.Careful.forget name).bind fun _ _ =>
      (Stage.Careful.always (held.proxy.careful_drop b)).bind fun _ _ => .pure trivial
  | handle h => exact (Stage.Careful.resolve h).map _
  | bridge => exact .pure trivial
  | get name f resolve =>
    exact (Stage.Careful.object name).bind fun o based => .act ((o.careful_get b based f resolve).map fun _ _ => trivial)
  | set name f v =>
    exact (Stage.Careful.object name).bind fun o based => (Stage.Careful.evaluate v).bind fun v _ =>
      careful_doing (o.careful_set b based f v)
  | isSet name f =>
    exact (Stage.Careful.object name).bind fun o based => .act ((o.careful_isSet b based f).map fun _ _ => trivial)
  | unset name f =>
    exact (Stage.Careful.object name).bind fun o based => careful_doing (o.careful_unset b based f)
  | initialise name =>
    exact (Stage.Careful.object name).bind fun o based => careful_doing (o.careful_initialise b based)
  | getAs name f t =>
    exact (Stage.Careful.object name).bind fun o based => .act ((o.careful_getAs b based f t).map fun _ _ => trivial)
  | getNamed name f =>
    exact (Stage.Careful.object name).bind fun o based => .act ((o.careful_getNamed b based f).map fun _ _ => trivial)
  | setNamed name f v =>
    exact (Stage.Careful.object name).bind fun o based => (Stage.Careful.evaluate v).bind fun v _ =>
      careful_doing (o.careful_setNamed b based f v)
  | classType name => exact (Stage.Careful.object name).bind fun _ _ => .pure trivial
  | feature name f =>
    exact (Stage.Careful.object name).bind fun o _ => .act ((Careful.any _).bind fun _ _ => .pure trivial)
  | snapshot name =>
    exact (Stage.Careful.object name).bind fun o based => .act ((o.careful_snapshot b based).map fun _ _ => trivial)
  | reference name f view =>
    refine (Stage.Careful.object name).bind fun o based =>
      (Stage.Careful.act (o.careful_reference b based f view.toView)).bind fun found _ => ?_
    cases found <;> exact .pure trivial
  | setReference name f target =>
    refine (Stage.Careful.object name).bind fun o based => ?_
    cases target with
    | none => exact careful_doing (o.careful_setReference b based f none)
    | some target =>
      exact (Stage.Careful.object target).bind fun t _ => careful_doing (o.careful_setReference b based f (some t))
  | downcast name view use =>
    exact (Stage.Careful.object name).bind fun o _ => careful_downcastObject b o view use
  | duplicate name view as =>
    exact (Stage.Careful.object name).bind fun o _ => careful_keepObject b view as (o.careful_duplicate b _)
  | onFeature name f element step =>
    exact (Stage.Careful.object name).bind fun o based =>
      (Stage.Careful.act (o.careful_list b based f element.toView)).bind fun l _ => step.careful_perform b l
  | read name accessor =>
    exact (Stage.Careful.viewed name).bind fun seen based => (Stage.Careful.need fun _ _ => trivial).bind fun a _ =>
      .act ((seen.1.careful_getAs b based a.feature a.type).map fun _ _ => trivial)
  | write name accessor v =>
    exact (Stage.Careful.viewed name).bind fun seen based => (Stage.Careful.need fun _ _ => trivial).bind fun a _ =>
      careful_doing (seen.1.careful_set b based a.feature v)
  | onSequence name accessor step =>
    exact (Stage.Careful.viewed name).bind fun seen based => (Stage.Careful.need fun _ _ => trivial).bind fun a _ =>
      (Stage.Careful.act (seen.1.careful_list b based a.feature a.element)).bind fun l _ => step.careful_perform b l
  | createList element as => exact careful_keepList b as (b.careful_createList _)
  | createListOf element cls as => exact careful_keepList b as (b.careful_createListOf _ cls)
  | borrowList h cls element as =>
    exact (Stage.Careful.resolve h).bind fun k _ => careful_keepList b as (.any _)
  | onList name step => exact (Stage.Careful.list name).bind fun l _ => step.careful_perform b l
  | native => cases native

theorem Step.careful_performSaving (step : Step) (as : Option String) (native : step.isNative = false) :
    Stage.Careful (step.performSaving b as) fun _ => True := by
  refine (step.careful_perform b native).bind fun result _ => ?_
  cases as with
  | none => exact .pure trivial
  | some name =>
    dsimp only
    split
    · exact (Stage.Careful.modify fun _ based => based).bind fun _ _ => .pure trivial
    · exact .pure trivial

/-- The end of a session passes no null handle, whatever the session holds. -/
theorem State.careful_finish (s : State) : Routine.Careful (s.finish b) fun _ => True := by
  unfold State.finish
  generalize s.proxies.mergeSort _ = proxies
  induction proxies with
  | nil => exact trivial
  | cons entry rest ih => exact (entry.2.proxy.careful_drop b).bind fun _ _ => ih

end Session

end HandleBridge
