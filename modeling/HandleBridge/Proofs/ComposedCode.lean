import HandleBridge.Proofs.RelayedErrors

/-!
Composed code: work that reaches the native side through the calls of one bridge, which announces them as its settings
want. All operations of proxies are put together from such calls and from reports. So what holds of these two, and of
one piece of work after another, holds of all that proxies do.
-/

namespace HandleBridge

/-- Whether an event announces a call. -/
def Event.isAnnouncement : Event → Bool
  | calling _ _ => true
  | _ => false

/-- Whether a routine is put together from reports and from calls of a bridge. -/
inductive Routine.Composed (b : Bridge) : {α : Type} → Routine α → Prop where
  | pure {α : Type} (a : α) : Routine.Composed b (Pure.pure a)
  /-- Reports anything but an announcement. -/
  | note (e : Event) (other : e.isAnnouncement = false) : Routine.Composed b (Routine.note e)
  | call (c : Call Value) : Routine.Composed b (b.call c).run
  | bind {α β : Type} {r : Routine α} {f : α → Routine β} (first : Routine.Composed b r)
    (rest : ∀ a, Routine.Composed b (f a)) : Routine.Composed b (r >>= f)

/-- Whether an action is put together in that way. -/
def Composed (b : Bridge) {α : Type} (x : Action α) : Prop := Routine.Composed b x.run

namespace Composed

variable {b : Bridge} {α β : Type} {x : Action α}

theorem pure (a : α) : Composed b (Pure.pure a) := Routine.Composed.pure (Except.ok a)

theorem throw (e : Error) : Composed b (throw e : Action α) := Routine.Composed.pure (Except.error e)

theorem call (c : Call Value) : Composed b (b.call c) := Routine.Composed.call c

/-- Work in two parts is put together in that way if both parts are. -/
theorem bind {f : α → Action β} (first : Composed b x) (rest : ∀ a, Composed b (f a)) : Composed b (x >>= f) := by
  refine Routine.Composed.bind first fun result => ?_
  cases result with
  | ok a => exact rest a
  | error e => exact .pure _

theorem map (f : α → β) (composed : Composed b x) : Composed b (f <$> x) := by
  rw [map_eq_pure_bind]
  exact composed.bind fun a => .pure (f a)

theorem lift (x : Except Error α) : Composed b (liftM x : Action α) := by
  cases x with
  | ok a => exact .pure a
  | error e => exact .throw e

theorem routine {r : Routine α} (composed : Routine.Composed b r) : Composed b (liftM r : Action α) :=
  Routine.Composed.bind composed fun a => .pure (Except.ok a)

theorem note (e : Event) (other : e.isAnnouncement = false) :
    Composed b (liftM (Routine.note e) : Action Unit) := routine (.note e other)

theorem check {p : Prop} [Decidable p] {e : Error} {rest : PUnit → Action α} (composed : Composed b (rest ⟨⟩)) :
    Composed b (if p then rest ⟨⟩ else MonadExcept.throw e >>= rest) := by
  split
  · exact composed
  · exact (throw e).bind fun _ => composed

theorem refuse {p : Prop} [Decidable p] {e : Error} {rest : PUnit → Action α} (composed : Composed b (rest ⟨⟩)) :
    Composed b (if p then MonadExcept.throw e >>= rest else rest ⟨⟩) := by
  split
  · exact (throw e).bind fun _ => composed
  · exact composed

end Composed

variable (b : Bridge)

namespace Proxy

theorem composed_release (p : Proxy) : Composed b (p.release b) := by
  unfold release
  split
  · exact .pure _
  · exact (Composed.note _ rfl).bind fun _ => (Composed.call _).bind fun _ => .pure _

theorem composed_drop (p : Proxy) : Routine.Composed b (p.drop b) := by
  refine Routine.Composed.bind (p.composed_release b) fun result => ?_
  cases result with
  | ok => exact .pure _
  | error e => exact .note _ rfl

theorem composed_adopt (h : Handle) : Routine.Composed b (adopt h) :=
  (Routine.Composed.note _ rfl).bind fun _ => .pure _

end Proxy

namespace Bridge

theorem composed_inspect (p : Proxy) (required : Option String) : Composed b (b.inspect p required) := by
  refine (Composed.lift _).bind fun h => (Composed.call _).bind fun base => (Composed.call _).bind fun cls =>
    (Composed.lift _).bind fun cls => ?_
  cases required with
  | none => exact .pure _
  | some name => exact (Composed.lift _).bind fun expected => .check (.pure _)

theorem composed_wrap (required : Option String) (p : Proxy) : Composed b (b.wrap required p) := by
  refine Routine.Composed.bind (b.composed_inspect p required) fun result => ?_
  cases result with
  | ok seen => exact .pure _
  | error e => exact (p.composed_drop b).bind fun _ => .pure _

theorem composed_createAs (view : View) (name : String) : Composed b (b.createAs view name) :=
  (Composed.lift _).bind fun _ => (Composed.call _).bind fun h => (Composed.note _ rfl).bind fun _ =>
    b.composed_wrap view.required (.owning h)

theorem composed_create (view : View) : Composed b (b.create view) :=
  (Composed.lift _).bind fun name => b.composed_createAs view name

theorem composed_wrapBorrowed (view : View) (h : Handle) : Composed b (b.wrapBorrowed view h) := by
  unfold wrapBorrowed
  split
  · exact (b.composed_wrap _ _).map _
  · exact .pure _

theorem composed_adopt (view : View) (h : Handle) : Composed b (b.adopt view h) := by
  unfold adopt
  split
  · exact (Composed.routine (Proxy.composed_adopt b _)).bind fun p => (b.composed_wrap view.required p).map _
  · exact .pure _

theorem composed_createListOf (view : View) (name : String) : Composed b (b.createListOf view name) :=
  (Composed.lift _).bind fun _ => (Composed.lift _).bind fun _ => (Composed.call _).bind fun _ =>
    (Composed.note _ rfl).bind fun _ => .pure _

theorem composed_createList (view : View) : Composed b (b.createList view) :=
  (Composed.lift _).bind fun name => b.composed_createListOf view name

end Bridge

namespace ObjectProxy

variable (o : ObjectProxy) (f : FeatureId) (view : View)

theorem composed_get (resolve : Bool) : Composed b (o.get b f resolve) :=
  (Composed.lift _).bind fun _ => (Composed.lift _).bind fun _ => .call _

theorem composed_set (v : Value) : Composed b (o.set b f v) :=
  (Composed.lift _).bind fun _ => .refuse ((Composed.lift _).bind fun _ => .call _)

theorem composed_isSet : Composed b (o.isSet b f) :=
  (Composed.lift _).bind fun _ => (Composed.lift _).bind fun _ => .call _

theorem composed_unset : Composed b (o.unset b f) :=
  (Composed.lift _).bind fun _ => (Composed.lift _).bind fun _ => .call _

theorem composed_initialise : Composed b (o.initialise b) := (Composed.lift _).bind fun _ => .call _

theorem composed_getAs (t : HostType) : Composed b (o.getAs b t f) :=
  (composed_get b o f false).bind fun _ => .lift _

theorem composed_getNamed (name : String) : Composed b (o.getNamed b name) :=
  (Composed.lift _).bind fun f => composed_get b o f false

theorem composed_setNamed (name : String) (v : Value) : Composed b (o.setNamed b name v) :=
  (Composed.lift _).bind fun f => composed_set b o f v

theorem composed_setReference (target : Option ObjectProxy) : Composed b (o.setReference b f target) := by
  cases target with
  | none => exact composed_set b o f .null
  | some target => exact (Composed.lift _).bind fun h => composed_set b o f (.object h)

theorem composed_reference : Composed b (o.reference b f view) := by
  refine (composed_get b o f true).bind fun v => ?_
  split
  · exact .pure _
  · exact b.composed_wrapBorrowed view _
  · exact .throw _

theorem composed_downcast : Composed b (o.downcast b view) :=
  (Composed.lift _).bind fun _ => b.composed_wrap _ _

theorem composed_duplicate : Composed b (o.duplicate b view) :=
  (Composed.lift _).bind fun _ => (Composed.call _).bind fun copy => (Composed.note _ rfl).bind fun _ =>
    b.composed_wrap view.required (.owning copy)

theorem composed_list : Composed b (o.list b f view) := by
  refine (Composed.lift _).bind fun feature => ?_
  split
  · refine (Composed.lift _).bind fun cls => (composed_get b o f false).bind fun v => ?_
    split
    · split
      · exact .throw _
      · exact .lift _
    · exact .throw _
  · exact .throw _

end ObjectProxy

namespace ListProxy

variable (l : ListProxy)

theorem composed_size : Composed b (l.size b) := (Composed.lift _).bind fun _ => .call _

theorem composed_isEmpty : Composed b (l.isEmpty b) := (composed_size b l).bind fun _ => .pure _

theorem composed_handleAt (i : UInt64) : Composed b (l.handleAt b i) :=
  (Composed.lift _).bind fun _ => (composed_size b l).bind fun _ => .check (.call _)

theorem composed_elementAt (i : UInt64) : Composed b (l.elementAt b i) :=
  (composed_handleAt b l i).bind fun h => b.composed_wrapBorrowed l.element h

theorem composed_checkedElement (element : ObjectProxy) : Composed b (l.checkedElement b element) := by
  refine (Composed.lift _).bind fun h => ?_
  dsimp only
  split
  · exact (Composed.call _).bind fun cls => .check (.pure _)
  · exact .pure _

theorem composed_pushBack (element : ObjectProxy) : Composed b (l.pushBack b element) :=
  (Composed.lift _).bind fun _ => (composed_checkedElement b l element).bind fun _ => .call _

theorem composed_insertAt (i : UInt64) (element : ObjectProxy) : Composed b (l.insertAt b i element) :=
  (Composed.lift _).bind fun _ => (composed_size b l).bind fun _ =>
    .refuse ((composed_checkedElement b l element).bind fun _ => .call _)

theorem composed_insertAll (other : ListProxy) : Composed b (l.insertAll b other) :=
  (Composed.lift _).bind fun _ => (Composed.lift _).bind fun _ => .refuse (.call _)

theorem composed_clear : Composed b (l.clear b) := (Composed.lift _).bind fun _ => .call _

theorem composed_handlesFrom (i : UInt64) (count : Nat) : Composed b (l.handlesFrom b i count) := by
  induction count generalizing i with
  | zero => exact .pure _
  | succ count ih => exact (composed_handleAt b l i).bind fun _ => (ih (i + 1)).bind fun _ => .pure _

theorem composed_handles : Composed b (l.handles b) :=
  (composed_size b l).bind fun n => composed_handlesFrom b l 0 n.toNat

theorem composed_next (index length : UInt64) : Composed b (l.next b index length) := by
  unfold next
  split
  · exact (composed_elementAt b l index).map _
  · exact .pure _

end ListProxy

/-- Every operation of proxies is put together from reports and from calls of its bridge. -/
theorem Operation.composed (op : Operation) : Composed b (op.action b) := by
  cases op with
  | create view => exact b.composed_create view
  | createAs view name => exact b.composed_createAs view name
  | wrapBorrowed view h => exact b.composed_wrapBorrowed view h
  | adopt view h => exact b.composed_adopt view h
  | wrap required p => exact b.composed_wrap required p
  | release p => exact p.composed_release b
  | downcast o view => exact o.composed_downcast b view
  | duplicate o view => exact o.composed_duplicate b view
  | get o f resolve => exact o.composed_get b f resolve
  | set o f v => exact o.composed_set b f v
  | isSet o f => exact o.composed_isSet b f
  | unset o f => exact o.composed_unset b f
  | initialise o => exact o.composed_initialise b
  | getAs o t f => exact o.composed_getAs b f t
  | getNamed o name => exact o.composed_getNamed b name
  | setNamed o name v => exact o.composed_setNamed b name v
  | reference o f view => exact o.composed_reference b f view
  | setReference o f target => exact o.composed_setReference b f target
  | list o f view => exact o.composed_list b f view
  | createList view => exact b.composed_createList view
  | createListOf view name => exact b.composed_createListOf view name
  | borrowList view h elementClass => exact .lift _
  | size l => exact l.composed_size b
  | isEmpty l => exact l.composed_isEmpty b
  | elementAt l index => exact l.composed_elementAt b index
  | handleAt l index => exact l.composed_handleAt b index
  | pushBack l element => exact l.composed_pushBack b element
  | insertAt l position element => exact l.composed_insertAt b position element
  | insertAll l other => exact l.composed_insertAll b other
  | clear l => exact l.composed_clear b
  | handles l => exact l.composed_handles b
  | next l index length => exact l.composed_next b index length

end HandleBridge
