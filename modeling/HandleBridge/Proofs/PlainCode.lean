import HandleBridge.Session.World

/-!
Plain code: work that makes and destroys nothing, and hands on every error that it meets. Most of what proxies and
sessions do is plain, so what plain code keeps or leaves alone is shown once for all of it. What remains are the
operations that make, destroy or take over something, and the iterations, which answer errors among their items.
-/

namespace HandleBridge

theorem Script.run_seq {Request : Type} {Answer : Request → Type} {α β σ : Type}
    (respond : (r : Request) → StateM σ (Answer r)) (s : Script Request Answer α)
    (f : α → Script Request Answer β) (state : σ) :
    (s >>= f).run respond state = (f (s.run respond state).1).run respond (s.run respond state).2 := by
  show (s.bind f).run respond state = _
  rw [Script.run_bind]
  rfl

namespace Bridge

variable (b : Bridge) (c : Call Value)

/-- Announces a call if the settings want so. -/
def announce : Routine Unit := if b.config.traceCalls then Routine.note (.calling c.name c.target) else pure ()

def reportFailure : Except Error c.Reply → Routine Unit
  | .ok _ => pure ()
  | .error e => Routine.note (.callFailed c.name c.target e)

/-- A boundary call asks once, with reports before and after. -/
theorem call_run : (b.call c).run = do
    b.announce c
    let answer ← Routine.ask c
    reportFailure c answer
    return answer := by
  have asked : (do
      match ← Routine.ask c with
      | .ok reply => return .ok reply
      | .error e =>
        Routine.note (.callFailed c.name c.target e)
        return .error e : Routine (Except Error c.Reply)) = do
      let answer ← Routine.ask c
      reportFailure c answer
      return answer := by
    refine congrArg (Bind.bind _) (funext fun answer => ?_)
    cases answer <;> rfl
  rw [← asked]
  simp only [call,announce]
  split <;> rfl

end Bridge

/-- Whether a call neither makes nor destroys anything. -/
def Call.isNeutral {V : Type} : Call V → Bool
  | create _ | destroy _ | copy _ | createList _ => false
  | _ => true

/-- Whether an action is plain: it is done, fails, makes a neutral call, or does plain work in turn. -/
inductive Plain : {α : Type} → Action α → Prop where
  | pure {α : Type} (a : α) : Plain (Pure.pure a)
  | throw {α : Type} (e : Error) : Plain (throw e : Action α)
  | call (b : Bridge) (c : Call Value) (neutral : c.isNeutral = true) : Plain (b.call c)
  | bind {α β : Type} {x : Action α} {f : α → Action β} (first : Plain x) (rest : ∀ a, Plain (f a)) :
    Plain (x >>= f)

namespace Plain

variable {α β : Type} {x : Action α}

theorem map (f : α → β) (plain : Plain x) : Plain (f <$> x) := by
  rw [map_eq_pure_bind]
  exact plain.bind fun a => .pure (f a)

theorem lift (x : Except Error α) : Plain (liftM x : Action α) := by
  cases x with
  | ok a => exact .pure a
  | error e => exact .throw e

/-- Work behind a check is plain. -/
theorem check {p : Prop} [Decidable p] {e : Error} {rest : PUnit → Action α} (plain : Plain (rest ⟨⟩)) :
    Plain (if p then rest ⟨⟩ else MonadExcept.throw e >>= rest) := by
  split
  · exact plain
  · exact (throw e).bind fun _ => plain

/-- Work behind a refusal is plain. -/
theorem refuse {p : Prop} [Decidable p] {e : Error} {rest : PUnit → Action α} (plain : Plain (rest ⟨⟩)) :
    Plain (if p then MonadExcept.throw e >>= rest else rest ⟨⟩) := by
  split
  · exact (throw e).bind fun _ => plain
  · exact plain

theorem mapM {f : α → Action β} (each : ∀ a, Plain (f a)) (as : List α) : Plain (as.mapM f) := by
  induction as with
  | nil =>
    rw [List.mapM_nil]
    exact .pure []
  | cons a as ih =>
    rw [List.mapM_cons]
    exact (each a).bind fun _ => ih.bind fun _ => .pure _

end Plain

namespace ObjectProxy

variable (b : Bridge) (o : ObjectProxy) (f : FeatureId)

theorem plain_get (resolve : Bool) : Plain (o.get b f resolve) :=
  (Plain.lift _).bind fun _ => (Plain.lift _).bind fun _ => .call b _ rfl

theorem plain_set (v : Value) : Plain (o.set b f v) :=
  (Plain.lift _).bind fun _ => .refuse ((Plain.lift _).bind fun _ => .call b _ rfl)

theorem plain_isSet : Plain (o.isSet b f) :=
  (Plain.lift _).bind fun _ => (Plain.lift _).bind fun _ => .call b _ rfl

theorem plain_unset : Plain (o.unset b f) :=
  (Plain.lift _).bind fun _ => (Plain.lift _).bind fun _ => .call b _ rfl

theorem plain_initialise : Plain (o.initialise b) :=
  (Plain.lift _).bind fun _ => .call b _ rfl

theorem plain_getAs (t : HostType) : Plain (o.getAs b t f) :=
  (plain_get b o f false).bind fun _ => .lift _

theorem plain_getNamed (name : String) : Plain (o.getNamed b name) :=
  (Plain.lift _).bind fun f => plain_get b o f false

theorem plain_setNamed (name : String) (v : Value) : Plain (o.setNamed b name v) :=
  (Plain.lift _).bind fun f => plain_set b o f v

theorem plain_setReference (target : Option ObjectProxy) : Plain (o.setReference b f target) := by
  cases target with
  | none => exact plain_set b o f .null
  | some target => exact (Plain.lift _).bind fun h => plain_set b o f (.object h)

theorem plain_snapshot : Plain (o.snapshot b) := by
  refine Plain.mapM (fun feature => ?_) _
  exact (plain_isSet b o feature.id).bind fun _ => (plain_get b o feature.id false).bind fun _ => .pure _

end ObjectProxy

/-! ### Proxies that own nothing -/

def Proxy.owns (p : Proxy) : Bool := !p.handle.isNull && p.ownership.isOwned

namespace Proxy

variable (b : Bridge) {p : Proxy}

theorem owns_eq : p.owns = !(p.handle.isNull || !p.ownership.isOwned) := by
  rw [owns,Bool.not_or,Bool.not_not]

theorem release_of_not_owns (idle : p.owns = false) : p.release b = pure false := by
  rw [owns_eq,Bool.not_eq_false'] at idle
  rw [release,if_pos idle]

/-- A proxy that owns something is released by destroying that. -/
theorem release_of_owns (owns : p.owns = true) : p.release b = do
    Routine.note (.releasing p.handle)
    b.call (.destroy p.handle)
    return true := by
  rw [owns_eq,Bool.not_eq_true'] at owns
  rw [release,if_neg (Bool.not_eq_true _ ▸ owns)]

/-- A proxy that owns nothing goes away without a trace. -/
theorem drop_of_not_owns (idle : p.owns = false) : p.drop b = pure () := by
  rw [drop,release_of_not_owns b idle]
  rfl

@[simp] theorem owns_borrowing (h : Handle) : (borrowing h).owns = false := by
  simp [owns,borrowing,Ownership.isOwned]

@[simp] theorem owns_retired : retired.owns = false := rfl

end Proxy

namespace Bridge

variable (b : Bridge)

theorem plain_inspect (p : Proxy) (required : Option String) : Plain (b.inspect p required) := by
  refine (Plain.lift _).bind fun h => (Plain.call b _ rfl).bind fun base => (Plain.call b _ rfl).bind fun cls =>
    (Plain.lift _).bind fun cls => ?_
  cases required with
  | none => exact .pure _
  | some name => exact (Plain.lift _).bind fun expected => .check (.pure _)

/-- A proxy that owns nothing is wrapped by looking at the object. -/
theorem wrap_of_not_owns (required : Option String) {p : Proxy} (idle : p.owns = false) :
    b.wrap required p = (fun (base,cls) => ⟨p,base,cls⟩) <$> b.inspect p required := by
  simp only [wrap,Proxy.drop_of_not_owns b idle,map_eq_pure_bind]
  refine congrArg (Bind.bind _) (funext fun result => ?_)
  cases result <;> rfl

/-- Wrapping a proxy that owns nothing is plain, as there is nothing to drop when it fails. -/
theorem plain_wrap (required : Option String) {p : Proxy} (idle : p.owns = false) : Plain (b.wrap required p) := by
  rw [wrap_of_not_owns b required idle]
  exact (plain_inspect b p required).map _

/-- So is borrowing. -/
theorem plain_wrapBorrowed (view : View) (h : Handle) : Plain (b.wrapBorrowed view h) := by
  unfold wrapBorrowed
  split
  · exact (plain_wrap b _ (Proxy.owns_borrowing _)).map _
  · exact .pure _

end Bridge

namespace ObjectProxy

variable (b : Bridge) (o : ObjectProxy) (f : FeatureId) (view : View)

theorem plain_reference : Plain (o.reference b f view) := by
  refine (plain_get b o f true).bind fun v => ?_
  split
  · exact .pure _
  · exact b.plain_wrapBorrowed view _
  · exact .throw _

theorem plain_downcast : Plain (o.downcast b view) :=
  (Plain.lift _).bind fun h => b.plain_wrap _ (Proxy.owns_borrowing h)

theorem plain_list : Plain (o.list b f view) := by
  refine (Plain.lift _).bind fun feature => ?_
  split
  · refine (Plain.lift _).bind fun cls => (plain_get b o f false).bind fun v => ?_
    split
    · split
      · exact .throw _
      · exact .lift _
    · exact .throw _
  · exact .throw _

end ObjectProxy

namespace ListProxy

variable (b : Bridge) (l : ListProxy)

theorem plain_size : Plain (l.size b) := (Plain.lift _).bind fun _ => .call b _ rfl

theorem plain_isEmpty : Plain (l.isEmpty b) := (plain_size b l).bind fun _ => .pure _

theorem plain_handleAt (i : UInt64) : Plain (l.handleAt b i) :=
  (Plain.lift _).bind fun _ => (plain_size b l).bind fun _ => .check (.call b _ rfl)

theorem plain_elementAt (i : UInt64) : Plain (l.elementAt b i) :=
  (plain_handleAt b l i).bind fun h => b.plain_wrapBorrowed l.element h

theorem plain_checkedElement (element : ObjectProxy) : Plain (l.checkedElement b element) := by
  refine (Plain.lift _).bind fun h => ?_
  dsimp only
  split
  · exact (Plain.call b _ rfl).bind fun cls => .check (.pure _)
  · exact .pure _

theorem plain_pushBack (element : ObjectProxy) : Plain (l.pushBack b element) :=
  (Plain.lift _).bind fun _ => (plain_checkedElement b l element).bind fun _ => .call b _ rfl

theorem plain_insertAt (i : UInt64) (element : ObjectProxy) : Plain (l.insertAt b i element) :=
  (Plain.lift _).bind fun _ => (plain_size b l).bind fun _ =>
    .refuse ((plain_checkedElement b l element).bind fun _ => .call b _ rfl)

theorem plain_insertAll (other : ListProxy) : Plain (l.insertAll b other) :=
  (Plain.lift _).bind fun _ => (Plain.lift _).bind fun _ => .refuse (.call b _ rfl)

theorem plain_clear : Plain (l.clear b) := (Plain.lift _).bind fun _ => .call b _ rfl

theorem plain_handlesFrom (i : UInt64) (count : Nat) : Plain (l.handlesFrom b i count) := by
  induction count generalizing i with
  | zero => exact .pure _
  | succ count ih => exact (plain_handleAt b l i).bind fun _ => (ih (i + 1)).bind fun _ => .pure _

theorem plain_handles : Plain (l.handles b) := (plain_size b l).bind fun n => plain_handlesFrom b l 0 n.toNat

end ListProxy

/-! ### Work on a session -/

namespace Session

/-- Whether work on a session looks only: it makes plain calls and leaves the session as it is. -/
inductive Looks : {α : Type} → Stage α → Prop where
  | pure {α : Type} (a : α) : Looks (Pure.pure a)
  | stop {α : Type} (s : Stop) : Looks (throw s : Stage α)
  | state : Looks (get : Stage State)
  | act {α : Type} {x : Action α} (plain : Plain x) : Looks (Stage.act x)
  | bind {α β : Type} {x : Stage α} {f : α → Stage β} (first : Looks x) (rest : ∀ a, Looks (f a)) :
    Looks (x >>= f)

namespace Looks

variable {α β : Type}

theorem map {x : Stage α} (f : α → β) (looks : Looks x) : Looks (f <$> x) := by
  rw [map_eq_pure_bind]
  exact looks.bind fun a => .pure (f a)

theorem need (x : Option α) : Looks (Stage.need x) := by
  cases x with
  | none => exact .stop .misuse
  | some a => exact .pure a

theorem find (name : String) : Looks (Stage.find name) := state.bind fun _ => need _

theorem object (name : String) : Looks (Stage.object name) := by
  refine (find name).bind fun held => ?_
  split
  · exact .pure _
  · exact .stop _

theorem viewed (name : String) : Looks (Stage.viewed name) := by
  refine (find name).bind fun held => ?_
  split
  · exact .pure _
  · exact .stop _

theorem list (name : String) : Looks (Stage.list name) := by
  refine (find name).bind fun held => ?_
  split
  · exact .pure _
  · exact .stop _

theorem resolve (h : HandleRef) : Looks (Stage.resolve h) := by
  cases h with
  | literal h => exact .pure h
  | held name => exact (find name).bind fun _ => .pure _
  | saved name => exact state.bind fun _ => need _

theorem evaluate (v : Operand) : Looks (Stage.evaluate v) := by
  cases v with
  | value v => exact .pure v
  | object h => exact (resolve h).bind fun _ => .pure _
  | list h => exact (resolve h).bind fun _ => .pure _
  | reference h => exact (resolve h).bind fun _ => .pure _

end Looks

/-- Work after work goes on in the session that the first leaves, unless that stops. -/
theorem Stage.run_bind {α β : Type} (x : Stage α) (f : α → Stage β) (s : State) :
    (x >>= f).run.run s = (do
      let result ← x.run.run s
      match result.1 with
      | .ok a => (f a).run.run result.2
      | .error stop => return (.error stop,result.2) : Routine (Except Stop β × State)) := by
  show Script.bind _ _ = Script.bind _ _
  refine congrArg (Script.bind _) (funext fun result => ?_)
  obtain ⟨result,u⟩ := result
  cases result <;> rfl

/-- Work on proxies leaves the session as it is, whatever it comes to. -/
theorem Stage.run_act {α : Type} (x : Action α) (s : State) :
    (Stage.act x).run.run s = (do
      let result ← x.run
      return (result.mapError .failed,s) : Routine (Except Stop α × State)) := by
  show Script.bind (Script.bind _ _) _ = Script.bind _ _
  rw [Script.bind_assoc]
  rfl

theorem Stage.run_always {α : Type} (r : Routine α) (s : State) :
    (Stage.always r).run.run s = (do return (.ok (← r),s) : Routine (Except Stop α × State)) := by
  show Script.bind (Script.bind _ _) _ = Script.bind _ _
  rw [Script.bind_assoc]
  rfl

theorem looks_doing {work : Action Unit} (plain : Plain work) : Looks (Step.doing work) :=
  .act (plain.bind fun _ => .pure _)

namespace ListStep

variable (b : Bridge) (l : ListProxy)

/-- Whether a step iterates, so that it may answer errors among its items. -/
def iterates : ListStep → Bool
  | iterate | iterateClearing => true
  | _ => false

theorem looks_inserting {insertion : Action Unit} (plain : Plain insertion) : Looks (inserting b l insertion) :=
  .act (plain.bind fun _ => (l.plain_size b).bind fun _ => .pure _)

theorem looks_perform (step : ListStep) (once : step.iterates = false) : Looks (step.perform b l) := by
  cases step with
  | size => exact .act ((l.plain_size b).bind fun _ => .pure _)
  | isEmpty => exact .act ((l.plain_isEmpty b).map _)
  | element i => exact .act ((l.plain_elementAt b i).map _)
  | handle i => exact .act ((l.plain_handleAt b i).map _)
  | pushBack name => exact (Looks.object name).bind fun o => looks_inserting b l (l.plain_pushBack b o)
  | insertAt i name => exact (Looks.object name).bind fun o => looks_inserting b l (l.plain_insertAt b i o)
  | insertAll name => exact (Looks.list name).bind fun other => looks_inserting b l (l.plain_insertAll b other)
  | clear => exact .act ((l.plain_clear b).bind fun _ => .pure _)
  | handles => exact .act ((l.plain_handles b).map _)
  | info => exact .pure _
  | iterate => cases once
  | iterateClearing => cases once

end ListStep

namespace Step

/-- Whether a step makes, takes over or gives up a proxy. -/
def isHandling : Step → Bool
  | create .. | createAs .. | wrap .. | adopt .. | borrowBare .. | adoptBare .. | fromBare .. | fromBareOf ..
  | toBare .. | toHandle .. | release .. | drop .. | duplicate .. | createList .. | createListOf ..
  | borrowList .. => true
  | _ => false

/-- Whether a step operates on a list. -/
def isSequential : Step → Bool
  | onFeature .. | onSequence .. | onList .. => true
  | _ => false

/-- Whether a step makes a boundary call of its own. -/
def isNative : Step → Bool
  | native .. => true
  | _ => false

theorem looks_downcastObject (b : Bridge) (o : ObjectProxy) (view : TypedView) (use : Option Use) :
    Looks (downcastObject b o view use) := by
  refine (Looks.act (o.plain_downcast b view.toView)).bind fun seen => ?_
  cases use with
  | none => exact .pure _
  | some use =>
    dsimp only
    have seeing := (Looks.act (seen.plain_get b use.feature true)).bind fun v =>
      .pure (Result.downcast seen (some v))
    cases use.write with
    | none => exact seeing
    | some operand =>
      exact (Looks.evaluate operand).bind fun v => (Looks.act (seen.plain_set b use.feature v)).bind fun _ => seeing

/-- Every other step looks only. -/
theorem looks_perform (b : Bridge) (step : Step) (handling : step.isHandling = false)
    (sequential : step.isSequential = false) (native : step.isNative = false) : Looks (step.perform b) := by
  cases step with
  | info name => exact (Looks.find name).bind fun _ => .pure _
  | handle h => exact (Looks.resolve h).map _
  | bridge => exact .pure _
  | get name f resolve => exact (Looks.object name).bind fun o => .act ((o.plain_get b f resolve).map _)
  | set name f v =>
    exact (Looks.object name).bind fun o => (Looks.evaluate v).bind fun v => looks_doing (o.plain_set b f v)
  | isSet name f => exact (Looks.object name).bind fun o => .act ((o.plain_isSet b f).map _)
  | unset name f => exact (Looks.object name).bind fun o => looks_doing (o.plain_unset b f)
  | initialise name => exact (Looks.object name).bind fun o => looks_doing (o.plain_initialise b)
  | getAs name f t => exact (Looks.object name).bind fun o => .act ((o.plain_getAs b f t).map _)
  | getNamed name f => exact (Looks.object name).bind fun o => .act ((o.plain_getNamed b f).map _)
  | setNamed name f v =>
    exact (Looks.object name).bind fun o => (Looks.evaluate v).bind fun v => looks_doing (o.plain_setNamed b f v)
  | classType name => exact (Looks.object name).bind fun _ => .pure _
  | feature name f => exact (Looks.object name).bind fun _ => .act ((Plain.lift _).bind fun _ => .pure _)
  | snapshot name => exact (Looks.object name).bind fun o => .act ((o.plain_snapshot b).map _)
  | reference name f view =>
    refine (Looks.object name).bind fun o => (Looks.act (o.plain_reference b f view.toView)).bind fun r => ?_
    cases r <;> exact .pure _
  | setReference name f target =>
    refine (Looks.object name).bind fun o => ?_
    cases target with
    | none => exact looks_doing (o.plain_setReference b f none)
    | some target => exact (Looks.object target).bind fun t => looks_doing (o.plain_setReference b f (some t))
  | downcast name view use => exact (Looks.object name).bind fun o => looks_downcastObject b o view use
  | read name accessor =>
    exact (Looks.viewed name).bind fun _ => (Looks.need _).bind fun a => .act ((ObjectProxy.plain_getAs b _ _ _).map _)
  | write name accessor v =>
    exact (Looks.viewed name).bind fun _ => (Looks.need _).bind fun a => looks_doing (ObjectProxy.plain_set b _ _ _)
  | native => cases native
  | onFeature | onSequence | onList => cases sequential
  | create | createAs | wrap | adopt | borrowBare | adoptBare | fromBare | fromBareOf | toBare | toHandle | release
  | drop | duplicate | createList | createListOf | borrowList => cases handling

end Step

end Session

end HandleBridge
