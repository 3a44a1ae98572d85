import HandleBridge.Proofs.Courses
import HandleBridge.Proofs.FeatureTables
import HandleBridge.Proofs.MadeProxies

/-!
What is found out before the boundary. An operation that is given a feature that its object does not have, a value of
the wrong kind or an unknown name fails at once, and so does one whose proxy has no handle. It is the same failure
whoever answers and however often it is tried, and nothing is asked for (`preconditions_caught_early`).
-/

namespace HandleBridge

/-- Whether an action fails with the error and asks for nothing, whoever answers, in whatever state. -/
def Stops {α : Type} (x : Action α) (e : Error) : Prop :=
  ∀ (σ : Type) (respond : (e : Effect) → StateM σ e.Answer) (state : σ × List Asked),
    x.run.run (recording respond) state = (.error e,state)

theorem Stops.of_eq {α : Type} {x : Action α} {e : Error} (same : x = throw e) : Stops x e := by
  subst same
  exact fun _ _ _ => rfl

theorem Stops.bind {α β : Type} {x : Action α} {e : Error} (stops : Stops x e) (f : α → Action β) :
    Stops (x >>= f) e := by
  intro σ respond state
  show Script.run _ (x.run >>= ExceptT.bindCont f) state = _
  rw [Script.run_seq,stops σ respond state]
  rfl

/-- A proxy without a handle, and the error that says why: it was released, or it is for null. -/
inductive Proxy.Lacks : Proxy → Error → Prop
  | released : Lacks .retired .released
  | null (ownership : Ownership) : Lacks ⟨.null,ownership,false⟩ .nullHandle

namespace Proxy.Lacks

variable {p : Proxy} {e : Error} (lacks : p.Lacks e)
include lacks

theorem live : p.live = .error e := by cases lacks <;> rfl

theorem owns : p.owns = false := by cases lacks <;> rfl

end Proxy.Lacks

namespace Operation

/-- The object proxy that an operation is done on. -/
def object? : Operation → Option ObjectProxy
  | downcast o _ | duplicate o _ | get o _ _ | set o _ _ | isSet o _ | unset o _ | initialise o | getAs o _ _
  | getNamed o _ | setNamed o _ _ | reference o _ _ | setReference o _ _ | list o _ _ => some o
  | _ => none

/-- The proxy whose handle an operation needs. An iteration that is at its end needs none. -/
def subject? (op : Operation) : Option Proxy :=
  match op with
  | wrap _ p => some p
  | size l | isEmpty l | elementAt l _ | handleAt l _ | pushBack l _ | insertAt l _ _ | insertAll l _ | clear l
  | handles l => some l.proxy
  | next l index length => if index < length then some l.proxy else none
  | op => op.object?.map ObjectProxy.proxy

/-- The identifier of a feature that an operation is given. -/
def feature? : Operation → Option FeatureId
  | get _ f _ | set _ f _ | isSet _ f | unset _ f | getAs _ _ f | reference _ f _ | setReference _ f _
  | list _ f _ => some f
  | _ => none

/-- The name of a feature that an operation is given. -/
def name? : Operation → Option String
  | getNamed _ name | setNamed _ name _ => some name
  | _ => none

/-- The object proxy that a reference is set to. -/
def target? : Operation → Option ObjectProxy
  | setReference _ _ target => target
  | _ => none

/-- Which value an operation writes to which feature. -/
inductive Writes : Operation → ObjectProxy → FeatureId → Value → Prop
  | set (o : ObjectProxy) (f : FeatureId) (v : Value) : Writes (.set o f v) o f v
  | setNamed {o : ObjectProxy} {name : String} {f : FeatureId} (v : Value) (found : o.cls.featureId name = .ok f) :
    Writes (.setNamed o name v) o f v
  | setReference {o target : ObjectProxy} {h : Handle} (f : FeatureId) (live : target.proxy.live = .ok h) :
    Writes (.setReference o f (some target)) o f (.object h)
  | clearReference (o : ObjectProxy) (f : FeatureId) : Writes (.setReference o f none) o f .null

/-- Whether the object proxies of an operation are proxies that were made. -/
structure Genuine (b : Bridge) (op : Operation) : Prop where
  object : ∀ o, op.object? = some o → o.Made b
  target : ∀ o, op.target? = some o → o.Made b

/-- Why an operation fails even before it looks at the handle of its proxy. -/
inductive FailsEarly (b : Bridge) : Operation → Error → Prop
  /-- The object does not have the feature. A reference that is to be set is looked at later than its new target. -/
  | range {op : Operation} {o : ObjectProxy} {f : FeatureId} (object : op.object? = some o)
    (given : op.feature? = some f) (outside : o.cls.features.length ≤ f.index.toNat)
    (held : ∀ target, op.target? = some target → target.proxy.isReleased = false) :
    FailsEarly b op (.featureOutOfRange o.cls.name f.index o.cls.featureCount)
  /-- The value is not of the kind of the feature. -/
  | kind {op : Operation} {o : ObjectProxy} {f : FeatureId} {v : Value} {feature : Feature}
    (checks : b.config.validation.valueKinds = true) (writes : op.Writes o f v) (row : o.cls.feature f = .ok feature)
    (misfit : v.fits feature.kind.valueKind = false) :
    FailsEarly b op (.typeMismatch feature.kind.valueKind.name v.typeName)
  /-- The object has no feature of the name. -/
  | name {op : Operation} {o : ObjectProxy} {name : String} (object : op.object? = some o)
    (given : op.name? = some name) (unknown : ∀ feature ∈ o.cls.features, feature.name ≠ name) :
    FailsEarly b op (.unknownFeature o.cls.name name)
  /-- A list is wanted of a feature that does not hold one. -/
  | single {o : ObjectProxy} {f : FeatureId} {feature : Feature} (view : View) (row : o.cls.feature f = .ok feature)
    (single : feature.kind.isMany = false) :
    FailsEarly b (.list o f view) (.typeMismatch "list" feature.kind.valueKind.name)

end Operation

namespace ClassType

variable {cls : ClassType} {f : FeatureId} {name : String} {e : Error}

theorem feature_of_outside (outside : cls.features.length ≤ f.index.toNat) :
    cls.feature f = .error (.featureOutOfRange cls.name f.index cls.featureCount) := by
  rw [feature,List.getElem?_eq_none outside]

theorem outside_of_error (missed : cls.feature f = .error e) : cls.features.length ≤ f.index.toNat := by
  unfold feature at missed
  split at missed
  · cases missed
  · rename_i none
    exact List.getElem?_eq_none_iff.mp none

theorem featureId_of_unknown (unknown : ∀ feature ∈ cls.features, feature.name ≠ name) :
    cls.featureId name = .error (.unknownFeature cls.name name) := by
  have none : cls.features.find? (·.name = name) = none := by simpa using unknown
  rw [featureId,none]

theorem unknown_of_error (missed : cls.featureId name = .error e) : ∀ feature ∈ cls.features, feature.name ≠ name := by
  unfold featureId at missed
  split at missed
  · cases missed
  · rename_i none
    simpa using none

/-- An identifier that was found by a name is the identifier of a feature. -/
theorem Indexed.feature_of_featureId (indexed : cls.Indexed) (found : cls.featureId name = .ok f) :
    ∃ feature, cls.feature f = .ok feature := by
  unfold featureId at found
  split at found
  · rename_i feature there
    cases found
    obtain ⟨j,row⟩ := List.getElem?_of_mem (List.mem_of_find?_eq_some there)
    obtain ⟨inside,-⟩ := List.getElem?_eq_some_iff.mp row
    have within : feature.id.index.toNat < cls.features.length := by
      rw [indexed.id j feature row,UInt32.toNat_ofNat']
      exact Nat.lt_of_le_of_lt (Nat.mod_le j _) inside
    exact ⟨_,feature_eq_ok_iff.mpr (List.getElem?_eq_getElem within)⟩
  · cases found

end ClassType

theorem Package.Built.indexed {p : Package} {cls : ClassType} (built : p.Built) (member : cls ∈ p.classes) :
    cls.Indexed := by
  obtain ⟨name,uri,defs,-,done⟩ := built
  exact Package.indexed_of_build done member

/-! ### How operations begin -/

/-- Whether an action begins with some checks and then looks at the handle of a proxy. -/
def Begins {α : Type} (checks : Except Error Unit) (p : Proxy) (x : Action α) : Prop :=
  ∃ rest : Handle → Action α, x = liftM checks >>= fun _ => liftM p.live >>= rest

namespace Begins

variable {α β : Type} {checks : Except Error Unit} {p : Proxy} {x : Action α} {e : Error}

/-- A check that fails ends the action. -/
theorem refused (begins : Begins checks p x) (failed : checks = .error e) : x = throw e := by
  obtain ⟨rest,rfl⟩ := begins
  rw [failed]
  rfl

/-- Once the checks have passed, a missing handle ends the action. -/
theorem lacking (begins : Begins checks p x) (passed : checks = .ok ()) (lacks : p.live = .error e) : x = throw e := by
  obtain ⟨rest,rfl⟩ := begins
  rw [passed,lacks]
  rfl

theorem live (rest : Handle → Action α) : Begins (.ok ()) p (liftM p.live >>= rest) := ⟨rest,rfl⟩

theorem liveBase (o : ObjectProxy) (rest : Handle → Action α) : Begins (.ok ()) o.proxy (liftM o.liveBase >>= rest) := by
  refine ⟨fun _ => rest o.base,?_⟩
  rw [ObjectProxy.liveBase]
  cases o.proxy.live <;> rfl

theorem throw (e : Error) : Begins (.error e) p (MonadExcept.throw e : Action α) := ⟨fun _ => MonadExcept.throw e,rfl⟩

/-- What is done later does not count. -/
theorem bind (begins : Begins checks p x) (f : α → Action β) : Begins checks p (x >>= f) := by
  obtain ⟨rest,rfl⟩ := begins
  exact ⟨fun h => rest h >>= f,by simp only [bind_assoc]⟩

theorem map (begins : Begins checks p x) (f : α → β) : Begins checks p (f <$> x) := by
  rw [map_eq_pure_bind]
  exact begins.bind _

/-- A check that comes first is one of the checks. -/
theorem after {γ : Type} {check : Except Error γ} {more : γ → Except Error Unit} {f : γ → Action α}
    (rest : ∀ a, Begins (more a) p (f a)) : Begins (check >>= more) p (liftM check >>= f) := by
  cases check with
  | ok a => exact rest a
  | error e => exact throw e

/-- So is a refusal. -/
theorem refuse {q : Prop} [Decidable q] {rest : PUnit → Action α} (begins : Begins checks p (rest ⟨⟩)) :
    Begins (if q then .error e else checks) p (if q then MonadExcept.throw e >>= rest else rest ⟨⟩) := by
  split
  · exact throw e
  · exact begins

end Begins

namespace ObjectProxy

variable (b : Bridge) (o : ObjectProxy) (f : FeatureId) (v : Value)

/-- Checks that a value may be written. -/
def writable : Except Error Unit := do
  let kind := (← o.cls.feature f).kind.valueKind
  if b.config.validation.valueKinds && !v.fits kind then .error (.typeMismatch kind.name v.typeName) else .ok ()

/-- Checks that there is a list behind a feature. -/
def listable : Except Error Unit := do
  let feature ← o.cls.feature f
  match feature.kind with
  | .reference target true =>
    let _ ← b.package.requireNamed target
    let _ ← o.cls.feature f
  | kind => throw (.typeMismatch "list" kind.valueKind.name)

theorem begins_get (resolve : Bool) :
    Begins (o.cls.feature f >>= fun _ => .ok ()) o.proxy (o.get b f resolve) :=
  .after fun _ => .liveBase o _

theorem begins_set : Begins (o.writable b f v) o.proxy (o.set b f v) :=
  .after fun _ => .refuse (.liveBase o _)

theorem begins_list (view : View) : Begins (o.listable b f) o.proxy (o.list b f view) := by
  refine .after fun feature => ?_
  generalize feature.kind = kind
  cases kind with
  | data kind => exact .throw _
  | reference target many =>
    cases many with
    | false => exact .throw _
    | true => exact .after fun _ => (o.begins_get b f false).bind _

/-- Setting a reference begins with the target's handle, and then checks it as a value. -/
theorem begins_setReference (target : Option ObjectProxy) :
    Begins (match target with
      | some target => target.proxy.live >>= fun h => o.writable b f (.object h)
      | none => o.writable b f .null) o.proxy (o.setReference b f target) := by
  cases target with
  | none => exact o.begins_set b f .null
  | some target => exact .after fun h => o.begins_set b f (.object h)

end ObjectProxy

namespace ListProxy

variable (b : Bridge) (l : ListProxy)

theorem begins_size : Begins (.ok ()) l.proxy (l.size b) := .live _

theorem begins_elementAt (i : UInt64) : Begins (.ok ()) l.proxy (l.elementAt b i) :=
  Begins.bind (.live _) _

end ListProxy

namespace Operation

variable {b : Bridge} {op : Operation} {p : Proxy} {e : Error}

/-- The checks that an operation makes before it looks at the handle of its proxy. -/
def checks (b : Bridge) : Operation → Except Error Unit
  | get o f _ | isSet o f | unset o f | getAs o _ f | reference o f _ => o.cls.feature f >>= fun _ => .ok ()
  | set o f v => o.writable b f v
  | getNamed o name => o.cls.featureId name >>= fun f => o.cls.feature f >>= fun _ => .ok ()
  | setNamed o name v => o.cls.featureId name >>= fun f => o.writable b f v
  | setReference o f (some target) => target.proxy.live >>= fun h => o.writable b f (.object h)
  | setReference o f none => o.writable b f .null
  | list o f _ => o.listable b f
  | _ => .ok ()

/-- An operation on an object begins with its checks. -/
theorem begins_of_object {o : ObjectProxy} (found : op.object? = some o) :
    Begins (op.checks b) o.proxy (op.action b) := by
  cases op with
  | get o f resolve =>
    cases found
    exact o.begins_get b f resolve
  | set o f v =>
    cases found
    exact o.begins_set b f v
  | isSet o f | unset o f =>
    cases found
    exact .after fun _ => .liveBase o _
  | initialise o =>
    cases found
    exact .liveBase o _
  | getAs o t f =>
    cases found
    exact (o.begins_get b f false).bind _
  | getNamed o name =>
    cases found
    exact .after fun f => o.begins_get b f false
  | setNamed o name v =>
    cases found
    exact .after fun f => o.begins_set b f v
  | reference o f view =>
    cases found
    exact (o.begins_get b f true).bind _
  | setReference o f target =>
    cases found
    have begins := o.begins_setReference b f target
    cases target <;> exact begins
  | list o f view =>
    cases found
    exact o.begins_list b f view
  | downcast o view | duplicate o view =>
    cases found
    exact .live _
  | _ => cases found

/-- So does every operation that needs a handle. What cannot be wrapped is dropped, which is silent if nothing is owned. -/
theorem begins (found : op.subject? = some p) (idle : p.owns = false) : Begins (op.checks b) p (op.action b) := by
  cases op with
  | wrap required p =>
    cases found
    rw [action,b.wrap_of_not_owns required idle]
    exact (Begins.live _).map _
  | size l =>
    cases found
    exact l.begins_size b
  | isEmpty l | handles l =>
    cases found
    exact (l.begins_size b).bind _
  | handleAt l | pushBack l | insertAt l | insertAll l | clear l =>
    cases found
    exact .live _
  | elementAt l i =>
    cases found
    exact l.begins_elementAt b i
  | next l i n =>
    rw [subject?] at found
    split at found
    · rename_i goesOn
      cases found
      rw [action,ListProxy.next,if_pos goesOn]
      exact (l.begins_elementAt b i).map _
    · cases found
  | create | createAs | wrapBorrowed | adopt | release | createList | createListOf | borrowList => cases found
  | _ =>
    cases found
    exact begins_of_object rfl

/-! ### Checks that fail -/

section
variable {o : ObjectProxy} {f : FeatureId} {v : Value}

theorem writable_of_missed (missed : o.cls.feature f = .error e) : o.writable b f v = .error e := by
  rw [ObjectProxy.writable,missed]
  rfl

theorem writable_of_misfit {feature : Feature} (checks : b.config.validation.valueKinds = true)
    (row : o.cls.feature f = .ok feature) (misfit : v.fits feature.kind.valueKind = false) :
    o.writable b f v = .error (.typeMismatch feature.kind.valueKind.name v.typeName) := by
  rw [ObjectProxy.writable,row]
  simp only [bind,Except.bind,checks,misfit,Bool.not_false,Bool.and_true,if_true]

theorem checks_of_writes (writes : op.Writes o f v) : op.checks b = o.writable b f v := by
  cases writes with
  | set => rfl
  | setNamed v found => rw [checks,found]; rfl
  | setReference f live => rw [checks,live]; rfl
  | clearReference => rfl

theorem failsEarly_of_missed (object : op.object? = some o) (given : op.feature? = some f)
    (held : ∀ target, op.target? = some target → target.proxy.isReleased = false)
    (missed : o.cls.feature f = .error e) : op.FailsEarly b e := by
  have outside := ClassType.outside_of_error missed
  rw [ClassType.feature_of_outside outside] at missed
  cases missed
  exact .range object given outside held

/-- A value that may not be written makes an operation fail early, unless it is the feature that is missing. -/
theorem failsEarly_of_writable (writes : op.Writes o f v) (failed : o.writable b f v = .error e) :
    o.cls.feature f = .error e ∨ op.FailsEarly b e := by
  cases row : o.cls.feature f with
  | error e' =>
    rw [writable_of_missed row] at failed
    cases failed
    exact .inl rfl
  | ok feature =>
    rw [ObjectProxy.writable,row] at failed
    simp only [bind,Except.bind] at failed
    split at failed
    · rename_i refused
      rw [Bool.and_eq_true,Bool.not_eq_true'] at refused
      cases failed
      exact .inr (.kind refused.1 writes row refused.2)
    · cases failed

theorem failsEarly_of_unknown {name : String} (object : op.object? = some o) (given : op.name? = some name)
    (missed : o.cls.featureId name = .error e) : op.FailsEarly b e := by
  have unknown := ClassType.unknown_of_error missed
  rw [ClassType.featureId_of_unknown unknown] at missed
  cases missed
  exact .name object given unknown

/-- The target of a many-valued feature is one of the classes, so only a feature of another sort has no list. -/
theorem listable_of_row {feature : Feature} (built : b.package.Built) (member : o.cls ∈ b.package.classes)
    (row : o.cls.feature f = .ok feature) : o.listable b f = .ok () ∨ feature.kind.isMany = false ∧
      o.listable b f = .error (.typeMismatch "list" feature.kind.valueKind.name) := by
  have proper := built.proper member (List.mem_of_getElem? (ClassType.feature_eq_ok_iff.mp row))
  rw [ObjectProxy.listable,row]
  simp only [Feature.Proper,bind,Except.bind] at proper ⊢
  generalize feature.kind = kind at proper ⊢
  cases kind with
  | data kind => exact .inr ⟨rfl,rfl⟩
  | reference target many =>
    cases many with
    | false => exact .inr ⟨rfl,rfl⟩
    | true =>
      obtain ⟨-,t,named⟩ := proper
      left
      dsimp only
      rw [Package.requireNamed_eq_ok_iff.mpr named]
      rfl

end

/-- Every reason to fail early is found by the checks. -/
theorem checks_of_failsEarly (genuine : op.Genuine b) (fails : op.FailsEarly b e) : op.checks b = .error e := by
  cases fails with
  | @range _ o f object given outside held =>
    have missed := ClassType.feature_of_outside outside
    cases op with
    | get | isSet | unset | getAs | reference =>
      cases object
      cases given
      rw [checks,missed]
      rfl
    | set =>
      cases object
      cases given
      exact writable_of_missed missed
    | setReference o f target =>
      cases object
      cases given
      cases target with
      | none => exact writable_of_missed missed
      | some target =>
        -- The target is looked at before the feature, so it must not be what fails.
        rcases (genuine.target target rfl).live_or_retired with live | retired
        · exact (checks_of_writes (.setReference f live)).trans (writable_of_missed missed)
        · have unreleased := held target rfl
          rw [retired] at unreleased
          cases unreleased
    | list =>
      cases object
      cases given
      rw [checks,ObjectProxy.listable,missed]
      rfl
    | _ => cases given
  | kind validated writes row misfit =>
    rw [checks_of_writes writes]
    exact writable_of_misfit validated row misfit
  | name object given unknown =>
    have missed := ClassType.featureId_of_unknown unknown
    cases op with
    | getNamed | setNamed =>
      cases object
      cases given
      rw [checks,missed]
      rfl
    | _ => cases given
  | @single o f feature view row single =>
    rw [checks,ObjectProxy.listable,row]
    simp only [bind,Except.bind]
    split
    · rename_i isMany
      rw [isMany] at single
      cases single
    · rfl

/-- There are no other reasons, except that the target of a reference has no handle. -/
theorem failsEarly_of_checks (built : b.package.Built) (genuine : op.Genuine b) (failed : op.checks b = .error e) :
    op.FailsEarly b e ∨ ∃ target, op.target? = some target ∧ target.proxy.live = .error e := by
  cases op with
  | get o f | isSet o f | unset o f | getAs o _ f | reference o f =>
    cases row : o.cls.feature f with
    | ok feature =>
      rw [checks,row] at failed
      cases failed
    | error e' =>
      rw [checks,row] at failed
      cases failed
      exact .inl (failsEarly_of_missed rfl rfl nofun row)
  | set o f v =>
    rcases failsEarly_of_writable (.set o f v) failed with missed | fails
    · exact .inl (failsEarly_of_missed rfl rfl nofun missed)
    · exact .inl fails
  | setReference o f target =>
    cases target with
    | none =>
      rcases failsEarly_of_writable (.clearReference o f) failed with missed | fails
      · exact .inl (failsEarly_of_missed rfl rfl nofun missed)
      · exact .inl fails
    | some target =>
      cases live : target.proxy.live with
      | error e' =>
        rw [checks,live] at failed
        cases failed
        exact .inr ⟨target,rfl,live⟩
      | ok h =>
        rw [checks,live] at failed
        rcases failsEarly_of_writable (.setReference f live) failed with missed | fails
        · refine .inl (failsEarly_of_missed rfl rfl ?_ missed)
          rintro _ ⟨⟩
          exact (Proxy.live_eq_ok_iff.mp live).1
        · exact .inl fails
  | getNamed o name =>
    cases found : o.cls.featureId name with
    | error e' =>
      rw [checks,found] at failed
      cases failed
      exact .inl (failsEarly_of_unknown rfl rfl found)
    | ok f =>
      obtain ⟨feature,row⟩ := (built.indexed (genuine.object o rfl).known).feature_of_featureId found
      rw [checks,found] at failed
      change (o.cls.feature f >>= fun _ => .ok ()) = _ at failed
      rw [row] at failed
      cases failed
  | setNamed o name v =>
    cases found : o.cls.featureId name with
    | error e' =>
      rw [checks,found] at failed
      cases failed
      exact .inl (failsEarly_of_unknown rfl rfl found)
    | ok f =>
      obtain ⟨feature,row⟩ := (built.indexed (genuine.object o rfl).known).feature_of_featureId found
      rw [checks,found] at failed
      rcases failsEarly_of_writable (.setNamed v found) failed with missed | fails
      · cases row.symm.trans missed
      · exact .inl fails
  | list o f view =>
    cases row : o.cls.feature f with
    | error e' =>
      rw [checks,ObjectProxy.listable,row] at failed
      cases failed
      exact .inl (failsEarly_of_missed rfl rfl nofun row)
    | ok feature =>
      rcases listable_of_row built (genuine.object o rfl).known row with listed | ⟨single,refused⟩
      · cases listed.symm.trans failed
      · cases refused.symm.trans failed
        exact .inl (.single view row single)
  | _ => cases failed

/-! ### Operations that stop -/

/-- An operation with a reason to fail early stops with that error. -/
theorem stops_of_failsEarly (genuine : op.Genuine b) (fails : op.FailsEarly b e) : Stops (op.action b) e := by
  have onObject : ∃ o, op.object? = some o := by
    cases fails with
    | range object => exact ⟨_,object⟩
    | kind _ writes => cases writes <;> exact ⟨_,rfl⟩
    | name object => exact ⟨_,object⟩
    | single => exact ⟨_,rfl⟩
  obtain ⟨o,found⟩ := onObject
  exact .of_eq ((begins_of_object found).refused (checks_of_failsEarly genuine fails))

/-- The target that a reference is set to is looked at first. If it has no handle, it was released, and so was the
proxy. -/
theorem eq_of_target {target : ObjectProxy} {e' : Error} (genuine : op.Genuine b) (found : op.subject? = some p)
    (lacks : p.Lacks e) (given : op.target? = some target) (dead : target.proxy.live = .error e') : e' = e := by
  have released := (genuine.target target given).eq_released dead
  cases op with
  | setReference o f =>
    cases found
    exact released.trans ((genuine.object o rfl).eq_released lacks.live).symm
  | _ => cases given

/-- An operation without such a reason stops when its proxy has no handle. -/
theorem stops_of_lacks (built : b.package.Built) (genuine : op.Genuine b) (found : op.subject? = some p)
    (lacks : p.Lacks e) (passes : ∀ e', ¬op.FailsEarly b e') : Stops (op.action b) e := by
  have begins := begins (b := b) found lacks.owns
  cases checked : op.checks b with
  | ok => exact .of_eq (begins.lacking checked lacks.live)
  | error e' =>
    rcases failsEarly_of_checks built genuine checked with fails | ⟨target,given,dead⟩
    · exact absurd fails (passes e')
    · rw [eq_of_target genuine found lacks given dead] at checked
      exact .of_eq (begins.refused checked)

end Operation

/-- What is found out before the boundary, whoever answers, and what a proxy is good for after it was released. -/
structure CatchesEarly (b : Bridge) : Prop where
  /-- A feature that is out of range, a value of the wrong kind, an unknown name, a feature without a list. -/
  early : ∀ (op : Operation) e, op.Genuine b → op.FailsEarly b e → Stops (op.action b) e
  /-- A proxy that was released or is for null. -/
  lacking : ∀ (op : Operation) (p : Proxy) e, op.Genuine b → op.subject? = some p → p.Lacks e →
    (∀ e', ¬op.FailsEarly b e') → Stops (op.action b) e
  getNamedAs : ∀ (o : ObjectProxy) t name e, Stops (o.getNamed b name) e → Stops (o.getNamedAs b t name) e
  iterate : ∀ (l : ListProxy) e, Stops (l.size b) e → Stops (l.iterate b) e
  /-- Whatever comes of a release, it leaves a proxy without its handle, and releasing it again does nothing. -/
  released : ∀ (σ : Type) (respond : (e : Effect) → StateM σ e.Answer) (c : Session.Course σ) name held as,
    c.state.proxies.lookup name = some held →
    let next := (c.step b respond (.release name) as).2
    next.state.proxies.lookup name = some (held.withProxy .retired) ∧
      ∀ more, (next.step b respond (.release name) more).1 = .ok (.flag false) ∧
        (next.step b respond (.release name) more).2.log = next.log
  idle : ∀ (p : Proxy) e, p.Lacks e → p.release b = pure false

/-- Operations on proxies find out early what they can find out early, in every package that was built. -/
theorem preconditions_caught_early {b : Bridge} (built : b.package.Built) : CatchesEarly b where
  early _ _ genuine fails := Operation.stops_of_failsEarly genuine fails
  lacking _ _ _ genuine found lacks passes := Operation.stops_of_lacks built genuine found lacks passes
  getNamedAs o t name e stops := by
    have same : o.getNamedAs b t name = o.getNamed b name >>= fun v => liftM (t.unbox v) := (bind_assoc ..).symm
    rw [same]
    exact stops.bind _
  iterate _ _ stops := stops.bind _
  released σ respond c name held as found := by
    have once := Session.releasesOnce b respond found as
    exact ⟨once.stays,once.again⟩
  idle p _ lacks := p.release_of_not_owns b lacks.owns

/-- A proxy of a leaf. -/
def leafProxy : ObjectProxy := ⟨.owning (.ofSlot 0 1),.ofSlot 0 1,forest.classes[2]⟩

theorem leafProxy_made : leafProxy.Made ⟨forest,{}⟩ := by
  let b : Bridge := ⟨forest,{}⟩
  let created := ((b.call (.create ⟨2⟩)).run.run b.answerInMemory {}).2
  have ran : (b.wrap none (.owning (.ofSlot 0 1))).run.run b.answerInMemory created = (.ok leafProxy,created) := rfl
  exact .wrapped ran

/-- A leaf has no eighth feature and no truth value for a size, and once its proxy was released its children cannot be
asked for. -/
theorem preconditions_caught_early_for_leaf :
    Stops (leafProxy.get ⟨forest,{}⟩ ⟨7⟩ false) (.featureOutOfRange "Leaf" 7 3) ∧
    Stops (leafProxy.set ⟨forest,{}⟩ ⟨2⟩ (.bool true)) (.typeMismatch "int" "bool") ∧
    Stops (ObjectProxy.list ⟨forest,{}⟩ { leafProxy with proxy := .retired } ⟨1⟩ .reflective) .released := by
  have genuine : ∀ {op : Operation} {o : ObjectProxy}, o.Made ⟨forest,{}⟩ → op.object? = some o → op.target? = none →
      op.Genuine ⟨forest,{}⟩ := by
    intro op o made object target
    refine ⟨fun other same => ?_,fun other given => ?_⟩
    · cases object.symm.trans same
      exact made
    · cases target.symm.trans given
  have caught : CatchesEarly ⟨forest,{}⟩ := preconditions_caught_early forest_built
  refine ⟨?_,?_,?_⟩
  · have outside : leafProxy.cls.features.length ≤ (7 : UInt32).toNat := by decide
    have range : Operation.FailsEarly ⟨forest,{}⟩ (.get leafProxy ⟨7⟩ false) (.featureOutOfRange "Leaf" 7 3) :=
      .range rfl rfl outside fun _ given => nomatch given
    exact caught.early _ _ (genuine leafProxy_made rfl rfl) range
  · have row : leafProxy.cls.feature ⟨2⟩ = .ok ⟨⟨2⟩,"size",.data .int,.int 1⟩ := rfl
    have kind : Operation.FailsEarly ⟨forest,{}⟩ (.set leafProxy ⟨2⟩ (.bool true)) (.typeMismatch "int" "bool") :=
      .kind rfl (.set ..) row rfl
    exact caught.early _ _ (genuine leafProxy_made rfl rfl) kind
  · refine caught.lacking (.list _ ⟨1⟩ .reflective) _ _ (genuine leafProxy_made.released rfl rfl) rfl .released ?_
    intro e fails
    cases fails with
    | range object given outside =>
      cases object
      cases given
      exact absurd outside (by decide)
    | kind _ writes => cases writes
    | name _ given => cases given
    | single _ row single =>
      cases row
      cases single

end HandleBridge
