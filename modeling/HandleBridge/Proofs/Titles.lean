import Mathlib.Algebra.Order.Group.Multiset
import HandleBridge.Proofs.PlainCode

/-!
Titles: who has to destroy what. Making something and adopting it each give one title to its handle, and a call to
destroy it uses one title up. A routine settles its titles if it destroys only what it has a title to, whatever it is
answered, and the titles that are left at its end are the ones that its result says.
-/

namespace HandleBridge

/-- Title to destroy what is behind a handle; there is none to null. -/
def Handle.title (h : Handle) : Multiset Handle := if h.isNull then 0 else {h}

def Proxy.title (p : Proxy) : Multiset Handle := if p.owns then {p.handle} else 0

@[simp] theorem Proxy.title_owning (h : Handle) : (owning h).title = h.title := by
  cases isNull : h.isNull <;> simp [title,owns,owning,Handle.title,Ownership.isOwned,isNull]

@[simp] theorem Proxy.title_borrowing (h : Handle) : (borrowing h).title = 0 := by
  simp [title]

@[simp] theorem Proxy.title_retired : retired.title = 0 := rfl

theorem Proxy.title_of_not_owns {p : Proxy} (idle : p.owns = false) : p.title = 0 := by
  simp [title,idle]

/-- Whether an event is no more than a report: adopting gives a title, and a failed drop gives a failure away. -/
def Event.isNeutral : Event → Bool
  | adopted _ | dropFailed _ => false
  | _ => true

namespace Effect

/-- Title that an effect uses up. -/
def destroys : Effect → Multiset Handle
  | call (.destroy h) => {h}
  | _ => 0

/-- Title that an effect takes over from outside. -/
def adopts : Effect → Multiset Handle
  | note (.adopted h) => h.title
  | _ => 0

/-- Title that an effect gives, by what it is answered. -/
def acquires : (e : Effect) → e.Answer → Multiset Handle
  | call (.create _), .ok h | call (.copy _), .ok h | call (.createList _), .ok h => h.title
  | note (.adopted h), _ => h.title
  | _, _ => 0

/-- Whether an answer is one to count with; `failing` says whether calls to destroy may fail. -/
def Expects (failing : Prop) : (e : Effect) → e.Answer → Prop
  | call (.destroy _), .error _ => failing
  | _, _ => True

/-- If calls to destroy may fail, every answer is one to count with. -/
theorem expects_of_failing {failing : Prop} (may : failing) (e : Effect) (answer : e.Answer) :
    e.Expects failing answer := by
  cases e with
  | note => exact trivial
  | call c =>
    cases c with
    | destroy h =>
      cases answer with
      | ok => exact trivial
      | error => exact may
    | _ => exact trivial

section Neutral

variable {c : Call Value} (neutral : c.isNeutral = true)
include neutral

theorem destroys_of_isNeutral : (call c).destroys = 0 := by
  cases c <;> first | rfl | cases neutral

theorem acquires_of_isNeutral (answer : Except Error c.Reply) : (call c).acquires answer = 0 := by
  cases c <;> first | rfl | cases neutral

theorem expects_of_isNeutral {failing : Prop} (answer : Except Error c.Reply) : (call c).Expects failing answer := by
  cases c <;> first | exact trivial | cases neutral

end Neutral

end Effect

/-- Titles at one point of a course. -/
structure Titles where
  /-- Handles that somebody has to destroy, each as often as somebody has to. -/
  owned : Multiset Handle
  /-- Handles that may be adopted. -/
  raw : Multiset Handle

namespace Titles

def after (t : Titles) (e : Effect) (answer : e.Answer) : Titles :=
  ⟨e.acquires answer + (t.owned - e.destroys),t.raw - e.adopts⟩

/-- Whether an effect keeps to the titles. -/
structure Licit (failing : Prop) (t : Titles) (e : Effect) : Prop where
  destroyed : e.destroys ≤ t.owned
  adopted : e.adopts ≤ t.raw
  /-- A failed drop is reported only if calls to destroy may fail. -/
  reported : ∀ error, e = .note (.dropFailed error) → failing

end Titles

theorem within_of_run {σ α : Type} {Within : σ → Prop} {respond : (e : Effect) → StateM σ e.Answer} {s : σ}
    (back : ∀ s e, Within (respond e s).2 → Within s) (r : Routine α) (within : Within (r.run respond s).2) :
    Within s := by
  induction r generalizing s with
  | done a => exact within
  | ask e next ih => exact back s e (ih _ within)

/-- Whether a routine that starts with some titles keeps to them and ends as the postcondition says. -/
def Settles (failing : Prop) {α : Type} (r : Routine α) (t : Titles) (post : α → Titles → Prop) : Prop :=
  match r with
  | Script.done a => post a t
  | Script.ask e next =>
    t.Licit failing e ∧ ∀ answer, e.Expects failing answer → Settles failing (next answer) (t.after e answer) post

namespace Settles

variable {failing : Prop} {α β γ : Type} {t : Titles} {post : α → Titles → Prop}

theorem mono {r : Routine α} {weaker : α → Titles → Prop} (settles : Settles failing r t post)
    (weaken : ∀ a u, post a u → weaker a u) : Settles failing r t weaker := by
  induction r generalizing t with
  | done a => exact weaken a t settles
  | ask e next ih => exact ⟨settles.1,fun answer expected => ih answer (settles.2 answer expected)⟩

/-- A routine in two parts settles its titles if the second part settles what the first leaves. -/
theorem bind {r : Routine β} {f : β → Routine α}
    (settles : Settles failing r t fun a u => Settles failing (f a) u post) : Settles failing (r >>= f) t post := by
  induction r generalizing t with
  | done a => exact settles
  | ask e next ih => exact ⟨settles.1,fun answer expected => ih answer (settles.2 answer expected)⟩

theorem action_map {x : Action β} {f : β → γ} {post : Except Error γ → Titles → Prop}
    (settles : Settles failing x.run t fun result u => post (result.map f) u) :
    Settles failing (f <$> x).run t post := by
  rw [map_eq_pure_bind]
  refine bind (settles.mono fun result u holds => ?_)
  cases result with
  | ok b => exact holds
  | error e => exact holds

/-- What a responder keeps in step with the titles, it keeps while it answers a routine that settles them. The
responder may need to stay within bounds that it never comes back to once it has left them. -/
theorem run {σ : Type} (Inv : σ → Titles → Prop) (Within : σ → Prop) {respond : (e : Effect) → StateM σ e.Answer}
    {r : Routine α} {s : σ} (back : ∀ s e, Within (respond e s).2 → Within s)
    (keeps : ∀ s t e, Within (respond e s).2 → Inv s t → t.Licit failing e →
      e.Expects failing (respond e s).1 ∧ Inv (respond e s).2 (t.after e (respond e s).1))
    (settles : Settles failing r t post) (inv : Inv s t) (within : Within (r.run respond s).2) :
    ∃ u, post (r.run respond s).1 u ∧ Inv (r.run respond s).2 u := by
  induction r generalizing s t with
  | done a => exact ⟨t,settles,inv⟩
  | ask e next ih =>
    obtain ⟨expected,inv⟩ := keeps s t e (within_of_run back (next _) within) inv settles.1
    exact ih _ (settles.2 _ expected) inv within

end Settles

/-- Whether a routine may be run at any time without a change of the titles. -/
def Idle (failing : Prop) {α : Type} (r : Routine α) : Prop :=
  ∀ t (post : α → Titles → Prop), (∀ a, post a t) → Settles failing r t post

namespace Idle

variable {failing : Prop} {α β : Type}

theorem pure (a : α) : Idle failing (Pure.pure a : Routine α) := fun _ _ holds => holds a

theorem bind {r : Routine α} {f : α → Routine β} (first : Idle failing r) (rest : ∀ a, Idle failing (f a)) :
    Idle failing (r >>= f) :=
  fun t post holds => .bind (first t _ fun a => rest a t post holds)

theorem lift {r : Routine α} (idle : Idle failing r) : Idle failing (liftM r : Action α).run :=
  idle.bind fun a => pure (Except.ok a)

theorem action_bind {x : Action α} {f : α → Action β} (first : Idle failing x.run)
    (rest : ∀ a, Idle failing (f a).run) : Idle failing (x >>= f).run := by
  refine Idle.bind first fun result => ?_
  cases result with
  | ok a => exact rest a
  | error e => exact pure (Except.error e)

theorem action_map {x : Action α} (f : α → β) (idle : Idle failing x.run) : Idle failing (f <$> x).run := by
  rw [map_eq_pure_bind]
  exact idle.action_bind fun a => pure (Except.ok (f a))

/-- An effect that gives no title, uses none up and reports no failed drop. -/
theorem request {e : Effect} (acquires : ∀ answer, e.acquires answer = 0) (destroys : e.destroys = 0)
    (adopts : e.adopts = 0) (quiet : ∀ error, e ≠ .note (.dropFailed error)) :
    Idle failing (Script.ask e .done) := by
  intro t post holds
  refine ⟨⟨?_,?_,fun error same => absurd same (quiet error)⟩,fun answer _ => ?_⟩
  · rw [destroys]
    exact Multiset.zero_le _
  · rw [adopts]
    exact Multiset.zero_le _
  · have same : t.after e answer = t := by
      simp [Titles.after,acquires,destroys,adopts]
    rw [same]
    exact holds answer

theorem note (e : Event) (neutral : e.isNeutral = true) : Idle failing (Routine.note e) := by
  cases e with
  | adopted | dropFailed => cases neutral
  | _ => exact request (fun _ => rfl) rfl rfl nofun

theorem announce (b : Bridge) (c : Call Value) : Idle failing (b.announce c) := by
  unfold Bridge.announce
  split
  · exact note _ rfl
  · exact pure _

theorem reportFailure {c : Call Value} (answer : Except Error c.Reply) :
    Idle failing (Bridge.reportFailure c answer) := by
  cases answer with
  | ok => exact pure _
  | error e => exact note _ rfl

end Idle

/-- A boundary call settles its titles if its effect does. -/
theorem Settles.call {failing : Prop} (b : Bridge) {c : Call Value} {t : Titles}
    {post : Except Error c.Reply → Titles → Prop} (licit : t.Licit failing (.call c))
    (holds : ∀ answer, (Effect.call c).Expects failing answer → post answer (t.after (.call c) answer)) :
    Settles failing (b.call c).run t post := by
  rw [Bridge.call_run]
  refine .bind (Idle.announce b c _ _ fun _ => .bind ⟨licit,fun answer expected => ?_⟩)
  exact bind (r := Bridge.reportFailure c answer) (Idle.reportFailure answer _ _ fun _ => holds answer expected)

/-- A neutral call leaves the titles alone. -/
theorem Idle.call {failing : Prop} (b : Bridge) (c : Call Value) (neutral : c.isNeutral = true) :
    Idle failing (b.call c).run := by
  intro t post holds
  have destroys := Effect.destroys_of_isNeutral neutral
  refine Settles.call b ⟨?_,Multiset.zero_le _,nofun⟩ fun answer _ => ?_
  · rw [destroys]
    exact Multiset.zero_le _
  · have same : t.after (.call c) answer = t := by
      simp [Titles.after,Effect.acquires_of_isNeutral neutral,destroys,Effect.adopts]
    rw [same]
    exact holds answer

/-- Plain code may be run at any time. -/
theorem Plain.idle {failing : Prop} {α : Type} {x : Action α} (plain : Plain x) : Idle failing x.run := by
  induction plain with
  | pure a => exact Idle.pure (Except.ok a)
  | throw e => exact Idle.pure (Except.error e)
  | call b c neutral => exact Idle.call b c neutral
  | bind first rest firstIdle restIdle => exact firstIdle.action_bind restIdle

/-! ### Work that uses titles up and answers with titles -/

/-- Titles that come with a result; none come with an error. -/
def titlesOf {α : Type} (title : α → Multiset Handle) : Except Error α → Multiset Handle
  | .ok a => title a
  | .error _ => 0

theorem Effect.acquires_create {c : ClassId} (answer : Except Error Handle) :
    (Effect.call (.create c)).acquires answer = titlesOf Handle.title answer := by
  cases answer <;> rfl

theorem Effect.acquires_copy {h : Handle} (answer : Except Error Handle) :
    (Effect.call (.copy h)).acquires answer = titlesOf Handle.title answer := by
  cases answer <;> rfl

theorem Effect.acquires_createList {c : ClassId} (answer : Except Error Handle) :
    (Effect.call (.createList c)).acquires answer = titlesOf Handle.title answer := by
  cases answer <;> rfl

/-- Whether an action uses up the titles that it takes, adopts what it is said to adopt, and answers with titles. -/
def Yields (failing : Prop) (takes adopts : Multiset Handle) {α : Type} (x : Action α)
    (title : α → Multiset Handle) : Prop :=
  ∀ others raw, Settles failing x.run ⟨takes + others,adopts + raw⟩ fun result t =>
    t = ⟨titlesOf title result + others,raw⟩

namespace Yields

variable {failing : Prop} {takes adopts : Multiset Handle} {α β : Type} {title : α → Multiset Handle}

theorem pure {a : α} (same : title a = takes) : Yields failing takes 0 (Pure.pure a) title := by
  intro others raw
  rw [zero_add,← same]
  exact rfl

theorem throw (e : Error) : Yields failing 0 0 (throw e : Action α) title := by
  intro others raw
  rw [zero_add,zero_add]
  show _ = _
  rw [titlesOf,zero_add]

theorem plain {x : Action α} (plain : Plain x) : Yields failing 0 0 x fun _ => 0 := by
  intro others raw
  refine plain.idle _ _ fun result => ?_
  cases result <;> simp [titlesOf]

theorem lift (x : Except Error α) : Yields failing 0 0 (liftM x : Action α) fun _ => 0 := plain (.lift x)

/-- What an action hands to the next one, that one takes as its own. -/
theorem bind {x : Action β} {f : β → Action α} {between : β → Multiset Handle}
    (first : Yields failing takes adopts x between) (rest : ∀ b, Yields failing (between b) 0 (f b) title) :
    Yields failing takes adopts (x >>= f) title := by
  intro others raw
  refine Settles.bind ((first others raw).mono fun result t same => ?_)
  subst same
  cases result with
  | ok b =>
    have rest := rest b others raw
    rw [zero_add] at rest
    exact rest
  | error e => exact rfl

theorem map {x : Action β} (f : β → α) (yields : Yields failing takes adopts x fun b => title (f b)) :
    Yields failing takes adopts (f <$> x) title := by
  rw [map_eq_pure_bind]
  exact yields.bind fun b => pure rfl

/-- A report passes titles on. -/
theorem note (e : Event) (neutral : e.isNeutral = true) :
    Yields failing takes 0 (liftM (Routine.note e) : Action Unit) fun _ => takes := by
  intro others raw
  rw [zero_add]
  exact .bind (Idle.note e neutral _ _ fun _ => rfl)

/-- A call that destroys nothing answers with the title that it gives. -/
theorem call (b : Bridge) {c : Call Value} {title : c.Reply → Multiset Handle}
    (destroys : (Effect.call c).destroys = 0)
    (acquires : ∀ answer, (Effect.call c).acquires answer = titlesOf title answer) :
    Yields failing 0 0 (b.call c) title := by
  intro others raw
  refine Settles.call b ⟨?_,Multiset.zero_le _,nofun⟩ fun answer _ => ?_
  · rw [destroys]
    exact Multiset.zero_le _
  · simp [Titles.after,acquires,destroys,Effect.adopts]

theorem create (b : Bridge) (cls : ClassId) : Yields failing 0 0 (b.call (.create cls)) Handle.title :=
  call b rfl Effect.acquires_create

theorem copy (b : Bridge) (h : Handle) : Yields failing 0 0 (b.call (.copy h)) Handle.title :=
  call b rfl Effect.acquires_copy

theorem createList (b : Bridge) (cls : ClassId) : Yields failing 0 0 (b.call (.createList cls)) Handle.title :=
  call b rfl Effect.acquires_createList

end Yields

variable {failing : Prop} (b : Bridge)

namespace Proxy

variable (p : Proxy)

/-- Releasing uses the title of the proxy up, whether or not the call succeeds, and fails only if that call does. -/
theorem settles_release (others raw : Multiset Handle) :
    Settles failing (p.release b).run ⟨p.title + others,raw⟩ fun result t =>
      t = ⟨others,raw⟩ ∧ (failing ∨ result = .ok p.owns) := by
  cases owns : p.owns with
  | false =>
    rw [release_of_not_owns b owns,title_of_not_owns owns,zero_add]
    exact ⟨rfl,.inr rfl⟩
  | true =>
    rw [release_of_owns b owns,title,if_pos owns]
    refine Settles.bind (r := (liftM (Routine.note (.releasing p.handle)) : Action Unit).run) ?_
    refine .bind (Idle.note _ rfl _ _ fun _ => ?_)
    refine Settles.bind (Settles.call b ⟨?_,Multiset.zero_le _,nofun⟩ fun answer expected => ?_)
    · exact Multiset.le_add_right _ _
    · cases answer with
      | ok => exact ⟨by simp [Titles.after,Effect.acquires,Effect.destroys,Effect.adopts],.inr rfl⟩
      | error e => exact ⟨by simp [Titles.after,Effect.acquires,Effect.destroys,Effect.adopts],.inl expected⟩

/-- So does dropping, which reports a failure of that call only. -/
theorem settles_drop (others raw : Multiset Handle) :
    Settles failing (p.drop b) ⟨p.title + others,raw⟩ fun _ t => t = ⟨others,raw⟩ := by
  refine Settles.bind ((p.settles_release b others raw).mono fun result t ⟨same,failed⟩ => ?_)
  subst same
  cases result with
  | ok => exact rfl
  | error e =>
    have failing := failed.resolve_right nofun
    refine ⟨⟨Multiset.zero_le _,Multiset.zero_le _,fun _ _ => failing⟩,fun _ _ => ?_⟩
    simp [Settles,Titles.after,Effect.acquires,Effect.destroys,Effect.adopts]

/-- Adopting moves a title from outside to the new proxy. -/
theorem settles_adopt (h : Handle) (others raw : Multiset Handle) :
    Settles failing (Proxy.adopt h) ⟨others,h.title + raw⟩ fun p t => t = ⟨p.title + others,raw⟩ := by
  refine ⟨⟨Multiset.zero_le _,Multiset.le_add_right _ _,nofun⟩,fun _ _ => ?_⟩
  show Titles.after _ (.note (.adopted h)) () = _
  simp [Titles.after,Effect.acquires,Effect.destroys,Effect.adopts]

theorem yields_adopt (h : Handle) : Yields failing 0 h.title (liftM (Proxy.adopt h) : Action Proxy) title := by
  intro others raw
  rw [zero_add]
  exact .bind ((settles_adopt h others raw).mono fun _ _ same => same)

end Proxy

namespace Bridge

/-- A proxy keeps its title when it is wrapped, and loses it with a failure. -/
theorem yields_wrap (required : Option String) (p : Proxy) :
    Yields failing p.title 0 (b.wrap required p) fun o => o.proxy.title := by
  intro others raw
  rw [zero_add]
  refine Settles.bind ((b.plain_inspect p required).idle _ _ fun result => ?_)
  cases result with
  | ok found => exact rfl
  | error e =>
    refine Settles.bind ((p.settles_drop b others raw).mono fun _ t same => ?_)
    rw [same]
    exact congrArg (Titles.mk · raw) (zero_add others).symm

theorem yields_wrapOwning (required : Option String) (h : Handle) :
    Yields failing h.title 0 (b.wrap required (.owning h)) fun o => o.proxy.title := by
  rw [← Proxy.title_owning]
  exact yields_wrap b required (.owning h)

theorem yields_wrapBorrowing (required : Option String) (h : Handle) :
    Yields failing 0 0 (b.wrap required (.borrowing h)) fun o => o.proxy.title := by
  have wrapped : Yields failing (Proxy.borrowing h).title 0 _ _ := yields_wrap b required (.borrowing h)
  rwa [Proxy.title_borrowing] at wrapped

theorem yields_createAs (view : View) (name : String) :
    Yields failing 0 0 (b.createAs view name) fun o => o.proxy.title :=
  (Yields.lift _).bind fun cls => (Yields.create b cls.id).bind fun h => (Yields.note _ rfl).bind fun _ =>
    yields_wrapOwning b view.required h

theorem yields_create (view : View) : Yields failing 0 0 (b.create view) fun o => o.proxy.title :=
  (Yields.lift _).bind fun name => yields_createAs b view name

def titleOf? (o : Option ObjectProxy) : Multiset Handle := o.elim 0 fun o => o.proxy.title

/-- A borrowed object comes without a title. -/
theorem yields_wrapBorrowed (view : View) (h : Handle) : Yields failing 0 0 (b.wrapBorrowed view h) titleOf? := by
  unfold wrapBorrowed
  split
  · exact (yields_wrapBorrowing b view.required _).map some
  · exact .pure rfl

/-- An adopted object comes with the title of its handle. -/
theorem yields_adopt (view : View) (h : Handle) : Yields failing 0 h.title (b.adopt view h) titleOf? := by
  cases isNull : h.isNull with
  | true =>
    simp only [adopt,Handle.nonNull?,isNull,Handle.title,if_pos]
    exact .pure rfl
  | false =>
    simp only [adopt,Handle.nonNull?,isNull,Bool.false_eq_true,if_false]
    exact (Proxy.yields_adopt h).bind fun p => (yields_wrap b view.required p).map some

theorem yields_createListOf (view : View) (name : String) :
    Yields failing 0 0 (b.createListOf view name) fun l => l.proxy.title :=
  (Yields.lift _).bind fun cls => (Yields.lift _).bind fun _ => (Yields.createList b cls.id).bind fun h =>
    (Yields.note _ rfl).bind fun _ => .pure (Proxy.title_owning h)

theorem yields_createList (view : View) : Yields failing 0 0 (b.createList view) fun l => l.proxy.title :=
  (Yields.lift _).bind fun name => yields_createListOf b view name

theorem yields_borrowList (view : View) (h : Handle) (elementClass : ClassId) :
    Yields failing 0 0 (liftM (b.borrowList view h elementClass) : Action ListProxy) fun l => l.proxy.title := by
  unfold borrowList
  cases b.checkView elementClass view with
  | ok => exact .pure (Proxy.title_borrowing h)
  | error e => exact .throw e

end Bridge

/-- A copy comes with a title of its own. -/
theorem ObjectProxy.yields_duplicate (o : ObjectProxy) (view : View) :
    Yields failing 0 0 (o.duplicate b view) fun o => o.proxy.title :=
  (Yields.lift _).bind fun h => (Yields.copy b h).bind fun copy => (Yields.note _ rfl).bind fun _ =>
    b.yields_wrapOwning view.required copy

end HandleBridge
