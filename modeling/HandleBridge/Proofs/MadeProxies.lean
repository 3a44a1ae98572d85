import HandleBridge.Proofs.InformedProxies
import HandleBridge.Proofs.RelayedErrors

/-!
How proxies come about. Whoever answers, an object proxy is made for a handle that there is, and the class that it caches
is one of the package. A proxy that is released holds nothing afterwards.
-/

namespace HandleBridge

/-- Whether a condition holds of what an action gives when it succeeds, whatever it is answered. -/
def Gives {α : Type} (x : Action α) (post : α → Prop) : Prop :=
  Script.Ensures x.run fun _ result => ∀ a, result = .ok a → post a

namespace Script.Ensures

variable {Request : Type} {Answer : Request → Type} {α σ : Type}

theorem any (s : Script Request Answer α) : s.Ensures fun _ _ => True := by
  induction s with
  | done a => trivial
  | ask r next ih => exact fun answer => ih answer

/-- What is so of every result is so of the result of one run. -/
theorem result {s : Script Request Answer α} {post : α → Prop} (ensures : s.Ensures fun _ a => post a)
    (respond : (r : Request) → StateM σ (Answer r)) (state : σ) : post (s.run respond state).1 := by
  induction s generalizing state with
  | done a => exact ensures
  | ask r next ih => exact ih _ (ensures _) _

end Script.Ensures

namespace Gives

variable {α β : Type} {x : Action α} {post first : α → Prop}

theorem any (x : Action α) : Gives x fun _ => True := Script.Ensures.mono (.any x.run) fun _ _ _ _ _ => trivial

theorem pure {a : α} (holds : post a) : Gives (Pure.pure a) post := by
  rintro _ ⟨⟩
  exact holds

theorem lift {x : Except Error α} (holds : ∀ a, x = .ok a → post a) : Gives (liftM x) post := by
  cases x with
  | ok a => exact pure (holds a rfl)
  | error e => exact fun _ failed => nomatch failed

theorem bind {f : α → Action β} {post : β → Prop} (gives : Gives x first) (rest : ∀ a, first a → Gives (f a) post) :
    Gives (x >>= f) post := by
  refine Script.Ensures.bind gives fun _ result holds => ?_
  cases result with
  | ok a => exact rest a (holds a rfl)
  | error e => exact fun _ failed => nomatch failed

theorem after {f : α → Action β} {post : β → Prop} (rest : ∀ a, Gives (f a) post) : Gives (x >>= f) post :=
  (any x).bind fun a _ => rest a

/-- Work behind a check. -/
theorem check {p : Prop} [Decidable p] {e : Error} {rest : PUnit → Action α} (gives : Gives (rest ⟨⟩) post) :
    Gives (if p then rest ⟨⟩ else throw e >>= rest) post := by
  split
  · exact gives
  · exact fun _ failed => nomatch failed

/-- What an action gives is so in every run against any native side. -/
theorem run {σ : Type} {a : α} {state next : σ} (gives : Gives x post) {respond : (e : Effect) → StateM σ e.Answer}
    (ran : x.run.run respond state = (.ok a,next)) : post a := by
  have holds := Script.Ensures.result gives respond state
  rw [ran] at holds
  exact holds a rfl

end Gives

/-- Object proxies that some native side has a bridge make, and what is left of them when they are released. -/
inductive ObjectProxy.Made (b : Bridge) : ObjectProxy → Prop
  | wrapped {σ : Type} {respond : (e : Effect) → StateM σ e.Answer} {state next : σ} {required : Option String}
      {p : Proxy} {o : ObjectProxy} (ran : (b.wrap required p).run.run respond state = (.ok o,next)) : Made b o
  | released {o : ObjectProxy} (made : Made b o) : Made b { o with proxy := .retired }

theorem Bridge.gives_inspect (b : Bridge) (p : Proxy) (required : Option String) :
    Gives (b.inspect p required) fun found => p.live = .ok p.handle ∧ found.2 ∈ b.package.classes := by
  refine .bind (.lift fun h live => live) fun h live => .after fun base => .after fun c =>
    .bind (.lift fun cls known => Package.require_eq_ok_iff.mp known) fun cls known => ?_
  obtain ⟨unreleased,notNull,rfl⟩ := Proxy.live_eq_ok_iff.mp live
  cases required with
  | none => exact .pure ⟨live,Package.class?_mem known⟩
  | some name => exact .after fun expected => .check (.pure ⟨live,Package.class?_mem known⟩)

/-- A proxy that was wrapped is live, and its class is one of the package. -/
theorem Bridge.gives_wrap (b : Bridge) (required : Option String) (p : Proxy) :
    Gives (b.wrap required p) fun o => o.proxy.live = .ok o.proxy.handle ∧ o.cls ∈ b.package.classes := by
  refine Script.Ensures.bind (b.gives_inspect p required) fun _ result holds => ?_
  cases result with
  | ok found =>
    rintro _ ⟨⟩
    exact holds found rfl
  | error e => exact Script.Ensures.bind (.any _) fun _ _ _ _ failed => nomatch failed

namespace ObjectProxy.Made

variable {b : Bridge} {o : ObjectProxy} (made : o.Made b)
include made

/-- The class that a proxy caches is a class of the package. -/
theorem known : o.cls ∈ b.package.classes := by
  induction made with
  | wrapped ran => exact ((b.gives_wrap _ _).run ran).2
  | released _ ih => exact ih

/-- A proxy has a handle until it is released, and holds nothing from then on. -/
theorem live_or_retired : o.proxy.live = .ok o.proxy.handle ∨ o.proxy = .retired := by
  induction made with
  | wrapped ran => exact .inl ((b.gives_wrap _ _).run ran).1
  | released _ _ => exact .inr rfl

theorem eq_released {e : Error} (dead : o.proxy.live = .error e) : e = .released := by
  rcases made.live_or_retired with live | retired
  · cases live.symm.trans dead
  · rw [retired] at dead
    cases dead
    rfl

end ObjectProxy.Made

end HandleBridge
