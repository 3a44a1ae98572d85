import HandleBridge.Heap.Respond
import HandleBridge.Proofs.ArenaState
import HandleBridge.Proofs.Matching

/-!
Data under another choice of handles. A pairing relates the handles of one heap to those of another, one to one and null
to null; values, entries, errors and calls are renamed when they differ in paired handles only.
-/

namespace HandleBridge

/-- Whether a relation pairs handles one to one, null with null. -/
structure Pairing (R : Handle → Handle → Prop) : Prop where
  null : R .null .null
  unique : ∀ {h h' k k' : Handle}, R h h' → R k k' → (h = k ↔ h' = k')

/-- Whether an error speaks of no handle; what the native side words may. -/
def Error.isHandleFree : Error → Bool
  | .staleHandle _ | .notAList _ | .native _ _ => false
  | _ => true

section
variable (R : Handle → Handle → Prop)

inductive Value.Renamed : Value → Value → Prop
  | plain {v : Value} (handleFree : v.handle? = none) : Renamed v v
  | object {h h' : Handle} (same : R h h') : Renamed (.object h) (.object h')
  | list {h h' : Handle} (same : R h h') : Renamed (.list h) (.list h')

structure Field.Renamed (x y : Field) : Prop where
  value : x.value.Renamed R y.value
  isSet : x.isSet = y.isSet

structure ObjectData.Renamed (o o' : ObjectData) : Prop where
  cls : o.cls = o'.cls
  fields : List.Forall₂ (Field.Renamed R) o.fields o'.fields
  initialised : o.initialised = o'.initialised

structure ListData.Renamed (l l' : ListData) : Prop where
  elementClass : l.elementClass = l'.elementClass
  items : List.Forall₂ R l.items l'.items
  owner : Option.Rel R l.owner l'.owner

inductive Entry.Renamed : Entry → Entry → Prop
  | object {o o' : ObjectData} (same : o.Renamed R o') : Renamed (.object o) (.object o')
  | list {l l' : ListData} (same : l.Renamed R l') : Renamed (.list l) (.list l')

/-- The only text of the heap with handles in it is the one about a list that has an owner. -/
inductive Error.Renamed : Error → Error → Prop
  | plain {e : Error} (handleFree : e.isHandleFree = true) : Renamed e e
  | stale {h h' : Handle} (same : R h h') : Renamed (.staleHandle h) (.staleHandle h')
  | notAList {h h' : Handle} (same : R h h') : Renamed (.notAList h) (.notAList h')
  | owned {b c h k : Handle} (list : R b c) (owner : R h k) :
      Renamed (.native (-2) s!"list {b.display} is owned by object {h.display}")
        (.native (-2) s!"list {c.display} is owned by object {k.display}")

/-- The calls are the same operation, on paired handles and with values that are the same up to them. -/
inductive Call.Renamed : Call Value → Call Value → Prop
  | create (c : ClassId) : Renamed (.create c) (.create c)
  | destroy {h h' : Handle} (same : R h h') : Renamed (.destroy h) (.destroy h')
  | upcast {h h' : Handle} (same : R h h') : Renamed (.upcast h) (.upcast h')
  | initialise {h h' : Handle} (same : R h h') : Renamed (.initialise h) (.initialise h')
  | copy {h h' : Handle} (same : R h h') : Renamed (.copy h) (.copy h')
  | classOf {h h' : Handle} (same : R h h') : Renamed (.classOf h) (.classOf h')
  | get {h h' : Handle} (f : FeatureId) (resolve : Bool) (same : R h h') : Renamed (.get h f resolve) (.get h' f resolve)
  | set {h h' : Handle} {v v' : Value} (f : FeatureId) (same : R h h') (value : v.Renamed R v') :
      Renamed (.set h f v) (.set h' f v')
  | isSet {h h' : Handle} (f : FeatureId) (same : R h h') : Renamed (.isSet h f) (.isSet h' f)
  | unset {h h' : Handle} (f : FeatureId) (same : R h h') : Renamed (.unset h f) (.unset h' f)
  | createList (c : ClassId) : Renamed (.createList c) (.createList c)
  | listSize {h h' : Handle} (same : R h h') : Renamed (.listSize h) (.listSize h')
  | listAt {h h' : Handle} (i : UInt64) (same : R h h') : Renamed (.listAt h i) (.listAt h' i)
  | pushBack {h h' x x' : Handle} (same : R h h') (element : R x x') : Renamed (.pushBack h x) (.pushBack h' x')
  | insertAt {h h' x x' : Handle} (i : UInt64) (same : R h h') (element : R x x') :
      Renamed (.insertAt h i x) (.insertAt h' i x')
  | insertAll {h h' x x' : Handle} (same : R h h') (other : R x x') : Renamed (.insertAll h x) (.insertAll h' x')
  | clear {h h' : Handle} (same : R h h') : Renamed (.clear h) (.clear h')

/-- The replies to two calls of one operation are the same up to the handles in them. -/
def Call.SameReply : (c c' : Call Value) → c.Reply → c'.Reply → Prop
  | .create _, .create _ | .createList _, .createList _ | .upcast _, .upcast _ | .copy _, .copy _
  | .listAt _ _, .listAt _ _ => R
  | .classOf _, .classOf _ => Eq
  | .get _ _ _, .get _ _ _ => Value.Renamed R
  | .isSet _ _, .isSet _ _ => Eq
  | .listSize _, .listSize _ => Eq
  | .destroy _, .destroy _ | .initialise _, .initialise _ | .set _ _ _, .set _ _ _ | .unset _ _, .unset _ _
  | .pushBack _ _, .pushBack _ _ | .insertAt _ _ _, .insertAt _ _ _ | .insertAll _ _, .insertAll _ _
  | .clear _, .clear _ => Eq
  | _, _ => fun _ _ => False

end

section
variable {α β γ : Type} {T : α → β → Prop} {xs : List α} {ys : List β}

theorem rel_getElem? (alike : List.Forall₂ T xs ys) (i : Nat) : Option.Rel T xs[i]? ys[i]? := by
  induction alike generalizing i with
  | nil => simp
  | cons same _ ih =>
    cases i with
    | zero => simpa using same
    | succ i => simpa using ih i

theorem optionRel_imp {S : α → β → Prop} {x : Option α} {y : Option β} (alike : Option.Rel T x y)
    (implies : ∀ a b, T a b → S a b) : Option.Rel S x y := by
  cases alike with
  | none => exact .none
  | some same => exact .some (implies _ _ same)

theorem rel_getD {x : Option α} {y : Option β} {a : α} {b : β} (alike : Option.Rel T x y) (same : T a b) :
    T (x.getD a) (y.getD b) := by
  cases alike with
  | none => exact same
  | some same => exact same

theorem forall₂_zipWith {α' β' γ' : Type} {S : α' → β' → Prop} {U : γ → γ' → Prop} {as : List α'} {bs : List β'}
    {f : α → α' → γ} {g : β → β' → γ'} (first : List.Forall₂ T xs ys) (second : List.Forall₂ S as bs)
    (both : ∀ x y a b, T x y → S a b → U (f x a) (g y b)) :
    List.Forall₂ U (List.zipWith f xs as) (List.zipWith g ys bs) := by
  induction first generalizing as bs with
  | nil => exact .nil
  | cons same _ ih =>
    cases second with
    | nil => exact .nil
    | cons other rest => exact .cons (both _ _ _ _ same other) (ih rest)

theorem forall₂_set {x : α} {y : β} (alike : List.Forall₂ T xs ys) (same : T x y) (i : Nat) :
    List.Forall₂ T (xs.set i x) (ys.set i y) := by
  induction alike generalizing i with
  | nil => exact .nil
  | cons first rest ih =>
    cases i with
    | zero => exact .cons same rest
    | succ i => exact .cons first (ih i)

end

variable {R S : Handle → Handle → Prop} {h h' k k' : Handle} {v w : Value}

/-- Null is paired with null only. -/
theorem Pairing.isNull_eq (pairing : Pairing R) (same : R h h') : h.isNull = h'.isNull := by
  rw [Bool.eq_iff_iff,Handle.isNull_eq_true_iff,Handle.isNull_eq_true_iff]
  exact pairing.unique same pairing.null

namespace Value.Renamed

theorem kind?_eq (same : v.Renamed R w) : v.kind? = w.kind? := by
  cases same <;> rfl

/-- Whether a value fits a kind does not depend on its handles. -/
theorem fits_eq (same : v.Renamed R w) (kind : Kind) : v.fits kind = w.fits kind := by
  simp only [fits,same.kind?_eq]

theorem typeName_eq (same : v.Renamed R w) : v.typeName = w.typeName := by
  simp only [typeName,same.kind?_eq]

theorem handle? (same : v.Renamed R w) : Option.Rel R v.handle? w.handle? := by
  cases same with
  | plain handleFree => simp [handleFree]
  | object same => exact .some same
  | list same => exact .some same

theorem mono (same : v.Renamed R w) (implies : ∀ h h', R h h' → S h h') : v.Renamed S w := by
  cases same with
  | plain handleFree => exact .plain handleFree
  | object same => exact .object (implies _ _ same)
  | list same => exact .list (implies _ _ same)

end Value.Renamed

/-- Entries stay renamed when more handles are paired. -/
theorem Entry.Renamed.mono {x y : Entry} (same : x.Renamed R y) (implies : ∀ h h', R h h' → S h h') :
    x.Renamed S y := by
  cases same with
  | object same =>
    refine .object ⟨same.cls,?_,same.initialised⟩
    exact same.fields.imp fun _ _ field => ⟨field.value.mono implies,field.isSet⟩
  | list same =>
    refine .list ⟨same.elementClass,same.items.imp implies,?_⟩
    exact optionRel_imp same.owner implies

theorem Call.Renamed.mono {c c' : Call Value} (same : c.Renamed R c') (implies : ∀ h h', R h h' → S h h') :
    c.Renamed S c' := by
  cases same with
  | create c => exact .create c
  | destroy same => exact .destroy (implies _ _ same)
  | upcast same => exact .upcast (implies _ _ same)
  | initialise same => exact .initialise (implies _ _ same)
  | copy same => exact .copy (implies _ _ same)
  | classOf same => exact .classOf (implies _ _ same)
  | get f resolve same => exact .get f resolve (implies _ _ same)
  | set f same value => exact .set f (implies _ _ same) (value.mono implies)
  | isSet f same => exact .isSet f (implies _ _ same)
  | unset f same => exact .unset f (implies _ _ same)
  | createList c => exact .createList c
  | listSize same => exact .listSize (implies _ _ same)
  | listAt i same => exact .listAt i (implies _ _ same)
  | pushBack same element => exact .pushBack (implies _ _ same) (implies _ _ element)
  | insertAt i same element => exact .insertAt i (implies _ _ same) (implies _ _ element)
  | insertAll same other => exact .insertAll (implies _ _ same) (implies _ _ other)
  | clear same => exact .clear (implies _ _ same)

namespace ObjectData.Renamed

variable {o o' : ObjectData} {f : FeatureId}

/-- Renamed objects have renamed fields. -/
theorem field (same : o.Renamed R o') (f : FeatureId) : (o.field f).Renamed R (o'.field f) := by
  have alike := rel_getElem? same.fields f.index.toNat
  unfold ObjectData.field
  generalize o.fields[f.index.toNat]? = x at alike ⊢
  generalize o'.fields[f.index.toNat]? = y at alike ⊢
  cases alike with
  | none => exact ⟨.plain rfl,rfl⟩
  | some same => exact same

theorem setField {x y : Field} (same : o.Renamed R o') (f : FeatureId) (field : x.Renamed R y) :
    (o.setField f x).Renamed R (o'.setField f y) :=
  ⟨same.cls,forall₂_set same.fields field f.index.toNat,same.initialised⟩

theorem setValue (same : o.Renamed R o') (f : FeatureId) (value : v.Renamed R w) :
    (o.setValue f v).Renamed R (o'.setValue f w) :=
  same.setField f ⟨value,(same.field f).isSet⟩

theorem values (same : o.Renamed R o') :
    List.Forall₂ (Value.Renamed R) (o.fields.map Field.value) (o'.fields.map Field.value) := by
  rw [List.forall₂_map_left_iff,List.forall₂_map_right_iff]
  exact same.fields.imp fun _ _ field => field.value

end ObjectData.Renamed

end HandleBridge
