import HandleBridge.Proofs.FeatureTables
import HandleBridge.Proofs.WellDefined
import HandleBridge.Schema.Document

/-!
Documents of packages. `FeatureDoc.Calls` says which call of a class builder a feature table stands for, and
`PackageDoc.Defines` which definitions the calls of all tables make. A document is accepted exactly when its feature
tables are legal, so that there are such calls, and the definitions make a package; that is then the package of the
document. A refused document has a table that is not legal, the first of which is blamed, or else it is refused for
what is wrong with its definitions.
-/

namespace HandleBridge

/-- A call of a class builder that adds a feature. -/
inductive FeatureCall where
  | data (name : String) (kind : Kind)
  | dataWithDefault (name : String) (kind : Kind) (default : Value)
  | reference (name target : String)
  | manyReference (name target : String)

/-- Definition of the feature that the call adds. -/
def FeatureCall.row : FeatureCall → FeatureDef
  | data name kind => ⟨name,.data kind,none⟩
  | dataWithDefault name kind default => ⟨name,.data kind,some default⟩
  | reference name target => ⟨name,.reference target false,none⟩
  | manyReference name target => ⟨name,.reference target true,none⟩

namespace ClassDef

def extending (d : ClassDef) (parent : String) : ClassDef := { d with parent := some parent }

def asAbstract (d : ClassDef) : ClassDef := { d with isAbstract := true }

def adding (d : ClassDef) (call : FeatureCall) : ClassDef := { d with features := d.features ++ [call.row] }

end ClassDef

/-! ### What a document stands for -/

/-- A value of a document stands for a value of the kind. -/
inductive Kind.Converts : Kind → Toml.Value → Value → Prop
  | bool (b : Bool) : Converts .bool (.boolean b) (.bool b)
  | int (n : Int64) (m : Int32) (same : m.toInt = n.toInt) : Converts .int (.integer n) (.int m)
  | long (n : Int64) : Converts .long (.integer n) (.long n)
  | double (x : Double) : Converts .double (.float x) (.double x)
  | whole (n : Int64) : Converts .double (.integer n) (.double (Decimal.ofInt n.toInt))
  | string (text : String) : Converts .string (.string text) (.string text)

namespace FeatureDoc

/-- The builder call that a feature table stands for. -/
inductive Calls (f : FeatureDoc) : FeatureCall → Prop
  | data {kind : Kind} (typed : f.kind = some kind) (plain : f.reference = none) (single : f.many = false)
      (bare : f.default = none) : Calls f (.data f.name kind)
  | dataWithDefault {kind : Kind} {raw : Toml.Value} {v : Value} (typed : f.kind = some kind) (plain : f.reference = none)
      (single : f.many = false) (given : f.default = some raw) (converts : kind.Converts raw v) :
      Calls f (.dataWithDefault f.name kind v)
  | reference {target : String} (untyped : f.kind = none) (refers : f.reference = some target)
      (single : f.many = false) : Calls f (.reference f.name target)
  | manyReference {target : String} (untyped : f.kind = none) (refers : f.reference = some target)
      (many : f.many = true) : Calls f (.manyReference f.name target)

/-- A feature table that a document may have. -/
structure Legal (f : FeatureDoc) : Prop where
  /-- There is one of a type and a reference. -/
  one : f.kind.isSome = true ↔ f.reference = none
  many : f.many = true → f.reference.isSome = true
  default : ∀ kind raw, f.kind = some kind → f.default = some raw → ∃ v, kind.Converts raw v

/-- What a fault says of a feature table of the class. -/
inductive Faulty (cls : String) (f : FeatureDoc) : SchemaFault → Prop
  | loose (many : f.many = true) (plain : f.reference = none) : Faulty cls f (.manyWithoutReference cls f.name)
  | unclear (related : f.many = true → f.reference.isSome = true) (both : f.kind.isSome = f.reference.isSome) :
      Faulty cls f (.typeOrReference cls f.name)
  | unfit {kind : Kind} {raw : Toml.Value} (typed : f.kind = some kind) (plain : f.reference = none)
      (single : f.many = false) (given : f.default = some raw) (never : ∀ v, ¬ kind.Converts raw v) :
      Faulty cls f (.invalidDefault cls f.name kind)

/-- The feature is the one of the table, at that place of its class. -/
structure Kept (f : FeatureDoc) (place : Nat) (feature : Feature) : Prop where
  id : feature.id = ⟨UInt32.ofNat place⟩
  name : feature.name = f.name
  data : ∀ kind, f.kind = some kind → feature.kind = .data kind
  reference : ∀ target, f.reference = some target → feature.kind = .reference target f.many
  converted : ∀ kind raw, f.kind = some kind → f.default = some raw → kind.Converts raw feature.default
  usual : f.kind = none ∨ f.default = none → feature.default = Value.default feature.kind.valueKind

end FeatureDoc

/-- The first of the items that is not accepted is refused for that reason. -/
def FirstRefused {α ε : Type} (accepted : α → Prop) (refused : α → ε → Prop) (xs : List α) (e : ε) : Prop :=
  ∃ before x rest, xs = before ++ x :: rest ∧ (∀ y ∈ before, accepted y) ∧ refused x e

namespace ClassDoc

/-- Definition that a class table begins, without features yet. -/
def heading (c : ClassDoc) : ClassDef :=
  let named : ClassDef := { name := c.name }
  let placed := match c.parent with
    | some parent => named.extending parent
    | none => named
  if c.isAbstract then placed.asAbstract else placed

/-- The definition is what the calls of the class table make, in its order. -/
def Defines (c : ClassDoc) (d : ClassDef) : Prop :=
  ∃ calls, List.Forall₂ FeatureDoc.Calls c.features calls ∧ d = calls.foldl ClassDef.adding c.heading

def Legal (c : ClassDoc) : Prop := ∀ f ∈ c.features, f.Legal

def Faulty (c : ClassDoc) : SchemaFault → Prop := FirstRefused FeatureDoc.Legal (FeatureDoc.Faulty c.name) c.features

/-- The features of a class table follow the inherited ones. -/
structure Follows (c : ClassDoc) (cls : ClassType) (inherited : List Feature) : Prop where
  inherits : inherited <+: cls.features
  count : cls.features.length = inherited.length + c.features.length
  own : ∀ (j : Nat) f, c.features[j]? = some f →
    ∃ feature, cls.features[inherited.length + j]? = some feature ∧ f.Kept (inherited.length + j) feature

/-- The class is the one of the table, at that place of the package. -/
structure Kept (c : ClassDoc) (p : Package) (place : Nat) (cls : ClassType) : Prop where
  id : cls.id = ⟨UInt32.ofNat place⟩
  name : cls.name = c.name
  isAbstract : cls.isAbstract = c.isAbstract
  root : c.parent = none → cls.parent? = none ∧ c.Follows cls []
  derived : ∀ parent, c.parent = some parent →
    ∃ above, p.classNamed? parent = some above ∧ cls.parent? = some above.id ∧ c.Follows cls above.features

end ClassDoc

namespace PackageDoc

/-- The definitions are those that the class tables of the document stand for, in its order. -/
def Defines (doc : PackageDoc) (defs : List ClassDef) : Prop := List.Forall₂ ClassDoc.Defines doc.classes defs

/-- A document whose feature tables are legal. -/
def Legal (doc : PackageDoc) : Prop := ∀ c ∈ doc.classes, c.Legal

/-- What a fault says of a document: the first table that is not legal is blamed for it, or all are legal and the
definitions that they stand for have it. -/
inductive Faulty (doc : PackageDoc) : SchemaFault → Prop
  | table {fault : SchemaFault} (first : FirstRefused ClassDoc.Legal ClassDoc.Faulty doc.classes fault) :
      Faulty doc fault
  | definitions {fault : SchemaFault} {defs : List ClassDef} (defines : doc.Defines defs)
      (blames : Blames doc.name defs fault) : Faulty doc fault

/-- The package has what the document says. -/
structure Kept (doc : PackageDoc) (p : Package) : Prop where
  name : p.name = doc.name
  uri : p.uri = doc.uri
  count : p.classes.length = doc.classes.length
  classes : ∀ (i : Nat) c, doc.classes[i]? = some c → ∃ cls, p.classes[i]? = some cls ∧ c.Kept p i cls

/-- Packages of documents are those of builders. -/
structure Translates (doc : PackageDoc) : Prop where
  /-- The calls of a document can be told exactly when its feature tables are legal. -/
  defines : doc.Legal ↔ ∃ defs, doc.Defines defs
  accepts : (∃ p, doc.toPackage = .ok p) ↔
    doc.Legal ∧ ∃ defs p, doc.Defines defs ∧ Package.build doc.name doc.uri defs = .ok p
  agrees : ∀ defs, doc.Defines defs → doc.toPackage = Package.build doc.name doc.uri defs
  preserves : ∀ p, doc.toPackage = .ok p → doc.Kept p
  refuses : (¬ ∃ p, doc.toPackage = .ok p) → ∃ fault, doc.toPackage = .error fault ∧ doc.Faulty fault
  /-- A document that is refused shows as an error of its schema. -/
  loads : ∀ (source : Source) text, source.read = .ok text → (Toml.document? text >>= PackageDoc.ofToml?) = some doc →
    Package.load source = doc.toPackage.mapError .schema

end PackageDoc

variable {kind : Kind} {raw : Toml.Value} {v : Value} {f : FeatureDoc} {call : FeatureCall} {row : FeatureDef}
  {c : ClassDoc} {d : ClassDef} {doc : PackageDoc} {defs : List ClassDef} {p : Package} {fault : SchemaFault}
  {cls : String} {place : Nat}

theorem toInt32_eq_iff {n : Int64} {m : Int32} : n.toInt32.toInt64 = n ∧ n.toInt32 = m ↔ m.toInt = n.toInt := by
  constructor
  · rintro ⟨wide,rfl⟩
    rw [← Int32.toInt_toInt64,wide]
  · intro same
    have wide : m.toInt64 = n := Int64.toInt_inj.mp (by rw [Int32.toInt_toInt64,same])
    subst wide
    simp

/-- A value is taken for a kind exactly when it stands for a value of the kind. -/
theorem Kind.convert?_eq_some_iff : kind.convert? raw = some v ↔ kind.Converts raw v := by
  constructor
  · intro done
    unfold convert? at done
    split at done
    · cases done; exact .bool _
    · split at done
      · rename_i n within
        cases done
        exact .int n n.toInt32 (toInt32_eq_iff.mp ⟨within,rfl⟩)
      · cases done
    · cases done; exact .long _
    · cases done; exact .double _
    · cases done; exact .whole _
    · cases done; exact .string _
    · cases done
  · intro converts
    cases converts with
    | int n m same =>
      obtain ⟨within,rfl⟩ := toInt32_eq_iff.mpr same
      exact if_pos within
    | _ => rfl

/-- The integers that stand for an int are those of 32 bits. -/
theorem Kind.int_converts_iff {n : Int64} :
    (∃ v, Kind.int.Converts (.integer n) v) ↔ Int32.minValue.toInt ≤ n.toInt ∧ n.toInt ≤ Int32.maxValue.toInt := by
  have top : Int32.maxValue.toInt + 1 = 2 ^ 31 := rfl
  constructor
  · rintro ⟨_,converts⟩
    cases converts with
    | int _ m same =>
      have most := m.toInt_lt
      rw [← same]
      exact ⟨m.le_toInt,by omega⟩
  · rintro ⟨least,most⟩
    exact ⟨.int (.ofInt n.toInt),.int n _ (Int32.toInt_ofInt_of_le least (by omega))⟩

/-! ### Feature tables -/

namespace FeatureDoc

/-- A table that stands for a call is legal. -/
theorem Calls.legal (calls : f.Calls call) : f.Legal := by
  cases calls with
  | data typed plain single bare => constructor <;> simp [typed,plain,single,bare]
  | dataWithDefault typed plain single given converts =>
    refine ⟨by simp [typed,plain],by simp [single],?_⟩
    intro kind raw isKind isRaw
    cases typed.symm.trans isKind
    cases given.symm.trans isRaw
    exact ⟨_,converts⟩
  | reference untyped refers single => constructor <;> simp [untyped,refers]
  | manyReference untyped refers many => constructor <;> simp [untyped,refers]

/-- A table with a fault is not. -/
theorem Faulty.not_legal (faulty : f.Faulty cls fault) : ¬ f.Legal := by
  intro legal
  cases faulty with
  | loose many plain => simpa [plain] using legal.many many
  | unclear related both =>
    have one := legal.one
    cases refers : f.reference <;> simp [refers,both] at one
  | unfit typed plain single given never =>
    obtain ⟨v,converts⟩ := legal.default _ _ typed given
    exact never v converts

/-- A feature table stands for a call whose feature is its definition, or there is a fault of the table. -/
theorem toDef_cases (cls : String) (f : FeatureDoc) :
    (∃ call, f.Calls call ∧ f.toDef cls = .ok call.row) ∨ ∃ fault, f.Faulty cls fault ∧ f.toDef cls = .error fault := by
  unfold toDef
  -- The check for many comes first, so a table that is loose is never told to be unclear.
  split_ifs with loose
  · obtain ⟨many,plain⟩ := loose
    exact .inr ⟨_,.loose many (by simpa using plain),rfl⟩
  · have related : f.many = true → f.reference.isSome = true := by simpa [Option.isSome_iff_ne_none] using loose
    cases typed : f.kind with
    | none =>
      cases refers : f.reference with
      | none => exact .inr ⟨_,.unclear related (by simp [typed,refers]),rfl⟩
      | some target =>
        cases many : f.many with
        | false => exact .inl ⟨_,.reference typed refers many,rfl⟩
        | true => exact .inl ⟨_,.manyReference typed refers many,rfl⟩
    | some kind =>
      cases refers : f.reference with
      | some target => exact .inr ⟨_,.unclear related (by simp [typed,refers]),rfl⟩
      | none =>
        have single : f.many = false := by simpa [refers] using related
        simp only [toAttribute]
        cases given : f.default with
        | none => exact .inl ⟨_,.data typed refers single given,rfl⟩
        | some raw =>
          simp only
          cases converted : kind.convert? raw with
          | some v =>
            exact .inl ⟨_,.dataWithDefault typed refers single given (Kind.convert?_eq_some_iff.mp converted),rfl⟩
          | none =>
            refine .inr ⟨_,.unfit typed refers single given fun v converts => ?_,rfl⟩
            rw [Kind.convert?_eq_some_iff.mpr converts] at converted
            cases converted

/-- A feature table is accepted exactly when it stands for a call, and its definition is the row of that call. -/
theorem toDef_eq_ok_iff : f.toDef cls = .ok row ↔ ∃ call, f.Calls call ∧ row = call.row := by
  constructor
  · intro done
    obtain ⟨call,calls,made⟩ | ⟨fault,-,failed⟩ := toDef_cases cls f
    · exact ⟨call,calls,Except.ok.inj (done.symm.trans made)⟩
    · cases done.symm.trans failed
  · rintro ⟨call,calls,rfl⟩
    unfold toDef
    cases calls with
    | data typed plain single bare => simp [toAttribute,typed,plain,single,bare,FeatureCall.row]
    | dataWithDefault typed plain single given converts =>
      simp [toAttribute,typed,plain,single,given,Kind.convert?_eq_some_iff.mpr converts,FeatureCall.row]
    | reference untyped refers single => simp [untyped,refers,single,FeatureCall.row]
    | manyReference untyped refers many => simp [untyped,refers,many,FeatureCall.row]

/-- A table that is refused has the fault that it is refused for. -/
theorem toDef_eq_error (failed : f.toDef cls = .error fault) : f.Faulty cls fault := by
  obtain ⟨call,-,made⟩ | ⟨other,faulty,same⟩ := toDef_cases cls f
  · cases failed.symm.trans made
  · cases failed.symm.trans same
    exact faulty

/-- The feature of a call is that of the table. -/
theorem Calls.kept (calls : f.Calls call) (place : Nat) : f.Kept place (ClassDef.rowFeature call.row place) := by
  cases calls with
  | data typed plain single bare =>
    constructor <;> simp [ClassDef.rowFeature,FeatureCall.row,typed,plain,bare]
  | @dataWithDefault kind raw v typed plain single given converts =>
    constructor <;> simp [ClassDef.rowFeature,FeatureCall.row,typed,plain,given,converts]
  | reference untyped refers single =>
    constructor <;> simp [ClassDef.rowFeature,FeatureCall.row,untyped,refers,single]
  | manyReference untyped refers many =>
    constructor <;> simp [ClassDef.rowFeature,FeatureCall.row,untyped,refers,many]

end FeatureDoc

theorem firstRefused_of_mapM {ε α β : Type} {f : α → Except ε β} {xs : List α} {e : ε} {accepted : α → Prop}
    {refused : α → ε → Prop} (accepts : ∀ x y, f x = .ok y → accepted x) (refuses : ∀ x, f x = .error e → refused x e)
    (failed : xs.mapM f = .error e) : FirstRefused accepted refused xs e := by
  obtain ⟨before,x,rest,split,passed,failedThere⟩ := mapM_stops failed
  refine ⟨before,x,rest,split,fun y member => ?_,refuses x failedThere⟩
  obtain ⟨z,done⟩ := passed y member
  exact accepts y z done

theorem forall_of_forall₂ {α β : Type} {R : α → β → Prop} {holds : α → Prop} {xs : List α} {ys : List β}
    (implies : ∀ x y, R x y → holds x) (each : List.Forall₂ R xs ys) : ∀ x ∈ xs, holds x :=
  ((List.forall₂_and_left _ _).mp (each.imp fun x y related => ⟨implies x y related,related⟩)).1

theorem FirstRefused.not_forall {ε α : Type} {xs : List α} {e : ε} {accepted : α → Prop} {refused : α → ε → Prop}
    (exclusive : ∀ x, refused x e → ¬ accepted x) (first : FirstRefused accepted refused xs e) :
    ¬ ∀ x ∈ xs, accepted x := by
  obtain ⟨before,x,rest,rfl,-,faulty⟩ := first
  intro all
  exact exclusive x faulty (all x (by simp))

/-! ### Class tables -/

namespace ClassDoc

theorem heading_eq (c : ClassDoc) : c.heading = ⟨c.name,c.parent,c.isAbstract,[]⟩ := by
  unfold heading
  cases c.parent <;> cases c.isAbstract <;> rfl

theorem foldl_adding (calls : List FeatureCall) (d : ClassDef) :
    calls.foldl ClassDef.adding d = { d with features := d.features ++ calls.map FeatureCall.row } := by
  induction calls generalizing d with
  | nil => simp
  | cons call rest ih => simp [ih,ClassDef.adding]

theorem defines_iff : c.Defines d ↔ ∃ calls, List.Forall₂ FeatureDoc.Calls c.features calls ∧
    d = ⟨c.name,c.parent,c.isAbstract,calls.map FeatureCall.row⟩ := by
  simp only [Defines,foldl_adding,heading_eq,List.nil_append]

/-- Definitions of feature tables are the rows of their calls. -/
theorem forall₂_toDef_iff {fs : List FeatureDoc} {rows : List FeatureDef} :
    List.Forall₂ (fun f row => f.toDef cls = .ok row) fs rows ↔
      ∃ calls, List.Forall₂ FeatureDoc.Calls fs calls ∧ rows = calls.map FeatureCall.row := by
  simp only [FeatureDoc.toDef_eq_ok_iff]
  constructor
  · intro each
    induction each with
    | nil => exact ⟨[],.nil,rfl⟩
    | cons first _ ih =>
      obtain ⟨call,calls,rfl⟩ := first
      obtain ⟨others,further,rfl⟩ := ih
      exact ⟨call :: others,.cons calls further,rfl⟩
  · rintro ⟨calls,each,rfl⟩
    rw [List.forall₂_map_right_iff]
    exact each.imp fun f call calls => ⟨call,calls,rfl⟩

/-- A class table is accepted exactly when it defines a class. -/
theorem toDef_eq_ok_iff : c.toDef = .ok d ↔ c.Defines d := by
  rw [defines_iff]
  simp only [toDef,bind_eq_ok_iff,mapM_eq_ok_iff,forall₂_toDef_iff]
  constructor
  · rintro ⟨rows,⟨calls,each,rfl⟩,done⟩
    cases done
    exact ⟨calls,each,rfl⟩
  · rintro ⟨calls,each,rfl⟩
    exact ⟨_,⟨calls,each,rfl⟩,rfl⟩

/-- One that is refused has the fault of its first feature table that is. -/
theorem toDef_eq_error (failed : c.toDef = .error fault) : c.Faulty fault := by
  refine firstRefused_of_mapM (f := FeatureDoc.toDef c.name) ?_ (fun _ => FeatureDoc.toDef_eq_error) ?_
  · intro f row done
    obtain ⟨call,calls,-⟩ := FeatureDoc.toDef_eq_ok_iff.mp done
    exact calls.legal
  · unfold toDef at failed
    cases done : c.features.mapM (FeatureDoc.toDef c.name) with
    | ok rows =>
      rw [done] at failed
      cases failed
    | error other =>
      rw [done] at failed
      cases failed
      rfl

theorem Faulty.not_legal (faulty : c.Faulty fault) : ¬ c.Legal :=
  FirstRefused.not_forall (fun _ => FeatureDoc.Faulty.not_legal) faulty

theorem Defines.legal (defines : c.Defines d) : c.Legal := by
  obtain ⟨calls,each,-⟩ := defines
  exact forall_of_forall₂ (fun _ _ stands => stands.legal) each

/-- Features that calls add to a table are those of the feature tables that the calls are of. -/
theorem follows_of_calls {calls : List FeatureCall} {type : ClassType} {inherited : List Feature}
    (each : List.Forall₂ FeatureDoc.Calls c.features calls) (rows : d.features = calls.map FeatureCall.row)
    (table : type.features = inherited ++ d.ownFeatures inherited.length) : c.Follows type inherited := by
  refine ⟨table ▸ List.prefix_append _ _,?_,?_⟩
  · simp [table,ClassDef.ownFeatures,rows,each.length_eq]
  · intro j f found
    obtain ⟨call,there,stands⟩ := getElem?_of_forall₂ each found
    refine ⟨_,?_,stands.kept (inherited.length + j)⟩
    rw [table,List.getElem?_append_right (Nat.le_add_right _ _),Nat.add_sub_cancel_left]
    simp [ClassDef.ownFeatures,rows,there]

/-- A class table is kept by the class that is built of its definition. -/
theorem Defines.kept {package uri : String} (defines : c.Defines d) (done : Package.build package uri defs = .ok p)
    (defined : defs[place]? = some d) : ∃ type, p.classes[place]? = some type ∧ c.Kept p place type := by
  obtain ⟨type,places,rows,found,flat⟩ := Package.flattened_of_build done place d defined
  have continues := Package.continues_of_build done flat
  obtain ⟨-,-,-,resolved⟩ := Package.build_eq_ok done
  obtain ⟨_,again,made⟩ := resolved place d defined
  cases found.symm.trans again
  obtain ⟨calls,each,rfl⟩ := defines_iff.mp defines
  refine ⟨type,found,flat.id,flat.name,made.isAbstract,?_,?_⟩
  · intro top
    simp only [Package.Continues,top] at continues
    obtain ⟨none,table⟩ := continues
    exact ⟨none,follows_of_calls each rfl table⟩
  · intro parent hasParent
    simp only [Package.Continues,hasParent] at continues
    obtain ⟨above,named,derives,table⟩ := continues
    exact ⟨above,named,derives,follows_of_calls each rfl table⟩

end ClassDoc

theorem Package.titles_of_build {package uri : String} (done : Package.build package uri defs = .ok p) :
    p.name = package ∧ p.uri = uri := by
  simp only [build,bind_eq_ok_iff] at done
  obtain ⟨_,-,_,-,classes,-,done⟩ := done
  cases done
  exact ⟨rfl,rfl⟩

/-! ### Documents -/

namespace PackageDoc

theorem mapM_toDef_iff : doc.classes.mapM ClassDoc.toDef = .ok defs ↔ doc.Defines defs := by
  simp only [mapM_eq_ok_iff,ClassDoc.toDef_eq_ok_iff,Defines]

theorem toPackage_of_defines (defines : doc.Defines defs) :
    doc.toPackage = Package.build doc.name doc.uri defs := by
  rw [toPackage,mapM_toDef_iff.mpr defines]
  rfl

theorem Defines.legal (defines : doc.Defines defs) : doc.Legal :=
  forall_of_forall₂ (fun _ _ stands => stands.legal) defines

/-- The tables of a document stand for definitions, of which it is the package, or a table is refused. -/
theorem toPackage_cases (doc : PackageDoc) :
    (∃ defs, doc.Defines defs) ∨
      ∃ fault, FirstRefused ClassDoc.Legal ClassDoc.Faulty doc.classes fault ∧ doc.toPackage = .error fault := by
  cases done : doc.classes.mapM ClassDoc.toDef with
  | ok defs => exact .inl ⟨defs,mapM_toDef_iff.mp done⟩
  | error fault =>
    refine .inr ⟨fault,firstRefused_of_mapM ?_ (fun _ => ClassDoc.toDef_eq_error) done,by rw [toPackage,done]; rfl⟩
    intro c d made
    exact (ClassDoc.toDef_eq_ok_iff.mp made).legal

/-- A document is legal exactly when it stands for definitions. -/
theorem legal_iff : doc.Legal ↔ ∃ defs, doc.Defines defs := by
  constructor
  · intro legal
    obtain defines | ⟨fault,first,-⟩ := toPackage_cases doc
    · exact defines
    · exact absurd legal (first.not_forall fun _ => ClassDoc.Faulty.not_legal)
  · rintro ⟨defs,defines⟩
    exact defines.legal

/-- What a document says is kept by the package that is built of its definitions. -/
theorem Defines.kept (defines : doc.Defines defs) (done : Package.build doc.name doc.uri defs = .ok p) :
    doc.Kept p := by
  obtain ⟨-,-,count,-⟩ := Package.build_eq_ok done
  obtain ⟨name,uri⟩ := Package.titles_of_build done
  refine ⟨name,uri,count.trans defines.length_eq.symm,?_⟩
  intro i c found
  obtain ⟨d,defined,stands⟩ := getElem?_of_forall₂ defines found
  exact stands.kept done defined

/-- A document is accepted exactly when its feature tables are legal and a class builder accepts their calls. Then it
gives the package of these calls, which has all that the document says, and otherwise there is a fault of its
schema. -/
theorem translates (doc : PackageDoc) : doc.Translates where
  defines := legal_iff
  accepts := by
    constructor
    · rintro ⟨p,done⟩
      obtain ⟨defs,defines⟩ | ⟨fault,-,failed⟩ := toPackage_cases doc
      · exact ⟨defines.legal,defs,p,defines,toPackage_of_defines defines ▸ done⟩
      · cases done.symm.trans failed
    · rintro ⟨-,defs,p,defines,done⟩
      exact ⟨p,(toPackage_of_defines defines).trans done⟩
  agrees := fun defs => toPackage_of_defines
  preserves := by
    intro p done
    obtain ⟨defs,defines⟩ | ⟨fault,-,failed⟩ := toPackage_cases doc
    · exact defines.kept (toPackage_of_defines defines ▸ done)
    · cases done.symm.trans failed
  refuses := by
    intro refused
    obtain ⟨defs,defines⟩ | ⟨fault,first,failed⟩ := toPackage_cases doc
    · cases built : Package.build doc.name doc.uri defs with
      | ok p => exact absurd ⟨p,(toPackage_of_defines defines).trans built⟩ refused
      | error fault =>
        exact ⟨fault,(toPackage_of_defines defines).trans built,.definitions defines (Package.build_eq_error built)⟩
    · exact ⟨fault,failed,.table first⟩
  loads := by
    intro source text read decoded
    have known : Package.read text = doc.toPackage := by rw [Package.read,decoded]
    rw [Package.load,read,← known]
    rfl

/-- A whole number that 32 bits do not hold is no default of an int. -/
example : (PackageDoc.mk "garden" "" [{ name := "Plot", features := [
    { name := "area", kind := some .int, default := some (.integer 2147483648) }] }]).toPackage =
      .error (.invalidDefault "Plot" "area" .int) := by
  rfl

end PackageDoc

end HandleBridge
