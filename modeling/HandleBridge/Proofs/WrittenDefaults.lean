import Mathlib.Logic.Relation
import HandleBridge.Proofs.SchemaDocuments
import HandleBridge.Proofs.TakenFields

/-!
Defaults that a document writes. What stands under the key of a default in a feature table is read as it is
(`defaultAt?_eq`). The feature of an attribute reports it as a value of its kind, in its class and in every class that
derives from it, and a document is refused if it stands for no such value. The default of a reference is dropped.
-/

namespace HandleBridge

/-- Entries of a feature table. -/
def FeatureDoc.fields? (table : Toml.Value) : Option Toml.Fields :=
  table.fields? ["name","type","reference","many","default"] true

def ClassDoc.tables (table : Toml.Value) : List Toml.Value :=
  ((table.fields? ["name","extends","abstract","features"] false).map (·.items "features")).getD []

namespace PackageDoc

def tables (tree : Toml.Value) : List Toml.Value :=
  ((tree.fields? ["name","ns_uri","class"] false).map (·.items "class")).getD []

/-- Entry of the feature table at the place, of the class table at the place. -/
def entryAt? (tree : Toml.Value) (i j : Nat) (key : String) : Option Toml.Value := do
  let cls ← (tables tree)[i]?
  let table ← (ClassDoc.tables cls)[j]?
  (← FeatureDoc.fields? table) key

def defaultAt? (tree : Toml.Value) (i j : Nat) : Option Toml.Value := entryAt? tree i j "default"

def kindAt? (tree : Toml.Value) (i j : Nat) : Option Kind :=
  (entryAt? tree i j "type").bind fun v => v.choice? >>= Kind.ofName?

def Extends (doc : PackageDoc) (sub above : ClassDoc) : Prop := above ∈ doc.classes ∧ sub.parent = some above.name

/-- The class table is the other one, or extends it, directly or through others. -/
def Derives (doc : PackageDoc) : ClassDoc → ClassDoc → Prop := Relation.ReflTransGen doc.Extends

end PackageDoc

/-- What the feature of a table has as its default if the table writes one. -/
inductive FeatureDoc.Reports (f : FeatureDoc) (raw : Toml.Value) (feature : Feature) : Prop
  | converted {kind : Kind} (typed : f.kind = some kind) (data : feature.kind = .data kind)
      (converts : kind.Converts raw feature.default) : Reports f raw feature
  /-- A reference is empty whatever its table writes. -/
  | dropped {target : String} (untyped : f.kind = none) (refers : feature.kind = .reference target f.many)
      (empty : feature.default = .null) : Reports f raw feature

namespace PackageDoc

/-- The feature is the one of the table, in its class and in every class that derives from it. -/
structure Carries (doc : PackageDoc) (p : Package) (c : ClassDoc) (f : FeatureDoc) (place : Nat) (feature : Feature) :
    Prop where
  kept : f.Kept place feature
  everywhere : ∀ sub ∈ doc.classes, doc.Derives sub c →
    ∃ cls, p.classNamed? sub.name = some cls ∧ cls.features[place]? = some feature

/-- What becomes of the defaults that the text of a document writes. -/
structure TellsDefaults (text : String) : Prop where
  /-- Of a document that is accepted, each of them reaches the feature of its table, or is that of a reference. -/
  accepted : ∀ p, Package.read text = .ok p → ∃ tree doc, Toml.document? text = some tree ∧ ofToml? tree = some doc ∧
    ∀ i j raw, defaultAt? tree i j = some raw → ∃ c f place feature, doc.classes[i]? = some c ∧
      c.features[j]? = some f ∧ f.default = some raw ∧ doc.Carries p c f place feature ∧ f.Reports raw feature
  /-- A document is refused with a default that stands for no value of the kind that is written beside it. -/
  refused : ∀ tree i j raw kind, Toml.document? text = some tree → defaultAt? tree i j = some raw →
    kindAt? tree i j = some kind → (∀ v, ¬ kind.Converts raw v) → ∃ fault, Package.read text = .error fault

end PackageDoc

variable {tree table : Toml.Value} {text : String} {doc : PackageDoc} {c sub : ClassDoc} {f : FeatureDoc} {p : Package}
  {cls : ClassType} {feature : Feature} {raw : Toml.Value} {i j place : Nat} {fields : Toml.Fields}

theorem FeatureDoc.default_of_ofToml? (read : ofToml? table = some f) (listed : fields? table = some fields) :
    f.default = fields "default" := by
  simp only [ofToml?,Option.bind_eq_bind,Option.bind_eq_some_iff] at read
  obtain ⟨_,again,name,-,kind,-,reference,-,many,-,given,taken,done⟩ := read
  cases listed.symm.trans again
  cases done
  obtain ⟨absent,rfl⟩ | ⟨v,same,present,data,rfl⟩ := Toml.Fields.optional_eq_some_iff.mp taken
  · exact absent.symm
  · -- What is taken as data is what was written.
    unfold Toml.Value.data? at data
    split at data
    · cases data
      exact present.symm
    · cases data

theorem FeatureDoc.kind_of_ofToml? (read : ofToml? table = some f) (listed : fields? table = some fields) :
    f.kind = (fields "type").bind fun v => v.choice? >>= Kind.ofName? := by
  simp only [ofToml?,Option.bind_eq_bind,Option.bind_eq_some_iff] at read
  obtain ⟨_,again,name,-,kind,taken,reference,-,many,-,given,-,done⟩ := read
  cases listed.symm.trans again
  cases done
  obtain ⟨absent,rfl⟩ | ⟨v,same,present,chosen,rfl⟩ := Toml.Fields.optional_eq_some_iff.mp taken
  · rw [absent]
    rfl
  · rw [present]
    exact chosen.symm

theorem ClassDoc.forall₂_tables (read : ofToml? table = some c) :
    List.Forall₂ (fun v f => FeatureDoc.ofToml? v = some f) (tables table) c.features := by
  simp only [ofToml?,Option.bind_eq_bind,Option.bind_eq_some_iff] at read
  obtain ⟨fields,listed,name,-,parent,-,isAbstract,-,features,taken,done⟩ := read
  cases done
  rw [tables,listed]
  exact Toml.Fields.forall₂_items taken

namespace PackageDoc

theorem forall₂_tables (read : ofToml? tree = some doc) :
    List.Forall₂ (fun v c => ClassDoc.ofToml? v = some c) (tables tree) doc.classes := by
  simp only [ofToml?,Option.bind_eq_bind,Option.bind_eq_some_iff] at read
  obtain ⟨fields,listed,name,-,uri,-,classes,taken,done⟩ := read
  cases done
  rw [tables,listed]
  exact Toml.Fields.forall₂_items taken

/-- An entry that is written is one of a table that is read. -/
theorem of_entryAt? {key : String} (read : ofToml? tree = some doc) (written : entryAt? tree i j key = some raw) :
    ∃ c f table fields, doc.classes[i]? = some c ∧ c.features[j]? = some f ∧ FeatureDoc.ofToml? table = some f ∧
      FeatureDoc.fields? table = some fields ∧ fields key = some raw := by
  simp only [entryAt?,Option.bind_eq_bind,Option.bind_eq_some_iff] at written
  obtain ⟨cls,classThere,table,tableThere,fields,listed,given⟩ := written
  obtain ⟨c,found,readClass⟩ := getElem?_of_forall₂ (forall₂_tables read) classThere
  obtain ⟨f,own,readFeature⟩ := getElem?_of_forall₂ (ClassDoc.forall₂_tables readClass) tableThere
  exact ⟨c,f,table,fields,found,own,readFeature,listed,given⟩

theorem of_defaultAt? (read : ofToml? tree = some doc) (written : defaultAt? tree i j = some raw) :
    ∃ c f, doc.classes[i]? = some c ∧ c.features[j]? = some f ∧ f.default = some raw := by
  obtain ⟨c,f,table,fields,found,own,readFeature,listed,given⟩ := of_entryAt? read written
  exact ⟨c,f,found,own,(FeatureDoc.default_of_ofToml? readFeature listed).trans given⟩

theorem of_kindAt? {kind : Kind} (read : ofToml? tree = some doc) (written : kindAt? tree i j = some kind) :
    ∃ c f, doc.classes[i]? = some c ∧ c.features[j]? = some f ∧ f.kind = some kind := by
  obtain ⟨v,entry,chosen⟩ := Option.bind_eq_some_iff.mp written
  obtain ⟨c,f,table,fields,found,own,readFeature,listed,given⟩ := of_entryAt? read entry
  refine ⟨c,f,found,own,?_⟩
  rw [FeatureDoc.kind_of_ofToml? readFeature listed,given]
  exact chosen

/-- An accepted document defines what its package is built from. -/
theorem defines_of_toPackage (done : doc.toPackage = .ok p) :
    ∃ defs, doc.Defines defs ∧ Package.build doc.name doc.uri defs = .ok p := by
  obtain ⟨defs,defines⟩ | ⟨fault,-,failed⟩ := toPackage_cases doc
  · exact ⟨defs,defines,toPackage_of_defines defines ▸ done⟩
  · cases done.symm.trans failed

/-- The class of a class table is found under its name. -/
theorem named_of_toPackage (done : doc.toPackage = .ok p) (found : doc.classes[i]? = some c) :
    ∃ cls, p.classNamed? c.name = some cls ∧ c.Kept p i cls := by
  obtain ⟨defs,defines,built⟩ := defines_of_toPackage done
  obtain ⟨cls,there,kept⟩ := (defines.kept built).classes i c found
  exact ⟨cls,kept.name ▸ Package.classNamed?_of_mem built (List.mem_of_getElem? there),kept⟩

/-- The table of a class begins with that of every class that it derives from. -/
theorem prefix_of_derives (done : doc.toPackage = .ok p) (derives : doc.Derives sub c) (member : sub ∈ doc.classes)
    (known : p.classNamed? c.name = some cls) :
    ∃ below, p.classNamed? sub.name = some below ∧ cls.features <+: below.features := by
  induction derives using Relation.ReflTransGen.head_induction_on with
  | refl => exact ⟨cls,known,List.prefix_rfl⟩
  | @head sub above extends' _ ih =>
    obtain ⟨memberAbove,parent⟩ := extends'
    obtain ⟨middle,knownMiddle,inherits⟩ := ih memberAbove
    obtain ⟨k,found⟩ := List.getElem?_of_mem member
    obtain ⟨below,knownBelow,kept⟩ := named_of_toPackage done found
    obtain ⟨other,again,-,follows⟩ := kept.derived above.name parent
    cases knownMiddle.symm.trans again
    exact ⟨below,knownBelow,inherits.trans follows.inherits⟩

end PackageDoc

/-- The feature of a legal table reports the default that is written, or is a reference. -/
theorem FeatureDoc.Kept.reports (kept : f.Kept place feature) (legal : f.Legal) (given : f.default = some raw) :
    f.Reports raw feature := by
  cases typed : f.kind with
  | some kind => exact .converted typed (kept.data kind typed) (kept.converted kind raw typed given)
  | none =>
    obtain ⟨target,refers⟩ : ∃ target, f.reference = some target := by
      have one := legal.one
      simpa [typed,Option.ne_none_iff_exists'] using one
    have holds := kept.reference target refers
    have empty := kept.usual (.inl typed)
    rw [holds] at empty
    refine .dropped typed holds (empty.trans ?_)
    cases f.many <;> rfl

namespace PackageDoc

/-- A feature table has its feature, at one place of its class and of every class that derives. -/
theorem carries_of_toPackage (done : doc.toPackage = .ok p) (found : doc.classes[i]? = some c)
    (own : c.features[j]? = some f) : ∃ place feature, doc.Carries p c f place feature := by
  obtain ⟨cls,known,kept⟩ := named_of_toPackage done found
  -- Own features follow inherited ones, or none.
  obtain ⟨inherited,follows⟩ : ∃ inherited, c.Follows cls inherited := by
    cases parent : c.parent with
    | none => exact ⟨_,(kept.root parent).2⟩
    | some name =>
      obtain ⟨above,-,-,follows⟩ := kept.derived name parent
      exact ⟨_,follows⟩
  obtain ⟨feature,there,keptFeature⟩ := follows.own j f own
  refine ⟨inherited.length + j,feature,keptFeature,fun sub member derives => ?_⟩
  obtain ⟨below,knownBelow,more,split⟩ := prefix_of_derives done derives member known
  refine ⟨below,knownBelow,?_⟩
  rw [← split,List.getElem?_append_left (List.getElem?_eq_some_iff.mp there).1,there]

theorem legal_of_toPackage (done : doc.toPackage = .ok p) (found : doc.classes[i]? = some c)
    (own : c.features[j]? = some f) : f.Legal := by
  obtain ⟨defs,defines,-⟩ := defines_of_toPackage done
  exact defines.legal c (List.mem_of_getElem? found) f (List.mem_of_getElem? own)

/-- The package of a text is that of its document. -/
theorem of_read_eq_ok (done : Package.read text = .ok p) :
    ∃ tree doc, Toml.document? text = some tree ∧ ofToml? tree = some doc ∧ doc.toPackage = .ok p := by
  unfold Package.read at done
  split at done
  · cases done
  · rename_i doc decoded
    obtain ⟨tree,parsed,read⟩ := Option.bind_eq_some_iff.mp decoded
    exact ⟨tree,doc,parsed,read,done⟩

/-- A default in a feature table of a document that is accepted is what the feature reports, as a value of its kind and
in every class that has the feature, or else the feature is a reference and the default is dropped. A document with a
default of an attribute that stands for no value of its kind is refused. -/
theorem defaults_told (text : String) : TellsDefaults text where
  accepted := by
    intro p done
    obtain ⟨tree,doc,parsed,read,made⟩ := of_read_eq_ok done
    refine ⟨tree,doc,parsed,read,fun i j raw written => ?_⟩
    obtain ⟨c,f,found,own,given⟩ := of_defaultAt? read written
    obtain ⟨place,feature,carries⟩ := carries_of_toPackage made found own
    have reports := carries.kept.reports (legal_of_toPackage made found own) given
    exact ⟨c,f,place,feature,found,own,given,carries,reports⟩
  refused := by
    intro tree i j raw kind parsed written kindWritten never
    cases done : Package.read text with
    | error fault => exact ⟨fault,rfl⟩
    | ok p =>
      obtain ⟨tree',doc,again,read,made⟩ := of_read_eq_ok done
      cases parsed.symm.trans again
      obtain ⟨c,f,found,own,given⟩ := of_defaultAt? read written
      obtain ⟨c',f',foundAgain,ownAgain,typed⟩ := of_kindAt? read kindWritten
      cases found.symm.trans foundAgain
      cases own.symm.trans ownAgain
      obtain ⟨v,converts⟩ := (legal_of_toPackage made found own).default kind raw typed given
      exact absurd converts (never v)

/-- A class that derives reports the default of the class that it extends. -/
example : ((PackageDoc.mk "chain" "" [{ name := "Leaf", parent := some "Node" },
    { name := "Node", features := [{ name := "size", kind := some .long, default := some (.integer 7) }] }]).toPackage.map
      fun p => p.classes.map fun cls => cls.features.map Feature.default) = .ok [[.long 7],[.long 7]] := by
  rfl

/-- A document with a class whose reference writes a default. -/
def chainText : String :=
  "name = \"chain\"\n[[class]]\nname = \"Node\"\n"
    ++ "[[class.features]]\nname = \"next\"\nreference = \"Node\"\ndefault = 5\n"

set_option maxRecDepth 20000 in
/-- The document is accepted, and the feature of the reference has no object as its default instead of what is
written. -/
theorem chain_default_dropped : ∃ p tree cls feature, Package.read chainText = .ok p ∧
    Toml.document? chainText = some tree ∧ defaultAt? tree 0 0 = some (.integer 5) ∧
    p.classNamed? "Node" = some cls ∧ cls.features = [feature] ∧ feature.name = "next" ∧ feature.default = .null :=
  ⟨_,_,_,_,rfl,rfl,rfl,rfl,rfl,rfl,rfl⟩

end PackageDoc

end HandleBridge
