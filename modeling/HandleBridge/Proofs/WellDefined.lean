import Mathlib.Data.List.Duplicate
import HandleBridge.Proofs.Hierarchies

/-!
Which definitions make a package. Building succeeds exactly on well-defined classes, and a fault that it ends with is
one that the definitions have: `Blames` says for each fault what is wrong with them.
-/

namespace HandleBridge

/-- Definitions that make a package. -/
structure WellDefined (defs : List ClassDef) : Prop where
  distinct : (defs.map ClassDef.name).Nodup
  parents : ∀ d ∈ defs, ∀ parent, d.parent = some parent → parent ∈ defs.map ClassDef.name
  targets : ∀ d ∈ defs, ∀ row ∈ d.features, ∀ target many, row.kind = .reference target many →
    target ∈ defs.map ClassDef.name
  attributes : ∀ d ∈ defs, ∀ row ∈ d.features, row.kind ≠ .data .object ∧ row.kind ≠ .data .list
  defaults : ∀ d ∈ defs, ∀ row ∈ d.features, ∀ v, row.default = some v → v.fits row.kind.valueKind = true
  /-- Following super types never comes back to a class. -/
  acyclic : ∀ path, path ⊆ defs → path.IsChain ClassDef.Extends → (path.map ClassDef.name).Nodup
  /-- No class has two features of one name, be they its own or inherited. -/
  features : ∀ d ∈ defs, ∀ rows, ClassDef.Rows defs d rows → (rows.map FeatureDef.name).Nodup

/-- What a fault says of the definitions of a package. -/
inductive Blames (package : String) (defs : List ClassDef) : SchemaFault → Prop
  | duplicateClass (cls : String) (twice : List.Duplicate cls (defs.map ClassDef.name)) :
      Blames package defs (.duplicateClass cls package)
  | unknownParent (d : ClassDef) (parent : String) (defined : d ∈ defs) (hasParent : d.parent = some parent)
      (unknown : parent ∉ defs.map ClassDef.name) : Blames package defs (.unknownParent d.name parent)
  | unknownTarget (d : ClassDef) (row : FeatureDef) (target : String) (many : Bool) (defined : d ∈ defs)
      (own : row ∈ d.features) (refers : row.kind = .reference target many)
      (unknown : target ∉ defs.map ClassDef.name) : Blames package defs (.unknownTarget d.name row.name target)
  | handleAttribute (d : ClassDef) (row : FeatureDef) (kind : Kind) (defined : d ∈ defs) (own : row ∈ d.features)
      (isData : row.kind = .data kind) (holds : kind = .object ∨ kind = .list) :
      Blames package defs (.handleAttribute d.name row.name kind)
  | unfitDefault (d : ClassDef) (row : FeatureDef) (v : Value) (defined : d ∈ defs) (own : row ∈ d.features)
      (given : row.default = some v) (unfit : v.fits row.kind.valueKind = false) :
      Blames package defs (.unfitDefault d.name row.name v.typeName row.kind.valueKind)
  | inheritanceCycle (d : ClassDef) (path : List ClassDef) (defined : path ⊆ defs)
      (follows : path.IsChain ClassDef.Extends) (begins : path.head? = some d)
      (revisits : ¬ (path.map ClassDef.name).Nodup) : Blames package defs (.inheritanceCycle d.name)
  | duplicateFeature (d : ClassDef) (rows : List FeatureDef) (name : String) (defined : d ∈ defs)
      (all : ClassDef.Rows defs d rows) (twice : List.Duplicate name (rows.map FeatureDef.name)) :
      Blames package defs (.duplicateFeature name d.name)

variable {defs : List ClassDef} {d : ClassDef} {package name uri : String} {p : Package} {fault : SchemaFault}
  {place : Nat} {cls : ClassType}

/-- Well-defined classes have none of the faults. -/
theorem Blames.not_wellDefined (blames : Blames package defs fault) : ¬ WellDefined defs := by
  intro wellDefined
  cases blames with
  | duplicateClass cls twice => exact List.nodup_iff_forall_not_duplicate.mp wellDefined.distinct cls twice
  | unknownParent d parent defined hasParent unknown => exact unknown (wellDefined.parents d defined parent hasParent)
  | unknownTarget d row target many defined own refers unknown =>
    exact unknown (wellDefined.targets d defined row own target many refers)
  | handleAttribute d row kind defined own isData holds =>
    obtain ⟨noObject,noList⟩ := wellDefined.attributes d defined row own
    rcases holds with rfl | rfl
    · exact noObject isData
    · exact noList isData
  | unfitDefault d row v defined own given unfit =>
    have fits := wellDefined.defaults d defined row own v given
    rw [unfit] at fits
    cases fits
  | inheritanceCycle d path defined follows begins revisits => exact revisits (wellDefined.acyclic path defined follows)
  | duplicateFeature d rows name defined all twice =>
    exact List.nodup_iff_forall_not_duplicate.mp (wellDefined.features d defined rows all) name twice

theorem duplicate_middle {α : Type} {x : α} {before rest : List α} (known : x ∈ before) :
    List.Duplicate x (before ++ x :: rest) := by
  classical
  have once := List.count_pos_iff.mpr known
  rw [List.duplicate_iff_two_le_count,List.count_append,List.count_cons_self]
  omega

theorem forM_eq_error {ε α : Type} {f : α → Except ε Unit} {xs : List α} {e : ε} (failed : xs.forM f = .error e) :
    ∃ x ∈ xs, f x = .error e := by
  induction xs with
  | nil => cases failed
  | cons x rest ih =>
    replace failed : (f x >>= fun _ => rest.forM f) = .error e := failed
    cases first : f x with
    | error other =>
      rw [first] at failed
      cases failed
      exact ⟨x,by simp,first⟩
    | ok u =>
      rw [first] at failed
      obtain ⟨y,member,failedThere⟩ := ih failed
      exact ⟨y,List.mem_cons_of_mem _ member,failedThere⟩

/-- Mapping stops at the first item that fails. -/
theorem mapM_stops {ε α β : Type} {f : α → Except ε β} {xs : List α} {e : ε} (failed : xs.mapM f = .error e) :
    ∃ before x rest, xs = before ++ x :: rest ∧ (∀ y ∈ before, ∃ z, f y = .ok z) ∧ f x = .error e := by
  induction xs with
  | nil => cases failed
  | cons x rest ih =>
    rw [List.mapM_cons] at failed
    cases first : f x with
    | error other =>
      rw [first] at failed
      cases failed
      exact ⟨[],x,rest,rfl,by simp,first⟩
    | ok y =>
      cases later : rest.mapM f with
      | error other =>
        rw [first,later] at failed
        cases failed
        obtain ⟨before,z,after,rfl,passed,failedThere⟩ := ih later
        exact ⟨x :: before,z,after,rfl,List.forall_mem_cons.mpr ⟨⟨y,first⟩,passed⟩,failedThere⟩
      | ok ys =>
        rw [first,later] at failed
        cases failed

theorem mapM_eq_error {ε α β : Type} {f : α → Except ε β} {xs : List α} {e : ε} (failed : xs.mapM f = .error e) :
    ∃ x ∈ xs, f x = .error e := by
  obtain ⟨before,x,rest,rfl,-,failedThere⟩ := mapM_stops failed
  exact ⟨x,by simp,failedThere⟩

theorem Package.checkDistinct_eq_error {before : List String}
    (failed : Package.checkDistinct package before defs = .error fault) :
    ∃ cls, fault = .duplicateClass cls package ∧ List.Duplicate cls (before ++ defs.map ClassDef.name) := by
  induction defs generalizing before with
  | nil => cases failed
  | cons d rest ih =>
    unfold Package.checkDistinct at failed
    split at failed
    · rename_i known
      cases failed
      exact ⟨d.name,rfl,duplicate_middle (List.contains_iff_mem.mp known)⟩
    · obtain ⟨cls,same,twice⟩ := ih failed
      exact ⟨cls,same,by simpa using twice⟩

namespace ClassDef

/-- The check of a default, which comes last whatever the kind of the feature. -/
theorem default_eq_error {row : FeatureDef} {kind : FeatureKind} (defined : d ∈ defs) (own : row ∈ d.features)
    (isKind : row.kind = kind)
    (failed : (match row.default with
      | some v =>
        if v.fits kind.valueKind = true then pure ()
        else throw (.unfitDefault d.name row.name v.typeName kind.valueKind)
      | _ => pure () : Except SchemaFault PUnit) = .error fault) : Blames package defs fault := by
  subst isKind
  split at failed
  · rename_i v given
    split at failed
    · cases failed
    · rename_i misfit
      cases failed
      exact .unfitDefault d row v defined own given (by simpa using misfit)
  · cases failed

/-- A row that is refused has the fault that it is refused for. -/
theorem checkFeature_eq_error {row : FeatureDef} (defined : d ∈ defs) (own : row ∈ d.features)
    (failed : check.checkFeature d (defs.map ClassDef.name) row = .error fault) : Blames package defs fault := by
  unfold check.checkFeature at failed
  cases isKind : row.kind with
  | reference target many =>
    simp only [isKind] at failed
    cases known : (defs.map ClassDef.name).contains target with
    | true =>
      simp only [known,if_true] at failed
      exact default_eq_error defined own isKind failed
    | false =>
      rw [known] at failed
      cases failed
      exact .unknownTarget d row target many defined own isKind (by simpa using known)
  | data kind =>
    simp only [isKind] at failed
    cases holds : kind.holdsHandle with
    | true =>
      rw [holds] at failed
      cases failed
      refine .handleAttribute d row kind defined own isKind ?_
      cases kind with
      | object => exact .inl rfl
      | list => exact .inr rfl
      | _ => cases holds
    | false =>
      simp only [holds,Bool.false_eq_true,if_false] at failed
      exact default_eq_error defined own isKind failed

/-- A definition that is refused has the fault that it is refused for. -/
theorem check_eq_error (defined : d ∈ defs) (failed : d.check (defs.map ClassDef.name) = .error fault) :
    Blames package defs fault := by
  have features : d.features.forM (check.checkFeature d (defs.map ClassDef.name)) = .error fault →
      Blames package defs fault := by
    intro failed
    obtain ⟨row,own,failedThere⟩ := forM_eq_error failed
    exact checkFeature_eq_error defined own failedThere
  unfold check at failed
  split at failed
  · rename_i parent hasParent
    split at failed
    · exact features failed
    · rename_i unknown
      cases failed
      exact .unknownParent d parent defined hasParent (by simpa using unknown)
  · exact features failed

theorem foldlM_addRow_eq_error {rows : List FeatureDef} {table : List Feature}
    (failed : rows.foldlM (featureTable.addRow name) table = .error fault) :
    ∃ twice, fault = .duplicateFeature twice name ∧
      List.Duplicate twice (table.map Feature.name ++ rows.map FeatureDef.name) := by
  induction rows generalizing table with
  | nil => cases failed
  | cons row rest ih =>
    rw [List.foldlM_cons] at failed
    unfold featureTable.addRow at failed
    split at failed
    · rename_i known
      cases failed
      refine ⟨row.name,rfl,duplicate_middle ?_⟩
      simpa using known
    · obtain ⟨twice,same,duplicate⟩ := ih failed
      exact ⟨twice,same,by simpa using duplicate⟩

/-- What is wrong with a class that cannot be resolved: it leads into a cycle, or two of its features have one name. -/
theorem resolve_eq_error (known : ∀ d ∈ defs, ∀ parent, d.parent = some parent → parent ∈ defs.map ClassDef.name)
    (defined : defs[place]? = some d) (failed : resolve defs place d = .error fault) : Blames package defs fault := by
  have member := List.mem_of_getElem? defined
  unfold resolve at failed
  cases ascended : ancestors defs place d with
  | error cycle =>
    rw [ascended] at failed
    cases failed
    obtain ⟨blamed,path,within,follows,begins,revisits⟩ :=
      Walks.revisits [] (walks_ancestors defs place d) ascended (by simp [defined]) (List.isChain_singleton d)
    have named : chain.nameAt defs place = d.name := by simp [chain.nameAt,defined]
    rw [blamed,named]
    exact .inheritanceCycle d path within follows begins revisits
  | ok places =>
    rw [ascended] at failed
    have rows := Rows.of_ascends known member (ancestors_eq_ok ascended)
    generalize all : places.reverse.flatMap (rowsAt defs) ++ d.features = table at rows
    replace failed : (featureTable d.name (places.reverse.flatMap (rowsAt defs) ++ d.features) >>= fun features =>
      pure _) = .error fault := failed
    rw [all] at failed
    cases tabled : featureTable d.name table with
    | error twice =>
      rw [tabled] at failed
      cases failed
      obtain ⟨name,rfl,duplicate⟩ := foldlM_addRow_eq_error tabled
      exact .duplicateFeature d table name member rows (by simpa using duplicate)
    | ok features =>
      rw [tabled] at failed
      cases failed

end ClassDef

namespace Package

/-- When building fails, the definitions have the fault that it fails for. -/
theorem build_eq_error (failed : build package uri defs = .error fault) : Blames package defs fault := by
  unfold build at failed
  cases distinct : checkDistinct package [] defs with
  | error e =>
    rw [distinct] at failed
    cases failed
    obtain ⟨cls,rfl,twice⟩ := checkDistinct_eq_error distinct
    exact .duplicateClass cls twice
  | ok u =>
    cases checked : defs.forM (·.check (defs.map ClassDef.name)) with
    | error e =>
      rw [distinct,checked] at failed
      cases failed
      obtain ⟨d,defined,failedThere⟩ := forM_eq_error checked
      exact ClassDef.check_eq_error defined failedThere
    | ok u =>
      rw [distinct,checked] at failed
      simp only [bind,Except.bind] at failed
      split at failed
      · rename_i e resolved
        cases failed
        obtain ⟨⟨d,place⟩,listed,failedThere⟩ := mapM_eq_error resolved
        have known : ∀ d ∈ defs, ∀ parent, d.parent = some parent → parent ∈ defs.map ClassDef.name :=
          fun d member => (ClassDef.check_eq_ok ((forM_eq_ok_iff _).mp checked d member)).1
        exact ClassDef.resolve_eq_error known (List.mk_mem_zipIdx_iff_getElem?.mp listed) failedThere
      · cases failed

/-- What a package was built from is well defined. -/
theorem wellDefined_of_build (done : build package uri defs = .ok p) : WellDefined defs := by
  have flattened := flattened_of_build done
  obtain ⟨distinct,checked,-,-⟩ := build_eq_ok done
  have checks := fun d member => ClassDef.check_eq_ok (checked d member)
  have parents := fun d member => (checks d member).1
  refine ⟨distinct,parents,?_,?_,?_,?_,?_⟩
  · intro d member row own
    exact ((checks d member).2 row own).target
  · intro d member row own
    have plain := ((checks d member).2 row own).plain
    refine ⟨?_,?_⟩
    · intro isObject
      exact absurd (plain _ isObject) (by decide)
    · intro isList
      exact absurd (plain _ isList) (by decide)
  · intro d member row own
    exact ((checks d member).2 row own).fits
  · intro path known follows
    cases path with
    | nil => exact List.nodup_nil
    | cons d rest =>
      obtain ⟨member,others⟩ := List.cons_subset.mp known
      obtain ⟨place,defined⟩ := List.getElem?_of_mem member
      obtain ⟨cls,places,rows,-,flat⟩ := flattened place d defined
      obtain ⟨through,isPrefix,listed⟩ := flat.ascends.follows distinct others follows
      have short : (place :: through).Sublist (place :: places) := isPrefix.sublist.cons_cons place
      exact ClassDef.nodup_of_places distinct (by simp [defined,listed]) (flat.once.sublist short)
  · intro d member rows all
    obtain ⟨place,defined⟩ := List.getElem?_of_mem member
    obtain ⟨cls,places,others,-,flat⟩ := flattened place d defined
    rw [all.unique distinct flat.complete]
    exact flat.distinct

/-- Building ends on all definitions. It makes a package exactly of well-defined classes, and otherwise it ends with a
fault that the definitions have. -/
theorem build_iff_wellDefined (name uri : String) (defs : List ClassDef) :
    (∀ place d, ClassDef.Walks defs place d [] (ClassDef.ancestors defs place d)) ∧
    ((∃ p, build name uri defs = .ok p) ↔ WellDefined defs) ∧
    (¬ WellDefined defs → ∃ fault, build name uri defs = .error fault ∧ Blames name defs fault) := by
  refine ⟨ClassDef.walks_ancestors defs,⟨?_,?_⟩,?_⟩
  · rintro ⟨p,done⟩
    exact wellDefined_of_build done
  · intro wellDefined
    cases result : build name uri defs with
    | ok p => exact ⟨p,rfl⟩
    | error fault => exact absurd wellDefined (build_eq_error result).not_wellDefined
  · intro faulty
    cases result : build name uri defs with
    | ok p => exact absurd (wellDefined_of_build result) faulty
    | error fault => exact ⟨fault,rfl,build_eq_error result⟩

/-- A class need not be on a cycle to lead into one. -/
example : build "p" "urn:p" [{ name := "Lead", parent := some "A" },{ name := "A", parent := some "B" },
    { name := "B", parent := some "A" }] = .error (.inheritanceCycle "Lead") := by
  rfl

end Package

end HandleBridge
