import HandleBridge.Proofs.Hierarchies

/-!
The layout of a built package. Identifiers count classes and features from zero, and names lead back to them. The
table of a class is that of the class it extends with its own features behind, so that an identifier means the same in
every class that derives from the one it is of.
-/

namespace HandleBridge

/-- Features that a class adds to a table of that length. -/
def ClassDef.ownFeatures (d : ClassDef) (inherited : Nat) : List Feature :=
  (d.features.zipIdx inherited).map fun (row,place) => rowFeature row place

/-- A feature table in which places, identifiers and names go together. An identifier has 32 bits, so only a table
that they can count is read back from identifiers. -/
structure ClassType.Indexed (cls : ClassType) : Prop where
  id : ∀ (j : Nat) feature, cls.features[j]? = some feature → feature.id = ⟨UInt32.ofNat j⟩
  named : ∀ (j : Nat) feature, cls.features[j]? = some feature → cls.featureId feature.name = .ok ⟨UInt32.ofNat j⟩
  unknown : ∀ name, (∀ feature ∈ cls.features, feature.name ≠ name) →
    cls.featureId name = .error (.unknownFeature cls.name name)
  within : cls.features.length < 2 ^ 32 → ∀ f, f.index < cls.featureCount ↔ ∃ feature, cls.feature f = .ok feature
  inverse : cls.features.length < 2 ^ 32 → ∀ f name, cls.featureId name = .ok f ↔
    ∃ feature, cls.feature f = .ok feature ∧ feature.name = name
  default : ∀ feature ∈ cls.features, feature.default.fits feature.kind.valueKind = true ∨
    feature.kind.isMany = true ∧ feature.default = .null

namespace Package

/-- The class is laid out after the class that its definition extends. -/
def Continues (p : Package) (d : ClassDef) (cls : ClassType) : Prop :=
  match d.parent with
  | none => cls.parent? = none ∧ cls.features = d.ownFeatures 0
  | some parent => ∃ above, p.classNamed? parent = some above ∧ cls.parent? = some above.id ∧
      cls.features = above.features ++ d.ownFeatures above.features.length

/-- A package that is laid out as its definitions say. -/
structure LaidOut (p : Package) (defs : List ClassDef) : Prop where
  count : p.classes.length = defs.length
  id : ∀ (i : Nat) cls, p.classes[i]? = some cls → cls.id = ⟨UInt32.ofNat i⟩
  named : ∀ cls ∈ p.classes, p.classNamed? cls.name = some cls
  indexed : ∀ cls ∈ p.classes, cls.Indexed
  continues : ∀ (i : Nat) d cls, defs[i]? = some d → p.classes[i]? = some cls → cls.name = d.name ∧ p.Continues d cls
  derived : p.classes.length < 2 ^ 32 → ∀ c e cls above, p.isA c e = true → p.class? c = some cls →
    p.class? e = some above → ∀ f feature, above.feature f = .ok feature → cls.feature f = .ok feature

end Package

variable {defs : List ClassDef} {d owner : ClassDef} {cls : ClassType} {places : List Nat} {place j : Nat}
  {rows : List FeatureDef} {feature : Feature} {p : Package} {package uri name : String} {f : FeatureId}

/-- Where names are distinct, a name finds the one that has it. -/
theorem find?_of_distinct {α : Type} {label : α → String} {xs : List α} {x : α} (distinct : (xs.map label).Nodup)
    (member : x ∈ xs) : xs.find? (label · = label x) = some x := by
  cases found : xs.find? (label · = label x) with
  | none =>
    have other := List.find?_eq_none.mp found x member
    simp at other
  | some y =>
    have same : label y = label x := by simpa using List.find?_some found
    rw [List.inj_on_of_nodup_map distinct (List.mem_of_find?_eq_some found) member same]

/-- Every row of a table is one of some definition. -/
theorem ClassDef.Rows.owned (all : Rows defs d rows) (member : d ∈ defs) {row : FeatureDef} (within : row ∈ rows) :
    ∃ owner ∈ defs, row ∈ owner.features := by
  induction all with
  | @root d top => exact ⟨d,member,within⟩
  | @derived d above inherited parent defined further ih =>
    rcases List.mem_append.mp within with old | own
    · exact ih defined old
    · exact ⟨d,member,own⟩

theorem Value.fits_default {kind : Kind} (plain : kind.holdsHandle = false) : (Value.default kind).fits kind = true := by
  cases kind with
  | object => rfl
  | list => cases plain
  | _ => rfl

/-- The default of a feature fits, or there is none because the feature has a list. -/
theorem ClassDef.default_of_checked {names : List String} {row : FeatureDef} (checked : RowChecked names row) :
    (rowFeature row place).default.fits row.kind.valueKind = true ∨
      row.kind.isMany = true ∧ (rowFeature row place).default = .null := by
  unfold rowFeature
  cases given : row.default with
  | some v => exact .inl (checked.fits v given)
  | none =>
    cases isKind : row.kind with
    | data kind => exact .inl (Value.fits_default (checked.plain kind isKind))
    | reference target many =>
      cases many with
      | false => exact .inl rfl
      | true => exact .inr ⟨rfl,rfl⟩

namespace ClassDef.Flattened

theorem row (flat : Flattened defs place d cls places rows) (found : cls.features[j]? = some feature) :
    ∃ row, rows[j]? = some row ∧ feature = rowFeature row j := by
  rw [flat.features,List.getElem?_map] at found
  simp only [List.getElem?_zipIdx,Option.map_map,Option.map_eq_some_iff,Function.comp] at found
  obtain ⟨row,there,rfl⟩ := found
  exact ⟨row,there,by simp⟩

theorem names (flat : Flattened defs place d cls places rows) :
    (cls.features.map Feature.name) = rows.map FeatureDef.name := by
  refine List.ext_getElem? fun i => ?_
  rw [flat.features]
  simp [Function.comp_def,rowFeature]

theorem indexed (flat : Flattened defs place d cls places rows) (defined : d ∈ defs)
    (checked : ∀ owner ∈ defs, ∀ row ∈ owner.features, RowChecked (defs.map ClassDef.name) row) : cls.Indexed := by
  have distinct : (cls.features.map Feature.name).Nodup := flat.names ▸ flat.distinct
  have id : ∀ (j : Nat) feature, cls.features[j]? = some feature → feature.id = ⟨UInt32.ofNat j⟩ := by
    intro j feature found
    obtain ⟨row,-,rfl⟩ := flat.row found
    rfl
  have named : ∀ (j : Nat) feature, cls.features[j]? = some feature →
      cls.featureId feature.name = .ok ⟨UInt32.ofNat j⟩ := by
    intro j feature found
    rw [ClassType.featureId,find?_of_distinct distinct (List.mem_of_getElem? found)]
    simp only [id j feature found]
  refine ⟨id,named,?_,?_,?_,?_⟩
  · intro name other
    have missing : cls.features.find? (·.name = name) = none :=
      List.find?_eq_none.mpr fun feature member => by simpa using other feature member
    rw [ClassType.featureId,missing]
  · intro few f
    have counted : cls.featureCount.toNat = cls.features.length := UInt32.toNat_ofNat_of_lt' few
    simp only [UInt32.lt_iff_toNat_lt,counted,ClassType.feature_eq_ok_iff]
    constructor
    · intro inside
      exact ⟨_,List.getElem?_eq_getElem inside⟩
    · rintro ⟨feature,found⟩
      exact (List.getElem?_eq_some_iff.mp found).1
  · intro few f name
    constructor
    · intro known
      unfold ClassType.featureId at known
      split at known
      · rename_i feature found
        cases known
        obtain ⟨j,atPlace⟩ := List.getElem?_of_mem (List.mem_of_find?_eq_some found)
        have inside := (List.getElem?_eq_some_iff.mp atPlace).1
        have index : (UInt32.ofNat j).toNat = j := UInt32.toNat_ofNat_of_lt' (Nat.lt_trans inside few)
        refine ⟨feature,?_,by simpa using List.find?_some found⟩
        rw [ClassType.feature_eq_ok_iff,id j feature atPlace,index,atPlace]
      · cases known
    · rintro ⟨feature,found,rfl⟩
      have here := named _ feature (ClassType.feature_eq_ok_iff.mp found)
      rw [here,UInt32.ofNat_toNat]
  · intro feature member
    obtain ⟨j,found⟩ := List.getElem?_of_mem member
    obtain ⟨row,there,rfl⟩ := flat.row found
    obtain ⟨owner,known,own⟩ := flat.complete.owned defined (List.mem_of_getElem? there)
    exact default_of_checked (checked owner known row own)

end ClassDef.Flattened

namespace Package

variable {above : ClassType} {i : Nat} {c e : ClassId}

/-- Every class of a built package is at the place of its definition. -/
theorem flattened_at (done : build package uri defs = .ok p) (found : p.classes[i]? = some cls) :
    ∃ d places rows, defs[i]? = some d ∧ ClassDef.Flattened defs i d cls places rows := by
  obtain ⟨-,-,count,-⟩ := build_eq_ok done
  have inside : i < defs.length := count ▸ (List.getElem?_eq_some_iff.mp found).1
  have defined : defs[i]? = some defs[i] := List.getElem?_eq_getElem inside
  obtain ⟨other,places,rows,same,flat⟩ := flattened_of_build done i _ defined
  cases found.symm.trans same
  exact ⟨_,places,rows,defined,flat⟩

theorem names_of_build (done : build package uri defs = .ok p) :
    p.classes.map ClassType.name = defs.map ClassDef.name := by
  obtain ⟨-,-,count,-⟩ := build_eq_ok done
  refine List.ext_getElem (by simp [count]) fun i inside _ => ?_
  rw [List.length_map] at inside
  obtain ⟨d,places,rows,defined,flat⟩ := flattened_at done (List.getElem?_eq_getElem inside)
  obtain ⟨_,same⟩ := List.getElem?_eq_some_iff.mp defined
  simp [flat.name,same]

theorem classNamed?_of_mem (done : build package uri defs = .ok p) (member : cls ∈ p.classes) :
    p.classNamed? cls.name = some cls := by
  obtain ⟨distinct,-⟩ := build_eq_ok done
  exact find?_of_distinct (names_of_build done ▸ distinct) member

/-- Every class continues the table of the class that it extends. -/
theorem continues_of_build (done : build package uri defs = .ok p)
    (flat : ClassDef.Flattened defs j d cls places rows) : p.Continues d cls := by
  obtain ⟨distinct,-⟩ := build_eq_ok done
  have ascends := flat.ascends
  unfold Continues ClassType.parent?
  rw [flat.ancestors,flat.features]
  cases flat.complete with
  | root top =>
    cases ascends with
    | top => simp [top,ClassDef.ownFeatures]
    | unknown hasParent => simp [top] at hasParent
    | step hasParent => simp [top] at hasParent
  | @derived _ above inherited parent known further =>
    cases ascends with
    | top none => simp [ClassDef.Extends,none] at parent
    | unknown hasParent missing =>
      cases hasParent.symm.trans parent
      obtain ⟨place,found⟩ := ClassDef.findIdx?_of_mem (List.mem_map_of_mem known)
      cases missing.symm.trans found
    | @step _ met _ place rest hasParent found defined onward =>
      cases hasParent.symm.trans parent
      obtain ⟨other,again,same⟩ := ClassDef.defined_of_findIdx? found
      cases defined.symm.trans again
      cases ClassDef.eq_of_name distinct (List.mem_of_getElem? defined) known same
      obtain ⟨upper,_,_,atPlace,higher⟩ := flattened_of_build done place above defined
      cases higher.complete.unique distinct further
      have here := classNamed?_of_mem done (List.mem_of_getElem? atPlace)
      rw [higher.name] at here
      rw [parent]
      exact ⟨upper,here,by simp [higher.id],by simp [higher.features,ClassDef.ownFeatures,List.zipIdx_append]⟩

/-- The table of a class begins with that of every class on its chain of super types. -/
theorem table_prefix {upper : List Nat} {inherited : List FeatureDef} (distinct : (defs.map ClassDef.name).Nodup)
    (flat : ClassDef.Flattened defs j d cls places rows)
    (higher : ClassDef.Flattened defs place owner above upper inherited) (defined : defs[place]? = some owner)
    (on : place ∈ places) : above.features <+: cls.features := by
  obtain ⟨more,split⟩ := ClassDef.Rows.inherits distinct flat.ascends on defined flat.complete higher.complete
  rw [flat.features,higher.features,← split,List.zipIdx_append,List.map_append]
  exact List.prefix_append _ _

/-- An identifier of a feature means the same in every class that derives. -/
theorem feature_of_isA (done : build package uri defs = .ok p) (few : p.classes.length < 2 ^ 32)
    (derives : p.isA c e = true) (known : p.class? c = some cls) (knownAbove : p.class? e = some above)
    (row : above.feature f = .ok feature) : cls.feature f = .ok feature := by
  obtain ⟨distinct,-,count,-⟩ := build_eq_ok done
  obtain ⟨d,places,rows,-,flat⟩ := flattened_at done known
  obtain ⟨cls',known',same | member⟩ := isA_iff.mp derives
  · cases known.symm.trans known'
    have own : cls.id = c := by rw [flat.id,UInt32.ofNat_toNat]
    cases own.symm.trans same
    cases known.symm.trans knownAbove
    exact row
  · cases known.symm.trans known'
    rw [flat.ancestors] at member
    obtain ⟨place,on,rfl⟩ := List.mem_map.mp member
    obtain ⟨owner,-,defined,-⟩ := flat.ascends.suffix on
    have inside : place < p.classes.length := count ▸ (List.getElem?_eq_some_iff.mp defined).1
    have index : (UInt32.ofNat place).toNat = place := UInt32.toNat_ofNat_of_lt' (Nat.lt_trans inside few)
    rw [class?,index] at knownAbove
    obtain ⟨owner',upper,inherited,defined',higher⟩ := flattened_at done knownAbove
    cases defined.symm.trans defined'
    obtain ⟨more,split⟩ := table_prefix distinct flat higher defined on
    rw [ClassType.feature_eq_ok_iff] at row ⊢
    rw [← split,List.getElem?_append_left (List.getElem?_eq_some_iff.mp row).1,row]

/-- In every class of a built package places, identifiers and names go together. -/
theorem indexed_of_build (done : build package uri defs = .ok p) (member : cls ∈ p.classes) : cls.Indexed := by
  obtain ⟨-,checked,-⟩ := build_eq_ok done
  obtain ⟨i,found⟩ := List.getElem?_of_mem member
  obtain ⟨d,places,rows,defined,flat⟩ := flattened_at done found
  exact flat.indexed (List.mem_of_getElem? defined) fun d member => (ClassDef.check_eq_ok (checked d member)).2

/-- Every package that is built is laid out as its definitions say. -/
theorem laidOut_of_build (done : build package uri defs = .ok p) : p.LaidOut defs := by
  obtain ⟨-,-,count,-⟩ := build_eq_ok done
  refine ⟨count,?_,fun cls => classNamed?_of_mem done,fun cls => indexed_of_build done,?_,?_⟩
  · intro i cls found
    obtain ⟨d,places,rows,-,flat⟩ := flattened_at done found
    exact flat.id
  · intro i d cls defined found
    obtain ⟨d',places,rows,defined',flat⟩ := flattened_at done found
    cases defined.symm.trans defined'
    exact ⟨flat.name,continues_of_build done flat⟩
  · intro few c e cls above derives known knownAbove f feature row
    exact feature_of_isA done few derives known knownAbove row

/-- Three classes that derive from one another, the one that derives from both others foremost. -/
def lineage : List ClassDef := [
  { name := "Leaf", parent := some "Branch", features := [⟨"size",.data .int,some (.int 1)⟩] },
  { name := "Branch", parent := some "Root", features := [⟨"leaves",.reference "Leaf" true,none⟩] },
  { name := "Root", features := [⟨"name",.data .string,none⟩] }]

theorem lineage_laidOut : ∃ p, build "lineage" "urn:lineage" lineage = .ok p ∧ p.LaidOut lineage ∧
    p.classes.map (fun cls => cls.features.map Feature.name) = [["name","leaves","size"],["name","leaves"],["name"]] :=
  ⟨_,rfl,laidOut_of_build rfl,rfl⟩

end Package

end HandleBridge
