import Mathlib.Data.List.Chain
import Mathlib.Data.List.Nodup
import Mathlib.Data.List.Perm.Subperm
import HandleBridge.Proofs.BuiltPackages

/-!
Hierarchies of class definitions. `Walks` is the search for super types without a bound on its steps: the bound that
the search is given is never what ends it. When it succeeds it met no place twice, and when it fails it came back to a
class that it had been to. `Rows` says which features a class has, told from the class that it extends.
-/

namespace HandleBridge

namespace ClassDef

variable {defs : List ClassDef} {d above : ClassDef} {start place fuel : Nat} {seen places : List Nat} {name : String}
  {path : List ClassDef} {rows inherited : List FeatureDef}

def Extends (d above : ClassDef) : Prop := d.parent = some above.name

/-- Definitions of the features of a class: those that it inherits, and then its own. -/
inductive Rows (defs : List ClassDef) : ClassDef → List FeatureDef → Prop
  | root {d : ClassDef} (top : d.parent = none) : Rows defs d d.features
  | derived {d above : ClassDef} {inherited : List FeatureDef} (parent : d.Extends above) (defined : above ∈ defs)
      (further : Rows defs above inherited) : Rows defs d (inherited ++ d.features)

/-- Search for the super types of the definition at `start`, which came to `current` past the places in `seen`. -/
inductive Walks (defs : List ClassDef) (start : Nat) :
    ClassDef → List Nat → Except SchemaFault (List Nat) → Prop
  | top {current : ClassDef} {seen : List Nat} (none : current.parent = none) : Walks defs start current seen (.ok seen)
  | unknown {current : ClassDef} {seen : List Nat} {name : String} (hasParent : current.parent = some name)
      (missing : defs.findIdx? (·.name = name) = none) : Walks defs start current seen (.ok seen)
  | cycle {current : ClassDef} {seen : List Nat} {name : String} {place : Nat} (hasParent : current.parent = some name)
      (found : defs.findIdx? (·.name = name) = some place) (again : place ∈ start :: seen) :
      Walks defs start current seen (.error (.inheritanceCycle (chain.nameAt defs start)))
  | step {current above : ClassDef} {seen : List Nat} {name : String} {place : Nat}
      {result : Except SchemaFault (List Nat)} (hasParent : current.parent = some name)
      (found : defs.findIdx? (·.name = name) = some place) (defined : defs[place]? = some above)
      (new : place ∉ start :: seen) (further : Walks defs start above (seen ++ [place]) result) :
      Walks defs start current seen result

theorem defined_of_findIdx? (found : defs.findIdx? (·.name = name) = some place) :
    ∃ above, defs[place]? = some above ∧ above.name = name := by
  obtain ⟨inside,same,-⟩ := List.findIdx?_eq_some_iff_getElem.mp found
  exact ⟨defs[place],List.getElem?_eq_getElem inside,by simpa using same⟩

theorem findIdx?_of_mem (member : name ∈ defs.map ClassDef.name) : ∃ place, defs.findIdx? (·.name = name) = some place := by
  obtain ⟨d,known,same⟩ := List.mem_map.mp member
  rw [← Option.isSome_iff_exists,List.findIdx?_isSome,List.any_eq_true]
  exact ⟨d,known,by simp [same]⟩

/-- Classes of one name are the same where names are distinct. -/
theorem eq_of_name (distinct : (defs.map ClassDef.name).Nodup) (first : d ∈ defs) (second : above ∈ defs)
    (same : d.name = above.name) : d = above :=
  List.inj_on_of_nodup_map distinct first second same

/-- Definitions at different places have different names. -/
theorem nodup_of_places (distinct : (defs.map ClassDef.name).Nodup) (listed : path.map some = places.map (defs[·]?))
    (once : places.Nodup) : (path.map ClassDef.name).Nodup := by
  have named : (path.map ClassDef.name).map some = places.map ((defs.map ClassDef.name)[·]?) := by
    have both := congrArg (List.map (Option.map ClassDef.name)) listed
    simpa [Function.comp_def] using both
  refine List.Nodup.of_map some ?_
  rw [named]
  refine once.map_on fun i atFirst j atSecond same => ?_
  have known : (defs.map ClassDef.name)[i]? ∈ (path.map ClassDef.name).map some := named ▸ List.mem_map_of_mem atFirst
  obtain ⟨found,-,isFound⟩ := List.mem_map.mp known
  exact (List.getElem?_inj (List.getElem?_eq_some_iff.mp isFound.symm).1 distinct).mp same

theorem subset_of_places (listed : path.map some = places.map (defs[·]?)) : path ⊆ defs := by
  intro d member
  have known : some d ∈ path.map some := List.mem_map_of_mem member
  rw [listed] at known
  obtain ⟨i,-,found⟩ := List.mem_map.mp known
  exact List.mem_of_getElem? found

/-! ### The search -/

/-- The search ends before it runs out of steps: it meets no place twice, and there are no more than definitions. -/
theorem walks_chain (known : ∀ i ∈ seen, i < defs.length) (distinct : seen.Nodup)
    (enough : fuel + seen.length = defs.length + 1) : Walks defs start d seen (chain defs start fuel d seen) := by
  induction fuel generalizing d seen with
  | zero =>
    have within : seen ⊆ List.range defs.length := fun i member => List.mem_range.mpr (known i member)
    have bound := (distinct.subperm within).length_le
    rw [List.length_range] at bound
    omega
  | succ fuel ih =>
    unfold chain
    split
    · rename_i none
      exact .top none
    · rename_i name hasParent
      split
      · rename_i missing
        exact .unknown hasParent missing
      · rename_i place found
        obtain ⟨above,defined,-⟩ := defined_of_findIdx? found
        split
        · rename_i again
          exact .cycle hasParent found (by simpa using again)
        · rename_i new
          have fresh : place ∉ start :: seen := by simpa using new
          rw [defined,Option.getD_some]
          refine .step hasParent found defined fresh (ih ?_ ?_ ?_)
          · intro i member
            rcases List.mem_append.mp member with old | last
            · exact known i old
            · cases List.mem_singleton.mp last
              exact (List.getElem?_eq_some_iff.mp defined).1
          · rw [← List.concat_eq_append]
            exact distinct.concat (fun old => fresh (List.mem_cons_of_mem _ old))
          · simp
            omega

theorem walks_ancestors (defs : List ClassDef) (start : Nat) (d : ClassDef) :
    Walks defs start d [] (ancestors defs start d) :=
  walks_chain (by simp) (by simp) (by simp)

/-- The places of the ancestors are the parent chain. -/
theorem ancestors_eq_ok (done : ancestors defs start d = .ok places) : Ascends defs d places := by
  obtain ⟨above,same,ascends⟩ := chain_eq_ok done
  rw [List.nil_append] at same
  exact same ▸ ascends

/-- A search that succeeds met no place twice. -/
theorem Walks.nodup {result : Except SchemaFault (List Nat)} (walks : Walks defs start d seen result)
    (distinct : (start :: seen).Nodup) (done : result = .ok places) : (start :: places).Nodup := by
  induction walks with
  | top => cases done; exact distinct
  | unknown => cases done; exact distinct
  | cycle => cases done
  | @step current above seen name place result hasParent found defined new further ih =>
    refine ih ?_ done
    rw [← List.cons_append,← List.concat_eq_append]
    exact distinct.concat new

/-- Following one more super type. -/
theorem follow_step {front : List ClassDef} {current : ClassDef}
    (listed : (front ++ [current]).map some = (start :: seen).map (defs[·]?))
    (follows : (front ++ [current]).IsChain Extends) (parent : current.Extends above)
    (defined : defs[place]? = some above) :
    (front ++ [current] ++ [above]).map some = (start :: (seen ++ [place])).map (defs[·]?) ∧
      (front ++ [current] ++ [above]).IsChain Extends := by
  refine ⟨?_,follows.append (List.isChain_singleton above) ?_⟩
  · rw [List.map_append,listed,← List.cons_append,List.map_append]
    simp [defined]
  · intro x last y first
    simp only [List.getLast?_append,List.getLast?_singleton,Option.some_or,List.head?_cons,Option.mem_some_iff] at last first
    subst last first
    exact parent

/-- A search that fails followed super types to a class that it had been to. -/
theorem Walks.revisits {result : Except SchemaFault (List Nat)} {fault : SchemaFault} (front : List ClassDef)
    (walks : Walks defs start d seen result) (failed : result = .error fault)
    (listed : (front ++ [d]).map some = (start :: seen).map (defs[·]?)) (follows : (front ++ [d]).IsChain Extends) :
    fault = .inheritanceCycle (chain.nameAt defs start) ∧ ∃ path, path ⊆ defs ∧ path.IsChain Extends ∧
      path.head? = (front ++ [d]).head? ∧ ¬ (path.map ClassDef.name).Nodup := by
  induction walks generalizing front with
  | top => cases failed
  | unknown => cases failed
  | @cycle current seen name place hasParent found again =>
    cases failed
    obtain ⟨above,defined,rfl⟩ := defined_of_findIdx? found
    obtain ⟨longer,further⟩ := follow_step listed follows hasParent defined
    refine ⟨rfl,front ++ [current] ++ [above],subset_of_places longer,further,by simp [List.head?_append],?_⟩
    have visited : above ∈ front ++ [current] := by
      have member : some above ∈ (front ++ [current]).map some := by
        rw [listed,← defined]
        exact List.mem_map_of_mem again
      simpa using member
    intro distinct
    rw [List.map_append,List.nodup_append] at distinct
    exact distinct.2.2 _ (List.mem_map_of_mem visited) _ (by simp) rfl
  | @step current above seen name place result hasParent found defined new further ih =>
    obtain ⟨other,again,rfl⟩ := defined_of_findIdx? found
    cases defined.symm.trans again
    obtain ⟨longer,onward⟩ := follow_step listed follows hasParent defined
    obtain ⟨blamed,path,known,chain,begins,revisits⟩ := ih _ failed longer onward
    exact ⟨blamed,path,known,chain,begins.trans (by simp [List.head?_append]),revisits⟩

/-- The places that a path of super types goes through are the first of those that the search lists. -/
theorem Ascends.follows (ascends : Ascends defs d places) (distinct : (defs.map ClassDef.name).Nodup)
    (known : path ⊆ defs) (chain : (d :: path).IsChain Extends) :
    ∃ through, through <+: places ∧ path.map some = through.map (defs[·]?) := by
  induction path generalizing d places with
  | nil => exact ⟨[],List.nil_prefix,rfl⟩
  | cons above rest ih =>
    obtain ⟨parent,onward⟩ := List.isChain_cons_cons.mp chain
    obtain ⟨here,others⟩ := List.cons_subset.mp known
    cases ascends with
    | top none => simp [Extends,none] at parent
    | unknown hasParent missing =>
      cases hasParent.symm.trans parent
      obtain ⟨place,found⟩ := findIdx?_of_mem (List.mem_map_of_mem here)
      cases missing.symm.trans found
    | @step _ other name place rest hasParent found defined further =>
      cases hasParent.symm.trans parent
      obtain ⟨met,again,same⟩ := defined_of_findIdx? found
      cases defined.symm.trans again
      cases eq_of_name distinct (List.mem_of_getElem? defined) here same
      obtain ⟨through,isPrefix,listed⟩ := ih further others onward
      exact ⟨place :: through,List.cons_prefix_cons.mpr ⟨rfl,isPrefix⟩,by simp [defined,listed]⟩

theorem Rows.unique (distinct : (defs.map ClassDef.name).Nodup) {others : List FeatureDef} (one : Rows defs d rows)
    (other : Rows defs d others) : rows = others := by
  induction one generalizing others with
  | root top =>
    cases other with
    | root => rfl
    | derived parent => simp [Extends,top] at parent
  | @derived d above inherited parent defined further ih =>
    cases other with
    | root top => simp [Extends,top] at parent
    | @derived _ again _ parent' defined' further' =>
      have same : above.name = again.name := Option.some.inj (parent.symm.trans parent')
      cases eq_of_name distinct defined defined' same
      rw [ih further']

/-- Definitions of the features of the class at a place. -/
def rowsAt (defs : List ClassDef) (place : Nat) : List FeatureDef := (defs[place]?.map ClassDef.features).getD []

/-- The rows along a chain of super types, those of the top class foremost. -/
theorem Rows.of_ascends (known : ∀ d ∈ defs, ∀ parent, d.parent = some parent → parent ∈ defs.map ClassDef.name)
    (member : d ∈ defs) (ascends : Ascends defs d places) :
    Rows defs d (places.reverse.flatMap (rowsAt defs) ++ d.features) := by
  induction ascends with
  | top none => exact .root none
  | unknown hasParent missing =>
    obtain ⟨place,found⟩ := findIdx?_of_mem (known _ member _ hasParent)
    cases missing.symm.trans found
  | @step d above name place rest hasParent found defined further ih =>
    obtain ⟨other,again,rfl⟩ := defined_of_findIdx? found
    cases defined.symm.trans again
    have inside := List.mem_of_getElem? defined
    have own : rowsAt defs place = above.features := by simp [rowsAt,defined]
    rw [List.reverse_cons,List.flatMap_append,List.flatMap_singleton,own]
    exact .derived hasParent inside (ih inside)

/-- The rows of a class begin with those of every class that it derives from. -/
theorem Rows.inherits (distinct : (defs.map ClassDef.name).Nodup) (ascends : Ascends defs d places) (on : place ∈ places)
    (defined : defs[place]? = some above) (all : Rows defs d rows) (upper : Rows defs above inherited) :
    inherited <+: rows := by
  induction ascends generalizing rows with
  | top => cases on
  | unknown => cases on
  | @step d next name first rest hasParent found atFirst further ih =>
    obtain ⟨other,again,rfl⟩ := defined_of_findIdx? found
    cases atFirst.symm.trans again
    cases all with
    | root top => simp [hasParent] at top
    | @derived _ other passed parent known onward =>
      have same : next.name = other.name := Option.some.inj (hasParent.symm.trans parent)
      cases eq_of_name distinct (List.mem_of_getElem? atFirst) known same
      refine List.IsPrefix.trans ?_ (List.prefix_append passed d.features)
      rcases List.mem_cons.mp on with rfl | later
      · cases atFirst.symm.trans defined
        exact upper.unique distinct onward ▸ List.prefix_refl _
      · exact ih later onward

/-- A table that was made has no name twice. -/
theorem nodup_of_foldlM_addRow {table made : List Feature}
    (done : rows.foldlM (featureTable.addRow name) table = .ok made) (distinct : (table.map Feature.name).Nodup) :
    (table.map Feature.name ++ rows.map FeatureDef.name).Nodup := by
  induction rows generalizing table with
  | nil => simpa using distinct
  | cons row rest ih =>
    rw [List.foldlM_cons] at done
    unfold featureTable.addRow at done
    split at done
    · cases done
    · rename_i new
      have further := ih done ?_
      · simpa using further
      · rw [List.map_append,List.map_singleton,← List.concat_eq_append]
        exact distinct.concat (by simpa using new)

/-- What building makes of the definition at a place, given the places of its super types and all its rows. -/
structure Flattened (defs : List ClassDef) (place : Nat) (d : ClassDef) (cls : ClassType) (places : List Nat)
    (rows : List FeatureDef) : Prop where
  id : cls.id = ⟨UInt32.ofNat place⟩
  name : cls.name = d.name
  ascends : Ascends defs d places
  once : (place :: places).Nodup
  ancestors : cls.ancestors = places.map fun place => ⟨UInt32.ofNat place⟩
  complete : Rows defs d rows
  distinct : (rows.map FeatureDef.name).Nodup
  features : cls.features = rows.zipIdx.map fun (row,place) => rowFeature row place

/-- A class that was resolved is flattened from the rows along its chain. -/
theorem resolve_flattened {cls : ClassType}
    (known : ∀ d ∈ defs, ∀ parent, d.parent = some parent → parent ∈ defs.map ClassDef.name)
    (defined : defs[place]? = some d) (done : resolve defs place d = .ok cls) :
    ∃ places rows, Flattened defs place d cls places rows := by
  simp only [resolve,bind_eq_ok_iff] at done
  obtain ⟨places,ascended,features,tabled,done⟩ := done
  cases done
  have ascends := ancestors_eq_ok ascended
  have rows := Rows.of_ascends known (List.mem_of_getElem? defined) ascends
  have distinct : ((places.reverse.flatMap (rowsAt defs) ++ d.features).map FeatureDef.name).Nodup :=
    nodup_of_foldlM_addRow tabled List.nodup_nil
  exact ⟨places,_,rfl,rfl,ascends,(walks_ancestors defs place d).nodup (by simp) ascended,rfl,rows,distinct,
    featureTable_eq_ok tabled⟩

end ClassDef

/-- Every class of a built package is what flattening makes of its definition. -/
theorem Package.flattened_of_build {p : Package} {package uri : String} {defs : List ClassDef}
    (done : build package uri defs = .ok p) (place : Nat) (d : ClassDef) (defined : defs[place]? = some d) :
    ∃ cls places rows, p.classes[place]? = some cls ∧ ClassDef.Flattened defs place d cls places rows := by
  simp only [build,bind_eq_ok_iff] at done
  obtain ⟨⟨⟩,-,⟨⟩,checked,classes,resolved,done⟩ := done
  cases done
  have known : ∀ d ∈ defs, ∀ parent, d.parent = some parent → parent ∈ defs.map ClassDef.name :=
    fun d member => (ClassDef.check_eq_ok ((forM_eq_ok_iff _).mp checked d member)).1
  obtain ⟨cls,found,done⟩ := (mapM_eq_ok resolved).2 place (d,place) (by simp [defined])
  obtain ⟨places,rows,flat⟩ := ClassDef.resolve_flattened known defined done
  exact ⟨cls,places,rows,found,flat⟩

end HandleBridge
