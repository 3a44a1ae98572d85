import Mathlib.Algebra.Group.Nat.Defs
import Mathlib.Data.List.Forall2
import HandleBridge.Toml.Basic

/-!
What is taken from a record. Only an absent field is given its default, the items under a field are taken one by one,
and the numbers that can be taken are those of 63 bits.
-/

namespace HandleBridge.Toml

theorem Value.natural?_eq_some_iff {v : Value} {limit : UInt64} :
    v.natural? = some limit ↔ limit.toNat ≤ 2 ^ 63 - 1 ∧ v = .integer (.ofNat limit.toNat) := by
  constructor
  · intro read
    unfold natural? at read
    split at read
    · rename_i n
      split at read
      · rename_i natural
        cases read
        have most := n.toInt_lt
        have clamped : n.toNatClampNeg = n.toInt.toNat := rfl
        rw [Int64.toNat_toUInt64_of_le natural,Int64.ofNat_toNatClampNeg _ natural]
        exact ⟨by omega,rfl⟩
      · cases read
    · cases read
  · rintro ⟨fits,rfl⟩
    have natural : 0 ≤ Int64.ofNat limit.toNat := by
      rw [Int64.le_iff_toInt_le,Int64.toInt_ofNat_of_lt (by omega)]
      exact Int.natCast_nonneg _
    rw [natural?,if_pos natural,Int64.toUInt64_ofNat',UInt64.ofNat_toNat]

/-- Values that are all taken are taken place by place. -/
theorem forall₂_of_mapM {α β : Type} {take : α → Option β} {xs : List α} {ys : List β}
    (taken : xs.mapM take = some ys) : List.Forall₂ (fun x y => take x = some y) xs ys := by
  induction xs generalizing ys with
  | nil =>
    cases taken
    exact .nil
  | cons x rest ih =>
    simp only [List.mapM_cons,Option.bind_eq_bind,Option.bind_eq_some_iff] at taken
    obtain ⟨y,first,others,further,done⟩ := taken
    cases done
    exact .cons first (ih further)

namespace Fields

variable {α : Type} {fields : Fields} {name : String} {take : Value → Option α} {a : α}

/-- A field that may be absent is taken as absent, or as its value. -/
theorem optional_eq_some_iff {taken : Option α} : fields.optional name take = some taken ↔
    fields name = none ∧ taken = none ∨ ∃ v a, fields name = some v ∧ take v = some a ∧ taken = some a := by
  unfold optional
  cases fields name with
  | none => simp [eq_comm]
  | some v => simp [Option.map_eq_some_iff,eq_comm]

/-- A field with a default is taken as that, or as its value. -/
theorem withDefault_eq_some_iff {usual : α} : fields.withDefault name usual take = some a ↔
    fields name = none ∧ a = usual ∨ ∃ v, fields name = some v ∧ take v = some a := by
  simp only [withDefault,Option.map_eq_some_iff,optional_eq_some_iff]
  constructor
  · rintro ⟨_,⟨absent,rfl⟩ | ⟨v,b,present,taken,rfl⟩,rfl⟩
    · exact .inl ⟨absent,rfl⟩
    · exact .inr ⟨v,present,taken⟩
  · rintro (⟨absent,rfl⟩ | ⟨v,present,taken⟩)
    · exact ⟨none,.inl ⟨absent,rfl⟩,rfl⟩
    · exact ⟨some a,.inr ⟨v,a,present,taken,rfl⟩,rfl⟩

/-- Items under a field of a record, none if it is absent. -/
def items (fields : Fields) (name : String) : List Value := ((fields name).bind Value.items?).getD []

/-- Items under a field are taken one by one. -/
theorem forall₂_items {taken : List α}
    (done : fields.withDefault name [] (fun v => v.items? >>= List.mapM take) = some taken) :
    List.Forall₂ (fun v a => take v = some a) (fields.items name) taken := by
  obtain ⟨absent,rfl⟩ | ⟨v,present,read⟩ := withDefault_eq_some_iff.mp done
  · rw [items,absent]
    exact .nil
  · obtain ⟨xs,listed,each⟩ := Option.bind_eq_some_iff.mp read
    rw [items,present,Option.bind_some,listed]
    exact forall₂_of_mapM each

end Fields

end HandleBridge.Toml
