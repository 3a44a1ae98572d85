import Mathlib.Tactic.IntervalCases
import HandleBridge.Toml.Reader

/-!
Numerals. A number is written in decimal digits without a leading zero, and a numeral that ends its line is read as its
number (`scalar_line`): it begins no date and no time, as neither a hyphen nor a colon follows its first digits, and no
number of another base, as it has a leading zero only if it is that zero.
-/

namespace HandleBridge.Toml

variable {digits cs rest : List Char} {c : Char} {n m count : Nat}

def AllDigits (digits : List Char) : Prop := ∀ c ∈ digits, c.isDigit = true

theorem allDigits_toDigits (n : Nat) : AllDigits (Nat.toDigits 10 n) :=
  fun _ member => Nat.isDigit_of_mem_toDigits (by decide) (by decide) member

theorem toNat_of_isDigit (digit : c.isDigit = true) : 48 ≤ c.toNat ∧ c.toNat ≤ 57 := by
  simpa [Char.isDigit,UInt32.le_iff_toNat_le] using digit

theorem hexDigit?_of_isDigit (digit : c.isDigit = true) : Text.hexDigit? c = some (c.toNat - '0'.toNat) := by
  have bounds : '0' ≤ c ∧ c ≤ '9' := toNat_of_isDigit digit
  exact if_pos bounds

theorem step_of_isDigit (digit : c.isDigit = true) (value : Nat) :
    Text.numeral?.step 10 value c = some (10 * value + (c.toNat - '0'.toNat)) := by
  obtain ⟨least,most⟩ := toNat_of_isDigit digit
  have below : c.toNat - '0'.toNat < 10 := by
    show c.toNat - 48 < 10
    omega
  simp only [Text.numeral?.step,hexDigit?_of_isDigit digit,bind,Option.bind,if_pos below,Nat.mul_comm]

/-- Decimal digits name the number that they have in decimal. -/
theorem numeral?_of_allDigits (all : AllDigits digits) (some' : digits ≠ []) :
    Text.numeral? 10 digits = some (Nat.ofDigitChars 10 digits 0) := by
  have folded : ∀ (digits : List Char) (value : Nat), AllDigits digits →
      digits.foldlM (Text.numeral?.step 10) value = some (Nat.ofDigitChars 10 digits value) := by
    intro digits
    induction digits with
    | nil => exact fun value _ => rfl
    | cons c digits ih =>
      intro value all
      obtain ⟨first,others⟩ := List.forall_mem_cons.mp all
      rw [List.foldlM_cons,step_of_isDigit first,Nat.ofDigitChars_cons]
      exact ih _ others
  cases digits with
  | nil => exact absurd rfl some'
  | cons c digits => exact folded _ 0 all

theorem isDigit_of_isDigit (digit : c.isDigit = true) : moreDigits?.isDigit 10 c = true := by
  rw [moreDigits?.isDigit,numeral?_of_allDigits (by simpa [AllDigits] using digit) (by simp)]
  rfl

theorem ne_of_isDigit {d : Char} (digit : c.isDigit = true) (other : d.isDigit = false) : c ≠ d := by
  rintro rfl
  rw [digit] at other
  cases other

/-- All digits before a line end are taken. -/
theorem moreDigits?_line (all : AllDigits digits) :
    moreDigits? 10 (digits ++ '\n' :: rest) = some (digits,'\n' :: rest) := by
  induction digits with
  | nil => rfl
  | cons c digits ih =>
    obtain ⟨first,others⟩ := List.forall_mem_cons.mp all
    have plain : c ≠ '_' := ne_of_isDigit first rfl
    rw [List.cons_append,moreDigits?,if_pos (isDigit_of_isDigit first),ih others]
    · rfl
    · exact plain

theorem digits?_line (all : AllDigits digits) (some' : digits ≠ []) :
    digits? 10 (digits ++ '\n' :: rest) = some (digits,'\n' :: rest) := by
  cases digits with
  | nil => exact absurd rfl some'
  | cons c digits =>
    have plain : c ≠ '_' := ne_of_isDigit (all c (by simp)) rfl
    have taken : moreDigits? 10 (c :: (digits ++ '\n' :: rest)) = some (c :: digits,'\n' :: rest) := moreDigits?_line all
    simp [digits?,plain,taken]

/-- What follows digits that were taken is the rest of a run of digits. -/
theorem fixedDigits?_line {value : Nat} (all : AllDigits digits) :
    fixedDigits? count value (digits ++ '\n' :: rest) = some (n,cs) →
      ∃ others, AllDigits others ∧ cs = others ++ '\n' :: rest := by
  induction count generalizing digits value with
  | zero =>
    intro done
    cases done
    exact ⟨digits,all,rfl⟩
  | succ count ih =>
    intro done
    cases digits with
    | nil => cases done
    | cons c digits =>
      obtain ⟨first,others⟩ := List.forall_mem_cons.mp all
      rw [List.cons_append,fixedDigits?,if_pos first] at done
      exact ih others done

/-- A run of digits before a line end begins with a digit or with the line end. -/
theorem run_ne {d : Char} (all : AllDigits digits) (other : d.isDigit = false) (inLine : d ≠ '\n') :
    digits ++ '\n' :: rest ≠ d :: cs := by
  intro same
  cases digits with
  | nil => exact inLine (List.cons.inj same).1.symm
  | cons c digits => exact ne_of_isDigit (all c (by simp)) other (List.cons.inj same).1

theorem take?_line {d : Char} (all : AllDigits digits) (other : d.isDigit = false) (inLine : d ≠ '\n') :
    take? d (digits ++ '\n' :: rest) = none := by
  unfold take?
  split
  · rename_i c after same
    exact if_neg fun isFirst => run_ne all other inLine (isFirst ▸ same)
  · rfl

theorem hour?_line (all : AllDigits digits) : hour? (digits ++ '\n' :: rest) = none := by
  unfold hour? pair?
  cases taken : fixedDigits? 2 0 (digits ++ '\n' :: rest) with
  | none => rfl
  | some read =>
    obtain ⟨n,cs⟩ := read
    obtain ⟨others,allOthers,rfl⟩ := fixedDigits?_line all taken
    show (if 0 ≤ n ∧ n ≤ 23 then some (n,others ++ '\n' :: rest) else none).bind (take? ':' ·.2) = none
    split
    · exact take?_line allOthers rfl (by decide)
    · rfl

/-- A run of digits that ends its line is no date and no time. -/
theorem opening?_line (all : AllDigits digits) : opening? (digits ++ '\n' :: rest) = none := by
  unfold opening?
  split
  · rename_i year after taken
    obtain ⟨others,allOthers,same⟩ := fixedDigits?_line all taken
    exact absurd same.symm (run_ne allOthers rfl (by decide))
  · rw [hour?_line all]
    rfl

/-- A numeral has a leading zero only if it is that zero. -/
theorem toDigits_cases (n : Nat) : n = 0 ∧ Nat.toDigits 10 n = ['0'] ∨
    ∃ c digits, Nat.toDigits 10 n = c :: digits ∧ c ≠ '0' := by
  induction n using Nat.strongRecOn with
  | ind n ih =>
    by_cases small : n < 10
    · rw [Nat.toDigits_of_lt_base small]
      by_cases zero : n = 0
      · exact .inl ⟨zero,by rw [zero]; rfl⟩
      · exact .inr ⟨_,[],rfl,by simpa [Nat.digitChar_eq_zero] using zero⟩
    · obtain ⟨zero,-⟩ | ⟨c,digits,same,first⟩ := ih (n / 10) (by omega)
      · omega
      · rw [Nat.toDigits_of_base_le (by decide) (by omega),same]
        exact .inr ⟨c,_,rfl,first⟩

/-- The digits before a point are all digits of a numeral. -/
theorem wholeDigits?_line (n : Nat) :
    wholeDigits? (Nat.toDigits 10 n ++ '\n' :: rest) = some (Nat.toDigits 10 n,'\n' :: rest) := by
  obtain ⟨-,same⟩ | ⟨c,digits,same,first⟩ := toDigits_cases n
  · rw [same]
    rfl
  · rw [same,List.cons_append,wholeDigits?]
    · rw [← List.cons_append,← same]
      exact digits?_line (allDigits_toDigits n) Nat.toDigits_ne_nil
    · simpa using first

/-- The numeral of a number names that number. -/
theorem number_toDigits (n : Nat) : number 10 (Nat.toDigits 10 n) = n := by
  rw [number,numeral?_of_allDigits (allDigits_toDigits n) Nat.toDigits_ne_nil,Nat.ofDigitChars_ten_toDigits]
  rfl

/-- A numeral that fits is read as its number. -/
theorem decimal?_line (fits : n < 2 ^ 63) :
    decimal? false (Nat.toDigits 10 n ++ '\n' :: rest) = some (.integer (.ofNat n),'\n' :: rest) := by
  have within : Int64.minValue.toInt ≤ (n : Int) ∧ (n : Int) ≤ Int64.maxValue.toInt := by
    have least : Int64.minValue.toInt = -2 ^ 63 := rfl
    have greatest : Int64.maxValue.toInt = 2 ^ 63 - 1 := rfl
    omega
  rw [decimal?,wholeDigits?_line]
  show (integer? false (number 10 (Nat.toDigits 10 n))).bind _ = _
  rw [number_toDigits,integer?]
  simp [within,Int64.ofInt_eq_ofNat]

/-- There are ten digits. -/
theorem eq_ofNat_of_isDigit (digit : c.isDigit = true) : ∃ k < 10, c = Char.ofNat (48 + k) := by
  obtain ⟨least,most⟩ := toNat_of_isDigit digit
  refine ⟨c.toNat - 48,by omega,?_⟩
  rw [Nat.add_sub_of_le least,c.ofNat_toNat]

/-- A number that begins with a digit other than zero is a decimal one without a sign. -/
theorem number?_of_isDigit (digit : c.isDigit = true) (first : c ≠ '0') : number? (c :: cs) = decimal? false (c :: cs) := by
  obtain ⟨k,below,rfl⟩ := eq_ofNat_of_isDigit digit
  interval_cases k
  · exact absurd rfl first
  all_goals rfl

/-- A numeral of up to 63 bits is read as the integer of its number. -/
theorem number?_line (fits : n < 2 ^ 63) :
    number? (Nat.toDigits 10 n ++ '\n' :: rest) = some (.integer (.ofNat n),'\n' :: rest) := by
  rw [← decimal?_line fits]
  obtain ⟨-,same⟩ | ⟨c,digits,same,first⟩ := toDigits_cases n
  · rw [same]
    rfl
  · rw [same]
    exact number?_of_isDigit (allDigits_toDigits n c (by simp [same])) first

/-- What begins with a digit is no word, no string and, unless it opens as one, no date or time. -/
theorem scalar_of_isDigit (digit : c.isDigit = true) (plain : opening? (c :: cs) = none) :
    scalar (c :: cs) = number? (c :: cs) := by
  rw [scalar,plain]
  all_goals
    intro rest same
    exact ne_of_isDigit digit rfl (List.cons.inj same).1

/-- A numeral that ends its line is the value of its number. -/
theorem scalar_line (fits : n < 2 ^ 63) :
    scalar (Nat.toDigits 10 n ++ '\n' :: rest) = some (.integer (.ofNat n),'\n' :: rest) := by
  rw [← number?_line fits]
  have plain : opening? (Nat.toDigits 10 n ++ '\n' :: rest) = none := opening?_line (allDigits_toDigits n)
  cases same : Nat.toDigits 10 n with
  | nil => exact absurd same Nat.toDigits_ne_nil
  | cons c digits =>
    rw [same] at plain
    rw [List.cons_append] at plain ⊢
    exact scalar_of_isDigit (allDigits_toDigits n c (by simp [same])) plain

end HandleBridge.Toml
