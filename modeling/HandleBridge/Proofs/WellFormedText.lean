import Mathlib.Data.List.Basic
import HandleBridge.Proofs.RoundTrips

/-!
Octets that are text. The reader takes exactly the octets that the writer gives (`decode_eq_ok_iff`): it follows a lead
to the number that the lead and its tails carry, and the bounds on the octet after a lead keep out the numbers that
are no scalars and those that a shorter sequence carries, so writing the number gives the same octets again.
-/

namespace HandleBridge.Text.Utf8

variable {pending : Pending} {offset start : Nat} {octet : UInt8} {octets rest : List UInt8} {chars : List Char}
  {k a b c : Nat}

theorem map_eq_ok {α β : Type} {f : α → β} {x : Except Fault α} {y : β} (done : f <$> x = .ok y) :
    ∃ z, x = .ok z ∧ f z = y := by
  cases x with
  | ok z => exact ⟨z,rfl,Except.ok.inj done⟩
  | error fault => cases done

/-- Tails that carry six bits each. -/
def tails (payloads : List Nat) : List UInt8 := payloads.map fun n => UInt8.ofNat (n % 64 + 128)

/-- A sequence in which no octet but a tail may come next. -/
def Pending.Narrow (pending : Pending) : Prop := 0x80 ≤ pending.low ∧ pending.high ≤ 0xBF

theorem narrow_advance (pending : Pending) (octet : UInt8) : (pending.advance octet).Narrow :=
  ⟨UInt8.le_refl _,UInt8.le_refl _⟩

/-- An octet opens a sequence of two, of three or of four. -/
theorem lead_cases (leads : lead? octet start = some pending) :
    (∃ k, 2 ≤ k ∧ k < 32 ∧ octet = .ofNat (k + 192)) ∨ (∃ k, k < 16 ∧ octet = .ofNat (k + 224)) ∨
      ∃ k, k < 5 ∧ octet = .ofNat (k + 240) := by
  have bounds : 0xC2 ≤ octet.toNat ∧ octet.toNat ≤ 0xF4 := by
    unfold lead? at leads
    simp only [UInt8.le_iff_toNat_le,← UInt8.toNat_inj] at leads
    split_ifs at leads <;> simp_all <;> omega
  have whole (base : Nat) (above : base ≤ octet.toNat) : octet = .ofNat (octet.toNat - base + base) := by
    rw [Nat.sub_add_cancel above,UInt8.ofNat_toNat]
  by_cases two : octet.toNat < 0xE0
  · exact .inl ⟨_,by omega,by omega,whole 192 (by omega)⟩
  by_cases three : octet.toNat < 0xF0
  · exact .inr (.inl ⟨_,by omega,whole 224 (by omega)⟩)
  · exact .inr (.inr ⟨_,by omega,whole 240 (by omega)⟩)

/-- A lead lacks tails, and the bounds on the first of them are narrow. -/
theorem open_of_lead (leads : lead? octet start = some pending) :
    pending.Narrow ∧ ∃ missing, pending.missing = missing + 1 := by
  obtain ⟨k,least,most,rfl⟩ | ⟨k,most,rfl⟩ | ⟨k,most,rfl⟩ := lead_cases leads
  · cases leads.symm.trans (lead_two start least most)
    exact ⟨⟨UInt8.le_refl _,UInt8.le_refl _⟩,_,rfl⟩
  · cases leads.symm.trans (lead_three start most)
    exact ⟨⟨by dsimp only; split <;> decide,by dsimp only; split <;> decide⟩,_,rfl⟩
  · cases leads.symm.trans (lead_four start most)
    exact ⟨⟨by dsimp only; split <;> decide,by dsimp only; split <;> decide⟩,_,rfl⟩

/-- A sequence that is read on begins with the tail that its bounds allow. -/
theorem tail_of_scan (narrow : pending.Narrow) (done : scan (some pending) offset octets = .ok chars) :
    ∃ n rest, n < 64 ∧ pending.Takes n ∧ octets = UInt8.ofNat (n % 64 + 128) :: rest := by
  cases octets with
  | nil => cases done
  | cons octet rest =>
    by_cases within : pending.low ≤ octet ∧ octet ≤ pending.high
    · simp only [Pending.Narrow,UInt8.le_iff_toNat_le] at narrow within
      have least : 128 ≤ octet.toNat := narrow.1.trans within.1
      have most : octet.toNat ≤ 191 := within.2.trans narrow.2
      have value : (octet.toNat - 128) % 64 + 128 = octet.toNat := by omega
      exact ⟨octet.toNat - 128,rest,by omega,by rw [Pending.Takes,value]; exact within,by rw [value,UInt8.ofNat_toNat]⟩
    · rw [scan] at done
      simp only [if_neg within] at done
      cases done

/-- A sequence that is read ends after the tails that it lacks, and its character has the bits of all of them. -/
theorem scan_pending_eq_ok {missing : Nat} (lacks : pending.missing = missing + 1) (narrow : pending.Narrow)
    (done : scan (some pending) offset octets = .ok chars) :
    ∃ first others rest after more, first < 64 ∧ pending.Takes first ∧ others.length = missing ∧
      (∀ n ∈ others, n < 64) ∧ octets = tails (first :: others) ++ rest ∧
      chars = Char.ofNat ((first :: others).foldl (· * 64 + ·) pending.bits) :: more ∧
      scan none after rest = .ok more := by
  induction missing generalizing pending offset octets with
  | zero =>
    obtain ⟨n,rest,small,takes,rfl⟩ := tail_of_scan narrow done
    rw [scan_last lacks takes,Nat.mod_eq_of_lt small] at done
    obtain ⟨more,further,rfl⟩ := map_eq_ok done
    exact ⟨n,[],rest,_,more,small,takes,rfl,by simp,rfl,rfl,further⟩
  | succ missing ih =>
    obtain ⟨n,rest,small,takes,rfl⟩ := tail_of_scan narrow done
    rw [scan_more (by omega) takes] at done
    have fewer : (pending.advance (UInt8.ofNat (n % 64 + 128))).missing = missing + 1 := by
      show pending.missing - 1 = missing + 1
      omega
    obtain ⟨first,others,rest,after,more,smaller,-,count,all,rfl,rfl,further⟩ := ih fewer (narrow_advance _ _) done
    refine ⟨n,first :: others,rest,after,more,small,takes,by simp [count],by simpa [smaller] using all,rfl,?_,further⟩
    rw [bits_advance,Nat.mod_eq_of_lt small]
    rfl

/-- A number that is a scalar is that of its character. -/
theorem val_ofNat {n : Nat} (valid : n.isValidChar) : (Char.ofNat n).val.toNat = n := by
  rw [Char.ofNat,dif_pos valid]
  exact UInt32.toNat_ofNatLT

theorem utf8EncodeChar_one {n : Nat} (small : n < 128) : String.utf8EncodeChar (Char.ofNat n) = [.ofNat n] := by
  rw [String.utf8EncodeChar,val_ofNat (.inl (by omega)),if_pos (by omega)]

theorem utf8EncodeChar_two (least : 2 ≤ k) (most : k < 32) (small : a < 64) :
    String.utf8EncodeChar (Char.ofNat (k * 64 + a)) = .ofNat (k + 192) :: tails [a] := by
  have lead : (k * 64 + a) / 64 % 32 = k := by omega
  have last : (k * 64 + a) % 64 = a % 64 := by omega
  rw [String.utf8EncodeChar,val_ofNat (.inl (by omega)),if_neg (by omega),if_pos (by omega),lead,last]
  rfl

/-- The least lead of three takes no tail that a shorter sequence would do for, and lead 13 none of a surrogate. -/
theorem utf8EncodeChar_three (most : k < 16) (first : a < 64) (second : b < 64) (long : k = 0 → 32 ≤ a)
    (plain : k = 13 → a < 32) :
    String.utf8EncodeChar (Char.ofNat ((k * 64 + a) * 64 + b)) = .ofNat (k + 224) :: tails [a,b] := by
  have valid : ((k * 64 + a) * 64 + b).isValidChar := by
    unfold Nat.isValidChar
    omega
  have lead : ((k * 64 + a) * 64 + b) / 4096 % 16 = k := by omega
  have middle : ((k * 64 + a) * 64 + b) / 64 % 64 = a % 64 := by omega
  have last : ((k * 64 + a) * 64 + b) % 64 = b % 64 := by omega
  rw [String.utf8EncodeChar,val_ofNat valid,if_neg (by omega),if_neg (by omega),if_pos (by omega),lead,middle,last]
  rfl

/-- The least lead of four takes no tail that a shorter sequence would do for, and the greatest none beyond the last
scalar. -/
theorem utf8EncodeChar_four (most : k < 5) (first : a < 64) (second : b < 64) (third : c < 64)
    (long : k = 0 → 16 ≤ a) (within : k = 4 → a < 16) :
    String.utf8EncodeChar (Char.ofNat (((k * 64 + a) * 64 + b) * 64 + c)) = .ofNat (k + 240) :: tails [a,b,c] := by
  have valid : (((k * 64 + a) * 64 + b) * 64 + c).isValidChar := by
    unfold Nat.isValidChar
    omega
  have lead : (((k * 64 + a) * 64 + b) * 64 + c) / 262144 % 8 = k := by omega
  have second : (((k * 64 + a) * 64 + b) * 64 + c) / 4096 % 64 = a % 64 := by omega
  have third : (((k * 64 + a) * 64 + b) * 64 + c) / 64 % 64 = b % 64 := by omega
  have last : (((k * 64 + a) * 64 + b) * 64 + c) % 64 = c % 64 := by omega
  rw [String.utf8EncodeChar,val_ofNat valid,if_neg (by omega),if_neg (by omega),if_neg (by omega),lead,second,third,last]
  rfl

/-- Writing the character whose bits a lead and its tails carry gives these octets again. -/
theorem utf8EncodeChar_of_lead {others : List Nat} (leads : lead? octet start = some pending) (takes : pending.Takes a)
    (count : pending.missing = others.length + 1) (small : ∀ n ∈ a :: others, n < 64) :
    String.utf8EncodeChar (Char.ofNat ((a :: others).foldl (· * 64 + ·) pending.bits)) =
      octet :: tails (a :: others) := by
  have first : a < 64 := small a (by simp)
  obtain ⟨k,least,most,rfl⟩ | ⟨k,most,rfl⟩ | ⟨k,most,rfl⟩ := lead_cases leads
  · cases leads.symm.trans (lead_two start least most)
    obtain rfl : others = [] := List.length_eq_zero_iff.mp (by simpa using count.symm)
    exact utf8EncodeChar_two least most first
  · cases leads.symm.trans (lead_three start most)
    obtain ⟨b,rfl⟩ := List.length_eq_one_iff.mp (Nat.succ.inj count).symm
    refine utf8EncodeChar_three most first (small b (by simp)) ?_ ?_
    · rintro rfl
      have above : 0xA0 ≤ a % 64 + 128 := takes.1
      omega
    · rintro rfl
      have below : a % 64 + 128 ≤ 0x9F := takes.2
      omega
  · cases leads.symm.trans (lead_four start most)
    obtain ⟨b,c,rfl⟩ := List.length_eq_two.mp (Nat.succ.inj count).symm
    refine utf8EncodeChar_four most first (small b (by simp)) (small c (by simp)) ?_ ?_
    · rintro rfl
      have above : 0x90 ≤ a % 64 + 128 := takes.1
      omega
    · rintro rfl
      have below : a % 64 + 128 ≤ 0x8F := takes.2
      omega

/-- What is read is nothing, or begins with the octets of its first character. -/
theorem scan_eq_ok (done : scan none offset octets = .ok chars) :
    octets = [] ∧ chars = [] ∨ ∃ c rest after more, octets = String.utf8EncodeChar c ++ rest ∧ chars = c :: more ∧
      scan none after rest = .ok more := by
  cases octets with
  | nil =>
    cases done
    exact .inl ⟨rfl,rfl⟩
  | cons octet octets =>
    right
    by_cases low : octet < 0x80
    · rw [scan] at done
      simp only [if_pos low] at done
      obtain ⟨more,further,rfl⟩ := map_eq_ok done
      rw [UInt8.lt_iff_toNat_lt] at low
      refine ⟨_,octets,_,more,?_,rfl,further⟩
      rw [utf8EncodeChar_one low,UInt8.ofNat_toNat]
      rfl
    · cases leads : lead? octet offset with
      | none =>
        rw [scan] at done
        simp only [if_neg low,leads] at done
        cases done
      | some pending =>
        rw [scan_lead low leads] at done
        obtain ⟨narrow,missing,lacks⟩ := open_of_lead leads
        obtain ⟨a,others,rest,after,more,small,takes,rfl,all,rfl,rfl,further⟩ := scan_pending_eq_ok lacks narrow done
        refine ⟨_,rest,after,more,?_,rfl,further⟩
        rw [utf8EncodeChar_of_lead leads takes lacks (List.forall_mem_cons.mpr ⟨small,all⟩)]
        rfl

/-- The octets of a text are the ones from which it is read. -/
theorem eq_encode_of_scan (done : scan none offset octets = .ok chars) :
    octets = chars.flatMap String.utf8EncodeChar := by
  induction chars generalizing offset octets with
  | nil =>
    obtain ⟨rfl,-⟩ | ⟨_,_,_,_,-,same,-⟩ := scan_eq_ok done
    · rfl
    · cases same
  | cons c chars ih =>
    obtain ⟨-,same⟩ | ⟨_,rest,after,_,rfl,same,further⟩ := scan_eq_ok done
    · cases same
    · cases same
      rw [List.flatMap_cons,← ih further]

/-- Octets are read as a text exactly when they are those that the text is written as. -/
theorem decode_eq_ok_iff {text : String} : decode octets = .ok text ↔ octets = encode text := by
  constructor
  · intro done
    obtain ⟨chars,read,rfl⟩ := map_eq_ok done
    rw [eq_encode_of_scan read,encode,String.toList_ofList]
  · rintro rfl
    exact decode_encode text

end HandleBridge.Text.Utf8
