import Mathlib.Tactic.IntervalCases
import HandleBridge.Foreign.Request

/-!
Round trips: text comes back from its octets, and a value from its foreign form. The octets of a character are read
one by one, so the proof follows the reader through the lead octet and the tails, and the bounds that the lead sets
on the octet after it are the ones that the character's own bits satisfy.
-/

namespace HandleBridge

namespace Text.Utf8

variable {pending : Pending} {offset n : Nat} {rest : List UInt8}

theorem toNat_tail (n : Nat) : (UInt8.ofNat (n % 64 + 128)).toNat = n % 64 + 128 := by
  rw [UInt8.toNat_ofNat_of_lt' (by simp [UInt8.size]; omega)]

/-- Payload of a tail octet. -/
theorem payload_tail (n : Nat) : (UInt8.ofNat (n % 64 + 128) - 0x80).toNat = n % 64 := by
  have within : (0x80 : UInt8) ≤ UInt8.ofNat (n % 64 + 128) := by
    rw [UInt8.le_iff_toNat_le,toNat_tail]
    exact Nat.le_add_left 128 _
  rw [UInt8.toNat_sub_of_le _ _ within,toNat_tail]
  exact Nat.add_sub_cancel _ 128

/-- Whether the next octet may be the tail that carries the last six bits of a number. -/
def Pending.Takes (pending : Pending) (n : Nat) : Prop :=
  pending.low.toNat ≤ n % 64 + 128 ∧ n % 64 + 128 ≤ pending.high.toNat

theorem within_of_takes (takes : pending.Takes n) :
    pending.low ≤ UInt8.ofNat (n % 64 + 128) ∧ UInt8.ofNat (n % 64 + 128) ≤ pending.high := by
  rw [UInt8.le_iff_toNat_le,UInt8.le_iff_toNat_le,toNat_tail]
  exact takes

/-- After one octet, every tail may follow. -/
theorem takes_advance (octet : UInt8) (n : Nat) : (pending.advance octet).Takes n :=
  ⟨Nat.le_add_left 128 _,by
    show n % 64 + 128 ≤ 191
    omega⟩

theorem bits_advance (pending : Pending) (n : Nat) :
    (pending.advance (UInt8.ofNat (n % 64 + 128))).bits = pending.bits * 64 + n % 64 := by
  rw [Pending.advance,payload_tail]

/-- The last tail completes a character. -/
theorem scan_last (last : pending.missing = 1) (takes : pending.Takes n) :
    scan (some pending) offset (UInt8.ofNat (n % 64 + 128) :: rest) =
      (Char.ofNat (pending.bits * 64 + n % 64) :: ·) <$> scan none (offset + 1) rest := by
  rw [scan,if_pos (within_of_takes takes)]
  simp only [Pending.advance,last,payload_tail,Nat.sub_self,if_true]

/-- Any other tail is followed by one more. -/
theorem scan_more (more : 2 ≤ pending.missing) (takes : pending.Takes n) :
    scan (some pending) offset (UInt8.ofNat (n % 64 + 128) :: rest) =
      scan (some (pending.advance (UInt8.ofNat (n % 64 + 128)))) (offset + 1) rest := by
  have open' : (pending.advance (UInt8.ofNat (n % 64 + 128))).missing ≠ 0 := by
    show pending.missing - 1 ≠ 0
    omega
  rw [scan,if_pos (within_of_takes takes)]
  exact if_neg open'

theorem scan_lead {octet : UInt8} (high : ¬octet < 0x80) (leads : lead? octet offset = some pending) :
    scan none offset (octet :: rest) = scan (some pending) (offset + 1) rest := by
  rw [scan]
  simp only [if_neg high,leads]

theorem lead_two (start : Nat) : ∀ {k : Nat}, 2 ≤ k → k < 32 →
    lead? (UInt8.ofNat (k + 192)) start = some ⟨1,0x80,0xBF,k,1,start⟩ := by
  intro k least most
  interval_cases k <;> rfl

theorem lead_three (start : Nat) : ∀ {k : Nat}, k < 16 →
    lead? (UInt8.ofNat (k + 224)) start =
      some ⟨2,if k = 0 then 0xA0 else 0x80,if k = 13 then 0x9F else 0xBF,k,1,start⟩ := by
  intro k most
  interval_cases k <;> rfl

theorem lead_four (start : Nat) : ∀ {k : Nat}, k < 5 →
    lead? (UInt8.ofNat (k + 240)) start =
      some ⟨3,if k = 0 then 0x90 else 0x80,if k = 4 then 0x8F else 0xBF,k,1,start⟩ := by
  intro k most
  interval_cases k <;> rfl

/-- The octet after a lead has bounds of its own for the least and for the greatest payload only. -/
theorem takes_first {k : Nat} (missing start : Nat) (low high : UInt8) (greatest : Nat)
    (above : k = 0 → low.toNat ≤ n % 64 + 128) (below : k = greatest → n % 64 + 128 ≤ high.toNat) :
    Pending.Takes ⟨missing,if k = 0 then low else 0x80,if k = greatest then high else 0xBF,k,1,start⟩ n := by
  constructor
  · show (if k = 0 then low else 0x80).toNat ≤ _
    split
    · exact above ‹_›
    · exact Nat.le_add_left 128 _
  · show _ ≤ (if k = greatest then high else 0xBF).toNat
    split
    · exact below ‹_›
    · show n % 64 + 128 ≤ 191
      omega

/-- No character lies among the surrogates or beyond the last scalar. -/
theorem scalar (c : Char) : c.val.toNat < 0xD800 ∨ 0xDFFF < c.val.toNat ∧ c.val.toNat < 0x110000 := c.valid

theorem ofNat_eq (c : Char) {n : Nat} (same : n = c.val.toNat) : Char.ofNat n = c := by
  rw [same]
  exact c.ofNat_toNat

theorem scan_one {c : Char} (small : c.val.toNat < 0x80) :
    scan none offset (UInt8.ofNat c.val.toNat :: rest) = (c :: ·) <$> scan none (offset + 1) rest := by
  have value : (UInt8.ofNat c.val.toNat).toNat = c.val.toNat :=
    UInt8.toNat_ofNat_of_lt' (Nat.lt_trans small (by decide))
  have low : UInt8.ofNat c.val.toNat < 0x80 := by
    rw [UInt8.lt_iff_toNat_lt,value]
    exact small
  rw [scan]
  simp only [if_pos low,value,ofNat_eq c rfl]

theorem not_low {k base : Nat} (least : 0x80 ≤ k + base) (most : k + base < 0x100) :
    ¬UInt8.ofNat (k + base) < 0x80 := by
  rw [UInt8.lt_iff_toNat_lt,UInt8.toNat_ofNat_of_lt' (by simpa [UInt8.size] using most)]
  exact Nat.not_lt.mpr least

/-- The first of several octets opens a sequence, and the last one closes it. -/
theorem scan_utf8EncodeChar (c : Char) (offset : Nat) (rest : List UInt8) :
    ∃ after, scan none offset (String.utf8EncodeChar c ++ rest) = (c :: ·) <$> scan none after rest := by
  have scalar := scalar c
  unfold String.utf8EncodeChar
  dsimp only
  generalize value : c.val.toNat = v at scalar ⊢
  -- One case for each length; that `v` is a scalar keeps the first octet after a lead within its bounds.
  split
  · subst value
    exact ⟨_,scan_one (by omega)⟩
  split
  · refine ⟨offset + 1 + 1,?_⟩
    have lead := lead_two offset (k := v / 64 % 32) (by omega) (by omega)
    rw [List.cons_append,scan_lead (not_low (by omega) (by omega)) lead,List.cons_append,
      scan_last rfl ⟨by simp,by simp; omega⟩,ofNat_eq c (by dsimp only; omega)]
    rfl
  split
  · refine ⟨offset + 1 + 1 + 1,?_⟩
    have lead := lead_three offset (k := v / 4096 % 16) (by omega)
    have takes := takes_first (k := v / 4096 % 16) (n := v / 64) 2 offset 0xA0 0x9F 13 (by simp; omega)
      (by simp; omega)
    rw [List.cons_append,scan_lead (not_low (by omega) (by omega)) lead,List.cons_append,
      scan_more (Nat.le_refl 2) takes,List.cons_append,scan_last rfl (takes_advance _ _),bits_advance,
      ofNat_eq c (by dsimp only; omega)]
    rfl
  · refine ⟨offset + 1 + 1 + 1 + 1,?_⟩
    have lead := lead_four offset (k := v / 262144 % 8) (by omega)
    have takes := takes_first (k := v / 262144 % 8) (n := v / 4096) 3 offset 0x90 0x8F 4 (by simp; omega)
      (by simp; omega)
    rw [List.cons_append,scan_lead (not_low (by omega) (by omega)) lead,List.cons_append,
      scan_more (Nat.le_succ 2) takes,List.cons_append,scan_more (Nat.le_refl 2) (takes_advance _ _),
      List.cons_append,scan_last rfl (takes_advance _ _),bits_advance,bits_advance,ofNat_eq c (by dsimp only; omega)]
    rfl

/-- Text comes back from its octets. -/
theorem decode_encode (text : String) : decode (encode text) = .ok text := by
  have read : ∀ (chars : List Char) (offset : Nat),
      scan none offset (chars.flatMap String.utf8EncodeChar) = .ok chars := by
    intro chars
    induction chars with
    | nil => exact fun offset => rfl
    | cons c chars ih =>
      intro offset
      obtain ⟨after,first⟩ := scan_utf8EncodeChar c offset (chars.flatMap String.utf8EncodeChar)
      rw [List.flatMap_cons,first,ih after]
      rfl
  rw [decode,encode,read]
  exact congrArg Except.ok String.ofList_toList

end Text.Utf8

namespace Foreign.RawValue

theorem toInt32_toInt64 (n : Int32) : toInt32 n.toInt64 = .ok (.int n) := by
  rw [toInt32,Int32.toInt32_toInt64,if_pos rfl]

theorem toText_encode (address : Nat) (text : String) :
    toText (some ⟨address,Text.Utf8.encode text⟩) = .ok (.string text) := by
  simp only [toText,Text.Utf8.decode_encode]

/-- Every value comes back from its foreign form, doubles bit by bit. -/
theorem toValue_borrow (v : Value) : (borrow v).toValue = .ok v := by
  cases v with
  | null => rfl
  | bool b => cases b <;> rfl
  | int n => exact toInt32_toInt64 n
  | long n => rfl
  | double x => rfl
  | string text => exact toText_encode 0 text
  | object h => exact congrArg (fun id => Except.ok (Value.object ⟨id⟩)) (UInt64.toUInt64_toInt64 h.id)
  | list h => exact congrArg (fun id => Except.ok (Value.list ⟨id⟩)) (UInt64.toUInt64_toInt64 h.id)

/-- Where text lies makes no difference to the value. -/
theorem toValue_moved {v : Value} {buffer : Buffer} (lent : (borrow v).buffer? = some buffer) (address : Nat) :
    ({ borrow v with text := some ⟨address,buffer.bytes⟩ } : RawValue).toValue = .ok v := by
  cases v with
  | string text =>
    cases lent
    exact toText_encode address text
  | _ => cases lent

end Foreign.RawValue

end HandleBridge
