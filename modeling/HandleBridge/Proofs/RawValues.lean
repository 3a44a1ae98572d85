import HandleBridge.Proofs.WellFormedText

/-!
The foreign form of values is exact in both directions. `Reads` tells, tag by tag, what a raw value is read as. From it
follow when reading fails and with which error, and that a value that was read has the tag and the payload of its raw
value, but for flags: any word that is not zero is read as a flag that is set, and one is written for that.
-/

namespace HandleBridge.Foreign

/-- What a raw value says beside its tag. -/
inductive Payload where
  | nothing
  | word (n : Int64)
  | number (x : Double)
  | octets (bytes : List UInt8)
  deriving DecidableEq

namespace RawValue

/-- The payload that the tag asks for. Behind a null pointer there are no octets. -/
def payload (raw : RawValue) : Payload :=
  match raw.tag with
  | 0 => .nothing
  | 4 => .number raw.float
  | 5 => .octets ((raw.text.map Buffer.bytes).getD [])
  | _ => .word raw.int

/-- The payload with which the value is written: that of a flag that is set is one. -/
def settled (raw : RawValue) : Payload :=
  if raw.tag = 1 ∧ raw.int ≠ 0 then .word 1 else raw.payload

/-- A tag that no value has. -/
def Unknown (raw : RawValue) : Prop := 7 < raw.tag

/-- An int that 32 bits do not hold. -/
def Wide (raw : RawValue) : Prop := raw.tag = 2 ∧ ¬(-2 ^ 31 ≤ raw.int.toInt ∧ raw.int.toInt < 2 ^ 31)

/-- A string with octets that are those of no text. -/
def Garbled (raw : RawValue) : Prop :=
  raw.tag = stringTag ∧ ∃ buffer, raw.text = some buffer ∧ ∀ text, buffer.bytes ≠ Text.Utf8.encode text

/-- How a raw value is read. -/
inductive Reads (raw : RawValue) : Except Error Value → Prop
  | null (tagged : raw.tag = 0) : Reads raw (.ok .null)
  | bool (tagged : raw.tag = 1) : Reads raw (.ok (.bool (raw.int ≠ 0)))
  | int {n : Int32} (tagged : raw.tag = 2) (same : n.toInt64 = raw.int) : Reads raw (.ok (.int n))
  | wide (beyond : raw.Wide) : Reads raw (.error (.typeMismatch "int" ("integer " ++ toString raw.int.toInt)))
  | long (tagged : raw.tag = 3) : Reads raw (.ok (.long raw.int))
  | double (tagged : raw.tag = 4) : Reads raw (.ok (.double raw.float))
  | nowhere (tagged : raw.tag = stringTag) (isNull : raw.text = none) : Reads raw (.ok (.string ""))
  | text {buffer : Buffer} {text : String} (tagged : raw.tag = stringTag) (given : raw.text = some buffer)
      (same : buffer.bytes = Text.Utf8.encode text) : Reads raw (.ok (.string text))
  | garbled {fault : Text.Utf8.Fault} (unread : raw.Garbled) :
      Reads raw (.error (.native Status.typeMismatch ("string value is not UTF-8: " ++ fault.message)))
  | object (tagged : raw.tag = 6) : Reads raw (.ok (.object ⟨raw.int.toUInt64⟩))
  | list (tagged : raw.tag = 7) : Reads raw (.ok (.list ⟨raw.int.toUInt64⟩))
  | unknown (unknown : raw.Unknown) :
      Reads raw (.error (.native Status.typeMismatch ("unknown value tag " ++ toString raw.tag.toNat)))

/-- What there is to say of reading a raw value. -/
structure Exact (raw : RawValue) : Prop where
  fails : (∃ e, raw.toValue = .error e) ↔ raw.Unknown ∨ raw.Wide ∨ raw.Garbled
  unknown : raw.Unknown →
    raw.toValue = .error (.native Status.typeMismatch ("unknown value tag " ++ toString raw.tag.toNat))
  wide : raw.Wide → raw.toValue = .error (.typeMismatch "int" ("integer " ++ toString raw.int.toInt))
  garbled : raw.Garbled → ∃ fault : Text.Utf8.Fault,
    raw.toValue = .error (.native Status.typeMismatch ("string value is not UTF-8: " ++ fault.message))
  status : ∀ e, raw.toValue = .error e → e.status = 4
  tag : ∀ v, raw.toValue = .ok v → (borrow v).tag = raw.tag
  payload : ∀ v, raw.toValue = .ok v → (borrow v).payload = raw.settled
  again : ∀ v, raw.toValue = .ok v → (borrow v).toValue = .ok v

variable {raw : RawValue} {result : Except Error Value} {v : Value} {e : Error}

theorem narrows_iff {n : Int64} : n.toInt32.toInt64 = n ↔ -2 ^ 31 ≤ n.toInt ∧ n.toInt < 2 ^ 31 := by
  constructor
  · intro same
    rw [← same,Int32.toInt_toInt64]
    exact ⟨n.toInt32.le_toInt,n.toInt32.toInt_lt⟩
  · rintro ⟨least,most⟩
    rw [← Int64.toInt_inj,Int32.toInt_toInt64,Int64.toInt_toInt32]
    exact Int.bmod_eq_of_le (by omega) (by omega)

/-- Every raw value is read as its tag says. -/
theorem reads (raw : RawValue) : raw.Reads raw.toValue := by
  unfold toValue
  split
  · exact .null ‹_›
  · exact .bool ‹_›
  · rename_i tagged
    unfold toInt32
    split
    · exact .int tagged ‹_›
    · rename_i changed
      exact .wide ⟨tagged,fun within => changed (narrows_iff.mpr within)⟩
  · exact .long ‹_›
  · exact .double ‹_›
  · rename_i tagged
    cases given : raw.text with
    | none => exact .nowhere tagged given
    | some buffer =>
      simp only [toText]
      cases read : Text.Utf8.decode buffer.bytes with
      | ok text => exact .text tagged given (Text.Utf8.decode_eq_ok_iff.mp read)
      | error fault =>
        refine .garbled ⟨tagged,buffer,given,fun text same => ?_⟩
        rw [Text.Utf8.decode_eq_ok_iff.mpr same] at read
        cases read
  · exact .object ‹_›
  · exact .list ‹_›
  · refine .unknown ?_
    simp only [Unknown,UInt8.lt_iff_toNat_lt,← UInt8.toNat_inj] at *
    simp at *
    omega

/-- Reading fails exactly for an unknown tag, an int that is too wide, or a garbled string. -/
theorem Reads.fails_iff (read : raw.Reads result) : (∃ e, result = .error e) ↔ raw.Unknown ∨ raw.Wide ∨ raw.Garbled := by
  constructor
  · rintro ⟨e,rfl⟩
    cases read with
    | wide beyond => exact .inr (.inl beyond)
    | garbled unread => exact .inr (.inr unread)
    | unknown unknown => exact .inl unknown
  · intro failing
    cases read with
    | wide | garbled | unknown => exact ⟨_,rfl⟩
    | int tagged same =>
      obtain unknown | ⟨-,beyond⟩ | ⟨other,-⟩ := failing
      · simp [Unknown,tagged] at unknown
      · rw [← same,← narrows_iff,Int32.toInt32_toInt64] at beyond
        exact absurd rfl beyond
      · cases tagged.symm.trans other
    | nowhere tagged isNull =>
      obtain unknown | ⟨other,-⟩ | ⟨-,buffer,given,-⟩ := failing
      · simp [Unknown,tagged,stringTag] at unknown
      · cases tagged.symm.trans other
      · cases isNull.symm.trans given
    | text tagged given same =>
      obtain unknown | ⟨other,-⟩ | ⟨-,buffer,again,never⟩ := failing
      · simp [Unknown,tagged,stringTag] at unknown
      · cases tagged.symm.trans other
      · cases given.symm.trans again
        exact absurd same (never _)
    | null tagged | bool tagged | long tagged | double tagged | object tagged | list tagged =>
      simp [Unknown,Wide,Garbled,tagged,stringTag] at failing

/-- Which error there is goes by what is wrong, of which there is only one thing. -/
theorem Reads.error_of (read : raw.Reads (.error e)) :
    (raw.Unknown → e = .native Status.typeMismatch ("unknown value tag " ++ toString raw.tag.toNat)) ∧
    (raw.Wide → e = .typeMismatch "int" ("integer " ++ toString raw.int.toInt)) ∧
    (raw.Garbled → ∃ fault : Text.Utf8.Fault,
      e = .native Status.typeMismatch ("string value is not UTF-8: " ++ fault.message)) := by
  cases read with
  | wide beyond =>
    refine ⟨fun unknown => ?_,fun _ => rfl,fun garbled => ?_⟩
    · simp [Unknown,beyond.1] at unknown
    · cases beyond.1.symm.trans garbled.1
  | garbled unread =>
    refine ⟨fun unknown => ?_,fun wide => ?_,fun _ => ⟨_,rfl⟩⟩
    · simp [Unknown,unread.1,stringTag] at unknown
    · cases unread.1.symm.trans wide.1
  | unknown unknown =>
    refine ⟨fun _ => rfl,fun wide => ?_,fun garbled => ?_⟩
    · simp [Unknown,wide.1] at unknown
    · simp [Unknown,garbled.1,stringTag] at unknown

theorem refused (failing : raw.Unknown ∨ raw.Wide ∨ raw.Garbled) :
    ∃ e, raw.toValue = .error e ∧ raw.Reads (.error e) := by
  obtain ⟨e,failed⟩ := raw.reads.fails_iff.mpr failing
  exact ⟨e,failed,failed ▸ raw.reads⟩

theorem Reads.status (read : raw.Reads (.error e)) : e.status = 4 := by
  cases read <;> rfl

/-- A value that was read is written with the tag of its raw value, and with its payload unless it is a flag. -/
theorem Reads.written (read : raw.Reads (.ok v)) : (borrow v).tag = raw.tag ∧ (borrow v).payload = raw.settled := by
  cases read with
  | bool tagged => by_cases zero : raw.int = 0 <;> simp [borrow,payload,settled,tagged,zero]
  | int tagged same => simp [borrow,payload,settled,tagged,same]
  | nowhere tagged isNull => exact ⟨tagged.symm,by simp [borrow,payload,settled,tagged,isNull,stringTag,Text.Utf8.encode]⟩
  | text tagged given same => exact ⟨tagged.symm,by simp [borrow,payload,settled,tagged,given,same,stringTag]⟩
  | null tagged | long tagged | double tagged | object tagged | list tagged =>
    simp [borrow,payload,settled,tagged]

/-- Every value is read back from its foreign form. A raw value is read unless its tag is unknown, its int too wide or
its string no text, and a value that was read is written as it was, a set flag as one. -/
theorem codec_exact : (∀ v, (borrow v).toValue = .ok v) ∧ ∀ raw : RawValue, raw.Exact := by
  refine ⟨toValue_borrow,fun raw => ?_⟩
  have read := raw.reads
  refine ⟨read.fails_iff,?_,?_,?_,?_,?_,?_,?_⟩
  · intro unknown
    obtain ⟨e,failed,told⟩ := refused (.inl unknown)
    rw [failed,told.error_of.1 unknown]
  · intro wide
    obtain ⟨e,failed,told⟩ := refused (.inr (.inl wide))
    rw [failed,told.error_of.2.1 wide]
  · intro garbled
    obtain ⟨e,failed,told⟩ := refused (.inr (.inr garbled))
    obtain ⟨fault,rfl⟩ := told.error_of.2.2 garbled
    exact ⟨fault,failed⟩
  · intro e failed
    exact (failed ▸ read).status
  · intro v done
    exact (done ▸ read).written.1
  · intro v done
    exact (done ▸ read).written.2
  · intro v _
    exact toValue_borrow v

/-- A flag that is set by any word is written as one. -/
example : (borrow (.bool true)).payload = (settled { tag := 1, int := -3 }) := by decide

end RawValue

end HandleBridge.Foreign
