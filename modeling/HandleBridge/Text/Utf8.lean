/-!
UTF-8 as a machine that reads one octet at a time. It accepts exactly the well-formed octet strings and stops
at the first fault with the place and the extent of the faulty sequence.
-/

namespace HandleBridge.Text.Utf8

/-- The first faulty sequence of an octet string. -/
structure Fault where
  /-- Octets before the sequence. -/
  offset : Nat
  /-- Octets of the sequence up to the one that does not fit; absent when the input ends inside it. -/
  extent : Option Nat
  deriving DecidableEq

def Fault.message (fault : Fault) : String :=
  match fault.extent with
  | some extent => s!"invalid utf-8 sequence of {extent} bytes from index {fault.offset}"
  | none => s!"incomplete utf-8 byte sequence from index {fault.offset}"

/-- A sequence that still lacks octets. -/
structure Pending where
  /-- Octets still to come, the next one included. -/
  missing : Nat
  /-- Least octet that may come next. -/
  low : UInt8
  /-- Greatest octet that may come next. -/
  high : UInt8
  /-- Payload bits read so far. -/
  bits : Nat
  /-- Octets read so far. -/
  seen : Nat
  /-- Offset of the first octet. -/
  start : Nat

/-- What a lead octet announces. The bounds on the octet after it exclude overlong forms, surrogates and
scalars above U+10FFFF. -/
def lead? (octet : UInt8) (start : Nat) : Option Pending :=
  let pending (missing : Nat) (low high : UInt8) (base : UInt8) : Option Pending :=
    some ⟨missing,low,high,(octet - base).toNat,1,start⟩
  if 0xC2 ≤ octet ∧ octet ≤ 0xDF then pending 1 0x80 0xBF 0xC0
  else if octet = 0xE0 then pending 2 0xA0 0xBF 0xE0
  else if octet = 0xED then pending 2 0x80 0x9F 0xE0
  else if 0xE1 ≤ octet ∧ octet ≤ 0xEF then pending 2 0x80 0xBF 0xE0
  else if octet = 0xF0 then pending 3 0x90 0xBF 0xF0
  else if octet = 0xF4 then pending 3 0x80 0x8F 0xF0
  else if 0xF1 ≤ octet ∧ octet ≤ 0xF3 then pending 3 0x80 0xBF 0xF0
  else none

/-- The sequence after one more octet within its bounds. -/
def Pending.advance (pending : Pending) (octet : UInt8) : Pending :=
  { pending with
    missing := pending.missing - 1
    low := 0x80
    high := 0xBF
    bits := pending.bits * 64 + (octet - 0x80).toNat
    seen := pending.seen + 1 }

/-- Reads on from `offset`, inside the pending sequence if there is one. -/
def scan (pending : Option Pending) (offset : Nat) : List UInt8 → Except Fault (List Char)
  | [] =>
    match pending with
    | none => .ok []
    | some pending => .error ⟨pending.start,none⟩
  | octet :: rest =>
    match pending with
    | none =>
      if octet < 0x80 then (Char.ofNat octet.toNat :: ·) <$> scan none (offset + 1) rest
      else match lead? octet offset with
        | some pending => scan (some pending) (offset + 1) rest
        | none => .error ⟨offset,some 1⟩
    | some pending =>
      if pending.low ≤ octet ∧ octet ≤ pending.high then
        let pending := pending.advance octet
        if pending.missing = 0 then (Char.ofNat pending.bits :: ·) <$> scan none (offset + 1) rest
        else scan (some pending) (offset + 1) rest
      else .error ⟨pending.start,some pending.seen⟩

/-- Text that the octets encode. -/
def decode (octets : List UInt8) : Except Fault String :=
  String.ofList <$> scan none 0 octets

/-- Octets that encode the text. -/
def encode (text : String) : List UInt8 :=
  text.toList.flatMap String.utf8EncodeChar

end HandleBridge.Text.Utf8
