namespace CircuitTrace.Unicode

def replacement : Char := '\ufffd'

/-- The number of bytes that must follow a first byte, and the range of the second byte. -/
def sequenceShape? (first : Nat) : Option (Nat × Nat × Nat) :=
  if 0xC2 ≤ first ∧ first ≤ 0xDF then some (1, 0x80, 0xBF)
  else if first = 0xE0 then some (2, 0xA0, 0xBF)
  else if first = 0xED then some (2, 0x80, 0x9F)
  else if 0xE1 ≤ first ∧ first ≤ 0xEF then some (2, 0x80, 0xBF)
  else if first = 0xF0 then some (3, 0x90, 0xBF)
  else if 0xF1 ≤ first ∧ first ≤ 0xF3 then some (3, 0x80, 0xBF)
  else if first = 0xF4 then some (3, 0x80, 0x8F)
  else none

/-- A character under way: the bits so far, the number of bytes still to come, and the range of the
next one. -/
structure Pending where
  bits : Nat
  owed : Nat
  low : Nat
  high : Nat

def begin (b : Nat) : List Char × Option Pending :=
  if b < 0x80 then ([Char.ofNat b], none)
  else match sequenceShape? b with
    | none => ([replacement], none)
    | some (owed, low, high) =>
      ([], some ⟨b % (if owed = 1 then 32 else if owed = 2 then 16 else 8), owed, low, high⟩)

def decode : Option Pending → List UInt8 → List Char
  | none, [] => []
  | some _, [] => [replacement]
  | none, b :: bs => (begin b.toNat).1 ++ decode (begin b.toNat).2 bs
  | some p, b :: bs =>
    if p.low ≤ b.toNat ∧ b.toNat ≤ p.high then
      let bits := p.bits * 64 + b.toNat % 64
      if p.owed = 1 then Char.ofNat bits :: decode none bs
      else decode (some ⟨bits, p.owed - 1, 0x80, 0xBF⟩) bs
    else replacement :: ((begin b.toNat).1 ++ decode (begin b.toNat).2 bs)

def decodeLossy (bytes : List UInt8) : String := String.ofList (decode none bytes)

end CircuitTrace.Unicode
