namespace CircuitTrace.Digits

def value (c : Char) : Nat := c.toNat - '0'.toNat

/-- The number that decimal digits write, the first one the most significant. -/
def decimal (ds : List Char) : Nat := ds.foldl (fun n d => 10 * n + value d) 0

def hexValue? (c : Char) : Option Nat :=
  if '0' ≤ c ∧ c ≤ '9' then some (value c)
  else if 'a' ≤ c ∧ c ≤ 'f' then some (c.toNat - 'a'.toNat + 10)
  else if 'A' ≤ c ∧ c ≤ 'F' then some (c.toNat - 'A'.toNat + 10)
  else none

def hex (n : Nat) : Char := if n < 10 then Char.ofNat (48 + n) else Char.ofNat (87 + n)

theorem hexValue?_hex : ∀ n < 16, hexValue? (hex n) = some n := by decide

end CircuitTrace.Digits
