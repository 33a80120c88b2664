namespace CircuitTrace.Unicode

/-- Ranges of code points, both ends included. -/
abbrev Ranges := Array (Nat × Nat)

def Ranges.contains (rs : Ranges) (c : Char) : Bool :=
  rs.any fun r => r.1 ≤ c.toNat && c.toNat ≤ r.2

def isAscii (c : Char) : Bool := c.toNat < 0x80

structure RunReader where
  first : Nat := 0
  label : List Char := []
  count : Nat := 0
  found : Ranges := #[]

namespace RunReader

def close (p : String → Bool) (r : RunReader) : RunReader :=
  let next := r.first + max 1 r.count
  { first := next
    found := if p (String.ofList r.label.reverse) then r.found.push (r.first, next - 1)
      else r.found }

def step (width : Nat) (p : String → Bool) (r : RunReader) (c : Char) : RunReader :=
  if c.isWhitespace then r
  else if c.isDigit then { r with count := 10 * r.count + (c.toNat - 48) }
  else if r.label.length < width then { r with label := c :: r.label }
  else { r.close p with label := [c] }

end RunReader

/-- The code points whose label satisfies `p`, from a text that gives all code points in order: the
label of a run, which has `width` characters, and then its length unless that is 1. Blanks and line
feeds count for nothing. -/
def runs (width : Nat) (p : String → Bool) (text : String) : Ranges :=
  ((text.toList.foldl (RunReader.step width p) {}).close p).found

end CircuitTrace.Unicode
