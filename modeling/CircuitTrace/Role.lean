namespace CircuitTrace

/-- The part that a specifier plays, which decides the vertices it may stand for. -/
inductive Role where
  | start
  | finish
  | through
  | avoid
  | any
  | register
deriving DecidableEq, Repr

namespace Role

def label : Role → String
  | start => "start"
  | finish => "finish"
  | through => "through"
  | avoid => "avoid"
  | any => "named"
  | register => "register"

instance : ToString Role := ⟨label⟩

end Role

inductive Direction where
  | outgoing
  | incoming
deriving DecidableEq, Repr

namespace Direction

def reverse : Direction → Direction
  | outgoing => incoming
  | incoming => outgoing

def query : Direction → String
  | outgoing => "fan-out"
  | incoming => "fan-in"

def near : Direction → Role
  | outgoing => .start
  | incoming => .finish

def far : Direction → Role
  | outgoing => .finish
  | incoming => .start

end Direction

end CircuitTrace
