import CircuitTrace.Error

namespace CircuitTrace

structure Waypoints where
  start : Option String := none
  through : List String := []
  finish : Option String := none
  avoid : List String := []
deriving DecidableEq

namespace Waypoints

def between (start finish : String) : Waypoints := { start := start, finish := finish }

def fromStart (start : String) : Waypoints := { start := start }

def toFinish (finish : String) : Waypoints := { finish := finish }

def setStart (w : Waypoints) (point : String) : Except Error Waypoints :=
  if w.start.isSome then .error (.usage (.alreadySet .start))
  else .ok { w with start := some point }

def setFinish (w : Waypoints) (point : String) : Except Error Waypoints :=
  if w.finish.isSome then .error (.usage (.alreadySet .finish))
  else .ok { w with finish := some point }

def addThrough (w : Waypoints) (point : String) : Waypoints :=
  { w with through := w.through ++ [point] }

/-- A point to avoid is kept once. -/
def addAvoid (w : Waypoints) (point : String) : Waypoints :=
  if w.avoid.contains point then w else { w with avoid := w.avoid ++ [point] }

def endpoints (w : Waypoints) : Except Error (String × String) :=
  match w.start, w.finish with
  | some start, some finish => .ok (start, finish)
  | none, _ => .error (.usage (.pathWithout .start))
  | _, none => .error (.usage (.pathWithout .finish))

/-- The point at which a fan query in the given direction begins. -/
def near (w : Waypoints) : Direction → Option String
  | .outgoing => w.start
  | .incoming => w.finish

def far (w : Waypoints) : Direction → Option String
  | .outgoing => w.finish
  | .incoming => w.start

def fanPoint (w : Waypoints) (d : Direction) : Except Error String :=
  if !w.through.isEmpty then .error (.usage (.throughInFan d))
  else if !w.avoid.isEmpty then .error (.usage (.avoidInFan d))
  else if (w.far d).isSome then .error (.usage (.farEndInFan d))
  else match w.near d with
    | some point => .ok point
    | none => .error (.usage (.fanWithoutOrigin d))

def toJson (w : Waypoints) : Json :=
  .obj [("start", .ofOption .str w.start),
    ("through", .ofList .str w.through),
    ("finish", .ofOption .str w.finish),
    ("avoid", .ofList .str w.avoid)]

def ofJson? (v : Json) : Option Waypoints := do
  match ← v.fields? ["start", "through", "finish", "avoid"] 4 with
  | [start, through, finish, avoid] =>
    return {
      start := ← Json.optional Json.asString? start
      through := ← Json.required (Json.asList? Json.asString?) through
      finish := ← Json.optional Json.asString? finish
      avoid := ← Json.required (Json.asList? Json.asString?) avoid }
  | _ => none

end Waypoints

end CircuitTrace
