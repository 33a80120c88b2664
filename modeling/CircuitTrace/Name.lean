import CircuitTrace.Split

namespace CircuitTrace

structure Name where
  components : List String
deriving DecidableEq, Inhabited

namespace Name

def anonymous : Name := ⟨[]⟩

/-- The name with the given text; the empty text is that of the name without components. -/
def ofString (text : String) : Name :=
  if text.toList = [] then anonymous else ⟨(split '.' text.toList).map String.ofList⟩

def text (n : Name) : String := String.ofList (joinWith '.' (n.components.map String.toList))

def isEmpty (n : Name) : Bool := n.components.isEmpty

def depth (n : Name) : Nat := n.components.length

def leaf? (n : Name) : Option String := n.components.getLast?

instance : ToString Name := ⟨text⟩

theorem text_ofString (s : String) : (ofString s).text = s := by
  rw [ofString]
  split
  · rename_i h
    rw [← String.ofList_toList (s := s), h]
    rfl
  · simp [text, joinWith_split, Function.comp_def]

/-- By the joined texts in the order of code points, then by the components. -/
def order (a b : Name) : Ordering :=
  (compare a.text b.text).then (compare a.components b.components)

end Name

end CircuitTrace
