import BuilderGen.Slot

/-!
# Where builders are stored

A sink takes the texts of builders, each for its slot, and may refuse them. The simplest sink is a
store in memory: it keeps the last text of every slot, in the order of the names of the slots.
-/

namespace BuilderGen

/-- A way to store the texts of builders. What is stored is a `σ`, which every writing may change,
also one that is refused with a reason. -/
structure Sink (σ : Type) where
  /-- Write a text to a slot. -/
  write : Slot → String → σ → Except String Unit × σ

/-- A sink that refuses some slots and passes on what is meant for the others. -/
def Sink.refusing {σ : Type} (sink : Sink σ) (refused : String → Bool) (reason : String) :
    Sink σ where
  write slot text s := if refused slot.name then (.error reason, s) else sink.write slot text s

/-- Texts by the names of their slots, in increasing order of the names. Characters are compared by
their code points, which orders names like the bytes of their encoding. -/
structure Store where
  /-- The names and texts. -/
  entries : List (String × String) := []
  deriving DecidableEq, Repr

namespace Store

/-- Put a text under a name, in place of the text that is there. -/
def insert (name text : String) : List (String × String) → List (String × String)
  | [] => [(name, text)]
  | (n, t) :: rest =>
    if name < n then (name, text) :: (n, t) :: rest
    else if name = n then (name, text) :: rest
    else (n, t) :: insert name text rest

/-- The store after a text is written to a slot. -/
def write (s : Store) (slot : Slot) (text : String) : Store := ⟨insert slot.name text s.entries⟩

/-- The text under a name. -/
def get? (s : Store) (name : String) : Option String := s.entries.lookup name

/-- The number of slots that have a text. -/
def size (s : Store) : Nat := s.entries.length

/-- The sink that keeps everything in a store. -/
def sink : Sink Store where
  write slot text s := (.ok (), s.write slot text)

end Store

end BuilderGen
