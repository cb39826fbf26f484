import ExhaustionGuard.Failure

/-!
# Class tags

Classes are numbered from one in the order in which they are tagged, below a limit; a number
leads back to the signature that it was given for.
-/

namespace ExhaustionGuard.Heap

/-- The signatures that have a tag, and the limit that all tags stay below. -/
structure ClassTags where
  signatures : Array String
  limit : Int
  deriving DecidableEq, Repr

namespace ClassTags

/-- No tags yet. -/
def empty (limit : Int) : ClassTags := ⟨#[], limit⟩

/-- Gives a signature the next tag, if there is one; yields the table as it is then. -/
def assign (tags : ClassTags) (signature : String) : Except HostError Int × ClassTags :=
  let tag : Int := tags.signatures.size + 1
  if tag < tags.limit then
    (.ok tag, { tags with signatures := tags.signatures.push signature })
  else (.error (.tagSpaceExhausted tags.signatures.size), tags)

def signature? (tags : ClassTags) (tag : Int) : Option String :=
  if tag < 1 then none else tags.signatures[(tag - 1).toNat]?

/-- How many tags were given. -/
def size (tags : ClassTags) : Nat := tags.signatures.size

end ClassTags

end ExhaustionGuard.Heap
