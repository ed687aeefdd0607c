import FeatureLayers.Feature

namespace FeatureLayers

structure Cache where
  features : Array Feature
  /-- Every row of the scan has been visited. -/
  isComplete : Bool
deriving Repr, Inhabited

namespace Cache

def empty : Cache := ⟨#[], false⟩

def size (c : Cache) : Nat := c.features.size

def push (c : Cache) (f : Feature) : Cache := { c with features := c.features.push f }

def get? (c : Cache) (position : Nat) : Option Feature := c.features[position]?

def completed (c : Cache) : Cache := { c with isComplete := true }

def toList (c : Cache) : List Feature := c.features.toList

def take (c : Cache) : Option (List Feature) × Cache :=
  if c.isComplete then (some c.toList, empty) else (none, c)

end Cache

structure Store where
  features : Option (List Feature)
  generation : Nat
deriving Repr, Inhabited

namespace Store

def empty : Store := ⟨none, 0⟩

def isLoaded (s : Store) : Bool := s.features.isSome

/-- Takes the features of a whole scan begun in a generation, when it is still the current one. -/
def publish (s : Store) (generation : Nat) (features : List Feature) : Bool × Store :=
  if generation = s.generation then (true, { s with features := some features }) else (false, s)

def adopt (s : Store) (features : List Feature) : Store := { s with features := some features }

def invalidate (s : Store) : Store := ⟨none, s.generation + 1⟩

end Store

end FeatureLayers
