import TypedVars.Backend.Basic
import TypedVars.Backend.RawMap

/-!
# The backend in memory

A map of texts whose calls never fail.
-/

namespace TypedVars

/-- A backend that keeps its texts in memory. -/
structure Memory where
  map : RawMap := .empty

namespace Memory

/-- The number of keys in a scope. -/
def size (b : Memory) (scope : Scope) : Nat := (b.map.inScope scope).size

/-- Whether a scope has no key. -/
def isEmpty (b : Memory) (scope : Scope) : Bool := b.size scope = 0

instance : Backend Memory where
  get var b := (.ok (b.map.get? var), b)
  set var raw b := (.ok (), ⟨b.map.set var raw⟩)
  unset var b := (.ok (), ⟨b.map.unset var⟩)
  entries scope b := (.ok (b.map.inScope scope).entries, b)
  stored b var := b.map.get? var

end Memory

end TypedVars
