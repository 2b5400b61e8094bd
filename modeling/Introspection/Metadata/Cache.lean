import Introspection.Metadata.Build

/-!
# Caches of metadata

A cache over a registry keeps the metadata that has been asked for, as long as it is enabled.  Every
metadata that is built gets a serial number of its own, so that two answers can be told to be one
instance or two.

Turning a cache off and on again keeps what it has; `clear` drops it.
-/

namespace Introspection

/-- Metadata with the number that tells it from all other metadata of one cache. -/
structure BuiltMetadata where
  /-- The number. -/
  serial : Nat
  /-- The metadata. -/
  metadata : Metadata

/-- A cache of metadata. -/
structure MetadataCache where
  /-- The registry that is looked into. -/
  registry : Registry
  /-- What is kept. -/
  entries : Assoc ClassId BuiltMetadata
  /-- Whether what is built is kept. -/
  enabled : Bool
  /-- The number of the next metadata to be built. -/
  nextSerial : Nat

namespace MetadataCache

/-- An enabled cache that keeps nothing yet. -/
def ofRegistry (r : Registry) : MetadataCache := ⟨r, .empty, true, 0⟩

/-- The number of classes whose metadata is kept. -/
def size (c : MetadataCache) : Nat :=
  c.entries.size

/-- Whether the metadata of a class is kept. -/
def contains (c : MetadataCache) (id : ClassId) : Bool :=
  c.entries.contains id

/-- Turns the cache on or off. -/
def setEnabled (c : MetadataCache) (on : Bool) : MetadataCache :=
  { c with enabled := on }

/-- Drops everything that is kept. -/
def clear (c : MetadataCache) : MetadataCache :=
  { c with entries := .empty }

/-- Builds the metadata of a class. -/
def build (c : MetadataCache) (id : ClassId) :
    Except ReflectionError BuiltMetadata × MetadataCache :=
  match Metadata.ofClass c.registry id with
  | .ok metadata => (.ok ⟨c.nextSerial, metadata⟩, { c with nextSerial := c.nextSerial + 1 })
  | .error e => (.error e, c)

/-- The metadata of a class: what is kept, if the cache is enabled, and else built anew. -/
def find (c : MetadataCache) (id : ClassId) :
    Except ReflectionError BuiltMetadata × MetadataCache :=
  if c.enabled then
    match c.entries.find? id with
    | some hit => (.ok hit, c)
    | none =>
      match c.build id with
      | (.ok built, c') => (.ok built, { c' with entries := c'.entries.insert id built })
      | (.error e, c') => (.error e, c')
  else c.build id

end MetadataCache

end Introspection
