/-
# Stores

A store keeps texts under keys for a time.  An entry may be put under tags, and a store that
supports tags can drop all entries of one.
-/

import Eligibility.Step

namespace Eligibility

/-- What a store can do. -/
class Store (σ : Type) where
  /-- Whether entries can be dropped by tag. -/
  supportsTags : σ → Bool
  /-- Whether a look-up lets other look-ups go first. -/
  yields : σ → Bool
  start : Step σ Unit
  stop : Step σ Unit
  /-- The text under a key, when there is one and its time is not over. -/
  get : (key : String) → Step σ (Option String)
  /-- Put a text under a key and tags for a number of seconds. -/
  put : (key value : String) → (lifetime : Int) → (tags : List String) → Step σ Unit
  /-- Remove a key, and tell whether there was one. -/
  delete : (key : String) → Step σ Bool
  /-- Whether `get` would find a text. -/
  holds : (key : String) → Step σ Bool
  /-- Remove the keys of a tag, and tell how many there were. -/
  dropTag : (tag : String) → Step σ Nat
  /-- Remove every key, and tell how many there were. -/
  flush : Step σ Nat
  /-- A description of the store. -/
  stats : Step σ (List (String × Value))

end Eligibility
