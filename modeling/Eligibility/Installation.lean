/-
# Installations

From its settings an installation takes the threshold of its log and the kind of store that
results are kept in.  The threshold is looked at first.
-/

import Eligibility.Log.Line
import Eligibility.Settings.Basic

namespace Eligibility

/-- Where results are kept: in the memory of the process, or in a store shared at an address. -/
inductive StoreChoice where
  | memory
  | shared (url : String)

/-- An installation. -/
structure Installation where
  settings : Settings
  threshold : Nat
  store : StoreChoice

namespace Settings

/-- The store that the settings name. -/
def storeChoice (settings : Settings) : Except Failure StoreChoice :=
  if settings.backend = "redis" then .ok (.shared settings.redisUrl)
  else if settings.backend = "memory" then .ok .memory
  else .error (.unknownBackend settings.backend)

/-- The installation that the settings describe. -/
def install (settings : Settings) : Except Failure Installation := do
  let threshold ← Log.threshold settings.logLevel
  return { settings, threshold, store := ← settings.storeChoice }

end Settings
end Eligibility
