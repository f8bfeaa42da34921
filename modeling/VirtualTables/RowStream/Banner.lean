/-!
The banner at the beginning of a row stream: which service and which query it comes from.
-/

namespace VirtualTables

/-- The names in front of a row stream. -/
structure Banner where
  serviceName : String
  serviceTransformation : String
  /-- The identity of the service's run. -/
  serviceObjectId : String
  sqlTransformation : String
  /-- The identity of the query's run. -/
  sqlObjectId : String
deriving DecidableEq

end VirtualTables
