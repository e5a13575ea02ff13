/-!
# The version of the server
-/

namespace TodoServer

/-- The version that the server reports. -/
def version : String := "0.3.0"

/-- The name under which the server is started. -/
def programName : String := "kotodo"

end TodoServer
