import TodoServer.Http.Message

/-!
# Pages of other origins

Pages may call the server when they come from its own host: from its port, from the port after it,
where a page under development is served, or from the standard port. Browsers ask beforehand with
the method `OPTIONS`, and every such request is answered here.
-/

namespace TodoServer.Http

/-- Whether a server on a host listens on all interfaces. -/
def isEveryInterface (host : String) : Bool :=
  host == "0.0.0.0" || host == "::" || host == "[::]"

/-- The origins of pages that may call the server. -/
structure Origins where
  origins : List String
  deriving DecidableEq, Repr

namespace Origins

/-- The greatest port. -/
def lastPort : Nat := 65535

/-- The names under which pages know a host. A local one and one on all interfaces have two. -/
def names (host : String) : List String :=
  if isEveryInterface host || host == "127.0.0.1" || host == "localhost" then
    ["localhost", "127.0.0.1"]
  else [host]

/-- The origins of a server on a host and a port. -/
def of (host : String) (port : Nat) : Origins where
  origins := (names host).flatMap fun name =>
    ["http://" ++ name ++ ":" ++ Text.decimalNat port,
      "http://" ++ name ++ ":" ++ Text.decimalNat (min (port + 1) lastPort),
      "http://" ++ name]

/-- Whether pages of an origin may call the server. -/
def allows (o : Origins) (origin : String) : Bool :=
  o.origins.contains origin

/-- The headers of every response. -/
def headers (o : Origins) (request : Request) : List Header :=
  let own := match request.plainHeader? "origin" with
    | some origin =>
      if o.allows origin then [(⟨"access-control-allow-origin", origin⟩ : Header)] else []
    | none => []
  own ++ [⟨"access-control-allow-credentials", "true"⟩]

/-- The headers that tell a browser what it may send. -/
def permissions : List Header :=
  [⟨"access-control-allow-methods", "GET,POST,PUT,DELETE,OPTIONS"⟩,
    ⟨"access-control-allow-headers", "content-type,authorization,accept,origin,cache-control"⟩]

end Origins

end TodoServer.Http
