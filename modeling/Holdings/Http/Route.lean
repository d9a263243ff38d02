import Holdings.Http.Path

/-!
# Routes

A route is a question that a path asks.  Each route has one method.  Beside the
routes there are pages that document them.  A path with another method, and a
path that would be known without the slashes at its end, are told apart from
paths that mean nothing.
-/

namespace Holdings.Http

/-- A question that a path asks. -/
inductive Route where
  | chains
  | balances (chain address : String)
  | gasPrice (chain : String)
  | estimateGas (chain : String)
  | rpc (chain : String)
  | health (chain : String)
deriving DecidableEq, Repr, Inhabited

/-- The method with which a question is asked. -/
def Route.method : Route → String
  | .estimateGas _ => "POST"
  | .rpc _ => "POST"
  | _ => "GET"

/-- Whether the last part of a path is a word; a line break behind it does not count. -/
def isLast
    (word segment : String) :
    Bool :=
  segment = word || segment = word ++ "\n"

/-- The question about a chain that the last part of a path names. -/
def Route.ofWord?
    (chain word : String) :
    Option Route :=
  if isLast "gas-price" word then some (.gasPrice chain)
  else if isLast "estimate-gas" word then some (.estimateGas chain)
  else if isLast "rpc" word then some (.rpc chain)
  else if isLast "health" word then some (.health chain)
  else none

/-- The question that the parts of a path ask. -/
def Route.ofSegments? : List String → Option Route
  | ["", "blockchain", word] => if isLast "chains" word then some .chains else none
  | ["", "blockchain", chain, word] => if chain = "" then none else Route.ofWord? chain word
  | ["", "blockchain", chain, address, word] =>
    if chain = "" || address = "" || !isLast "balances" word then
      none
    else
      some (.balances chain address)
  | _ => none

/-- The question that a decoded path asks. -/
def Route.ofPath?
    (path : String) :
    Option Route :=
  Route.ofSegments? (segments path)

/-- The paths of the pages that document the routes. -/
def documentPaths : List String :=
  ["/docs", "/docs/oauth2-redirect", "/openapi.json", "/redoc"]

/-- Whether a path leads to a page that documents the routes. -/
def isDocument
    (path : String) :
    Bool :=
  documentPaths.any fun document => isLast document path

/-- The methods with which a page that documents the routes is asked for. -/
def documentMethods : List String := ["GET", "HEAD"]

/-- Whether a path is known. -/
def isKnownPath
    (path : String) :
    Bool :=
  (Route.ofPath? path).isSome || isDocument path

/-- What a path and a method come to. -/
inductive Target where
  | found (route : Route)
  /-- The path leads to a page that documents the routes. -/
  | document
  /-- The path is known, but not with this method. -/
  | wrongMethod
  /-- Without the slashes at its end the path would be known. -/
  | moved
  | unknown
deriving DecidableEq, Repr

/-- Finds what a decoded path asks for with a method. -/
def Target.find
    (method path : String) :
    Target :=
  match Route.ofPath? path with
  | some route => if route.method = method then .found route else .wrongMethod
  | none =>
    if isDocument path then
      if documentMethods.contains method then .document else .wrongMethod
    else if path.endsWith "/" && isKnownPath (withoutFinalSlashes path) then
      .moved
    else
      .unknown

end Holdings.Http
