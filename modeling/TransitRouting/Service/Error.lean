import TransitRouting.Router.Error

/-!
# Request errors

Errors that fail one request and leave the worker usable: the request names no link, a link
the scenario does not have, or a code the id store never registered; the engine produced a leg
that cannot be sent; or the engine failed. Link errors are the caller's fault and are reported
as invalid arguments, the others as internal errors.

## What this module delivers

- `RouteError` with `RouteError.variant`, `RouteError.message` and `RouteError.status`.
-/

set_option autoImplicit false

namespace TransitRouting

/-- Errors that fail a single request. -/
inductive RouteError where
  /-- The request names no link for one end, `"from"` or `"to"`. -/
  | missingLink (which : String)
  /-- The link id is not part of the scenario. -/
  | unknownLink (id : String)
  /-- The link code was never registered. -/
  | unknownLinkCode (code : Nat)
  /-- A leg has no travel time. -/
  | missingTravelTime (mode : String)
  /-- A transit route has no boarding time. -/
  | missingBoardingTime (access egress : String)
  /-- A leg attribute has a type the wire cannot carry. -/
  | unsupportedAttribute (key typeName : String)
  /-- The engine failed. -/
  | engine (e : EngineError)
deriving Repr, DecidableEq

/-- The name of the kind of error; engine errors add their own kind. -/
def RouteError.variant : RouteError → String
  | .missingLink _ => "MissingLink"
  | .unknownLink _ => "UnknownLink"
  | .unknownLinkCode _ => "UnknownLinkCode"
  | .missingTravelTime _ => "MissingTravelTime"
  | .missingBoardingTime .. => "MissingBoardingTime"
  | .unsupportedAttribute .. => "UnsupportedAttribute"
  | .engine e => "Engine." ++ e.variant

/-- The error text; an engine error speaks for itself. -/
def RouteError.message : RouteError → String
  | .missingLink which => "request has no " ++ which ++ " link"
  | .unknownLink id => "unknown link " ++ id
  | .unknownLinkCode code => "unknown link code " ++ toString code
  | .missingTravelTime mode => mode ++ " leg has no travel time"
  | .missingBoardingTime access egress =>
    "transit route " ++ access ++ " -> " ++ egress ++ " has no boarding time"
  | .unsupportedAttribute key typeName =>
    "attribute " ++ key ++ " has unsupported type " ++ typeName
  | .engine e => e.message

/-- The status a request error is answered with. -/
def RouteError.status : RouteError → String
  | .missingLink _ | .unknownLink _ | .unknownLinkCode _ => "InvalidArgument"
  | _ => "Internal"

end TransitRouting
