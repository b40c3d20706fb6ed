import TransitRouting.Pool.Server
import TransitRouting.Bytes.Hex

/-!
# Serving a stream of requests

A running server reads requests one per line, each the hexadecimal text of an encoded
`Request`, and answers each with one line: `ok` and the hexadecimal text of the encoded
`Response`, or `error`, the status code and the message. A line that is not hexadecimal, or
not a request, is an internal error, as a request that cannot be decoded is for a network
call. Blank lines are skipped. When the stream ends, the server shuts down.

## What this module delivers

- `Session.statusLine`, `RoutingServer.answerLine`.
-/

set_option autoImplicit false

namespace TransitRouting

/-- The answer line of a failed call. -/
def Session.statusLine (st : Status) : String := "error " ++ st.code ++ ": " ++ st.message

/-- Answer one line of the request stream. Requests come one after another, so a call never
waits for a worker; should it, it is answered as refused. -/
def RoutingServer.answerLine (s : RoutingServer) (line : String) : String × RoutingServer :=
  match Hex.decode line with
  | .error e => (Session.statusLine ⟨"Internal", e.message⟩, s)
  | .ok bytes =>
    match Wire.Request.decode bytes with
    | .error e => (Session.statusLine ⟨"Internal", e.message⟩, s)
    | .ok req =>
      match s.getRoute req with
      | none => (Session.statusLine ⟨"Unavailable", PoolError.closed.message⟩, s)
      | some (.ok resp, s) => ("ok " ++ Hex.encode resp.encode, s)
      | some (.error st, s) => (Session.statusLine st, s)

end TransitRouting
