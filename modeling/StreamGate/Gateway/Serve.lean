import StreamGate.Gateway.Access
import StreamGate.Http.Route

/-!
# Serving requests

A request is matched to a resource, waits until its connection dispatches, and
is then answered.  A request for the metrics or for an unknown path is answered
at once, whatever the connection does.

`HEAD` runs what `GET` runs and drops the body.  Two of the resources for
operators, health and version, may be asked for from any web page.
-/

namespace StreamGate

/-- The name and version the gateway answers with. -/
def versionText : String := "blockserve-gateway/0.1.0"

/-- A request that is not answered yet. -/
structure Waiting where
  request : Request
  waiter : Waiter := .idle

/-- How far a request has come. -/
inductive Answer (State : Type) where
  | waiting (w : Waiting)
  | ready (r : Response State)

namespace Gateway

variable {World Handle File : Type}

/-- Runs the steps of a delivery; a refusal becomes a response. -/
def settle {State : Type} (act : Access World (Response State)) (g : Gateway World) :
    Response State × Gateway World :=
  match act.run g with
  | (.ok r, g) => (r, g)
  | (.error e, g) => (.ofError e, g)

/-- The response to a parameter that is no text. -/
def badParameter {State : Type} (name : String) : Response State :=
  .text 400 s!"Invalid URL: Invalid UTF-8 in `{name}`"

/-- The response to `GET` for a resource. -/
def fetch (svc : Services World Handle File) (route : Route) (request : Request)
    (g : Gateway World) : Response (Delivering Handle File) × Gateway World :=
  match Route.decodeParams route.params with
  | .error name => (badParameter name, g)
  | .ok params =>
    match route.resource, params with
    | .file, [token, name] => settle (Access.file svc request token name) g
    | .block, [token, id] => settle (Access.block svc request token id) g
    | .archive, [token] => settle (Access.archive svc request token) g
    | .version, _ => (.text 200 versionText, g)
    | .metrics, _ => (.text 200 g.metrics.render, g)
    | _, _ => (.text 200 "OK", g)

/-- A resource that any web page may ask for. -/
def isOpen : Resource → Bool
  | .health | .version => true
  | _ => false

/-- The header fields that let any web page read a response. -/
def openHeaders : List Header :=
  [("access-control-allow-origin", "*"),
    ("vary", "origin, access-control-request-method, access-control-request-headers")]

def allowed : Header := ("allow", "GET,HEAD")

/-- Drops the body of a response. -/
def withoutBody (svc : Services World Handle File) (r : Response (Delivering Handle File))
    (g : Gateway World) : Response (Delivering Handle File) × Gateway World :=
  ({ r with body := .known [] }, r.body.drop svc g)

/-- The response to a request for a known resource. -/
def respond (svc : Services World Handle File) (route : Route) (request : Request)
    (g : Gateway World) : Response (Delivering Handle File) × Gateway World :=
  let extra := if isOpen route.resource then openHeaders else []
  let finish (r : Response (Delivering Handle File)) : Response (Delivering Handle File) :=
    { r with headers := r.headers ++ extra }.withLength
  match request.method with
  | .get =>
    let (r, g) := fetch svc route request g
    (finish r, g)
  | .head =>
    let (r, g) := fetch svc route request g
    withoutBody svc (finish r) g
  | .options =>
    if isOpen route.resource then
      (finish (.bare 200 [("access-control-allow-methods", "*"), allowed]), g)
    else (finish (.bare 405 [allowed]), g)
  | .other _ => (finish (.bare 405 [allowed]), g)

/-- The connection a request has to wait for. -/
def awaited (route : Route) (request : Request) : Option ConnectionId :=
  if route.resource = .metrics then none else request.connection

/-- Takes a request as far as its connection allows. -/
def poll (svc : Services World Handle File) (w : Waiting) (g : Gateway World) :
    Answer (Delivering Handle File) × Gateway World :=
  match Route.ofTarget? w.request.target with
  | none => (.ready (Response.bare 404 []).withLength, g)
  | some route =>
    match awaited route w.request with
    | none =>
      let (r, g) := respond svc route w.request g
      (.ready r, g)
    | some conn =>
      match w.waiter.poll (g.slot conn) with
      | .done =>
        let (r, g) := respond svc route w.request g
        (.ready r, g)
      | waiter => (.waiting { w with waiter }, g)

/-- Takes up a request. -/
def send (svc : Services World Handle File) (request : Request) (g : Gateway World) :
    Answer (Delivering Handle File) × Gateway World :=
  poll svc { request } (request.connection.elim g g.touch)

end Gateway

end StreamGate
