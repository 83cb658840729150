import StreamGate.Gateway.Serve

/-!
# Runs

The gateway with everything its clients hold: requests that still wait for their
connection, and responses whose bodies are not read to the end.  Each action is
one of a client, on a request that the client knows by name, so a list of actions
is a whole run.
-/

namespace StreamGate

/-- The gateway with the answers its clients hold. -/
structure Run (World Handle File : Type) where
  gateway : Gateway World
  held : Table String (Answer (Delivering Handle File)) := {}

namespace Run

variable {World Handle File : Type}

/-- What a client does. -/
inductive Action where
  /-- Sends a request.  An answer that is held under the same name is dropped
  once the request was taken up. -/
  | send (name : String) (request : Request)
  /-- Looks again for the answer to a request. -/
  | poll (name : String)
  /-- Takes the next frame of a body. -/
  | take (name : String)
  /-- Reads the rest of a body. -/
  | read (name : String)
  /-- Drops a request or a response. -/
  | drop (name : String)

/-- What comes of it. -/
inductive Reply (State : Type) where
  | answer (a : Answer State)
  | frame (f : Frame)
  | rest (r : Body.Rest)
  /-- Whether anything was held under that name. -/
  | dropped (known : Bool)
  | unknown

/-- Drops what is held under a name. -/
def drop (svc : Services World Handle File) (name : String) (r : Run World Handle File) :
    Run World Handle File where
  gateway := match r.held.get? name with
    | some (.ready response) => response.body.drop svc r.gateway
    | _ => r.gateway
  held := r.held.erase name

/-- Holds an answer under a name, in place of what was held there. -/
def hold (svc : Services World Handle File) (name : String) (a : Answer (Delivering Handle File))
    (r : Run World Handle File) : Run World Handle File :=
  let r := r.drop svc name
  { r with held := r.held.insert name a }

/-- Changes the body that is held under a name. -/
def onBody (name : String) (r : Run World Handle File)
    (f : Body (Delivering Handle File) → Gateway World →
      Reply (Delivering Handle File) × Body (Delivering Handle File) × Gateway World) :
    Reply (Delivering Handle File) × Run World Handle File :=
  match r.held.get? name with
  | some (.ready response) =>
    let (reply, body, gateway) := f response.body r.gateway
    (reply, { gateway, held := r.held.insert name (.ready { response with body }) })
  | _ => (.unknown, r)

/-- One action. -/
def act (svc : Services World Handle File) (r : Run World Handle File) :
    Action → Reply (Delivering Handle File) × Run World Handle File
  | .send name request =>
    let (a, gateway) := Gateway.send svc request r.gateway
    (.answer a, { r with gateway }.hold svc name a)
  | .poll name =>
    match r.held.get? name with
    | some (.waiting w) =>
      let (a, gateway) := Gateway.poll svc w r.gateway
      (.answer a, { gateway, held := r.held.insert name a })
    | some a => (.answer a, r)
    | none => (.unknown, r)
  | .take name => r.onBody name fun b g =>
    let (f, b, g) := b.next svc g
    (.frame f, b, g)
  | .read name => r.onBody name fun b g =>
    let (rest, b, g) := b.readAll svc g
    (.rest rest, b, g)
  | .drop name => (.dropped (r.held.contains name), r.drop svc name)

/-- Drops everything. -/
def dropAll (svc : Services World Handle File) (r : Run World Handle File) : Run World Handle File :=
  r.held.keys.foldl (fun r name => r.drop svc name) r

end Run

end StreamGate
