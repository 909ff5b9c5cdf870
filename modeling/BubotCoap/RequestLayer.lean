import BubotCoap.Discovery
import BubotCoap.ResourceLayer

set_option autoImplicit false

/-!
# The request layer

`layers/request_layer.py`: the method and the path of a request select what is
done with it.
-/
namespace BubotCoap.RequestLayer
open PythonData Defines Messages OrderedDict Resources ResourceLayer Discovery Transactions
  FallibleState

variable {ω : Type} (handlers : Handlers ω) (rng : Bytes)

/-- `str("/" + request.uri_path)`. -/
def requestPath (request : Message) : Text := '/' :: request.uriPath

/-- `transaction.response = Response.init_from_request(transaction.request)`. -/
def initResponse : Action Stop (Scene ω) Unit := fun s =>
  match Message.initFromRequest rng s.transaction.request with
  | .error e => (.error (.raised e), s)
  | .ok response => (.ok (), s.setResponse (some response))

/-- `transaction.response.source = transaction.request.destination`. -/
def setSource : Action Stop (Scene ω) Unit := Action.modify fun s =>
  s.setResponse (s.transaction.response.map fun response =>
    { response with source := s.transaction.request.destination })

def handleGet : Action Stop (Scene ω) Unit := do
  let s ← Action.get
  let path := requestPath s.transaction.request
  initResponse rng
  if path = discoveryUrl ∧ s.app.root.contains discoveryUrl = false then discover
  else
    match s.app.root.get? path with
    | none => setCode Codes.notFound
    | some rid =>
      if path = ['/'] then setCode Codes.notFound
      else do
        Action.modify (Scene.setResource rid)
        getResource handlers rid

def handlePut : Action Stop (Scene ω) Unit := do
  let s ← Action.get
  initResponse rng
  setSource
  match s.app.root.get? (requestPath s.transaction.request) with
  | none => setCode Codes.notFound
  | some rid => do
    Action.modify (Scene.setResource rid)
    updateResource handlers rid

def handlePost : Action Stop (Scene ω) Unit := do
  let s ← Action.get
  initResponse rng
  setSource
  createResource handlers (requestPath s.transaction.request)

def handleDelete : Action Stop (Scene ω) Unit := do
  let s ← Action.get
  initResponse rng
  setSource
  match s.app.root.get? (requestPath s.transaction.request) with
  | none => setCode Codes.notFound
  | some rid => do
    Action.modify (Scene.setResource rid)
    deleteResource handlers rid (requestPath s.transaction.request)

def receiveRequest : Action Stop (Scene ω) Unit := do
  let s ← Action.get
  let method := s.transaction.request.code
  if method = some Codes.get then handleGet handlers rng
  else if method = some Codes.post then handlePost handlers rng
  else if method = some Codes.put then handlePut handlers rng
  else if method = some Codes.delete then handleDelete handlers rng
  else Action.modify (Scene.setResponse none)

end BubotCoap.RequestLayer
