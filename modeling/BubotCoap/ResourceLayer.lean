import BubotCoap.Resources

set_option autoImplicit false

/-!
# The resource layer

`layers/resource_layer.py`: which handler of a resource is run for a request,
and what is made of what it comes back with.
-/
namespace BubotCoap.ResourceLayer
open PythonData Defines Messages OrderedDict Resources Transactions FallibleState

variable {ω : Type} (handlers : Handlers ω)

/-- Of a transaction's response, or of the one a handler returned. -/
def withDefault (code : ℕ) (response : Message) : Message :=
  { response with code := some (response.code.getD code) }

/-- Handle separate. `send_ack` waits for the lock of the transaction, which the task holds that
is processing it. -/
def handleSeparate (rid callback : ℕ) (withResponse : Bool) : Action Stop (Scene ω) Outcome :=
  fun s =>
    if s.transaction.request.acknowledged then
      invoke handlers (.callback callback) rid withResponse s
    else (.error .deadlocked, s)

/-- What looking at the first two parts of a callback's tuple, and unpacking it, raises: with a
resource in front, or with a flag. -/
def errorAsPair : Misfit → Option PyErr
  | .empty => some .indexError
  | .resourceOnly => some .indexError
  | .resourceMore => some .valueError
  | _ => none

def errorAsFlag : Misfit → Option PyErr
  | .empty => some .indexError
  | .flagOnly => some .indexError
  | .flagMore => some .valueError
  | _ => none

def reject : Option PyErr → Action Stop (Scene ω) Unit
  | some e => Action.raise (.raised e)
  | none => setCode Codes.internalServerError

/-- What GET, POST and PUT make of a handler's result; a pair is passed on to `accept`. -/
def settle (rid : ℕ) (accept : ℕ → Message → Action Stop (Scene ω) Unit) (ret : Outcome) :
    Action Stop (Scene ω) Unit :=
  match ret with
  | .pair rid' (some response) => accept rid' response
  | .later callback => do
    match ← handleSeparate handlers rid callback true with
    | .pair rid' (some response) => accept rid' response
    | .notImplemented => setCode Codes.methodNotAllowed
    | .later _ => Action.raise (.raised .valueError)
    | .misfit shape => reject (errorAsPair shape)
    | _ => setCode Codes.internalServerError
  | _ => setCode Codes.methodNotAllowed

/-- The resource and the response become those of the transaction. -/
def accept (code rid : ℕ) (response : Message) : Action Stop (Scene ω) Unit :=
  Action.modify fun s => (s.setResource rid).setResponse (some (withDefault code response))

/-- The same for a resource that has been changed by the request. -/
def acceptChanged (code rid : ℕ) (response : Message) : Action Stop (Scene ω) Unit := do
  Action.modify fun s => s.update rid Resource.announce
  accept code rid response

def getResource (rid : ℕ) : Action Stop (Scene ω) Unit := do
  match ← invoke handlers .get rid true with
  | .pair rid' none => Action.modify fun s => (s.setResource rid').setResponse none
  | ret => settle handlers rid (accept Codes.content) ret

/-- `str(etag)`. -/
def strEtag : Option Bytes → Text
  | some b => reprBytes b
  | none => "None".toList

def ifMatch (request : Message) : List Value :=
  (request.options.toList.filter fun o => o.number = OptionRegistry.ifMatch.number).map fun o =>
    o.value

def ifNoneMatch (request : Message) : Bool :=
  request.options.toList.any fun o => o.number = OptionRegistry.ifNoneMatch.number

def mismatch (request : Message) (etag : Option Bytes) : Bool :=
  decide (ifMatch request ≠ [] ∧ Value.none ∉ ifMatch request ∧
    Value.str (strEtag etag) ∉ ifMatch request)

def editResource (rid : ℕ) : Action Stop (Scene ω) Unit := do
  Action.modify (Scene.setResource rid)
  let s ← Action.get
  if mismatch s.transaction.request (s.app.resources rid).etag then
    setCode Codes.preconditionFailed
  else do
    let ret ← invoke handlers .post rid true
    settle handlers rid (acceptChanged Codes.created) ret

/-- The resource of a POST is registered under `lp`. -/
def acceptChild (lp : Text) (rid : ℕ) (response : Message) : Action Stop (Scene ω) Unit := do
  Action.modify fun s => s.update rid fun r => { r with path := some lp, changed := true }
  Action.modify fun s => { s with app := { s.app with root := s.app.root.insert lp rid } }
  accept Codes.created rid response

/-- Render a POST on a new resource. The handler of the parent is called without `await`. -/
def addResource (parent : ℕ) (lp : Text) : Action Stop (Scene ω) Unit := do
  let ret ← invokeSync handlers .post parent
  settle handlers parent (acceptChild lp) ret

/-- The first of the longest paths. -/
def longest (paths : List Text) : Option Text :=
  (paths.foldl
    (fun (best : Option Text × ℕ) i =>
      if i.length > best.2 then (some i, i.length) else best)
    (none, 0)).1

def createResource (path : Text) : Action Stop (Scene ω) Unit := do
  let s ← Action.get
  match withPrefix s.app.root path with
  | .error e => Action.raise (.raised e)
  | .ok t =>
    if path ∈ t then
      match s.app.root.get? path with
      | none => Action.raise (.raised .keyError)
      | some rid => editResource handlers rid
    else
      match (longest t).bind s.app.root.get? with
      | none => Action.raise (.raised .keyError)
      | some parent =>
        if (s.app.resources parent).allowChildren then addResource handlers parent path
        else setCode Codes.methodNotAllowed

def addEtag (response : Message) (etag : Option Bytes) : Except PyErr Message :=
  match etag with
  | none => .ok response
  | some e => response.addNew OptionRegistry.etag (.bytes e)

def setMaxAge (response : Message) (maxAge : Option ℕ) : Except PyErr Message :=
  match maxAge with
  | none => .ok response
  | some age =>
    (response.delOptionByNumber OptionRegistry.maxAge.number).addNew OptionRegistry.maxAge
      (.int age)

/-- The response to a PUT whose handler came back with a resource: its ETag is added twice. -/
def putResponse (resource : Resource) (response : Message) : Except PyErr Message := do
  let response ← addEtag response resource.etag
  let response ← addEtag { response with code := some Codes.changed, payload := none } resource.etag
  setMaxAge response resource.maxAge

def acceptPut (rid : ℕ) : Action Stop (Scene ω) Unit := fun s =>
  match s.transaction.response with
  | none => (.error (.raised .attributeError), s)
  | some response =>
    match putResponse (s.app.resources rid) response with
    | .error e => (.error (.raised e), s)
    | .ok response =>
      (.ok (), ((s.update rid Resource.announce).setResource rid).setResponse (some response))

/-- What PUT makes of the result of `render_PUT`, unless that is not implemented. -/
def settlePut (rid : ℕ) (ret : Outcome) : Action Stop (Scene ω) Unit :=
  match ret with
  | .resource rid' => acceptPut rid'
  | .resourceLater _ callback => do
    match ← handleSeparate handlers rid callback false with
    | .resource rid' => acceptPut rid'
    | .notImplemented => Action.raise (.raised .notImplementedError)
    | _ => setCode Codes.internalServerError
  -- any other pair is taken for a resource and a callback, which its second part is not
  | .pair _ _ => notCallable
  | .flag _ _ => notCallable
  | .misfit .two => notCallable
  | _ => setCode Codes.internalServerError
where
  notCallable : Action Stop (Scene ω) Unit := fun s =>
    if s.transaction.request.acknowledged then (.error (.raised .typeError), s)
    else (.error .deadlocked, s)

def updateResource (rid : ℕ) : Action Stop (Scene ω) Unit := do
  let s ← Action.get
  if mismatch s.transaction.request (s.app.resources rid).etag ∨
      ifNoneMatch s.transaction.request then
    setCode Codes.preconditionFailed
  else do
    match ← invoke handlers .put rid false with
    | .notImplemented => do
      let ret ← invoke handlers .putAdvanced rid true
      settle handlers rid (acceptChanged Codes.changed) ret
    | ret => settlePut handlers rid ret

def acceptDelete (path : Text) (delete : Bool) (response : Message) :
    Action Stop (Scene ω) Unit := fun s =>
  if delete ∧ s.app.root.get? path = none then (.error (.raised .keyError), s)
  else
    let app := if delete then { s.app with root := s.app.root.erase path } else s.app
    (.ok (), { s with app := app }.setResponse (some (withDefault Codes.deleted response)))

def deleteResource (rid : ℕ) (path : Text) : Action Stop (Scene ω) Unit := do
  match ← invoke handlers .delete rid true with
  | .flag delete response => acceptDelete path delete response
  | .later callback => do
    match ← handleSeparate handlers rid callback true with
    | .flag delete response => acceptDelete path delete response
    | .notImplemented => setCode Codes.methodNotAllowed
    | .misfit shape => reject (errorAsFlag shape)
    | _ => setCode Codes.internalServerError
  | _ => setCode Codes.methodNotAllowed

end BubotCoap.ResourceLayer
