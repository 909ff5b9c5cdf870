import BubotCoap.Resources

set_option autoImplicit false

namespace BubotCoap.Discovery
open PythonData Defines Options Messages OrderedDict Resources FallibleState

def contentFormatLink : ℕ := 40

def strAttribute : Attribute → Text
  | .none => "None".toList
  | .text t => t
  | .numbers ns => ['['] ++ [',', ' '].intercalate (ns.map decimal) ++ [']']

def spaced : Attribute → Text
  | .none => []
  | .text t => t.flatMap fun c => [c, ' ']
  | .numbers ns => ns.flatMap fun n => decimal n ++ [' ']

def contentType (attributes : Dict Text Attribute) : Text :=
  let parts := spaced ((attributes.get? "ct".toList).getD .none)
  if parts ≠ [] then ("ct=".toList ++ parts).dropLast else []

def quoted (name : Text) (attributes : Dict Text Attribute) : Text :=
  match (attributes.get? name).getD .none with
  | .none => []
  | v => name ++ ['=', '"'] ++ strAttribute v ++ ['"']

/-- The property that writes an attribute; `None` for the obs attribute of a resource that is not
observable. -/
def property (resource : Resource) (name : Text) : Except PyErr (Option Text) :=
  if name = "ct".toList then .ok (some (contentType resource.attributes))
  else if name = "rt".toList ∨ name = "if".toList ∨ name = "sz".toList then
    .ok (some (quoted name resource.attributes))
  else if name = "obs".toList then .ok (if resource.observable then some name else none)
  else .error .keyError

def linkAttribute (resource : Resource) (msg : Text) (name : Text) : Except PyErr Text := do
  match ← property resource name with
  | some (c :: v) => .ok (msg.dropLast ++ [';'] ++ (c :: v) ++ [','])
  | _ =>
    match (resource.attributes.get? name).getD .none with
    | .none => .ok msg
    | .text v => .ok (msg.dropLast ++ [';'] ++ name ++ ['='] ++ v ++ [','])
    | .numbers _ => .error .typeError

def corelinkformat (resource : Resource) : Except PyErr Text :=
  match resource.path with
  | none => .error .typeError
  | some path =>
    ((resource.attributes.entries.map Prod.fst).mergeSort fun a b => decide (a ≤ b)).foldlM
      (linkAttribute resource) ("<".toList ++ path ++ ">;".toList)

/-- A query that names a value must be met by the attribute. -/
def valid (query : Text) (attributes : Dict Text Attribute) : Bool :=
  (query.splitOn '&').all fun q =>
    match q.splitOn '=' with
    | k :: v :: _ => attributes.get? k = some (.text v)
    | _ => true

def uriQuery (request : Message) : Text :=
  ['&'].intercalate (request.options.toList.filterMap fun o =>
    if o.number = OptionRegistry.uriQuery.number then some (strOf o.value) else none)

def listing {ω : Type} (app : Application ω) (query : Text) : List Text → Except PyErr Text
  | [] => .ok []
  | path :: paths => do
    let rest := listing app query paths
    if path = ['/'] then rest
    else
      match app.root.get? path with
      | none => .error .keyError
      | some rid =>
        let resource := app.resources rid
        if resource.visible ∧ valid query resource.attributes then do
          let link ← corelinkformat resource
          let tail ← rest
          .ok (link ++ tail)
        else rest

def discover {ω : Type} : Action Stop (Scene ω) Unit := fun s =>
  match s.transaction.response with
  | none => (.error (.raised .attributeError), s)
  | some response =>
    let response := { response with code := some Codes.content }
    match listing s.app (uriQuery s.transaction.request) (dump s.app.root) with
    | .error e => (.error (.raised e), s.setResponse (some response))
    | .ok payload =>
      let response := response.setPayload (some (.str payload))
      match response.addNew OptionRegistry.contentType (.int contentFormatLink) with
      | .error e => (.error (.raised e), s.setResponse (some response))
      | .ok response => (.ok (), s.setResponse (some response))

end BubotCoap.Discovery
