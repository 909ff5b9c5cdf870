import BubotCoap.OrderedDict
import BubotCoap.Rendering
import BubotCoap.Transactions
import Mathlib.Data.Char
import Mathlib.Data.List.Lex

set_option autoImplicit false

/-!
# Resources and their handlers

`resources/resource.py` and the tree of `utils.py`. The handlers are what the
application supplies: they may change resources, the tree and the application's
own state.
-/
namespace BubotCoap.Resources
open PythonData Defines Messages OrderedDict Transactions FallibleState

inductive Attribute where
  | none
  | text (t : Text)
  | numbers (ns : List ℕ)
  deriving DecidableEq, Repr

structure Resource where
  path : Option Text
  visible : Bool
  observable : Bool
  allowChildren : Bool
  attributes : Dict Text Attribute
  observeCount : ℕ
  etags : List Bytes
  maxAge : Option ℕ
  deleted : Bool
  changed : Bool

namespace Resource

def new (visible observable allowChildren : Bool) : Resource where
  path := none
  visible := visible
  observable := observable
  allowChildren := allowChildren
  attributes := if observable then Dict.empty.insert "obs".toList (.text []) else Dict.empty
  observeCount := 1
  etags := []
  maxAge := none
  deleted := false
  changed := false

def etag (r : Resource) : Option Bytes := r.etags.getLast?

/-- `bytes(etag, "utf-8")`, unless it is of that type. -/
def etagBytes : Value → Except PyErr Bytes
  | .bytes b => .ok b
  | .str t => .ok (encodeUtf8 t)
  | _ => .error .typeError

def setEtag (r : Resource) (etag : Value) : Except PyErr Resource :=
  (etagBytes etag).map fun b => { r with etags := r.etags ++ [b] }

def setObserveCount (r : Resource) (v : ℕ) : Resource := { r with observeCount := v % 65000 }

def setChanged (r : Resource) (b : Bool) : Resource := { r with changed := b }

def setDeleted (r : Resource) (b : Bool) : Resource := { r with deleted := b }

/-- `resource.changed = True; resource.observe_count += 1`. -/
def announce (r : Resource) : Resource := (r.setChanged true).setObserveCount (r.observeCount + 1)

def counter (r : Resource) : Option ℕ := if r.observable then some r.observeCount else none

def marked (r : Resource) : Bool := r.changed || r.deleted

end Resource

def withPrefix (root : Dict Text ℕ) (path : Text) : Except PyErr (List Text) :=
  let found := (root.entries.map Prod.fst).filter fun k => k.isPrefixOf path
  if found ≠ [] then .ok found else .error .keyError

/-- All registered paths, sorted. -/
def dump (root : Dict Text ℕ) : List Text :=
  (root.entries.map Prod.fst).mergeSort fun a b => decide (a ≤ b)

/-- What handlers work on: the resources, the tree of paths, and the application's own state. -/
structure Application (ω : Type) where
  resources : ℕ → Resource
  root : Dict Text ℕ
  world : ω

def Application.update {ω : Type} (app : Application ω) (rid : ℕ) (f : Resource → Resource) :
    Application ω :=
  { app with resources := fun i => if i = rid then f (app.resources i) else app.resources i }

/-- The methods of a resource object, and the callbacks they return. -/
inductive Handler where
  | get
  | put
  | putAdvanced
  | post
  | delete
  | callback (n : ℕ)
  deriving DecidableEq, Repr

/-- Tuples that fit no use of them but that the checks tell apart: too short, with more parts than
are unpacked, or a pair whose second part is neither a response nor a callback. -/
inductive Misfit where
  | empty
  | resourceOnly
  | flagOnly
  | resourceMore
  | flagMore
  | two
  deriving DecidableEq

/-- What a handler can come back with. Resources and callbacks are given by their numbers; of the
triple of a separate response only the callback is used. -/
inductive Outcome where
  | notImplemented
  | raised (e : PyErr)
  | resource (rid : ℕ)
  | resourceLater (rid callback : ℕ)
  | pair (rid : ℕ) (response : Option Message)
  | flag (delete : Bool) (response : Message)
  | later (callback : ℕ)
  | misfit (shape : Misfit)
  | other
  deriving DecidableEq

structure Rendered (ω : Type) where
  outcome : Outcome
  /-- What the handler does to the response object it is passed. -/
  edit : Message → Message
  app : Application ω

/-- What is not in the repository: the handlers of the resources, and what the log lines of the
server rest on. -/
structure Handlers (ω : Type) where
  platform : Rendering.Platform
  isAsync : Handler → ℕ → Bool
  render : Handler → ℕ → Message → Option Message → Application ω → Rendered ω

/-- `await method(...)`: the value of a method that is no coroutine cannot be awaited. -/
def awaited {ω : Type} (handlers : Handlers ω) (handler : Handler) (rid : ℕ) (request : Message)
    (response : Option Message) (app : Application ω) : Rendered ω :=
  let r := handlers.render handler rid request response app
  if handlers.isAsync handler rid then r
  else
    match r.outcome with
    | .notImplemented => r
    | .raised _ => r
    | _ => { r with outcome := .raised .typeError }

structure Call where
  handler : Handler
  resource : ℕ
  request : Message
  deriving DecidableEq

/-- A transaction in processing. -/
structure Scene (ω : Type) where
  app : Application ω
  calls : List Call
  transaction : Transaction

/-- Why processing ends early: an exception, that of a log line, or a wait for a lock the task
itself holds. -/
inductive Stop where
  | raised (e : PyErr)
  | failed (e : Rendering.Failure)
  | deadlocked
  deriving DecidableEq, Repr

variable {ω : Type}

namespace Scene

def setResource (rid : ℕ) (s : Scene ω) : Scene ω :=
  { s with transaction := { s.transaction with resource := some rid } }

def setResponse (response : Option Message) (s : Scene ω) : Scene ω :=
  { s with transaction := { s.transaction with response := response } }

def update (rid : ℕ) (f : Resource → Resource) (s : Scene ω) : Scene ω :=
  { s with app := s.app.update rid f }

end Scene

/-- `transaction.response.code = code`. -/
def setCode (code : ℕ) : Action Stop (Scene ω) Unit := fun s =>
  match s.transaction.response with
  | none => (.error (.raised .attributeError), s)
  | some response => (.ok (), s.setResponse (some { response with code := some code }))

/-- Runs a handler with the transaction's request, and its response if `withResponse`. -/
def invoke (handlers : Handlers ω) (handler : Handler) (rid : ℕ) (withResponse : Bool) :
    Action Stop (Scene ω) Outcome := fun s =>
  let given := if withResponse then s.transaction.response else none
  let r := awaited handlers handler rid s.transaction.request given s.app
  let response :=
    if withResponse then s.transaction.response.map r.edit else s.transaction.response
  let s := { (s.setResponse response) with
    app := r.app
    calls := s.calls ++ [⟨handler, rid, s.transaction.request⟩] }
  match r.outcome with
  | .raised e => (.error (.raised e), s)
  | outcome => (.ok outcome, s)

/-- A method called without `await`: a coroutine does not run. -/
def invokeSync (handlers : Handlers ω) (handler : Handler) (rid : ℕ) :
    Action Stop (Scene ω) Outcome := fun s =>
  if handlers.isAsync handler rid then (.ok .other, s)
  else
    let r := handlers.render handler rid s.transaction.request s.transaction.response s.app
    let s := { (s.setResponse (s.transaction.response.map r.edit)) with
      app := r.app
      calls := s.calls ++ [⟨handler, rid, s.transaction.request⟩] }
    match r.outcome with
    | .raised e => (.error (.raised e), s)
    | outcome => (.ok outcome, s)

end BubotCoap.Resources
