import BubotCoap.Messages
import BubotCoap.OrderedDict
import BubotCoap.Runs

set_option autoImplicit false

/-!
# The endpoint layer

The registry of bound endpoints: a table of scheme, family, host and, for unicast endpoints,
port. Registering, the look-up for an outgoing message, and closing.
-/
namespace BubotCoap.EndpointLayer
open PythonData Messages OrderedDict

/-- A `socket.AddressFamily`, which is an integer. -/
abbrev Family := ℤ

/-- Every class of endpoints has a scheme. -/
structure Endpoint where
  scheme : Text
  family : Family
  address : Address
  multicast : Bool
  named : scheme ≠ []
  deriving DecidableEq

abbrev Ports := Dict ℕ Endpoint

/-- A table by scheme, family and host. -/
abbrev Table (V : Type) := Dict Text (Dict Family (Dict Text V))

structure State where
  unicastEndpoints : Table Ports
  multicastEndpoints : Table Endpoint

def State.new : State := ⟨Dict.empty, Dict.empty⟩

section
variable {V : Type}

def hosts (endpoints : Table V) (scheme : Text) (family : Family) : Dict Text V :=
  (endpoints.level scheme).level family

def storeHosts (endpoints : Table V) (scheme : Text) (family : Family) (hosts : Dict Text V) :
    Table V :=
  endpoints.insert scheme ((endpoints.level scheme).insert family hosts)

end

/-- The levels of the scheme and the family are made where they are missing, whatever follows. The
port is looked at only below a host that is new. -/
def add (endpoint : Endpoint) (s : State) : Option Endpoint × State :=
  let scheme := endpoint.scheme
  let family := endpoint.family
  let (host, port) := endpoint.address
  if endpoint.multicast then
    let known := hosts s.multicastEndpoints scheme family
    if known.contains host then
      (none, { s with
        multicastEndpoints := storeHosts s.multicastEndpoints scheme family known })
    else
      (some endpoint, { s with
        multicastEndpoints :=
          storeHosts s.multicastEndpoints scheme family (known.insert host endpoint) })
  else
    let known := hosts s.unicastEndpoints scheme family
    if known.contains host then
      (none, { s with unicastEndpoints := storeHosts s.unicastEndpoints scheme family known })
    else
      let ports : Ports := Dict.empty
      let ports := if ports.contains port then ports else ports.insert port endpoint
      (some endpoint, { s with
        unicastEndpoints :=
          storeHosts s.unicastEndpoints scheme family (known.insert host ports) })

inductive Failure where
  | py (e : PyErr)
  | gaierror
  deriving DecidableEq

def lookup {K V : Type} [DecidableEq K] (d : Dict K V) (k : K) : Except Failure V :=
  match d.get? k with
  | some v => .ok v
  | none => .error (.py .keyError)

/-- `list(d.keys())[0]`. -/
def getFirstElem {K V : Type} [DecidableEq K] (d : Dict K V) : Except Failure K :=
  match d.keys with
  | k :: _ => .ok k
  | [] => .error (.py .indexError)

/-- `getaddrinfo` gives the family of an address. `anyPort` is a source without a port, as is the
first host, which stands in for a source without a host. -/
def findSendingEndpoint (getaddrinfo : Text → Option Family) (message : Message) (anyPort : Bool)
    (s : State) : Except Failure (Option Endpoint) := do
  let scheme := message.schemeText
  let (destination, _) ← (message.destination.elim (.error (.py .typeError)) .ok : Except Failure _)
  let family ← ((getaddrinfo destination).elim (.error .gaierror) .ok : Except Failure _)
  let (host, port) ← (message.source.elim (.error (.py .typeError)) .ok : Except Failure _)
  let families ← lookup s.unicastEndpoints scheme
  let known ← lookup families family
  let (host, anyPort) ←
    if host = [] then (getFirstElem known).map fun first => (first, true) else .ok (host, anyPort)
  if host = [] then .ok none
  else
    let ports ← lookup known host
    if anyPort then
      let firstPort ← getFirstElem ports
      (lookup ports firstPort).map some
    else
      .ok (ports.get? port)

/-- The `_close` of the source, with the endpoints whose `close` it calls. -/
def closeAll {K : Type} [DecidableEq K] (endpoints : Dict K Endpoint) : List Endpoint :=
  (endpoints.popEach (fun endpoint => [endpoint]) endpoints.keys []).2

def closeUnicast (endpoints : Table Ports) : Table Ports × List Endpoint :=
  endpoints.popEach (fun families =>
    (families.popEach (fun ips =>
      (ips.popEach closeAll ips.keys []).2) families.keys []).2) endpoints.keys []

def closeMulticast (endpoints : Table Endpoint) : Table Endpoint × List Endpoint :=
  endpoints.popEach (fun families =>
    (families.popEach closeAll families.keys []).2) endpoints.keys []

/-- The endpoints in the order in which they are closed, and the registry afterwards. -/
def close (s : State) : List Endpoint × State :=
  let (unicast, closed) := closeUnicast s.unicastEndpoints
  let (multicast, closed') := closeMulticast s.multicastEndpoints
  (closed ++ closed', ⟨unicast, multicast⟩)

section
variable {V : Type}

theorem level_insert {K L : Type} [DecidableEq K] [DecidableEq L] (d : Dict K (Dict L V))
    (k k' : K) (v : Dict L V) :
    (d.insert k v).level k' = if k' = k then v else d.level k' := by
  rw [Dict.level, Dict.get?_insert]
  split_ifs <;> rfl

theorem hosts_storeHosts (endpoints : Table V) (scheme scheme' : Text) (family family' : Family)
    (known : Dict Text V) :
    hosts (storeHosts endpoints scheme family known) scheme' family' =
      if scheme' = scheme ∧ family' = family then known else hosts endpoints scheme' family' := by
  rw [hosts, storeHosts, level_insert]
  by_cases hs : scheme' = scheme
  · subst hs
    simp only [↓reduceIte, true_and, level_insert]
    rfl
  · simp only [hs, ↓reduceIte, false_and]
    rfl

theorem get?_of_level {K L : Type} [DecidableEq K] [DecidableEq L] (d : Dict K (Dict L V)) (k : K)
    (l : L) (h : (d.level k).get? l ≠ none) : d.get? k = some (d.level k) := by
  unfold Dict.level at h ⊢
  cases hd : d.get? k with
  | some v => rfl
  | none =>
    rw [hd] at h
    exact absurd rfl h

theorem get?_of_hosts (endpoints : Table V) (scheme : Text) (family : Family) (host : Text)
    (h : (hosts endpoints scheme family).get? host ≠ none) :
    endpoints.get? scheme = some (endpoints.level scheme) ∧
      (endpoints.level scheme).get? family = some (hosts endpoints scheme family) := by
  have hfamily := get?_of_level (endpoints.level scheme) family host h
  refine ⟨get?_of_level endpoints scheme family ?_, hfamily⟩
  rw [hfamily]
  exact Option.some_ne_none _

theorem storeHosts_hosts (endpoints : Table V) (scheme : Text) (family : Family) (host : Text)
    (h : (hosts endpoints scheme family).get? host ≠ none) :
    storeHosts endpoints scheme family (hosts endpoints scheme family) = endpoints := by
  obtain ⟨hscheme, hfamily⟩ := get?_of_hosts endpoints scheme family host h
  rw [storeHosts, Dict.insert_of_get? _ _ _ hfamily, Dict.insert_of_get? _ _ _ hscheme]

variable {E : Type} (values : V → List E)

/-- What a table holds below all its levels. -/
def held (endpoints : Table V) : List E :=
  endpoints.collect fun families => families.collect fun known => known.collect values

theorem elim_level {K L : Type} [DecidableEq K] [DecidableEq L] (d : Dict K (Dict L V)) (k : K)
    (collected : V → List E) :
    (d.get? k).elim [] (fun v => v.collect collected) = (d.level k).collect collected := by
  unfold Dict.level
  cases d.get? k <;> rfl

theorem held_storeHosts (endpoints : Table V) (scheme : Text) (family : Family)
    (known : Dict Text V) (x : E)
    (h : (known.collect values).Perm ((hosts endpoints scheme family).collect values ++ [x])) :
    (held values (storeHosts endpoints scheme family known)).Perm
      (held values endpoints ++ [x]) := by
  refine Dict.collect_insert _ endpoints scheme _ x ?_
  rw [elim_level]
  refine Dict.collect_insert _ (endpoints.level scheme) family known x ?_
  rw [elim_level]
  exact h

end

/-- The table below a host right after its first port is stored. -/
def onlyPort (endpoint : Endpoint) : Ports :=
  (Dict.empty : Ports).insert endpoint.address.2 endpoint

theorem add_cases (endpoint : Endpoint) (s : State) (unicast : endpoint.multicast = false) :
    ((hosts s.unicastEndpoints endpoint.scheme endpoint.family).get? endpoint.address.1 ≠ none ∧
      add endpoint s = (none, s)) ∨
    ((hosts s.unicastEndpoints endpoint.scheme endpoint.family).get? endpoint.address.1 = none ∧
      add endpoint s = (some endpoint, { s with
        unicastEndpoints := storeHosts s.unicastEndpoints endpoint.scheme endpoint.family
          ((hosts s.unicastEndpoints endpoint.scheme endpoint.family).insert endpoint.address.1
            (onlyPort endpoint)) })) := by
  cases hget : (hosts s.unicastEndpoints endpoint.scheme endpoint.family).get?
      endpoint.address.1 with
  | some ports =>
    refine Or.inl ⟨Option.some_ne_none _, ?_⟩
    have hne : (hosts s.unicastEndpoints endpoint.scheme endpoint.family).get?
        endpoint.address.1 ≠ none := hget ▸ Option.some_ne_none _
    simp only [add, unicast, Bool.false_eq_true, ↓reduceIte, Dict.contains, hget,
      Option.isSome_some, storeHosts_hosts _ _ _ _ hne]
  | none =>
    refine Or.inr ⟨rfl, ?_⟩
    simp only [add, unicast, Bool.false_eq_true, ↓reduceIte, Dict.contains, hget,
      Option.isSome_none, Dict.get?_empty, onlyPort]

def Beside (scheme : Text) (family : Family) (endpoint : Endpoint) : Bool :=
  decide (endpoint.scheme = scheme ∧ endpoint.family = family)

/-- No two endpoints of one scheme and family share a host. -/
def OneForHost (endpoints : List Endpoint) : Prop :=
  endpoints.Pairwise fun a b =>
    a.scheme = b.scheme → a.family = b.family → a.address.1 ≠ b.address.1

theorem oneForHost_concat (es : List Endpoint) (e : Endpoint) :
    OneForHost (es ++ [e]) ↔ OneForHost es ∧ ∀ a ∈ es,
      a.scheme = e.scheme → a.family = e.family → a.address.1 ≠ e.address.1 := by
  rw [OneForHost, List.pairwise_append]
  simp [OneForHost]

/-- The hosts of each scheme and family are those of the endpoints, in the order of their adding. -/
def Lists (s : State) (endpoints : List Endpoint) : Prop :=
  ∀ scheme family, (hosts s.unicastEndpoints scheme family).entries =
    (endpoints.filter (Beside scheme family)).map fun e => (e.address.1, onlyPort e)

theorem unknown_iff (s : State) (endpoints : List Endpoint) (h : Lists s endpoints)
    (e : Endpoint) :
    (hosts s.unicastEndpoints e.scheme e.family).get? e.address.1 = none ↔ ∀ a ∈ endpoints,
      a.scheme = e.scheme → a.family = e.family → a.address.1 ≠ e.address.1 := by
  have hkey := Dict.mem_keys_iff (hosts s.unicastEndpoints e.scheme e.family) e.address.1
  rw [Dict.keys, h e.scheme e.family] at hkey
  rw [← not_iff_not, ← ne_eq, ← hkey]
  simp [Beside, and_assoc]

theorem add_known (s : State) (endpoints : List Endpoint) (h : Lists s endpoints) (e : Endpoint)
    (unicast : e.multicast = false)
    (unknown : ∀ a ∈ endpoints, a.scheme = e.scheme → a.family = e.family →
      a.address.1 ≠ e.address.1) :
    (add e s).1 = some e ∧ Lists (add e s).2 (endpoints ++ [e]) ∧
      (held (Dict.collect fun e => [e]) (add e s).2.unicastEndpoints).Perm
        (held (Dict.collect fun e => [e]) s.unicastEndpoints ++ [e]) ∧
      (add e s).2.multicastEndpoints = s.multicastEndpoints := by
  have hnone := (unknown_iff s endpoints h e).mpr unknown
  rcases add_cases e s unicast with ⟨hne, -⟩ | ⟨-, hadd⟩
  · exact absurd hnone hne
  rw [hadd]
  refine ⟨rfl, ?_, ?_, rfl⟩
  · intro scheme family
    dsimp only
    rw [hosts_storeHosts]
    by_cases hplace : scheme = e.scheme ∧ family = e.family
    · obtain ⟨rfl, rfl⟩ := hplace
      rw [if_pos ⟨rfl, rfl⟩, Dict.entries_insert_of_new _ _ _ hnone, h, List.filter_append]
      simp [Beside]
    · have hother : Beside scheme family e = false :=
        decide_eq_false fun h => hplace ⟨h.1.symm, h.2.symm⟩
      rw [if_neg hplace, h, List.filter_append]
      simp [hother]
  · refine held_storeHosts _ _ _ _ _ e ?_
    refine Dict.collect_insert _ _ _ _ e ?_
    rw [hnone]
    exact List.Perm.refl _

/-- The registry after the endpoints have been added in turn. -/
def registry (endpoints : List Endpoint) : State :=
  Runs.run (fun s endpoint => (add endpoint s).2) State.new endpoints

theorem registry_concat (es : List Endpoint) (e : Endpoint) :
    registry (es ++ [e]) = (add e (registry es)).2 :=
  Runs.run_concat _ _ _ _

/-- What the registry is while every host is new. -/
structure Registered (s : State) (endpoints : List Endpoint) : Prop where
  lists : Lists s endpoints
  held : (held (Dict.collect fun e => [e]) s.unicastEndpoints).Perm endpoints
  multicast : s.multicastEndpoints = Dict.empty

theorem registered_registry (endpoints : List Endpoint)
    (unicast : ∀ e ∈ endpoints, e.multicast = false) (separate : OneForHost endpoints) :
    Registered (registry endpoints) endpoints := by
  induction endpoints using List.reverseRecOn with
  | nil => exact ⟨fun _ _ => rfl, List.Perm.refl _, rfl⟩
  | append_singleton es e ih =>
    obtain ⟨hes, hnew⟩ := (oneForHost_concat es e).mp separate
    have hbefore := ih (fun a ha => unicast a (List.mem_append_left _ ha)) hes
    obtain ⟨-, hlists, hheld, hmulticast⟩ := add_known (registry es) es hbefore.lists e
      (unicast e (List.mem_append_right _ (List.mem_singleton_self e))) hnew
    rw [registry_concat]
    exact ⟨hlists, hheld.trans (hbefore.held.append_right _), hmulticast.trans hbefore.multicast⟩

/-- Every call of `add` reports success. -/
def AllAdded (endpoints : List Endpoint) : Prop :=
  ∀ pre e post, endpoints = pre ++ e :: post → (add e (registry pre)).1 = some e

theorem allAdded_iff (endpoints : List Endpoint)
    (unicast : ∀ e ∈ endpoints, e.multicast = false) :
    AllAdded endpoints ↔ OneForHost endpoints := by
  induction endpoints using List.reverseRecOn with
  | nil =>
    refine ⟨fun _ => List.Pairwise.nil, fun _ pre e post h => ?_⟩
    exact absurd h (by simp)
  | append_singleton es e ih =>
    have hes : ∀ a ∈ es, a.multicast = false := fun a ha => unicast a (List.mem_append_left _ ha)
    have he := unicast e (List.mem_append_right _ (List.mem_singleton_self e))
    rw [oneForHost_concat, ← ih hes]
    constructor
    · intro h
      have hbefore : AllAdded es := by
        intro pre a post hsplit
        exact h pre a (post ++ [e]) (by rw [hsplit, List.append_assoc, List.cons_append])
      refine ⟨hbefore, ?_⟩
      have hregistered := registered_registry es hes ((ih hes).mp hbefore)
      rw [← unknown_iff (registry es) es hregistered.lists e]
      rcases add_cases e (registry es) he with ⟨-, hadd⟩ | ⟨hnone, -⟩
      · have hsome := h es e [] rfl
        rw [hadd] at hsome
        exact absurd hsome (by simp)
      · exact hnone
    · rintro ⟨hbefore, hnew⟩ pre a post hsplit
      rcases List.eq_nil_or_concat post with rfl | ⟨post, b, rfl⟩
      · obtain ⟨rfl, hlast⟩ := List.append_inj' hsplit rfl
        obtain rfl := (List.cons.inj hlast).1
        have hregistered := registered_registry es hes ((ih hes).mp hbefore)
        exact (add_known (registry es) es hregistered.lists e he hnew).1
      · rw [List.concat_eq_append, ← List.cons_append, ← List.append_assoc] at hsplit
        exact hbefore pre a post (List.append_inj_left' hsplit rfl)

/-- A message that goes out from the address of the endpoint, to its family. -/
structure SendsFrom (getaddrinfo : Text → Option Family) (message : Message)
    (endpoint : Endpoint) : Prop where
  scheme : message.schemeText = endpoint.scheme
  destination : ∃ d, message.destination = some d ∧ getaddrinfo d.1 = some endpoint.family
  source : message.source = some endpoint.address

theorem lookup_of_get? {K V : Type} [DecidableEq K] (d : Dict K V) (k : K) (v : V)
    (h : d.get? k = some v) : lookup d k = .ok v := by
  rw [lookup, h]

theorem getFirstElem_onlyPort (e : Endpoint) :
    getFirstElem (onlyPort e) = .ok e.address.2 := rfl

theorem get?_onlyPort (e : Endpoint) : (onlyPort e).get? e.address.2 = some e :=
  Dict.get?_insert_self _ _ _

/-- A message with the address of a registered endpoint as its source leaves by that endpoint,
unless the host is empty: then by the first endpoint of the scheme and family, if that one's is
not. -/
theorem find_registered (getaddrinfo : Text → Option Family) (message : Message) (s : State)
    (endpoints : List Endpoint) (h : Lists s endpoints) (e : Endpoint) (he : e ∈ endpoints)
    (sends : SendsFrom getaddrinfo message e) :
    ∃ first rest, endpoints.filter (Beside e.scheme e.family) = first :: rest ∧
      findSendingEndpoint getaddrinfo message false s =
        .ok (if e.address.1 = [] then (if first.address.1 = [] then none else some first)
          else some e) := by
  have hmem : e ∈ endpoints.filter (Beside e.scheme e.family) :=
    List.mem_filter.mpr ⟨he, decide_eq_true ⟨rfl, rfl⟩⟩
  have hentries := h e.scheme e.family
  have hports : ∀ a ∈ endpoints.filter (Beside e.scheme e.family),
      (hosts s.unicastEndpoints e.scheme e.family).get? a.address.1 = some (onlyPort a) := by
    intro a ha
    rw [← Dict.mem_entries_iff, hentries]
    exact List.mem_map_of_mem ha
  obtain ⟨hscheme, hfamily⟩ := get?_of_hosts s.unicastEndpoints e.scheme e.family e.address.1
    (by rw [hports e hmem]; exact Option.some_ne_none _)
  obtain ⟨d, hd, hresolved⟩ := sends.destination
  cases hfilter : endpoints.filter (Beside e.scheme e.family) with
  | nil => exact absurd hmem (by simp [hfilter])
  | cons first rest =>
    refine ⟨first, rest, rfl, ?_⟩
    have hfirst : getFirstElem (hosts s.unicastEndpoints e.scheme e.family) =
        .ok first.address.1 := by
      rw [getFirstElem, Dict.keys, hentries, hfilter]
      rfl
    have hfirstPorts := hports first (by simp [hfilter])
    unfold findSendingEndpoint
    rw [sends.scheme, hd, sends.source]
    simp only [Option.elim_some, hresolved, bind, Except.bind]
    rw [lookup_of_get? _ _ _ hscheme]
    dsimp only
    rw [lookup_of_get? _ _ _ hfamily]
    dsimp only
    by_cases hhost : e.address.1 = []
    · rw [if_pos hhost, if_pos hhost, hfirst]
      simp only [Except.map]
      by_cases hempty : first.address.1 = []
      · rw [if_pos hempty, if_pos hempty]
      · rw [if_neg hempty, if_neg hempty, lookup_of_get? _ _ _ hfirstPorts]
        simp only [↓reduceIte, getFirstElem_onlyPort]
        rw [lookup_of_get? _ _ _ (get?_onlyPort first)]
    · rw [if_neg hhost, if_neg hhost, if_neg hhost, lookup_of_get? _ _ _ (hports e hmem)]
      simp only [Bool.false_eq_true, ↓reduceIte, get?_onlyPort]

theorem closeAll_eq {K : Type} [DecidableEq K] :
    (closeAll : Dict K Endpoint → List Endpoint) = Dict.collect fun e => [e] := by
  funext d
  simp only [closeAll, Dict.popEach_keys, List.nil_append]

theorem close_eq (s : State) :
    close s = (held (Dict.collect fun e => [e]) s.unicastEndpoints ++
      held (fun e => [e]) s.multicastEndpoints, State.new) := by
  simp only [close, closeUnicast, closeMulticast, closeAll_eq, Dict.popEach_keys, List.nil_append]
  rfl

theorem nodup_of_oneForHost (endpoints : List Endpoint) (h : OneForHost endpoints) :
    endpoints.Nodup := by
  refine List.Pairwise.imp ?_ h
  intro a b hab heq
  subst heq
  exact hab rfl rfl rfl

/-- Each endpoint is registered, found for the messages it is to send, and closed once. -/
structure Served (endpoints : List Endpoint) : Prop where
  added : AllAdded endpoints
  found : ∀ getaddrinfo message e, e ∈ endpoints → SendsFrom getaddrinfo message e →
    findSendingEndpoint getaddrinfo message false (registry endpoints) = .ok (some e)
  closed : ∀ e ∈ endpoints, (close (registry endpoints)).1.count e = 1
  empty : (close (registry endpoints)).2 = State.new

def messageFrom (e : Endpoint) : Message :=
  { Message.new .request with
    scheme := some e.scheme
    destination := some ([], 0)
    source := some e.address }

/-- Which sequences of endpoints the registry serves. -/
theorem served_iff (endpoints : List Endpoint)
    (unicast : ∀ e ∈ endpoints, e.multicast = false) :
    Served endpoints ↔ OneForHost endpoints ∧ ∀ e ∈ endpoints, e.address.1 ≠ [] := by
  constructor
  · intro h
    have separate := (allAdded_iff endpoints unicast).mp h.added
    have hregistered := registered_registry endpoints unicast separate
    refine ⟨separate, ?_⟩
    intro e he hhost
    have hsends : SendsFrom (fun _ => some e.family) (messageFrom e) e := by
      refine ⟨?_, ⟨_, rfl, rfl⟩, rfl⟩
      rw [Message.schemeText, messageFrom]
      cases hscheme : e.scheme with
      | nil => exact absurd hscheme e.named
      | cons c cs => rfl
    obtain ⟨first, rest, hfilter, hfind⟩ :=
      find_registered _ _ _ endpoints hregistered.lists e he hsends
    rw [h.found _ _ e he hsends, if_pos hhost] at hfind
    -- what is found instead has a host
    split_ifs at hfind with hempty
    · cases hfind
    · cases hfind
      exact hempty hhost
  · rintro ⟨separate, hhosts⟩
    have hregistered := registered_registry endpoints unicast separate
    refine ⟨(allAdded_iff endpoints unicast).mpr separate, ?_, ?_, ?_⟩
    · intro getaddrinfo message e he sends
      obtain ⟨first, rest, hfilter, hfind⟩ :=
        find_registered getaddrinfo message _ endpoints hregistered.lists e he sends
      rw [hfind, if_neg (hhosts e he)]
    · intro e he
      have hclosed : (close (registry endpoints)).1.Perm endpoints := by
        rw [close_eq, hregistered.multicast]
        change (_ ++ []).Perm _
        rw [List.append_nil]
        exact hregistered.held
      rw [hclosed.count_eq]
      exact List.count_eq_one_of_mem (nodup_of_oneForHost endpoints separate) he
    · rw [close_eq]

theorem coap_named : "coap".toList ≠ [] := by decide

def sampleEndpoint (host : String) (port : ℕ) : Endpoint :=
  ⟨"coap".toList, 2, (host.toList, port), false, coap_named⟩

theorem served_two_hosts :
    Served [sampleEndpoint "10.0.0.1" 5683, sampleEndpoint "10.0.0.2" 5683] :=
  (served_iff [sampleEndpoint "10.0.0.1" 5683, sampleEndpoint "10.0.0.2" 5683] (by decide)).mpr
    ⟨by unfold OneForHost; decide, by decide⟩

/-- A second port on a host is refused, not found and not closed. -/
theorem second_port_lost :
    ¬ ∀ endpoints : List Endpoint, (∀ e ∈ endpoints, e.multicast = false) →
      endpoints.Pairwise (fun a b => (a.scheme, a.family, a.address) ≠
        (b.scheme, b.family, b.address)) → Served endpoints := by
  intro h
  have served := h [sampleEndpoint "10.0.0.1" 5683, sampleEndpoint "10.0.0.1" 5684]
    (by decide) (by decide)
  have hadded := served.added [sampleEndpoint "10.0.0.1" 5683] (sampleEndpoint "10.0.0.1" 5684) []
    rfl
  exact absurd hadded (by decide +kernel)

end BubotCoap.EndpointLayer
