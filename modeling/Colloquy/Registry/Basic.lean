import Colloquy.Provider.Backend
import Colloquy.Retry.Loop
import Colloquy.Text.Blank
import Colloquy.Text.Lowercase

/-!
# The registry of providers

A registry knows providers by name, whatever the case of its letters and the blanks around it.  An
entry says where the backend of a provider comes from, which backend is in use once there is one,
and whether requests follow a policy other than the backend's.  At most one provider is active;
requests go to it.

Backends and their makers live in the registry too, each under a number, so that two entries can
share a backend and a backend that is replaced can still be looked at.  What listeners were told
and which retries were announced is noted in order.
-/

namespace Colloquy

open Provider (Backend ModelInfo Options)

/-- The number of a backend. -/
abbrev BackendId := Nat

/-- The number of a maker. -/
abbrev MakerId := Nat

namespace Registry

/-! ### Errors -/

/-- What a request can choose. -/
inductive Choice where
  | model
  | template
deriving DecidableEq, Repr

/-- The word for a choice. -/
def Choice.word : Choice → String
  | model => "model"
  | template => "template"

/-- Why the registry refuses something. -/
inductive Error where
  | notRegistered (name : String)
  | noActiveProvider
  | notFound (what : Choice) (id : String)
  | initializationFailed (name : String)
  | provider (message : String)
deriving DecidableEq, Repr

/-- The sentence that reports an error. -/
def Error.message : Error → String
  | notRegistered name => s!"Provider not registered: {name}"
  | noActiveProvider => "No active provider"
  | notFound what id => s!"Unknown {what.word}: {id}"
  | initializationFailed name => s!"Provider initialization failed: {name}"
  | provider message => s!"Provider error: {message}"

/-! ### Entries -/

/-- The name under which a provider is found. -/
def keyOf (name : String) : String :=
  Text.lowercase (Text.trim name)

/-- Where the backend of an entry comes from. -/
inductive Source where
  /-- A backend that is there already. -/
  | shared (backend : BackendId)
  /-- A new backend each time, from a maker. -/
  | made (maker : MakerId)
deriving DecidableEq, Repr

/-- A provider in the registry. -/
structure Entry where
  displayName : String
  source : Source
  /-- The registration that the entry comes from; no two registrations have the same number. -/
  registration : Nat
  backend : Option BackendId
  policy : Option Retry.Policy

/-- What a maker does with the registry before it makes a backend. -/
inductive Errand where
  | register (name : String) (source : Source)
  | activate (name : String)
deriving DecidableEq, Repr

/-- What a maker gives in a call. -/
inductive Product where
  /-- A new backend. -/
  | new (plan : Backend)
  /-- A backend that is there already. -/
  | existing (backend : BackendId)

/-- A backend that was given for a registration by the source that was registered. -/
structure Delivery where
  registration : Nat
  source : Source
  backend : BackendId
deriving DecidableEq, Repr

/-- Makes backends. -/
structure Maker where
  /-- The backend that is made in a call for which nothing else is laid down. -/
  plan : Backend
  calls : Nat
  /-- What to do in each of the next calls. -/
  errands : List (List Errand)
  /-- What to give in each of the next calls. -/
  products : List Product
  /-- The backends given so far, each with the number of the call, counted from zero. -/
  made : List (Nat × BackendId)

instance : Inhabited Maker := ⟨⟨default, 0, [], [], []⟩⟩

/-- The maker when its next call has started. -/
def Maker.start (k : Maker) : Maker :=
  { k with calls := k.calls + 1, errands := k.errands.tail, products := k.products.tail }

/-- What the maker does first in its next call. -/
def Maker.nextErrands (k : Maker) : List Errand := k.errands.head?.getD []

/-- What the maker gives in its next call. -/
def Maker.nextProduct (k : Maker) : Product := k.products.head?.getD (.new k.plan)

/-! ### Listeners -/

/-- What a listener answers when it is told something. -/
inductive Answer where
  | fine
  | error
  | crash
deriving DecidableEq, Repr

/-- Somebody who wants to be told of changes. -/
structure Listener where
  id : Nat
  answer : Answer
deriving DecidableEq, Repr

/-- What listeners are told. -/
inductive Event where
  | provider (displayName : String)
  | model (info : ModelInfo)
  | template (id : String)
deriving DecidableEq, Repr

/-- The kinds of listeners. -/
inductive Kind where
  | provider
  | model
  | template
deriving DecidableEq, Repr

/-- A listener that was told something. -/
structure Notice where
  listener : Nat
  event : Event
deriving DecidableEq, Repr

/-- Listeners are told one after the other, whatever the earlier ones answer. -/
def notify (listeners : List Listener) (event : Event) : List Notice :=
  listeners.map fun l => ⟨l.id, event⟩

end Registry

open Registry

/-! ### The registry -/

/-- The providers, their backends, and what happened to them. -/
structure Registry where
  backends : List Backend := []
  makers : List Maker := []
  entries : Dictionary Entry := ∅
  active : Option String := none
  providerListeners : List Listener := []
  modelListeners : List Listener := []
  templateListeners : List Listener := []
  nextListener : Nat := 0
  nextRegistration : Nat := 0
  /-- The backends that sources have given, in order. -/
  deliveries : List Delivery := []
  retriesEnabled : Bool := true
  statistics : Retry.Statistics := .empty
  /-- The random numbers that disturb the waits between retries. -/
  draws : Nat → Float := fun _ => 0.5
  notices : List Notice := []
  announcements : List (String × Retry.Announcement) := []
  /-- How long requests have waited for their retries. -/
  waited : Duration := .zero

namespace Registry

instance : Inhabited Registry := ⟨{}⟩

/-- The backend with a number. -/
def backend (r : Registry) (id : BackendId) : Backend :=
  r.backends[id]?.getD default

/-- Replaces the backend with a number. -/
def setBackend (r : Registry) (id : BackendId) (b : Backend) : Registry :=
  { r with backends := r.backends.set id b }

/-- Takes in a new backend, which has not been prepared yet. -/
def addBackend (r : Registry) (b : Backend) : Registry × BackendId :=
  ({ r with backends := r.backends ++ [{ b with prepared := false }] }, r.backends.length)

/-- Takes in a maker. -/
def takeMaker (r : Registry) (k : Maker) : Registry × MakerId :=
  ({ r with makers := r.makers ++ [k] }, r.makers.length)

/-- Takes in a maker that makes all backends by one plan. -/
def addMaker (r : Registry) (plan : Backend) (errands : List (List Errand)) :
    Registry × MakerId :=
  r.takeMaker ⟨plan, 0, errands, [], []⟩

/-- The entry under a name. -/
def find? (r : Registry) (name : String) : Option Entry :=
  r.entries.find? (keyOf name)

/-- Sets the entry under a name. -/
def setEntry (r : Registry) (name : String) (e : Entry) : Registry :=
  { r with entries := r.entries.insert (keyOf name) e }

/-- Whether the provider with a name is active. -/
def isActive (r : Registry) (name : String) : Bool :=
  r.active == some (keyOf name)

/-- The names of all providers as they were given, in ascending order. -/
def names (r : Registry) : List String :=
  (r.entries.entries.map fun e => e.2.displayName).mergeSort fun a b => decide (a ≤ b)

/-- The name of the active provider as it was given. -/
def activeName? (r : Registry) : Option String := do
  let key ← r.active
  let e ← r.entries.find? key
  return e.displayName

/-! ### Listening -/

/-- Adds a listener; gives its number, which no other listener has had. -/
def listen (r : Registry) (kind : Kind) (answer : Answer) : Registry × Nat :=
  let id := r.nextListener + 1
  let l : Listener := ⟨id, answer⟩
  let r := { r with nextListener := id }
  match kind with
  | .provider => ({ r with providerListeners := r.providerListeners ++ [l] }, id)
  | .model => ({ r with modelListeners := r.modelListeners ++ [l] }, id)
  | .template => ({ r with templateListeners := r.templateListeners ++ [l] }, id)

/-- Removes a listener; gives whether there was one. -/
def unlisten (r : Registry) (id : Nat) : Registry × Bool :=
  let without := fun ls : List Listener => ls.filter (·.id != id)
  let has := fun ls : List Listener => ls.any (·.id == id)
  if has r.providerListeners then
    ({ r with providerListeners := without r.providerListeners }, true)
  else if has r.modelListeners then
    ({ r with modelListeners := without r.modelListeners }, true)
  else if has r.templateListeners then
    ({ r with templateListeners := without r.templateListeners }, true)
  else (r, false)

/-- Tells the listeners of providers. -/
def tellProvider (r : Registry) (displayName : String) : Registry :=
  { r with notices := r.notices ++ notify r.providerListeners (.provider displayName) }

end Registry

end Colloquy
