import Colloquy.Registry.Basic

/-!
# Registering and activating providers

A backend is made when it is needed first.  While it is being made, its maker may use the registry
itself: register providers and activate them, even under the very name that is being worked on.
Every operation therefore looks at the registry again after a backend was made, and starts over if
the entry it was working on has been replaced or has become active or inactive meanwhile.

Each operation is defined over a function that makes backends, and `make` ties the knot.  All are
bounded by the number of errands that are still to be done: only an errand can make an operation
start over.
-/

namespace Colloquy.Registry

open Provider (Backend Options)

/-- Makes a backend for a registration: the registry after it, and the number of the backend. -/
abbrev Making := Registry → Nat → Source → Registry × BackendId

/-! ### Operations over a way of making backends -/

/-- Prepares a backend for requests with some options; gives whether it let itself be prepared. -/
def prepareBackend (r : Registry) (id : BackendId) (o : Options) : Registry × Bool :=
  let (accepted, b) := (r.backend id).prepare o
  (r.setBackend id b, accepted)

/-- Registers a provider under a name; a provider that is registered already is replaced with all
that belongs to it.  If it is active, its replacement is made and prepared at once, with the
options of the backend it replaces; if that fails, nothing is replaced.  The operation starts over
at most `again` times. -/
def registerWith (make : Making) (name : String) (source : Source) (registration : Nat) :
    Nat → Registry → Registry × Except Error Unit
  | again, r =>
    let entry (backend : Option BackendId) : Entry :=
      ⟨Text.trim name, source, registration, backend, none⟩
    if r.isActive name then
      let previous := (r.find? name).bind Entry.backend
      let (r, id) := make r registration source
      -- The replacement is prepared with the options of the backend in use.
      let options := (r.backend (previous.getD id)).options
      let (r, accepted) := r.prepareBackend id options
      if !accepted then (r, .error (.initializationFailed (Text.trim name)))
      -- The maker may have activated another provider meanwhile.
      else if r.isActive name then
        ((r.setEntry name (entry (some id))).tellProvider (Text.trim name), .ok ())
      else match again with
        | 0 => (r, .error (.initializationFailed (Text.trim name)))
        | again + 1 => registerWith make name source registration again r
    else (r.setEntry name (entry none), .ok ())

/-- The backend of an entry that keeps the one it has. -/
def Entry.withBackend (e : Entry) (id : BackendId) : Entry :=
  { e with backend := some (e.backend.getD id) }

/-- Activates a provider.  Its backend is made and prepared if there is none yet. -/
def activateWith (make : Making) (name : String) :
    Nat → Registry → Registry × Except Error Unit
  | again, r =>
    match r.find? name with
    | none => (r, .error (.notRegistered name))
    | some e =>
      match e.backend with
      | some _ =>
        (({ r with active := some (keyOf name) } : Registry).tellProvider e.displayName, .ok ())
      | none =>
        let (r, id) := make r e.registration e.source
        let (r, accepted) := r.prepareBackend id (r.backend id).options
        if !accepted then (r, .error (.initializationFailed name))
        -- The maker may have registered the name anew, or activated or prepared it itself.
        else match r.find? name with
          | none => (r, .error (.notRegistered name))
          | some now =>
            if now.registration = e.registration then
              let r := r.setEntry name (now.withBackend id)
              (({ r with active := some (keyOf name) } : Registry).tellProvider now.displayName,
                .ok ())
            else match again with
              | 0 => (r, .error (.initializationFailed name))
              | again + 1 => activateWith make name again r

/-- Prepares the backend of a provider, which is made if there is none yet, without activating
the provider. -/
def prepareWith (make : Making) (name : String) (o : Options) :
    Nat → Registry → Registry × Except Error Unit
  | again, r =>
    match r.find? name with
    | none => (r, .error (.notRegistered name))
    | some e =>
      let (r, id) := match e.backend with
        | some id => (r, id)
        | none => make r e.registration e.source
      let (r, accepted) := r.prepareBackend id o
      if !accepted then (r, .error (.initializationFailed name))
      else match r.find? name with
        | none => (r, .ok ())
        | some now =>
          if now.registration = e.registration then
            (r.setEntry name (now.withBackend id), .ok ())
          else match again with
            | 0 => (r, .error (.initializationFailed name))
            | again + 1 => prepareWith make name o again r

/-- Takes a number for a registration. -/
def newRegistration (r : Registry) : Registry × Nat :=
  ({ r with nextRegistration := r.nextRegistration + 1 }, r.nextRegistration)

/-- Does an errand; how it ends does not matter. -/
def doErrand (make : Making) (again : Nat) (r : Registry) : Errand → Registry
  | .register name source =>
    let (r, registration) := r.newRegistration
    (registerWith make name source registration again r).1
  | .activate name => (activateWith make name again r).1

/-! ### Making backends -/

/-- The errands that all makers together still have to do. -/
def pending (r : Registry) : Nat :=
  (r.makers.flatMap fun m => m.errands.flatten).length

/-- The call of a maker starts. -/
def startCall (r : Registry) (m : MakerId) : Registry :=
  { r with makers := r.makers.modify m Maker.start }

/-- The backend with a number; a number that nothing has yet stands for a new backend. -/
def obtain (r : Registry) (id : BackendId) : Registry × BackendId :=
  if id < r.backends.length then (r, id) else r.addBackend default

/-- Brings a product into the registry. -/
def produce (r : Registry) : Product → Registry × BackendId
  | .new plan => r.addBackend plan
  | .existing id => r.obtain id

/-- Notes which backend a call of a maker has given. -/
def noteMade (r : Registry) (m : MakerId) (call : Nat) (id : BackendId) : Registry :=
  { r with makers := r.makers.modify m fun k => { k with made := k.made ++ [(call, id)] } }

/-- Notes which backend a source has given for a registration. -/
def deliver (r : Registry) (registration : Nat) (source : Source) (id : BackendId) : Registry :=
  { r with deliveries := r.deliveries ++ [⟨registration, source, id⟩] }

/-- Makes a backend.  A maker first does the errands of this call; `depth` bounds how many makers
may be at work at once. -/
def make : Nat → Making
  | depth, r, registration, source =>
    match source with
    | .shared id =>
      let (r, id) := r.obtain id
      (r.deliver registration source id, id)
    | .made m =>
      let maker := r.makers[m]?.getD default
      let r := r.startCall m
      -- The maker sees the registry as it is while its backend is not there yet.
      let r := match depth with
        | 0 => r
        | depth + 1 => maker.nextErrands.foldl (doErrand (make depth) (depth + 1)) r
      let (r, id) := r.produce maker.nextProduct
      ((r.noteMade m maker.calls id).deliver registration source id, id)

/-! ### The operations -/

/-- Registers a provider whose backend comes from somewhere. -/
def register (r : Registry) (name : String) (source : Source) : Registry × Except Error Unit :=
  let bound := r.pending + 1
  let (r, registration) := r.newRegistration
  registerWith (make bound) name source registration bound r

/-- Registers a provider with a backend that is there already. -/
def registerBackend (r : Registry) (name : String) (b : Backend) :
    Registry × BackendId × Except Error Unit :=
  let (r, id) := r.addBackend b
  let (r, result) := r.register name (.shared id)
  (r, id, result)

/-- Activates a provider; if that fails, the one that was active stays so. -/
def activate (r : Registry) (name : String) : Registry × Except Error Unit :=
  let bound := r.pending + 1
  activateWith (make bound) name bound r

/-- Prepares the backend of a provider without activating it. -/
def prepare (r : Registry) (name : String) (o : Options) : Registry × Except Error Unit :=
  let bound := r.pending + 1
  prepareWith (make bound) name o bound r

/-- Lets the requests to a provider follow a policy of their own. -/
def setPolicy (r : Registry) (name : String) (p : Retry.Policy) : Registry × Except Error Unit :=
  match r.find? name with
  | none => (r, .error (.notRegistered name))
  | some e => (r.setEntry name { e with policy := some p }, .ok ())

end Colloquy.Registry
