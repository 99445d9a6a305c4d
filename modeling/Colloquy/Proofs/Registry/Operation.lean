import Colloquy.Registry.Request

/-!
# Runs of a registry

A registry starts without providers and is then told one thing after the other: to register, to
prepare and to activate providers, to change what the active one uses, to take in listeners, to make
requests.  `Operation` lists what it can be told, `perform` is the effect of one operation and the
error that it reports, and `performAll` is a whole run.  What makers do while they make a backend is
part of the operation that needs the backend.

Backends live on while the registry does nothing with them: `Operation.adjust` stands for whatever
happens to one from outside, and `Operation.prepareBackend` for a preparation by somebody else.
-/

namespace Colloquy.Registry

open Provider (Backend Options ToolDefinition)

/-- What a registry can be asked about the active provider without a change. -/
inductive Question where
  | models
  | model
  | templates
  | template
  | options

/-- What a registry can be told. -/
inductive Operation where
  | addBackend (b : Backend)
  | takeMaker (k : Maker)
  | register (name : String) (source : Source)
  | prepare (name : String) (o : Options)
  | activate (name : String)
  | setPolicy (name : String) (p : Retry.Policy)
  | setModel (id : String)
  | setTemplate (id : String)
  | setOptions (o : Options)
  | listen (kind : Kind) (answer : Answer)
  | unlisten (id : Nat)
  | complete (messages : List Message) (tools : List ToolDefinition)
  | embed (text : String)
  | ask (q : Question)
  /-- Enters a request into the ledger that somebody else has made. -/
  | record (reason : String) (success : Bool) (retries : Nat)
  | resetStatistics
  /-- Somebody else prepares a backend. -/
  | prepareBackend (id : BackendId) (o : Options)
  /-- Something happens to a backend that is not the registry's doing. -/
  | adjust (id : BackendId) (change : Backend → Backend)

/-- The error that a result is, if it is one. -/
def errorOf {α : Type} : Except Error α → Option Error
  | .ok _ => none
  | .error e => some e

/-- A changed registry with the error that was reported. -/
def report {α : Type} (x : Registry × Except Error α) : Registry × Option Error :=
  (x.1, errorOf x.2)

/-- The error that a question is answered with, if there is no better answer. -/
def askError (r : Registry) : Question → Option Error
  | .models => errorOf r.models?
  | .model => errorOf r.model?
  | .templates => errorOf r.templates?
  | .template => errorOf r.template?
  | .options => errorOf r.options?

/-- Changes a backend from outside; whether it has been prepared stays as it is. -/
def adjust (r : Registry) (id : BackendId) (change : Backend → Backend) : Registry :=
  r.setBackend id { change (r.backend id) with prepared := (r.backend id).prepared }

/-- Does what a registry is told; gives the error that is reported. -/
def perform (r : Registry) : Operation → Registry × Option Error
  | .addBackend b => ((r.addBackend b).1, none)
  | .takeMaker k => ((r.takeMaker k).1, none)
  | .register name source => report (r.register name source)
  | .prepare name o => report (r.prepare name o)
  | .activate name => report (r.activate name)
  | .setPolicy name p => report (r.setPolicy name p)
  | .setModel id => report (r.setModel id)
  | .setTemplate id => report (r.setTemplate id)
  | .setOptions o => report (r.setOptions o)
  | .listen kind answer => ((r.listen kind answer).1, none)
  | .unlisten id => ((r.unlisten id).1, none)
  | .complete messages tools => report (r.complete messages tools)
  | .embed text => report (r.embed text)
  | .ask q => (r, r.askError q)
  | .record reason success retries =>
    ({ r with statistics := r.statistics.record reason success retries }, none)
  | .resetStatistics => ({ r with statistics := .empty }, none)
  | .prepareBackend id o => ((r.prepareBackend id o).1, none)
  | .adjust id change => (r.adjust id change, none)

/-- The registry after a run. -/
def performAll (r : Registry) (ops : List Operation) : Registry :=
  ops.foldl (fun r op => (r.perform op).1) r

/-- A registry without providers, with or without retries. -/
def start (retriesEnabled : Bool) (statistics : Retry.Statistics) (draws : Nat → Float) :
    Registry :=
  { retriesEnabled, statistics, draws }

@[simp]
theorem performAll_nil (r : Registry) : r.performAll [] = r := rfl

@[simp]
theorem performAll_append (r : Registry) (ops ops' : List Operation) :
    r.performAll (ops ++ ops') = (r.performAll ops).performAll ops' :=
  List.foldl_append

@[simp]
theorem performAll_cons (r : Registry) (op : Operation) (ops : List Operation) :
    r.performAll (op :: ops) = (r.perform op).1.performAll ops := rfl

end Colloquy.Registry
