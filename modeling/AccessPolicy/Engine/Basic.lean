/-
Engines: shared cells that hold the policies in force.

* `Snapshot`: a set of policies with its version, which never changes;
* `Engines`: cells with their present snapshots, handles that point to cells,
  snapshots that were held back, and the installed receiver of metrics; a clone
  of a handle points to the same cell;
* `Command`, `Engines.step`: what can be done, one step at a time. A step gives
  an answer, the events that it logs and the metrics that it delivers; it is
  impossible only on a handle or a held snapshot that does not exist;
* `Engines.run`: several steps in a row.
-/
import AccessPolicy.Decision.Event
import AccessPolicy.Engine.Metrics

namespace AccessPolicy

/-! ### Snapshots -/

/-- A set of policies with its version. -/
structure Snapshot where
  policies : PolicySet
  version : Version

/-- The snapshot of a set of policies that is loaded at a time. -/
def Snapshot.load (policies : PolicySet) (time : String) : Snapshot :=
  ⟨policies, ⟨policies.contentHash, time⟩⟩

/-- A policy that is about a principal, with the reason. -/
structure PolicyMatch where
  policy : Policy
  reason : MatchReason

/-- The policies whose principal scope admits a principal, in their order. -/
def PolicySet.about (s : PolicySet) (store : Store) (principal : EntityUid) :
    List PolicyMatch :=
  s.policies.filterMap fun p =>
    (p.principalReason? store principal).map fun reason => ⟨p, reason⟩

/-! ### Engines -/

/-- Engines by their handles. -/
structure Engines where
  /-- The present snapshot of each cell. -/
  cells : List Snapshot
  /-- The cell of each handle. -/
  handles : List Nat
  /-- The snapshots that were held back. -/
  held : List Snapshot
  /-- The installed receiver of metrics. -/
  sink : Option Sink

namespace Engines

/-- No engine. -/
def empty : Engines := ⟨[], [], [], none⟩

/-- The present snapshot behind a handle. -/
def current? (es : Engines) (handle : Nat) : Option Snapshot := do
  es.cells[← es.handles[handle]?]?

end Engines

/-- Something to do with engines. -/
inductive Command where
  /-- Make an engine, at a time. -/
  | create (policies : PolicySet) (time : String)
  /-- Make another handle of an engine. -/
  | clone (handle : Nat)
  /-- Replace the policies of an engine, at a time. -/
  | reload (handle : Nat) (policies : PolicySet) (time : String)
  /-- Decide a request. -/
  | evaluate (handle : Nat) (request : Request)
  /-- List the policies about a principal. -/
  | list (handle : Nat) (principal : EntityUid)
  /-- Ask for the policies. -/
  | policies (handle : Nat)
  /-- Ask for the version. -/
  | version (handle : Nat)
  /-- Hold the present snapshot back. -/
  | hold (handle : Nat)
  /-- Look at a snapshot that was held back. -/
  | look (snapshot : Nat)
  /-- Decide a request against a snapshot that was held back. -/
  | authorizeHeld (snapshot : Nat) (request : Request)
  /-- Decide a request against policies that no engine holds. -/
  | authorize (policies : PolicySet) (request : Request)
  /-- Install a receiver of metrics. -/
  | install (sink : Sink)
  /-- Remove the receiver of metrics. -/
  | uninstall

/-- The answer to a command. -/
inductive Answer where
  | done
  /-- The number of a handle. -/
  | handle (n : Nat)
  /-- The number of a snapshot that is held back. -/
  | held (n : Nat)
  | snapshot (s : Snapshot)
  | response (r : Response)
  | listing (ms : List PolicyMatch)
  | policies (ps : List Policy)
  | version (v : Version)

/-- What a step gives. -/
structure Reply where
  answer : Answer
  events : List Event
  deliveries : List Delivery

namespace Engines

/-- One step, with a store of entities. A reload has nothing to tell of its own; it is
answered by the snapshot that is in force from then on, so that a log shows with each
reload what it put in place. -/
def step (store : Store) (es : Engines) :
    Command → Option (Engines × Reply)
  | .create policies time =>
    let s := Snapshot.load policies time
    some ({ es with
        cells := es.cells ++ [s]
        handles := es.handles ++ [es.cells.length] },
      ⟨.handle es.handles.length, [.loaded policies.size s.version], []⟩)
  | .clone handle => do
    let cell ← es.handles[handle]?
    some ({ es with handles := es.handles ++ [cell] },
      ⟨.handle es.handles.length, [], []⟩)
  | .reload handle policies time => do
    let cell ← es.handles[handle]?
    let s := Snapshot.load policies time
    some ({ es with cells := es.cells.set cell s },
      ⟨.snapshot s, [.reloaded policies.size s.version],
        deliver es.sink [.reload policies.size s.version.hash]⟩)
  | .evaluate handle request => do
    let s ← es.current? handle
    let response := authorize request s.policies store
    some (es, ⟨.response response, trace request s.policies store,
      deliver es.sink (evaluationMetrics request response)⟩)
  | .list handle principal => do
    let s ← es.current? handle
    let ms := s.policies.about store principal
    some (es, ⟨.listing ms, [.listed principal ms.length], []⟩)
  | .policies handle => do
    let s ← es.current? handle
    some (es, ⟨.policies s.policies.policies, [], []⟩)
  | .version handle => do
    let s ← es.current? handle
    some (es, ⟨.version s.version, [], []⟩)
  | .hold handle => do
    let s ← es.current? handle
    some ({ es with held := es.held ++ [s] }, ⟨.held es.held.length, [], []⟩)
  | .look n => do
    let s ← es.held[n]?
    some (es, ⟨.snapshot s, [], []⟩)
  | .authorizeHeld n request => do
    let s ← es.held[n]?
    some (es, ⟨.response (authorize request s.policies store),
      trace request s.policies store, []⟩)
  | .authorize policies request =>
    some (es, ⟨.response (AccessPolicy.authorize request policies store),
      trace request policies store, []⟩)
  | .install sink => some ({ es with sink := some sink }, ⟨.done, [], []⟩)
  | .uninstall => some ({ es with sink := none }, ⟨.done, [], []⟩)

/-- Several steps in a row; an impossible one changes nothing and has no reply. -/
def run (store : Store) (es : Engines) :
    List Command → Engines × List (Option Reply)
  | [] => (es, [])
  | c :: cs =>
    match step store es c with
    | some (next, reply) =>
      let (last, replies) := run store next cs
      (last, some reply :: replies)
    | none =>
      let (last, replies) := run store es cs
      (last, none :: replies)

end Engines

end AccessPolicy
