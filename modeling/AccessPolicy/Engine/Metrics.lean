/-
Metrics: what an engine reports about its work.

* `Metric`: an evaluation, its phases, or a reload;
* `Sink`: a named receiver, which may leave phases out; `Sink.receive` gives the
  metrics that reach it;
* `PhaseTimes.overhead`: the time of an evaluation outside its phases.
-/
import AccessPolicy.Decision.Response

namespace AccessPolicy

/-! ### Metrics -/

/-- One evaluation in numbers and names. -/
structure EvaluationStats where
  allowed : Bool
  principal : String
  action : String
  reasons : List PolicyId
  errors : Nat
  deriving DecidableEq, Repr

/-- The statistics of a request and its response. -/
def EvaluationStats.of (request : Request) (response : Response) : EvaluationStats where
  allowed := response.isAllowed
  principal := request.principal.toText
  action := request.action.toText
  reasons := response.reasons
  errors := response.errors.length

/-- What an engine reports. -/
inductive Metric where
  /-- An evaluation is done. -/
  | evaluation (stats : EvaluationStats)
  /-- The times of the phases of an evaluation are known. -/
  | phases (stats : EvaluationStats)
  /-- The policies are replaced by so many with this digest. -/
  | reload (policies : Nat) (hash : String)
  deriving DecidableEq, Repr

/-! ### Receivers -/

/-- A receiver of metrics. -/
structure Sink where
  name : String
  /-- Whether the receiver takes phases. -/
  phases : Bool
  deriving DecidableEq, Repr

/-- A receiver takes a metric. -/
def Sink.takes (s : Sink) : Metric → Bool
  | .phases _ => s.phases
  | _ => true

/-- A metric that reached a receiver. -/
structure Delivery where
  sink : String
  metric : Metric
  deriving DecidableEq, Repr

/-- The deliveries of metrics to the installed receiver, if there is one. -/
def deliver (sink : Option Sink) (ms : List Metric) : List Delivery :=
  match sink with
  | none => []
  | some s => (ms.filter s.takes).map (⟨s.name, ·⟩)

/-- The metrics of an evaluation. -/
def evaluationMetrics (request : Request) (response : Response) : List Metric :=
  let stats := EvaluationStats.of request response
  [.evaluation stats, .phases stats]

/-! ### Times -/

/-- The times of an evaluation, in milliseconds. -/
structure PhaseTimes where
  scope : Float
  conditions : Float
  total : Float

/-- The time outside the phases. -/
def PhaseTimes.overhead (t : PhaseTimes) : Float :=
  t.total - (t.scope + t.conditions)

end AccessPolicy
