/-
What a decision leaves in the log.

* `Event`: the things that are logged; `Event.level` and `Event.fields` give the
  line of an event;
* `trace`: the events of one decision: the request, then one event for each
  policy that was skipped, satisfied or failed, then one for each reason, and
  the result at the end. A policy whose condition does not pass leaves no event.
-/
import AccessPolicy.Decision.Authorize

namespace AccessPolicy

/-! ### Events -/

/-- How important an event is. -/
inductive Level where
  | debug
  | info
  | warn
  deriving DecidableEq, Repr

/-- The name of a level. -/
def Level.name : Level → String
  | debug => "DEBUG"
  | info => "INFO"
  | warn => "WARN"

/-- The value of a field in a log line. -/
inductive Field where
  | text (s : String)
  | count (n : Nat)
  deriving DecidableEq, Repr

/-- An event that is logged. -/
inductive Event where
  /-- A request is to be decided against so many policies. -/
  | request (principal action resource : EntityUid) (policies : Nat)
  /-- The scope in a slot rejects the request. -/
  | skipped (policy : PolicyId) (slot : Slot)
  /-- All conditions of a policy pass. -/
  | satisfied (policy : PolicyId) (effect : Effect)
  /-- A condition of a policy cannot be evaluated. -/
  | failed (policy : PolicyId) (kind : ErrorKind) (detail : String)
  /-- A policy determined the decision. -/
  | reason (decision : Decision) (policy : PolicyId)
  /-- The decision is made. -/
  | result (decision : Decision) (reasons errors : Nat)
  /-- A store of so many entities is made. -/
  | storeMade (entities : Nat)
  /-- An engine is made with so many policies. -/
  | loaded (policies : Nat) (version : Version)
  /-- The policies of an engine are replaced. -/
  | reloaded (policies : Nat) (version : Version)
  /-- The policies about a principal are listed. -/
  | listed (principal : EntityUid) (found : Nat)
  deriving DecidableEq, Repr

namespace Event

/-- The importance of an event. -/
def level : Event → Level
  | failed .. => .warn
  | reason .. => .info
  | loaded .. => .info
  | reloaded .. => .info
  | _ => .debug

/-- The subject and the stage of an event, which begin its line. -/
def heading (subject stage : String) : List (String × Field) :=
  [("event", .text subject), ("phase", .text stage)]

/-- The fields of the line of an event. -/
def fields : Event → List (String × Field)
  | request principal action resource policies =>
    heading "Request" "Evaluation" ++ [("principal", .text principal.toText),
      ("action", .text action.toText), ("resource", .text resource.toText),
      ("policies", .count policies)]
  | skipped policy slot =>
    heading "Request" "Scope" ++ [("policy", .text policy), ("slot", .text slot.name),
      ("message", .text "policy skipped")]
  | satisfied policy effect =>
    heading "Request" "Conditions" ++ [("policy", .text policy),
      ("effect", .text effect.name), ("message", .text "policy satisfied")]
  | failed policy kind detail =>
    heading "Request" "Conditions" ++ [("policy", .text policy),
      ("kind", .text kind.name), ("detail", .text detail),
      ("message", .text "policy condition failed to evaluate")]
  | reason decision policy =>
    heading "Request" "Policy" ++ [("decision", .text decision.name),
      ("reason", .text policy)]
  | result decision reasons errors =>
    heading "Request" "Result" ++ [("decision", .text decision.name),
      ("reasons", .count reasons), ("errors", .count errors)]
  | storeMade entities => heading "Entities" "Build" ++ [("entities", .count entities)]
  | loaded policies version =>
    heading "Engine" "Load" ++ [("policies", .count policies),
      ("version", .text version.toText)]
  | reloaded policies version =>
    heading "Engine" "Reload" ++ [("policies", .count policies),
      ("version", .text version.toText)]
  | listed principal found =>
    heading "Listing" "Principal" ++ [("principal", .text principal.toText),
      ("matches", .count found)]

/-- The event of a judged policy, if it leaves one. -/
def ofJudged? : Judged → Option Event
  | (p, .skipped slot) => some (.skipped p.id slot)
  | (p, .satisfied) => some (.satisfied p.id p.effect)
  | (_, .unsatisfied) => none
  | (p, .failed f) => some (.failed p.id f.report.kind f.report.detail)

end Event

/-- The event of a store that is made. -/
def Entities.event (es : Entities) : Event :=
  .storeMade es.entries.length

/-! ### The events of a decision -/

/-- The events of one decision. -/
def trace (request : Request) (policies : PolicySet) (store : Store) : List Event :=
  let js := policies.judge ⟨request, store⟩
  let response := Response.ofJudged js
  .request request.principal request.action request.resource policies.size
    :: js.filterMap Event.ofJudged?
    ++ response.reasons.map (.reason response.decision)
    ++ [.result response.decision response.reasons.length response.errors.length]

end AccessPolicy
