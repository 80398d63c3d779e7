/-
Which metrics reach which receiver.

* `installed`: the receiver that a log shows to be installed;
* `Entry.metricsFor`: what a receiver is to be told of a command, said by the command and its
  answer alone: the statistics of an evaluation, at once followed by its phases, and the
  policies of a reload. `told_of_step` says that one command tells this to the receiver that
  is installed, and to no other;
* `received`, `reportedWhile`: what reached the receivers of a name over a whole history,
  and what was to be reported while one of them was installed. A receiver is known by its
  name;
* `play_filter`: without the commands about receivers the same history comes about, in
  silence;
* `metrics_exact`: no call is lost, after all calls the two lists are equal, and no reply
  depends on receivers.
-/
import AccessPolicy.Proofs.Decision.Concatenation
import AccessPolicy.Proofs.Engine.Current

namespace AccessPolicy

/-! ### What receivers are to be told -/

/-- The receiver that the log shows to be installed: the last one that was installed, unless
the receiver was removed since. -/
def installed : List Entry → Option Sink
  | [] => none
  | ⟨.install sink, _⟩ :: _ => some sink
  | ⟨.uninstall, _⟩ :: _ => none
  | _ :: log => installed log

/-- What a receiver is to be told of a command: of an evaluation its statistics, directly
followed by the phases with the same statistics if it takes them, and of a reload the number
and the digest of the new policies. -/
def Entry.metricsFor (s : Sink) : Entry → List Metric
  | ⟨.evaluate _ request, ⟨.response r, _, _⟩⟩ =>
    let stats : EvaluationStats :=
      { allowed := decide (r.decision = .allow)
        principal := request.principal.toText
        action := request.action.toText
        reasons := r.reasons
        errors := r.errors.length }
    .evaluation stats :: if s.phases then [.phases stats] else []
  | ⟨.reload _ policies _, _⟩ => [.reload policies.policies.length policies.contentHash]
  | _ => []

/-- What a command is to deliver while a receiver is installed, or none. -/
def Entry.deliveriesTo (e : Entry) : Option Sink → List Delivery
  | some s => (e.metricsFor s).map (⟨s.name, ·⟩)
  | none => []

/-- What reached the receivers of a name, in the order in which it came. -/
def received (name : String) (log : List Entry) : List Metric :=
  (log.reverse.flatMap (·.reply.deliveries)).filterMap fun d =>
    if d.sink = name then some d.metric else none

/-- What the commands had to report while a receiver of the name was installed, in order. -/
def reportedWhile (name : String) : List Entry → List Metric
  | [] => []
  | e :: log => reportedWhile name log ++
    match installed log with
    | some s => if s.name = name then e.metricsFor s else []
    | none => []

/-! ### One command -/

section Step

variable {store : Store} {es es' : Engines} {c : Command} {reply : Reply}

/-- Of the metrics of an evaluation a receiver takes both, or the first. -/
lemma filter_evaluationMetrics (s : Sink) (request : Request) (r : Response) :
    (evaluationMetrics request r).filter s.takes =
      .evaluation (.of request r) :: if s.phases then [.phases (.of request r)] else [] := by
  cases h : s.phases <;> simp [evaluationMetrics, Sink.takes, List.filter_cons, h]

/-- Nothing is delivered of a command that reports nothing. -/
lemma deliveriesTo_eq_nil {e : Entry} (h : ∀ s, e.metricsFor s = []) (sink : Option Sink) :
    e.deliveriesTo sink = [] := by
  cases sink with
  | none => rfl
  | some s => rw [Entry.deliveriesTo, h, List.map_nil]

/-- What is delivered reaches the receiver that is installed, if it has the name. -/
lemma filterMap_deliveriesTo (name : String) (e : Entry) (sink : Option Sink) :
    ((e.deliveriesTo sink).filterMap fun d => if d.sink = name then some d.metric else none) =
      match sink with
      | some s => if s.name = name then e.metricsFor s else []
      | none => [] := by
  cases sink with
  | none => rfl
  | some s =>
      rw [Entry.deliveriesTo, List.filterMap_map]
      by_cases hname : s.name = name <;> simp [hname]

/-- **A command tells the installed receiver what there is to tell**, and no other. -/
lemma told_of_step (h : es.step store c = some (es', reply)) :
    reply.deliveries = Entry.deliveriesTo ⟨c, reply⟩ es.sink := by
  cases c with
  | evaluate handle request =>
      obtain ⟨s, hs, h⟩ := Option.bind_eq_some_iff.1 h
      obtain ⟨rfl, rfl⟩ := Prod.mk.inj (Option.some.inj h)
      cases es.sink with
      | none => rfl
      | some sink => exact congrArg (List.map _) (filter_evaluationMetrics sink request _)
  | reload handle policies time =>
      obtain ⟨k, hk, h⟩ := Option.bind_eq_some_iff.1 h
      obtain ⟨rfl, rfl⟩ := Prod.mk.inj (Option.some.inj h)
      cases es.sink <;> rfl
  | clone handle | list handle principal | policies handle | version handle | hold handle | look n
  | authorizeHeld n request =>
      obtain ⟨s, hs, h⟩ := Option.bind_eq_some_iff.1 h
      obtain ⟨rfl, rfl⟩ := Prod.mk.inj (Option.some.inj h)
      exact (deliveriesTo_eq_nil (fun _ => rfl) es.sink).symm
  | create policies time | authorize policies request | install sink | uninstall =>
      obtain ⟨rfl, rfl⟩ := Prod.mk.inj (Option.some.inj h)
      exact (deliveriesTo_eq_nil (fun _ => rfl) es.sink).symm

/-- A command leaves the receiver that the log with it shows. -/
lemma sink_of_step {log : List Entry} (h : es.step store c = some (es', reply))
    (hsink : es.sink = installed log) : es'.sink = installed (⟨c, reply⟩ :: log) := by
  cases c with
  | clone handle | reload handle policies time | evaluate handle request | list handle principal
  | policies handle | version handle | hold handle | look n | authorizeHeld n request =>
      obtain ⟨s, hs, h⟩ := Option.bind_eq_some_iff.1 h
      obtain ⟨rfl, rfl⟩ := Prod.mk.inj (Option.some.inj h)
      exact hsink
  | create policies time | authorize policies request =>
      obtain ⟨rfl, rfl⟩ := Prod.mk.inj (Option.some.inj h)
      exact hsink
  | install sink | uninstall =>
      obtain ⟨rfl, rfl⟩ := Prod.mk.inj (Option.some.inj h)
      rfl

/-- An evaluation is answered by a response, whose reasons ascend. -/
lemma response_of_step {handle : Nat} {request : Request}
    (h : es.step store (.evaluate handle request) = some (es', reply)) :
    ∃ r, reply.answer = .response r ∧ Ascending.IsAscending r.reasons := by
  obtain ⟨s, hs, h⟩ := Option.bind_eq_some_iff.1 h
  obtain ⟨rfl, rfl⟩ := Prod.mk.inj (Option.some.inj h)
  exact ⟨_, rfl, isAscending_reasons_ofJudged⟩

end Step

/-! ### Histories -/

/-- Metrics are neither lost nor told twice, and they are told to the receiver that is
installed. -/
structure MetricsExact (log : List Entry) : Prop where
  /-- A command tells the receiver that is installed what there is to tell, and no other. -/
  told (later : List Entry) (e : Entry) (earlier : List Entry) : log = later ++ e :: earlier →
    e.reply.deliveries = e.deliveriesTo (installed earlier)
  /-- So the receivers of a name are told what was to be reported while one of them was
  installed. -/
  received_eq (name : String) : received name log = reportedWhile name log
  /-- What an evaluation reports is about the response that it gives. -/
  response (handle : Nat) (request : Request) (reply : Reply) :
    ⟨.evaluate handle request, reply⟩ ∈ log →
    ∃ r, reply.answer = .response r ∧ Ascending.IsAscending r.reasons

namespace Ran

variable {log : List Entry} {es : Engines}

/-- Engines hold the receiver that the log shows. -/
lemma sink_eq (h : Ran log es) : es.sink = installed log := by
  induction h with
  | start => rfl
  | step _ _ hs ih => exact sink_of_step hs ih

/-- Every command of a history tells what there is to tell. -/
lemma told {later earlier : List Entry} {e : Entry} (h : Ran (later ++ e :: earlier) es) :
    e.reply.deliveries = e.deliveriesTo (installed earlier) := by
  obtain ⟨_, _, _, h₀, hs, -⟩ := h.exists_step_of_append
  rw [told_of_step hs, h₀.sink_eq]

/-- A receiver gets what was to be reported while it was installed: one more command adds
what it tells to both sides. -/
lemma received_eq (h : Ran log es) (name : String) :
    received name log = reportedWhile name log := by
  induction h with
  | start => rfl
  | @step log es es' c reply store h hs ih =>
      have hreceived : received name (⟨c, reply⟩ :: log) =
          received name log ++ reply.deliveries.filterMap fun d =>
            if d.sink = name then some d.metric else none := by
        simp [received]
      rw [hreceived, told_of_step hs, h.sink_eq, filterMap_deliveriesTo, ih, reportedWhile]

/-- **Metrics are exact after every history.** -/
lemma metricsExact (h : Ran log es) : MetricsExact log where
  told later e earlier hlog := by
    subst hlog
    exact h.told
  received_eq := h.received_eq
  response handle request reply hmem := by
    obtain ⟨later, earlier, rfl⟩ := List.append_of_mem hmem
    obtain ⟨_, _, _, _, hs, -⟩ := h.exists_step_of_append
    exact response_of_step hs

end Ran

/-! ### Silence -/

/-- The command is about the receiver and nothing else. -/
def Command.setsReceiver : Command → Bool
  | .install _ | .uninstall => true
  | _ => false

/-- The engines without their receiver. -/
def Engines.unheard (es : Engines) : Engines :=
  { es with sink := none }

/-- The reply without what it delivers. -/
def Reply.unheard (r : Reply) : Reply :=
  { r with deliveries := [] }

/-- The log without the commands about receivers, and without deliveries. -/
def unheard (log : List Entry) : List Entry :=
  (log.filter fun e => !e.command.setsReceiver).map fun e => ⟨e.command, e.reply.unheard⟩

/-- Without a receiver a command does the same, in silence. -/
lemma step_unheard {c : Command} (hc : c.setsReceiver = false) (store : Store) (es : Engines) :
    es.unheard.step store c =
      (es.step store c).map fun (es', reply) => (es'.unheard, reply.unheard) := by
  cases c with
  | install _ | uninstall => cases hc
  | create _ _ | authorize _ _ => rfl
  | clone handle | reload handle _ _ =>
      show Option.bind es.handles[handle]? _ = Option.map _ (Option.bind es.handles[handle]? _)
      cases es.handles[handle]? <;> rfl
  | evaluate handle _ | list handle _ | policies handle | version handle | hold handle =>
      show Option.bind (es.current? handle) _ = Option.map _ (Option.bind (es.current? handle) _)
      cases es.current? handle <;> rfl
  | look n | authorizeHeld n _ =>
      show Option.bind es.held[n]? _ = Option.map _ (Option.bind es.held[n]? _)
      cases es.held[n]? <;> rfl

/-- A command about the receiver leaves everything else. -/
lemma unheard_of_step {c : Command} (hc : c.setsReceiver = true) {store : Store}
    {es es' : Engines} {reply : Reply} (h : es.step store c = some (es', reply)) :
    es'.unheard = es.unheard := by
  cases c with
  | install _ | uninstall =>
      obtain ⟨rfl, rfl⟩ := Prod.mk.inj (Option.some.inj h)
      rfl
  | _ => cases hc

/-- **Without the commands about receivers the same history comes about**, in silence. -/
lemma play_filter (calls : List (Store × Command)) :
    play (calls.filter fun call => !call.2.setsReceiver) =
      ((play calls).1.unheard, unheard (play calls).2) := by
  induction calls with
  | nil => rfl
  | cons call calls ih =>
      obtain ⟨store, c⟩ := call
      cases hc : c.setsReceiver with
      | true =>
          rw [List.filter_cons_of_neg (by simp [hc]), ih, play]
          split
          · next hs => simp [unheard_of_step hc hs, unheard, hc]
          · rfl
      | false =>
          rw [List.filter_cons_of_pos (by simp [hc]), play, ih, step_unheard hc, play]
          cases hs : (play calls).1.step store c with
          | none => rfl
          | some next => simp [unheard, hc]

/-- **Metrics are exact after all calls, and no reply depends on receivers.** Every call is
done and in the log, unless it names what was not given out before. Each command tells the
receiver that is installed, and no other, what there is to tell; so a receiver is told, over
a whole history and in order, what was to be reported while it was installed. If the
commands about receivers are left out, all others have the same replies, but for
deliveries. -/
theorem metrics_exact (calls : List (Store × Command)) :
    IsLogOf calls (play calls).2 ∧ MetricsExact (play calls).2 ∧
      play (calls.filter fun call => !call.2.setsReceiver) =
        ((play calls).1.unheard, unheard (play calls).2) :=
  ⟨isLogOf_play calls, (ran_play calls).metricsExact, play_filter calls⟩

/-- An engine is asked without a receiver, then with one, which sees a reload and is replaced
by one that takes no phases, and again without one. -/
def handovers (p q : PolicySet) : List Command :=
  [.create p "dawn", .evaluate 0 deletion, .install ⟨"first", true⟩, .clone 0,
    .evaluate 0 deletion, .create q "dusk", .authorize p deletion, .reload 0 q "noon",
    .install ⟨"second", false⟩, .evaluate 1 deletion, .uninstall, .evaluate 0 deletion]

/-- The first receiver is told of the permission, with its phases, and of the reload; the
second one of the denial by the new policies, which the clone gives too. -/
theorem metrics_exact_handovers :
    let doors : PolicySet := ⟨[openDoor, brokenPermit], .ofList [("open", 0), ("broken", 1)]⟩
    let closed : PolicySet := ⟨[closedAction], .ofList [("closed", 0)]⟩
    let calls := (handovers doors closed).reverse.map (Entities.toStore ⟨[]⟩, ·)
    let permission : EvaluationStats :=
      ⟨true, "User::\"carol\"", "Action::\"delete\"", ["open"], 1⟩
    let denial : EvaluationStats :=
      ⟨false, "User::\"carol\"", "Action::\"delete\"", ["closed"], 0⟩
    IsLogOf calls (play calls).2 ∧
      (play calls).2.map (·.command) = calls.map (·.2) ∧
      received "first" (play calls).2 =
        [.evaluation permission, .phases permission, .reload 1 closed.contentHash] ∧
      received "second" (play calls).2 = [.evaluation denial] := by
  intro doors closed calls permission denial
  obtain ⟨hlog, hexact, -⟩ := metrics_exact calls
  have hrun := play_run (Entities.toStore ⟨[]⟩) (handovers doors closed) []
  rw [List.append_nil] at hrun
  have hwho : deletion.principal.toText = "User::\"carol\"" := by decide +kernel
  have hwhat : deletion.action.toText = "Action::\"delete\"" := by decide +kernel
  refine ⟨hlog, ?_, ?_, ?_⟩
  · rw [hrun]
    rfl
  · rw [hexact.received_eq, hrun]
    simp only [permission, ← hwho, ← hwhat]
    rfl
  · rw [hexact.received_eq, hrun]
    simp only [denial, ← hwho, ← hwhat]
    rfl

end AccessPolicy
