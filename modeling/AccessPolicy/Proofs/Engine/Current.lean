/-
What engines answer, by what was done before.

* `Engines.does`, `AnswersFrom`, `AnswersHeld`: what a handle, and a snapshot that was held
  back, answer to all that can be asked of them;
* `Change`: what a command changes, with one case for each kind of change
  (`change_of_step`);
* `Ran.shares_iff`, `Ran.lastLoad_of_cell`: two handles share an engine exactly if they have
  one cell, and each cell holds what was loaded last through a handle of this cell;
* `Ran.isPossible_iff`, `isLogOf_play`: a command is done exactly if the log shows what it
  names, so that no call is lost that could be done;
* `Ran.current_of_step`: only a reload of the same engine changes what a handle answers from;
* `FollowsHistory`: what can be done is done, every handle answers from what is in force for
  it, and every snapshot that was held back stays as it was; `followsHistory_of_ran` says
  that this holds after every history.

The facts about cells are kept by one command, because a command touches one cell at most
and never moves a handle to another cell.
-/
import AccessPolicy.Proofs.Engine.History
import AccessPolicy.Proofs.Policy.Additions

namespace AccessPolicy

/-! ### What is answered -/

namespace Engines

/-- The engines after a command, and its answer. -/
def does (store : Store) (es : Engines) (c : Command) : Option (Engines × Answer) :=
  (es.step store c).map fun (es', reply) => (es', reply.answer)

lemma does_eq_some_iff {store : Store} {es es' : Engines} {c : Command} {a : Answer} :
    es.does store c = some (es', a) ↔
      ∃ reply, es.step store c = some (es', reply) ∧ reply.answer = a := by
  rw [does, Option.map_eq_some_iff]
  simp only [Prod.exists, Prod.mk.injEq]
  constructor
  · rintro ⟨_, reply, hs, rfl, ha⟩
    exact ⟨reply, hs, ha⟩
  · rintro ⟨reply, hs, ha⟩
    exact ⟨es', reply, hs, rfl, ha⟩

/-- What only has to look something up is done exactly if that is there. -/
lemma exists_bind_iff {α : Type} {found : Option α} {f : α → Engines × Reply} :
    (∃ es reply, found.bind (fun x => some (f x)) = some (es, reply)) ↔
      ∃ x, found = some x := by
  cases found with
  | none => simp
  | some x => exact iff_of_true ⟨_, _, rfl⟩ ⟨x, rfl⟩

/-- A handle answers everything from one snapshot, over every store. -/
structure AnswersFrom (es : Engines) (h : Nat) (s : Snapshot) : Prop where
  /-- The present snapshot is this one. -/
  snapshot : es.current? h = some s
  evaluate : ∀ store request,
    es.does store (.evaluate h request) = some (es, .response (authorize request s.policies store))
  list : ∀ store principal,
    es.does store (.list h principal) = some (es, .listing (s.policies.about store principal))
  policies : ∀ store, es.does store (.policies h) = some (es, .policies s.policies.policies)
  version : ∀ store, es.does store (.version h) = some (es, .version s.version)

/-- A number stands for a snapshot that was held back. -/
structure AnswersHeld (es : Engines) (n : Nat) (s : Snapshot) : Prop where
  snapshot : es.held[n]? = some s
  look : ∀ store, es.does store (.look n) = some (es, .snapshot s)
  authorize : ∀ store request, es.does store (.authorizeHeld n request) =
    some (es, .response (authorize request s.policies store))

/-- A handle answers everything from its present snapshot. -/
lemma answersFrom_of_current {es : Engines} {h : Nat} {s : Snapshot}
    (hs : es.current? h = some s) : es.AnswersFrom h s where
  snapshot := hs
  evaluate store request := by simp [does, step, hs]
  list store principal := by simp [does, step, hs]
  policies store := by simp [does, step, hs]
  version store := by simp [does, step, hs]

/-- A number stands for what was held back under it. -/
lemma answersHeld_of_held {es : Engines} {n : Nat} {s : Snapshot} (hs : es.held[n]? = some s) :
    es.AnswersHeld n s where
  snapshot := hs
  look store := by simp [does, step, hs]
  authorize store request := by simp [does, step, hs]

/-- The present snapshot behind a handle is that of its cell. -/
lemma current?_eq_some_iff {es : Engines} {h : Nat} {s : Snapshot} :
    es.current? h = some s ↔ ∃ k : Nat, es.handles[h]? = some k ∧ es.cells[k]? = some s :=
  Option.bind_eq_some_iff

end Engines

/-! ### What a command changes -/

/-- What a command with an answer changes. -/
inductive Change (es es' : Engines) (a : Answer) : Command → Prop
  | create {policies : PolicySet} {time : String}
      (hcells : es'.cells = es.cells ++ [.load policies time])
      (hhandles : es'.handles = es.handles ++ [es.cells.length]) (hheld : es'.held = es.held)
      (ha : a = .handle es.handles.length) : Change es es' a (.create policies time)
  | clone {h k : Nat} (hk : es.handles[h]? = some k) (hcells : es'.cells = es.cells)
      (hhandles : es'.handles = es.handles ++ [k]) (hheld : es'.held = es.held)
      (ha : a = .handle es.handles.length) : Change es es' a (.clone h)
  | reload {h k : Nat} {policies : PolicySet} {time : String} (hk : es.handles[h]? = some k)
      (hcells : es'.cells = es.cells.set k (.load policies time))
      (hhandles : es'.handles = es.handles) (hheld : es'.held = es.held)
      (ha : a = .snapshot (.load policies time)) : Change es es' a (.reload h policies time)
  | hold {h : Nat} {s : Snapshot} (hs : es.current? h = some s) (hcells : es'.cells = es.cells)
      (hhandles : es'.handles = es.handles) (hheld : es'.held = es.held ++ [s])
      (ha : a = .held es.held.length) : Change es es' a (.hold h)
  | ask {c : Command} (hcreate : ∀ policies time, c ≠ .create policies time)
      (hclone : ∀ h, c ≠ .clone h) (hreload : ∀ h policies time, c ≠ .reload h policies time)
      (hhold : ∀ h, c ≠ .hold h) (hcells : es'.cells = es.cells)
      (hhandles : es'.handles = es.handles) (hheld : es'.held = es.held)
      (hnumber : ∀ n, a ≠ .handle n ∧ a ≠ .held n)
      (hsnapshot : ∀ s, a = .snapshot s → s ∈ es.held) :
      Change es es' a c

/-- **Every command makes one of these changes.** -/
lemma change_of_step {store : Store} {es es' : Engines} {c : Command} {reply : Reply}
    (h : es.step store c = some (es', reply)) : Change es es' reply.answer c := by
  cases c with
  | create policies time =>
      obtain ⟨rfl, rfl⟩ := Prod.mk.inj (Option.some.inj h)
      exact .create rfl rfl rfl rfl
  | clone handle =>
      obtain ⟨k, hk, h⟩ := Option.bind_eq_some_iff.1 h
      obtain ⟨rfl, rfl⟩ := Prod.mk.inj (Option.some.inj h)
      exact .clone hk rfl rfl rfl rfl
  | reload handle policies time =>
      obtain ⟨k, hk, h⟩ := Option.bind_eq_some_iff.1 h
      obtain ⟨rfl, rfl⟩ := Prod.mk.inj (Option.some.inj h)
      exact .reload hk rfl rfl rfl rfl
  | hold handle =>
      obtain ⟨s, hs, h⟩ := Option.bind_eq_some_iff.1 h
      obtain ⟨rfl, rfl⟩ := Prod.mk.inj (Option.some.inj h)
      exact .hold hs rfl rfl rfl rfl
  | look n =>
      obtain ⟨s, hs, h⟩ := Option.bind_eq_some_iff.1 h
      obtain ⟨rfl, rfl⟩ := Prod.mk.inj (Option.some.inj h)
      refine .ask nofun nofun nofun nofun rfl rfl rfl (fun _ => ⟨nofun, nofun⟩) ?_
      rintro t ⟨⟩
      exact List.mem_of_getElem? hs
  | evaluate handle request | list handle principal | policies handle | version handle
  | authorizeHeld n request =>
      obtain ⟨s, hs, h⟩ := Option.bind_eq_some_iff.1 h
      obtain ⟨rfl, rfl⟩ := Prod.mk.inj (Option.some.inj h)
      exact .ask nofun nofun nofun nofun rfl rfl rfl (fun _ => ⟨nofun, nofun⟩) nofun
  | authorize policies request | install sink | uninstall =>
      obtain ⟨rfl, rfl⟩ := Prod.mk.inj (Option.some.inj h)
      exact .ask nofun nofun nofun nofun rfl rfl rfl (fun _ => ⟨nofun, nofun⟩) nofun

namespace Change

variable {es es' : Engines} {a : Answer} {c : Command}

/-- A command makes one handle and tells its number, or it makes none. -/
lemma handles_cases (h : Change es es' a c) :
    (∃ k, es'.handles = es.handles ++ [k] ∧ a = .handle es.handles.length) ∨
      es'.handles = es.handles ∧ ∀ n, a ≠ .handle n := by
  cases h with
  | create _ hhandles _ ha => exact .inl ⟨_, hhandles, ha⟩
  | clone _ _ hhandles _ ha => exact .inl ⟨_, hhandles, ha⟩
  | reload _ _ hhandles _ ha => exact .inr ⟨hhandles, ha ▸ nofun⟩
  | hold _ _ hhandles _ ha => exact .inr ⟨hhandles, ha ▸ nofun⟩
  | ask _ _ _ _ _ hhandles _ hnumber _ => exact .inr ⟨hhandles, fun n => (hnumber n).1⟩

/-- A command holds one snapshot back and tells its number, or it holds none back. -/
lemma held_cases (h : Change es es' a c) :
    (∃ s, es'.held = es.held ++ [s] ∧ a = .held es.held.length) ∨
      es'.held = es.held ∧ ∀ n, a ≠ .held n := by
  cases h with
  | hold _ _ _ hheld ha => exact .inl ⟨_, hheld, ha⟩
  | create _ _ hheld ha | clone _ _ _ hheld ha | reload _ _ _ hheld ha =>
      exact .inr ⟨hheld, ha ▸ nofun⟩
  | ask _ _ _ _ _ _ hheld hnumber _ => exact .inr ⟨hheld, fun n => (hnumber n).2⟩

/-- A handle keeps its cell. -/
lemma handles_of_some (h : Change es es' a c) {n k : Nat} (hn : es.handles[n]? = some k) :
    es'.handles[n]? = some k := by
  obtain ⟨j, hj, -⟩ | ⟨heq, -⟩ := h.handles_cases
  · rw [hj]
    exact getElem?_concat_eq_some_iff.2 (.inl hn)
  · rw [heq, hn]

/-- A handle that was there has the cell that it had. -/
lemma handles_iff (h : Change es es' a c) {n k : Nat} (hn : n < es.handles.length) :
    es'.handles[n]? = some k ↔ es.handles[n]? = some k := by
  obtain ⟨j, hj⟩ : ∃ j, es.handles[n]? = some j := ⟨_, List.getElem?_eq_getElem hn⟩
  rw [h.handles_of_some hj, hj]

/-- A snapshot that was held back keeps its number. -/
lemma held_of_some (h : Change es es' a c) {n : Nat} {s : Snapshot}
    (hn : es.held[n]? = some s) : es'.held[n]? = some s := by
  obtain ⟨t, ht, -⟩ | ⟨heq, -⟩ := h.held_cases
  · rw [ht]
    exact getElem?_concat_eq_some_iff.2 (.inl hn)
  · rw [heq, hn]

end Change

/-! ### Handles and cells -/

/-- A snapshot that is given to a handle has the version of its policies. -/
lemma Loads.hash {e : Entry} {n : Nat} {s : Snapshot} (hl : Loads e n s) :
    s.version.hash = s.policies.contentHash := by
  cases hl <;> rfl

/-- What is in force has the version of its policies. -/
lemma InForce.hash {log : List Entry} {n : Nat} {s : Snapshot} (h : InForce log n s) :
    s.version.hash = s.policies.contentHash := by
  obtain ⟨_, _, _, hl, _⟩ := h.exists_loads
  exact hl.hash

namespace Ran

variable {log : List Entry} {es : Engines}

/-- Every handle has a cell. -/
lemma cell_lt (h : Ran log es) {n k : Nat} (hn : es.handles[n]? = some k) :
    k < es.cells.length := by
  induction h generalizing n k with
  | start => cases hn
  | step store _ hs ih =>
      cases change_of_step hs with
      | create hcells hhandles _ _ =>
          rw [hcells, List.length_append, List.length_singleton]
          obtain hn | ⟨-, rfl⟩ := getElem?_concat_eq_some_iff.1 (hhandles ▸ hn)
          · exact Nat.lt_succ_of_lt (ih hn)
          · exact Nat.lt_succ_self _
      | clone hk hcells hhandles _ _ =>
          rw [hcells]
          obtain hn | ⟨-, rfl⟩ := getElem?_concat_eq_some_iff.1 (hhandles ▸ hn)
          · exact ih hn
          · exact ih hk
      | reload _ hcells hhandles _ _ =>
          rw [hcells, List.length_set]
          exact ih (hhandles ▸ hn)
      | hold _ hcells hhandles _ _ | ask _ _ _ _ hcells hhandles _ _ _ =>
          rw [hcells]
          exact ih (hhandles ▸ hn)

/-- The handles are those that the log shows to be made. -/
lemma isMade_iff (h : Ran log es) (n : Nat) : IsMade log n ↔ n < es.handles.length := by
  induction h with
  | start => simp [IsMade, Engines.empty]
  | step store _ hs ih =>
      rw [isMade_cons, ih]
      obtain ⟨k, hk, ha⟩ | ⟨heq, ha⟩ := (change_of_step hs).handles_cases
      · rw [hk, ha, List.length_append, List.length_singleton, Answer.handle.injEq]
        omega
      · simp only [heq, ha n, false_or]

/-- The snapshots that were held back are those whose numbers the log shows. -/
lemma isHeld_iff (h : Ran log es) (n : Nat) : IsHeld log n ↔ n < es.held.length := by
  induction h with
  | start => simp [IsHeld, Engines.empty]
  | step store _ hs ih =>
      rw [isHeld_cons, ih]
      obtain ⟨s, hheld, ha⟩ | ⟨heq, ha⟩ := (change_of_step hs).held_cases
      · rw [hheld, ha, List.length_append, List.length_singleton, Answer.held.injEq]
        omega
      · simp only [heq, ha n, false_or]

/-- Policies are given to handles that were made. -/
lemma lt_of_loads (h : Ran log es) {e : Entry} (he : e ∈ log) {n : Nat} {s : Snapshot}
    (hl : Loads e n s) : n < es.handles.length := by
  induction h with
  | start => cases he
  | step store h hs ih =>
      rw [← isMade_iff (h.step store hs), isMade_cons, h.isMade_iff]
      obtain rfl | he := List.mem_cons.1 he
      · cases hl with
        | create ha => exact .inl ha
        | reload =>
            cases change_of_step hs with
            | reload hk => exact .inr (List.getElem?_eq_some_iff.1 hk).1
            | ask _ _ hreload => exact absurd rfl (hreload _ _ _)
      · exact .inr (ih he)

/-- A clone has the cell of its original. -/
lemma handles_of_clones (h : Ran log es) {n m : Nat} (hc : Clones log n m) :
    ∃ k, es.handles[n]? = some k ∧ es.handles[m]? = some k := by
  obtain ⟨reply, hm, ha⟩ := hc
  induction h with
  | start => cases hm
  | step store _ hs ih =>
      obtain heq | hm := List.mem_cons.1 hm
      · obtain ⟨rfl, rfl⟩ := Entry.mk.inj heq
        cases change_of_step hs with
        | clone hk _ hhandles _ ha' =>
            obtain rfl := Answer.handle.inj (ha.symm.trans ha')
            rw [hhandles]
            exact ⟨_, List.getElem?_concat_length, getElem?_concat_eq_some_iff.2 (.inl hk)⟩
        | ask _ hclone => exact absurd rfl (hclone _)
      · obtain ⟨k, hn, hk⟩ := ih hm
        have hch := change_of_step hs
        exact ⟨k, hch.handles_of_some hn, hch.handles_of_some hk⟩

/-- Handles with one cell share an engine: a new handle gets a new cell, or that of the handle
that it is cloned from. -/
lemma shares_of_handles (h : Ran log es) {n m k : Nat} (hn : es.handles[n]? = some k)
    (hm : es.handles[m]? = some k) : Shares log n m := by
  induction h generalizing n m k with
  | start => cases hn
  | @step log es es' c reply store h hs ih =>
      cases change_of_step hs with
      | create hcells hhandles _ ha =>
          rw [hhandles, getElem?_concat_eq_some_iff] at hn hm
          obtain hn | ⟨rfl, rfl⟩ := hn <;> obtain hm | ⟨rfl, hm⟩ := hm
          · exact (ih hn hm).cons _
          · exact absurd (h.cell_lt hn) (by omega)
          · exact absurd (h.cell_lt hm) (by omega)
          · exact .refl _
      | @clone o j hk hcells hhandles _ ha =>
          have ho : Shares (⟨.clone o, reply⟩ :: log) es.handles.length o :=
            .rel _ _ ⟨reply, List.mem_cons_self, ha⟩
          rw [hhandles, getElem?_concat_eq_some_iff] at hn hm
          obtain hn | ⟨rfl, rfl⟩ := hn <;> obtain hm | ⟨rfl, hm⟩ := hm
          · exact (ih hn hm).cons _
          · exact ((ih hn (hm ▸ hk)).cons _).trans _ _ _ (ho.symm _ _)
          · exact ho.trans _ _ _ ((ih hk hm).cons _)
          · exact .refl _
      | reload _ _ hhandles _ _ | hold _ _ hhandles _ _ | ask _ _ _ _ _ hhandles _ _ _ =>
          rw [hhandles] at hn hm
          exact (ih hn hm).cons _

/-- **Two handles share an engine exactly if they have one cell.** -/
lemma shares_iff (h : Ran log es) {n k : Nat} (hn : es.handles[n]? = some k) (m : Nat) :
    Shares log n m ↔ es.handles[m]? = some k := by
  refine ⟨fun hs => ?_, h.shares_of_handles hn⟩
  suffices heq : es.handles[n]? = es.handles[m]? from heq ▸ hn
  clear hn
  induction hs with
  | rel _ _ hc =>
      obtain ⟨k, hn, hm⟩ := h.handles_of_clones hc
      rw [hn, hm]
  | refl => rfl
  | symm _ _ _ ih => exact ih.symm
  | trans _ _ _ _ _ ih ih' => exact ih.trans ih'

/-- **A cell holds what was loaded last through its handles.** -/
lemma lastLoad_of_cell (h : Ran log es) {k : Nat} {s : Snapshot} (hk : es.cells[k]? = some s) :
    LastLoad (es.handles[·]? = some k) log s := by
  induction h generalizing k s with
  | start => cases hk
  | @step log es es' c reply store h hs ih =>
      have hch := change_of_step hs
      -- Earlier loads went through handles that were there, and that keep their cells.
      have hbefore : es.cells[k]? = some s → LastLoad (es'.handles[·]? = some k) log s :=
        fun hk => (ih hk).congr fun e he n t hl => (hch.handles_iff (h.lt_of_loads he hl)).symm
      cases hch with
      | create hcells hhandles _ ha =>
          rw [hcells, getElem?_concat_eq_some_iff] at hk
          obtain hk | ⟨rfl, rfl⟩ := hk
          · refine .before (hbefore hk) ?_
            rintro n t ⟨ha'⟩ hn
            obtain rfl := Answer.handle.inj (ha'.symm.trans ha)
            rw [hhandles, List.getElem?_concat_length] at hn
            obtain rfl := Option.some.inj hn
            exact absurd (List.getElem?_eq_some_iff.1 hk).1 (Nat.lt_irrefl _)
          · exact .now (.create ha) (hhandles ▸ List.getElem?_concat_length)
      | clone _ hcells _ _ _ => exact .before (hbefore (hcells ▸ hk)) nofun
      | @reload n j policies time hj hcells hhandles _ _ =>
          rw [hcells, List.getElem?_set] at hk
          split at hk
          · rename_i hjk
            obtain ⟨-, ⟨⟩⟩ := Option.ite_none_right_eq_some.1 hk
            exact .now .reload (by rw [hhandles, hj, hjk])
          · rename_i hjk
            refine .before (hbefore hk) ?_
            rintro m t ⟨⟩ hm
            rw [hhandles, hj] at hm
            exact hjk (Option.some.inj hm)
      | hold _ hcells _ _ _ => exact .before (hbefore (hcells ▸ hk)) nofun
      | ask hcreate _ hreload _ hcells _ _ _ _ =>
          refine .before (hbefore (hcells ▸ hk)) ?_
          rintro n t (_ | _)
          · exact absurd rfl (hcreate _ _)
          · exact absurd rfl (hreload _ _ _)

/-- Behind a handle is what is in force for it. -/
lemma inForce_of_current (h : Ran log es) {n : Nat} {s : Snapshot}
    (hs : es.current? n = some s) : InForce log n s := by
  obtain ⟨k, hn, hk⟩ := Engines.current?_eq_some_iff.1 hs
  exact (h.lastLoad_of_cell hk).congr fun _ _ m _ _ => (h.shares_iff hn m).symm

/-- Only sets that were given come into force: after a history that gives sets made by
additions, such a set stands behind every handle. -/
lemma built_of_current (h : Ran log es) (hb : ∀ e ∈ log, ∀ n s, Loads e n s → s.policies.Built)
    {n : Nat} {s : Snapshot} (hs : es.current? n = some s) : s.policies.Built := by
  obtain ⟨e, he, m, hl, -⟩ := (h.inForce_of_current hs).exists_loads
  exact hb e he m s hl

/-- Every handle that was made has a present snapshot, and no other. -/
lemma exists_current_iff (h : Ran log es) {n : Nat} :
    (∃ s, es.current? n = some s) ↔ IsMade log n := by
  rw [h.isMade_iff]
  constructor
  · rintro ⟨s, hs⟩
    obtain ⟨k, hk, -⟩ := Engines.current?_eq_some_iff.1 hs
    exact (List.getElem?_eq_some_iff.1 hk).1
  · intro hlt
    have hk := List.getElem?_eq_getElem hlt
    exact ⟨_, Engines.current?_eq_some_iff.2
      ⟨_, hk, List.getElem?_eq_getElem (h.cell_lt hk)⟩⟩

/-- **Only a reload through a handle of the same engine changes the present snapshot.** -/
lemma current_of_step (h : Ran log es) {store : Store} {c : Command} {es' : Engines}
    {reply : Reply} (hs : es.step store c = some (es', reply)) {n : Nat} {s : Snapshot}
    (hn : es.current? n = some s)
    (hc : ∀ m policies time, c = .reload m policies time → ¬ Shares log n m) :
    es'.current? n = some s := by
  obtain ⟨k, hk, hcell⟩ := Engines.current?_eq_some_iff.1 hn
  have hch := change_of_step hs
  refine Engines.current?_eq_some_iff.2 ⟨k, hch.handles_of_some hk, ?_⟩
  cases hch with
  | create hcells _ _ _ =>
      rw [hcells]
      exact getElem?_concat_eq_some_iff.2 (.inl hcell)
  | @reload m j _ _ hj hcells _ _ _ =>
      have hjk : j ≠ k := by
        rintro rfl
        exact hc _ _ _ rfl ((h.shares_iff hk m).2 hj)
      rw [hcells, List.getElem?_set_ne hjk, hcell]
  | clone _ hcells _ _ _ | hold _ hcells _ _ _ | ask _ _ _ _ hcells _ _ _ _ =>
      rw [hcells, hcell]

/-! ### What can be done -/

/-- **A command is done exactly if the log shows what it names**: for only looking that up
can fail. -/
lemma isPossible_iff (h : Ran log es) (store : Store) (c : Command) :
    c.IsPossible log ↔ ∃ es' reply, es.step store c = some (es', reply) := by
  have hcell : ∀ n, IsMade log n ↔ ∃ k, es.handles[n]? = some k := by
    intro n
    rw [h.isMade_iff, ← Option.isSome_iff_exists, isSome_getElem?]
  have hheld : ∀ n, IsHeld log n ↔ ∃ s, es.held[n]? = some s := by
    intro n
    rw [h.isHeld_iff, ← Option.isSome_iff_exists, isSome_getElem?]
  cases c with
  | create _ _ | authorize _ _ | install _ | uninstall =>
      exact ⟨fun _ => ⟨_, _, rfl⟩, fun _ => trivial⟩
  | clone handle | reload handle _ _ => exact (hcell handle).trans Engines.exists_bind_iff.symm
  | evaluate handle _ | list handle _ | policies handle | version handle | hold handle =>
      exact h.exists_current_iff.symm.trans Engines.exists_bind_iff.symm
  | look n | authorizeHeld n _ => exact (hheld n).trans Engines.exists_bind_iff.symm

/-- **What a command gives out was not given out before.** -/
lemma givesNew_of_step (h : Ran log es) {store : Store} {c : Command} {es' : Engines}
    {reply : Reply} (hs : es.step store c = some (es', reply)) :
    c.GivesNew log reply.answer := by
  cases change_of_step hs with
  | create _ _ _ ha | clone _ _ _ _ ha =>
      exact ⟨_, ha, fun hm => Nat.lt_irrefl _ ((h.isMade_iff _).1 hm)⟩
  | hold _ _ _ _ ha => exact ⟨_, ha, fun hn => Nat.lt_irrefl _ ((h.isHeld_iff _).1 hn)⟩
  | reload => trivial
  | ask hcreate hclone _ hhold =>
      cases c with
      | create => exact absurd rfl (hcreate _ _)
      | clone => exact absurd rfl (hclone _)
      | hold => exact absurd rfl (hhold _)
      | _ => trivial

/-! ### Snapshots that were held back -/

/-- An entry of a history was done by engines, and what they held back then is held back
still. -/
lemma exists_step_of_append {later earlier : List Entry} {c : Command} {reply : Reply}
    (h : Ran (later ++ ⟨c, reply⟩ :: earlier) es) :
    ∃ store es₀ es₁, Ran earlier es₀ ∧ es₀.step store c = some (es₁, reply) ∧
      ∀ (n : Nat) (s : Snapshot), es₁.held[n]? = some s → es.held[n]? = some s := by
  induction later generalizing es with
  | nil =>
      cases h with
      | step store h hs => exact ⟨store, _, es, h, hs, fun _ _ hn => hn⟩
  | cons _ later ih =>
      cases h with
      | step _ h hs =>
          obtain ⟨store, es₀, es₁, h₀, hs₀, hheld⟩ := ih h
          exact ⟨store, es₀, es₁, h₀, hs₀, fun n s hn =>
            (change_of_step hs).held_of_some (hheld n s hn)⟩

/-- A snapshot that was held back has the version of its policies. -/
lemma hash_of_mem_held (h : Ran log es) {s : Snapshot} (hs : s ∈ es.held) :
    s.version.hash = s.policies.contentHash := by
  induction h with
  | start => cases hs
  | step store h hst ih =>
      cases change_of_step hst with
      | hold hcur _ _ hheld _ =>
          rw [hheld, List.mem_append, List.mem_singleton] at hs
          obtain hs | rfl := hs
          · exact ih hs
          · exact (h.inForce_of_current hcur).hash
      | create _ _ hheld _ | clone _ _ _ hheld _ | reload _ _ _ hheld _
      | ask _ _ _ _ _ _ hheld _ _ => exact ih (hheld ▸ hs)

/-- A snapshot that was an answer has the version of its policies. -/
lemma hash_of_answer (h : Ran log es) {e : Entry} (he : e ∈ log) {s : Snapshot}
    (hs : e.reply.answer = .snapshot s) : s.version.hash = s.policies.contentHash := by
  obtain ⟨c, reply⟩ := e
  obtain ⟨later, earlier, rfl⟩ := List.append_of_mem he
  obtain ⟨store, es₀, es₁, h₀, hst, -⟩ := h.exists_step_of_append
  cases change_of_step hst with
  | reload _ _ _ _ ha =>
      obtain rfl := Answer.snapshot.inj (hs.symm.trans ha)
      rfl
  | ask _ _ _ _ _ _ _ _ hsnapshot => exact h₀.hash_of_mem_held (hsnapshot s hs)
  | create _ _ _ ha | clone _ _ _ _ ha | hold _ _ _ _ ha => cases hs.symm.trans ha

end Ran

/-- **No call is lost that could be done**, and no other is in the log. -/
lemma isLogOf_play (calls : List (Store × Command)) : IsLogOf calls (play calls).2 := by
  induction calls with
  | nil => exact .nil
  | cons call calls ih =>
      have hran := ran_play calls
      have hiff := hran.isPossible_iff call.1 call.2
      rw [play]
      cases hs : (play calls).1.step call.1 call.2 with
      | some next => exact .done ih (hiff.2 ⟨_, _, hs⟩) (hran.givesNew_of_step hs)
      | none =>
          refine .impossible ih fun hc => ?_
          obtain ⟨_, _, hdone⟩ := hiff.1 hc
          cases hs.symm.trans hdone

/-! ### Histories decide the answers -/

/-- Engines do what their history says. -/
structure FollowsHistory (log : List Entry) (es : Engines) : Prop where
  /-- A command is done exactly if the log shows the handle, or the held snapshot, that it
  names. -/
  performed (store : Store) (c : Command) :
    c.IsPossible log ↔ ∃ es' a, es.does store c = some (es', a)
  /-- The handle of an engine or of a clone, and the number of a snapshot that is held back,
  are new. -/
  new (store : Store) (c : Command) (es' : Engines) (a : Answer) :
    es.does store c = some (es', a) → c.GivesNew log a
  /-- A handle that was made answers everything from the snapshot in force for it. -/
  current (h : Nat) : IsMade log h → ∃ s, (∀ t, InForce log h t ↔ t = s) ∧ es.AnswersFrom h s
  /-- It goes on doing so after every command except a reload of the same engine. -/
  others (h : Nat) (s : Snapshot) (store : Store) (c : Command) (es' : Engines) (a : Answer) :
    es.AnswersFrom h s → es.does store c = some (es', a) →
    (∀ h' policies time, c = .reload h' policies time → ¬ Shares log h h') →
    es'.AnswersFrom h s
  /-- What was held back is what was in force then, whatever came later. -/
  held (later earlier : List Entry) (h : Nat) (reply : Reply) :
    log = later ++ ⟨.hold h, reply⟩ :: earlier →
    ∃ n s, reply.answer = .held n ∧ InForce earlier h s ∧ es.AnswersHeld n s
  /-- The version of every snapshot is that of its own policies. -/
  hash (s : Snapshot) :
    (∃ h, es.AnswersFrom h s) ∨ (∃ n, es.AnswersHeld n s) ∨
      (∃ e ∈ log, e.reply.answer = .snapshot s) →
    s.version.hash = s.policies.contentHash

/-- **Engines answer from what was loaded last, and leave snapshots as they are.** -/
theorem followsHistory_of_ran {log : List Entry} {es : Engines} (h : Ran log es) :
    FollowsHistory log es where
  performed store c := by
    rw [h.isPossible_iff store c]
    constructor
    · rintro ⟨es', reply, hs⟩
      exact ⟨es', reply.answer, Engines.does_eq_some_iff.2 ⟨reply, hs, rfl⟩⟩
    · rintro ⟨es', a, hd⟩
      obtain ⟨reply, hs, -⟩ := Engines.does_eq_some_iff.1 hd
      exact ⟨es', reply, hs⟩
  new store c es' a hd := by
    obtain ⟨reply, hs, rfl⟩ := Engines.does_eq_some_iff.1 hd
    exact h.givesNew_of_step hs
  current n hn := by
    obtain ⟨s, hs⟩ := h.exists_current_iff.2 hn
    have hf := h.inForce_of_current hs
    refine ⟨s, fun t => ⟨fun ht => ht.unique hf, ?_⟩, Engines.answersFrom_of_current hs⟩
    rintro rfl
    exact hf
  others n s store c es' a hn hd hc := by
    obtain ⟨reply, hs, -⟩ := Engines.does_eq_some_iff.1 hd
    exact Engines.answersFrom_of_current (h.current_of_step hs hn.snapshot hc)
  held later earlier n reply hlog := by
    subst hlog
    obtain ⟨store, es₀, es₁, h₀, hs, hheld⟩ := h.exists_step_of_append
    cases change_of_step hs with
    | @hold _ s hcur _ _ hh ha =>
        have hn : es₁.held[es₀.held.length]? = some s := by
          rw [hh, List.getElem?_concat_length]
        exact ⟨_, _, ha, h₀.inForce_of_current hcur, Engines.answersHeld_of_held (hheld _ _ hn)⟩
    | ask _ _ _ hhold => exact absurd rfl (hhold _)
  hash s hs := by
    obtain ⟨n, hn⟩ | ⟨n, hn⟩ | ⟨e, he, ha⟩ := hs
    · exact (h.inForce_of_current hn.snapshot).hash
    · exact h.hash_of_mem_held (List.mem_of_getElem? hn.snapshot)
    · exact h.hash_of_answer he ha

/-- An engine and its clone, and another engine; what is behind the clone is held back, and then
both engines are given other policies. -/
def reloads (p q : PolicySet) : List Command :=
  [.create p "dawn", .clone 0, .create p "dusk", .hold 1, .reload 1 q "noon", .reload 2 p "night"]

/-- After a reload through its clone an engine answers from the new policies, which the reload of
the other engine leaves alone, and what was held back is what was there at first. -/
theorem followsHistory_of_ran_reloads :
    let permits : PolicySet := ⟨[.unconstrained "a" .permit], .ofList [("a", 0)]⟩
    let done := Engines.empty.run (Entities.toStore ⟨[]⟩) (reloads .empty permits)
    let log := logOf (reloads .empty permits) done.2
    Ran log done.1 ∧ FollowsHistory log done.1 ∧
      done.1.AnswersFrom 0 (.load permits "noon") ∧ done.1.AnswersHeld 0 (.load .empty "dawn") := by
  intro permits done log
  have hran : Ran log done.1 := by
    simpa using ran_run (Entities.toStore ⟨[]⟩) (reloads .empty permits) .start
  have hf := followsHistory_of_ran hran
  obtain ⟨s, -, hs⟩ := hf.current 0 ((hran.isMade_iff 0).2 (by decide))
  obtain ⟨n, t, hn, -, ht⟩ := hf.held (log.take 2) (log.drop 3) 1 ⟨.held 0, [], []⟩ rfl
  obtain rfl : Snapshot.load permits "noon" = s := Option.some.inj hs.snapshot
  obtain rfl : 0 = n := Answer.held.inj hn
  obtain rfl : Snapshot.load .empty "dawn" = t := Option.some.inj ht.snapshot
  exact ⟨hran, hf, hs, ht⟩

end AccessPolicy
