/-
What was done with engines before.

* `Entry`, `Ran`: the commands so far with their replies, the latest first, and the engines
  that they leave; each command may come with a store of its own. `ran_run` says that every
  run is such a history;
* `play`: the history of calls, each of which names its store. `play_run` says that it is
  that of a run if all name the same;
* `Command.IsPossible`, `Command.GivesNew`: a command is possible if the handle or the held
  snapshot that it names was given out before, and what it gives out itself is new;
* `IsLogOf`: a log has an entry for each call that was possible when it was made;
* `Clones`, `Shares`: the handles that stand for one engine, as a log shows it: a clone and
  its original, and all that are connected in this way;
* `Loads`, `LastLoad`, `InForce`: the snapshot of the last command that gave policies to a
  handle, or to one that shares its engine; there is one at most (`LastLoad.unique`).

A log speaks of handles only; the cells are inside the engines, and no answer shows them.
-/
import AccessPolicy.Engine.Basic
import Mathlib.Logic.Relation
import Mathlib.Tactic.Common

namespace AccessPolicy

/-! ### Histories -/

/-- A command that was done, with its reply. -/
structure Entry where
  command : Command
  reply : Reply

/-- The engines that a log of commands leaves; the latest command stands first. -/
inductive Ran : List Entry → Engines → Prop
  | start : Ran [] .empty
  | step {log : List Entry} {es es' : Engines} {c : Command} {reply : Reply} (store : Store)
      (h : Ran log es) (hs : es.step store c = some (es', reply)) : Ran (⟨c, reply⟩ :: log) es'

/-- The log of a run: the commands that were possible, the latest first. -/
def logOf (cs : List Command) (replies : List (Option Reply)) : List Entry :=
  ((cs.zip replies).filterMap fun (c, reply) => reply.map (Entry.mk c)).reverse

/-- **Every run is a history.** -/
lemma ran_run (store : Store) (cs : List Command) {log : List Entry} {es : Engines}
    (h : Ran log es) : Ran (logOf cs (es.run store cs).2 ++ log) (es.run store cs).1 := by
  induction cs generalizing log es with
  | nil => exact h
  | cons c cs ih =>
      rw [Engines.run]
      split
      · rename_i next reply hs
        have hrest := ih (h.step store hs)
        simpa [logOf] using hrest
      · simpa [logOf] using ih h

/-- The history of calls, each with a store of its own; the latest call stands first. An
impossible call changes nothing and is not in the log. -/
def play : List (Store × Command) → Engines × List Entry
  | [] => (.empty, [])
  | (store, c) :: calls =>
    match (play calls).1.step store c with
    | some (es', reply) => (es', ⟨c, reply⟩ :: (play calls).2)
    | none => play calls

/-- Calls make a history. -/
lemma ran_play (calls : List (Store × Command)) : Ran (play calls).2 (play calls).1 := by
  induction calls with
  | nil => exact .start
  | cons call calls ih =>
      rw [play]
      split
      · next hs => exact ih.step call.1 hs
      · exact ih

/-- **Calls that name the same store do what a run does.** -/
lemma play_run (store : Store) (cs : List Command) (calls : List (Store × Command)) :
    play (cs.reverse.map (store, ·) ++ calls) =
      (((play calls).1.run store cs).1, logOf cs ((play calls).1.run store cs).2 ++
        (play calls).2) := by
  induction cs generalizing calls with
  | nil => rfl
  | cons c cs ih =>
      have hcalls : (c :: cs).reverse.map (store, ·) ++ calls =
          cs.reverse.map (store, ·) ++ (store, c) :: calls := by simp
      rw [hcalls, ih, play, Engines.run]
      cases hs : (play calls).1.step store c with
      | none => simp [logOf]
      | some next => simp [logOf]

/-! ### What a log shows -/

/-- The log shows that a handle was made. -/
def IsMade (log : List Entry) (h : Nat) : Prop :=
  ∃ e ∈ log, e.reply.answer = .handle h

lemma isMade_cons {e : Entry} {log : List Entry} {h : Nat} :
    IsMade (e :: log) h ↔ e.reply.answer = .handle h ∨ IsMade log h := by
  simp [IsMade]

/-- The log shows that a snapshot was held back under a number. -/
def IsHeld (log : List Entry) (n : Nat) : Prop :=
  ∃ e ∈ log, e.reply.answer = .held n

lemma isHeld_cons {e : Entry} {log : List Entry} {n : Nat} :
    IsHeld (e :: log) n ↔ e.reply.answer = .held n ∨ IsHeld log n := by
  simp [IsHeld]

/-- The log shows what a command names: its handle, or its held snapshot. -/
def Command.IsPossible (log : List Entry) : Command → Prop
  | .clone h | .reload h _ _ | .evaluate h _ | .list h _ | .policies h | .version h | .hold h =>
    IsMade log h
  | .look n | .authorizeHeld n _ => IsHeld log n
  | .create _ _ | .authorize _ _ | .install _ | .uninstall => True

/-- The answer gives out what the command is to give out, a handle or a number for a held
snapshot, and the log does not show it yet. -/
def Command.GivesNew (log : List Entry) : Command → Answer → Prop
  | .create _ _, a | .clone _, a => ∃ n, a = .handle n ∧ ¬ IsMade log n
  | .hold _, a => ∃ n, a = .held n ∧ ¬ IsHeld log n
  | _, _ => True

/-- The log is that of calls, each with its store: it has one entry for each call that was
possible when it was made, and none for the others. -/
inductive IsLogOf : List (Store × Command) → List Entry → Prop
  | nil : IsLogOf [] []
  | done {calls : List (Store × Command)} {log : List Entry} {store : Store} {c : Command}
      {reply : Reply} (h : IsLogOf calls log) (hc : c.IsPossible log)
      (hnew : c.GivesNew log reply.answer) : IsLogOf ((store, c) :: calls) (⟨c, reply⟩ :: log)
  | impossible {calls : List (Store × Command)} {log : List Entry} {store : Store} {c : Command}
      (h : IsLogOf calls log) (hc : ¬ c.IsPossible log) : IsLogOf ((store, c) :: calls) log

/-- The log shows that the first handle was made as a clone of the second. -/
def Clones (log : List Entry) (n h : Nat) : Prop :=
  ∃ reply, ⟨.clone h, reply⟩ ∈ log ∧ reply.answer = .handle n

/-- The log shows that two handles stand for one engine. -/
def Shares (log : List Entry) : Nat → Nat → Prop :=
  Relation.EqvGen (Clones log)

/-- A command gives policies to a handle, and this is their snapshot. -/
inductive Loads : Entry → Nat → Snapshot → Prop
  | create {policies : PolicySet} {time : String} {reply : Reply} {h : Nat}
      (ha : reply.answer = .handle h) :
      Loads ⟨.create policies time, reply⟩ h (.load policies time)
  | reload {h : Nat} {policies : PolicySet} {time : String} {reply : Reply} :
      Loads ⟨.reload h policies time, reply⟩ h (.load policies time)

/-- The snapshot of the last command of a log that gave policies to a handle with a
property. -/
inductive LastLoad (P : Nat → Prop) : List Entry → Snapshot → Prop
  | now {e : Entry} {log : List Entry} {h : Nat} {s : Snapshot} (hl : Loads e h s) (hp : P h) :
      LastLoad P (e :: log) s
  | before {e : Entry} {log : List Entry} {s : Snapshot} (hs : LastLoad P log s)
      (he : ∀ h s', Loads e h s' → ¬ P h) : LastLoad P (e :: log) s

/-- The snapshot of the policies that were last given to a handle, or to one that shares its
engine. -/
def InForce (log : List Entry) (h : Nat) (s : Snapshot) : Prop :=
  LastLoad (Shares log h) log s

/-- A command gives one set of policies to one handle. -/
lemma Loads.unique {e : Entry} {h h' : Nat} {s s' : Snapshot} (hl : Loads e h s)
    (hl' : Loads e h' s') : h = h' ∧ s = s' := by
  cases hl with
  | create ha =>
      cases hl' with
      | create ha' => exact ⟨Answer.handle.inj (ha.symm.trans ha'), rfl⟩
  | reload =>
      cases hl' with
      | reload => exact ⟨rfl, rfl⟩

/-- **There is one last load at most.** -/
lemma LastLoad.unique {P : Nat → Prop} {log : List Entry} {s s' : Snapshot}
    (h : LastLoad P log s) (h' : LastLoad P log s') : s = s' := by
  induction h with
  | now hl hp =>
      cases h' with
      | now hl' hp' => exact (hl.unique hl').2
      | before _ he => exact absurd hp (he _ _ hl)
  | before _ he ih =>
      cases h' with
      | now hl hp => exact absurd hp (he _ _ hl)
      | before hs _ => exact ih hs

/-- The last load depends on the handles that are given policies only. -/
lemma LastLoad.congr {P Q : Nat → Prop} {log : List Entry} {s : Snapshot}
    (h : LastLoad P log s) (hPQ : ∀ e ∈ log, ∀ n t, Loads e n t → (P n ↔ Q n)) :
    LastLoad Q log s := by
  induction h with
  | now hl hp => exact .now hl ((hPQ _ List.mem_cons_self _ _ hl).1 hp)
  | before _ he ih =>
      refine .before (ih fun e hm => hPQ e (List.mem_cons_of_mem _ hm)) fun n t hl hq => ?_
      exact he n t hl ((hPQ _ List.mem_cons_self n t hl).2 hq)

/-- What was loaded last was loaded by a command. -/
lemma LastLoad.exists_loads {P : Nat → Prop} {log : List Entry} {s : Snapshot}
    (h : LastLoad P log s) : ∃ e ∈ log, ∃ n, Loads e n s ∧ P n := by
  induction h with
  | now hl hp => exact ⟨_, List.mem_cons_self, _, hl, hp⟩
  | before _ _ ih =>
      obtain ⟨e, he, hl⟩ := ih
      exact ⟨e, List.mem_cons_of_mem _ he, hl⟩

/-- Handles that share an engine go on sharing it. -/
lemma Shares.cons {log : List Entry} {a b : Nat} (h : Shares log a b) (e : Entry) :
    Shares (e :: log) a b :=
  h.mono fun _ _ ⟨reply, hm, ha⟩ => ⟨reply, List.mem_cons_of_mem _ hm, ha⟩

end AccessPolicy
