/-
Expressions are read back from their JSON.

* `Expr.WellFormed`: the values that stand literally in an expression are in canonical
  form;
* `Loc.reads_toJson`, `Expr.exists_content`: a position is read back, and so is whether
  there is one; the name of a node and its content are found;
* `Expr.reads_toJson`: every expression is read back, whichever its nodes are.
-/
import AccessPolicy.Expr.Json
import AccessPolicy.Proofs.Expr.Invariant
import AccessPolicy.Proofs.Value.Json

namespace AccessPolicy

open Json (Rearranged Reads)

/-! ### Positions -/

/-- A position is read back. -/
lemma Loc.reads_toJson (l : Loc) : Reads ofJson? l.toJson l := by
  intro i h
  have hbounds : ∀ n : UInt32, (0 : Int) ≤ n.toNat ∧ (n.toNat : Int) ≤ 4294967295 := by
    intro n
    have := n.toNat_lt
    omega
  obtain ⟨n, hn, hline⟩ :=
    (Json.reads_intIn (hbounds l.line)).member h 2 0 "line" (by simp) (by simp)
  obtain ⟨c, hc, hcolumn⟩ :=
    (Json.reads_intIn (hbounds l.column)).member h 2 1 "column" (by simp) (by simp)
  simp [ofJson?, hn, hline, hc, hcolumn]

/-- A position that may be left out is read back. -/
lemma Loc.optional?_fields {loc : Option Loc} {fs : List (String × Json)} {i : Json}
    (h : Rearranged (.obj (fs ++ Loc.fields loc)) i) (n p : Nat)
    (hn : ((fs ++ Loc.fields loc).map (·.1)).Nodup) (hloc : "loc" ∉ fs.map (·.1)) :
    Loc.optional? ((i.member? n p "loc").map (·.1)) = some loc := by
  cases loc with
  | none =>
      have hnone : i.member? n p "loc" = none := by
        rw [h.member?]
        exact h.field?_eq_none "loc" hn (by simpa [Loc.fields] using hloc)
      rw [hnone]
      rfl
  | some l =>
      obtain ⟨m, hm, hl⟩ := l.reads_toJson.member h n p "loc" hn (by simp [Loc.fields])
      rw [hm, Option.map_some, Loc.optional?, hl, Option.map_some]
      intro hnull
      rw [hnull] at hl
      cases hl

/-! ### Expressions -/

/-- A variable is found by its name. -/
lemma Var.ofName?_name (x : Var) : ofName? x.name = some x := by
  cases x <;> rfl

/-- An operator is found by its name. -/
lemma BinaryOp.ofName?_name (op : BinaryOp) : ofName? op.name = some op := by
  cases op with
  | compare c => cases c <;> rfl
  | arith a => cases a <;> rfl
  | _ => rfl

namespace Expr

/-- The values that stand literally in an expression are in canonical form. -/
def WellFormed (e : Expr) : Prop :=
  ∀ v, e.HasLit v → v.WellFormed

/-- The operands of a well-formed expression are well-formed. -/
lemma WellFormed.child {c e : Expr} (he : e.WellFormed) (hc : c ∈ e.children) : c.WellFormed :=
  fun v hv => he v (.inside hc hv)

/-- Every expression is written as a node with its position. -/
lemma exists_node (e : Expr) : ∃ name content, node name content e.loc = e.toJson := by
  cases e <;> exact ⟨_, _, rfl⟩

/-- A node has one name and one content. -/
lemma node_inj {n n' : String} {c c' : Json} {l : Option Loc} (h : node n c l = node n' c' l) :
    n = n' ∧ c = c' := by
  simpa [node] using h

/-- The name, the content and the position of an expression are found. -/
lemma exists_content {name : String} {content i : Json} {loc : Option Loc}
    (h : Rearranged (node name content loc) i) :
    Loc.optional? ((i.member? 2 1 "loc").map (·.1)) = some loc ∧
      ∃ m, i.member? 2 0 "kind" = some m ∧
        ∃ c, m.1.variant? = some (name, c) ∧ Rearranged content c.1 := by
  have hfields : Rearranged (.obj ([("kind", .obj [(name, content)])] ++ Loc.fields loc)) i := h
  have hn : (([("kind", Json.obj [(name, content)])] ++ Loc.fields loc).map (·.1)).Nodup := by
    cases loc <;> simp [Loc.fields]
  refine ⟨Loc.optional?_fields hfields 2 1 hn (by simp), ?_⟩
  obtain ⟨m, hm, hkind⟩ := h.field? "kind" hn (.head _)
  rw [← h.member? 2 0] at hm
  exact ⟨m, hm, hkind.variant?⟩

/-- Named expressions are written one by one. -/
lemma pairsToJson_eq_map (fs : List (String × Expr)) :
    pairsToJson fs = fs.map fun f => .arr [.str f.1, f.2.toJson] := by
  induction fs with
  | nil => rfl
  | cons f fs ih => rw [pairsToJson, ih, List.map_cons]

/-- A name with an expression is read back. -/
lemma reads_pair {k : String} {e : Expr} (he : Reads ofJson? e.toJson e) :
    Reads (fun j => (pair? j).bind fun p => (ofJson? p.2.1).bind fun d => some (p.1, d))
      (.arr [.str k, e.toJson]) (k, e) := by
  intro i h
  obtain ⟨is, rfl, his⟩ := h.exists_items
  cases his with
  | cons hs his =>
      cases his with
      | cons hj his =>
          cases hs
          cases his
          simp [pair?, he _ hj]

/-- **An expression is read back.** -/
theorem reads_toJson {e : Expr} (he : e.WellFormed) : Reads ofJson? e.toJson e := by
  induction e using ind with
  | h e ih =>
  intro i h
  have hchild : ∀ c ∈ e.children, Reads ofJson? c.toJson c := fun c hc => ih c hc (he.child hc)
  -- The head of a node is read alike for all nodes; only the content depends on the name.
  obtain ⟨name, content, hnode⟩ := e.exists_node
  rw [← hnode] at h
  obtain ⟨hloc, m, hm, ⟨c, below⟩, hc, hcontent⟩ := exists_content h
  rw [ofJson?]
  refine Option.bind_eq_some_iff.2 ⟨m, hm, Option.bind_eq_some_iff.2 ⟨_, hc,
    Option.bind_eq_some_iff.2 ⟨e.loc, hloc, ?_⟩⟩⟩
  cases e with
  | lit v loc =>
      obtain ⟨rfl, rfl⟩ := node_inj hnode
      have hv := Value.reads_toJson (he v (.here loc)) _ hcontent
      simp [hv, Expr.loc]
  | var x loc =>
      obtain ⟨rfl, rfl⟩ := node_inj hnode
      have hx := Json.reads_unit x.name _ hcontent
      simp [hx, Var.ofName?_name, Expr.loc]
  | and l r loc | or l r loc =>
      obtain ⟨rfl, rfl⟩ := node_inj hnode
      obtain ⟨a, ha, hl⟩ :=
        (hchild l (by simp [children])).field hcontent "left" (by simp) (by simp)
      obtain ⟨b, hb, hr⟩ :=
        (hchild r (by simp [children])).field hcontent "right" (by simp) (by simp)
      simp [ha, hl, hb, hr, Expr.loc]
  | not e loc | neg e loc =>
      obtain ⟨rfl, rfl⟩ := node_inj hnode
      have he := hchild e (by simp [children]) _ hcontent
      simp [he, Expr.loc]
  | binary op l r loc =>
      obtain ⟨rfl, rfl⟩ := node_inj hnode
      obtain ⟨o, ho, hop⟩ := (Json.reads_unit op.name).field hcontent "op" (by simp) (by simp)
      obtain ⟨a, ha, hl⟩ :=
        (hchild l (by simp [children])).field hcontent "left" (by simp) (by simp)
      obtain ⟨b, hb, hr⟩ :=
        (hchild r (by simp [children])).field hcontent "right" (by simp) (by simp)
      simp [ho, hop, BinaryOp.ofName?_name, ha, hl, hb, hr, Expr.loc]
  | ite i t f loc =>
      obtain ⟨rfl, rfl⟩ := node_inj hnode
      obtain ⟨a, ha, hi⟩ :=
        (hchild i (by simp [children])).field hcontent "cond" (by simp) (by simp)
      obtain ⟨b, hb, ht⟩ :=
        (hchild t (by simp [children])).field hcontent "then_expr" (by simp) (by simp)
      obtain ⟨d, hd, hf⟩ :=
        (hchild f (by simp [children])).field hcontent "else_expr" (by simp) (by simp)
      simp [ha, hi, hb, ht, hd, hf, Expr.loc]
  | getAttr e attr loc | hasAttr e attr loc =>
      obtain ⟨rfl, rfl⟩ := node_inj hnode
      obtain ⟨a, ha, he⟩ :=
        (hchild e (by simp [children])).field hcontent "expr" (by simp) (by simp)
      obtain ⟨b, hb, hattr⟩ := (Json.reads_str attr).field hcontent "attr" (by simp) (by simp)
      simp [ha, he, hb, hattr, Expr.loc]
  | like e pattern loc =>
      obtain ⟨rfl, rfl⟩ := node_inj hnode
      obtain ⟨a, ha, he⟩ :=
        (hchild e (by simp [children])).field hcontent "expr" (by simp) (by simp)
      obtain ⟨b, hb, hpattern⟩ :=
        (Json.reads_str pattern).field hcontent "pattern" (by simp) (by simp)
      simp [ha, he, hb, hpattern, Expr.loc]
  | isType e type loc =>
      obtain ⟨rfl, rfl⟩ := node_inj hnode
      obtain ⟨a, ha, he⟩ :=
        (hchild e (by simp [children])).field hcontent "expr" (by simp) (by simp)
      obtain ⟨b, hb, htype⟩ :=
        (Json.reads_str type.path).field hcontent "entity_type" (by simp) (by simp)
      simp [ha, he, hb, htype, Expr.loc]
  | isTypeIn e type other loc =>
      obtain ⟨rfl, rfl⟩ := node_inj hnode
      obtain ⟨a, ha, he⟩ :=
        (hchild e (by simp [children])).field hcontent "expr" (by simp) (by simp)
      obtain ⟨b, hb, htype⟩ :=
        (Json.reads_str type.path).field hcontent "entity_type" (by simp) (by simp)
      obtain ⟨d, hd, hother⟩ :=
        (hchild other (by simp [children])).field hcontent "in_expr" (by simp) (by simp)
      simp [ha, he, hb, htype, hd, hother, Expr.loc]
  | set es loc =>
      obtain ⟨rfl, rfl⟩ := node_inj hnode
      rw [listToJson_eq_map] at hcontent
      obtain ⟨is, rfl, hread⟩ := Reads.items (Reads.forall₂_map hchild) hcontent
      obtain ⟨ms, hms, hitems⟩ := Json.unattach_items? is
      simp [hms, hitems, hread, children, Expr.loc]
  | record fs loc =>
      obtain ⟨rfl, rfl⟩ := node_inj hnode
      rw [pairsToJson_eq_map] at hcontent
      have hpairs := Reads.forall₂_map fun (f : String × Expr) (hf : f ∈ fs) =>
        reads_pair (k := f.1) (hchild f.2 (List.mem_map_of_mem hf))
      obtain ⟨is, rfl, hread⟩ := Reads.items hpairs hcontent
      obtain ⟨ms, hms, hitems⟩ := Json.unattach_items? is
      simp [hms, hitems, hread, Expr.loc]
  | call fn args loc =>
      obtain ⟨rfl, rfl⟩ := node_inj hnode
      obtain ⟨a, ha, hfn⟩ := (Json.reads_str fn).field hcontent "name" (by simp) (by simp)
      obtain ⟨⟨b, below⟩, hb, hargs⟩ := hcontent.field? "args" (by simp) (.tail _ (.head _))
      rw [listToJson_eq_map] at hargs
      obtain ⟨is, rfl, hread⟩ := Reads.items (Reads.forall₂_map hchild) hargs
      obtain ⟨ms, hms, hitems⟩ := Json.unattach_items? is
      simp [ha, hfn, hb, hms, hitems, hread, children, Expr.loc]

end Expr

end AccessPolicy
