/-
Building a store from declarations, in whatever order.

* `Declaration.bare`: a declaration of nothing but the identity;
* `IsLast`, `attrs?_collect_eq_some_iff`: the last declaration of an entity gives the
  attributes that are collected for it;
* `Entities.IsBuild`: the stores that building may end with, when what was collected is
  gone through in any order: one entity for each identity with attributes, and what some
  search for its ancestors found. `isBuild_ofDeclarations`: the store of the list of
  declarations is one of them;
* `Store.AnswersFor`: the answers of a store as the declarations alone tell them;
* `building_answers`: building ends, and whatever the order was, the store gives these
  answers.
-/
import AccessPolicy.Proofs.Ascending
import AccessPolicy.Proofs.Entity.Ancestors

namespace AccessPolicy

open Relation (TransGen ReflTransGen)

/-- A declaration of nothing but the identity. -/
def Declaration.bare (uid : EntityUid) : Declaration :=
  ⟨uid, [], []⟩

variable {ds : List Declaration} {d : Declaration} {u v : EntityUid}

/-! ### The last declaration -/

/-- The declaration is the last one of the entity. -/
def IsLast (ds : List Declaration) (uid : EntityUid) (d : Declaration) : Prop :=
  ∃ before after, ds = before ++ d :: after ∧ d.uid = uid ∧ ∀ e ∈ after, e.uid ≠ uid

lemma IsLast.mem (h : IsLast ds u d) : d ∈ ds := by
  obtain ⟨before, after, rfl, -, -⟩ := h
  exact List.mem_append_right before List.mem_cons_self

lemma IsLast.uid_eq (h : IsLast ds u d) : d.uid = u := by
  obtain ⟨-, -, -, huid, -⟩ := h
  exact huid

/-- One more declaration is the last of its entity; the last of another stays so. -/
lemma isLast_concat {e : Declaration} :
    IsLast (ds ++ [d]) u e ↔ if d.uid = u then e = d else IsLast ds u e := by
  constructor
  · rintro ⟨before, after, hds, rfl, hafter⟩
    rcases List.eq_nil_or_concat after with rfl | ⟨after, f, rfl⟩
    · obtain ⟨rfl, he⟩ := List.append_inj' hds rfl
      obtain rfl : d = e := List.singleton_inj.1 he
      rw [if_pos rfl]
    · rw [List.concat_eq_append, ← List.cons_append, ← List.append_assoc] at hds
      obtain ⟨rfl, hd⟩ := List.append_inj' hds rfl
      obtain rfl : d = f := List.singleton_inj.1 hd
      rw [if_neg (hafter d (by simp))]
      exact ⟨before, after, rfl, rfl, fun g hg => hafter g (by simp [hg])⟩
  · split
    · next hd =>
        rintro rfl
        exact ⟨ds, [], rfl, hd, nofun⟩
    · next hd =>
        rintro ⟨before, after, rfl, he, hafter⟩
        refine ⟨before, after ++ [d], by simp, he, fun g hg => ?_⟩
        rcases List.mem_append.1 hg with hg | hg
        · exact hafter g hg
        · exact List.mem_singleton.1 hg ▸ hd

/-- **The attributes that are collected for an entity are those of its last declaration.** -/
lemma attrs?_collect_eq_some_iff {attrs : Record} :
    (collect ds).attrs? u = some attrs ↔ ∃ e, IsLast ds u e ∧ e.attrs = attrs := by
  induction ds using List.reverseRecOn with
  | nil => exact ⟨nofun, fun ⟨_, ⟨before, after, hds, _⟩, _⟩ => by simp at hds⟩
  | append_singleton ds d ih =>
      rw [collect_concat, Collected.attrs?_add]
      simp only [isLast_concat]
      split
      · rw [exists_eq_left, Option.some_inj]
      · exact ih

/-- Attributes are collected for the entities that are declared. -/
lemma exists_attrs?_collect_iff :
    (∃ attrs, (collect ds).attrs? u = some attrs) ↔ u ∈ ds.map (·.uid) := by
  rw [← Option.isSome_iff_exists, attrs?_collect, attrsOf?, Option.isSome_map,
    List.find?_isSome, List.mem_map]
  simp only [List.mem_reverse, decide_eq_true_eq]

/-! ### Building -/

namespace Entities

variable {es : Entities}

/-- The store may come of building: its entities are those for which attributes are
collected, in any order, and each has these attributes and the ancestors that some search
found, in any order again. -/
structure IsBuild (ds : List Declaration) (es : Entities) : Prop where
  nodup : (es.entries.map (·.uid)).Nodup
  collected : ∀ u, u ∈ es.entries.map (·.uid) ↔ ∃ attrs, (collect ds).attrs? u = some attrs
  attrs : ∀ e ∈ es.entries, (collect ds).attrs? e.uid = some e.attrs
  ancestors : ∀ e ∈ es.entries, ∃ found, Search.IsFound ds e.uid found ∧
    ∀ v, v ∈ e.ancestors ↔ v ∈ found

/-- The store of a list of declarations is built so, with identities in ascending order. -/
theorem isBuild_ofDeclarations (ds : List Declaration) : (ofDeclarations ds).IsBuild ds := by
  have huids : (ofDeclarations ds).entries.map (·.uid) = Ascending.ofList (ds.map (·.uid)) := by
    rw [ofDeclarations, List.map_map]
    exact List.map_id _
  have hentry : ∀ e ∈ (ofDeclarations ds).entries, e.uid ∈ ds.map (·.uid) ∧
      e.attrs = (attrsOf? ds e.uid).getD [] ∧ e.ancestors = ancestorsOf ds e.uid := by
    intro e he
    obtain ⟨u, hu, rfl⟩ := List.mem_map.1 he
    exact ⟨Ascending.mem_ofList.1 hu, rfl, rfl⟩
  constructor
  case nodup =>
    rw [huids]
    exact (Ascending.isAscending_ofList _).nodup
  case collected =>
    intro u
    rw [huids, Ascending.mem_ofList, exists_attrs?_collect_iff]
  case attrs =>
    intro e he
    obtain ⟨hdeclared, hattrs, -⟩ := hentry e he
    obtain ⟨attrs, hsome⟩ := exists_attrs?_collect_iff.2 hdeclared
    rw [hattrs, ← attrs?_collect, hsome, Option.getD_some]
  case ancestors =>
    intro e he
    obtain ⟨-, -, hancestors⟩ := hentry e he
    refine ⟨_, isFound_climb ds e.uid, fun v => ?_⟩
    rw [hancestors, ancestorsOf, Ascending.mem_ofList]

/-- An entity of the store is found by its identity. -/
lemma IsBuild.find?_eq_some_iff (h : es.IsBuild ds) {e : Entity} :
    es.find? u = some e ↔ e ∈ es.entries ∧ e.uid = u := by
  constructor
  · intro hfind
    exact ⟨List.mem_of_find?_eq_some hfind, by simpa using List.find?_some hfind⟩
  · rintro ⟨he, rfl⟩
    have hsome : (es.find? e.uid).isSome := List.find?_isSome.2 ⟨e, he, decide_eq_true rfl⟩
    obtain ⟨f, hf⟩ := Option.isSome_iff_exists.1 hsome
    have hf' : f ∈ es.entries := List.mem_of_find?_eq_some hf
    have huid : f.uid = e.uid := by simpa using List.find?_some hf
    rw [hf, List.inj_on_of_nodup_map h.nodup hf' he huid]

end Entities

/-! ### What a built store answers -/

/-- The answers of the store are those that the declarations tell: an entity is present if it
is declared, its attributes are those of its last declaration, and its ancestors are what is
reached along one parent or more of all declarations. -/
structure Store.AnswersFor (ds : List Declaration) (store : Store) : Prop where
  isPresent_iff : ∀ u, store.isPresent u = true ↔ ∃ d ∈ ds, d.uid = u
  attribute?_iff : ∀ u k value, store.attribute? u k = some value ↔
    ∃ d, IsLast ds u d ∧ d.attrs.lookup k = some value
  isAncestor_iff : ∀ u v, store.isAncestor u v = true ↔
    (∃ d ∈ ds, d.uid = u) ∧ TransGen (IsParent ds) u v

namespace Entities

variable {es : Entities}

/-- An entity has an entry exactly if it is declared. -/
lemma IsBuild.exists_entry_iff (h : es.IsBuild ds) :
    (∃ e, es.find? u = some e) ↔ ∃ d ∈ ds, d.uid = u := by
  simp only [h.find?_eq_some_iff]
  rw [← List.mem_map, ← List.mem_map, h.collected, exists_attrs?_collect_iff]

/-- **A store that building ends with gives the answers of the declarations.** -/
theorem IsBuild.answersFor (h : es.IsBuild ds) : es.toStore.AnswersFor ds := by
  constructor
  case isPresent_iff =>
    intro u
    show (es.find? u).isSome = true ↔ _
    rw [Option.isSome_iff_exists, h.exists_entry_iff]
  case attribute?_iff =>
    intro u k value
    show (es.find? u).bind (·.attrs.lookup k) = some value ↔ _
    rw [Option.bind_eq_some_iff]
    constructor
    · rintro ⟨e, hfind, hvalue⟩
      obtain ⟨he, rfl⟩ := h.find?_eq_some_iff.1 hfind
      obtain ⟨d, hd, hattrs⟩ := attrs?_collect_eq_some_iff.1 (h.attrs e he)
      exact ⟨d, hd, hattrs ▸ hvalue⟩
    · rintro ⟨d, hd, hvalue⟩
      obtain ⟨e, hfind⟩ := h.exists_entry_iff.2 ⟨d, hd.mem, hd.uid_eq⟩
      obtain ⟨he, rfl⟩ := h.find?_eq_some_iff.1 hfind
      have hattrs : e.attrs = d.attrs := Option.some.inj
        ((h.attrs e he).symm.trans (attrs?_collect_eq_some_iff.2 ⟨d, hd, rfl⟩))
      exact ⟨e, hfind, hattrs ▸ hvalue⟩
  case isAncestor_iff =>
    intro u v
    show (es.find? u).any (·.ancestors.contains v) = true ↔ _
    rw [Option.any_eq_true, ← h.exists_entry_iff]
    have hreached : ∀ e, es.find? u = some e →
        (e.ancestors.contains v = true ↔ TransGen (IsParent ds) u v) := by
      intro e hfind
      obtain ⟨he, rfl⟩ := h.find?_eq_some_iff.1 hfind
      obtain ⟨found, hfound, hsame⟩ := h.ancestors e he
      rw [List.contains_iff_mem, hsame, Search.mem_iff_of_isFound hfound]
    constructor
    · rintro ⟨e, hfind, hmem⟩
      exact ⟨⟨e, hfind⟩, (hreached e hfind).1 hmem⟩
    · rintro ⟨⟨e, hfind⟩, hpath⟩
      exact ⟨e, hfind, (hreached e hfind).2 hpath⟩

/-- **Building a store ends, and the order of things does not matter.** No search for
ancestors goes on for ever, none stops while something waits, and so each can be brought to
an end with nothing waiting. There is a store to end with, and every store that building may
end with answers as the declarations tell. -/
theorem building_answers (ds : List Declaration) :
    WellFounded (fun after before => Search.Step ds before after) ∧
      (∀ s : Search, s.stack ≠ [] → ∃ s', Search.Step ds s s') ∧
      (∀ s : Search, ∃ seen, ReflTransGen (Search.Step ds) s ⟨seen, []⟩) ∧
      (ofDeclarations ds).IsBuild ds ∧
      ∀ es : Entities, es.IsBuild ds → es.toStore.AnswersFor ds :=
  ⟨Search.wellFounded_step ds, fun _ => Search.exists_step ds, Search.exists_end ds,
    isBuild_ofDeclarations ds, fun _ h => h.answersFor⟩

/-- A team, an organization and a user. -/
def team : EntityUid := ⟨⟨"Team"⟩, "t"⟩

@[inherit_doc team]
def org : EntityUid := ⟨⟨"Org"⟩, "o"⟩

@[inherit_doc team]
def user : EntityUid := ⟨⟨"User"⟩, "u"⟩

/-- The team, which is its own parent, is declared twice, the user once, and the organization
never. -/
def teamAndUser : List Declaration :=
  [⟨team, [("size", .long 1)], [team]⟩, .bare user, ⟨team, [("size", .long 2)], [org]⟩]

/-- A store of them with the user in front. -/
def userAndTeam : Entities :=
  ⟨[⟨user, [], []⟩, ⟨team, [("size", .long 2)], [org, team]⟩]⟩

/-- The store is built by a search that puts the organization on top of the stack and takes
the team from below it; so it gives the answers. -/
theorem building_answers_team :
    userAndTeam.IsBuild teamAndUser ∧ userAndTeam.toStore.AnswersFor teamAndUser := by
  have hteam : ListsParents teamAndUser team [org, team] := listsParents_iff.2 fun v => by
    simp [IsParent, teamAndUser, Declaration.bare, team, user, or_comm]
  have horg : ListsParents teamAndUser org [] := listsParents_iff.2 fun v => by
    simp [IsParent, teamAndUser, Declaration.bare, team, user, org]
  have huser : ListsParents teamAndUser user [] := listsParents_iff.2 fun v => by
    simp [IsParent, teamAndUser, Declaration.bare, team, user]
  have hsearch : Search.IsFound teamAndUser team [org, team] := by
    refine ⟨[org, team], hteam, ?_⟩
    refine .head (.visit (.swap team org []) (by decide) hteam) ?_
    refine .head (.visit (.refl _) (by decide) horg) ?_
    exact .head (.skip (.refl _) (by decide)) (.single (.skip (.refl _) (by decide)))
  have hbuild : userAndTeam.IsBuild teamAndUser := by
    refine ⟨by decide, fun u => ?_, ?_, ?_⟩
    · rw [exists_attrs?_collect_iff]
      simp [userAndTeam, teamAndUser, Declaration.bare, or_comm]
    · simp [userAndTeam, attrs?_collect, teamAndUser, Declaration.bare, attrsOf?, team, user]
    · simp only [userAndTeam, List.forall_mem_cons]
      exact ⟨⟨[], ⟨[], huser, .refl⟩, fun _ => Iff.rfl⟩, ⟨_, hsearch, fun _ => Iff.rfl⟩,
        fun _ h => absurd h List.not_mem_nil⟩
  exact ⟨hbuild, (building_answers teamAndUser).2.2.2.2 userAndTeam hbuild⟩

end Entities

end AccessPolicy
