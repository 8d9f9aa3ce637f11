import Mathlib.Logic.Function.Iterate
import Specloom.Proofs.Datatype.Within

/-!
# Flattening

Flattening walks through its roots with a stack. A walk ends, since every round visits one datatype
of those that are pending, and what it visits is the traversal of the roots, each datatype before
its children. Of this traversal the first datatype of each name is kept.

Flattening what is left of a flattening changes nothing. A datatype that was kept is traversed with
all that is inside it, and where its name is new, the names inside it are met in the order in which
the first traversal met them; where its name is not new, none of the names inside it is.

## Main results

* `Walk.run_eq_iterate`: the number of rounds of a walk
* `flatten_eq_traversal`: what flattening keeps
* `flatten_flatten`: flattening twice
-/

namespace Specloom

/-! ## Rounds of a walk -/

/-- **A walk ends**, after a round for each datatype that is pending. -/
theorem Walk.run_eq_iterate (w : Walk) : w.run = Walk.step^[w.pending.length] w := by
  induction w using run.induct with
  | case1 w h =>
    rw [run_of_nil h, pending, h]
    rfl
  | case2 w t rest h ih =>
    rw [run_of_cons h, ih, pending_eq h, List.length_cons, Function.iterate_succ_apply]

theorem Walk.stack_run (w : Walk) : w.run.stack = [] := by
  rw [run_eq, stack_foldl_note]

/-! ## The first of each name -/

namespace Datatype

variable {seen seen' : List String} {ts us : List Datatype}

/-- What is kept depends on which of the names were seen, and on nothing else. -/
theorem firstByName_congr (h : ∀ t ∈ ts, t.name ∈ seen ↔ t.name ∈ seen') :
    firstByName seen ts = firstByName seen' ts := by
  induction ts generalizing seen seen' with
  | nil => rfl
  | cons t ts ih =>
    rw [List.forall_mem_cons] at h
    rw [firstByName, firstByName, ih h.2]
    by_cases hseen : t.name ∈ seen
    · rw [if_pos hseen, if_pos (h.1.mp hseen)]
    · rw [if_neg hseen, if_neg fun hseen' => hseen (h.1.mpr hseen')]
      refine congrArg (t :: ·) (ih fun u hu => ?_)
      rw [List.mem_cons, List.mem_cons, h.2 u hu]

/-- The names of the first part were seen when the second part is traversed. -/
theorem firstByName_append : firstByName seen (ts ++ us) =
    firstByName seen ts ++ firstByName (ts.map (·.name) ++ seen) us := by
  induction ts generalizing seen with
  | nil => rfl
  | cons t ts ih =>
    rw [List.cons_append, firstByName, firstByName]
    split
    · rename_i hseen
      rw [ih]
      refine congrArg _ (firstByName_congr fun u _ => ?_)
      simp only [List.map_cons, List.cons_append, List.mem_append, List.mem_cons]
      exact ⟨Or.inr, fun hu => hu.elim (fun he => Or.inr (he ▸ hseen)) id⟩
    · rw [ih, List.cons_append]
      refine congrArg (_ :: _ ++ ·) (firstByName_congr fun u _ => ?_)
      simp only [List.map_cons, List.cons_append, List.mem_append, List.mem_cons]
      tauto

/-- Where no name is new, nothing is kept. -/
theorem firstByName_eq_nil (h : ∀ t ∈ ts, t.name ∈ seen) : firstByName seen ts = [] := by
  induction ts with
  | nil => rfl
  | cons t ts ih =>
    rw [List.forall_mem_cons] at h
    rw [firstByName, if_pos h.1, ih h.2]

theorem firstByName_eq_eraseDupsBy : firstByName seen ts =
    (ts.filter fun t => t.name ∉ seen).eraseDupsBy fun s t => s.name == t.name := by
  induction ts generalizing seen with
  | nil => rfl
  | cons t ts ih =>
    rw [firstByName]
    by_cases hseen : t.name ∈ seen
    · rw [if_pos hseen, ih, List.filter_cons_of_neg (by simpa using hseen)]
    · rw [if_neg hseen, ih, List.filter_cons_of_pos (by simpa using hseen),
        List.eraseDupsBy_cons, List.filter_filter]
      refine congrArg (fun us => t :: List.eraseDupsBy _ us) (List.filter_congr fun u _ => ?_)
      simp [not_or, Bool.decide_and]

theorem nodup_firstByName : ((firstByName seen ts).map (·.name)).Nodup ∧
    ∀ name ∈ (firstByName seen ts).map (·.name), name ∉ seen := by
  induction ts generalizing seen with
  | nil => exact ⟨List.nodup_nil, List.forall_mem_nil _⟩
  | cons t ts ih =>
    rw [firstByName]
    split
    · exact ih
    · rename_i hseen
      obtain ⟨hnodup, hnew⟩ := @ih (t.name :: seen)
      rw [List.map_cons, List.nodup_cons, List.forall_mem_cons]
      refine ⟨⟨fun hmem => hnew _ hmem List.mem_cons_self, hnodup⟩, hseen, fun name hname hmem => ?_⟩
      exact hnew name hname (List.mem_cons_of_mem _ hmem)

/-! ## Traversing again what was kept -/

/-- What is kept of a traversal is kept again when it is traversed itself, whatever names were seen
before. -/
def IsStable (traversal : List Datatype) : Prop :=
  ∀ seen, firstByName seen ((firstByName seen traversal).flatMap nodes) = firstByName seen traversal

/-- Two traversals in turn, of which the first holds what is inside its datatypes. -/
theorem IsStable.append (hts : IsStable ts) (hus : IsStable us)
    (hclosed : ∀ t ∈ ts, ∀ node ∈ t.nodes, node ∈ ts) : IsStable (ts ++ us) := by
  intro seen
  -- what was kept of the first part has all its names and no others
  have hnames (name : String) :
      name ∈ ((firstByName seen ts).flatMap nodes).map (·.name) ++ seen ↔
        name ∈ ts.map (·.name) ++ seen := by
    rw [List.mem_append, List.mem_append]
    constructor
    · rintro (hmem | hmem)
      · obtain ⟨node, hnode, rfl⟩ := List.mem_map.mp hmem
        obtain ⟨t, ht, hnode⟩ := List.mem_flatMap.mp hnode
        exact Or.inl (List.mem_map_of_mem (hclosed t (mem_of_mem_firstByName ht) node hnode))
      · exact Or.inr hmem
    · rintro (hmem | hmem)
      · obtain ⟨t, ht, rfl⟩ := List.mem_map.mp hmem
        by_cases hseen : t.name ∈ seen
        · exact Or.inr hseen
        · obtain ⟨kept, hkept, hname⟩ := exists_mem_firstByName ht hseen
          refine Or.inl (List.mem_map.mpr ⟨kept, ?_, hname⟩)
          exact List.mem_flatMap.mpr ⟨kept, hkept, self_mem_nodes kept⟩
      · exact Or.inr hmem
  rw [firstByName_append, List.flatMap_append, firstByName_append, hts seen,
    firstByName_congr fun u _ => hnames u.name, hus _]

theorem IsStable.flatMap {roots : List Datatype} (h : ∀ t ∈ roots, IsStable t.nodes) :
    IsStable (roots.flatMap nodes) := by
  induction roots with
  | nil => exact fun _ => rfl
  | cons t roots ih =>
    rw [List.forall_mem_cons] at h
    refine h.1.append (ih h.2) fun u hu node hnode => ?_
    exact mem_nodes_iff.mpr ((mem_nodes_iff.mp hnode).trans (mem_nodes_iff.mp hu))

/-- Induction along children. -/
theorem inductionChildren {motive : Datatype → Prop}
    (h : ∀ t, (∀ child ∈ t.children, motive child) → motive t) (t : Datatype) : motive t := by
  induction t using Datatype.induction with
  | scalar s n => exact h _ (List.forall_mem_nil _)
  | object fields n ih => exact h _ (List.forall_mem_map.mpr ih)
  | array element n ih =>
    refine h _ fun child hchild => ih child ?_
    simpa [children, element?, Datatype.fields] using hchild
  | reference ref n => exact h _ (List.forall_mem_nil _)

/-- **The traversal of a datatype is stable.** -/
theorem isStable_nodes (t : Datatype) : IsStable t.nodes := by
  induction t using inductionChildren with
  | h t ih =>
    intro seen
    rw [nodes_eq, firstByName]
    split
    · exact IsStable.flatMap ih seen
    -- the name is new, so the datatype is traversed again first, and the rest adds no name to it
    · rename_i hseen
      have hrest : firstByName ((t.children.flatMap nodes).map (·.name) ++ t.name :: seen)
          ((firstByName (t.name :: seen) (t.children.flatMap nodes)).flatMap nodes) = [] := by
        refine firstByName_eq_nil fun node hnode => List.mem_append_left _ ?_
        obtain ⟨kept, hkept, hnode⟩ := List.mem_flatMap.mp hnode
        obtain ⟨child, hchild, hkept⟩ := List.mem_flatMap.mp (mem_of_mem_firstByName hkept)
        have hwithin := (mem_nodes_iff.mp hnode).trans (mem_nodes_iff.mp hkept)
        exact List.mem_map_of_mem
          (List.mem_flatMap.mpr ⟨child, hchild, mem_nodes_iff.mpr hwithin⟩)
      rw [List.flatMap_cons, nodes_eq, List.cons_append, firstByName, if_neg hseen,
        firstByName_append, hrest, List.append_nil]

end Datatype

/-! ## Flattening -/

/-- **What flattening keeps.** The walk through each root ends after as many rounds as there are
datatypes inside, and its stack is empty then. What is kept is the first of each name in the
traversals of the roots, one after the other, each datatype before its element or its fields. The
names of what is kept are distinct, and they are the names of the datatypes within the roots. -/
theorem flatten_eq_traversal (roots : List Datatype) :
    (∀ w : Walk, w.run = Walk.step^[w.pending.length] w ∧ w.run.stack = []) ∧
      flatten roots =
        (roots.flatMap Datatype.nodes).eraseDupsBy (fun s t => s.name == t.name) ∧
      ((flatten roots).map (·.name)).Nodup ∧
      ∀ name, name ∈ (flatten roots).map (·.name) ↔
        ∃ root ∈ roots, ∃ t : Datatype, t.Within root ∧ t.name = name := by
  refine ⟨fun w => ⟨w.run_eq_iterate, w.stack_run⟩, ?_, ?_, fun name => ⟨fun hname => ?_, ?_⟩⟩
  · rw [flatten_eq, Datatype.firstByName_eq_eraseDupsBy, List.filter_eq_self.mpr (by simp)]
  · rw [flatten_eq]
    exact Datatype.nodup_firstByName.1
  · obtain ⟨t, ht, rfl⟩ := List.mem_map.mp hname
    obtain ⟨root, hroot, hnode⟩ := List.mem_flatMap.mp (mem_of_mem_flatten ht)
    exact ⟨root, hroot, t, Datatype.mem_nodes_iff.mp hnode, rfl⟩
  · rintro ⟨root, hroot, t, ht, rfl⟩
    obtain ⟨kept, hkept, hname⟩ :=
      exists_mem_flatten (Datatype.mem_flatMap_nodes_iff.mpr ⟨root, hroot, ht⟩)
    exact List.mem_map.mpr ⟨kept, hkept, hname⟩

/-- **Flattening twice is flattening once**: the same datatypes are kept, in the same order. -/
theorem flatten_flatten (roots : List Datatype) : flatten (flatten roots) = flatten roots := by
  have hstable : Datatype.IsStable (roots.flatMap Datatype.nodes) :=
    Datatype.IsStable.flatMap fun t _ => Datatype.isStable_nodes t
  rw [flatten_eq, flatten_eq]
  exact hstable []

end Specloom
