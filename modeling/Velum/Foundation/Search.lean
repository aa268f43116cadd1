import Mathlib.Data.List.Basic
import Mathlib.Logic.Relation

/-!
# Depth-first search

`visit` looks for a target from a node and enters no node twice: the nodes
entered so far are handed on from one branch to the next, and the first hit
ends the search.  Fuel bounds its depth.  With more fuel than nodes are left
the search ends, and it finds the target exactly when a path leads there.
-/

namespace Foundation.Search

variable {Node : Type}

/-- Tries nodes in turn up to the first hit, handing on what was visited. -/
def anyFrom (visit : Node → List Node → Option (Bool × List Node)) :
    List Node → List Node → Option (Bool × List Node)
  | [], visited => some (false, visited)
  | node :: rest, visited =>
      match visit node visited with
      | none => none
      | some (true, after) => some (true, after)
      | some (false, after) => anyFrom visit rest after

section Trying

variable {visit : Node → List Node → Option (Bool × List Node)}
  {visited after : List Node}

/-- A hit among several nodes is a hit of one of them. -/
theorem anyFrom_found {nodes : List Node}
    (found : anyFrom visit nodes visited = some (true, after)) :
    ∃ node ∈ nodes, ∃ before last,
      visit node before = some (true, last) := by
  induction nodes generalizing visited with
  | nil => cases found
  | cons node rest induction =>
      rw [anyFrom] at found
      cases visits : visit node visited with
      | none =>
          rw [visits] at found
          cases found
      | some answer =>
          obtain ⟨hit, middle⟩ := answer
          cases hit with
          | true => exact ⟨node, List.mem_cons_self, visited, middle, visits⟩
          | false =>
              rw [visits] at found
              obtain ⟨other, member, hits⟩ := induction found
              exact ⟨other, List.mem_cons_of_mem _ member, hits⟩

/-- A relation that every fruitless visit keeps is kept by all of them. -/
theorem anyFrom_missed {keeps : List Node → List Node → Prop}
    {nodes : List Node} (same : ∀ visited, keeps visited visited)
    (further : ∀ {first second third}, keeps first second →
      keeps second third → keeps first third)
    (visits : ∀ node ∈ nodes, ∀ {before last},
      visit node before = some (false, last) → keeps before last)
    (missed : anyFrom visit nodes visited = some (false, after)) :
    keeps visited after ∧ ∀ node ∈ nodes, ∃ before last,
      visit node before = some (false, last) ∧ keeps last after := by
  induction nodes generalizing visited with
  | nil =>
      cases missed
      exact ⟨same _, nofun⟩
  | cons node rest induction =>
      rw [anyFrom] at missed
      cases answered : visit node visited with
      | none =>
          rw [answered] at missed
          cases missed
      | some answer =>
          obtain ⟨hit, middle⟩ := answer
          rw [answered] at missed
          cases hit with
          | true => cases missed
          | false =>
              have first := visits node List.mem_cons_self answered
              obtain ⟨later, others⟩ := induction
                (fun other member => visits other
                  (List.mem_cons_of_mem _ member)) missed
              refine ⟨further first later, ?_⟩
              intro other member
              rcases List.mem_cons.mp member with rfl | inRest
              · exact ⟨visited, middle, answered, later⟩
              · exact others other inRest

/-- Several visits end when each of them does from every longer list. -/
theorem anyFrom_ends {nodes : List Node}
    (visits : ∀ node ∈ nodes, ∀ before, visited ⊆ before →
      ∃ hit last, visit node before = some (hit, last) ∧
        (hit = false → before ⊆ last)) :
    ∃ hit after, anyFrom visit nodes visited = some (hit, after) := by
  induction nodes generalizing visited with
  | nil => exact ⟨false, visited, rfl⟩
  | cons node rest induction =>
      obtain ⟨hit, middle, answered, longer⟩ :=
        visits node List.mem_cons_self visited (List.Subset.refl _)
      rw [anyFrom, answered]
      cases hit with
      | true => exact ⟨true, middle, rfl⟩
      | false =>
          apply induction
          intro other member before within
          apply visits other (List.mem_cons_of_mem _ member)
          exact List.Subset.trans (longer rfl) within

end Trying

variable [DecidableEq Node] (successors : Node → List Node) (target : Node)

def visit : Nat → Node → List Node → Option (Bool × List Node)
  | 0, _, _ => none
  | fuel + 1, node, visited =>
      if node = target then some (true, visited)
      else if node ∈ visited then some (false, visited)
      else anyFrom (visit fuel) (successors node) (node :: visited)

/-- A path of at least one edge to the target is looked for from a node that
may itself be the target. -/
def reachesFrom (fuel : Nat) (node : Node) : Option (Bool × List Node) :=
  anyFrom (visit successors target fuel) (successors node) [node]

/-- The edges of the graph. -/
def Edge (first second : Node) : Prop :=
  second ∈ successors first

/-- What a fruitless search leaves behind: nothing is forgotten, and each node
that it entered leads only to other entered nodes that are not the target. -/
structure Exhausted (visited after : List Node) : Prop where
  keeps : visited ⊆ after
  closed : ∀ node ∈ after, node ∉ visited → ∀ next ∈ successors node,
    next ≠ target ∧ next ∈ after

variable {successors target}

namespace Exhausted

omit [DecidableEq Node]

theorem refl (visited : List Node) :
    Exhausted successors target visited visited where
  keeps := List.Subset.refl _
  closed _ member fresh := absurd member fresh

theorem trans {first second third : List Node}
    (earlier : Exhausted successors target first second)
    (later : Exhausted successors target second third) :
    Exhausted successors target first third where
  keeps := List.Subset.trans earlier.keeps later.keeps
  closed node member fresh next edge := by
    by_cases already : node ∈ second
    · obtain ⟨other, entered⟩ := earlier.closed node already fresh next edge
      exact ⟨other, later.keeps entered⟩
    · exact later.closed node member already next edge

/-- Entering a node whose successors were all tried. -/
theorem enter {node : Node} {visited after : List Node}
    (rest : Exhausted successors target (node :: visited) after)
    (tried : ∀ next ∈ successors node, next ≠ target ∧ next ∈ after) :
    Exhausted successors target visited after where
  keeps := List.Subset.trans (List.subset_cons_self _ _) rest.keeps
  closed other member fresh next edge := by
    by_cases isNode : other = node
    · subst isNode
      exact tried next edge
    · apply rest.closed other member _ next edge
      intro entered
      rcases List.mem_cons.mp entered with same | older
      · exact isNode same
      · exact fresh older

/-- After a fruitless search from one node no path leads to the target. -/
theorem not_reached {node : Node} {after : List Node}
    (exhausted : Exhausted successors target [node] after)
    (tried : ∀ next ∈ successors node, next ≠ target ∧ next ∈ after)
    {last : Node} (path : Relation.TransGen (Edge successors) node last) :
    last ≠ target ∧ last ∈ after := by
  induction path with
  | single edge => exact tried _ edge
  | tail _ edge induction =>
      rename_i middle final _
      by_cases isNode : middle = node
      · subst isNode
        exact tried _ edge
      · apply exhausted.closed middle induction.2 _ final edge
        simpa using isNode

end Exhausted

theorem visit_missed {fuel : Nat} {node : Node} {visited after : List Node}
    (missed : visit successors target fuel node visited =
      some (false, after)) :
    node ≠ target ∧ node ∈ after ∧
      Exhausted successors target visited after := by
  induction fuel generalizing node visited after with
  | zero => cases missed
  | succ fuel induction =>
      rw [visit] at missed
      by_cases isTarget : node = target
      · rw [if_pos isTarget] at missed
        cases missed
      rw [if_neg isTarget] at missed
      by_cases entered : node ∈ visited
      · rw [if_pos entered] at missed
        cases missed
        exact ⟨isTarget, entered, .refl _⟩
      rw [if_neg entered] at missed
      obtain ⟨rest, tried⟩ := anyFrom_missed Exhausted.refl Exhausted.trans
        (fun _ _ _ _ answered => (induction answered).2.2) missed
      refine ⟨isTarget, rest.keeps List.mem_cons_self, rest.enter ?_⟩
      intro next edge
      obtain ⟨before, last, answered, later⟩ := tried next edge
      obtain ⟨other, found, _⟩ := induction answered
      exact ⟨other, later.keeps found⟩

theorem visit_found {fuel : Nat} {node : Node} {visited after : List Node}
    (found : visit successors target fuel node visited =
      some (true, after)) :
    Relation.ReflTransGen (Edge successors) node target := by
  induction fuel generalizing node visited after with
  | zero => cases found
  | succ fuel induction =>
      rw [visit] at found
      by_cases isTarget : node = target
      · rw [isTarget]
      rw [if_neg isTarget] at found
      by_cases entered : node ∈ visited
      · rw [if_pos entered] at found
        cases found
      rw [if_neg entered] at found
      obtain ⟨next, edge, before, last, hit⟩ := anyFrom_found found
      exact .head edge (induction hit)

/-- The nodes that are not visited yet. -/
def left (nodes visited : List Node) : List Node :=
  nodes.filter (· ∉ visited)

theorem left_anti (nodes : List Node) {visited longer : List Node}
    (within : visited ⊆ longer) :
    (left nodes longer).length ≤ (left nodes visited).length := by
  apply List.Sublist.length_le
  apply List.monotone_filter_right
  intro node fresh
  simp only [decide_eq_true_eq] at fresh ⊢
  exact fun entered => fresh (within entered)

theorem left_enter {nodes visited : List Node} {node : Node}
    (known : node ∈ nodes) (fresh : node ∉ visited) :
    (left nodes (node :: visited)).length <
      (left nodes visited).length := by
  have fewer : left nodes (node :: visited) =
      (left nodes visited).filter (· ≠ node) := by
    rw [left, left, List.filter_filter]
    apply List.filter_congr
    intro other _
    simp
  rw [fewer]
  apply List.length_filter_lt_length_iff_exists.mpr
  refine ⟨node, ?_, by simp⟩
  exact List.mem_filter.mpr ⟨known, by simpa using fresh⟩

variable (target) in
theorem visit_ends {nodes : List Node}
    (closed : ∀ node ∈ nodes, successors node ⊆ nodes)
    {fuel : Nat} {node : Node} {visited : List Node}
    (known : node ∈ nodes)
    (enough : (left nodes visited).length < fuel) :
    ∃ hit after,
      visit successors target fuel node visited = some (hit, after) := by
  induction fuel generalizing node visited with
  | zero => exact absurd enough (Nat.not_lt_zero _)
  | succ fuel induction =>
      rw [visit]
      by_cases isTarget : node = target
      · exact ⟨true, visited, if_pos isTarget⟩
      rw [if_neg isTarget]
      by_cases entered : node ∈ visited
      · exact ⟨false, visited, if_pos entered⟩
      rw [if_neg entered]
      apply anyFrom_ends
      intro next edge before longer
      have fewer := left_enter known entered
      have kept := left_anti nodes longer
      have fits : (left nodes before).length < fuel := by omega
      obtain ⟨hit, last, answered⟩ :=
        induction (closed node known edge) fits
      refine ⟨hit, last, answered, ?_⟩
      rintro rfl
      exact (visit_missed answered).2.2.keeps

/-- With fuel for every node the search ends, and it finds the target exactly
when a path of at least one edge leads there. -/
theorem reachesFrom_iff {nodes : List Node}
    (closed : ∀ node ∈ nodes, successors node ⊆ nodes)
    {fuel : Nat} {node : Node} (known : node ∈ nodes)
    (enough : nodes.length < fuel) :
    ∃ hit after, reachesFrom successors target fuel node =
        some (hit, after) ∧
      (hit = true ↔ Relation.TransGen (Edge successors) node target) := by
  have ends : ∃ hit after, reachesFrom successors target fuel node =
      some (hit, after) := by
    apply anyFrom_ends
    intro next edge before _
    have few : (left nodes before).length ≤ nodes.length :=
      List.length_filter_le _ _
    have fits : (left nodes before).length < fuel := by omega
    obtain ⟨hit, last, answered⟩ :=
      visit_ends target closed (closed node known edge) fits
    refine ⟨hit, last, answered, ?_⟩
    rintro rfl
    exact (visit_missed answered).2.2.keeps
  obtain ⟨hit, after, answered⟩ := ends
  refine ⟨hit, after, answered, ?_, ?_⟩
  · rintro rfl
    obtain ⟨next, edge, before, last, found⟩ := anyFrom_found answered
    exact Relation.TransGen.head' edge (visit_found found)
  · intro path
    cases hit with
    | true => rfl
    | false =>
        obtain ⟨rest, tried⟩ := anyFrom_missed Exhausted.refl Exhausted.trans
          (fun _ _ _ _ missed => (visit_missed missed).2.2) answered
        refine absurd rfl (rest.not_reached ?_ path).1
        intro next edge
        obtain ⟨before, last, missed, later⟩ := tried next edge
        obtain ⟨other, found, _⟩ := visit_missed missed
        exact ⟨other, later.keeps found⟩

end Foundation.Search
