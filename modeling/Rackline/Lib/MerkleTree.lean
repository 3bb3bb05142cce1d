import Mathlib.Algebra.GroupWithZero.Nat
import Mathlib.Data.Nat.Log
import Mathlib.Data.List.Basic

/-!
# `Rackline.Lib.MerkleTree`: trees over a list of leaves

The level above a list of nodes combines them in pairs; a last node of an odd list is combined with
itself. The levels get shorter until one node is left, the root. A branch names the sibling of a
node on each level but the last, and a climb combines a node with the siblings of a branch on the
way up.

`climb_branch` says that the branch of a leaf leads to the root. `mem_level_of_climb` is the
converse for branches that nobody vouches for: as long as `combine` does not collide on what is
combined, a climb that ends at the root has gone through nodes of the tree.
-/

set_option autoImplicit false

namespace MerkleTree

variable {α : Type}

/-! ### Levels -/

/-- A last node of an odd list is doubled. -/
def even (l : List α) : List α := if l.length % 2 = 1 then l ++ l.getLast?.toList else l

/-- The pairs of an even list. -/
def neighbours : List α → List (α × α)
  | a :: b :: l => (a, b) :: neighbours l
  | _ => []

section
variable (combine : α → α → α)

/-- The pairs of an even list, combined. -/
def pairs : List α → List α
  | a :: b :: l => combine a b :: pairs l
  | _ => []

/-- The next level. -/
def up (l : List α) : List α := pairs combine (even l)

theorem length_even (l : List α) : (even l).length = l.length + l.length % 2 := by
  unfold even
  split
  case isTrue hodd =>
    have hne : l ≠ [] := by
      rintro rfl
      cases hodd
    rw [List.getLast?_eq_some_getLast hne, List.length_append, hodd]
    rfl
  case isFalse heven => omega

theorem length_pairs : ∀ l : List α, (pairs combine l).length = l.length / 2
  | [] => by simp [pairs]
  | [_] => by simp [pairs]
  | _ :: _ :: l => by
    rw [pairs, List.length_cons, length_pairs l, List.length_cons, List.length_cons]
    omega

theorem length_up (l : List α) : (up combine l).length = (l.length + 1) / 2 := by
  unfold up
  rw [length_pairs, length_even]
  omega

/-- The nodes of a list stay where they are. -/
theorem getElem?_even {l : List α} {i : Nat} (h : i < l.length) : (even l)[i]? = l[i]? := by
  unfold even
  split
  · exact List.getElem?_append_left h
  · rfl

theorem mem_even {l : List α} {x : α} (h : x ∈ even l) : x ∈ l := by
  unfold even at h
  split at h
  · obtain h | h := List.mem_append.mp h
    · exact h
    · exact List.mem_of_getLast? (Option.mem_toList.mp h)
  · exact h

/-- The node above two neighbours. -/
theorem getElem?_pairs : ∀ (l : List α) (i : Nat) {a b : α}, l[2 * i]? = some a →
    l[2 * i + 1]? = some b → (pairs combine l)[i]? = some (combine a b)
  | [], _, _, _, ha, _ => nomatch ha
  | [x], i, _, _, _, hb => by
    rw [List.getElem?_eq_none (by simp)] at hb
    cases hb
  | x :: y :: l, 0, a, b, ha, hb => by
    cases ha
    cases hb
    rfl
  | x :: y :: l, i + 1, a, b, ha, hb => by
    rw [pairs, List.getElem?_cons_succ]
    exact getElem?_pairs l i ha hb

/-- A node of the next level is combined of two neighbours. -/
theorem mem_pairs : ∀ {l : List α} {x : α}, x ∈ pairs combine l →
    ∃ p ∈ neighbours l, x = combine p.1 p.2
  | [], _, h => nomatch h
  | [_], _, h => by simp [pairs] at h
  | a :: b :: l, x, h => by
    rw [pairs] at h
    obtain rfl | h := List.mem_cons.mp h
    · exact ⟨(a, b), List.mem_cons_self, rfl⟩
    · obtain ⟨p, hp, rfl⟩ := mem_pairs h
      exact ⟨p, List.mem_cons_of_mem _ hp, rfl⟩

theorem mem_neighbours : ∀ {l : List α} {p : α × α}, p ∈ neighbours l → p.1 ∈ l ∧ p.2 ∈ l
  | [], _, h => nomatch h
  | [_], _, h => by simp [neighbours] at h
  | a :: b :: l, p, h => by
    rw [neighbours] at h
    obtain rfl | h := List.mem_cons.mp h
    · exact ⟨List.mem_cons_self, List.mem_cons_of_mem _ List.mem_cons_self⟩
    · obtain ⟨h₁, h₂⟩ := mem_neighbours h
      exact ⟨List.mem_cons_of_mem _ (List.mem_cons_of_mem _ h₁),
        List.mem_cons_of_mem _ (List.mem_cons_of_mem _ h₂)⟩

/-- The list, `j` levels up. -/
def level : Nat → List α → List α
  | 0, l => l
  | j + 1, l => level j (up combine l)

/-- A level is as long as the leaves reach. -/
theorem length_level_le {j k : Nat} : ∀ {l : List α},
    (level combine j l).length ≤ k ↔ l.length ≤ k * 2 ^ j := by
  induction j with
  | zero =>
    intro l
    rw [Nat.pow_zero, Nat.mul_one]
    exact .rfl
  | succ j ih =>
    intro l
    show (level combine j (up combine l)).length ≤ k ↔ _
    rw [ih, length_up, Nat.pow_succ, ← Nat.mul_assoc]
    omega

theorem level_succ (j : Nat) : ∀ l : List α,
    level combine (j + 1) l = up combine (level combine j l) := by
  induction j with
  | zero => intro l; rfl
  | succ j ih =>
    intro l
    exact ih (up combine l)

theorem level_ne_nil {j : Nat} : ∀ {l : List α}, l ≠ [] → level combine j l ≠ [] := by
  induction j with
  | zero => exact fun h => h
  | succ j ih =>
    intro l hl
    refine ih ?_
    have hpos := List.length_pos_iff.mpr hl
    rw [← List.length_pos_iff, length_up]
    omega

/-- The number of levels above the leaves. -/
def depth (l : List α) : Nat := Nat.clog 2 l.length

/-- On the last level stands one node. -/
theorem level_depth {l : List α} (hl : l ≠ []) : ∃ r, level combine (depth l) l = [r] := by
  have hle : (level combine (depth l) l).length ≤ 1 := by
    rw [length_level_le, Nat.one_mul]
    exact Nat.le_pow_clog (by decide) _
  have hpos := List.length_pos_iff.mpr (level_ne_nil combine (j := depth l) hl)
  exact List.length_eq_one_iff.mp (by omega)

/-! ### Branches -/

/-- The place next to a place: the other one of its pair. -/
def sibling (i : Nat) : Nat := if i % 2 = 0 then i + 1 else i - 1

/-- The siblings on the way up `d` levels. -/
def branch : Nat → List α → Nat → Option (List α)
  | 0, _, _ => some []
  | d + 1, l, i => do
    let s ← (even l)[sibling i]?
    let rest ← branch d (up combine l) (i / 2)
    return s :: rest

/-- The way up from a node at place `i` along a branch. -/
def climb (x : α) : List α → Nat → α
  | [], _ => x
  | s :: siblings, i => climb (if i % 2 = 0 then combine x s else combine s x) siblings (i / 2)

/-- Combining a node with its sibling gives the node above them. -/
theorem getElem?_up {l : List α} {i : Nat} {x s : α} (hx : l[i]? = some x)
    (hs : (even l)[sibling i]? = some s) :
    (up combine l)[i / 2]? = some (if i % 2 = 0 then combine x s else combine s x) := by
  have hi : i < l.length := (List.getElem?_eq_some_iff.mp hx).1
  rw [← getElem?_even hi] at hx
  unfold sibling at hs
  unfold up
  split
  case isTrue heven =>
    rw [if_pos heven] at hs
    have hdouble : 2 * (i / 2) = i := by omega
    exact getElem?_pairs combine _ _ (by rw [hdouble, hx]) (by rw [hdouble, hs])
  case isFalse hodd =>
    rw [if_neg hodd] at hs
    have hdouble : 2 * (i / 2) = i - 1 := by omega
    have hback : i - 1 + 1 = i := by omega
    exact getElem?_pairs combine _ _ (by rw [hdouble, hs]) (by rw [hdouble, hback, hx])

/-- Each place has a branch. -/
theorem branch_isSome {d : Nat} : ∀ {l : List α} {i : Nat}, i < l.length →
    ∃ siblings, branch combine d l i = some siblings := by
  induction d with
  | zero => exact fun _ => ⟨[], rfl⟩
  | succ d ih =>
    intro l i hi
    have hsibling : sibling i < (even l).length := by
      rw [length_even]
      unfold sibling
      split <;> omega
    obtain ⟨rest, hrest⟩ := ih (l := up combine l) (i := i / 2) (by rw [length_up]; omega)
    refine ⟨(even l)[sibling i] :: rest, ?_⟩
    unfold branch
    rw [List.getElem?_eq_getElem hsibling, hrest]
    rfl

/-- The branch of a node leads to the root. -/
theorem climb_branch {d : Nat} {r : α} : ∀ {l : List α} {i : Nat} {x : α} {siblings : List α},
    level combine d l = [r] → l[i]? = some x → branch combine d l i = some siblings →
    climb combine x siblings i = r := by
  induction d with
  | zero =>
    intro l i x siblings hroot hx hbranch
    cases hbranch
    have hl : l = [r] := hroot
    rw [hl] at hx
    exact (List.mem_singleton.mp (List.mem_of_getElem? hx))
  | succ d ih =>
    intro l i x siblings hroot hx hbranch
    obtain ⟨s, hs, hbranch⟩ := Option.bind_eq_some_iff.mp hbranch
    obtain ⟨rest, hrest, hsiblings⟩ := Option.bind_eq_some_iff.mp hbranch
    cases hsiblings
    show climb combine (if i % 2 = 0 then combine x s else combine s x) rest (i / 2) = r
    exact ih hroot (getElem?_up combine hx hs) hrest

/-! ### Climbs without a promise -/

/-- What a climb combines. -/
def climbed (x : α) : List α → Nat → List (α × α)
  | [], _ => []
  | s :: siblings, i =>
    (if i % 2 = 0 then (x, s) else (s, x)) ::
      climbed (if i % 2 = 0 then combine x s else combine s x) siblings (i / 2)

/-- What the tree over `l` combines on its first `d` levels. -/
def combined : Nat → List α → List (α × α)
  | 0, _ => []
  | d + 1, l => neighbours (even l) ++ combined d (up combine l)

theorem climb_append (ys : List α) : ∀ (xs : List α) (x : α) (i : Nat),
    climb combine x (xs ++ ys) i = climb combine (climb combine x xs i) ys (i / 2 ^ xs.length) := by
  intro xs
  induction xs with
  | nil => intro x i; simp [climb]
  | cons s xs ih =>
    intro x i
    show climb combine _ (xs ++ ys) (i / 2) = climb combine (climb combine _ xs (i / 2)) ys _
    rw [ih, List.length_cons, Nat.pow_succ, Nat.mul_comm, Nat.div_div_eq_div_mul]

theorem climbed_append (ys : List α) : ∀ (xs : List α) (x : α) (i : Nat),
    climbed combine x (xs ++ ys) i =
      climbed combine x xs i ++ climbed combine (climb combine x xs i) ys (i / 2 ^ xs.length) := by
  intro xs
  induction xs with
  | nil => intro x i; simp [climbed, climb]
  | cons s xs ih =>
    intro x i
    show _ :: climbed combine _ (xs ++ ys) (i / 2) =
      _ :: _ ++ climbed combine (climb combine _ xs (i / 2)) ys _
    rw [ih, List.length_cons, Nat.pow_succ, Nat.mul_comm, Nat.div_div_eq_div_mul]
    rfl

/-- The end of a climb is what it combined last. -/
theorem climb_last : ∀ {siblings : List α} {x : α} {i : Nat}, siblings ≠ [] →
    ∃ q ∈ climbed combine x siblings i, climb combine x siblings i = combine q.1 q.2 := by
  intro siblings
  induction siblings with
  | nil => exact fun h => absurd rfl h
  | cons s siblings ih =>
    intro x i _
    cases siblings with
    | nil =>
      refine ⟨_, List.mem_cons_self, ?_⟩
      show (if i % 2 = 0 then combine x s else combine s x) = _
      split <;> rfl
    | cons s' siblings =>
      obtain ⟨q, hq, heq⟩ := ih (x := if i % 2 = 0 then combine x s else combine s x) (i := i / 2)
        (List.cons_ne_nil _ _)
      exact ⟨q, List.mem_cons_of_mem _ hq, heq⟩

/-- A node above the leaves is combined of two nodes of the level below it. -/
theorem mem_level_succ {j : Nat} {l : List α} {x : α} (h : x ∈ level combine (j + 1) l) :
    ∃ p ∈ neighbours (even (level combine j l)), x = combine p.1 p.2 := by
  rw [level_succ] at h
  exact mem_pairs combine h

theorem neighbours_combined {d : Nat} : ∀ {j : Nat} {l : List α} {p : α × α}, j < d →
    p ∈ neighbours (even (level combine j l)) → p ∈ combined combine d l := by
  induction d with
  | zero => exact fun h => absurd h (Nat.not_lt_zero _)
  | succ d ih =>
    intro j l p hj hp
    cases j with
    | zero => exact List.mem_append_left _ hp
    | succ j => exact List.mem_append_right _ (ih (Nat.lt_of_succ_lt_succ hj) hp)

/-- A climb that ends at the root begins at a node of the tree, as many levels below it as it is
long. -/
theorem mem_level_of_climb {d : Nat} {l : List α} {r : α} (hroot : level combine d l = [r]) :
    ∀ {siblings : List α} {x : α} {i : Nat}, siblings.length ≤ d →
      climb combine x siblings i = r →
      (∀ p ∈ combined combine d l, ∀ q ∈ climbed combine x siblings i,
        combine p.1 p.2 = combine q.1 q.2 → p = q) →
      x ∈ level combine (d - siblings.length) l := by
  intro siblings
  induction siblings with
  | nil =>
    intro x i _ hclimb _
    show x ∈ level combine d l
    rw [hroot]
    exact List.mem_singleton.mpr hclimb
  | cons s siblings ih =>
    intro x i hlen hclimb hinj
    have hlen' : siblings.length + 1 ≤ d := hlen
    have hnode := ih (by omega) hclimb fun p hp q hq => hinj p hp q (List.mem_cons_of_mem _ hq)
    -- The next node of the climb is one of the tree, so it was combined of `x` and its sibling.
    have hj : d - siblings.length = (d - (siblings.length + 1)) + 1 := by omega
    rw [hj] at hnode
    obtain ⟨p, hp, hcombine⟩ := mem_level_succ combine hnode
    have hsame : p = if i % 2 = 0 then (x, s) else (s, x) := by
      refine hinj p (neighbours_combined combine (by omega) hp) _ List.mem_cons_self ?_
      rw [← hcombine]
      split <;> rfl
    obtain ⟨h₁, h₂⟩ := mem_neighbours hp
    show x ∈ level combine (d - (siblings.length + 1)) l
    split at hsame
    · rw [hsame] at h₁
      exact mem_even h₁
    · rw [hsame] at h₂
      exact mem_even h₂

end

end MerkleTree
