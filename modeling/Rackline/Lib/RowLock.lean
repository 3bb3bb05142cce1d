import Mathlib.Logic.Function.Basic
import Mathlib.Tactic.Common

/-!
# `Rackline.Lib.RowLock`: rows under row locks

The rows of a database at the isolation level READ COMMITTED. A transaction that writes a row, or
selects it for update, locks it: until the transaction ends, the row keeps its committed version
for the others, and the holder of the lock has a version of its own. `commit` makes the held
versions the committed ones, `rollback` forgets them.

A row has at most one holder, by construction. So a statement that would lock a row waits until
the row is `Free` for its transaction, and then reads the version the last holder left behind: it
is checked again on that version (`version`).

`Evolves` is the rule for what a row goes through. If every statement moves a row along a
preorder, then so does every commit, because no other transaction can commit the row between the
statement and the commit.
-/

set_option autoImplicit false
set_option linter.unusedSectionVars false

namespace RowLock

variable {T K R : Type} [DecidableEq T] [DecidableEq K]

/-- The lock on a row, and the version of the row that only its holder sees. -/
structure Held (T R : Type) where
  holder : T
  version : R

/-- The committed rows, and the locked ones. -/
structure Rows (T K R : Type) where
  committed : K → R
  held : K → Option (Held T R)

namespace Rows

variable (db : Rows T K R) (t u : T) (k j : K) (r : R)

/-- The rows of a database without open transactions. -/
def settled (rows : K → R) : Rows T K R := ⟨rows, fun _ => none⟩

/-- No other transaction has locked the row. -/
def Free : Prop := ∀ h, db.held k = some h → h.holder = t

instance : Decidable (db.Free t k) :=
  decidable_of_iff (∀ h ∈ db.held k, h.holder = t) Iff.rfl

/-- The row that a statement of `t` reads. -/
def version : R :=
  match db.held k with
  | some h => if h.holder = t then h.version else db.committed k
  | none => db.committed k

/-- `t` locks the row and writes it. -/
def put : Rows T K R := { db with held := Function.update db.held k (some ⟨t, r⟩) }

/-- The held versions of `t` are now the committed ones. -/
def commit : Rows T K R where
  committed := db.version t
  held k := (db.held k).filter (·.holder ≠ t)

/-- The held versions of `t` are lost. -/
def rollback : Rows T K R where
  committed := db.committed
  held k := (db.held k).filter (·.holder ≠ t)

variable {db t u k j r}

@[simp]
theorem committed_put : (db.put t k r).committed = db.committed := rfl

@[simp]
theorem held_put_self : (db.put t k r).held k = some ⟨t, r⟩ := by
  show Function.update db.held k (some ⟨t, r⟩) k = _
  simp

theorem held_put_of_ne (h : j ≠ k) : (db.put t k r).held j = db.held j := by
  show Function.update db.held k (some ⟨t, r⟩) j = _
  simp [h]

theorem version_of_held {h : Held T R} (hk : db.held k = some h) (hh : h.holder = t) :
    db.version t k = h.version := by
  simp [version, hk, hh]

/-- A row that `t` has not locked is read as it is committed. -/
theorem version_of_not_held (h : ∀ h, db.held k = some h → h.holder ≠ t) :
    db.version t k = db.committed k := by
  unfold version
  cases hk : db.held k with
  | none => rfl
  | some l => simp [h l hk]

@[simp]
theorem version_put_self : (db.put t k r).version t k = r :=
  version_of_held held_put_self rfl

theorem committed_commit : (db.commit t).committed k = db.version t k := rfl

@[simp]
theorem committed_rollback : (db.rollback t).committed = db.committed := rfl

/-- What is still locked after the end of `t` was locked by another transaction. -/
theorem held_commit {h : Held T R} :
    (db.commit t).held k = some h ↔ db.held k = some h ∧ h.holder ≠ t := by
  show (db.held k).filter (·.holder ≠ t) = some h ↔ _
  simp [Option.filter_eq_some_iff]

theorem held_rollback {h : Held T R} :
    (db.rollback t).held k = some h ↔ db.held k = some h ∧ h.holder ≠ t := by
  show (db.held k).filter (·.holder ≠ t) = some h ↔ _
  simp [Option.filter_eq_some_iff]

/-- A row that another transaction has locked is not touched by a commit of `t`. -/
theorem committed_commit_of_held {h : Held T R} (hk : db.held k = some h) (hh : h.holder ≠ t) :
    (db.commit t).committed k = db.committed k := by
  rw [committed_commit, version_of_not_held]
  intro l hl
  obtain rfl := Option.some.inj (hk.symm.trans hl)
  exact hh

/-! ### What the other transactions see of it -/

/-- The rows that `u` has locked are the same in `db'`, and committed as they were. -/
structure Unmoved (db db' : Rows T K R) (u : T) : Prop where
  held : ∀ k h, h.holder = u → (db'.held k = some h ↔ db.held k = some h)
  committed : ∀ k h, db.held k = some h → h.holder = u → db'.committed k = db.committed k

variable {db' : Rows T K R}

theorem Unmoved.refl (db : Rows T K R) (u : T) : db.Unmoved db u := ⟨fun _ _ _ => .rfl, fun _ _ _ _ => rfl⟩

/-- A write of `t` moves no row of another transaction. -/
theorem unmoved_put (hfree : db.Free t k) (hne : u ≠ t) : db.Unmoved (db.put t k r) u where
  held j h hu := by
    by_cases hj : j = k
    · subst hj
      rw [held_put_self]
      constructor
      · intro heq
        obtain rfl := Option.some.inj heq
        exact absurd hu.symm hne
      · intro heq
        exact absurd ((hfree h heq).symm.trans hu).symm hne
    · rw [held_put_of_ne hj]
  committed _ _ _ _ := rfl

theorem unmoved_commit (hne : u ≠ t) : db.Unmoved (db.commit t) u where
  held k h hu := by
    rw [held_commit]
    exact ⟨And.left, fun hk => ⟨hk, fun ht => hne (hu.symm.trans ht)⟩⟩
  committed k h hk hu := committed_commit_of_held hk fun ht => hne (hu.symm.trans ht)

theorem unmoved_rollback (hne : u ≠ t) : db.Unmoved (db.rollback t) u where
  held k h hu := by
    rw [held_rollback]
    exact ⟨And.left, fun hk => ⟨hk, fun ht => hne (hu.symm.trans ht)⟩⟩
  committed _ _ _ _ := rfl

/-! ### What a row goes through -/

/-- Every held version has come from the committed one along `Next`. -/
def Evolves (Next : R → R → Prop) (db : Rows T K R) : Prop :=
  ∀ k h, db.held k = some h → Next (db.committed k) h.version

variable {Next : R → R → Prop}

theorem evolves_settled (rows : K → R) : (settled rows : Rows T K R).Evolves Next := by
  intro k h hk
  cases hk

/-- The version that `t` reads has come from the committed one. -/
theorem Evolves.version (h : db.Evolves Next) (hrefl : ∀ r, Next r r) :
    Next (db.committed k) (db.version t k) := by
  unfold Rows.version
  cases hk : db.held k with
  | none => exact hrefl _
  | some l =>
    dsimp only
    split
    · exact h k l hk
    · exact hrefl _

/-- The write rule. -/
theorem Evolves.put (h : db.Evolves Next) (hrefl : ∀ r, Next r r)
    (htrans : ∀ {a b c}, Next a b → Next b c → Next a c) (hr : Next (db.version t k) r) :
    (db.put t k r).Evolves Next := by
  intro j l hj
  rw [committed_put]
  by_cases hjk : j = k
  · subst hjk
    rw [held_put_self] at hj
    obtain rfl := Option.some.inj hj
    exact htrans (h.version hrefl) hr
  · rw [held_put_of_ne hjk] at hj
    exact h j l hj

/-- The commit rule. -/
theorem Evolves.commit (h : db.Evolves Next) : (db.commit t).Evolves Next := by
  intro k l hk
  obtain ⟨hk, hl⟩ := held_commit.mp hk
  rw [committed_commit_of_held hk hl]
  exact h k l hk

theorem Evolves.rollback (h : db.Evolves Next) : (db.rollback t).Evolves Next := by
  intro k l hk
  exact h k l (held_rollback.mp hk).1

/-- A property of rows that holds of the committed ones and of the held versions. -/
def All (P : R → Prop) (db : Rows T K R) : Prop :=
  (∀ k, P (db.committed k)) ∧ ∀ k h, db.held k = some h → P h.version

variable {P : R → Prop}

theorem All.version (h : db.All P) : P (db.version t k) := by
  unfold Rows.version
  cases hk : db.held k with
  | none => exact h.1 k
  | some l =>
    dsimp only
    split
    · exact h.2 k l hk
    · exact h.1 k

theorem All.put (h : db.All P) (hr : P r) : (db.put t k r).All P := by
  refine ⟨h.1, fun j l hj => ?_⟩
  by_cases hjk : j = k
  · subst hjk
    rw [held_put_self] at hj
    obtain rfl := Option.some.inj hj
    exact hr
  · rw [held_put_of_ne hjk] at hj
    exact h.2 j l hj

theorem All.commit (h : db.All P) : (db.commit t).All P :=
  ⟨fun _ => h.version, fun k l hk => h.2 k l (held_commit.mp hk).1⟩

theorem All.rollback (h : db.All P) : (db.rollback t).All P :=
  ⟨h.1, fun k l hk => h.2 k l (held_rollback.mp hk).1⟩

end Rows

end RowLock
