import Mathlib.Data.Countable.Basic
import Mathlib.Logic.Equiv.List
import Mathlib.Data.List.Basic
import Mathlib.Tactic.DeriveCountable

/-!
# Content identities

A content identity names every artifact of a type, and names different artifacts differently. The
artifacts of a finite list get short names that evaluate; all others get a name that exists because
the type is countable.
-/

namespace Naming

variable {α : Type}

/-- A name made of a mark and a number. -/
def label (mark : Char) (n : Nat) : String := String.ofList (mark :: List.replicate n '|')

theorem label_inj {mark mark' : Char} {n n' : Nat} (h : label mark n = label mark' n') :
    mark = mark' ∧ n = n' := by
  have hlist := String.ofList_injective h
  rw [List.cons.injEq] at hlist
  exact ⟨hlist.1, by simpa using congrArg List.length hlist.2⟩

/-- The number of an artifact in some enumeration of its type. -/
noncomputable def position [Countable α] : α → Nat := (exists_injective_nat α).choose

theorem position_injective [Countable α] : Function.Injective (position (α := α)) :=
  (exists_injective_nat α).choose_spec

/-- The name of an artifact: its place among the listed ones, or its place in the type. -/
noncomputable def name [DecidableEq α] [Countable α] (mark : Char) (listed : List α) (a : α) :
    String :=
  if a ∈ listed then label mark (listed.idxOf a) else label '?' (position a)

theorem name_injective [DecidableEq α] [Countable α] {mark : Char} (hmark : mark ≠ '?')
    (listed : List α) : Function.Injective (name mark listed) := by
  intro a b h
  unfold name at h
  split at h
  · next ha =>
    split at h
    · exact (List.idxOf_inj ha).mp (label_inj h).2
    · exact absurd (label_inj h).1 hmark
  · split at h
    · exact absurd (label_inj h).1.symm hmark
    · exact position_injective (label_inj h).2

end Naming

/-! ## Countable types of text -/

instance countableChar : Countable Char :=
  Function.Injective.countable fun _ _ h => Char.toNat_inj.mp h

instance countableString : Countable String :=
  Function.Injective.countable fun _ _ h => String.toList_inj.mp h
