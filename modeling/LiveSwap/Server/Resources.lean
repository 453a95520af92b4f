/-!
A container with one value per kind.

`κ` is the type of kinds and `β k` the type of the values of kind `k`, so a value can never be taken out
under another type than the one it was put in with.
-/

namespace LiveSwap

structure Resources (κ : Type) (β : κ → Type) where
  slots : List ((k : κ) × β k)

namespace Resources

variable {κ : Type} {β : κ → Type} [DecidableEq κ]

def empty : Resources κ β := ⟨[]⟩

/-- The first value of a kind. -/
def find? (k : κ) : List ((k : κ) × β k) → Option (β k)
  | [] => none
  | ⟨k', v⟩ :: slots => if h : k' = k then some (h ▸ v) else find? k slots

def get? (r : Resources κ β) (k : κ) : Option (β k) := find? k r.slots

def contains (r : Resources κ β) (k : κ) : Bool := (r.get? k).isSome

/-- Puts a value in the place of the one of its kind, which is returned. -/
def insert (r : Resources κ β) (k : κ) (v : β k) : Option (β k) × Resources κ β :=
  (r.get? k, ⟨⟨k, v⟩ :: r.slots.filter fun slot => decide (slot.1 ≠ k)⟩)

def size (r : Resources κ β) : Nat := r.slots.length

def isEmpty (r : Resources κ β) : Bool := r.slots.isEmpty

/-- What is said about a kind that was never put in. -/
def notFound (typeName : String) : String := "resource not found: " ++ typeName

theorem get?_insert_self (r : Resources κ β) (k : κ) (v : β k) : (r.insert k v).2.get? k = some v := by
  simp [insert, get?, find?]

theorem get?_insert_of_ne (r : Resources κ β) {k l : κ} (v : β k) (h : k ≠ l) :
    (r.insert k v).2.get? l = r.get? l := by
  simp only [insert, get?, find?, h, dif_neg, not_false_eq_true]
  induction r.slots with
  | nil => rfl
  | cons slot slots ih =>
    obtain ⟨m, w⟩ := slot
    by_cases hm : m = k
    · have hml : m ≠ l := fun e => h (hm.symm.trans e)
      rw [List.filter_cons_of_neg (by simp [hm]), find?, dif_neg hml]
      exact ih
    · rw [List.filter_cons_of_pos (by simp [hm]), find?, find?, ih]

end Resources

end LiveSwap
