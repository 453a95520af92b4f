/-!
Cutting text at a separator.

`cut` takes the text before the first separator off its input, `pieces` repeats it. The laws below say
that nothing is lost: gluing what was cut apart gives the input back.
-/

namespace LiveSwap.Text

/-- The text before the first `sep`, and what follows that separator if there is one. -/
def cut (sep : Char) : List Char → List Char × Option (List Char)
  | [] => ([], none)
  | c :: cs =>
    if c = sep then ([], some cs)
    else (c :: (cut sep cs).1, (cut sep cs).2)

/-- The pieces between separators; a text without separators is one piece. -/
def pieces (sep : Char) : List Char → List (List Char)
  | [] => [[]]
  | c :: cs =>
    if c = sep then [] :: pieces sep cs
    else match pieces sep cs with
      | [] => [[c]]
      | p :: ps => (c :: p) :: ps

/-- Puts the two halves of a cut together again. -/
def uncut (sep : Char) : List Char × Option (List Char) → List Char
  | (front, none) => front
  | (front, some rest) => front ++ sep :: rest

theorem uncut_cut (sep : Char) (cs : List Char) : uncut sep (cut sep cs) = cs := by
  induction cs with
  | nil => rfl
  | cons c cs ih =>
    by_cases h : c = sep
    · simp [cut, uncut, h]
    · simp only [cut, h, if_false]
      revert ih
      rcases cut sep cs with ⟨front, _ | rest⟩ <;> intro ih <;> simpa [uncut] using ih

/-- The front of a cut holds no separator. -/
theorem not_mem_cut_fst (sep : Char) (cs : List Char) : sep ∉ (cut sep cs).1 := by
  induction cs with
  | nil => simp [cut]
  | cons c cs ih =>
    by_cases h : c = sep
    · simp [cut, h]
    · simp only [cut, h, if_false, List.mem_cons, not_or]
      exact ⟨fun e => h e.symm, ih⟩

/-- A text without the separator is its own front. -/
theorem cut_of_not_mem {sep : Char} {cs : List Char} (h : sep ∉ cs) : cut sep cs = (cs, none) := by
  induction cs with
  | nil => rfl
  | cons c cs ih =>
    simp only [List.mem_cons, not_or] at h
    simp [cut, Ne.symm h.1, ih h.2]

/-- The first separator ends the front. -/
theorem cut_append_cons {sep : Char} {front : List Char} (h : sep ∉ front) (rest : List Char) :
    cut sep (front ++ sep :: rest) = (front, some rest) := by
  induction front with
  | nil => simp [cut]
  | cons c front ih =>
    simp only [List.mem_cons, not_or] at h
    simp [cut, Ne.symm h.1, ih h.2]

theorem pieces_ne_nil (sep : Char) (cs : List Char) : pieces sep cs ≠ [] := by
  cases cs with
  | nil => simp [pieces]
  | cons c cs =>
    by_cases h : c = sep
    · simp [pieces, h]
    · simp only [pieces, h, if_false]
      split <;> simp

end LiveSwap.Text
