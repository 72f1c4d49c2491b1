import Mathlib.Data.List.Basic

/-!
# Strings with their lengths in front

A list of strings can be written as one string: each of them behind a symbol for its
length. The reader takes a symbol for a number, that many symbols for a string, and
begins again.

A symbol says only so much. What was written is read as what it was exactly if every
length survives being written as a symbol (`LengthPrefixed.read_write_iff`): the reader
never gets a string of a length that does not.
-/

namespace LengthPrefixed

variable {A : Type} (symbol : ℕ → A) (number : A → ℕ)

/-- **Write strings**, each behind its length. -/
def write (strings : List (List A)) : List A :=
  strings.flatMap (fun string => symbol string.length :: string)

/-- **Read strings**, if the last is complete. -/
def read : List A → Option (List (List A))
  | [] => some []
  | a :: rest =>
    if number a ≤ rest.length then
      (read (rest.drop (number a))).map (rest.take (number a) :: ·)
    else none
termination_by symbols => symbols.length
decreasing_by
  simp only [List.length_drop, List.length_cons]
  omega

variable {symbol number}

@[simp] theorem read_nil : read number [] = some [] := by
  rw [read]

/-- A string whose length survives is read, and what is behind it. -/
theorem read_cons_append {a : A} {string : List A} (h : number a = string.length)
    (rest : List A) :
    read number (a :: (string ++ rest)) = (read number rest).map (string :: ·) := by
  rw [read, h, if_pos (by simp), List.drop_left, List.take_left]

/-- **Strings whose lengths survive are read**. -/
theorem read_write {strings : List (List A)}
    (h : ∀ string ∈ strings, number (symbol string.length) = string.length) :
    read number (write symbol strings) = some strings := by
  induction strings with
  | nil => exact read_nil
  | cons string strings ih =>
    obtain ⟨hstring, hstrings⟩ := List.forall_mem_cons.mp h
    show read number (symbol string.length :: (string ++ write symbol strings)) = _
    rw [read_cons_append hstring, ih hstrings]
    rfl

/-- A string that is read has the length that its symbol says. -/
theorem eq_of_read_cons {a : A} {rest string : List A} {strings : List (List A)}
    (h : read number (a :: rest) = some (string :: strings)) :
    number a = string.length ∧ string = rest.take (number a)
      ∧ read number (rest.drop (number a)) = some strings := by
  rw [read] at h
  split at h
  · rename_i hroom
    obtain ⟨strings', hread, hcons⟩ := Option.map_eq_some_iff.mp h
    obtain ⟨rfl, rfl⟩ := List.cons.inj hcons
    exact ⟨(List.length_take_of_le hroom).symm, rfl, hread⟩
  · cases h

/-- **What was written is read as what it was** exactly if every length survives. -/
theorem read_write_iff {strings : List (List A)} :
    read number (write symbol strings) = some strings
      ↔ ∀ string ∈ strings, number (symbol string.length) = string.length := by
  refine ⟨fun h => ?_, read_write⟩
  -- the reader gives the first string the length of its symbol, and goes on behind it
  induction strings with
  | nil => exact fun string hmem => absurd hmem List.not_mem_nil
  | cons string strings ih =>
    obtain ⟨hlength, -, hrest⟩ := eq_of_read_cons h
    rw [hlength] at hrest
    change read number ((string ++ write symbol strings).drop string.length) = _ at hrest
    rw [List.drop_left] at hrest
    exact List.forall_mem_cons.mpr ⟨hlength, ih hrest⟩

end LengthPrefixed
