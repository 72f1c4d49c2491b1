import Mathlib.Data.List.DropRight
import Mathlib.Data.List.Sort

/-!
# Strings of UTF-16 code units

The strings of many languages are sequences of 16-bit code units, compared unit
by unit. Such a string need not be well-formed Unicode: half of a surrogate pair
is a string like any other.

`Text.trim` removes white space at both ends: the units of the Unicode property
`White_Space`, and the byte order mark. `Text.sorted` is what sorting a list of
such strings gives, however it is done: the order is total and antisymmetric, so
the sorted list is unique.
-/

/-- A string: its code units. -/
abbrev Text : Type := List UInt16

namespace Text

/-- The text of a literal, whose characters are all in the basic plane. -/
def ofString (s : String) : Text := s.toList.map (fun c => c.toNat.toUInt16)

instance : Std.Total (fun a b : Text => a ≤ b) := ⟨List.le_total⟩

/-- Membership is decided under one name for the law. -/
instance : LawfulBEq Text := List.instLawfulBEq

instance : IsTrans Text (fun a b : Text => a ≤ b) := ⟨fun _ _ _ => List.le_trans⟩

/-- The texts of a list, in the order of their code units. -/
def sorted (texts : List Text) : List Text := texts.insertionSort (· ≤ ·)

@[simp] theorem mem_sorted {t : Text} {texts : List Text} : t ∈ sorted texts ↔ t ∈ texts :=
  List.mem_insertionSort _

theorem nodup_sorted {texts : List Text} : (sorted texts).Nodup ↔ texts.Nodup :=
  (List.perm_insertionSort _ texts).nodup_iff

/-- White space, and the byte order mark. -/
def isWhitespace (unit : UInt16) : Bool :=
  (9 ≤ unit && unit ≤ 13) || unit == 0x20 || unit == 0x85 || unit == 0xA0 || unit == 0x1680 ||
    (0x2000 ≤ unit && unit ≤ 0x200A) || unit == 0x2028 || unit == 0x2029 || unit == 0x202F ||
    unit == 0x205F || unit == 0x3000 || unit == 0xFEFF

/-- The letters of ASCII in lower case. -/
def asciiLower (t : Text) : Text :=
  t.map (fun unit => if 0x41 ≤ unit ∧ unit ≤ 0x5A then unit + 0x20 else unit)

@[simp] theorem asciiLower_nil : asciiLower [] = [] := rfl

def trim (t : Text) : Text := (t.dropWhile isWhitespace).rdropWhile isWhitespace

section Ends

variable (p : UInt16 → Bool)

/-- What begins a text with nothing to drop in front has nothing to drop in front. -/
theorem dropWhile_of_beginning {t u : Text} (hu : u.dropWhile p = u) (h : t <+: u) :
    t.dropWhile p = t := by
  cases t with
  | nil => rfl
  | cons unit t =>
    obtain ⟨rest, rfl⟩ := h
    have hne := List.dropWhile_eq_self_iff.mp hu (Nat.succ_pos _)
    exact List.dropWhile_cons_of_neg hne

/-- Dropping units at both ends again changes nothing. -/
theorem dropWhile_ends (t : Text) :
    (((t.dropWhile p).rdropWhile p).dropWhile p).rdropWhile p
      = (t.dropWhile p).rdropWhile p := by
  have hfront : ((t.dropWhile p).rdropWhile p).dropWhile p = (t.dropWhile p).rdropWhile p :=
    dropWhile_of_beginning p (List.dropWhile_idempotent _ t) (List.rdropWhile_prefix _ _)
  rw [hfront]
  exact List.rdropWhile_idempotent _ _

/-- There is nothing to drop at the ends of a text without such units. -/
theorem dropWhile_ends_of_forall {t : Text} (h : ∀ unit ∈ t, p unit = false) :
    (t.dropWhile p).rdropWhile p = t := by
  have hfront : t.dropWhile p = t :=
    List.dropWhile_eq_self_iff.mpr (fun hlen => by simp [h _ (List.getElem_mem hlen)])
  rw [hfront]
  exact List.rdropWhile_eq_self_iff.mpr (fun hne => by simp [h _ (List.getLast_mem hne)])

end Ends

/-- Trimming what is trimmed changes nothing. -/
@[simp] theorem trim_trim (t : Text) : t.trim.trim = t.trim := dropWhile_ends isWhitespace t

/-- There is nothing to trim in a text without white space. -/
theorem trim_of_forall {t : Text} (h : ∀ unit ∈ t, isWhitespace unit = false) : t.trim = t :=
  dropWhile_ends_of_forall isWhitespace h

/-- Something is left of a text that is not all white space. -/
theorem trim_ne_nil {t : Text} {unit : UInt16} (hmem : unit ∈ t) (h : isWhitespace unit = false) :
    t.trim ≠ [] := by
  unfold trim
  rw [ne_eq, List.rdropWhile_eq_nil_iff]
  intro hall
  cases hdrop : t.dropWhile isWhitespace with
  | nil => exact absurd (List.dropWhile_eq_nil_iff.mp hdrop unit hmem) (by simp [h])
  | cons first rest =>
    have hfirst := List.head_dropWhile_not isWhitespace (l := t) (by simp [hdrop])
    have hspace := hall first (hdrop ▸ List.mem_cons_self)
    simp only [hdrop, List.head_cons] at hfirst
    rw [hfirst] at hspace
    exact nomatch hspace

@[simp] theorem trim_nil : trim [] = [] := rfl

end Text
