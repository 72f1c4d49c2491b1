import Mathlib.Data.List.GetD

/-!
# Reading inside a view

A view is a stretch of a buffer with a length of its own, and nothing keeps a program
that has a view from reading past its end. Here such a program is written so that it
stops there: each of its reads either finds a symbol or is a fault, which says which
index was read in a view of which length. A view is cut into others by their positions;
a position behind the end is a fault of another kind, since the cut is refused.

A program *stays inside* its views if it does not end with a read outside of one.
-/

namespace Views

/-- **What goes wrong** with a view. -/
inductive Fault where
  /-- A read at an index that the view does not have. -/
  | outside (index length : ℕ)
  /-- A cut at a position behind the end. -/
  | refused (position length : ℕ)
  deriving DecidableEq, Repr

/-- **A program that looks at views**: what it returns, or what goes wrong first. -/
abbrev Checked (V : Type) := Except Fault V

variable {A V : Type}

/-- Read the symbol at an index. -/
def read (view : List A) (i : ℕ) : Checked A :=
  match view[i]? with
  | some a => .ok a
  | none => .error (.outside i view.length)

/-- Read a number of symbols, one after the other. -/
def readRange (view : List A) (position count : ℕ) : Checked (List A) :=
  (List.range' position count).mapM (read view)

/-- Cut a view at a position, and take so much of it at most. -/
def substr (view : List A) (position count : ℕ) : Checked (List A) :=
  if position ≤ view.length then .ok ((view.drop position).take count)
  else .error (.refused position view.length)

/-- Cut a view at a position. -/
def substrFrom (view : List A) (position : ℕ) : Checked (List A) :=
  if position ≤ view.length then .ok (view.drop position)
  else .error (.refused position view.length)

/-- **A program stays inside its views.** -/
def StaysInside (x : Checked V) : Prop := ∀ index length, x ≠ .error (.outside index length)

/-! ## What is inside is found -/

@[simp] theorem ok_bind {W : Type} (v : V) (f : V → Checked W) :
    ((.ok v : Checked V) >>= f) = f v := rfl

theorem read_eq_getD {view : List A} {i : ℕ} (h : i < view.length) (default : A) :
    read view i = .ok (view.getD i default) := by
  unfold read
  rw [List.getElem?_eq_getElem h, List.getD_eq_getElem _ _ h]

theorem read_cons_zero (a : A) (view : List A) : read (a :: view) 0 = .ok a := rfl

theorem readRange_eq {view : List A} {position count : ℕ}
    (h : position + count ≤ view.length) :
    readRange view position count = .ok ((view.drop position).take count) := by
  unfold readRange
  induction count generalizing position with
  | zero => rfl
  | succ count ih =>
    have hposition : position < view.length := by omega
    have hread : read view position = .ok view[position] := by
      unfold read
      rw [List.getElem?_eq_getElem hposition]
    rw [List.range'_succ, List.mapM_cons, hread, ih (by omega),
      List.drop_eq_getElem_cons hposition]
    rfl

theorem substr_eq {view : List A} {position : ℕ} (h : position ≤ view.length) (count : ℕ) :
    substr view position count = .ok ((view.drop position).take count) := if_pos h

theorem substrFrom_eq {view : List A} {position : ℕ} (h : position ≤ view.length) :
    substrFrom view position = .ok (view.drop position) := if_pos h

/-- **When a program stays inside**, if it is known when it reads outside and that it
returns otherwise. -/
theorem staysInside_iff {x : Checked V} {v : V} {bad : Prop} {index length : ℕ}
    (hbad : bad → x = .error (.outside index length)) (hgood : ¬ bad → x = .ok v) :
    StaysInside x ↔ ¬ bad := by
  constructor
  · exact fun hinside h => hinside index length (hbad h)
  · intro h index length heq
    rw [hgood h] at heq
    cases heq

end Views
