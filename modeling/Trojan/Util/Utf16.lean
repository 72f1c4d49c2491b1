import Trojan.Util.Text

/-!
# Well-formed Unicode

A text of code units stands for a sequence of characters exactly when its
surrogates come in pairs. Only such a text has an encoding as UTF-8. A string that
a program got from bytes which were not UTF-8 – an argument of a command, the
content of a file – has a lone surrogate for each byte that could not be decoded,
and can be passed on but not written.

Well-formed texts can be put together, and may be cut wherever there is a unit
that is not half of a pair. `Text.codePoints` gives the order in which languages
that compare characters put their strings.
-/

namespace Text

def isHighSurrogate (unit : UInt16) : Bool := 0xD800 ≤ unit && unit < 0xDC00

def isLowSurrogate (unit : UInt16) : Bool := 0xDC00 ≤ unit && unit < 0xE000

def isSurrogate (unit : UInt16) : Bool := isHighSurrogate unit || isLowSurrogate unit

/-- **Every surrogate is half of a pair.** -/
def wellFormed : Text → Bool
  | [] => true
  | [unit] => !isSurrogate unit
  | unit :: next :: rest =>
    if isHighSurrogate unit then isLowSurrogate next && wellFormed rest
    else !isLowSurrogate unit && wellFormed (next :: rest)

/-- The characters of a text; a lone surrogate counts as one. -/
def codePoints : Text → List ℕ
  | [] => []
  | [unit] => [unit.toNat]
  | high :: low :: rest =>
    if isHighSurrogate high && isLowSurrogate low then
      (0x10000 + (high.toNat - 0xD800) * 0x400 + (low.toNat - 0xDC00)) :: codePoints rest
    else high.toNat :: codePoints (low :: rest)

/-- The encoding of a character. -/
def encodeUtf8 (c : ℕ) : List UInt8 :=
  if c < 0x80 then [UInt8.ofNat c]
  else if c < 0x800 then [UInt8.ofNat (0xC0 + c / 0x40), UInt8.ofNat (0x80 + c % 0x40)]
  else if c < 0x10000 then
    [UInt8.ofNat (0xE0 + c / 0x1000), UInt8.ofNat (0x80 + c / 0x40 % 0x40),
      UInt8.ofNat (0x80 + c % 0x40)]
  else
    [UInt8.ofNat (0xF0 + c / 0x40000), UInt8.ofNat (0x80 + c / 0x1000 % 0x40),
      UInt8.ofNat (0x80 + c / 0x40 % 0x40), UInt8.ofNat (0x80 + c % 0x40)]

/-- The bytes of a well-formed text. -/
def utf8 (t : Text) : List UInt8 := t.codePoints.flatMap encodeUtf8

/-- What precedes a unit that is no surrogate, and what follows it, is
well-formed if the whole is. -/
theorem wellFormed_append_cons {t u : Text} {unit : UInt16} (hunit : isSurrogate unit = false) :
    wellFormed (t ++ unit :: u) = (wellFormed t && wellFormed u) := by
  have hhigh : isHighSurrogate unit = false := (Bool.or_eq_false_iff.mp hunit).1
  have hlow : isLowSurrogate unit = false := (Bool.or_eq_false_iff.mp hunit).2
  have hcons : wellFormed (unit :: u) = wellFormed u := by
    cases u with
    | nil => simp [wellFormed, hunit]
    | cons next u => simp [wellFormed, hhigh, hlow]
  induction t using wellFormed.induct with
  | case1 => simpa [wellFormed] using hcons
  | case2 single =>
    rw [List.singleton_append, wellFormed.eq_3, hcons, wellFormed.eq_2]
    cases hhigh' : isHighSurrogate single <;> simp [isSurrogate, hhigh', hlow]
  | case3 first next rest h ih =>
    rw [List.cons_append, List.cons_append, wellFormed, wellFormed, if_pos h, if_pos h, ih,
      Bool.and_assoc]
  | case4 first next rest h ih =>
    rw [List.cons_append, List.cons_append, wellFormed, wellFormed, if_neg h, if_neg h,
      ← List.cons_append, ih, Bool.and_assoc]

/-- **Well-formed texts can be put together.** -/
theorem wellFormed_append {t u : Text} (ht : wellFormed t = true) :
    wellFormed (t ++ u) = wellFormed u := by
  induction t using wellFormed.induct with
  | case1 => rfl
  | case2 single =>
    have hnot : isSurrogate single = false := by simpa [wellFormed] using ht
    simpa [wellFormed] using wellFormed_append_cons (t := []) (u := u) hnot
  | case3 first next rest h ih =>
    rw [wellFormed, if_pos h, Bool.and_eq_true] at ht
    rw [List.cons_append, List.cons_append, wellFormed, if_pos h, ht.1, ih ht.2, Bool.true_and]
  | case4 first next rest h ih =>
    rw [wellFormed, if_neg h, Bool.and_eq_true] at ht
    rw [List.cons_append, List.cons_append, wellFormed, if_neg h, ← List.cons_append, ht.1,
      ih ht.2, Bool.true_and]

/-- A text without surrogates is well-formed. -/
theorem wellFormed_of_forall {t : Text} (h : ∀ unit ∈ t, isSurrogate unit = false) :
    wellFormed t = true := by
  induction t with
  | nil => rfl
  | cons unit t ih =>
    have hsplit := wellFormed_append_cons (t := []) (u := t) (h unit List.mem_cons_self)
    rw [List.nil_append] at hsplit
    rw [hsplit, ih (fun v hv => h v (List.mem_cons_of_mem _ hv))]
    rfl

/-- What units that are no surrogates stand before is well-formed if the whole is. -/
theorem wellFormed_of_append_right {t u : Text} (ht : ∀ unit ∈ t, isSurrogate unit = false)
    (h : wellFormed (t ++ u) = true) : wellFormed u = true :=
  (wellFormed_append (wellFormed_of_forall ht)).symm.trans h

/-- What units that are no surrogates stand behind is well-formed if the whole is. -/
theorem wellFormed_of_append_left {t u : Text} (hu : ∀ unit ∈ u, isSurrogate unit = false)
    (h : wellFormed (t ++ u) = true) : wellFormed t = true := by
  cases u with
  | nil => rwa [List.append_nil] at h
  | cons unit u =>
    rw [wellFormed_append_cons (hu unit List.mem_cons_self), Bool.and_eq_true] at h
    exact h.1

section Cuts

variable {p : UInt16 → Bool} (hp : ∀ unit, p unit = true → isSurrogate unit = false)

include hp

/-- What is left when units that are no surrogates are removed from the front. -/
theorem wellFormed_dropWhile {t : Text} (h : wellFormed t = true) :
    wellFormed (t.dropWhile p) = true := by
  rw [← List.takeWhile_append_dropWhile (p := p) (l := t)] at h
  exact wellFormed_of_append_right (fun unit hu => hp unit (List.mem_takeWhile_imp hu)) h

/-- What is left when units that are no surrogates are removed from the back. -/
theorem wellFormed_rdropWhile {t : Text} (h : wellFormed t = true) :
    wellFormed (t.rdropWhile p) = true := by
  have hback : t.rdropWhile p ++ t.rtakeWhile p = t := List.rdropWhile_append_rtakeWhile
  rw [← hback] at h
  exact wellFormed_of_append_left (fun unit hu => hp unit (List.mem_rtakeWhile_imp hu)) h

/-- The pieces of a text that is split at units that are no surrogates. -/
theorem wellFormed_of_mem_splitOnP {t piece : Text} (h : wellFormed t = true)
    (hpiece : piece ∈ t.splitOnP p) : wellFormed piece = true := by
  induction hlen : t.length using Nat.strong_induction_on generalizing t with
  | _ n ih =>
    by_cases hsep : ∃ unit ∈ t, p unit = true
    · obtain ⟨front, unit, back, hunit, hfront, rfl⟩ :
          ∃ front unit back, p unit = true ∧ (∀ x ∈ front, p x = false)
            ∧ t = front ++ unit :: back := by
        have hcut : t = t.takeWhile (fun x => !p x) ++ t.dropWhile (fun x => !p x) :=
          (List.takeWhile_append_dropWhile).symm
        cases hdrop : t.dropWhile (fun x => !p x) with
        | nil =>
          obtain ⟨x, hx, hpx⟩ := hsep
          have := List.dropWhile_eq_nil_iff.mp hdrop x hx
          simp [hpx] at this
        | cons unit back =>
          have hhead := List.head_dropWhile_not (fun x => !p x) (l := t) (by simp [hdrop])
          simp only [hdrop, List.head_cons] at hhead
          refine ⟨t.takeWhile (fun x => !p x), unit, back, by simpa using hhead, ?_, ?_⟩
          · intro x hx
            simpa using List.mem_takeWhile_imp hx
          · rw [← hdrop]
            exact hcut
      rw [wellFormed_append_cons (hp unit hunit), Bool.and_eq_true] at h
      rw [List.splitOnP_append_cons_of_forall_mem hfront unit hunit] at hpiece
      rcases List.mem_cons.mp hpiece with rfl | hpiece
      · exact h.1
      · refine ih back.length ?_ h.2 hpiece rfl
        rw [← hlen, List.length_append, List.length_cons]
        omega
    · have hnone : ∀ x ∈ t, p x = false := fun x hx => by
        cases hpx : p x with
        | false => rfl
        | true => exact absurd ⟨x, hx, hpx⟩ hsep
      rw [List.splitOnP_eq_singleton hnone, List.mem_singleton] at hpiece
      exact hpiece ▸ h

end Cuts

end Text
