import Mathlib.Data.List.Basic

/-!
# Dictionaries in insertion order

A dictionary is the list of its entries, in the order in which the keys were first
given a value. `List.lookup` reads it. Assigning to a key that is there replaces
the value where it stands, and so does not change the order; a new key goes to the
end.
-/

namespace Dict

variable {K V : Type} [BEq K]

/-- `dict[key] = value`. -/
def set (key : K) (value : V) : List (K × V) → List (K × V)
  | [] => [(key, value)]
  | entry :: rest => if entry.1 == key then (key, value) :: rest else entry :: set key value rest

/-- `dict.pop(key, None)`. -/
def remove (key : K) (dict : List (K × V)) : List (K × V) := dict.filter (fun entry => entry.1 != key)

theorem mem_set {key : K} {value : V} {dict : List (K × V)} {entry : K × V}
    (h : entry ∈ set key value dict) : entry = (key, value) ∨ entry ∈ dict := by
  induction dict with
  | nil => exact .inl (List.mem_singleton.mp h)
  | cons first rest ih =>
    unfold set at h
    split at h
    · rcases List.mem_cons.mp h with rfl | h
      · exact .inl rfl
      · exact .inr (List.mem_cons_of_mem _ h)
    · rcases List.mem_cons.mp h with rfl | h
      · exact .inr List.mem_cons_self
      · exact (ih h).imp id (List.mem_cons_of_mem _)

theorem mem_of_mem_remove {key : K} {dict : List (K × V)} {entry : K × V}
    (h : entry ∈ remove key dict) : entry ∈ dict := (List.mem_filter.mp h).1

variable [LawfulBEq K]

/-- **What is read after an assignment.** -/
@[simp] theorem lookup_set (key key' : K) (value : V) (dict : List (K × V)) :
    (set key value dict).lookup key' = if key' == key then some value else dict.lookup key' := by
  induction dict with
  | nil => cases h : key' == key <;> simp [set, List.lookup_cons, h]
  | cons entry rest ih =>
    obtain ⟨name, old⟩ := entry
    unfold set
    by_cases hname : name = key
    · subst hname
      cases h : key' == name <;> simp [List.lookup_cons, h]
    · rw [if_neg (by simpa using hname), List.lookup_cons, List.lookup_cons, ih]
      by_cases hkey : key' = name
      · subst hkey
        simp [hname]
      · simp [beq_false_of_ne hkey]

/-- **What is read after a removal.** -/
theorem lookup_remove_of_ne {key key' : K} (h : key' ≠ key) (dict : List (K × V)) :
    (remove key dict).lookup key' = dict.lookup key' := by
  induction dict with
  | nil => rfl
  | cons entry rest ih =>
    obtain ⟨name, value⟩ := entry
    unfold remove at ih ⊢
    by_cases hname : name = key
    · rw [List.filter_cons_of_neg (by simp [hname]), ih, List.lookup_cons,
        beq_false_of_ne (hname ▸ h)]
    · rw [List.filter_cons_of_pos (by simpa using hname), List.lookup_cons, List.lookup_cons, ih]

theorem lookup_remove_self (key : K) (dict : List (K × V)) :
    (remove key dict).lookup key = none := by
  rw [List.lookup_eq_none_iff]
  intro entry hentry
  have hne : entry.1 ≠ key := by simpa using (List.mem_filter.mp hentry).2
  simpa using hne.symm

/-- What is read under a key is an entry. -/
theorem mem_of_lookup {key : K} {value : V} {dict : List (K × V)}
    (h : dict.lookup key = some value) : (key, value) ∈ dict := by
  induction dict with
  | nil => exact nomatch h
  | cons entry rest ih =>
    obtain ⟨name, old⟩ := entry
    rw [List.lookup_cons] at h
    by_cases hkey : key = name
    · subst hkey
      simp only [beq_self_eq_true, Option.some.injEq] at h
      exact h ▸ List.mem_cons_self
    · rw [beq_false_of_ne hkey] at h
      exact List.mem_cons_of_mem _ (ih h)

/-! ## Different keys -/

/-- **The keys of a dictionary** are different. -/
def Keyed (dict : List (K × V)) : Prop := (dict.map Prod.fst).Nodup

omit [BEq K] [LawfulBEq K] in
theorem keyed_nil : Keyed ([] : List (K × V)) := List.nodup_nil

/-- A new key goes to the end. -/
theorem set_of_not_mem {key : K} {value : V} {dict : List (K × V)}
    (h : key ∉ dict.map Prod.fst) : set key value dict = dict ++ [(key, value)] := by
  induction dict with
  | nil => rfl
  | cons entry rest ih =>
    rw [List.map_cons, List.mem_cons, not_or] at h
    rw [set, if_neg (by simpa using Ne.symm h.1), ih h.2]
    rfl

/-- A key that is there stays where it is. -/
theorem map_fst_set_of_mem {key : K} {value : V} {dict : List (K × V)}
    (h : key ∈ dict.map Prod.fst) : (set key value dict).map Prod.fst = dict.map Prod.fst := by
  induction dict with
  | nil => simp at h
  | cons entry rest ih =>
    unfold set
    by_cases heq : entry.1 = key
    · rw [if_pos (by simpa using heq), List.map_cons, List.map_cons, heq]
    · rw [List.map_cons, List.mem_cons] at h
      have hrest := h.resolve_left (Ne.symm heq)
      rw [if_neg (by simpa using heq), List.map_cons, List.map_cons, ih hrest]

/-- An assignment keeps the keys different. -/
theorem Keyed.set {dict : List (K × V)} (h : Keyed dict) (key : K) (value : V) :
    Keyed (Dict.set key value dict) := by
  unfold Keyed
  by_cases hmem : key ∈ dict.map Prod.fst
  · rw [map_fst_set_of_mem hmem]
    exact h
  · rw [set_of_not_mem hmem, List.map_append, List.map_singleton, List.nodup_append]
    refine ⟨h, List.pairwise_singleton _ key, fun a ha b hb hab => hmem ?_⟩
    rw [hab, List.mem_singleton.mp hb] at ha
    exact ha

/-- The entries of a dictionary are what is read. -/
theorem Keyed.lookup_eq_some_iff {dict : List (K × V)} (h : Keyed dict) {key : K} {value : V} :
    dict.lookup key = some value ↔ (key, value) ∈ dict := by
  refine ⟨mem_of_lookup, fun hmem => ?_⟩
  induction dict with
  | nil => simp at hmem
  | cons entry rest ih =>
    obtain ⟨name, old⟩ := entry
    obtain ⟨hname, hrest⟩ := List.nodup_cons.mp h
    rw [List.lookup_cons]
    rcases List.mem_cons.mp hmem with heq | hin
    · obtain ⟨rfl, rfl⟩ := Prod.mk.inj heq
      simp
    · have hne : key ≠ name := by
        rintro rfl
        exact hname (List.mem_map.mpr ⟨(key, value), hin, rfl⟩)
      rw [beq_false_of_ne hne]
      exact ih hrest hin

/-- **The order of the entries** does not matter to what is read. -/
theorem Keyed.lookup_perm {dict dict' : List (K × V)} (h : Keyed dict) (hp : dict'.Perm dict)
    (key : K) : dict'.lookup key = dict.lookup key := by
  have h' : Keyed dict' := (hp.map Prod.fst).nodup_iff.mpr h
  refine Option.ext (fun value => ?_)
  rw [h'.lookup_eq_some_iff, h.lookup_eq_some_iff, hp.mem_iff]

end Dict
