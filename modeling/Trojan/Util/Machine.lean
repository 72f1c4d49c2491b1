import Mathlib.Data.List.Basic

/-!
# Machines and their runs

A machine is given by its step function: in each state an event is either
taken, and leads to a state, or refused. A run is a list of events taken one
after the other, and what has to be shown of a program is nearly always that
something holds in *every state a run visits*.

A few rules carry the inductions. `Machine.run_invariant` is the plain one:
what holds at the start and is preserved by a step holds at the end of every
run. `Machine.run_invariant_along` restricts it to the runs whose steps meet a
condition – the form a law takes when some step of the program breaks it – and
`Machine.along_iff` says when a run meets such a condition: exactly when every
step that it takes does. `Machine.forall_visits_iff_along` is the exact form: a
law that one step keeps exactly under a condition holds all along the runs that
meet it, and along no others. Two rules are for two
runs: by `Machine.run_filter`, deleting some of the events leaves a run that is related
to the one there was, if the deleted steps keep to themselves, and by `Machine.run_view`
runs that differ only in what cannot be seen end alike.
-/

namespace Machine

variable {S E : Type}

/-- **A run**: the events taken one after the other, refused as a whole as
soon as one of them is. -/
def run (step : S → E → Option S) : S → List E → Option S
  | s, [] => some s
  | s, e :: es => (step s e).bind (fun t => run step t es)

/-- A run meets a condition when every event it takes meets it in the state
in which it is taken. -/
def Along (step : S → E → Option S) (C : S → E → Prop) : S → List E → Prop
  | _, [] => True
  | s, e :: es => C s e ∧ ∀ t, step s e = some t → Along step C t es

/-- The states a run visits: those its beginnings lead to. -/
def Visits (step : S → E → Option S) (s : S) (es : List E) (t : S) : Prop :=
  ∃ pre, pre <+: es ∧ run step s pre = some t

variable {step : S → E → Option S}

@[simp] theorem run_nil (s : S) : run step s [] = some s := rfl

/-- A run that starts with an event takes it and goes on. -/
theorem run_cons {s : S} {e : E} {es : List E} {u : S} :
    run step s (e :: es) = some u ↔
      ∃ t, step s e = some t ∧ run step t es = some u :=
  Option.bind_eq_some_iff

/-- A run of two lists of events is a run of the first followed by a run of
the second. -/
theorem run_append (s : S) (es fs : List E) :
    run step s (es ++ fs) = (run step s es).bind (fun t => run step t fs) := by
  induction es generalizing s with
  | nil => rfl
  | cons e es ih =>
    show (step s e).bind (fun t => run step t (es ++ fs))
      = ((step s e).bind (fun t => run step t es)).bind (fun t => run step t fs)
    rw [Option.bind_assoc]
    exact congrArg _ (funext ih)

/-- A run of one more event is a run, then a step. -/
theorem run_concat {s u : S} {es : List E} {e : E} :
    run step s (es ++ [e]) = some u ↔
      ∃ t, run step s es = some t ∧ step t e = some u := by
  rw [run_append, Option.bind_eq_some_iff]
  refine exists_congr (fun t => and_congr_right (fun _ => ?_))
  show (step t e).bind some = some u ↔ _
  cases step t e with
  | none => exact Iff.rfl
  | some v => exact Iff.rfl

/-- A run of events that stand for something else. -/
theorem run_map {D : Type} (f : D → E) (s : S) (ds : List D) :
    run step s (ds.map f) = run (fun s d => step s (f d)) s ds := by
  induction ds generalizing s with
  | nil => rfl
  | cons d ds ih => exact congrArg _ (funext ih)

/-- Every beginning of a run is a run. -/
theorem exists_run_of_beginning {s t : S} {pre es : List E} (h : run step s es = some t)
    (hpre : pre <+: es) : ∃ u, run step s pre = some u := by
  obtain ⟨rest, rfl⟩ := hpre
  rw [run_append, Option.bind_eq_some_iff] at h
  obtain ⟨u, hu, -⟩ := h
  exact ⟨u, hu⟩

/-- **The invariant rule.** What a step preserves, a run preserves. -/
theorem run_invariant {P : S → Prop}
    (hstep : ∀ s e t, P s → step s e = some t → P t) {s t : S} {es : List E}
    (hs : P s) (hrun : run step s es = some t) : P t := by
  induction es generalizing s with
  | nil => exact Option.some.inj hrun ▸ hs
  | cons e es ih =>
    obtain ⟨u, hu, hrest⟩ := run_cons.mp hrun
    exact ih (hstep s e u hs hu) hrest

/-- The invariant rule along the runs of some of the events. -/
theorem run_invariant_of_forall {P : S → Prop} {G : E → Prop}
    (hstep : ∀ s e t, G e → P s → step s e = some t → P t) {s t : S} {es : List E}
    (hG : ∀ e ∈ es, G e) (hs : P s) (hrun : run step s es = some t) : P t := by
  induction es generalizing s with
  | nil => exact Option.some.inj hrun ▸ hs
  | cons e es ih =>
    obtain ⟨u, hu, hrest⟩ := run_cons.mp hrun
    exact ih (fun e he => hG e (List.mem_cons_of_mem _ he))
      (hstep s e u (hG e List.mem_cons_self) hs hu) hrest

/-- **The invariant rule under a condition.** What every step that meets the
condition preserves, every run whose steps meet it preserves. -/
theorem run_invariant_along {P : S → Prop} {C : S → E → Prop}
    (hstep : ∀ s e t, P s → C s e → step s e = some t → P t) {s t : S}
    {es : List E} (hs : P s) (hC : Along step C s es)
    (hrun : run step s es = some t) : P t := by
  induction es generalizing s with
  | nil => exact Option.some.inj hrun ▸ hs
  | cons e es ih =>
    obtain ⟨u, hu, hrest⟩ := run_cons.mp hrun
    exact ih (hstep s e u hs hC.1 hu) (hC.2 u hu) hrest

/-- **One condition gives another**, along the runs that meet it, by an invariant. -/
theorem Along.imp_of_invariant {P : S → Prop} {C D : S → E → Prop}
    (hstep : ∀ s e t, P s → C s e → step s e = some t → P t)
    (himp : ∀ s e, P s → C s e → D s e) {s : S} {es : List E} (hs : P s)
    (hC : Along step C s es) : Along step D s es := by
  induction es generalizing s with
  | nil => trivial
  | cons e es ih =>
    exact ⟨himp s e hs hC.1, fun t ht => ih (hstep s e t hs hC.1 ht) (hC.2 t ht)⟩

/-- A run meets a condition after an event that is taken. -/
theorem along_cons {C : S → E → Prop} {s t : S} {e : E} {es : List E} (h : step s e = some t) :
    Along step C s (e :: es) ↔ C s e ∧ Along step C t es := by
  refine and_congr_right (fun _ => ⟨fun hrest => hrest t h, fun hrest u hu => ?_⟩)
  exact Option.some.inj (h.symm.trans hu) ▸ hrest

/-- Whether a run meets a condition can be computed, if the condition can. -/
instance decidableAlong {C : S → E → Prop} [∀ s e, Decidable (C s e)] :
    ∀ (s : S) (es : List E), Decidable (Along step C s es)
  | _, [] => .isTrue trivial
  | s, e :: es =>
    match h : step s e with
    | none =>
      decidable_of_iff (C s e)
        ⟨fun hC => ⟨hC, fun _ ht => absurd (h.symm.trans ht) (by simp)⟩, And.left⟩
    | some t =>
      have := decidableAlong (C := C) t es
      decidable_of_iff (C s e ∧ Along step C t es) (along_cons h).symm

/-- **When a run meets a condition**: exactly when every step it takes, after
any of its beginnings, meets it. -/
theorem along_iff {C : S → E → Prop} {s : S} {es : List E} :
    Along step C s es ↔
      ∀ pre e, pre ++ [e] <+: es → ∀ t, run step s pre = some t → C t e := by
  induction es generalizing s with
  | nil =>
    refine ⟨fun _ pre e hpre => ?_, fun _ => trivial⟩
    exact absurd (List.prefix_nil.mp hpre) (by simp)
  | cons a as ih =>
    constructor
    · rintro ⟨ha, hrest⟩ pre e hpre t ht
      cases pre with
      | nil =>
        obtain ⟨rfl, -⟩ := List.cons_prefix_cons.mp hpre
        exact Option.some.inj ht ▸ ha
      | cons b bs =>
        obtain ⟨rfl, hbs⟩ := List.cons_prefix_cons.mp hpre
        obtain ⟨u, hu, hut⟩ := run_cons.mp ht
        exact ih.mp (hrest u hu) bs e hbs t hut
    · intro h
      refine ⟨h [] a (List.cons_prefix_cons.mpr ⟨rfl, List.nil_prefix⟩) s rfl, ?_⟩
      intro u hu
      refine ih.mpr (fun pre e hpre t ht => ?_)
      exact h (a :: pre) e (List.cons_prefix_cons.mpr ⟨rfl, hpre⟩) t
        (run_cons.mpr ⟨u, hu, ht⟩)

/-- A beginning of a run that meets a condition meets it. -/
theorem Along.beginning {C : S → E → Prop} {s : S} {pre es : List E}
    (hC : Along step C s es) (hpre : pre <+: es) : Along step C s pre :=
  along_iff.mpr (fun p e hp => along_iff.mp hC p e (hp.trans hpre))

/-- A run visits the state it is in, and what it visits after its first step. -/
theorem visits_cons {s t u : S} {e : E} {es : List E} (h : step s e = some u) :
    Visits step s (e :: es) t ↔ t = s ∨ Visits step u es t := by
  constructor
  · rintro ⟨pre, hpre, hrun⟩
    cases pre with
    | nil => exact .inl (Option.some.inj hrun).symm
    | cons a as =>
      obtain ⟨rfl, has⟩ := List.cons_prefix_cons.mp hpre
      obtain ⟨v, hv, hrest⟩ := run_cons.mp hrun
      obtain rfl := Option.some.inj (h.symm.trans hv)
      exact .inr ⟨as, has, hrest⟩
  · rintro (rfl | ⟨pre, hpre, hrun⟩)
    · exact ⟨[], List.nil_prefix, rfl⟩
    · exact ⟨e :: pre, List.cons_prefix_cons.mpr ⟨rfl, hpre⟩, run_cons.mpr ⟨u, h, hrun⟩⟩

/-- **The exact condition of a law**, along the runs of some of the events. If, as long
as the law holds, a step keeps it exactly when it meets the condition, then the law
holds in every state a run visits exactly when all its steps meet the condition.
What else is needed of the states may itself rest on the law. -/
theorem forall_visits_iff_along_of_forall {I P : S → Prop} {C : S → E → Prop} {G : E → Prop}
    (hinv : ∀ s e t, G e → I s → P s → step s e = some t → P t → I t)
    (hstep : ∀ s e t, G e → I s → P s → step s e = some t → (P t ↔ C s e))
    {s u : S} {es : List E} (hG : ∀ e ∈ es, G e) (hI : I s) (hP : P s)
    (hrun : run step s es = some u) :
    (∀ t, Visits step s es t → P t) ↔ Along step C s es := by
  induction es generalizing s with
  | nil =>
    refine iff_of_true (fun t ⟨pre, hpre, ht⟩ => ?_) trivial
    rw [List.prefix_nil.mp hpre] at ht
    exact Option.some.inj ht ▸ hP
  | cons e es ih =>
    obtain ⟨t, ht, hrest⟩ := run_cons.mp hrun
    have hGe := hG e List.mem_cons_self
    have hGs : ∀ e ∈ es, G e := fun e he => hG e (List.mem_cons_of_mem _ he)
    constructor
    · intro hall
      have hPt : P t := hall t ((visits_cons ht).mpr (.inr ⟨[], List.nil_prefix, rfl⟩))
      refine ⟨(hstep s e t hGe hI hP ht).mp hPt, fun v hv => ?_⟩
      obtain rfl := Option.some.inj (ht.symm.trans hv)
      refine (ih hGs (hinv s e t hGe hI hP ht hPt) hPt hrest).mp (fun v hv => ?_)
      exact hall v ((visits_cons ht).mpr (.inr hv))
    · rintro ⟨hC, halong⟩ v hv
      have hPt : P t := (hstep s e t hGe hI hP ht).mpr hC
      rcases (visits_cons ht).mp hv with rfl | hv
      · exact hP
      · exact (ih hGs (hinv s e t hGe hI hP ht hPt) hPt hrest).mpr (halong t ht) v hv

/-- The exact condition of a law, along all runs. -/
theorem forall_visits_iff_along {I P : S → Prop} {C : S → E → Prop}
    (hinv : ∀ s e t, I s → P s → step s e = some t → P t → I t)
    (hstep : ∀ s e t, I s → P s → step s e = some t → (P t ↔ C s e))
    {s u : S} {es : List E} (hI : I s) (hP : P s) (hrun : run step s es = some u) :
    (∀ t, Visits step s es t → P t) ↔ Along step C s es :=
  forall_visits_iff_along_of_forall (G := fun _ => True) (fun s e t _ => hinv s e t)
    (fun s e t _ => hstep s e t) (fun _ _ => trivial) hI hP hrun

/-- Every event of a run is one of its events, and meets what they all meet. -/
theorem along_and_of_forall {C : S → E → Prop} {s : S} {es : List E} {p : E → Prop}
    (hC : Along step C s es) (hp : ∀ e ∈ es, p e) :
    Along step (fun s e => C s e ∧ p e) s es := by
  refine along_iff.mpr (fun pre e hpre t ht => ⟨along_iff.mp hC pre e hpre t ht, hp e ?_⟩)
  exact hpre.subset (List.mem_append_right _ List.mem_cons_self)

/-- **Deleting events from a run.** If the other run can always follow a step
that is kept, and a step that is deleted leaves the two runs related, then
without the deleted events there is a run, and it ends related to the one there
was. -/
theorem run_filter {R : S → S → Prop} {C : S → E → Prop} {keep : E → Bool}
    (hkept : ∀ s s' e t, R s s' → C s e → keep e = true → step s e = some t →
      ∃ t', step s' e = some t' ∧ R t t')
    (hdeleted : ∀ s s' e t, R s s' → C s e → keep e = false → step s e = some t → R t s')
    {s s' t : S} {es : List E} (hR : R s s') (hC : Along step C s es)
    (hrun : run step s es = some t) :
    ∃ t', run step s' (es.filter keep) = some t' ∧ R t t' := by
  induction es generalizing s s' with
  | nil => exact ⟨s', rfl, Option.some.inj hrun ▸ hR⟩
  | cons e es ih =>
    obtain ⟨u, hu, hrest⟩ := run_cons.mp hrun
    cases hkeep : keep e with
    | true =>
      obtain ⟨u', hu', hR'⟩ := hkept s s' e u hR hC.1 hkeep hu
      obtain ⟨t', ht', hend⟩ := ih hR' (hC.2 u hu) hrest
      rw [List.filter_cons_of_pos hkeep]
      exact ⟨t', run_cons.mpr ⟨u', hu', ht'⟩, hend⟩
    | false =>
      rw [List.filter_cons_of_neg (by rw [hkeep]; exact Bool.false_ne_true)]
      exact ih (hdeleted s s' e u hR hC.1 hkeep hu) (hC.2 u hu) hrest

/-- **Two runs that cannot be told apart.** If what can be seen of a state after a step
depends only on what can be seen of the state before and of the event, then two runs that
look alike at the start and in their events look alike at the end, or are both refused. -/
theorem run_view {V W : Type} {view : S → V} {label : E → W}
    (hstep : ∀ s s' e e', view s = view s' → label e = label e' →
      (step s e).map view = (step s' e').map view)
    {s s' : S} {es es' : List E} (hs : view s = view s') (hes : es.map label = es'.map label) :
    (run step s es).map view = (run step s' es').map view := by
  induction es generalizing s s' es' with
  | nil =>
    obtain rfl := List.map_eq_nil_iff.mp hes.symm
    exact congrArg some hs
  | cons e es ih =>
    cases es' with
    | nil => cases hes
    | cons e' es' =>
      obtain ⟨he, hes⟩ := List.cons.inj hes
      have hnext := hstep s s' e e' hs he
      show ((step s e).bind (fun t => run step t es)).map view
        = ((step s' e').bind (fun t => run step t es')).map view
      cases ht : step s e with
      | none =>
        rw [ht] at hnext
        rw [Option.map_eq_none_iff.mp hnext.symm]
        rfl
      | some t =>
        rw [ht] at hnext
        obtain ⟨t', ht', hview⟩ := Option.map_eq_some_iff.mp hnext.symm
        rw [ht']
        exact ih hview.symm hes

/-- **One of several machines steps**: the number of those with a property changes as
it does for that machine. -/
theorem countP_set_add {machines : List S} {i : ℕ} {s : S} (h : machines[i]? = some s) (t : S)
    (p : S → Bool) :
    (machines.set i t).countP p + (p s).toNat = machines.countP p + (p t).toNat := by
  obtain ⟨hi, hget⟩ := List.getElem?_eq_some_iff.mp h
  have hif (b : Bool) : (if b = true then 1 else 0) = b.toNat := by cases b <;> rfl
  have hle : (p s).toNat ≤ machines.countP p := by
    cases hp : p s with
    | true => exact List.countP_pos_iff.mpr ⟨s, List.mem_of_getElem? h, hp⟩
    | false => exact Nat.zero_le _
  rw [List.countP_set hi, hget, hif, hif]
  omega

end Machine
