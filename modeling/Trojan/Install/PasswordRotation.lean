import Mathlib.Data.List.TakeDrop
import Trojan.Install.Runtime

/-!
# Rotating the password

`tp rotate-password` reads the environment file, gives `TROJAN_PASSWORD` another value and
writes all entries back (`cli.py`, `manifest.py`). What was in the file is not kept: there
are no comments in what is written, no lines that are not entries, and the entries are in
another order. What is read is the same all the same, but for the password
(`Python.cmdRotatePassword_frame`).

An entry that was read is such that it can be read again (`Environment.Legible`): its line
has no boundary in it and nothing to strip, does not look like a comment, and its first `=`
stands between the key and the value. Whatever else there is in the key or the value does
not matter.
-/

/-- The pieces of a list that is split have nothing in them that it is split at. -/
theorem List.eq_false_of_mem_splitOnP {α : Type} {p : α → Bool} {l piece : List α}
    (hpiece : piece ∈ l.splitOnP p) : ∀ a ∈ piece, p a = false := by
  induction l generalizing piece with
  | nil => simp_all
  | cons a l ih =>
    rw [List.splitOnP_cons_eq_if_modifyHead] at hpiece
    split at hpiece
    · rcases List.mem_cons.mp hpiece with rfl | hpiece
      · simp
      · exact ih hpiece
    · rename_i ha
      obtain ⟨first, rest, hsplit⟩ := List.exists_cons_of_ne_nil (List.splitOnP_ne_nil p l)
      rw [hsplit, List.modifyHead_cons] at hpiece
      rw [hsplit] at ih
      rcases List.mem_cons.mp hpiece with rfl | hpiece
      · exact List.forall_mem_cons.mpr ⟨by simpa using ha, ih List.mem_cons_self⟩
      · exact ih (List.mem_cons_of_mem first hpiece)

namespace Environment

/-- The line of an entry. -/
def line (item : Text × Text) : Text := item.1 ++ equals :: item.2

/-- **An entry that can be read again.** -/
structure Legible (item : Text × Text) : Prop where
  unbroken : ∀ unit ∈ line item, isLineBoundary unit = false
  stripped : strip (line item) = line item
  noComment : (line item).head? ≠ some 0x23
  key : equals ∉ item.1

/-! ## What is read -/

theorem mem_strip {unit : UInt16} {rawLine : Text} (h : unit ∈ strip rawLine) :
    unit ∈ rawLine :=
  (List.dropWhile_suffix isSpace).mem ((List.rdropWhile_prefix isSpace _).mem h)

/-- Stripping what is stripped changes nothing. -/
theorem strip_strip (rawLine : Text) : strip (strip rawLine) = strip rawLine :=
  Text.dropWhile_ends isSpace rawLine

/-- A text is what is in front of its first `=`, and what is behind it. -/
theorem line_sides {text : Text} (h : equals ∈ text) :
    line (text.takeWhile (· != equals), (text.dropWhile (· != equals)).drop 1) = text := by
  unfold line
  dsimp only
  cases hdrop : text.dropWhile (· != equals) with
  | nil =>
    have hall := List.dropWhile_eq_nil_iff.mp hdrop equals h
    simp at hall
  | cons unit rest =>
    have hunit : unit = equals := by
      have hhead := List.head_dropWhile_not (· != equals) (l := text) (by simp [hdrop])
      simpa [hdrop] using hhead
    have hcut := List.takeWhile_append_dropWhile (p := (· != equals)) (l := text)
    rw [hdrop, hunit] at hcut
    exact hcut

/-- A line that is not passed over gives an entry that can be read again. -/
theorem legible_sides {rawLine : Text} (hunbroken : ∀ unit ∈ rawLine, isLineBoundary unit = false)
    (hcomment : (strip rawLine).head? ≠ some 0x23) (hentry : equals ∈ strip rawLine) :
    Legible ((strip rawLine).takeWhile (· != equals),
      ((strip rawLine).dropWhile (· != equals)).drop 1) where
  unbroken := by
    rw [line_sides hentry]
    exact fun unit hunit => hunbroken unit (mem_strip hunit)
  stripped := by
    rw [line_sides hentry]
    exact strip_strip rawLine
  noComment := by
    rw [line_sides hentry]
    exact hcomment
  key := fun hmem => by simpa using List.mem_takeWhile_imp hmem

/-- **What is kept of a file while it is read**: entries with different keys, that can be
read again. -/
structure Loaded (env : List (Text × Text)) : Prop where
  keyed : Dict.Keyed env
  legible : ∀ item ∈ env, Legible item

theorem Loaded.set {env : List (Text × Text)} (h : Loaded env) {key value : Text}
    (hitem : Legible (key, value)) : Loaded (Dict.set key value env) := by
  refine ⟨h.keyed.set key value, fun item hmem => ?_⟩
  rcases Dict.mem_set hmem with rfl | hmem
  · exact hitem
  · exact h.legible item hmem

theorem loaded_loadLine {env : List (Text × Text)} (h : Loaded env) {rawLine : Text}
    (hunbroken : ∀ unit ∈ rawLine, isLineBoundary unit = false) :
    Loaded (loadLine env rawLine) := by
  unfold loadLine
  dsimp only
  split
  · exact h
  · rename_i hentry
    simp only [Bool.or_eq_true, not_or, beq_iff_eq, Bool.not_eq_true', Bool.not_eq_false,
      List.contains_iff_mem] at hentry
    exact h.set (legible_sides hunbroken hentry.1.2 hentry.2)

/-- **What is read from a file can be read again.** -/
theorem loaded_parse (text : Text) : Loaded (parse text) := by
  have hloop (lines : List Text) (env : List (Text × Text)) (henv : Loaded env)
      (hlines : ∀ rawLine ∈ lines, ∀ unit ∈ rawLine, isLineBoundary unit = false) :
      Loaded (lines.foldl loadLine env) := by
    induction lines generalizing env with
    | nil => exact henv
    | cons rawLine lines ih =>
      obtain ⟨hfirst, hrest⟩ := List.forall_mem_cons.mp hlines
      exact ih _ (loaded_loadLine henv hfirst) hrest
  exact hloop _ [] ⟨Dict.keyed_nil, by simp⟩ (fun _ h => List.eq_false_of_mem_splitOnP h)

/-! ## Writing, and reading again -/

/-- A line that was written gives its entry. -/
theorem loadLine_line {item : Text × Text} (h : Legible item) (env : List (Text × Text)) :
    loadLine env (line item) = Dict.set item.1 item.2 env := by
  have hmem : equals ∈ line item := by simp [line]
  have hkey : ∀ unit ∈ item.1, (unit != equals) = true := by
    intro unit hunit
    simpa using fun heq : unit = equals => h.key (heq ▸ hunit)
  unfold loadLine
  rw [h.stripped]
  dsimp only
  rw [if_neg]
  · have hfront : (line item).takeWhile (· != equals) = item.1 := by
      rw [line, List.takeWhile_append_of_pos hkey, List.takeWhile_cons_of_neg (by simp),
        List.append_nil]
    have hback : ((line item).dropWhile (· != equals)).drop 1 = item.2 := by
      rw [line, List.dropWhile_append_of_pos hkey, List.dropWhile_cons_of_neg (by simp)]
      rfl
    rw [hfront, hback]
  · simp only [Bool.or_eq_true, not_or, beq_iff_eq, Bool.not_eq_true', Bool.not_eq_false,
      List.contains_iff_mem]
    exact ⟨⟨by simp [line], h.noComment⟩, hmem⟩

/-- The loop over the lines of entries that were written adds these entries. -/
theorem foldl_loadLine_lines (items env : List (Text × Text))
    (hlegible : ∀ item ∈ items, Legible item) (hkeyed : Dict.Keyed (env ++ items)) :
    (List.splitOnP isLineBoundary (items.flatMap (fun item => line item ++ [10]))).foldl
      loadLine env = env ++ items := by
  induction items generalizing env with
  | nil => simp [List.splitOnP_nil, loadLine, strip]
  | cons item items ih =>
    obtain ⟨hfirst, hrest⟩ := List.forall_mem_cons.mp hlegible
    have hnew : item.1 ∉ env.map Prod.fst := by
      intro hmem
      rw [Dict.Keyed, List.map_append, List.nodup_append] at hkeyed
      exact hkeyed.2.2 _ hmem _ (List.mem_cons_self) rfl
    rw [List.flatMap_cons, List.append_assoc, List.singleton_append,
      List.splitOnP_append_cons_of_forall_mem hfirst.unbroken 10 (by decide), List.foldl_cons,
      loadLine_line hfirst, Dict.set_of_not_mem hnew]
    rw [ih (env ++ [item]) hrest (by simpa using hkeyed), List.append_assoc]
    rfl

/-- **What was written is read**, in the order of the keys. -/
theorem parse_render {env : List (Text × Text)} (h : Loaded env) :
    parse (render env) = sortedItems env := by
  have hperm : (sortedItems env).Perm env := Sorter.insertion.perm _ env
  have hkeyed : Dict.Keyed ([] ++ sortedItems env) :=
    (hperm.map Prod.fst).nodup_iff.mpr h.keyed
  exact foldl_loadLine_lines (sortedItems env) []
    (fun item hitem => h.legible item (hperm.mem_iff.mp hitem)) hkeyed

/-- What is read under a key is what was written. -/
theorem lookup_parse_render {env : List (Text × Text)} (h : Loaded env) (key : Text) :
    (parse (render env)).lookup key = env.lookup key := by
  rw [parse_render h]
  exact h.keyed.lookup_perm (Sorter.insertion.perm _ env) key

/-! ## The password -/

theorem isSpace_of_isLineBoundary {unit : UInt16} (h : isLineBoundary unit = true) :
    isSpace unit = true := by
  simp only [isLineBoundary, isSpace, Bool.or_eq_true, Bool.and_eq_true, decide_eq_true_eq,
    beq_iff_eq, UInt16.le_iff_toNat_le, ← UInt16.toNat_inj, UInt16.reduceToNat] at h ⊢
  omega

/-- There is no space in a token. -/
theorem isSpace_of_mem_token {token : Python.Token} {unit : UInt16} (h : unit ∈ token.text) :
    isSpace unit = false := by
  have hurlsafe := List.all_eq_true.mp token.urlsafe unit h
  refine Bool.eq_false_iff.mpr (fun hspace => ?_)
  simp only [isSpace, Bool.or_eq_true, Bool.and_eq_true, decide_eq_true_eq,
    beq_iff_eq, UInt16.le_iff_toNat_le, ← UInt16.toNat_inj, UInt16.reduceToNat] at hspace hurlsafe
  omega

/-- A token can be read again. -/
theorem legible_token (token : Python.Token) :
    Legible (Text.ofString "TROJAN_PASSWORD", token.text) := by
  have hname : ∀ unit ∈ Text.ofString "TROJAN_PASSWORD",
      isSpace unit = false ∧ unit ≠ equals := by
    have hall : (Text.ofString "TROJAN_PASSWORD").all
        (fun unit => !isSpace unit && unit != equals) = true := by
      decide +kernel
    simpa using hall
  have hspace : ∀ unit ∈ line (Text.ofString "TROJAN_PASSWORD", token.text),
      isSpace unit = false := by
    intro unit hunit
    rcases List.mem_append.mp hunit with hunit | hunit
    · exact (hname unit hunit).1
    · rcases List.mem_cons.mp hunit with rfl | hunit
      · rfl
      · exact isSpace_of_mem_token hunit
  refine ⟨fun unit hunit => ?_, Text.dropWhile_ends_of_forall isSpace hspace, ?_,
    fun hmem => (hname equals hmem).2 rfl⟩
  · refine Bool.eq_false_iff.mpr (fun hbreak => ?_)
    have hfalse := hspace unit hunit
    rw [isSpace_of_isLineBoundary hbreak] at hfalse
    cases hfalse
  · have hfirst : (line (Text.ofString "TROJAN_PASSWORD", token.text)).head? = some 0x54 := rfl
    rw [hfirst]
    decide

end Environment

namespace InstallRoot

/-- What is loaded from the environment file can be read again. -/
theorem loaded_loadEnvFile {root : InstallRoot} {env : List (Text × Text)}
    (h : root.loadEnvFile = some env) : Environment.Loaded env := by
  unfold loadEnvFile at h
  split at h
  · obtain rfl := Option.some.inj h
    exact ⟨Dict.keyed_nil, by simp⟩
  · obtain ⟨text, -, rfl⟩ := Option.map_eq_some_iff.mp h
    exact Environment.loaded_parse text

/-- What was written to the environment file is loaded from it. -/
theorem loadEnvFile_of_writeEnvFile {root root' : InstallRoot} {outcome : WriteOutcome}
    {env : List (Text × Text)} (h : root.writeEnvFile outcome env = .ok root') :
    root'.loadEnvFile = some (Environment.parse (Environment.render env)) := by
  obtain ⟨hformed, rfl⟩ := writeText_ok h
  have hplace : Function.update root Place.env (some (Environment.render env)) Place.env
      = some (Environment.render env) := Function.update_self _ _ _
  unfold loadEnvFile
  rw [readText_of_wellFormed hplace hformed, hplace]
  rfl

end InstallRoot

namespace Python

/-- **Rotating the password changes only the password.** If the environment file can be
read, or there is none, the command succeeds when the write goes through. Whenever it
succeeds, the file can be read again, and what is read is what was read before but for the
password, which is the new one; no other file has changed. -/
theorem cmdRotatePassword_frame (token : Token) (root : InstallRoot)
    (before : List (Text × Text)) (hbefore : root.loadEnvFile = some before) :
    (∃ root', cmdRotatePassword .written token root = .ok root')
      ∧ ∀ outcome root', cmdRotatePassword outcome token root = .ok root' →
        (∃ after, root'.loadEnvFile = some after ∧ Dict.Keyed after
          ∧ ∀ key, after.lookup key =
            if key = Text.ofString "TROJAN_PASSWORD" then some token.text
            else before.lookup key)
          ∧ ∀ place, place ≠ .env → root' place = root place := by
  have hcommand (outcome : WriteOutcome) : cmdRotatePassword outcome token root
      = root.writeEnvFile outcome (Dict.set (Text.ofString "TROJAN_PASSWORD") token.text before) := by
    unfold cmdRotatePassword
    rw [hbefore]
  have hloaded : Environment.Loaded (Dict.set (Text.ofString "TROJAN_PASSWORD") token.text before) :=
    (InstallRoot.loaded_loadEnvFile hbefore).set (Environment.legible_token token)
  constructor
  · have hkey : (Text.ofString "TROJAN_PASSWORD").wellFormed = true := by decide +kernel
    have hformed := Environment.wellFormed_render
      ((InstallRoot.wellFormed_loadEnvFile hbefore).set hkey token.wellFormed)
    rw [hcommand, InstallRoot.writeEnvFile, InstallRoot.writeText, if_neg (by simp [hformed])]
    exact ⟨_, InstallRoot.transfer_ok.mpr ⟨rfl, rfl⟩⟩
  · intro outcome root' h
    rw [hcommand] at h
    refine ⟨⟨_, InstallRoot.loadEnvFile_of_writeEnvFile h, ?_, fun key => ?_⟩, fun place hplace =>
      InstallRoot.writeText_frame hplace (.inr h)⟩
    · rw [Environment.parse_render hloaded]
      exact ((Sorter.insertion.perm _ _).map Prod.fst).nodup_iff.mpr hloaded.keyed
    · rw [Environment.lookup_parse_render hloaded, Dict.lookup_set]
      simp only [beq_iff_eq]

/-- An installation with a comment, an entry that is given twice and one with a quoted
value. -/
def annotatedRoot : InstallRoot
  | .env => some (Text.ofString "# home\nTROJAN_PASSWORD=old\nNOTE = \"a=b # c\" \nNOTE = d\n")
  | _ => none

/-- A token. -/
def sampleToken : Token where
  text := Text.ofString "aZ_9-"
  urlsafe := by decide +kernel

/-- The command rotates the password of this installation, and keeps the note. -/
theorem cmdRotatePassword_frame_annotated :
    ∃ root' after, cmdRotatePassword .written sampleToken annotatedRoot = .ok root'
      ∧ root'.loadEnvFile = some after
      ∧ after.lookup (Text.ofString "NOTE ") = some (Text.ofString " d") := by
  have hframe := cmdRotatePassword_frame sampleToken annotatedRoot
    [(Text.ofString "TROJAN_PASSWORD", Text.ofString "old"),
      (Text.ofString "NOTE ", Text.ofString " d")] (by decide +kernel)
  obtain ⟨root', hroot'⟩ := hframe.1
  obtain ⟨⟨after, hafter, -, hlookup⟩, -⟩ := hframe.2 .written root' hroot'
  exact ⟨root', after, hroot', hafter, (hlookup _).trans (by decide +kernel)⟩

end Python
