import Mathlib.Data.List.Forall2
import Trojan.Util.Text

/-!
# JSON values and typed access to them

A program that reads JSON holds a tree of untyped values, and asks for the type
of each where it uses it. The accessors below follow a language with nullable
casts: what is absent is null, a null passes, and a value of another type ends
the reading with an error.

A fractional number is kept by the integer it truncates to, which is all that is
asked of it; one that is not finite has none.
-/

inductive Json where
  | null
  | bool (value : Bool)
  | int (value : ℤ)
  /-- A number that is not an integer, and what it truncates to. -/
  | double (truncated : Option ℤ)
  | str (value : Text)
  | arr (items : List Json)
  | obj (fields : List (String × Json))

/-- What ends a reading. -/
inductive ReadError where
  | typeError
  | unsupportedError
  | formatException (message : String)
  deriving DecidableEq, Repr

namespace Json

/-- The value of a key in an object, null if the object does not have it. -/
def field (fields : List (String × Json)) (key : String) : Json :=
  (fields.lookup key).getD .null

def asString : Json → Except ReadError (Option Text)
  | .null => .ok none
  | .str value => .ok (some value)
  | _ => .error .typeError

def asBool : Json → Except ReadError (Option Bool)
  | .null => .ok none
  | .bool value => .ok (some value)
  | _ => .error .typeError

/-- A number, as an integer. -/
def asInt : Json → Except ReadError (Option ℤ)
  | .null => .ok none
  | .int value => .ok (some value)
  | .double (some value) => .ok (some value)
  | .double none => .error .unsupportedError
  | _ => .error .typeError

def asList : Json → Except ReadError (Option (List Json))
  | .null => .ok none
  | .arr items => .ok (some items)
  | _ => .error .typeError

/-- The fields of a value that is an object. -/
def fields? : Json → Option (List (String × Json))
  | .obj fields => some fields
  | _ => none

/-- The fields of a value that is an object, and none for any other. -/
def fieldsOrEmpty (value : Json) : List (String × Json) := value.fields?.getD []

/-- A field that is written only if there is something to write. -/
def optional (key : String) (value : Option Json) : List (String × Json) :=
  (value.map (Prod.mk key)).toList

@[simp] theorem asString_null : asString .null = .ok none := rfl
@[simp] theorem asString_str (t : Text) : asString (.str t) = .ok (some t) := rfl
@[simp] theorem asBool_null : asBool .null = .ok none := rfl
@[simp] theorem asBool_bool (b : Bool) : asBool (.bool b) = .ok (some b) := rfl
@[simp] theorem asInt_null : asInt .null = .ok none := rfl
@[simp] theorem asInt_int (n : ℤ) : asInt (.int n) = .ok (some n) := rfl
@[simp] theorem asList_null : asList .null = .ok none := rfl
@[simp] theorem asList_arr (items : List Json) : asList (.arr items) = .ok (some items) := rfl
@[simp] theorem fields?_obj (fields : List (String × Json)) :
    fields? (.obj fields) = some fields := rfl
@[simp] theorem fieldsOrEmpty_obj (fields : List (String × Json)) :
    fieldsOrEmpty (.obj fields) = fields := rfl

@[simp] theorem field_nil (key : String) : field [] key = .null := rfl

@[simp] theorem field_cons (key key' : String) (value : Json) (fields : List (String × Json)) :
    field ((key', value) :: fields) key = if key = key' then value else field fields key := by
  unfold field
  rw [List.lookup_cons]
  by_cases hkey : key = key'
  · simp [hkey]
  · simp [hkey, beq_false_of_ne hkey]

/-- A field that may have been left out is read as null then, if it does not
follow. -/
@[simp] theorem field_optional_append (key key' : String) (value : Option Json)
    (fields : List (String × Json)) :
    field (optional key' value ++ fields) key =
      if key = key' then value.getD (field fields key) else field fields key := by
  cases value with
  | none => simp [optional]
  | some value => simp [optional]

@[simp] theorem field_optional (key key' : String) (value : Option Json) :
    field (optional key' value) key = if key = key' then value.getD .null else .null := by
  have happ := field_optional_append key key' value []
  rwa [List.append_nil] at happ

/-- Reading a list yields what each of its elements yields. -/
theorem mapM_eq_ok_iff {α β ε : Type} {f : α → Except ε β} {l : List α} {out : List β} :
    l.mapM f = .ok out ↔ List.Forall₂ (fun a b => f a = .ok b) l out := by
  induction l generalizing out with
  | nil =>
    rw [List.forall₂_nil_left_iff]
    exact ⟨fun h => (Except.ok.inj h).symm, fun h => congrArg Except.ok h.symm⟩
  | cons a l ih =>
    rw [List.mapM_cons, List.forall₂_cons_left_iff]
    constructor
    · intro h
      cases hhead : f a with
      | error e =>
        rw [hhead] at h
        exact nomatch h
      | ok b =>
        cases htail : l.mapM f with
        | error e =>
          rw [hhead, htail] at h
          exact nomatch h
        | ok rest =>
          rw [hhead, htail] at h
          exact ⟨b, rest, rfl, ih.mp htail, (Except.ok.inj h).symm⟩
    · rintro ⟨b, rest, hhead, htail, rfl⟩
      rw [hhead, ih.mpr htail]
      rfl

/-- What is read from a list is read from one of its elements. -/
theorem exists_of_mem_mapM {α β ε : Type} {f : α → Except ε β} {l : List α} {out : List β}
    (h : l.mapM f = .ok out) {b : β} (hb : b ∈ out) : ∃ a ∈ l, f a = .ok b := by
  have hall := mapM_eq_ok_iff.mp h
  clear h
  induction hall with
  | nil => exact nomatch hb
  | @cons a c l out hhead _ ih =>
    rcases List.mem_cons.mp hb with rfl | hb
    · exact ⟨a, List.mem_cons_self, hhead⟩
    · obtain ⟨a', ha', hread⟩ := ih hb
      exact ⟨a', List.mem_cons_of_mem a ha', hread⟩

end Json
