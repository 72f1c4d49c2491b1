import Mathlib.Algebra.Group.Nat.Defs
import Mathlib.Data.List.TakeWhile
import Trojan.ServerIngress

/-!
# Trusted-front frames

A front that terminates TLS for the server opens each connection with a frame:
the length of an envelope in decimal, a newline, the envelope – JSON that says
who the client is – and then the client's own bytes
(`core/trusted_front_ingress.cpp`, `core/trusted_front_envelope.cpp`,
`core/external_front_handoff_builder.cpp`).

The JSON reader is a parameter, a fixed function from text to a property tree
or an error, and so is the conversion of a property to a number or flag. All
else is the source's: which keys are read with which defaults, which missing
field rejects the envelope with which reason, and how the frame is cut.

`TrustedFrontFrame` is a well-formed frame. What the parser says of a beginning
of one is known for every place where it can end: it is incomplete until the
envelope is there (`TrustedFrontIngressParser.parse_of_short`), and parsed as
soon as one byte follows it (`TrustedFrontIngressParser.parse_head_append`) –
but a beginning that ends exactly with the envelope is *rejected*, for want of
a payload (`TrustedFrontIngressParser.parse_head`). Of complete byte strings,
frames are all that is parsed (`TrustedFrontIngressParser.parse_grammar`).
-/

/-- A property tree, as far as the code reads it: `get` by key, for the three
types it asks for. A key that is absent, or that does not convert, gives
`none`, and the code's default is taken. -/
structure PropertyTree where
  getString : String → Option Bytes
  getInt : String → Option ℤ
  getBool : String → Option Bool

/-- `read_json`: a fixed function from text to a tree, `none` being a
`json_parser_error`. -/
abbrev JsonReader := Bytes → Option PropertyTree

/-! ## The envelope -/

/-- `TrustedInternalHandoffInput`. -/
structure TrustedInternalHandoffInput where
  sourceName : Bytes := []
  trustedFrontId : Bytes := []
  originalClientIp : Bytes := []
  originalClientPort : UInt16 := 0
  serverName : Bytes := []
  negotiatedAlpn : Bytes := []
  tlsTerminatedByFront : Bool := false
  metadataVerified : Bool := false
  deriving DecidableEq

/-- `TrustedInternalHandoffInputStatus`. -/
inductive TrustedInternalHandoffInputStatus where
  | accepted
  | rejectedMissingSourceName
  | rejectedMissingTrustedFrontId
  | rejectedMissingOriginalClientIdentity
  | rejectedMissingVerifiedTlsTermination
  deriving DecidableEq, Repr

/-- `trusted_internal_handoff_input_status_name`. -/
def TrustedInternalHandoffInputStatus.name : TrustedInternalHandoffInputStatus → String
  | accepted => "accepted_trusted_internal_handoff_input"
  | rejectedMissingSourceName => "rejected_missing_trusted_internal_source_name"
  | rejectedMissingTrustedFrontId => "rejected_missing_trusted_internal_front_id"
  | rejectedMissingOriginalClientIdentity => "rejected_missing_trusted_internal_client_identity"
  | rejectedMissingVerifiedTlsTermination =>
    "rejected_missing_trusted_internal_verified_tls_termination"

/-- **`TrustedInternalHandoffInputContract::evaluate`**. -/
def TrustedInternalHandoffInput.evaluate (input : TrustedInternalHandoffInput) :
    TrustedInternalHandoffInputStatus :=
  if input.sourceName.isEmpty then .rejectedMissingSourceName
  else if input.trustedFrontId.isEmpty then .rejectedMissingTrustedFrontId
  else if input.originalClientIp.isEmpty then .rejectedMissingOriginalClientIdentity
  else if !input.metadataVerified || !input.tlsTerminatedByFront then
    .rejectedMissingVerifiedTlsTermination
  else .accepted

/-- `TrustedFrontEnvelopeParseStatus`. -/
inductive TrustedFrontEnvelopeParseStatus where
  | parsed
  | rejectedInvalidJson
  | rejectedInvalidEnvelope
  deriving DecidableEq, Repr

/-- `trusted_front_envelope_parse_status_name`. -/
def TrustedFrontEnvelopeParseStatus.name : TrustedFrontEnvelopeParseStatus → String
  | parsed => "parsed_trusted_front_envelope"
  | rejectedInvalidJson => "rejected_invalid_trusted_front_envelope_json"
  | rejectedInvalidEnvelope => "rejected_invalid_trusted_front_envelope"

/-- `TrustedFrontEnvelopeParseResult`. -/
structure TrustedFrontEnvelopeParseResult where
  status : TrustedFrontEnvelopeParseStatus := .rejectedInvalidJson
  reason : String
  input : Option TrustedInternalHandoffInput
  deriving DecidableEq

/-- An `int` stored in a `uint16_t`. -/
def toUInt16 (n : ℤ) : UInt16 := UInt16.ofNat (n % 65536).toNat

/-- The fields of an envelope, each with its default. -/
def TrustedInternalHandoffInput.ofTree (tree : PropertyTree) : TrustedInternalHandoffInput where
  sourceName := (tree.getString "source_name").getD []
  trustedFrontId := (tree.getString "trusted_front_id").getD []
  originalClientIp := (tree.getString "original_client_ip").getD []
  originalClientPort := toUInt16 ((tree.getInt "original_client_port").getD 0)
  serverName := (tree.getString "server_name").getD []
  negotiatedAlpn := (tree.getString "negotiated_alpn").getD []
  tlsTerminatedByFront := (tree.getBool "tls_terminated_by_front").getD false
  metadataVerified := (tree.getBool "metadata_verified").getD false

/-- **`TrustedFrontEnvelopeParser::parse_json`**. -/
def TrustedFrontEnvelopeParser.parseJson (readJson : JsonReader) (payload : Bytes) :
    TrustedFrontEnvelopeParseResult :=
  match readJson payload with
  | none => ⟨.rejectedInvalidJson, TrustedFrontEnvelopeParseStatus.rejectedInvalidJson.name, none⟩
  | some tree =>
    let input := TrustedInternalHandoffInput.ofTree tree
    let decision := input.evaluate
    if decision ≠ .accepted then ⟨.rejectedInvalidEnvelope, decision.name, none⟩
    else ⟨.parsed, TrustedFrontEnvelopeParseStatus.parsed.name, some input⟩

/-! ## The handoff -/

/-- `ExternalFrontHandoffSourceKind`. -/
inductive ExternalFrontHandoffSourceKind where
  | unknown
  | testInjected
  | trustedInternalHandoff
  deriving DecidableEq, Repr

/-- `ExternalFrontHandoff`. -/
structure ExternalFrontHandoff where
  sourceKind : ExternalFrontHandoffSourceKind := .unknown
  sourceName : Bytes := []
  context : Option ExternalFrontContext := none
  deriving DecidableEq

/-- **`ExternalFrontHandoffBuilder::build_trusted_internal_handoff`**: the
handoff, if the input contract accepts, and the reason. -/
def buildTrustedInternalHandoff (input : TrustedInternalHandoffInput) :
    Option ExternalFrontHandoff × String :=
  let decision := input.evaluate
  if decision ≠ .accepted then (none, decision.name)
  else
    let context : ExternalFrontContext :=
      { trustedFrontId := input.trustedFrontId
        originalClientIp := input.originalClientIp
        originalClientPort := input.originalClientPort
        serverName := input.serverName
        negotiatedAlpn := input.negotiatedAlpn
        ingressMode := ascii "trusted_internal_handoff"
        tlsTerminatedByFront := input.tlsTerminatedByFront
        metadataVerified := input.metadataVerified }
    (some ⟨.trustedInternalHandoff, input.sourceName, some context⟩, decision.name)

/-! ## The frame -/

/-- `TrustedFrontIngressParseStatus`. -/
inductive TrustedFrontIngressParseStatus where
  | parsed
  | rejectedIncompleteFrame
  | rejectedInvalidLength
  | rejectedInvalidEnvelope
  | rejectedMissingPayload
  deriving DecidableEq, Repr

/-- `trusted_front_ingress_parse_status_name`. -/
def TrustedFrontIngressParseStatus.name : TrustedFrontIngressParseStatus → String
  | parsed => "parsed_trusted_front_ingress"
  | rejectedIncompleteFrame => "rejected_incomplete_trusted_front_ingress_frame"
  | rejectedInvalidLength => "rejected_invalid_trusted_front_ingress_length"
  | rejectedInvalidEnvelope => "rejected_invalid_trusted_front_ingress_envelope"
  | rejectedMissingPayload => "rejected_missing_trusted_front_downstream_payload"

/-- `TrustedFrontIngressParseResult`. -/
structure TrustedFrontIngressParseResult where
  status : TrustedFrontIngressParseStatus := .rejectedIncompleteFrame
  reason : String
  handoff : Option ExternalFrontHandoff := none
  downstreamPayload : Bytes := []
  deriving DecidableEq

/-- An ASCII digit. -/
def isDigit (b : UInt8) : Bool := 48 ≤ b && b ≤ 57

/-- The number a string of digits denotes. -/
def digitsValue (ds : Bytes) : ℕ := ds.foldl (fun n d => 10 * n + (d.toNat - 48)) 0

/-- `std::from_chars` into a `size_t`: the number the leading digits denote and
how many there are, an error without any digit or from `2 ^ 64` on. -/
def fromChars (view : Bytes) : Option (ℕ × ℕ) :=
  let digits := view.takeWhile isDigit
  if digits = [] then none
  else if digitsValue digits < 2 ^ 64 then some (digitsValue digits, digits.length)
  else none

namespace TrustedFrontIngressParser

/-- A rejection, with the status's own name as the reason. -/
def reject (status : TrustedFrontIngressParseStatus) : TrustedFrontIngressParseResult :=
  ⟨status, status.name, none, []⟩

/-- The frame behind its length line. -/
def parseRemaining (readJson : JsonReader) (remaining : Bytes) (envelopeLength : ℕ) :
    TrustedFrontIngressParseResult :=
  if remaining.length < envelopeLength then reject .rejectedIncompleteFrame
  else
    let envelopePayload := remaining.take envelopeLength
    let downstreamPayload := remaining.drop envelopeLength
    if downstreamPayload.isEmpty then reject .rejectedMissingPayload
    else
      let envelopeResult := TrustedFrontEnvelopeParser.parseJson readJson envelopePayload
      match envelopeResult.status, envelopeResult.input with
      | .parsed, some input =>
        match buildTrustedInternalHandoff input with
        | (none, reason) => ⟨.rejectedInvalidEnvelope, reason, none, []⟩
        | (some handoff, _) =>
          ⟨.parsed, TrustedFrontIngressParseStatus.parsed.name, some handoff,
            downstreamPayload⟩
      | _, _ => ⟨.rejectedInvalidEnvelope, envelopeResult.reason, none, []⟩

/-- **`TrustedFrontIngressParser::parse`**. -/
def parse (readJson : JsonReader) (payload : Bytes) : TrustedFrontIngressParseResult :=
  match payload.findIdx? (· == 10) with
  | none => reject .rejectedIncompleteFrame
  | some newline =>
    let lengthView := payload.take newline
    match fromChars lengthView with
    | none => reject .rejectedInvalidLength
    | some (envelopeLength, consumed) =>
      if consumed ≠ lengthView.length then reject .rejectedInvalidLength
      else parseRemaining readJson (payload.drop (newline + 1)) envelopeLength

end TrustedFrontIngressParser

/-- `TrustedFrontIngressParseResult::parsed`. -/
def TrustedFrontIngressParseResult.isParsed (r : TrustedFrontIngressParseResult) : Bool :=
  r.status = .parsed && r.handoff.isSome

/-- **A well-formed trusted-front frame**: a length line that denotes the
length of the envelope, an envelope the parser accepts, and at least one byte
for the session behind it. -/
structure TrustedFrontFrame (readJson : JsonReader) where
  digits : Bytes
  digits_ne : digits ≠ []
  all_digits : ∀ d ∈ digits, isDigit d = true
  envelope : Bytes
  length_eq : digitsValue digits = envelope.length
  small : envelope.length < 2 ^ 64
  input : TrustedInternalHandoffInput
  accepted : TrustedFrontEnvelopeParser.parseJson readJson envelope
    = ⟨.parsed, TrustedFrontEnvelopeParseStatus.parsed.name, some input⟩
  payload : Bytes
  payload_ne : payload ≠ []

namespace TrustedFrontFrame

variable {readJson : JsonReader} (f : TrustedFrontFrame readJson)

/-- The frame up to the end of its envelope. -/
def head : Bytes := f.digits ++ 10 :: f.envelope

/-- The bytes of a frame. -/
def bytes : Bytes := f.head ++ f.payload

/-- An envelope the parser accepts meets the input contract. -/
theorem evaluate_input : f.input.evaluate = .accepted := by
  have h := f.accepted
  unfold TrustedFrontEnvelopeParser.parseJson at h
  cases hr : readJson f.envelope with
  | none => rw [hr] at h; exact absurd h (by simp)
  | some tree =>
    rw [hr] at h
    dsimp only at h
    split at h
    · exact absurd h (by simp)
    · rename_i he
      have hin := (TrustedFrontEnvelopeParseResult.mk.inj h).2.2
      rw [← Option.some.inj hin]
      exact not_not.mp he

/-- **The handoff of a frame**: what the builder makes of its envelope. -/
def handoff : ExternalFrontHandoff :=
  ⟨.trustedInternalHandoff, f.input.sourceName, some
    { trustedFrontId := f.input.trustedFrontId
      originalClientIp := f.input.originalClientIp
      originalClientPort := f.input.originalClientPort
      serverName := f.input.serverName
      negotiatedAlpn := f.input.negotiatedAlpn
      ingressMode := ascii "trusted_internal_handoff"
      tlsTerminatedByFront := f.input.tlsTerminatedByFront
      metadataVerified := f.input.metadataVerified }⟩

theorem buildTrustedInternalHandoff_input :
    buildTrustedInternalHandoff f.input
      = (some f.handoff, TrustedInternalHandoffInputStatus.accepted.name) := by
  unfold buildTrustedInternalHandoff
  rw [f.evaluate_input]
  rfl

end TrustedFrontFrame

namespace TrustedFrontIngressParser

variable {readJson : JsonReader}

/-- Without a newline the length line is not complete. -/
theorem parse_of_not_mem {p : Bytes} (h : 10 ∉ p) :
    parse readJson p = reject .rejectedIncompleteFrame := by
  have hnone : p.findIdx? (· == 10) = none := by
    rw [List.findIdx?_eq_none_iff]
    intro b hb
    exact beq_false_of_ne (fun hb10 => h (hb10 ▸ hb))
  rw [parse, hnone]

/-- A digit is not a newline. -/
theorem ne_newline_of_isDigit {d : UInt8} (h : isDigit d = true) : d ≠ 10 := by
  rintro rfl
  exact absurd h (by decide)

variable (f : TrustedFrontFrame readJson)

/-- **Behind a frame's length line** the parser looks for the envelope. -/
theorem parse_digits (rest : Bytes) :
    parse readJson (f.digits ++ 10 :: rest)
      = parseRemaining readJson rest f.envelope.length := by
  have hidx : (f.digits ++ 10 :: rest).findIdx? (· == 10) = some f.digits.length := by
    have hnone : f.digits.findIdx? (· == 10) = none := by
      rw [List.findIdx?_eq_none_iff]
      intro d hd
      exact beq_false_of_ne (ne_newline_of_isDigit (f.all_digits d hd))
    rw [List.findIdx?_append, hnone]
    simp [List.findIdx?_cons]
  have hchars : fromChars f.digits = some (f.envelope.length, f.digits.length) := by
    have htake : f.digits.takeWhile isDigit = f.digits :=
      List.takeWhile_eq_self_iff.mpr f.all_digits
    rw [fromChars, htake, if_neg f.digits_ne, f.length_eq, if_pos f.small]
  have hdrop : (f.digits ++ 10 :: rest).drop (f.digits.length + 1) = rest := by
    rw [List.drop_length_add_append]
    rfl
  rw [parse, hidx]
  dsimp only
  rw [List.take_left, hchars, hdrop]
  exact if_neg (not_not.mpr rfl)

/-- What the parser says of a beginning of a frame that stops before the end
of the envelope: nothing yet. -/
theorem parse_of_short {p : Bytes} (hp : p <+: f.bytes) (hlt : p.length < f.head.length) :
    parse readJson p = reject .rejectedIncompleteFrame := by
  have hhead : p <+: f.head := List.prefix_of_prefix_length_le hp (List.prefix_append _ _)
    (Nat.le_of_lt hlt)
  obtain ⟨r, hr⟩ := hhead
  rcases List.append_eq_append_iff.mp hr with ⟨s, hdigits, -⟩ | ⟨s, rfl, hs⟩
  · -- the cut is inside the length
    refine parse_of_not_mem (fun h10 => ?_)
    exact ne_newline_of_isDigit (f.all_digits 10 (hdigits ▸ List.mem_append_left s h10)) rfl
  · -- the cut is behind the newline, inside the envelope
    cases s with
    | nil =>
      refine parse_of_not_mem (fun h10 => ?_)
      rw [List.append_nil] at h10
      exact ne_newline_of_isDigit (f.all_digits 10 h10) rfl
    | cons b s =>
      obtain ⟨rfl, henv⟩ := List.cons.inj hs
      rw [parse_digits, parseRemaining, if_pos]
      simp only [TrustedFrontFrame.head, List.length_append, List.length_cons] at hlt
      omega

/-- **The beginning that ends with the envelope is rejected.** -/
theorem parse_head : parse readJson f.head = reject .rejectedMissingPayload := by
  rw [TrustedFrontFrame.head, parse_digits, parseRemaining, if_neg (Nat.lt_irrefl _)]
  rw [List.drop_length]
  rfl

/-- **A frame is parsed as soon as a byte follows its envelope**, to the
handoff its envelope asks for and the bytes that have followed so far. -/
theorem parse_head_append {q : Bytes} (hq : q ≠ []) :
    parse readJson (f.head ++ q)
      = ⟨.parsed, TrustedFrontIngressParseStatus.parsed.name, some f.handoff, q⟩ := by
  have hassoc : f.head ++ q = f.digits ++ 10 :: (f.envelope ++ q) := by
    rw [TrustedFrontFrame.head, List.append_assoc, List.cons_append]
  have hlong : ¬ (f.envelope ++ q).length < f.envelope.length := by
    rw [List.length_append]
    omega
  have hne : ¬ q.isEmpty = true := by rwa [List.isEmpty_iff]
  rw [hassoc, parse_digits, parseRemaining, if_neg hlong]
  dsimp only
  rw [List.take_left, List.drop_left, if_neg hne, f.accepted]
  dsimp only
  rw [f.buildTrustedInternalHandoff_input]

end TrustedFrontIngressParser

/-! ## The grammar of frames -/

/-- **An envelope the parser accepts is JSON that meets the input contract**,
and what is read from it is the input. -/
theorem exists_tree_of_parseJson {readJson : JsonReader} {payload : Bytes}
    (h : (TrustedFrontEnvelopeParser.parseJson readJson payload).status = .parsed) :
    ∃ tree, readJson payload = some tree
      ∧ (TrustedInternalHandoffInput.ofTree tree).evaluate = .accepted
      ∧ TrustedFrontEnvelopeParser.parseJson readJson payload
        = ⟨.parsed, TrustedFrontEnvelopeParseStatus.parsed.name,
          some (TrustedInternalHandoffInput.ofTree tree)⟩ := by
  unfold TrustedFrontEnvelopeParser.parseJson at h ⊢
  cases hread : readJson payload with
  | none =>
    rw [hread] at h
    exact absurd h (by simp)
  | some tree =>
    rw [hread] at h
    dsimp only at h ⊢
    by_cases haccepted : (TrustedInternalHandoffInput.ofTree tree).evaluate = .accepted
    · refine ⟨tree, rfl, haccepted, ?_⟩
      rw [if_neg (not_not.mpr haccepted)]
    · rw [if_pos haccepted] at h
      exact absurd h (by simp)

/-- What the leading digits denote, if they are the whole view. -/
theorem digits_of_fromChars {view : Bytes} {n : ℕ}
    (h : fromChars view = some (n, view.length)) :
    view ≠ [] ∧ (∀ d ∈ view, isDigit d = true) ∧ digitsValue view = n ∧ n < 2 ^ 64 := by
  unfold fromChars at h
  dsimp only at h
  split at h
  · exact absurd h (by simp)
  rename_i hne
  split at h
  · rename_i hsmall
    obtain ⟨hvalue, hlength⟩ := Prod.mk.inj (Option.some.inj h)
    have hall : view.takeWhile isDigit = view :=
      (List.takeWhile_prefix isDigit).eq_of_length hlength
    rw [hall] at hne hvalue hsmall
    exact ⟨hne, List.takeWhile_eq_self_iff.mp hall, hvalue, hvalue ▸ hsmall⟩
  · exact absurd h (by simp)

namespace TrustedFrontFrame

variable {readJson : JsonReader} (f : TrustedFrontFrame readJson)

/-- The input of a frame is what its envelope says. -/
theorem exists_tree : ∃ tree, readJson f.envelope = some tree
    ∧ f.input = TrustedInternalHandoffInput.ofTree tree := by
  obtain ⟨tree, hread, -, hparse⟩ :=
    exists_tree_of_parseJson (h := by rw [f.accepted])
  refine ⟨tree, hread, ?_⟩
  have hinput := (TrustedFrontEnvelopeParseResult.mk.inj (f.accepted.symm.trans hparse)).2.2
  exact Option.some.inj hinput

end TrustedFrontFrame

/-- **What meets the input contract is trusted**: the contract asks for all that
the trust policy asks for. -/
theorem isTrusted_of_evaluate {input : TrustedInternalHandoffInput}
    (h : input.evaluate = .accepted) {context : ExternalFrontContext}
    (hid : context.trustedFrontId = input.trustedFrontId)
    (hip : context.originalClientIp = input.originalClientIp)
    (htls : context.tlsTerminatedByFront = input.tlsTerminatedByFront)
    (hverified : context.metadataVerified = input.metadataVerified) :
    ExternalFrontTrustPolicy.isTrusted context = true := by
  unfold TrustedInternalHandoffInput.evaluate at h
  split at h
  · exact absurd h (by simp)
  split at h
  · exact absurd h (by simp)
  rename_i hid'
  split at h
  · exact absurd h (by simp)
  rename_i hip'
  split at h
  · exact absurd h (by simp)
  rename_i hflags
  unfold ExternalFrontTrustPolicy.isTrusted ExternalFrontTrustPolicy.validate
  simp only [ExternalFrontTrustPolicy.requiresTrustedFrontId,
    ExternalFrontTrustPolicy.requiresOriginalClientIdentity,
    ExternalFrontTrustPolicy.requiresVerifiedTlsTermination, Bool.true_and]
  rw [hid, hip, htls, hverified, if_neg hid', if_neg hip', if_neg hflags]
  rfl

namespace TrustedFrontIngressParser

variable {readJson : JsonReader}

/-- **What is parsed behind a length line** is an envelope of that length and a
payload. -/
theorem split_of_parseRemaining {remaining : Bytes} {n : ℕ}
    (h : (parseRemaining readJson remaining n).status = .parsed) :
    (remaining.take n).length = n ∧ remaining.drop n ≠ []
      ∧ (TrustedFrontEnvelopeParser.parseJson readJson (remaining.take n)).status = .parsed := by
  unfold parseRemaining at h
  split at h
  · exact absurd h (by simp [reject])
  rename_i hlong
  dsimp only at h
  split at h
  · exact absurd h (by simp [reject])
  rename_i hpayload
  refine ⟨List.length_take_of_le (Nat.le_of_not_lt hlong), ?_, ?_⟩
  · rwa [List.isEmpty_iff] at hpayload
  · split at h
    · rename_i hstatus _
      exact hstatus
    · exact absurd h (by simp)

/-- **What is parsed is a frame.** -/
theorem exists_frame_of_parse {p : Bytes} (h : (parse readJson p).status = .parsed) :
    ∃ f : TrustedFrontFrame readJson, f.bytes = p := by
  unfold parse at h
  split at h
  · exact absurd h (by simp [reject])
  rename_i newline hnewline
  dsimp only at h
  split at h
  · exact absurd h (by simp [reject])
  rename_i n consumed hchars
  split at h
  · exact absurd h (by simp [reject])
  rename_i hconsumed
  rw [not_not.mp hconsumed] at hchars
  obtain ⟨hne, hdigits, hvalue, hsmall⟩ := digits_of_fromChars hchars
  obtain ⟨hlength, hpayload, henvelope⟩ := split_of_parseRemaining h
  obtain ⟨tree, -, -, hparse⟩ := exists_tree_of_parseJson henvelope
  refine ⟨⟨p.take newline, hne, hdigits, (p.drop (newline + 1)).take n, by rw [hvalue, hlength],
    by rw [hlength]; exact hsmall, _, hparse, (p.drop (newline + 1)).drop n, hpayload⟩, ?_⟩
  obtain ⟨hlt, h10, -⟩ := List.findIdx?_eq_some_iff_getElem.mp hnewline
  calc p.take newline ++ 10 :: (p.drop (newline + 1)).take n ++ (p.drop (newline + 1)).drop n
      = p.take newline ++ (10 :: p.drop (newline + 1)) := by
        rw [List.append_assoc, List.cons_append, List.take_append_drop]
    _ = p.take newline ++ p.drop newline := by
        rw [List.drop_eq_getElem_cons hlt, eq_of_beq h10]
    _ = p := List.take_append_drop newline p

/-- Only what is parsed has a handoff. -/
theorem handoff_eq_none_or (readJson : JsonReader) (p : Bytes) :
    (parse readJson p).handoff = none ∨ (parse readJson p).status = .parsed := by
  unfold parse
  split
  · exact .inl rfl
  dsimp only
  split
  · exact .inl rfl
  split
  · exact .inl rfl
  unfold parseRemaining
  split
  · exact .inl rfl
  dsimp only
  split
  · exact .inl rfl
  split
  · split
    · exact .inl rfl
    · exact .inr rfl
  · exact .inl rfl

/-- **The grammar of trusted-front frames.** A byte string is parsed exactly
when it is a frame: digits that denote the length of an envelope, a newline, an
envelope the parser accepts, and a payload that is not empty. The handoff then
says what the envelope says, the payload is the frame's, and the context is one
that the trust policy trusts. Every other byte string is rejected, and there is
no handoff. -/
theorem parse_grammar (readJson : JsonReader) (p : Bytes) :
    ((parse readJson p).status = .parsed ↔ ∃ f : TrustedFrontFrame readJson, f.bytes = p)
      ∧ (∀ f : TrustedFrontFrame readJson, f.bytes = p →
        ∃ tree context, readJson f.envelope = some tree
          ∧ (parse readJson p).isParsed = true
          ∧ (parse readJson p).handoff
            = some ⟨.trustedInternalHandoff, (tree.getString "source_name").getD [], some context⟩
          ∧ context.trustedFrontId = (tree.getString "trusted_front_id").getD []
          ∧ context.originalClientIp = (tree.getString "original_client_ip").getD []
          ∧ context.serverName = (tree.getString "server_name").getD []
          ∧ context.negotiatedAlpn = (tree.getString "negotiated_alpn").getD []
          ∧ context.tlsTerminatedByFront = (tree.getBool "tls_terminated_by_front").getD false
          ∧ context.metadataVerified = (tree.getBool "metadata_verified").getD false
          ∧ (parse readJson p).downstreamPayload = f.payload
          ∧ ExternalFrontTrustPolicy.isTrusted context = true)
      ∧ ((∀ f : TrustedFrontFrame readJson, f.bytes ≠ p) →
        (parse readJson p).status ≠ .parsed ∧ (parse readJson p).handoff = none) := by
  have hframe (f : TrustedFrontFrame readJson) : parse readJson f.bytes
      = ⟨.parsed, TrustedFrontIngressParseStatus.parsed.name, some f.handoff, f.payload⟩ :=
    parse_head_append f f.payload_ne
  refine ⟨⟨exists_frame_of_parse, ?_⟩, ?_, ?_⟩
  · rintro ⟨f, rfl⟩
    rw [hframe]
  · rintro f rfl
    obtain ⟨tree, hread, hinput⟩ := f.exists_tree
    have haccepted := f.evaluate_input
    rw [hframe, TrustedFrontFrame.handoff, hinput]
    rw [hinput] at haccepted
    exact ⟨tree, _, hread, rfl, rfl, rfl, rfl, rfl, rfl, rfl, rfl, rfl,
      isTrusted_of_evaluate haccepted rfl rfl rfl rfl⟩
  · intro hnone
    have hstatus : (parse readJson p).status ≠ .parsed := fun h =>
      let ⟨f, hf⟩ := exists_frame_of_parse h
      hnone f hf
    exact ⟨hstatus, (handoff_eq_none_or readJson p).resolve_right hstatus⟩

end TrustedFrontIngressParser

/-! ## The port of the client -/

/-- The integer that an envelope has for the port of the client, or the default. -/
def PropertyTree.originalClientPort (tree : PropertyTree) : ℤ :=
  (tree.getInt "original_client_port").getD 0

/-- A number that is a port. -/
def IsPort (n : ℤ) : Prop := 0 ≤ n ∧ n ≤ 65535

/-- **A number survives in a `uint16_t`** exactly if it is a port. -/
theorem toNat_toUInt16_eq_iff (n : ℤ) : ((toUInt16 n).toNat : ℤ) = n ↔ IsPort n := by
  have hmod : ((toUInt16 n).toNat : ℤ) = n % 65536 := by
    unfold toUInt16
    rw [UInt16.toNat_ofNat']
    omega
  rw [hmod, IsPort]
  omega

/-- **The port of the client is kept**, for an envelope: if the parser accepts it, the
context of the handoff and the session context that is built from it have the port that
the envelope has, and if that is no port, the parser does not accept it. -/
structure KeepsClientPort (readJson : JsonReader) (envelope : Bytes) (tree : PropertyTree) :
    Prop where
  carried : ∀ input,
    (TrustedFrontEnvelopeParser.parseJson readJson envelope).input = some input →
    ∃ handoff context, (buildTrustedInternalHandoff input).1 = some handoff
      ∧ handoff.context = some context
      ∧ (context.originalClientPort.toNat : ℤ) = tree.originalClientPort
      ∧ ((ExternalFrontInbound.buildContext context).sourcePort.toNat : ℤ)
        = tree.originalClientPort
  rejected : ¬ IsPort tree.originalClientPort →
    (TrustedFrontEnvelopeParser.parseJson readJson envelope).status ≠ .parsed

/-- Metadata that is trusted says from which port a session comes. -/
theorem sourcePort_buildContext {front : ExternalFrontContext}
    (h : ExternalFrontTrustPolicy.isTrusted front = true) :
    (ExternalFrontInbound.buildContext front).sourcePort = front.originalClientPort := by
  unfold ExternalFrontInbound.buildContext
  rw [of_decide_eq_true h]
  rfl

/-- What is not accepted has no input. -/
theorem parseJson_of_not_accepted {readJson : JsonReader} {envelope : Bytes} {tree : PropertyTree}
    (hread : readJson envelope = some tree)
    (h : (TrustedInternalHandoffInput.ofTree tree).evaluate ≠ .accepted) :
    (TrustedFrontEnvelopeParser.parseJson readJson envelope).input = none
      ∧ (TrustedFrontEnvelopeParser.parseJson readJson envelope).status ≠ .parsed := by
  unfold TrustedFrontEnvelopeParser.parseJson
  rw [hread]
  dsimp only
  rw [if_pos h]
  exact ⟨rfl, nofun⟩

/-- What is accepted. -/
theorem parseJson_of_accepted {readJson : JsonReader} {envelope : Bytes} {tree : PropertyTree}
    (hread : readJson envelope = some tree)
    (h : (TrustedInternalHandoffInput.ofTree tree).evaluate = .accepted) :
    TrustedFrontEnvelopeParser.parseJson readJson envelope
      = ⟨.parsed, TrustedFrontEnvelopeParseStatus.parsed.name,
        some (TrustedInternalHandoffInput.ofTree tree)⟩ := by
  unfold TrustedFrontEnvelopeParser.parseJson
  rw [hread]
  dsimp only
  rw [if_neg (not_not.mpr h)]

/-- **When the port of the client is kept**: exactly if it is one, or the envelope is
rejected for something else. No step on the way asks whether it is. -/
theorem keepsClientPort_iff {readJson : JsonReader} {envelope : Bytes} {tree : PropertyTree}
    (hread : readJson envelope = some tree) :
    KeepsClientPort readJson envelope tree
      ↔ ((TrustedInternalHandoffInput.ofTree tree).evaluate = .accepted →
        IsPort tree.originalClientPort) := by
  constructor
  · intro h haccepted
    by_contra hport
    exact h.rejected hport (by rw [parseJson_of_accepted hread haccepted])
  · intro h
    by_cases haccepted : (TrustedInternalHandoffInput.ofTree tree).evaluate = .accepted
    · -- the number passes through the one conversion of `parse_json`, and is copied from there
      have hport := (toNat_toUInt16_eq_iff _).mpr (h haccepted)
      refine ⟨fun input hinput => ?_, fun hnot => absurd (h haccepted) hnot⟩
      rw [parseJson_of_accepted hread haccepted] at hinput
      obtain rfl := Option.some.inj hinput
      unfold buildTrustedInternalHandoff
      rw [haccepted]
      refine ⟨_, _, rfl, rfl, hport, ?_⟩
      rw [sourcePort_buildContext (isTrusted_of_evaluate haccepted rfl rfl rfl rfl)]
      exact hport
    · obtain ⟨hnone, hstatus⟩ := parseJson_of_not_accepted hread haccepted
      refine ⟨fun input hinput => ?_, fun _ => hstatus⟩
      rw [hnone] at hinput
      cases hinput

/-- A front that meets the input contract, with an integer for the port of the client. -/
def envelopeTree (port : ℤ) : PropertyTree where
  getString key :=
    if key = "source_name" then some (ascii "edge")
    else if key = "trusted_front_id" then some (ascii "front-1")
    else if key = "original_client_ip" then some (ascii "192.0.2.7")
    else none
  getInt key := if key = "original_client_port" then some port else none
  getBool key :=
    if key = "tls_terminated_by_front" ∨ key = "metadata_verified" then some true else none

/-- The port of such an envelope is kept. -/
theorem keepsClientPort_envelopeTree :
    KeepsClientPort (fun _ => some (envelopeTree 40001)) [] (envelopeTree 40001) :=
  (@keepsClientPort_iff (fun _ => some (envelopeTree 40001)) [] _ rfl).mpr
    (fun _ => ⟨by decide, by decide⟩)

/-- **Port 65616 becomes port 80**: the envelope is accepted, and the session context
attributes the session to another port. -/
theorem clientPort_reduced :
    ∃ input handoff context,
      (TrustedFrontEnvelopeParser.parseJson (fun _ => some (envelopeTree 65616)) []).input
          = some input
        ∧ (TrustedFrontEnvelopeParser.parseJson (fun _ => some (envelopeTree 65616)) []).status
          = .parsed
        ∧ (buildTrustedInternalHandoff input).1 = some handoff
        ∧ handoff.context = some context
        ∧ (envelopeTree 65616).originalClientPort = 65616
        ∧ context.originalClientPort = 80
        ∧ (ExternalFrontInbound.buildContext context).sourcePort = 80 :=
  ⟨_, _, _, rfl, rfl, rfl, rfl, rfl, rfl, rfl⟩
