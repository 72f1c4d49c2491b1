import Mathlib.Data.List.Basic

/-!
# Frames on a byte stream

A stream socket does not keep the boundaries of what was written to it: the
reader gets the bytes in pieces of any size, appends each piece to a buffer
and tries to decode a frame at the front of the buffer. Whether this gives
back the frames that were written is a property of the code alone.

A `FrameCode` is a decoder that looks no further than the frame it finds: what
it decodes at the front of a buffer it also decodes when more bytes follow
(`decode_append`), and it has decoded the whole frame (`decode_encode`). From
these two alone a proper beginning of a frame is never decoded
(`FrameCode.decode_of_proper`), and the front of any buffer whose bytes,
followed by the bytes still to come, are a list of frames is understood
completely: it is the first frame, or too short for it
(`FrameCode.front`). That case distinction is what a reader's loop turns on,
whatever drives the loop.

A reader must also bound its buffer. The usual bound is one on what it holds of
a frame that is not complete (`FrameCode.next`), and this is harmless exactly
for the frames that are at most one symbol longer: `FrameCode.next_of_stream`
and `FrameCode.next_of_long`. A program that reads frames is followed through
its run by the place it is at in the stream (`FrameCode.At`), which every read
and every delivery moves on.
-/

/-- **A self-delimiting code** of frames `F`, decoded to values `V` together
with the number of symbols the frame takes. -/
structure FrameCode (A F V : Type) where
  /-- The symbols of a frame. -/
  encode : F → List A
  /-- What a decoder finds at the front of a buffer, and how long it is. -/
  decode : List A → Option (V × ℕ)
  /-- The value a frame stands for. -/
  value : F → V
  /-- A frame is decoded, and taken whole. -/
  decode_encode : ∀ f, decode (encode f) = some (value f, (encode f).length)
  /-- What follows a frame does not change how it is decoded. -/
  decode_append : ∀ p v n r, decode p = some (v, n) → decode (p ++ r) = some (v, n)
  /-- A frame is inside the buffer it is decoded from. -/
  decode_le : ∀ p v n, decode p = some (v, n) → n ≤ p.length
  /-- A frame takes at least one symbol. -/
  decode_pos : ∀ p v n, decode p = some (v, n) → 0 < n

namespace FrameCode

variable {A F V : Type} (c : FrameCode A F V)

/-- The symbols of a list of frames. -/
def stream (fs : List F) : List A := fs.flatMap c.encode

@[simp] theorem stream_nil : c.stream [] = [] := rfl

@[simp] theorem stream_cons (f : F) (fs : List F) :
    c.stream (f :: fs) = c.encode f ++ c.stream fs := List.flatMap_cons

/-- A buffer that starts with a frame decodes to it. -/
theorem decode_encode_append (f : F) (r : List A) :
    c.decode (c.encode f ++ r) = some (c.value f, (c.encode f).length) :=
  c.decode_append _ _ _ r (c.decode_encode f)

theorem encode_length_pos (f : F) : 0 < (c.encode f).length :=
  c.decode_pos _ _ _ (c.decode_encode f)

/-- An empty buffer decodes to nothing. -/
theorem decode_nil : c.decode [] = none := by
  rcases h : c.decode [] with _ | ⟨v, n⟩
  · rfl
  · have hle : n ≤ 0 := c.decode_le [] v n h
    have hpos := c.decode_pos [] v n h
    omega

/-- **A proper beginning of a frame is not decoded**: it would be decoded in
the same way with the rest of the frame behind it, and so be the whole. -/
theorem decode_of_proper {f : F} {p : List A} (hp : p <+: c.encode f)
    (hne : p ≠ c.encode f) : c.decode p = none := by
  rcases h : c.decode p with _ | ⟨v, n⟩
  · rfl
  · obtain ⟨r, hr⟩ := hp
    have hwhole := c.decode_append p v n r h
    rw [hr, c.decode_encode f] at hwhole
    have hn : (c.encode f).length = n := (Prod.mk.inj (Option.some.inj hwhole)).2
    have hle := c.decode_le p v n h
    have hlen : p.length + r.length = (c.encode f).length := by
      rw [← List.length_append, hr]
    have hrnil : r = [] := List.length_eq_zero_iff.mp (by omega)
    exact absurd (by rw [← hr, hrnil, List.append_nil]) hne

/-- What the front of a buffer can be when its symbols, followed by those
still to come, are the frames `fs`. -/
inductive Front (c : FrameCode A F V) (buf unread : List A) : List F → Prop where
  /-- The first frame is there, and the rest is the rest. -/
  | whole (f : F) (fs : List F) (rest : List A) (hbuf : buf = c.encode f ++ rest)
      (hrest : rest ++ unread = c.stream fs) : Front c buf unread (f :: fs)
  /-- The first frame is not all there yet. -/
  | part (f : F) (fs : List F) (hpre : buf <+: c.encode f)
      (hne : buf ≠ c.encode f) (hall : buf ++ unread = c.encode f ++ c.stream fs) :
      Front c buf unread (f :: fs)
  /-- Everything has been decoded. -/
  | done (hbuf : buf = []) (hunread : unread = []) : Front c buf unread []

/-- **The front of the buffer.** A buffer of a stream of frames starts with
the next frame, or is a proper beginning of it, or the stream is over. -/
theorem front {buf unread : List A} {fs : List F}
    (h : buf ++ unread = c.stream fs) : Front c buf unread fs := by
  cases fs with
  | nil =>
    obtain ⟨hbuf, hunread⟩ := List.append_eq_nil_iff.mp h
    exact .done hbuf hunread
  | cons f fs =>
    rw [stream_cons] at h
    rcases List.append_eq_append_iff.mp h with ⟨r, henc, hun⟩ | ⟨r, hbuf, hrest⟩
    · by_cases hr : r = []
      · subst hr
        refine .whole f fs [] ?_ ?_
        · rw [henc, List.append_nil, List.append_nil]
        · rw [hun, List.nil_append, List.nil_append]
      · refine .part f fs ⟨r, henc.symm⟩ (fun heq => hr ?_) h
        exact List.append_cancel_left
          (show buf ++ r = buf ++ [] by rw [← henc, List.append_nil, heq])
    · exact .whole f fs r hbuf hrest.symm

/-- **What a reader does next** with its buffer: deliver what it decodes and go
on with the rest; wait for more; or give up, because what it holds is not a
frame and is longer than its limit. -/
inductive Next (A V : Type) where
  | deliver (v : V) (rest : List A)
  | wait
  | overflow

/-- The decision of a reader with a limit on what it holds of a frame. -/
def next (limit : ℕ) (buf : List A) : Next A V :=
  match c.decode buf with
  | some (v, n) => .deliver v (buf.drop n)
  | none => if buf.length > limit then .overflow else .wait

/-- A buffer that is part of a frame is shorter than the frame. -/
theorem length_lt_of_proper {f : F} {p : List A} (hp : p <+: c.encode f)
    (hne : p ≠ c.encode f) : p.length < (c.encode f).length :=
  Nat.lt_of_le_of_ne hp.length_le (fun h => hne (hp.eq_of_length h))

/-- **A reader of frames that are at most one symbol longer than its limit**
never gives up: it delivers the frame that comes next, and waits only if that
frame is not there yet. -/
theorem next_of_stream {limit : ℕ} {buf unread : List A} {fs : List F}
    (h : buf ++ unread = c.stream fs) (hlimit : ∀ f ∈ fs, (c.encode f).length ≤ limit + 1) :
    (∃ f fs' rest, fs = f :: fs' ∧ c.next limit buf = .deliver (c.value f) rest
        ∧ rest ++ unread = c.stream fs')
      ∨ (c.next limit buf = .wait ∧ c.decode buf = none) := by
  have hfront := c.front h
  cases hfront with
  | whole f fs rest hbuf hrest =>
    refine .inl ⟨f, fs, rest, rfl, ?_, hrest⟩
    rw [next, hbuf, c.decode_encode_append]
    show Next.deliver _ (List.drop _ _) = _
    rw [List.drop_left]
  | part f fs hpre hne hall =>
    have hdecode := c.decode_of_proper hpre hne
    have hlength := c.length_lt_of_proper hpre hne
    have hle := hlimit f List.mem_cons_self
    refine .inr ⟨?_, hdecode⟩
    rw [next, hdecode]
    exact if_neg (by omega)
  | done hbuf hunread =>
    refine .inr ⟨?_, hbuf ▸ c.decode_nil⟩
    rw [next, hbuf, c.decode_nil]
    exact if_neg (Nat.not_lt_zero limit)

/-- A reader that waits at the end of the stream has delivered everything. -/
theorem stream_eq_nil_of_wait {buf : List A} {fs : List F} (h : buf = c.stream fs)
    (hdecode : c.decode buf = none) : fs = [] ∧ buf = [] := by
  cases fs with
  | nil => exact ⟨rfl, h⟩
  | cons f fs =>
    rw [h, stream_cons, c.decode_encode_append] at hdecode
    exact absurd hdecode (by simp)

/-- **A stream is cut into frames in one way**, if no two frames look alike: what
begins with some frames and goes on to be a list of frames is that list, from there
on. -/
theorem exists_of_stream_append (hinj : Function.Injective c.encode) {fs gs : List F}
    {rest : List A} (h : c.stream fs ++ rest = c.stream gs) :
    ∃ more, gs = fs ++ more ∧ rest = c.stream more := by
  induction fs generalizing gs with
  | nil => exact ⟨gs, rfl, h⟩
  | cons f fs ih =>
    rw [stream_cons, List.append_assoc] at h
    cases gs with
    | nil =>
      have hpos := c.encode_length_pos f
      rw [(List.append_eq_nil_iff.mp h).1] at hpos
      exact absurd hpos (Nat.lt_irrefl 0)
    | cons g gs =>
      have hdecode := congrArg c.decode h
      rw [stream_cons, c.decode_encode_append, c.decode_encode_append] at hdecode
      have hlength : (c.encode f).length = (c.encode g).length :=
        (Prod.mk.inj (Option.some.inj hdecode)).2
      obtain ⟨hfront, hback⟩ := List.append_inj h hlength
      obtain rfl := hinj hfront
      obtain ⟨more, rfl, hmore⟩ := ih hback
      exact ⟨more, rfl, hmore⟩

/-- **A reader gives up on a longer frame**, if it gets one symbol more of it
than its limit and no more yet. -/
theorem next_of_long {limit : ℕ} {f : F} (hlong : limit + 1 < (c.encode f).length) :
    c.next limit ((c.encode f).take (limit + 1)) = .overflow := by
  have hlength : ((c.encode f).take (limit + 1)).length = limit + 1 :=
    List.length_take_of_le (Nat.le_of_lt hlong)
  have hdecode : c.decode ((c.encode f).take (limit + 1)) = none := by
    refine c.decode_of_proper (List.take_prefix _ _) (fun heq => ?_)
    rw [heq] at hlength
    omega
  rw [next, hdecode]
  exact if_pos (by omega)

/-! ## How far a reader is -/

/-- **A reader is at a place in a stream of frames**: of the frames `fs` it has
delivered `done`, its buffer holds `buf`, and `unread` is what it has not read
yet. -/
def At (fs done : List F) (buf unread : List A) : Prop :=
  ∃ rest, fs = done ++ rest ∧ buf ++ unread = c.stream rest

namespace At

variable {c} {fs done : List F} {buf unread : List A}

/-- At the beginning of a stream. -/
theorem start (h : buf ++ unread = c.stream fs) : c.At fs [] buf unread := ⟨fs, rfl, h⟩

/-- What has been delivered is a beginning of what there is. -/
theorem done_le (h : c.At fs done buf unread) : done <+: fs := by
  obtain ⟨rest, hfs, -⟩ := h
  exact ⟨rest, hfs.symm⟩

/-- A read moves symbols into the buffer. -/
theorem read {piece : List A} (h : c.At fs done buf (piece ++ unread)) :
    c.At fs done (buf ++ piece) unread := by
  obtain ⟨rest, hfs, hall⟩ := h
  exact ⟨rest, hfs, by rw [List.append_assoc, hall]⟩

/-- **The next move of a reader** delivers the next frame, or waits. -/
theorem next {limit : ℕ} (h : c.At fs done buf unread)
    (hlimit : ∀ f ∈ fs, (c.encode f).length ≤ limit + 1) :
    (∃ f rest, c.next limit buf = .deliver (c.value f) rest
        ∧ c.At fs (done ++ [f]) rest unread)
      ∨ (c.next limit buf = .wait ∧ c.decode buf = none) := by
  obtain ⟨rest, hfs, hall⟩ := h
  have hrest : ∀ f ∈ rest, (c.encode f).length ≤ limit + 1 := by
    intro f hf
    exact hlimit f (by rw [hfs]; exact List.mem_append_right _ hf)
  rcases c.next_of_stream hall hrest with ⟨f, fs', buf', rfl, hnext, hbuf'⟩ | hwait
  · refine .inl ⟨f, buf', hnext, fs', ?_, hbuf'⟩
    rw [hfs, List.append_assoc]
    rfl
  · exact .inr hwait

/-- **A reader that waits at the end of the stream** has delivered every frame,
and holds nothing. -/
theorem finished (h : c.At fs done buf []) (hdecode : c.decode buf = none) :
    done = fs ∧ buf = [] := by
  obtain ⟨rest, hfs, hall⟩ := h
  rw [List.append_nil] at hall
  obtain ⟨rfl, hbuf⟩ := c.stream_eq_nil_of_wait hall hdecode
  exact ⟨by rw [hfs, List.append_nil], hbuf⟩

end At

end FrameCode
