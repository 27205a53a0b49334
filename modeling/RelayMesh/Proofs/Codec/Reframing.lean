import Mathlib.Data.List.Basic
import Mathlib.Data.List.TakeDrop
import RelayMesh.Link.Basic

/-!
# Reframing is lossless

A payload that passes between equal formats is cut into frames, and a link
sends the frames one by one.

* `Framing` says what it is for a list of frames to carry a payload at a frame
  length; `framing_frames` says that the frames of a payload do.
* `sameFormat_iff` and `transcode_eq` say when there are frames at all.
* `send_flatten` says that a link which sends frames sends what they hold
  together, so the length of the frames does not matter for the count of bytes.
* `transcode_lossless` is the result for a payload on its way.
-/

namespace RelayMesh

/-- Frames that carry a payload at a frame length; at length zero a payload stays whole. -/
structure Framing (length : Nat) (payload : Payload) (frames : List Payload) : Prop where
  flatten : frames.flatten = payload
  nonempty : ∀ frame ∈ frames, frame ≠ []
  eq_nil_iff : frames = [] ↔ payload = []
  full : 0 < length → ∀ frame ∈ frames.dropLast, frame.length = length
  last : 0 < length → ∀ frame ∈ frames.getLast?, frame.length ≤ length
  whole : length = 0 → payload ≠ [] → frames = [payload]

/-! ## Pieces of a payload -/

theorem pieces_nil (size : Nat) : pieces size [] = [] := by
  rw [pieces]

theorem pieces_cons (size : Nat) (byte : UInt8) (rest : Payload) :
    pieces size (byte :: rest) = (byte :: rest.take size) :: pieces size (rest.drop size) := by
  rw [pieces]

theorem pieces_eq_cons {size : Nat} {payload : Payload} (h : payload ≠ []) :
    pieces size payload = payload.take (size + 1) :: pieces size (payload.drop (size + 1)) := by
  cases payload with
  | nil => exact absurd rfl h
  | cons byte rest => rw [pieces_cons, List.take_succ_cons, List.drop_succ_cons]

theorem pieces_eq_nil_iff {size : Nat} {payload : Payload} :
    pieces size payload = [] ↔ payload = [] := by
  cases payload with
  | nil => simp [pieces_nil]
  | cons byte rest => simp [pieces_cons]

theorem flatten_pieces (size : Nat) (payload : Payload) :
    (pieces size payload).flatten = payload := by
  induction payload using pieces.induct size with
  | case1 => rw [pieces_nil, List.flatten_nil]
  | case2 byte rest ih =>
    rw [pieces_cons, List.flatten_cons, ih, List.cons_append, List.take_append_drop]

theorem ne_nil_of_mem_pieces {size : Nat} {payload piece : Payload}
    (h : piece ∈ pieces size payload) : piece ≠ [] := by
  induction payload using pieces.induct size with
  | case1 => exact absurd h (by simp [pieces_nil])
  | case2 byte rest ih =>
    rw [pieces_cons, List.mem_cons] at h
    obtain rfl | h := h
    · exact List.cons_ne_nil _ _
    · exact ih h

/-- All pieces are full, except perhaps the last one. -/
theorem length_of_mem_dropLast_pieces {size : Nat} {payload piece : Payload}
    (h : piece ∈ (pieces size payload).dropLast) : piece.length = size + 1 := by
  induction payload using pieces.induct size with
  | case1 => exact absurd h (by simp [pieces_nil])
  | case2 byte rest ih =>
    rw [pieces_cons] at h
    by_cases hlast : rest.drop size = []
    · rw [hlast, pieces_nil] at h
      exact absurd h List.not_mem_nil
    · rw [List.dropLast_cons_of_ne_nil (mt pieces_eq_nil_iff.1 hlast), List.mem_cons] at h
      obtain rfl | h := h
      · -- something is left after this piece, so the piece could be filled
        have hmore : size < rest.length := Nat.lt_of_not_le (mt List.drop_eq_nil_of_le hlast)
        rw [List.length_cons, List.length_take_of_le (Nat.le_of_lt hmore)]
      · exact ih h

theorem length_le_of_mem_pieces {size : Nat} {payload piece : Payload}
    (h : piece ∈ pieces size payload) : piece.length ≤ size + 1 := by
  induction payload using pieces.induct size with
  | case1 => exact absurd h (by simp [pieces_nil])
  | case2 byte rest ih =>
    rw [pieces_cons, List.mem_cons] at h
    obtain rfl | h := h
    · exact Nat.succ_le_succ (List.length_take_le ..)
    · exact ih h

theorem framing_pieces (size : Nat) (payload : Payload) :
    Framing (size + 1) payload (pieces size payload) where
  flatten := flatten_pieces size payload
  nonempty _ h := ne_nil_of_mem_pieces h
  eq_nil_iff := pieces_eq_nil_iff
  full _ _ h := length_of_mem_dropLast_pieces h
  last _ _ h := length_le_of_mem_pieces (List.mem_of_mem_getLast? h)
  whole h := absurd h (Nat.succ_ne_zero size)

theorem framing_frames (length : Nat) (payload : Payload) :
    Framing length payload (frames length payload) := by
  cases length with
  | succ size => exact framing_pieces size payload
  | zero =>
    cases payload with
    | nil =>
      exact ⟨rfl, nofun, ⟨fun _ => rfl, fun _ => rfl⟩, nofun, nofun, fun _ h => absurd rfl h⟩
    | cons byte rest =>
      refine ⟨List.append_nil _, ?_, by simp [frames], nofun, nofun, fun _ _ => rfl⟩
      exact List.forall_mem_singleton.2 (List.cons_ne_nil _ _)

theorem frames_nil (length : Nat) : frames length [] = [] :=
  (framing_frames length []).eq_nil_iff.2 rfl

theorem frames_eq_singleton_iff {length : Nat} {payload : Payload} (h : payload ≠ []) :
    frames length payload = [payload] ↔ length = 0 ∨ payload.length ≤ length := by
  cases length with
  | zero => exact iff_of_true (if_neg (mt List.isEmpty_iff.1 h)) (.inl rfl)
  | succ size =>
    rw [frames, pieces_eq_cons h, List.cons.injEq, List.take_eq_self_iff, pieces_eq_nil_iff,
      List.drop_eq_nil_iff, and_self, or_iff_right (Nat.succ_ne_zero size)]

/-! ## Formats -/

theorem CodecConfig.sameFormat_iff (a b : CodecConfig) :
    a.sameFormat b = true ↔
      a.codec = b.codec ∧ a.sampleRate = b.sampleRate ∧ a.channels = b.channels := by
  simp only [sameFormat, Bool.and_eq_true, decide_eq_true_eq, and_assoc]

/-- Two formats between which nothing is passed on. -/
theorem CodecConfig.not_sameFormat_iff (a b : CodecConfig) :
    ¬a.sameFormat b = true ↔
      a.codec ≠ b.codec ∨ a.sampleRate ≠ b.sampleRate ∨ a.channels ≠ b.channels := by
  rw [sameFormat_iff, not_and_or, not_and_or]

variable {source target : CodecConfig} {payload : Payload}

/-- What becomes of a payload that passes to the same format. -/
theorem transcode_eq (hsame : source.sameFormat target = true) :
    transcode source target payload =
      if payload = [] ∨ target.frameLength < maxFrameLength then
        .ok (frames target.frameLength payload)
      else .error .frameTooLong := by
  have hcut : maxFrameLength ≤ target.frameLength ∧ (!payload.isEmpty) = true ↔
      ¬(payload = [] ∨ target.frameLength < maxFrameLength) := by
    rw [not_or, Nat.not_lt, and_comm, Bool.not_eq_true', List.isEmpty_eq_false_iff]
  rw [transcode, if_pos hsame]
  simp only [hcut, ite_not]

theorem transcode_eq_ok_iff (hsame : source.sameFormat target = true) :
    transcode source target payload = .ok (frames target.frameLength payload) ↔
      payload = [] ∨ target.frameLength < maxFrameLength := by
  rw [transcode_eq hsame]
  split
  case isTrue hcut => exact iff_of_true rfl hcut
  case isFalse hrefused => exact iff_of_false nofun hrefused

theorem transcode_of_sameFormat (payload : Payload) (hsame : source.sameFormat target = true)
    (hlength : target.frameLength < maxFrameLength) :
    transcode source target payload = .ok (frames target.frameLength payload) := by
  rw [transcode_eq hsame, if_pos (.inr hlength)]

theorem exists_transcode_eq_error (payload : Payload)
    (hother : ¬source.sameFormat target = true) :
    ∃ e, transcode source target payload = .error e := by
  rw [transcode, if_neg hother]
  exact ⟨_, rfl⟩

/-! ## Links -/

namespace Link

theorem send_append (link : Link) (media : MediaKind) (first second : Payload) :
    link.send media (first ++ second) = link.send media first + link.send media second := by
  rw [send, send, send, List.length_append]
  split
  · rfl
  · rfl

/-- A link that sends frames sends what they hold together. -/
theorem send_flatten (link : Link) (media : MediaKind) (frames : List Payload) (sent : Nat) :
    frames.foldl (fun sent frame => sent + link.send media frame) sent =
      sent + link.send media frames.flatten := by
  induction frames generalizing sent with
  | nil =>
    rw [List.foldl_nil, List.flatten_nil, send]
    split
    · rfl
    · rfl
  | cons frame frames ih =>
    rw [List.foldl_cons, ih, List.flatten_cons, send_append, Nat.add_assoc]

theorem frameLength_config_lt (kind : CodecKind) : kind.config.frameLength < maxFrameLength := by
  cases kind <;> decide

theorem sendPayload_of_sameFormat (link : Link) {payload : Payload}
    (hsame : source.sameFormat link.codec.config = true) :
    link.sendPayload source payload = .ok (link.send .audio payload) := by
  have hflatten := (framing_frames link.codec.config.frameLength payload).flatten
  rw [sendPayload, transcode_of_sameFormat payload hsame (frameLength_config_lt link.codec),
    Except.map, send_flatten, hflatten, Nat.zero_add]

theorem exists_sendPayload_eq_error (link : Link) {payload : Payload}
    (hother : ¬source.sameFormat link.codec.config = true) :
    ∃ e, link.sendPayload source payload = .error e := by
  obtain ⟨e, he⟩ := exists_transcode_eq_error payload hother
  exact ⟨e, by rw [sendPayload, he]; rfl⟩

end Link

/-! ## Payloads on their way -/

/-- What a condition decides is refused exactly where the condition fails. -/
theorem refused_iff_not {α ε : Type} {result : Except ε α} {condition : Prop} {value : α}
    (htaken : condition → result = .ok value) (hrefused : ¬condition → ∃ e, result = .error e) :
    ((∃ e, result = .error e) ↔ ¬condition) ∧ ∀ a, result = .ok a → a = value := by
  refine ⟨⟨fun ⟨e, he⟩ h => ?_, hrefused⟩, fun a ha => ?_⟩
  · exact nomatch he.symm.trans (htaken h)
  · by_cases h : condition
    · exact Except.ok.inj (ha.symm.trans (htaken h))
    · obtain ⟨e, he⟩ := hrefused h
      exact nomatch he.symm.trans ha

/-- A payload that passes to a format of a countable frame length is refused exactly when codec,
sample rate or channels are others; otherwise frames carry it.  A link refuses a payload in the
same way, and one that it takes is sent as a whole if there is a track for audio, and else not at
all. -/
theorem transcode_lossless (source target : CodecConfig) (payload : Payload)
    (h : target.frameLength < maxFrameLength) :
    ((∃ e, transcode source target payload = .error e) ↔
        source.codec ≠ target.codec ∨ source.sampleRate ≠ target.sampleRate ∨
          source.channels ≠ target.channels) ∧
      (∀ frames, transcode source target payload = .ok frames →
        Framing target.frameLength payload frames) ∧
      ∀ link : Link,
        ((∃ e, link.sendPayload source payload = .error e) ↔
          source.codec ≠ link.codec.config.codec ∨
            source.sampleRate ≠ link.codec.config.sampleRate ∨
            source.channels ≠ link.codec.config.channels) ∧
        ∀ sent, link.sendPayload source payload = .ok sent →
          sent = if link.hasTrack .audio then payload.length else 0 := by
  obtain ⟨hrefused, htaken⟩ := refused_iff_not
    (fun hsame => transcode_of_sameFormat payload hsame h) (exists_transcode_eq_error payload)
  rw [CodecConfig.not_sameFormat_iff] at hrefused
  refine ⟨hrefused, fun carried hcarried => ?_, fun link => ?_⟩
  · rw [htaken carried hcarried]
    exact framing_frames target.frameLength payload
  · rw [← CodecConfig.not_sameFormat_iff]
    exact refused_iff_not link.sendPayload_of_sameFormat link.exists_sendPayload_eq_error

/-- A format with frames of two bytes. -/
def narrow : CodecConfig := ⟨"pcmu", 2000, 1, 8, 1⟩

theorem transcode_lossless_narrow :
    narrow.frameLength < maxFrameLength ∧
      transcode narrow narrow [1, 2, 3, 4, 5] = .ok [[1, 2], [3, 4], [5]] ∧
      Framing narrow.frameLength [1, 2, 3, 4, 5] [[1, 2], [3, 4], [5]] := by
  have hlength : narrow.frameLength < maxFrameLength := by decide
  have hframes : transcode narrow narrow [1, 2, 3, 4, 5] = .ok [[1, 2], [3, 4], [5]] := by
    rw [transcode_of_sameFormat _ (by decide) hlength]
    simp [frames, narrow, CodecConfig.frameLength, CodecConfig.bytesPerMilli, pieces]
  exact ⟨hlength, hframes, (transcode_lossless narrow narrow _ hlength).2.1 _ hframes⟩

end RelayMesh
