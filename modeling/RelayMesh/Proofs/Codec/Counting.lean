import RelayMesh.Proofs.Codec.Reframing
import RelayMesh.Proofs.Wire.Recoding

/-!
# Counting the bytes of a frame

The length of a frame is a product of four numbers that are read from a text,
and it is counted in words of 64 bits.  What does not fit in a word is a
failure, or another word stands for it.

* `Counting` is any way to count in words.  `Counting.checked` fails beyond a
  word and `Counting.wrapping` starts again from zero.
* `Counting.cut` is a cut in which every product and every sum is counted, with
  offsets into the payload; `transcode` fails where it fails with `checked`
  (`toOption_transcode`).
* The bits of a second fit in a word whatever was read
  (`CodecConfig.Bounded.bitsPerSecond_lt`), so bytes per millisecond are always
  right.  The frame length is right exactly if it fits
  (`frameLength_eq_some_iff`).
* The loop adds no condition: the ends of frames are counted right at every
  length (`cutFrom_eq`), so a length that was counted wrongly is cut with like
  any other (`cut_eq`).
* `frame_length_exact_iff` is the result, with the durations at which every
  format can be counted.
-/

namespace RelayMesh

/-! ## Bounds of formats -/

namespace CodecConfig

variable {config : CodecConfig} {millis : Nat}

/-- The number of payload bits per second; a format without channels counts as mono. -/
def bitsPerSecond (config : CodecConfig) : Nat :=
  config.sampleRate * config.bitDepth * max config.channels 1

theorem bytesPerMilli_eq (config : CodecConfig) :
    config.bytesPerMilli = config.bitsPerSecond / 1000 / 8 := rfl

/-- The format with the most bits per second, and with frames of some duration. -/
def widest (millis : Nat) : CodecConfig :=
  ⟨"pcmu", UInt32.size - 1, UInt16.size - 1, UInt16.size - 1, millis⟩

/-- The formats that a text can hold are those within the bounds of their types. -/
theorem exists_parse_iff : (∃ text, shape.parse text = some config) ↔ config.Bounded := by
  constructor
  · rintro ⟨text, h⟩
    obtain ⟨document, -, hread⟩ := Option.bind_eq_some_iff.1 h
    exact bounded_of_shape hread
  · intro h
    exact ⟨config.toJson.render, (config.writtenAs_toJson.recovers h).parse_render⟩

theorem bounded_widest (h : millis < UInt64.size) : (widest millis).Bounded :=
  ⟨Nat.sub_lt (by decide) (by decide), Nat.sub_lt (by decide) (by decide),
    Nat.sub_lt (by decide) (by decide), h⟩

theorem bytesPerMilli_widest (millis : Nat) : (widest millis).bytesPerMilli = 2305772640469532 := by
  change (UInt32.size - 1) * (UInt16.size - 1) * max (UInt16.size - 1) 1 / 1000 / 8 = _
  decide

theorem Bounded.bitsPerSecond_le (h : config.Bounded) :
    config.bitsPerSecond ≤ (widest 0).bitsPerSecond := by
  have hrate : config.sampleRate ≤ UInt32.size - 1 := Nat.le_pred_of_lt h.sampleRate
  have hdepth : config.bitDepth ≤ UInt16.size - 1 := Nat.le_pred_of_lt h.bitDepth
  have hchannels : config.channels ≤ UInt16.size - 1 := Nat.le_pred_of_lt h.channels
  have hmono : max config.channels 1 ≤ max (UInt16.size - 1) 1 := by omega
  exact Nat.mul_le_mul (Nat.mul_le_mul hrate hdepth) hmono

/-- The bits of a second fit in a word, in the widest format by a margin of less than `2 ^ 49`. -/
theorem Bounded.bitsPerSecond_lt (h : config.Bounded) : config.bitsPerSecond < UInt64.size :=
  Nat.lt_of_le_of_lt h.bitsPerSecond_le (by decide)

theorem Bounded.bytesPerMilli_le (h : config.Bounded) :
    config.bytesPerMilli ≤ (widest 0).bytesPerMilli := by
  rw [bytesPerMilli_eq, bytesPerMilli_eq]
  exact Nat.div_le_div_right (Nat.div_le_div_right h.bitsPerSecond_le)

/-- Every frame of at most eight seconds can be counted, and in the widest format no longer one. -/
theorem forall_frameLength_lt_iff (hmillis : millis < UInt64.size) :
    (∀ text config, shape.parse text = some config → config.frameMillis = millis →
      config.frameLength < maxFrameLength) ↔ millis ≤ 8000 := by
  constructor
  · intro h
    by_contra hlong
    obtain ⟨text, hparse⟩ := exists_parse_iff.2 (bounded_widest hmillis)
    have hfits : (widest millis).frameLength < maxFrameLength := h text _ hparse rfl
    have hwide : maxFrameLength ≤ (widest millis).frameLength :=
      calc maxFrameLength
          ≤ (widest millis).bytesPerMilli * 8001 := by rw [bytesPerMilli_widest]; decide
        _ ≤ (widest millis).frameLength := Nat.mul_le_mul_left _ (Nat.lt_of_not_le hlong)
    exact Nat.not_le_of_lt hfits hwide
  · rintro hshort text config hparse rfl
    have hbounded : config.Bounded := exists_parse_iff.1 ⟨text, hparse⟩
    calc config.frameLength
        ≤ (widest 0).bytesPerMilli * 8000 := Nat.mul_le_mul hbounded.bytesPerMilli_le hshort
      _ < maxFrameLength := by decide

end CodecConfig

/-! ## Ways to count -/

/-- A way to count in words of 64 bits.  A number that fits in a word is counted as it is; for any
other number there is no word, or a wrong one. -/
structure Counting where
  count : Nat → Option Nat
  count_of_lt : ∀ {n : Nat}, n < UInt64.size → count n = some n
  lt_of_count : ∀ {n word : Nat}, count n = some word → word < UInt64.size

namespace Counting

/-- Counting that fails beyond a word. -/
def checked : Counting where
  count n := if n < UInt64.size then some n else none
  count_of_lt h := if_pos h
  lt_of_count h := by
    obtain ⟨hlt, ⟨⟩⟩ := Option.ite_none_right_eq_some.1 h
    exact hlt

/-- Counting that starts again from zero beyond a word. -/
def wrapping : Counting where
  count n := some (UInt64.ofNat n).toNat
  count_of_lt h := congrArg some (UInt64.toNat_ofNat_of_lt h)
  lt_of_count h := by
    obtain rfl := Option.some.inj h
    exact UInt64.toNat_lt _

/-- The number of payload bytes per millisecond. -/
def bytesPerMilli (counting : Counting) (config : CodecConfig) : Option Nat := do
  let bits ← counting.count (config.sampleRate * config.bitDepth)
  let bits ← counting.count (bits * max config.channels 1)
  pure (bits / 1000 / 8)

/-- The frame length; of the duration there is one word. -/
def frameLength (counting : Counting) (config : CodecConfig) : Option Nat := do
  let bytes ← counting.bytesPerMilli config
  counting.count (bytes * (config.frameMillis % UInt64.size))

/-- The frames from an offset on.  There are none if a frame does not end after its start. -/
def cutFrom (counting : Counting) (length : Nat) (payload : Payload) (offset : Nat) :
    Option (List Payload) :=
  if offset < payload.length then do
    let stop := min (← counting.count (offset + length)) payload.length
    if offset < stop then
      pure ((payload.drop offset).take (stop - offset) ::
        (← cutFrom counting length payload stop))
    else none
  else some []
termination_by payload.length - offset
decreasing_by omega

/-- The frames of a payload. -/
def cut (counting : Counting) (config : CodecConfig) (payload : Payload) :
    Option (List Payload) :=
  if payload = [] then some []
  else do
    let length ← counting.frameLength config
    if length = 0 ∨ payload.length ≤ length then pure [payload]
    else do
      -- room is made for the frames before there are any
      let _ ← counting.count (payload.length / length + 1)
      counting.cutFrom length payload 0

/-- No payload has as many bytes: lengths have to fit in a word with a sign. -/
def payloadLimit : Nat := Nat.pow 2 63

variable {counting : Counting} {config : CodecConfig} {payload : Payload} {length : Nat}

/-! ## The length of frames -/

theorem bytesPerMilli_eq_some (h : config.Bounded) :
    counting.bytesPerMilli config = some config.bytesPerMilli := by
  have hbits : config.sampleRate * config.bitDepth * max config.channels 1 < UInt64.size :=
    h.bitsPerSecond_lt
  have hmono : config.sampleRate * config.bitDepth < UInt64.size :=
    Nat.lt_of_le_of_lt (Nat.le_mul_of_pos_right _ (Nat.le_max_right ..)) hbits
  rw [bytesPerMilli, counting.count_of_lt hmono, Option.bind_eq_bind, Option.bind_some,
    counting.count_of_lt hbits]
  rfl

/-- Only the last product of a frame length can be too great for a word. -/
theorem frameLength_eq_count (h : config.Bounded) :
    counting.frameLength config = counting.count config.frameLength := by
  rw [frameLength, bytesPerMilli_eq_some h, Nat.mod_eq_of_lt h.frameMillis]
  rfl

theorem frameLength_eq_some_iff (h : config.Bounded) :
    counting.frameLength config = some config.frameLength ↔
      config.frameLength < maxFrameLength := by
  rw [frameLength_eq_count h]
  exact ⟨counting.lt_of_count, counting.count_of_lt⟩

/-! ## The loop -/

/-- One step of the loop: the end of a frame is counted right, because the payload is longer than
the frame and two payloads fit in a word. -/
theorem cutFrom_of_lt {offset : Nat} (hoffset : offset < payload.length) (hpos : 0 < length)
    (hfits : payload.length + length ≤ UInt64.size) :
    counting.cutFrom length payload offset =
      (counting.cutFrom length payload (min (offset + length) payload.length)).map
        ((payload.drop offset).take length :: ·) := by
  have hsum : offset + length < UInt64.size := by omega
  have hahead : offset < min (offset + length) payload.length := by omega
  have htake : (payload.drop offset).take (min (offset + length) payload.length - offset) =
      (payload.drop offset).take length := by
    rw [List.take_eq_take_iff, List.length_drop]
    omega
  rw [cutFrom, if_pos hoffset, counting.count_of_lt hsum, Option.bind_eq_bind, Option.bind_some,
    if_pos hahead, htake]
  cases counting.cutFrom length payload (min (offset + length) payload.length) with
  | none => rfl
  | some rest => rfl

/-- The loop from an offset on cuts what stands there into pieces. -/
theorem cutFrom_eq {size : Nat} (hfits : payload.length + (size + 1) ≤ UInt64.size)
    (offset : Nat) :
    counting.cutFrom (size + 1) payload offset = some (pieces size (payload.drop offset)) := by
  induction offset using cutFrom.induct payload with
  | case1 offset hoffset ih =>
    have hrest : payload.drop offset ≠ [] := by
      rw [Ne, List.drop_eq_nil_iff]
      omega
    have hnext : payload.drop (min (offset + (size + 1)) payload.length) =
        (payload.drop offset).drop (size + 1) := by
      rw [List.drop_drop, List.drop_eq_drop_iff]
      omega
    rw [cutFrom_of_lt hoffset (Nat.succ_pos size) hfits, ih (offset + (size + 1)) (by omega),
      Option.map_some, hnext, ← pieces_eq_cons hrest]
  | case2 offset hend =>
    rw [cutFrom, if_neg hend, List.drop_eq_nil_of_le (Nat.le_of_not_lt hend), pieces_nil]

/-- A payload is cut with the frame length that was counted, be it right or wrong. -/
theorem cut_eq (hpayload : payload.length < payloadLimit) (hne : payload ≠ []) :
    counting.cut config payload =
      (counting.frameLength config).map fun length => frames length payload := by
  rw [cut, if_neg hne]
  cases counting.frameLength config with
  | none => rfl
  | some length =>
    rw [Option.map_some, Option.bind_eq_bind, Option.bind_some]
    by_cases hwhole : length = 0 ∨ payload.length ≤ length
    · rw [if_pos hwhole, (frames_eq_singleton_iff hne).2 hwhole]
      rfl
    · have hwords : 2 * payloadLimit = UInt64.size := by decide
      have hquotient : payload.length / length ≤ payload.length := Nat.div_le_self ..
      have hroom : payload.length / length + 1 < UInt64.size := by omega
      obtain ⟨size, rfl⟩ := Nat.exists_eq_succ_of_ne_zero fun h => hwhole (.inl h)
      have hfits : payload.length + (size + 1) ≤ UInt64.size := by omega
      rw [if_neg hwhole, counting.count_of_lt hroom, Option.bind_some, cutFrom_eq hfits,
        List.drop_zero]
      rfl

theorem cut_nil : counting.cut config [] = some [] := if_pos rfl

/-- A frame length that fits in a word is cut with as it is. -/
theorem cut_of_lt (h : config.Bounded) (hpayload : payload.length < payloadLimit)
    (hlength : config.frameLength < maxFrameLength) :
    counting.cut config payload = some (frames config.frameLength payload) := by
  by_cases hne : payload = []
  · rw [hne, cut_nil, frames_nil]
  · rw [cut_eq hpayload hne, (frameLength_eq_some_iff h).2 hlength, Option.map_some]

/-! ## Failure and wrong lengths -/

/-- A payload that is no longer than its frames stays whole, and none is as long as a frame length
that does not fit. -/
theorem frames_of_maxFrameLength_le (hpayload : payload.length < payloadLimit) (hne : payload ≠ [])
    (hlong : maxFrameLength ≤ length) : frames length payload = [payload] := by
  have hlimit : payloadLimit ≤ maxFrameLength := by decide
  have hshort : payload.length ≤ length := by omega
  exact (frames_eq_singleton_iff hne).2 (.inr hshort)

theorem cut_checked (h : config.Bounded) (hpayload : payload.length < payloadLimit) :
    checked.cut config payload =
      if payload = [] ∨ config.frameLength < maxFrameLength then
        some (frames config.frameLength payload)
      else none := by
  by_cases hcut : payload = [] ∨ config.frameLength < maxFrameLength
  · rw [if_pos hcut]
    obtain rfl | hlength := hcut
    · rw [cut_nil, frames_nil]
    · exact cut_of_lt h hpayload hlength
  · obtain ⟨hne, hlong⟩ := not_or.1 hcut
    have hnone : checked.count config.frameLength = none := if_neg hlong
    rw [if_neg hcut, cut_eq hpayload hne, frameLength_eq_count h, hnone, Option.map_none]

theorem cut_wrapping (h : config.Bounded) (hpayload : payload.length < payloadLimit)
    (hne : payload ≠ []) :
    wrapping.cut config payload =
      some (frames (config.frameLength % UInt64.size) payload) := by
  have hword : (UInt64.ofNat config.frameLength).toNat = config.frameLength % UInt64.size :=
    UInt64.toNat_ofNat'
  rw [cut_eq hpayload hne, frameLength_eq_count h, ← hword]
  rfl

/-- A length that starts again from zero does no harm where the payload stays whole all the same. -/
theorem cut_wrapping_eq_iff (h : config.Bounded) (hpayload : payload.length < payloadLimit) :
    wrapping.cut config payload = some (frames config.frameLength payload) ↔
      config.frameLength < maxFrameLength ∨ config.frameLength % UInt64.size = 0 ∨
        payload.length ≤ config.frameLength % UInt64.size := by
  by_cases hne : payload = []
  · rw [hne, cut_nil, frames_nil]
    exact iff_of_true rfl (.inr (.inr (Nat.zero_le _)))
  · by_cases hlength : config.frameLength < maxFrameLength
    · exact iff_of_true (cut_of_lt h hpayload hlength) (.inl hlength)
    · have hwhole : frames config.frameLength payload = [payload] :=
        frames_of_maxFrameLength_le hpayload hne (Nat.le_of_not_lt hlength)
      rw [cut_wrapping h hpayload hne, hwhole, Option.some.injEq, frames_eq_singleton_iff hne,
        or_iff_right hlength]

end Counting

variable {source target : CodecConfig} {payload : Payload}

/-- A payload is refused exactly where a product or a sum is too great for a word. -/
theorem toOption_transcode (h : target.Bounded) (hsame : source.sameFormat target = true)
    (hpayload : payload.length < Counting.payloadLimit) :
    (transcode source target payload).toOption = Counting.checked.cut target payload := by
  rw [transcode_eq hsame, Counting.cut_checked h hpayload]
  split
  · rfl
  · rfl

/-! ## The result -/

/-- The bits of a second fit in a word for every format that was read, but its frame length need
not.  Whatever is done about numbers that do not fit, the length is right exactly if it does, and
then so are the frames of every payload.  A length that does not fit is refused wherever there is
something to cut; if it started again from zero, payloads would come apart that should stay whole.
That cannot happen to any format with frames as long in time exactly if they take at most eight
seconds. -/
theorem frame_length_exact_iff (text : String) (config : CodecConfig)
    (h : CodecConfig.shape.parse text = some config) :
    config.bitsPerSecond < UInt64.size ∧
      (∀ counting : Counting,
        counting.bytesPerMilli config = some config.bytesPerMilli ∧
        (counting.frameLength config = some config.frameLength ↔
          config.frameLength < maxFrameLength) ∧
        (config.frameLength < maxFrameLength →
          ∀ payload, payload.length < Counting.payloadLimit →
            counting.cut config payload = some (frames config.frameLength payload))) ∧
      (∀ source payload, source.sameFormat config = true →
        (transcode source config payload = .ok (frames config.frameLength payload) ↔
          payload = [] ∨ config.frameLength < maxFrameLength) ∧
        (payload.length < Counting.payloadLimit →
          (transcode source config payload).toOption = Counting.checked.cut config payload ∧
          (Counting.wrapping.cut config payload = some (frames config.frameLength payload) ↔
            config.frameLength < maxFrameLength ∨ config.frameLength % UInt64.size = 0 ∨
              payload.length ≤ config.frameLength % UInt64.size))) ∧
      ((∀ text other, CodecConfig.shape.parse text = some other →
        other.frameMillis = config.frameMillis → other.frameLength < maxFrameLength) ↔
          config.frameMillis ≤ 8000) := by
  have hbounded : config.Bounded := CodecConfig.exists_parse_iff.1 ⟨text, h⟩
  refine ⟨hbounded.bitsPerSecond_lt, fun counting => ⟨?_, ?_, ?_⟩, ?_, ?_⟩
  · exact Counting.bytesPerMilli_eq_some hbounded
  · exact Counting.frameLength_eq_some_iff hbounded
  · exact fun hlength payload hpayload => Counting.cut_of_lt hbounded hpayload hlength
  · intro source payload hsame
    refine ⟨transcode_eq_ok_iff hsame, fun hpayload => ⟨?_, ?_⟩⟩
    · exact toOption_transcode hbounded hsame hpayload
    · exact Counting.cut_wrapping_eq_iff hbounded hpayload
  · exact CodecConfig.forall_frameLength_lt_iff hbounded.frameMillis

/-- A format with frames that are eight bytes longer than a word can count. -/
def lasting : CodecConfig := ⟨"pcmu", 8000, 1, 8, 2305843009213693953⟩

/-- Nine bytes stay whole in such frames.  They are refused, and counting from zero would cut them
after the eighth. -/
theorem frame_length_exact_fails :
    CodecConfig.shape.parse "[\"pcmu\",8000,1,8,2305843009213693953]" = some lasting ∧
      frames lasting.frameLength (List.replicate 9 0) = [List.replicate 9 0] ∧
      transcode lasting lasting (List.replicate 9 0) ≠ .ok [List.replicate 9 0] ∧
      Counting.wrapping.frameLength lasting ≠ some lasting.frameLength ∧
      Counting.wrapping.cut lasting (List.replicate 9 0) ≠ some [List.replicate 9 0] := by
  have hparse : CodecConfig.shape.parse "[\"pcmu\",8000,1,8,2305843009213693953]" =
      some lasting := by decide +kernel
  obtain ⟨-, hcounting, hpayload, -⟩ := frame_length_exact_iff _ _ hparse
  obtain ⟨htranscode, hcut⟩ := hpayload lasting (List.replicate 9 0) (by decide)
  obtain ⟨-, hwrapping⟩ := hcut (by decide)
  have hwhole : frames lasting.frameLength (List.replicate 9 0) = [List.replicate 9 0] :=
    Counting.frames_of_maxFrameLength_le (by decide) (by decide) (by decide)
  rw [hwhole] at htranscode hwrapping
  refine ⟨hparse, hwhole, ?_, ?_, ?_⟩
  · exact fun h => absurd (htranscode.1 h) (by decide)
  · exact fun h => absurd ((hcounting Counting.wrapping).2.1.1 h) (by decide)
  · exact fun h => absurd (hwrapping.1 h) (by decide)

end RelayMesh
