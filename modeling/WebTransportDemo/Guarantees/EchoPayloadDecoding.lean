import WebTransportDemo.Library.SelfDelimiting
import WebTransportDemo.Source.EchoRecords

/-!
# FormatEchoPayload can be read back

`escapedByte` is a self-delimiting code no word of which starts with a double quote, so the
quoted payload decodes in every following context (`decodeEchoPayload_format`). The decoder is
independent of the formatter: it looks at the escape letter and at two hexadecimal digits.

Design document, section 11: newlines, tabs, quotes, backslashes and unprintable bytes are
escaped, and `truncated=true` marks a payload longer than the bound.
-/
namespace WebTransportDemo.Guarantees.EchoPayloadDecoding
open Library Source

def hexValue (digit : UInt8) : Nat :=
  if digit ≤ 0x39 then digit.toNat - 0x30 else digit.toNat - 0x57

/-- One payload byte from the front of a shown payload. -/
def decodeEscapedByte : Bytes → Option (UInt8 × Bytes)
  | [] => none
  | value :: rest =>
    if value ≠ 0x5c then some (value, rest)
    else
      match rest with
      | [] => none
      | letter :: rest =>
        if letter = 0x5c then some (0x5c, rest)
        else if letter = 0x22 then some (0x22, rest)
        else if letter = 0x72 then some (0x0d, rest)
        else if letter = 0x6e then some (0x0a, rest)
        else if letter = 0x74 then some (0x09, rest)
        else
          match rest with
          | high :: low :: rest =>
            some (UInt8.ofNat (16 * hexValue high + hexValue low), rest)
          | _ => none

theorem hexValue_hexDigit (d : Nat) (digit : d < 16) : hexValue (hexDigit d) = d := by
  have every : ∀ d : Fin 16, hexValue (hexDigit d.val) = d.val := by decide
  exact every ⟨d, digit⟩

theorem decodeEscapedByte_escapedByte (value : UInt8) (rest : Bytes) :
    decodeEscapedByte (escapedByte value ++ rest) = some (value, rest) := by
  unfold escapedByte
  split_ifs with h1 h2 h3 h4 h5 plain
  · simp [decodeEscapedByte, h1]
  · simp [decodeEscapedByte, h2]
  · simp [decodeEscapedByte, h3]
  · simp [decodeEscapedByte, h4]
  · simp [decodeEscapedByte, h5]
  · simp [decodeEscapedByte, h1]
  · have high : value.toNat / 16 < 16 := by have := value.toNat_lt; omega
    have low : value.toNat % 16 < 16 := Nat.mod_lt _ (by decide)
    have joined : 16 * (value.toNat / 16) + value.toNat % 16 = value.toNat := by omega
    simp [decodeEscapedByte, hexValue_hexDigit _ high, hexValue_hexDigit _ low, joined]

theorem escapedByte_starts (value : UInt8) :
    ∃ head tail, escapedByte value = head :: tail ∧ head ≠ (0x22 : UInt8) := by
  unfold escapedByte
  split_ifs with h1 h2 h3 h4 h5 plain
  case pos => exact ⟨0x5c, _, rfl, by decide⟩
  case pos => exact ⟨0x5c, _, rfl, by decide⟩
  case pos => exact ⟨0x5c, _, rfl, by decide⟩
  case pos => exact ⟨0x5c, _, rfl, by decide⟩
  case pos => exact ⟨0x5c, _, rfl, by decide⟩
  case pos => exact ⟨value, _, rfl, h2⟩
  case neg => exact ⟨0x5c, _, rfl, by decide⟩

def escapeCode : SelfDelimiting UInt8 UInt8 where
  encode := escapedByte
  decode := decodeEscapedByte
  stop := 0x22
  decode_encode := decodeEscapedByte_escapedByte
  starts := escapedByte_starts

/-- Read one shown payload: the displayed bytes, whether they were truncated, and the text
that follows. -/
def decodeEchoPayload : Bytes → Option (Bytes × Bool × Bytes)
  | [] => none
  | opening :: body =>
    if opening ≠ 0x22 then none
    else
      match escapeCode.decodeWord body.length body with
      | none => none
      | some (shown, rest) =>
        if truncationMarker.isPrefixOf rest then
          some (shown, true, rest.drop truncationMarker.length)
        else some (shown, false, rest)

/-- The formatter's output is read back in every context that does not itself continue with
the truncation marker. -/
theorem decodeEchoPayload_format (payload following : Bytes) (maximumBytes : Nat)
    (unmarked : ¬ truncationMarker <+: following) :
    decodeEchoPayload (formatEchoPayload payload maximumBytes ++ following) =
      some (payload.take maximumBytes, decide (maximumBytes < payload.length), following) := by
  have word := escapeCode.decodeWord_encode (payload.take maximumBytes)
    ((if maximumBytes < payload.length then truncationMarker else []) ++ following)
  have bound := escapeCode.length_le_flatMap (payload.take maximumBytes)
  have decoded := word _ (Nat.lt_of_le_of_lt bound (by
    simp only [List.length_append, List.length_cons]
    omega : _ < ((payload.take maximumBytes).flatMap escapeCode.encode ++ escapeCode.stop ::
      ((if maximumBytes < payload.length then truncationMarker else []) ++ following)).length))
  have shape : formatEchoPayload payload maximumBytes ++ following =
      0x22 :: ((payload.take maximumBytes).flatMap escapeCode.encode ++ escapeCode.stop ::
        ((if maximumBytes < payload.length then truncationMarker else []) ++ following)) := by
    rw [formatEchoPayload_eq]
    simp [escapeCode]
  rw [shape]
  simp only [decodeEchoPayload, ne_eq, not_true_eq_false, if_false, decoded]
  by_cases cut : maximumBytes < payload.length
  · simp [cut]
  · simp [cut, List.isPrefixOf_iff_prefix, unmarked]

/-- Equal outputs show the same prefix and the same truncation flag. -/
theorem formatEchoPayload_inj {payload payload' : Bytes} {maximumBytes maximumBytes' : Nat}
    (same : formatEchoPayload payload maximumBytes = formatEchoPayload payload' maximumBytes') :
    payload.take maximumBytes = payload'.take maximumBytes' ∧
      (maximumBytes < payload.length ↔ maximumBytes' < payload'.length) := by
  have unmarked : ¬ truncationMarker <+: ([] : Bytes) := by decide
  have left := decodeEchoPayload_format payload [] maximumBytes unmarked
  have right := decodeEchoPayload_format payload' [] maximumBytes' unmarked
  rw [same, right] at left
  simp only [Option.some.injEq, Prod.mk.injEq, decide_eq_decide, and_true] at left
  exact ⟨left.1.symm, left.2.symm⟩

/-- The two payloads of one `expected=... actual=...` line are read back independently. -/
theorem verifyFailedLine_inj {index : Nat} {streamId : StreamId}
    {message response message' response' : Bytes}
    (same : verifyFailedLine index streamId message response =
      verifyFailedLine index streamId message' response') :
    formatEchoPayload message = formatEchoPayload message' ∧
      formatEchoPayload response = formatEchoPayload response' := by
  have unmarked : ∀ rest, ¬ truncationMarker <+: ascii " actual=" ++ rest := by
    rintro rest ⟨tail, joined⟩
    have second := congrArg (·[1]?) joined
    revert second
    simp [truncationMarker, ascii]
  simp only [verifyFailedLine, List.append_assoc] at same
  repeat rw [List.append_cancel_left_eq] at same
  have left := decodeEchoPayload_format message (ascii " actual=" ++ formatEchoPayload response)
    256 (unmarked _)
  have right := decodeEchoPayload_format message' (ascii " actual=" ++ formatEchoPayload response')
    256 (unmarked _)
  rw [same, right] at left
  simp only [Option.some.injEq, Prod.mk.injEq, List.append_cancel_left_eq] at left
  refine ⟨?_, left.2.2.symm⟩
  rw [left.2.2] at same
  exact List.append_cancel_right same

/-! ## The only unescaped quotes -/

/-- Positions of the double quotes that no backslash escapes, counted from `position`;
`escaped` says that the previous byte was an unescaped backslash. -/
def unescapedQuotes (escaped : Bool) (position : Nat) : Bytes → List Nat
  | [] => []
  | b :: rest =>
    if escaped then unescapedQuotes false (position + 1) rest
    else if b = 0x5c then unescapedQuotes true (position + 1) rest
    else if b = 0x22 then position :: unescapedQuotes false (position + 1) rest
    else unescapedQuotes false (position + 1) rest

theorem unescapedQuotes_escapedByte (value : UInt8) (position : Nat) (rest : Bytes) :
    unescapedQuotes false position (escapedByte value ++ rest) =
      unescapedQuotes false (position + (escapedByte value).length) rest := by
  have plainDigit : ∀ d, d < 16 → hexDigit d ≠ 0x5c ∧ hexDigit d ≠ 0x22 := by
    intro d digit
    have every : ∀ d : Fin 16, hexDigit d.val ≠ 0x5c ∧ hexDigit d.val ≠ 0x22 := by decide
    exact every ⟨d, digit⟩
  unfold escapedByte
  split_ifs with h1 h2 h3 h4 h5 plain
  · simp [unescapedQuotes]
  · simp [unescapedQuotes]
  · simp [unescapedQuotes]
  · simp [unescapedQuotes]
  · simp [unescapedQuotes]
  · simp [unescapedQuotes, h1, h2]
  · have high := plainDigit (value.toNat / 16) (by have := value.toNat_lt; omega)
    have low := plainDigit (value.toNat % 16) (Nat.mod_lt _ (by decide))
    simp [unescapedQuotes, high, low]

theorem unescapedQuotes_body (payload : Bytes) (position : Nat) (rest : Bytes) :
    unescapedQuotes false position (payload.flatMap escapedByte ++ rest) =
      unescapedQuotes false (position + (payload.flatMap escapedByte).length) rest := by
  induction payload generalizing position with
  | nil => simp
  | cons value payload ih =>
    rw [List.flatMap_cons, List.append_assoc, unescapedQuotes_escapedByte, ih, List.length_append,
      Nat.add_assoc]

theorem unescapedQuotes_marker (position : Nat) :
    unescapedQuotes false position truncationMarker = [] := by
  simp [unescapedQuotes, truncationMarker, ascii]

/-- Exactly the opening quote, at the front, and the closing one, before the marker. -/
theorem unescapedQuotes_format (payload : Bytes) (maximumBytes : Nat) :
    unescapedQuotes false 0 (formatEchoPayload payload maximumBytes) =
      [0, (formatEchoPayload payload maximumBytes).length - 1 -
        if maximumBytes < payload.length then truncationMarker.length else 0] := by
  have closing : (formatEchoPayload payload maximumBytes).length - 1 -
      (if maximumBytes < payload.length then truncationMarker.length else 0) =
        1 + ((payload.take maximumBytes).flatMap escapedByte).length := by
    rw [formatEchoPayload_eq]
    split
    · simp only [List.length_cons, List.length_append]
      omega
    · simp only [List.length_cons, List.length_append, List.length_nil]
      omega
  have suffix : ∀ position, unescapedQuotes false position
      (if maximumBytes < payload.length then truncationMarker else []) = [] := by
    intro position
    split
    · exact unescapedQuotes_marker position
    · rfl
  rw [closing, formatEchoPayload_eq, List.cons_append]
  simp only [unescapedQuotes, Bool.false_eq_true, if_false, if_true,
    show ¬ (0x22 : UInt8) = 0x5c from by decide]
  rw [unescapedQuotes_body]
  simp only [unescapedQuotes, Bool.false_eq_true, if_false, if_true, suffix,
    show ¬ (0x22 : UInt8) = 0x5c from by decide, Nat.zero_add]

/-- FormatEchoPayload is an unambiguous, injection-free encoding: one decoder reads back the
displayed prefix, the truncation flag and the following text; equal outputs, alone or as a
pair in one `verify=failed` line, show the same prefixes and flags; every byte is printable
ASCII; and the only unescaped double quotes are the opening and the closing one. -/
theorem formatEchoPayload_unambiguous :
    (∀ payload following : Bytes, ∀ maximumBytes : Nat, ¬ truncationMarker <+: following →
      decodeEchoPayload (formatEchoPayload payload maximumBytes ++ following) =
        some (payload.take (min payload.length maximumBytes),
          decide (payload.length > maximumBytes), following)) ∧
    (∀ payload payload' : Bytes, ∀ maximumBytes maximumBytes' : Nat,
      formatEchoPayload payload maximumBytes = formatEchoPayload payload' maximumBytes' →
        payload.take maximumBytes = payload'.take maximumBytes' ∧
          (payload.length > maximumBytes ↔ payload'.length > maximumBytes')) ∧
    (∀ index streamId, ∀ message response message' response' : Bytes,
      verifyFailedLine index streamId message response =
          verifyFailedLine index streamId message' response' →
        (message.take 256 = message'.take 256 ∧
          (message.length > 256 ↔ message'.length > 256)) ∧
        (response.take 256 = response'.take 256 ∧
          (response.length > 256 ↔ response'.length > 256))) ∧
    (∀ payload : Bytes, ∀ maximumBytes : Nat,
      (∀ b ∈ formatEchoPayload payload maximumBytes, 0x20 ≤ b ∧ b ≤ 0x7e) ∧
      unescapedQuotes false 0 (formatEchoPayload payload maximumBytes) =
        [0, (formatEchoPayload payload maximumBytes).length - 1 -
          if payload.length > maximumBytes then truncationMarker.length else 0]) := by
  refine ⟨?_, ?_, ?_, ?_⟩
  · intro payload following maximumBytes unmarked
    have displayed : payload.take (min payload.length maximumBytes) =
        payload.take maximumBytes := by
      rw [Nat.min_comm, ← List.take_take, List.take_length]
    rw [displayed]
    exact decodeEchoPayload_format payload following maximumBytes unmarked
  · intro payload payload' maximumBytes maximumBytes' same
    exact formatEchoPayload_inj same
  · intro index streamId message response message' response' same
    obtain ⟨expected, actual⟩ := verifyFailedLine_inj same
    exact ⟨formatEchoPayload_inj expected, formatEchoPayload_inj actual⟩
  · intro payload maximumBytes
    refine ⟨?_, unescapedQuotes_format payload maximumBytes⟩
    intro b member
    have printable := formatEchoPayload_printable payload maximumBytes b member
    simpa [isprint] using printable

/-- The decoder at a payload of one newline and one quote, cut after the newline and followed by
the rest of a `verify=failed` line. -/
theorem formatEchoPayload_unambiguous_sample :
    decodeEchoPayload (formatEchoPayload [0x0a, 0x22] 1 ++ ascii " actual=") =
      some ([0x0a], true, ascii " actual=") :=
  formatEchoPayload_unambiguous.1 [0x0a, 0x22] (ascii " actual=") 1 (by decide)

end WebTransportDemo.Guarantees.EchoPayloadDecoding
