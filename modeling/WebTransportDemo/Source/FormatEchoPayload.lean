import WebTransportDemo.Library.Ostream

/-!
# FormatEchoPayload

`samples/web_transport_echo_visitor.cc`, `FormatEchoPayload`: the quoted, escaped and
truncated form in which every log record shows a payload. The function writes into an
`std::ostringstream` whose base, width and fill are state; `appendPayload_text` says that
the manipulators of one byte never reach the next one.
-/
namespace WebTransportDemo.Source
open Library

/-- `std::isprint` in the C locale. -/
def isprint (value : UInt8) : Bool := 0x20 ≤ value && value ≤ 0x7e

/-- The body of the loop: the switch over one payload byte. -/
def appendPayloadByte (output : Ostream) (value : UInt8) : Ostream :=
  if value = 0x5c then output.insert (ascii "\\\\")
  else if value = 0x22 then output.insert (ascii "\\\"")
  else if value = 0x0d then output.insert (ascii "\\r")
  else if value = 0x0a then output.insert (ascii "\\n")
  else if value = 0x09 then output.insert (ascii "\\t")
  else if isprint value then output.insert [value]
  else
    (((((output.insert (ascii "\\x")).hex).setw 2).setfill 0x30).insertNat value.toNat).dec

/-- `FormatEchoPayload(payload, maximum_bytes)`; the header's default bound is 256. -/
def formatEchoPayload (payload : Bytes) (maximumBytes : Nat := 256) : Bytes :=
  let output : Ostream := ({} : Ostream).insert (ascii "\"")
  let displaySize := min payload.length maximumBytes
  let output := (payload.take displaySize).foldl appendPayloadByte output
  let output := output.insert (ascii "\"")
  let output :=
    if displaySize ≠ payload.length then output.insert (ascii " truncated=true") else output
  output.text

/-! ## What one byte becomes -/

def hexDigit (d : Nat) : UInt8 := if d < 10 then UInt8.ofNat (0x30 + d) else UInt8.ofNat (0x57 + d)

/-- The text one payload byte is shown as. -/
def escapedByte (value : UInt8) : Bytes :=
  if value = 0x5c then [0x5c, 0x5c]
  else if value = 0x22 then [0x5c, 0x22]
  else if value = 0x0d then [0x5c, 0x72]
  else if value = 0x0a then [0x5c, 0x6e]
  else if value = 0x09 then [0x5c, 0x74]
  else if isprint value then [value]
  else [0x5c, 0x78, hexDigit (value.toNat / 16), hexDigit (value.toNat % 16)]

/-- `setw(2)` with fill `0` in base sixteen always gives exactly two digits. -/
theorem padded_hex (value : UInt8) :
    List.replicate (2 - (digitText 16 value.toNat).length) 0x30 ++ digitText 16 value.toNat =
      [hexDigit (value.toNat / 16), hexDigit (value.toNat % 16)] := by
  have every : ∀ n : Fin 256,
      List.replicate (2 - (digitText 16 n.val).length) 0x30 ++ digitText 16 n.val =
        [hexDigit (n.val / 16), hexDigit (n.val % 16)] := by
    decide +kernel
  exact every ⟨value.toNat, value.toNat_lt⟩

/-- Each turn of the loop leaves the stream with no width pending and in base ten, so it
appends the same text wherever it stands. -/
theorem appendPayloadByte_spec {output : Ostream} (plain : output.Plain) (value : UInt8) :
    (appendPayloadByte output value).text = output.text ++ escapedByte value ∧
      (appendPayloadByte output value).Plain := by
  unfold appendPayloadByte escapedByte
  split_ifs
  · exact Ostream.insert_plain plain _
  · exact Ostream.insert_plain plain _
  · exact Ostream.insert_plain plain _
  · exact Ostream.insert_plain plain _
  · exact Ostream.insert_plain plain _
  · exact Ostream.insert_plain plain _
  · have introduced := Ostream.insert_plain plain (ascii "\\x")
    constructor
    · simp only [Ostream.dec, Ostream.insertNat, Ostream.setfill, Ostream.setw, Ostream.hex,
        Ostream.insert, List.append_assoc, padded_hex]
      simp [plain.1, show ascii "\\x" = [0x5c, 0x78] from by decide]
    · simp [Ostream.Plain, Ostream.dec, Ostream.insertNat, Ostream.setfill, Ostream.setw,
        Ostream.hex, Ostream.insert]

theorem appendPayload_text (payload : Bytes) {output : Ostream} (plain : output.Plain) :
    (payload.foldl appendPayloadByte output).text = output.text ++ payload.flatMap escapedByte ∧
      (payload.foldl appendPayloadByte output).Plain := by
  induction payload generalizing output with
  | nil => exact ⟨by simp, plain⟩
  | cons value rest ih =>
    obtain ⟨appended, still⟩ := appendPayloadByte_spec plain value
    obtain ⟨text, last⟩ := ih still
    exact ⟨by rw [List.foldl_cons, text, appended, List.flatMap_cons, List.append_assoc], last⟩

def truncationMarker : Bytes := ascii " truncated=true"

/-- The output in closed form: quote, escaped prefix, quote, and the marker where the
payload did not fit. -/
theorem formatEchoPayload_eq (payload : Bytes) (maximumBytes : Nat) :
    formatEchoPayload payload maximumBytes =
      0x22 :: (payload.take maximumBytes).flatMap escapedByte ++
        0x22 :: (if maximumBytes < payload.length then truncationMarker else []) := by
  have opened : (({} : Ostream).insert (ascii "\"")).Plain := ⟨rfl, rfl⟩
  have quote : ascii "\"" = [0x22] := by decide
  obtain ⟨body, bodyPlain⟩ :=
    appendPayload_text (payload.take (min payload.length maximumBytes)) opened
  obtain ⟨closed, closedPlain⟩ := Ostream.insert_plain bodyPlain (ascii "\"")
  have first : (({} : Ostream).insert (ascii "\"")).text = [0x22] := by decide
  rw [first] at body
  rw [body, quote] at closed
  by_cases fits : payload.length ≤ maximumBytes
  · have whole : min payload.length maximumBytes = payload.length := Nat.min_eq_left fits
    simp only [whole, List.take_length] at closed
    simp only [formatEchoPayload, whole, List.take_length, ne_eq, not_true_eq_false, if_false,
      quote, closed, if_neg (Nat.not_lt.mpr fits), List.take_of_length_le fits]
    simp
  · have shorter : maximumBytes < payload.length := Nat.lt_of_not_le fits
    have cut : min payload.length maximumBytes = maximumBytes :=
      Nat.min_eq_right (Nat.le_of_lt shorter)
    simp only [cut] at closed closedPlain
    have marked := (Ostream.insert_plain closedPlain (ascii " truncated=true")).1
    simp only [quote, closed] at marked
    simp only [formatEchoPayload, cut, ne_eq, Nat.ne_of_lt shorter, not_false_eq_true, if_true,
      quote, marked, if_pos shorter, truncationMarker]
    simp

/-- Only printable bytes are ever written, whatever the payload. -/
theorem escapedByte_printable (value : UInt8) : ∀ b ∈ escapedByte value, isprint b = true := by
  have high : value.toNat / 16 < 16 := by have := value.toNat_lt; omega
  have low : value.toNat % 16 < 16 := Nat.mod_lt _ (by decide)
  have printableDigit : ∀ d, d < 16 → isprint (hexDigit d) = true := by
    intro d digit
    have every : ∀ d : Fin 16, isprint (hexDigit d.val) = true := by decide
    exact every ⟨d, digit⟩
  unfold escapedByte
  split_ifs with h1 h2 h3 h4 h5 plain
  · exact List.all_eq_true.mp (by decide)
  · exact List.all_eq_true.mp (by decide)
  · exact List.all_eq_true.mp (by decide)
  · exact List.all_eq_true.mp (by decide)
  · exact List.all_eq_true.mp (by decide)
  · simpa using plain
  · intro b member
    simp only [List.mem_cons, List.not_mem_nil, or_false] at member
    rcases member with rfl | rfl | rfl | rfl
    · decide
    · decide
    · exact printableDigit _ high
    · exact printableDigit _ low

theorem formatEchoPayload_printable (payload : Bytes) (maximumBytes : Nat) :
    ∀ b ∈ formatEchoPayload payload maximumBytes, isprint b = true := by
  have marker : ∀ b ∈ truncationMarker, isprint b = true := List.all_eq_true.mp (by decide)
  intro b member
  rw [formatEchoPayload_eq] at member
  simp only [List.cons_append, List.mem_cons, List.mem_append, List.mem_flatMap] at member
  rcases member with rfl | ⟨value, -, inside⟩ | rfl | suffix
  · decide
  · exact escapedByte_printable value b inside
  · decide
  · split at suffix
    · exact marker b suffix
    · cases suffix

theorem newline_not_mem_formatEchoPayload (payload : Bytes) (maximumBytes : Nat) :
    newline ∉ formatEchoPayload payload maximumBytes := fun member =>
  absurd (formatEchoPayload_printable payload maximumBytes newline member) (by decide)

/-- A quote, a backslash, a control byte and a byte above 0x7f, cut after four bytes. -/
example : formatEchoPayload [0x22, 0x5c, 0x0a, 0xff, 0x41] 4 =
    ascii "\"\\\"\\\\\\n\\xff\" truncated=true" := by
  decide +kernel

end WebTransportDemo.Source
