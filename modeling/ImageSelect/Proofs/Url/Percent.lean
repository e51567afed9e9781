import ImageSelect.Proofs.Text.Utf8
import ImageSelect.Url.Percent

/-!
# Percent encoding is undone

A percent-encoded text is ASCII of one run, so decoding it takes all bytes
together, and they are the UTF-8 form of the text: `percentDecode_percentEncode`.

What is not encoded, decoding leaves alone as long as it is ASCII
(`percentDecode_cons`).  So a slash at the front of a text stays there.
-/

namespace ImageSelect.Url

open ImageSelect.Text

/-! ## Digits -/

theorem hexValue?_upperHexDigit : ∀ n < 16, hexValue? (upperHexDigit n) = some n := by
  decide

/-! ## The characters of an encoded text -/

/-- The characters that an encoded text is made of. -/
def isEncoded (c : Char) : Bool :=
  isSafe c || c = '%'

theorem isEncoded_upperHexDigit : ∀ n < 16, isEncoded (upperHexDigit n) = true := by
  decide

theorem toNat_lt_of_isAlphanum {c : Char} (h : c.isAlphanum = true) : c.toNat < 0x80 := by
  delta Char.isAlphanum Char.isAlpha Char.isUpper Char.isLower Char.isDigit at h
  simp only [Bool.or_eq_true, Bool.and_eq_true, decide_eq_true_eq, UInt32.le_iff_toNat_le,
    ge_iff_le] at h
  have hcode : c.toNat = c.val.toNat := rfl
  have hupper : 'Z'.val.toNat = 90 := rfl
  have hlower : 'z'.val.toNat = 122 := rfl
  have hdigit : '9'.val.toNat = 57 := rfl
  omega

/-- A character is ASCII if it is safe. -/
theorem toNat_lt_of_isSafe {c : Char} (h : isSafe c = true) : c.toNat < 0x80 := by
  simp only [isSafe, Bool.or_eq_true, decide_eq_true_eq] at h
  rcases h with ((((h | rfl) | rfl) | rfl) | rfl) | rfl
  · exact toNat_lt_of_isAlphanum h
  all_goals decide

theorem encode_of_isSafe {c : Char} (h : isSafe c = true) :
    Utf8.encodeChar c = [UInt8.ofNat c.toNat] := by
  rw [Utf8.encodeChar]
  exact if_pos (toNat_lt_of_isSafe h)

theorem isEncoded_of_mem_escapeByte {b : UInt8} {c : Char} (h : c ∈ escapeByte b) :
    isEncoded c = true := by
  have hb : b.toNat < 256 := b.toNat_lt
  simp only [escapeByte, List.mem_cons, List.not_mem_nil, or_false] at h
  rcases h with rfl | rfl | rfl
  · decide
  · exact isEncoded_upperHexDigit _ (by omega)
  · exact isEncoded_upperHexDigit _ (by omega)

theorem isEncoded_of_mem_percentEncode {text : List Char} {c : Char}
    (h : c ∈ percentEncode text) : isEncoded c = true := by
  obtain ⟨x, -, hx⟩ := List.mem_flatMap.1 h
  unfold encodeChar at hx
  split at hx
  · rename_i hsafe
    obtain rfl := List.mem_singleton.1 hx
    rw [isEncoded, hsafe, Bool.true_or]
  · obtain ⟨b, -, hb⟩ := List.mem_flatMap.1 hx
    exact isEncoded_of_mem_escapeByte hb

theorem percentEncode_append (text more : List Char) :
    percentEncode (text ++ more) = percentEncode text ++ percentEncode more :=
  List.flatMap_append

theorem percentEncode_slash (text : List Char) :
    percentEncode ('/' :: text) = '/' :: percentEncode text :=
  rfl

/-! ## Decoding -/

theorem decodeRun_escapeByte (b : UInt8) (run : List UInt8) (text : List Char) :
    decodeRun run (escapeByte b ++ text) = decodeRun (b :: run) text := by
  have hb : b.toNat < 256 := b.toNat_lt
  have hbyte : b.toNat / 16 * 16 + b.toNat % 16 = b.toNat := by omega
  rw [escapeByte, List.cons_append, List.cons_append, List.singleton_append, decodeRun,
    hexValue?_upperHexDigit _ (by omega), hexValue?_upperHexDigit _ (by omega)]
  dsimp only
  rw [hbyte, UInt8.ofNat_toNat]

theorem decodeRun_escapes (bytes : List UInt8) : ∀ (run : List UInt8) (text : List Char),
    decodeRun run (bytes.flatMap escapeByte ++ text) = decodeRun (bytes.reverse ++ run) text := by
  induction bytes with
  | nil =>
    intro run text
    rfl
  | cons b bytes ih =>
    intro run text
    rw [List.flatMap_cons, List.append_assoc, decodeRun_escapeByte, ih, List.reverse_cons,
      List.append_assoc, List.singleton_append]

/-- An ASCII character that is no percent sign joins the run. -/
theorem decodeRun_cons {c : Char} (hascii : c.toNat < 0x80) (hne : c ≠ '%') (run : List UInt8)
    (text : List Char) :
    decodeRun run (c :: text) = decodeRun (UInt8.ofNat c.toNat :: run) text := by
  rw [decodeRun, if_pos hascii]
  exact fun a b rest h => absurd h hne

theorem decodeRun_encodeChar (c : Char) (run : List UInt8) (text : List Char) :
    decodeRun run (encodeChar c ++ text) =
      decodeRun ((Utf8.encodeChar c).reverse ++ run) text := by
  unfold encodeChar
  split
  · rename_i hsafe
    have hne : c ≠ '%' := by
      rintro rfl
      exact absurd hsafe (by decide)
    rw [List.singleton_append, decodeRun_cons (toNat_lt_of_isSafe hsafe) hne,
      encode_of_isSafe hsafe]
    rfl
  · exact decodeRun_escapes _ run text

theorem decodeRun_percentEncode (text : List Char) : ∀ run : List UInt8,
    decodeRun run (percentEncode text) =
      Utf8.decodeReplacing (run.reverse ++ Utf8.encode text) := by
  induction text with
  | nil =>
    intro run
    rw [percentEncode, List.flatMap_nil, decodeRun, Utf8.encode, List.flatMap_nil,
      List.append_nil]
  | cons c text ih =>
    intro run
    have hcons : percentEncode (c :: text) = encodeChar c ++ percentEncode text :=
      List.flatMap_cons
    rw [hcons, decodeRun_encodeChar, ih, Utf8.encode_cons, List.reverse_append,
      List.reverse_reverse, List.append_assoc]

/-- A percent-encoded text is decoded to the text. -/
theorem percentDecode_percentEncode (text : List Char) :
    percentDecode (percentEncode text) = text := by
  rw [percentDecode, decodeRun_percentEncode, List.reverse_nil, List.nil_append,
    Utf8.decodeReplacing_encode]

/-- Texts with the same encoding are the same. -/
theorem percentEncode_inj {text other : List Char} :
    percentEncode text = percentEncode other ↔ text = other := by
  constructor
  · intro h
    rw [← percentDecode_percentEncode text, h, percentDecode_percentEncode]
  · exact congrArg percentEncode

/-! ## The front of a text -/

theorem decodeReplacing_ascii {b : UInt8} (h : b.toNat < 0x80) (bytes : List UInt8) :
    Utf8.decodeReplacing (b :: bytes) = Char.ofNat b.toNat :: Utf8.decodeReplacing bytes := by
  apply Utf8.decodeReplacing_character
  rw [Utf8.readChar, if_pos h]

/-- The first byte of a run is decoded first, if it is ASCII. -/
theorem decodeRun_concat {b : UInt8} (h : b.toNat < 0x80) (run : List UInt8) (text : List Char) :
    decodeRun (run ++ [b]) text = Char.ofNat b.toNat :: decodeRun run text := by
  fun_induction decodeRun run text with
  | case1 run =>
    rw [decodeRun, List.reverse_append, List.reverse_singleton, List.singleton_append,
      decodeReplacing_ascii h]
  | case2 run x y rest high low hlow hhigh ih =>
    rw [decodeRun, hlow, hhigh]
    exact ih
  | case3 run x y rest hno ih =>
    rw [decodeRun]
    split
    · rename_i high low hhigh hlow
      exact (hno high low hhigh hlow).elim
    · exact ih
  | case4 run c rest hne hascii ih =>
    rw [decodeRun, if_pos hascii]
    · exact ih
    · exact hne
  | case5 run c rest hne hascii ih =>
    rw [decodeRun, if_neg hascii, List.reverse_append, List.reverse_singleton,
      List.singleton_append, decodeReplacing_ascii h, List.cons_append]
    exact hne

/-- An ASCII character at the front is decoded to itself unless it starts an
escape. -/
theorem percentDecode_cons {c : Char} (hascii : c.toNat < 0x80) (hne : c ≠ '%')
    (text : List Char) : percentDecode (c :: text) = c :: percentDecode text := by
  have hbyte : (UInt8.ofNat c.toNat).toNat = c.toNat := Utf8.toNat_byte (by omega)
  have hfirst := decodeRun_concat (b := UInt8.ofNat c.toNat) (by omega) [] text
  rw [hbyte, Char.ofNat_toNat] at hfirst
  rw [percentDecode, decodeRun_cons hascii hne]
  exact hfirst

end ImageSelect.Url
