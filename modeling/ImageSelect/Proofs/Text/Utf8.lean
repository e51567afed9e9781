import Mathlib.Tactic.SplitIfs
import ImageSelect.Text.Utf8

/-!
# UTF-8 is read back

What is written as UTF-8 is read as the text that was written.

* `exists_read`: the reader of one character reads the bytes of a character,
  whatever follows them, and knows when the last of these bytes are missing.
* `decodeReplacing_encode`: a text is read back where faults are replaced.
* `decodeFile_encode`: a text is read back from a file.  The file is read in
  blocks, and a character may run over the end of one.  The bytes that a block
  leaves open are the beginning of that character, and the next block brings the
  rest.
-/

namespace ImageSelect.Text.Utf8

/-! ## Bytes -/

theorem toNat_byte {n : Nat} (h : n < 256) : (UInt8.ofNat n).toNat = n := by
  simpa using h

/-- The code of a character is no surrogate and at most U+10FFFF. -/
theorem code_valid (c : Char) :
    c.toNat < 0xD800 ∨ 0xDFFF < c.toNat ∧ c.toNat < 0x110000 :=
  c.valid

theorem isContinuation_byte {n : Nat} (h : n < 64) :
    isContinuation (UInt8.ofNat (0x80 + n)) = true := by
  have hn : (UInt8.ofNat (0x80 + n)).toNat = 0x80 + n := toNat_byte (by omega)
  rw [isContinuation, hn]
  simp only [Bool.and_eq_true, decide_eq_true_eq]
  omega

theorem low_byte {n : Nat} (h : n < 64) : low (UInt8.ofNat (0x80 + n)) = n := by
  have hn : (UInt8.ofNat (0x80 + n)).toNat = 0x80 + n := toNat_byte (by omega)
  unfold low
  omega

/-! ## One character -/

section
variable {c : Char} (bytes : List UInt8)

theorem readChar_one (h : c.toNat < 0x80) :
    readChar (UInt8.ofNat c.toNat) bytes = .character c bytes := by
  have hfirst : (UInt8.ofNat c.toNat).toNat = c.toNat := toNat_byte (by omega)
  rw [readChar, hfirst, if_pos h, Char.ofNat_toNat]

theorem readChar_two (h : 0x80 ≤ c.toNat) (h' : c.toNat < 0x800) :
    readChar (UInt8.ofNat (0xC0 + c.toNat / 64)) bytes =
      readTwo (UInt8.ofNat (0xC0 + c.toNat / 64)) bytes := by
  have hfirst : (UInt8.ofNat (0xC0 + c.toNat / 64)).toNat = 0xC0 + c.toNat / 64 :=
    toNat_byte (by omega)
  rw [readChar, hfirst, if_neg (by omega), if_neg (by omega), if_pos (by omega)]

theorem readChar_three (h : 0x800 ≤ c.toNat) (h' : c.toNat < 0x10000) :
    readChar (UInt8.ofNat (0xE0 + c.toNat / 4096)) bytes =
      readThree (UInt8.ofNat (0xE0 + c.toNat / 4096)) bytes := by
  have hfirst : (UInt8.ofNat (0xE0 + c.toNat / 4096)).toNat = 0xE0 + c.toNat / 4096 :=
    toNat_byte (by omega)
  rw [readChar, hfirst, if_neg (by omega), if_neg (by omega), if_neg (by omega),
    if_pos (by omega)]

theorem readChar_four (h : 0x10000 ≤ c.toNat) :
    readChar (UInt8.ofNat (0xF0 + c.toNat / 262144)) bytes =
      readFour (UInt8.ofNat (0xF0 + c.toNat / 262144)) bytes := by
  have hvalid := code_valid c
  have hfirst : (UInt8.ofNat (0xF0 + c.toNat / 262144)).toNat = 0xF0 + c.toNat / 262144 :=
    toNat_byte (by omega)
  rw [readChar, hfirst, if_neg (by omega), if_neg (by omega), if_neg (by omega),
    if_neg (by omega), if_pos (by omega)]

end

/-- The second of three bytes is not refused: the code is not below U+0800, and
it is no surrogate. -/
theorem mayFollow_three {c : Char} (h : 0x800 ≤ c.toNat) (h' : c.toNat < 0x10000) :
    mayFollow (UInt8.ofNat (0xE0 + c.toNat / 4096)) (UInt8.ofNat (0x80 + c.toNat / 64 % 64)) =
      true := by
  have hvalid := code_valid c
  have hfirst : (UInt8.ofNat (0xE0 + c.toNat / 4096)).toNat = 0xE0 + c.toNat / 4096 :=
    toNat_byte (by omega)
  have hsecond : (UInt8.ofNat (0x80 + c.toNat / 64 % 64)).toNat = 0x80 + c.toNat / 64 % 64 :=
    toNat_byte (by omega)
  rw [mayFollow, isContinuation_byte (by omega), Bool.true_and, hfirst, hsecond]
  split_ifs <;> first | rfl | (rw [decide_eq_true_eq]; omega)

/-- The second of four bytes is not refused: the code is not below U+10000, and
it is at most U+10FFFF. -/
theorem mayFollow_four {c : Char} (h : 0x10000 ≤ c.toNat) :
    mayFollow (UInt8.ofNat (0xF0 + c.toNat / 262144))
      (UInt8.ofNat (0x80 + c.toNat / 4096 % 64)) = true := by
  have hvalid := code_valid c
  have hfirst : (UInt8.ofNat (0xF0 + c.toNat / 262144)).toNat = 0xF0 + c.toNat / 262144 :=
    toNat_byte (by omega)
  have hsecond : (UInt8.ofNat (0x80 + c.toNat / 4096 % 64)).toNat = 0x80 + c.toNat / 4096 % 64 :=
    toNat_byte (by omega)
  rw [mayFollow, isContinuation_byte (by omega), Bool.true_and, hfirst, hsecond]
  split_ifs <;> first | rfl | (rw [decide_eq_true_eq]; omega)

/-- The first byte of a character and those after it, with what the reader makes
of them: all of them are the character, and some of them are an unfinished one. -/
structure Read (c : Char) (first : UInt8) (more : List UInt8) : Prop where
  whole : ∀ rest, readChar first (more ++ rest) = .character c rest
  unfinished : ∀ k < more.length, ∃ size, readChar first (more.take k) =
    .fault .unexpectedEnd size []

theorem read_two {c : Char} (h : 0x80 ≤ c.toNat) (h' : c.toNat < 0x800) :
    Read c (UInt8.ofNat (0xC0 + c.toNat / 64)) [UInt8.ofNat (0x80 + c.toNat % 64)] := by
  have hfirst : (UInt8.ofNat (0xC0 + c.toNat / 64)).toNat = 0xC0 + c.toNat / 64 :=
    toNat_byte (by omega)
  have hcode : (0xC0 + c.toNat / 64 - 0xC0) * 64 + c.toNat % 64 = c.toNat := by omega
  have hsecond : c.toNat % 64 < 64 := by omega
  constructor
  · intro rest
    rw [readChar_two _ h h', List.singleton_append, readTwo,
      if_pos (isContinuation_byte hsecond), hfirst, low_byte hsecond, hcode, Char.ofNat_toNat]
  · intro k hk
    obtain rfl : k = 0 := by simpa using hk
    exact ⟨1, by rw [readChar_two _ h h', List.take_zero, readTwo]⟩

theorem read_three {c : Char} (h : 0x800 ≤ c.toNat) (h' : c.toNat < 0x10000) :
    Read c (UInt8.ofNat (0xE0 + c.toNat / 4096))
      [UInt8.ofNat (0x80 + c.toNat / 64 % 64), UInt8.ofNat (0x80 + c.toNat % 64)] := by
  have hfirst : (UInt8.ofNat (0xE0 + c.toNat / 4096)).toNat = 0xE0 + c.toNat / 4096 :=
    toNat_byte (by omega)
  have hcode : (0xE0 + c.toNat / 4096 - 0xE0) * 4096 + c.toNat / 64 % 64 * 64 + c.toNat % 64 =
      c.toNat := by omega
  have hsecond : c.toNat / 64 % 64 < 64 := by omega
  have hthird : c.toNat % 64 < 64 := by omega
  constructor
  · intro rest
    rw [readChar_three _ h h', List.cons_append, List.singleton_append, readThree,
      if_pos (mayFollow_three h h')]
    rw [if_pos (isContinuation_byte hthird), hfirst, low_byte hsecond, low_byte hthird, hcode,
      Char.ofNat_toNat]
  · intro k hk
    obtain rfl | rfl : k = 0 ∨ k = 1 := by
      simp only [List.length_cons, List.length_nil] at hk
      omega
    · exact ⟨1, by rw [readChar_three _ h h', List.take_zero, readThree]⟩
    · refine ⟨2, ?_⟩
      rw [readChar_three _ h h', List.take_succ_cons, List.take_zero, readThree,
        if_pos (mayFollow_three h h')]

theorem read_four {c : Char} (h : 0x10000 ≤ c.toNat) :
    Read c (UInt8.ofNat (0xF0 + c.toNat / 262144))
      [UInt8.ofNat (0x80 + c.toNat / 4096 % 64), UInt8.ofNat (0x80 + c.toNat / 64 % 64),
        UInt8.ofNat (0x80 + c.toNat % 64)] := by
  have hvalid := code_valid c
  have hfirst : (UInt8.ofNat (0xF0 + c.toNat / 262144)).toNat = 0xF0 + c.toNat / 262144 :=
    toNat_byte (by omega)
  have hcode : (0xF0 + c.toNat / 262144 - 0xF0) * 262144 + c.toNat / 4096 % 64 * 4096 +
      c.toNat / 64 % 64 * 64 + c.toNat % 64 = c.toNat := by omega
  have hsecond : c.toNat / 4096 % 64 < 64 := by omega
  have hthird : c.toNat / 64 % 64 < 64 := by omega
  have hfourth : c.toNat % 64 < 64 := by omega
  constructor
  · intro rest
    rw [readChar_four _ h, List.cons_append, List.cons_append, List.singleton_append, readFour,
      if_pos (mayFollow_four h)]
    rw [if_pos (isContinuation_byte hthird)]
    rw [if_pos (isContinuation_byte hfourth), hfirst, low_byte hsecond, low_byte hthird,
      low_byte hfourth, hcode, Char.ofNat_toNat]
  · intro k hk
    obtain rfl | rfl | rfl : k = 0 ∨ k = 1 ∨ k = 2 := by
      simp only [List.length_cons, List.length_nil] at hk
      omega
    · exact ⟨1, by rw [readChar_four _ h, List.take_zero, readFour]⟩
    · refine ⟨2, ?_⟩
      rw [readChar_four _ h, List.take_succ_cons, List.take_zero, readFour,
        if_pos (mayFollow_four h)]
    · refine ⟨3, ?_⟩
      rw [readChar_four _ h, List.take_succ_cons, List.take_succ_cons, List.take_zero, readFour,
        if_pos (mayFollow_four h)]
      rw [if_pos (isContinuation_byte hthird)]

/-- The bytes of a character are read as that character. -/
theorem exists_read (c : Char) :
    ∃ first more, encodeChar c = first :: more ∧ Read c first more := by
  unfold encodeChar
  dsimp only
  split_ifs with h h' h''
  · exact ⟨_, _, rfl, fun rest => readChar_one rest h, fun k hk => absurd hk (by simp)⟩
  · exact ⟨_, _, rfl, read_two (by omega) h'⟩
  · exact ⟨_, _, rfl, read_three (by omega) h''⟩
  · exact ⟨_, _, rfl, read_four (by omega)⟩

/-! ## Texts -/

@[simp] theorem encode_nil : encode [] = [] :=
  rfl

theorem encode_cons (c : Char) (text : List Char) :
    encode (c :: text) = encodeChar c ++ encode text :=
  List.flatMap_cons

theorem encode_append (text more : List Char) :
    encode (text ++ more) = encode text ++ encode more :=
  List.flatMap_append

theorem decodeReplacing_character {b : UInt8} {bs rest : List UInt8} {c : Char}
    (h : readChar b bs = .character c rest) :
    decodeReplacing (b :: bs) = c :: decodeReplacing rest := by
  rw [decodeReplacing]
  split
  · rename_i heq
    rw [h] at heq
    obtain ⟨rfl, rfl⟩ := Front.character.inj heq
    rfl
  · rename_i heq
    rw [h] at heq
    cases heq

/-- The bytes of a text are read as the text. -/
theorem decodeReplacing_encode (text : List Char) : decodeReplacing (encode text) = text := by
  induction text with
  | nil => rw [encode, List.flatMap_nil, decodeReplacing]
  | cons c text ih =>
    obtain ⟨first, more, hbytes, hread⟩ := exists_read c
    rw [encode_cons, hbytes, List.cons_append, decodeReplacing_character (hread.whole _), ih]

/-! ## Files -/

theorem decodeUpTo_character {b : UInt8} {bs rest : List UInt8} {c : Char} (position : Nat)
    (h : readChar b bs = .character c rest) :
    ∃ next, decodeUpTo position (b :: bs) =
      (c :: (decodeUpTo next rest).1, (decodeUpTo next rest).2) := by
  refine ⟨position + (bs.length + 1 - rest.length), ?_⟩
  rw [decodeUpTo]
  split
  · rename_i heq
    rw [h] at heq
    obtain ⟨rfl, rfl⟩ := Front.character.inj heq
    rfl
  · rename_i heq
    rw [h] at heq
    cases heq

theorem decodeUpTo_fault {b : UInt8} {bs rest : List UInt8} {why : Fault} {size : Nat}
    (position : Nat) (h : readChar b bs = .fault why size rest) :
    decodeUpTo position (b :: bs) = ([], some ⟨position, b :: bs, size, why⟩) := by
  rw [decodeUpTo]
  split
  · rename_i heq
    rw [h] at heq
    cases heq
  · rename_i heq
    rw [h] at heq
    obtain ⟨rfl, rfl, rfl⟩ := Front.fault.inj heq
    rfl

/-- How a reading stops that comes to the end of some bytes: at the end of a
character, or with bytes left that more bytes may complete. -/
def StopsWith (pending : List UInt8) : Option Stop → Prop
  | none => pending = []
  | some stop => stop.why = .unexpectedEnd ∧ stop.bytes = pending

/-- The first bytes of a text are read as a beginning of the text, up to bytes
that the next ones complete. -/
theorem decodeUpTo_take (text : List Char) : ∀ (position n : Nat), ∃ done left pending,
    text = done ++ left ∧ (encode text).take n = encode done ++ pending ∧
      (decodeUpTo position ((encode text).take n)).1 = done ∧
      StopsWith pending (decodeUpTo position ((encode text).take n)).2 := by
  induction text with
  | nil =>
    intro position n
    refine ⟨[], [], [], rfl, ?_, ?_, ?_⟩
    · simp [encode]
    · simp [encode, decodeUpTo]
    · simp [encode, decodeUpTo, StopsWith]
  | cons c text ih =>
    intro position n
    obtain ⟨first, more, hbytes, hread⟩ := exists_read c
    have hencode : encode (c :: text) = first :: (more ++ encode text) := by
      rw [encode_cons, hbytes, List.cons_append]
    rw [hencode]
    cases n with
    | zero =>
      refine ⟨[], c :: text, [], rfl, by simp [encode], ?_, ?_⟩
      · simp [decodeUpTo]
      · simp [decodeUpTo, StopsWith]
    | succ n =>
      rw [List.take_succ_cons]
      rcases Nat.lt_or_ge n more.length with hn | hn
      · -- The block ends inside this character.
        rw [List.take_append_of_le_length (by omega)]
        obtain ⟨size, hfault⟩ := hread.unfinished n hn
        rw [decodeUpTo_fault position hfault]
        exact ⟨[], c :: text, _, rfl, rfl, rfl, rfl, rfl⟩
      · rw [List.take_append, List.take_of_length_le hn]
        obtain ⟨next, hnext⟩ := decodeUpTo_character position
          (hread.whole ((encode text).take (n - more.length)))
        obtain ⟨done, left, pending, htext, htake, hdone, hstop⟩ := ih next (n - more.length)
        rw [hnext]
        refine ⟨c :: done, left, pending, by rw [htext]; rfl, ?_, by rw [hdone], hstop⟩
        rw [htake, encode_cons, hbytes]
        simp

/-- The bytes of a text have no fault. -/
theorem decodeUpTo_encode (text : List Char) :
    ∀ position, decodeUpTo position (encode text) = (text, none) := by
  induction text with
  | nil =>
    intro position
    rw [encode, List.flatMap_nil, decodeUpTo]
  | cons c text ih =>
    intro position
    obtain ⟨first, more, hbytes, hread⟩ := exists_read c
    obtain ⟨next, hnext⟩ := decodeUpTo_character position (hread.whole (encode text))
    rw [encode_cons, hbytes, List.cons_append, hnext, ih]

/-- The bytes that a block leaves open and those behind them are read as their
text. -/
theorem decodeBlocks_eq_ok {size : Nat} : ∀ (text : List Char) (pending bytes : List UInt8),
    pending ++ bytes = encode text → decodeBlocks size pending bytes = .ok text
  | text, pending, [], h => by
    rw [List.append_nil] at h
    subst h
    cases text with
    | nil => rw [encode, List.flatMap_nil, decodeBlocks]
    | cons c text =>
      obtain ⟨first, more, hbytes, -⟩ := exists_read c
      have hcons : encode (c :: text) = first :: (more ++ encode text) := by
        rw [encode_cons, hbytes, List.cons_append]
      rw [hcons, decodeBlocks, ← hcons, decodeStrict, decodeUpTo_encode]
      exact fun h => by cases h
  | text, pending, b :: bs, h => by
    have hblock : (encode text).take (pending.length + (size + 1)) =
        pending ++ b :: bs.take size := by
      rw [← h, List.take_append, List.take_of_length_le (by omega)]
      simp
    obtain ⟨done, left, held, htext, htake, hdone, hstop⟩ :=
      decodeUpTo_take text 0 (pending.length + (size + 1))
    -- What the block leaves open and the bytes behind the block are the rest.
    have hleft : held ++ bs.drop size = encode left := by
      have hall : encode done ++ (held ++ bs.drop size) = encode done ++ encode left := by
        rw [← encode_append, ← htext, ← h, ← List.append_assoc, ← htake, hblock,
          List.append_assoc, List.cons_append, List.take_append_drop]
      exact List.append_cancel_left hall
    rw [hblock] at hdone hstop
    rw [decodeBlocks]
    cases hread : decodeUpTo 0 (pending ++ b :: bs.take size) with
    | mk read stop =>
      rw [hread] at hdone hstop
      subst hdone
      cases stop with
      | none =>
        have hheld : held = [] := hstop
        subst hheld
        dsimp only
        rw [decodeBlocks_eq_ok left [] (bs.drop size) hleft, htext]
        rfl
      | some stop =>
        obtain ⟨hwhy, hbytes⟩ := hstop
        dsimp only
        rw [if_pos hwhy, hbytes, decodeBlocks_eq_ok left held (bs.drop size) hleft, htext]
        rfl
  termination_by _ _ bytes => bytes.length
  decreasing_by all_goals simp only [List.length_drop, List.length_cons]; omega

/-- A text is read back from the file that holds its bytes. -/
theorem decodeFile_encode (text : List Char) : decodeFile (encode text) = .ok text :=
  decodeBlocks_eq_ok text [] (encode text) rfl

end ImageSelect.Text.Utf8
