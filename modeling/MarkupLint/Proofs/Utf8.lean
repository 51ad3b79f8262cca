import MarkupLint.Text.Utf8

/-!
Reading back what was written. Main statement: the decoder gives the characters of every
encoded text, none of them replaced, so a stretch of a source between two characters
is read as it stands.
-/
namespace MarkupLint.Utf8

theorem toList_loop (bytes : ByteArray) (place : Nat) (done : List UInt8) :
    ByteArray.toList.loop bytes place done = done.reverse ++ bytes.data.toList.drop place := by
  induction place, done using ByteArray.toList.loop.induct bytes with
  | case1 place done inside ih =>
    have bound : place < bytes.data.toList.length := inside
    have byte : bytes.get! place = bytes.data.toList[place] := by
      simp [ByteArray.get!, getElem!_pos bytes.data place inside]
    rw [ByteArray.toList.loop, if_pos inside, ih, byte, List.reverse_cons, List.append_assoc,
      List.singleton_append, List.getElem_cons_drop]
  | case2 place done outside =>
    have passed : bytes.data.toList.length ≤ place := Nat.le_of_not_lt outside
    rw [ByteArray.toList.loop, if_neg outside, List.drop_of_length_le passed, List.append_nil]

/-- The bytes of a text are those of its characters, one after another. -/
theorem encode_eq_flatMap (text : String) :
    encode text = text.toList.flatMap String.utf8EncodeChar := by
  rw [encode, ByteArray.toList, toList_loop, List.reverse_nil, List.nil_append, List.drop_zero,
    String.toUTF8, ← String.utf8Encode_toList, List.utf8Encode, List.toList_data_toByteArray]

theorem encode_append (front back : String) :
    encode (front ++ back) = encode front ++ encode back := by
  simp only [encode_eq_flatMap, String.toList_append, List.flatMap_append]

theorem length_encode (text : String) : (encode text).length = text.utf8ByteSize := by
  rw [encode_eq_flatMap, ← List.size_toByteArray, ← List.utf8Encode, String.utf8Encode_toList,
    String.size_toByteArray]

theorem toNat_ofNat_of_lt (n : Nat) (small : n < 256) : (UInt8.ofNat n).toNat = n := by
  rw [UInt8.toNat_ofNat', Nat.mod_eq_of_lt small]

theorem readChar_ascii (b : UInt8) (rest : List UInt8) (small : b.toNat < 0x80) :
    readChar b rest = (some (Char.ofNat b.toNat), 0) := by
  unfold readChar
  rw [if_pos (UInt8.lt_iff_toNat_lt.mpr small)]

/-- A first byte that announces others leaves the rest of the work to `readTails`. -/
theorem readChar_lead (b second : UInt8) (more : List UInt8) (n low high bits tails : Nat)
    (first : b.toNat = n) (found : lead? n = some ⟨low, high, bits, tails⟩)
    (inside : low ≤ second.toNat ∧ second.toNat ≤ high) :
    readChar b (second :: more) =
      ((readTails (tails - 1) (bits * 64 + tailBits second.toNat) 1 more).1.map Char.ofNat,
        (readTails (tails - 1) (bits * 64 + tailBits second.toNat) 1 more).2) := by
  have large : ¬ b < 0x80 := by
    intro small
    have bound : b.toNat < 0x80 := UInt8.lt_iff_toNat_lt.mp small
    unfold lead? at found
    rw [if_neg (by omega), if_neg (by omega), if_neg (by omega)] at found
    cases found
  simp only [readChar, if_neg large, first, found, if_pos inside]

theorem readTails_cons (owed code count : Nat) (b : UInt8) (rest : List UInt8)
    (low : 0x80 ≤ b.toNat) (high : b.toNat ≤ 0xBF) :
    readTails (owed + 1) code count (b :: rest) =
      readTails owed (code * 64 + tailBits b.toNat) (count + 1) rest := by
  have tail : isTail b.toNat = true := by simp [isTail, low, high]
  rw [readTails, if_pos tail]

theorem readChar_two (v : Nat) (rest : List UInt8) (low : 0x7f < v) (high : v ≤ 0x7ff) :
    readChar (UInt8.ofNat (v / 64 % 0x20 + 0xc0)) (UInt8.ofNat (v % 0x40 + 0x80) :: rest) =
      (some (Char.ofNat v), 1) := by
  have first := toNat_ofNat_of_lt (v / 64 % 0x20 + 0xc0) (by omega)
  have second := toNat_ofNat_of_lt (v % 0x40 + 0x80) (by omega)
  have found : lead? (v / 64 % 0x20 + 0xc0) =
      some ⟨0x80, 0xBF, v / 64 % 0x20 + 0xc0 - 0xC0, 1⟩ := by
    rw [lead?, if_pos (by omega)]
  have code : (v / 64 % 0x20 + 0xc0 - 0xC0) * 64 + (v % 0x40 + 0x80) % 64 = v := by omega
  rw [readChar_lead _ _ _ _ _ _ _ _ first found (by omega), second]
  simp only [tailBits, code]
  rfl

theorem readChar_three (v : Nat) (rest : List UInt8) (low : 0x7ff < v) (high : v ≤ 0xffff)
    (valid : v < 0xD800 ∨ 0xDFFF < v) :
    readChar (UInt8.ofNat (v / 4096 % 0x10 + 0xe0))
        (UInt8.ofNat (v / 64 % 0x40 + 0x80) :: UInt8.ofNat (v % 0x40 + 0x80) :: rest) =
      (some (Char.ofNat v), 2) := by
  have first := toNat_ofNat_of_lt (v / 4096 % 0x10 + 0xe0) (by omega)
  have second := toNat_ofNat_of_lt (v / 64 % 0x40 + 0x80) (by omega)
  have third := toNat_ofNat_of_lt (v % 0x40 + 0x80) (by omega)
  have found : lead? (v / 4096 % 0x10 + 0xe0) =
      some ⟨if v / 4096 % 0x10 + 0xe0 = 0xE0 then 0xA0 else 0x80,
        if v / 4096 % 0x10 + 0xe0 = 0xED then 0x9F else 0xBF,
        v / 4096 % 0x10 + 0xe0 - 0xE0, 2⟩ := by
    rw [lead?, if_neg (by omega), if_pos (by omega)]
  have inside : (if v / 4096 % 0x10 + 0xe0 = 0xE0 then 0xA0 else 0x80) ≤ v / 64 % 0x40 + 0x80 ∧
      v / 64 % 0x40 + 0x80 ≤ if v / 4096 % 0x10 + 0xe0 = 0xED then 0x9F else 0xBF := by
    constructor <;> split <;> omega
  have code : ((v / 4096 % 0x10 + 0xe0 - 0xE0) * 64 + (v / 64 % 0x40 + 0x80) % 64) * 64 +
      (v % 0x40 + 0x80) % 64 = v := by omega
  rw [readChar_lead _ _ _ _ _ _ _ _ first found (by rw [second]; exact inside), second,
    readTails_cons _ _ _ _ _ (by omega) (by omega), third]
  simp only [readTails, Option.map_some, tailBits, code]

theorem readChar_four (v : Nat) (rest : List UInt8) (low : 0xffff < v) (high : v < 0x110000) :
    readChar (UInt8.ofNat (v / 262144 % 0x08 + 0xf0))
        (UInt8.ofNat (v / 4096 % 0x40 + 0x80) :: UInt8.ofNat (v / 64 % 0x40 + 0x80) ::
          UInt8.ofNat (v % 0x40 + 0x80) :: rest) =
      (some (Char.ofNat v), 3) := by
  have first := toNat_ofNat_of_lt (v / 262144 % 0x08 + 0xf0) (by omega)
  have second := toNat_ofNat_of_lt (v / 4096 % 0x40 + 0x80) (by omega)
  have third := toNat_ofNat_of_lt (v / 64 % 0x40 + 0x80) (by omega)
  have fourth := toNat_ofNat_of_lt (v % 0x40 + 0x80) (by omega)
  have found : lead? (v / 262144 % 0x08 + 0xf0) =
      some ⟨if v / 262144 % 0x08 + 0xf0 = 0xF0 then 0x90 else 0x80,
        if v / 262144 % 0x08 + 0xf0 = 0xF4 then 0x8F else 0xBF,
        v / 262144 % 0x08 + 0xf0 - 0xF0, 3⟩ := by
    rw [lead?, if_neg (by omega), if_neg (by omega), if_pos (by omega)]
  have inside : (if v / 262144 % 0x08 + 0xf0 = 0xF0 then 0x90 else 0x80) ≤
        v / 4096 % 0x40 + 0x80 ∧
      v / 4096 % 0x40 + 0x80 ≤ if v / 262144 % 0x08 + 0xf0 = 0xF4 then 0x8F else 0xBF := by
    constructor <;> split <;> omega
  have code : (((v / 262144 % 0x08 + 0xf0 - 0xF0) * 64 + (v / 4096 % 0x40 + 0x80) % 64) * 64 +
      (v / 64 % 0x40 + 0x80) % 64) * 64 + (v % 0x40 + 0x80) % 64 = v := by omega
  rw [readChar_lead _ _ _ _ _ _ _ _ first found (by rw [second]; exact inside), second,
    readTails_cons _ _ _ _ _ (by omega) (by omega), third,
    readTails_cons _ _ _ _ _ (by omega) (by omega), fourth]
  simp only [readTails, Option.map_some, tailBits, code]

/-- A character is read off its own bytes, whatever follows them. -/
theorem readChar_utf8EncodeChar (c : Char) (rest : List UInt8) :
    ∃ b more, String.utf8EncodeChar c = b :: more ∧
      readChar b (more ++ rest) = (some c, more.length) := by
  have valid : c.val.toNat < 0xD800 ∨ 0xDFFF < c.val.toNat ∧ c.val.toNat < 0x110000 := c.valid
  have back : Char.ofNat c.val.toNat = c := Char.ofNat_toNat c
  unfold String.utf8EncodeChar
  generalize c.val.toNat = v at valid back
  subst back
  by_cases one : v ≤ 0x7f
  · refine ⟨UInt8.ofNat v, [], if_pos one, ?_⟩
    have byte := toNat_ofNat_of_lt v (by omega)
    rw [readChar_ascii _ _ (by omega), byte]
    rfl
  · by_cases two : v ≤ 0x7ff
    · refine ⟨_, _, (if_neg one).trans (if_pos two), ?_⟩
      exact readChar_two v rest (by omega) two
    · by_cases three : v ≤ 0xffff
      · refine ⟨_, _, (if_neg one).trans ((if_neg two).trans (if_pos three)), ?_⟩
        exact readChar_three v rest (by omega) three (by omega)
      · refine ⟨_, _, (if_neg one).trans ((if_neg two).trans (if_neg three)), ?_⟩
        exact readChar_four v rest (by omega) (by omega)

theorem decodeFrom_skip (covered rest : List UInt8) :
    decodeFrom covered.length (covered ++ rest) = decodeFrom 0 rest := by
  induction covered with
  | nil => rfl
  | cons b more ih => rw [List.length_cons, List.cons_append, decodeFrom, ih]

theorem decode_flatMap (chars : List Char) :
    decode (chars.flatMap String.utf8EncodeChar) = chars.map some := by
  induction chars with
  | nil => rfl
  | cons c rest ih =>
    obtain ⟨b, more, bytes, read⟩ :=
      readChar_utf8EncodeChar c (rest.flatMap String.utf8EncodeChar)
    rw [decode] at ih
    rw [List.flatMap_cons, bytes, List.cons_append, decode, decodeFrom, read]
    simp only [decodeFrom_skip, ih, List.map_cons]

/-- What is decoded is what was encoded. -/
theorem lossy_encode (text : String) : lossy (encode text) = text.toList := by
  rw [lossy, encode_eq_flatMap, decode_flatMap, List.map_map]
  exact List.map_id text.toList

theorem le_toNat_ofNat (n : Nat) (small : n < 256) (high : 0x80 ≤ n) :
    0x80 ≤ (UInt8.ofNat n).toNat := by
  rw [toNat_ofNat_of_lt n small]
  exact high

/-- A character of several bytes has no byte in common with ASCII. -/
theorem le_of_mem_utf8EncodeChar (c : Char) (large : 0x7f < c.val.toNat) :
    ∀ b ∈ String.utf8EncodeChar c, 0x80 ≤ b.toNat := by
  unfold String.utf8EncodeChar
  generalize c.val.toNat = v at large
  dsimp only
  rw [if_neg (by omega)]
  split
  · simp only [List.forall_mem_cons]
    exact ⟨le_toNat_ofNat _ (by omega) (by omega), le_toNat_ofNat _ (by omega) (by omega), by simp⟩
  · split
    · simp only [List.forall_mem_cons]
      exact ⟨le_toNat_ofNat _ (by omega) (by omega), le_toNat_ofNat _ (by omega) (by omega),
        le_toNat_ofNat _ (by omega) (by omega), by simp⟩
    · simp only [List.forall_mem_cons]
      exact ⟨le_toNat_ofNat _ (by omega) (by omega), le_toNat_ofNat _ (by omega) (by omega),
        le_toNat_ofNat _ (by omega) (by omega), le_toNat_ofNat _ (by omega) (by omega), by simp⟩

theorem count_newline_utf8EncodeChar (c : Char) :
    (String.utf8EncodeChar c).count 10 = if c = '\n' then 1 else 0 := by
  by_cases newline : c = '\n'
  · rw [newline]
    rfl
  · rw [if_neg newline, List.count_eq_zero]
    intro member
    by_cases large : 0x7f < c.val.toNat
    · have high := le_of_mem_utf8EncodeChar c large 10 member
      have ten : (10 : UInt8).toNat = 10 := rfl
      omega
    · -- the only byte is the character itself
      unfold String.utf8EncodeChar at member
      dsimp only at member
      rw [if_pos (by omega), List.mem_singleton] at member
      have code := congrArg UInt8.toNat member
      rw [toNat_ofNat_of_lt _ (by omega)] at code
      exact newline (Char.ext (UInt32.toNat_inj.mp code.symm))

/-- The newlines of a text can be counted among its bytes. -/
theorem count_newline_encode (text : String) :
    (encode text).count 10 = text.toList.count '\n' := by
  rw [encode_eq_flatMap]
  induction text.toList with
  | nil => rfl
  | cons c rest ih =>
    rw [List.flatMap_cons, List.count_append, count_newline_utf8EncodeChar, ih, List.count_cons,
      Nat.add_comm]
    simp only [beq_iff_eq]

end MarkupLint.Utf8
