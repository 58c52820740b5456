/-! # Texts as bytes

* **`encode`** writes a text as bytes, **`decode?`** reads it back if the bytes are a text.
* **`decodeLossy`** reads any bytes as text. Every maximal stretch of bytes that begins a character and does
  not complete it, and every byte that begins none, becomes the replacement character.
* **`decode?_encode`** a text is read back from its bytes.
* **`encode_le_encode_iff`** bytes are in the order of the texts that they stand for.
-/

namespace TraceDiagram.Text

/-- The character that stands for bytes that are no text. -/
def replacementChar : Char := Char.ofNat 0xFFFD

/-- What the first byte of a character promises: the payload it carries, the bounds of the second byte,
and how many more bytes follow that one. -/
structure LeadByte where
  /-- The bits of the code point in the first byte. -/
  bits : Nat
  /-- The least second byte. -/
  least : Nat
  /-- The greatest second byte. -/
  greatest : Nat
  /-- How many bytes follow the second one. -/
  more : Nat
  deriving DecidableEq

/-- Reads the first byte of a character of two to four bytes. -/
def leadByte? (b : Nat) : Option LeadByte :=
  if 0xC2 ≤ b && b ≤ 0xDF then some ⟨b - 0xC0, 0x80, 0xBF, 0⟩
  else if b = 0xE0 then some ⟨0, 0xA0, 0xBF, 1⟩
  else if b = 0xED then some ⟨0xD, 0x80, 0x9F, 1⟩
  else if 0xE1 ≤ b && b ≤ 0xEF then some ⟨b - 0xE0, 0x80, 0xBF, 1⟩
  else if b = 0xF0 then some ⟨0, 0x90, 0xBF, 2⟩
  else if 0xF1 ≤ b && b ≤ 0xF3 then some ⟨b - 0xF0, 0x80, 0xBF, 2⟩
  else if b = 0xF4 then some ⟨4, 0x80, 0x8F, 2⟩
  else none

/-- Reads `more` further bytes of a character whose code point so far is `bits`. -/
def finishChar (bits : Nat) : Nat → List UInt8 → Char × List UInt8
  | 0, bytes => (Char.ofNat bits, bytes)
  | _ + 1, [] => (replacementChar, [])
  | more + 1, b :: bytes =>
    if 0x80 ≤ b && b ≤ 0xBF then finishChar (bits * 64 + (b.toNat - 0x80)) more bytes
    else (replacementChar, b :: bytes)

theorem length_finishChar_le (bits more : Nat) (bytes : List UInt8) :
    (finishChar bits more bytes).2.length ≤ bytes.length := by
  fun_induction finishChar bits more bytes <;> simp_all
  omega

/-- The character that begins with byte `b`, and the bytes after it. -/
def readChar (b : UInt8) (bytes : List UInt8) : Char × List UInt8 :=
  if b < 0x80 then (Char.ofNat b.toNat, bytes)
  else match leadByte? b.toNat with
    | none => (replacementChar, bytes)
    | some lead =>
      match bytes with
      | [] => (replacementChar, [])
      | b' :: rest =>
        if lead.least ≤ b'.toNat && b'.toNat ≤ lead.greatest then
          finishChar (lead.bits * 64 + (b'.toNat - 0x80)) lead.more rest
        else (replacementChar, b' :: rest)

theorem length_readChar_le (b : UInt8) (bytes : List UInt8) :
    (readChar b bytes).2.length ≤ bytes.length := by
  unfold readChar
  split
  · exact Nat.le_refl _
  · split
    · exact Nat.le_refl _
    · split
      · exact Nat.le_refl _
      · split
        · exact Nat.le_trans (length_finishChar_le _ _ _) (by simp)
        · exact Nat.le_refl _

/-- Reads bytes as text, with the replacement character for what is no text. -/
def decodeLossy : List UInt8 → List Char
  | [] => []
  | b :: bytes =>
    let r := readChar b bytes
    r.1 :: decodeLossy r.2
termination_by bytes => bytes.length
decreasing_by
  have := length_readChar_le b bytes
  simp only [List.length_cons]
  omega

/-- Writes a text as bytes. -/
def encode (s : String) : List UInt8 := s.toList.flatMap String.utf8EncodeChar

/-- Reads bytes as text, if they are one. -/
def decode? (bytes : List UInt8) : Option String :=
  let s := String.ofList (decodeLossy bytes)
  if encode s = bytes then some s else none

/-! ## Reading back -/

/-- A byte that is not the first of its character carries six bits. -/
theorem toNat_followingByte {m : Nat} (h : m < 64) : (UInt8.ofNat (m + 128)).toNat = m + 128 := by
  rw [UInt8.toNat_ofNat']
  omega

theorem finishChar_cons {m : Nat} (h : m < 64) (bits more : Nat) (rest : List UInt8) :
    finishChar bits (more + 1) (UInt8.ofNat (m + 128) :: rest) = finishChar (bits * 64 + m) more rest := by
  have hbyte := toNat_followingByte h
  have hrange : (0x80 ≤ UInt8.ofNat (m + 128) && UInt8.ofNat (m + 128) ≤ 0xBF) = true := by
    simp only [Bool.and_eq_true, decide_eq_true_eq, UInt8.le_iff_toNat_le, hbyte]
    exact ⟨by simp, by simp; omega⟩
  rw [finishChar, if_pos hrange, hbyte, Nat.add_sub_cancel]

/-- What the first byte of a character promises. -/
theorem leadByte?_two : ∀ n < 32, 2 ≤ n → leadByte? (n + 192) = some ⟨n, 0x80, 0xBF, 0⟩ := by decide

theorem leadByte?_three : ∀ n < 16, leadByte? (n + 224) =
    some ⟨n, if n = 0 then 0xA0 else 0x80, if n = 13 then 0x9F else 0xBF, 1⟩ := by decide

theorem leadByte?_four : ∀ n < 5, leadByte? (n + 240) =
    some ⟨n, if n = 0 then 0x90 else 0x80, if n = 4 then 0x8F else 0xBF, 2⟩ := by decide

/-- A character of several bytes is read if its second byte is as the first one promises. -/
theorem readChar_of_lead {n bits least greatest more m : Nat} (hn : 128 ≤ n ∧ n < 256)
    (hlead : leadByte? n = some ⟨bits, least, greatest, more⟩) (hm : m < 64)
    (hrange : least ≤ m + 128 ∧ m + 128 ≤ greatest) (rest : List UInt8) :
    readChar (UInt8.ofNat n) (UInt8.ofNat (m + 128) :: rest) = finishChar (bits * 64 + m) more rest := by
  have hfirst : (UInt8.ofNat n).toNat = n := by
    rw [UInt8.toNat_ofNat']
    omega
  have hlarge : ¬UInt8.ofNat n < 0x80 := by
    rw [UInt8.lt_iff_toNat_lt, hfirst]
    exact Nat.not_lt.2 hn.1
  rw [readChar, if_neg hlarge, hfirst, hlead]
  simp only [toNat_followingByte hm, Nat.add_sub_cancel]
  rw [if_pos (by simpa using hrange)]

/-- **A character is read back** from its bytes. -/
theorem readChar_encodeChar (c : Char) (rest : List UInt8) :
    ∃ b bytes, String.utf8EncodeChar c = b :: bytes ∧ readChar b (bytes ++ rest) = (c, rest) := by
  -- the code points that are none of characters are those that the bounds of second bytes exclude
  have hvalid : c.val.toNat < 0xD800 ∨ 0xDFFF < c.val.toNat ∧ c.val.toNat < 0x110000 := c.valid
  have hback : Char.ofNat c.val.toNat = c := Char.ofNat_toNat c
  rw [String.utf8EncodeChar.eq_1]
  generalize c.val.toNat = v at hvalid hback
  split
  · have hbyte : (UInt8.ofNat v).toNat = v := by
      rw [UInt8.toNat_ofNat']
      omega
    have hsmall : UInt8.ofNat v < 0x80 := by
      rw [UInt8.lt_iff_toNat_lt, hbyte]
      exact Nat.lt_succ_of_le ‹_›
    refine ⟨_, [], rfl, ?_⟩
    rw [List.nil_append, readChar, if_pos hsmall, hbyte, hback]
  · split
    · have hbits : v / 64 % 32 = v / 64 := by omega
      have hlead := leadByte?_two (v / 64) (by omega) (by omega)
      refine ⟨_, _, rfl, ?_⟩
      rw [hbits, List.cons_append, List.nil_append,
        readChar_of_lead (by omega) hlead (by omega) ⟨by omega, by omega⟩, finishChar,
        show v / 64 * 64 + v % 64 = v by omega, hback]
    · split
      · have hbits : v / 4096 % 16 = v / 4096 := by omega
        have hlead := leadByte?_three (v / 4096) (by omega)
        refine ⟨_, _, rfl, ?_⟩
        rw [hbits, List.cons_append, List.cons_append, List.nil_append,
          readChar_of_lead (by omega) hlead (by omega) ⟨by split <;> omega, by split <;> omega⟩,
          finishChar_cons (by omega), finishChar,
          show (v / 4096 * 64 + v / 64 % 64) * 64 + v % 64 = v by omega, hback]
      · have hbits : v / 262144 % 8 = v / 262144 := by omega
        have hlead := leadByte?_four (v / 262144) (by omega)
        refine ⟨_, _, rfl, ?_⟩
        rw [hbits, List.cons_append, List.cons_append, List.cons_append, List.nil_append,
          readChar_of_lead (by omega) hlead (by omega) ⟨by split <;> omega, by split <;> omega⟩,
          finishChar_cons (by omega), finishChar_cons (by omega), finishChar,
          show ((v / 262144 * 64 + v / 4096 % 64) * 64 + v / 64 % 64) * 64 + v % 64 = v by omega, hback]

/-- The characters of a text are read back from its bytes. -/
theorem decodeLossy_encode (s : String) : decodeLossy (encode s) = s.toList := by
  rw [encode]
  induction s.toList with
  | nil => simp [decodeLossy]
  | cons c cs ih =>
    obtain ⟨b, bytes, hbytes, hread⟩ := readChar_encodeChar c (cs.flatMap String.utf8EncodeChar)
    rw [List.flatMap_cons, hbytes, List.cons_append, decodeLossy, hread, ih]

/-- **A text is read back** from its bytes. -/
theorem decode?_encode (s : String) : decode? (encode s) = some s := by
  simp [decode?, decodeLossy_encode]

/-! ## Order -/

section Order

variable {xs ys : List UInt8} {m n : Nat}

/-- A byte decides, unless both are the same. -/
theorem byte_cons_lt (hle : m ≤ n) (hn : n < 256) (h : m = n → xs < ys) :
    UInt8.ofNat m :: xs < UInt8.ofNat n :: ys := by
  by_cases heq : m = n
  · exact heq ▸ List.cons_lt_cons_iff.2 (.inr ⟨rfl, h heq⟩)
  · refine List.cons_lt_cons_iff.2 (.inl ?_)
    rw [UInt8.lt_iff_toNat_lt, UInt8.toNat_ofNat', UInt8.toNat_ofNat']
    omega

/-- Six bits decide between numbers that are the same in front of them. -/
theorem sixBits_cons_lt (hle : m ≤ n) (hfront : m / 64 = n / 64) (h : m = n → xs < ys) :
    UInt8.ofNat (m % 64 + 128) :: xs < UInt8.ofNat (n % 64 + 128) :: ys :=
  byte_cons_lt (by omega) (by omega) fun heq => h (by omega)

/-- A character that comes first has the lesser bytes, whatever stands behind them. -/
theorem utf8EncodeChar_append_lt {c d : Char} (hlt : c < d) (xs ys : List UInt8) :
    String.utf8EncodeChar c ++ xs < String.utf8EncodeChar d ++ ys := by
  have hvalid : d.val.toNat < 0xD800 ∨ 0xDFFF < d.val.toNat ∧ d.val.toNat < 0x110000 := d.valid
  have hlt : c.val.toNat < d.val.toNat := hlt
  rw [String.utf8EncodeChar.eq_1, String.utf8EncodeChar.eq_1]
  generalize c.val.toNat = v at hlt
  generalize d.val.toNat = w at hlt hvalid
  have hle : ∀ k, v / k ≤ w / k := fun k => Nat.div_le_div_right (Nat.le_of_lt hlt)
  have hlast : v = w → xs < ys := fun h => absurd h (Nat.ne_of_lt hlt)
  -- a code of more bytes begins with a greater one; in codes of as many bytes each byte has six bits more
  split
  · repeat' split
    all_goals exact byte_cons_lt (by omega) (by omega) fun h => absurd h (by omega)
  · split
    · split
      · omega
      · split
        · refine byte_cons_lt (by omega) (by omega) fun h1 => ?_
          exact sixBits_cons_lt (Nat.le_of_lt hlt) (by omega) hlast
        · split
          all_goals exact byte_cons_lt (by omega) (by omega) fun h => absurd h (by omega)
    · split
      · split
        · omega
        · split
          · omega
          · split
            · refine byte_cons_lt (by omega) (by omega) fun h2 => ?_
              refine sixBits_cons_lt (hle 64) (by omega) fun h1 => ?_
              exact sixBits_cons_lt (Nat.le_of_lt hlt) h1 hlast
            · exact byte_cons_lt (by omega) (by omega) fun h => absurd h (by omega)
      · split
        · omega
        · split
          · omega
          · split
            · omega
            · refine byte_cons_lt (by omega) (by omega) fun h3 => ?_
              refine sixBits_cons_lt (hle 4096) (by omega) fun h2 => ?_
              refine sixBits_cons_lt (hle 64) (by omega) fun h1 => ?_
              exact sixBits_cons_lt (Nat.le_of_lt hlt) h1 hlast

/-- A text that comes first has the lesser bytes. -/
theorem encode_lt_encode {s t : String} (h : s < t) : encode s < encode t := by
  rw [encode, encode]
  have hchars : List.Lex (· < ·) s.toList t.toList := String.lt_iff.1 h
  generalize s.toList = cs at hchars
  generalize t.toList = ds at hchars
  induction hchars with
  | @nil d ds =>
    obtain ⟨b, bytes, hbytes, -⟩ := readChar_encodeChar d []
    rw [List.flatMap_nil, List.flatMap_cons, hbytes]
    exact .nil
  | rel hlt => exact utf8EncodeChar_append_lt hlt _ _
  | cons _ ih => exact List.append_left_lt ih

/-- **Bytes are in the order of the texts** that they stand for. -/
theorem encode_le_encode_iff (s t : String) : encode s ≤ encode t ↔ s ≤ t := by
  constructor
  · intro h hlt
    exact h (encode_lt_encode hlt)
  · intro h
    rcases Std.lt_trichotomy s t with hlt | rfl | hgt
    · exact List.le_of_lt (encode_lt_encode hlt)
    · exact List.le_refl _
    · exact absurd hgt (String.not_lt.2 h)

end Order

end TraceDiagram.Text
