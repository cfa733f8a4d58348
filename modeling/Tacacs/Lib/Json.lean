import Tacacs.Lib.Text
import Tacacs.Lib.Utf8

/-!
# JSON as `encoding/json` writes it

Values are written without white space; a number is a natural number. In a string, what is not
UTF-8 is written as U+FFFD, and a few characters are escaped: quotes, backslashes and control
characters always, and `<`, `>`, `&` unless the encoder was told not to.

`read` is a reader of such texts, as any other would read them. What it makes of a written value
is that value with its strings made valid UTF-8 (`read_encode`), wherever the text stands, so one
text is written for no two values that differ in more than bytes that are not UTF-8. No written
text has a line break in it (`newline_not_mem_encode`).
-/

set_option autoImplicit false

namespace GoJson

open GoSem GoText
open String (utf8EncodeChar)

/-! ## Strings -/

def unicodeEscape (n : Nat) : Bytes :=
  [0x5c, 0x75, hexDigit (n / 4096 % 16), hexDigit (n / 256 % 16), hexDigit (n / 16 % 16),
    hexDigit (n % 16)]

/-- What a byte below 0x80 is written as. -/
def escapeASCII (escapeHTML : Bool) (b : UInt8) : Bytes :=
  if b = 0x22 ∨ b = 0x5c then [0x5c, b]
  else if b = 0x08 then [0x5c, 0x62]
  else if b = 0x0c then [0x5c, 0x66]
  else if b = 0x0a then [0x5c, 0x6e]
  else if b = 0x0d then [0x5c, 0x72]
  else if b = 0x09 then [0x5c, 0x74]
  else if b < 0x20 ∨ (escapeHTML = true ∧ (b = 0x3c ∨ b = 0x3e ∨ b = 0x26)) then
    unicodeEscape b.toNat
  else [b]

/-- What a character, and the bytes it was read from, is written as. A single byte from 0x80 on
    is not UTF-8. -/
def escapeRune (escapeHTML : Bool) (r : Char × Bytes) : Bytes :=
  match r.2 with
  | [b] => if b < 0x80 then escapeASCII escapeHTML b else unicodeEscape 0xfffd
  | raw =>
      if r.1.toNat = 0x2028 ∨ r.1.toNat = 0x2029 then unicodeEscape r.1.toNat else raw

def quote (escapeHTML : Bool) (s : Bytes) : Bytes :=
  0x22 :: ((runes s).flatMap (escapeRune escapeHTML) ++ [0x22])

/-- `strings.ToValidUTF8` with U+FFFD, a byte at a time. -/
def toValid (s : Bytes) : Bytes := (runes s).flatMap fun r => utf8EncodeChar r.1

theorem toValid_char (c : Char) (s : Bytes) :
    toValid (utf8EncodeChar c ++ s) = utf8EncodeChar c ++ toValid s := by
  rw [toValid, runes_char, List.flatMap_cons]
  rfl

theorem toValid_invalid {b : UInt8} {s : Bytes} (h : decodeRune (b :: s) = none) :
    toValid (b :: s) = utf8EncodeChar runeError ++ toValid s := by
  rw [toValid, runes_invalid h, List.flatMap_cons]
  rfl

/-! ## Reading strings -/

/-- The character of an escape of one letter. -/
def unescape (b : UInt8) : Option UInt8 :=
  if b = 0x22 ∨ b = 0x5c ∨ b = 0x2f then some b
  else if b = 0x62 then some 0x08
  else if b = 0x66 then some 0x0c
  else if b = 0x6e then some 0x0a
  else if b = 0x72 then some 0x0d
  else if b = 0x74 then some 0x09
  else none

/-- The character of four hexadecimal digits; half of a surrogate pair is none. -/
def hexChar (a b c d : UInt8) : Option Char := do
  let a ← hexValue a
  let b ← hexValue b
  let c ← hexValue c
  let d ← hexValue d
  let n := a * 4096 + b * 256 + c * 16 + d
  if n.isValidChar then some (Char.ofNat n) else none

/-- A string from behind its opening quote on: its bytes, and what comes after its closing
    quote. -/
def readChars : Bytes → Option (Bytes × Bytes)
  | [] => none
  | b :: s =>
      if b = 0x22 then some ([], s)
      else if b = 0x5c then
        match s with
        | 0x75 :: h₁ :: h₂ :: h₃ :: h₄ :: s => do
            let c ← hexChar h₁ h₂ h₃ h₄
            let (t, s) ← readChars s
            return (utf8EncodeChar c ++ t, s)
        | e :: s => do
            let c ← unescape e
            let (t, s) ← readChars s
            return (c :: t, s)
        | [] => none
      else if b < 0x20 then none
      else do
        let (t, s) ← readChars s
        return (b :: t, s)

def readString : Bytes → Option (Bytes × Bytes)
  | 0x22 :: s => readChars s
  | _ => none

/-- Bytes that were read, and what was read after them. -/
def after (bytes : Bytes) (r : Option (Bytes × Bytes)) : Option (Bytes × Bytes) :=
  r.map fun p => (bytes ++ p.1, p.2)

theorem hexChar_digits {n : Nat} (hn : n < 65536) (hvalid : n.isValidChar) :
    hexChar (hexDigit (n / 4096 % 16)) (hexDigit (n / 256 % 16)) (hexDigit (n / 16 % 16))
      (hexDigit (n % 16)) = some (Char.ofNat n) := by
  have hsum : n / 4096 % 16 * 4096 + n / 256 % 16 * 256 + n / 16 % 16 * 16 + n % 16 = n := by omega
  simp [hexChar, hexValue_hexDigit, Nat.mod_lt, hsum, hvalid]

theorem readChars_unicodeEscape {n : Nat} (hn : n < 65536) (hvalid : n.isValidChar) (t : Bytes) :
    readChars (unicodeEscape n ++ t) = after (utf8EncodeChar (Char.ofNat n)) (readChars t) := by
  have hread : readChars (unicodeEscape n ++ t) = (do
      let c ← hexChar (hexDigit (n / 4096 % 16)) (hexDigit (n / 256 % 16))
        (hexDigit (n / 16 % 16)) (hexDigit (n % 16))
      let (u, s) ← readChars t
      return (utf8EncodeChar c ++ u, s)) := rfl
  rw [hread, hexChar_digits hn hvalid]
  cases readChars t <;> rfl

/-- A byte that is neither a quote, a backslash nor a control character stands for itself. -/
theorem readChars_plain {b : UInt8} (hquote : b ≠ 0x22) (hback : b ≠ 0x5c) (hcontrol : ¬b < 0x20)
    (t : Bytes) : readChars (b :: t) = after [b] (readChars t) := by
  rw [readChars.eq_def]
  dsimp only
  rw [if_neg hquote, if_neg hback, if_neg hcontrol]
  cases readChars t <;> rfl

theorem readChars_escape {e b : UInt8} (he : e ≠ 0x75) (hb : unescape e = some b) (t : Bytes) :
    readChars (0x5c :: e :: t) = after [b] (readChars t) := by
  rw [readChars.eq_def]
  dsimp only
  rw [if_neg (by decide), if_pos rfl]
  split
  · next heq => exact absurd (List.cons.inj heq).1 he
  · next heq =>
    obtain ⟨rfl, rfl⟩ := List.cons.inj heq
    rw [hb]
    cases readChars t <;> rfl
  · next heq => cases heq

theorem readChars_escapeASCII {b : UInt8} (hb : b < 0x80) (escapeHTML : Bool) (t : Bytes) :
    readChars (escapeASCII escapeHTML b ++ t) = after [b] (readChars t) := by
  unfold escapeASCII
  split
  · next h =>
    rcases h with rfl | rfl
    · exact readChars_escape (by decide) rfl t
    · exact readChars_escape (by decide) rfl t
  · next hplain =>
    rw [not_or] at hplain
    split_ifs with h₁ h₂ h₃ h₄ h₅ h₆
    · exact h₁ ▸ readChars_escape (by decide) rfl t
    · exact h₂ ▸ readChars_escape (by decide) rfl t
    · exact h₃ ▸ readChars_escape (by decide) rfl t
    · exact h₄ ▸ readChars_escape (by decide) rfl t
    · exact h₅ ▸ readChars_escape (by decide) rfl t
    · have hlt : b.toNat < 0x80 := UInt8.lt_iff_toNat_lt.mp hb
      have hchar : Char.ofNat b.toNat = Char.ofUInt8 b := by
        have hnat : (Char.ofUInt8 b).toNat = b.toNat := rfl
        rw [← hnat, Char.ofNat_toNat]
      rw [readChars_unicodeEscape (by omega) (Or.inl (by omega)), hchar,
        utf8EncodeChar_ofUInt8 hb]
    · exact readChars_plain hplain.1 hplain.2 (fun hlow => h₆ (Or.inl hlow)) t

/-- Bytes of characters of more than one byte stand for themselves. -/
theorem readChars_high {raw : Bytes} (h : ∀ b ∈ raw, 0x80 ≤ b.toNat) (t : Bytes) :
    readChars (raw ++ t) = after raw (readChars t) := by
  induction raw with
  | nil => cases hread : readChars t <;> simp [after, hread]
  | cons b raw ih =>
    have hb := h b List.mem_cons_self
    have hne : ∀ c : UInt8, c.toNat < 0x80 → b ≠ c := by
      rintro c hc rfl
      omega
    rw [List.cons_append, readChars_plain (hne _ (by decide)) (hne _ (by decide))
      (fun hlow => by have := UInt8.lt_iff_toNat_lt.mp hlow; simp at this; omega),
      ih fun c hc => h c (List.mem_cons_of_mem b hc)]
    cases readChars t <;> rfl

theorem readChars_escapeRune (escapeHTML : Bool) (c : Char) (t : Bytes) :
    readChars (escapeRune escapeHTML (c, utf8EncodeChar c) ++ t) =
      after (utf8EncodeChar c) (readChars t) := by
  by_cases hsize : c.utf8Size = 1
  · have hle : c.val.toNat ≤ 127 := UInt32.le_iff_toNat_le.mp (Char.utf8Size_eq_one_iff.mp hsize)
    have hlow : c.val.toUInt8 < 0x80 := by
      rw [UInt8.lt_iff_toNat_lt, UInt32.toNat_toUInt8]
      show c.val.toNat % 256 < 128
      omega
    rw [String.utf8EncodeChar_eq_singleton hsize]
    show readChars ((if _ then _ else _) ++ t) = _
    rw [if_pos hlow]
    exact readChars_escapeASCII hlow escapeHTML t
  · have hraw : escapeRune escapeHTML (c, utf8EncodeChar c) =
        if c.toNat = 0x2028 ∨ c.toNat = 0x2029 then unicodeEscape c.toNat
        else utf8EncodeChar c := by
      unfold escapeRune
      split
      · next b hb =>
        have hlength := String.length_utf8EncodeChar c
        rw [show utf8EncodeChar c = [b] from hb] at hlength
        exact absurd hlength.symm hsize
      · rfl
    rw [hraw]
    split
    · next hsep =>
      have hvalid : c.toNat.isValidChar := by rcases hsep with h | h <;> rw [h] <;> decide
      rw [readChars_unicodeEscape (by omega) hvalid, Char.ofNat_toNat]
    · exact readChars_high (fun b hb => high_of_mem_utf8EncodeChar hsize hb) t

/-- A text that was written a character at a time is read a character at a time. -/
theorem readChars_flatMap (escapeHTML : Bool) (s t : Bytes) :
    readChars ((runes s).flatMap (escapeRune escapeHTML) ++ t) =
      after (toValid s) (readChars t) := by
  induction s using rune_induction with
  | nil => cases hread : readChars t <;> simp [after, toValid, hread]
  | char c s ih =>
    rw [runes_char, List.flatMap_cons, List.append_assoc, readChars_escapeRune, ih, toValid_char]
    cases readChars t <;> simp [after]
  | invalid b s hnone ih =>
    have hhigh : ¬b < 0x80 := by
      intro hb
      rw [decodeRune_eq_some.mpr ⟨s, by rw [utf8EncodeChar_ofUInt8 hb]; rfl⟩] at hnone
      cases hnone
    have hone : escapeRune escapeHTML (runeError, [b]) = unicodeEscape 0xfffd := if_neg hhigh
    rw [runes_invalid hnone, List.flatMap_cons, List.append_assoc, hone,
      readChars_unicodeEscape (by decide) (by decide), ih, toValid_invalid hnone]
    cases readChars t <;> simp [after, runeError]

theorem readString_quote (escapeHTML : Bool) (s rest : Bytes) :
    readString (quote escapeHTML s ++ rest) = some (toValid s, rest) := by
  have hread : readString (quote escapeHTML s ++ rest) =
      readChars ((runes s).flatMap (escapeRune escapeHTML) ++ 0x22 :: rest) := by
    rw [quote, List.cons_append, List.append_assoc]
    rfl
  have hend : readChars (0x22 :: rest) = some ([], rest) := by
    rw [readChars.eq_def]
    exact if_pos rfl
  rw [hread, readChars_flatMap, hend]
  simp [after]

/-! ## Values -/

inductive Json where
  | bool (b : Bool)
  | num (n : Nat)
  | str (s : Bytes)
  | arr (xs : List Json)
  | obj (ms : List (Bytes × Json))

mutual

def encode (escapeHTML : Bool) : Json → Bytes
  | .bool true => [0x74, 0x72, 0x75, 0x65]
  | .bool false => [0x66, 0x61, 0x6c, 0x73, 0x65]
  | .num n => decimal n
  | .str s => quote escapeHTML s
  | .arr [] => [0x5b, 0x5d]
  | .arr (x :: xs) => 0x5b :: (encode escapeHTML x ++ encodeElements escapeHTML xs)
  | .obj [] => [0x7b, 0x7d]
  | .obj ((k, x) :: ms) =>
      0x7b :: (quote escapeHTML k ++ 0x3a :: (encode escapeHTML x ++ encodeMembers escapeHTML ms))

/-- The elements after the first, and the end of the array. -/
def encodeElements (escapeHTML : Bool) : List Json → Bytes
  | [] => [0x5d]
  | x :: xs => 0x2c :: (encode escapeHTML x ++ encodeElements escapeHTML xs)

/-- The members after the first, and the end of the object. -/
def encodeMembers (escapeHTML : Bool) : List (Bytes × Json) → Bytes
  | [] => [0x7d]
  | (k, x) :: ms =>
      0x2c :: (quote escapeHTML k ++ 0x3a :: (encode escapeHTML x ++ encodeMembers escapeHTML ms))

end

mutual

/-- The value with its strings made valid UTF-8. -/
def valid : Json → Json
  | .bool b => .bool b
  | .num n => .num n
  | .str s => .str (toValid s)
  | .arr xs => .arr (validElements xs)
  | .obj ms => .obj (validMembers ms)

def validElements : List Json → List Json
  | [] => []
  | x :: xs => valid x :: validElements xs

def validMembers : List (Bytes × Json) → List (Bytes × Json)
  | [] => []
  | (k, x) :: ms => (toValid k, valid x) :: validMembers ms

end

theorem validElements_eq_map (xs : List Json) : validElements xs = xs.map valid := by
  induction xs with
  | nil => rfl
  | cons x xs ih => rw [validElements, ih, List.map_cons]

/-! ## Reading values -/

mutual

/-- A value, and what comes after it; `fuel` bounds the depth of the recursion. -/
def read : Nat → Bytes → Option (Json × Bytes)
  | 0, _ => none
  | _ + 1, [] => none
  | fuel + 1, b :: s =>
      if b = 0x22 then (readChars s).map fun p => (.str p.1, p.2)
      else if b = 0x5b then
        match s with
        | 0x5d :: s => some (.arr [], s)
        | s => do
            let (x, s) ← read fuel s
            let (xs, s) ← readElements fuel s
            return (.arr (x :: xs), s)
      else if b = 0x7b then
        match s with
        | 0x7d :: s => some (.obj [], s)
        | s => do
            let (m, s) ← readMember fuel s
            let (ms, s) ← readMembers fuel s
            return (.obj (m :: ms), s)
      else if b = 0x74 then
        match s with
        | 0x72 :: 0x75 :: 0x65 :: s => some (.bool true, s)
        | _ => none
      else if b = 0x66 then
        match s with
        | 0x61 :: 0x6c :: 0x73 :: 0x65 :: s => some (.bool false, s)
        | _ => none
      else if isDigit b then
        some (.num (value ((b :: s).takeWhile isDigit)), (b :: s).dropWhile isDigit)
      else none

def readElements : Nat → Bytes → Option (List Json × Bytes)
  | 0, _ => none
  | fuel + 1, s =>
      match s with
      | 0x5d :: s => some ([], s)
      | 0x2c :: s => do
          let (x, s) ← read fuel s
          let (xs, s) ← readElements fuel s
          return (x :: xs, s)
      | _ => none

def readMember : Nat → Bytes → Option ((Bytes × Json) × Bytes)
  | 0, _ => none
  | fuel + 1, s => do
      let (k, s) ← readString s
      match s with
      | 0x3a :: s => do
          let (x, s) ← read fuel s
          return ((k, x), s)
      | _ => none

def readMembers : Nat → Bytes → Option (List (Bytes × Json) × Bytes)
  | 0, _ => none
  | fuel + 1, s =>
      match s with
      | 0x7d :: s => some ([], s)
      | 0x2c :: s => do
          let (m, s) ← readMember fuel s
          let (ms, s) ← readMembers fuel s
          return (m :: ms, s)
      | _ => none

end

/-- What a text is read as. -/
def parse (s : Bytes) : Option (Json × Bytes) := read (2 * s.length) s

theorem read_decimal {fuel : Nat} (n : Nat) {rest : Bytes}
    (hrest : ∀ b ∈ rest.head?, isDigit b = false) :
    read (fuel + 1) (decimal n ++ rest) = some (.num n, rest) := by
  obtain ⟨b, ds, hds⟩ := List.exists_cons_of_ne_nil (decimal_ne_nil n)
  have hdigit : ∀ c ∈ decimal n, isDigit c := fun c hc => isDigit_of_mem_decimal hc
  have hb : isDigit b := hdigit b (hds ▸ List.mem_cons_self)
  have hne : ∀ c : UInt8, isDigit c = false → b ≠ c := by
    rintro c hc rfl
    rw [hb] at hc
    cases hc
  have hstop : rest.takeWhile isDigit = [] ∧ rest.dropWhile isDigit = rest := by
    cases rest with
    | nil => exact ⟨rfl, rfl⟩
    | cons c rest => simp [hrest c rfl]
  rw [hds, List.cons_append, read.eq_def]
  dsimp only
  rw [if_neg (hne _ (by decide)), if_neg (hne _ (by decide)), if_neg (hne _ (by decide)),
    if_neg (hne _ (by decide)), if_neg (hne _ (by decide)), if_pos hb, ← List.cons_append, ← hds,
    List.takeWhile_append_of_pos hdigit, List.dropWhile_append_of_pos hdigit, hstop.1, hstop.2,
    List.append_nil, value_decimal]

theorem read_quote {fuel : Nat} (escapeHTML : Bool) (s rest : Bytes) :
    read (fuel + 1) (quote escapeHTML s ++ rest) = some (.str (toValid s), rest) := by
  have hread : read (fuel + 1) (quote escapeHTML s ++ rest) =
      (readString (quote escapeHTML s ++ rest)).map fun p => (.str p.1, p.2) := by
    rw [quote, List.cons_append, read.eq_def]
    exact if_pos rfl
  rw [hread, readString_quote]
  rfl

theorem readMember_encode {fuel : Nat} (escapeHTML : Bool) (k : Bytes) {x : Json} {s rest : Bytes}
    (hx : read fuel s = some (x, rest)) :
    readMember (fuel + 1) (quote escapeHTML k ++ 0x3a :: s) = some ((toValid k, x), rest) := by
  rw [readMember, readString_quote]
  simp [hx]

theorem encode_ne_nil (escapeHTML : Bool) (j : Json) : encode escapeHTML j ≠ [] := by
  unfold encode
  split <;> simp [decimal_ne_nil, quote]

/-- What comes after an element or a member is not a digit. -/
theorem head_encodeElements (escapeHTML : Bool) (xs : List Json) (rest : Bytes) :
    ∀ b ∈ (encodeElements escapeHTML xs ++ rest).head?, isDigit b = false := by
  cases xs <;> simp [encodeElements] <;> decide

theorem head_encodeMembers (escapeHTML : Bool) (ms : List (Bytes × Json)) (rest : Bytes) :
    ∀ b ∈ (encodeMembers escapeHTML ms ++ rest).head?, isDigit b = false := by
  cases ms <;> simp [encodeMembers] <;> decide

/-- No value begins with a closing bracket. -/
theorem head_encode_ne (escapeHTML : Bool) (j : Json) (rest s : Bytes) :
    encode escapeHTML j ++ rest ≠ 0x5d :: s := by
  unfold encode
  split
  case h_3 n =>
    obtain ⟨b, ds, hds⟩ := List.exists_cons_of_ne_nil (decimal_ne_nil n)
    rw [hds, List.cons_append]
    intro h
    obtain ⟨rfl, -⟩ := List.cons.inj h
    exact not_mem_decimal (b := 0x5d) (by decide) n (hds ▸ List.mem_cons_self)
  all_goals simp [quote]

mutual

theorem read_encode (escapeHTML : Bool) (j : Json) (fuel : Nat) (rest : Bytes)
    (hfuel : 2 * (encode escapeHTML j).length ≤ fuel)
    (hrest : ∀ b ∈ rest.head?, isDigit b = false) :
    read fuel (encode escapeHTML j ++ rest) = some (valid j, rest) := by
  have hpos := List.length_pos_of_ne_nil (encode_ne_nil escapeHTML j)
  obtain ⟨fuel, rfl⟩ : ∃ k, fuel = k + 1 := ⟨fuel - 1, by omega⟩
  match j with
  | .bool true => rfl
  | .bool false => rfl
  | .num n => exact read_decimal n hrest
  | .str s => exact read_quote escapeHTML s rest
  | .arr [] => rfl
  | .arr (x :: xs) =>
    simp only [encode, List.length_cons, List.length_append] at hfuel
    have hx := read_encode escapeHTML x fuel (encodeElements escapeHTML xs ++ rest) (by omega)
      (head_encodeElements escapeHTML xs rest)
    have hxs := readElements_encode escapeHTML xs fuel rest (by omega)
    rw [encode, List.cons_append, List.append_assoc, read.eq_def]
    dsimp only
    rw [if_neg (by decide), if_pos rfl]
    split
    · next heq => exact absurd heq (head_encode_ne escapeHTML x _ _)
    · rw [hx]
      simp [hxs, valid, validElements]
  | .obj [] => rfl
  | .obj ((k, x) :: ms) =>
    simp only [encode, List.length_cons, List.length_append] at hfuel
    obtain ⟨fuel, rfl⟩ : ∃ k, fuel = k + 1 := ⟨fuel - 1, by omega⟩
    have hx := read_encode escapeHTML x fuel (encodeMembers escapeHTML ms ++ rest) (by omega)
      (head_encodeMembers escapeHTML ms rest)
    have hms := readMembers_encode escapeHTML ms (fuel + 1) rest (by omega)
    rw [encode, List.cons_append, List.append_assoc, List.cons_append, List.append_assoc,
      read.eq_def]
    dsimp only
    rw [if_neg (by decide), if_neg (by decide), if_pos rfl]
    split
    · next heq => cases heq
    · rw [readMember_encode escapeHTML k hx]
      simp [hms, valid, validMembers]

theorem readElements_encode (escapeHTML : Bool) (xs : List Json) (fuel : Nat) (rest : Bytes)
    (hfuel : 2 * (encodeElements escapeHTML xs).length ≤ fuel) :
    readElements fuel (encodeElements escapeHTML xs ++ rest) = some (validElements xs, rest) := by
  match xs with
  | [] =>
    obtain ⟨fuel, rfl⟩ : ∃ k, fuel = k + 1 := ⟨fuel - 1, by simp [encodeElements] at hfuel; omega⟩
    rfl
  | x :: xs =>
    simp only [encodeElements, List.length_cons, List.length_append] at hfuel
    obtain ⟨fuel, rfl⟩ : ∃ k, fuel = k + 1 := ⟨fuel - 1, by omega⟩
    have hx := read_encode escapeHTML x fuel (encodeElements escapeHTML xs ++ rest) (by omega)
      (head_encodeElements escapeHTML xs rest)
    have hxs := readElements_encode escapeHTML xs fuel rest (by omega)
    rw [encodeElements, List.cons_append, List.append_assoc, readElements, hx]
    simp [hxs, validElements]

theorem readMembers_encode (escapeHTML : Bool) (ms : List (Bytes × Json)) (fuel : Nat)
    (rest : Bytes) (hfuel : 2 * (encodeMembers escapeHTML ms).length ≤ fuel) :
    readMembers fuel (encodeMembers escapeHTML ms ++ rest) = some (validMembers ms, rest) := by
  match ms with
  | [] =>
    obtain ⟨fuel, rfl⟩ : ∃ k, fuel = k + 1 := ⟨fuel - 1, by simp [encodeMembers] at hfuel; omega⟩
    rfl
  | (k, x) :: ms =>
    simp only [encodeMembers, List.length_cons, List.length_append] at hfuel
    obtain ⟨fuel, rfl⟩ : ∃ k, fuel = k + 2 := ⟨fuel - 2, by omega⟩
    have hx := read_encode escapeHTML x fuel (encodeMembers escapeHTML ms ++ rest) (by omega)
      (head_encodeMembers escapeHTML ms rest)
    have hms := readMembers_encode escapeHTML ms (fuel + 1) rest (by omega)
    rw [encodeMembers, List.cons_append, List.append_assoc, List.cons_append, List.append_assoc,
      readMembers, readMember_encode escapeHTML k hx]
    simp [hms, validMembers]

end

theorem parse_encode (escapeHTML : Bool) (j : Json) (rest : Bytes)
    (hrest : ∀ b ∈ rest.head?, isDigit b = false) :
    parse (encode escapeHTML j ++ rest) = some (valid j, rest) := by
  apply read_encode escapeHTML j _ rest ?_ hrest
  rw [List.length_append]
  omega

/-- One text is written for values that differ in nothing but bytes that are not UTF-8. -/
theorem valid_eq_of_encode_eq {escapeHTML : Bool} {j j' : Json}
    (h : encode escapeHTML j = encode escapeHTML j') : valid j = valid j' := by
  have hj := parse_encode escapeHTML j [] (by simp)
  rw [h, parse_encode escapeHTML j' [] (by simp)] at hj
  exact (Prod.mk.inj (Option.some.inj hj)).1.symm

/-! ## Lines -/

theorem printable_unicodeEscape (n : Nat) : ∀ b ∈ unicodeEscape n, 0x20 ≤ b.toNat := by
  have hdigit : ∀ k < 16, 0x20 ≤ (hexDigit k).toNat := by decide
  have hmod : ∀ m, 0x20 ≤ (hexDigit (m % 16)).toNat := fun m => hdigit _ (Nat.mod_lt _ (by decide))
  simp [unicodeEscape, hmod]

theorem printable_escapeASCII (escapeHTML : Bool) (b : UInt8) :
    ∀ c ∈ escapeASCII escapeHTML b, 0x20 ≤ c.toNat := by
  unfold escapeASCII
  split_ifs with h₁ h₂ h₃ h₄ h₅ h₆ h₇
  · rcases h₁ with rfl | rfl <;> simp
  · simp
  · simp
  · simp
  · simp
  · simp
  · exact printable_unicodeEscape _
  · intro c hc
    rw [List.mem_singleton.mp hc]
    have hhigh : ¬b < 0x20 := fun hlow => h₇ (Or.inl hlow)
    exact Nat.not_lt.mp fun hlt => hhigh (UInt8.lt_iff_toNat_lt.mpr hlt)

theorem printable_quote (escapeHTML : Bool) (s : Bytes) :
    ∀ b ∈ quote escapeHTML s, 0x20 ≤ b.toNat := by
  have hbody : ∀ b ∈ (runes s).flatMap (escapeRune escapeHTML), 0x20 ≤ b.toNat := by
    induction s using rune_induction with
    | nil => simp
    | char c s ih =>
      rw [runes_char, List.flatMap_cons, List.forall_mem_append]
      refine ⟨?_, ih⟩
      unfold escapeRune
      split
      · split
        · exact printable_escapeASCII escapeHTML _
        · exact printable_unicodeEscape _
      · next hmulti =>
        split
        · exact printable_unicodeEscape _
        · have hsize : c.utf8Size ≠ 1 := fun hone =>
            hmulti _ (String.utf8EncodeChar_eq_singleton hone)
          exact fun b hb => Nat.le_trans (by decide) (high_of_mem_utf8EncodeChar hsize hb)
    | invalid b s hnone ih =>
      rw [runes_invalid hnone, List.flatMap_cons, List.forall_mem_append]
      refine ⟨?_, ih⟩
      unfold escapeRune
      dsimp only
      split
      · exact printable_escapeASCII escapeHTML _
      · exact printable_unicodeEscape _
  rw [quote, List.forall_mem_cons, List.forall_mem_append]
  exact ⟨by decide, hbody, by simp⟩

mutual

theorem printable_encode (escapeHTML : Bool) (j : Json) :
    ∀ b ∈ encode escapeHTML j, 0x20 ≤ b.toNat := by
  match j with
  | .bool true => simp [encode]
  | .bool false => simp [encode]
  | .num n =>
    intro b hb
    exact Nat.le_trans (by decide) (isDigit_iff.mp (isDigit_of_mem_decimal hb)).1
  | .str s => exact printable_quote escapeHTML s
  | .arr [] => simp [encode]
  | .arr (x :: xs) =>
    rw [encode, List.forall_mem_cons, List.forall_mem_append]
    exact ⟨by decide, printable_encode escapeHTML x, printable_encodeElements escapeHTML xs⟩
  | .obj [] => simp [encode]
  | .obj ((k, x) :: ms) =>
    rw [encode, List.forall_mem_cons, List.forall_mem_append, List.forall_mem_cons,
      List.forall_mem_append]
    exact ⟨by decide, printable_quote escapeHTML k, by decide, printable_encode escapeHTML x,
      printable_encodeMembers escapeHTML ms⟩

theorem printable_encodeElements (escapeHTML : Bool) (xs : List Json) :
    ∀ b ∈ encodeElements escapeHTML xs, 0x20 ≤ b.toNat := by
  match xs with
  | [] => simp [encodeElements]
  | x :: xs =>
    rw [encodeElements, List.forall_mem_cons, List.forall_mem_append]
    exact ⟨by decide, printable_encode escapeHTML x, printable_encodeElements escapeHTML xs⟩

theorem printable_encodeMembers (escapeHTML : Bool) (ms : List (Bytes × Json)) :
    ∀ b ∈ encodeMembers escapeHTML ms, 0x20 ≤ b.toNat := by
  match ms with
  | [] => simp [encodeMembers]
  | (k, x) :: ms =>
    rw [encodeMembers, List.forall_mem_cons, List.forall_mem_append, List.forall_mem_cons,
      List.forall_mem_append]
    exact ⟨by decide, printable_quote escapeHTML k, by decide, printable_encode escapeHTML x,
      printable_encodeMembers escapeHTML ms⟩

end

theorem newline_not_mem_encode (escapeHTML : Bool) (j : Json) : 0x0a ∉ encode escapeHTML j :=
  fun h => absurd (printable_encode escapeHTML j _ h) (by decide)

end GoJson
