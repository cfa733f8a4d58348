import Tacacs.Lib.Go

/-!
# Text as characters

A Go string is bytes, and `range` reads it as UTF-8 (`runes`): a character where the bytes are
one, and U+FFFD for a byte where they are not. `strings.Map` and `strings.FieldsFunc` work on
what `range` yields.

A byte below 0x80 is a character by itself wherever it stands, also after the broken beginning of
another one (`runes_append_ascii`). So a text may be taken apart at such bytes before it is read:
the words of a line are the words of its parts (`fieldsFunc_append`), and a mapping of characters
puts such a byte only where it maps a character to it (`exists_rune_of_mem_mapRunes`).
-/

set_option autoImplicit false

namespace GoText

open GoSem
open String (utf8EncodeChar)

/-! ## The bytes of a character -/

theorem utf8EncodeChar_ne_nil (c : Char) : utf8EncodeChar c ≠ [] := by
  apply List.ne_nil_of_length_pos
  rw [String.length_utf8EncodeChar]
  exact Char.utf8Size_pos c

theorem utf8EncodeChar_ofUInt8 {b : UInt8} (hb : b < 0x80) :
    utf8EncodeChar (Char.ofUInt8 b) = [b] := by
  have hval : (Char.ofUInt8 b).val = b.toUInt32 := rfl
  have hsize : (Char.ofUInt8 b).utf8Size = 1 := by
    rw [Char.utf8Size_eq_one_iff, hval, UInt32.le_iff_toNat_le, UInt8.toNat_toUInt32]
    exact Nat.le_of_lt_succ (UInt8.lt_iff_toNat_lt.mp hb)
  rw [String.utf8EncodeChar_eq_singleton hsize, hval, UInt8.toUInt8_toUInt32]

/-- The bytes of a character of more than one byte all have their high bit set. -/
theorem high_of_mem_utf8EncodeChar {c : Char} (hsize : c.utf8Size ≠ 1) {b : UInt8}
    (h : b ∈ utf8EncodeChar c) : 0x80 ≤ b.toNat := by
  have hval : ¬ c.val.toNat ≤ 127 := fun hle =>
    hsize (Char.utf8Size_eq_one_iff.mpr (UInt32.le_iff_toNat_le.mpr hle))
  simp only [String.utf8EncodeChar, hval, if_false] at h
  -- two, three or four bytes
  split at h
  · simp only [List.mem_cons, List.not_mem_nil, or_false] at h
    rcases h with rfl | rfl <;> rw [UInt8.toNat_ofNat'] <;> omega
  · split at h
    · simp only [List.mem_cons, List.not_mem_nil, or_false] at h
      rcases h with rfl | rfl | rfl <;> rw [UInt8.toNat_ofNat'] <;> omega
    · simp only [List.mem_cons, List.not_mem_nil, or_false] at h
      rcases h with rfl | rfl | rfl | rfl <;> rw [UInt8.toNat_ofNat'] <;> omega

/-- A byte below 0x80 among the bytes of a character is the character. -/
theorem eq_ofUInt8_of_mem {c : Char} {b : UInt8} (h : b ∈ utf8EncodeChar c) (hb : b < 0x80) :
    c = Char.ofUInt8 b := by
  have hnat : b.toNat < 0x80 := UInt8.lt_iff_toNat_lt.mp hb
  by_cases hsize : c.utf8Size = 1
  · rw [String.utf8EncodeChar_eq_singleton hsize, List.mem_singleton] at h
    have hle : c.val.toNat ≤ 127 := UInt32.le_iff_toNat_le.mp (Char.utf8Size_eq_one_iff.mp hsize)
    have hval : (Char.ofUInt8 b).val = b.toUInt32 := rfl
    apply Char.ext
    apply UInt32.toNat_inj.mp
    rw [hval, UInt8.toNat_toUInt32, h, UInt32.toNat_toUInt8]
    omega
  · have hhigh := high_of_mem_utf8EncodeChar hsize h
    omega

/-! ## Reading a text -/

/-- The character that a text begins with, if it begins with one. -/
def decodeRune (s : Bytes) : Option Char := s.toByteArray.utf8DecodeChar? 0

theorem decodeRune_eq_some {s : Bytes} {c : Char} :
    decodeRune s = some c ↔ ∃ t, s = utf8EncodeChar c ++ t := by
  constructor
  · intro h
    have hsplit := congrArg (fun b => b.data.toList) (ByteArray.eq_of_utf8DecodeChar?_eq_some h)
    simp only [ByteArray.data_append, Array.toList_append, List.toList_data_toByteArray] at hsplit
    exact ⟨_, hsplit⟩
  · rintro ⟨t, rfl⟩
    rw [decodeRune, List.toByteArray_append]
    exact ByteArray.utf8DecodeChar?_utf8EncodeChar_append

def runeError : Char := Char.ofNat 0xfffd

theorem ofUInt8_ne_runeError (b : UInt8) : Char.ofUInt8 b ≠ runeError := by
  intro h
  have hnat : b.toNat = 0xfffd := congrArg Char.toNat h
  have hlt := b.toNat_lt
  omega

/-- `runes` after `skip` more bytes of the character before. -/
def runesAfter : Nat → Bytes → List (Char × Bytes)
  | _, [] => []
  | skip + 1, _ :: s => runesAfter skip s
  | 0, b :: s =>
      match decodeRune (b :: s) with
      | some c => (c, utf8EncodeChar c) :: runesAfter (c.utf8Size - 1) s
      | none => (runeError, [b]) :: runesAfter 0 s

/-- `range` over a string: the characters, each with the bytes it was read from. -/
def runes (s : Bytes) : List (Char × Bytes) := runesAfter 0 s

theorem runesAfter_eq (s : Bytes) : ∀ skip : Nat, runesAfter skip s = runes (s.drop skip) := by
  induction s with
  | nil => intro skip; simp [runes, runesAfter]
  | cons b s ih =>
    intro skip
    cases skip with
    | zero => rfl
    | succ skip => exact ih skip

@[simp] theorem runes_nil : runes [] = [] := rfl

theorem runes_char (c : Char) (s : Bytes) :
    runes (utf8EncodeChar c ++ s) = (c, utf8EncodeChar c) :: runes s := by
  obtain ⟨b, tail, hbytes⟩ := List.exists_cons_of_ne_nil (utf8EncodeChar_ne_nil c)
  have hdecode : decodeRune (b :: (tail ++ s)) = some c := by
    apply decodeRune_eq_some.mpr
    exact ⟨s, by rw [hbytes]; rfl⟩
  have hsize : c.utf8Size - 1 = tail.length := by
    rw [← String.length_utf8EncodeChar, hbytes]
    rfl
  have hread : runes (b :: (tail ++ s)) =
      (c, utf8EncodeChar c) :: runesAfter (c.utf8Size - 1) (tail ++ s) := by
    rw [runes, runesAfter, hdecode]
  rw [runesAfter_eq, hsize, List.drop_left] at hread
  rw [← hread, hbytes]
  rfl

theorem runes_invalid {b : UInt8} {s : Bytes} (h : decodeRune (b :: s) = none) :
    runes (b :: s) = (runeError, [b]) :: runes s := by
  rw [runes, runesAfter, h]
  rfl

/-- Every text is read from the left, a character or a byte that begins none at a time. -/
theorem rune_induction {P : Bytes → Prop} (nil : P [])
    (char : ∀ c s, P s → P (utf8EncodeChar c ++ s))
    (invalid : ∀ b s, decodeRune (b :: s) = none → P s → P (b :: s)) (s : Bytes) : P s := by
  induction hn : s.length using Nat.strong_induction_on generalizing s with
  | h n ih =>
    cases s with
    | nil => exact nil
    | cons b s =>
      cases hdecode : decodeRune (b :: s) with
      | none => exact invalid b s hdecode (ih s.length (by simp [← hn]) s rfl)
      | some c =>
        obtain ⟨t, ht⟩ := decodeRune_eq_some.mp hdecode
        rw [ht]
        apply char
        refine ih t.length ?_ t rfl
        have hpos := List.length_pos_of_ne_nil (utf8EncodeChar_ne_nil c)
        rw [← hn, ht, List.length_append]
        omega

/-- Nothing is lost: the bytes of the characters are the text. -/
theorem flatMap_runes (s : Bytes) : (runes s).flatMap Prod.snd = s := by
  induction s using rune_induction with
  | nil => rfl
  | char c s ih => rw [runes_char, List.flatMap_cons, ih]
  | invalid b s hnone ih => rw [runes_invalid hnone, List.flatMap_cons, ih]; rfl

/-! ## ASCII -/

theorem runes_cons_ascii {b : UInt8} (hb : b < 0x80) (t : Bytes) :
    runes (b :: t) = (Char.ofUInt8 b, [b]) :: runes t := by
  have h := runes_char (Char.ofUInt8 b) t
  rw [utf8EncodeChar_ofUInt8 hb] at h
  exact h

/-- What begins no character begins none either if a byte below 0x80 comes after it. -/
theorem decodeRune_append_ascii {x b : UInt8} {s : Bytes} (hb : b < 0x80)
    (h : decodeRune (x :: s) = none) (t : Bytes) : decodeRune (x :: (s ++ b :: t)) = none := by
  rw [Option.eq_none_iff_forall_ne_some]
  intro c hc
  obtain ⟨r, hr⟩ := decodeRune_eq_some.mp hc
  have hr' : (x :: s) ++ b :: t = utf8EncodeChar c ++ r := hr
  rcases List.append_eq_append_iff.mp hr' with ⟨w, hchar, hw⟩ | ⟨w, hs, -⟩
  · cases w with
    | nil =>
      have hsome : decodeRune (x :: s) = some c := by
        apply decodeRune_eq_some.mpr
        exact ⟨[], by simpa using hchar.symm⟩
      rw [h] at hsome
      exact absurd hsome (by simp)
    | cons y w =>
      -- the character would go on with the byte, which is a character of its own
      obtain ⟨rfl, -⟩ := List.cons.inj hw
      have hmem : b ∈ utf8EncodeChar c := by rw [hchar]; simp
      rw [eq_ofUInt8_of_mem hmem hb, utf8EncodeChar_ofUInt8 hb] at hchar
      simp at hchar
  · rw [decodeRune_eq_some.mpr ⟨w, hs⟩] at h
    exact absurd h (by simp)

/-- A byte below 0x80 is a character by itself wherever it stands. -/
theorem runes_append_ascii {b : UInt8} (hb : b < 0x80) (s t : Bytes) :
    runes (s ++ b :: t) = runes s ++ (Char.ofUInt8 b, [b]) :: runes t := by
  induction s using rune_induction with
  | nil => exact runes_cons_ascii hb t
  | char c s ih => rw [List.append_assoc, runes_char, runes_char, ih]; rfl
  | invalid x s hnone ih =>
    rw [List.cons_append, runes_invalid (decodeRune_append_ascii hb hnone t),
      runes_invalid hnone, ih]
    rfl

/-- A character below 0x80 was read from its byte. -/
theorem mem_of_mem_runes {b : UInt8} (hb : b < 0x80) {s w : Bytes}
    (h : (Char.ofUInt8 b, w) ∈ runes s) : b ∈ s := by
  induction s using rune_induction with
  | nil => exact absurd h (by simp)
  | char c s ih =>
    rw [runes_char] at h
    rcases List.mem_cons.mp h with heq | h
    · obtain ⟨rfl, -⟩ := Prod.mk.inj heq
      rw [utf8EncodeChar_ofUInt8 hb]
      exact List.mem_cons_self ..
    · exact List.mem_append_right _ (ih h)
  | invalid x s hnone ih =>
    rw [runes_invalid hnone] at h
    rcases List.mem_cons.mp h with heq | h
    · exact absurd (Prod.mk.inj heq).1 (ofUInt8_ne_runeError b)
    · exact List.mem_cons_of_mem x (ih h)

/-! ## Mapping -/

/-- `strings.Map` with a mapping that drops nothing. -/
def mapRunes (f : Char → Char) (s : Bytes) : Bytes :=
  (runes s).flatMap fun r => utf8EncodeChar (f r.1)

/-- A byte below 0x80 stands in the result only where a character was mapped to it. -/
theorem exists_rune_of_mem_mapRunes {f : Char → Char} {b : UInt8} (hb : b < 0x80) {s : Bytes}
    (h : b ∈ mapRunes f s) : ∃ r ∈ runes s, f r.1 = Char.ofUInt8 b := by
  obtain ⟨r, hr, hbyte⟩ := List.mem_flatMap.mp h
  exact ⟨r, hr, eq_ofUInt8_of_mem hbyte hb⟩

/-- `unicode.ToUpper`. Its tables are not written out; below 0x80 it is what it is in ASCII, and
    only a control character has a control character as its upper case. -/
structure Upper where
  upper : Char → Char
  ascii : ∀ c, c.toNat < 0x80 → upper c = c.toUpper
  control : ∀ c, (upper c).toNat < 0x20 → upper c = c

/-- The tables for ASCII alone. -/
def Upper.asciiOnly : Upper where
  upper := Char.toUpper
  ascii _ _ := rfl
  control c h := by
    unfold Char.toUpper at h ⊢
    split at h
    · next hletter =>
      -- the upper case of a letter is a letter
      have hlow : 0x61 ≤ c.val.toNat := UInt32.le_iff_toNat_le.mp hletter.1
      have hhigh : c.val.toNat ≤ 0x7a := UInt32.le_iff_toNat_le.mp hletter.2
      have hoffset : ('A'.val - 'a'.val).toNat = 2 ^ 32 - 0x20 := by decide
      have hupper : (c.val + ('A'.val - 'a'.val)).toNat < 0x20 := h
      rw [UInt32.toNat_add] at hupper
      omega
    · next hletter => rw [dif_neg hletter]

/-- `strings.ToUpper`. -/
def Upper.toUpper (unicode : Upper) (s : Bytes) : Bytes := mapRunes unicode.upper s

theorem Upper.mem_of_mem_toUpper (unicode : Upper) {b : UInt8} (hb : b < 0x20) {s : Bytes}
    (h : b ∈ unicode.toUpper s) : b ∈ s := by
  have hascii : b < 0x80 := UInt8.lt_trans hb (by decide)
  obtain ⟨⟨c, w⟩, hr, hupper⟩ := exists_rune_of_mem_mapRunes hascii h
  have hlow : (unicode.upper c).toNat < 0x20 := by
    rw [hupper]
    exact UInt8.lt_iff_toNat_lt.mp hb
  rw [unicode.control c hlow] at hupper
  subst hupper
  exact mem_of_mem_runes hascii hr

/-- What is upper case in ASCII already stays as it is. -/
theorem Upper.toUpper_eq_self (unicode : Upper) {s : Bytes}
    (h : ∀ b ∈ s, b < 0x80 ∧ (Char.ofUInt8 b).toUpper = Char.ofUInt8 b) :
    unicode.toUpper s = s := by
  induction s with
  | nil => rfl
  | cons b s ih =>
    obtain ⟨hb, hupper⟩ := h b (List.mem_cons_self ..)
    have hlow : (Char.ofUInt8 b).toNat < 0x80 := UInt8.lt_iff_toNat_lt.mp hb
    have hrest : mapRunes unicode.upper s = s := ih fun x hx => h x (List.mem_cons_of_mem b hx)
    rw [mapRunes] at hrest
    rw [Upper.toUpper, mapRunes, runes_cons_ascii hb, List.flatMap_cons, hrest,
      unicode.ascii _ hlow, hupper, utf8EncodeChar_ofUInt8 hb]
    rfl

/-! ## Words -/

/-- `strings.FieldsFunc`: what stands between the characters that satisfy `f`, without the empty
    pieces. -/
def fieldsFunc (f : Char → Bool) (s : Bytes) : List Bytes :=
  (((runes s).splitOnP fun r => f r.1).map fun piece => piece.flatMap Prod.snd).filter
    fun word => !word.isEmpty

theorem fieldsFunc_append {f : Char → Bool} {b : UInt8} (hb : b < 0x80)
    (hf : f (Char.ofUInt8 b)) (s t : Bytes) :
    fieldsFunc f (s ++ b :: t) = fieldsFunc f s ++ fieldsFunc f t := by
  have hsplit : (runes s ++ (Char.ofUInt8 b, [b]) :: runes t).splitOnP (fun r => f r.1) =
      (runes s).splitOnP (fun r => f r.1) ++ (runes t).splitOnP (fun r => f r.1) :=
    List.splitOnP_append_cons (runes s) (runes t) hf
  rw [fieldsFunc, runes_append_ascii hb, hsplit, List.map_append, List.filter_append]
  rfl

/-- A text in which no character satisfies `f` is one word, or none. -/
theorem fieldsFunc_eq {f : Char → Bool} {s : Bytes} (h : ∀ r ∈ runes s, f r.1 = false) :
    fieldsFunc f s = if s = [] then [] else [s] := by
  rw [fieldsFunc, List.splitOnP_eq_singleton h, List.map_singleton, flatMap_runes]
  cases s <;> rfl

/-- The first piece of a list begins it, every other one stands in it somewhere, and none has an
    element in it that the list was split at. -/
theorem splitOnP_pieces {α : Type} {p : α → Bool} {xs first : List α} {rest : List (List α)}
    (h : xs.splitOnP p = first :: rest) :
    (first <+: xs ∧ ∀ x ∈ first, p x = false) ∧
      ∀ l ∈ rest, l <:+: xs ∧ ∀ x ∈ l, p x = false := by
  induction xs generalizing first rest with
  | nil =>
    rw [List.splitOnP_nil] at h
    cases h
    simp
  | cons y xs ih =>
    obtain ⟨first', rest', hpieces⟩ := List.exists_cons_of_ne_nil (List.splitOnP_ne_nil p xs)
    obtain ⟨⟨hbegins, hfirst⟩, hrest⟩ := ih hpieces
    have hrest' : ∀ l ∈ rest', l <:+: y :: xs ∧ ∀ x ∈ l, p x = false := fun l hl =>
      ⟨List.infix_cons (hrest l hl).1, (hrest l hl).2⟩
    rw [List.splitOnP_cons_eq_if_modifyHead, hpieces] at h
    split at h
    · -- a new piece begins here, so the first one up to now is one of the others
      cases h
      refine ⟨⟨List.nil_prefix, by simp⟩, List.forall_mem_cons.mpr ⟨⟨?_, hfirst⟩, hrest'⟩⟩
      exact List.infix_cons hbegins.isInfix
    · next hy =>
      rw [List.modifyHead_cons] at h
      cases h
      refine ⟨⟨List.cons_prefix_cons.mpr ⟨rfl, hbegins⟩, ?_⟩, hrest'⟩
      exact List.forall_mem_cons.mpr ⟨by simpa using hy, hfirst⟩

theorem infix_of_mem_splitOnP {α : Type} {p : α → Bool} {xs l : List α}
    (h : l ∈ xs.splitOnP p) : l <:+: xs ∧ ∀ x ∈ l, p x = false := by
  obtain ⟨first, rest, hpieces⟩ := List.exists_cons_of_ne_nil (List.splitOnP_ne_nil p xs)
  obtain ⟨⟨hbegins, hfirst⟩, hrest⟩ := splitOnP_pieces hpieces
  rw [hpieces] at h
  rcases List.mem_cons.mp h with rfl | h
  · exact ⟨hbegins.isInfix, hfirst⟩
  · exact hrest l h

/-- The bytes of a word are bytes of the text. -/
theorem mem_of_mem_fieldsFunc {f : Char → Bool} {s w : Bytes} (hw : w ∈ fieldsFunc f s) {b : UInt8}
    (hb : b ∈ w) : b ∈ s := by
  obtain ⟨piece, hpiece, rfl⟩ := List.mem_map.mp (List.mem_filter.mp hw).1
  obtain ⟨r, hr, hbyte⟩ := List.mem_flatMap.mp hb
  rw [← flatMap_runes s]
  exact List.mem_flatMap.mpr ⟨r, (infix_of_mem_splitOnP hpiece).1.subset hr, hbyte⟩

/-- A text that is cut between two characters is read as before. What begins no character does not
    begin one if less comes after it. -/
theorem runes_prefix {s : Bytes} : ∀ {pre post : List (Char × Bytes)}, runes s = pre ++ post →
    runes (pre.flatMap Prod.snd) = pre := by
  induction s using rune_induction with
  | nil =>
    intro pre post h
    obtain ⟨rfl, -⟩ := List.append_eq_nil_iff.mp h.symm
    rfl
  | char c s ih =>
    intro pre post h
    cases pre with
    | nil => rfl
    | cons r pre =>
      rw [runes_char] at h
      obtain ⟨rfl, hrest⟩ := List.cons.inj h
      rw [List.flatMap_cons, runes_char, ih hrest]
  | invalid b s hnone ih =>
    intro pre post h
    cases pre with
    | nil => rfl
    | cons r pre =>
      rw [runes_invalid hnone] at h
      obtain ⟨rfl, hrest⟩ := List.cons.inj h
      have hcut : s = pre.flatMap Prod.snd ++ post.flatMap Prod.snd := by
        rw [← List.flatMap_append, ← List.append_eq, ← hrest, flatMap_runes]
      -- a character in the shorter text would be one in the longer
      have hnone' : decodeRune (b :: pre.flatMap Prod.snd) = none := by
        rw [Option.eq_none_iff_forall_ne_some]
        intro c hc
        obtain ⟨t, ht⟩ := decodeRune_eq_some.mp hc
        have hsome : decodeRune (b :: s) = some c := by
          apply decodeRune_eq_some.mpr
          refine ⟨t ++ post.flatMap Prod.snd, ?_⟩
          rw [hcut, ← List.cons_append, ht, List.append_assoc]
        rw [hnone] at hsome
        cases hsome
      rw [List.flatMap_cons, List.singleton_append, runes_invalid hnone', ih hrest]

theorem runes_suffix {s : Bytes} : ∀ {pre post : List (Char × Bytes)}, runes s = pre ++ post →
    runes (post.flatMap Prod.snd) = post := by
  induction s using rune_induction with
  | nil =>
    intro pre post h
    obtain ⟨-, rfl⟩ := List.append_eq_nil_iff.mp h.symm
    rfl
  | char c s ih =>
    intro pre post h
    cases pre with
    | nil => rw [← List.nil_append post, ← h, flatMap_runes]
    | cons r pre =>
      rw [runes_char] at h
      exact ih (List.cons.inj h).2
  | invalid b s hnone ih =>
    intro pre post h
    cases pre with
    | nil => rw [← List.nil_append post, ← h, flatMap_runes]
    | cons r pre =>
      rw [runes_invalid hnone] at h
      exact ih (List.cons.inj h).2

/-- A word is not empty, and read by itself it has no character that ends a word. -/
theorem word_of_mem_fieldsFunc {f : Char → Bool} {s w : Bytes} (hw : w ∈ fieldsFunc f s) :
    w ≠ [] ∧ ∀ r ∈ runes w, f r.1 = false := by
  obtain ⟨hw, hne⟩ := List.mem_filter.mp hw
  obtain ⟨piece, hpiece, rfl⟩ := List.mem_map.mp hw
  obtain ⟨⟨pre, post, hruns⟩, hpiece⟩ := infix_of_mem_splitOnP hpiece
  -- the word is cut out at both ends, so its characters are those it had in the text
  have hread : runes (piece.flatMap Prod.snd) = piece := by
    have hpost := runes_suffix ((List.append_assoc pre piece post).symm.trans hruns).symm
    exact runes_prefix hpost
  refine ⟨by simpa using hne, ?_⟩
  rw [hread]
  exact hpiece

/-- The characters of `unicode.IsSpace`. -/
def spaceRunes : List Char :=
  [0x09, 0x0a, 0x0b, 0x0c, 0x0d, 0x20, 0x85, 0xa0, 0x1680, 0x2000, 0x2001, 0x2002, 0x2003, 0x2004,
    0x2005, 0x2006, 0x2007, 0x2008, 0x2009, 0x200a, 0x2028, 0x2029, 0x202f, 0x205f,
    0x3000].map Char.ofNat

def isSpace (c : Char) : Bool := spaceRunes.contains c

/-- `strings.Fields`. -/
def fields (s : Bytes) : List Bytes := fieldsFunc isSpace s

/-- `strings.ContainsFunc` with `unicode.IsSpace`. -/
def hasSpace (s : Bytes) : Bool := (runes s).any fun r => isSpace r.1

theorem word_of_mem_fields {s w : Bytes} (hw : w ∈ fields s) : w ≠ [] ∧ hasSpace w = false := by
  obtain ⟨hne, hspace⟩ := word_of_mem_fieldsFunc hw
  exact ⟨hne, List.any_eq_false.mpr fun r hr => by simp [hspace r hr]⟩

theorem fields_append_space (s t : Bytes) : fields (s ++ 0x20 :: t) = fields s ++ fields t :=
  fieldsFunc_append (by decide) (by decide) s t

theorem fields_eq {s : Bytes} (h : hasSpace s = false) :
    fields s = if s = [] then [] else [s] := by
  apply fieldsFunc_eq
  intro r hr
  rw [hasSpace, List.any_eq_false] at h
  exact Bool.not_eq_true _ ▸ h r hr

end GoText
