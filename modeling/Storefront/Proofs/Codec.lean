import Mathlib.Algebra.Group.Nat.Defs
import Storefront.Proofs.Gid

/-! # What the codec takes for an encoded identifier

A text is padded base 64 of some bytes if its digits, six bits each, spell the bits of the bytes,
eight each, and just enough padding follows to complete the last group of four characters.  The bits
that are left over, two for each character of padding, are free.  `Base64.read?` reads exactly these
texts, and besides them those in which more padding follows a last group that is complete.  From
this follows what `decode` changes: nothing but such a text, and only if it spells a raw identifier.

* `Base64.Padded` : padded base 64, by bits
* `Base64.read?_eq_some_iff` : what is read, and as what
* `Gid.codec_laws` : the laws of `encode` and `decode`, and what `decode` changes -/

namespace Storefront

namespace Base64

/-- The last bits of a number, the one of the greatest weight first. -/
def bits : Nat → Nat → List Bool
  | 0, _ => []
  | width + 1, n => n.testBit width :: bits width n

/-- The bits that six-bit values spell. -/
def digitBits (digits : List (Fin 64)) : List Bool := digits.flatMap fun (d : Fin 64) => bits 6 d

/-- The bits that bytes spell. -/
def byteBits (bytes : List UInt8) : List Bool := bytes.flatMap fun b => bits 8 b.toNat

/-- The characters of six-bit values. -/
def spell (digits : List (Fin 64)) : List Char := digits.map fun (d : Fin 64) => digit d

/-- A text is padded base 64 of some bytes: the bits of its digits are those of the bytes and two
unused ones for each character of padding, of which there are at most two. -/
def Padded (cs : List Char) (bytes : List UInt8) : Prop :=
  ∃ digits padding unused, cs = spell digits ++ List.replicate padding '=' ∧ padding < 3 ∧
    4 ∣ digits.length + padding ∧ digitBits digits = byteBits bytes ++ unused ∧
    unused.length = 2 * padding

/-! ### Bits -/

/-- A number is written in as many bits as are asked for. -/
@[simp] theorem length_bits (width n : Nat) : (bits width n).length = width := by
  induction width with
  | zero => rfl
  | succ width ih => simp [bits, ih]

/-- Only the last bits of a number count. -/
theorem bits_congr {width m n : Nat} (h : ∀ i < width, m.testBit i = n.testBit i) :
    bits width m = bits width n := by
  induction width with
  | zero => rfl
  | succ width ih =>
    rw [bits, bits, h width (Nat.lt_succ_self width),
      ih fun i hi => h i (Nat.lt_succ_of_lt hi)]

/-- The bits of two numbers, one after the other, are those of one number. -/
theorem bits_append (m n a : Nat) {b : Nat} (h : b < 2 ^ n) :
    bits m a ++ bits n b = bits (m + n) (2 ^ n * a + b) := by
  induction m with
  | zero =>
    rw [bits, List.nil_append, Nat.zero_add]
    refine bits_congr fun i hi => ?_
    rw [Nat.testBit_two_pow_mul_add a h, if_pos hi]
  | succ m ih =>
    have first : (2 ^ n * a + b).testBit (m + n) = a.testBit m := by
      rw [Nat.testBit_two_pow_mul_add a h, if_neg (by omega), Nat.add_sub_cancel]
    rw [Nat.succ_add, bits, bits, List.cons_append, ih, first]

/-- A number is known by its bits. -/
theorem bits_inj {width m n : Nat} (hm : m < 2 ^ width) (hn : n < 2 ^ width)
    (h : bits width m = bits width n) : m = n := by
  -- The bits are compared from the front, where the most significant one stands.
  have all : ∀ w ≤ width, bits w m = bits w n → ∀ i < w, m.testBit i = n.testBit i := by
    intro w
    induction w with
    | zero => intro _ _ i hi; cases hi
    | succ w ih =>
      intro hw he i hi
      obtain ⟨first, rest⟩ := List.cons.inj he
      by_cases hiw : i = w
      · exact hiw ▸ first
      · exact ih (Nat.le_of_succ_le hw) rest i (by omega)
  refine Nat.eq_of_testBit_eq fun i => ?_
  by_cases hi : i < width
  · exact all width (Nat.le_refl _) h i hi
  · have le : 2 ^ width ≤ 2 ^ i := Nat.pow_le_pow_right (by decide) (by omega)
    rw [Nat.testBit_lt_two_pow (Nat.lt_of_lt_of_le hm le),
      Nat.testBit_lt_two_pow (Nat.lt_of_lt_of_le hn le)]

/-- Bytes are known by their bits. -/
theorem byteBits_inj {bytes others : List UInt8} (h : byteBits bytes = byteBits others) :
    bytes = others := by
  -- Every byte takes eight bits, so the first eight of each side belong to the first byte.
  induction bytes generalizing others with
  | nil =>
    cases others with
    | nil => rfl
    | cons b others => simp [byteBits, bits] at h
  | cons a bytes ih =>
    cases others with
    | nil => simp [byteBits, bits] at h
    | cons b others =>
      simp only [byteBits, List.flatMap_cons] at h
      obtain ⟨first, rest⟩ := List.append_inj h (by simp)
      have hab : a.toNat = b.toNat := bits_inj a.toNat_lt b.toNat_lt first
      rw [UInt8.toNat_inj.mp hab, ih rest]

/-! ### Groups -/

/-- A number below 256 is itself as a byte. -/
theorem toNat_byte {n : Nat} (h : n < 256) : (byte n).toNat = n := by
  simp [byte, UInt8.toNat_ofNat', Nat.mod_eq_of_lt h]

/-- Four digits are three bytes. -/
theorem digitBits_four (p q r s : Fin 64) : digitBits [p, q, r, s] =
    byteBits [byte (p * 4 + q / 16), byte (q % 16 * 16 + r / 4), byte (r % 4 * 64 + s)] := by
  have hp := p.isLt
  have hq := q.isLt
  have hr := r.isLt
  have hs := s.isLt
  -- The four digits and the three bytes are one number of 24 bits.
  have same : 2 ^ 6 * (2 ^ 6 * (2 ^ 6 * p.val + q) + r) + s =
      2 ^ 8 * (2 ^ 8 * (p * 4 + q / 16) + (q % 16 * 16 + r / 4)) + (r % 4 * 64 + s) := by omega
  simp only [digitBits, byteBits, List.flatMap_cons, List.flatMap_nil, List.append_nil]
  rw [toNat_byte (by omega), toNat_byte (by omega), toNat_byte (by omega),
    ← List.append_assoc, ← List.append_assoc, bits_append 6 6 _ (by omega),
    bits_append 12 6 _ (by omega), bits_append 18 6 _ (by omega), same,
    ← List.append_assoc, bits_append 8 8 _ (by omega), bits_append 16 8 _ (by omega)]

/-- Three digits are two bytes and two bits. -/
theorem digitBits_three (p q r : Fin 64) : digitBits [p, q, r] =
    byteBits [byte (p * 4 + q / 16), byte (q % 16 * 16 + r / 4)] ++ bits 2 (r % 4) := by
  have hp := p.isLt
  have hq := q.isLt
  have hr := r.isLt
  have same : 2 ^ 6 * (2 ^ 6 * p.val + q) + r =
      2 ^ 2 * (2 ^ 8 * (p * 4 + q / 16) + (q % 16 * 16 + r / 4)) + r % 4 := by omega
  simp only [digitBits, byteBits, List.flatMap_cons, List.flatMap_nil, List.append_nil]
  rw [toNat_byte (by omega), toNat_byte (by omega), ← List.append_assoc,
    bits_append 6 6 _ (by omega), bits_append 12 6 _ (by omega), same,
    bits_append 8 8 _ (by omega), bits_append 16 2 _ (by omega)]

/-- Two digits are a byte and four bits. -/
theorem digitBits_two (p q : Fin 64) : digitBits [p, q] =
    byteBits [byte (p * 4 + q / 16)] ++ bits 4 (q % 16) := by
  have hp := p.isLt
  have hq := q.isLt
  have same : 2 ^ 6 * p.val + q = 2 ^ 4 * (p * 4 + q / 16) + q % 16 := by omega
  simp only [digitBits, byteBits, List.flatMap_cons, List.flatMap_nil, List.append_nil]
  rw [toNat_byte (by omega), bits_append 6 6 _ (by omega), same, bits_append 8 4 _ (by omega)]

/-- Digits after others have their bits after theirs. -/
theorem digitBits_append (digits others : List (Fin 64)) :
    digitBits (digits ++ others) = digitBits digits ++ digitBits others := by
  simp [digitBits]

/-- And so have bytes. -/
theorem byteBits_append (bytes others : List UInt8) :
    byteBits (bytes ++ others) = byteBits bytes ++ byteBits others := by
  simp [byteBits]

/-! ### Digits -/

/-- A character has a value exactly when it is the digit of that value. -/
theorem value?_eq_some {c : Char} {n : Nat} : value? c = some n ↔ n < 64 ∧ c = digit n := by
  refine ⟨fun h => ?_, fun ⟨hn, hc⟩ => hc ▸ value?_digit hn⟩
  -- The ranges are those of the alphabet: upper case, lower case, digits, and two characters more.
  have here : Char.ofNat c.toNat = c := Char.ofNat_toNat c
  simp only [value?] at h
  split at h
  · obtain rfl := Option.some.inj h
    refine ⟨by omega, ?_⟩
    rw [digit, if_pos (by omega), ← here]
    congr 1
    rw [here]; omega
  · split at h
    · obtain rfl := Option.some.inj h
      refine ⟨by omega, ?_⟩
      rw [digit, if_neg (by omega), if_pos (by omega), ← here]
      congr 1
      rw [here]; omega
    · split at h
      · obtain rfl := Option.some.inj h
        refine ⟨by omega, ?_⟩
        rw [digit, if_neg (by omega), if_neg (by omega), if_pos (by omega), ← here]
        congr 1
        rw [here]; omega
      · split at h
        · next hc =>
          obtain rfl := Option.some.inj h
          exact ⟨by decide, hc⟩
        · split at h
          · next hc =>
            obtain rfl := Option.some.inj h
            exact ⟨by decide, hc⟩
          · cases h

/-- The character of a six-bit value is not padding. -/
theorem digit_ne_eq (d : Fin 64) : digit d ≠ '=' := by
  intro h
  have := value?_digit d.isLt
  rw [h, value?_padding] at this
  cases this

/-- The characters of six-bit values tell the values. -/
theorem spell_inj {digits others : List (Fin 64)} (h : spell digits = spell others) :
    digits = others := by
  refine List.map_inj_right (fun a b hab => ?_) |>.mp h
  have := value?_digit a.isLt
  rw [hab, value?_digit b.isLt] at this
  exact Fin.ext (Option.some.inj this).symm

/-- Padding is none of the digits. -/
theorem padding_not_mem_spell (digits : List (Fin 64)) : '=' ∉ spell digits := by
  simp only [spell, List.mem_map, not_exists, not_and]
  exact fun d _ => digit_ne_eq d

/-- A text has its digits first, and padding after them, in one way only. -/
theorem spell_append_inj {digits others : List (Fin 64)} {m n : Nat}
    (h : spell digits ++ List.replicate m '=' = spell others ++ List.replicate n '=') :
    digits = others ∧ m = n := by
  -- The number of characters of padding is the number of times that it occurs.
  have counted := congrArg (List.count '=') h
  simp only [List.count_append, List.count_replicate_self,
    List.count_eq_zero_of_not_mem (padding_not_mem_spell _), Nat.zero_add] at counted
  subst counted
  exact ⟨spell_inj (List.append_cancel_right h), rfl⟩

/-- A text is padded base 64 of some bytes only. -/
theorem Padded.unique {cs : List Char} {bytes others : List UInt8} (h : Padded cs bytes)
    (h' : Padded cs others) : bytes = others := by
  obtain ⟨digits, padding, unused, rfl, -, -, spelt, free⟩ := h
  obtain ⟨digits', padding', unused', he, -, -, spelt', free'⟩ := h'
  obtain ⟨rfl, rfl⟩ := spell_append_inj he
  exact byteBits_inj (List.append_inj_left' (spelt.symm.trans spelt') (free.trans free'.symm))

/-! ### Reading -/

/-- A complete group is read before what follows it; of that, padding is passed over. -/
theorem read?_group (p q r s : Fin 64) (cs : List Char) :
    read? (spell [p, q, r, s] ++ cs) =
      let bytes := [byte (p * 4 + q / 16), byte (q % 16 * 16 + r / 4), byte (r % 4 * 64 + s)]
      if cs.all (· == '=') then some bytes else (read? cs).map (bytes ++ ·) := by
  simp only [spell, List.map_cons, List.map_nil, List.cons_append, List.nil_append]
  rw [read?]
  · simp only [value?_digit p.isLt, value?_digit q.isLt, value?_digit r.isLt, value?_digit s.isLt,
      Option.bind_eq_bind, Option.bind_some]
    rfl
  -- The last digit is not padding, so the group is not read as one of the shorter ones.
  · exact fun _ h _ => digit_ne_eq s h
  · exact fun h _ => digit_ne_eq s h

/-- Padded base 64 is read, as the bytes that it spells. -/
theorem read?_of_fits (digits : List (Fin 64)) (padding : Nat) (few : padding < 3)
    (whole : 4 ∣ digits.length + padding) :
    ∃ bytes, read? (spell digits ++ List.replicate padding '=') = some bytes ∧
      Padded (spell digits ++ List.replicate padding '=') bytes := by
  match digits with
  | [] =>
    obtain rfl : padding = 0 := by simp only [List.length_nil] at whole; omega
    exact ⟨[], rfl, [], 0, [], rfl, few, whole, rfl, rfl⟩
  | [p] => simp only [List.length_cons, List.length_nil] at whole; omega
  | [p, q] =>
    obtain rfl : padding = 2 := by simp only [List.length_cons, List.length_nil] at whole; omega
    refine ⟨[byte (p * 4 + q / 16)], ?_, [p, q], 2, _, rfl, few, whole, digitBits_two p q,
      length_bits ..⟩
    simp [spell, read?, List.replicate, value?_digit p.isLt, value?_digit q.isLt]
  | [p, q, r] =>
    obtain rfl : padding = 1 := by simp only [List.length_cons, List.length_nil] at whole; omega
    refine ⟨[byte (p * 4 + q / 16), byte (q % 16 * 16 + r / 4)], ?_, [p, q, r], 1, _, rfl, few,
      whole, digitBits_three p q r, length_bits ..⟩
    simp only [spell, List.map_cons, List.map_nil, List.replicate, List.cons_append,
      List.nil_append]
    rw [read?]
    · simp [value?_digit p.isLt, value?_digit q.isLt, value?_digit r.isLt]
    · exact digit_ne_eq r
  | p :: q :: r :: s :: digits =>
    obtain ⟨bytes, read, others, _, unused, he, -, -, spelt, free⟩ :=
      read?_of_fits digits padding few (by simp only [List.length_cons] at whole; omega)
    obtain ⟨rfl, rfl⟩ := spell_append_inj he
    refine ⟨[byte (p * 4 + q / 16), byte (q % 16 * 16 + r / 4), byte (r % 4 * 64 + s)] ++ bytes,
      ?_, p :: q :: r :: s :: digits, padding, unused, rfl, few, whole, ?_, free⟩
    · have := read?_group p q r s (spell digits ++ List.replicate padding '=')
      rw [← List.append_assoc] at this
      refine this.trans ?_
      rw [read]
      split
      · next all =>
        -- Only padding follows, so none does: there is too little of it for a group.
        cases digits with
        | cons d digits => simp [spell, digit_ne_eq d] at all
        | nil =>
          obtain rfl : padding = 0 := by
            simp only [List.length_cons, List.length_nil] at whole; omega
          obtain rfl : bytes = [] := by simpa [spell, read?] using read.symm
          rfl
      · rfl
    · rw [show p :: q :: r :: s :: digits = [p, q, r, s] ++ digits from rfl,
        digitBits_append, spelt, digitBits_four, byteBits_append, List.append_assoc]

/-- Padding that follows a complete last group is passed over. -/
theorem read?_append_padding (digits : List (Fin 64)) (excess : Nat) (some_ : digits ≠ [])
    (whole : 4 ∣ digits.length) :
    read? (spell digits ++ List.replicate excess '=') = read? (spell digits) := by
  -- By groups of four digits; a list whose length is not a multiple of four does not occur.
  match digits with
  | [] => exact absurd rfl some_
  | [_] | [_, _] | [_, _, _] => simp only [List.length_cons, List.length_nil] at whole; omega
  | p :: q :: r :: s :: digits =>
    have group := read?_group p q r s
    have with_ := group (spell digits ++ List.replicate excess '=')
    have without := group (spell digits)
    rw [← List.append_assoc] at with_
    refine with_.trans (Eq.trans ?_ without.symm)
    cases digits with
    | nil => simp [spell]
    | cons d digits =>
      have ih := read?_append_padding (d :: digits) excess (by simp)
        (by simp only [List.length_cons] at whole ⊢; omega)
      rw [ih]
      simp [spell, digit_ne_eq d]

/-- What is read is the digits and padding of a whole number of groups, or has more padding after a
complete last group. -/
theorem exists_of_read? {cs : List Char} {bytes : List UInt8} (h : read? cs = some bytes) :
    ∃ digits padding excess, cs = spell digits ++ List.replicate (padding + excess) '=' ∧
      padding < 3 ∧ 4 ∣ digits.length + padding ∧
      (excess = 0 ∨ digits ≠ [] ∧ padding = 0) := by
  -- The cases are those of the reader: nothing, two digits, three digits, or four and what follows.
  fun_induction read? cs generalizing bytes with
  | case1 => exact ⟨[], 0, 0, rfl, by decide, by decide, .inl rfl⟩
  | case2 p q =>
    simp only [Option.bind_eq_bind, Option.bind_eq_some_iff, value?_eq_some] at h
    obtain ⟨m, ⟨hm, rfl⟩, n, ⟨hn, rfl⟩, -⟩ := h
    exact ⟨[⟨m, hm⟩, ⟨n, hn⟩], 2, 0, rfl, by decide, ⟨1, rfl⟩, .inl rfl⟩
  | case3 p q r _ =>
    simp only [Option.bind_eq_bind, Option.bind_eq_some_iff, value?_eq_some] at h
    obtain ⟨m, ⟨hm, rfl⟩, n, ⟨hn, rfl⟩, k, ⟨hk, rfl⟩, -⟩ := h
    exact ⟨[⟨m, hm⟩, ⟨n, hn⟩, ⟨k, hk⟩], 1, 0, rfl, by decide, ⟨1, rfl⟩, .inl rfl⟩
  | case4 p q r s cs _ _ ih =>
    simp only [Option.bind_eq_bind, Option.bind_eq_some_iff, value?_eq_some] at h
    obtain ⟨m, ⟨hm, rfl⟩, n, ⟨hn, rfl⟩, k, ⟨hk, rfl⟩, l, ⟨hl, rfl⟩, h⟩ := h
    split at h
    · -- a whole group, after which there is only padding
      next all =>
      have padded : cs = List.replicate cs.length '=' := by
        rw [List.eq_replicate_iff]
        exact ⟨rfl, by simpa using all⟩
      refine ⟨[⟨m, hm⟩, ⟨n, hn⟩, ⟨k, hk⟩, ⟨l, hl⟩], 0, cs.length, ?_, by decide, ⟨1, rfl⟩,
        .inr ⟨by simp, rfl⟩⟩
      rw [Nat.zero_add, ← padded]
      rfl
    · -- a whole group, and more of them after it
      obtain ⟨rest, read, -⟩ := Option.map_eq_some_iff.mp h
      obtain ⟨digits, padding, excess, rfl, few, whole, surplus⟩ := ih read
      refine ⟨⟨m, hm⟩ :: ⟨n, hn⟩ :: ⟨k, hk⟩ :: ⟨l, hl⟩ :: digits, padding, excess, rfl, few, ?_,
        surplus.imp_right fun ⟨_, hp⟩ => ⟨by simp, hp⟩⟩
      simp only [List.length_cons]
      omega
  | case5 => cases h

/-- What is read, and as what: padded base 64 as the bytes that it spells, and more padding after a
complete last group is passed over. -/
theorem read?_eq_some_iff {cs : List Char} {bytes : List UInt8} :
    read? cs = some bytes ↔ ∃ core excess, cs = core ++ List.replicate excess '=' ∧
      Padded core bytes ∧ (excess = 0 ∨ core ≠ [] ∧ '=' ∉ core) := by
  constructor
  · intro h
    obtain ⟨digits, padding, excess, rfl, few, whole, surplus⟩ := exists_of_read? h
    obtain ⟨others, read, padded⟩ := read?_of_fits digits padding few whole
    obtain rfl | ⟨some_, rfl⟩ := surplus
    · obtain rfl : bytes = others := Option.some.inj (h.symm.trans read)
      exact ⟨_, 0, by simp, padded, .inl rfl⟩
    · rw [Nat.zero_add, read?_append_padding digits excess some_ whole] at h
      simp only [List.replicate_zero, List.append_nil] at read padded
      obtain rfl : bytes = others := Option.some.inj (h.symm.trans read)
      exact ⟨spell digits, excess, by simp, padded,
        .inr ⟨by simpa [spell] using some_, padding_not_mem_spell digits⟩⟩
  · rintro ⟨core, excess, rfl, padded, surplus⟩
    obtain ⟨digits, padding, _, rfl, few, whole, -⟩ := id padded
    obtain ⟨others, read, padded'⟩ := read?_of_fits digits padding few whole
    obtain rfl := padded.unique padded'
    obtain rfl | ⟨some_, free⟩ := surplus
    · simpa using read
    · -- The core holds no padding, so that its last group is complete.
      obtain rfl : padding = 0 := by
        cases padding with
        | zero => rfl
        | succ n => exact absurd (by simp [List.replicate_succ]) free
      simp only [List.replicate_zero, List.append_nil] at read some_ ⊢
      rw [read?_append_padding digits excess (by simpa [spell] using some_) whole, read]

/-- Padded base 64 comes in groups of four characters. -/
theorem Padded.four_dvd_length {cs : List Char} {bytes : List UInt8} (h : Padded cs bytes) :
    4 ∣ cs.length := by
  obtain ⟨digits, padding, _, rfl, -, whole, -⟩ := h
  simpa [spell] using whole

/-- The empty text is padded base 64 of no bytes. -/
theorem Padded.eq_nil {bytes : List UInt8} (h : Padded [] bytes) : bytes = [] :=
  h.unique ⟨[], 0, [], rfl, by decide, by decide, rfl, rfl⟩

/-- Padded base 64 has no character without a value but padding. -/
theorem Padded.not_mem {cs : List Char} {bytes : List UInt8} (h : Padded cs bytes) {c : Char}
    (hc : value? c = none) (hp : c ≠ '=') : c ∉ cs := by
  obtain ⟨digits, padding, _, rfl, -⟩ := h
  simp only [List.mem_append, spell, List.mem_map, List.mem_replicate, not_or, not_exists, not_and]
  refine ⟨?_, fun _ => hp⟩
  rintro d - rfl
  simp [value?_digit d.isLt] at hc

end Base64

namespace Gid

/-- The text that a text is read as is the one whose UTF-8 form it spells. -/
theorem readText?_eq_some_iff {s raw : String} :
    readText? s = some raw ↔ Base64.read? s.toList = some raw.toUTF8.data.toList := by
  constructor
  · intro h
    -- A text is read when its bytes are, and bytes that are not UTF-8 are not.
    simp only [readText?, Option.bind_eq_bind, Option.bind_eq_some_iff] at h
    obtain ⟨bytes, read, h⟩ := h
    simp only [String.fromUTF8?] at h
    split at h
    · obtain rfl := Option.some.inj h
      exact read
    · cases h
  · intro h
    have own : readText? (String.ofList (Base64.write raw.toUTF8.data.toList)) = some raw :=
      readText?_write raw
    simp only [readText?, String.toList_ofList, Base64.read?_write] at own
    rw [readText?, h]
    exact own

/-- What decoding makes of a text that is not raw: another text exactly if it is read as raw. -/
theorem decode_eq_iff {s raw : String} (h : isRaw s = false) (hne : raw ≠ s) :
    decode s = raw ↔ isRaw raw = true ∧ readText? s = some raw := by
  simp only [decode, h, Bool.false_eq_true, if_false]
  cases hr : readText? s with
  | none => simpa using hne.symm
  | some text =>
    by_cases ht : isRaw text = true
    · simp only [ht, if_true, Option.some.injEq]
      exact ⟨fun e => ⟨e ▸ ht, e⟩, fun e => e.2⟩
    · simp only [ht, Option.some.injEq]
      exact ⟨fun e => absurd e.symm hne, fun read => absurd (read.2 ▸ read.1) ht⟩

/-- A raw identifier has a colon. -/
theorem colon_mem_of_isRaw {s : String} (h : isRaw s = true) : ':' ∈ s.toList := by
  have start : ['g', 'i', 'd', ':'] <+: s.toList := List.isPrefixOf_iff_prefix.mp h
  exact start.subset (by simp)

/-- A raw identifier has an octet. -/
theorem toUTF8_ne_nil_of_isRaw {s : String} (h : isRaw s = true) : s.toUTF8.data.toList ≠ [] := by
  intro empty
  have same : s.toByteArray = "".toByteArray :=
    ByteArray.ext (Array.toList_inj.mp empty)
  rw [String.toByteArray_inj.mp same] at h
  cases h

/-- What decoding changes: padded base 64 of a raw identifier, which may be followed by more padding
after a complete last group. -/
theorem decode_changes_iff {s raw : String} :
    decode s = raw ∧ raw ≠ s ↔ isRaw raw = true ∧
      ∃ core excess, s.toList = core ++ List.replicate excess '=' ∧
        Base64.Padded core raw.toUTF8.data.toList ∧ (excess = 0 ∨ '=' ∉ core) := by
  constructor
  · rintro ⟨decoded, hne⟩
    have h : isRaw s = false := by
      cases hs : isRaw s with
      | false => rfl
      | true => exact absurd (decoded.symm.trans (decode_of_isRaw hs)) hne
    obtain ⟨hraw, read⟩ := (decode_eq_iff h hne).mp decoded
    obtain ⟨core, excess, split, padded, surplus⟩ :=
      Base64.read?_eq_some_iff.mp (readText?_eq_some_iff.mp read)
    exact ⟨hraw, core, excess, split, padded, surplus.imp_right And.right⟩
  · rintro ⟨hraw, core, excess, split, padded, surplus⟩
    -- The colon of a raw identifier is neither a digit nor padding.
    have h : isRaw s = false := by
      cases hs : isRaw s with
      | false => rfl
      | true =>
        have colon := colon_mem_of_isRaw hs
        rw [split, List.mem_append, List.mem_replicate] at colon
        obtain inCore | ⟨-, h⟩ := colon
        · exact absurd inCore (padded.not_mem (by decide) (by decide))
        · cases h
    have hne : raw ≠ s := by
      rintro rfl
      rw [hraw] at h
      cases h
    have some_ : core ≠ [] := by
      rintro rfl
      exact toUTF8_ne_nil_of_isRaw hraw padded.eq_nil
    exact ⟨(decode_eq_iff h hne).mpr ⟨hraw, readText?_eq_some_iff.mpr
      (Base64.read?_eq_some_iff.mpr
        ⟨core, excess, split, padded, surplus.imp_right (⟨some_, ·⟩)⟩)⟩, hne⟩

/-- The laws of the codec.  It is a retraction onto raw identifiers, encoding is injective on these,
and decoding changes a text exactly if that is padded base 64 of a raw identifier, which it then
gives, or is followed by more padding after a complete last group. -/
theorem codec_laws (s : String) :
    decode (encode s) = decode s ∧ (isRaw s = true → decode s = s) ∧
    decode (decode s) = decode s ∧ encode (encode s) = encode s ∧
    (∀ t, isRaw s = true → isRaw t = true → encode s = encode t → s = t) ∧
    (isRaw s = true → isRaw (encode s) = false) ∧
    ∀ raw, decode s = raw ∧ raw ≠ s ↔ isRaw raw = true ∧
      ∃ core excess, s.toList = core ++ List.replicate excess '=' ∧
        Base64.Padded core raw.toUTF8.data.toList ∧ (excess = 0 ∨ '=' ∉ core) := by
  refine ⟨decode_encode s, decode_of_isRaw, decode_decode s, ?_, ?_, isRaw_encode, ?_⟩
  · -- A raw identifier is encoded once; anything else is left alone.
    by_cases h : isRaw s = true
    · exact encode_of_not_isRaw (isRaw_encode h)
    · have alone : encode s = s := encode_of_not_isRaw (by simpa using h)
      rw [alone, alone]
  · -- Decoding brings both of them back.
    intro t hs ht he
    calc s = decode (encode s) := by rw [decode_encode, decode_of_isRaw hs]
      _ = decode (encode t) := by rw [he]
      _ = t := by rw [decode_encode, decode_of_isRaw ht]
  · exact fun raw => decode_changes_iff

/-- An encoded identifier is decoded in spite of a character of padding too many, with which it is
no longer padded base 64. -/
theorem excess_padding_decoded : decode "Z2lkOmEx=" = "gid:a1" ∧
    ¬ (decode "Z2lkOmEx=" ≠ "Z2lkOmEx=" ↔
      ∃ raw, isRaw raw = true ∧ Base64.Padded "Z2lkOmEx=".toList raw.toUTF8.data.toList ∧
        decode "Z2lkOmEx=" = raw) := by
  have decoded : decode "Z2lkOmEx=" = "gid:a1" :=
    ((decode_eq_iff (by decide) (by decide)).mpr
      ⟨by decide, readText?_eq_some_iff.mpr (by decide)⟩)
  refine ⟨decoded, fun h => ?_⟩
  obtain ⟨raw, -, padded, -⟩ := h.mp (by rw [decoded]; decide)
  exact absurd padded.four_dvd_length (by decide)

end Gid
end Storefront
