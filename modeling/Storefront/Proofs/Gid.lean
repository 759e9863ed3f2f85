import Storefront.Gid

/-! # Both forms of an identifier

Reading base 64 undoes writing it, so that an identifier is found again under either of its forms:
decoding takes the encoded and the raw form to the same raw identifier, and leaves that alone.

* `Base64.read?_write` : what was written is read back
* `decode_encode` : encoding does not change what an identifier decodes to
* `decode_decode` : a decoded identifier is raw, or was never encoded -/

namespace Storefront

namespace Base64

/-- A character without a value is none of the alphabet's. -/
private theorem digit_ne {n : Nat} (h : n < 64) {c : Char} (hc : value? c = none) :
    digit n ≠ c := by
  rintro rfl
  simp [value?_digit h] at hc

/-- A digit is not the padding. -/
private theorem digit_ne_padding {n : Nat} (h : n < 64) : digit n ≠ '=' :=
  digit_ne h value?_padding

/-- A byte is put together again from its high and its low bits. -/
private theorem byte_toNat (a : UInt8) : byte a.toNat = a := UInt8.ofNat_toNat

/-- What is written for some bytes is not just padding. -/
private theorem write_cons_not_padding (a : UInt8) (bytes : List UInt8) :
    (write (a :: bytes)).all (· == '=') = false := by
  -- The first character is a digit however many bytes there are.
  have ha := a.toNat_lt
  match bytes with
  | [] => simp [write, digit_ne_padding (n := a.toNat * 16 / 64) (by omega)]
  | [b] =>
    have hb := b.toNat_lt
    simp [write, digit_ne_padding (n := (a.toNat * 1024 + b.toNat * 4) / 4096) (by omega)]
  | b :: c :: _ =>
    have hb := b.toNat_lt
    have hc := c.toNat_lt
    simp [write, digit_ne_padding (n := (a.toNat * 65536 + b.toNat * 256 + c.toNat) / 262144)
      (by omega)]

/-- What was written is read back. -/
theorem read?_write (bytes : List UInt8) : read? (write bytes) = some bytes := by
  fun_induction write bytes with
  | case1 a b c bytes n ih =>
    have ha := a.toNat_lt
    have hb := b.toNat_lt
    have hc := c.toNat_lt
    have hn : n = a.toNat * 65536 + b.toNat * 256 + c.toNat := rfl
    have hp : digit (n % 64) ≠ '=' := digit_ne_padding (by omega)
    -- The four digits are the bits of `n`, six each; regrouped by eight they are the three bytes.
    have first : n / 262144 * 4 + n / 4096 % 64 / 16 = a.toNat := by omega
    have second : n / 4096 % 64 % 16 * 16 + n / 64 % 64 / 4 = b.toNat := by omega
    have third : n / 64 % 64 % 4 * 64 + n % 64 = c.toNat := by omega
    rw [read?]
    · simp only [value?_digit (n := n / 262144) (by omega),
        value?_digit (n := n / 4096 % 64) (by omega),
        value?_digit (n := n / 64 % 64) (by omega), value?_digit (n := n % 64) (by omega),
        Option.bind_eq_bind, Option.bind_some, first, second, third, byte_toNat, ih]
      cases bytes with
      | nil => simp [write]
      | cons d bytes => simp [write_cons_not_padding]
    -- The last digit is not padding, so the group is not read as one of the shorter ones.
    · exact fun _ h _ => hp h
    · exact fun h _ => hp h
  | case2 a b n =>
    have ha := a.toNat_lt
    have hb := b.toNat_lt
    have hn : n = a.toNat * 1024 + b.toNat * 4 := rfl
    have hp : digit (n % 64) ≠ '=' := digit_ne_padding (by omega)
    have first : n / 4096 * 4 + n / 64 % 64 / 16 = a.toNat := by omega
    have second : n / 64 % 64 % 16 * 16 + n % 64 / 4 = b.toNat := by omega
    rw [read?]
    · simp only [value?_digit (n := n / 4096) (by omega),
        value?_digit (n := n / 64 % 64) (by omega),
        value?_digit (n := n % 64) (by omega), Option.bind_eq_bind, Option.bind_some, first, second,
        byte_toNat]
    · exact hp
  | case3 a n =>
    have ha := a.toNat_lt
    have hn : n = a.toNat * 16 := rfl
    have first : n / 64 * 4 + n % 64 / 16 = a.toNat := by omega
    simp only [read?, value?_digit (n := n / 64) (by omega), value?_digit (n := n % 64) (by omega),
      Option.bind_eq_bind, Option.bind_some, first, byte_toNat]
  | case4 => rfl

/-- What is written has no colon among its first four characters. -/
theorem write_not_marked (bytes : List UInt8) :
    ['g', 'i', 'd', ':'].isPrefixOf (write bytes) = false := by
  have hc : value? ':' = none := by decide
  match bytes with
  | [] => rfl
  | [a] => simp [write, List.isPrefixOf]
  | [a, b] => simp [write, List.isPrefixOf]
  | a :: b :: c :: _ =>
    -- The colon of the mark has no value, so it is not the fourth digit.
    have := digit_ne (n := (a.toNat * 65536 + b.toNat * 256 + c.toNat) % 64) (by omega) hc
    simp [write, List.isPrefixOf, this.symm]

end Base64

namespace Gid

/-- The text of what was written for a text. -/
theorem readText?_write (s : String) :
    readText? (String.ofList (Base64.write s.toUTF8.data.toList)) = some s := by
  simp only [readText?, Base64.read?_write, String.toList_ofList, Option.bind_eq_bind,
    Option.bind_some, Array.toArray_toList, String.fromUTF8?, String.toUTF8_eq_toByteArray,
    dif_pos s.isValidUTF8]
  rfl

/-- The encoded form of a raw identifier is not raw. -/
theorem isRaw_encode {id : String} (h : isRaw id = true) : isRaw (encode id) = false := by
  rw [encode, if_pos h, isRaw, startsWith, String.toList_ofList]
  exact Base64.write_not_marked _

/-- Encoding does not change what an identifier decodes to. -/
@[simp] theorem decode_encode (id : String) : decode (encode id) = decode id := by
  by_cases h : isRaw id = true
  · have raw : isRaw (encode id) = false := isRaw_encode h
    have read : readText? (encode id) = some id := by rw [encode, if_pos h, readText?_write]
    simp [decode, h, raw, read]
  · rw [encode_of_not_isRaw (by simpa using h)]

/-- A decoded identifier is decoded already. -/
@[simp] theorem decode_decode (id : String) : decode (decode id) = decode id := by
  by_cases h : isRaw id = true
  · rw [decode_of_isRaw h, decode_of_isRaw h]
  · simp only [Bool.not_eq_true] at h
    cases hr : readText? id with
    | none => simp [decode, h, hr]
    | some raw =>
      -- What is read counts only if it is raw; otherwise the identifier stays as it is.
      by_cases hraw : isRaw raw = true
      · simp [decode, h, hr, hraw]
      · simp [decode, h, hr, hraw]

/-- The empty text is no raw identifier. -/
theorem ne_empty_of_isRaw {id : String} (h : isRaw id = true) : id ≠ "" := by
  rintro rfl
  cases h

/-- An identifier stays one when it is decoded. -/
theorem decode_ne_empty {id : String} (h : id ≠ "") : decode id ≠ "" := by
  unfold decode
  split
  · exact h
  · split
    · split
      · rename_i raw
        exact ne_empty_of_isRaw raw
      · exact h
    · exact h

/-- An identifier that was made for a kind of entity is raw. -/
theorem isRaw_kindPrefix_append (kind token : String) :
    isRaw (kindPrefix kind ++ token) = true := by
  simp [isRaw, startsWith, mark, kindPrefix, List.isPrefixOf]

/-- Only a text is decoded to a text. -/
theorem decodeValue_eq_text {v : Value} {id : String} (h : decodeValue v = .ok (.text id)) :
    ∃ s, v = .text s ∧ decode s = id := by
  cases v with
  | text s => exact ⟨s, rfl, by simpa using h⟩
  | _ =>
    simp only [decodeValue, onText] at h
    split at h <;> cases h

/-- Decoding once more changes nothing; what is no text is only left as it is, if it is falsy. -/
theorem decodeValue_decodeValue {v w : Value} (h : decodeValue v = .ok w) :
    decodeValue w = .ok w := by
  cases v with
  | text s =>
    obtain rfl := Except.ok.inj h
    rw [decodeValue_text, decode_decode]
  | _ =>
    simp only [decodeValue, onText] at h
    split at h
    · cases h
    · obtain rfl := Except.ok.inj h
      simp_all [decodeValue, onText]

/-- Whatever is encoded is encoded as if anything could be. -/
theorem eq_encode_of_encodeText {id t : String} (h : encodeText id = .ok t) : t = encode id := by
  unfold encodeText at h
  split at h
  · cases h
  · exact (Except.ok.inj h).symm

/-- What a key decodes to is a key. -/
theorem exists_asKey_of_decodeValue {k : Key} {v : Value} (h : decodeValue k.toValue = .ok v) :
    ∃ key, v.asKey = .ok key := by
  cases k with
  | text s =>
    obtain rfl := Except.ok.inj h
    exact ⟨.text (decode s), rfl⟩
  | _ =>
    -- Anything but a text is only left as it is.
    simp only [decodeValue, onText, Key.toValue] at h
    split at h
    · cases h
    · obtain rfl := Except.ok.inj h
      exact ⟨_, rfl⟩

/-- What a value decodes to is decoded. -/
theorem decode_of_decodeValue {v : Value} {id : String} (h : decodeValue v = .ok (.text id)) :
    decode id = id := by
  obtain ⟨raw, -, rfl⟩ := decodeValue_eq_text h
  exact decode_decode raw

end Gid
end Storefront
