import Mathlib.Data.List.Flatten
import InstallAudit.Digest

/-!
# Nothing is lost in writing bytes

The digest of a manifest is taken of the UTF-8 form of its text and shown in hexadecimal digits.
Neither step can make two different things look the same.

* `Text.decode?_encode`, `Text.encode_injective` — decoding undoes encoding.  A character has one of
  four forms, by its size; each form has a lemma of its own, and the lead byte tells them apart.
* `hexByte_injective`, `flatMap_hexByte_injective` — hexadecimal digits spell out the bytes.
-/

namespace InstallAudit

namespace Text

/-! ## The bytes of one character -/

lemma toNat_byte {n : Nat} (h : n < 0x100) : (UInt8.ofNat n).toNat = n := by
  rw [UInt8.toNat_ofNat']
  omega

lemma toNat_continuation (n : Nat) : (continuation n).toNat = 0x80 + n % 0x40 :=
  toNat_byte (by omega)

lemma payload_continuation (n : Nat) : payload (continuation n) = n % 0x40 := by
  rw [payload, toNat_continuation]
  omega

lemma byteIn_iff {lo hi : Nat} {b : UInt8} :
    byteIn lo hi b = true ↔ lo ≤ b.toNat ∧ b.toNat ≤ hi := by
  simp [byteIn]

lemma byteIn_eq_false {lo hi : Nat} {b : UInt8} (h : hi < b.toNat) : byteIn lo hi b = false := by
  rw [Bool.eq_false_iff, ne_eq, byteIn_iff]
  omega

lemma byteIn_continuation (n : Nat) : byteIn 0x80 0xBF (continuation n) = true := by
  rw [byteIn_iff, toNat_continuation]
  omega

/-- Behind the lead byte `E0` or `ED` not every continuation byte is allowed, but the one of a
character is. -/
lemma byteIn_secondOfThree {n : Nat} {lead : UInt8} (low : 0x800 ≤ n) (high : n < 0x10000)
    (valid : n < 0xD800 ∨ 0xDFFF < n) (hlead : lead.toNat = 0xE0 + n / 0x1000) :
    byteIn (secondOfThree lead).1 (secondOfThree lead).2 (continuation (n / 0x40)) = true := by
  have he0 : lead = 0xE0 ↔ lead.toNat = 0xE0 := UInt8.toNat_inj.symm
  have hed : lead = 0xED ↔ lead.toNat = 0xED := UInt8.toNat_inj.symm
  rw [byteIn_iff, toNat_continuation, secondOfThree]
  split
  · next h =>
    rw [he0] at h
    dsimp only
    omega
  · split
    · next h =>
      rw [hed] at h
      dsimp only
      omega
    · dsimp only
      omega

lemma byteIn_secondOfFour {n : Nat} {lead : UInt8} (low : 0x10000 ≤ n) (high : n < 0x110000)
    (hlead : lead.toNat = 0xF0 + n / 0x40000) :
    byteIn (secondOfFour lead).1 (secondOfFour lead).2 (continuation (n / 0x1000)) = true := by
  have hf0 : lead = 0xF0 ↔ lead.toNat = 0xF0 := UInt8.toNat_inj.symm
  have hf4 : lead = 0xF4 ↔ lead.toNat = 0xF4 := UInt8.toNat_inj.symm
  rw [byteIn_iff, toNat_continuation, secondOfFour]
  split
  · next h =>
    rw [hf0] at h
    dsimp only
    omega
  · split
    · next h =>
      rw [hf4] at h
      dsimp only
      omega
    · dsimp only
      omega

/-! ## The four forms -/

section Forms

variable {n : Nat} (rest : Bytes)

lemma decode?_one (high : n < 0x80) :
    decode? (UInt8.ofNat n :: rest) = (decode? rest).map (Char.ofNat n :: ·) := by
  have hlead : (UInt8.ofNat n).toNat = n := toNat_byte (by omega)
  rw [decode?.eq_def]
  simp only [hlead, if_pos high]

lemma decode?_two (low : 0x80 ≤ n) (high : n < 0x800) :
    decode? (UInt8.ofNat (0xC0 + n / 0x40) :: continuation n :: rest)
      = (decode? rest).map (Char.ofNat n :: ·) := by
  have hlead : (UInt8.ofNat (0xC0 + n / 0x40)).toNat = 0xC0 + n / 0x40 := toNat_byte (by omega)
  have hvalue : (0xC0 + n / 0x40) % 0x20 * 0x40 + n % 0x40 = n := by omega
  rw [decode?, if_neg (by omega), if_pos (byteIn_iff.2 (by omega))]
  simp only [byteIn_continuation, payload_continuation, hlead, hvalue, if_true]

lemma decode?_three (low : 0x800 ≤ n) (high : n < 0x10000) (valid : n < 0xD800 ∨ 0xDFFF < n) :
    decode? (UInt8.ofNat (0xE0 + n / 0x1000) :: continuation (n / 0x40) :: continuation n :: rest)
      = (decode? rest).map (Char.ofNat n :: ·) := by
  have hlead : (UInt8.ofNat (0xE0 + n / 0x1000)).toNat = 0xE0 + n / 0x1000 :=
    toNat_byte (by omega)
  have hvalue : (0xE0 + n / 0x1000) % 0x10 * 0x1000 + n / 0x40 % 0x40 * 0x40 + n % 0x40 = n := by
    omega
  rw [decode?, if_neg (by omega), byteIn_eq_false (by omega), if_neg (by decide),
    if_pos (byteIn_iff.2 (by omega))]
  simp only [byteIn_secondOfThree low high valid hlead, byteIn_continuation,
    payload_continuation, hlead, hvalue, Bool.and_self, if_true]

lemma decode?_four (low : 0x10000 ≤ n) (high : n < 0x110000) :
    decode? (UInt8.ofNat (0xF0 + n / 0x40000) :: continuation (n / 0x1000)
        :: continuation (n / 0x40) :: continuation n :: rest)
      = (decode? rest).map (Char.ofNat n :: ·) := by
  have hlead : (UInt8.ofNat (0xF0 + n / 0x40000)).toNat = 0xF0 + n / 0x40000 :=
    toNat_byte (by omega)
  have hvalue : (0xF0 + n / 0x40000) % 0x08 * 0x40000 + n / 0x1000 % 0x40 * 0x1000
      + n / 0x40 % 0x40 * 0x40 + n % 0x40 = n := by
    omega
  rw [decode?, if_neg (by omega), byteIn_eq_false (by omega), if_neg (by decide),
    byteIn_eq_false (by omega), if_neg (by decide), if_pos (byteIn_iff.2 (by omega))]
  simp only [byteIn_secondOfFour low high hlead, byteIn_continuation, payload_continuation,
    hlead, hvalue, Bool.and_self, if_true]

end Forms

/-! ## Texts -/

lemma decode?_encodeChar (c : Char) (rest : Bytes) :
    decode? (encodeChar c ++ rest) = (decode? rest).map (c :: ·) := by
  -- no character is a surrogate, and so each of the four forms decodes
  have hvalid : c.toNat < 0xD800 ∨ 0xDFFF < c.toNat ∧ c.toNat < 0x110000 := c.valid
  suffices h : decode? (encodeChar c ++ rest) = (decode? rest).map (Char.ofNat c.toNat :: ·) by
    rwa [Char.ofNat_toNat] at h
  rw [encodeChar]
  split
  · next h => exact decode?_one rest h
  · split
    · exact decode?_two rest (by omega) (by omega)
    · split
      · exact decode?_three rest (by omega) (by omega) (by omega)
      · exact decode?_four rest (by omega) (by omega)

/-- **Decoding undoes encoding.** -/
theorem decode?_encode (t : Text) : decode? (encode t) = some t := by
  induction t with
  | nil => rfl
  | cons c t ih =>
      rw [encode, List.flatMap_cons, decode?_encodeChar, ← encode, ih, Option.map_some]

lemma encode_injective {t u : Text} (h : encode t = encode u) : t = u := by
  have h := congrArg decode? h
  rwa [decode?_encode, decode?_encode, Option.some.injEq] at h

end Text

/-! ## Hexadecimal digits -/

lemma digitChar_injective : ∀ m < 16, ∀ n < 16, Nat.digitChar m = Nat.digitChar n → m = n := by
  decide

lemma hexByte_injective {a b : UInt8} (h : hexByte a = hexByte b) : a = b := by
  have ha := a.toNat_lt
  have hb := b.toNat_lt
  rw [hexByte, hexByte, List.cons.injEq, List.cons.injEq] at h
  have hhigh := digitChar_injective _ (by omega) _ (by omega) h.1
  have hlow := digitChar_injective _ (by omega) _ (by omega) h.2.1
  refine UInt8.toNat_inj.1 ?_
  omega

/-- Every byte has two digits, so the digits of several bytes fall apart in one way only. -/
lemma flatMap_hexByte_injective {xs ys : Bytes} (h : xs.flatMap hexByte = ys.flatMap hexByte) :
    xs = ys := by
  induction xs generalizing ys with
  | nil =>
      cases ys with
      | nil => rfl
      | cons y ys => simp [hexByte] at h
  | cons x xs ih =>
      cases ys with
      | nil => simp [hexByte] at h
      | cons y ys =>
          rw [List.flatMap_cons, List.flatMap_cons] at h
          obtain ⟨hbyte, hrest⟩ := List.append_inj h rfl
          rw [hexByte_injective hbyte, ih hrest]

end InstallAudit
