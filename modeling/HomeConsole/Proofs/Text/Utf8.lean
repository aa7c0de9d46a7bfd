import HomeConsole.Text.Utf8
import Mathlib.Tactic.SplitIfs

/-!
# UTF-8 read back

The bytes of a text are clean UTF-8, and reading them gives the text back. A character is written
in one to four bytes; for each length the leading byte promises just what follows it.
-/

namespace HomeConsole.Utf8

/-! ## Leading bytes -/

private theorem toNat_ofNat {n : Nat} (h : n < 256) : (UInt8.ofNat n).toNat = n :=
  UInt8.toNat_ofNat_of_lt h

theorem lead?_one {v : Nat} (h : v < 0x80) : lead? (UInt8.ofNat v) = some ⟨v, 0, 0x80, 0xBF⟩ := by
  simp only [lead?, toNat_ofNat (show v < 256 by omega)]
  rw [if_pos h]

theorem lead?_two {v : Nat} (h : 0x80 ≤ v) (h' : v < 0x800) :
    lead? (UInt8.ofNat (v / 64 % 32 + 0xC0)) = some ⟨v / 64, 1, 0x80, 0xBF⟩ := by
  simp only [lead?, toNat_ofNat (show v / 64 % 32 + 0xC0 < 256 by omega)]
  rw [if_neg (by omega), if_neg (by omega), if_pos (by omega)]
  simp only [Option.some.injEq, Lead.mk.injEq, and_self, and_true]
  omega

/-- The leading byte of three shuts out overlong forms and surrogates, and no character is one. -/
theorem lead?_three {v : Nat} (h : 0x800 ≤ v) (h' : v < 0x10000)
    (hs : v < 0xD800 ∨ 0xDFFF < v) : ∃ low high,
    lead? (UInt8.ofNat (v / 4096 % 16 + 0xE0)) = some ⟨v / 4096, 2, low, high⟩ ∧
      low ≤ v / 64 % 64 + 0x80 ∧ v / 64 % 64 + 0x80 ≤ high := by
  simp only [lead?, toNat_ofNat (show v / 4096 % 16 + 0xE0 < 256 by omega)]
  rw [if_neg (by omega), if_neg (by omega), if_neg (by omega)]
  by_cases h0 : v / 4096 = 0
  · exact ⟨0xA0, 0xBF, by rw [if_pos (by omega), h0], by omega, by omega⟩
  · rw [if_neg (by omega)]
    by_cases hd : v / 4096 = 0xD
    · exact ⟨0x80, 0x9F, by rw [if_pos (by omega), hd], by omega, by omega⟩
    · refine ⟨0x80, 0xBF, ?_, by omega, by omega⟩
      rw [if_neg (by omega), if_pos (by omega)]
      simp only [Option.some.injEq, Lead.mk.injEq, and_self, and_true]
      omega

/-- The leading byte of four shuts out overlong forms and what lies beyond the last character. -/
theorem lead?_four {v : Nat} (h : 0x10000 ≤ v) (h' : v < 0x110000) : ∃ low high,
    lead? (UInt8.ofNat (v / 262144 % 8 + 0xF0)) = some ⟨v / 262144, 3, low, high⟩ ∧
      low ≤ v / 4096 % 64 + 0x80 ∧ v / 4096 % 64 + 0x80 ≤ high := by
  simp only [lead?, toNat_ofNat (show v / 262144 % 8 + 0xF0 < 256 by omega)]
  rw [if_neg (by omega), if_neg (by omega), if_neg (by omega), if_neg (by omega),
    if_neg (by omega), if_neg (by omega)]
  by_cases h0 : v / 262144 = 0
  · exact ⟨0x90, 0xBF, by rw [if_pos (by omega), h0], by omega, by omega⟩
  · rw [if_neg (by omega)]
    by_cases h4 : v / 262144 = 4
    · exact ⟨0x80, 0x8F, by rw [if_neg (by omega), if_pos (by omega), h4], by omega, by omega⟩
    · refine ⟨0x80, 0xBF, ?_, by omega, by omega⟩
      rw [if_pos (by omega)]
      simp only [Option.some.injEq, Lead.mk.injEq, and_self, and_true]
      omega

/-! ## One character -/

theorem follow_cons {acc k low high n : Nat} (hn : n < 256) (hl : low ≤ n) (hh : n ≤ high)
    (rest : List UInt8) :
    follow acc (k + 1) low high (UInt8.ofNat n :: rest) =
      follow (acc * 64 + n % 64) k 0x80 0xBF rest := by
  simp [follow, toNat_ofNat hn, hl, hh]

theorem step_of_lead {b : UInt8} {bits k low high : Nat}
    (h : lead? b = some ⟨bits, k, low, high⟩) (bs : List UInt8) :
    step b bs =
      ((follow bits k low high bs).1.map Char.ofNat, (follow bits k low high bs).2) := by
  simp [step, h]

/-- Reading the bytes of a character gives it back and leaves what comes after it. -/
theorem step_encodeChar (c : Char) : ∃ b bs, String.utf8EncodeChar c = b :: bs ∧
    ∀ rest, step b (bs ++ rest) = (some c, rest) := by
  have hv : c.val.toNat < 0xD800 ∨ 0xDFFF < c.val.toNat ∧ c.val.toNat < 0x110000 := c.valid
  have hc : Char.ofNat c.val.toNat = c := Char.ofNat_toNat c
  unfold String.utf8EncodeChar
  generalize c.val.toNat = v at hv hc
  simp only
  split
  · refine ⟨_, _, rfl, fun rest => ?_⟩
    rw [step_of_lead (lead?_one (by omega))]
    simp [follow, hc]
  · split
    · refine ⟨_, _, rfl, fun rest => ?_⟩
      rw [step_of_lead (lead?_two (by omega) (by omega)), List.cons_append, List.nil_append,
        follow_cons (by omega) (by omega) (by omega)]
      rw [show v / 64 * 64 + (v % 64 + 128) % 64 = v by omega]
      simp [follow, hc]
    · split
      · obtain ⟨low, high, hl, h1, h2⟩ := @lead?_three v (by omega) (by omega) (by omega)
        refine ⟨_, _, rfl, fun rest => ?_⟩
        rw [step_of_lead hl]
        simp only [List.cons_append, List.nil_append]
        rw [follow_cons (by omega) h1 h2, follow_cons (by omega) (by omega) (by omega)]
        rw [show (v / 4096 * 64 + (v / 64 % 64 + 128) % 64) * 64 + (v % 64 + 128) % 64 = v by omega]
        simp [follow, hc]
      · obtain ⟨low, high, hl, h1, h2⟩ := @lead?_four v (by omega) (by omega)
        refine ⟨_, _, rfl, fun rest => ?_⟩
        rw [step_of_lead hl]
        simp only [List.cons_append, List.nil_append]
        rw [follow_cons (by omega) h1 h2, follow_cons (by omega) (by omega) (by omega),
          follow_cons (by omega) (by omega) (by omega)]
        rw [show ((v / 262144 * 64 + (v / 4096 % 64 + 128) % 64) * 64 +
          (v / 64 % 64 + 128) % 64) * 64 + (v % 64 + 128) % 64 = v by omega]
        simp [follow, hc]

/-! ## Texts -/

theorem decode?_cons (b : UInt8) (bs : List UInt8) :
    decode? (b :: bs) =
      match step b bs with
      | (none, _) => none
      | (some c, rest) => (decode? rest).map (c :: ·) := by
  rw [decode?]
  split <;> simp [*]

theorem encode_cons (c : Char) (cs : List Char) :
    encode (c :: cs) = String.utf8EncodeChar c ++ encode cs := by
  simp [encode]

theorem encode_append (cs ds : List Char) : encode (cs ++ ds) = encode cs ++ encode ds := by
  simp [encode]

theorem toNat_charOfNat {n : Nat} (h : n < 128) : (Char.ofNat n).toNat = n := by
  rw [Char.ofNat, dif_pos (Or.inl (by omega))]
  rfl

/-- A character below 128 is one byte. -/
theorem encode_ascii {n : Nat} (h : n < 128) : encode [Char.ofNat n] = [UInt8.ofNat n] := by
  have hn : (Char.ofNat n).val.toNat = n := toNat_charOfNat h
  simp [encode, String.utf8EncodeChar, hn, show n ≤ 127 by omega]

/-- The bytes of a character beyond ASCII are none of ASCII. -/
theorem eq_of_mem_encodeChar {b : UInt8} {c : Char} (h : b ∈ String.utf8EncodeChar c)
    (hb : b.toNat < 128) : Char.ofNat b.toNat = c := by
  have hv : c.val.toNat < 0xD800 ∨ 0xDFFF < c.val.toNat ∧ c.val.toNat < 0x110000 := c.valid
  have hc : Char.ofNat c.val.toNat = c := Char.ofNat_toNat c
  unfold String.utf8EncodeChar at h
  generalize c.val.toNat = v at h hv hc
  have hbyte : ∀ n : Nat, b = UInt8.ofNat n → n < 256 → b.toNat = n := by
    rintro n rfl hn
    exact toNat_ofNat hn
  simp only at h
  split at h
  · obtain rfl := List.mem_singleton.mp h
    rw [toNat_ofNat (by omega), hc]
  · exfalso
    split at h
    · simp only [List.mem_cons, List.not_mem_nil, or_false] at h
      rcases h with h | h <;> have := hbyte _ h (by omega) <;> omega
    · split at h
      · simp only [List.mem_cons, List.not_mem_nil, or_false] at h
        rcases h with h | h | h <;> have := hbyte _ h (by omega) <;> omega
      · simp only [List.mem_cons, List.not_mem_nil, or_false] at h
        rcases h with h | h | h | h <;> have := hbyte _ h (by omega) <;> omega

theorem mem_of_mem_encode {b : UInt8} {cs : List Char} (h : b ∈ encode cs) (hb : b.toNat < 128) :
    Char.ofNat b.toNat ∈ cs := by
  obtain ⟨c, hc, hm⟩ := List.mem_flatMap.mp h
  rw [eq_of_mem_encodeChar hm hb]
  exact hc

theorem decode?_encode (cs : List Char) : decode? (encode cs) = some cs := by
  induction cs with
  | nil => simp [encode, decode?]
  | cons c cs ih =>
      obtain ⟨b, bs, hb, hstep⟩ := step_encodeChar c
      rw [encode_cons, hb, List.cons_append, decode?_cons, hstep]
      simp [ih]

/-! ## What is read -/

/-- What a leading byte promises tells the byte, and how the first byte after it is bounded. -/
theorem lead?_cases {b : UInt8} {bits k low high : Nat}
    (h : lead? b = some ⟨bits, k, low, high⟩) :
    k = 0 ∧ b.toNat = bits ∧ bits < 0x80 ∨
      k = 1 ∧ b.toNat = bits + 0xC0 ∧ 2 ≤ bits ∧ bits < 0x20 ∧ low = 0x80 ∧ high = 0xBF ∨
      k = 2 ∧ b.toNat = bits + 0xE0 ∧ bits < 0x10 ∧ 0x80 ≤ low ∧ high ≤ 0xBF ∧
        (bits = 0 → 0xA0 ≤ low) ∧ (bits = 0xD → high ≤ 0x9F) ∨
      k = 3 ∧ b.toNat = bits + 0xF0 ∧ bits ≤ 4 ∧ 0x80 ≤ low ∧ high ≤ 0xBF ∧
        (bits = 0 → 0x90 ≤ low) ∧ (bits = 4 → high ≤ 0x8F) := by
  unfold lead? at h
  simp only at h
  repeat' split at h
  all_goals simp only [Option.some.injEq, Lead.mk.injEq, reduceCtorEq] at h
  all_goals obtain ⟨hbits, hk, hlow, hhigh⟩ := h
  · exact Or.inl (by omega)
  · exact Or.inr (Or.inl (by omega))
  · exact Or.inr (Or.inr (Or.inl (by omega)))
  · exact Or.inr (Or.inr (Or.inl (by omega)))
  · exact Or.inr (Or.inr (Or.inl (by omega)))
  · exact Or.inr (Or.inr (Or.inr (by omega)))
  · exact Or.inr (Or.inr (Or.inr (by omega)))
  · exact Or.inr (Or.inr (Or.inr (by omega)))

theorem follow_zero {acc low high code : Nat} {bs rest : List UInt8}
    (h : follow acc 0 low high bs = (some code, rest)) : acc = code ∧ bs = rest := by
  cases h
  exact ⟨rfl, rfl⟩

theorem follow_succ {acc k low high code : Nat} {bs rest : List UInt8}
    (h : follow acc (k + 1) low high bs = (some code, rest)) :
    ∃ b more, bs = b :: more ∧ low ≤ b.toNat ∧ b.toNat ≤ high ∧
      follow (acc * 64 + b.toNat % 64) k 0x80 0xBF more = (some code, rest) := by
  cases bs with
  | nil => cases h
  | cons b more =>
      rw [follow] at h
      split at h
      · rename_i hrange
        exact ⟨b, more, rfl, hrange.1, hrange.2, h⟩
      · cases h

theorem encodeChar_ofNat {n : Nat} (h : n < 0xD800 ∨ 0xDFFF < n ∧ n < 0x110000) :
    String.utf8EncodeChar (Char.ofNat n) =
      if n ≤ 0x7F then [UInt8.ofNat n]
      else if n ≤ 0x7FF then
        [UInt8.ofNat (n / 64 % 32 + 0xC0), UInt8.ofNat (n % 64 + 0x80)]
      else if n ≤ 0xFFFF then
        [UInt8.ofNat (n / 4096 % 16 + 0xE0), UInt8.ofNat (n / 64 % 64 + 0x80),
          UInt8.ofNat (n % 64 + 0x80)]
      else
        [UInt8.ofNat (n / 262144 % 8 + 0xF0), UInt8.ofNat (n / 4096 % 64 + 0x80),
          UInt8.ofNat (n / 64 % 64 + 0x80), UInt8.ofNat (n % 64 + 0x80)] := by
  have hn : (Char.ofNat n).val.toNat = n := by
    rw [Char.ofNat, dif_pos h]
    rfl
  simp only [String.utf8EncodeChar, hn]

theorem step_eq_some {b : UInt8} {bs rest : List UInt8} {c : Char}
    (h : step b bs = (some c, rest)) : ∃ bits k low high code,
      lead? b = some ⟨bits, k, low, high⟩ ∧ follow bits k low high bs = (some code, rest) ∧
        Char.ofNat code = c := by
  cases hlead : lead? b with
  | none => simp [step, hlead] at h
  | some lead =>
      obtain ⟨bits, k, low, high⟩ := lead
      rw [step_of_lead hlead, Prod.mk.injEq, Option.map_eq_some_iff] at h
      obtain ⟨⟨code, hcode, hc⟩, hrest⟩ := h
      exact ⟨bits, k, low, high, code, rfl, Prod.ext hcode hrest, hc⟩

theorem ofNat_eq {n : Nat} {b : UInt8} (h : n = b.toNat) : UInt8.ofNat n = b := by
  rw [h, UInt8.ofNat_toNat]

/-- A character is read off the front only where its bytes are. -/
theorem encodeChar_of_step {b : UInt8} {bs rest : List UInt8} {c : Char}
    (h : step b bs = (some c, rest)) : b :: bs = String.utf8EncodeChar c ++ rest := by
  obtain ⟨bits, k, low, high, code, hlead, hfollow, rfl⟩ := step_eq_some h
  -- each length has its own range of codes, which decides how the character is written
  rcases lead?_cases hlead with ⟨rfl, hb, hlt⟩ | ⟨rfl, hb, hlt⟩ | ⟨rfl, hb, hlt⟩ | ⟨rfl, hb, hlt⟩
  · obtain ⟨rfl, rfl⟩ := follow_zero hfollow
    rw [encodeChar_ofNat (by omega), if_pos (by omega), ofNat_eq hb.symm]
    rfl
  · obtain ⟨b1, bs, rfl, hlow, hhigh, hfollow⟩ := follow_succ hfollow
    obtain ⟨rfl, rfl⟩ := follow_zero hfollow
    rw [encodeChar_ofNat (by omega), if_neg (by omega), if_pos (by omega),
      @ofNat_eq _ b (by omega), @ofNat_eq _ b1 (by omega)]
    rfl
  · obtain ⟨b1, bs, rfl, hlow, hhigh, hfollow⟩ := follow_succ hfollow
    obtain ⟨b2, bs, rfl, hlow2, hhigh2, hfollow⟩ := follow_succ hfollow
    obtain ⟨rfl, rfl⟩ := follow_zero hfollow
    rw [encodeChar_ofNat (by omega), if_neg (by omega), if_neg (by omega), if_pos (by omega),
      @ofNat_eq _ b (by omega), @ofNat_eq _ b1 (by omega), @ofNat_eq _ b2 (by omega)]
    rfl
  · obtain ⟨b1, bs, rfl, hlow, hhigh, hfollow⟩ := follow_succ hfollow
    obtain ⟨b2, bs, rfl, hlow2, hhigh2, hfollow⟩ := follow_succ hfollow
    obtain ⟨b3, bs, rfl, hlow3, hhigh3, hfollow⟩ := follow_succ hfollow
    obtain ⟨rfl, rfl⟩ := follow_zero hfollow
    rw [encodeChar_ofNat (by omega), if_neg (by omega), if_neg (by omega), if_neg (by omega),
      @ofNat_eq _ b (by omega), @ofNat_eq _ b1 (by omega), @ofNat_eq _ b2 (by omega),
      @ofNat_eq _ b3 (by omega)]
    rfl

/-- Reading accepts just the bytes of texts. -/
theorem decode?_eq_some {bytes : List UInt8} {cs : List Char} :
    decode? bytes = some cs ↔ encode cs = bytes := by
  constructor
  · intro h
    induction cs generalizing bytes with
    | nil =>
        cases bytes with
        | nil => rfl
        | cons b bs =>
            rw [decode?_cons] at h
            split at h
            · cases h
            · simp at h
    | cons c cs ih =>
        cases bytes with
        | nil => simp [decode?] at h
        | cons b bs =>
            rw [decode?_cons] at h
            split at h
            · cases h
            · rename_i hstep
              obtain ⟨cs', hrest, heq⟩ := Option.map_eq_some_iff.mp h
              cases heq
              rw [encodeChar_of_step hstep, encode_cons, ih hrest]
  · rintro rfl
    exact decode?_encode cs

theorem encode_inj {cs ds : List Char} : encode cs = encode ds ↔ cs = ds := by
  rw [← decode?_eq_some, decode?_encode, Option.some_inj, eq_comm]

/-! ## Any bytes -/

end HomeConsole.Utf8
