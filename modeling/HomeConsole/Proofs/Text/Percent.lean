import HomeConsole.Proofs.Text.Utf8
import HomeConsole.Text.Blank
import HomeConsole.Text.Percent

/-!
# Percent escapes undone

Decoding an encoded text gives the text back: a byte that was kept is no `%`, and an escape is read
as the byte that it stands for. An encoded text is made of unreserved characters and `%` alone, so
that nothing in it can end a path segment, begin a query or a fragment, or be taken for a blank.
-/

namespace HomeConsole.Percent

/-! ## Bytes -/

theorem hexDigit_lt {n : Nat} (h : n < 16) : (hexDigit n).toNat < 128 := by
  have key : ∀ n < 16, (hexDigit n).toNat < 128 := by decide
  exact key n h

theorem hexValue?_hexDigit {n : Nat} (h : n < 16) :
    hexValue? (UInt8.ofNat (hexDigit n).toNat) = some n := by
  have key : ∀ n < 16, hexValue? (UInt8.ofNat (hexDigit n).toNat) = some n := by decide
  exact key n h

/-- A byte that needs no escape is a character of its own, and no `%`. -/
theorem isUnreserved_bounds {b : UInt8} (h : isUnreserved b = true) :
    b.toNat < 128 ∧ b ≠ 0x25 := by
  have key : ∀ n < 256, isUnreserved (UInt8.ofNat n) = true →
      (UInt8.ofNat n).toNat < 128 ∧ UInt8.ofNat n ≠ 0x25 := by decide +kernel
  simpa using key b.toNat b.toNat_lt (by simpa using h)

theorem escaped?_eq_some {mark high low v : UInt8} :
    escaped? mark high low = some v ↔ mark = 0x25 ∧
      ∃ h l, hexValue? high = some h ∧ hexValue? low = some l ∧ UInt8.ofNat (h * 16 + l) = v := by
  unfold escaped?
  split
  · rename_i hmark
    cases hexValue? high <;> cases hexValue? low <;> simp [hmark]
  · rename_i hmark
    simp [hmark]

theorem escaped?_eq_none {mark high low : UInt8} : escaped? mark high low = none ↔
    (mark = 0x25 → hexValue? high = none ∨ hexValue? low = none) := by
  unfold escaped?
  split
  · rename_i hmark
    cases hexValue? high <;> cases hexValue? low <;> simp [hmark]
  · rename_i hmark
    simp [hmark]

/-- No escape begins at a byte that is no `%` or has no two digits behind it. -/
def Plain (b : UInt8) (rest : List UInt8) : Prop :=
  ∀ high low more, b = 0x25 → rest = high :: low :: more →
    hexValue? high = none ∨ hexValue? low = none

theorem plain_of_length_lt {b : UInt8} {rest : List UInt8} (h : rest.length < 2) :
    Plain b rest := by
  rintro high low more - rfl
  simp only [List.length_cons] at h
  omega

theorem decodeBytes_plain {b : UInt8} {rest : List UInt8} (h : Plain b rest) :
    decodeBytes (b :: rest) = b :: decodeBytes rest := by
  match rest with
  | [] => rfl
  | [_] => rfl
  | high :: low :: more =>
      rw [decodeBytes, escaped?_eq_none.mpr fun hb => h high low more hb rfl]

theorem decodeBytes_cons {b : UInt8} (h : b ≠ 0x25) (rest : List UInt8) :
    decodeBytes (b :: rest) = b :: decodeBytes rest :=
  decodeBytes_plain fun _ _ _ hb => absurd hb h

theorem decodeBytes_escape (b : UInt8) (rest : List UInt8) :
    decodeBytes (Utf8.encode (escapeByte b) ++ rest) = b :: decodeBytes rest := by
  have hb : b.toNat < 256 := b.toNat_lt
  have hhigh : b.toNat / 16 < 16 := by omega
  have hlow : b.toNat % 16 < 16 := Nat.mod_lt _ (by decide)
  have hbytes : Utf8.encode (escapeByte b) =
      [0x25, UInt8.ofNat (hexDigit (b.toNat / 16)).toNat,
        UInt8.ofNat (hexDigit (b.toNat % 16)).toNat] := by
    have h1 := Utf8.encode_ascii (hexDigit_lt hhigh)
    have h2 := Utf8.encode_ascii (hexDigit_lt hlow)
    rw [Char.ofNat_toNat] at h1 h2
    have h0 : Utf8.encode ['%'] = [0x25] := Utf8.encode_ascii (n := 0x25) (by decide)
    rw [escapeByte, show ['%', hexDigit (b.toNat / 16), hexDigit (b.toNat % 16)] =
      ['%'] ++ [hexDigit (b.toNat / 16)] ++ [hexDigit (b.toNat % 16)] from rfl,
      Utf8.encode_append, Utf8.encode_append, h0, h1, h2]
    rfl
  rw [hbytes]
  simp only [List.cons_append, List.nil_append]
  rw [decodeBytes, escaped?, if_pos rfl, hexValue?_hexDigit hhigh, hexValue?_hexDigit hlow]
  simp [show b.toNat / 16 * 16 + b.toNat % 16 = b.toNat by omega]

/-- Any bytes below 128 other than `%` may be kept. -/
theorem decodeBytes_writeByte {keep : UInt8 → Bool}
    (hk : ∀ b, keep b = true → b.toNat < 128 ∧ b ≠ 0x25) (b : UInt8) (rest : List UInt8) :
    decodeBytes (Utf8.encode (writeByte keep b) ++ rest) = b :: decodeBytes rest := by
  unfold writeByte
  split
  · rename_i hb
    obtain ⟨hlt, hne⟩ := hk b hb
    rw [Utf8.encode_ascii hlt]
    simpa using decodeBytes_cons hne rest
  · exact decodeBytes_escape b rest

theorem decodeBytes_flatMap {keep : UInt8 → Bool}
    (hk : ∀ b, keep b = true → b.toNat < 128 ∧ b ≠ 0x25) (bs : List UInt8) :
    decodeBytes (Utf8.encode (bs.flatMap (writeByte keep))) = bs := by
  induction bs with
  | nil => rfl
  | cons b bs ih =>
      rw [List.flatMap_cons, Utf8.encode_append, decodeBytes_writeByte hk, ih]

/-! ## Texts -/

theorem toList_encode (s : String) : (encode s).toList = escape isUnreserved s.toList :=
  String.toList_ofList

theorem decode?_escape {keep : UInt8 → Bool}
    (hk : ∀ b, keep b = true → b.toNat < 128 ∧ b ≠ 0x25) (cs : List Char) :
    decode? (String.ofList (escape keep cs)) = some (String.ofList cs) := by
  rw [decode?, String.toList_ofList, escape, decodeBytes_flatMap hk, Utf8.decode?_encode]
  rfl

theorem decode?_encode (s : String) : decode? (encode s) = some s := by
  rw [encode, decode?_escape fun _ => isUnreserved_bounds, String.ofList_toList]

theorem decode_encode (s : String) : decode (encode s) = s := by
  simp [decode, decode?_encode]

/-- Different texts are encoded differently. -/
theorem encode_injective {s t : String} (h : encode s = encode t) : s = t := by
  rw [← decode_encode s, h, decode_encode]

/-- No escape holds a slash. -/
theorem slash_of_mem_writeByte {keep : UInt8 → Bool} {b : UInt8} (h : '/' ∈ writeByte keep b) :
    keep b = true ∧ b = 0x2F := by
  unfold writeByte at h
  split at h
  · rename_i hb
    have hlt : b.toNat < 256 := b.toNat_lt
    have hc : (Char.ofNat b.toNat).toNat = b.toNat := by
      rw [Char.ofNat, dif_pos (Or.inl (by omega))]
      rfl
    refine ⟨hb, UInt8.toNat_inj.mp ?_⟩
    rw [← hc, ← List.mem_singleton.mp h]
    rfl
  · have key : ∀ n < 16, '/' ≠ hexDigit n := by decide
    have hlt : b.toNat < 256 := b.toNat_lt
    simp only [escapeByte, List.mem_cons, List.not_mem_nil, or_false] at h
    rcases h with h | h | h
    · exact absurd h (by decide)
    · exact absurd h (key _ (by omega))
    · exact absurd h (key _ (by omega))

/-- A slash in an escaped text was kept. -/
theorem slash_of_mem_escape {keep : UInt8 → Bool} {cs : List Char} (h : '/' ∈ escape keep cs) :
    keep 0x2F = true ∧ '/' ∈ cs := by
  obtain ⟨b, hb, hc⟩ := List.mem_flatMap.mp h
  obtain ⟨hk, rfl⟩ := slash_of_mem_writeByte hc
  exact ⟨hk, Utf8.mem_of_mem_encode hb (by decide)⟩

/-! ## Texts of any kind -/

/-- The bytes behind the escapes of a text. Where no escape begins a byte stands for itself, be it
a `%`. -/
inductive Unescaped : List UInt8 → List UInt8 → Prop
  | nil : Unescaped [] []
  | escape {high low : UInt8} {h l : Nat} {bytes out : List UInt8}
      (hhigh : hexValue? high = some h) (hlow : hexValue? low = some l)
      (hrest : Unescaped bytes out) :
      Unescaped (0x25 :: high :: low :: bytes) (UInt8.ofNat (h * 16 + l) :: out)
  | plain {b : UInt8} {bytes out : List UInt8} (hplain : Plain b bytes)
      (hrest : Unescaped bytes out) : Unescaped (b :: bytes) (b :: out)

theorem unescaped_decodeBytes (bytes : List UInt8) : Unescaped bytes (decodeBytes bytes) := by
  fun_induction decodeBytes bytes with
  | case1 b high low rest v hv ih =>
      obtain ⟨rfl, h, l, hhigh, hlow, rfl⟩ := escaped?_eq_some.mp hv
      exact .escape hhigh hlow ih
  | case2 b high low rest hnone ih =>
      refine .plain ?_ ih
      rintro _ _ _ hb ⟨⟩
      exact escaped?_eq_none.mp hnone hb
  | case3 short hshort =>
      match short with
      | [] => exact .nil
      | [b] => exact .plain (plain_of_length_lt Nat.zero_lt_two) .nil
      | [b, c] =>
          exact .plain (plain_of_length_lt Nat.one_lt_two)
            (.plain (plain_of_length_lt Nat.zero_lt_two) .nil)
      | b :: c :: d :: rest => exact absurd rfl (hshort b c d rest)

theorem unescaped_iff {bytes out : List UInt8} : Unescaped bytes out ↔ decodeBytes bytes = out := by
  constructor
  · intro h
    induction h with
    | nil => rfl
    | escape hhigh hlow _ ih =>
        rw [decodeBytes, escaped?_eq_some.mpr ⟨rfl, _, _, hhigh, hlow, rfl⟩, ih]
    | plain hplain _ ih => rw [decodeBytes_plain hplain, ih]
  · rintro rfl
    exact unescaped_decodeBytes bytes

/-- A text stands for the one whose bytes are behind its escapes, and for itself if those are the
bytes of no text. -/
def StandsFor (s t : String) : Prop :=
  ∃ bytes, Unescaped (Utf8.encode s.toList) bytes ∧
    (bytes = Utf8.encode t.toList ∨ (∀ cs, bytes ≠ Utf8.encode cs) ∧ t = s)

theorem standsFor_iff {s t : String} : StandsFor s t ↔ decode s = t := by
  unfold StandsFor decode decode?
  simp only [unescaped_iff, exists_eq_left']
  cases hd : Utf8.decode? (decodeBytes (Utf8.encode s.toList)) with
  | none =>
      have hnone : ∀ cs, decodeBytes (Utf8.encode s.toList) ≠ Utf8.encode cs := by
        intro cs hcs
        rw [hcs, Utf8.decode?_encode] at hd
        cases hd
      simp [hnone, eq_comm]
  | some cs =>
      have hbytes := Utf8.decode?_eq_some.mp hd
      have hsome : ¬ ∀ other, Utf8.encode cs ≠ Utf8.encode other := fun h => h cs rfl
      rw [← hbytes, Utf8.encode_inj]
      simp [hsome, ← String.toList_inj]

/-! ## What encoded texts are made of -/

/-- What an encoded text is made of. -/
def isPlain (c : Char) : Bool := c != '/' && c != '?' && c != '#' && ! isBlank c

theorem isPlain_of_mem_writeByte {b : UInt8} {c : Char} (h : c ∈ writeByte isUnreserved b) :
    isPlain c = true := by
  have hall : (List.range 256).all (fun n =>
      (writeByte isUnreserved (UInt8.ofNat n)).all isPlain) = true := by
    decide +kernel
  rw [List.all_eq_true] at hall
  have hbyte := hall b.toNat (List.mem_range.mpr b.toNat_lt)
  rw [UInt8.ofNat_toNat, List.all_eq_true] at hbyte
  exact hbyte c h

theorem isPlain_of_mem_encode {s : String} {c : Char} (h : c ∈ (encode s).toList) :
    isPlain c = true := by
  rw [toList_encode, escape, List.mem_flatMap] at h
  obtain ⟨b, _, hb⟩ := h
  exact isPlain_of_mem_writeByte hb

theorem encode_ne_empty {s : String} (h : s ≠ "") : encode s ≠ "" := by
  have hempty : encode "" = "" := by decide
  exact fun he => h (encode_injective (he.trans hempty.symm))

end HomeConsole.Percent
