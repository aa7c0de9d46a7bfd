import HomeConsole.Json.Parser
import HomeConsole.Proofs.Text.Numeral

/-!
# Integers as they are written

The decimal digits of a natural number are taken in one by one. If the number fits into 64 bits it
comes out of them again, and otherwise the number becomes a double. So an integer that fits, signed
or not, is read as itself, and any other one as something else: what is written for a double always
shows a point or an exponent, or is no number at all.
-/

namespace HomeConsole

namespace Json

variable {cs rest : List Char} {depth m n : Nat}

/-! ## Digits -/

theorem head?_toDigits_ne_zero (h : m ≠ 0) : (Nat.toDigits 10 m).head? ≠ some '0' := by
  induction m using Nat.strongRecOn with
  | _ m ih =>
      rw [Nat.toDigits_eq_if (by decide)]
      split
      · rename_i hm
        have key : ∀ k < 10, k ≠ 0 → Nat.digitChar k ≠ '0' := by decide
        simpa using key m hm h
      · rename_i hm
        have hfront := ih (m / 10) (by omega) (by omega)
        rwa [List.head?_append, Option.or_of_isSome
          (List.isSome_head?.mpr (Nat.toDigits_ne_nil))]

theorem ofDigitChars_cons (c : Char) (cs : List Char) (m : Nat) :
    Nat.ofDigitChars 10 (c :: cs) m = Nat.ofDigitChars 10 cs (m * 10 + digit c) := by
  rw [Nat.ofDigitChars_cons, Nat.mul_comm]
  rfl

theorem startsWithDigit_append {more : List Char} (hne : more ≠ [])
    (h : ∀ c ∈ more, c.isDigit = true) (rest : List Char) :
    startsWithDigit (more ++ rest) = true := by
  cases more with
  | nil => exact absurd rfl hne
  | cons c more => exact h c List.mem_cons_self

/-- Digits whose number fits are taken in to the last one. -/
theorem absorb_of_le (hdigits : ∀ c ∈ cs, c.isDigit = true) (hrest : startsWithDigit rest = false)
    (taken : Nat) (h : Nat.ofDigitChars 10 cs m ≤ maxSignificand) :
    absorb m taken (cs ++ rest) = (Nat.ofDigitChars 10 cs m, taken + cs.length, rest) := by
  induction cs generalizing m taken with
  | nil =>
      cases rest with
      | nil => rfl
      | cons c rest =>
          have hc : ¬ (c.isDigit = true ∧ m * 10 + digit c ≤ maxSignificand) := by
            simpa [startsWithDigit] using fun hc : c.isDigit = true =>
              absurd hc (by simpa [startsWithDigit] using hrest)
          simp [absorb, if_neg hc]
  | cons c cs ih =>
      obtain ⟨hc, hcs⟩ := List.forall_mem_cons.mp hdigits
      rw [ofDigitChars_cons] at h ⊢
      have hfits : m * 10 + digit c ≤ maxSignificand := Nat.le_trans (Numeral.le_ofDigitChars cs _) h
      rw [List.cons_append, absorb, if_pos ⟨hc, hfits⟩, ih hcs _ h, List.length_cons,
        Nat.add_assoc, Nat.add_comm 1]

/-- Of digits whose number does not fit some are left over. -/
theorem absorb_of_lt (hdigits : ∀ c ∈ cs, c.isDigit = true) (hm : m ≤ maxSignificand)
    (taken : Nat) (h : maxSignificand < Nat.ofDigitChars 10 cs m) (rest : List Char) :
    ∃ significand taken' more, absorb m taken (cs ++ rest) = (significand, taken', more ++ rest) ∧
      more ≠ [] ∧ ∀ c ∈ more, c.isDigit = true := by
  induction cs generalizing m taken with
  | nil => exact absurd hm (Nat.not_le.mpr h)
  | cons c cs ih =>
      obtain ⟨hc, hcs⟩ := List.forall_mem_cons.mp hdigits
      rw [List.cons_append, absorb]
      split
      · rename_i hfits
        rw [ofDigitChars_cons] at h
        exact ih hcs hfits.2 _ h
      · exact ⟨m, taken, c :: cs, rfl, List.cons_ne_nil c cs, hdigits⟩

/-! ## Numbers -/

/-- What may follow a number: neither a digit nor a point nor the mark of an exponent. -/
def EndsNumber (rest : List Char) : Prop :=
  ∀ c ∈ rest.head?, c.isDigit = false ∧ c ≠ '.' ∧ c ≠ 'e' ∧ c ≠ 'E'

namespace EndsNumber

theorem startsWithDigit (h : EndsNumber rest) : Json.startsWithDigit rest = false := by
  cases rest with
  | nil => rfl
  | cons c rest => exact (h c rfl).1

theorem afterInteger (h : EndsNumber rest) (positive : Bool) (significand : Nat) :
    Json.afterInteger positive significand rest =
      if positive then .ok (.integer significand, rest)
      else if 0 < significand ∧ significand ≤ Nat.pow 2 63 then .ok (.integer (-significand), rest)
      else .ok (.double (-significand.toUInt64.toFloat).toBits, rest) := by
  unfold Json.afterInteger
  split
  · exact absurd rfl (h '.' rfl).2.1
  · exact absurd rfl (h 'e' rfl).2.2.1
  · exact absurd rfl (h 'E' rfl).2.2.2
  · rfl

theorem afterDigits (h : EndsNumber rest) (positive : Bool) (significand : Nat) (exponent : Int) :
    Json.afterDigits positive significand exponent rest =
      fromParts positive significand exponent rest := by
  unfold Json.afterDigits
  split
  · exact absurd rfl (h 'e' rfl).2.2.1
  · exact absurd rfl (h 'E' rfl).2.2.2
  · rfl

theorem longInteger (h : EndsNumber rest) {more : List Char}
    (hmore : ∀ c ∈ more, c.isDigit = true) (positive : Bool) (significand : Nat) :
    ∃ exponent, Json.longInteger positive significand (more ++ rest) =
      fromParts positive significand exponent rest := by
  have hdrop : (more ++ rest).dropWhile Char.isDigit = rest := by
    rw [List.dropWhile_append_of_pos hmore]
    cases rest with
    | nil => rfl
    | cons c rest => exact List.dropWhile_cons_of_neg (by simp [(h c rfl).1])
  unfold Json.longInteger
  simp only [hdrop]
  split
  · exact absurd rfl (h '.' rfl).2.1
  · exact ⟨_, h.afterDigits positive significand _⟩

end EndsNumber

theorem numeral_zero (h : EndsNumber rest) (positive : Bool) :
    numeral positive (Nat.toDigits 10 0 ++ rest) = afterInteger positive 0 rest := by
  rw [Nat.toDigits_zero]
  simp [numeral, h.startsWithDigit]

theorem numeral_eq_absorb {positive : Bool} {c : Char} (hzero : c ≠ '0') (hc : c.isDigit = true) :
    numeral positive (c :: cs) =
      if startsWithDigit (absorb (digit c) 1 cs).2.2 then
        longInteger positive (absorb (digit c) 1 cs).1 (absorb (digit c) 1 cs).2.2
      else afterInteger positive (absorb (digit c) 1 cs).1 (absorb (digit c) 1 cs).2.2 := by
  unfold numeral
  split
  · rename_i h
    cases h
  · rename_i h
    cases h
    exact absurd rfl hzero
  · rename_i h
    cases h
    rw [if_pos hc]

/-- The first digit of a positive number, and the number that the others make behind it. -/
theorem toDigits_eq_cons (h : m ≠ 0) : ∃ c cs, Nat.toDigits 10 m = c :: cs ∧ c ≠ '0' ∧
    c.isDigit = true ∧ (∀ c ∈ cs, c.isDigit = true) ∧ Nat.ofDigitChars 10 cs (digit c) = m := by
  have hdigits : ∀ c ∈ Nat.toDigits 10 m, c.isDigit = true :=
    fun _ => Nat.isDigit_of_mem_toDigits (by decide) (by decide)
  obtain ⟨c, cs, hcons⟩ := List.exists_cons_of_ne_nil (@Nat.toDigits_ne_nil m 10)
  have hzero := head?_toDigits_ne_zero h
  have hvalue := @Nat.ofDigitChars_ten_toDigits m
  rw [hcons] at hdigits hzero hvalue
  obtain ⟨hc, hcs⟩ := List.forall_mem_cons.mp hdigits
  rw [ofDigitChars_cons, Nat.zero_mul, Nat.zero_add] at hvalue
  exact ⟨c, cs, hcons, by simpa using hzero, hc, hcs, hvalue⟩

theorem digit_le_maxSignificand {c : Char} (h : c.isDigit = true) : digit c ≤ maxSignificand := by
  have hc : c.toNat ≤ 57 := (Char.isDigit_iff_toNat.mp h).2
  have hmax : 9 ≤ maxSignificand := by decide
  have hzero : '0'.toNat = 48 := rfl
  simp only [digit]
  omega

theorem numeral_of_le (hrest : EndsNumber rest) (positive : Bool) (h : m ≤ maxSignificand) :
    numeral positive (Nat.toDigits 10 m ++ rest) = afterInteger positive m rest := by
  by_cases hm : m = 0
  · subst hm
    exact numeral_zero hrest positive
  · obtain ⟨c, cs, hcons, hzero, hc, hcs, hvalue⟩ := toDigits_eq_cons hm
    have habsorb := absorb_of_le hcs hrest.startsWithDigit 1 (hvalue ▸ h)
    rw [hcons, List.cons_append, numeral_eq_absorb hzero hc, habsorb, hvalue,
      hrest.startsWithDigit, if_neg Bool.false_ne_true]

theorem numeral_of_lt (hrest : EndsNumber rest) (positive : Bool) (h : maxSignificand < m) :
    ∃ significand exponent, numeral positive (Nat.toDigits 10 m ++ rest) =
      fromParts positive significand exponent rest := by
  obtain ⟨c, cs, hcons, hzero, hc, hcs, hvalue⟩ := toDigits_eq_cons (Nat.ne_zero_of_lt h)
  obtain ⟨significand, taken, more, habsorb, hne, hmore⟩ :=
    absorb_of_lt hcs (digit_le_maxSignificand hc) 1 (hvalue ▸ h) rest
  obtain ⟨exponent, hlong⟩ := hrest.longInteger hmore positive significand
  refine ⟨significand, exponent, ?_⟩
  rw [hcons, List.cons_append, numeral_eq_absorb hzero hc, habsorb,
    startsWithDigit_append hne hmore, if_pos rfl, hlong]

/-- A number from its parts is a double, if it is not too large. -/
theorem fromParts_cases (positive : Bool) (significand : Nat) (exponent : Int) (rest : List Char) :
    (∃ fault, fromParts positive significand exponent rest = .error fault) ∨
      ∃ bits, fromParts positive significand exponent rest = .ok (.double bits, rest) := by
  unfold fromParts
  split
  · exact Or.inl ⟨_, rfl⟩
  · exact Or.inr ⟨_, rfl⟩

/-! ## Values -/

theorem value_of_digit {c : Char} (hc : c.isDigit = true) (cs : List Char) :
    value (depth + 1) (c :: cs) =
      (numeral true (c :: cs)).map fun read => (.number read.1, read.2) := by
  have hspace : skipSpace (c :: cs) = c :: cs := by
    have hne : isSpace c = false := by
      have hmin : 48 ≤ c.toNat := (Char.isDigit_iff_toNat.mp hc).1
      simp only [isSpace, Bool.or_eq_false_iff, beq_eq_false_iff_ne]
      refine ⟨⟨⟨?_, ?_⟩, ?_⟩, ?_⟩ <;> rintro rfl <;> exact absurd hmin (by decide)
    exact List.dropWhile_cons_of_neg (by simp [hne])
  rw [value, hspace]
  split
  case h_9 h =>
    cases h
    rw [if_pos hc]
    cases numeral true (c :: cs) <;> rfl
  all_goals
    rename_i h
    cases h
    try exact absurd hc (by decide)

theorem value_of_minus (cs : List Char) :
    value (depth + 1) ('-' :: cs) =
      (numeral false cs).map fun read => (.number read.1, read.2) := by
  have hspace : skipSpace ('-' :: cs) = '-' :: cs := List.dropWhile_cons_of_neg (by decide)
  rw [value, hspace]
  cases h : numeral false cs <;> simp [h, Except.map]

/-- The sign of an integer and the digits behind it. -/
theorem toList_toString (n : Int) :
    (toString n).toList =
      (if 0 ≤ n then [] else ['-']) ++ Nat.toDigits 10 n.natAbs := by
  cases n with
  | ofNat m => exact Nat.toList_repr
  | negSucc m =>
      show ("-" ++ (m + 1).repr).toList = _
      simp [Nat.toList_repr]

theorem value_toString (n : Int) (rest : List Char) :
    value (depth + 1) ((toString n).toList ++ rest) =
      (numeral (0 ≤ n) (Nat.toDigits 10 n.natAbs ++ rest)).map fun read =>
        (.number read.1, read.2) := by
  rw [toList_toString]
  by_cases h : 0 ≤ n
  · obtain ⟨c, cs, hcons⟩ := List.exists_cons_of_ne_nil (@Nat.toDigits_ne_nil n.natAbs 10)
    have hc : c.isDigit = true :=
      Nat.isDigit_of_mem_toDigits (by decide) (by decide) (hcons ▸ List.mem_cons_self)
    rw [if_pos h, hcons, List.nil_append, List.cons_append, value_of_digit hc, decide_eq_true h]
  · rw [if_neg h, List.cons_append, List.cons_append, List.nil_append, value_of_minus,
      decide_eq_false h]

/-- An integer of 64 bits, signed or not. -/
def Fits (n : Int) : Prop := -9223372036854775808 ≤ n ∧ n < 18446744073709551616

instance (n : Int) : Decidable (Fits n) := inferInstanceAs (Decidable (_ ∧ _))

/-- An integer that fits is read as itself. -/
theorem value_of_fits {n : Int} (h : Fits n) (hrest : EndsNumber rest) :
    value (depth + 1) ((toString n).toList ++ rest) = .ok (.number (.integer n), rest) := by
  have hmax : maxSignificand = 2 ^ 64 - 1 := rfl
  have hhalf : Nat.pow 2 63 = 2 ^ 63 := rfl
  obtain ⟨hlow, hhigh⟩ := h
  rw [value_toString, numeral_of_le hrest _ (by omega), hrest.afterInteger]
  by_cases hn : 0 ≤ n
  · have habs : (n.natAbs : Int) = n := Int.natAbs_of_nonneg hn
    rw [if_pos (decide_eq_true hn), habs]
    rfl
  · have habs : -(n.natAbs : Int) = n := by omega
    rw [if_neg (by simpa using hn), if_pos (by omega), habs]
    rfl

/-- An integer that does not fit is not read, or becomes a double. -/
theorem value_of_not_fits {n : Int} (h : ¬ Fits n) (hrest : EndsNumber rest) :
    (∃ fault, value (depth + 1) ((toString n).toList ++ rest) = .error fault) ∨
      ∃ bits, value (depth + 1) ((toString n).toList ++ rest) =
        .ok (.number (.double bits), rest) := by
  have hmax : maxSignificand = 2 ^ 64 - 1 := rfl
  have hhalf : Nat.pow 2 63 = 2 ^ 63 := rfl
  rw [value_toString]
  by_cases hbig : maxSignificand < n.natAbs
  · obtain ⟨significand, exponent, hparts⟩ := numeral_of_lt hrest (0 ≤ n) hbig
    rw [hparts]
    rcases fromParts_cases (0 ≤ n) significand exponent rest with ⟨fault, hf⟩ | ⟨bits, hf⟩
    · rw [hf]
      exact Or.inl ⟨fault, rfl⟩
    · rw [hf]
      exact Or.inr ⟨bits, rfl⟩
  · -- the digits fit, so it is the sign that does not
    have hneg : ¬ 0 ≤ n := fun hn => h ⟨by omega, by omega⟩
    have hlow : ¬ (0 < n.natAbs ∧ n.natAbs ≤ Nat.pow 2 63) := fun hfits =>
      h ⟨by omega, by omega⟩
    rw [numeral_of_le hrest _ (Nat.not_lt.mp hbig), hrest.afterInteger,
      if_neg (by simpa using hneg), if_neg hlow]
    exact Or.inr ⟨_, rfl⟩

/-! ## Texts -/

theorem mem_toString {n : Int} {c : Char} (h : c ∈ (toString n).toList) :
    c.isDigit = true ∨ c = '-' := by
  rw [toList_toString, List.mem_append] at h
  rcases h with h | h
  · split at h
    · cases h
    · exact Or.inr (List.mem_singleton.mp h)
  · exact Or.inl (Nat.isDigit_of_mem_toDigits (by decide) (by decide) h)

/-- A double is written with a point or an exponent. -/
theorem mem_write (d : Decimal.Digits) : '.' ∈ (d.write doubleStyle).toList ∨
    'e' ∈ (d.write doubleStyle).toList := by
  have hexponent : ∀ e, 'e' ∈ (doubleStyle.exponent e).toList := by
    intro e
    simp only [doubleStyle]
    split <;> simp
  rw [Decimal.Digits.write, String.toList_ofList]
  split
  · left
    split
    · simp
    · split <;> simp
  · right
    split
    · rename_i h
      exact absurd h Nat.toDigits_ne_nil
    · exact List.mem_cons_of_mem _ (hexponent _)
    · exact List.mem_append_right _ (hexponent _)

theorem mem_text_double (bits : UInt64) :
    ∃ c ∈ (Number.double bits).text.toList, c.isDigit = false ∧ c ≠ '-' := by
  simp only [Number.text, Decimal.write?]
  cases Decimal.Binary.ofBits? bits with
  | none => exact ⟨'n', by simp, by decide, by decide⟩
  | some b =>
      simp only [Option.map_some, Option.getD_some]
      split
      · exact ⟨'.', by simp, by decide, by decide⟩
      · rcases mem_write (b.shortest doubleStyle.tieUp) with h | h
        · exact ⟨'.', by simp [h], by decide, by decide⟩
        · exact ⟨'e', by simp [h], by decide, by decide⟩

theorem text_double_ne (bits : UInt64) (n : Int) : (Number.double bits).text ≠ toString n := by
  rintro heq
  obtain ⟨c, hc, hdigit, hminus⟩ := mem_text_double bits
  rw [heq] at hc
  rcases mem_toString hc with hd | hm
  · rw [hdigit] at hd
    cases hd
  · exact hminus hm

/-- A number is never written as nothing. -/
theorem Number.text_ne_empty (m : Number) : m.text ≠ "" := by
  intro h
  have hnil : m.text.toList = [] := by rw [h, String.toList_empty]
  cases m with
  | integer n =>
      rw [text, toList_toString] at hnil
      exact Nat.toDigits_ne_nil (List.append_eq_nil_iff.mp hnil).2
  | double bits =>
      obtain ⟨c, hc, -⟩ := mem_text_double bits
      exact List.ne_nil_of_mem hc hnil

end Json

end HomeConsole
