import HomeConsole.Proofs.Text.Ranges
import HomeConsole.Screen.Line

/-!
# Columns added up

The columns of a text are added up from its end. Characters that are drawn as one sign with what
stands behind them may take columns away again, but none that were not brought in before, and they
add more than they take on their own in a few cases only: a control counts in a text, and two
selectors make the sign before them wide.
-/

namespace HomeConsole

variable {c : Char} {cs ds : List Char} {n : Nat}

namespace Columns

/-! ## Tables -/

/-- The ranges of all characters without columns. -/
def signless : List (Nat × Nat) :=
  ignorable.toList ++ marks.toList ++
    [(0x1160, 0x11FF), (0xD7B0, 0xD7C6), (0xD7CB, 0xD7FB), (0x605, 0x605), (0x70F, 0x70F),
      (0x890, 0x891), (0x8E2, 0x8E2), (0xA8FA, 0xA8FA)]

theorem has_eq_false_of_not_within (h : within signless c.toNat = false) :
    (ignorable.has c || marks.has c || isJamoTail c.toNat || isCarried c.toNat) = false := by
  simp only [signless, within, List.any_append, Bool.or_eq_false_iff] at h
  obtain ⟨⟨hignorable, hmarks⟩, hrest⟩ := h
  rw [Bool.or_eq_false_iff, Bool.or_eq_false_iff, Bool.or_eq_false_iff]
  refine ⟨⟨⟨?_, ?_⟩, ?_⟩, ?_⟩
  · exact Bool.eq_false_iff.mpr fun hc => Bool.eq_false_iff.mp hignorable (Ranges.within_of_has hc)
  · exact Bool.eq_false_iff.mpr fun hc => Bool.eq_false_iff.mp hmarks (Ranges.within_of_has hc)
  all_goals
    simp only [List.any_cons, List.any_nil, Bool.or_eq_false_iff] at hrest
    simp only [isJamoTail, isCarried, within, List.any_cons, List.any_nil, hrest, Bool.or_false]

theorem ofChar_pos_of_not_within (h : within signless c.toNat = false) : 0 < ofChar c := by
  unfold ofChar
  simp only [has_eq_false_of_not_within h, Bool.false_eq_true, if_false]
  repeat' split
  all_goals decide

/-- Some ranges in which every character takes a column. All pictures are in them, and the other
signs that join what stands behind them. -/
def signs : List (Nat × Nat) :=
  [(0xA0, 0xA0), (0x1780, 0x17AF), (0x2018, 0x201D), (0x231A, 0x2B55), (0x16D68, 0x16D68),
    (0x1F004, 0x1FAFF)]

theorem tables_of_signs :
    covered pictures.toList signs = true ∧ apart signs signless = true := by
  decide +kernel

theorem ofChar_pos (h : within signs c.toNat = true) : 0 < ofChar c :=
  ofChar_pos_of_not_within (not_within_of_apart tables_of_signs.2 h)

theorem ofChar_regional (h : isRegional c.toNat = true) : 0 < ofChar c :=
  ofChar_pos (within_of_covered (by decide) h)

theorem ofChar_khmerLetter (h : isKhmerLetter c.toNat = true) : 0 < ofChar c :=
  ofChar_pos (within_of_covered (by decide) h)

theorem ofChar_curlyQuote (h : isCurlyQuote c.toNat = true) : 0 < ofChar c :=
  ofChar_pos (within_of_covered (by decide) h)

theorem within_signs_of_picture (h : pictures.has c = true) : within signs c.toNat = true :=
  within_of_covered tables_of_signs.1 (Ranges.within_of_has h)

/-- Letters of Japanese and Chinese that are drawn over two columns. -/
def ideographs : List (Nat × Nat) := [(0x30A1, 0x30FA), (0x4E00, 0x9FFF)]

theorem tables_of_ideographs :
    wide.IsSorted ∧ covered ideographs wide.toList = true ∧ apart ideographs signless = true := by
  decide +kernel

theorem bounds_of_ideograph (h : within ideographs c.toNat = true) :
    0x30A1 ≤ c.toNat ∧ c.toNat ≤ 0x9FFF := by
  have hbetween : within [(0x30A1, 0x9FFF)] c.toNat = true := within_of_covered (by decide) h
  simpa [within] using hbetween

theorem ofChar_ideograph (h : within ideographs c.toNat = true) : ofChar c = 2 := by
  obtain ⟨hsorted, hcovered, hapart⟩ := tables_of_ideographs
  have hbounds := bounds_of_ideograph h
  have hwide : wide.has c = true := (hsorted.has_eq c).trans (within_of_covered hcovered h)
  have hsmall : ¬ c.toNat < 0xA0 := by omega
  have hletters : c.toNat ≠ 0x115F ∧ c.toNat ≠ 0x17A4 ∧ c.toNat ≠ 0x17D8 ∧ c.toNat ≠ 0x2D7F := by
    omega
  simp [ofChar, hsmall, hletters, has_eq_false_of_not_within (not_within_of_apart hapart h), hwide]

/-! ## Fronts -/

/-- How many columns the characters in front of a text may take away again. -/
def Follow.owed : Follow → Int
  | .joinedRegional false | .ligature .khmerLetter _ | .ligature .tifinaghJoined _ => 1
  | _ => 0

/-- How many columns the characters in front of a text may add beyond those they take on their
own. -/
def Follow.spare : Follow → Int
  | .joinedRegional true => 2
  | _ => 0

/-- What a character adds before a text is paid for: it takes nothing away that was not brought in,
and no more is added than the character takes on its own. -/
structure Fair (follow : Follow) (c : Char) (next : Int × Front) : Prop where
  owed : next.2.follow.owed ≤ follow.owed + next.1
  spare : next.1 + next.2.follow.spare ≤ follow.spare + ofChar c

namespace Follow

theorem owed_nonneg (follow : Follow) : 0 ≤ follow.owed := by
  unfold owed
  split <;> decide

theorem spare_nonneg (follow : Follow) : 0 ≤ follow.spare := by
  unfold spare
  split <;> decide

theorem owed_ligature (letter : Ligature) (joined joined' : Bool) :
    (ligature letter joined).owed = (ligature letter joined').owed := by
  cases letter <;> rfl

end Follow

section

variable {follow : Follow} {next : Int × Front} {added : Int} {front : Front}

/-- Most fronts owe no columns and have none to spare. -/
theorem fair_of_even (howed : front.follow.owed = 0) (hspare : front.follow.spare = 0)
    (hadded : 0 ≤ added) (hown : added ≤ ofChar c) : Fair follow c (added, front) := by
  have hpaid := follow.owed_nonneg
  have hleft := follow.spare_nonneg
  exact ⟨show front.follow.owed ≤ _ + added by omega, show added + front.follow.spare ≤ _ by omega⟩

theorem fair_zero (howed : front.follow.owed = 0) (hspare : front.follow.spare = 0) :
    Fair follow c (0, front) :=
  fair_of_even howed hspare (Int.le_refl 0) (Int.natCast_nonneg _)

theorem fair_one (howed : front.follow.owed = 0) (hspare : front.follow.spare = 0)
    (hown : 0 < ofChar c) : Fair follow c (1, front) :=
  fair_of_even howed hspare Int.one_nonneg (by omega)

/-- Before a letter that takes a column away again, a sign takes the column of the letter. -/
theorem fair_taken (h : 1 ≤ follow.owed) : Fair follow c (-1, .of .plain) := by
  have hleft := follow.spare_nonneg
  exact ⟨show (0 : Int) ≤ _ + -1 by omega, show (-1 : Int) + 0 ≤ _ + ofChar c by omega⟩

theorem fair_joinLetter {letter : Ligature} {joined : Bool}
    (h : joinLetter letter joined c = some next) : Fair (.ligature letter joined) c next := by
  cases letter with
  | alef | hebrewLamed | bugineseYa | bugineseVowel | lisuTone | orkhonI | kiratRaiAi =>
      simp only [joinLetter] at h
      repeat' split at h
      all_goals cases h
      all_goals exact fair_zero rfl rfl
  | khmerLetter | tifinaghJoined =>
      simp only [joinLetter] at h
      split at h
      · cases h
        exact fair_taken (Int.le_refl 1)
      · cases h
  | tifinagh =>
      simp only [joinLetter] at h
      split at h
      · rename_i hc
        cases h
        have hown : ofChar c = 1 := by simp [ofChar, hc]
        exact ⟨show (1 : Int) ≤ 0 + 1 by decide, show (1 : Int) + 0 ≤ 0 + ofChar c by omega⟩
      · split at h
        · cases h
          exact fair_zero rfl rfl
        · cases h
  | kiratRaiE =>
      simp only [joinLetter] at h
      split at h
      · cases h
        exact fair_zero rfl rfl
      · split at h
        · cases h
          exact fair_zero rfl rfl
        · split at h
          · rename_i hc
            cases h
            have hown : 0 < ofChar c := by
              refine ofChar_pos ?_
              rw [hc]
              decide
            exact fair_one rfl rfl hown
          · cases h

/-- What a character that joins the text behind it adds is paid for. -/
theorem fair_join (h : join follow c = some next) : Fair follow c next := by
  cases follow with
  | plain | lineFeed | joinedKeycap => cases h
  | picture | modifier | joinedTags =>
      simp only [join] at h
      repeat' split at h
      all_goals cases h
      all_goals exact fair_zero rfl rfl
  | regional several =>
      simp only [join] at h
      split at h
      · rename_i hc
        cases h
        exact fair_one rfl rfl (ofChar_regional hc)
      · split at h
        · cases h
          exact fair_zero rfl rfl
        · cases h
  | joiner =>
      simp only [join] at h
      split at h
      · cases h
        exact fair_zero rfl rfl
      · split at h
        · rename_i hc
          cases h
          have hown := ofChar_regional hc
          exact ⟨show (1 : Int) ≤ 0 + 1 by decide, show (1 : Int) + 0 ≤ 0 + ofChar c by omega⟩
        · repeat' split at h
          all_goals cases h
          all_goals exact fair_zero rfl rfl
  | joinedRegional even =>
      simp only [join] at h
      split at h
      · -- every second indicator takes a column away, and the next one brings three
        rename_i hc
        cases h
        have hown := ofChar_regional hc
        cases even with
        | false =>
            exact ⟨show (0 : Int) ≤ 1 + -1 by decide, show (-1 : Int) + 2 ≤ 0 + ofChar c by omega⟩
        | true =>
            exact ⟨show (1 : Int) ≤ 0 + 3 by decide, show (3 : Int) + 0 ≤ 2 + ofChar c by omega⟩
      · split at h
        · cases h
          exact fair_zero rfl rfl
        · cases h
  | ligature letter joined =>
      have hkept : ∀ joined',
          Fair (.ligature letter joined) c (0, .of (.ligature letter joined')) := fun joined' =>
        ⟨by rw [Front.of, Follow.owed_ligature letter joined' joined]; omega,
          show (0 : Int) + 0 ≤ 0 + ofChar c by omega⟩
      simp only [join] at h
      split at h
      · cases h
        exact hkept true
      · split at h
        · cases h
          exact hkept joined
        · exact fair_joinLetter h

/-- The front of a character that joins nothing owes no more than the character takes. -/
def Follow.PaidBy (taken : Nat) (follow : Follow) : Prop := follow.owed ≤ taken ∧ follow.spare = 0

theorem paidBy_alone (c : Char) : (alone c).2.follow.PaidBy (ofChar c) := by
  have heven : ∀ {follow : Follow}, follow.owed = 0 → follow.spare = 0 →
      follow.PaidBy (ofChar c) := fun howed hspare => ⟨by omega, hspare⟩
  unfold alone
  dsimp only
  iterate 5 refine iteInduction (fun _ => heven rfl rfl) fun _ => ?_
  refine iteInduction (fun hc => ?_) fun _ => ?_
  · have hown := ofChar_khmerLetter hc
    exact ⟨show (1 : Int) ≤ ofChar c by omega, rfl⟩
  iterate 6 refine iteInduction (fun _ => heven rfl rfl) fun _ => ?_
  exact heven rfl rfl

theorem fair_alone (c : Char) : Fair follow c (alone c) := by
  obtain ⟨howed, hspare⟩ := paidBy_alone c
  have hpaid := follow.owed_nonneg
  have hleft := follow.spare_nonneg
  exact ⟨show _ ≤ _ + (ofChar c : Int) by omega, show (ofChar c : Int) + _ ≤ _ by omega⟩

theorem unselected_eq (front : Front) :
    front.unselected = front.follow ∨ front.unselected = .plain := by
  obtain ⟨follow, selector⟩ := front
  unfold Front.unselected
  split
  · exact Or.inl rfl
  · rename_i heq _
    exact Or.inl heq.symm
  · exact Or.inr rfl

/-- Nothing owes less, or has less to spare, than the plain front. -/
theorem Fair.of_unselected (h : Fair front.unselected c next) : Fair front.follow c next := by
  obtain ⟨howed, hspare⟩ := h
  have hpaid := front.follow.owed_nonneg
  have hleft := front.follow.spare_nonneg
  rcases unselected_eq front with heq | heq
  · rw [heq] at howed hspare
    exact ⟨howed, hspare⟩
  · rw [heq] at howed hspare
    have hnoneOwed : Follow.plain.owed = 0 := rfl
    have hnoneSpare : Follow.plain.spare = 0 := rfl
    exact ⟨by omega, by omega⟩

theorem fair_select (selector : Selector) : Fair follow c (0, select selector follow) := by
  unfold select
  split
  · exact fair_zero rfl rfl
  · exact fair_zero rfl rfl
  · exact ⟨by simp, show (0 : Int) + 0 ≤ 0 + ofChar c by omega⟩
  · exact fair_zero rfl rfl

theorem selector_joinLetter {letter : Ligature} {joined : Bool}
    (h : joinLetter letter joined c = some next) : next.2.selector = .none := by
  cases letter
  all_goals
    simp only [joinLetter] at h
    repeat' split at h
    all_goals cases h
    all_goals rfl

/-- What joins the text behind it is no selector. -/
theorem selector_join (h : join follow c = some next) : next.2.selector = .none := by
  cases follow
  case ligature letter joined =>
    simp only [join] at h
    split at h
    · cases h
      rfl
    · split at h
      · cases h
        rfl
      · exact selector_joinLetter h
  all_goals
    simp only [join] at h
    try repeat' split at h
    all_goals cases h
    all_goals rfl

end

/-! ## One character -/

/-- A selector that makes the sign before it wide. -/
def Selector.Widens (selector : Selector) : Prop := selector = .picture ∨ selector = .fullWidth

/-- A character that is such a selector. -/
def IsWidener (c : Char) : Prop := c.toNat = 0xFE0F ∨ c.toNat = 0xFE01

instance (c : Char) : Decidable (IsWidener c) := inferInstanceAs (Decidable (_ ∨ _))

theorem ofChar_of_le (h : c.toNat ≤ 0xA0) : 0 < ofChar c := by
  by_cases hlt : c.toNat < 0xA0
  · simp [ofChar, hlt]
  · have heq : c.toNat = 0xA0 := Nat.le_antisymm h (Nat.le_of_not_lt hlt)
    refine ofChar_pos ?_
    rw [heq]
    decide

/-- What a character adds is paid for, unless a selector makes it wide. -/
theorem fair_step (c : Char) (front : Front) : Fair front.follow c (step c front) ∨
    front.selector.Widens ∧ 0 ≤ (step c front).1 ∧ (step c front).2.follow.owed = 0 := by
  unfold step
  dsimp only
  split
  · rename_i hselected
    refine Or.inr ⟨Or.inl hselected.1, ?_, rfl⟩
    split <;> decide
  · split
    · rename_i hsmall
      have hown := ofChar_of_le hsmall
      split
      · exact Or.inl (fair_one rfl rfl hown)
      · split
        · exact Or.inl (fair_zero rfl rfl)
        · exact Or.inl (fair_one rfl rfl hown)
    · split
      · exact Or.inl (fair_select .picture)
      · split
        · exact Or.inl (fair_select .text)
        · split
          · rename_i hsign
            have hpicture := (Bool.and_eq_true_iff.mp (Bool.and_eq_true_iff.mp hsign.2).1).1
            exact Or.inl (fair_one rfl rfl (ofChar_pos (within_signs_of_picture hpicture)))
          · split
            · rename_i hquote
              exact Or.inl (fair_one rfl rfl (ofChar_curlyQuote hquote.2))
            · split
              · rename_i hquote
                exact Or.inr ⟨Or.inr hquote.1, by decide, rfl⟩
              · split
                · rename_i hjoin
                  exact Or.inl (fair_join hjoin).of_unselected
                · exact Or.inl (fair_alone c)

theorem owed_step (c : Char) (front : Front) :
    (step c front).2.follow.owed ≤ front.follow.owed + (step c front).1 := by
  rcases fair_step c front with hfair | ⟨-, hadded, hnone⟩
  · exact hfair.owed
  · have hpaid := front.follow.owed_nonneg
    omega

theorem selector_select (selector : Selector) (follow : Follow) :
    (select selector follow).selector = selector := by
  unfold select
  split <;> rfl

/-- Only the selectors that make signs wide leave a front that does. -/
theorem selector_step (hc : ¬ IsWidener c) (front : Front) :
    ¬ (step c front).2.selector.Widens := by
  have hnone : ¬ Selector.none.Widens := by simp [Selector.Widens]
  have hpicture : c.toNat ≠ 0xFE0F := fun h => hc (Or.inl h)
  have hfull : c.toNat ≠ 0xFE01 := fun h => hc (Or.inr h)
  unfold step
  dsimp only
  split
  · exact hnone
  · split
    · split
      · exact hnone
      · split <;> exact hnone
    · split
      · rw [selector_select]
        simp [Selector.Widens]
      · split
        · exact hnone
        · split
          · exact hnone
          · split
            · exact hnone
            · split
              · rename_i hjoin
                rw [selector_join hjoin]
                exact hnone
              · simp only [alone, if_neg hpicture, if_neg hfull]
                repeat' split
                all_goals simp [Selector.Widens]

/-! ## Adding up -/

theorem scan_cons (c : Char) (cs : List Char) :
    scan (c :: cs) = ((scan cs).1 + (step c (scan cs).2).1, (step c (scan cs).2).2) := rfl

/-- The columns of a text are at least those that may still be taken away. -/
theorem owed_le_scan (cs : List Char) : (scan cs).2.follow.owed ≤ (scan cs).1 := by
  induction cs with
  | nil => decide
  | cons c cs ih =>
      have hstep := owed_step c (scan cs).2
      rw [scan_cons]
      simp only
      omega

/-- So no text has less than no columns. -/
theorem ofList_cast (cs : List Char) : (ofList cs : Int) = (scan cs).1 := by
  have howed := owed_le_scan cs
  have hpaid := (scan cs).2.follow.owed_nonneg
  rw [ofList]
  omega

theorem scan_append (h : (scan ds).2 = .of .plain) (cs : List Char) :
    scan (cs ++ ds) = ((scan cs).1 + (scan ds).1, (scan cs).2) := by
  induction cs with
  | nil => exact Prod.ext (Int.zero_add _).symm h
  | cons c cs ih =>
      rw [List.cons_append, scan_cons, scan_cons, ih]
      simp only [Prod.mk.injEq, and_true]
      omega

/-- A text that joins nothing before it adds its columns to those before it. -/
theorem ofList_append (h : (scan ds).2 = .of .plain) (cs : List Char) :
    ofList (cs ++ ds) = ofList cs + ofList ds := by
  have hsum := congrArg Prod.fst (scan_append h cs)
  simp only [← ofList_cast] at hsum
  omega

/-- A blank takes a column and joins nothing, whatever stands behind it. -/
theorem step_blank (front : Front) : step ' ' front = (1, .of .plain) := by
  have hpicture : startsPicture ' ' = false := by decide +kernel
  simp [step, hpicture]

theorem scan_blanks (n : Nat) : scan (List.replicate n ' ') = ((n : Int), Front.of .plain) := by
  induction n with
  | zero => rfl
  | succ n ih =>
      rw [List.replicate_succ, scan_cons, ih, step_blank]
      rfl

theorem ofList_blanks (n : Nat) : ofList (List.replicate n ' ') = n := by
  rw [ofList, scan_blanks, Int.toNat_natCast]

theorem ofList_append_blanks (cs : List Char) (n : Nat) :
    ofList (cs ++ List.replicate n ' ') = ofList cs + n := by
  rw [ofList_append (by rw [scan_blanks]), ofList_blanks]

theorem ofList_blanks_append (n : Nat) (cs : List Char) :
    ofList (List.replicate n ' ' ++ cs) = n + ofList cs := by
  induction n with
  | zero => rw [List.replicate_zero, List.nil_append, Nat.zero_add]
  | succ n ih =>
      have hstep := congrArg Prod.fst (scan_cons ' ' (List.replicate n ' ' ++ cs))
      simp only [step_blank, ← ofList_cast] at hstep
      rw [List.replicate_succ, List.cons_append]
      omega

/-! ## Characters on their own -/

/-- The columns of characters, each on its own; a control has none. -/
def own (cs : List Char) : Nat := cs.foldr (fun c n => (ofChar? c).getD 0 + n) 0

theorem own_cons (c : Char) (cs : List Char) : own (c :: cs) = (ofChar? c).getD 0 + own cs := rfl

theorem ofChar?_of_not_control (h : isControl c = false) : ofChar? c = some (ofChar c) := by
  simp only [isControl, Bool.or_eq_false_iff, Bool.and_eq_false_iff, decide_eq_false_iff_not] at h
  have hseen : ¬ (c.toNat < 0x20 ∨ 0x7F ≤ c.toNat ∧ c.toNat < 0xA0) := by omega
  simp only [ofChar?, if_neg hseen]

theorem scan_le_own (h : ∀ c ∈ cs, isControl c = false ∧ ¬ IsWidener c) :
    ¬ (scan cs).2.selector.Widens ∧ (scan cs).1 + (scan cs).2.follow.spare ≤ own cs := by
  induction cs with
  | nil => exact ⟨by simp [scan, Front.of, Selector.Widens], by decide⟩
  | cons c cs ih =>
      obtain ⟨⟨hcontrol, hc⟩, hmore⟩ := List.forall_mem_cons.mp h
      obtain ⟨hselector, hsum⟩ := ih hmore
      have hfair := (fair_step c (scan cs).2).resolve_right fun hwide => hselector hwide.1
      have hspare := hfair.spare
      refine ⟨selector_step hc _, ?_⟩
      rw [scan_cons, own_cons, ofChar?_of_not_control hcontrol, Option.getD_some]
      simp only
      omega

/-- Without controls and selectors that make signs wide, a text takes no more columns than its
characters do on their own. -/
theorem ofList_le_own (h : ∀ c ∈ cs, isControl c = false ∧ ¬ IsWidener c) : ofList cs ≤ own cs := by
  have hsum := (scan_le_own h).2
  have hleft := (scan cs).2.follow.spare_nonneg
  rw [← ofList_cast] at hsum
  omega

/-! ## Characters that join nothing -/

/-- A character that takes the same columns in a text as on its own, and joins nothing. -/
def IsSteady (c : Char) : Prop :=
  isControl c = false ∧ step c (.of .plain) = ((ofChar c : Int), .of .plain)

instance (c : Char) : Decidable (IsSteady c) := inferInstanceAs (Decidable (_ ∧ _))

theorem scan_of_steady (h : ∀ c ∈ cs, IsSteady c) : scan cs = ((own cs : Int), .of .plain) := by
  induction cs with
  | nil => rfl
  | cons c cs ih =>
      obtain ⟨⟨hcontrol, hstep⟩, hmore⟩ := List.forall_mem_cons.mp h
      rw [scan_cons, ih hmore, hstep, own_cons, ofChar?_of_not_control hcontrol, Option.getD_some]
      simp only [Prod.mk.injEq, and_true]
      omega

theorem ofList_of_steady (h : ∀ c ∈ cs, IsSteady c) : ofList cs = own cs := by
  rw [ofList, scan_of_steady h, Int.toNat_natCast]

theorem not_isWidener_of_steady (h : IsSteady c) : ¬ IsWidener c := by
  have hstep := h.2
  rintro (hc | hc)
  · simp [step, select, Front.of, hc] at hstep
  · have halone : step c (.of .plain) = alone c := by
      simp [step, join, Front.of, Front.unselected, hc]
    rw [halone] at hstep
    simp [alone, Front.of, hc] at hstep

/-- What holds of the characters of a text is tested one by one. -/
theorem forall_of_all {p : Char → Prop} [DecidablePred p] (h : cs.all (fun c => p c) = true) :
    ∀ c ∈ cs, p c :=
  fun c hc => of_decide_eq_true (List.all_eq_true.mp h c hc)

/-- Steady characters of as many columns each. -/
theorem ofList_of_each (h : ∀ c ∈ cs, IsSteady c ∧ ofChar c = n) : ofList cs = n * cs.length := by
  have hown : own cs = n * cs.length := by
    induction cs with
    | nil => rfl
    | cons c cs ih =>
        obtain ⟨hc, hmore⟩ := List.forall_mem_cons.mp h
        rw [own_cons, ofChar?_of_not_control hc.1.1, Option.getD_some, hc.2, ih hmore,
          List.length_cons, Nat.mul_succ, Nat.add_comm]
  exact (ofList_of_steady fun c hc => (h c hc).1).trans hown

/-- A steady character of one column. -/
def IsUpright (c : Char) : Prop := IsSteady c ∧ ofChar c = 1

instance (c : Char) : Decidable (IsUpright c) := inferInstanceAs (Decidable (_ ∧ _))

theorem isUpright_of_printable (hlow : 0x20 ≤ c.toNat) (hhigh : c.toNat < 0x7F) : IsUpright c := by
  have hown : ofChar c = 1 := if_pos (by omega)
  have hsmall : c.toNat ≤ 0xA0 := by omega
  have hfeed : c.toNat ≠ 0xA := by omega
  refine ⟨⟨?_, ?_⟩, hown⟩
  · simp only [isControl, Bool.or_eq_false_iff, Bool.and_eq_false_iff, decide_eq_false_iff_not]
    omega
  · rw [hown]
    simp [step, Front.of, hsmall, hfeed]

/-- A text of letters, digits and signs of ASCII is upright. -/
theorem upright_of_printable (h : ∀ c ∈ cs, 0x20 ≤ c.toNat ∧ c.toNat < 0x7F) :
    ∀ c ∈ cs, IsUpright c :=
  fun c hc => isUpright_of_printable (h c hc).1 (h c hc).2

theorem ofList_of_upright (h : ∀ c ∈ cs, IsUpright c) : ofList cs = cs.length :=
  (ofList_of_each h).trans (Nat.one_mul _)

theorem alone_ideograph (h : within ideographs c.toNat = true) :
    alone c = ((ofChar c : Int), .of .plain) := by
  obtain ⟨hlow, hhigh⟩ := bounds_of_ideograph h
  have hapart : ∀ {ranges : List (Nat × Nat)}, apart [(0x30A1, 0x9FFF)] ranges = true →
      within ranges c.toNat = false := fun hranges =>
    not_within_of_apart hranges (within_iff.mpr ⟨_, List.mem_singleton_self _, hlow, hhigh⟩)
  have hpicture : pictures.has c = false := Bool.eq_false_iff.mpr fun hc =>
    Bool.eq_false_iff.mp (hapart (by decide)) (within_signs_of_picture hc)
  have hregional : isRegional c.toNat = false := hapart (by decide)
  have hmodifier : isModifier c.toNat = false := hapart (by decide)
  have halef : isAlef c.toNat = false := hapart (by decide)
  have hkhmer : isKhmerLetter c.toNat = false := hapart (by decide)
  have htifinagh : isTifinagh c.toNat = false := hapart (by decide)
  have hletters : c.toNat ≠ 0x5DC ∧ c.toNat ≠ 0x1A10 ∧ c.toNat ≠ 0xA4FC ∧ c.toNat ≠ 0xA4FD ∧
      c.toNat ≠ 0x10C03 ∧ c.toNat ≠ 0x16D67 ∧ c.toNat ≠ 0x16D68 := by omega
  have hselectors : c.toNat ≠ 0xFE0F ∧ c.toNat ≠ 0xFE0E ∧ c.toNat ≠ 0xFE00 ∧ c.toNat ≠ 0xFE01 := by
    omega
  simp [alone, Front.of, hpicture, hregional, hmodifier, halef, hkhmer, htifinagh, hletters,
    hselectors]

theorem isSteady_ideograph (h : within ideographs c.toNat = true) : IsSteady c := by
  obtain ⟨hlow, hhigh⟩ := bounds_of_ideograph h
  refine ⟨?_, ?_⟩
  · simp only [isControl, Bool.or_eq_false_iff, Bool.and_eq_false_iff, decide_eq_false_iff_not]
    omega
  · have hsmall : ¬ c.toNat ≤ 0xA0 := by omega
    have hselectors : c.toNat ≠ 0xFE0F ∧ c.toNat ≠ 0xFE0E := by omega
    simp [step, Front.of, Front.unselected, join, hsmall, hselectors, alone_ideograph h]

theorem ofList_of_ideographs (h : ∀ c ∈ cs, within ideographs c.toNat = true) :
    ofList cs = 2 * cs.length :=
  ofList_of_each fun c hc => ⟨isSteady_ideograph (h c hc), ofChar_ideograph (h c hc)⟩

end Columns

end HomeConsole
