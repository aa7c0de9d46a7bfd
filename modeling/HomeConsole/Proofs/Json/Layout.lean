import HomeConsole.Proofs.Json.Integer
import HomeConsole.Proofs.Text.Lines

/-!
# The lines of an indented value

The indented form of a value breaks a line only where it lays out a list or an object. Names and
strings are written without controls, whatever characters they hold, and so are numbers. How many
lines there are therefore depends on the shape of the value alone.
-/

namespace HomeConsole.Json

mutual

/-- The line breaks of an indented value: one before every item or member, and one before the
bracket that closes them. -/
def breaks : Json → Nat
  | array (item :: items) => breaksOfItems (item :: items) + 1
  | object (member :: members) => breaksOfMembers (member :: members) + 1
  | _ => 0

/-- The line breaks of items. -/
def breaksOfItems : List Json → Nat
  | [] => 0
  | item :: items => 1 + item.breaks + breaksOfItems items

/-- The line breaks of members. -/
def breaksOfMembers : List (String × Json) → Nat
  | [] => 0
  | (_, value) :: members => 1 + value.breaks + breaksOfMembers members

end

/-- Whether a text holds no controls below the blank. -/
def HasNoControls (cs : List Char) : Prop := ∀ c ∈ cs, 0x20 ≤ c.toNat

instance (cs : List Char) : Decidable (HasNoControls cs) :=
  List.decidableBAll (fun c : Char => 0x20 ≤ c.toNat) cs

/-- Whether a text goes on from another one with some line breaks and no other controls. -/
def Continues (out : String) (n : Nat) (out' : String) : Prop :=
  ∃ added, out'.toList = out.toList ++ added ∧ (∀ c ∈ added, c = '\n' ∨ 0x20 ≤ c.toNat) ∧
    added.count '\n' = n

variable {out mid : String} {n : Nat}

/-! ## Texts without controls -/

theorem HasNoControls.append {cs ds : List Char} (hcs : HasNoControls cs) (hds : HasNoControls ds) :
    HasNoControls (cs ++ ds) :=
  List.forall_mem_append.mpr ⟨hcs, hds⟩

theorem HasNoControls.cons {c : Char} {cs : List Char} (hc : 0x20 ≤ c.toNat)
    (hcs : HasNoControls cs) : HasNoControls (c :: cs) :=
  List.forall_mem_cons.mpr ⟨hc, hcs⟩

theorem hasNoControls_replicate {c : Char} (hc : 0x20 ≤ c.toNat) (n : Nat) :
    HasNoControls (List.replicate n c) := by
  intro d hd
  rw [List.eq_of_mem_replicate hd]
  exact hc

theorem isDigit_le {c : Char} (h : c.isDigit = true) : 0x20 ≤ c.toNat := by
  have hbounds := Char.isDigit_iff_toNat.mp h
  have hzero : '0'.toNat = 48 := rfl
  omega

theorem hasNoControls_toDigits (n : Nat) : HasNoControls (Nat.toDigits 10 n) := fun _ hc =>
  isDigit_le (Nat.isDigit_of_mem_toDigits (by decide) (by decide) hc)

theorem hasNoControls_toString (n : Int) : HasNoControls (toString n).toList := by
  rw [toList_toString]
  refine HasNoControls.append ?_ (hasNoControls_toDigits _)
  split <;> decide

theorem hexDigit_le {n : Nat} (h : n < 16) : 0x20 ≤ (hexDigit n).toNat := by
  have hall : ∀ n < 16, 0x20 ≤ (hexDigit n).toNat := by decide
  exact hall n h

theorem hasNoControls_escapeChar (c : Char) : HasNoControls (escapeChar c) := by
  unfold escapeChar
  split_ifs with _ _ _ _ _ _ _ hlow
  iterate 7 decide
  · have hhigh : c.toNat / 16 < 16 := by omega
    have hlast : c.toNat % 16 < 16 := Nat.mod_lt _ (by decide)
    have hfront : HasNoControls ['\\', 'u', '0', '0'] := by decide
    exact hfront.append (.cons (hexDigit_le hhigh) (.cons (hexDigit_le hlast) (by decide)))
  · exact .cons (Nat.le_of_not_lt hlow) (by decide)

theorem hasNoControls_quote (s : String) : HasNoControls (quote s).toList := by
  rw [quote, String.toList_ofList]
  refine .append (.cons (by decide) fun c hc => ?_) (by decide)
  obtain ⟨d, -, hd⟩ := List.mem_flatMap.mp hc
  exact hasNoControls_escapeChar d c hd

theorem hasNoControls_exponent (e : Int) : HasNoControls (doubleStyle.exponent e).toList := by
  have hsign : HasNoControls (if e < 0 then "e-" else "e+").toList := by
    split <;> decide
  rw [doubleStyle, String.toList_append, Nat.toString_eq_repr, Nat.toList_repr]
  exact hsign.append (hasNoControls_toDigits _)

theorem hasNoControls_write (d : Decimal.Digits) : HasNoControls (d.write doubleStyle).toList := by
  have hdigits := hasNoControls_toDigits d.digits
  have hzeros : ∀ n, HasNoControls (Decimal.zeros n) := fun n =>
    hasNoControls_replicate (by decide) _
  rw [Decimal.Digits.write, String.toList_ofList]
  generalize Nat.toDigits 10 d.digits = digits at hdigits ⊢
  split
  · split
    · exact (hdigits.append (hzeros _)).append (by decide)
    · split
      · exact .append (fun c hc => hdigits c (List.mem_of_mem_take hc))
          (.cons (by decide) fun c hc => hdigits c (List.mem_of_mem_drop hc))
      · exact .append (.append (by decide) (hzeros _)) hdigits
  · split
    · exact List.forall_mem_nil _
    · exact .cons (hdigits _ List.mem_cons_self) (hasNoControls_exponent _)
    · obtain ⟨hfirst, hmore⟩ := List.forall_mem_cons.mp hdigits
      exact .cons hfirst (.cons (by decide) (.append hmore (hasNoControls_exponent _)))

theorem Number.hasNoControls_text (m : Number) : HasNoControls m.text.toList := by
  cases m with
  | integer n => exact hasNoControls_toString n
  | double bits =>
      rw [Number.text, Decimal.write?]
      cases Decimal.Binary.ofBits? bits with
      | none => exact (by decide : HasNoControls "null".toList)
      | some b =>
          have hsign : HasNoControls (if Decimal.isNegative bits then "-" else "").toList := by
            split <;> decide
          have hzero : HasNoControls "0.0".toList := by decide
          simp only [Option.map_some, Option.getD_some]
          split
          · rw [String.toList_append]
            exact hsign.append hzero
          · rw [String.toList_append]
            exact hsign.append (hasNoControls_write _)

/-! ## Writing on -/

theorem Continues.refl (out : String) : Continues out 0 out :=
  ⟨[], (List.append_nil _).symm, List.forall_mem_nil _, rfl⟩

theorem Continues.append {s : String} (h : Continues out n mid) (hs : HasNoControls s.toList) :
    Continues out n (mid ++ s) := by
  obtain ⟨added, hadded, hchars, hcount⟩ := h
  have hbreak : '\n' ∉ s.toList := fun hmem => absurd (hs _ hmem) (by decide)
  refine ⟨added ++ s.toList, ?_,
    List.forall_mem_append.mpr ⟨hchars, fun c hc => Or.inr (hs c hc)⟩, ?_⟩
  · rw [String.toList_append, hadded, List.append_assoc]
  · rw [List.count_append, hcount, List.count_eq_zero_of_not_mem hbreak, Nat.add_zero]

theorem Continues.push {c : Char} (h : Continues out n mid) (hc : 0x20 ≤ c.toNat) :
    Continues out n (mid.push c) := by
  have hs : HasNoControls (String.singleton c).toList := by
    rw [String.toList_singleton]
    exact .cons hc (by decide)
  rw [← String.append_singleton]
  exact h.append hs

theorem Continues.comma (h : Continues out n mid) (first : Bool) :
    Continues out n (if first then mid else mid.push ',') := by
  split
  · exact h
  · exact h.push (by decide)

theorem Continues.newline (h : Continues out n mid) (depth : Nat) :
    Continues out (n + 1) (mid ++ Json.newline depth) := by
  obtain ⟨added, hadded, hchars, hcount⟩ := h
  refine ⟨added ++ '\n' :: List.replicate (2 * depth) ' ', ?_, ?_, ?_⟩
  · rw [String.toList_append, hadded, Json.newline, String.toList_ofList, List.append_assoc]
  · exact List.forall_mem_append.mpr ⟨hchars, List.forall_mem_cons.mpr ⟨Or.inl rfl, fun c hc =>
      Or.inr (hasNoControls_replicate (by decide) _ c hc)⟩⟩
  · rw [List.count_append, hcount, List.count_cons_self, List.count_replicate]
    rfl

-- By recursion on the value, whatever was written before it.
mutual

theorem continues_writePretty {mid : String} {n : Nat} (depth : Nat) (h : Continues out n mid) :
    (value : Json) → Continues out (n + value.breaks) (writePretty depth mid value)
  | null => h.append (by decide)
  | bool b => h.append (by cases b <;> decide)
  | number m => h.append m.hasNoControls_text
  | string s => h.append (hasNoControls_quote s)
  | array [] => h.append (by decide)
  | array (item :: items) =>
      ((continues_writePrettyItems (depth + 1) (h.push (by decide)) true (item :: items)).newline
        depth).push (by decide)
  | object [] => h.append (by decide)
  | object (member :: members) =>
      ((continues_writePrettyMembers (depth + 1) (h.push (by decide)) true
        (member :: members)).newline depth).push (by decide)

theorem continues_writePrettyItems {mid : String} {n : Nat} (depth : Nat)
    (h : Continues out n mid) (first : Bool) :
    (items : List Json) →
      Continues out (n + breaksOfItems items) (writePrettyItems depth mid first items)
  | [] => h
  | item :: items => by
      have hitem := continues_writePretty depth ((h.comma first).newline depth) item
      have hitems := continues_writePrettyItems depth hitem false items
      rwa [Nat.add_assoc, Nat.add_assoc, ← Nat.add_assoc 1] at hitems

theorem continues_writePrettyMembers {mid : String} {n : Nat} (depth : Nat)
    (h : Continues out n mid) (first : Bool) :
    (members : List (String × Json)) →
      Continues out (n + breaksOfMembers members) (writePrettyMembers depth mid first members)
  | [] => h
  | (name, value) :: members => by
      have hname := (((h.comma first).newline depth).append (hasNoControls_quote name)).append
        (by decide : HasNoControls ": ".toList)
      have hvalue := continues_writePretty depth hname value
      have hmembers := continues_writePrettyMembers depth hvalue false members
      rwa [Nat.add_assoc, Nat.add_assoc, ← Nat.add_assoc 1] at hmembers

end

/-! ## The indented form -/

/-- The indented form holds no controls but the line breaks of its layout. -/
theorem toList_pretty (value : Json) : (∀ c ∈ value.pretty.toList, c = '\n' ∨ 0x20 ≤ c.toNat) ∧
    value.pretty.toList.count '\n' = value.breaks := by
  obtain ⟨added, hadded, hchars, hcount⟩ := continues_writePretty 0 (Continues.refl "") value
  rw [String.toList_empty, List.nil_append] at hadded
  rw [pretty, hadded]
  exact ⟨hchars, hcount.trans (Nat.zero_add _)⟩

/-- A list that is not empty begins with its bracket, on a line of its own. -/
theorem toList_pretty_array (item : Json) (items : List Json) :
    ∃ more, (array (item :: items)).pretty.toList = '[' :: '\n' :: more := by
  have hopen := Continues.refl (("".push '[') ++ newline 1)
  have hitems := continues_writePrettyItems 1 (continues_writePretty 1 hopen item) false items
  have hclose := (hitems.newline 0).push (c := ']') (by decide)
  obtain ⟨added, hadded, -, -⟩ := hclose
  exact ⟨' ' :: ' ' :: added, hadded⟩

theorem breaksOfItems_replicate (n : Nat) (value : Json) :
    breaksOfItems (List.replicate n value) = n * (1 + value.breaks) := by
  induction n with
  | zero => exact (Nat.zero_mul _).symm
  | succ n ih =>
      rw [List.replicate_succ, breaksOfItems, ih, Nat.succ_mul, Nat.add_comm]

theorem quote_ne_empty (s : String) : quote s ≠ "" := by
  intro h
  have hnil := congrArg String.toList h
  rw [quote, String.toList_ofList, String.toList_empty] at hnil
  cases hnil

theorem HasNoControls.getLast? {s : String} (h : HasNoControls s.toList) (hne : s ≠ "") :
    ∃ c, s.toList.getLast? = some c ∧ 0x20 ≤ c.toNat := by
  have hchars : s.toList ≠ [] := fun hnil => hne (String.toList_eq_nil_iff.mp hnil)
  exact ⟨_, List.getLast?_eq_some_getLast hchars, h _ (List.getLast_mem hchars)⟩

/-- The indented form ends in something that can be seen. -/
theorem getLast?_pretty (value : Json) :
    ∃ c, value.pretty.toList.getLast? = some c ∧ 0x20 ≤ c.toNat := by
  have hplain : ∀ s : String, HasNoControls s.toList → s ≠ "" →
      ∃ c, ("" ++ s).toList.getLast? = some c ∧ 0x20 ≤ c.toNat := by
    intro s hs hne
    rw [String.empty_append]
    exact hs.getLast? hne
  have hclosed : ∀ (s : String) (c : Char), 0x20 ≤ c.toNat →
      ∃ c', (s.push c).toList.getLast? = some c' ∧ 0x20 ≤ c'.toNat := by
    intro s c hc
    rw [String.toList_push, List.getLast?_concat]
    exact ⟨c, rfl, hc⟩
  cases value with
  | null => exact hplain _ (by decide) (by decide)
  | bool b => exact hplain _ (by cases b <;> decide) (by cases b <;> decide)
  | number m => exact hplain _ m.hasNoControls_text m.text_ne_empty
  | string s => exact hplain _ (hasNoControls_quote s) (quote_ne_empty s)
  | array items =>
      cases items with
      | nil => exact hplain _ (by decide) (by decide)
      | cons item items => exact hclosed _ _ (by decide)
  | object members =>
      cases members with
      | nil => exact hplain _ (by decide) (by decide)
      | cons member members => exact hclosed _ _ (by decide)

/-- The lines of the indented form, as many as its layout has, are the indented form again. -/
theorem linesOf_pretty (value : Json) : (linesOf value.pretty).length = value.breaks + 1 ∧
    "\n".intercalate (linesOf value.pretty) = value.pretty ∧
    ∀ line ∈ linesOf value.pretty, '\n' ∉ line.toList := by
  obtain ⟨hchars, hcount⟩ := toList_pretty value
  obtain ⟨last, hlast, hseen⟩ := getLast?_pretty value
  have hcr : '\r' ∉ value.pretty.toList := fun hmem =>
    (hchars _ hmem).elim (by decide) (by decide)
  have hend : value.pretty.toList.getLast? ≠ some '\n' := by
    rw [hlast]
    rintro ⟨⟩
    exact absurd hseen (by decide)
  have hne : value.pretty ≠ "" := by
    intro h
    rw [h] at hlast
    cases hlast
  rw [linesOf_eq_splitWhere hne hcr hend]
  refine ⟨?_, ?_, ?_⟩
  · rw [List.length_map, length_splitWhere, ← hcount]
    rfl
  · rw [← String.toList_inj, String.toList_intercalate, List.map_map, String.toList_comp_ofList,
      List.map_id]
    exact intercalate_splitWhere _ _
  · intro line hline hbreak
    obtain ⟨piece, hpiece, rfl⟩ := List.mem_map.mp hline
    rw [String.toList_ofList] at hbreak
    exact absurd (not_cut_of_mem_splitWhere hpiece _ hbreak) (by decide)

end HomeConsole.Json
