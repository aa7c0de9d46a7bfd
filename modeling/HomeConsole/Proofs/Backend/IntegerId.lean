import HomeConsole.Proofs.Json.Object
import HomeConsole.Proofs.Route.Opening

/-!
# Integer ids

An id that the backend writes as an integer is asked for as it was written, as long as it fits into
64 bits: reading and writing give the same digits back, and no digit needs an escape on the way. A
wider integer becomes a double, and its digits are lost.
-/

namespace HomeConsole

/-! ## Paths -/

namespace Percent

/-- A character that is no byte of an escape, and never needs one. -/
def StaysPlain (c : Char) : Prop := c.toNat < 128 ∧ isUnreserved (UInt8.ofNat c.toNat) = true

theorem escape_char {c : Char} (h : StaysPlain c) : escape isUnreserved [c] = [c] := by
  have hc : Char.ofNat c.toNat = c := Char.ofNat_toNat c
  have hbyte : (UInt8.ofNat c.toNat).toNat = c.toNat := by
    rw [UInt8.toNat_ofNat']
    exact Nat.mod_eq_of_lt (Nat.lt_trans h.1 (by decide))
  have hencode : Utf8.encode [c] = [UInt8.ofNat c.toNat] := by
    rw [← Utf8.encode_ascii h.1, hc]
  simp only [escape, hencode, List.flatMap_cons, List.flatMap_nil, List.append_nil, writeByte,
    if_pos h.2, hbyte, hc]

theorem escape_plain {cs : List Char} (h : ∀ c ∈ cs, StaysPlain c) :
    escape isUnreserved cs = cs := by
  induction cs with
  | nil => rfl
  | cons c cs ih =>
      obtain ⟨hc, hcs⟩ := List.forall_mem_cons.mp h
      have hsplit : escape isUnreserved (c :: cs) =
          escape isUnreserved [c] ++ escape isUnreserved cs := by
        simp only [escape, ← List.flatMap_append, ← Utf8.encode_append, List.singleton_append]
      rw [hsplit, escape_char hc, ih hcs, List.singleton_append]

theorem encode_plain {s : String} (h : ∀ c ∈ s.toList, StaysPlain c) : encode s = s := by
  rw [encode, escape_plain h, String.ofList_toList]

theorem staysPlain_digit {c : Char} (h : c.isDigit = true) : StaysPlain c := by
  have key : ∀ n < 58, 48 ≤ n → isUnreserved (UInt8.ofNat n) = true := by decide
  simp only [Char.isDigit, Bool.and_eq_true, decide_eq_true_eq] at h
  have hlow : 48 ≤ c.toNat := h.1
  have hhigh : c.toNat ≤ 57 := h.2
  exact ⟨by omega, key _ (by omega) hlow⟩

theorem encode_integer (n : Int) : encode (toString n) = toString n := by
  apply encode_plain
  intro c hc
  rcases Json.mem_toString hc with h | rfl
  · exact staysPlain_digit h
  · exact ⟨by decide, by decide⟩

end Percent

theorem Endpoint.path_integer (n : Int) :
    (Endpoint.one (toString n)).path = "/api/getmodule/" ++ toString n := by
  have hapi : Percent.encode "api" = "api" := by decide
  have hget : Percent.encode "getmodule" = "getmodule" := by decide
  simp only [Endpoint.path, Endpoint.segments, List.foldl_cons, List.foldl_nil, hapi, hget,
    Percent.encode_integer]
  rfl

namespace Record

open Json (HasMember Fits)

/-! ## Lone ids -/

variable {n : Int}

/-- The text of a record that has an integer id and nothing else. -/
def bareText (n : Int) : String := "\x7b\"id\":" ++ toString n ++ "\x7d"

theorem toList_bareText (n : Int) : (bareText n).toList =
    '\x7b' :: '"' :: 'i' :: 'd' :: '"' :: ':' :: ((toString n).toList ++ ['\x7d']) := by
  simp [bareText]

theorem spells_id : Json.Spells ['i', 'd'] "id" := by
  intro rest
  simp [Json.stringRest]

theorem hasMember_bareText (n : Int) :
    HasMember (bareText n).toList "id" (toString n).toList := by
  have hnone : Json.IsBlank [] := by simp [Json.IsBlank]
  have hmember : Json.MemberText "id" (toString n).toList
      ('"' :: (['i', 'd'] ++ '"' :: ([] ++ ':' :: ([] ++ ((toString n).toList ++ []))))) :=
    .intro hnone spells_id hnone hnone hnone
  refine ⟨[("id", (toString n).toList)],
    ⟨[], [_], [], hnone, hnone, List.cons_ne_nil _ _, .cons hmember .nil, ?_⟩, rfl, ?_⟩
  · simp [toList_bareText, List.intercalate]
  · simp

theorem ends_brace : Json.EndsNumber ['\x7d'] := Json.EndsValue.endsNumber (Or.inr (Or.inr rfl))

/-- A lone id is read as its digits are, and fails as they do. -/
theorem parse_bareText {reading : Json.Reading Json}
    (h : Json.value (Json.maxDepth - 1) ((toString n).toList ++ ['\x7d']) = reading) :
    (∀ fault, reading = .error fault → Json.parseChars (bareText n).toList = .error fault) ∧
      ∀ v, reading = .ok (v, ['\x7d']) →
        Json.parseChars (bareText n).toList = .ok (.object [("id", v)]) := by
  have hmember : Json.member (Json.value (Json.maxDepth - 1))
      ('i' :: 'd' :: '"' :: ':' :: ((toString n).toList ++ ['\x7d'])) =
        reading.map fun read => (("id", read.1), read.2) := by
    rw [← h]
    exact Json.member_eq (spells_id _) (Json.skipSpace_cons rfl _)
  rw [Json.parseChars, toList_bareText, Json.value_brace (Json.skipSpace_cons rfl _)]
  constructor
  · rintro fault rfl
    rw [Json.objectRest_fault (Json.skipSpace_cons rfl _) hmember]
    rfl
  · rintro v rfl
    rw [Json.objectRest_first (Json.skipSpace_cons rfl _) hmember,
      List.length_cons, List.length_cons, Json.objectRest_close (Json.skipSpace_cons rfl _)]
    rfl

/-! ## Kept and lost ids -/

/-- An integer id that fits is kept. -/
theorem id_of_fits {text : String}
    (hid : HasMember text.toList "id" (toString n).toList) (hn : Fits n) :
    ∃ record, parse text = .ok record ∧ record.id? = some (toString n) := by
  obtain ⟨object, hobject, hmember⟩ := hid.read (Json.denotes_of_fits hn)
  refine ⟨⟨object⟩, parse_eq_ok.mpr (Except.mapError_eq_ok.mpr hobject), ?_⟩
  simp only [id?, hmember]
  rfl

/-- An integer id that fits into 64 bits is asked for as the backend wrote it, whatever else the
record holds, and records with different ones are never opened as the same. -/
theorem integer_id_is_requested {text : String}
    (hid : HasMember text.toList "id" (toString n).toList) (hn : Fits n) :
    ∃ record, parse text = .ok record ∧ record.id? = some (toString n) ∧
      (∀ console : Console, (console.update (.openRecord record)).effect =
        .fetch ⟨console.activation + 1, .one (toString n)⟩) ∧
      (Endpoint.one (toString n)).path = "/api/getmodule/" ++ toString n ∧
      ∀ (text' : String) (n' : Int), HasMember text'.toList "id" (toString n').toList → Fits n' →
        n' ≠ n → ∀ record', parse text' = .ok record' → record'.id? ≠ record.id? ∧
          ∀ console : Console, (console.update (.openRecord record')).effect ≠
            (console.update (.openRecord record)).effect := by
  obtain ⟨record, hparse, hrecord⟩ := id_of_fits hid hn
  have heffect := fun console : Console => (opened_id_is_requested console hrecord).2.1
  refine ⟨record, hparse, hrecord, heffect, Endpoint.path_integer n, ?_⟩
  intro text' n' hid' hn' hne record' hparse'
  obtain ⟨_, hread', hrecord'⟩ := id_of_fits hid' hn'
  obtain rfl := Except.ok.inj (hread'.symm.trans hparse')
  have htexts : toString n' ≠ toString n := fun h => hne (Json.eq_of_toString_eq hn' hn h)
  constructor
  · rw [hrecord, hrecord']
    simpa using htexts
  · intro console
    rw [heffect console, (opened_id_is_requested console hrecord').2.1]
    simpa using htexts

/-- The greatest of these ids. -/
theorem greatest_id_is_requested :
    HasMember (bareText 18446744073709551615).toList "id"
        (toString (18446744073709551615 : Int)).toList ∧
      Fits 18446744073709551615 ∧ ∃ record, parse (bareText 18446744073709551615) = .ok record ∧
        (Console.new.update (.openRecord record)).effect =
          .fetch ⟨1, .one "18446744073709551615"⟩ := by
  have hid := hasMember_bareText 18446744073709551615
  have hn : Fits 18446744073709551615 := by decide
  have htext : toString (18446744073709551615 : Int) = "18446744073709551615" := by decide +kernel
  obtain ⟨record, hparse, -, heffect, -⟩ := integer_id_is_requested hid hn
  refine ⟨hid, hn, record, hparse, ?_⟩
  rw [heffect, htext]
  rfl

/-- An integer id that does not fit is never kept. -/
theorem id_ne_of_not_fits (hn : ¬ Fits n) {record : Record}
    (h : parse (bareText n) = .ok record) : record.id? ≠ some (toString n) := by
  have hparse := Except.mapError_eq_ok.mp (parse_eq_ok.mp h)
  rcases Json.value_of_not_fits hn ends_brace with ⟨fault, hfault⟩ | ⟨bits, hread⟩
  · rw [(parse_bareText hfault).1 fault rfl] at hparse
    cases hparse
  · rw [(parse_bareText hread).2 _ rfl] at hparse
    have hid : record.id? = some (Json.Number.double bits).text := by
      simp [id?, ← Except.ok.inj hparse, Json.get?]
    rw [hid]
    simpa using Json.text_double_ne bits n

/-- The first two integers that are too wide: the id of a record is not the first one although it was
written so, and the record is read like another one with the second. -/
theorem wide_ids_are_lost :
    (HasMember (bareText 18446744073709551616).toList "id"
        (toString (18446744073709551616 : Int)).toList ∧
      ¬ ∃ record, parse (bareText 18446744073709551616) = .ok record ∧
        record.id? = some (toString (18446744073709551616 : Int))) ∧
      Json.parseChars (bareText 18446744073709551616).toList =
        Json.parseChars (bareText 18446744073709551617).toList := by
  refine ⟨⟨hasMember_bareText _, ?_⟩, ?_⟩
  · rintro ⟨record, hparse, hid⟩
    exact id_ne_of_not_fits (by decide) hparse hid
  · -- the last digit of either one is dropped
    have hfirst : Json.numeral true ("18446744073709551616".toList ++ ['\x7d']) =
        Json.fromParts true 1844674407370955161 1 ['\x7d'] := rfl
    have hsecond : Json.numeral true ("18446744073709551617".toList ++ ['\x7d']) =
        Json.fromParts true 1844674407370955161 1 ['\x7d'] := rfl
    have hvalues :
        Json.value (126 + 1) ((toString (18446744073709551616 : Int)).toList ++ ['\x7d']) =
          Json.value (126 + 1) ((toString (18446744073709551617 : Int)).toList ++ ['\x7d']) := by
      rw [Json.value_toString, Json.value_toString,
        show Nat.toDigits 10 (Int.natAbs 18446744073709551616) = "18446744073709551616".toList by
          decide +kernel,
        show Nat.toDigits 10 (Int.natAbs 18446744073709551617) = "18446744073709551617".toList by
          decide +kernel,
        decide_eq_true (by decide), decide_eq_true (by decide), hfirst, hsecond]
    rcases Json.value_of_not_fits (n := 18446744073709551617) (by decide) ends_brace with
      ⟨fault, hfault⟩ | ⟨bits, hread⟩
    · rw [(parse_bareText (hvalues.trans hfault)).1 fault rfl, (parse_bareText hfault).1 fault rfl]
    · rw [(parse_bareText (hvalues.trans hread)).2 _ rfl, (parse_bareText hread).2 _ rfl]

end Record

end HomeConsole
