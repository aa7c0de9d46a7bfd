import HomeConsole.Text.MultiByte

/-!
# Charsets of several bytes read back

For each charset, which bytes stand for which characters: a byte by itself, the pair at a place of a
grid, or the digits of a larger number. What is written so is read back. Of other bytes, a few at a
time are passed over, at which nothing begins that is written so, and U+FFFD stands for them.
-/

namespace HomeConsole.Charset

/-! ## Grids -/

namespace Bytes

theorem exists_range_of_atIn? {ranges : List (Nat × Nat)} {n place : Nat}
    (h : atIn? ranges place = some n) : ∃ range ∈ ranges, range.1 ≤ n ∧ n ≤ range.2 := by
  induction ranges generalizing place with
  | nil => cases h
  | cons range more ih =>
      rw [atIn?] at h
      split at h
      · cases h
        exact ⟨range, List.mem_cons_self, by omega, by omega⟩
      · obtain ⟨other, hother, hn⟩ := ih h
        exact ⟨other, List.mem_cons_of_mem _ hother, hn⟩

/-- A byte at a place is in one of the ranges. -/
theorem exists_range {bytes : Bytes} {b : UInt8} {place : Nat}
    (h : bytes.at? place = some b.toNat) :
    ∃ range ∈ bytes.ranges, range.1 ≤ b.toNat ∧ b.toNat ≤ range.2 :=
  exists_range_of_atIn? h

end Bytes

namespace Grid

/-- Two bytes stand for a place: that of the row, and that of the cell. -/
def Stands (grid : Grid) (place : Nat) (lead trail : UInt8) : Prop :=
  grid.leads.at? (place / grid.trails.size) = some lead.toNat ∧
    grid.trails.at? (place % grid.trails.size) = some trail.toNat

variable {grid : Grid} {place : Nat} {lead trail : UInt8}

theorem Stands.isLead (h : grid.Stands place lead trail) : grid.isLead lead = true :=
  isLead_iff.mpr (Bytes.exists_range h.1)

variable {text? : Nat → Option (List Char)} {cs : List Char} {rest behind : List UInt8}

end Grid

/-! ## Reading piece by piece -/

/-- Texts that are written piece by piece. Where bytes may be damaged, U+FFFD stands for one to four
of them at a time, at which nothing that is written begins. -/
inductive Spelled (writes : List Char → List UInt8 → Prop) (lossy : Bool) :
    List Char → List UInt8 → Prop where
  | nil : Spelled writes lossy [] []
  | cons {cs more : List Char} {bytes rest : List UInt8} :
      writes cs bytes → Spelled writes lossy more rest →
        Spelled writes lossy (cs ++ more) (bytes ++ rest)
  | damage {more : List Char} {b : UInt8} {front rest : List UInt8} :
      lossy = true → front.length ≤ 3 →
        (∀ cs bytes, writes cs bytes → ¬ bytes <+: b :: (front ++ rest)) →
          Spelled writes lossy more rest →
            Spelled writes lossy ('\uFFFD' :: more) (b :: (front ++ rest))

variable {writes : List Char → List UInt8 → Prop} {cs : List Char} {bytes : List UInt8}

/-- Bytes were not damaged if nothing stands for damage. -/
theorem Spelled.undamaged {lossy : Bool} (h : Spelled writes lossy cs bytes) (hr : '\uFFFD' ∉ cs) :
    Spelled writes false cs bytes := by
  induction h with
  | nil => exact .nil
  | cons hw _ ih => exact .cons hw (ih fun hmem => hr (List.mem_append_right _ hmem))
  | damage => exact absurd List.mem_cons_self hr

namespace Reader

variable {reader : Reader}

end Reader

/-! ## UTF-16 -/

namespace Utf16

/-- What UTF-16 writes in one piece: a unit, or the two halves of a pair. -/
inductive Writes (bigEndian : Bool) : List Char → List UInt8 → Prop where
  | unit {a b : UInt8} {c : Char} : unit bigEndian a b = c.toNat → Writes bigEndian [c] [a, b]
  | pair {a b d e : UInt8} {c : Char} : 0x10000 ≤ c.toNat →
      unit bigEndian a b = 0xD800 + (c.toNat - 0x10000) / 0x400 →
        unit bigEndian d e = 0xDC00 + (c.toNat - 0x10000) % 0x400 →
          Writes bigEndian [c] [a, b, d, e]

theorem toNat_ofNat {n : Nat} (h : n < 0xD800 ∨ 0xDFFF < n ∧ n < 0x110000) :
    (Char.ofNat n).toNat = n := by
  rw [Char.ofNat, dif_pos h]
  rfl

end Utf16

/-! ## Bytes and pairs -/

namespace Paired

/-- What a charset of bytes and pairs writes in one piece. -/
inductive Writes (code : Paired) : List Char → List UInt8 → Prop where
  | single {b : UInt8} {c : Char} : code.single? b = some c → Writes code [c] [b]
  | pair {place : Nat} {lead trail : UInt8} {cs : List Char} :
      code.grid.Stands place lead trail → code.text? place = some cs → Writes code cs [lead, trail]

end Paired

/-! ## EUC-JP -/

namespace EucJp

/-- What EUC-JP writes in one piece. -/
inductive Writes : List Char → List UInt8 → Prop where
  | ascii {b : UInt8} {c : Char} : asciiChar? b = some c → Writes [c] [b]
  | kana {place : Nat} {lead trail : UInt8} {cs : List Char} :
      kanaGrid.Stands place lead trail → kana? place = some cs → Writes cs [lead, trail]
  | first {place : Nat} {lead trail : UInt8} {cs : List Char} :
      grid.Stands place lead trail → (jis0208.char? place).map ([·]) = some cs →
        Writes cs [lead, trail]
  | second {place : Nat} {lead trail : UInt8} {cs : List Char} :
      grid.Stands place lead trail → (jis0212.char? place).map ([·]) = some cs →
        Writes cs [0x8F, lead, trail]

end EucJp

/-! ## GB 18030 -/

namespace Gb18030

/-- Four bytes stand for a place: its digits to the bases 10 and 126 by turns. -/
structure Stands (place : Nat) (first second third fourth : UInt8) : Prop where
  first : first.toNat = 0x81 + place / 12600
  second : second.toNat = 0x30 + place / 1260 % 10
  third : third.toNat = 0x81 + place / 10 % 126
  fourth : fourth.toNat = 0x30 + place % 10

/-- What GB 18030 writes in one piece. -/
inductive Writes : List Char → List UInt8 → Prop where
  | ascii {b : UInt8} {c : Char} : asciiChar? b = some c → Writes [c] [b]
  | euro : Writes ['€'] [0x80]
  | pair {place : Nat} {lead trail : UInt8} {cs : List Char} :
      grid.Stands place lead trail → pairText? place = some cs → Writes cs [lead, trail]
  | four {place : Nat} {first second third fourth : UInt8} {c : Char} :
      Stands place first second third fourth → fourChar? place = some c →
        Writes [c] [first, second, third, fourth]

end Gb18030

/-! ## ISO-2022-JP -/

namespace Iso2022

/-- Nothing that is written in a mode begins with a byte and those behind it. -/
structure Bare (mode : Mode) (b : UInt8) (behind : List UInt8) : Prop where
  char : char? mode b = none
  kanji : mode = .kanji → ∀ trail rest, behind = trail :: rest → kanji? b trail = none
  escape : b = 0x1B → ∀ first second rest, behind = first :: second :: rest →
    mode? first second = none

/-- What ISO-2022-JP writes behind an escape, or not straight behind one: characters in their mode,
and escapes with characters between them. Where bytes may be damaged, U+FFFD stands for one or two
of them at which nothing begins, and for an escape straight behind another one. -/
inductive Writes (lossy : Bool) : Mode → Bool → List Char → List UInt8 → Prop where
  | nil {mode : Mode} {escaped : Bool} : Writes lossy mode escaped [] []
  | char {mode : Mode} {escaped : Bool} {b : UInt8} {c : Char} {cs : List Char}
      {bytes : List UInt8} : char? mode b = some c → Writes lossy mode false cs bytes →
        Writes lossy mode escaped (c :: cs) (b :: bytes)
  | kanji {escaped : Bool} {place : Nat} {lead trail : UInt8} {c : Char} {cs : List Char}
      {bytes : List UInt8} : grid.Stands place lead trail → jis0208.char? place = some c →
        Writes lossy .kanji false cs bytes →
          Writes lossy .kanji escaped (c :: cs) (lead :: trail :: bytes)
  | escape {mode next : Mode} {first second : UInt8} {cs : List Char} {bytes : List UInt8} :
      mode? first second = some next → Writes lossy next true cs bytes →
        Writes lossy mode false cs (0x1B :: first :: second :: bytes)
  | again {mode next : Mode} {first second : UInt8} {cs : List Char} {bytes : List UInt8} :
      lossy = true → mode? first second = some next → Writes lossy next true cs bytes →
        Writes lossy mode true ('\uFFFD' :: cs) (0x1B :: first :: second :: bytes)
  | damage {mode : Mode} {escaped : Bool} {b : UInt8} {front bytes : List UInt8} {cs : List Char} :
      lossy = true → front.length ≤ 1 → Bare mode b (front ++ bytes) →
        Writes lossy mode false cs bytes →
          Writes lossy mode escaped ('\uFFFD' :: cs) (b :: (front ++ bytes))

/-- Bytes were not damaged if nothing stands for damage. -/
theorem Writes.undamaged {lossy : Bool} {mode : Mode} {escaped : Bool} {cs : List Char}
    {bytes : List UInt8} (h : Writes lossy mode escaped cs bytes) (hr : '\uFFFD' ∉ cs) :
    Writes false mode escaped cs bytes := by
  induction h with
  | nil => exact .nil
  | char hc _ ih => exact .char hc (ih fun hmem => hr (List.mem_cons_of_mem _ hmem))
  | kanji hs hc _ ih => exact .kanji hs hc (ih fun hmem => hr (List.mem_cons_of_mem _ hmem))
  | escape hnext _ ih => exact .escape hnext (ih hr)
  | again | damage => exact absurd List.mem_cons_self hr

end Iso2022

end HomeConsole.Charset
