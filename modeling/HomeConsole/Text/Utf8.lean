/-!
# The bytes of a text

A text is a list of characters; on the wire and inside percent escapes it is a list of bytes.
`encode` writes the bytes of UTF-8. `step` reads one character back, or drops the longest piece
that could have begun one; `decode?` accepts only clean input, `decodeLossy` puts a replacement
character in the place of each dropped piece.
-/

namespace HomeConsole.Utf8

/-- The bytes of a list of characters. -/
def encode (cs : List Char) : List UInt8 := cs.flatMap String.utf8EncodeChar

/-- The number of bytes of a list of characters. -/
def size (cs : List Char) : Nat := cs.foldr (fun c n => c.utf8Size + n) 0

/-- What a leading byte promises: the bits it carries, how many bytes follow it, and the range in
which the first of them lies. The ranges shut out overlong forms, surrogates and code points
beyond the last one. -/
structure Lead where
  bits : Nat
  following : Nat
  low : Nat
  high : Nat
deriving Repr, DecidableEq

/-- The leading bytes; `none` for a byte that begins no character. -/
def lead? (b : UInt8) : Option Lead :=
  let n := b.toNat
  if n < 0x80 then some ⟨n, 0, 0x80, 0xBF⟩
  else if n < 0xC2 then none
  else if n < 0xE0 then some ⟨n - 0xC0, 1, 0x80, 0xBF⟩
  else if n = 0xE0 then some ⟨0, 2, 0xA0, 0xBF⟩
  else if n = 0xED then some ⟨0xD, 2, 0x80, 0x9F⟩
  else if n < 0xF0 then some ⟨n - 0xE0, 2, 0x80, 0xBF⟩
  else if n = 0xF0 then some ⟨0, 3, 0x90, 0xBF⟩
  else if n < 0xF4 then some ⟨n - 0xF0, 3, 0x80, 0xBF⟩
  else if n = 0xF4 then some ⟨4, 3, 0x80, 0x8F⟩
  else none

/-- Reads the bytes that follow a leading byte. The first one that does not fit ends the piece
and stays in the input. -/
def follow (acc : Nat) : Nat → Nat → Nat → List UInt8 → Option Nat × List UInt8
  | 0, _, _, rest => (some acc, rest)
  | _ + 1, _, _, [] => (none, [])
  | k + 1, low, high, b :: rest =>
    if low ≤ b.toNat ∧ b.toNat ≤ high then
      follow (acc * 64 + b.toNat % 64) k 0x80 0xBF rest
    else (none, b :: rest)

/-- One character off the front, or `none` for a malformed piece, and what comes after it. -/
def step (b : UInt8) (rest : List UInt8) : Option Char × List UInt8 :=
  match lead? b with
  | none => (none, rest)
  | some l =>
    let (code?, rest) := follow l.bits l.following l.low l.high rest
    (code?.map Char.ofNat, rest)

theorem follow_length_le (acc k low high : Nat) (bs : List UInt8) :
    (follow acc k low high bs).2.length ≤ bs.length := by
  induction k generalizing acc low high bs with
  | zero => simp [follow]
  | succ k ih =>
    cases bs with
    | nil => simp [follow]
    | cons b rest =>
      simp only [follow]
      split
      · exact Nat.le_succ_of_le (ih _ _ _ _)
      · simp

theorem step_length_le (b : UInt8) (rest : List UInt8) : (step b rest).2.length ≤ rest.length := by
  unfold step
  split
  · simp
  · exact follow_length_le _ _ _ _ _

/-- Reads bytes that must be clean UTF-8 throughout. -/
def decode? : List UInt8 → Option (List Char)
  | [] => some []
  | b :: rest =>
    have := step_length_le b rest
    match h : step b rest with
    | (none, _) => none
    | (some c, rest') =>
      have : rest'.length ≤ rest.length := by simpa [h] using this
      (decode? rest').map (c :: ·)
termination_by bs => bs.length
decreasing_by simp; omega

/-- Reads any bytes; each malformed piece becomes one U+FFFD. -/
def decodeLossy : List UInt8 → List Char
  | [] => []
  | b :: rest =>
    have := step_length_le b rest
    match h : step b rest with
    | (c?, rest') =>
      have : rest'.length ≤ rest.length := by simpa [h] using this
      c?.getD '\uFFFD' :: decodeLossy rest'
termination_by bs => bs.length
decreasing_by simp; omega

end HomeConsole.Utf8
