/-!
# UTF-8

A sequence of bytes is cut into units: a character, an encoded surrogate, or a
byte run that is no encoding.  The readers differ only in what they do with the
last two: `decode?` refuses both, `decodeLossy` puts a replacement character for
each run.  Both give back a text from its own encoding.
-/

namespace QueryBridge.Text.Utf8

/-- What a piece of the input stands for. -/
inductive Piece where
  | char (c : Char)
  | surrogate (code : Nat)
  | invalid
deriving Repr, DecidableEq

def encode (text : List Char) : List UInt8 :=
  text.flatMap String.utf8EncodeChar

/-! ## Cutting into pieces -/

private def isContinuation (b : UInt8) : Bool :=
  0x80 ≤ b && b ≤ 0xBF

private def payload (b : UInt8) : Nat :=
  b.toNat % 64

/-- The admitted second bytes after a leading byte: some are narrower, to rule out
overlong forms and code points past the last one. -/
private def secondRange (lead : UInt8) : UInt8 × UInt8 :=
  if lead = 0xE0 then (0xA0, 0xBF)
  else if lead = 0xED then (0x80, 0x9F)
  else if lead = 0xF0 then (0x90, 0xBF)
  else if lead = 0xF4 then (0x80, 0x8F)
  else (0x80, 0xBF)

private def admits (lead second : UInt8) : Bool :=
  (secondRange lead).1 ≤ second && second ≤ (secondRange lead).2

/-- The first piece of a non-empty input, and how many further bytes it takes.  An
invalid piece is the longest beginning of an encoding, and at least one byte. -/
private def firstPiece (lead : UInt8) (rest : List UInt8) : Piece × Nat :=
  if lead < 0x80 then
    (.char (Char.ofNat lead.toNat), 0)
  else if lead < 0xC2 then
    (.invalid, 0)
  else if lead < 0xE0 then
    match rest with
    | second :: _ =>
        if isContinuation second then
          (.char (Char.ofNat (lead.toNat % 32 * 64 + payload second)), 1)
        else (.invalid, 0)
    | [] => (.invalid, 0)
  else if lead < 0xF0 then
    match rest with
    | second :: third :: _ =>
        let code := lead.toNat % 16 * 4096 + payload second * 64 + payload third
        if admits lead second then
          if isContinuation third then (.char (Char.ofNat code), 2) else (.invalid, 1)
        else if lead = 0xED && isContinuation second && isContinuation third then
          (.surrogate code, 2)
        else (.invalid, 0)
    | [second] => if admits lead second then (.invalid, 1) else (.invalid, 0)
    | [] => (.invalid, 0)
  else if lead < 0xF5 then
    match rest with
    | second :: more =>
        if admits lead second then
          match more with
          | third :: others =>
              if isContinuation third then
                match others with
                | fourth :: _ =>
                    if isContinuation fourth then
                      (.char (Char.ofNat (lead.toNat % 8 * 262144 + payload second * 4096
                        + payload third * 64 + payload fourth)), 3)
                    else (.invalid, 2)
                | [] => (.invalid, 2)
              else (.invalid, 1)
          | [] => (.invalid, 1)
        else (.invalid, 0)
    | [] => (.invalid, 0)
  else
    (.invalid, 0)

/-- The pieces of the input, in order; `skip` bytes still belong to the last piece. -/
private def piecesAfter : Nat → List UInt8 → List Piece
  | _, [] => []
  | skip + 1, _ :: rest => piecesAfter skip rest
  | 0, lead :: rest =>
      let first := firstPiece lead rest
      first.1 :: piecesAfter first.2 rest

def pieces (bytes : List UInt8) : List Piece :=
  piecesAfter 0 bytes

/-! ## Readers -/

/-- The text that the bytes encode, if they are well formed. -/
def decode? (bytes : List UInt8) : Option (List Char) :=
  (pieces bytes).mapM fun
    | .char c => some c
    | .surrogate _ | .invalid => none

/-- Every run of bytes that is no encoding becomes a replacement character; an
encoded surrogate is three such runs. -/
def decodeLossy (bytes : List UInt8) : List Char :=
  (pieces bytes).flatMap fun
    | .char c => [c]
    | .surrogate _ => List.replicate 3 '\uFFFD'
    | .invalid => ['\uFFFD']

/-- Every character takes at least one byte. -/
theorem length_le_length_encode (text : List Char) : text.length ≤ (encode text).length := by
  induction text with
  | nil => exact Nat.le_refl 0
  | cons c text ih =>
      have hencode : encode (c :: text) = String.utf8EncodeChar c ++ encode text :=
        List.flatMap_cons
      have hsize := c.utf8Size_pos
      rw [hencode, List.length_append, String.length_utf8EncodeChar, List.length_cons]
      omega

/-! ## Reading what was encoded -/

private theorem toNat_byte {n : Nat} (hn : n < 256) : (UInt8.ofNat n).toNat = n :=
  UInt8.toNat_ofNat_of_lt' hn

private theorem byte_lt_iff {n : Nat} (hn : n < 256) {b : UInt8} :
    UInt8.ofNat n < b ↔ n < b.toNat := by
  rw [UInt8.lt_iff_toNat_lt, toNat_byte hn]

private theorem byte_eq_iff {n : Nat} (hn : n < 256) {b : UInt8} :
    UInt8.ofNat n = b ↔ n = b.toNat := by
  rw [← UInt8.toNat_inj, toNat_byte hn]

private theorem byte_between_iff {n : Nat} (hn : n < 256) {low high : UInt8} :
    (decide (low ≤ UInt8.ofNat n) && decide (UInt8.ofNat n ≤ high)) = true ↔
      low.toNat ≤ n ∧ n ≤ high.toNat := by
  rw [Bool.and_eq_true, decide_eq_true_eq, decide_eq_true_eq, UInt8.le_iff_toNat_le,
    UInt8.le_iff_toNat_le, toNat_byte hn]

/-- A byte behind the first holds six bits of the code point. -/
private theorem isContinuation_byte {n : Nat} (hn : n < 64) :
    isContinuation (.ofNat (n + 128)) = true := by
  unfold isContinuation
  rw [byte_between_iff (by omega)]
  simp only [UInt8.toNat_ofNat, Nat.reducePow, Nat.reduceMod]
  omega

private theorem payload_byte {n : Nat} (hn : n < 64) : payload (.ofNat (n + 128)) = n := by
  rw [payload, toNat_byte (by omega)]
  omega

private theorem firstPiece_one {n : Nat} (hn : n < 128) (rest : List UInt8) :
    firstPiece (.ofNat n) rest = (.char (.ofNat n), 0) := by
  unfold firstPiece
  rw [if_pos ((byte_lt_iff (by omega)).mpr hn), toNat_byte (by omega)]

private theorem firstPiece_two {a b : Nat} (hlow : 2 ≤ a) (hhigh : a < 32) (hb : b < 64)
    (rest : List UInt8) :
    firstPiece (.ofNat (a + 192)) (.ofNat (b + 128) :: rest) =
      (.char (.ofNat (a * 64 + b)), 1) := by
  unfold firstPiece
  simp only [byte_lt_iff (show a + 192 < 256 by omega), UInt8.toNat_ofNat, Nat.reducePow,
    Nat.reduceMod]
  rw [if_neg (by omega), if_neg (by omega), if_pos (by omega), if_pos (isContinuation_byte hb),
    payload_byte hb, toNat_byte (by omega), show (a + 192) % 32 = a by omega]

/-- The second byte of a longer encoding rules out overlong forms, surrogates and code points
past the last one. -/
private theorem admits_byte {lead second : Nat} (hlead : lead < 256) (hsecond : second < 64)
    (hlow : lead = 0xE0 → 32 ≤ second) (hsurrogate : lead = 0xED → second < 32)
    (hlow' : lead = 0xF0 → 16 ≤ second) (hhigh : lead = 0xF4 → second < 16) :
    admits (.ofNat lead) (.ofNat (second + 128)) = true := by
  unfold admits
  rw [byte_between_iff (by omega)]
  unfold secondRange
  simp only [byte_eq_iff hlead, UInt8.toNat_ofNat, Nat.reducePow, Nat.reduceMod]
  -- one case for each row of the table
  repeat' split
  all_goals
    simp only [UInt8.toNat_ofNat, Nat.reducePow, Nat.reduceMod]
    omega

private theorem firstPiece_three {a b c : Nat} (ha : a < 16) (hb : b < 64) (hc : c < 64)
    (hlow : a = 0 → 32 ≤ b) (hsurrogate : a = 13 → b < 32) (rest : List UInt8) :
    firstPiece (.ofNat (a + 224)) (.ofNat (b + 128) :: .ofNat (c + 128) :: rest) =
      (.char (.ofNat (a * 4096 + b * 64 + c)), 2) := by
  have hadmits : admits (.ofNat (a + 224)) (.ofNat (b + 128)) = true :=
    admits_byte (by omega) hb (by omega) (by omega) (by omega) (by omega)
  unfold firstPiece
  simp only [byte_lt_iff (show a + 224 < 256 by omega), UInt8.toNat_ofNat, Nat.reducePow,
    Nat.reduceMod]
  rw [if_neg (by omega), if_neg (by omega), if_neg (by omega), if_pos (by omega), if_pos hadmits,
    if_pos (isContinuation_byte hc), payload_byte hb, payload_byte hc, toNat_byte (by omega),
    show (a + 224) % 16 = a by omega]

private theorem firstPiece_four {a b c d : Nat} (ha : a < 5) (hb : b < 64) (hc : c < 64)
    (hd : d < 64) (hlow : a = 0 → 16 ≤ b) (hhigh : a = 4 → b < 16) (rest : List UInt8) :
    firstPiece (.ofNat (a + 240))
        (.ofNat (b + 128) :: .ofNat (c + 128) :: .ofNat (d + 128) :: rest) =
      (.char (.ofNat (a * 262144 + b * 4096 + c * 64 + d)), 3) := by
  have hadmits : admits (.ofNat (a + 240)) (.ofNat (b + 128)) = true :=
    admits_byte (by omega) hb (by omega) (by omega) (by omega) (by omega)
  unfold firstPiece
  simp only [byte_lt_iff (show a + 240 < 256 by omega), UInt8.toNat_ofNat, Nat.reducePow,
    Nat.reduceMod]
  rw [if_neg (by omega), if_neg (by omega), if_neg (by omega), if_neg (by omega),
    if_pos (by omega), if_pos hadmits, if_pos (isContinuation_byte hc),
    if_pos (isContinuation_byte hd), payload_byte hb, payload_byte hc, payload_byte hd,
    toNat_byte (by omega), show (a + 240) % 8 = a by omega]

/-- The bytes of a character are read as one piece. -/
theorem pieces_utf8EncodeChar_append (c : Char) (rest : List UInt8) :
    pieces (String.utf8EncodeChar c ++ rest) = .char c :: pieces rest := by
  have hvalid : c.val.toNat < 0xD800 ∨ 0xDFFF < c.val.toNat ∧ c.val.toNat < 0x110000 := c.valid
  have hcode : Char.ofNat c.val.toNat = c := Char.ofNat_toNat c
  unfold String.utf8EncodeChar pieces
  dsimp only
  generalize c.val.toNat = code at hvalid hcode
  -- one case for each length of an encoding
  split
  · rw [List.cons_append, piecesAfter, firstPiece_one (by omega), hcode]
    rfl
  split
  · rw [List.cons_append, List.cons_append, piecesAfter,
      firstPiece_two (by omega) (by omega) (by omega),
      show code / 64 % 32 * 64 + code % 64 = code by omega, hcode]
    rfl
  split
  · rw [List.cons_append, List.cons_append, List.cons_append, piecesAfter,
      firstPiece_three (by omega) (by omega) (by omega) (by omega) (by omega),
      show code / 4096 % 16 * 4096 + code / 64 % 64 * 64 + code % 64 = code by omega, hcode]
    rfl
  · rw [List.cons_append, List.cons_append, List.cons_append, List.cons_append, piecesAfter,
      firstPiece_four (by omega) (by omega) (by omega) (by omega) (by omega) (by omega),
      show code / 262144 % 8 * 262144 + code / 4096 % 64 * 4096 + code / 64 % 64 * 64 +
        code % 64 = code by omega, hcode]
    rfl

theorem pieces_encode (text : List Char) : pieces (encode text) = text.map .char := by
  induction text with
  | nil => rfl
  | cons c text ih =>
      have hencode : encode (c :: text) = String.utf8EncodeChar c ++ encode text :=
        List.flatMap_cons
      rw [hencode, pieces_utf8EncodeChar_append, ih]
      rfl

/-- Encoded text is well formed and reads back. -/
theorem decode?_encode (text : List Char) : decode? (encode text) = some text := by
  unfold decode?
  rw [pieces_encode]
  induction text with
  | nil => rfl
  | cons c text ih =>
      rw [List.map_cons, List.mapM_cons, ih]
      rfl

/-- In encoded text there is nothing to replace. -/
theorem decodeLossy_encode (text : List Char) : decodeLossy (encode text) = text := by
  unfold decodeLossy
  rw [pieces_encode]
  induction text with
  | nil => rfl
  | cons c text ih => rw [List.map_cons, List.flatMap_cons, ih, List.singleton_append]

end QueryBridge.Text.Utf8
