/-!
UTF-8, for texts whose bytes may be anything.

`decode` cuts bytes into characters and ill-formed pieces. An ill-formed piece is as long as some
well-formed sequence starts with it, and one byte if there is none, so each piece becomes one
replacement character in `decodeLossy`.
-/

namespace GridScript.Text.Utf8

/-- What the first bytes of a text are. -/
inductive Piece where
  /-- A character, written in so many bytes. -/
  | character (c : Char) (length : Nat)
  /-- An ill-formed piece of so many bytes. -/
  | broken (length : Nat)

def isContinuation (b : UInt8) : Bool := 0x80 ≤ b && b ≤ 0xBF

/-- The bytes that may follow a lead byte: surrogates, long forms and numbers above the last code
point are excluded here. -/
def isSecond (lead b : UInt8) : Bool :=
  if lead == 0xE0 then 0xA0 ≤ b && b ≤ 0xBF
  else if lead == 0xED then 0x80 ≤ b && b ≤ 0x9F
  else if lead == 0xF0 then 0x90 ≤ b && b ≤ 0xBF
  else if lead == 0xF4 then 0x80 ≤ b && b ≤ 0x8F
  else isContinuation b

/-- The six low bits of a continuation byte. -/
def low (b : UInt8) : Nat := b.toNat % 64

/-- The piece that a lead byte and the bytes after it begin with. -/
def piece (lead : UInt8) (rest : List UInt8) : Piece :=
  if lead < 0x80 then .character (Char.ofNat lead.toNat) 1
  else if lead < 0xC2 || 0xF4 < lead then .broken 1
  else
    match rest with
    | [] => .broken 1
    | b :: rest =>
      if !isSecond lead b then .broken 1
      else if lead < 0xE0 then
        .character (Char.ofNat (lead.toNat % 32 * 64 + low b)) 2
      else
        match rest with
        | [] => .broken 2
        | c :: rest =>
          if !isContinuation c then .broken 2
          else if lead < 0xF0 then
            .character (Char.ofNat ((lead.toNat % 16 * 64 + low b) * 64 + low c)) 3
          else
            match rest with
            | [] => .broken 3
            | d :: _ =>
              if !isContinuation d then .broken 3
              else
                .character (Char.ofNat (((lead.toNat % 8 * 64 + low b) * 64 + low c) * 64 + low d)) 4

/-- The characters of a text, with `none` for each ill-formed piece. -/
def decode : List UInt8 → List (Option Char)
  | [] => []
  | b :: bs =>
    match piece b bs with
    | .character c n => some c :: decode (bs.drop (n - 1))
    | .broken n => none :: decode (bs.drop (n - 1))
termination_by bs => bs.length
decreasing_by all_goals simp only [List.length_drop, List.length_cons]; omega

/-- The characters of a well-formed text. -/
def decode? (bs : List UInt8) : Option (List Char) := (decode bs).mapM id

/-- The characters of a text, with U+FFFD for each ill-formed piece. -/
def decodeLossy (bs : List UInt8) : List Char := (decode bs).map (·.getD '\uFFFD')

/-- The bytes of one character. -/
def encodeChar (c : Char) : List UInt8 :=
  let n := c.toNat
  if n < 0x80 then [n.toUInt8]
  else if n < 0x800 then [(0xC0 + n / 64).toUInt8, (0x80 + n % 64).toUInt8]
  else if n < 0x10000 then
    [(0xE0 + n / 4096).toUInt8, (0x80 + n / 64 % 64).toUInt8, (0x80 + n % 64).toUInt8]
  else
    [(0xF0 + n / 262144).toUInt8, (0x80 + n / 4096 % 64).toUInt8, (0x80 + n / 64 % 64).toUInt8,
      (0x80 + n % 64).toUInt8]

def encode (cs : List Char) : List UInt8 := cs.flatMap encodeChar

end GridScript.Text.Utf8
