/-!
Bytes read as UTF-8. `decode?` is the strict reading of core. Where bytes may be ill formed there are
two more readings: `decodeLossy` replaces each ill-formed stretch by U+FFFD, where a stretch is the
longest start of a well-formed sequence, or a single byte if there is none; `validLength` counts the
bytes before the first ill-formed stretch.
-/

namespace WireSchema.Text.Utf8

def encode (s : String) : List UInt8 :=
  s.toUTF8.data.toList

def decode? (bytes : List UInt8) : Option String :=
  String.fromUTF8? ⟨bytes.toArray⟩

/-- A byte of the form `10xxxxxx`. -/
def isTail (b : UInt8) : Bool :=
  0x80 ≤ b && b ≤ 0xBF

/-- Which bytes may follow the first byte of a sequence of three or four. The narrow ranges exclude
overlong forms, surrogates and code points above U+10FFFF. -/
def secondRange (lead : UInt8) : UInt8 × UInt8 :=
  if lead = 0xE0 then (0xA0, 0xBF)
  else if lead = 0xED then (0x80, 0x9F)
  else if lead = 0xF0 then (0x90, 0xBF)
  else if lead = 0xF4 then (0x80, 0x8F)
  else (0x80, 0xBF)

def isSecond (lead b : UInt8) : Bool :=
  (secondRange lead).1 ≤ b && b ≤ (secondRange lead).2

/-- What stands at the front of a byte list: a character and its length in bytes, or an ill-formed
stretch of the given length. -/
inductive Front where
  | char (c : Char) (length : Nat)
  | broken (length : Nat)
  deriving DecidableEq, Repr

def Front.length : Front → Nat
  | .char _ n => n
  | .broken n => n

def low (b : UInt8) : Nat :=
  b.toNat % 0x40

/-- The front of `lead :: rest`. -/
def front (lead : UInt8) (rest : List UInt8) : Front :=
  if lead < 0x80 then .char (Char.ofNat lead.toNat) 1
  else if lead < 0xC2 then .broken 1
  else if lead < 0xE0 then
    match rest with
    | b :: _ =>
      if isTail b then .char (Char.ofNat ((lead.toNat % 0x20) * 0x40 + low b)) 2 else .broken 1
    | [] => .broken 1
  else if lead < 0xF0 then
    match rest with
    | b :: r =>
      if isSecond lead b then
        match r with
        | c :: _ =>
          if isTail c then
            .char (Char.ofNat (((lead.toNat % 0x10) * 0x40 + low b) * 0x40 + low c)) 3
          else .broken 2
        | [] => .broken 2
      else .broken 1
    | [] => .broken 1
  else if lead < 0xF5 then
    match rest with
    | b :: r =>
      if isSecond lead b then
        match r with
        | c :: r =>
          if isTail c then
            match r with
            | d :: _ =>
              if isTail d then
                .char (Char.ofNat ((((lead.toNat % 8) * 0x40 + low b) * 0x40 + low c) * 0x40 + low d)) 4
              else .broken 3
            | [] => .broken 3
          else .broken 2
        | [] => .broken 2
      else .broken 1
    | [] => .broken 1
  else .broken 1

/-- Walks the bytes, passing over the `skip` bytes that belong to a front already read. -/
def lossyFrom : Nat → List UInt8 → List Char
  | _, [] => []
  | skip + 1, _ :: rest => lossyFrom skip rest
  | 0, lead :: rest =>
    match front lead rest with
    | .char c n => c :: lossyFrom (n - 1) rest
    | .broken n => '\uFFFD' :: lossyFrom (n - 1) rest

def decodeLossy (bytes : List UInt8) : String :=
  String.ofList (lossyFrom 0 bytes)

def validFrom : Nat → List UInt8 → Nat
  | _, [] => 0
  | skip + 1, _ :: rest => validFrom skip rest
  | 0, lead :: rest =>
    match front lead rest with
    | .char _ n => n + validFrom (n - 1) rest
    | .broken _ => 0

/-- How many bytes precede the first ill-formed stretch. -/
def validLength (bytes : List UInt8) : Nat :=
  validFrom 0 bytes

end WireSchema.Text.Utf8
