import OracleRs.Text

set_option relaxedAutoImplicit false
set_option autoImplicit false

/-!
# Oracle NUMBER encoding and decoding

The functions of `types/number.rs`. A NUMBER is an exponent byte and the mantissa in base 100;
both directions go through a list of decimal digits and the index of the decimal point in it.

Digits are natural numbers and the index of the decimal point is an integer: an exponent that
would overflow the index of the source puts the number out of range here as well.

## Main definitions

* `OracleRs.OracleNumber` — a decoded number.
* `OracleRs.decodeOracleNumber`, `OracleRs.encodeOracleNumber` — the two directions.
* `OracleRs.scanNumber` — the first part of the encoder, which reads the text.
* `OracleRs.encodeDigits` — its second part, which writes the digits.
-/

namespace OracleRs

/-- `MAX_DIGITS`: the maximum number of digits in an Oracle NUMBER. -/
def maxDigits : ℕ := 40

/-- `MAX_STRING_CHARS`: the maximum number of characters of its text. -/
def maxStringChars : ℕ := 172

/-- A decoded Oracle NUMBER. -/
structure OracleNumber where
  /-- the text of the number -/
  value : String
  /-- there is no decimal point -/
  isInteger : Bool
  /-- this is the maximum negative value (-1e126) -/
  isMaxNegative : Bool := false
deriving DecidableEq, Repr

/-- `OracleNumber::new`. -/
def OracleNumber.new (value : String) : OracleNumber where
  value := value
  isInteger := ¬ value.toList.contains '.'

/-- `OracleNumber::to_i64`; the text of the error is that of the standard library's. -/
def OracleNumber.toI64 (n : OracleNumber) : Except Error Int64 :=
  if n.isMaxNegative then
    .error (.dataConversionError
      "Maximum negative Oracle number cannot be represented as i64")
  else
    match parseInt (-2 ^ 63) (2 ^ 63 - 1) (asBytes n.value) with
    | some i => .ok (Int64.ofInt i)
    | none => .error (.dataConversionError "Cannot parse as i64")

/-! ## Decoding -/

/-- The loop variables of the mantissa loop of `decode_oracle_number`. -/
structure DigitState where
  /-- `digits` -/
  digits : List ℕ
  /-- `decimal_point_index` -/
  decimalPointIndex : ℤ
deriving DecidableEq, Repr

/-- One turn of the mantissa loop: the two digits of a base-100 digit. The last pair does not
write a second digit that is zero. -/
def decodePair (s : DigitState) (value : ℕ) (isLast : Bool) : DigitState :=
  let digit1 := value / 10
  let s :=
    if digit1 = 0 ∧ s.digits = [] then
      { s with decimalPointIndex := s.decimalPointIndex - 1 }
    else if digit1 = 10 then
      ⟨s.digits ++ [1, 0], s.decimalPointIndex + 1⟩
    else if digit1 ≠ 0 ∨ s.digits ≠ [] then
      { s with digits := s.digits ++ [digit1] }
    else
      s
  let digit2 := value % 10
  if digit2 ≠ 0 ∨ ¬ isLast then
    { s with digits := s.digits ++ [digit2] }
  else
    s

/-- The mantissa loop. -/
def decodePairs (s : DigitState) : List ℕ → DigitState
  | [] => s
  | value :: values => decodePairs (decodePair s value values.isEmpty) values

/-- Remove trailing zeros behind the decimal point: a list of digits in reverse. -/
def dropTrailingZeros (decimalPointIndex : ℤ) : List ℕ → List ℕ
  | 0 :: ds =>
    if ((0 :: ds).length : ℤ) ≤ decimalPointIndex then
      0 :: ds
    else
      dropTrailingZeros decimalPointIndex ds
  | ds => ds

/-- The digits as characters, with the decimal point in front of the digit it stands before.
The first argument is the index of the first digit. -/
def renderDigits (decimalPointIndex : ℤ) : ℕ → List ℕ → List Char
  | _, [] => []
  | i, d :: ds =>
    (if i > 0 ∧ (i : ℤ) = decimalPointIndex then ['.'] else []) ++
      Decimal.digitChar d :: renderDigits decimalPointIndex (i + 1) ds

/-- The last part of `decode_oracle_number`: build the text of the number. -/
def renderNumber (isPositive : Bool) (digits : List ℕ) (decimalPointIndex : ℤ) : OracleNumber :=
  let sign := if isPositive then [] else ['-']
  let (result, isInteger) :=
    if decimalPointIndex ≤ 0 then
      (sign ++ ['0', '.'] ++ List.replicate (-decimalPointIndex).toNat '0' ++
        digits.map Decimal.digitChar, false)
    else
      (sign ++ renderDigits decimalPointIndex 0 digits ++
        List.replicate (decimalPointIndex - digits.length).toNat '0',
        decide ((digits.length : ℤ) ≤ decimalPointIndex))
  let result := if result = [] ∨ result = ['-'] then ['0'] else result
  { value := String.ofList result, isInteger := isInteger }

/-- `decode_oracle_number`: decode an Oracle NUMBER from wire format bytes. -/
def decodeOracleNumber (data : Bytes) : Except Error OracleNumber :=
  match data with
  | [] => .error (.dataConversionError "Empty data for Oracle NUMBER")
  | exponentByte :: mantissa =>
    let isPositive := exponentByte &&& 0x80 ≠ 0
    let exponent : ℤ :=
      if isPositive then (exponentByte.toNat : ℤ) - 193 else ((~~~exponentByte).toNat : ℤ) - 193
    let decimalPointIndex := exponent * 2 + 2
    if mantissa = [] then
      if isPositive then
        .ok (OracleNumber.new "0")
      else
        .ok { value := "", isInteger := false, isMaxNegative := true }
    else
      let mantissa :=
        if ¬ isPositive ∧ mantissa.getLast? = some 102 then mantissa.dropLast else mantissa
      let values := mantissa.map fun byte =>
        (if isPositive then byte - 1 else 101 - byte).toNat
      let s := decodePairs ⟨[], decimalPointIndex⟩ values
      let digits := (dropTrailingZeros s.decimalPointIndex s.digits.reverse).reverse
      .ok (renderNumber isPositive digits s.decimalPointIndex)

/-! ## Encoding -/

/-- The error for a byte that is no digit. -/
def invalidCharacter (b : UInt8) : Error :=
  .dataConversionError ("Invalid character '" ++ (Char.ofNat b.toNat).toString ++ "' in number")

/-- The byte is `e` or `E`. -/
def isExponentMark (b : UInt8) : Bool := b = 101 || b = 69

/-- The loop over the digits before the decimal point. Leading zeros are dropped. -/
def scanWhole (digits : List ℕ) : Bytes → Except Error (List ℕ × Bytes)
  | [] => .ok (digits, [])
  | b :: rest =>
    if b = 46 ∨ isExponentMark b then
      .ok (digits, b :: rest)
    else if ¬ isAsciiDigit b then
      .error (invalidCharacter b)
    else
      scanWhole (if digitOf b ≠ 0 ∨ digits ≠ [] then digits ++ [digitOf b] else digits) rest

/-- The loop over the digits behind the decimal point. Leading zeros move the decimal point. -/
def scanFraction (s : DigitState) : Bytes → Except Error (DigitState × Bytes)
  | [] => .ok (s, [])
  | b :: rest =>
    if isExponentMark b then
      .ok (s, b :: rest)
    else if ¬ isAsciiDigit b then
      .error (invalidCharacter b)
    else
      scanFraction
        (if digitOf b = 0 ∧ s.digits = [] then
          { s with decimalPointIndex := s.decimalPointIndex - 1 }
        else
          { s with digits := s.digits ++ [digitOf b] }) rest

/-- The exponent and what is left unread behind it. -/
def scanExponent : Bytes → Except Error (ℤ × Bytes)
  | [] => .ok (0, [])
  | b :: rest =>
    if ¬ isExponentMark b then
      .ok (0, b :: rest)
    else
      let (expNegative, rest) := splitSign rest
      let ds := rest.takeWhile isAsciiDigit
      if ds = [] then
        .error (.dataConversionError "Missing exponent value")
      else
        match parseInt (-2 ^ 31) (2 ^ 31 - 1) ds with
        | none => .error (.dataConversionError "Invalid exponent")
        | some exp => .ok (if expNegative then -exp else exp, rest.dropWhile isAsciiDigit)

/-- What the first part of the encoder reads. -/
structure Scanned where
  /-- `is_negative` -/
  isNegative : Bool
  /-- `digits` -/
  digits : List ℕ
  /-- `decimal_point_index` -/
  decimalPointIndex : ℤ
  /-- the bytes that are not looked at -/
  unread : Bytes
deriving DecidableEq, Repr

/-- The digits before and behind the decimal point. -/
def scanDigits (bytes : Bytes) : Except Error (DigitState × Bytes) := do
  let (digits, bytes) ← scanWhole [] bytes
  let s : DigitState := ⟨digits, digits.length⟩
  if bytes.head? = some 46 then
    scanFraction s bytes.tail
  else
    return (s, bytes)

/-- The first part of `encode_oracle_number`: read sign, digits and exponent. -/
def scanNumber (bytes : Bytes) : Except Error Scanned := do
  let isNegative := bytes.head? = some 45
  let (s, bytes) ← scanDigits (if isNegative then bytes.tail else bytes)
  let (exp, bytes) ← scanExponent bytes
  return ⟨isNegative, s.digits, s.decimalPointIndex + exp, bytes⟩

/-- The pairs of `n` base-100 digits, from the first of the digits on. -/
def mantissaPairs : ℕ → List ℕ → List ℕ
  | 0, _ => []
  | n + 1, ds => (ds.getD 0 0 * 10 + ds.getD 1 0) :: mantissaPairs n (ds.drop 2)

/-- The second part of `encode_oracle_number`: write digits without trailing zeros. -/
def encodeDigits (isNegative : Bool) (digits : List ℕ) (decimalPointIndex : ℤ) :
    Except Error Bytes :=
  if digits.length > maxDigits ∨ decimalPointIndex > 126 ∨ decimalPointIndex < -129 then
    .error (.dataConversionError "Number out of range for Oracle NUMBER")
  else if digits = [] then
    .ok [128]
  else
    let prependZero := decimalPointIndex.tmod 2 = 1
    let decimalPointIndex := if prependZero then decimalPointIndex + 1 else decimalPointIndex
    let digits := if prependZero then digits ++ [0] else digits
    let digits := if digits.length % 2 = 1 then digits ++ [0] else digits
    let numPairs := digits.length / 2
    let exponentOnWire := UInt8.ofInt (decimalPointIndex.tdiv 2 + 192)
    let exponentByte := if isNegative then ~~~exponentOnWire else exponentOnWire
    let pairs :=
      if prependZero then digits.getD 0 0 :: mantissaPairs (numPairs - 1) (digits.drop 1)
      else mantissaPairs numPairs digits
    let encoded := pairs.map fun pairValue =>
      if isNegative then UInt8.ofNat (101 - pairValue) else UInt8.ofNat (pairValue + 1)
    let terminator := if isNegative ∧ numPairs < 20 then [102] else []
    .ok (exponentByte :: encoded ++ terminator)

/-- `encode_oracle_number`: encode a number text to Oracle NUMBER wire format. -/
def encodeOracleNumber (value : String) : Except Error Bytes := do
  let bytes := asBytes (trim value)
  if bytes = [] then
    throw (.dataConversionError "Empty string cannot be encoded as Oracle NUMBER")
  if bytes.length > maxStringChars then
    throw (.dataConversionError "Number string too long for Oracle NUMBER")
  let scanned ← scanNumber bytes
  -- remove trailing zeros
  let digits := (scanned.digits.reverse.dropWhile (· = 0)).reverse
  encodeDigits scanned.isNegative digits scanned.decimalPointIndex

end OracleRs
