import Mathlib.Data.List.Basic

/-!
# Percent encoding

A text is a list of bytes.  An escape is a percent sign and two hexadecimal
digits; it stands for one byte.  Decoding replaces the escapes of a text by
their bytes and keeps everything else, percent signs without digits included.
Encoding writes the bytes of a set as escapes.

The measure of this module is the number of escapes: a text and its decoding
differ in length by two bytes for each of them, and a text without escapes is
its own decoding.
-/

namespace SqlxTurso.Library

abbrev Bytes := List UInt8

namespace Percent

def percentSign : UInt8 := 37

/-- The value of a hexadecimal digit of either case. -/
def hexValue (byte : UInt8) : Option UInt8 :=
  if 48 ≤ byte ∧ byte ≤ 57 then some (byte - 48)
  else if 65 ≤ byte ∧ byte ≤ 70 then some (byte - 55)
  else if 97 ≤ byte ∧ byte ≤ 102 then some (byte - 87)
  else none

def isHexDigit (byte : UInt8) : Bool := (hexValue byte).isSome

/-- The upper case digit of a value below sixteen. -/
def hexDigit (value : UInt8) : UInt8 :=
  if value < 10 then value + 48 else value + 55

/-- The byte that three bytes stand for when they are an escape. -/
def escaped (byte high low : UInt8) : Option UInt8 :=
  if byte = percentSign then
    match hexValue high, hexValue low with
    | some highValue, some lowValue => some (16 * highValue + lowValue)
    | _, _ => none
  else none

def decode : Bytes → Bytes
  | byte :: high :: low :: rest =>
      match escaped byte high low with
      | some value => value :: decode rest
      | none => byte :: decode (high :: low :: rest)
  | [byte, last] => [byte, last]
  | [byte] => [byte]
  | [] => []

/-- The number of escapes that decoding replaces. -/
def escapes : Bytes → Nat
  | byte :: high :: low :: rest =>
      match escaped byte high low with
      | some _ => escapes rest + 1
      | none => escapes (high :: low :: rest)
  | _ => 0

/-- The bytes of a set are written as escapes. -/
def encode (set : UInt8 → Bool) (text : Bytes) : Bytes :=
  text.flatMap fun byte =>
    if set byte then [percentSign, hexDigit (byte / 16), hexDigit (byte % 16)]
    else [byte]

/-- The byte of the escape that a text starts with, if it starts with one. -/
def escapeAt : Bytes → Option UInt8
  | byte :: high :: low :: _ => escaped byte high low
  | _ => none

section Equations

@[simp] theorem decode_nil : decode [] = [] := rfl

@[simp] theorem escapes_nil : escapes [] = 0 := rfl

@[simp] theorem encode_nil (set : UInt8 → Bool) : encode set [] = [] := rfl

@[simp] theorem encode_append (set : UInt8 → Bool) (first second : Bytes) :
    encode set (first ++ second) = encode set first ++ encode set second :=
  List.flatMap_append

theorem encode_cons_of_mem {set : UInt8 → Bool} {byte : UInt8} (rest : Bytes)
    (inSet : set byte = true) :
    encode set (byte :: rest) =
      percentSign :: hexDigit (byte / 16) :: hexDigit (byte % 16) :: encode set rest := by
  simp [encode, inSet]

theorem encode_cons_of_not_mem {set : UInt8 → Bool} {byte : UInt8} (rest : Bytes)
    (outside : set byte = false) : encode set (byte :: rest) = byte :: encode set rest := by
  simp [encode, outside]

theorem decode_escape {byte high low value : UInt8} (rest : Bytes)
    (isEscape : escaped byte high low = some value) :
    decode (byte :: high :: low :: rest) = value :: decode rest := by
  simp only [decode, isEscape]

theorem escapes_escape {byte high low value : UInt8} (rest : Bytes)
    (isEscape : escaped byte high low = some value) :
    escapes (byte :: high :: low :: rest) = escapes rest + 1 := by
  simp only [escapes, isEscape]

theorem decode_cons {byte : UInt8} {rest : Bytes}
    (noEscape : escapeAt (byte :: rest) = none) :
    decode (byte :: rest) = byte :: decode rest := by
  match rest, noEscape with
  | [], _ => rfl
  | [last], _ => rfl
  | high :: low :: rest, noEscape =>
      simp only [escapeAt] at noEscape
      simp only [decode, noEscape]

theorem escapes_cons {byte : UInt8} {rest : Bytes}
    (noEscape : escapeAt (byte :: rest) = none) :
    escapes (byte :: rest) = escapes rest := by
  match rest, noEscape with
  | [], _ => rfl
  | [last], _ => rfl
  | high :: low :: rest, noEscape =>
      simp only [escapeAt] at noEscape
      simp only [escapes, noEscape]

end Equations

/-- A text is read from the left: it is empty, it starts with an escape, or its
first byte stands for itself. -/
theorem reading {motive : Bytes → Prop} (nil : motive [])
    (escape : ∀ byte high low value rest, escaped byte high low = some value →
      motive rest → motive (byte :: high :: low :: rest))
    (plain : ∀ byte rest, escapeAt (byte :: rest) = none → motive rest →
      motive (byte :: rest)) (text : Bytes) : motive text := by
  fun_induction decode text with
  | case1 byte high low rest value isEscape ih => exact escape _ _ _ _ _ isEscape ih
  | case2 byte high low rest noEscape ih => exact plain _ _ noEscape ih
  | case3 byte last => exact plain _ _ rfl (plain _ _ rfl nil)
  | case4 byte => exact plain _ _ rfl nil
  | case5 => exact nil

theorem escaped_eq_some {byte high low value : UInt8}
    (isEscape : escaped byte high low = some value) :
    byte = percentSign ∧ isHexDigit high = true ∧ isHexDigit low = true := by
  simp only [escaped] at isEscape
  split at isEscape
  next sign =>
      split at isEscape
      next highValue lowValue => simp_all [isHexDigit]
      next => cases isEscape
  next => cases isEscape

/-- Decoding takes two bytes away for each escape. -/
theorem length_decode (text : Bytes) :
    (decode text).length + 2 * escapes text = text.length := by
  induction text using reading with
  | nil => rfl
  | escape byte high low value rest isEscape ih =>
      rw [decode_escape rest isEscape, escapes_escape rest isEscape]
      simp only [List.length_cons]
      omega
  | plain byte rest noEscape ih =>
      rw [decode_cons noEscape, escapes_cons noEscape]
      simp only [List.length_cons]
      omega

/-- A text without the sign has no escapes. -/
theorem escapes_eq_zero {text : Bytes} (noSign : percentSign ∉ text) : escapes text = 0 := by
  fun_induction escapes text with
  | case1 byte high low rest value isEscape ih =>
      have notSign : byte ≠ percentSign := fun same => noSign (same ▸ .head _)
      rw [escaped, if_neg notSign] at isEscape
      cases isEscape
  | case2 byte high low rest noEscape ih => exact ih fun isByte => noSign (.tail _ isByte)
  | case3 => rfl

theorem length_decode_le (text : Bytes) : (decode text).length ≤ text.length := by
  have := length_decode text
  omega

/-- A text without escapes is its own decoding. -/
theorem decode_eq_self {text : Bytes} (noEscapes : escapes text = 0) :
    decode text = text := by
  induction text using reading with
  | nil => rfl
  | escape byte high low value rest isEscape ih =>
      rw [escapes_escape rest isEscape] at noEscapes
      omega
  | plain byte rest noEscape ih =>
      rw [escapes_cons noEscape] at noEscapes
      rw [decode_cons noEscape, ih noEscapes]

theorem decode_ne_nil {text : Bytes} (notEmpty : text ≠ []) : decode text ≠ [] := by
  induction text using reading with
  | nil => exact absurd rfl notEmpty
  | escape byte high low value rest isEscape ih => simp [decode_escape rest isEscape]
  | plain byte rest noEscape ih => simp [decode_cons noEscape]

/-- A second text stays apart from a first one when no escape can run from the
first into it. -/
def Apart (text : Bytes) : Prop := ∀ byte ∈ text.head?, isHexDigit byte = false

@[simp] theorem apart_nil : Apart [] := by simp [Apart]

theorem escapeAt_append {byte : UInt8} {rest second : Bytes} (apart : Apart second)
    (noEscape : escapeAt (byte :: rest) = none) :
    escapeAt (byte :: (rest ++ second)) = none := by
  by_contra someEscape
  obtain ⟨value, isEscape⟩ := Option.ne_none_iff_exists'.mp someEscape
  match rest, second, apart with
  | high :: low :: rest, second, _ => exact someEscape noEscape
  | [high], first :: second, apart =>
      have digits := escaped_eq_some isEscape
      simp [apart first (by simp)] at digits
  | [], first :: [], _ => cases isEscape
  | [high], [], _ => cases isEscape
  | [], [], _ => cases isEscape
  | [], first :: low :: second, apart =>
      have digits := escaped_eq_some isEscape
      simp [apart first (by simp)] at digits

theorem decode_append (first : Bytes) {second : Bytes} (apart : Apart second) :
    decode (first ++ second) = decode first ++ decode second := by
  induction first using reading with
  | nil => rfl
  | escape byte high low value rest isEscape ih =>
      rw [decode_escape rest isEscape]
      exact (decode_escape (rest ++ second) isEscape).trans (congrArg _ ih)
  | plain byte rest noEscape ih =>
      rw [decode_cons noEscape]
      exact (decode_cons (escapeAt_append apart noEscape)).trans (congrArg _ ih)

theorem escapes_le_append (first second : Bytes) :
    escapes first ≤ escapes (first ++ second) := by
  induction first using reading with
  | nil => simp
  | escape byte high low value rest isEscape ih =>
      have := escapes_escape (rest ++ second) isEscape
      simp only [List.cons_append] at this ⊢
      rw [this, escapes_escape rest isEscape]
      omega
  | plain byte rest noEscape ih =>
      rw [escapes_cons noEscape]
      cases joined : escapeAt (byte :: (rest ++ second)) with
      | none => rwa [List.cons_append, escapes_cons joined]
      | some value =>
          -- The escape runs into the second text, so the first one is too short for any.
          match rest, noEscape with
          | [], _ => simp
          | [last], _ => exact Nat.zero_le _
          | high :: low :: rest, noEscape => cases noEscape.symm.trans joined

section Encode

variable {set : UInt8 → Bool}

theorem hexDigits_of_byte (byte : UInt8) :
    hexValue (hexDigit (byte / 16)) = some (byte / 16) ∧
      hexValue (hexDigit (byte % 16)) = some (byte % 16) ∧
      16 * (byte / 16) + byte % 16 = byte := by
  have allDigits : ∀ number : Fin 256,
      hexValue (hexDigit (UInt8.ofFin number / 16)) = some (UInt8.ofFin number / 16) ∧
        hexValue (hexDigit (UInt8.ofFin number % 16)) = some (UInt8.ofFin number % 16) ∧
        16 * (UInt8.ofFin number / 16) + UInt8.ofFin number % 16 = UInt8.ofFin number := by
    decide +kernel
  exact allDigits byte.toFin

theorem decode_encode_byte (byte : UInt8) (rest : Bytes) :
    decode (percentSign :: hexDigit (byte / 16) :: hexDigit (byte % 16) :: rest) =
      byte :: decode rest := by
  obtain ⟨high, low, value⟩ := hexDigits_of_byte byte
  have isEscape : escaped percentSign (hexDigit (byte / 16)) (hexDigit (byte % 16)) =
      some byte := by
    simp only [escaped, high, low, ↓reduceIte, value]
  exact decode_escape rest isEscape

/-- A set that holds the percent sign is written so that decoding gives the
text back. -/
theorem decode_encode_of_sign (holdsSign : set percentSign = true) (text : Bytes) :
    decode (encode set text) = text := by
  induction text with
  | nil => rfl
  | cons byte rest ih =>
      cases inSet : set byte with
      | true => rw [encode_cons_of_mem rest inSet, decode_encode_byte, ih]
      | false =>
          have notSign : byte ≠ percentSign := by
            rintro rfl
            simp [inSet] at holdsSign
          have noEscape : escapeAt (byte :: encode set rest) = none := by
            match encode set rest with
            | [] => rfl
            | [last] => rfl
            | high :: low :: _ => simp [escapeAt, escaped, notSign]
          rw [encode_cons_of_not_mem rest inSet, decode_cons noEscape, ih]

/-- What a set leaves alone when escapes in the text are meant to stay escapes. -/
def KeepsEscapes (set : UInt8 → Bool) : Prop :=
  set percentSign = false ∧ ∀ byte, isHexDigit byte = true → set byte = false

theorem head_encode_hexDigit {byte digit : UInt8} {rest : Bytes} (others : Bytes)
    (starts : encode set (byte :: others) = digit :: rest)
    (isDigit : isHexDigit digit = true) :
    byte = digit ∧ encode set others = rest := by
  cases inSet : set byte with
  | true =>
      rw [encode_cons_of_mem others inSet] at starts
      cases starts
      exact absurd isDigit (by decide)
  | false =>
      rw [encode_cons_of_not_mem others inSet] at starts
      cases starts
      exact ⟨rfl, rfl⟩

/-- Encoding makes no escape out of a percent sign that had no digits. -/
theorem escapeAt_encode {rest : Bytes} (noEscape : escapeAt (percentSign :: rest) = none) :
    escapeAt (percentSign :: encode set rest) = none := by
  by_contra someEscape
  obtain ⟨value, isEscape⟩ := Option.ne_none_iff_exists'.mp someEscape
  match written : encode set rest, isEscape with
  | [], isEscape => cases isEscape
  | [last], isEscape => cases isEscape
  | high :: low :: others, isEscape =>
      obtain ⟨-, highDigit, lowDigit⟩ := escaped_eq_some isEscape
      match rest, noEscape with
      | [], _ => simp at written
      | [first], _ =>
          have := (head_encode_hexDigit [] written highDigit).2
          simp at this
      | first :: second :: rest, noEscape =>
          obtain ⟨rfl, after⟩ := head_encode_hexDigit (second :: rest) written highDigit
          obtain ⟨rfl, -⟩ := head_encode_hexDigit rest after lowDigit
          cases noEscape.symm.trans isEscape

/-- Encoding and then decoding is decoding: what the set escapes comes back, and
the escapes of the text itself are read. -/
theorem decode_encode (keeps : KeepsEscapes set) (text : Bytes) :
    decode (encode set text) = decode text := by
  induction text using reading with
  | nil => rfl
  | escape byte high low value rest isEscape ih =>
      obtain ⟨rfl, highDigit, lowDigit⟩ := escaped_eq_some isEscape
      rw [encode_cons_of_not_mem _ keeps.1, encode_cons_of_not_mem _ (keeps.2 _ highDigit),
        encode_cons_of_not_mem _ (keeps.2 _ lowDigit), decode_escape _ isEscape,
        decode_escape _ isEscape, ih]
  | plain byte rest noEscape ih =>
      rw [decode_cons noEscape]
      cases inSet : set byte with
      | true => rw [encode_cons_of_mem rest inSet, decode_encode_byte, ih]
      | false =>
          rw [encode_cons_of_not_mem rest inSet]
          have stillNone : escapeAt (byte :: encode set rest) = none := by
            by_cases sign : byte = percentSign
            · subst sign
              exact escapeAt_encode noEscape
            · match encode set rest with
              | [] => rfl
              | [last] => rfl
              | high :: low :: _ => simp [escapeAt, escaped, sign]
          rw [decode_cons stillNone, ih]

theorem mem_encode {byte : UInt8} {text : Bytes} (written : byte ∈ encode set text) :
    byte = percentSign ∨ isHexDigit byte = true ∨ (byte ∈ text ∧ set byte = false) := by
  simp only [encode, List.mem_flatMap] at written
  rcases written with ⟨source, inText, written⟩
  cases inSet : set source with
  | true =>
      obtain ⟨high, low, -⟩ := hexDigits_of_byte source
      simp only [inSet, ↓reduceIte, List.mem_cons, List.not_mem_nil, or_false] at written
      rcases written with rfl | rfl | rfl
      · exact .inl rfl
      · exact .inr (.inl (by simp [isHexDigit, high]))
      · exact .inr (.inl (by simp [isHexDigit, low]))
  | false =>
      simp only [inSet, Bool.false_eq_true, ↓reduceIte, List.mem_singleton] at written
      exact .inr (.inr (written ▸ ⟨inText, inSet⟩))

end Encode

end Percent

end SqlxTurso.Library
