import SqlxTurso.Library.Url

/-!
# A URL library

The URL standard carried out for the authorities that are host names: credentials,
ports and addresses are refused.  It follows the rules, so results that assume
them can be applied.
-/

namespace SqlxTurso.Library

open Percent

namespace PlainUrls

def equalsSign : UInt8 := 61
def plusSign : UInt8 := 43
def space : UInt8 := 32

/-- Control characters, and everything outside ASCII. -/
def controlSet (byte : UInt8) : Bool := byte < 32 || 126 < byte

def fragmentSet (byte : UInt8) : Bool := controlSet byte || [32, 34, 60, 62, 96].contains byte

def querySet (byte : UInt8) : Bool := controlSet byte || [32, 34, 35, 60, 62].contains byte

def pathSet (byte : UInt8) : Bool := querySet byte || [63, 94, 96, 123, 125].contains byte

/-- Everything but letters, digits and four marks; spaces are written as plus
signs instead. -/
def formSet (byte : UInt8) : Bool :=
  !((48 ≤ byte && byte ≤ 57) || (65 ≤ byte && byte ≤ 90) || (97 ≤ byte && byte ≤ 122) ||
    [42, 45, 46, 95, 32].contains byte)

def writeForm (text : Bytes) : Bytes :=
  (encode formSet text).map fun byte => if byte = space then plusSign else byte

def readForm (text : Bytes) : Bytes :=
  decode (text.map fun byte => if byte = plusSign then space else byte)

def writePair (key value : String) : Bytes :=
  writeForm (utf8 key) ++ equalsSign :: writeForm (utf8 value)

def readPair (piece : Bytes) : String × String :=
  ((decodeUtf8 (readForm (piece.takeWhile (· != equalsSign)))).getD "",
    (decodeUtf8 (readForm ((piece.dropWhile (· != equalsSign)).drop 1))).getD "")

def parsePairs (text : Bytes) : List (String × String) :=
  ((text.splitOn ampersand).filter (· ≠ [])).map readPair

def writeAuthority (host : Bytes) : Option Bytes :=
  if host.all isHostByte then some (encode controlSet host) else none

/-- The library, for URLs of one scheme. -/
def crate (scheme : Bytes) : UrlCrate :=
  let parts : UrlCrate :=
    { parse := fun _ => none
      setPath := fun url path => { url with path := writePath pathSet (withoutIgnored path) }
      appendPair := fun url key value =>
        { url with query := some (UrlCrate.joinPair url.query (writePair key value)) }
      parsePairs, writeAuthority, writePair, pathSet
      percentDecode := decode
      writeQuery := encode querySet
      writeFragment := encode fragmentSet
      hostSet := controlSet }
  { parts with
    parse := fun text => (text.dropPrefix? (scheme ++ schemeEnd)).bind (parts.parseParts scheme) }

section Pairs

theorem mem_writeForm {byte : UInt8} {text : Bytes} (written : byte ∈ writeForm text) :
    byte = plusSign ∨ byte = percentSign ∨ isHexDigit byte = true ∨ formSet byte = false := by
  obtain ⟨source, isSource, rfl⟩ := List.mem_map.mp written
  split
  · exact .inl rfl
  · rcases mem_encode isSource with sign | digit | ⟨-, outside⟩
    · exact .inr (.inl sign)
    · exact .inr (.inr (.inl digit))
    · exact .inr (.inr (.inr outside))

theorem not_mem_writeForm {byte : UInt8} (text : Bytes)
    (mark : byte = ampersand ∨ byte = equalsSign) : byte ∉ writeForm text := by
  intro written
  have apart : byte ≠ plusSign ∧ byte ≠ percentSign ∧ isHexDigit byte = false ∧
      formSet byte = true := by
    rcases mark with rfl | rfl <;> decide
  rcases apart with ⟨notPlus, notSign, notDigit, inSet⟩
  rcases mem_writeForm written with plus | sign | digit | outside
  · exact notPlus plus
  · exact notSign sign
  · simp [notDigit] at digit
  · simp [inSet] at outside

/-- A text is read back: no plus sign is left for the space but the one that
stands for it. -/
theorem readForm_writeForm (text : Bytes) : readForm (writeForm text) = text := by
  have same : (writeForm text).map (fun byte => if byte = plusSign then space else byte) =
      encode formSet text := by
    rw [writeForm, List.map_map]
    conv_rhs => rw [← List.map_id (encode formSet text)]
    refine List.map_congr_left fun byte isByte => ?_
    by_cases isSpace : byte = space
    · subst isSpace
      rfl
    · have notPlus : byte ≠ plusSign := by
        rintro rfl
        rcases mem_encode isByte with sign | digit | ⟨-, outside⟩
        · exact absurd sign (by decide)
        · exact absurd digit (by decide)
        · exact absurd outside (by decide)
      simp [isSpace, notPlus]
  rw [readForm, same, decode_encode_of_sign (by decide)]

theorem readPair_writePair (key value : String) :
    readPair (writePair key value) = (key, value) := by
  have keep : ∀ byte ∈ writeForm (utf8 key), (byte != equalsSign) = true := by
    intro byte isByte
    rw [bne_iff_ne]
    rintro rfl
    exact not_mem_writeForm _ (.inr rfl) isByte
  have first : (writePair key value).takeWhile (· != equalsSign) = writeForm (utf8 key) := by
    rw [writePair, List.takeWhile_append_of_pos keep]
    simp
  have second : ((writePair key value).dropWhile (· != equalsSign)).drop 1 =
      writeForm (utf8 value) := by
    rw [writePair, List.dropWhile_append_of_pos keep]
    simp
  simp only [readPair, first, second, readForm_writeForm, decodeUtf8_utf8, Option.getD_some]

theorem writePair_ne_nil (key value : String) : writePair key value ≠ [] := by
  simp [writePair]

theorem ampersand_not_mem_writePair (key value : String) : ampersand ∉ writePair key value := by
  rw [writePair, List.mem_append, List.mem_cons]
  rintro (inKey | isEquals | inValue)
  · exact not_mem_writeForm _ (.inl rfl) inKey
  · exact absurd isEquals (by decide)
  · exact not_mem_writeForm _ (.inl rfl) inValue

/-- Pairs are found again between the ampersands. -/
theorem parsePairs_intercalate (pairs : List (String × String)) :
    parsePairs ([ampersand].intercalate (pairs.map fun pair => writePair pair.1 pair.2)) =
      pairs := by
  match pairs with
  | [] => rfl
  | pair :: pairs =>
      have split : ([ampersand].intercalate ((pair :: pairs).map fun pair =>
          writePair pair.1 pair.2)).splitOn ampersand =
            (pair :: pairs).map fun pair => writePair pair.1 pair.2 := by
        refine List.splitOn_intercalate ampersand ?_ (by simp)
        intro piece isPiece
        obtain ⟨other, -, rfl⟩ := List.mem_map.mp isPiece
        exact ampersand_not_mem_writePair _ _
      have filled : ((pair :: pairs).map fun pair => writePair pair.1 pair.2).filter (· ≠ []) =
          (pair :: pairs).map fun pair => writePair pair.1 pair.2 := by
        rw [List.filter_eq_self]
        intro piece isPiece
        obtain ⟨other, -, rfl⟩ := List.mem_map.mp isPiece
        simpa using writePair_ne_nil other.1 other.2
      rw [parsePairs, split, filled, List.map_map]
      exact (List.map_congr_left fun other _ => readPair_writePair other.1 other.2).trans
        (List.map_id _)

end Pairs

section Authority

theorem keepsEscapes_of {set : UInt8 → Bool} (sign : set percentSign = false)
    (digits : ∀ number : Fin 256, isHexDigit (UInt8.ofFin number) = true →
      set (UInt8.ofFin number) = false) : KeepsEscapes set :=
  ⟨sign, fun byte isDigit => digits byte.toFin isDigit⟩

theorem controlSet_keeps : KeepsEscapes controlSet :=
  keepsEscapes_of (by decide) (by decide +kernel)

theorem pathSet_keeps : KeepsEscapes pathSet :=
  keepsEscapes_of (by decide) (by decide +kernel)

theorem not_separator_of_hostByte {byte : UInt8} (isHost : isHostByte byte = true) :
    isSeparator byte = false := by
  rw [isHostByte, Bool.not_eq_true', Bool.or_eq_false_iff, Bool.or_eq_false_iff,
    Bool.or_eq_false_iff] at isHost
  exact isHost.1.1.1

theorem not_separator_of_hexDigit {byte : UInt8} (isDigit : isHexDigit byte = true) :
    isSeparator byte = false := by
  rw [Bool.eq_false_iff]
  intro separator
  simp only [isSeparator, Bool.or_eq_true, beq_iff_eq] at separator
  rcases separator with (rfl | rfl) | rfl
  all_goals exact absurd isDigit (by decide)

theorem writeAuthority_eq_some {host written : Bytes}
    (accepted : writeAuthority host = some written) :
    (∀ byte ∈ host, isHostByte byte = true) ∧ written = encode controlSet host := by
  rw [writeAuthority] at accepted
  split at accepted
  next allHost =>
      exact ⟨List.all_eq_true.mp allHost, (Option.some.inj accepted).symm⟩
  next => cases accepted

/-- Each separator that decoding brings in takes an escape. -/
theorem countP_decode_le (text : Bytes) :
    (decode text).countP isSeparator ≤ escapes text + text.countP isSeparator := by
  induction text using reading with
  | nil => simp
  | escape byte high low value rest isEscape ih =>
      rw [decode_escape rest isEscape, escapes_escape rest isEscape, List.countP_cons,
        List.countP_cons, List.countP_cons, List.countP_cons]
      split <;> omega
  | plain byte rest noEscape ih =>
      rw [decode_cons noEscape, escapes_cons noEscape, List.countP_cons, List.countP_cons]
      omega

theorem countP_host {host : Bytes} (hostBytes : ∀ byte ∈ host, isHostByte byte = true) :
    host.countP isSeparator = 0 := by
  rw [List.countP_eq_zero]
  intro byte isByte
  simp [not_separator_of_hostByte (hostBytes byte isByte)]

end Authority

/-- The library follows the standard. -/
theorem standard (scheme : Bytes) : (crate scheme).Standard scheme where
  parse_eq text := by
    have dropped : (scheme ++ schemeEnd ++ text).dropPrefix? (scheme ++ schemeEnd) =
        some text := by
      rw [List.dropPrefix?_eq_some_iff]
      exact ⟨_, rfl, by simp⟩
    simp only [crate, dropped, Option.bind_some]
    rfl
  setPath_eq _ _ _ := rfl
  appendPair_eq _ _ _ := rfl
  writePair_ne_nil := writePair_ne_nil
  parsePairs_eq := parsePairs_intercalate
  percentDecode_eq := rfl
  hostSet_keeps := controlSet_keeps
  pathSet_keeps := pathSet_keeps
  pathSet_slash := (by decide : pathSet slash = false)
  pathSet_question := (by decide : pathSet question = true)
  authority_nil := rfl
  authority_ne_nil host written := by
    match host, writeAuthority_eq_some written with
    | [], _ => rfl
    | byte :: rest, ⟨_, empty⟩ =>
        cases inSet : controlSet byte with
        | true => simp [encode_cons_of_mem rest inSet] at empty
        | false => simp [encode_cons_of_not_mem rest inSet] at empty
  authority_colon host _ := by
    simp only [crate, writeAuthority, List.all_cons]
    rfl
  authority_name host _ hostBytes := if_pos (List.all_eq_true.mpr hostBytes)
  authority_refused host _ forbidden := by
    rcases forbidden with ⟨byte, isByte, notHost⟩
    refine if_neg fun allHost => ?_
    have isHost := List.all_eq_true.mp allHost byte isByte
    simp [notHost] at isHost
  authority_separator host written accepted byte isByte := by
    obtain ⟨hostBytes, rfl⟩ := writeAuthority_eq_some accepted
    rcases mem_encode isByte with rfl | digit | ⟨inHost, -⟩
    · decide
    · exact not_separator_of_hexDigit digit
    · exact not_separator_of_hostByte (hostBytes byte inHost)
  authority_separators host written accepted := by
    obtain ⟨hostBytes, rfl⟩ := writeAuthority_eq_some accepted
    have counted := countP_decode_le host
    rw [countP_host hostBytes] at counted
    rw [decode_encode controlSet_keeps]
    exact counted
  authority_escapes host written accepted someEscape := by
    obtain ⟨hostBytes, rfl⟩ := writeAuthority_eq_some accepted
    have counted := length_decode host
    rw [decode_encode controlSet_keeps]
    omega

end PlainUrls

end SqlxTurso.Library
