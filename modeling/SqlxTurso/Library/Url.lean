import Mathlib.Algebra.GroupWithZero.Nat
import Mathlib.Data.List.DropRight
import SqlxTurso.Library.Percent

/-!
# URLs with an authority

A URL of a scheme that is not special, as the URL standard reads and writes it.
The parser trims its input, drops tabs and line breaks, and cuts what follows
the two slashes at the next separator into authority, path, query and fragment.
A path is written without its dot segments and with a set of bytes escaped.

How credentials, ports and addresses in an authority are written stays open; the
rules at the end say what of it is relied on.
-/

namespace SqlxTurso.Library

open Percent

def slash : UInt8 := 47
def question : UInt8 := 63
def hash : UInt8 := 35
def colon : UInt8 := 58
def atSign : UInt8 := 64
def dot : UInt8 := 46
def ampersand : UInt8 := 38

/-- The bytes of a text. -/
def utf8 (text : String) : Bytes := text.toUTF8.data.toList

/-- The text of a list of bytes, if it is one. -/
def decodeUtf8 (bytes : Bytes) : Option String := String.fromUTF8? ⟨bytes.toArray⟩

theorem utf8_injective {first second : String} (same : utf8 first = utf8 second) :
    first = second := by
  rw [← String.toByteArray_inj]
  exact ByteArray.ext (Array.toList_inj.mp same)

@[simp] theorem decodeUtf8_utf8 (text : String) : decodeUtf8 (utf8 text) = some text := by
  have bytes : (⟨(utf8 text).toArray⟩ : ByteArray) = text.toByteArray := rfl
  rw [decodeUtf8, bytes, String.fromUTF8?, dif_pos text.isValidUTF8]
  rfl

theorem utf8_of_decodeUtf8 {bytes : Bytes} {text : String}
    (decoded : decodeUtf8 bytes = some text) : utf8 text = bytes := by
  simp only [decodeUtf8, String.fromUTF8?, Option.dite_none_right_eq_some,
    Option.some.injEq] at decoded
  rcases decoded with ⟨valid, rfl⟩
  simp [utf8, String.fromUTF8]

structure Url where
  scheme : Bytes
  authority : Bytes
  path : Bytes
  query : Option Bytes
  fragment : Option Bytes
  deriving DecidableEq

/-- The bytes between the scheme and the authority. -/
def schemeEnd : Bytes := [colon, slash, slash]

namespace Url

/-- What stands after the question mark of a URL with a query. -/
def queryText (url : Url) (query : Bytes) : Bytes :=
  query ++ (url.fragment.map (hash :: ·)).getD []

def asStr (url : Url) : Bytes :=
  url.scheme ++ schemeEnd ++ (url.authority ++ url.path ++
    match url.query with
    | some query => question :: url.queryText query
    | none => url.queryText [])

end Url

section Cutting

def isSeparator (byte : UInt8) : Bool := byte == slash || byte == question || byte == hash

/-- The separators that end a path. -/
def endsPath (byte : UInt8) : Bool := byte == question || byte == hash

/-- Tabs and line breaks are dropped wherever they stand. -/
def isIgnored (byte : UInt8) : Bool := byte == 9 || byte == 10 || byte == 13

/-- Control characters and spaces are dropped at the end. -/
def isBlank (byte : UInt8) : Bool := byte ≤ 32

def withoutIgnored (text : Bytes) : Bytes := text.filter (!isIgnored ·)

/-- What the parser sees of a text at the end of its input. -/
def received (text : Bytes) : Bytes := withoutIgnored (text.rdropWhile isBlank)

/-- The part of a text before its first separator, and the part from there on. -/
def firstSegment (text : Bytes) : Bytes := text.takeWhile (!isSeparator ·)

def afterSegment (text : Bytes) : Bytes := text.dropWhile (!isSeparator ·)

/-- The parts of the text after the two slashes, as they were given. -/
structure Parts where
  host : Bytes
  path : Bytes
  query : Option Bytes
  fragment : Option Bytes

/-- Cut at the separators: the path ends at a question mark or a hash, the query
at a hash. -/
def cut (text : Bytes) : Parts :=
  let path := (afterSegment text).takeWhile (!endsPath ·)
  match (afterSegment text).dropWhile (!endsPath ·) with
  | [] => ⟨firstSegment text, path, none, none⟩
  | separator :: tail =>
      if separator == hash then ⟨firstSegment text, path, none, some tail⟩
      else
        ⟨firstSegment text, path, some (tail.takeWhile (· != hash)),
          match tail.dropWhile (· != hash) with
          | [] => none
          | _ :: fragment => some fragment⟩

theorem firstSegment_append_afterSegment (text : Bytes) :
    firstSegment text ++ afterSegment text = text := List.takeWhile_append_dropWhile

theorem mem_firstSegment {byte : UInt8} {text : Bytes} (inFirst : byte ∈ firstSegment text) :
    isSeparator byte = false := by
  have := List.mem_takeWhile_imp inFirst
  simpa using this

/-- A text without separators, followed by nothing or by a separator, is the
first segment. -/
theorem firstSegment_append {first rest : Bytes}
    (noSeparator : ∀ byte ∈ first, isSeparator byte = false)
    (starts : ∀ byte ∈ rest.head?, isSeparator byte = true) :
    firstSegment (first ++ rest) = first ∧ afterSegment (first ++ rest) = rest := by
  have keep : ∀ byte ∈ first, (!isSeparator byte) = true := by simpa using noSeparator
  rw [firstSegment, afterSegment, List.takeWhile_append_of_pos keep,
    List.dropWhile_append_of_pos keep]
  cases rest with
  | nil => simp
  | cons byte rest => simp [starts byte rfl]

theorem head_afterSegment (text : Bytes) :
    ∀ byte ∈ (afterSegment text).head?, isSeparator byte = true := by
  intro byte isHead
  have := List.head?_dropWhile_not (fun byte => !isSeparator byte) text
  simp only [afterSegment] at isHead
  simp_all

@[simp] theorem cut_host (text : Bytes) : (cut text).host = firstSegment text := by
  simp only [cut]
  split
  · rfl
  · split <;> rfl

@[simp] theorem cut_path (text : Bytes) :
    (cut text).path = (afterSegment text).takeWhile (!endsPath ·) := by
  simp only [cut]
  split
  · rfl
  · split <;> rfl

theorem length_parts_le (text : Bytes) :
    (cut text).host.length + (cut text).path.length ≤ text.length := by
  have whole := congrArg List.length (firstSegment_append_afterSegment text)
  have part : ((afterSegment text).takeWhile (!endsPath ·)).length ≤ _ :=
    (List.takeWhile_sublist _).length_le
  rw [List.length_append] at whole
  rw [cut_host, cut_path]
  omega

/-- A text whose path has no end has neither query nor fragment. -/
theorem cut_of_noEnd {text : Bytes} (noEnd : ∀ byte ∈ afterSegment text, endsPath byte = false) :
    cut text = ⟨firstSegment text, afterSegment text, none, none⟩ := by
  have keep : ∀ byte ∈ afterSegment text, (!endsPath byte) = true := by simpa using noEnd
  have whole := List.takeWhile_eq_self_iff.mpr keep
  have nothing := List.dropWhile_eq_nil_iff.mpr keep
  simp only [cut, whole, nothing]

/-- A path that is not empty starts with a slash. -/
theorem head_cut_path (text : Bytes) : ∀ byte ∈ (cut text).path.head?, byte = slash := by
  intro byte isHead
  rw [cut_path] at isHead
  match rest : afterSegment text with
  | [] => simp [rest] at isHead
  | first :: others =>
      have separator := head_afterSegment text first (by simp [rest])
      cases ends : endsPath first with
      | true => simp [rest, ends] at isHead
      | false =>
          simp only [rest, List.takeWhile_cons, ends, Bool.not_false, ↓reduceIte,
            List.head?_cons, Option.mem_some_iff] at isHead
          subst isHead
          simp only [endsPath, Bool.or_eq_false_iff] at ends
          simpa [isSeparator, ends] using separator

theorem length_received_le (text : Bytes) : (received text).length ≤ text.length :=
  (List.length_filter_le _ _).trans (List.rdropWhile_prefix _ _).length_le

theorem received_sublist (text : Bytes) : (received text).Sublist text :=
  List.filter_sublist.trans (List.rdropWhile_prefix _ _).sublist

/-- The trimming of a text ends at a byte that is no blank. -/
theorem received_append (first : Bytes) {byte : UInt8} (rest : Bytes)
    (notBlank : isBlank byte = false) :
    received (first ++ byte :: rest) = withoutIgnored first ++ received (byte :: rest) := by
  have stops : (List.dropWhile isBlank (byte :: rest).reverse).isEmpty = false := by
    rw [List.isEmpty_eq_false_iff]
    intro empty
    have := List.dropWhile_eq_nil_iff.mp empty byte (by simp)
    simp [notBlank] at this
  simp only [received, withoutIgnored, List.rdropWhile, List.reverse_append,
    List.dropWhile_append, stops, Bool.false_eq_true, ↓reduceIte, List.reverse_reverse,
    List.filter_append]

end Cutting

section Paths

/-- The escape of a dot, in lower case. -/
def escapedDot : Bytes := [percentSign, 50, 101]

def lowerCase (byte : UInt8) : UInt8 := if 65 ≤ byte ∧ byte ≤ 90 then byte + 32 else byte

def isSingleDot (segment : Bytes) : Bool :=
  [[dot], escapedDot].contains (segment.map lowerCase)

def isDoubleDot (segment : Bytes) : Bool :=
  [[dot, dot], dot :: escapedDot, escapedDot ++ [dot], escapedDot ++ escapedDot].contains
    (segment.map lowerCase)

def isDotSegment (segment : Bytes) : Bool := isSingleDot segment || isDoubleDot segment

/-- The segments of a path, after its first slash. -/
def segments (path : Bytes) : List Bytes := (path.drop 1).splitOn slash

/-- Each segment stands after a slash. -/
def joinSegments (parts : List Bytes) : Bytes := parts.flatMap (slash :: ·)

/-- Dot segments are resolved from left to right; at the end they leave an empty
segment. -/
def resolveSegments (done : List Bytes) : List Bytes → List Bytes
  | [] => done
  | [last] =>
      if isDoubleDot last then done.dropLast ++ [[]]
      else if isSingleDot last then done ++ [[]]
      else done ++ [last]
  | segment :: next :: rest =>
      if isDoubleDot segment then resolveSegments done.dropLast (next :: rest)
      else if isSingleDot segment then resolveSegments done (next :: rest)
      else resolveSegments (done ++ [segment]) (next :: rest)

def writePath (set : UInt8 → Bool) (path : Bytes) : Bytes :=
  joinSegments ((resolveSegments [] (segments path)).map (encode set))

/-- Does a segment of the path stand for its own or for the parent directory? -/
def hasDotSegment (path : Bytes) : Bool := (segments path).any isDotSegment

theorem joinSegments_eq {parts : List Bytes} (notEmpty : parts ≠ []) :
    joinSegments parts = slash :: [slash].intercalate parts := by
  induction parts with
  | nil => exact absurd rfl notEmpty
  | cons part parts ih =>
      cases parts with
      | nil => simp [joinSegments, List.intercalate]
      | cons next parts =>
          rw [List.intercalate_cons_cons, joinSegments, List.flatMap_cons]
          have := ih (by simp)
          rw [joinSegments] at this
          rw [this]
          simp

theorem joinSegments_segments {path : Bytes} (rooted : path.head? = some slash) :
    joinSegments (segments path) = path := by
  cases path with
  | nil => cases rooted
  | cons byte rest =>
      cases rooted
      rw [segments, joinSegments_eq (List.splitOn_ne_nil _ _), List.drop_one, List.tail_cons,
        List.intercalate_splitOn]

theorem encode_joinSegments {set : UInt8 → Bool} (keepsSlash : set slash = false)
    (parts : List Bytes) :
    joinSegments (parts.map (encode set)) = encode set (joinSegments parts) := by
  induction parts with
  | nil => rfl
  | cons part parts ih =>
      simp only [joinSegments, List.map_cons, List.flatMap_cons] at ih ⊢
      rw [ih, List.cons_append, List.cons_append, encode_cons_of_not_mem _ keepsSlash,
        encode_append]

/-- The length of a path that is read back, told from its segments. -/
def decodedLength (parts : List Bytes) : Nat :=
  (parts.map fun part => (decode part).length + 1).sum

@[simp] theorem decodedLength_append (first second : List Bytes) :
    decodedLength (first ++ second) = decodedLength first + decodedLength second := by
  simp [decodedLength]

@[simp] theorem decodedLength_cons (part : Bytes) (parts : List Bytes) :
    decodedLength (part :: parts) = (decode part).length + 1 + decodedLength parts := by
  simp [decodedLength]

@[simp] theorem decodedLength_nil : decodedLength [] = 0 := rfl

theorem decodedLength_dropLast_le (parts : List Bytes) :
    decodedLength parts.dropLast ≤ decodedLength parts := by
  induction parts with
  | nil => simp
  | cons part parts ih =>
      cases parts with
      | nil => simp
      | cons next parts =>
          rw [List.dropLast_cons_cons, decodedLength_cons, decodedLength_cons]
          omega

theorem apart_slash (rest : Bytes) : Apart (slash :: rest) := by
  simp only [Apart, List.head?_cons, Option.mem_some_iff, forall_eq']
  decide

theorem apart_joinSegments (parts : List Bytes) : Apart (joinSegments parts) := by
  cases parts with
  | nil => simp [joinSegments]
  | cons part parts => exact apart_slash _

theorem escapeAt_slash (rest : Bytes) : escapeAt (slash :: rest) = none := by
  match rest with
  | [] => rfl
  | [last] => rfl
  | high :: low :: _ => simp [escapeAt, escaped, slash, percentSign]

theorem length_decode_joinSegments (parts : List Bytes) :
    (decode (joinSegments parts)).length = decodedLength parts := by
  induction parts with
  | nil => rfl
  | cons part parts ih =>
      have split : joinSegments (part :: parts) = slash :: (part ++ joinSegments parts) := by
        simp [joinSegments]
      rw [split, decode_cons (escapeAt_slash _), decode_append part (apart_joinSegments parts),
        List.length_cons, List.length_append, ih, decodedLength_cons]
      omega

theorem length_decode_dotSegment {segment : Bytes} (isDot : isDotSegment segment = true) :
    0 < (decode segment).length := by
  refine List.length_pos_iff.mpr (decode_ne_nil ?_)
  rintro rfl
  exact absurd isDot (by decide)

/-- Resolving dot segments makes a path shorter, and leaves one without them
alone. -/
theorem decodedLength_resolveSegments (done parts : List Bytes) :
    decodedLength (resolveSegments done parts) +
        (if parts.any isDotSegment then 1 else 0) ≤
      decodedLength done + decodedLength parts := by
  fun_induction resolveSegments done parts with
  | case1 done => simp
  | case2 done last isDouble =>
      have filled : 0 < (decode last).length :=
        length_decode_dotSegment (by simp [isDotSegment, isDouble])
      have := decodedLength_dropLast_le done
      simp only [decodedLength_append, decodedLength_cons, decode_nil, List.length_nil,
        decodedLength_nil, List.any_cons, isDotSegment, isDouble, Bool.or_true,
        Bool.true_or, ↓reduceIte]
      omega
  | case3 done last notDouble isSingle =>
      have filled : 0 < (decode last).length :=
        length_decode_dotSegment (by simp [isDotSegment, isSingle])
      simp only [decodedLength_append, decodedLength_cons, decode_nil, List.length_nil,
        decodedLength_nil, List.any_cons, isDotSegment, isSingle, Bool.true_or, ↓reduceIte]
      omega
  | case4 done last notDouble notSingle =>
      simp [isDotSegment, notDouble, notSingle]
  | case5 done segment next rest isDouble ih =>
      have filled : 0 < (decode segment).length :=
        length_decode_dotSegment (by simp [isDotSegment, isDouble])
      have := decodedLength_dropLast_le done
      rw [decodedLength_cons segment]
      split <;> omega
  | case6 done segment next rest notDouble isSingle ih =>
      have filled : 0 < (decode segment).length :=
        length_decode_dotSegment (by simp [isDotSegment, isSingle])
      rw [decodedLength_cons segment]
      split <;> omega
  | case7 done segment next rest notDouble notSingle ih =>
      have noDot : isDotSegment segment = false := by simp [isDotSegment, notDouble, notSingle]
      rw [List.any_cons, noDot, Bool.false_or, decodedLength_cons segment]
      rw [decodedLength_append, decodedLength_cons, decodedLength_nil] at ih
      omega

theorem resolveSegments_of_no_dot (done : List Bytes) {parts : List Bytes}
    (noDot : parts.any isDotSegment = false) :
    resolveSegments done parts = done ++ parts := by
  fun_induction resolveSegments done parts with
  | case1 done => simp
  | case2 done last isDouble => simp [isDotSegment, isDouble] at noDot
  | case3 done last notDouble isSingle => simp [isDotSegment, isSingle] at noDot
  | case4 done last notDouble notSingle => rfl
  | case5 done segment next rest isDouble ih => simp [isDotSegment, isDouble] at noDot
  | case6 done segment next rest notDouble isSingle ih =>
      simp [isDotSegment, isSingle] at noDot
  | case7 done segment next rest notDouble notSingle ih =>
      rw [List.any_cons, Bool.or_eq_false_iff] at noDot
      rw [ih noDot.2]
      simp

theorem resolveSegments_ne_nil (done : List Bytes) {parts : List Bytes}
    (notEmpty : parts ≠ []) : resolveSegments done parts ≠ [] := by
  fun_induction resolveSegments done parts with
  | case1 done => exact absurd rfl notEmpty
  | case2 done last isDouble => simp
  | case3 done last notDouble isSingle => simp
  | case4 done last notDouble notSingle => simp
  | case5 done segment next rest isDouble ih => exact ih (by simp)
  | case6 done segment next rest notDouble isSingle ih => exact ih (by simp)
  | case7 done segment next rest notDouble notSingle ih => exact ih (by simp)

section WritePath

variable {set : UInt8 → Bool}

theorem head_writePath (set : UInt8 → Bool) (path : Bytes) :
    ∃ rest, writePath set path = slash :: rest := by
  have notEmpty : (resolveSegments [] (segments path)).map (encode set) ≠ [] := by
    rw [ne_eq, List.map_eq_nil_iff]
    exact resolveSegments_ne_nil [] (List.splitOn_ne_nil slash (path.drop 1))
  exact ⟨_, joinSegments_eq notEmpty⟩

/-- A path without dot segments is only escaped. -/
theorem writePath_of_no_dot (keepsSlash : set slash = false) {path : Bytes}
    (rooted : path.head? = some slash) (noDot : hasDotSegment path = false) :
    writePath set path = encode set path := by
  rw [writePath, resolveSegments_of_no_dot [] noDot, List.nil_append,
    encode_joinSegments keepsSlash, joinSegments_segments rooted]

theorem decode_writePath_eq (keeps : KeepsEscapes set) (keepsSlash : set slash = false)
    (path : Bytes) :
    decode (writePath set path) = decode (joinSegments (resolveSegments [] (segments path))) := by
  rw [writePath, encode_joinSegments keepsSlash, decode_encode keeps]

/-- A path is read back no longer than its own decoding, and shorter when it
holds a dot segment. -/
theorem length_decode_writePath (keeps : KeepsEscapes set) (keepsSlash : set slash = false)
    {path : Bytes} (rooted : path.head? = some slash) :
    (decode (writePath set path)).length + (if hasDotSegment path then 1 else 0) ≤
      (decode path).length := by
  have resolved := decodedLength_resolveSegments [] (segments path)
  have whole := length_decode_joinSegments (segments path)
  rw [joinSegments_segments rooted] at whole
  rw [decode_writePath_eq keeps keepsSlash, length_decode_joinSegments, whole]
  simpa [hasDotSegment] using resolved

/-- A path is read back as it was given exactly when it has neither escapes nor
dot segments. -/
theorem decode_writePath_eq_self_iff (keeps : KeepsEscapes set)
    (keepsSlash : set slash = false) {path : Bytes} (rooted : path.head? = some slash) :
    decode (writePath set path) = path ↔ escapes path = 0 ∧ hasDotSegment path = false := by
  constructor
  · intro readBack
    have shorter := length_decode_writePath keeps keepsSlash rooted
    have counted := length_decode path
    rw [readBack] at shorter
    cases dots : hasDotSegment path with
    | true =>
        simp only [dots, ↓reduceIte] at shorter
        omega
    | false => exact ⟨by omega, rfl⟩
  · rintro ⟨noEscapes, noDot⟩
    rw [writePath_of_no_dot keepsSlash rooted noDot, decode_encode keeps,
      decode_eq_self noEscapes]

/-- A written path holds no byte that the set escapes. -/
theorem not_mem_writePath {byte : UInt8} (inSet : set byte = true)
    (notSign : byte ≠ percentSign) (notDigit : isHexDigit byte = false)
    (keepsSlash : set slash = false) (path : Bytes) : byte ∉ writePath set path := by
  intro written
  rw [writePath, encode_joinSegments keepsSlash] at written
  rcases mem_encode written with sign | digit | ⟨-, outside⟩
  · exact notSign sign
  · simp [notDigit] at digit
  · simp [inSet] at outside

end WritePath

end Paths

section Authority

/-- The bytes that set off credentials, a port or an address in an authority. -/
def isMark (byte : UInt8) : Bool :=
  byte == atSign || byte == colon || byte == 91 || byte == 93

/-- An authority without marks is a host name. -/
def isName (host : Bytes) : Bool := host.all (!isMark ·)

/-- The bytes that a host name may hold: not the forbidden host code points. -/
def isHostByte (byte : UInt8) : Bool :=
  !(isSeparator byte || isMark byte || isIgnored byte ||
    [0, 32, 60, 62, 92, 94, 124].contains byte)

end Authority

/-- What a program uses of a URL library: the parser, the setter of the path, the
writer and the reader of query pairs, percent decoding, and the writers of the
parts that the parser is made of. -/
structure UrlCrate where
  parse : Bytes → Option Url
  setPath : Url → Bytes → Url
  appendPair : Url → String → String → Url
  parsePairs : Bytes → List (String × String)
  percentDecode : Bytes → Bytes
  writeAuthority : Bytes → Option Bytes
  writeQuery : Bytes → Bytes
  writeFragment : Bytes → Bytes
  writePair : String → String → Bytes
  hostSet : UInt8 → Bool
  pathSet : UInt8 → Bool

namespace UrlCrate

variable (crate : UrlCrate)

/-- The URL that the standard makes of the text after the two slashes. -/
def parseParts (scheme text : Bytes) : Option Url :=
  let parts := cut (received text)
  (crate.writeAuthority parts.host).map fun authority =>
    { scheme, authority
      path := if parts.path = [] then [] else writePath crate.pathSet parts.path
      query := parts.query.map crate.writeQuery
      fragment := parts.fragment.map crate.writeFragment }

/-- A pair is added after an ampersand, unless it is the first. -/
def joinPair (query : Option Bytes) (pair : Bytes) : Bytes :=
  match query with
  | none | some [] => pair
  | some query => query ++ ampersand :: pair

/-- The library follows the URL standard on URLs of the scheme. -/
structure Standard (scheme : Bytes) : Prop where
  /-- The text is trimmed, cut and written part by part. -/
  parse_eq : ∀ text, crate.parse (scheme ++ schemeEnd ++ text) = crate.parseParts scheme text
  /-- The setter replaces the path and keeps the rest, without trimming. -/
  setPath_eq : ∀ url path, path.head? = some slash →
    crate.setPath url path = { url with path := writePath crate.pathSet (withoutIgnored path) }
  appendPair_eq : ∀ url key value, crate.appendPair url key value =
    { url with query := some (joinPair url.query (crate.writePair key value)) }
  writePair_ne_nil : ∀ key value, crate.writePair key value ≠ []
  /-- Reading pairs inverts writing them. -/
  parsePairs_eq : ∀ pairs : List (String × String), crate.parsePairs
    ([ampersand].intercalate (pairs.map fun pair => crate.writePair pair.1 pair.2)) = pairs
  percentDecode_eq : crate.percentDecode = decode
  /-- Percent signs and hexadecimal digits are never escaped. -/
  hostSet_keeps : KeepsEscapes crate.hostSet
  pathSet_keeps : KeepsEscapes crate.pathSet
  pathSet_slash : crate.pathSet slash = false
  pathSet_question : crate.pathSet question = true
  /-- An empty authority is written as it is, and no other as the empty text. -/
  authority_nil : crate.writeAuthority [] = some []
  authority_ne_nil : ∀ host, crate.writeAuthority host = some [] → host = []
  /-- A port needs a host. -/
  authority_colon : ∀ host, atSign ∉ host → crate.writeAuthority (colon :: host) = none
  /-- A host name is escaped, and refused when it holds a forbidden byte. -/
  authority_name : ∀ host, host ≠ [] → (∀ byte ∈ host, isHostByte byte = true) →
    crate.writeAuthority host = some (encode crate.hostSet host)
  authority_refused : ∀ host, isName host = true → (∃ byte ∈ host, isHostByte byte = false) →
    crate.writeAuthority host = none
  authority_separator : ∀ host written, crate.writeAuthority host = some written →
    ∀ byte ∈ written, isSeparator byte = false
  /-- A separator is read back only where the authority held an escape. -/
  authority_separators : ∀ host written, crate.writeAuthority host = some written →
    (decode written).countP isSeparator ≤ escapes host
  /-- Escapes are kept, so an authority that holds one is read back shorter. -/
  authority_escapes : ∀ host written, crate.writeAuthority host = some written →
    escapes host ≠ 0 → (decode written).length < host.length

end UrlCrate

end SqlxTurso.Library
