import SqlxTurso.Library.Url

/-!
# Texts that come back from a URL

A text is put after the two slashes of a URL.  It comes back when the authority
and the path of the parsed URL decode to the text again.  The first result says
for which texts this is so; the second does the same for the setter of the path.
-/

namespace SqlxTurso.Library

open Percent

section Seen

theorem not_blank_of_isSeparator {byte : UInt8} (separator : isSeparator byte = true) :
    isBlank byte = false ∧ isIgnored byte = false := by
  simp only [isSeparator, Bool.or_eq_true, beq_iff_eq] at separator
  rcases separator with (rfl | rfl) | rfl <;> decide

theorem received_cons {byte : UInt8} (rest : Bytes) (separator : isSeparator byte = true) :
    ∃ others, received (byte :: rest) = byte :: others := by
  obtain ⟨notBlank, notIgnored⟩ := not_blank_of_isSeparator separator
  obtain ⟨dropped, trimmed⟩ := List.rdropWhile_prefix isBlank (byte :: rest)
  match kept : (byte :: rest).rdropWhile isBlank, trimmed with
  | [], _ =>
      have := List.rdropWhile_eq_nil_iff.mp kept byte (by simp)
      simp [notBlank] at this
  | first :: others, trimmed =>
      cases trimmed
      refine ⟨others.filter (!isIgnored ·), ?_⟩
      rw [received, kept]
      simp [withoutIgnored, notIgnored]

variable (text : Bytes)

/-- What the parser sees as the first segment of a text: the trimming concerns it
only when nothing follows. -/
theorem received_eq : received text =
    (if afterSegment text = [] then received (firstSegment text)
      else withoutIgnored (firstSegment text)) ++ received (afterSegment text) := by
  have whole := firstSegment_append_afterSegment text
  match rest : afterSegment text with
  | [] =>
      rw [rest, List.append_nil] at whole
      rw [whole]
      simp [received, withoutIgnored]
  | byte :: others =>
      have separator := head_afterSegment text byte (by simp [rest])
      rw [rest] at whole
      rw [if_neg (by simp), ← received_append _ _ (not_blank_of_isSeparator separator).1, whole]

theorem segments_of_received :
    firstSegment (received text) =
        (if afterSegment text = [] then received (firstSegment text)
          else withoutIgnored (firstSegment text)) ∧
      afterSegment (received text) = received (afterSegment text) := by
  rw [received_eq text]
  refine firstSegment_append (fun byte isByte => ?_) (fun byte isHead => ?_)
  · split at isByte
    · exact mem_firstSegment ((received_sublist _).subset isByte)
    · exact mem_firstSegment (List.filter_sublist.subset isByte)
  · match rest : afterSegment text with
    | [] => simp [rest, received, withoutIgnored] at isHead
    | first :: others =>
        have separator := head_afterSegment text first (by simp [rest])
        obtain ⟨kept, seen⟩ := received_cons others separator
        rw [rest, seen] at isHead
        cases isHead
        exact separator

theorem firstSegment_received_sublist :
    (firstSegment (received text)).Sublist (firstSegment text) := by
  rw [(segments_of_received text).1]
  split
  · exact received_sublist _
  · exact List.filter_sublist

end Seen

/-- A host that comes back.  A host name does when it holds host bytes only, has
no escape and is seen as it was given; for any other authority the library
decides. -/
def HostStands (crate : UrlCrate) (given seen : Bytes) : Prop :=
  if isName given then
    (∀ byte ∈ given, isHostByte byte = true) ∧ escapes given = 0 ∧ seen = given
  else ∃ written, crate.writeAuthority seen = some written ∧ decode written = given

/-- A path that comes back: nothing in it starts a query or a fragment, is
dropped, decoded or resolved. -/
structure PathStands (path : Bytes) : Prop where
  noEnd : ∀ byte ∈ path, endsPath byte = false
  seen : received path = path
  noEscapes : escapes path = 0
  noDot : hasDotSegment path = false

/-- A text that comes back from the parser. -/
def TextStands (crate : UrlCrate) (text : Bytes) : Prop :=
  HostStands crate (firstSegment text) (firstSegment (received text)) ∧
    PathStands (afterSegment text)

/-- A text that stands leaves nothing for a query or a fragment. -/
theorem cut_of_textStands {crate : UrlCrate} {text : Bytes} (stands : TextStands crate text) :
    (cut (received text)).query = none ∧ (cut (received text)).fragment = none := by
  have rest : afterSegment (received text) = afterSegment text := by
    rw [(segments_of_received text).2, stands.2.seen]
  rw [cut_of_noEnd (rest ▸ stands.2.noEnd)]
  exact ⟨rfl, rfl⟩

def withoutSlashes (path : Bytes) : Bytes := path.dropWhile (· == slash)

/-- A rooted path that comes back from the setter: no first segment is left when
its slashes are taken off, so nothing stands before it. -/
structure RootedStands (path : Bytes) : Prop where
  kept : withoutIgnored path = path
  noEscapes : escapes path = 0
  noDot : hasDotSegment path = false
  noHost : firstSegment (received (withoutSlashes path)) = []

/-- The slashes that a path starts with. -/
theorem exists_slashes (path : Bytes) :
    ∃ count, path = List.replicate count slash ++ withoutSlashes path := by
  refine ⟨(path.takeWhile (· == slash)).length, ?_⟩
  have slashes : path.takeWhile (· == slash) =
      List.replicate (path.takeWhile (· == slash)).length slash := by
    rw [List.eq_replicate_iff]
    exact ⟨rfl, fun byte isSlash => by simpa using List.mem_takeWhile_imp isSlash⟩
  rw [← slashes]
  exact List.takeWhile_append_dropWhile.symm

theorem escapes_slashes (count : Nat) (text : Bytes) :
    escapes (List.replicate count slash ++ text) = escapes text := by
  induction count with
  | zero => rfl
  | succ count ih =>
      rw [List.replicate_succ, List.cons_append, escapes_cons (escapeAt_slash _), ih]

/-- The escapes of the first segment that the parser sees are escapes of the path. -/
theorem escapes_firstSegment_le (path : Bytes) :
    escapes (firstSegment (received (withoutSlashes path))) ≤ escapes (withoutIgnored path) := by
  obtain ⟨count, whole⟩ := exists_slashes path
  obtain ⟨dropped, trimmed⟩ := List.rdropWhile_prefix isBlank (withoutSlashes path)
  have slashes : withoutIgnored (List.replicate count slash) = List.replicate count slash := by
    rw [withoutIgnored, List.filter_eq_self]
    intro byte isSlash
    rw [List.eq_of_mem_replicate isSlash]
    decide
  have kept : withoutIgnored path =
      List.replicate count slash ++ (firstSegment (received (withoutSlashes path)) ++
        (afterSegment (received (withoutSlashes path)) ++ withoutIgnored dropped)) := by
    conv_lhs => rw [whole, ← trimmed]
    rw [withoutIgnored, List.filter_append, List.filter_append, ← List.append_assoc
      (firstSegment _), firstSegment_append_afterSegment]
    rw [withoutIgnored] at slashes
    rw [slashes]
    rfl
  rw [kept, escapes_slashes]
  exact escapes_le_append _ _

/-- The parser writes the query and the fragment as they were cut off. -/
theorem UrlCrate.parseParts_rest {crate : UrlCrate} {scheme text : Bytes} {url : Url}
    (parsed : crate.parseParts scheme text = some url) :
    url.query = (cut (received text)).query.map crate.writeQuery ∧
      url.fragment = (cut (received text)).fragment.map crate.writeFragment := by
  rw [parseParts, Option.map_eq_some_iff] at parsed
  rcases parsed with ⟨written, accepted, rfl⟩
  exact ⟨rfl, rfl⟩

theorem withoutSlashes_of_not_rooted {path : Bytes} (notRooted : path.head? ≠ some slash) :
    withoutSlashes path = path := by
  cases path with
  | nil => rfl
  | cons byte rest =>
      have other : (byte == slash) = false := by simpa using notRooted
      rw [withoutSlashes, List.dropWhile_cons, other]
      rfl

namespace UrlCrate.Standard

variable {crate : UrlCrate} {scheme : Bytes} (standard : crate.Standard scheme)

include standard

/-- An authority without escapes is read back without separators. -/
theorem no_separator {host written : Bytes}
    (accepted : crate.writeAuthority host = some written) (noEscapes : escapes host = 0) :
    ∀ byte ∈ decode written, isSeparator byte = false := by
  have counted := standard.authority_separators host written accepted
  rw [noEscapes, Nat.le_zero, List.countP_eq_zero] at counted
  simpa using counted

/-- An authority without escapes that is given back is a host that stands. -/
theorem hostStands_of_written {given seen written : Bytes} (sublist : seen.Sublist given)
    (noEscapes : escapes seen = 0) (accepted : crate.writeAuthority seen = some written)
    (readBack : decode written = given) : HostStands crate given seen := by
  rw [HostStands]
  split
  next name =>
      have nameSeen : isName seen = true := by
        rw [isName, List.all_eq_true] at name ⊢
        exact fun byte inSeen => name byte (sublist.subset inSeen)
      match seen, sublist, noEscapes, nameSeen, accepted with
      | [], _, _, _, accepted =>
          rw [standard.authority_nil, Option.some.injEq] at accepted
          subst accepted
          subst readBack
          simp
      | first :: rest, _, noEscapes, nameSeen, accepted =>
          have hostBytes : ∀ byte ∈ first :: rest, isHostByte byte = true := by
            by_contra someForbidden
            push Not at someForbidden
            rcases someForbidden with ⟨byte, inSeen, forbidden⟩
            have refused := standard.authority_refused _ nameSeen
              ⟨byte, inSeen, by simpa using forbidden⟩
            simp [refused] at accepted
          rw [standard.authority_name _ (by simp) hostBytes, Option.some.injEq] at accepted
          subst accepted
          rw [decode_encode standard.hostSet_keeps, decode_eq_self noEscapes] at readBack
          subst readBack
          exact ⟨hostBytes, noEscapes, rfl⟩
  next => exact ⟨written, accepted, readBack⟩

theorem written_of_hostStands {given seen : Bytes} (stands : HostStands crate given seen) :
    ∃ written, crate.writeAuthority seen = some written ∧ decode written = given := by
  rw [HostStands] at stands
  split at stands
  next =>
      rcases stands with ⟨hostBytes, noEscapes, rfl⟩
      match seen with
      | [] => exact ⟨[], standard.authority_nil, rfl⟩
      | first :: rest =>
          refine ⟨_, standard.authority_name _ (by simp) hostBytes, ?_⟩
          rw [decode_encode standard.hostSet_keeps, decode_eq_self noEscapes]
  next => exact stands

/-- The path of a parsed text, as the parser writes it. -/
theorem written_path {path : Bytes} (rooted : ∀ byte ∈ path.head?, byte = slash) :
    ∃ written, (if path = [] then [] else writePath crate.pathSet path) = written ∧
      Apart written ∧ (∀ byte ∈ (decode written).head?, isSeparator byte = true) ∧
      (decode written).length ≤ path.length ∧
      (decode written = path ↔ escapes path = 0 ∧ hasDotSegment path = false) := by
  refine ⟨_, rfl, ?_⟩
  match path with
  | [] => simp [show hasDotSegment [] = false by decide]
  | byte :: rest =>
      have isRooted : (byte :: rest).head? = some slash := congrArg some (rooted byte rfl)
      obtain ⟨others, starts⟩ := head_writePath crate.pathSet (byte :: rest)
      have shorter := length_decode_writePath standard.pathSet_keeps standard.pathSet_slash
        isRooted
      have readBack := decode_writePath_eq_self_iff standard.pathSet_keeps
        standard.pathSet_slash isRooted
      have := length_decode_le (byte :: rest)
      rw [if_neg (by simp)]
      refine ⟨starts ▸ apart_slash others, ?_, by omega, readBack⟩
      rw [starts, decode_cons (escapeAt_slash _)]
      simp only [List.head?_cons, Option.mem_some_iff, forall_eq']
      decide

theorem question_not_mem_writePath (path : Bytes) :
    question ∉ writePath crate.pathSet path :=
  not_mem_writePath standard.pathSet_question (by decide) (by decide) standard.pathSet_slash path

/-- What the parser has written: an authority without separators, and a path
without a question mark. -/
theorem parseParts_written {text : Bytes} {url : Url}
    (parsed : crate.parseParts scheme text = some url) :
    url.scheme = scheme ∧ (∀ byte ∈ url.authority, isSeparator byte = false) ∧
      question ∉ url.path := by
  rw [parseParts, Option.map_eq_some_iff] at parsed
  rcases parsed with ⟨written, accepted, rfl⟩
  refine ⟨rfl, standard.authority_separator _ _ accepted, ?_⟩
  split
  · simp
  · exact standard.question_not_mem_writePath _

/-- A text that starts with a colon and has no credentials is refused. -/
theorem parseParts_colon {text host : Bytes}
    (starts : firstSegment (received text) = colon :: host) (noCredentials : atSign ∉ host) :
    crate.parseParts scheme text = none := by
  rw [parseParts, Option.map_eq_none_iff, cut_host, starts]
  exact standard.authority_colon host noCredentials

/-- When a text comes back from the parser. -/
theorem comes_back_iff (text : Bytes) :
    (∃ url, crate.parseParts scheme text = some url ∧
      decode (url.authority ++ url.path) = text) ↔ TextStands crate text := by
  have segments := segments_of_received text
  have lengths := length_parts_le (received text)
  have seen := length_received_le text
  obtain ⟨path, isPath, apart, separated, shorter, readBack⟩ :=
    standard.written_path (head_cut_path (received text))
  simp only [parseParts, isPath, Option.map_eq_some_iff, cut_host] at lengths ⊢
  constructor
  · rintro ⟨url, ⟨written, accepted, rfl⟩, back⟩
    rw [decode_append written apart] at back
    have total := congrArg List.length back
    rw [List.length_append] at total
    have noEscapes : escapes (firstSegment (received text)) = 0 := by
      by_contra someEscape
      have := standard.authority_escapes _ _ accepted someEscape
      omega
    have split := firstSegment_append (standard.no_separator accepted noEscapes) separated
    rw [back] at split
    refine ⟨standard.hostStands_of_written (firstSegment_received_sublist text) noEscapes
      accepted split.1.symm, ?_⟩
    -- The path is read back at its full length, so nothing of it was lost on the way.
    have given : (cut (received text)).path.Sublist (received (afterSegment text)) := by
      rw [cut_path, segments.2]
      exact List.takeWhile_sublist _
    have whole : (cut (received text)).path = afterSegment text := by
      refine (given.trans (received_sublist _)).eq_of_length_le ?_
      rw [split.2]
      exact shorter
    rw [whole] at given readBack
    obtain ⟨noEscapes, noDot⟩ := readBack.mp split.2.symm
    refine ⟨?_, ?_, noEscapes, noDot⟩
    · intro byte inPath
      rw [← whole, cut_path] at inPath
      simpa using List.mem_takeWhile_imp inPath
    · exact (received_sublist _).eq_of_length_le given.length_le
  · rintro ⟨hostStands, pathStands⟩
    obtain ⟨written, accepted, back⟩ := standard.written_of_hostStands hostStands
    refine ⟨_, ⟨written, accepted, rfl⟩, ?_⟩
    have noEnd := pathStands.noEnd
    have whole : (cut (received text)).path = afterSegment text := by
      rw [cut_path, segments.2, pathStands.seen, List.takeWhile_eq_self_iff]
      simpa using noEnd
    rw [whole] at readBack
    rw [decode_append written apart, back,
      readBack.mpr ⟨pathStands.noEscapes, pathStands.noDot⟩,
      firstSegment_append_afterSegment]

omit standard in
/-- A separator ends the first segment at the latest. -/
theorem length_firstSegment_le {text : Bytes} {place : Nat}
    (isSlash : text[place]? = some slash) : (firstSegment text).length ≤ place := by
  by_contra inside
  push Not at inside
  rw [← firstSegment_append_afterSegment text, List.getElem?_append_left inside] at isSlash
  have := mem_firstSegment (List.mem_of_getElem? isSlash)
  exact absurd this (by decide)

omit standard in
theorem head_withoutIgnored {path : Bytes} (rooted : path.head? = some slash) :
    (withoutIgnored path).head? = some slash := by
  cases path with
  | nil => cases rooted
  | cons byte rest =>
      cases rooted
      rfl

/-- A first segment that the parser sees stands in the way: its bytes would have
to be read back from slashes of the path, and there are not enough escapes. -/
theorem not_back_of_host {path written : Bytes} (rooted : path.head? = some slash)
    (host : firstSegment (received (withoutSlashes path)) ≠ [])
    (accepted : crate.writeAuthority (firstSegment (received (withoutSlashes path))) =
      some written) :
    decode (written ++ writePath crate.pathSet (withoutIgnored path)) ≠ path := by
  intro back
  obtain ⟨others, starts⟩ := head_writePath crate.pathSet (withoutIgnored path)
  obtain ⟨count, slashes⟩ := exists_slashes path
  have shorter := length_decode_writePath standard.pathSet_keeps standard.pathSet_slash
    (head_withoutIgnored rooted)
  have counted := length_decode (withoutIgnored path)
  have filtered : (withoutIgnored path).length ≤ path.length := List.length_filter_le _ _
  have fewer := escapes_firstSegment_le path
  rw [decode_append written (starts ▸ apart_slash others)] at back
  have total := congrArg List.length back
  rw [List.length_append] at total
  have separators := standard.authority_separators _ _ accepted
  have notEmpty : decode written ≠ [] :=
    decode_ne_nil fun empty => host (standard.authority_ne_nil _ (empty ▸ accepted))
  have someEscape : escapes (firstSegment (received (withoutSlashes path))) ≠ 0 := by
    have isSlash : (decode written).head? = some slash := by
      rw [← rooted, ← back, List.head?_append_of_ne_nil _ notEmpty]
    have : 0 < (decode written).countP isSeparator :=
      List.countP_pos_iff.mpr ⟨slash, List.mem_of_mem_head? isSlash, by decide⟩
    omega
  have short := standard.authority_escapes _ _ accepted someEscape
  have seen := (firstSegment_received_sublist (withoutSlashes path)).length_le
  have next : path[(decode written).length]? = some slash := by
    rw [← back, starts, decode_cons (escapeAt_slash _)]
    simp
  have inSlashes : (decode written).length < count := by
    by_contra beyond
    push Not at beyond
    rw [slashes, List.getElem?_append_right (by simpa using beyond), List.length_replicate]
      at next
    have := length_firstSegment_le next
    omega
  have allSlashes : decode written = List.replicate (decode written).length slash := by
    have taken := congrArg (List.take (decode written).length) (back.trans slashes)
    rwa [List.take_left, List.take_append_of_le_length (by simpa using inSlashes.le),
      List.take_replicate, Nat.min_eq_left inSlashes.le] at taken
  rw [allSlashes, List.countP_replicate, if_pos (by decide)] at separators
  omega

/-- When a rooted path comes back from the setter of the path. -/
theorem setPath_comes_back_iff {path : Bytes} (rooted : path.head? = some slash) :
    (∃ url, crate.parseParts scheme (withoutSlashes path) = some url ∧
      decode (url.authority ++ writePath crate.pathSet (withoutIgnored path)) = path) ↔
      RootedStands path := by
  have keptRooted := head_withoutIgnored rooted
  simp only [parseParts, Option.map_eq_some_iff, cut_host]
  have readBack := decode_writePath_eq_self_iff standard.pathSet_keeps standard.pathSet_slash
    keptRooted
  constructor
  · rintro ⟨url, ⟨written, accepted, rfl⟩, back⟩
    by_cases noHost : firstSegment (received (withoutSlashes path)) = []
    · rw [noHost, standard.authority_nil, Option.some.injEq] at accepted
      subst accepted
      have shorter := length_decode_writePath standard.pathSet_keeps standard.pathSet_slash
        keptRooted
      have := length_decode_le (withoutIgnored path)
      have kept : withoutIgnored path = path := by
        refine List.filter_sublist.eq_of_length_le ?_
        rw [List.nil_append] at back
        rw [back] at shorter
        exact (by omega : path.length ≤ (withoutIgnored path).length)
      rw [kept] at readBack
      obtain ⟨noEscapes, noDot⟩ := readBack.mp (by rwa [kept] at back)
      exact ⟨kept, noEscapes, noDot, noHost⟩
    · exact absurd back (standard.not_back_of_host rooted noHost accepted)
  · rintro ⟨kept, noEscapes, noDot, noHost⟩
    rw [kept] at readBack ⊢
    rw [noHost]
    exact ⟨_, ⟨[], standard.authority_nil, rfl⟩, readBack.mpr ⟨noEscapes, noDot⟩⟩

end UrlCrate.Standard

end SqlxTurso.Library
