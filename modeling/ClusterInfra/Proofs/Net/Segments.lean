import ClusterInfra.Net.Url
import Mathlib.Data.List.TakeWhile
/-!
The segments of a path that is appended to a base URL.

A segment stands for itself if it holds no character at which a URL is taken apart, that is left out
of it, or that announces an encoded byte, and if it is no dot segment. A path of such segments is
read as it was put together: the base alone tells what stands before it, each segment becomes one
segment of the URL, and the target of a request tells all of them. Any other segment may stand for
something else.
-/

namespace ClusterInfra.Net.Url

/-! ### Splitting and joining -/

theorem splitOn_eq_splitOnP (test : Char → Bool) (cs : List Char) :
    splitOn test cs = cs.splitOnP test := by
  induction cs with
  | nil => rw [splitOn, List.splitOnP_nil]
  | cons c rest ih =>
    rw [splitOn, ih, List.splitOnP_cons_eq_if_modifyHead]
    cases hsplit : rest.splitOnP test with
    | nil => exact absurd hsplit (List.splitOnP_ne_nil test rest)
    | cons first others => rfl

/-- No piece holds what a text was split at. -/
theorem not_mem_of_mem_splitOnP {test : Char → Bool} {cs piece : List Char}
    (h : piece ∈ cs.splitOnP test) : ∀ c ∈ piece, test c = false := by
  induction cs generalizing piece with
  | nil =>
    rw [List.splitOnP_nil, List.mem_singleton] at h
    rw [h]
    exact fun c hc => nomatch hc
  | cons c rest ih =>
    rw [List.splitOnP_cons_eq_if_modifyHead] at h
    obtain ⟨first, others, hsplit⟩ := List.exists_cons_of_ne_nil (List.splitOnP_ne_nil test rest)
    have hfirst := ih (hsplit ▸ List.mem_cons_self)
    rw [hsplit] at h
    split at h
    · rcases List.mem_cons.1 h with rfl | hmem
      · exact fun c hc => nomatch hc
      · exact ih (hsplit ▸ hmem)
    next hc =>
      rcases List.mem_cons.1 h with rfl | hmem
      · exact List.forall_mem_cons.2 ⟨Bool.not_eq_true _ ▸ hc, hfirst⟩
      · exact ih (hsplit ▸ List.mem_cons_of_mem first hmem)

/-- The text of a path: a slash before each segment. -/
def slashed (segments : List (List Char)) : List Char := segments.flatMap ('/' :: ·)

theorem slashed_append (segments more : List (List Char)) :
    slashed (segments ++ more) = slashed segments ++ slashed more := List.flatMap_append

theorem cons_intercalate_eq_slashed {segments : List (List Char)} (h : segments ≠ []) :
    '/' :: ['/'].intercalate segments = slashed segments := by
  induction segments with
  | nil => exact absurd rfl h
  | cons segment rest ih =>
    cases rest with
    | nil => rw [List.intercalate_singleton, slashed, List.flatMap_singleton]
    | cons next rest =>
      rw [List.intercalate_cons_cons, List.append_assoc, List.singleton_append,
        ih (List.cons_ne_nil next rest)]
      rfl

/-- The segments of a path are found again by splitting, unless a separator stands in one. -/
theorem splitOnP_append_slashed (test : Char → Bool) (hslash : test '/' = true)
    {segments : List (List Char)} (h : ∀ segment ∈ segments, ∀ c ∈ segment, test c = false)
    (front : List Char) :
    (front ++ slashed segments).splitOnP test = front.splitOnP test ++ segments := by
  induction segments generalizing front with
  | nil => rw [slashed, List.flatMap_nil, List.append_nil, List.append_nil]
  | cons segment rest ih =>
    rw [List.forall_mem_cons] at h
    have hsegment : segment.splitOnP test = [segment] := List.splitOnP_eq_singleton h.1
    calc (front ++ slashed (segment :: rest)).splitOnP test
      _ = (front ++ '/' :: (segment ++ slashed rest)).splitOnP test := rfl
      _ = front.splitOnP test ++ (segment ++ slashed rest).splitOnP test :=
        List.splitOnP_append_cons front _ hslash
      _ = front.splitOnP test ++ segment :: rest := by rw [ih h.2, hsegment, List.singleton_append]

theorem splitOn_append_slashed {segments : List (List Char)}
    (h : ∀ segment ∈ segments, '/' ∉ segment) (front : List Char) :
    (front ++ slashed segments).splitOn '/' = front.splitOn '/' ++ segments := by
  rw [List.splitOn_eq_splitOnP, List.splitOn_eq_splitOnP]
  refine splitOnP_append_slashed (· == '/') (beq_self_eq_true '/')
    (fun segment hmem c hc => ?_) front
  exact beq_eq_false_iff_ne.2 fun hslash => h segment hmem (hslash ▸ hc)

theorem slashed_inj {segments others : List (List Char)} (h : ∀ segment ∈ segments, '/' ∉ segment)
    (hothers : ∀ segment ∈ others, '/' ∉ segment) (heq : slashed segments = slashed others) :
    segments = others := by
  have hsplit := (splitOn_append_slashed h []).symm.trans
    ((congrArg (List.splitOn '/') heq).trans (splitOn_append_slashed hothers []))
  exact List.append_cancel_left hsplit

/-! ### Percent-encoding -/

theorem toList_loop (bytes : ByteArray) (i : Nat) (read : List UInt8) :
    ByteArray.toList.loop bytes i read = read.reverse ++ bytes.data.toList.drop i := by
  fun_induction ByteArray.toList.loop bytes i read with
  | case1 i read h ih =>
    have hi : i < bytes.data.toList.length := h
    have hget : bytes.get! i = bytes.data.toList[i] := by
      rw [ByteArray.get!]
      exact (getElem!_pos bytes.data i h).trans (Array.getElem_toList h).symm
    rw [ih, List.reverse_cons, List.append_assoc, List.drop_eq_getElem_cons hi, hget,
      List.singleton_append]
  | case2 i read h =>
    have hlength : bytes.data.toList.length ≤ i := Nat.le_of_not_lt h
    rw [List.drop_eq_nil_of_le hlength, List.append_nil]

theorem toList_toUTF8_toString (c : Char) : c.toString.toUTF8.toList = String.utf8EncodeChar c := by
  rw [String.toUTF8_eq_toByteArray, Char.toString_eq_singleton, String.toByteArray_singleton,
    List.utf8Encode_singleton, ByteArray.toList, toList_loop, List.toList_data_toByteArray,
    List.reverse_nil, List.nil_append, List.drop_zero]

/-- The bytes of a text, where a percent sign announces a byte in hexadecimal digits. -/
def decode : List Char → List UInt8
  | '%' :: high :: low :: rest =>
    UInt8.ofNat (((Text.digit? 16 high).getD 0) * 16 + (Text.digit? 16 low).getD 0) :: decode rest
  | c :: rest => String.utf8EncodeChar c ++ decode rest
  | [] => []

theorem decode_cons {c : Char} (h : c ≠ '%') (rest : List Char) :
    decode (c :: rest) = String.utf8EncodeChar c ++ decode rest := by
  rw [decode]
  intro high low tail heq
  exact absurd heq h

theorem digit?_toUpper_hexDigit {n : Nat} (h : n < 16) :
    Text.digit? 16 (Text.hexDigit n).toUpper = some n := by
  revert n
  decide

theorem decode_encodeByte (byte : UInt8) (rest : List Char) :
    decode (encodeByte byte ++ rest) = byte :: decode rest := by
  have hbyte : byte.toNat < 256 := byte.toNat_lt
  simp only [encodeByte, List.map_cons, List.map_nil, List.cons_append, List.nil_append, decode]
  rw [digit?_toUpper_hexDigit (by omega), digit?_toUpper_hexDigit (by omega), Option.getD_some,
    Option.getD_some, Nat.div_add_mod', UInt8.ofNat_toNat]

theorem decode_flatMap_encodeByte (bytes : List UInt8) (rest : List Char) :
    decode (bytes.flatMap encodeByte ++ rest) = bytes ++ decode rest := by
  induction bytes with
  | nil => rfl
  | cons byte bytes ih =>
    rw [List.flatMap_cons, List.append_assoc, decode_encodeByte, ih, List.cons_append]

/-- What was encoded is found again, if it held no percent sign itself. -/
theorem decode_encode {cs : List Char} (h : '%' ∉ cs) (more rest : List Char) :
    decode (encode more cs ++ rest) = cs.flatMap String.utf8EncodeChar ++ decode rest := by
  induction cs with
  | nil => rfl
  | cons c cs ih =>
    rw [List.mem_cons, not_or] at h
    have hcs := ih h.2
    rw [encode] at hcs ⊢
    rw [List.flatMap_cons, List.append_assoc, List.flatMap_cons, List.append_assoc, ← hcs]
    split
    · rw [toList_toUTF8_toString, decode_flatMap_encodeByte]
    · rw [List.singleton_append, decode_cons (Ne.symm h.1)]

theorem flatMap_utf8EncodeChar_inj {cs ds : List Char}
    (h : cs.flatMap String.utf8EncodeChar = ds.flatMap String.utf8EncodeChar) : cs = ds :=
  String.ofList_injective (String.toByteArray_inj.1 (congrArg List.toByteArray h))

/-- A segment as it is kept. -/
def encoded (segment : List Char) : String := String.ofList (encode pathSet segment)

/-- Encoded segments tell what they were, if they held no percent sign. -/
theorem decode_slashed_encoded {segments : List (List Char)}
    (h : ∀ segment ∈ segments, '%' ∉ segment) :
    decode (slashed (segments.map (encode pathSet)))
      = (slashed segments).flatMap String.utf8EncodeChar := by
  induction segments with
  | nil => rfl
  | cons segment rest ih =>
    rw [List.forall_mem_cons] at h
    rw [List.map_cons, slashed, List.flatMap_cons, List.cons_append, decode_cons (by decide),
      decode_encode h.1]
    rw [slashed, List.flatMap_cons, List.cons_append, List.flatMap_cons, List.flatMap_append]
    exact congrArg _ (congrArg _ (ih h.2))

/-! ### Segments that stand for themselves -/

/-- The characters that delimit a part of a URL, announce a byte or do not count. -/
def special : List Char := ['/', '\\', '?', '#', '%', '\t', '\n', '\r']

/-- Whether a segment stands for itself: it holds nothing special and is no dot segment. -/
def isPlain (segment : List Char) : Bool :=
  !isSingleDot segment && !isDoubleDot segment && segment.all (!special.contains ·)

section Plain

variable {segment : List Char} {segments : List (List Char)}

theorem isPlain_iff : isPlain segment = true ↔
    isSingleDot segment = false ∧ isDoubleDot segment = false ∧ ∀ c ∈ special, c ∉ segment := by
  simp only [isPlain, Bool.and_eq_true, Bool.not_eq_true', List.all_eq_true, and_assoc,
    List.contains_eq_mem, decide_eq_false_iff_not]
  refine and_congr_right fun _ => and_congr_right fun _ => ?_
  exact ⟨fun h c hc hmem => h c hmem hc, fun h c hmem hc => h c hc hmem⟩

theorem not_mem_of_isPlain (h : ∀ segment ∈ segments, isPlain segment = true) {c : Char}
    (hc : c ∈ special) : ∀ segment ∈ segments, c ∉ segment :=
  fun segment hmem => (isPlain_iff.1 (h segment hmem)).2.2 c hc

theorem not_mem_slashed (h : ∀ segment ∈ segments, isPlain segment = true) {c : Char}
    (hc : c ∈ special) (hslash : c ≠ '/') : c ∉ slashed segments := by
  intro hmem
  obtain ⟨segment, hsegment, hin⟩ := List.mem_flatMap.1 hmem
  exact not_mem_of_isPlain h hc segment hsegment ((List.mem_cons.1 hin).resolve_left hslash)

/-- Plain segments are resolved to themselves. -/
theorem resolve_of_isPlain (h : ∀ segment ∈ segments, isPlain segment = true) (read : List String) :
    resolve read segments = read ++ segments.map encoded := by
  induction segments generalizing read with
  | nil => rw [resolve, List.map_nil, List.append_nil]
  | cons segment rest ih =>
    rw [List.forall_mem_cons] at h
    obtain ⟨hsingle, hdouble, -⟩ := isPlain_iff.1 h.1
    simp only [resolve, hsingle, hdouble, Bool.false_eq_true, if_false]
    rw [ih h.2, List.append_assoc, List.map_cons, List.singleton_append, encoded]

/-- What is read of segments before others does not depend on those, as long as there are any. -/
theorem exists_resolve_append (front : List (List Char)) (read : List String) : ∃ kept,
    ∀ segments, segments ≠ [] → resolve read (front ++ segments) = resolve kept segments := by
  induction front generalizing read with
  | nil => exact ⟨read, fun segments _ => rfl⟩
  | cons segment front ih =>
    let next := if isDoubleDot segment then read.dropLast
      else if isSingleDot segment then read else read ++ [encoded segment]
    obtain ⟨kept, hkept⟩ := ih next
    refine ⟨kept, fun segments hne => ?_⟩
    rw [← hkept segments hne, List.cons_append, resolve]
    have hends : (front ++ segments).isEmpty = false :=
      List.isEmpty_eq_false_iff.2 (List.append_ne_nil_of_right_ne_nil front hne)
    simp only [hends, Bool.false_eq_true, if_false, List.append_nil, next, encoded]
    split
    · rfl
    · split <;> rfl

end Plain

/-! ### Reading behind a base -/

section Base

variable {test : Char → Bool} {cs front rest : List Char}

theorem dropWhile_append_of_ne_nil (h : cs.dropWhile test ≠ []) (more : List Char) :
    (cs ++ more).dropWhile test = cs.dropWhile test ++ more := by
  rw [List.dropWhile_append, if_neg (mt List.isEmpty_iff.1 h)]

theorem takeWhile_append_of_ne_nil (h : cs.dropWhile test ≠ []) (more : List Char) :
    (cs ++ more).takeWhile test = cs.takeWhile test := by
  rw [List.takeWhile_append, if_neg]
  intro hlength
  have happend : (cs.takeWhile test ++ cs.dropWhile test).length = cs.length := by
    rw [List.takeWhile_append_dropWhile]
  rw [List.length_append, hlength, Nat.add_eq_left, List.length_eq_zero_iff] at happend
  exact h happend

theorem splitAt?_append (h : splitAt? test cs = some (front, rest)) (more : List Char) :
    splitAt? test (cs ++ more) = some (front, rest ++ more) := by
  rw [splitAt?] at h
  split at h
  · cases h
  next c tail hdrop =>
    have hne : cs.dropWhile (!test ·) ≠ [] := hdrop ▸ List.cons_ne_nil c tail
    cases h
    rw [splitAt?, dropWhile_append_of_ne_nil hne, takeWhile_append_of_ne_nil hne, hdrop,
      List.cons_append]

theorem splitAt?_eq_none_iff : splitAt? test cs = none ↔ ∀ c ∈ cs, test c = false := by
  rw [splitAt?]
  constructor
  · intro h
    split at h
    next hnil => exact fun c hc => by simpa using List.dropWhile_eq_nil_iff.1 hnil c hc
    · cases h
  · intro h
    have hnil : cs.dropWhile (!test ·) = [] :=
      List.dropWhile_eq_nil_iff.2 fun c hc => by rw [h c hc, Bool.not_false]
    rw [hnil]

/-- Whether a character does not count at the ends of a text. -/
def isBlank (c : Char) : Bool := c.toNat ≤ 32

/-- Whether a character counts within a text. -/
def counts (c : Char) : Bool := c ≠ '\t' && c ≠ '\n' && c ≠ '\r'

theorem clean_eq (cs : List Char) :
    clean cs = ((cs.dropWhile isBlank).reverse.dropWhile isBlank).reverse.filter counts := rfl

/-- What is cut off the end of a text is blank; nothing is if the text ends otherwise. -/
theorem exists_gap (cs : List Char) : ∃ gap : List Char, (∀ c ∈ gap, isBlank c = true) ∧
    (cs.reverse.dropWhile isBlank).reverse ++ gap = cs ∧
    ((∀ c ∈ cs.getLast?, isBlank c = false) → gap = []) := by
  refine ⟨(cs.reverse.takeWhile isBlank).reverse, fun c hc => ?_, ?_, fun hlast => ?_⟩
  · exact List.mem_takeWhile_imp (List.mem_reverse.1 hc)
  · rw [← List.reverse_append, List.takeWhile_append_dropWhile, List.reverse_reverse]
  · rw [← List.head?_reverse] at hlast
    cases hcs : cs.reverse with
    | nil => rfl
    | cons c rest =>
      have hc : isBlank c = false := hlast c (by rw [hcs]; rfl)
      rw [List.takeWhile_cons_of_neg (by rw [hc]; decide), List.reverse_nil]

/-- Of a text with a path behind it, the blanks at its end are kept. -/
theorem exists_clean_append {base : List Char} (hbase : clean base ≠ []) : ∃ gap : List Char,
    (∀ c ∈ gap, c.toNat ≤ 32) ∧ ((∀ c ∈ base.getLast?, 32 < c.toNat) → gap = []) ∧
    ∀ {path : List Char} {last : Char}, path.getLast? = some last → 32 < last.toNat →
      (∀ c ∈ ['\t', '\n', '\r'], c ∉ path) → clean (base ++ path) = clean base ++ gap ++ path := by
  have hleft : base.dropWhile isBlank ≠ [] := fun hnil => hbase (by rw [clean_eq, hnil]; rfl)
  obtain ⟨gap, hgap, hsplit, hnone⟩ := exists_gap (base.dropWhile isBlank)
  refine ⟨gap.filter counts, fun c hc => ?_, fun hlast => ?_,
    fun {path last} hlast hblank hcounts => ?_⟩
  · exact of_decide_eq_true (hgap c (List.mem_filter.1 hc).1)
  · rw [hnone fun c hc => ?_, List.filter_nil]
    obtain ⟨front, hfront⟩ := List.dropWhile_suffix (l := base) isBlank
    have hbaseLast := congrArg List.getLast? hfront
    rw [List.getLast?_append, Option.or_of_isSome (List.getLast?_isSome.2 hleft)] at hbaseLast
    exact decide_eq_false (Nat.not_le.2 (hlast c (hbaseLast ▸ hc)))
  · have hpath : path.filter counts = path := by
      refine List.filter_eq_self.2 fun c hc => ?_
      have hne : ∀ d ∈ ['\t', '\n', '\r'], c ≠ d := fun d hd heq => hcounts d hd (heq ▸ hc)
      simpa [counts, and_assoc] using hne
    -- The path ends with a character that counts, so nothing is cut off behind it.
    have hreverse : (path.reverse ++ (base.dropWhile isBlank).reverse).dropWhile isBlank
        = path.reverse ++ (base.dropWhile isBlank).reverse := by
      rw [← List.head?_reverse] at hlast
      obtain ⟨front, hfront⟩ := List.head?_eq_some_iff.1 hlast
      rw [hfront, List.cons_append]
      exact List.dropWhile_cons_of_neg fun h => absurd (of_decide_eq_true h) (Nat.not_le.2 hblank)
    calc clean (base ++ path)
      _ = (base.dropWhile isBlank ++ path).filter counts := by
        rw [clean_eq, dropWhile_append_of_ne_nil hleft, List.reverse_append, hreverse,
          List.reverse_append, List.reverse_reverse, List.reverse_reverse]
      _ = clean base ++ gap.filter counts ++ path := by
        rw [List.filter_append, hpath, clean_eq, ← List.filter_append, hsplit]

/-- What comes before the first slash is not touched by a path behind it. -/
theorem takeWhile_append_slashed (cs : List Char) (segments : List (List Char)) :
    (cs ++ slashed segments).takeWhile (!isSlash ·) = cs.takeWhile (!isSlash ·) := by
  have hnil : (slashed segments).takeWhile (!isSlash ·) = [] := by cases segments <;> rfl
  rw [List.takeWhile_append, hnil, List.append_nil]
  split
  next hlength => exact ((List.takeWhile_prefix _).eq_of_length hlength).symm
  · rfl

theorem dropWhile_append_slashed (cs : List Char) (segments : List (List Char)) :
    (cs ++ slashed segments).dropWhile (!isSlash ·)
      = cs.dropWhile (!isSlash ·) ++ slashed segments := by
  have hself : (slashed segments).dropWhile (!isSlash ·) = slashed segments := by
    cases segments <;> rfl
  rw [List.dropWhile_append, hself]
  split
  next hempty => rw [List.isEmpty_iff.1 hempty, List.nil_append]
  · rfl

theorem readAuthority?_nil (scheme : Scheme) : readAuthority? scheme [] = none := by
  cases scheme <;> rfl

/-- Without a query and a fragment, what follows a scheme is read in two parts. -/
theorem readRest?_of_free (scheme : Scheme) (hhash : '#' ∉ cs.dropWhile isSlash)
    (hquestion : '?' ∉ cs.dropWhile isSlash) :
    readRest? scheme cs
      = (readAuthority? scheme ((cs.dropWhile isSlash).takeWhile (!isSlash ·))).map fun authority =>
        { scheme, authority, path := readPath ((cs.dropWhile isSlash).dropWhile (!isSlash ·))
          query := none, fragment := none } := by
  have hnone : ∀ {d : Char}, d ∉ cs.dropWhile isSlash →
      splitAt? (· = d) (cs.dropWhile isSlash) = none := fun hd =>
    splitAt?_eq_none_iff.2 fun c hc => decide_eq_false fun heq => hd (heq ▸ hc)
  simp only [readRest?, hnone hhash, hnone hquestion]
  cases readAuthority? scheme ((cs.dropWhile isSlash).takeWhile (!isSlash ·)) <;> rfl

theorem free_of_readRest? {scheme : Scheme} {url : Url} (h : readRest? scheme cs = some url)
    (hquery : url.query = none) (hfragment : url.fragment = none) :
    '#' ∉ cs.dropWhile isSlash ∧ '?' ∉ cs.dropWhile isSlash ∧ cs.dropWhile isSlash ≠ [] := by
  have hfree : ∀ {d : Char}, splitAt? (· = d) (cs.dropWhile isSlash) = none →
      d ∉ cs.dropWhile isSlash := fun hnone hd =>
    of_decide_eq_false (splitAt?_eq_none_iff.1 hnone _ hd) rfl
  rw [readRest?] at h
  simp only at h
  cases hhash : splitAt? (· = '#') (cs.dropWhile isSlash) with
  | some parts =>
    simp only [hhash, Option.bind_eq_bind, Option.bind_eq_some_iff] at h
    obtain ⟨authority, -, heq⟩ := h
    cases heq
    cases hfragment
  | none =>
    cases hquestion : splitAt? (· = '?') (cs.dropWhile isSlash) with
    | some parts =>
      simp only [hhash, hquestion, Option.bind_eq_bind, Option.bind_eq_some_iff] at h
      obtain ⟨authority, -, heq⟩ := h
      cases heq
      cases hquery
    | none =>
      refine ⟨hfree hhash, hfree hquestion, fun hnil => ?_⟩
      rw [hnil] at h hhash hquestion
      simp only [hhash, hquestion, List.takeWhile_nil, readAuthority?_nil] at h
      cases h

/-- A path behind a path is a path with more segments. -/
theorem exists_readPath_append (front : List Char) : ∃ kept : List String,
    ∀ segments : List (List Char), segments ≠ [] →
      (∀ segment ∈ segments, isPlain segment = true) →
      readPath (front.dropWhile (!isSlash ·) ++ slashed segments)
        = kept ++ segments.map encoded := by
  have hfree : ∀ {segments : List (List Char)}, (∀ segment ∈ segments, isPlain segment = true) →
      ∀ segment ∈ segments, ∀ c ∈ segment, isSlash c = false := by
    intro segments hplain segment hmem c hc
    have hne : ∀ d ∈ special, c ≠ d := fun d hd heq =>
      not_mem_of_isPlain hplain hd segment hmem (heq ▸ hc)
    have hslash : c ≠ '/' := hne '/' (by decide)
    have hbackslash : c ≠ '\\' := hne '\\' (by decide)
    rw [isSlash, decide_eq_false hslash, decide_eq_false hbackslash, Bool.or_false]
  cases hdrop : front.dropWhile (!isSlash ·) with
  | nil =>
    refine ⟨[], fun segments hne hplain => ?_⟩
    have hslash : isSlash '/' = true := rfl
    have hsplit := splitOnP_append_slashed isSlash hslash (hfree hplain) []
    rw [List.nil_append, ← cons_intercalate_eq_slashed hne] at hsplit ⊢
    rw [List.splitOnP_cons_eq_if_modifyHead, if_pos hslash, List.splitOnP_nil] at hsplit
    have htail : (['/'].intercalate segments).splitOnP isSlash = segments :=
      List.tail_eq_of_cons_eq hsplit
    rw [readPath, if_pos hslash, splitOn_eq_splitOnP, htail, resolve_of_isPlain hplain]
  | cons c rest =>
    have hc : isSlash c = true := by
      have hhead := List.head?_dropWhile_not (!isSlash ·) front
      rw [hdrop] at hhead
      simpa using hhead
    obtain ⟨kept, hkept⟩ := exists_resolve_append (rest.splitOnP isSlash) []
    refine ⟨kept, fun segments hne hplain => ?_⟩
    rw [List.cons_append, readPath, if_pos hc, splitOn_eq_splitOnP,
      splitOnP_append_slashed isSlash rfl (hfree hplain), hkept segments hne,
      resolve_of_isPlain hplain]

end Base

/-- A URL with some more segments. -/
def extend (url : Url) (segments : List (List Char)) : Url :=
  { url with path := url.path ++ segments.map encoded }

/-- A path of plain segments behind a base URL is read as what the base alone tells, with the
segments behind it. That may be nothing only if the base ends with a blank. -/
theorem exists_server {base : String} {url : Url} (hread : read? base = some url)
    (hquery : url.query = none) (hfragment : url.fragment = none) : ∃ server : Option Url,
    (∀ url ∈ server, url.query = none ∧ url.fragment = none) ∧
    ((∀ c ∈ base.toList.getLast?, 32 < c.toNat) → server.isSome = true) ∧
    ∀ {text : String} {segments : List (List Char)} {last : Char},
      text.toList = base.toList ++ slashed segments →
      (slashed segments).getLast? = some last → 32 < last.toNat →
      (∀ segment ∈ segments, isPlain segment = true) →
      read? text = server.map (·.extend segments) := by
  rw [read?] at hread
  simp only [Option.bind_eq_bind, Option.bind_eq_some_iff] at hread
  obtain ⟨⟨name, rest⟩, hsplit, scheme, hscheme, hrest⟩ := hread
  obtain ⟨hhash, hquestion, hne⟩ := free_of_readRest? hrest hquery hfragment
  have hclean : clean base.toList ≠ [] := by
    intro hnil
    rw [hnil] at hsplit
    cases hsplit
  obtain ⟨gap, hgap, hnone, hcleanAppend⟩ := exists_clean_append hclean
  obtain ⟨kept, hkept⟩ := exists_readPath_append (rest.dropWhile isSlash ++ gap)
  let authority := readAuthority? scheme ((rest.dropWhile isSlash ++ gap).takeWhile (!isSlash ·))
  refine ⟨authority.map fun authority => ⟨scheme, authority, kept, none, none⟩, ?_, ?_, ?_⟩
  · intro url hurl
    obtain ⟨text, -, rfl⟩ := Option.map_eq_some_iff.1 hurl
    exact ⟨rfl, rfl⟩
  · intro hlast
    rw [readRest?_of_free scheme hhash hquestion] at hrest
    obtain ⟨text, htext, -⟩ := Option.map_eq_some_iff.1 hrest
    rw [Option.isSome_map]
    simp only [authority, hnone hlast, List.append_nil, htext, Option.isSome_some]
  intro text segments last htext hlast hblank hplain
  have hsegments : segments ≠ [] := by
    rintro rfl
    cases hlast
  have hcounts : ∀ c ∈ ['\t', '\n', '\r'], c ∉ slashed segments := by
    simp only [List.forall_mem_cons, List.not_mem_nil, false_implies, implies_true, and_true]
    exact ⟨not_mem_slashed hplain (by decide) (by decide),
      not_mem_slashed hplain (by decide) (by decide),
      not_mem_slashed hplain (by decide) (by decide)⟩
  have hcleanText : clean text.toList = clean base.toList ++ (gap ++ slashed segments) := by
    rw [htext, hcleanAppend hlast hblank hcounts, List.append_assoc]
  have hdrop := dropWhile_append_of_ne_nil hne (gap ++ slashed segments)
  have hnot : ∀ {c : Char}, c ∉ rest.dropWhile isSlash → 32 < c.toNat → c ∉ slashed segments →
      c ∉ (rest ++ (gap ++ slashed segments)).dropWhile isSlash := by
    intro c hrest hc hslashed
    rw [hdrop, List.mem_append, List.mem_append, not_or, not_or]
    exact ⟨hrest, fun hmem => absurd (hgap c hmem) (Nat.not_le.2 hc), hslashed⟩
  have hhashSlashed : '#' ∉ slashed segments := not_mem_slashed hplain (by decide) (by decide)
  have hquestionSlashed : '?' ∉ slashed segments := not_mem_slashed hplain (by decide) (by decide)
  rw [read?, hcleanText, splitAt?_append hsplit]
  simp only [Option.bind_eq_bind, Option.bind_some, hscheme]
  rw [readRest?_of_free scheme (hnot hhash (by decide) hhashSlashed)
    (hnot hquestion (by decide) hquestionSlashed), hdrop, ← List.append_assoc,
    takeWhile_append_slashed, dropWhile_append_slashed, hkept segments hsegments hplain,
    Option.map_map]
  rfl

theorem toList_target_extend {server : Url} (hquery : server.query = none)
    {segments : List (List Char)} (hne : segments ≠ []) :
    (server.extend segments).target.toList
      = slashed (server.path.map String.toList) ++ slashed (segments.map (encode pathSet)) := by
  have hkept : (segments.map encoded).map String.toList = segments.map (encode pathSet) := by
    simp only [List.map_map, encoded, Function.comp_def, String.toList_ofList]
  have hpath : (server.path ++ segments.map encoded).map String.toList ≠ [] :=
    mt List.map_eq_nil_iff.1
      (List.append_ne_nil_of_right_ne_nil _ (mt List.map_eq_nil_iff.1 hne))
  calc (server.extend segments).target.toList
    _ = '/' :: ['/'].intercalate ((server.path ++ segments.map encoded).map String.toList) := by
      simp only [target, extend, hquery, Option.elim_none, String.toList_append,
        String.toList_intercalate]
      exact List.append_nil _
    _ = slashed (server.path.map String.toList ++ segments.map (encode pathSet)) := by
      rw [cons_intercalate_eq_slashed hpath, List.map_append, hkept]
    _ = slashed (server.path.map String.toList) ++ slashed (segments.map (encode pathSet)) :=
      slashed_append _ _

/-- The target tells the segments behind those of the server. -/
theorem extend_inj {server : Url} (hquery : server.query = none)
    {segments others : List (List Char)} (hne : segments ≠ []) (hothersNe : others ≠ [])
    (h : ∀ segment ∈ segments, isPlain segment = true)
    (hothers : ∀ segment ∈ others, isPlain segment = true)
    (heq : (server.extend segments).target = (server.extend others).target) :
    segments = others := by
  have htext := congrArg String.toList heq
  rw [toList_target_extend hquery hne, toList_target_extend hquery hothersNe] at htext
  have hbytes := congrArg decode (List.append_cancel_left htext)
  rw [decode_slashed_encoded (not_mem_of_isPlain h (by decide)),
    decode_slashed_encoded (not_mem_of_isPlain hothers (by decide))] at hbytes
  exact slashed_inj (not_mem_of_isPlain h (by decide)) (not_mem_of_isPlain hothers (by decide))
    (flatMap_utf8EncodeChar_inj hbytes)

end ClusterInfra.Net.Url
