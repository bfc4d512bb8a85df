import KnowledgeClient.Http.Url
import KnowledgeClient.Proofs.Escaping
import KnowledgeClient.Proofs.Segments
import Mathlib.Data.List.TakeWhile

/-!
# Reading addresses

An address is read from its two ends: what an endpoint says of the scheme, the user,
the host, the port and the first segments does not depend on what is written below it,
and segments that hold none of the characters with a meaning of their own, and are no
dots, are put below it one by one, each escaped for itself.
-/

namespace KnowledgeClient
namespace Http
namespace Url

/-! ## Running over a text up to a character -/

theorem takeWhile_append_of_false
    {property : Char → Bool}
    {c : Char}
    (ends : property c = false)
    (before after : List Char) :
    (before ++ c :: after).takeWhile property = before.takeWhile property := by
  induction before with
  | nil => simp [ends]
  | cons first before inductionHypothesis =>
      cases holds : property first with
      | true => simp [holds, inductionHypothesis]
      | false => simp [holds]

theorem dropWhile_append_of_false
    {property : Char → Bool}
    {c : Char}
    (ends : property c = false)
    (before after : List Char) :
    (before ++ c :: after).dropWhile property = before.dropWhile property ++ c :: after := by
  induction before with
  | nil => simp [ends]
  | cons first before inductionHypothesis =>
      cases holds : property first with
      | true => simp [holds, inductionHypothesis]
      | false => simp [holds]

/-! ## Segments that read as they are -/

/-- A character that means nothing but itself in a segment of an address. -/
def isSegmentChar (c : Char) : Bool :=
  !(isSlash true c || isPathEnd c || c == '\t' || c == '\n' || c == '\r')

/-- The text reads as one segment of an address. -/
structure IsSegment (text : List Char) : Prop where
  plain : ∀ c ∈ text, isSegmentChar c = true
  noEscape : holdsEscape text = false
  notDot : text ≠ ['.']
  notDots : text ≠ ['.', '.']

instance (text : List Char) : Decidable (IsSegment text) :=
  decidable_of_iff (text.all isSegmentChar = true ∧ holdsEscape text = false ∧
      text ≠ ['.'] ∧ text ≠ ['.', '.'])
    ⟨fun ⟨plain, noEscape, notDot, notDots⟩ =>
        ⟨List.all_eq_true.mp plain, noEscape, notDot, notDots⟩,
      fun ⟨plain, noEscape, notDot, notDots⟩ =>
        ⟨List.all_eq_true.mpr plain, noEscape, notDot, notDots⟩⟩

theorem ne_of_isSegmentChar
    {c : Char}
    (plain : isSegmentChar c = true) :
    isSlash true c = false ∧ isPathEnd c = false ∧ c ≠ '\t' ∧ c ≠ '\n' ∧ c ≠ '\r' := by
  simpa [isSegmentChar, and_assoc] using plain

namespace IsSegment

variable {text : List Char}

theorem notMem
    (isSegment : IsSegment text)
    {c : Char}
    (special : isSegmentChar c = false) :
    c ∉ text := by
  intro member
  rw [isSegment.plain c member] at special
  cases special

end IsSegment

/-- The ways to write a dot. -/
def writtenDots : List (List Char) :=
  [['.'], ['%', '2', 'e'], ['%', '2', 'E']]

/-- A text begins with a dot, once its dots are written plainly, only if it begins with one
in some way. -/
theorem eq_of_plainDots_eq_dot_cons
    {text rest : List Char}
    (dots : plainDots text = '.' :: rest) :
    ∃ dot ∈ writtenDots, ∃ further, text = dot ++ further ∧ plainDots further = rest := by
  revert dots
  fun_cases plainDots text with
  | case1 further =>
      intro dots
      exact ⟨['%', '2', 'e'], by decide, further, rfl, (List.cons.inj dots).2⟩
  | case2 further =>
      intro dots
      exact ⟨['%', '2', 'E'], by decide, further, rfl, (List.cons.inj dots).2⟩
  | case3 c further =>
      intro dots
      obtain ⟨rfl, plain⟩ := List.cons.inj dots
      exact ⟨['.'], by decide, further, rfl, plain⟩
  | case4 =>
      intro dots
      cases dots

theorem eq_nil_of_plainDots_eq_nil
    {text : List Char}
    (none : plainDots text = []) :
    text = [] := by
  revert none
  fun_cases plainDots text <;> simp

/-- However a dot is written, it is one once the escapes are resolved. -/
theorem unescape_dot :
    ∀ dot ∈ writtenDots,
      unescape (dot.flatMap String.utf8EncodeChar) = ['.'].flatMap String.utf8EncodeChar ∧
      ∀ other ∈ writtenDots,
        unescape ((dot ++ other).flatMap String.utf8EncodeChar) =
          ['.', '.'].flatMap String.utf8EncodeChar := by
  decide

/-- A segment that is no dots is none once it is escaped, either. -/
theorem plainDots_escape
    {text : List Char}
    (isSegment : IsSegment text) :
    plainDots (escape escapedInPath text) ≠ ['.'] ∧
      plainDots (escape escapedInPath text) ≠ ['.', '.'] := by
  -- Escapes that stand for dots would resolve to dots, and these would be the segment itself.
  have resolved := unescape_escape escapedInPath isSegment.noEscape
  constructor
  · intro dots
    obtain ⟨dot, isDot, further, written, none⟩ := eq_of_plainDots_eq_dot_cons dots
    rw [eq_nil_of_plainDots_eq_nil none, List.append_nil] at written
    rw [written, (unescape_dot dot isDot).1] at resolved
    exact isSegment.notDot (flatMap_utf8EncodeChar_injective resolved).symm
  · intro dots
    obtain ⟨dot, isDot, further, written, one⟩ := eq_of_plainDots_eq_dot_cons dots
    obtain ⟨other, isOther, last, writtenLast, none⟩ := eq_of_plainDots_eq_dot_cons one
    rw [eq_nil_of_plainDots_eq_nil none, List.append_nil] at writtenLast
    rw [written, writtenLast, (unescape_dot dot isDot).2 other isOther] at resolved
    exact isSegment.notDots (flatMap_utf8EncodeChar_injective resolved).symm

/-! ## Segments below others -/

theorem pushSegment_escape
    {text : List Char}
    (isSegment : IsSegment text)
    (last : Bool)
    (reversed : List (List Char)) :
    pushSegment false last (escape escapedInPath text) reversed =
      escape escapedInPath text :: reversed := by
  obtain ⟨notDot, notDots⟩ := plainDots_escape isSegment
  simp [pushSegment, notDot, notDots]

/-- Segments that are put below others stand there one by one. -/
theorem resolveSegments_escape
    {texts : List (List Char)}
    (areSegments : ∀ text ∈ texts, IsSegment text)
    (reversed : List (List Char)) :
    resolveSegments false reversed (texts.map (escape escapedInPath)) =
      reversed.reverse ++ texts.map (escape escapedInPath) := by
  induction texts generalizing reversed with
  | nil => simp [resolveSegments]
  | cons text texts inductionHypothesis =>
      have isSegment := areSegments text List.mem_cons_self
      cases texts with
      | nil => simp [resolveSegments, pushSegment_escape isSegment]
      | cons next texts =>
          have rest := inductionHypothesis
            (fun other member => areSegments other (List.mem_cons_of_mem text member))
            (escape escapedInPath text :: reversed)
          simp only [List.map_cons, resolveSegments, pushSegment_escape isSegment] at rest ⊢
          rw [rest]
          simp

/-- The segments that come first are resolved before those that follow. -/
theorem resolveSegments_append
    (reversed earlier : List (List Char))
    {later : List (List Char)}
    (follow : later ≠ []) :
    resolveSegments false reversed (earlier ++ later) =
      resolveSegments false
        (earlier.foldl (fun before segment => pushSegment false false segment before) reversed)
        later := by
  induction earlier generalizing reversed with
  | nil => rfl
  | cons segment earlier inductionHypothesis =>
      -- Something follows every earlier segment, so that none is resolved as the last one.
      obtain ⟨next, rest, isRest⟩ : ∃ next rest, earlier ++ later = next :: rest :=
        List.exists_cons_of_ne_nil (by simp [follow])
      rw [List.cons_append, isRest, resolveSegments, ← isRest, inductionHypothesis]
      · rfl
      · simp

theorem cutAtSlash_append
    (special : Bool)
    (before after : List Char) :
    cutAtSlash special (before ++ '/' :: after) =
      cutAtSlash special before ++ cutAtSlash special after := by
  have slash : isSlash special '/' = true := rfl
  simp [cutAtSlash, slash, Text.cutAt_append]

/-- The characters of segments with a slash before each are slashes and plain ones. -/
theorem eq_slash_or_plain
    {texts : List (List Char)}
    (areSegments : ∀ text ∈ texts, IsSegment text)
    {written : List Char}
    (isWritten : '/' :: written = texts.flatMap ('/' :: ·))
    {c : Char}
    (member : c ∈ written) :
    c = '/' ∨ isSegmentChar c = true := by
  have inSegments : c ∈ texts.flatMap ('/' :: ·) := by
    rw [← isWritten]
    exact List.mem_cons_of_mem '/' member
  obtain ⟨text, isText, inText⟩ := List.mem_flatMap.mp inSegments
  rcases List.mem_cons.mp inText with isSlash | inSegment
  · exact .inl isSlash
  · exact .inr ((areSegments text isText).plain c inSegment)

/-- Segments with a slash before each are cut into themselves. -/
theorem cutAtSlash_of_segments
    {texts : List (List Char)}
    (areSegments : ∀ text ∈ texts, IsSegment text)
    {written : List Char}
    (isWritten : '/' :: written = texts.flatMap ('/' :: ·)) :
    cutAtSlash true written = texts.map (escape escapedInPath) := by
  have unchanged : written.map (fun c => if isSlash true c then '/' else c) = written := by
    nth_rewrite 2 [← List.map_id written]
    apply List.map_congr_left
    intro c member
    rcases eq_slash_or_plain areSegments isWritten member with rfl | plain
    · rfl
    · simp [(ne_of_isSegmentChar plain).1]
  have cut : texts.flatMap (Text.cutAt '/') = texts := by
    rw [Text.flatMap_cutAt_eq_self_iff]
    intro text isText
    exact (areSegments text isText).notMem (by decide)
  rw [cutAtSlash, unchanged, Text.cutAt_of_flatMap isWritten, cut]

/-! ## The start of an address -/

/-- What is left of the start of an address once it is cleaned. -/
def cleanedStart (text : List Char) : List Char :=
  (text.dropWhile isControlOrSpace).filter fun c => c != '\t' && c != '\n' && c != '\r'

/-- A start and an end that are parted by a slash are cleaned each for itself. -/
theorem cleaned_append
    (before : List Char)
    {after : List Char}
    (ends : ∀ last, ('/' :: after).getLast? = some last → isControlOrSpace last = false)
    (noLineEnd : ∀ c ∈ after, c ≠ '\t' ∧ c ≠ '\n' ∧ c ≠ '\r') :
    cleaned (before ++ '/' :: after) = cleanedStart before ++ '/' :: after := by
  obtain ⟨last, isLast⟩ : ∃ last, ('/' :: after).getLast? = some last :=
    Option.isSome_iff_exists.mp (by simp)
  obtain ⟨middle, written⟩ := List.getLast?_eq_some_iff.mp isLast
  have lastPlain : ¬ isControlOrSpace last = true := by
    rw [ends last isLast]
    exact Bool.false_ne_true
  have unchanged : ('/' :: after).filter
      (fun c => c != '\t' && c != '\n' && c != '\r') = '/' :: after := by
    rw [List.filter_eq_self]
    intro c member
    rcases List.mem_cons.mp member with rfl | inAfter
    · rfl
    · obtain ⟨noTab, noNewline, noReturn⟩ := noLineEnd c inAfter
      simp [noTab, noNewline, noReturn]
  have trimmed (start : List Char) :
      ((start ++ '/' :: after).reverse.dropWhile isControlOrSpace).reverse =
        start ++ '/' :: after := by
    rw [written, ← List.append_assoc, List.reverse_append, List.reverse_singleton,
      List.singleton_append, List.dropWhile_cons_of_neg lastPlain]
    simp
  unfold cleaned
  simp only
  rw [dropWhile_append_of_false (by decide), trimmed, List.filter_append, unchanged]
  rfl

/-- The scheme is read before the first slash. -/
theorem readScheme_append
    (before after : List Char) :
    readScheme (before ++ '/' :: after) =
      (readScheme before).map fun (scheme, rest) => (scheme, rest ++ '/' :: after) := by
  have slash : isSchemeChar '/' = false := by decide
  unfold readScheme
  rw [takeWhile_append_of_false slash, dropWhile_append_of_false slash]
  cases before.takeWhile isSchemeChar with
  | nil => rfl
  | cons first letters =>
      cases before.dropWhile isSchemeChar with
      | nil => rfl
      | cons mark rest =>
          by_cases isColon : mark = ':'
          · subst isColon
            simp only [List.cons_append]
            cases first.isAlpha <;> rfl
          · simp [isColon, Except.map]

/-- A character that ends the authority of a URL whose scheme is special. -/
def endsAuthority (c : Char) : Bool :=
  isSlash true c || isPathEnd c

/-- The user and the text of the host and the port at the start of a text. -/
def authorityOf (text : List Char) : Option (List Char) × List Char :=
  cutUser (text.takeWhile (!endsAuthority ·))

/-- What stands of the path behind an authority. -/
def pathStart (text : List Char) : List Char :=
  (cutPort false (authorityOf text).2).2.dropWhile (· != '\\') ++
    text.dropWhile (!endsAuthority ·)

/-- The name and the password of the user, the host and the port at the start of a text that
goes on with a path. -/
def readAuthority
    (scheme text : List Char) :
    Except UrlFault ((List Char × List Char) × List Char × Option Nat) := do
  let (user, authority) := authorityOf text
  let (hostText, portText) := cutPort false authority
  let host ← Host.ofSpecial hostText
  if host.isEmpty && !portText.isEmpty then .error .emptyHost
  else if lacksHost user authority ['/'] then .error .emptyHost
  else
    let port ← readPort scheme (portText.takeWhile (· != '\\'))
    .ok (readUser (user.getD []), host, port)

theorem mem_of_mem_cutPort
    {c : Char}
    {bracketed : Bool}
    {text : List Char}
    (member : c ∈ (cutPort bracketed text).2) :
    c ∈ text := by
  induction text generalizing bracketed with
  | nil => exact member
  | cons first rest inductionHypothesis =>
      unfold cutPort at member
      split at member
      · exact member
      · exact List.mem_cons_of_mem first (inductionHypothesis member)

theorem mem_of_mem_cutUser
    {c : Char}
    {text : List Char}
    (member : c ∈ (cutUser text).2) :
    c ∈ text := by
  unfold cutUser at member
  split at member
  · exact List.mem_reverse.mp ((List.takeWhile_sublist _).mem (List.mem_reverse.mp member))
  · exact List.mem_reverse.mp ((List.takeWhile_sublist _).mem (List.mem_reverse.mp member))

/-- What stands of the path behind an authority is part of the text. -/
theorem mem_of_mem_pathStart
    {c : Char}
    {text : List Char}
    (member : c ∈ pathStart text) :
    c ∈ text := by
  rcases List.mem_append.mp member with inPort | inRest
  · have inAuthority := mem_of_mem_cutPort ((List.dropWhile_sublist _).mem inPort)
    exact (List.takeWhile_sublist _).mem (mem_of_mem_cutUser inAuthority)
  · exact (List.dropWhile_sublist _).mem inRest

/-- What is written below an authority changes the path alone. -/
theorem readWithHost_append
    {scheme start below : List Char}
    (special : isSpecial scheme = true)
    (noEnd : ∀ c ∈ start, isPathEnd c = false)
    (noEndBelow : ∀ c ∈ below, isPathEnd c = false) :
    readWithHost scheme (start ++ '/' :: below) =
      (readAuthority scheme start).map fun (user, host, port) =>
        ⟨scheme, user.1, user.2, some host, port,
          readPathAfterHost true (pathStart start ++ '/' :: below), none, none⟩ := by
  have slashEnds : (!endsAuthority '/') = false := rfl
  have isEnd : (fun c => !(isSlash true c || isPathEnd c)) = (!endsAuthority ·) := rfl
  have before : (start ++ '/' :: below).takeWhile (!endsAuthority ·) =
      start.takeWhile (!endsAuthority ·) := takeWhile_append_of_false slashEnds start below
  have behind : (start ++ '/' :: below).dropWhile (!endsAuthority ·) =
      start.dropWhile (!endsAuthority ·) ++ '/' :: below :=
    dropWhile_append_of_false slashEnds start below
  have lacks (user : Option (List Char)) (host : List Char) :
      lacksHost user host (start.dropWhile (!endsAuthority ·) ++ '/' :: below) =
        lacksHost user host ['/'] := by
    have notEmpty : (start.dropWhile (!endsAuthority ·) ++ '/' :: below).isEmpty = false := by
      simp [List.isEmpty_eq_false_iff]
    unfold lacksHost
    rw [notEmpty]
    rfl
  have noPathEnd : ∀ c ∈ pathStart start ++ '/' :: below, (!isPathEnd c) = true := by
    intro c member
    rw [Bool.not_eq_true']
    rcases List.mem_append.mp member with inStart | inBelow
    · exact noEnd c (mem_of_mem_pathStart inStart)
    · rcases List.mem_cons.mp inBelow with rfl | inBelow
      · rfl
      · exact noEndBelow c inBelow
  have whole : (pathStart start ++ '/' :: below).takeWhile (!isPathEnd ·) =
      pathStart start ++ '/' :: below := List.takeWhile_eq_self_iff.mpr noPathEnd
  have nothing : (pathStart start ++ '/' :: below).dropWhile (!isPathEnd ·) = [] :=
    List.dropWhile_eq_nil_iff.mpr noPathEnd
  have parts : (cutPort false (authorityOf start).2).2.dropWhile (· != '\\') ++
      (start.dropWhile (!endsAuthority ·) ++ '/' :: below) =
        pathStart start ++ '/' :: below := by
    rw [pathStart, List.append_assoc]
  have authority : cutUser (start.takeWhile (!endsAuthority ·)) = authorityOf start := rfl
  -- The authority ends before the slash, so that the two readings go on alike up to the path.
  unfold readWithHost readAuthority
  simp only [special, isEnd, if_true, before, behind, authority, lacks, parts, whole, nothing]
  cases Host.ofSpecial (cutPort false (authorityOf start).2).1 with
  | error fault => rfl
  | ok host =>
      simp only [bind, Except.bind]
      split_ifs
      · rfl
      · rfl
      · cases readPort scheme ((cutPort false (authorityOf start).2).2.takeWhile (· != '\\')) with
        | error fault => rfl
        | ok port => rfl

/-! ## The path of an address -/

/-- The segments that a path starts with, before a slash. -/
def pathSegments (start : List Char) : List (List Char) :=
  match start with
  | [] => []
  | c :: rest =>
    ((cutAtSlash true (if isSlash true c then rest else c :: rest)).foldl
      (fun before segment => pushSegment false false segment before) []).reverse

/-- Segments that are written below a path are put behind its segments, each escaped. -/
theorem readPathAfterHost_append
    (start : List Char)
    {texts : List (List Char)}
    (areSegments : ∀ text ∈ texts, IsSegment text)
    {written : List Char}
    (isWritten : '/' :: written = texts.flatMap ('/' :: ·)) :
    readPathAfterHost true (start ++ '/' :: written) =
      .segments (pathSegments start ++ texts.map (escape escapedInPath)) := by
  have cut := cutAtSlash_of_segments areSegments isWritten
  have follow : texts.map (escape escapedInPath) ≠ [] := by
    rintro none
    rw [List.map_eq_nil_iff] at none
    rw [none] at isWritten
    cases isWritten
  have below (before : List Char) :
      readSegments true (before ++ '/' :: written) =
        .segments (((cutAtSlash true before).foldl
            (fun earlier segment => pushSegment false false segment earlier) []).reverse ++
          texts.map (escape escapedInPath)) := by
    rw [readSegments, cutAtSlash_append, cut, resolveSegments_append _ _ follow,
      resolveSegments_escape areSegments]
  cases start with
  | nil =>
      have direct : readPathAfterHost true ('/' :: written) = readSegments true written := rfl
      rw [List.nil_append, direct, readSegments, cut, resolveSegments_escape areSegments]
      rfl
  | cons c rest =>
      have direct : readPathAfterHost true (c :: rest ++ '/' :: written) =
          readSegments true ((if isSlash true c then rest else c :: rest) ++ '/' :: written) := by
        rw [List.cons_append, readPathAfterHost]
        split <;> rfl
      rw [direct, below]
      rfl

/-! ## The scheme of an address -/

theorem scheme_of_readWithHost
    {scheme text : List Char}
    {url : Url}
    (reading : readWithHost scheme text = .ok url) :
    url.scheme = scheme := by
  unfold readWithHost at reading
  simp only [bind, Except.bind] at reading
  repeat' split at reading
  all_goals cases reading
  all_goals rfl

theorem scheme_of_readOnHost
    {scheme text : List Char}
    {url : Url}
    (reading : readOnHost scheme text = .ok url) :
    url.scheme = scheme := by
  unfold readOnHost at reading
  simp only [bind, Except.bind] at reading
  repeat' split at reading
  all_goals cases reading
  all_goals rfl

theorem scheme_of_readFile
    {scheme text : List Char}
    {url : Url}
    (reading : readFile scheme text = .ok url) :
    url.scheme = scheme := by
  unfold readFile at reading
  repeat' split at reading
  case h_1.isTrue => exact scheme_of_readOnHost reading
  all_goals cases reading
  all_goals rfl

/-- An address is one of the web only if its scheme is read as one. -/
theorem isWeb_of_read
    {scheme rest : List Char}
    {text : String}
    {url : Url}
    (begins : readScheme (cleaned text.toList) = .ok (scheme, rest))
    (reading : read text = .ok url)
    (isWeb : url.isWeb = true) :
    (scheme = "http".toList ∨ scheme = "https".toList) ∧
      readWithHost scheme (rest.dropWhile (isSlash true)) = .ok url := by
  have web : url.scheme = "http".toList ∨ url.scheme = "https".toList := by
    simpa [Url.isWeb] using isWeb
  unfold read at reading
  rw [begins] at reading
  simp only [bind, Except.bind] at reading
  split at reading
  · rename_i isFile
    rw [scheme_of_readFile reading] at web
    rcases web with rfl | rfl <;> cases isFile
  · split at reading
    · rw [scheme_of_readWithHost reading] at web
      exact ⟨web, reading⟩
    · rename_i notSpecial
      have sameScheme : url.scheme = scheme := by
        split at reading
        · exact scheme_of_readWithHost reading
        · rw [← Except.ok.inj reading]
          rfl
      rw [sameScheme] at web
      rcases web with rfl | rfl
      · exact absurd (by decide) notSpecial
      · exact absurd (by decide) notSpecial

/-- What is left of an address behind its scheme is part of it. -/
theorem mem_of_readScheme
    {text scheme rest : List Char}
    (begins : readScheme text = .ok (scheme, rest))
    {c : Char}
    (member : c ∈ rest) :
    c ∈ text := by
  unfold readScheme at begins
  split at begins
  · rename_i letters more taken dropped
    split at begins
    · obtain ⟨_, rfl⟩ := Prod.mk.inj (Except.ok.inj begins)
      apply (List.dropWhile_sublist isSchemeChar).mem
      rw [dropped]
      exact List.mem_cons_of_mem _ member
    · cases begins
  · cases begins

/-! ## Addresses below an endpoint -/

/-- The text of a URL that has a host and segments, and nothing behind them. -/
theorem requestChars_of_segments
    (scheme user password host : List Char)
    (port : Option Nat)
    (earlier later : List (List Char)) :
    (withoutUser ⟨scheme, user, password, some host, port, .segments (earlier ++ later), none,
        none⟩).requestChars =
      (withoutUser ⟨scheme, user, password, some host, port, .segments earlier, none,
        none⟩).requestChars ++ later.flatMap ('/' :: ·) := by
  unfold withoutUser
  simp only
  split <;> simp [requestChars, userChars, pathChars]

/-- The text that segments are written as, without the slash before it, does not end a path. -/
theorem isPathEnd_of_segments
    {texts : List (List Char)}
    (areSegments : ∀ text ∈ texts, IsSegment text)
    {written : List Char}
    (isWritten : '/' :: written = texts.flatMap ('/' :: ·)) :
    ∀ c ∈ written, isPathEnd c = false := by
  intro c member
  rcases eq_slash_or_plain areSegments isWritten member with rfl | plain
  · rfl
  · exact (ne_of_isSegmentChar plain).2.1

/-- Below a text with an authority, a request names what the text says and then each segment,
escaped. -/
theorem requestChars_of_readWithHost
    {scheme start : List Char}
    (special : isSpecial scheme = true)
    (noEnd : ∀ c ∈ start, isPathEnd c = false)
    {texts : List (List Char)}
    (areSegments : ∀ text ∈ texts, IsSegment text)
    {written : List Char}
    (isWritten : '/' :: written = texts.flatMap ('/' :: ·))
    {url : Url}
    (reading : readWithHost scheme (start ++ '/' :: written) = .ok url) :
    ∃ user host port, readAuthority scheme start = .ok (user, host, port) ∧
      url.withoutUser.requestChars =
        (withoutUser ⟨scheme, user.1, user.2, some host, port,
          .segments (pathSegments (pathStart start)), none, none⟩).requestChars ++
        (texts.map (escape escapedInPath)).flatMap ('/' :: ·) := by
  rw [readWithHost_append special noEnd (isPathEnd_of_segments areSegments isWritten),
    readPathAfterHost_append _ areSegments isWritten] at reading
  cases authority : readAuthority scheme start with
  | error fault =>
      rw [authority] at reading
      cases reading
  | ok parts =>
      obtain ⟨user, host, port⟩ := parts
      rw [authority] at reading
      refine ⟨user, host, port, rfl, ?_⟩
      rw [← Except.ok.inj reading]
      apply requestChars_of_segments

/-- Where there is nothing between the scheme and the path, the first segment is the host. -/
theorem readAuthority_models
    {scheme : List Char}
    (web : scheme = "http".toList ∨ scheme = "https".toList) :
    readAuthority scheme "knowledge-models".toList =
      .ok (([], []), "knowledge-models".toList, none) := by
  rcases web with rfl | rfl <;> decide +kernel

/-- The segments are those of an address about a knowledge model: they read as they are, the
first is that of the knowledge models, and no control or space ends the last. -/
structure AreBelowModels (texts : List (List Char)) : Prop where
  first : ∃ next further, texts = "knowledge-models".toList :: next :: further
  areSegments : ∀ text ∈ texts, IsSegment text
  ends : ∀ last, (texts.flatMap ('/' :: ·)).getLast? = some last → isControlOrSpace last = false

/-- What the segments are written as is cleaned of nothing. -/
theorem AreBelowModels.cleaned_written
    {texts : List (List Char)}
    (areBelow : AreBelowModels texts)
    {written : List Char}
    (isWritten : '/' :: written = texts.flatMap ('/' :: ·))
    (before : List Char) :
    cleaned (before ++ '/' :: written) = cleanedStart before ++ '/' :: written := by
  apply cleaned_append
  · intro last isLast
    rw [isWritten] at isLast
    exact areBelow.ends last isLast
  · intro c member
    rcases eq_slash_or_plain areBelow.areSegments isWritten member with rfl | plain
    · decide
    · exact (ne_of_isSegmentChar plain).2.2

/-- What a request names before the segments that are written below a scheme and what stands
behind it.  Where that is nothing but slashes, the first segment becomes the host. -/
def startBelow (scheme rest : List Char) : List Char :=
  match rest.dropWhile (isSlash true) with
  | [] => scheme ++ [':', '/']
  | first :: more =>
    match readAuthority scheme (first :: more) with
    | .error _ => []
    | .ok (user, host, port) =>
      (withoutUser ⟨scheme, user.1, user.2, some host, port,
        .segments (pathSegments (pathStart (first :: more))), none, none⟩).requestChars

theorem requestChars_below_scheme
    {scheme rest : List Char}
    (web : scheme = "http".toList ∨ scheme = "https".toList)
    (noEnd : ∀ c ∈ rest, isPathEnd c = false)
    {texts : List (List Char)}
    (areBelow : AreBelowModels texts)
    {written : List Char}
    (isWritten : '/' :: written = texts.flatMap ('/' :: ·))
    {url : Url}
    (reading : readWithHost scheme ((rest ++ '/' :: written).dropWhile (isSlash true)) = .ok url) :
    url.withoutUser.requestChars =
      startBelow scheme rest ++ (texts.map (escape escapedInPath)).flatMap ('/' :: ·) := by
  have special : isSpecial scheme = true := by rcases web with rfl | rfl <;> decide
  rw [List.dropWhile_append] at reading
  unfold startBelow
  cases behind : rest.dropWhile (isSlash true) with
  | nil =>
      -- Nothing but slashes stands behind the scheme: the first segment is read as the host.
      obtain ⟨next, further, rfl⟩ := areBelow.first
      have isBehind : '/' :: (next ++ further.flatMap ('/' :: ·)) =
          (next :: further).flatMap ('/' :: ·) := rfl
      have written_eq : ('/' :: written).dropWhile (isSlash true) =
          "knowledge-models".toList ++ '/' :: (next ++ further.flatMap ('/' :: ·)) := by
        rw [isWritten]
        rfl
      have areSegments : ∀ text ∈ next :: further, IsSegment text := fun text isText =>
        areBelow.areSegments text (List.mem_cons_of_mem _ isText)
      have noEndModels : ∀ c ∈ "knowledge-models".toList, isPathEnd c = false := by
        simp [isPathEnd]
      rw [behind, List.isEmpty_nil, if_pos rfl, written_eq] at reading
      obtain ⟨user, host, port, authority, named⟩ :=
        requestChars_of_readWithHost special noEndModels areSegments isBehind reading
      rw [readAuthority_models web] at authority
      obtain ⟨rfl, parts⟩ := Prod.mk.inj (Except.ok.inj authority)
      obtain ⟨rfl, rfl⟩ := Prod.mk.inj parts
      have isStart : (withoutUser ⟨scheme, [], [], some "knowledge-models".toList, none,
          .segments (pathSegments (pathStart "knowledge-models".toList)), none,
          none⟩).requestChars =
            scheme ++ [':', '/'] ++ '/' :: "knowledge-models".toList := by
        rcases web with rfl | rfl <;> decide
      have unchanged : escape escapedInPath "knowledge-models".toList =
          "knowledge-models".toList := by decide
      have escaped : ("knowledge-models".toList :: next :: further).map (escape escapedInPath) =
          "knowledge-models".toList :: (next :: further).map (escape escapedInPath) := by
        rw [List.map_cons, unchanged]
      rw [named, isStart, escaped, List.flatMap_cons, List.append_assoc, List.append_assoc]
  | cons first more =>
      have noEndBehind : ∀ c ∈ first :: more, isPathEnd c = false := by
        intro c member
        rw [← behind] at member
        exact noEnd c ((List.dropWhile_sublist _).mem member)
      rw [behind, List.isEmpty_cons, if_neg Bool.false_ne_true] at reading
      obtain ⟨user, host, port, authority, named⟩ :=
        requestChars_of_readWithHost special noEndBehind areBelow.areSegments isWritten reading
      simp only [authority]
      exact named

/-- What a request names before the segments that are written below a base. -/
def requestStart (base : List Char) : List Char :=
  match readScheme (cleanedStart base) with
  | .error _ => []
  | .ok (scheme, rest) => startBelow scheme rest

/-- Whatever is written below a base without a query and a fragment, the request names what
the base says and then each segment, escaped. -/
theorem requestChars_of_read
    {base : List Char}
    (noEnd : ∀ c ∈ base, isPathEnd c = false)
    {texts : List (List Char)}
    (areBelow : AreBelowModels texts)
    {url : Url}
    (reading : read (String.ofList (base ++ texts.flatMap ('/' :: ·))) = .ok url)
    (isWeb : url.isWeb = true) :
    url.withoutUser.requestChars =
      requestStart base ++ (texts.map (escape escapedInPath)).flatMap ('/' :: ·) := by
  obtain ⟨written, isWritten⟩ : ∃ written, '/' :: written = texts.flatMap ('/' :: ·) := by
    obtain ⟨next, further, rfl⟩ := areBelow.first
    exact ⟨_, rfl⟩
  have cleans := areBelow.cleaned_written isWritten base
  unfold requestStart
  cases begins : readScheme (cleanedStart base) with
  | error fault =>
      rw [← isWritten, read, String.toList_ofList, cleans, readScheme_append, begins] at reading
      cases reading
  | ok parts =>
      obtain ⟨scheme, rest⟩ := parts
      have noEndRest : ∀ c ∈ rest, isPathEnd c = false := by
        intro c member
        have inStart := mem_of_readScheme begins member
        exact noEnd c ((List.dropWhile_sublist _).mem (List.mem_of_mem_filter inStart))
      have begins_written : readScheme (cleaned
          (String.ofList (base ++ texts.flatMap ('/' :: ·))).toList) =
            .ok (scheme, rest ++ '/' :: written) := by
        rw [String.toList_ofList, ← isWritten, cleans, readScheme_append, begins]
        rfl
      obtain ⟨web, readsHost⟩ := isWeb_of_read begins_written reading isWeb
      exact requestChars_below_scheme web noEndRest areBelow isWritten readsHost

end Url
end Http
end KnowledgeClient
