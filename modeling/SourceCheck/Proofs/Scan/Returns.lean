import SourceCheck.Balance.Report
import SourceCheck.Proofs.Language.Compile
import SourceCheck.Proofs.Scan.LineEnds

/-!
Lines that end with a carriage return and a newline. Where strings end with their line and no marker
holds either character, the carriage return is a blank, or the last character of a comment or of an
open string; in each case the scan comes to the newline as without it.
-/

namespace SourceCheck

namespace Text

def isLineEnd (c : Char) : Bool := c == '\r' || c == '\n'

def withReturns (text : List Char) : List Char :=
  text.flatMap fun c => if c = '\n' then ['\r', '\n'] else [c]

theorem withReturns_newline (text : List Char) :
    withReturns ('\n' :: text) = '\r' :: '\n' :: withReturns text := rfl

theorem withReturns_cons {c : Char} (hc : c ≠ '\n') (text : List Char) :
    withReturns (c :: text) = c :: withReturns text := by
  simp [withReturns, hc]

theorem withReturns_append (s t : List Char) :
    withReturns (s ++ t) = withReturns s ++ withReturns t := List.flatMap_append

theorem withReturns_line {line : List Char} (h : '\n' ∉ line) : withReturns line = line := by
  induction line with
  | nil => rfl
  | cons c line ih =>
    rw [List.mem_cons, not_or] at h
    rw [withReturns_cons (Ne.symm h.1), ih h.2]

theorem withReturns_before_newline {line : List Char} (h : '\n' ∉ line) (later : List Char) :
    withReturns (line ++ '\n' :: later) = line ++ '\r' :: '\n' :: withReturns later := by
  rw [withReturns_append, withReturns_line h, withReturns_newline]

/-- What neither end of a line lets look further is the same with both of them. -/
theorem congr_withReturns {α : Type} {f : List Char → α}
    (hreturn : ∀ line later, f (line ++ '\r' :: later) = f line)
    (hnewline : ∀ line later, f (line ++ '\n' :: later) = f line) (text : List Char) :
    f (withReturns text) = f text := by
  obtain ⟨line, hline, rfl | ⟨later, rfl⟩⟩ := exists_line text
  · rw [withReturns_line hline]
  · rw [withReturns_before_newline hline, hreturn, hnewline]

theorem after_withReturns (position : Position) (text : List Char) :
    position.after (withReturns text) = position.after text := by
  induction text generalizing position with
  | nil => rfl
  | cons c text ih =>
    by_cases hc : c = '\n'
    · subst hc
      exact ih ((position.next '\r').next '\n')
    · rw [withReturns_cons hc]
      exact ih (position.next c)

theorem blank_withReturns {blanks : List Char} (h : Blank blanks) :
    Blank (withReturns blanks) := by
  intro c hc
  obtain ⟨d, hd, hmem⟩ := List.mem_flatMap.mp hc
  split at hmem
  · rcases List.mem_cons.mp hmem with rfl | hmem
    · decide
    · rw [List.mem_singleton.mp hmem]
      decide
  · rw [List.mem_singleton.mp hmem]
    exact h d hd

theorem currentLine_return {r : LineReader} (h : '\r' ∉ r.current) :
    LineReader.currentLine ⟨r.finished, '\r' :: r.current⟩ = r.currentLine := by
  unfold LineReader.currentLine
  split
  · next before hbefore =>
    obtain rfl := (List.cons.inj hbefore).2
    split
    · next before hr =>
      rw [hr] at h
      exact absurd List.mem_cons_self h
    · rfl
  · next hline => exact absurd rfl (hline r.current)

theorem foldl_push_withReturns {text : List Char} (htext : '\r' ∉ text) {r : LineReader}
    (hr : '\r' ∉ r.current) :
    (withReturns text).foldl LineReader.push r = text.foldl LineReader.push r := by
  induction text generalizing r with
  | nil => rfl
  | cons c text ih =>
    rw [List.mem_cons, not_or] at htext
    obtain ⟨hc, htext⟩ := htext
    by_cases hline : c = '\n'
    · subst hline
      have hpush : (r.push '\r').push '\n' = r.push '\n' :=
        congrArg (fun line => LineReader.mk (line :: r.finished) []) (currentLine_return hr)
      rw [withReturns_newline, List.foldl_cons, List.foldl_cons, List.foldl_cons, hpush]
      exact ih htext List.not_mem_nil
    · have hpush : r.push c = ⟨r.finished, c :: r.current⟩ := by simp [LineReader.push, hline]
      rw [withReturns_cons hline, List.foldl_cons, List.foldl_cons, hpush]
      apply ih htext
      rw [List.mem_cons, not_or]
      exact ⟨hc, hr⟩

theorem lineTable_withReturns {text : List Char} (h : '\r' ∉ text) :
    lineTable (withReturns text) = lineTable text := by
  rw [lineTable, lineTable, foldl_push_withReturns h List.not_mem_nil]

end Text

namespace Marker

open Text (withReturns)

variable {m : Marker}

theorem begins_withReturns (hm : m.Avoids Text.isLineEnd) (input : List Char) :
    m.begins (withReturns input) = m.begins input := by
  have hreturn : '\r' ∉ m.chars := hm.not_mem (by decide)
  have hnewline : '\n' ∉ m.chars := hm.not_mem (by decide)
  exact Text.congr_withReturns (begins_before hreturn) (begins_before hnewline) input

theorem end?_withReturns (hm : m.Avoids Text.isLineEnd) (input : List Char) :
    m.end? (withReturns input) =
      (m.end? input).map fun length => (withReturns (input.take length)).length := by
  induction input with
  | nil => rfl
  | cons c input ih =>
    have hbegins := begins_withReturns hm (c :: input)
    by_cases hc : c = '\n'
    · -- Neither character of the line end begins the marker.
      subst hc
      rw [Text.withReturns_newline, hm.end?_cons (by decide), hm.end?_cons (by decide),
        hm.end?_cons (by decide), ih]
      cases m.end? input <;> simp [Text.withReturns_newline]
    · rw [Text.withReturns_cons hc] at hbegins ⊢
      rw [end?, end?, hbegins]
      by_cases hmarker : m.begins (c :: input) = true
      · obtain ⟨later, hinput, -⟩ := begins_cons hmarker
        have hline : '\n' ∉ m.chars := hm.not_mem (by decide)
        have htake : (c :: input).take (m.rest.length + 1) = m.chars := by
          rw [hinput, ← length_chars, List.take_left]
        rw [if_pos hmarker, if_pos hmarker, Option.map_some, htake, Text.withReturns_line hline,
          length_chars]
      · rw [if_neg hmarker, if_neg hmarker, ih]
        cases m.end? input <;> simp [Text.withReturns_cons hc]

end Marker

namespace Vocabulary

/-- Markers hold neither end of a line, and strings end with their line. -/
structure LineByLine (v : Vocabulary) : Prop where
  single : v.multilineStrings = false
  markers : v.MarkersAvoid Text.isLineEnd
  closing : ∀ block ∈ v.blockComment, block.closing.Avoids Text.isLineEnd

instance (v : Vocabulary) : Decidable v.LineByLine :=
  decidable_of_iff (v.multilineStrings = false ∧ v.MarkersAvoid Text.isLineEnd ∧
      ∀ block ∈ v.blockComment, block.closing.Avoids Text.isLineEnd)
    ⟨fun ⟨single, markers, closing⟩ => ⟨single, markers, closing⟩,
      fun h => ⟨h.single, h.markers, h.closing⟩⟩

end Vocabulary

namespace Scan

open Text (withReturns)

namespace StringBody

theorem read_single_open {quote d : Char} (multiline : Bool) (hd : d ≠ quote) :
    (read quote multiline [d]).closed = false := by
  rw [read, if_neg hd]
  split
  · rfl
  split <;> rfl

/-- A further character does not close an open string, unless it is the quote. -/
theorem read_open_concat {quote d : Char} {multiline : Bool} {input : List Char} (hd : d ≠ quote)
    (h : (read quote multiline input).closed = false) :
    (read quote multiline (input ++ [d])).closed = false := by
  fun_induction read quote multiline input with
  | case1 => exact read_single_open multiline hd
  | case2 => cases h
  | case3 c input hquote hline =>
    obtain ⟨rfl, hsingle⟩ := hline
    rw [Bool.eq_false_iff.mpr hsingle, List.cons_append, read_newline (Ne.symm hquote)]
  | case4 hquote hline =>
    rw [List.cons_append, List.nil_append, read, if_neg hquote, if_neg hline, if_pos rfl]
    split
    · exact read_single_open multiline hd
    · rfl
  | case5 e rest he hquote hline ih =>
    rw [List.cons_append, List.cons_append, read, if_neg hquote, if_neg hline, if_pos rfl,
      if_pos he]
    exact ih h
  | case6 e rest hquote hline he ih =>
    rw [List.cons_append, List.cons_append, read, if_neg hquote, if_neg hline, if_pos rfl,
      if_neg he]
    exact ih h
  | case7 c input hquote hline hescape ih =>
    rw [List.cons_append, read_plain hquote hline hescape]
    exact ih h

end StringBody

variable {v : Vocabulary} {c : Char} {input : List Char}

/-- How the span that begins with `c` is found with the carriage returns in the input behind it. It
holds those of its own lines, and the next one as well if it goes on to the end of its line. The
text of a token is the same. -/
inductive Resumed (v : Vocabulary) (c : Char) (input : List Char) (kind : SpanKind)
    (length : Nat) : Prop where
  | same
      (hspan : spanAt v c (withReturns input) = (kind, (withReturns (input.take length)).length))
      (htext : (∀ token, kind ≠ .token token) ∨ '\n' ∉ input.take length)
  | further (later : List Char)
      (hspan : spanAt v c (withReturns input) = (kind, length + 1))
      (hkind : ∀ token, kind ≠ .token token)
      (hline : '\n' ∉ input.take length)
      (hrest : input.drop length = '\n' :: later)

theorem lineComment?_withReturns (hv : v.LineByLine) (hc : c ≠ '\n') (input : List Char) :
    v.lineComment? (c :: withReturns input) = v.lineComment? (c :: input) := by
  have hsame := Text.congr_withReturns (f := v.lineComment?)
    (Vocabulary.lineComment?_before hv.markers (by decide))
    (Vocabulary.lineComment?_before hv.markers (by decide)) (c :: input)
  rwa [Text.withReturns_cons hc] at hsame

theorem opening_withReturns (hv : v.LineByLine) (hc : c ≠ '\n') {block : BlockComment}
    (hblock : v.blockComment = some block) (input : List Char) :
    block.opening.begins (c :: withReturns input) = block.opening.begins (c :: input) := by
  have hsame := Marker.begins_withReturns (hv.markers.blockComment block hblock) (c :: input)
  rwa [Text.withReturns_cons hc] at hsame

theorem ignored?_none_withReturns (hv : v.LineByLine) (h : ignored? v c input = none) :
    ignored? v c (withReturns input) = none := by
  obtain ⟨hblank, hline, hblock⟩ := ignored?_none_iff.mp h
  have hc := ne_newline_of_not_blank hblank
  refine ignored?_none_iff.mpr ⟨hblank, ?_, ?_⟩
  · rw [lineComment?_withReturns hv hc, hline]
  · intro block hfound
    rw [opening_withReturns hv hc hfound, hblock block hfound]

theorem length_of_unterminated {quote : Char} {line : List Char} (hline : '\n' ∉ line)
    (h : (lexeme v c line).1 = .fault (.unterminatedString quote)) :
    (lexeme v c line).2 = line.length := by
  have hle := lexeme_le v c line
  rcases drop_of_unterminated h with hend | ⟨-, later, hend⟩
  · exact Nat.le_antisymm hle (List.drop_eq_nil_iff.mp hend)
  · have hmem : '\n' ∈ line.drop (lexeme v c line).2 := hend ▸ List.mem_cons_self
    exact absurd (List.mem_of_mem_drop hmem) hline

/-- An open string takes the carriage return at the end of its line with it. -/
theorem unterminated_return {quote : Char} {line : List Char} (hblank : ¬ Text.isBlank c = true)
    (hline : '\n' ∉ line) (h : (lexeme v c line).1 = .fault (.unterminatedString quote)) :
    lexeme v c (line ++ ['\r']) = ((lexeme v c line).1, line.length + 1) := by
  obtain ⟨hquote, hopen⟩ := open_of_unterminated h
  have hreturn : '\r' ≠ c := by
    rintro rfl
    exact hblank (by decide)
  have hfault := lexeme_of_open hquote (StringBody.read_open_concat hreturn hopen)
  have hlength := length_of_unterminated (by simpa using hline) (congrArg Prod.fst hfault)
  refine Prod.ext ?_ (hlength.trans (by simp))
  rw [hfault, lexeme_of_open hquote hopen]

theorem resumed_lexeme (hv : v.LineByLine) (h : ignored? v c input = none) :
    Resumed v c input (spanAt v c input).1 (spanAt v c input).2 := by
  have hblank := (ignored?_none_iff.mp h).1
  have hc := ne_newline_of_not_blank hblank
  have hspan := spanAt_of_not_ignored (ignored?_none_withReturns hv h)
  have hnewline := newline_not_mem_lexeme hv.markers (by decide) hv.single hc input
  rw [spanAt_of_not_ignored h]
  obtain ⟨line, hline, rfl | ⟨later, rfl⟩⟩ := Text.exists_line input
  · refine .same ?_ (.inr hnewline)
    rw [hspan, Text.withReturns_line hnewline, Text.withReturns_line hline,
      List.length_take_of_le (lexeme_le v c input)]
  have hreturns := Text.withReturns_before_newline hline later
  rw [hreturns] at hspan
  rw [lexeme_before_line hv.markers (by decide) hv.single hc] at hnewline ⊢
  have hle := lexeme_le v c line
  by_cases hopen : ∃ quote, (lexeme v c line).1 = .fault (.unterminatedString quote)
  · obtain ⟨quote, hquote⟩ := hopen
    have hlength := length_of_unterminated hline hquote
    refine .further later ?_ ?_ hnewline ?_
    · rw [hreturns, hspan, List.append_cons,
        lexeme_before_line hv.markers (by decide) hv.single hc,
        unterminated_return hblank hline hquote, hlength]
    · intro token htoken
      rw [hquote] at htoken
      cases htoken
    · rw [hlength, List.drop_left]
  · refine .same ?_ (.inr hnewline)
    have hbefore : lexeme v c (line ++ '\r' :: '\n' :: withReturns later) = lexeme v c line := by
      apply lexeme_before (by decide) hv.markers (by decide)
      intro hquote
      exact StringBody.read_append
        (closed_of_lexeme hquote fun quote hfault => hopen ⟨quote, hfault⟩) _
    rw [hreturns, hspan, hbefore, Text.withReturns_line hnewline,
      List.take_append_of_le_length hle, List.length_take_of_le hle]

theorem withReturns_rest {m : Marker} (hm : m.Avoids Text.isLineEnd)
    (hbegins : m.begins (c :: input) = true) :
    ∃ body, input = m.rest ++ body ∧ '\n' ∉ m.rest ∧
      withReturns input = m.rest ++ withReturns body := by
  obtain ⟨body, -, rfl⟩ := Marker.begins_cons hbegins
  have hchars : '\n' ∉ m.chars := hm.not_mem (by decide)
  have hrest : '\n' ∉ m.rest := by
    intro hmem
    exact hchars (List.mem_cons_of_mem m.first hmem)
  exact ⟨body, rfl, hrest, by rw [Text.withReturns_append, Text.withReturns_line hrest]⟩

theorem runLength_line {line : List Char} (hline : '\n' ∉ line) :
    runLength (· ≠ '\n') line = line.length := by
  have hall : ∀ d ∈ line, decide (d ≠ '\n') = true := by
    intro d hd
    exact decide_eq_true fun heq => hline (heq ▸ hd)
  rw [runLength, ← List.append_nil line, List.takeWhile_append_of_pos hall]
  rfl

theorem resumed_lineComment (hv : v.LineByLine) {m : Marker} (hblank : ¬ Text.isBlank c = true)
    (hmarker : v.lineComment? (c :: input) = some m) :
    Resumed v c input .comment
      (m.rest.length + runLength (· ≠ '\n') (input.drop m.rest.length)) := by
  have hm := hv.markers.lineComments m (List.mem_of_find?_eq_some hmarker)
  have hspan : spanAt v c (withReturns input) = (.comment,
      m.rest.length + runLength (· ≠ '\n') ((withReturns input).drop m.rest.length)) := by
    have hfound := lineComment?_withReturns hv (ne_newline_of_not_blank hblank) input
    exact spanAt_of_ignored (by rw [ignored?, if_neg hblank, hfound, hmarker])
  have hkind : ∀ token, SpanKind.comment ≠ .token token := by
    intro token htoken
    cases htoken
  obtain ⟨body, rfl, hrest, hbody⟩ := withReturns_rest hm (Vocabulary.lineComment?_begins hmarker)
  rw [hbody, List.drop_left, ← hbody] at hspan
  rw [List.drop_left]
  obtain ⟨line, hline, rfl | ⟨later, rfl⟩⟩ := Text.exists_line body
  · refine .same ?_ (.inl hkind)
    rw [hspan, Text.withReturns_line hline, runLength_line hline, ← List.length_append,
      List.take_length, Text.withReturns_line (List.not_mem_append hrest hline)]
  · have hreturn : '\n' ∉ line ++ ['\r'] := by simpa using hline
    rw [runLength_before (by decide), runLength_line hline]
    refine .further later ?_ hkind ?_ ?_
    · rw [hspan, Text.withReturns_before_newline hline, List.append_cons,
        runLength_before (by decide), runLength_line hreturn, List.length_append]
      rfl
    · rw [← List.append_assoc, ← List.length_append, List.take_left]
      exact List.not_mem_append hrest hline
    · rw [← List.append_assoc, ← List.length_append, List.drop_left]

theorem resumed_blockComment (hv : v.LineByLine) {block : BlockComment}
    (hblank : ¬ Text.isBlank c = true) (hline : v.lineComment? (c :: input) = none)
    (hblock : v.blockComment = some block) (hbegins : block.opening.begins (c :: input) = true) :
    Resumed v c input (spanAt v c input).1 (spanAt v c input).2 := by
  have hc := ne_newline_of_not_blank hblank
  have hreturns := ignored?_opening hblank (by rwa [lineComment?_withReturns hv hc]) hblock
    (by rwa [opening_withReturns hv hc hblock])
  have hplain := ignored?_opening hblank hline hblock hbegins
  obtain ⟨body, rfl, hrest, hbody⟩ := withReturns_rest (hv.markers.blockComment block hblock) hbegins
  rw [List.drop_left] at hplain
  rw [hbody, List.drop_left, Marker.end?_withReturns (hv.closing block hblock), ← hbody] at hreturns
  cases hend : block.closing.end? body with
  | some length =>
    rw [hend] at hplain hreturns
    rw [spanAt_of_ignored hplain]
    refine .same ?_ (.inl (not_token_of_ignored hplain))
    rw [spanAt_of_ignored hreturns, List.take_length_add_append, Text.withReturns_append,
      Text.withReturns_line hrest, List.length_append]
  | none =>
    rw [hend] at hplain hreturns
    rw [spanAt_of_ignored hplain]
    refine .same ?_ (.inl (not_token_of_ignored hplain))
    rw [spanAt_of_ignored hreturns, List.take_length]

theorem resumed_spanAt (hv : v.LineByLine) (hblank : ¬ Text.isBlank c = true)
    (input : List Char) : Resumed v c input (spanAt v c input).1 (spanAt v c input).2 := by
  cases hfound : ignored? v c input with
  | none => exact resumed_lexeme hv hfound
  | some span =>
    obtain ⟨kind, length⟩ := span
    rw [spanAt_of_ignored hfound]
    cases ignored_of_eq_some hfound with
    | blank hfirst => exact absurd hfirst hblank
    | lineComment _ hline => exact resumed_lineComment hv hblank hline
    | blockComment _ hline hblock hbegins =>
      have hspan := resumed_blockComment hv hblank hline hblock hbegins
      rwa [spanAt_of_ignored hfound] at hspan
    | unterminated _ hline hblock hbegins =>
      have hspan := resumed_blockComment hv hblank hline hblock hbegins
      rwa [spanAt_of_ignored hfound] at hspan

theorem Span.event?_of_not_token {kind : SpanKind} (hkind : ∀ token, kind ≠ .token token)
    (s t : List Char) (position : Position) :
    (⟨kind, s⟩ : Span).event? position = (⟨kind, t⟩ : Span).event? position := by
  cases kind with
  | token token => exact absurd rfl (hkind token)
  | blank => rfl
  | comment => rfl
  | fault reason => rfl

/-- From one span to the next: both scans stand at the same position behind it, or one of them is
still at the carriage return, which is a blank there. -/
theorem eventsFrom_resumed (hc : c ≠ '\n') {kind : SpanKind} {length : Nat}
    (h : Resumed v c input kind length) {rest : List Span}
    (hrest : ∀ position, eventsFrom position (spans v (withReturns (input.drop length))) =
      eventsFrom position rest) (position : Position) :
    eventsFrom position (spans v (withReturns (c :: input))) =
      eventsFrom position (⟨kind, c :: input.take length⟩ :: rest) := by
  rw [Text.withReturns_cons hc, spans_cons, eventsFrom_cons, eventsFrom_cons]
  cases h with
  | same hspan htext =>
    have hinput : withReturns input =
        withReturns (input.take length) ++ withReturns (input.drop length) := by
      rw [← Text.withReturns_append, List.take_append_drop]
    have hevent : (⟨kind, c :: withReturns (input.take length)⟩ : Span).event? position =
        (⟨kind, c :: input.take length⟩ : Span).event? position := by
      rcases htext with hkind | hline
      · exact Span.event?_of_not_token hkind _ _ position
      · rw [Text.withReturns_line hline]
    have hafter := Text.after_withReturns position (c :: input.take length)
    rw [Text.withReturns_cons hc] at hafter
    rw [hspan, hinput, List.take_left, List.drop_left, hevent, hafter, hrest]
  | further later hspan hkind hline hnext =>
    have hlength : (input.take length ++ ['\r']).length = length + 1 := by
      have hleft := congrArg List.length hnext
      rw [List.length_drop, List.length_cons] at hleft
      rw [List.length_append, List.length_take_of_le (by omega)]
      rfl
    have hinput : withReturns input =
        input.take length ++ ['\r'] ++ '\n' :: withReturns later := by
      rw [← List.append_cons, ← Text.withReturns_before_newline hline, ← hnext,
        List.take_append_drop]
    have hevent := Span.event?_of_not_token hkind (c :: (input.take length ++ ['\r']))
      (c :: input.take length) position
    have hblank : Text.Blank ['\r'] := by decide
    have hreturn := eventsFrom_blanks (v := v) hblank (position.after (c :: input.take length))
      ('\n' :: withReturns later)
    have hbehind := hrest (position.after (c :: input.take length))
    rw [hnext, Text.withReturns_newline] at hbehind
    rw [hspan, hinput, List.take_left' hlength, List.drop_left' hlength, hevent, ← hbehind,
      ← List.cons_append, Position.after_append, ← hreturn]
    rfl

theorem eventsFrom_withReturns (hv : v.LineByLine) (input : List Char) :
    ∀ position, eventsFrom position (spans v (withReturns input)) =
      eventsFrom position (spans v input) := by
  induction input using spans_induction (v := v) with
  | nil => exact fun _ => rfl
  | cons c input ih =>
    intro position
    by_cases hblank : Text.isBlank c = true
    · rw [spanAt_of_blank hblank, drop_runLength] at ih
      rw [spanAt_of_blank hblank, take_runLength, drop_runLength]
      have hinput : withReturns (c :: input) =
          withReturns (c :: input.takeWhile Text.isBlank) ++
            withReturns (input.dropWhile Text.isBlank) := by
        rw [← Text.withReturns_append, List.cons_append, List.takeWhile_append_dropWhile]
      have hblanks := Text.blank_withReturns (blank_run hblank input)
      rw [hinput, eventsFrom_blanks hblanks, Text.after_withReturns, ih, eventsFrom_cons]
      rfl
    · exact eventsFrom_resumed (ne_newline_of_not_blank hblank) (resumed_spanAt hv hblank input) ih
        position

theorem events_withReturns (hv : v.LineByLine) (text : List Char) :
    events v (withReturns text) = events v text := eventsFrom_withReturns hv text .start

end Scan

namespace Source

def withReturns (source : Source) : Source :=
  ⟨source.name, String.ofList (Text.withReturns source.text.toList)⟩

variable {source : Source}

theorem toList_withReturns (source : Source) :
    source.withReturns.text.toList = Text.withReturns source.text.toList := String.toList_ofList

theorem diagnostic_withReturns (htext : '\r' ∉ source.text.toList) :
    source.withReturns.diagnostic = source.diagnostic := by
  funext found
  rw [diagnostic, diagnostic, Text.lineText_eq, Text.lineText_eq, toList_withReturns,
    Text.lineTable_withReturns htext]
  rfl

end Source

/-- Of the text of a source, the diagnostics of a balance check show the lines only. -/
theorem Balance.diagnostics_congr {b b' : TokenBuffer} (hname : b.source.name = b'.source.name)
    (htokens : b.tokens = b'.tokens) (hlines : b.lines = b'.lines) (verdict : Verdict) :
    diagnostics verdict b = diagnostics verdict b' := by
  obtain ⟨⟨name, text⟩, tokens, lines⟩ := b
  obtain ⟨⟨name', text'⟩, tokens', lines'⟩ := b'
  subst hname htokens hlines
  rfl

/-- The tokens, the lines and all of the diagnostics of a source are those that it has with a
carriage return before each newline, and so is what the balance check finds in it. -/
theorem line_endings_do_not_matter (source : Source) (v : Vocabulary) (hv : v.LineByLine)
    (htext : '\r' ∉ source.text.toList) :
    (source.withReturns.scan v).buffer.tokens = (source.scan v).buffer.tokens ∧
      (source.withReturns.scan v).buffer.lines = (source.scan v).buffer.lines ∧
      (source.withReturns.scan v).diagnostics = (source.scan v).diagnostics ∧
      Balance.check v (source.withReturns.scan v).buffer.tokens =
        Balance.check v (source.scan v).buffer.tokens ∧
      ∀ verdict, Balance.diagnostics verdict (source.withReturns.scan v).buffer =
        Balance.diagnostics verdict (source.scan v).buffer := by
  have hevents := Scan.events_withReturns hv source.text.toList
  rw [← Source.toList_withReturns] at hevents
  have htokens : (source.withReturns.scan v).buffer.tokens = (source.scan v).buffer.tokens := by
    rw [Source.tokens_scan, Source.tokens_scan, hevents]
  have hlines : (source.withReturns.scan v).buffer.lines = (source.scan v).buffer.lines := by
    rw [Source.buffer_scan, Source.buffer_scan, Source.toList_withReturns]
    exact Text.lineTable_withReturns htext
  have hname : (source.withReturns.scan v).buffer.source.name =
      (source.scan v).buffer.source.name := by
    rw [Source.buffer_scan, Source.buffer_scan]
    rfl
  refine ⟨htokens, hlines, ?_, by rw [htokens], Balance.diagnostics_congr hname htokens hlines⟩
  rw [Source.diagnostics_scan, Source.diagnostics_scan, hevents,
    Source.diagnostic_withReturns htext]

def Source.unclosedLines : Source := ⟨"input", "\"a\\\n// b\n/*\n*/ (\n"⟩

theorem line_endings_do_not_matter_unclosed :
    ∃ v, Language.standard.compile = .ok v ∧ v.LineByLine ∧
      '\r' ∉ Source.unclosedLines.text.toList ∧
      Source.unclosedLines.withReturns.text = "\"a\\\r\n// b\r\n/*\r\n*/ (\r\n" ∧
      (Source.unclosedLines.withReturns.scan v).buffer.tokens =
        (Source.unclosedLines.scan v).buffer.tokens ∧
      (Source.unclosedLines.withReturns.scan v).diagnostics =
        (Source.unclosedLines.scan v).diagnostics := by
  obtain ⟨v, hcompile, hv, htext, hreturns⟩ := Language.standard_satisfies
    (p := fun v => v.LineByLine ∧ '\r' ∉ Source.unclosedLines.text.toList ∧
      Source.unclosedLines.withReturns.text = "\"a\\\r\n// b\r\n/*\r\n*/ (\r\n")
    (by decide +kernel)
  obtain ⟨htokens, -, hdiagnostics, -⟩ := line_endings_do_not_matter _ v hv htext
  exact ⟨v, hcompile, hv, htext, hreturns, htokens, hdiagnostics⟩

end SourceCheck
