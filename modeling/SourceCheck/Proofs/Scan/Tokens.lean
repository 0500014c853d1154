import SourceCheck.Proofs.Language.Pairs
import SourceCheck.Proofs.Scan.Isolation
import SourceCheck.Proofs.Scan.Positions

/-!
The tokens of a scan, each on its own. A delimiter is one character, the end of the input is the
only token of its kind and has no text, and every token and every diagnostic stands at a line and a
column that are known.
-/

namespace SourceCheck

namespace Scan

variable {v : Vocabulary} {c : Char} {input : List Char}

theorem length_of_delimiter (h : (spanAt v c input).1 = .token .delimiter) :
    (spanAt v c input).2 = 0 := by
  have hnone := not_ignored_of_token h
  rw [spanAt_of_not_ignored hnone] at h ⊢
  unfold lexeme at h ⊢
  by_cases hquote : v.isQuote c = true
  · simp only [hquote, ↓reduceIte] at h
    split at h <;> cases h
  by_cases hdigit : c.isDigit = true
  · simp [hquote, hdigit] at h
  by_cases hword : Text.startsWord c = true
  · simp [hquote, hdigit, hword, wordKind_ne_delimiter] at h
  cases hoperator : v.operator? (c :: input) with
  | some m => simp [hquote, hdigit, hword, hoperator] at h
  | none => by_cases hdelimiter : v.isDelimiter c = true <;> simp [hquote, hdigit, hword, hdelimiter]

theorem text_of_delimiter_span {span : Span} (hmem : span ∈ spans v input)
    (hkind : span.kind = .token .delimiter) : ∃ c, span.text = [c] := by
  induction input using spans_induction (v := v) with
  | nil => cases hmem
  | cons c input ih =>
    rcases List.mem_cons.mp hmem with rfl | hlater
    · exact ⟨c, by rw [length_of_delimiter hkind, List.take_zero]⟩
    · exact ih hlater

end Scan

namespace Source

variable {source : Source} {v : Vocabulary} {t : Token}

theorem text_of_delimiter (ht : t ∈ (source.scan v).buffer.tokens) (hkind : t.kind = .delimiter) :
    ∃ c, t.text = String.singleton c := by
  have hend : t.isEnd = false := by
    rw [Token.isEnd, hkind]
    rfl
  obtain ⟨c, hc⟩ := Scan.text_of_delimiter_span (span_of_token ht hend)
    (congrArg Scan.SpanKind.token hkind)
  exact ⟨c, String.toList_inj.mp (hc.trans (String.toList_singleton c).symm)⟩

theorem tokens_end (source : Source) (v : Vocabulary) :
    ∃ before last, (source.scan v).buffer.tokens = before ++ [.endOfInput last] ∧
      ∀ t ∈ before, t.isEnd = false := by
  refine ⟨_, _, tokens_scan_eq source v, fun t ht => ?_⟩
  exact Scan.isEnd_of_mem_items v _ _ (Scan.Event.mem_tokens_iff.mp ht)

theorem exists_isEnd (source : Source) (v : Vocabulary) :
    ∃ t ∈ (source.scan v).buffer.tokens, t.isEnd = true := by
  obtain ⟨before, last, htokens, -⟩ := tokens_end source v
  refine ⟨.endOfInput last, ?_, rfl⟩
  rw [htokens]
  exact List.mem_append_right _ List.mem_cons_self

theorem isEnd_of_mem_take {index : Nat} (hindex : index < (source.scan v).buffer.tokens.length)
    (ht : t ∈ (source.scan v).buffer.tokens.take index) : t.isEnd = false := by
  obtain ⟨before, last, htokens, hbefore⟩ := tokens_end source v
  rw [htokens, List.length_append, List.length_singleton] at hindex
  rw [htokens, List.take_append_of_le_length (by omega)] at ht
  exact hbefore t (List.mem_of_mem_take ht)

theorem text_of_isEnd (ht : t ∈ (source.scan v).buffer.tokens) (hend : t.isEnd = true) :
    t.text = "" := by
  obtain ⟨before, last, htokens, hbefore⟩ := tokens_end source v
  rw [htokens] at ht
  rcases List.mem_append.mp ht with hearlier | hlast
  · rw [hbefore t hearlier] at hend
    cases hend
  · rw [List.mem_singleton.mp hlast]
    rfl

theorem position_of_token (ht : t ∈ (source.scan v).buffer.tokens) :
    0 < t.position.line ∧ 0 < t.position.column := by
  rw [tokens_scan, Scan.Event.mem_tokens_iff] at ht
  have hbounds := Scan.position_bounds ht
  simp only [Scan.Event.position] at hbounds
  omega

theorem position_of_diagnostic {d : Diagnostic} (hd : d ∈ (source.scan v).diagnostics) :
    0 < d.message.location.position.line ∧ 0 < d.message.location.position.column := by
  rw [diagnostics_scan] at hd
  obtain ⟨⟨position, fault⟩, hfault, rfl⟩ := List.mem_map.mp hd
  have hbounds := Scan.position_bounds (Scan.Event.mem_faults_iff.mp hfault)
  change 0 < position.line ∧ 0 < position.column
  simp only [Scan.Event.position] at hbounds
  omega

end Source

end SourceCheck
