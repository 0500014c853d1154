import SourceCheck.Proofs.Scan.Reports

/-!
The two modes of scanning. Strict scanning is resilient scanning cut at the first fault: without a
fault both give the same buffer, and with one the tokens that stand before it, in the order of
positions, are what strict scanning keeps.
-/

namespace SourceCheck

namespace Scan

theorem untilFault_none {events : List Event} {tokens : List Token}
    (h : untilFault events = (tokens, none)) : events = tokens.map .token := by
  induction events generalizing tokens with
  | nil => cases h; rfl
  | cons event rest ih =>
    cases event with
    | fault position reason => cases h
    | token t =>
      obtain ⟨htokens, hnone⟩ := Prod.mk.inj h
      rw [← htokens, List.map_cons, ← ih (Prod.ext rfl hnone)]

theorem untilFault_some {events : List Event} {tokens : List Token} {position : Position}
    {reason : Fault} (h : untilFault events = (tokens, some (position, reason))) :
    ∃ later, events = tokens.map .token ++ .fault position reason :: later := by
  induction events generalizing tokens with
  | nil => cases h
  | cons event rest ih =>
    cases event with
    | fault position reason => cases h; exact ⟨rest, rfl⟩
    | token t =>
      obtain ⟨htokens, hsome⟩ := Prod.mk.inj h
      obtain ⟨later, hrest⟩ := ih (Prod.ext rfl hsome)
      exact ⟨later, by rw [← htokens, List.map_cons, List.cons_append, ← hrest]⟩

theorem token?_map_token (tokens : List Token) :
    (tokens.map Event.token).filterMap Event.token? = tokens := by
  induction tokens with
  | nil => rfl
  | cons t tokens ih => simp [ih]

theorem fault?_map_token (tokens : List Token) :
    (tokens.map Event.token).filterMap Event.fault? = [] := by
  refine List.filterMap_eq_nil_iff.mpr fun event hevent => ?_
  obtain ⟨t, -, rfl⟩ := List.mem_map.mp hevent
  exact Event.fault?_token t

theorem tokens_before_fault {tokens : List Token} {position : Position} {reason : Fault}
    {later : List Event}
    (h : Event.Increasing (tokens.map .token ++ .fault position reason :: later)) :
    tokens = ((tokens.map Event.token ++ .fault position reason :: later).filterMap
      Event.token?).filter fun t => t.position.Before position := by
  obtain ⟨-, hlater, hbefore⟩ := List.pairwise_append.mp h
  have hkept : tokens.filter (fun t => t.position.Before position) = tokens := by
    refine List.filter_eq_self.mpr fun t ht => decide_eq_true ?_
    exact hbefore _ (List.mem_map_of_mem ht) _ List.mem_cons_self
  have hdropped : (later.filterMap Event.token?).filter
      (fun t => t.position.Before position) = [] := by
    refine List.filter_eq_nil_iff.mpr fun t ht => ?_
    have horder := List.rel_of_pairwise_cons hlater (Event.mem_tokens_iff.mp ht)
    exact fun hbefore => Position.before_asymm horder (of_decide_eq_true hbefore)
  rw [List.filterMap_append, token?_map_token, List.filterMap_cons_none (Event.token?_fault _ _),
    List.filter_append, hkept, hdropped, List.append_nil]

/-- Up to the first fault, and behind it up to the end of the input. -/
theorem items_of_fault {v : Vocabulary} {text : List Char} {tokens : List Token}
    {position : Position} {reason : Fault} {later : List Event}
    (h : events v text = tokens.map .token ++ .fault position reason :: later) :
    items v text = tokens.map .token ++ (Event.fault position reason :: later).dropLast := by
  rw [← List.dropLast_append_of_ne_nil (List.cons_ne_nil _ _), ← h, events_eq,
    List.dropLast_concat]

theorem isEnd_before_fault {v : Vocabulary} {text : List Char} {tokens : List Token}
    {position : Position} {reason : Fault} {later : List Event}
    (h : events v text = tokens.map .token ++ .fault position reason :: later) :
    ∀ t ∈ tokens, t.isEnd = false := by
  intro t ht
  refine isEnd_of_mem_items v text (.token t) ?_
  rw [items_of_fault h]
  exact List.mem_append_left _ (List.mem_map_of_mem ht)

end Scan

namespace Source

variable {source : Source} {v : Vocabulary}

theorem eq_buffer_scan {buffer : TokenBuffer}
    (h : buffer = (source.scan v).buffer ∨ source.scanStrictly v = .ok buffer) :
    buffer = (source.scan v).buffer := by
  rcases h with hscan | hstrict
  · exact hscan
  · rw [scanStrictly_eq] at hstrict
    cases hcut : Scan.untilFault (Scan.events v source.text.toList) with
    | mk tokens found =>
      rw [hcut] at hstrict
      cases found with
      | none =>
        obtain rfl := Except.ok.inj hstrict
        rw [buffer_scan, Scan.untilFault_none hcut, Scan.token?_map_token]
      | some found => cases hstrict

/-- Strict scanning succeeds exactly when resilient scanning has nothing to report, and then with
the same tokens and lines. Otherwise it gives the first of the resilient diagnostics, line text
included, and the tokens that stand before it. -/
theorem strict_scan_is_resilient_scan_cut (source : Source) (v : Vocabulary) :
    ((∃ buffer, source.scanStrictly v = .ok buffer) ↔ (source.scan v).diagnostics = []) ∧
    (∀ buffer, source.scanStrictly v = .ok buffer →
      buffer.tokens = (source.scan v).buffer.tokens ∧
      buffer.lines = (source.scan v).buffer.lines ∧ buffer = (source.scan v).buffer) ∧
    (∀ error, source.scanStrictly v = .error error →
      (source.scan v).diagnostics.head? = some error.diagnostic ∧
      error.tokensBefore = (source.scan v).buffer.tokens.filter (fun t =>
        t.position.Before error.diagnostic.message.location.position) ∧
      ∀ t ∈ error.tokensBefore, t.isEnd = false) := by
  have hincreasing := Scan.increasing_events v source.text.toList
  rw [scanStrictly_eq, diagnostics_scan, buffer_scan]
  cases hcut : Scan.untilFault (Scan.events v source.text.toList) with
  | mk tokens found =>
    cases found with
    | none =>
      have hevents := Scan.untilFault_none hcut
      rw [hevents, Scan.token?_map_token, Scan.fault?_map_token]
      refine ⟨⟨fun _ => rfl, fun _ => ⟨_, rfl⟩⟩, ?_, ?_⟩
      · intro buffer hbuffer
        cases hbuffer
        exact ⟨rfl, rfl, rfl⟩
      · intro error herror
        cases herror
    | some found =>
      obtain ⟨position, reason⟩ := found
      obtain ⟨later, hevents⟩ := Scan.untilFault_some hcut
      have hend := Scan.isEnd_before_fault hevents
      rw [hevents] at hincreasing ⊢
      have hfaults : (tokens.map Scan.Event.token ++ .fault position reason :: later).filterMap
          Scan.Event.fault? = (position, reason) :: later.filterMap Scan.Event.fault? := by
        rw [List.filterMap_append, Scan.fault?_map_token, List.nil_append,
          List.filterMap_cons_some (Scan.Event.fault?_fault _ _)]
      rw [hfaults, List.map_cons]
      refine ⟨⟨?_, fun h => by cases h⟩, ?_, ?_⟩
      · rintro ⟨buffer, hbuffer⟩
        cases hbuffer
      · intro buffer hbuffer
        cases hbuffer
      · intro error herror
        cases herror
        exact ⟨rfl, Scan.tokens_before_fault hincreasing, hend⟩

end Source

end SourceCheck
