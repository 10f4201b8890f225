import LoxLex.Proofs.MaximalMunch

/-!
# LoxLex.Proofs.Refusal — a scan that its listener stops

A listener that refuses a call stops the scan in the middle of a turn: behind the rule that found the
error, and behind the diagnostic, which is kept, logged and reported all the same.  So what such a scan
leaves is what the spans up to that error add, and no more.

* `exists_span_of_diagnostic`: the span that a diagnostic comes from.
* `Scanner.scan_refused`: the fault and the state of a scan that is refused its diagnostic number `k`.
-/

namespace LoxLex

/-- Every diagnostic comes from a span, and those before it from the spans before. -/
theorem exists_span_of_diagnostic {file : String} {ps : List Span} {line k : Nat}
    (hk : k < (diagnosticsFrom file line ps).length) :
    ∃ before p behind d, ps = before ++ p :: behind ∧
      (diagnosticsFrom file line before).length = k ∧
      p.diagnostic? ⟨file, ((line + (spelled (before ++ [p])).count '\n' : Nat) : Int)⟩ = some d := by
  induction ps generalizing line k with
  | nil => exact absurd hk (Nat.not_lt_zero k)
  | cons q ps ih =>
    have hlines : ∀ before p, line + (spelled (q :: before ++ [p])).count '\n' =
        line + q.text.count '\n' + (spelled (before ++ [p])).count '\n' := fun before p => by
      rw [List.cons_append, spelled_cons, List.count_append, Nat.add_assoc]
    rw [diagnosticsFrom_cons] at hk
    -- A span without a diagnostic leaves the number as it is, one with a diagnostic counts it down.
    cases hq : q.diagnostic? ⟨file, ((line + q.text.count '\n' : Nat) : Int)⟩ with
    | none =>
      rw [hq] at hk
      obtain ⟨before, p, behind, d, rfl, hlen, hd⟩ := ih hk
      refine ⟨q :: before, p, behind, d, rfl, ?_, ?_⟩
      · rw [diagnosticsFrom_cons, hq]
        exact hlen
      · rw [hlines]
        exact hd
    | some e =>
      rw [hq] at hk
      cases k with
      | zero =>
        refine ⟨[], q, ps, e, rfl, rfl, ?_⟩
        rw [List.nil_append, spelled_cons, spelled_nil, List.append_nil]
        exact hq
      | succ k =>
        obtain ⟨before, p, behind, d, rfl, hlen, hd⟩ := ih (Nat.lt_of_succ_lt_succ hk)
        refine ⟨q :: before, p, behind, d, rfl, ?_, ?_⟩
        · rw [diagnosticsFrom_cons, hq]
          exact congrArg (· + 1) hlen
        · rw [hlines]
          exact hd

namespace Scanner

variable {s t : Scanner} {before : List Span} {p : Span} {ds : List Diagnostic}
  {d : Diagnostic} {k : Nat}

/-- A span with a diagnostic, among others: its diagnostic stands between theirs, and it has no token. -/
theorem diagnosticsFrom_mid {file : String} {line : Nat} (behind : List Span) (hd : p.diagnostic?
      ⟨file, ((line + (spelled (before ++ [p])).count '\n' : Nat) : Int)⟩ = some d) :
    diagnosticsFrom file line (before ++ p :: behind) = diagnosticsFrom file line before ++
      d :: diagnosticsFrom file (line + (spelled (before ++ [p])).count '\n') behind := by
  rw [spelled_append, List.count_append, ← Nat.add_assoc, spelled_cons, spelled_nil,
    List.append_nil] at hd ⊢
  rw [diagnosticsFrom_append, diagnosticsFrom_cons, hd]
  rfl

theorem tokensFrom_mid {location : Location} (hd : p.diagnostic? location = some d) (line : Nat)
    (behind : List Span) :
    tokensFrom line (before ++ p :: behind) = tokensFrom line before ++
      tokensFrom (line + (spelled (before ++ [p])).count '\n') behind := by
  rw [spelled_append, List.count_append, ← Nat.add_assoc, spelled_cons, spelled_nil,
    List.append_nil, tokensFrom_append, tokensFrom_cons, Span.token?_eq_none hd]
  rfl

/-- Spans up to the one whose diagnostic is refused: this one is absorbed too, and none behind it. -/
theorem absorbAll_refused {l : Listener} (hl : s.listener = some l)
    (hd : p.diagnostic?
      ⟨s.file, ((s.line + (spelled (before ++ [p])).count '\n' : Nat) : Int)⟩ = some d)
    (hlen : (diagnosticsFrom s.file s.line before).length = k) (htakes : s.Takes k)
    (hrefuses : l.refuses (s.nextCall + k) = true) (behind : List Span) :
    absorbAll (before ++ p :: behind) s =
      (.error (.refused (s.nextCall + k)), s.gather (before ++ [p])) := by
  have hg := gathers_gather before s
  have hcall : (s.gather before).nextCall = s.nextCall + k := by rw [hg.nextCall hl, hlen]
  have hnext : (s.gather before).refusesNext = true := by
    rw [refusesNext, hg.listener, hl, hcall]
    exact hrefuses
  have hfound : p.diagnostic? ((s.gather before).pass p.text).location = some d := by
    rw [← hd, spelled_append, List.count_append, ← Nat.add_assoc, ← hg.line, ← hg.file, spelled_cons,
      spelled_nil, List.append_nil]
    rfl
  -- The listener refuses behind the span: the state is that of a span that was taken.
  have hfault := absorb_fst_of_refuses hfound hnext
  rw [hcall] at hfault
  rw [absorbAll_append (hlen ▸ htakes), absorbAll, gather_append]
  show _ = (_, ((s.gather before).absorb p).2)
  cases ha : (s.gather before).absorb p with
  | mk answer t =>
    rw [ha] at hfault
    dsimp only at hfault
    rw [hfault]

/-- What a scan of `s` leaves that stops at the span `p` for its diagnostic `d`: the spans `before`
stand in front of `p`, and `ds` are their diagnostics. -/
structure StopsAt (before : List Span) (p : Span) (ds : List Diagnostic) (d : Diagnostic)
    (s t : Scanner) : Prop where
  start : t.start = (spelled before).length
  current : t.current = t.start + p.text.length
  found : p.diagnostic? t.location = some d
  line : (t.line : Int) = d.line
  tokens : t.tokens.toList = tokensFrom 1 before
  diagnostics : t.diagnostics.toList = ds ++ [d]
  events : t.events.toList = s.events.toList ++ (ds ++ [d]).flatMap (·.events s.listener)

theorem StopsAt.reports {l : Listener} (h : StopsAt before p ds d s t) (hl : s.listener = some l) :
    t.reports.toList = s.reports.toList ++ (ds ++ [d]).map (·.report) := by
  unfold Scanner.reports
  rw [Array.toList_filterMap, Array.toList_filterMap, h.events, List.filterMap_append,
    reports_of_events, hl]
  rfl

/-- The state in which the spans up to one with a diagnostic leave a scan. -/
theorem stopsAt_gather (hd : p.diagnostic?
      ⟨s.file, ((1 + (spelled (before ++ [p])).count '\n' : Nat) : Int)⟩ = some d) :
    StopsAt before p (diagnosticsFrom s.file 1 before) d s (s.restart.gather (before ++ [p])) := by
  have hg := gathers_gather (before ++ [p]) s.restart
  have hstart : (s.restart.gather (before ++ [p])).start = (spelled before).length := by
    rw [gather_concat_start]
    exact Nat.zero_add _
  have hlocation : (s.restart.gather (before ++ [p])).location =
      ⟨s.file, ((1 + (spelled (before ++ [p])).count '\n' : Nat) : Int)⟩ := by
    rw [location, hg.file, hg.line]
    rfl
  have hfound := hd
  rw [← hlocation] at hfound
  have hds : diagnosticsFrom s.restart.file s.restart.line (before ++ [p]) =
      diagnosticsFrom s.file 1 before ++ [d] :=
    diagnosticsFrom_mid [] hd
  refine ⟨hstart, ?_, hfound, ?_, ?_, ?_, ?_⟩
  · rw [hstart, hg.current]
    simp [restart]
  · rw [Diagnostic.line, Span.location_of_diagnostic? hfound]
    rfl
  · rw [hg.tokens, tokensFrom_mid hd]
    exact List.append_nil _
  · rw [hg.diagnostics, hds]
    rfl
  · rw [hg.events, hds]
    rfl

/-- **A refused call stops the scan at its diagnostic**: the listener takes `k` calls and refuses the
next one, and the scan has just the tokens that stand before this error, and the diagnostics up to it. -/
theorem scan_refused {l : Listener} (hl : s.listener = some l)
    (hk : k < (scanSource s.source s.file).diagnostics.length) (htakes : s.Takes k)
    (hrefuses : l.refuses (s.nextCall + k) = true) :
    ∃ t before p behind d us,
      s.scan = (.error (.refused (s.nextCall + k)), t) ∧
      Segmentation s.source (before ++ p :: behind) ∧
      (scanSource s.source s.file).diagnostics[k]? = some d ∧
      StopsAt before p ((scanSource s.source s.file).diagnostics.take k) d s t ∧
      t.reports.toList = s.reports.toList ++
        ((scanSource s.source s.file).diagnostics.take (k + 1)).map (·.report) ∧
      (scanSource s.source s.file).tokens =
        t.tokens.toList ++ us ++ [.endOfInput (1 + s.source.count '\n')] ∧
      List.Forall₂ Yields (before.filter (·.isToken)) t.tokens.toList ∧
      List.Forall₂ Yields (behind.filter (·.isToken)) us := by
  rw [scanSource_eq] at hk ⊢
  dsimp only at hk ⊢
  obtain ⟨before, p, behind, d, hps, hlen, hd⟩ := exists_span_of_diagnostic hk
  have hstops := stopsAt_gather hd
  have hds := diagnosticsFrom_mid behind hd
  rw [← hps] at hds
  have htake : (diagnosticsFrom s.file 1 (segments s.source)).take k =
      diagnosticsFrom s.file 1 before := by
    rw [hds, ← hlen, List.take_left]
  have hupto : (diagnosticsFrom s.file 1 (segments s.source)).take (k + 1) =
      diagnosticsFrom s.file 1 before ++ [d] := by
    rw [hds, ← hlen, List.append_cons, List.take_left' (by simp)]
  have hmem : ∀ q text, .lexeme q text ∈ before ++ p :: behind → text ∈ Pattern.language q :=
    fun q text h => mem_language_of_mem_segments s.source (hps ▸ h)
  refine ⟨s.restart.gather (before ++ [p]), before, p, behind, d,
    tokensFrom (1 + (spelled (before ++ [p])).count '\n') behind, ?_, ?_, ?_, ?_, ?_, ?_, ?_, ?_⟩
  · have hrun := absorbAll_refused (s := s.restart) hl hd hlen htakes hrefuses behind
    rw [scan_eq_absorbAll, hps, hrun]
    rfl
  · rw [← hps]
    exact segmentation_segments s.source
  · rw [hds, ← hlen, List.getElem?_append_right (le_refl _), Nat.sub_self]
    rfl
  · rw [htake]
    exact hstops
  · rw [hupto]
    exact hstops.reports hl
  · rw [hps, tokensFrom_mid hd, hstops.tokens]
  · rw [hstops.tokens]
    exact yields_tokensFrom 1 fun q text h => hmem q text (List.mem_append_left _ h)
  · refine yields_tokensFrom _ fun q text h => hmem q text ?_
    exact List.mem_append_right _ (List.mem_cons_of_mem _ h)

/-- A listener that refuses its second call, for a string without end on two lines. -/
theorem scan_refused_open_quote :
    let s := new ['@', 'a', '"', '\n', 'b'] "a.lox" (some (.refusingAt 2))
    s.Takes 1 ∧ Listener.refuses (.refusingAt 2) (s.nextCall + 1) = true ∧
      ∃ t, s.scan = (.error (.refused 2), t) ∧
        t.reports.toList = [⟨1, "Unexpected character."⟩,
          ⟨2, "Unterminated string. Close it with a double-quote."⟩] ∧
        t.tokens.toList = [⟨.identifier, "a", .absent, 1⟩] ∧
        (t.start, t.current, t.line) = (2, 5, 2) := by
  intro s
  have htakes : s.Takes 1 := by
    rintro l ⟨⟩ k hk
    obtain rfl : k = 0 := by omega
    rfl
  have hk : 1 < (scanSource s.source s.file).diagnostics.length := by decide
  have hrefuses : Listener.refuses (.refusingAt 2) (s.nextCall + 1) = true := rfl
  obtain ⟨t, before, p, behind, d, us, hscan, -, -, -, hreports, -⟩ :=
    scan_refused rfl hk htakes hrefuses
  have ht : t = s.scan.2 := by rw [hscan]
  refine ⟨htakes, hrefuses, t, hscan, ?_, ?_, ?_⟩
  · rw [hreports]
    decide
  · rw [ht]
    decide +kernel
  · rw [ht]
    decide +kernel

end Scanner

end LoxLex
