import LoxLex.Proofs.Run

/-!
# LoxLex.Proofs.Lookahead — two characters decide where a lexeme ends

Two sources that begin alike are cut alike, up to the first span that comes closer than two characters
to where they part: what stands behind cannot move a boundary that far back, be it a digit behind a
point or a quote that closes a string.

* `Pattern.Closed.of_take`: whether a lexeme goes on depends on the next two characters alone.
* `exists_common_segments`: the spans that two sources have in common, and what comes behind them.
* `scanSource_lookahead`: the tokens and the strays of two sources that begin alike.  `Scanner.findings`
  says of any scan where its tokens and its diagnostics stand.
-/

namespace LoxLex

/-- Something that a scan has found: its lexeme stands from `first` up to `last`. -/
structure Finding (α : Type) where
  first : Nat
  last : Nat
  item : α
deriving DecidableEq

namespace Scanner

/-- What the turns of `s`, at most `n`, add to a list that a scanner keeps: each with the lexeme of its
turn. -/
def findings {α : Type} (kept : Scanner → List α) : Nat → Scanner → List (Finding α)
  | 0, _ => []
  | n + 1, s =>
    if s.isAtEnd then []
    else match s.scanLexeme with
      | (.ok (), t) =>
        ((kept t).drop (kept s).length).map (⟨t.start, t.current, ·⟩) ++ findings kept n t
      | (.error _, _) => []

end Scanner

/-- The tokens of a source with their places. The one for the end of input stands behind all. -/
def tokenFindings (source : List Char) (file : String) : List (Finding Token) :=
  (Scanner.new source file none).findings (·.tokens.toList) source.length ++
    [⟨source.length, source.length, .endOfInput (1 + source.count '\n')⟩]

/-- The diagnostics of a source with their places. -/
def diagnosticFindings (source : List Char) (file : String) : List (Finding Diagnostic) :=
  (Scanner.new source file none).findings (·.diagnostics.toList) source.length

/-! ### Where a lexeme ends -/

/-- A text that is as long as the part that is compared is found again. -/
theorem exists_append_of_take {text rest b : List Char} {n : Nat} (h : (text ++ rest).take n = b.take n)
    (hn : text.length ≤ n) :
    ∃ more, b = text ++ more ∧ rest.take (n - text.length) = more.take (n - text.length) := by
  have hlen : min text.length n = text.length := Nat.min_eq_left hn
  have hhead : b.take text.length = text := by
    have htake := congrArg (List.take text.length) h
    rw [List.take_take, List.take_take, hlen, List.take_left] at htake
    exact htake.symm
  have hb : b = text ++ b.drop text.length := by
    conv_lhs => rw [← List.take_append_drop text.length b, hhead]
  refine ⟨b.drop text.length, hb, ?_⟩
  have hdrop := congrArg (List.drop text.length) h
  rw [List.drop_take, List.drop_take, List.drop_left] at hdrop
  exact hdrop

theorem Stops.of_take {p : Char → Prop} {rest more : List Char} (e : rest.take 2 = more.take 2)
    (h : Stops p rest) : Stops p more := by
  have hhead : more.head? = rest.head? := by
    have hcs : ∀ cs : List Char, (cs.take 2).head? = cs.head? := fun cs => by cases cs <;> rfl
    rw [← hcs more, ← e, hcs rest]
  intro c hc
  exact h c (hhead ▸ hc)

/-- **Whether a rest goes on with a lexeme, its first two characters say.** -/
theorem Pattern.Closed.of_take {p : Pattern} {text rest more : List Char}
    (e : rest.take 2 = more.take 2) (h : p.Closed text rest) : p.Closed text more := by
  cases p with
  | comment => exact Stops.of_take e h
  | slash => exact Stops.of_take e h
  | operator => exact fun ht => Stops.of_take e (h ht)
  | number =>
    refine ⟨h.1.of_take e, fun hpoint d cs hmore => ?_⟩
    -- The point and the character behind it are the two that both rests have.
    rw [hmore] at e
    match rest, e with
    | [], e => cases e
    | [_], e => cases e
    | c :: d' :: cs', e =>
      cases e
      exact h.2 hpoint d cs' rfl
  | word => exact Stops.of_take e h
  | _ => trivial

/-- **A span that ends two characters before two texts part is the first of both.** -/
theorem Span.first_eq_of_take {c d : Char} {cs ds : List Char} {n : Nat}
    (h : (c :: cs).take n = (d :: ds).take n) (hn : (first c cs).text.length + 2 ≤ n) :
    first d ds = first c cs := by
  rcases first_cases c cs with ⟨ho, hf⟩ | ⟨-, -, hf⟩ | ⟨p, text, rest, e, ht, hc, hf⟩
  · obtain ⟨n, rfl⟩ : ∃ k, n = k + 1 := ⟨n - 1, by omega⟩
    obtain ⟨rfl, -⟩ := List.cons.inj h
    rw [hf, first_unexpected ho]
  · -- A string without end has no more text behind it, so the texts are the same.
    have hlen : (c :: cs).length + 2 ≤ n := by rwa [hf] at hn
    rw [List.take_of_length_le (by omega)] at h
    have hshort := congrArg List.length h
    rw [List.length_take] at hshort
    rw [List.take_of_length_le (by omega)] at h
    obtain ⟨rfl, rfl⟩ := List.cons.inj h
    rfl
  · have hlen : text.length + 2 ≤ n := by rwa [hf] at hn
    rw [e] at h
    obtain ⟨more, hmore, hrest⟩ := exists_append_of_take h (by omega)
    have htwo : rest.take 2 = more.take 2 := by
      have htake := congrArg (List.take 2) hrest
      rwa [List.take_take, List.take_take, Nat.min_eq_left (by omega)] at htake
    rw [hf, first_of_closed ht (hc.of_take htwo) hmore]

/-! ### The spans in common -/

/-- The first span of a text comes closer than two characters to position `n`, or goes beyond it. -/
def Undecided (n : Nat) (cs : List Char) : Prop := ∀ p ∈ (segments cs).head?, n < p.text.length + 2

theorem undecided_nil (n : Nat) : Undecided n [] := by
  intro p hp
  rw [segments_nil] at hp
  cases hp

theorem head?_segments_cons (c : Char) (cs : List Char) :
    (segments (c :: cs)).head? = some (Span.first c cs) := by
  obtain ⟨rest, e, -⟩ := Span.exists_rest c cs
  rw [segments_cons rest e, List.head?_cons]

theorem undecided_cons {n : Nat} {c : Char} {cs : List Char} :
    Undecided n (c :: cs) ↔ n < (Span.first c cs).text.length + 2 := by
  unfold Undecided
  rw [head?_segments_cons]
  simp

/-- **Two texts that begin alike have their first spans in common**, up to one that is undecided in
both. -/
theorem exists_common_segments {a b : List Char} {n : Nat} (h : a.take n = b.take n) :
    ∃ ps u v, segments a = ps ++ segments u ∧ segments b = ps ++ segments v ∧
      Undecided (n - (spelled ps).length) u ∧ Undecided (n - (spelled ps).length) v := by
  induction hlen : a.length using Nat.strong_induction_on generalizing a b n with
  | _ len ih =>
    by_cases hdecided : ∃ c cs, a = c :: cs ∧ (Span.first c cs).text.length + 2 ≤ n
    · obtain ⟨c, cs, rfl, hn⟩ := hdecided
      obtain ⟨rest, e, hne⟩ := Span.exists_rest c cs
      rw [e] at h
      obtain ⟨more, rfl, hmore⟩ := exists_append_of_take h (by omega)
      have hpos := List.length_pos_iff.mpr hne
      have hlength := congrArg List.length e
      rw [List.length_append] at hlength
      obtain ⟨ps, u, v, hu, hv, hundecided⟩ := ih rest.length (by omega) hmore rfl
      -- The other text has the same first span, as it is decided.
      obtain ⟨d, w, hd⟩ := List.exists_cons_of_ne_nil hne
      have hfirst : Span.first d (w ++ more) = Span.first c cs := by
        rw [← e, hd] at h
        exact Span.first_eq_of_take h hn
      have hb : segments ((Span.first c cs).text ++ more) = Span.first c cs :: segments more := by
        rw [hd, List.cons_append, segments_cons more, hfirst]
        rw [hfirst, hd, List.cons_append]
      refine ⟨Span.first c cs :: ps, u, v, ?_, ?_, ?_⟩
      · rw [segments_cons rest e, hu, List.cons_append]
      · rw [hb, hv, List.cons_append]
      · rwa [spelled_cons, List.length_append, ← Nat.sub_sub]
    · refine ⟨[], a, b, rfl, rfl, ?_, ?_⟩
      · cases a with
        | nil => exact undecided_nil _
        | cons c cs =>
          rw [undecided_cons]
          exact Nat.lt_of_not_le fun hn => hdecided ⟨c, cs, rfl, hn⟩
      · cases b with
        | nil => exact undecided_nil _
        | cons d ds =>
          rw [undecided_cons]
          refine Nat.lt_of_not_le fun hn => hdecided ?_
          have hn' : (Span.first d ds).text.length + 2 ≤ n := hn
          cases a with
          | nil =>
            obtain ⟨n, rfl⟩ : ∃ k, n = k + 1 := ⟨n - 1, by omega⟩
            cases h
          | cons c cs =>
            have hfirst := Span.first_eq_of_take h.symm hn'
            exact ⟨c, cs, rfl, by rwa [hfirst]⟩

/-! ### What is found in spans -/

section FindingsAt

variable {α : Type} {read : Nat → Span → Option α} {pos line n : Nat} {ps qs : List Span}

/-- What is read off spans, each with its place, where the first begins at a position and a line. -/
def findingsAt (read : Nat → Span → Option α) : Nat → Nat → List Span → List (Finding α)
  | _, _, [] => []
  | pos, line, p :: ps =>
    (read (line + p.text.count '\n') p).toList.map (⟨pos, pos + p.text.length, ·⟩) ++
      findingsAt read (pos + p.text.length) (line + p.text.count '\n') ps

theorem findingsAt_append (read : Nat → Span → Option α) (pos line : Nat) (ps qs : List Span) :
    findingsAt read pos line (ps ++ qs) = findingsAt read pos line ps ++
      findingsAt read (pos + (spelled ps).length) (line + (spelled ps).count '\n') qs := by
  induction ps generalizing pos line with
  | nil => rfl
  | cons p ps ih =>
    rw [List.cons_append, findingsAt, findingsAt, ih, List.append_assoc, spelled_cons,
      List.length_append, List.count_append, Nat.add_assoc, Nat.add_assoc]

/-- What is found is found in one of the spans. -/
theorem exists_span_of_mem {f : Finding α} (h : f ∈ findingsAt read pos line ps) :
    ∃ before p behind, ps = before ++ p :: behind ∧ f.first = pos + (spelled before).length ∧
      f.last = f.first + p.text.length ∧
      read (line + (spelled before ++ p.text).count '\n') p = some f.item := by
  induction ps generalizing pos line with
  | nil => cases h
  | cons p ps ih =>
    rcases List.mem_append.mp h with h | h
    · obtain ⟨x, hx, rfl⟩ := List.mem_map.mp h
      exact ⟨[], p, ps, rfl, rfl, rfl, Option.mem_toList.mp hx⟩
    · obtain ⟨before, q, behind, rfl, hfirst, hlast, hread⟩ := ih h
      refine ⟨p :: before, q, behind, rfl, ?_, hlast, ?_⟩
      · rw [hfirst, spelled_cons, List.length_append, Nat.add_assoc]
      · rwa [spelled_cons, List.append_assoc, List.count_append, ← Nat.add_assoc]

/-- Behind a place where the next span is undecided, nothing ends in time. -/
theorem lt_of_mem_undecided {cs : List Char} {f : Finding α} (hcs : Undecided (n - pos) cs)
    (h : f ∈ findingsAt read pos line (segments cs)) : n < f.last + 2 := by
  obtain ⟨before, p, behind, e, hfirst, hlast, -⟩ := exists_span_of_mem h
  unfold Undecided at hcs
  rw [e] at hcs
  cases before with
  | nil =>
    have hp := hcs p rfl
    rw [spelled_nil, List.length_nil] at hfirst
    omega
  | cons q before =>
    have hq := hcs q rfl
    rw [spelled_cons, List.length_append] at hfirst
    omega

/-- **What ends two characters before two sources part is found in both.** -/
theorem filter_findingsAt {a b : List Char} (h : a.take n = b.take n) (read : Nat → Span → Option α)
    (line : Nat) : (findingsAt read 0 line (segments a)).filter (·.last + 2 ≤ n) =
      (findingsAt read 0 line (segments b)).filter (·.last + 2 ≤ n) := by
  obtain ⟨ps, u, v, ha, hb, hu, hv⟩ := exists_common_segments h
  have hnone : ∀ w, Undecided (n - (spelled ps).length) w →
      (findingsAt read (0 + (spelled ps).length) (line + (spelled ps).count '\n')
        (segments w)).filter (·.last + 2 ≤ n) = [] := by
    intro w hw
    rw [Nat.zero_add, List.filter_eq_nil_iff]
    intro f hf
    rw [decide_eq_true_eq, Nat.not_le]
    exact lt_of_mem_undecided hw hf
  rw [ha, hb, findingsAt_append, findingsAt_append, List.filter_append, List.filter_append,
    hnone u hu, hnone v hv]

end FindingsAt

/-- A span begins at the cursor, and the cursor and the line pass over its text. -/
theorem Scanner.absorb_place (p : Span) (s : Scanner) :
    (s.absorb p).2.start = s.current ∧ (s.absorb p).2.current = s.current + p.text.length ∧
      (s.absorb p).2.line = s.line + p.text.count '\n' := by
  rw [absorb_snd]
  exact ⟨rfl, rfl, rfl⟩

/-- What is kept behind each span is found at the place of the span. -/
theorem Scanner.findings_eq {α : Type} {kept : Scanner → List α}
    (read : String → Nat → Span → Option α)
    (hread : ∀ p s, kept (s.absorb p).2 =
      kept s ++ (read s.file (s.line + p.text.count '\n') p).toList)
    {s : Scanner} (hs : Patient s.listener) (n : Nat) : s.findings kept n =
      findingsAt (read s.file) s.current s.line ((segments s.rest).take n) := by
  induction n generalizing s with
  | zero => rfl
  | succ n ih =>
    unfold findings isAtEnd
    cases hr : s.rest with
    | nil => simp [findingsAt]
    | cons c cs =>
      obtain ⟨more, e, -⟩ := Span.exists_rest c cs
      have hg := gathers_absorb (Span.first c cs) s
      have hrest : (s.absorb (Span.first c cs)).2.rest = more := by
        refine hg.rest ?_
        rw [hr, e]
        simp
      have hok : (s.absorb (Span.first c cs)).1 = .ok () :=
        absorb_fst_of_takes (takes_of_patient hs _)
      obtain ⟨hstart, hcurrent, hline⟩ := absorb_place (Span.first c cs) s
      have hkept := hread (Span.first c cs) s
      rw [segments_cons more e, List.take_succ_cons, findingsAt, scanLexeme_eq hr]
      cases ha : s.absorb (Span.first c cs) with
      | mk answer t =>
        rw [ha] at hg hrest hok hstart hcurrent hline hkept
        obtain rfl : answer = .ok () := hok
        have htail := ih (s := t) (by rw [hg.listener]; exact hs)
        rw [hg.file, hcurrent, hline, hrest] at htail
        dsimp only at hkept hstart hcurrent ⊢
        rw [htail, hkept, List.drop_left, hstart, hcurrent]
        rfl

theorem Scanner.findings_new {α : Type} {kept : Scanner → List α}
    (read : String → Nat → Span → Option α)
    (hread : ∀ p s, kept (s.absorb p).2 =
      kept s ++ (read s.file (s.line + p.text.count '\n') p).toList)
    (source : List Char) (file : String) : (new source file none).findings kept source.length =
      findingsAt (read file) 0 1 (segments source) := by
  have hall : (segments (new source file none).rest).take source.length = segments source :=
    List.take_of_length_le (Scanner.length_segments_le source)
  rw [findings_eq read hread patient_none, hall]
  rfl

/-! ### What is found in a source -/

theorem tokenFindings_eq (source : List Char) (file : String) : tokenFindings source file =
    findingsAt (fun line p => p.token? line) 0 1 (segments source) ++
      [⟨source.length, source.length, .endOfInput (1 + source.count '\n')⟩] := by
  unfold tokenFindings
  rw [Scanner.findings_new fun _ line p => p.token? line]
  intro p s
  rw [(Scanner.gathers_absorb p s).tokens, tokensFrom_cons, tokensFrom_nil, List.append_nil]

theorem diagnosticFindings_eq (source : List Char) (file : String) : diagnosticFindings source file =
    findingsAt (fun line p => p.diagnostic? ⟨file, line⟩) 0 1 (segments source) := by
  unfold diagnosticFindings
  rw [Scanner.findings_new fun file line p => p.diagnostic? ⟨file, line⟩]
  intro p s
  rw [(Scanner.gathers_absorb p s).diagnostics, diagnosticsFrom_cons, diagnosticsFrom_nil,
    List.append_nil]

/-- The findings of a source are its tokens and its diagnostics, each where it stands in the source. -/
structure WellPlaced (source : List Char) (file : String) : Prop where
  tokens : (tokenFindings source file).map (·.item) = (scanSource source file).tokens
  diagnostics : (diagnosticFindings source file).map (·.item) = (scanSource source file).diagnostics
  lexemes : ∀ f ∈ tokenFindings source file,
    f.first ≤ f.last ∧ f.item.lexeme.toList = (source.drop f.first).take (f.last - f.first)
  strays : ∀ f ∈ diagnosticFindings source file, f.item.code = some "L001" → f.last = f.first + 1 ∧
    ∃ c, source[f.first]? = some c ∧
      f.item = .stray c ⟨file, 1 + (source.take f.first).count '\n'⟩

theorem map_item_findingsAt {α : Type} (read : Nat → Span → Option α) (pos line : Nat)
    (ps : List Span) : (findingsAt read pos line ps).map (·.item) =
      (placed line ps).filterMap fun (n, p) => read n p := by
  induction ps generalizing pos line with
  | nil => rfl
  | cons p ps ih =>
    rw [findingsAt, List.map_append, ih, placed, List.filterMap_cons, List.map_map]
    dsimp only
    cases read (line + p.text.count '\n') p <;> rfl

/-- Where the spans of a source are put apart, its characters are. -/
theorem source_eq_of_segments {source : List Char} {before behind : List Span} {p : Span}
    (e : segments source = before ++ p :: behind) :
    source = spelled before ++ (p.text ++ spelled behind) := by
  rw [← spelled_cons, ← spelled_append, ← e, spelled_segments]

theorem wellPlaced (source : List Char) (file : String) : WellPlaced source file := by
  refine ⟨?_, ?_, ?_, ?_⟩
  · rw [tokenFindings_eq, scanSource_eq, List.map_append, map_item_findingsAt]
    rfl
  · rw [diagnosticFindings_eq, scanSource_eq, map_item_findingsAt]
    rfl
  · intro f hf
    rw [tokenFindings_eq, List.mem_append, List.mem_singleton] at hf
    rcases hf with hf | rfl
    · obtain ⟨before, p, behind, e, hfirst, hlast, ht⟩ := exists_span_of_mem hf
      rw [Nat.zero_add] at hfirst
      have hlexeme : f.item.lexeme.toList = p.text := by
        obtain ⟨x, hx, ht⟩ := Option.map_eq_some_iff.mp ht
        cases p with
        | lexeme q text =>
          obtain ⟨kind, -, rfl⟩ := Option.map_eq_some_iff.mp hx
          rw [← ht]
          exact String.toList_ofList
        | _ => cases hx
      refine ⟨by omega, ?_⟩
      rw [hlast, Nat.add_sub_cancel_left, hfirst, source_eq_of_segments e, List.drop_left,
        List.take_left, hlexeme]
    · simp [Token.endOfInput]
  · intro f hf hcode
    rw [diagnosticFindings_eq] at hf
    obtain ⟨before, p, behind, e, hfirst, hlast, hd⟩ := exists_span_of_mem hf
    rw [Nat.zero_add] at hfirst
    have hsource := source_eq_of_segments e
    cases p with
    | lexeme q text => cases hd
    | unterminated text =>
      rw [← Option.some.inj hd] at hcode
      exact absurd hcode (by simp [Diagnostic.unterminated, Diagnostic.error])
    | unexpected c =>
      have hother : Opening.ofChar c = .other := by
        apply ofChar_of_mem_segments source
        rw [e]
        exact List.mem_append_right _ List.mem_cons_self
      have hline : c ≠ '\n' := Opening.ne_of_other hother (by decide)
      have hcount : (spelled before ++ (Span.unexpected c).text).count '\n' =
          (source.take f.first).count '\n' := by
        rw [hfirst, hsource, List.take_left, List.count_append]
        simp [Span.text, hline]
      refine ⟨hlast, c, ?_, ?_⟩
      · rw [hsource, hfirst]
        simp [Span.text]
      · rw [← Option.some.inj hd, hcount]
        simp

/-- A source that ends two characters before the two part is the other. -/
theorem eq_of_take {a b : List Char} {n : Nat} (h : a.take n = b.take n) (ha : a.length + 2 ≤ n) :
    a = b := by
  have hlength := congrArg List.length h
  rw [List.length_take, List.length_take] at hlength
  rwa [List.take_of_length_le (by omega), List.take_of_length_le (by omega)] at h

/-- **Two characters are looked ahead, and no more**: of two sources with the same first `n` characters,
all tokens that end two characters before that, and all strays that stand before these two, are the
same. -/
theorem scanSource_lookahead (a b : List Char) (file : String) (n : Nat) (h : a.take n = b.take n) :
    (∀ source, WellPlaced source file) ∧
      (tokenFindings a file).filter (·.last + 2 ≤ n) =
        (tokenFindings b file).filter (·.last + 2 ≤ n) ∧
      (diagnosticFindings a file).filter (fun f => f.item.code = some "L001" ∧ f.first + 2 < n) =
        (diagnosticFindings b file).filter fun f => f.item.code = some "L001" ∧ f.first + 2 < n := by
  refine ⟨fun source => wellPlaced source file, ?_, ?_⟩
  · by_cases hshort : a.length + 2 ≤ n ∨ b.length + 2 ≤ n
    · obtain rfl : a = b := by
        rcases hshort with ha | hb
        · exact eq_of_take h ha
        · exact (eq_of_take h.symm hb).symm
      rfl
    · rw [not_or] at hshort
      rw [tokenFindings_eq, tokenFindings_eq, List.filter_append, List.filter_append,
        filter_findingsAt h]
      simp [hshort.1, hshort.2]
  · -- A stray is one character, so it stands before the last two just when it ends in time.
    have hends : ∀ source,
        (diagnosticFindings source file).filter
            (fun f => f.item.code = some "L001" ∧ f.first + 2 < n) =
          ((findingsAt (fun line p => p.diagnostic? ⟨file, line⟩) 0 1 (segments source)).filter
            (·.last + 2 ≤ n)).filter (·.item.code = some "L001") := by
      intro source
      rw [List.filter_filter, ← diagnosticFindings_eq]
      refine List.filter_congr fun f hf => ?_
      rw [← Bool.decide_and, decide_eq_decide]
      refine and_congr_right fun hcode => ?_
      obtain ⟨hlast, -⟩ := (wellPlaced source file).strays f hf hcode
      omega
    rw [hends, hends, filter_findingsAt h]

/-- A point is a token of its own just when no digit is behind it.  The number in front of it ends too
close to the place where the two sources part, but not the name and the stray. -/
theorem scanSource_lookahead_point :
    let a := ['v', '@', ' ', '1', '.', '5']
    let b := ['v', '@', ' ', '1', '.', 'x']
    a.take 5 = b.take 5 ∧
      (tokenFindings b "a.lox").filter (·.last + 2 ≤ 5) = [⟨0, 1, ⟨.identifier, "v", .absent, 1⟩⟩] ∧
      ((diagnosticFindings b "a.lox").filter fun f => f.item.code = some "L001" ∧ f.first + 2 < 5) =
        [⟨1, 2, .stray '@' ⟨"a.lox", 1⟩⟩] ∧
      (tokenFindings a "a.lox").filter (·.last + 1 ≤ 5) ≠
        (tokenFindings b "a.lox").filter (·.last + 1 ≤ 5) := by
  intro a b
  have h : a.take 5 = b.take 5 := rfl
  obtain ⟨-, htokens, hstrays⟩ := scanSource_lookahead a b "a.lox" 5 h
  refine ⟨h, htokens.symm.trans ?_, hstrays.symm.trans ?_, ?_⟩
  · decide
  · decide
  · decide

end LoxLex
