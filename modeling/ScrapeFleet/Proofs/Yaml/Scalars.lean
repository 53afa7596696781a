/-
# ScrapeFleet.Proofs.Yaml.Scalars — scalars at the end of a line and before a colon

A scalar stands in one of two places of a written document. As a value, or as a key that is marked with a
question mark, it ends its line, and the next line is not indented deeper than the block around it. As any
other key it stands on one line with the colon behind it.
-/
import ScrapeFleet.Proofs.Yaml.Tokens
import ScrapeFleet.Yaml.Writer

namespace ScrapeFleet.Yaml

/-! ## The start and the end of a written scalar -/

theorem AtToken.of_start {x : Char} (hx : startsToken x = true) (r : List Char) : AtToken (x :: r) := by
  intro y hy
  obtain rfl : x = y := by simpa using hy
  exact hx

theorem PlainText.exists_start {t : List Char} (ht : PlainText t) :
    ∃ x r, t = x :: r ∧ startsToken x = true := by
  obtain ⟨x, r, rfl⟩ := List.exists_cons_of_ne_nil ht.ne_nil
  have hline : InLine x := ht.tail.chars x List.mem_cons_self
  have hspace : x ≠ ' ' := by simpa using ht.head_ne_space
  have hhead := ht.head x rfl
  refine ⟨x, r, rfl, startsToken_iff.2 ⟨?_, hline.not_break, ?_, ?_⟩⟩
  · simpa [hline.isBlank_eq] using hspace
  · rintro rfl
    exact absurd hhead (by decide)
  · rintro rfl
    exact absurd hline.printable (by decide)

/-- What is written for a text starts with a token. -/
theorem Style.Carries.exists_start {st : Style} {s : String} (h : st.Carries s.toList) (n : Nat) :
    ∃ x r, (st.write n s).toList = x :: r ∧ startsToken x = true := by
  cases st with
  | plain => exact h.plainText.exists_start
  | single =>
    refine ⟨'\'', (singleBody n false s.toList).toList ++ ['\''], ?_, rfl⟩
    simp [write, singleQuoted]
  | double =>
    refine ⟨'"', (s.toList.flatMap fun x => (escaped x).toList) ++ ['"'], ?_, rfl⟩
    simp [write, doubleQuoted, String.toList_join, List.flatMap_map]
  | literal =>
    refine ⟨'|', (literalHints s.toList).toList ++ '\n' :: (literalBody n true s.toList).toList, ?_, rfl⟩
    simp [write, literalBlock]

theorem toList_endLine (w : String) : (endLine w).toList = w.toList ++ closing w.toList := by
  unfold endLine closing
  cases w.toList.getLast? with
  | none => simp
  | some x =>
    by_cases hx : isBreak x = true
    · simp [hx]
    · simp [hx]

theorem getLast?_literalBody (n : Nat) (u : List Char) (x : Char) (broken : Bool) :
    (literalBody n broken (u ++ [x])).toList.getLast? = some x := by
  induction u generalizing broken with
  | nil =>
    by_cases hx : isBreak x = true
    · simp [literalBody, hx]
    · simp [literalBody, hx]
  | cons y u ih =>
    rw [List.cons_append, literalBody]
    split
    · simp [List.getLast?_cons, ih]
    · simp [List.getLast?_append, List.getLast?_cons, ih]

theorem closing_append (s : List Char) {t : List Char} (ht : t ≠ []) : closing (s ++ t) = closing t := by
  obtain ⟨u, x, rfl⟩ := (List.eq_nil_or_concat t).resolve_left ht
  rw [List.concat_eq_append, ← List.append_assoc, closing_concat, closing_concat]

/-- Only a literal block can end with a break, and it does so if its text does. -/
theorem Style.Carries.closing_write {st : Style} {s : String} (h : st.Carries s.toList) (n : Nat) :
    closing (st.write n s).toList = if st = .literal then closing s.toList else ['\n'] := by
  cases st with
  | plain =>
    have ht := h.plainText
    obtain ⟨u, x, hu⟩ := (List.eq_nil_or_concat s.toList).resolve_left ht.ne_nil
    have hx : isBreak x = false := (ht.tail.chars x (by simp [hu])).not_break
    show closing s.toList = ['\n']
    rw [hu, List.concat_eq_append, closing_concat, hx]
    rfl
  | single =>
    show closing (singleQuoted n s.toList).toList = ['\n']
    rw [singleQuoted, String.toList_append, closing_append _ (by simp)]
    rfl
  | double =>
    show closing (doubleQuoted s.toList).toList = ['\n']
    rw [doubleQuoted, String.toList_append, closing_append _ (by simp)]
    rfl
  | literal =>
    obtain ⟨u, x, hu⟩ := (List.eq_nil_or_concat s.toList).resolve_left h.literalText.1
    have hlast := getLast?_literalBody n u x true
    have hne : (literalBody n true (u ++ [x])).toList ≠ [] := by
      intro hnil
      rw [hnil] at hlast
      cases hlast
    show closing (literalBlock n s.toList).toList = closing s.toList
    rw [hu, List.concat_eq_append, literalBlock, String.toList_append, closing_append _ hne, closing,
      hlast, closing_concat]

/-! ## The next line -/

/-- The text goes on on a line that is indented at most as deep as `i`, or it is at its end. -/
def Outdented (i : Nat) (text : List Char) : Prop :=
  ∃ m body, text = List.replicate m ' ' ++ body ∧ m ≤ i ∧ AtToken body

theorem AtToken.dropWhile_eq {body : List Char} (h : AtToken body) :
    body.takeWhile (· == ' ') = [] ∧ body.dropWhile (· == ' ') = body := by
  cases body with
  | nil => exact ⟨rfl, rfl⟩
  | cons x body =>
    obtain ⟨hx, -⟩ := startsToken_iff.1 (h x rfl)
    simp only [isBlank, Bool.or_eq_false_iff] at hx
    simp [hx.1]

theorem Outdented.atToken {i : Nat} {text : List Char} (h : Outdented i text) :
    AtToken (text.dropWhile (· == ' ')) := by
  obtain ⟨m, body, rfl, -, hbody⟩ := h
  rw [List.dropWhile_append_of_pos (by simp), hbody.dropWhile_eq.2]
  exact hbody

/-- An unquoted text ends on the next line, which is not deep enough to belong to it. -/
theorem plainStop_line {i m : Nat} {body : List Char} (hbody : AtToken body) (hm : m ≤ i) {c : Cursor}
    (hc : c.rest = '\n' :: (List.replicate m ' ' ++ body)) :
    ∃ e, plainStop (i + 1) c = some (true, e) ∧ e.rest = body ∧ e.column = m ∧ e.line = c.line + 1 := by
  have hopen : ∀ y, body.head? = some y → isBlank y = false ∧ isBreak y = false := by
    intro y hy
    obtain ⟨hblank, hbreak, -⟩ := startsToken_iff.1 (hbody y hy)
    exact ⟨hblank, hbreak⟩
  have hend : c.rest = '\n' :: ([] ++ (List.replicate m ' ' ++ body)) := hc
  obtain ⟨e, hgap, hrest, hcolumn, hline⟩ := readGap_lines (i + 1) hopen (.inl rfl) (by simp) hend
  refine ⟨e, ?_, hrest, hcolumn, hline⟩
  have hbreak : c.atBreak = true := Cursor.atBreak_of_rest hc
  have hlow : e.column < i + 1 := by omega
  simp [plainStop, hbreak, hgap, hlow]

namespace Spot

theorem atLine_spaces {m : Nat} {body : List Char} (hbody : AtToken body) (tokens : List Token)
    (indent : Int) (outer : List Int) :
    atLine (List.replicate m ' ' ++ body) tokens indent outer =
      closed m body true tokens indent outer := by
  obtain ⟨hhead, hdrop⟩ := hbody.dropWhile_eq
  rw [atLine, List.takeWhile_append_of_pos (by simp), List.dropWhile_append_of_pos (by simp), hhead,
    hdrop]
  simp

/-! ## Scalars at the end of a line -/

variable {p : Spot} {s : String} {i : Nat} {text : List Char} {ts : Array Token}

theorem reads_plain_line (hs : PlainText s.toList) (hindent : p.indent = i) (hcol : p.indent < p.column)
    (htext : Outdented i text) (hp : p.rest = s.toList ++ '\n' :: text)
    (h : (atLine text (p.tokens ++ [.scalar s .plain]) p.indent p.outer).Reads ts) : p.Reads ts := by
  obtain ⟨m, body, rfl, hm, hbody⟩ := htext
  obtain ⟨x, t, hx⟩ := List.exists_cons_of_ne_nil hs.ne_nil
  have hp' : p.rest = x :: (t ++ '\n' :: (List.replicate m ' ' ++ body)) := by rw [hp, hx]; rfl
  refine reads_of_lexAt hp' fun line index => ?_
  generalize hc : (⟨p.rest, line, p.column, index⟩ : Cursor) = c
  have hrest : c.rest = s.toList ++ '\n' :: (List.replicate m ' ' ++ body) := by rw [← hc, ← hp]
  have hcolumn : c.column = p.column := by rw [← hc]
  obtain ⟨e, hstop, hbehind, hdeep, hline⟩ :=
    plainStop_line hbody hm (c := c.skip s.toList.length) (by simp [hrest])
  have hafter : plainWord false ('\n' :: (List.replicate m ' ' ++ body)) = some [] := rfl
  have hread : readPlain false (i + 1) [] {} c = some (s.toList, true, e) :=
    readPlain_text hafter s.toList [] {} c hs.tail hs.ne_nil hs.head_ne_space hs.head_ne_hash
      hs.last_ne_space hrest (Cursor.atDocumentMarker_of_column (by omega)) (by omega) hstop
  have hlex : (p.lexer line index).lexAt x =
      some { cursor := e
             tokens := (p.tokens ++ [Token.scalar s .plain]).toArray
             indent := p.indent
             outer := p.outer
             keyAllowed := true
             key := p.possibleKey line index } := by
    have hstart : (p.lexer line index).cursor.rest = x :: t ++ '\n' :: (List.replicate m ' ' ++ body) := hp'
    have hdeep : ((p.indent + 1).toNat) = i + 1 := by omega
    rw [Lexer.lexAt_plain rfl (hx ▸ hs) (.inr rfl) hstart, Lexer.lexPlain, saveKey_lexer]
    simp only [lexer, Lexer.inFlow, List.isEmpty_nil, Bool.not_true, hdeep, hc, hread]
    simp [Lexer.emit]
  refine ⟨_, hlex, ?_, ?_⟩
  · simp [hbehind, hp]
    omega
  · refine Lexer.run_of_spaces (k := 0) rfl (fun k hk => ?_) hbody hbehind rfl ?_
    · -- the key that the text might have been is given up on the next line
      obtain ⟨hreq, hkeyLine, -⟩ := possibleKey_inside hcol hk
      refine ⟨hreq, ?_⟩
      rw [hkeyLine]
      have hstartLine : c.line = line := by rw [← hc]
      rw [Cursor.line_skip] at hline
      show line < e.line
      omega
    · show (closed (e.column + 0) body true (p.tokens ++ [.scalar s .plain]) p.indent p.outer).Reads ts
      rw [atLine_spaces hbody] at h
      rw [hdeep]
      exact h

/-- A quoted text, whatever it is written as. -/
theorem reads_quoted_line (single : Bool) {w : List Char} (hcol : p.indent < p.column)
    (htext : Outdented i text) (hp : p.rest = (if single then '\'' else '"') :: w)
    (hread : ∀ c : Cursor, c.rest = w → ∃ d, readQuoted single [] c = some (s.toList, d) ∧
      d.rest = '\n' :: text ∧ c.line ≤ d.line ∧ d.rest.length < w.length)
    (h : (atLine text (p.tokens ++ [.scalar s (if single then .single else .double)]) p.indent
      p.outer).Reads ts) : p.Reads ts := by
  refine reads_of_lexAt hp fun line index => ?_
  have hstart : (p.lexer line index).cursor.rest = (if single then '\'' else '"') :: w := hp
  obtain ⟨d, hd, hbehind, hline, hlen⟩ := hread ((p.lexer line index).cursor.skip 1) (by simp [hstart])
  have hlex : (p.lexer line index).lexAt (if single then '\'' else '"') =
      some { cursor := d
             tokens := (p.tokens ++ [Token.scalar s (if single then .single else .double)]).toArray
             indent := p.indent
             outer := p.outer
             keyAllowed := false
             key := p.possibleKey line index } := by
    rw [Lexer.lexAt_quote single hstart, Lexer.lexQuoted, Lexer.lexNode, saveKey_lexer]
    simp only [hd]
    simp [Lexer.emit, lexer]
  refine ⟨_, hlex, ?_, ?_⟩
  · rw [hp]
    exact Nat.lt_succ_of_lt hlen
  · refine Lexer.run_of_line rfl (fun k hk => ?_) htext.atToken hbehind rfl h
    obtain ⟨hreq, hkeyLine, -⟩ := possibleKey_inside hcol hk
    exact ⟨hreq, hkeyLine ▸ hline⟩

theorem reads_single_line {n : Nat} (hn : 0 < n) (hs : SingleTail s.toList) (hcol : p.indent < p.column)
    (htext : Outdented i text) (hp : p.rest = (singleQuoted n s.toList).toList ++ '\n' :: text)
    (h : (atLine text (p.tokens ++ [.scalar s .single]) p.indent p.outer).Reads ts) : p.Reads ts := by
  have hp' : p.rest = '\'' :: ((singleBody n false s.toList).toList ++ '\'' :: '\n' :: text) := by
    simp [hp, singleQuoted]
  refine reads_quoted_line true hcol htext hp' (fun c hc => ?_) h
  have hafter : ('\n' :: text).head? ≠ some '\'' := by simp
  obtain ⟨d, hd, hrest, hline, -⟩ := readQuoted_single hn hafter hs [] c hc
  exact ⟨d, hd, hrest, hline, by simp [hrest]; omega⟩

theorem reads_double_line (hcol : p.indent < p.column) (htext : Outdented i text)
    (hp : p.rest = (doubleQuoted s.toList).toList ++ '\n' :: text)
    (h : (atLine text (p.tokens ++ [.scalar s .double]) p.indent p.outer).Reads ts) : p.Reads ts := by
  have hp' : p.rest = '"' :: ((s.toList.flatMap fun x => (escaped x).toList) ++ '"' :: '\n' :: text) := by
    simp [hp, doubleQuoted, String.toList_join, List.flatMap_map]
  refine reads_quoted_line false hcol htext hp' (fun c hc => ?_) h
  have hd := readQuoted_double s.toList [] c hc
  generalize s.toList.flatMap (fun x => (escaped x).toList) = w at hc hd
  refine ⟨_, hd, ?_, Nat.le_refl _, ?_⟩
  · simp [hc]
  · simp [hc]
    omega

theorem reads_literal (hs : Style.literal.Carries s.toList) (hindent : p.indent = i)
    (htext : Outdented i text)
    (hp : p.rest = (literalBlock (i + 2) s.toList).toList ++ (closing s.toList ++ text))
    (h : (atLine text (p.tokens ++ [.scalar s .literal]) p.indent p.outer).Reads ts) :
    p.Reads ts := by
  obtain ⟨m, body, rfl, hm, hbody⟩ := htext
  have hp' : p.rest = '|' :: ((literalHints s.toList).toList ++ '\n' ::
      ((literalBody (i + 2) true s.toList).toList ++
        (closing s.toList ++ (List.replicate m ' ' ++ body)))) := by
    simp [hp, literalBlock]
  -- the block is indented by two, and what follows it is not
  have hbehind : Behind (i + 2) m body := by
    refine ⟨by omega, fun x hx => ?_⟩
    obtain ⟨hblank, hbreak, -⟩ := startsToken_iff.1 (hbody x hx)
    exact ⟨hbreak, fun _ => hblank⟩
  refine reads_of_lexAt hp' fun line index => ?_
  have hstart : (p.lexer line index).cursor.rest = _ := hp'
  obtain ⟨d, hd, hrest, hcolumn⟩ := readBlockScalar_literal hs.literalText.1 hs.literalText.2 hm hbehind
    ((p.lexer line index).cursor.skip 1) (by simp [hstart])
  have hlex : (p.lexer line index).lexAt '|' =
      some { cursor := d
             tokens := (p.tokens ++ [Token.scalar s .literal]).toArray
             indent := p.indent
             outer := p.outer
             keyAllowed := true } := by
    have hdrop : (p.lexer line index).dropKey = some (p.lexer line index) := rfl
    have hblock : (p.lexer line index).indent = i := hindent
    rw [Lexer.lexAt_bar rfl hstart, Lexer.lexBlockScalar, hdrop]
    simp only [hblock, hd]
    simp [Lexer.emit, lexer, hindent]
  refine ⟨_, hlex, ?_, ?_⟩
  · rw [hrest, hp']
    simp
    omega
  · refine Lexer.run_of_spaces (k := 0) rfl (by simp) hbody hrest rfl ?_
    show (closed (d.column + 0) body true (p.tokens ++ [.scalar s .literal]) p.indent p.outer).Reads ts
    rw [atLine_spaces hbody] at h
    rw [hcolumn]
    exact h

/-- A scalar that ends its line. -/
theorem reads_scalar {st : Style} (hs : st.Carries s.toList) (hindent : p.indent = i)
    (hcol : p.indent < p.column) (htext : Outdented i text)
    (hp : p.rest = (endLine (st.write (i + 2) s)).toList ++ text)
    (h : (atLine text (p.tokens ++ [.scalar s st.form]) p.indent p.outer).Reads ts) : p.Reads ts := by
  rw [toList_endLine, hs.closing_write, List.append_assoc] at hp
  cases st with
  | plain => exact reads_plain_line hs.plainText hindent hcol htext hp h
  | single => exact reads_single_line (by omega) hs.singleTail hcol htext hp h
  | double => exact reads_double_line hcol htext hp h
  | literal => exact reads_literal hs hindent htext hp h

/-! ## Keys on one line with their value -/

/-- The lexer behind a scalar on the same line, which may turn out to be a key. -/
def afterScalar (p : Spot) (line index : Nat) (k : Nat) (t : Token) : Lexer where
  cursor := (⟨p.rest, line, p.column, index⟩ : Cursor).skip k
  tokens := (p.tokens ++ [t]).toArray
  indent := p.indent
  outer := p.outer
  keyAllowed := false
  key := p.possibleKey line index

section Forms

variable {after : List Char}

theorem lexAt_plain_key (hs : PlainText s.toList) (hcol : p.indent ≤ p.column)
    (hafter : isBlankOrEnd after.head? = true) (hp : p.rest = s.toList ++ ':' :: after) {x : Char}
    {t : List Char} (hx : s.toList = x :: t) (line index : Nat) :
    (p.lexer line index).lexAt x =
      some (p.afterScalar line index s.toList.length (.scalar s .plain)) := by
  have hp' : (p.lexer line index).cursor.rest = s.toList ++ ':' :: after := hp
  -- what ends the text is the colon, since a blank stands behind it
  have hcolon : plainWord false (':' :: after) = some [] := by
    have hopen : isBlankOrEnd (some ':') = false := rfl
    simp only [plainWord, hopen, hafter]
    rfl
  have hstop : plainStop (p.indent + 1).toNat ((p.lexer line index).cursor.skip s.toList.length) =
      some (false, (p.lexer line index).cursor.skip s.toList.length) := by
    have hend : ((p.lexer line index).cursor.skip s.toList.length).rest = ':' :: after := by
      simp [hp']
    rw [plainStop, Cursor.atBlank_of_rest hend, Cursor.atBreak_of_rest hend]
    rfl
  have hmarker : (p.lexer line index).cursor.atDocumentMarker = false := by
    obtain ⟨hdashes, hpoints⟩ := Lexer.no_marker hp'
      (Lexer.isPrefixOf_append_of_ne (by decide) hs.dashes)
      (Lexer.isPrefixOf_append_of_ne (by decide) hs.points)
    rw [Cursor.atDocumentMarker, hdashes, hpoints]
    rfl
  have hdeep : (p.indent + 1).toNat ≤ (p.lexer line index).cursor.column + 1 := by
    show (p.indent + 1).toNat ≤ p.column + 1
    omega
  have hread := readPlain_text hcolon s.toList [] {} (p.lexer line index).cursor hs.tail hs.ne_nil
    hs.head_ne_space hs.head_ne_hash hs.last_ne_space hp' hmarker hdeep hstop
  have hstart : (p.lexer line index).cursor.rest = x :: t ++ ':' :: after := by rw [hp', hx]
  rw [Lexer.lexAt_plain rfl (hx ▸ hs) (.inl rfl) hstart, Lexer.lexPlain, saveKey_lexer]
  simp only [lexer, Lexer.inFlow, List.isEmpty_nil, Bool.not_true] at hread ⊢
  simp only [hread]
  simp [Lexer.emit, afterScalar, Gap.text]

/-- A quoted text that is read on its line, whatever it is written as. -/
theorem lexAt_quoted_key (single : Bool) {w : List Char} {k line index : Nat}
    (hp : p.rest = (if single then '\'' else '"') :: w)
    (hread : readQuoted single [] ((p.lexer line index).cursor.skip 1) =
      some (s.toList, (p.lexer line index).cursor.skip k)) :
    (p.lexer line index).lexAt (if single then '\'' else '"') =
      some (p.afterScalar line index k (.scalar s (if single then .single else .double))) := by
  have hstart : (p.lexer line index).cursor.rest = (if single then '\'' else '"') :: w := hp
  rw [Lexer.lexAt_quote single hstart, Lexer.lexQuoted, Lexer.lexNode, saveKey_lexer]
  simp only [hread]
  simp [Lexer.emit, lexer, afterScalar]

theorem lexAt_single_key {n : Nat} (hs : SingleTail s.toList) (hline : ∀ x ∈ s.toList, isBreak x = false)
    (hn : 0 < n) (hp : p.rest = (singleQuoted n s.toList).toList ++ ':' :: after) (line index : Nat) :
    (p.lexer line index).lexAt '\'' =
      some (p.afterScalar line index (singleQuoted n s.toList).toList.length (.scalar s .single)) := by
  have hp' : p.rest = '\'' :: ((singleBody n false s.toList).toList ++ '\'' :: ':' :: after) := by
    simp [hp, singleQuoted]
  have hnext : (':' :: after).head? ≠ some '\'' := by simp
  have hlen : 1 + ((singleBody n false s.toList).toList.length + 1) =
      (singleQuoted n s.toList).toList.length := by
    simp [singleQuoted]
    omega
  refine lexAt_quoted_key true hp' ?_
  obtain ⟨d, hd, -, -, hplace⟩ := readQuoted_single hn hnext hs []
    ((p.lexer line index).cursor.skip 1) (by simp [lexer, hp'])
  rw [hd, hplace hline, Cursor.skip_skip, hlen]
  rfl

theorem lexAt_double_key (hp : p.rest = (doubleQuoted s.toList).toList ++ ':' :: after)
    (line index : Nat) :
    (p.lexer line index).lexAt '"' =
      some (p.afterScalar line index (doubleQuoted s.toList).toList.length (.scalar s .double)) := by
  generalize hbody : s.toList.flatMap (fun x => (escaped x).toList) = body
  have hwritten : (doubleQuoted s.toList).toList = '"' :: (body ++ ['"']) := by
    simp [doubleQuoted, String.toList_join, List.flatMap_map, hbody]
  have hp' : p.rest = '"' :: (body ++ '"' :: ':' :: after) := by simp [hp, hwritten]
  have hlen : 1 + (body.length + 1) = (doubleQuoted s.toList).toList.length := by
    rw [hwritten]
    simp
    omega
  have hrest : ((p.lexer line index).cursor.skip 1).rest =
      s.toList.flatMap (fun x => (escaped x).toList) ++ '"' :: ':' :: after := by
    simp [lexer, hp', hbody]
  refine lexAt_quoted_key false hp' ?_
  rw [readQuoted_double s.toList [] _ hrest, Cursor.skip_skip, hbody, hlen]
  rfl

end Forms

/-- A text without a break is read where it stands, whichever form it has. -/
theorem lexAt_key {st : Style} {n : Nat} {after : List Char} (hs : st.Carries s.toList)
    (hform : st ≠ .literal) (hline : ∀ x ∈ s.toList, isBreak x = false) (hn : 0 < n)
    (hcol : p.indent ≤ p.column) (hafter : isBlankOrEnd after.head? = true)
    (hp : p.rest = (st.write n s).toList ++ ':' :: after) :
    ∃ x r, (st.write n s).toList = x :: r ∧ ∀ line index, (p.lexer line index).lexAt x =
      some (p.afterScalar line index (st.write n s).toList.length (.scalar s st.form)) := by
  cases st with
  | literal => exact absurd rfl hform
  | plain =>
    obtain ⟨x, t, hx⟩ := List.exists_cons_of_ne_nil hs.plainText.ne_nil
    exact ⟨x, t, hx, lexAt_plain_key hs.plainText hcol hafter hp hx⟩
  | single =>
    refine ⟨'\'', (singleBody n false s.toList).toList ++ ['\''], ?_,
      lexAt_single_key hs.singleTail hline hn hp⟩
    simp [Style.write, singleQuoted]
  | double =>
    refine ⟨'"', (s.toList.flatMap fun x => (escaped x).toList) ++ ['"'], ?_, lexAt_double_key hp⟩
    simp [Style.write, doubleQuoted, String.toList_join, List.flatMap_map]

theorem insertIdx_length {α : Type} (us vs : List α) (x : α) :
    (us ++ vs).insertIdx us.length x = us ++ x :: vs := by
  induction us with
  | nil => rfl
  | cons u us ih => simp [ih]

section AfterScalar

variable {k line index : Nat} {t : Token} {after : List Char}

theorem key_afterScalar (hallowed : p.allowed = true) :
    (p.afterScalar line index k t).key =
      some ⟨p.tokens.length, line, p.column, index, p.indent == p.column⟩ := by
  simp [afterScalar, possibleKey, hallowed]

/-- The lexer stands at the next token, and a key that is not too long may still stand before it. -/
theorem ready_afterScalar (hallowed : p.allowed = true) (hk : k ≤ keyLimit)
    (hrest : (p.afterScalar line index k t).cursor.rest = ':' :: after) :
    (p.afterScalar line index k t).skipToToken.dropStaleKeys = some (p.afterScalar line index k t) := by
  have hskip : (p.afterScalar line index k t).skipToToken = p.afterScalar line index k t := by
    rw [Lexer.skipToToken_spaces (k := 0) (.of_start rfl after) hrest, Cursor.skip_zero]
  have hstale : Lexer.stale (p.afterScalar line index k t).cursor (p.afterScalar line index k t).key =
      some (p.afterScalar line index k t).key := by
    have hline : ¬ line < line := Nat.lt_irrefl _
    have hindex : ¬ index + keyLimit < index + k := by omega
    rw [key_afterScalar hallowed, Lexer.stale]
    simp [afterScalar, Cursor.skip, hk]
  rw [hskip]
  simp [Lexer.dropStaleKeys, hstale]
  rfl

/-- No block ends behind a scalar that does not stand before its block. -/
theorem unindent_afterScalar (hcol : p.indent ≤ p.column) :
    (p.afterScalar line index k t).unindent (p.afterScalar line index k t).cursor.column =
      p.afterScalar line index k t := by
  have hdeep : ¬ ((p.column + k : Nat) : Int) < p.indent := by omega
  have hclose : ∀ tokens, Lexer.closeBlocks (p.column + k : Nat) tokens p.indent p.outer =
      (tokens, p.indent, p.outer) := by
    intro tokens
    unfold Lexer.closeBlocks
    exact if_neg hdeep
  rw [Lexer.unindent, if_neg (by simp [Lexer.inFlow, afterScalar])]
  simp only [afterScalar, Cursor.skip, hclose]

/-- The colon puts the mark of a key, and that of a block if one begins, in front of the scalar. -/
theorem lexAt_colon_afterScalar (hallowed : p.allowed = true)
    (hrest : (p.afterScalar line index k t).cursor.rest = ':' :: after)
    (hafter : isBlankOrEnd after.head? = true) :
    (p.afterScalar line index k t).lexAt ':' =
      some (((p.opened .blockMappingStart).behind (k + 1) after [.key, t, .value] false).lexer line
        (index + k + 1)) := by
  have hdrop : p.rest.drop k = ':' :: after := hrest
  have hmarked : (p.tokens ++ [t]).toArray.insertIdxIfInBounds p.tokens.length .key =
      (p.tokens ++ [.key, t]).toArray := by
    rw [List.insertIdxIfInBounds_toArray, insertIdx_length]
  have hstarted : (p.tokens ++ [.key, t]).toArray.insertIdxIfInBounds p.tokens.length
      .blockMappingStart = (p.tokens ++ [.blockMappingStart, .key, t]).toArray := by
    rw [List.insertIdxIfInBounds_toArray, insertIdx_length]
  rw [Lexer.lexAt_colon hrest hafter, Lexer.lexValue, key_afterScalar hallowed]
  simp only [afterScalar, hmarked, Lexer.openBlock, Lexer.inFlow, List.isEmpty_nil, Bool.not_true,
    Bool.false_eq_true, if_false, hstarted]
  unfold opened
  by_cases hdeep : p.indent < p.column
  · simp [hdeep, Lexer.emit, lexer, behind, Cursor.skip, Nat.add_assoc, hdrop]
  · simp [hdeep, Lexer.emit, lexer, behind, Cursor.skip, Nat.add_assoc, hdrop]

/-- At the colon the scalar before it turns out to be a key, if it was not too long. -/
theorem run_afterScalar (hallowed : p.allowed = true) (hcol : p.indent ≤ p.column) (hk : k ≤ keyLimit)
    (hrest : p.rest.drop k = ':' :: after) (hafter : isBlankOrEnd after.head? = true)
    (h : ((p.opened .blockMappingStart).behind (k + 1) after [.key, t, .value] false).Runs ts) :
    (p.afterScalar line index k t).run = some ts := by
  have hrest' : (p.afterScalar line index k t).cursor.rest = ':' :: after := hrest
  refine Lexer.run_of_onward (ready_afterScalar hallowed hk hrest') (Nat.le_refl _) ?_
  rw [unindent_afterScalar hcol, Lexer.onward, Cursor.peek_of_rest hrest']
  simp only [lexAt_colon_afterScalar hallowed hrest' hafter]
  rw [if_pos (by simp [hrest', lexer, behind])]
  exact h line (index + k + 1)

end AfterScalar

/-- A key on one line with its value. -/
theorem reads_key {st : Style} {n : Nat} {after : List Char} (hs : st.Carries s.toList)
    (hform : st ≠ .literal) (hline : ∀ x ∈ s.toList, isBreak x = false) (hn : 0 < n)
    (hlen : (st.write n s).toList.length ≤ keyLimit) (hallowed : p.allowed = true)
    (hcol : p.indent ≤ p.column) (hafter : isBlankOrEnd after.head? = true)
    (hp : p.rest = (st.write n s).toList ++ ':' :: after)
    (h : ((p.opened .blockMappingStart).behind ((st.write n s).toList.length + 1) after
      [.key, .scalar s st.form, .value] false).Runs ts) : p.Reads ts := by
  obtain ⟨x, r, hw, hlex⟩ := lexAt_key hs hform hline hn hcol hafter hp
  have hp' : p.rest = x :: (r ++ ':' :: after) := by rw [hp, hw]; rfl
  have hdrop : p.rest.drop (st.write n s).toList.length = ':' :: after := by simp [hp]
  refine reads_of_lexAt hp' fun line index => ⟨_, hlex line index, ?_, ?_⟩
  · show (p.rest.drop (st.write n s).toList.length).length < p.rest.length
    rw [hdrop, hp, hw, List.length_append]
    simp only [List.length_cons]
    omega
  · exact run_afterScalar hallowed hcol hlen hdrop hafter h

end Spot

end ScrapeFleet.Yaml
