/-
# ScrapeFleet.Proofs.Yaml.Tokens — the tokens that a writer writes

One lemma for each token of a written document: the lexer, in front of the token's text, adds the token
and goes on behind it. Dashes and question marks open a block if they stand deeper than the one around
them; so does the first key of a record, which the lexer takes for text until it comes to the colon.
-/
import ScrapeFleet.Proofs.Yaml.Spot

namespace ScrapeFleet.Yaml

/-- How the lexer names the form of a scalar. -/
def Style.form : Style → ScalarForm
  | .plain => .plain
  | .single => .single
  | .double => .double
  | .literal => .literal

/-- The brackets of a collection and their tokens. -/
inductive Brackets : Char → Char → Token → Token → Prop
  | list : Brackets '[' ']' .flowSequenceStart .flowSequenceEnd
  | record : Brackets '\x7b' '\x7d' .flowMappingStart .flowMappingEnd

/-! ## Which reader a character selects -/

namespace Lexer

variable {l : Lexer} {x : Char} {cs : List Char}

/-- No mark of a document starts here. -/
theorem no_marker (hc : l.cursor.rest = cs) (hdashes : ['-', '-', '-'].isPrefixOf cs = false)
    (hpoints : ['.', '.', '.'].isPrefixOf cs = false) :
    l.cursor.atMarker '-' = false ∧ l.cursor.atMarker '.' = false := by
  constructor
  · simp only [Cursor.atMarker, hc, hdashes, Bool.and_false, Bool.false_and]
  · simp only [Cursor.atMarker, hc, hpoints, Bool.and_false, Bool.false_and]

theorem lexAt_dash (hc : l.cursor.rest = '-' :: ' ' :: cs) : l.lexAt '-' = l.lexBlockEntry := by
  obtain ⟨hdashes, hpoints⟩ := no_marker hc rfl rfl
  have hnext : isBlankOrEnd (l.cursor.peekAt 1) = true := by
    rw [Cursor.peekAt, hc]
    rfl
  simp [lexAt, hdashes, hpoints, hnext]

theorem lexAt_question (hc : l.cursor.rest = '?' :: ' ' :: cs) : l.lexAt '?' = l.lexKey := by
  obtain ⟨hdashes, hpoints⟩ := no_marker hc rfl rfl
  have hnext : isBlankOrEnd (l.cursor.peekAt 1) = true := by
    rw [Cursor.peekAt, hc]
    rfl
  simp [lexAt, hdashes, hpoints, hnext]

theorem lexAt_colon (hc : l.cursor.rest = ':' :: cs) (hcs : isBlankOrEnd cs.head? = true) :
    l.lexAt ':' = l.lexValue := by
  obtain ⟨hdashes, hpoints⟩ := no_marker hc rfl rfl
  have hnext : isBlankOrEnd (l.cursor.peekAt 1) = true := by
    simpa [Cursor.peekAt, hc, List.head?_eq_getElem?] using hcs
  simp [lexAt, hdashes, hpoints, hnext]

theorem lexAt_quote (single : Bool) (hc : l.cursor.rest = (if single then '\'' else '"') :: cs) :
    l.lexAt (if single then '\'' else '"') = l.lexQuoted single := by
  cases single <;>
  · obtain ⟨hdashes, hpoints⟩ := no_marker hc rfl rfl
    simp [lexAt, hdashes, hpoints]

theorem lexAt_bar (hflow : l.outerKeys = []) (hc : l.cursor.rest = '|' :: cs) :
    l.lexAt '|' = l.lexBlockScalar true := by
  obtain ⟨hdashes, hpoints⟩ := no_marker hc rfl rfl
  simp [lexAt, hdashes, hpoints, inFlow, hflow]

theorem lexAt_flowStart {x y : Char} {start stop : Token} (hb : Brackets x y start stop)
    (hc : l.cursor.rest = x :: cs) : l.lexAt x = l.lexFlowStart start := by
  cases hb <;>
  · obtain ⟨hdashes, hpoints⟩ := no_marker hc rfl rfl
    simp [lexAt, hdashes, hpoints]

theorem lexAt_flowEnd {x y : Char} {start stop : Token} (hb : Brackets x y start stop)
    (hc : l.cursor.rest = y :: cs) : l.lexAt y = l.lexFlowEnd stop := by
  cases hb <;>
  · obtain ⟨hdashes, hpoints⟩ := no_marker hc rfl rfl
    simp [lexAt, hdashes, hpoints]

/-- A text that is no mark of a document does not become one with what follows it. -/
theorem isPrefixOf_append_of_ne {y z : Char} (hyz : y ≠ z) {t after : List Char}
    (ht : [y, y, y].isPrefixOf t = false) : [y, y, y].isPrefixOf (t ++ z :: after) = false := by
  have hne : (y == z) = false := by simpa using hyz
  rcases t with _ | ⟨a, _ | ⟨b, _ | ⟨c, t⟩⟩⟩
  · simp [List.isPrefixOf, hne]
  · simp [List.isPrefixOf, hne]
  · simp [List.isPrefixOf, hne]
  · simpa [List.isPrefixOf] using ht

theorem lexAt_plain {t after : List Char} {y : Char} (hflow : l.outerKeys = [])
    (ht : PlainText (x :: t)) (hy : y = ':' ∨ y = '\n') (hc : l.cursor.rest = x :: t ++ y :: after) :
    l.lexAt x = l.lexPlain := by
  have hy' : '-' ≠ y ∧ '.' ≠ y := by rcases hy with rfl | rfl <;> decide
  obtain ⟨hdashes, hpoints⟩ := no_marker hc (isPrefixOf_append_of_ne hy'.1 ht.dashes)
    (isPrefixOf_append_of_ne hy'.2 ht.points)
  have hx : startsIndicator x = false := ht.head x rfl
  have hline : InLine x := ht.tail.chars x List.mem_cons_self
  have hspace : x ≠ ' ' := by simpa using ht.head_ne_space
  -- behind a dash, a question mark or a colon the text goes on without a blank
  have hnext : x = '-' ∨ x = '?' ∨ x = ':' → isBlankOrEnd (l.cursor.peekAt 1) = false := by
    intro hmark
    have hhead := ht.dash x t rfl hmark
    cases t with
    | nil => cases hhead
    | cons z t => simpa [Cursor.peekAt, hc] using hhead
  have hflow' : l.inFlow = false := by rw [inFlow, hflow]; rfl
  simp only [startsIndicator, List.contains_cons, List.contains_nil, Bool.or_eq_false_iff,
    beq_eq_false_iff_ne] at hx
  have hstarts : startsPlain false x (l.cursor.peekAt 1) = true := by
    have hopen : isBlankOrEnd (some x) = false := by simpa [hline.isBlankOrEnd_eq] using hspace
    by_cases hmark : x = '-' ∨ x = '?' ∨ x = ':'
    · have hne := hnext hmark
      rcases hmark with rfl | rfl | rfl
      · cases hn : l.cursor.peekAt 1 with
        | none => rw [hn] at hne; cases hne
        | some z =>
          rw [hn] at hne
          simp only [isBlankOrEnd, Bool.or_eq_false_iff] at hne
          simp [startsPlain, hne.1.1]
      · simp [startsPlain, hne]
      · simp [startsPlain, hne]
    · simp only [not_or] at hmark
      simp [startsPlain, hopen, hx, hmark]
  by_cases hmark : x = '-' ∨ x = '?' ∨ x = ':'
  · have hne := hnext hmark
    rcases hmark with rfl | rfl | rfl <;> simp [lexAt, hdashes, hpoints, hflow', hne, hstarts]
  · simp only [not_or] at hmark
    simp [lexAt, hdashes, hpoints, hflow', hx, hmark, hstarts]

end Lexer

/-! ## Between two tokens -/

namespace Spot

variable {p : Spot} {cs : List Char} {ts : Array Token}

/-- The spot with a block opened at its column, if that is deeper than the block around it. -/
def opened (p : Spot) (start : Token) : Spot :=
  if p.indent < p.column then
    { p with tokens := p.tokens ++ [start], indent := p.column, outer := p.indent :: p.outer }
  else p

@[simp] theorem rest_opened (p : Spot) (start : Token) : (p.opened start).rest = p.rest := by
  unfold opened
  split <;> rfl

@[simp] theorem column_opened (p : Spot) (start : Token) : (p.opened start).column = p.column := by
  unfold opened
  split <;> rfl

theorem indent_opened (h : p.indent ≤ p.column) (start : Token) :
    (p.opened start).indent = p.column := by
  unfold opened
  split
  · rfl
  · omega

/-- The spot `k` characters further on, behind the tokens `us`. -/
def behind (p : Spot) (k : Nat) (rest : List Char) (us : List Token) (allowed : Bool) : Spot :=
  { p with rest, column := p.column + k, tokens := p.tokens ++ us, allowed }

/-- A token is read, and the run goes on behind it. -/
theorem reads_of_lexAt {x : Char} (hp : p.rest = x :: cs)
    (h : ∀ line index, ∃ next, (p.lexer line index).lexAt x = some next ∧
      next.cursor.rest.length < p.rest.length ∧ next.run = some ts) : p.Reads ts := by
  intro line index
  obtain ⟨next, hnext, hlen, hrun⟩ := h line index
  have hpeek : (p.lexer line index).cursor.peek = some x := Cursor.peek_of_rest hp
  simp only [Lexer.onward, hpeek, hnext]
  rw [if_pos (show next.cursor.rest.length < (p.lexer line index).cursor.rest.length from hlen)]
  exact hrun

/-- Behind a token comes a space, and then the next one. -/
theorem runs_space (hp : p.rest = ' ' :: cs) (hcs : AtToken cs) (hcol : p.indent ≤ p.column)
    (h : (p.behind 1 cs [] p.allowed).Reads ts) : p.Runs ts := by
  intro line index
  refine Lexer.run_of_spaces (k := 1) rfl (by simp [lexer]) hcs hp rfl ?_
  have hdeep : p.indent ≤ ((p.column + 1 : Nat) : Int) := by omega
  show (closed (p.column + 1) cs p.allowed p.tokens p.indent p.outer).Reads ts
  rw [closed_same hdeep]
  simpa [behind] using h

/-- Behind a token the line ends. -/
theorem runs_line (hp : p.rest = '\n' :: cs) (hcs : AtToken (cs.dropWhile (· == ' ')))
    (h : (atLine cs p.tokens p.indent p.outer).Reads ts) : p.Runs ts :=
  fun _ _ => Lexer.run_of_line rfl (by simp [lexer]) hcs hp rfl h

end Spot

namespace Lexer

/-- A block is opened as a spot says. -/
theorem openBlock_lexer (p : Spot) (start : Token) (line index : Nat) :
    (p.lexer line index).openBlock (p.lexer line index).cursor.column (p.lexer line index).tokens.size
      start = (p.opened start).lexer line index := by
  unfold openBlock Spot.opened
  rw [if_neg (by simp [inFlow, Spot.lexer])]
  by_cases h : p.indent < p.column
  · have h' : (p.lexer line index).indent < (p.lexer line index).cursor.column := h
    rw [if_pos h', if_pos h]
    simp [Spot.lexer]
  · have h' : ¬ (p.lexer line index).indent < (p.lexer line index).cursor.column := h
    rw [if_neg h', if_neg h]

end Lexer

namespace Spot

variable {p : Spot} {cs : List Char} {ts : Array Token}

/-! ## Marks -/

/-- A mark with a space behind it, before which a block may be opened. -/
theorem reads_mark {x : Char} {start t : Token} (hp : p.rest = x :: ' ' :: cs) (hcs : AtToken cs)
    (hcol : p.indent ≤ p.column)
    (hlex : ∀ line index, (p.lexer line index).lexAt x =
      some (((p.opened start).behind 1 (' ' :: cs) [t] true).lexer line (index + 1)))
    (h : ((p.opened start).behind 2 cs [t] true).Reads ts) : p.Reads ts := by
  refine reads_of_lexAt hp fun line index => ⟨_, hlex line index, ?_, ?_⟩
  · simp [hp, lexer, behind]
  · refine runs_space rfl hcs ?_ ?_ _ _
    · show (p.opened start).indent ≤ ((p.opened start).column + 1 : Nat)
      rw [indent_opened hcol, column_opened]
      omega
    · simpa [behind] using h

/-- The dash of an item. -/
theorem reads_dash (hp : p.rest = '-' :: ' ' :: cs) (hallowed : p.allowed = true) (hcs : AtToken cs)
    (hcol : p.indent ≤ p.column)
    (h : ((p.opened .blockSequenceStart).behind 2 cs [.blockEntry] true).Reads ts) : p.Reads ts := by
  refine reads_mark hp hcs hcol (fun line index => ?_) h
  rw [Lexer.lexAt_dash hp, Lexer.lexBlockEntry, Lexer.openBlock_lexer]
  simp [lexer, hallowed, Lexer.dropKey, Lexer.emit, behind, Cursor.skip, hp]

/-- The question mark of a key. -/
theorem reads_question (hp : p.rest = '?' :: ' ' :: cs) (hallowed : p.allowed = true)
    (hcs : AtToken cs) (hcol : p.indent ≤ p.column)
    (h : ((p.opened .blockMappingStart).behind 2 cs [.key] true).Reads ts) : p.Reads ts := by
  refine reads_mark hp hcs hcol (fun line index => ?_) h
  rw [Lexer.lexAt_question hp, Lexer.lexKey, Lexer.openBlock_lexer]
  simp [lexer, hallowed, Lexer.dropKey, Lexer.emit, Lexer.inFlow, behind, Cursor.skip, hp]

/-- The colon of a value whose key stands on lines before. -/
theorem reads_colon (hp : p.rest = ':' :: cs) (hallowed : p.allowed = true)
    (hcs : isBlankOrEnd cs.head? = true) (hcol : p.indent = p.column)
    (h : (p.behind 1 cs [.value] true).Runs ts) : p.Reads ts := by
  refine reads_of_lexAt hp fun line index => ⟨(p.behind 1 cs [.value] true).lexer line (index + 1), ?_, ?_,
    h line (index + 1)⟩
  · have hsame : p.opened .blockMappingStart = p := by
      rw [opened, if_neg (by omega)]
    rw [Lexer.lexAt_colon hp hcs, Lexer.lexValue]
    have hkey : (p.lexer line index).key = none := rfl
    simp only [hkey, Lexer.openBlock_lexer, hsame]
    simp [lexer, hallowed, Lexer.emit, Lexer.inFlow, behind, Cursor.skip, hp]
  · simp [hp, lexer, behind]

/-! ## Empty collections -/

/-- The key that may start with a token at the spot. -/
def possibleKey (p : Spot) (line index : Nat) : Option PossibleKey :=
  if p.allowed then some ⟨p.tokens.length, line, p.column, index, p.indent == p.column⟩ else none

theorem saveKey_lexer (p : Spot) (line index : Nat) :
    (p.lexer line index).saveKey =
      some { p.lexer line index with key := p.possibleKey line index } := by
  unfold Lexer.saveKey possibleKey
  cases hallowed : p.allowed <;> simp [lexer, hallowed, Lexer.dropKey, Lexer.inFlow]

/-- Inside its block a token may start a key on its line, but need not. -/
theorem possibleKey_inside {line index : Nat} (hcol : p.indent < p.column) {k : PossibleKey}
    (hk : p.possibleKey line index = some k) :
    k.required = false ∧ k.line = line ∧ k.index = index := by
  unfold possibleKey at hk
  split at hk
  · obtain rfl := Option.some.inj hk
    refine ⟨?_, rfl, rfl⟩
    rw [beq_eq_false_iff_ne]
    omega
  · cases hk

/-- The lexer between the two brackets of an empty collection, in front of `rest`. The key that may have
started with the first of them is kept until the line ends. -/
def inBrackets (p : Spot) (line index : Nat) (start : Token) (rest : List Char) : Lexer where
  cursor := ⟨rest, line, p.column + 1, index + 1⟩
  tokens := (p.tokens ++ [start]).toArray
  indent := p.indent
  outer := p.outer
  outerKeys := [p.possibleKey line index]

section Flow

variable {x y : Char} {start stop : Token} {text : List Char}

theorem lexAt_open (hb : Brackets x y start stop) (hp : p.rest = x :: y :: '\n' :: text)
    (line index : Nat) :
    (p.lexer line index).lexAt x = some (p.inBrackets line index start (y :: '\n' :: text)) := by
  rw [Lexer.lexAt_flowStart hb hp, Lexer.lexFlowStart, saveKey_lexer]
  simp [Lexer.emit, lexer, inBrackets, Cursor.skip, hp]

/-- Nothing stands between the brackets, and the key that is kept is not stale. -/
theorem ready_inBrackets (hb : Brackets x y start stop) (hcol : p.indent < p.column)
    (line index : Nat) :
    (p.inBrackets line index start (y :: '\n' :: text)).skipToToken.dropStaleKeys =
      some (p.inBrackets line index start (y :: '\n' :: text)) := by
  have hbody : AtToken (y :: '\n' :: text) := by
    intro z hz
    obtain rfl : y = z := by simpa using hz
    cases hb <;> rfl
  rw [Lexer.skipToToken_spaces (k := 0) hbody rfl, Cursor.skip_zero]
  show (p.inBrackets line index start (y :: '\n' :: text)).dropStaleKeys = _
  cases hkey : p.possibleKey line index with
  | none => simp [Lexer.dropStaleKeys, Lexer.stale, inBrackets, hkey]
  | some k =>
    obtain ⟨-, hline, hindex⟩ := possibleKey_inside hcol hkey
    simp [Lexer.dropStaleKeys, Lexer.stale, inBrackets, hkey, hline, hindex, keyLimit]

theorem lexAt_close (hb : Brackets x y start stop) (line index : Nat) :
    (p.inBrackets line index start (y :: '\n' :: text)).lexAt y =
      some { cursor := ⟨'\n' :: text, line, p.column + 2, index + 2⟩
             tokens := (p.tokens ++ [start, stop]).toArray
             indent := p.indent
             outer := p.outer
             keyAllowed := false
             key := p.possibleKey line index } := by
  have hrest : (p.inBrackets line index start (y :: '\n' :: text)).cursor.rest = y :: '\n' :: text := rfl
  rw [Lexer.lexAt_flowEnd hb hrest]
  simp [Lexer.lexFlowEnd, Lexer.dropKey, Lexer.emit, inBrackets, Cursor.skip]

/-- The two brackets of an empty collection at the end of a line. -/
theorem reads_brackets (hb : Brackets x y start stop) (hp : p.rest = x :: y :: '\n' :: text)
    (hcol : p.indent < p.column) (htext : AtToken (text.dropWhile (· == ' ')))
    (h : (atLine text (p.tokens ++ [start, stop]) p.indent p.outer).Reads ts) : p.Reads ts := by
  refine reads_of_lexAt hp fun line index => ⟨_, lexAt_open hb hp line index, ?_, ?_⟩
  · simp [hp, inBrackets]
  · refine Lexer.run_of_onward (ready_inBrackets hb hcol line index) (Nat.le_refl _) ?_
    -- inside brackets no block ends
    have hsame : ∀ n, (p.inBrackets line index start (y :: '\n' :: text)).unindent n =
        p.inBrackets line index start (y :: '\n' :: text) := fun n => rfl
    have hrest : (p.inBrackets line index start (y :: '\n' :: text)).cursor.rest =
        y :: '\n' :: text := rfl
    rw [hsame, Lexer.onward, Cursor.peek_of_rest hrest]
    simp only [lexAt_close hb]
    rw [if_pos (by simp [hrest])]
    refine Lexer.run_of_line rfl (fun k hk => ?_) htext rfl rfl h
    obtain ⟨hreq, hline, -⟩ := possibleKey_inside hcol hk
    exact ⟨hreq, Nat.le_of_eq hline⟩

end Flow

end Spot

end ScrapeFleet.Yaml
