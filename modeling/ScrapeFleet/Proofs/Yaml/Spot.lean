/-
# ScrapeFleet.Proofs.Yaml.Spot — the lexer between two tokens

Block style puts the structure of a document into its columns, and the lexer keeps the columns of the open
blocks. All that the rest of a run depends on is said by a spot: the text that is left, the column, the
tokens so far, the open blocks, and whether a key may start. The line and the index of a place only matter
while a key may have started, so a statement about a spot holds on every line.

A run is followed backwards: what the lexer makes of the text from a later spot is what it makes of it from
an earlier one (`Spot.Reads`). That way no lemma has to say where a run ends.
-/
import ScrapeFleet.Proofs.Yaml.Form

namespace ScrapeFleet.Yaml

/-! ## Runs -/

namespace Lexer

/-- A run from in front of a token. -/
def onward (l : Lexer) : Option (Array Token) :=
  match l.cursor.peek with
  | none => l.lexEnd
  | some x =>
    match l.lexAt x with
    | none => none
    | some next =>
      if next.cursor.rest.length < l.cursor.rest.length then run next else none

/-- A run comes to the front of the next token and goes on from there. -/
theorem run_of_onward {l mid : Lexer} {ts : Array Token}
    (hmid : l.skipToToken.dropStaleKeys = some mid)
    (hlen : mid.cursor.rest.length ≤ l.cursor.rest.length)
    (hon : (mid.unindent mid.cursor.column).onward = some ts) : l.run = some ts := by
  have hrest : (mid.unindent mid.cursor.column).cursor = mid.cursor := by
    unfold unindent
    split <;> rfl
  rw [onward, hrest] at hon
  rw [run]
  simp only [hmid, hrest]
  cases hpeek : mid.cursor.peek with
  | none => simpa only [hpeek] using hon
  | some x =>
    simp only [hpeek] at hon ⊢
    cases hnext : (mid.unindent mid.cursor.column).lexAt x with
    | none =>
      simp only [hnext] at hon
      cases hon
    | some next =>
      simp only [hnext] at hon ⊢
      split at hon
      · rename_i hshort
        rw [dif_pos (Nat.lt_of_lt_of_le hshort hlen)]
        exact hon
      · cases hon

/-- What does not change where the next token is does not change the run. -/
theorem run_of_skip {l l' : Lexer} {ts : Array Token} (h : l.skipToToken = l'.skipToToken)
    (hlen : l'.cursor.rest.length ≤ l.cursor.rest.length) (hrun : l'.run = some ts) :
    l.run = some ts := by
  rw [run] at hrun ⊢
  simp only [h]
  split at hrun
  · cases hrun
  · dsimp only at hrun
    split at hrun
    · exact hrun
    · split at hrun
      · cases hrun
      · split at hrun
        · rename_i hshort
          rw [dif_pos (Nat.lt_of_lt_of_le hshort hlen)]
          exact hrun
        · cases hrun

end Lexer

/-! ## Blanks, breaks and keys in front of a token -/

/-- A token can start with the character. -/
def startsToken (x : Char) : Bool := !(isBlank x || isBreak x || x == '#' || x == '\ufeff')

theorem startsToken_iff {x : Char} : startsToken x = true ↔
    isBlank x = false ∧ isBreak x = false ∧ x ≠ '#' ∧ x ≠ '\ufeff' := by
  simp [startsToken, and_assoc]

/-- The text is at a token, or at its end. -/
def AtToken (body : List Char) : Prop := ∀ x, body.head? = some x → startsToken x = true

namespace Lexer

/-- The place after the spaces in front of a token. -/
theorem skipToToken_spaces {l : Lexer} {k : Nat} {body : List Char} (hbody : AtToken body)
    (hc : l.cursor.rest = List.replicate k ' ' ++ body) :
    l.skipToToken = { l with cursor := l.cursor.skip k } := by
  -- what stands here is no filler: no byte order mark, no comment and no end of a line
  have hmark : (l.cursor.column == 0 && l.cursor.at_ '\ufeff') = false := by
    have hne : l.cursor.at_ '\ufeff' = false := by
      cases k with
      | succ k => rw [Cursor.at_of_rest (by rw [hc, List.replicate_succ]; rfl)]; rfl
      | zero =>
        cases body with
        | nil => exact Cursor.at_of_end hc _
        | cons x body =>
          obtain ⟨-, -, -, hx⟩ := startsToken_iff.1 (hbody x rfl)
          rw [Cursor.at_of_rest hc]
          simpa using hx
    rw [hne, Bool.and_false]
  have hskip : l.cursor.skipWhile (fun x => x == ' ' || ((l.inFlow || !l.keyAllowed) && x == '\t')) =
      l.cursor.skip k := by
    rw [Cursor.skipWhile, hc, List.takeWhile_append_of_pos (by simp)]
    have hnone : body.takeWhile (fun x => x == ' ' || ((l.inFlow || !l.keyAllowed) && x == '\t')) =
        [] := by
      cases body with
      | nil => rfl
      | cons x body =>
        obtain ⟨hx, -⟩ := startsToken_iff.1 (hbody x rfl)
        simp only [isBlank, Bool.or_eq_false_iff] at hx
        simp [hx.1, hx.2]
    rw [hnone, List.append_nil, List.length_replicate]
  have hrest : (l.cursor.skip k).rest = body := by simp [hc]
  have hhash : (l.cursor.skip k).at_ '#' = false := by
    cases body with
    | nil => exact Cursor.at_of_end hrest _
    | cons x body =>
      obtain ⟨-, -, hx, -⟩ := startsToken_iff.1 (hbody x rfl)
      rw [Cursor.at_of_rest hrest]
      simpa using hx
  have hbreak : (l.cursor.skip k).atBreak = false := by
    cases body with
    | nil => exact Cursor.atBreak_of_end hrest
    | cons x body =>
      obtain ⟨-, hx, -⟩ := startsToken_iff.1 (hbody x rfl)
      rw [Cursor.atBreak_of_rest hrest, hx]
  have hfiller : l.pastFiller = l.cursor.skip k := by
    simp only [pastFiller, hmark, Bool.false_eq_true, if_false, hskip, hhash]
  rw [skipToToken]
  simp only [hfiller, hbreak, Bool.false_eq_true, if_false]

/-- The end of a line; on the next one a key may start. -/
theorem skipToToken_line {l : Lexer} {rest : List Char} (hflow : l.outerKeys = [])
    (hc : l.cursor.rest = '\n' :: rest) :
    l.skipToToken = { l with cursor := l.cursor.nextLine rest, keyAllowed := true }.skipToToken := by
  have hfiller : l.pastFiller = l.cursor := by
    have hmark : l.cursor.at_ '\ufeff' = false := Cursor.at_of_rest hc _
    have hhash : l.cursor.at_ '#' = false := Cursor.at_of_rest hc _
    have hskip : l.cursor.skipWhile
        (fun x => x == ' ' || ((l.inFlow || !l.keyAllowed) && x == '\t')) = l.cursor := by
      have hnone : l.cursor.rest.takeWhile
          (fun x => x == ' ' || ((l.inFlow || !l.keyAllowed) && x == '\t')) = [] := by
        rw [hc]
        simp
      rw [Cursor.skipWhile, hnone, List.length_nil, Cursor.skip_zero]
    simp only [pastFiller, hmark, Bool.and_false, Bool.false_eq_true, if_false, hskip, hhash]
  have hbreak : l.cursor.atBreak = true := Cursor.atBreak_of_rest hc
  have hline : l.cursor.skipLine = l.cursor.nextLine rest := Cursor.skipLine_of_rest hc (.inl rfl)
  have hlen : (l.cursor.nextLine rest).rest.length < l.cursor.rest.length := by
    simp [Cursor.nextLine, hc]
  have hallowed : (l.keyAllowed || !l.inFlow) = true := by simp [inFlow, hflow]
  rw [skipToToken]
  simp only [hfiller, hbreak, if_true, hline, dif_pos hlen, hallowed]

/-- A key that may have started on an earlier line is given up. -/
theorem dropStaleKeys_of_line {l : Lexer} (hflow : l.outerKeys = [])
    (hkey : ∀ k, l.key = some k → k.required = false ∧ k.line < l.cursor.line) :
    l.dropStaleKeys = some { l with key := none } := by
  have hstale : stale l.cursor l.key = some none := by
    cases hk : l.key with
    | none => rfl
    | some k =>
      obtain ⟨hreq, hline⟩ := hkey k hk
      simp [stale, hline, hreq]
  have houter : l.outerKeys.mapM (stale l.cursor) = some [] := by simp [hflow]
  rw [dropStaleKeys, hstale, houter]
  simp [hflow]

end Lexer

/-! ## Spots -/

/-- Where the lexer stands in block style when no key may have started. -/
structure Spot where
  rest : List Char
  column : Nat
  tokens : List Token
  /-- The indentation of the innermost block, or -1. -/
  indent : Int
  /-- Those of the blocks around it. -/
  outer : List Int
  /-- A key may start here. -/
  allowed : Bool

namespace Spot

/-- The lexer at a spot on some line. -/
def lexer (p : Spot) (line index : Nat) : Lexer where
  cursor := ⟨p.rest, line, p.column, index⟩
  tokens := p.tokens.toArray
  indent := p.indent
  outer := p.outer
  keyAllowed := p.allowed

/-- The lexer makes the tokens `ts` of the text when it goes on from behind a token at the spot. -/
def Runs (p : Spot) (ts : Array Token) : Prop := ∀ line index, (p.lexer line index).run = some ts

/-- The lexer makes the tokens `ts` of the text when it goes on from in front of a token at the spot. -/
def Reads (p : Spot) (ts : Array Token) : Prop :=
  ∀ line index, (p.lexer line index).onward = some ts

/-- The blocks that are indented deeper than a column are closed. -/
def closed (column : Nat) (rest : List Char) (allowed : Bool) (tokens : List Token) (indent : Int) :
    List Int → Spot
  | [] =>
    if (column : Int) < indent then ⟨rest, column, tokens ++ [.blockEnd], -1, [], allowed⟩
    else ⟨rest, column, tokens, indent, [], allowed⟩
  | i :: outer =>
    if (column : Int) < indent then closed column rest allowed (tokens ++ [.blockEnd]) i outer
    else ⟨rest, column, tokens, indent, i :: outer, allowed⟩

/-- The spot at the first token of a line and of what follows it. -/
def atLine (text : List Char) (tokens : List Token) (indent : Int) (outer : List Int) : Spot :=
  closed (text.takeWhile (· == ' ')).length (text.dropWhile (· == ' ')) true tokens indent outer

theorem closed_same {column : Nat} {rest : List Char} {allowed : Bool} {tokens : List Token}
    {indent : Int} (h : indent ≤ column) (outer : List Int) :
    closed column rest allowed tokens indent outer =
      ⟨rest, column, tokens, indent, outer, allowed⟩ := by
  have hnot : ¬ (column : Int) < indent := by omega
  cases outer <;> simp [closed, hnot]

theorem closed_deeper {column : Nat} {rest : List Char} {allowed : Bool} {tokens : List Token}
    {indent : Int} (h : (column : Int) < indent) (i : Int) (outer : List Int) :
    closed column rest allowed tokens indent (i :: outer) =
      closed column rest allowed (tokens ++ [.blockEnd]) i outer := by
  rw [closed, if_pos h]

/-- The end of blocks does not move the lexer. -/
theorem place_closed (column : Nat) (rest : List Char) (allowed : Bool) (tokens : List Token)
    (indent : Int) (outer : List Int) :
    (closed column rest allowed tokens indent outer).rest = rest ∧
      (closed column rest allowed tokens indent outer).column = column ∧
      (closed column rest allowed tokens indent outer).allowed = allowed := by
  induction outer generalizing tokens indent with
  | nil =>
    rw [closed]
    split <;> exact ⟨rfl, rfl, rfl⟩
  | cons i outer ih =>
    rw [closed]
    split
    · exact ih _ _
    · exact ⟨rfl, rfl, rfl⟩

end Spot

namespace Lexer

theorem closeBlocks_eq_closed {column : Nat} (rest : List Char) (allowed : Bool) (outer : List Int)
    (tokens : List Token) (indent : Int) :
    closeBlocks column tokens.toArray indent outer =
      ((Spot.closed column rest allowed tokens indent outer).tokens.toArray,
        (Spot.closed column rest allowed tokens indent outer).indent,
        (Spot.closed column rest allowed tokens indent outer).outer) := by
  induction outer generalizing tokens indent with
  | nil =>
    rw [closeBlocks, Spot.closed]
    split <;> simp
  | cons i outer ih =>
    rw [closeBlocks, Spot.closed]
    split
    · rw [List.push_toArray, ih]
    · rfl

/-- Blocks are closed as a spot says. -/
theorem unindent_eq_closed {tokens : List Token} {indent : Int} {outer : List Int} {c : Cursor}
    {allowed : Bool} :
    ({ cursor := c, tokens := tokens.toArray, indent, outer, keyAllowed := allowed } : Lexer).unindent
        c.column =
      (Spot.closed c.column c.rest allowed tokens indent outer).lexer c.line c.index := by
  obtain ⟨hrest, hcolumn, hallowed⟩ :=
    Spot.place_closed c.column c.rest allowed tokens indent outer
  simp only [unindent, inFlow, List.isEmpty_nil, Bool.not_true, Bool.false_eq_true, if_false,
    closeBlocks_eq_closed c.rest allowed]
  simp only [Spot.lexer, hrest, hcolumn, hallowed]

/-- From behind a token the lexer comes to the next one on the line. -/
theorem run_of_spaces {l : Lexer} {k : Nat} {body : List Char} {tokens : List Token}
    {ts : Array Token} (hflow : l.outerKeys = [])
    (hkey : ∀ k, l.key = some k → k.required = false ∧ k.line < l.cursor.line)
    (hbody : AtToken body) (hc : l.cursor.rest = List.replicate k ' ' ++ body)
    (htokens : l.tokens = tokens.toArray)
    (h : (Spot.closed (l.cursor.column + k) body l.keyAllowed tokens l.indent l.outer).Reads ts) :
    l.run = some ts := by
  have hskip := skipToToken_spaces hbody hc
  have hdrop := dropStaleKeys_of_line (l := { l with cursor := l.cursor.skip k }) hflow hkey
  rw [← hskip] at hdrop
  refine run_of_onward hdrop ?_ ?_
  · rw [hskip]
    simp
  · rw [hskip]
    have hrest : (l.cursor.skip k).rest = body := by simp [hc]
    have := h (l.cursor.skip k).line (l.cursor.skip k).index
    rw [← hrest, ← Cursor.column_skip, ← unindent_eq_closed] at this
    rw [← this]
    simp [htokens, hflow]

/-- From the end of a line the lexer comes to the first token of the next one. -/
theorem run_of_line {l : Lexer} {text : List Char} {tokens : List Token} {ts : Array Token}
    (hflow : l.outerKeys = [])
    (hkey : ∀ k, l.key = some k → k.required = false ∧ k.line ≤ l.cursor.line)
    (htext : AtToken (text.dropWhile (· == ' '))) (hc : l.cursor.rest = '\n' :: text)
    (htokens : l.tokens = tokens.toArray)
    (h : (Spot.atLine text tokens l.indent l.outer).Reads ts) : l.run = some ts := by
  have hspaces : text = List.replicate (text.takeWhile (· == ' ')).length ' ' ++
      text.dropWhile (· == ' ') := by
    have hrun : text.takeWhile (· == ' ') =
        List.replicate (text.takeWhile (· == ' ')).length ' ' :=
      List.eq_replicate_iff.2 ⟨rfl, fun x hx => by simpa using List.mem_takeWhile_imp hx⟩
    rw [← hrun, List.takeWhile_append_dropWhile]
  refine run_of_skip (skipToToken_line hflow hc) (by simp [Cursor.nextLine, hc]) ?_
  refine run_of_spaces hflow (fun k hk => ?_) htext hspaces htokens ?_
  · obtain ⟨hreq, hle⟩ := hkey k hk
    exact ⟨hreq, Nat.lt_succ_of_le hle⟩
  · simpa [Cursor.nextLine, Spot.atLine] using h

end Lexer

end ScrapeFleet.Yaml
