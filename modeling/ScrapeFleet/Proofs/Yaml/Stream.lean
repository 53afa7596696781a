/-
# ScrapeFleet.Proofs.Yaml.Stream — the tokens of a whole document

A written document holds nothing but printable characters, so nothing in it is refused. The lexer starts in
front of its first token and ends on a line of its own, where all blocks end.
-/
import ScrapeFleet.Proofs.Yaml.Layout

namespace ScrapeFleet.Yaml

variable {fill : String → String}

/-! ## Characters -/

/-- A text of printable characters. -/
def Printed (s : String) : Prop := ∀ x ∈ s.toList, isPrintable x = true

theorem Printed.append {s t : String} (hs : Printed s) (ht : Printed t) : Printed (s ++ t) := by
  intro x hx
  rw [String.toList_append, List.mem_append] at hx
  exact hx.elim (hs x) (ht x)

theorem Printed.of_all {s : String} (h : s.toList.all isPrintable = true) : Printed s :=
  List.all_eq_true.1 h

theorem Printed.endLine {s : String} (hs : Printed s) : Printed (endLine s) := by
  intro x hx
  rw [toList_endLine, List.mem_append] at hx
  rcases hx with hx | hx
  · exact hs x hx
  · unfold closing at hx
    have hn : x = '\n' := by
      split at hx
      · split at hx
        · cases hx
        · simpa using hx
      · simpa using hx
    rw [hn]
    rfl

theorem printed_spaces (n : Nat) : Printed (spaces n) := by
  intro x hx
  rw [spaces, String.toList_ofList] at hx
  rw [List.eq_of_mem_replicate hx]
  rfl

theorem printed_written (hfill : Suits fill) (i : Nat) (s : String) : Printed (written fill i s) :=
  (hfill.carries s).printable_write i

theorem printed_int (n : Int) : Printed (toString n) := fun x hx =>
  ((plainText_int n).tail.chars x hx).printable

theorem printed_keyText (hfill : Suits fill) (i : Nat) (k : String) :
    Printed (keyText (written fill) i k) := by
  unfold keyText
  split
  · exact printed_written hfill _ k
  · exact ((Printed.of_all (by decide)).append (printed_written hfill _ k).endLine).append
      (printed_spaces i)

mutual

theorem printed_inline (hfill : Suits fill) : ∀ (i : Nat) (v : Value), Printed (inline (written fill) i v)
  | _, .bool true => .of_all (s := "true\n") (by decide)
  | _, .bool false => .of_all (s := "false\n") (by decide)
  | _, .int n => (printed_int n).append (.of_all (by decide))
  | i, .text s => (printed_written hfill i s).endLine
  | _, .list [] => .of_all (s := "[]\n") (by decide)
  | i, .list (v :: vs) =>
    ((Printed.of_all (by decide)).append (printed_inline hfill (i + 2) v)).append
      (printed_items hfill i vs)
  | _, .record [] => .of_all (s := "\x7b\x7d\n") (by decide)
  | i, .record ((k, v) :: fs) =>
    (((printed_keyText hfill i k).append (.of_all (by decide))).append
      (printed_valueText hfill i (isShortKey k) v)).append (printed_fields hfill i fs)

theorem printed_valueText (hfill : Suits fill) :
    ∀ (i : Nat) (short : Bool) (v : Value), Printed (valueText (written fill) i short v)
  | _, _, .bool true => .of_all (s := " true\n") (by decide)
  | _, _, .bool false => .of_all (s := " false\n") (by decide)
  | _, _, .int n => ((Printed.of_all (by decide)).append (printed_int n)).append (.of_all (by decide))
  | i, _, .text s => (Printed.of_all (by decide)).append (printed_written hfill (i + 2) s).endLine
  | _, _, .list [] => .of_all (s := " []\n") (by decide)
  | _, _, .record [] => .of_all (s := " \x7b\x7d\n") (by decide)
  | i, true, .list (v :: vs) => (Printed.of_all (by decide)).append (printed_items hfill i (v :: vs))
  | i, false, .list (v :: vs) =>
    ((Printed.of_all (by decide)).append (printed_inline hfill (i + 4) v)).append
      (printed_items hfill (i + 2) vs)
  | i, true, .record ((k, v) :: fs) =>
    (Printed.of_all (by decide)).append (printed_fields hfill (i + 2) ((k, v) :: fs))
  | i, false, .record ((k, v) :: fs) =>
    ((((Printed.of_all (by decide)).append (printed_keyText hfill (i + 2) k)).append
      (.of_all (by decide))).append (printed_valueText hfill (i + 2) (isShortKey k) v)).append
        (printed_fields hfill (i + 2) fs)

theorem printed_items (hfill : Suits fill) :
    ∀ (i : Nat) (vs : List Value), Printed (items (written fill) i vs)
  | _, [] => .of_all (s := "") (by decide)
  | i, v :: vs =>
    (((printed_spaces i).append (.of_all (by decide))).append (printed_inline hfill (i + 2) v)).append
      (printed_items hfill i vs)

theorem printed_fields (hfill : Suits fill) :
    ∀ (i : Nat) (fs : List (String × Value)), Printed (fields (written fill) i fs)
  | _, [] => .of_all (s := "") (by decide)
  | i, (k, v) :: fs =>
    ((((printed_spaces i).append (printed_keyText hfill i k)).append (.of_all (by decide))).append
      (printed_valueText hfill i (isShortKey k) v)).append (printed_fields hfill i fs)

end

theorem isAllowed_of_isPrintable {x : Char} (h : isPrintable x = true) : isAllowed x = true := by
  simp only [isPrintable, Bool.or_eq_true, Bool.and_eq_true] at h
  simp only [isAllowed, Bool.or_eq_true, Bool.and_eq_true]
  rcases h with (((h | h) | h) | h) | h
  · simp [h]
  · simp [h]
  · simp [h]
  · simp [h]
  · simp [h]

/-! ## The end of the stream -/

namespace Spot

/-- At the end the block at the margin is closed. -/
theorem reads_end_block (tokens : List Token) :
    (atLine [] tokens 0 [-1]).Reads (tokens ++ [Token.blockEnd, .streamEnd]).toArray := by
  intro line index
  have hclose : Lexer.closeBlocks (-1) tokens.toArray 0 [-1] =
      ((tokens ++ [Token.blockEnd]).toArray, -1, []) := by
    simp [Lexer.closeBlocks]
  show Lexer.lexEnd ⟨⟨[], line, 0, index⟩, tokens.toArray, 0, [-1], true, none, []⟩ = _
  simp [Lexer.lexEnd, Lexer.unindent, Lexer.inFlow, hclose, Lexer.dropKey]

/-- At the end nothing is left to be closed. -/
theorem reads_end (tokens : List Token) :
    (atLine [] tokens (-1) []).Reads (tokens ++ [Token.streamEnd]).toArray := by
  intro line index
  have hclose : Lexer.closeBlocks (-1) tokens.toArray (-1) [] = (tokens.toArray, -1, []) := by
    simp [Lexer.closeBlocks]
  show Lexer.lexEnd ⟨⟨[], line, 0, index⟩, tokens.toArray, -1, [], true, none, []⟩ = _
  simp [Lexer.lexEnd, Lexer.unindent, Lexer.inFlow, hclose, Lexer.dropKey]

end Spot

/-! ## A whole document -/

/-- The lexer reads a written record from the start of the document to its end. -/
theorem reads_record (hfill : Suits fill) (fs : List (String × Value))
    (hkeys : ∀ k ∈ (Value.record fs).keys, KeyFits fill k) :
    Spot.Reads ⟨(inline (written fill) 0 (.record fs)).toList, 0, [], -1, [], true⟩
      (valueTokens fill false (.record fs) ++ [Token.streamEnd]).toArray := by
  have hout : Outdented 0 [] := ⟨0, [], rfl, Nat.le_refl 0, fun _ h => by cases h⟩
  cases fs with
  | nil =>
    have hbrackets : (inline (written fill) 0 (.record [])).toList = ['\x7b', '\x7d', '\n'] :=
      toList_inline_empty _ 0
    exact Spot.reads_brackets .record hbrackets (Int.negSucc_lt_zero 0) hout.atToken (Spot.reads_end _)
  | cons f fs =>
    obtain ⟨k, v⟩ := f
    have htext : (inline (written fill) 0 (.record ((k, v) :: fs))).toList =
        (keyText (written fill) 0 k).toList ++ ':' ::
          ((valueText (written fill) 0 (isShortKey k) v).toList ++
            ((fields (written fill) 0 fs).toList ++ [])) := by
      rw [inline]
      simp
    have hmargin : ((-1 : Int)) ≤ ((0 : Nat) : Int) := by decide
    refine reads_fields_here hfill (hkeys k (by simp [Value.keys, Value.fieldKeys]))
      (readsValue hfill v fun k' hk => hkeys k' (by simp [Value.keys, Value.fieldKeys, hk]))
      (readsFields hfill fs fun k' hk => hkeys k' (by simp [Value.keys, Value.fieldKeys, hk])) rfl
      hmargin rfl hout htext ?_
    -- the first key has opened the block at the margin, which the end of the stream closes
    have hopened : ∀ rest, Spot.opened ⟨rest, 0, [], -1, [], true⟩ .blockMappingStart =
        ⟨rest, 0, [.blockMappingStart], 0, [-1], true⟩ := fun _ => rfl
    have hend := Spot.reads_end_block (.blockMappingStart :: fieldTokens fill ((k, v) :: fs))
    rw [hopened]
    simpa [valueTokens] using hend

/-- The tokens of a written record. -/
theorem tokenize_record (hfill : Suits fill) (fs : List (String × Value))
    (hkeys : ∀ k ∈ (Value.record fs).keys, KeyFits fill k) :
    tokenize (inline (written fill) 0 (.record fs)) =
      some (valueTokens fill false (.record fs) ++ [Token.streamEnd]).toArray := by
  have hprinted := printed_inline hfill 0 (.record fs)
  have hstart := atToken_inline hfill 0 (.record fs) []
  rw [List.append_nil] at hstart
  have hallowed : (inline (written fill) 0 (.record fs)).toList.all isAllowed = true :=
    List.all_eq_true.2 fun x hx => isAllowed_of_isPrintable (hprinted x hx)
  have hmark : ∀ cs, (inline (written fill) 0 (.record fs)).toList ≠ '\ufeff' :: cs := by
    intro cs hcs
    exact absurd (hstart '\ufeff' (by rw [hcs]; rfl)) (by decide)
  have hrun : (Spot.lexer ⟨(inline (written fill) 0 (.record fs)).toList, 0, [], -1, [], true⟩ 0 0).run =
      some (valueTokens fill false (.record fs) ++ [Token.streamEnd]).toArray := by
    refine Lexer.run_of_spaces (k := 0) rfl (by simp [Spot.lexer]) hstart rfl rfl ?_
    show (Spot.closed 0 _ true [] (-1) []).Reads _
    rw [Spot.closed_same (by omega)]
    exact reads_record hfill fs hkeys
  unfold tokenize
  split
  · rename_i cs hcs
    exact absurd hcs (hmark cs)
  · rw [if_pos hallowed]
    exact hrun

end ScrapeFleet.Yaml
