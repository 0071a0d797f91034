import ObjectVault.Toml.Quoted

/-!
# Quoted strings read back

A text that has been quoted is read back, whatever it holds (`readString_write`).

Writer and reader meet in `Spells`: the ways in which characters can stand for a text inside a string
of a style, of which the writer uses some (`spells_escaped`, `spells_verbatim`) and the reader
understands all (`scan_of_spells`). What needs care is marks in a row. As many as `Style.spare` may
stand inside a long string, and those at its end run into the closing fence, so that the reader has to
tell by their number how many belong to the text.
-/

namespace ObjectVault.Toml

/-! ### Spellings -/

/-- How many marks may stand in a row inside a string. -/
def Style.spare (style : Style) : Nat := if style.multiline then 2 else 0

/-- The styles are marked by quotes or apostrophes. -/
def Style.Marked (style : Style) : Prop := style.mark = '"' ∨ style.mark = apostrophe

theorem Style.Marked.newline_ne {style : Style} (marked : style.Marked) : '\n' ≠ style.mark := by
  rcases marked with mark | mark <;> rw [mark] <;> decide

theorem Style.Marked.backslash_ne {style : Style} (marked : style.Marked) : '\\' ≠ style.mark := by
  rcases marked with mark | mark <;> rw [mark] <;> decide

theorem Style.fence_of_long {style : Style} (long : style.multiline = true) :
    style.fence = List.replicate 3 style.mark := by
  simp [fence, long]

theorem Style.fence_of_short {style : Style} (short : style.multiline = false) :
    style.fence = [style.mark] := by
  simp [fence, short]

/-- Only long styles have marks to spare, and these are two. -/
theorem Style.multiline_of_spare {style : Style} {run : Nat} (few : run < style.spare) :
    style.multiline = true ∧ style.spare = 2 := by
  cases long : style.multiline with
  | true => exact ⟨rfl, by simp [spare, long]⟩
  | false => simp [spare, long] at few

/-- `Spells style run chars text` says that `chars` stand for `text` inside a string of a style, where
`run` marks stand right before them. -/
inductive Spells (style : Style) : (run : Nat) → (chars text : List Char) → Prop
  | nil {run : Nat} : Spells style run [] []
  | mark {run : Nat} {chars text : List Char} (few : run < style.spare)
      (rest : Spells style (run + 1) chars text) :
      Spells style run (style.mark :: chars) (style.mark :: text)
  | plain {run : Nat} {c : Char} {chars text : List Char} (plain : isPlain c)
      (unmarked : c ≠ style.mark) (unescaped : c = '\\' → style.escapes = false)
      (rest : Spells style 0 chars text) : Spells style run (c :: chars) (c :: text)
  | newline {run : Nat} {chars text : List Char} (multiline : style.multiline = true)
      (rest : Spells style 0 chars text) : Spells style run ('\n' :: chars) ('\n' :: text)
  | escape {run : Nat} {c : Char} {code chars text : List Char} (escapes : style.escapes = true)
      (stands : ∀ after, escape? (code ++ after) = some (c, after))
      (rest : Spells style 0 chars text) : Spells style run ('\\' :: code ++ chars) (c :: text)

variable {style : Style} {run : Nat} {chars text rest : List Char}

/-- What stands inside a string starts with at most as many marks as may follow those before it, and
either ends there or goes on with something else. -/
theorem Spells.marks (marked : style.Marked) (spells : Spells style run chars text) :
    ∃ count ≤ style.spare - run,
      (chars = List.replicate count style.mark ∧ text = List.replicate count style.mark) ∨
        ∃ c others, c ≠ style.mark ∧ chars = List.replicate count style.mark ++ c :: others := by
  induction spells with
  | nil => exact ⟨0, Nat.zero_le _, .inl ⟨rfl, rfl⟩⟩
  | mark few _ ih =>
      obtain ⟨count, most, ⟨rfl, rfl⟩ | ⟨c, others, other, rfl⟩⟩ := ih
      · exact ⟨count + 1, by omega, .inl ⟨rfl, rfl⟩⟩
      · exact ⟨count + 1, by omega, .inr ⟨c, others, other, rfl⟩⟩
  | plain _ unmarked => exact ⟨0, Nat.zero_le _, .inr ⟨_, _, unmarked, rfl⟩⟩
  | newline => exact ⟨0, Nat.zero_le _, .inr ⟨_, _, marked.newline_ne, rfl⟩⟩
  | escape => exact ⟨0, Nat.zero_le _, .inr ⟨_, _, marked.backslash_ne, rfl⟩⟩

/-! ### Reading -/

def leading (style : Style) (chars : List Char) : Nat := (chars.takeWhile (· = style.mark)).length

theorem leading_replicate_append {count : Nat} (ends : chars.head? ≠ some style.mark) :
    leading style (List.replicate count style.mark ++ chars) = count := by
  induction count with
  | zero => cases chars <;> simp_all [leading]
  | succ count ih => simp_all [leading, List.replicate_succ]

/-- In a long style, a run of marks closes the string if there are three or more; up to two belong to
the text before them. -/
theorem scan_mark (long : style.multiline = true) (chars : List Char) :
    scan style (style.mark :: chars) =
      (let run := leading style (style.mark :: chars)
       if run < 3 then consRead style.mark (scan style chars)
       else if run ≤ 5 then some (List.replicate (run - 3) style.mark, (style.mark :: chars).drop run)
       else none) := by
  rw [scan]
  simp only [long, if_true]
  rfl

theorem scan_plain {c : Char} (plain : isPlain c) (unmarked : c ≠ style.mark)
    (unescaped : c = '\\' → style.escapes = false) (chars : List Char) :
    scan style (c :: chars) = consRead c (scan style chars) := by
  have other : ¬ (c = '\\' ∧ style.escapes = true) := by
    rintro ⟨backslash, escapes⟩
    simp [unescaped backslash] at escapes
  rw [scan, if_neg unmarked, if_neg other, if_pos plain]

theorem scan_newline (marked : style.Marked) (long : style.multiline = true) (chars : List Char) :
    scan style ('\n' :: chars) = consRead '\n' (scan style chars) := by
  rw [scan, if_neg marked.newline_ne, if_neg (by simp), if_neg (by decide), if_pos long]
  rfl

/-- An escape stands for the character it spells. -/
theorem scan_escape (marked : style.Marked) (escapes : style.escapes = true) {c : Char}
    {after : List Char} (stands : escape? chars = some (c, after)) :
    scan style ('\\' :: chars) = consRead c (scan style after) := by
  rw [scan, if_neg marked.backslash_ne, if_pos ⟨rfl, escapes⟩]
  split
  · next found =>
      rw [stands] at found
      cases found
      rfl
  · next found => simp [stands] at found

/-- Up to two marks in front of a long closing fence belong to the string. -/
theorem scan_closing (long : style.multiline = true) (count : Nat) (few : count ≤ 2)
    (free : rest.head? ≠ some style.mark) :
    scan style (List.replicate count style.mark ++ style.fence ++ rest)
      = some (List.replicate count style.mark, rest) := by
  have row : List.replicate count style.mark ++ style.fence ++ rest
      = style.mark :: (List.replicate (count + 2) style.mark ++ rest) := by
    rw [Style.fence_of_long long, List.replicate_append_replicate, List.replicate_succ, List.cons_append]
  have marks : leading style (style.mark :: (List.replicate (count + 2) style.mark ++ rest))
      = count + 3 := by
    rw [← List.cons_append, ← List.replicate_succ]
    exact leading_replicate_append free
  have dropped : (style.mark :: (List.replicate (count + 2) style.mark ++ rest)).drop (count + 3)
      = rest := by
    rw [← List.cons_append, ← List.replicate_succ]
    exact List.drop_left' List.length_replicate
  rw [row, scan_mark long, marks]
  simp only [dropped, show ¬ count + 3 < 3 by omega, show count + 3 ≤ 5 by omega, if_false, if_true]
  rfl

/-- A mark that is followed by at most one other belongs to a long string. -/
theorem scan_inner_mark (long : style.multiline = true) (count : Nat) (few : count ≤ 1)
    {c : Char} (other : c ≠ style.mark) (others : List Char) :
    scan style (style.mark :: (List.replicate count style.mark ++ c :: others))
      = consRead style.mark (scan style (List.replicate count style.mark ++ c :: others)) := by
  have marks : leading style (style.mark :: (List.replicate count style.mark ++ c :: others))
      = count + 1 := by
    rw [← List.cons_append, ← List.replicate_succ]
    exact leading_replicate_append (by simpa using other)
  rw [scan_mark long, marks]
  exact if_pos (by omega)

/-- The reader understands every spelling. -/
theorem scan_of_spells (marked : style.Marked) (spells : Spells style run chars text)
    (free : rest.head? ≠ some style.mark) :
    scan style (chars ++ style.fence ++ rest) = some (text, rest) := by
  -- by the way a character is spelled; only a mark has to look at what comes behind it
  induction spells with
  | nil =>
      cases long : style.multiline with
      | true => exact scan_closing long 0 (by omega) free
      | false =>
          rw [Style.fence_of_short long, List.nil_append, List.singleton_append, scan, if_pos rfl,
            long]
          rfl
  | @mark run chars text few inner ih =>
      obtain ⟨long, spare⟩ := Style.multiline_of_spare few
      obtain ⟨count, most, ⟨rfl, rfl⟩ | ⟨c, others, other, rfl⟩⟩ := inner.marks marked
      -- the marks reach the closing fence
      · exact scan_closing long (count + 1) (by omega) free
      · have inner := scan_inner_mark long count (by omega) other
          (others ++ style.fence ++ rest)
        simp only [List.append_assoc, List.cons_append] at inner ih ⊢
        rw [inner, ih]
        rfl
  | plain plain unmarked unescaped _ ih =>
      simp only [List.cons_append]
      rw [scan_plain plain unmarked unescaped, ih]
      rfl
  | newline long _ ih =>
      simp only [List.cons_append]
      rw [scan_newline marked long, ih]
      rfl
  | escape escapes stands _ ih =>
      simp only [List.cons_append, List.append_assoc] at ih ⊢
      rw [scan_escape marked escapes (stands _), ih]
      rfl

/-! ### Writing -/

def controlCodes : List Nat := 127 :: List.range 32

theorem toNat_mem_controlCodes {c : Char} (control : isPlain c = false) :
    c.toNat ∈ controlCodes := by
  obtain ⟨-, low⟩ : c ≠ '\t' ∧ (' ' ≤ c → c = '\x7f') := by simpa [isPlain] using control
  by_cases high : ' ' ≤ c
  · rw [low high]
    decide
  · have small : c.toNat < 32 := Nat.lt_of_not_le high
    exact List.mem_cons_of_mem _ (List.mem_range.mpr small)

/-- The two digits in the escape of a character. -/
def escapeDigits (c : Char) : List Char :=
  (Bytes.hexDigits [UInt8.ofNat c.toNat]).map Char.toUpper

theorem codePoint?_of_controlCodes : ∀ code ∈ controlCodes,
    codePoint? ('0' :: '0' :: escapeDigits (Char.ofNat code)) = some (Char.ofNat code) := by
  decide

/-- A character that has to be escaped is read from the four digits of its code. -/
theorem escape?_escapeDigits {c : Char} (control : isPlain c = false) (after : List Char) :
    escape? ('u' :: '0' :: '0' :: escapeDigits c ++ after) = some (c, after) := by
  have reads := codePoint?_of_controlCodes _ (toNat_mem_controlCodes control)
  rw [Char.ofNat_toNat] at reads
  have whole : escape? ('u' :: '0' :: '0' :: escapeDigits c ++ after)
      = (codePoint? ('0' :: '0' :: escapeDigits c)).map (·, after) := rfl
  rw [whole, reads, Option.map_some]

section Escapes

variable (escapes : style.escapes = true) (quoted : style.mark = '"')

include escapes in
/-- A character may have an escape of one letter. -/
theorem spells_letter {letter c : Char}
    (stands : ∀ after, escape? (letter :: after) = some (c, after))
    (spells : Spells style 0 chars text) : Spells style run ('\\' :: letter :: chars) (c :: text) :=
  show Spells style run ('\\' :: [letter] ++ chars) (c :: text) from .escape escapes stands spells

include escapes quoted in
/-- A character of a basic string is written as it is, or with an escape. -/
theorem spells_escapeChar {c : Char} (unquoted : c ≠ '"') (spells : Spells style 0 chars text) :
    Spells style run (escapeChar style.multiline c ++ chars) (c :: text) := by
  have letter {d : Char} (stands : ∀ after, escape? (d :: after) = some (c, after)) :
      Spells style run ('\\' :: d :: chars) (c :: text) := spells_letter escapes stands spells
  by_cases lettered : c ∈ ['\x08', '\t', '\x0c', '\r', '\\']
  · simp only [List.mem_cons, List.not_mem_nil, or_false] at lettered
    rcases lettered with rfl | rfl | rfl | rfl | rfl <;> exact letter fun after => rfl
  by_cases newline : c = '\n'
  · subst newline
    cases long : style.multiline with
    | true => exact .newline long spells
    | false => exact letter fun after => rfl
  simp only [List.mem_cons, List.not_mem_nil, or_false, not_or] at lettered
  by_cases plain : isPlain c
  · have written : escapeChar style.multiline c = [c] := by
      simp [escapeChar, lettered, newline, plain]
    rw [written]
    exact .plain plain (quoted ▸ unquoted) (fun backslash => absurd backslash lettered.2.2.2.2) spells
  · have written : escapeChar style.multiline c
        = '\\' :: ('u' :: '0' :: '0' :: escapeDigits c) := by
      simp only [escapeChar, lettered, newline, plain, if_false]
      rfl
    rw [written]
    exact .escape escapes (escape?_escapeDigits (Bool.eq_false_iff.mpr plain)) spells

/-- A quotation mark is written as it is while there are marks to spare, and escaped then. -/
theorem escaped_quote (style : Style) (run : Nat) (rest : List Char) :
    escaped style.multiline run ('"' :: rest)
      = if run < style.spare then '"' :: escaped style.multiline (run + 1) rest
        else '\\' :: '"' :: escaped style.multiline 0 rest := by
  rw [escaped, if_pos rfl]
  rfl

include escapes quoted in
/-- Every text is spelled with escapes. -/
theorem spells_escaped (run : Nat) (text : List Char) :
    Spells style run (escaped style.multiline run text) text := by
  induction text generalizing run with
  | nil => exact .nil
  | cons c rest ih =>
      by_cases quote : c = '"'
      · subst quote
        rw [escaped_quote]
        split
        · next few =>
            have inner := ih (run + 1)
            rw [← quoted]
            exact .mark few inner
        · exact spells_letter escapes (fun after => rfl) (ih 0)
      · rw [escaped, if_neg quote]
        exact spells_escapeChar escapes quoted quote (ih 0)

end Escapes

/-! ### Texts that stand for themselves -/

/-- One step in counting the longest run of a character. -/
def runStep (mark : Char) (counts : Nat × Nat) (c : Char) : Nat × Nat :=
  if c = mark then (max counts.1 (counts.2 + 1), counts.2 + 1) else (counts.1, 0)

theorem le_foldl_runStep (mark : Char) (text : List Char) (counts : Nat × Nat) :
    counts.1 ≤ (text.foldl (runStep mark) counts).1 := by
  induction text generalizing counts with
  | nil => exact Nat.le_refl _
  | cons c rest ih =>
      have grows : counts.1 ≤ (runStep mark counts c).1 := by grind [runStep]
      exact Nat.le_trans grows (ih _)

/-- The counts of `longestRun` bound the marks in a row, wherever in the text they are taken up. -/
theorem spells_verbatim_from (escapeless : style.escapes = false)
    (clean : ∀ c ∈ text, isPlain c ∨ (style.multiline = true ∧ c = '\n')) {longest : Nat}
    (few : (text.foldl (runStep style.mark) (longest, run)).1 ≤ style.spare) :
    Spells style run text text := by
  induction text generalizing run longest with
  | nil => exact .nil
  | cons c rest ih =>
      have later : ∀ d ∈ rest, isPlain d ∨ (style.multiline = true ∧ d = '\n') :=
        fun d member => clean d (List.mem_cons_of_mem c member)
      rw [List.foldl_cons] at few
      by_cases marks : c = style.mark
      · subst marks
        rw [runStep, if_pos rfl] at few
        have reached := le_foldl_runStep style.mark rest (max longest (run + 1), run + 1)
        dsimp only at few reached
        exact .mark (by omega) (ih later few)
      · rw [runStep, if_neg marks] at few
        rcases clean c List.mem_cons_self with plain | ⟨long, rfl⟩
        · exact .plain plain marks (fun _ => escapeless) (ih later few)
        · exact .newline long (ih later few)

/-- A text without controls and without long runs of the mark stands for itself where nothing is
escaped. -/
theorem spells_verbatim (escapeless : style.escapes = false)
    (clean : ∀ c ∈ text, isPlain c ∨ (style.multiline = true ∧ c = '\n'))
    (few : longestRun style.mark text ≤ style.spare) : Spells style 0 text text :=
  spells_verbatim_from escapeless clean few

/-! ### The written string -/

/-- The style of a text has escapes, or the text can do without. -/
theorem styleFor_cases (text : List Char) :
    ((styleFor text).escapes = true ∧ (styleFor text).mark = '"') ∨
      text.any needsEscape = false ∧
        ((styleFor text = .literal ∧ longestRun apostrophe text = 0 ∧ '\n' ∉ text) ∨
          (styleFor text = .longLiteral ∧ longestRun apostrophe text ≤ 2)) := by
  unfold styleFor
  grind [Style.basic, Style.longBasic]

/-- Where nothing needs an escape, there are only plain characters and ends of lines. -/
theorem plain_or_newline {text : List Char} (clean : text.any needsEscape = false) {c : Char}
    (member : c ∈ text) : isPlain c ∨ c = '\n' := by
  have fine := List.any_eq_false.mp clean c member
  grind [needsEscape]

/-- What stands between the fences. -/
def inside (text : List Char) : List Char :=
  if (styleFor text).escapes then escaped (styleFor text).multiline 0 text else text

theorem styleFor_mem (text : List Char) :
    (styleFor text = .basic ∨ styleFor text = .literal) ∨
      (styleFor text = .longBasic ∨ styleFor text = .longLiteral) := by
  unfold styleFor
  grind

/-- Whatever the text, its style has a proper mark. -/
theorem marked_styleFor (text : List Char) : (styleFor text).Marked := by
  rcases styleFor_mem text with (style | style) | (style | style) <;> rw [style]
  · exact .inl rfl
  · exact .inr rfl
  · exact .inl rfl
  · exact .inr rfl

/-- What stands between the fences spells the text, in the style that is chosen for it. -/
theorem spells_inside (text : List Char) : Spells (styleFor text) 0 (inside text) text := by
  rw [inside]
  rcases styleFor_cases text with ⟨escapes, quoted⟩ | ⟨clean, ⟨style, few, oneLine⟩ | ⟨style, few⟩⟩
  · rw [if_pos escapes]
    exact spells_escaped escapes quoted 0 text
  · rw [style]
    refine spells_verbatim rfl (fun c member => ?_) (Nat.le_of_eq few)
    rcases plain_or_newline clean member with plain | rfl
    · exact .inl plain
    · exact absurd member oneLine
  · rw [style]
    exact spells_verbatim rfl
      (fun c member => (plain_or_newline clean member).imp_right fun newline => ⟨rfl, newline⟩) few

/-! ### The string as a whole -/

theorem write_eq_cons (text : List Char) :
    ∃ others, write text = (styleFor text).mark :: others := by
  cases long : (styleFor text).multiline with
  | true =>
      simp only [write, Style.fence_of_long long, List.replicate_succ, List.cons_append]
      exact ⟨_, rfl⟩
  | false =>
      simp only [write, Style.fence_of_short long, List.cons_append]
      exact ⟨_, rfl⟩

/-- In a short style, the string starts right behind its mark. -/
theorem readString_short (short : style = .basic ∨ style = .literal)
    (alone : ¬ [style.mark, style.mark] <+: chars) :
    readString (style.mark :: chars) = scan style chars := by
  have alone : [style.mark, style.mark].isPrefixOf chars = false := by
    rw [← Bool.not_eq_true, List.isPrefixOf_iff_prefix]
    exact alone
  rcases short with rfl | rfl
  · have long : Style.longBasic.fence.isPrefixOf ('"' :: chars) = false := alone
    have other : Style.longLiteral.fence.isPrefixOf ('"' :: chars) = false := rfl
    simp [readString, Style.basic, long, other, readShort]
  · have long : Style.longLiteral.fence.isPrefixOf (apostrophe :: chars) = false := alone
    have other : Style.longBasic.fence.isPrefixOf (apostrophe :: chars) = false := rfl
    have unquoted : apostrophe ≠ '"' := by decide
    simp [readString, Style.literal, long, other, readShort, unquoted]

/-- In a long style, an end of a line right behind the fence is not part of the string. -/
theorem readString_long (long : style = .longBasic ∨ style = .longLiteral) (chars : List Char) :
    readString (style.fence ++ chars) = scan style ((afterNewline? chars).getD chars) := by
  rcases long with rfl | rfl <;> rfl

/-- The closing mark of a short string and one beside it do not make a long fence. -/
theorem Spells.not_prefix (marked : style.Marked) (short : style.multiline = false)
    (spells : Spells style run chars text) (free : rest.head? ≠ some style.mark) :
    ¬ [style.mark, style.mark] <+: chars ++ style.mark :: rest := by
  obtain ⟨count, most, shape⟩ := spells.marks marked
  obtain rfl : count = 0 := by simpa [Style.spare, short] using most
  rintro ⟨after, same⟩
  rcases shape with ⟨rfl, -⟩ | ⟨c, others, other, rfl⟩
  · have next : rest = style.mark :: after := by simpa using same.symm
    exact free (by rw [next]; rfl)
  · have first : style.mark = c := by simpa using congrArg List.head? same
    exact other first.symm

/-- A string without a line end does not start with one. -/
theorem Spells.afterNewline?_eq_none (marked : style.Marked) (oneLine : '\n' ∉ text)
    (spells : Spells style run chars text) (rest : List Char) :
    afterNewline? (chars ++ style.mark :: rest) = none := by
  have markLeads (chars : List Char) : afterNewline? (style.mark :: chars) = none := by
    rcases marked with mark | mark <;> rw [mark] <;> rfl
  cases spells with
  | nil => exact markLeads rest
  | mark => exact markLeads _
  | @plain _ c _ _ plain =>
      have first : c ≠ '\n' := fun same => absurd plain (by rw [same]; decide)
      have second : c ≠ '\r' := fun same => absurd plain (by rw [same]; decide)
      simp only [List.cons_append, afterNewline?]
      split <;> simp_all
  | newline => exact absurd List.mem_cons_self oneLine
  | escape => rfl

/-- A text that has been quoted is read back, whatever it holds. Behind it there must not be one more
mark of the same kind. -/
theorem readString_write (text : List Char) {rest : List Char}
    (free : rest.head? ≠ some (styleFor text).mark) :
    readString (write text ++ rest) = some (text, rest) := by
  have marked := marked_styleFor text
  have spells := spells_inside text
  have read := scan_of_spells marked spells free
  rcases styleFor_mem text with short | long
  · have oneLine : (styleFor text).multiline = false := by
      rcases short with style | style <;> rw [style] <;> rfl
    have fence := Style.fence_of_short oneLine
    have written : write text ++ rest
        = (styleFor text).mark :: (inside text ++ (styleFor text).mark :: rest) := by
      simp [write, oneLine, fence, inside]
    rw [written, readString_short short (spells.not_prefix marked oneLine free)]
    simpa [fence] using read
  · have multiline : (styleFor text).multiline = true := by
      rcases long with style | style <;> rw [style] <;> rfl
    by_cases newline : '\n' ∈ text
    · have written : write text ++ rest
          = (styleFor text).fence ++ ('\n' :: (inside text ++ (styleFor text).fence ++ rest)) := by
        simp [write, multiline, newline, inside]
      rw [written, readString_long long]
      exact read
    · have written : write text ++ rest
          = (styleFor text).fence ++ (inside text ++ (styleFor text).fence ++ rest) := by
        simp [write, newline, inside]
      have kept : afterNewline? (inside text ++ (styleFor text).fence ++ rest) = none := by
        rw [Style.fence_of_long multiline, List.append_assoc]
        exact spells.afterNewline?_eq_none marked newline _
      rw [written, readString_long long, kept]
      exact read

/-- Three quotes and three apostrophes with a line end behind them. -/
example : write "\"\"\"\x27\x27\x27\n".toList
    = "\"\"\"\n\"\"\\\"\x27\x27\x27\n\"\"\"".toList := by
  decide

end ObjectVault.Toml
