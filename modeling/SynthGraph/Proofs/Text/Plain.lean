import Mathlib.Tactic.Common
import SynthGraph.Text.Emoji
import SynthGraph.Text.Layout

/-!
# Texts that stay as they are

A text without control characters is laid out on one line, and left as it is, when it takes no more
cells than the line has.  Its words are measured one by one: where a word ends with a blank, what
comes behind it is measured as a text of its own, so that the words never take more cells together
than the text does.  A text without emoji codes stays as it is where codes are replaced.
-/

namespace SynthGraph

variable {last : Option Char} {as bs cs word line : List Char} {width offset : Nat}

/-! ### Cells -/

/-- A joiner takes the character after it along. -/
lemma widthAfter_joiner (last : Option Char) (c : Char) (cs : List Char) :
    widthAfter last (joiner :: c :: cs) = widthAfter last cs := by
  simp [widthAfter]

/-- The selector of the picture form takes a cell when there is something that it widens. -/
lemma widthAfter_pictureSelector (last : Option Char) (cs : List Char) :
    widthAfter last (pictureSelector :: cs) =
      (if last.any pictureCharacters.contains then 1 else 0) + widthAfter none cs := by
  rw [widthAfter_cons (by decide), if_pos rfl]

/-- A text takes no fewer cells for the character before it. -/
lemma widthAfter_none_le (last : Option Char) (cs : List Char) :
    widthAfter none cs ≤ widthAfter last cs := by
  induction last, cs using widthAfter.induct with
  | case1 => exact Nat.le_refl 0
  | case2 => simp [widthAfter]
  | case3 last c rest ih => rwa [widthAfter_joiner, widthAfter_joiner]
  | case4 last rest _ _ =>
    rw [widthAfter_pictureSelector, widthAfter_pictureSelector]
    exact Nat.add_le_add_right (by simp) _
  | case5 last c rest hjoiner hselector hzero ih =>
    simpa [widthAfter_cons hjoiner, hselector, hzero] using ih
  | case6 last c rest hjoiner hselector hzero _ =>
    simp [widthAfter_cons hjoiner, hselector, hzero]

/-- A text takes no fewer cells with something behind it. -/
lemma widthAfter_le_append (last : Option Char) (as bs : List Char) :
    widthAfter last as ≤ widthAfter last (as ++ bs) := by
  induction last, as using widthAfter.induct with
  | case1 => exact Nat.zero_le _
  | case2 => simp [widthAfter]
  | case3 last c rest ih =>
    rw [List.cons_append, List.cons_append, widthAfter_joiner, widthAfter_joiner]
    exact ih
  | case4 last rest _ ih =>
    rw [List.cons_append, widthAfter_pictureSelector, widthAfter_pictureSelector]
    exact Nat.add_le_add_left ih _
  | case5 last c rest hjoiner hselector hzero ih =>
    simpa [widthAfter_cons hjoiner, hselector, hzero] using ih
  | case6 last c rest hjoiner hselector hzero ih =>
    simpa [widthAfter_cons hjoiner, hselector, hzero] using ih

/-- What a list does not end with, its tail does not end with either. -/
lemma getLast?_ne_of_cons {α : Type} {a b : α} {rest : List α}
    (h : (b :: rest).getLast? ≠ some a) : rest.getLast? ≠ some a := by
  cases rest with
  | nil => simp
  | cons c rest => simpa [List.getLast?_cons_cons] using h

/-- What comes behind a text that does not end with a joiner takes the cells of its own at least. -/
lemma add_textWidth_le (last : Option Char) {as : List Char} (h : as.getLast? ≠ some joiner)
    (bs : List Char) : widthAfter last as + textWidth bs ≤ widthAfter last (as ++ bs) := by
  induction last, as using widthAfter.induct with
  | case1 last =>
    rw [widthAfter, Nat.zero_add]
    exact widthAfter_none_le last bs
  | case2 => exact absurd rfl h
  | case3 last c rest ih =>
    rw [List.cons_append, List.cons_append, widthAfter_joiner, widthAfter_joiner]
    exact ih (getLast?_ne_of_cons (getLast?_ne_of_cons h))
  | case4 last rest _ ih =>
    rw [List.cons_append, widthAfter_pictureSelector, widthAfter_pictureSelector, Nat.add_assoc]
    exact Nat.add_le_add_left (ih (getLast?_ne_of_cons h)) _
  | case5 last c rest hjoiner hselector hzero ih =>
    simpa [widthAfter_cons hjoiner, hselector, hzero] using ih (getLast?_ne_of_cons h)
  | case6 last c rest hjoiner hselector hzero ih =>
    simpa [widthAfter_cons hjoiner, hselector, hzero, Nat.add_assoc]
      using ih (getLast?_ne_of_cons h)

/-! ### Words -/

/-- A text without the blanks behind it is the beginning of the text. -/
lemma trimRight_prefix (cs : List Char) : trimRight cs <+: cs := by
  have hsuffix : cs.reverse.dropWhile isSpacing <:+ cs.reverse := List.dropWhile_suffix _
  simpa [trimRight] using List.reverse_prefix.mpr hsuffix

/-- A text takes no more cells without the blanks behind it. -/
lemma textWidth_trimRight_le (cs : List Char) : textWidth (trimRight cs) ≤ textWidth cs := by
  obtain ⟨blanks, hblanks⟩ := trimRight_prefix cs
  calc textWidth (trimRight cs)
    _ ≤ textWidth (trimRight cs ++ blanks) := widthAfter_le_append none _ _
    _ = textWidth cs := by rw [hblanks]

/-- The joiner is no blank. -/
lemma isSpacing_joiner : isSpacing joiner = false := by decide

/-- Words that fit together stay on one line.  The induction follows the words as they are taken
from the text, with the word so far in front of it. -/
lemma wrapWords_wordsFrom (long : LongWords) {word cs : List Char}
    (h : offset + textWidth (word ++ cs) ≤ width) (line : List Char) :
    wrapWords long width offset line (wordsFrom word cs) = [line ++ (word ++ cs)] := by
  have hfits : ∀ {offset : Nat} {word rest : List Char}, offset + textWidth (word ++ rest) ≤ width →
      offset + textWidth (trimRight word) ≤ width := by
    intro offset word rest h
    have htrimmed := textWidth_trimRight_le word
    have hword : textWidth word ≤ textWidth (word ++ rest) := widthAfter_le_append none word rest
    omega
  induction cs generalizing word offset line with
  | nil =>
    rw [wordsFrom, wrapWords, if_pos (hfits h), wrapWords, List.append_nil]
  | cons c cs ih =>
    rw [wordsFrom]
    split
    case isTrue hbreak =>
      have hspacing : word.getLast?.any isSpacing = true := by
        simp only [Bool.and_eq_true] at hbreak
        exact hbreak.1.2
      have hlast : word.getLast? ≠ some joiner := by
        intro hlast
        rw [hlast, Option.any_some, isSpacing_joiner] at hspacing
        cases hspacing
      have hsum : textWidth word + textWidth (c :: cs) ≤ textWidth (word ++ c :: cs) :=
        add_textWidth_le none hlast (c :: cs)
      rw [wrapWords, if_pos (hfits h), ih (by rw [List.singleton_append]; omega),
        List.singleton_append, List.append_assoc]
    case isFalse =>
      have hassoc : word ++ [c] ++ cs = word ++ c :: cs := by simp
      rw [ih (by rwa [hassoc]), hassoc]

/-- A line that takes no more cells than there are is not broken. -/
lemma wrapWords_lineWords (long : LongWords) (h : textWidth line ≤ width) :
    wrapWords long width 0 [] (lineWords line) = [line] :=
  wrapWords_wordsFrom long (by rwa [List.nil_append, Nat.zero_add]) []

/-! ### Lines -/

/-- Blanks at the end stay when there are none, or when the line has no more characters than the
column has cells. -/
lemma cropBlanks_eq (h : width < line.length → trimRight line = line) :
    cropBlanks width line = line := by
  refine List.take_of_length_le ?_
  by_cases hlong : width < line.length
  · rw [h hlong]
    omega
  · omega

/-- What would move the cursor is a control character. -/
lemma toNat_lt_of_mem_cursorControls {c : Char} (h : c ∈ cursorControls) : c.toNat < 0x20 := by
  have hall : cursorControls.all (·.toNat < 0x20) = true := by decide
  simpa using List.all_eq_true.mp hall c h

/-- A text of one line without tabulators is shown as it is. -/
lemma screenLines_eq {s : String} (h : ∀ c ∈ s.toList, 0x20 ≤ c.toNat) :
    screenLines s = [s.toList] := by
  have hkept : dropControls s.toList = s.toList := by
    refine List.filter_eq_self.mpr fun c hc => ?_
    rw [Bool.not_eq_true', List.contains_eq_mem, decide_eq_false_iff_not]
    exact fun hmem => absurd (toNat_lt_of_mem_cursorControls hmem) (Nat.not_lt.mpr (h c hc))
  have hpieces (divider : Char) (hdivider : divider.toNat < 0x20) :
      pieces (· == divider) s.toList = [s.toList] := by
    refine pieces_eq_singleton fun c hc => beq_eq_false_iff_ne.mpr ?_
    rintro rfl
    exact absurd (h c hc) (Nat.not_le.mpr hdivider)
  rw [screenLines, hkept, hpieces '\n' (by decide), List.map_singleton, expandTabs,
    hpieces '\t' (by decide), joinAtStops]

/-- The line has room for a text: it has as many cells, and as many characters too when the text
ends with a blank, since blanks at the end give way to characters. -/
def FitsLine (width : Nat) (s : String) : Prop :=
  textWidth s.toList ≤ width ∧ (width < s.toList.length → trimRight s.toList = s.toList)

/-- A text of one line that has room is laid out as it is. -/
lemma folded_eq {s : String} (hcontrols : ∀ c ∈ s.toList, 0x20 ≤ c.toNat)
    (hfits : FitsLine width s) : folded width s = s := by
  have hcrop : cropCells width s.toList = s.toList := if_pos hfits.1
  rw [folded, foldedLines, wrappedLines, screenLines_eq hcontrols, List.flatMap_singleton,
    wrapWords_lineWords _ hfits.1, List.map_singleton, cropBlanks_eq hfits.2, List.map_singleton,
    hcrop, List.map_singleton, String.ofList_toList, String.intercalate_singleton]

/-! ### Pieces -/

/-- Lists with a separator between their elements are joined one after the other. -/
lemma intercalate_append {α : Type} (sep : List α) {as bs : List (List α)} (ha : as ≠ [])
    (hb : bs ≠ []) :
    sep.intercalate (as ++ bs) = sep.intercalate as ++ sep ++ sep.intercalate bs := by
  induction as with
  | nil => exact absurd rfl ha
  | cons a as ih =>
    cases as with
    | nil =>
      obtain ⟨b, bs, rfl⟩ := List.exists_cons_of_ne_nil hb
      rw [List.singleton_append, List.intercalate_cons_cons, List.intercalate_singleton]
    | cons a' as =>
      rw [List.cons_append, List.cons_append, List.intercalate_cons_cons, ← List.cons_append,
        ih (by simp), List.intercalate_cons_cons]
      simp only [List.append_assoc]

/-- No piece holds a character that divides. -/
lemma notMem_of_mem_pieces {divides : Char → Bool} {piece : List Char} {c : Char}
    (hpiece : piece ∈ pieces divides cs) (hc : c ∈ piece) : divides c = false := by
  have hmem : c ∈ cs.filter (!divides ·) := by
    rw [← flatten_pieces]
    exact List.mem_flatten_of_mem hpiece hc
  simpa using (List.mem_filter.mp hmem).2

/-! ### Codes -/

namespace Emoji

/-- A text has a code when the text between two of its colons stands for an emoji. -/
def HasCode (cs : List Char) : Prop :=
  ∃ before code after, cs = before ++ ':' :: code ++ ':' :: after ∧ ':' ∉ code ∧
    code.any isSpacing = false ∧ (ofCode? code).isSome

/-- Text without colons in front of a text adds no codes. -/
lemma HasCode.of_append_left {xs cs : List Char} (h : HasCode (xs ++ cs)) (hxs : ':' ∉ xs) :
    HasCode cs := by
  obtain ⟨before, code, after, hsplit, hcode⟩ := h
  rw [List.append_assoc] at hsplit
  obtain ⟨rest, rfl, hrest⟩ | ⟨rest, rfl, hrest⟩ := List.append_eq_append_iff.mp hsplit
  · exact ⟨rest, code, after, by rw [hrest, List.append_assoc], hcode⟩
  · cases rest with
    | nil => exact ⟨[], code, after, by simpa using hrest.symm, hcode⟩
    | cons c rest =>
      obtain rfl : ':' = c := (List.cons.inj hrest).1
      exact absurd (List.mem_append_right before List.mem_cons_self) hxs

/-- Text without colons behind a text adds no codes. -/
lemma HasCode.of_append_right {cs ys : List Char} (h : HasCode (cs ++ ys)) (hys : ':' ∉ ys) :
    HasCode cs := by
  obtain ⟨before, code, after, hsplit, hcode⟩ := h
  have hlast : cs ++ ys = (before ++ ':' :: code ++ [':']) ++ after := by simpa using hsplit
  obtain ⟨rest, hrest, rfl⟩ | ⟨rest, hrest, -⟩ := List.append_eq_append_iff.mp hlast
  · rcases List.eq_nil_or_concat rest with rfl | ⟨init, c, rfl⟩
    · exact ⟨before, code, [], by simpa using hrest.symm, hcode⟩
    · rw [List.concat_eq_append, ← List.append_assoc] at hrest
      obtain rfl : ':' = c := List.singleton_inj.mp (List.append_inj_right' hrest rfl)
      exact absurd (by simp) hys
  · exact ⟨before, code, rest, by simpa using hrest, hcode⟩

/-- Pieces that hold no code are joined as they are. -/
lemma replaceIn_eq {ps : List (List Char)}
    (h : ∀ as code bs, ps = as ++ code :: bs → as ≠ [] → bs ≠ [] →
      code.any isSpacing = true ∨ ofCode? code = none) :
    replaceIn ps = [':'].intercalate ps := by
  induction ps using replaceIn.induct with
  | case1 => rfl
  | case2 text => rw [replaceIn, List.intercalate_singleton]
  | case3 text last =>
    rw [replaceIn, List.intercalate_cons_cons, List.intercalate_singleton, List.append_assoc,
      List.singleton_append]
  | case4 text code next rest hblank ih =>
    rw [replaceIn, if_pos hblank, List.intercalate_cons_cons, List.append_assoc,
      List.singleton_append, ih]
    rintro as code' bs hsplit - hbs
    exact h (text :: as) code' bs (by rw [hsplit, List.cons_append]) (by simp) hbs
  | case5 text code next rest hblank ih =>
    have hcode : ofCode? code = none :=
      (h [text] code (next :: rest) rfl (by simp) (by simp)).resolve_left hblank
    rw [replaceIn, if_neg hblank, hcode, List.intercalate_cons_cons, List.intercalate_cons_cons, ih]
    · simp
    · rintro as code' bs hsplit - hbs
      exact h (text :: code :: as) code' bs (by rw [hsplit, List.cons_append, List.cons_append])
        (by simp) hbs

/-- A text without codes stays as it is. -/
lemma replaceCodes_eq (h : ¬HasCode cs) : replaceCodes cs = cs := by
  rw [replaceCodes, replaceIn_eq, intercalate_pieces]
  intro as code bs hsplit has hbs
  by_contra hcode
  rw [not_or, Bool.not_eq_true, ← ne_eq, Option.ne_none_iff_isSome] at hcode
  have hpiece : code ∈ pieces (· == ':') cs := by simp [hsplit]
  obtain ⟨next, rest, rfl⟩ := List.exists_cons_of_ne_nil hbs
  have hjoin := intercalate_pieces ':' cs
  rw [hsplit, intercalate_append _ has (by simp), List.intercalate_cons_cons] at hjoin
  refine h ⟨[':'].intercalate as, code, [':'].intercalate (next :: rest), ?_, ?_, hcode⟩
  · rw [← hjoin]
    simp
  · exact fun hmem => by simpa using notMem_of_mem_pieces hpiece hmem

end Emoji

/-! ### Plain texts -/

/-- A text asks for styles: it has a tag, which a bracket opens in front of a small letter or one of
three signs and the next bracket closes, or a bracket that is marked with a backslash as no tag. -/
def HasMarkup (cs : List Char) : Prop :=
  ∃ before after, cs = before ++ '[' :: after ∧ (before.getLast? = some '\\' ∨
    ∃ c tag rest, after = c :: tag ++ ']' :: rest ∧ (c.isLower ∨ c ∈ ['#', '/', '@']) ∧ '[' ∉ tag)

/-- A text of which every character is shown as it is: it has no control characters, no emoji codes
and no tags.  Styles are no part of a text here, so that tags only tell which texts are plain. -/
structure Plain (cs : List Char) : Prop where
  controls : ∀ c ∈ cs, 0x20 ≤ c.toNat
  codes : ¬Emoji.HasCode cs
  markup : ¬HasMarkup cs

/-- A character that every plain text may hold: it is no control character, no colon and no opening
bracket. -/
def isPlain (c : Char) : Bool := 0x20 ≤ c.toNat && c != ':' && c != '['

/-- A text of such characters is plain. -/
lemma plain_of_all (h : cs.all isPlain = true) : Plain cs := by
  have hplain : ∀ c ∈ cs, 0x20 ≤ c.toNat ∧ c ≠ ':' ∧ c ≠ '[' := fun c hc => by
    simpa [isPlain, and_assoc] using List.all_eq_true.mp h c hc
  refine ⟨fun c hc => (hplain c hc).1, ?_, ?_⟩
  · rintro ⟨before, code, after, rfl, -⟩
    exact (hplain ':' (by simp)).2.1 rfl
  · rintro ⟨before, after, rfl, -⟩
    exact (hplain '[' (by simp)).2.2 rfl

/-- A text of such characters has no colon. -/
lemma colon_notMem (h : cs.all isPlain = true) : ':' ∉ cs := fun hmem =>
  absurd (List.all_eq_true.mp h _ hmem) (by decide)

/-- The digits of a number are plain characters. -/
lemma all_isPlain_toString (n : Nat) : (toString n).toList.all isPlain = true := by
  refine List.all_eq_true.mpr fun c hc => ?_
  have hmem : c ∈ Nat.toDigits 10 n := by
    rwa [show toString n = n.repr from rfl, Nat.toList_repr] at hc
  have hdigit : c.isDigit := Nat.isDigit_of_mem_toDigits (by decide) (by decide) hmem
  have hrange : 48 ≤ c.toNat ∧ c.toNat ≤ 57 := by
    simpa [Char.isDigit, UInt32.le_iff_toNat_le] using hdigit
  have hne (d : Char) (hd : 57 < d.toNat) : c ≠ d := by
    rintro rfl
    omega
  simp only [isPlain, Bool.and_eq_true, decide_eq_true_eq, bne_iff_ne]
  exact ⟨⟨by omega, hne ':' (by decide)⟩, hne '[' (by decide)⟩

end SynthGraph
