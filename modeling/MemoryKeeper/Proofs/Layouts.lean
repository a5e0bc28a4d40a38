import MemoryKeeper.Proofs.Blanks
import MemoryKeeper.Proofs.Tokens
import Mathlib.Data.List.Chain

/-!
# Layouts of tokens

Tokens can be laid out with any blanks before, between and behind them. Blanks are
needed only between two tokens of which neither shows by itself where it begins
or ends, so not next to a parenthesis or a string. However well-formed tokens are
laid out, exactly they are found again; and no other tokens are ever found.
-/

namespace MemoryKeeper.Token

open MemoryKeeper.Text

/-- A token as lines can hold it. A number is a digit, or a hyphen and a digit, with digits and
points behind it; a word begins neither as a number nor with a glyph. -/
def IsWellFormed : Token → Prop
  | .openParen => True
  | .closeParen => True
  | .string _ => True
  | .number text => ∃ digit rest,
      (text.toList = digit :: rest ∨ text.toList = '-' :: digit :: rest) ∧ digit.isDigit ∧
        ∀ character ∈ rest, character.isDigit ∨ character = '.'
  | .glyph text => text ∈ ["💡", "🔄", "🎯", "🌀"]
  | .word text => ∃ initial rest, text.toList = initial :: rest ∧
      (∀ character ∈ initial :: rest,
        isBlank character = false ∧ character ≠ '(' ∧ character ≠ ')' ∧ character ≠ '"') ∧
      ¬initial.isDigit ∧ initial ∉ ['💡', '🔄', '🎯', '🌀'] ∧
      ∀ digit ∈ rest.head?, initial = '-' → ¬digit.isDigit

/-- The text in which each token stands behind the blanks that are given with it. -/
def layout (items : List (List Char × Token)) (last : List Char) : List Char :=
  items.flatMap (fun item => item.1 ++ item.2.spell) ++ last

/-- Whether what stands between two tokens keeps them apart: a blank at least, unless one of them is
a parenthesis or a string. -/
def AreApart (left right : List Char × Token) : Prop :=
  right.1 ≠ [] ∨ left.2.isClosed ∨ right.2.isClosed

variable {token : Token} {text last : List Char} {items : List (List Char × Token)}

theorem isGlyph_iff {character : Char} :
    Symbol.isGlyph character ↔ character ∈ ['💡', '🔄', '🎯', '🌀'] := by
  simp only [Symbol.isGlyph, Symbol.all, Symbol.glyphChar, List.any_cons, List.any_nil,
    Bool.or_eq_true, decide_eq_true_eq, Bool.false_eq_true, List.mem_cons, List.not_mem_nil,
    eq_comm (b := character)]

theorem startsNumber_iff {character : Char} {rest : List Char} :
    startsNumber character rest ↔
      character.isDigit ∨ character = '-' ∧ ∃ digit ∈ rest.head?, digit.isDigit := by
  simp [startsNumber, Option.any_eq_true]

theorem isScannable_iff_isWellFormed : token.IsScannable ↔ token.IsWellFormed := by
  cases token with
  | number text =>
      constructor
      · rintro ⟨character, rest, written, starts, continued⟩
        rw [startsNumber_iff] at starts
        simp only [continuesNumber, List.all_eq_true, Bool.or_eq_true, decide_eq_true_eq]
          at continued
        rcases starts with digit | ⟨rfl, digit, isHead, isDigit⟩
        · exact ⟨character, rest, .inl written, digit, continued⟩
        · rcases List.head?_eq_some_iff.mp isHead with ⟨tail, rfl⟩
          exact ⟨digit, tail, .inr written, isDigit, (List.forall_mem_cons.mp continued).2⟩
      · rintro ⟨digit, rest, written, isDigit, continued⟩
        rcases written with written | written
        · refine ⟨digit, rest, written, startsNumber_iff.mpr (.inl isDigit), ?_⟩
          simpa [continuesNumber] using continued
        · refine ⟨'-', digit :: rest, written, ?_, ?_⟩
          · exact startsNumber_iff.mpr (.inr ⟨rfl, digit, rfl, isDigit⟩)
          · simpa [continuesNumber, isDigit] using continued
  | word text =>
      have solid : ∀ characters : List Char, characters.all (!endsWord ·) ↔
          ∀ character ∈ characters,
            isBlank character = false ∧ character ≠ '(' ∧ character ≠ ')' ∧ character ≠ '"' := by
        intro characters
        simp [endsWord, and_assoc]
      simp only [IsScannable, IsWellFormed, solid, ← Bool.not_eq_true, startsNumber_iff,
        isGlyph_iff, not_or, not_and, not_exists]
      refine exists_congr fun initial => exists_congr fun rest => and_congr_right fun _ => ?_
      constructor
      · rintro ⟨⟨noDigit, noNumber⟩, noGlyph, inside⟩
        exact ⟨inside, noDigit, noGlyph, fun digit isHead hyphen => noNumber hyphen digit isHead⟩
      · rintro ⟨inside, noDigit, noGlyph, noNumber⟩
        exact ⟨⟨noDigit, fun hyphen digit isHead => noNumber digit isHead hyphen⟩, noGlyph, inside⟩
  | glyph text =>
      constructor
      · rintro ⟨symbol, rfl⟩
        rw [IsWellFormed]
        cases symbol <;> decide
      · intro listed
        simp only [IsWellFormed, List.mem_cons, List.not_mem_nil, or_false] at listed
        rcases listed with rfl | rfl | rfl | rfl
        · exact ⟨.insight, rfl⟩
        · exact ⟨.pattern, rfl⟩
        · exact ⟨.goal, rfl⟩
        · exact ⟨.exploration, rfl⟩
  | _ => exact Iff.rfl

/-- A number or a word ends before what does not continue it, so whether a number starts is seen in
the token alone. -/
theorem startsNumber_takeWhile {character : Char} {rest : List Char} {continues : Char → Bool}
    (digits : ∀ digit, digit.isDigit → continues digit) :
    startsNumber character (rest.takeWhile continues) = startsNumber character rest := by
  cases rest with
  | nil => rfl
  | cons second others =>
      by_cases continued : continues second
      · apply startsNumber_congr
        simp [continued]
      · have noDigit : second.isDigit = false := by
          by_contra digit
          exact continued (digits second (by simpa using digit))
        simp [startsNumber, continued, noDigit]

theorem isScannable_first {character : Char} (solid : isBlank character = false)
    (rest : List Char) : (first character rest).1.IsScannable := by
  rw [first]
  split_ifs with isOpen isClose isQuote isNumber isGlyph
  · trivial
  · trivial
  · trivial
  · refine ⟨character, rest.takeWhile continuesNumber, String.toList_ofList, ?_, ?_⟩
    · rwa [startsNumber_takeWhile fun digit isDigit => by simp [continuesNumber, isDigit]]
    · simp
  · rcases List.any_eq_true.mp isGlyph with ⟨symbol, -, same⟩
    refine ⟨symbol, ?_⟩
    rw [Symbol.glyph, of_decide_eq_true same]
  · refine ⟨character, rest.takeWhile (!endsWord ·), String.toList_ofList, ?_, ?_, ?_⟩
    · rw [startsNumber_takeWhile fun digit isDigit => by simp [endsWord_of_isDigit isDigit]]
      simpa using isNumber
    · simpa using isGlyph
    · simp [endsWord, solid, isOpen, isClose, isQuote]

theorem isScannable_of_mem_scan (found : token ∈ scan text) : token.IsScannable := by
  induction text using scan_induction with
  | nil => simp at found
  | blank character rest blank ih =>
      rw [scan_blank blank] at found
      exact ih found
  | solid character rest solid ih =>
      rw [scan_first solid] at found
      rcases List.mem_cons.mp found with rfl | later
      · exact isScannable_first solid rest
      · exact ih later

theorem not_isBlank_of_mem_spell (scannable : token.IsScannable) (opened : token.isClosed = false)
    {character : Char} (inside : character ∈ token.spell) : isBlank character = false := by
  cases token with
  | number text =>
      rcases scannable with ⟨initial, rest, written, starts, continued⟩
      rw [spell, written] at inside
      rcases List.mem_cons.mp inside with rfl | later
      · rcases startsNumber_iff.mp starts with digit | ⟨rfl, -⟩
        · exact Timestamp.isBlank_of_isDigit digit
        · decide
      · exact (not_isBlank_of_endsWord
          (endsWord_of_continuesNumber (List.all_eq_true.mp continued _ later))).1
  | word text =>
      rcases scannable with ⟨initial, rest, written, -, -, continued⟩
      rw [spell, written] at inside
      have within := List.all_eq_true.mp continued _ inside
      exact (not_isBlank_of_endsWord (by simpa using within)).1
  | glyph text =>
      rcases scannable with ⟨symbol, rfl⟩
      rw [spell, Symbol.glyph, String.toList_singleton, List.mem_singleton] at inside
      rw [inside]
      cases symbol <;> decide
  | _ => cases opened

/-- A written token has no blank at either end. -/
theorem spell_bounded (scannable : token.IsScannable) :
    token.spell ≠ [] ∧ (∀ character ∈ token.spell.head?, isBlank character = false) ∧
      ∀ character ∈ token.spell.getLast?, isBlank character = false := by
  by_cases closed : token.isClosed
  · cases token with
    | string content =>
        have ends : (string content).spell.getLast? = some '"' := by
          rw [spell, List.getLast?_concat]
        rw [ends]
        simp [spell, isBlank]
    | openParen => simp [spell, isBlank]
    | closeParen => simp [spell, isBlank]
    | _ => cases closed
  · have opened : token.isClosed = false := by simpa using closed
    refine ⟨?_, ?_, ?_⟩
    · cases token with
      | number text =>
          rcases scannable with ⟨initial, rest, written, -⟩
          simp [spell, written]
      | word text =>
          rcases scannable with ⟨initial, rest, written, -⟩
          simp [spell, written]
      | glyph text =>
          rcases scannable with ⟨symbol, rfl⟩
          simp [spell, Symbol.glyph]
      | _ => cases opened
    · intro character isHead
      exact not_isBlank_of_mem_spell scannable opened (List.mem_of_mem_head? isHead)
    · intro character isLast
      exact not_isBlank_of_mem_spell scannable opened (List.mem_of_mem_getLast? isLast)

/-- Whether the tokens of a layout can be scanned and the rest of it is blank. -/
structure IsSpaced (items : List (List Char × Token)) (last : List Char) : Prop where
  scannable : ∀ item ∈ items, item.2.IsScannable
  gaps : ∀ item ∈ items, ∀ character ∈ item.1, isBlank character
  ending : ∀ character ∈ last, isBlank character
  apart : items.IsChain AreApart

theorem layout_cons (item : List Char × Token) (items : List (List Char × Token))
    (last : List Char) :
    layout (item :: items) last = item.1 ++ (item.2.spell ++ layout items last) := by
  simp [layout]

/-- What follows a token that does not show where it ends begins with a blank, a parenthesis or a
quote. -/
theorem endsWord_of_layout {item : List Char × Token} (opened : item.2.isClosed = false)
    (spaced : IsSpaced (item :: items) last) : (layout items last).head?.all endsWord := by
  have blank : ∀ character, isBlank character → endsWord character := by
    intro character isBlank
    simp [endsWord, isBlank]
  cases items with
  | nil =>
      cases last with
      | nil => rfl
      | cons character rest => exact blank character (spaced.ending character List.mem_cons_self)
  | cons next others =>
      rcases next with ⟨gap, token⟩
      have apart := (List.isChain_cons_cons.mp spaced.apart).1
      rw [layout_cons]
      cases gap with
      | cons character rest =>
          have among :
              (character :: rest, token) ∈ item :: (character :: rest, token) :: others := by simp
          exact blank character (spaced.gaps _ among character List.mem_cons_self)
      | nil =>
          have closed : token.isClosed := by simpa [AreApart, opened] using apart
          cases token with
          | openParen => rfl
          | closeParen => rfl
          | string content => rfl
          | _ => cases closed

theorem scan_layout (spaced : IsSpaced items last) :
    scan (layout items last) = items.map Prod.snd := by
  induction items with
  | nil =>
      have nothing := scan_blanks spaced.ending []
      rw [List.append_nil, scan_nil] at nothing
      exact nothing
  | cons item items ih =>
      have others : IsSpaced items last :=
        ⟨fun other among => spaced.scannable other (List.mem_cons_of_mem _ among),
          fun other among => spaced.gaps other (List.mem_cons_of_mem _ among), spaced.ending,
          spaced.apart.tail⟩
      rw [layout_cons, scan_blanks (spaced.gaps item List.mem_cons_self), List.map_cons,
        ← ih others]
      by_cases closed : item.2.isClosed
      · exact scan_spell_of_isClosed closed _
      · have opened : item.2.isClosed = false := by simpa using closed
        exact scan_spell (endsWord_of_layout opened spaced)
          (spaced.scannable item List.mem_cons_self)

/-- Trimming a layout drops the blanks before its first token and those at its end. -/
theorem trim_layout_cons {item : List Char × Token} (spaced : IsSpaced (item :: items) last) :
    trim (layout (item :: items) last) = layout (([], item.2) :: items) [] := by
  have shape : layout (item :: items) last =
      item.1 ++ layout (([], item.2) :: items) [] ++ last := by
    simp [layout]
  have first := spell_bounded (spaced.scannable item List.mem_cons_self)
  rw [shape]
  apply trim_between (spaced.gaps item List.mem_cons_self) spaced.ending
  · intro character isHead
    rw [layout_cons, List.nil_append, List.head?_append_of_ne_nil _ first.1] at isHead
    exact first.2.1 character isHead
  · intro character isLast
    rcases List.eq_nil_or_concat items with rfl | ⟨front, final, rfl⟩
    · rw [layout_cons, layout, List.flatMap_nil, List.append_nil, List.append_nil, List.nil_append]
        at isLast
      exact first.2.2 character isLast
    · have bounded := spell_bounded (spaced.scannable final (by simp))
      have ends : layout (([], item.2) :: front.concat final) [] =
          (layout (([], item.2) :: front) [] ++ final.1) ++ final.2.spell := by
        simp [layout]
      rw [ends, List.getLast?_append_of_ne_nil _ bounded.1] at isLast
      exact bounded.2.2 character isLast

theorem tokenize_of_layout {line : String} (laidOut : line.toList = layout items last)
    (spaced : IsSpaced items last) : tokenize line = items.map Prod.snd := by
  rw [tokenize, laidOut]
  cases items with
  | nil =>
      have nothing : trim (layout [] last) = [] := by
        have dropped := @trim_between [] [] last (by simp) spaced.ending (by simp) (by simp)
        simpa [layout] using dropped
      rw [nothing, scan_nil, List.map_nil]
  | cons item items =>
      rw [trim_layout_cons spaced, scan_layout]
      · rfl
      · refine ⟨?_, ?_, by simp, ?_⟩
        · simpa using spaced.scannable
        · simpa using (List.forall_mem_cons.mp spaced.gaps).2
        · have apart := spaced.apart
          cases items with
          | nil => simp
          | cons next others => simpa [AreApart] using apart

/-- What is found in a line is well formed, and well-formed tokens are found however they are laid
out. -/
theorem tokenize_layout :
    (∀ line, ∀ token ∈ tokenize line, token.IsWellFormed) ∧
      ∀ (items : List (List Char × Token)) (last : List Char),
        (∀ item ∈ items, item.2.IsWellFormed) →
        (∀ item ∈ items, ∀ character ∈ item.1, isBlank character) →
        (∀ character ∈ last, isBlank character) → items.IsChain AreApart →
        tokenize (String.ofList (layout items last)) = items.map Prod.snd := by
  constructor
  · intro line token found
    exact isScannable_iff_isWellFormed.mp (isScannable_of_mem_scan found)
  · intro items last wellFormed gaps ending apart
    have scannable : ∀ item ∈ items, item.2.IsScannable := by
      intro item among
      exact isScannable_iff_isWellFormed.mpr (wellFormed item among)
    exact tokenize_of_layout String.toList_ofList ⟨scannable, gaps, ending, apart⟩

/-- Tokens without a blank between them wherever a parenthesis or a quote keeps them apart. -/
theorem tokenize_layout_of_dense_tokens :
    let items : List (List Char × Token) :=
      [([], .openParen), ([], .word "a💡-"), ([], .string "\" \\\n"), ([], .number "-1..2"),
        (['\u3000'], .glyph "🎯"), ([], .closeParen)]
    let last := ['\u00a0']
    (∀ item ∈ items, item.2.IsWellFormed) ∧
      (∀ item ∈ items, ∀ character ∈ item.1, isBlank character) ∧
      (∀ character ∈ last, isBlank character) ∧ items.IsChain AreApart ∧
      String.ofList (layout items last) = "(a💡-\"\\\" \\\\\n\"-1..2\u3000🎯)\u00a0" ∧
      tokenize (String.ofList (layout items last)) = items.map Prod.snd := by
  intro items last
  have wellFormed : ∀ item ∈ items, item.2.IsWellFormed := by
    simp only [items, List.forall_mem_cons, ← isScannable_iff_isWellFormed]
    refine ⟨trivial, ?_, trivial, ?_, ?_, trivial, by simp⟩
    · exact ⟨'a', ['💡', '-'], rfl, by decide, by decide, by decide⟩
    · exact ⟨'-', ['1', '.', '.', '2'], rfl, by decide, by decide⟩
    · exact ⟨.goal, rfl⟩
  have wideBlank : isBlank '\u3000' := by decide
  have hardBlank : isBlank '\u00a0' := by decide
  have gaps : ∀ item ∈ items, ∀ character ∈ item.1, isBlank character := by
    simp [items, wideBlank]
  have ending : ∀ character ∈ last, isBlank character := by simp [last, hardBlank]
  have apart : items.IsChain AreApart := by simp [items, AreApart, isClosed]
  exact ⟨wellFormed, gaps, ending, apart, by decide,
    tokenize_layout.2 items last wellFormed gaps ending apart⟩

end MemoryKeeper.Token
