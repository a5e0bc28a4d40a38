import MemoryKeeper.Proofs.Documents
import MemoryKeeper.Proofs.Lines

/-!
# The layout of documents

A document is a fence line, a header of whole lines none of which is the fence,
the first later line that is the fence, and a body. That line ends with a line
feed or with the text, and then the body is empty. The reader accepts exactly the
texts of this layout whose header is one, and every other text fails for the
first of these parts that it lacks.

What matters is the text with every carriage return before a line feed removed,
so a document may be written with either ending of lines.
-/

namespace MemoryKeeper

namespace Text

/-- Writes a carriage return before every line feed. -/
def pairNewlines (text : List Char) : List Char :=
  text.flatMap fun character => if character = '\n' then ['\r', '\n'] else [character]

theorem normalizeNewlines_pairNewlines {text : List Char} (clear : '\r' ∉ text) :
    normalizeNewlines (pairNewlines text) = text := by
  induction text with
  | nil => rfl
  | cons character text ih =>
      simp only [List.mem_cons, not_or] at clear
      by_cases isFeed : character = '\n'
      · subst isFeed
        calc normalizeNewlines (pairNewlines ('\n' :: text))
            = normalizeNewlines ('\r' :: '\n' :: pairNewlines text) := by simp [pairNewlines]
          _ = '\n' :: normalizeNewlines (pairNewlines text) := by rw [normalizeNewlines]
          _ = '\n' :: text := by rw [ih clear.2]
      · calc normalizeNewlines (pairNewlines (character :: text))
            = normalizeNewlines (character :: pairNewlines text) := by
              simp [pairNewlines, isFeed]
          _ = character :: normalizeNewlines (pairNewlines text) :=
              normalizeNewlines_cons fun pair => clear.1 pair.1.symm
          _ = character :: text := by rw [ih clear.2]

theorem normalizeNewlines_of_clear {text : List Char} (clear : '\r' ∉ text) :
    normalizeNewlines text = text := by
  simpa [normalizeNewlines] using normalizeNewlines_append clear []

end Text

namespace Document

open MemoryKeeper.Text

/-- Whole lines, none of which is the fence. -/
inductive IsHeaderText : List Char → Prop where
  | nothing : IsHeaderText []
  | line {line rest : List Char} (unbroken : '\n' ∉ line) (other : line ≠ fence)
      (more : IsHeaderText rest) : IsHeaderText (line ++ '\n' :: rest)

/-- Whether a text is a header, a line that is the fence, and a body. -/
inductive IsClosed : List Char → List Char → List Char → Prop where
  | byLine {header : List Char} (body : List Char) (lines : IsHeaderText header) :
      IsClosed (header ++ fence ++ '\n' :: body) header body
  | byEnd {header : List Char} (lines : IsHeaderText header) :
      IsClosed (header ++ fence) header []

/-- Whether a text is a fence line and then a header, a line that is the fence, and a body. -/
def HasLayout (text header body : List Char) : Prop :=
  ∃ rest, text = fence ++ '\n' :: rest ∧ IsClosed rest header body

/-- Whether a content is a body less a line feed at its start and one at its end, each if it is
there. -/
def IsContentOf (content body : List Char) : Prop :=
  ∃ lead trail, body = lead ++ content ++ trail ∧
    (lead = ['\n'] ∨ lead = [] ∧ body.head? ≠ some '\n') ∧
    (trail = ['\n'] ∨ trail = [] ∧ content.getLast? ≠ some '\n')

theorem IsClosed.line {line rest header body : List Char} (unbroken : '\n' ∉ line)
    (other : line ≠ fence) (closed : IsClosed rest header body) :
    IsClosed (line ++ '\n' :: rest) (line ++ '\n' :: header) body := by
  cases closed with
  | byLine body lines => simpa using IsClosed.byLine body (lines.line unbroken other)
  | byEnd lines => simpa using IsClosed.byEnd (lines.line unbroken other)

theorem splitAtFence?_last {line text : List Char} (unbroken : '\n' ∉ text) :
    splitAtFence? line text = if line ++ text = fence then some ([], []) else none := by
  induction text generalizing line with
  | nil => simp [splitAtFence?]
  | cons character text ih =>
      simp only [List.mem_cons, not_or] at unbroken
      have inside : character ≠ '\n' := fun isFeed => unbroken.1 isFeed.symm
      rw [splitAtFence?, if_neg inside, ih unbroken.2]
      simp

theorem splitAtFence?_header {header : List Char} (lines : IsHeaderText header)
    (rest : List Char) :
    splitAtFence? [] (header ++ rest) =
      (splitAtFence? [] rest).map fun (before, after) => (header ++ before, after) := by
  induction lines with
  | nothing => simp
  | @line first others unbroken other more ih =>
      have line := @splitAtFence?_line [] first unbroken (by simpa using other) (others ++ rest)
      rw [List.append_assoc, List.cons_append, line, ih, Option.map_map]
      simp [Function.comp_def]

theorem splitAtFence?_of_isClosed {text header body : List Char}
    (closed : IsClosed text header body) : splitAtFence? [] text = some (header, body) := by
  cases closed with
  | byLine body lines =>
      rw [List.append_assoc, splitAtFence?_header lines, splitAtFence?_fence]
      simp
  | byEnd lines =>
      rw [splitAtFence?_header lines, splitAtFence?_last (by decide)]
      simp

/-- A text is closed somewhere, or none of its lines is the fence. -/
theorem splitAtFence?_cases (text : List Char) :
    (∃ header body, IsClosed text header body ∧ fence ∈ text.splitOn '\n') ∨
      (splitAtFence? [] text = none ∧ fence ∉ text.splitOn '\n') := by
  induction text using line_induction with
  | last line unbroken =>
      rw [List.splitOn_eq_singleton unbroken, List.mem_singleton]
      by_cases isFence : line = fence
      · left
        rw [isFence]
        exact ⟨[], [], IsClosed.byEnd .nothing, rfl⟩
      · right
        refine ⟨?_, Ne.symm isFence⟩
        rw [splitAtFence?_last unbroken, List.nil_append, if_neg isFence]
  | more line rest unbroken ih =>
      rw [List.splitOn_append_cons_self_of_not_mem unbroken, List.mem_cons]
      by_cases isFence : line = fence
      · left
        rw [isFence]
        exact ⟨[], rest, IsClosed.byLine rest .nothing, .inl rfl⟩
      · rcases ih with ⟨header, body, closed, present⟩ | ⟨unclosed, absent⟩
        · exact .inl ⟨_, body, closed.line unbroken isFence, .inr present⟩
        · right
          constructor
          · rw [splitAtFence?_line unbroken (by simpa using isFence), unclosed, Option.map_none]
          · rintro (isFirst | present)
            · exact isFence isFirst.symm
            · exact absent present

theorem splitAtFence?_eq_some_iff {text header body : List Char} :
    splitAtFence? [] text = some (header, body) ↔ IsClosed text header body := by
  refine ⟨?_, splitAtFence?_of_isClosed⟩
  intro found
  rcases splitAtFence?_cases text with ⟨header', body', closed, -⟩ | ⟨unclosed, -⟩
  · rw [splitAtFence?_of_isClosed closed] at found
    cases found
    exact closed
  · rw [unclosed] at found
    cases found

theorem splitAtFence?_eq_none_iff {text : List Char} :
    splitAtFence? [] text = none ↔ fence ∉ text.splitOn '\n' := by
  rcases splitAtFence?_cases text with ⟨header, body, closed, present⟩ | ⟨unclosed, absent⟩
  · simp [splitAtFence?_of_isClosed closed, present]
  · simp [unclosed, absent]

section Split

variable {text : List Char}

theorem split_of_not_opened (other : ¬fence ++ ['\n'] <+: normalizeNewlines text) :
    split text = .error .missingHeader := by
  rcases found : after? (fence ++ ['\n']) (normalizeNewlines text) with _ | rest
  · simp [split, found]
  · exact absurd ⟨rest, (eq_append_of_after? found).symm⟩ other

theorem split_of_opened {rest : List Char}
    (opened : normalizeNewlines text = fence ++ '\n' :: rest) :
    split text = (splitAtFence? [] rest).elim (.error .unclosedHeader) .ok := by
  have found : after? (fence ++ ['\n']) (normalizeNewlines text) = some rest := by
    rw [opened, ← List.singleton_append, ← List.append_assoc]
    exact after?_append _ _
  rcases closing : splitAtFence? [] rest with _ | parts <;> simp [split, found, closing]

theorem opened_iff :
    fence ++ ['\n'] <+: normalizeNewlines text ↔
      ∃ rest, normalizeNewlines text = fence ++ '\n' :: rest := by
  constructor
  · rintro ⟨rest, shape⟩
    exact ⟨rest, by rw [← shape, List.append_assoc, List.singleton_append]⟩
  · rintro ⟨rest, shape⟩
    exact ⟨rest, by rw [shape, List.append_assoc, List.singleton_append]⟩

/-- A text does not begin with a fence line, or no later line is the fence, or it is taken apart at
the first one that is. -/
theorem split_cases (text : List Char) :
    (¬fence ++ ['\n'] <+: normalizeNewlines text ∧ split text = .error .missingHeader) ∨
      (∃ rest, normalizeNewlines text = fence ++ '\n' :: rest ∧ fence ∉ rest.splitOn '\n' ∧
        split text = .error .unclosedHeader) ∨
      ∃ header body, HasLayout (normalizeNewlines text) header body ∧
        split text = .ok (header, body) := by
  by_cases isOpened : fence ++ ['\n'] <+: normalizeNewlines text
  · rcases opened_iff.mp isOpened with ⟨rest, opened⟩
    have parted := split_of_opened opened
    rcases found : splitAtFence? [] rest with _ | ⟨header, body⟩
    · rw [found, Option.elim_none] at parted
      exact .inr (.inl ⟨rest, opened, splitAtFence?_eq_none_iff.mp found, parted⟩)
    · rw [found, Option.elim_some] at parted
      exact .inr (.inr ⟨header, body, ⟨rest, opened, splitAtFence?_eq_some_iff.mp found⟩, parted⟩)
  · exact .inl ⟨isOpened, split_of_not_opened isOpened⟩

theorem split_eq_missingHeader_iff :
    split text = .error .missingHeader ↔ ¬fence ++ ['\n'] <+: normalizeNewlines text := by
  refine ⟨?_, split_of_not_opened⟩
  intro failed
  rcases split_cases text with ⟨notOpened, -⟩ | ⟨_, -, -, other⟩ | ⟨_, _, -, other⟩
  · exact notOpened
  · cases failed.symm.trans other
  · cases failed.symm.trans other

theorem split_eq_unclosedHeader_iff :
    split text = .error .unclosedHeader ↔
      ∃ rest, normalizeNewlines text = fence ++ '\n' :: rest ∧ fence ∉ rest.splitOn '\n' := by
  constructor
  · intro failed
    rcases split_cases text with ⟨-, other⟩ | ⟨rest, opened, absent, -⟩ | ⟨_, _, -, other⟩
    · cases failed.symm.trans other
    · exact ⟨rest, opened, absent⟩
    · cases failed.symm.trans other
  · rintro ⟨rest, opened, absent⟩
    rw [split_of_opened opened, splitAtFence?_eq_none_iff.mpr absent]
    rfl

theorem split_eq_ok_iff {header body : List Char} :
    split text = .ok (header, body) ↔ HasLayout (normalizeNewlines text) header body := by
  constructor
  · intro parted
    rcases split_cases text with ⟨-, other⟩ | ⟨_, -, -, other⟩ | ⟨_, _, layout, same⟩
    · cases parted.symm.trans other
    · cases parted.symm.trans other
    · cases parted.symm.trans same
      exact layout
  · rintro ⟨rest, opened, closed⟩
    rw [split_of_opened opened, splitAtFence?_of_isClosed closed]
    rfl

theorem split_ne_invalidHeader : split text ≠ .error .invalidHeader := by
  rcases split_cases text with ⟨-, found⟩ | ⟨_, -, -, found⟩ | ⟨_, _, -, found⟩ <;> simp [found]

/-- A text that is opened and closed can be taken apart in one way. -/
theorem existsUnique_layout {rest : List Char}
    (opened : normalizeNewlines text = fence ++ '\n' :: rest)
    (present : fence ∈ rest.splitOn '\n') :
    ∃! parts : List Char × List Char, HasLayout (normalizeNewlines text) parts.1 parts.2 := by
  rcases splitAtFence?_cases rest with ⟨header, body, closed, -⟩ | ⟨-, absent⟩
  · have layout : HasLayout (normalizeNewlines text) header body := ⟨rest, opened, closed⟩
    refine ⟨(header, body), layout, ?_⟩
    rintro ⟨other, behind⟩ another
    have same := (split_eq_ok_iff.mpr another).symm.trans (split_eq_ok_iff.mpr layout)
    exact Except.ok.inj same
  · exact absurd present absent

end Split

theorem withoutEnding_lineFeed {content trail : List Char}
    (ends : trail = ['\n'] ∨ trail = [] ∧ content.getLast? ≠ some '\n') :
    withoutEnding ['\n'] (content ++ trail) = content := by
  rcases ends with rfl | ⟨rfl, other⟩
  · exact withoutEnding_append content ['\n']
  · rw [List.append_nil]
    rcases List.eq_nil_or_concat content with rfl | ⟨front, last, rfl⟩
    · rfl
    · have different : '\n' ≠ last := by
        rintro rfl
        simp at other
      simp [withoutEnding, after?, different]

theorem isContentOf_contentOf (body : List Char) : IsContentOf (contentOf body) body := by
  have behind : ∀ text : List Char, ∃ trail, text = withoutEnding ['\n'] text ++ trail ∧
      (trail = ['\n'] ∨ trail = [] ∧ (withoutEnding ['\n'] text).getLast? ≠ some '\n') := by
    intro text
    by_cases ends : text.getLast? = some '\n'
    · rcases List.getLast?_eq_some_iff.mp ends with ⟨front, rfl⟩
      exact ⟨['\n'], by rw [withoutEnding_append], .inl rfl⟩
    · have kept : withoutEnding ['\n'] (text ++ []) = text :=
        withoutEnding_lineFeed (.inr ⟨rfl, ends⟩)
      rw [List.append_nil] at kept
      exact ⟨[], by rw [kept, List.append_nil], .inr ⟨rfl, by rwa [kept]⟩⟩
  by_cases starts : body.head? = some '\n'
  · rcases List.head?_eq_some_iff.mp starts with ⟨rest, rfl⟩
    rcases behind rest with ⟨trail, shape, ends⟩
    have content : contentOf ('\n' :: rest) = withoutEnding ['\n'] rest := by simp [contentOf]
    rw [content]
    refine ⟨['\n'], trail, ?_, .inl rfl, ends⟩
    rw [List.append_assoc, ← shape, List.singleton_append]
  · rcases behind body with ⟨trail, shape, ends⟩
    have content : contentOf body = withoutEnding ['\n'] body := by simp [contentOf, starts]
    rw [content]
    exact ⟨[], trail, by rw [List.nil_append, ← shape], .inr ⟨rfl, starts⟩, ends⟩

theorem isContentOf_iff {content body : List Char} :
    IsContentOf content body ↔ contentOf body = content := by
  constructor
  · rintro ⟨lead, trail, shape, starts, ends⟩
    rcases starts with rfl | ⟨rfl, other⟩
    · simpa [shape, contentOf] using withoutEnding_lineFeed ends
    · rw [contentOf, if_neg other, shape]
      exact withoutEnding_lineFeed ends
  · rintro rfl
    exact isContentOf_contentOf body

section Read

variable {text : String}

theorem ofParts_of_header {header : List Char} {fields : Header}
    (isHeader : Header.read? header = some fields) (body : List Char) :
    ofParts (header, body) = .ok ⟨fields.symbol, fields.slug, fields.created, fields.updated,
      String.ofList (contentOf body)⟩ := by
  rw [ofParts, isHeader]

theorem ofParts_of_no_header {header : List Char} (noHeader : Header.read? header = none)
    (body : List Char) : ofParts (header, body) = .error .invalidHeader := by
  rw [ofParts, noHeader]

theorem read_eq_error_iff {problem : DocumentError} (early : problem ≠ .invalidHeader) :
    read text = .error problem ↔ split text.toList = .error problem := by
  rw [read]
  rcases split text.toList with failure | ⟨header, body⟩
  · simp [Except.bind]
  · rcases isHeader : Header.read? header with _ | fields
    · simp [Except.bind, ofParts_of_no_header isHeader, early.symm]
    · simp [Except.bind, ofParts_of_header isHeader]

theorem read_eq_invalidHeader_iff :
    read text = .error .invalidHeader ↔
      ∃ header body, HasLayout (normalizeNewlines text.toList) header body ∧
        Header.read? header = none := by
  constructor
  · intro failed
    rw [read] at failed
    rcases parted : split text.toList with failure | ⟨header, body⟩
    · rw [parted] at failed
      cases failed
      exact absurd parted split_ne_invalidHeader
    · refine ⟨header, body, split_eq_ok_iff.mp parted, ?_⟩
      rcases isHeader : Header.read? header with _ | fields
      · rfl
      · simp [parted, Except.bind, ofParts_of_header isHeader] at failed
  · rintro ⟨header, body, layout, noHeader⟩
    rw [read, split_eq_ok_iff.mpr layout]
    exact ofParts_of_no_header noHeader body

theorem read_eq_ok_iff {parsed : Document} :
    read text = .ok parsed ↔
      ∃ header body, HasLayout (normalizeNewlines text.toList) header body ∧
        Header.read? header = some parsed.header ∧ IsContentOf parsed.content.toList body := by
  constructor
  · intro accepted
    rw [read] at accepted
    rcases parted : split text.toList with failure | ⟨header, body⟩
    · rw [parted] at accepted
      cases accepted
    · rw [parted] at accepted
      refine ⟨header, body, split_eq_ok_iff.mp parted, ?_⟩
      rcases isHeader : Header.read? header with _ | fields
      · simp [Except.bind, ofParts_of_no_header isHeader] at accepted
      · simp only [Except.bind, ofParts_of_header isHeader, Except.ok.injEq] at accepted
        subst accepted
        exact ⟨rfl, isContentOf_iff.mpr String.toList_ofList.symm⟩
  · rintro ⟨header, body, layout, isHeader, isContent⟩
    rw [read, split_eq_ok_iff.mpr layout]
    have parts := ofParts_of_header isHeader body
    rw [isContentOf_iff.mp isContent, String.ofList_toList] at parts
    exact parts

theorem read_pairNewlines (clear : '\r' ∉ text.toList) :
    read (String.ofList (pairNewlines text.toList)) = read text := by
  rw [read, read, split, split, String.toList_ofList, normalizeNewlines_pairNewlines clear,
    normalizeNewlines_of_clear clear]

end Read

/-- The reader accepts exactly the layout of documents. With every carriage return before a line
feed removed, a text does not begin with a fence line, or it does and no later line is the fence,
or it is a fence line, a header, a fence and a body in exactly one way; then it is refused if the
header is none and otherwise read as the header's fields with the content of the body. A text
without carriage returns is read as the same text with one before each line feed. -/
theorem read_accepts_layout (text : String) :
    (read text = .error .missingHeader ↔
        ¬fence ++ ['\n'] <+: normalizeNewlines text.toList) ∧
      (read text = .error .unclosedHeader ↔
        ∃ rest, normalizeNewlines text.toList = fence ++ '\n' :: rest ∧
          fence ∉ rest.splitOn '\n') ∧
      (∀ rest, normalizeNewlines text.toList = fence ++ '\n' :: rest →
        fence ∈ rest.splitOn '\n' →
        ∃! parts : List Char × List Char,
          HasLayout (normalizeNewlines text.toList) parts.1 parts.2) ∧
      (read text = .error .invalidHeader ↔
        ∃ header body, HasLayout (normalizeNewlines text.toList) header body ∧
          Header.read? header = none) ∧
      (∀ parsed, read text = .ok parsed ↔
        ∃ header body, HasLayout (normalizeNewlines text.toList) header body ∧
          Header.read? header = some parsed.header ∧
          IsContentOf parsed.content.toList body) ∧
      ('\r' ∉ text.toList → read (String.ofList (pairNewlines text.toList)) = read text) := by
  refine ⟨?_, ?_, ?_, read_eq_invalidHeader_iff, fun _ => read_eq_ok_iff, read_pairNewlines⟩
  · rw [read_eq_error_iff (by decide), split_eq_missingHeader_iff]
  · rw [read_eq_error_iff (by decide), split_eq_unclosedHeader_iff]
  · intro rest opened present
    exact existsUnique_layout opened present

/-- A header between fences with a body that is one more fence, in either ending of lines. -/
theorem read_accepts_layout_of_pairs :
    let header :=
      "symbol: 🔄\nslug: 'on'\ncreated: 2026-10-19T10:00:00Z\nupdated: 2026-10-19T10:00:00Z\n"
    let text := "---\n" ++ header ++ "---\n\n---\n"
    let time : Timestamp := ⟨⟨2026, 10, 19, by decide⟩, 10, 0, 0, 0, by decide, by decide⟩
    '\r' ∉ text.toList ∧
      (∃! parts : List Char × List Char,
        HasLayout (normalizeNewlines text.toList) parts.1 parts.2) ∧
      read (String.ofList (pairNewlines text.toList)) =
        .ok ⟨.pattern, ⟨"on", by decide⟩, time, time, "---"⟩ := by
  intro header text time
  have laws := read_accepts_layout text
  have clear : '\r' ∉ text.toList := by decide +kernel
  have opened : normalizeNewlines text.toList =
      fence ++ '\n' :: (header ++ "---\n\n---\n").toList := by
    decide +kernel
  have present : fence ∈ (header ++ "---\n\n---\n").toList.splitOn '\n' := by decide +kernel
  have isRead : read text = .ok ⟨.pattern, ⟨"on", by decide⟩, time, time, "---"⟩ := by
    decide +kernel
  refine ⟨clear, laws.2.2.1 _ opened present, ?_⟩
  rw [laws.2.2.2.2.2 clear, isRead]

end Document

end MemoryKeeper
