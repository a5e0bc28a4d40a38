import MemoryKeeper.Proofs.HeaderTokens
import MemoryKeeper.Proofs.Timestamps

/-!
# Headers read back

A written header is read as the same header. Its four values are a glyph, a slug
and two timestamps. None of them separates words or ends a line, and a slug that
could be taken for something else stands in quotes, so every value comes back as
the text that was written.
-/

namespace MemoryKeeper

open MemoryKeeper.Yaml

/-- The characters of written timestamps. -/
def isTimeChar (character : Char) : Bool :=
  character.isDigit || ['-', '+', 'T', ':', '.', 'Z'].contains character

theorem isOpener_of_isSlugChar {character : Char} (member : isSlugChar character) :
    isOpener character := by
  have solid : separators.contains character = false :=
    contains_eq_false_of_class (by decide) member
  have other : (indicators ++ ['?', ':', byteOrderMark]).contains character = false :=
    contains_eq_false_of_class (by decide) member
  simp only [isOpener, isSolid, solid, other, Bool.not_false, Bool.and_self]

theorem isSolid_of_isTimeChar {character : Char} (member : isTimeChar character) :
    isSolid character := by
  have solid : separators.contains character = false :=
    contains_eq_false_of_class (by decide) member
  simp only [isSolid, solid, Bool.not_false]

/-- The printable ASCII characters. -/
def isPrintable (character : Char) : Bool :=
  ' ' ≤ character && character ≤ '~'

theorem isAllowed_of_isPrintable {character : Char} (printable : isPrintable character) :
    isAllowed character := by
  simp only [isPrintable, Bool.and_eq_true, decide_eq_true_eq] at printable
  rcases printable with ⟨least, greatest⟩
  change 32 ≤ character.toNat at least
  change character.toNat ≤ 126 at greatest
  simp [isAllowed, least, greatest]

theorem isPrintable_of_isDigit {character : Char} (digit : character.isDigit) :
    isPrintable character := by
  simp only [Char.isDigit, Bool.and_eq_true, decide_eq_true_eq] at digit
  rcases digit with ⟨least, greatest⟩
  change 48 ≤ character.toNat at least
  change character.toNat ≤ 57 at greatest
  simp only [isPrintable, Bool.and_eq_true, decide_eq_true_eq]
  refine ⟨?_, ?_⟩
  · change 32 ≤ character.toNat
    omega
  · change character.toNat ≤ 126
    omega

theorem isPrintable_of_isSlugChar {character : Char} (member : isSlugChar character) :
    isPrintable character := by
  simp only [isSlugChar, Bool.or_eq_true, Bool.and_eq_true, decide_eq_true_eq] at member
  rcases member with (⟨least, greatest⟩ | digit) | rfl
  · simp only [isPrintable, Bool.and_eq_true, decide_eq_true_eq]
    exact ⟨Char.le_trans (by decide) least, Char.le_trans greatest (by decide)⟩
  · exact isPrintable_of_isDigit digit
  · decide

theorem isPrintable_of_isTimeChar {character : Char} (member : isTimeChar character) :
    isPrintable character := by
  simp only [isTimeChar, Bool.or_eq_true, List.contains_iff_mem] at member
  rcases member with digit | mark
  · exact isPrintable_of_isDigit digit
  · have printable : ['-', '+', 'T', ':', '.', 'Z'].all isPrintable := by decide
    exact List.all_eq_true.mp printable character mark

namespace Timestamp

theorem isTimeChar_of_mem_padded {width value : Nat} {character : Char}
    (present : character ∈ padded width value) : isTimeChar character := by
  simp [isTimeChar, isDigit_of_mem_padded present]

theorem isTimeChar_of_mem_yearText {year : Int} {character : Char}
    (present : character ∈ yearText year) : isTimeChar character := by
  unfold yearText at present
  split at present
  · exact isTimeChar_of_mem_padded present
  · rcases List.mem_cons.mp present with rfl | digit
    · split <;> decide
    · exact isTimeChar_of_mem_padded digit

theorem isTimeChar_of_mem_fractionText {nanosecond : Nat} {character : Char}
    (present : character ∈ fractionText nanosecond) : isTimeChar character := by
  have behindPoint : ∀ {width value}, character ∈ '.' :: padded width value →
      isTimeChar character := by
    intro width value inside
    rcases List.mem_cons.mp inside with rfl | digit
    · decide
    · exact isTimeChar_of_mem_padded digit
  unfold fractionText at present
  split at present
  · simp at present
  · split at present
    · exact behindPoint present
    · split at present <;> exact behindPoint present

theorem isTimeChar_of_mem_dataText {timestamp : Timestamp} {character : Char}
    (present : character ∈ timestamp.dataText.toList) : isTimeChar character := by
  simp only [dataText, localText, String.toList_ofList, List.append_assoc, List.cons_append,
    List.mem_append, List.mem_cons, List.not_mem_nil, or_false] at present
  rcases present with year | rfl | month | rfl | day | rfl | hour | rfl | minute | rfl | second |
    fraction | rfl
  · exact isTimeChar_of_mem_yearText year
  · decide
  · exact isTimeChar_of_mem_padded month
  · decide
  · exact isTimeChar_of_mem_padded day
  · decide
  · exact isTimeChar_of_mem_padded hour
  · decide
  · exact isTimeChar_of_mem_padded minute
  · decide
  · exact isTimeChar_of_mem_padded second
  · exact isTimeChar_of_mem_fractionText fraction
  · decide

theorem exists_cons_yearText (year : Int) :
    ∃ first rest, yearText year = first :: rest ∧ isOpener first ∧ (first = '-' → rest ≠ []) := by
  unfold yearText
  split
  · rcases List.exists_cons_of_ne_nil (padded_ne_nil 4 year.toNat) with ⟨first, rest, shape⟩
    have present : first ∈ padded 4 year.toNat := by simp [shape]
    have digit : first.isDigit := isDigit_of_mem_padded present
    have member : isSlugChar first := by simp [isSlugChar, digit]
    refine ⟨first, rest, shape, isOpener_of_isSlugChar member, ?_⟩
    rintro rfl
    exact absurd digit (by decide)
  · refine ⟨_, _, rfl, ?_, ?_⟩
    · split <;> decide
    · intro _
      exact padded_ne_nil 4 year.natAbs

theorem isPlainValue_dataText (timestamp : Timestamp) :
    IsPlainValue timestamp.dataText.toList := by
  refine ⟨?_, ?_, ?_⟩
  · intro _ present
    exact isSolid_of_isTimeChar (isTimeChar_of_mem_dataText present)
  · rcases exists_cons_yearText timestamp.date.year with ⟨first, rest, shape, opener, dash⟩
    simp only [dataText, localText, String.toList_ofList, shape, List.append_assoc,
      List.cons_append]
    refine ⟨first, _, rfl, opener, ?_⟩
    intro isDash
    simp [dash isDash]
  · simp [dataText]

end Timestamp

namespace Header

theorem isPlainValue_glyph (symbol : Symbol) : IsPlainValue symbol.glyph.toList := by
  refine ⟨List.all_eq_true.mp ?_, ⟨symbol.glyphChar, [], ?_, ?_, ?_⟩, ?_⟩
  · cases symbol <;> decide
  · cases symbol <;> decide
  · cases symbol <;> decide
  · cases symbol <;> decide
  · cases symbol <;> decide

theorem isWritten_slugText (slug : Slug) : IsWritten slug.text.toList (slugText slug) := by
  have wellFormed := slug.wellFormed
  simp only [isSlug, Bool.and_eq_true, Bool.not_eq_true', List.isEmpty_eq_false_iff,
    List.all_eq_true] at wellFormed
  rcases wellFormed with ⟨nonempty, slugChars⟩
  simp only [slugText]
  split
  · apply IsWritten.quoted
    intro character present
    have member := slugChars character present
    refine ⟨isSolid_of_isOpener (isOpener_of_isSlugChar member), ?_⟩
    rintro rfl
    exact absurd member (by decide)
  · next unquoted =>
      rcases List.exists_cons_of_ne_nil nonempty with ⟨first, rest, shape⟩
      refine .plain ⟨?_, ⟨first, rest, shape, ?_, ?_⟩, ?_⟩
      · intro character present
        exact isSolid_of_isOpener (isOpener_of_isSlugChar (slugChars character present))
      · exact isOpener_of_isSlugChar (slugChars first (by simp [shape]))
      · rintro rfl rfl
        simp [needsQuotes, shape] at unquoted
      · intro last
        exact absurd (slugChars ':' (List.mem_of_getLast? last)) (by decide)

/-- The lines of a header: each key with its value and the value's written form. -/
def lines (header : Header) : List (String × String × List Char) :=
  [("symbol", header.symbol.glyph, header.symbol.glyph.toList),
    ("slug", header.slug.text, slugText header.slug),
    ("created", header.created.dataText, header.created.dataText.toList),
    ("updated", header.updated.dataText, header.updated.dataText.toList)]

/-- The texts of a header's fields, in the order of its lines. -/
def fields (header : Header) : List (String × String) :=
  header.lines.map fun (key, value, _) => (key, value)

theorem render_eq_flatMap (header : Header) :
    header.render = header.lines.flatMap fun (key, _, written) => line key written := by
  simp [render, lines]

theorem isKey_lines (header : Header) : ∀ line ∈ header.lines, IsKey line.1.toList := by
  simp only [lines, List.forall_mem_cons, List.not_mem_nil, false_imp_iff, implies_true, and_true]
  refine ⟨?_, ?_, ?_, ?_⟩ <;> exact ⟨by decide, List.all_eq_true.mp (by decide), by decide⟩

theorem isWritten_lines (header : Header) :
    ∀ line ∈ header.lines, IsWritten line.2.1.toList line.2.2 := by
  simp only [lines, List.forall_mem_cons, List.not_mem_nil, false_imp_iff, implies_true, and_true]
  refine ⟨?_, ?_, ?_, ?_⟩
  · exact .plain (isPlainValue_glyph header.symbol)
  · exact isWritten_slugText header.slug
  · exact .plain (Timestamp.isPlainValue_dataText header.created)
  · exact .plain (Timestamp.isPlainValue_dataText header.updated)

/-- The written form of a list of lines. -/
def written (lines : List (String × String × List Char)) : List Char :=
  lines.flatMap fun (key, _, written) => line key written

/-- The tokens of a line behind the start of the mapping. -/
def entryTokens (line : String × String × List Char) : List Yaml.Token :=
  [.key, .scalar line.1, .value, .scalar line.2.1]

theorem reverse_lineTokens (indent : Option Nat) (key value : String) :
    (Scan.lineTokens indent key.toList value.toList).reverse =
      Scan.opening indent ++ [.key, .scalar key, .value, .scalar value] := by
  simp only [Scan.lineTokens, String.ofList_toList, List.reverse_cons, List.append_assoc,
    List.cons_append, List.nil_append]
  congr 1
  unfold Scan.opening
  split <;> rfl

theorem beginsLine_written {lines : List (String × String × List Char)}
    (keys : ∀ line ∈ lines, IsKey line.1.toList) : BeginsLine (written lines) := by
  cases lines with
  | nil => simp [BeginsLine, written]
  | cons first rest =>
      have isKey := keys first (by simp)
      rcases List.exists_cons_of_ne_nil isKey.nonempty with ⟨letter, tail, shape⟩
      intro character head
      have isHead : letter = character := by simpa [written, line, shape] using head
      exact isKey.letters character (by simp [shape, isHead])

/-- The tokens of the lines that are left follow those that were found before them. -/
theorem run?_written {lines : List (String × String × List Char)} {scan : Scan}
    {indent : Option Nat} {settled recent : List Yaml.Token}
    (keys : ∀ line ∈ lines, IsKey line.1.toList)
    (values : ∀ line ∈ lines, IsWritten line.2.1.toList line.2.2)
    (approaches : scan.Approaches indent settled recent (written lines))
    (flat : indent = none ∧ lines ≠ [] ∨ indent = some 0) :
    scan.run? = some ((recent ++ settled).reverse ++ Scan.opening indent ++
      lines.flatMap entryTokens ++ [.blockEnd]) := by
  induction lines generalizing scan indent settled recent with
  | nil =>
      have isOpen : indent = some 0 := by simpa using flat
      subst isOpen
      rw [Scan.run?_end approaches]
      simp [Scan.opening]
  | cons first rest ih =>
      have laterKeys : ∀ line ∈ rest, IsKey line.1.toList := by
        intro line present
        exact keys line (by simp [present])
      have laterValues : ∀ line ∈ rest, IsWritten line.2.1.toList line.2.2 := by
        intro line present
        exact values line (by simp [present])
      have text : written (first :: rest) =
          first.1.toList ++ ':' :: ' ' :: first.2.2 ++ '\n' :: written rest := by
        simp [written, line]
      rw [text] at approaches
      rcases Scan.run?_line approaches (keys first (by simp)) (values first (by simp))
        (beginsLine_written laterKeys) (flat.imp_left And.left) with ⟨next, ready, same⟩
      rw [same, ih laterKeys laterValues ready (Or.inr rfl)]
      simp only [List.reverse_append, reverse_lineTokens, List.flatMap_cons, entryTokens]
      simp [Scan.opening]

theorem isAllowed_slugText {slug : Slug} {character : Char}
    (present : character ∈ slugText slug) : isAllowed character := by
  have wellFormed := slug.wellFormed
  simp only [isSlug, Bool.and_eq_true, List.all_eq_true] at wellFormed
  have inSlug : ∀ found ∈ slug.text.toList, isAllowed found := by
    intro found inside
    exact isAllowed_of_isPrintable (isPrintable_of_isSlugChar (wellFormed.2 found inside))
  simp only [slugText] at present
  split at present
  · simp only [List.cons_append, List.mem_cons, List.mem_append, List.not_mem_nil,
      or_false] at present
    rcases present with rfl | inside | rfl
    · decide
    · exact inSlug character inside
    · decide
  · exact inSlug character present

theorem isAllowed_lines (header : Header) :
    ∀ line ∈ header.lines, ∀ character ∈ line.2.2, isAllowed character := by
  have inTime : ∀ {timestamp : Timestamp}, ∀ character ∈ timestamp.dataText.toList,
      isAllowed character := by
    intro timestamp character found
    exact isAllowed_of_isPrintable
      (isPrintable_of_isTimeChar (Timestamp.isTimeChar_of_mem_dataText found))
  simp only [lines, List.forall_mem_cons, List.not_mem_nil, false_imp_iff, implies_true, and_true]
  refine ⟨?_, ?_, inTime, inTime⟩
  · rw [← List.all_eq_true]
    cases header.symbol <;> decide
  · intro character present
    exact isAllowed_slugText present

theorem isAllowed_render (header : Header) : header.render.all isAllowed := by
  rw [List.all_eq_true]
  intro character present
  rw [render_eq_flatMap, List.mem_flatMap] at present
  rcases present with ⟨⟨key, value, written⟩, isLine, present⟩
  simp only [line, List.mem_append, List.mem_cons, List.not_mem_nil, or_false] at present
  rcases present with (inKey | rfl | rfl | inValue) | rfl
  · have letter := (isKey_lines header _ isLine).letters character inKey
    refine isAllowed_of_isPrintable (isPrintable_of_isSlugChar ?_)
    simp only [isKeyChar] at letter
    simp [isSlugChar, letter]
  · decide
  · decide
  · exact isAllowed_lines header _ isLine character inValue
  · decide

theorem tokens?_render (header : Header) :
    tokens? header.render =
      some (.blockStart :: header.lines.flatMap entryTokens ++ [.blockEnd]) := by
  have text : header.render = written header.lines := render_eq_flatMap header
  have starts : (Scan.start header.render).Approaches none [] [] (written header.lines) := by
    rw [text]
    exact Scan.approaches_atLine (beginsLine_written (isKey_lines header)) (Or.inl rfl)
  simp only [tokens?, isAllowed_render, if_true]
  rw [run?_written (isKey_lines header) (isWritten_lines header) starts
    (Or.inl ⟨rfl, by simp [lines]⟩)]
  simp [Scan.opening]

theorem readMapping?_render (header : Header) :
    readMapping? header.render = some header.fields := by
  simp [readMapping?, tokens?_render, lines, fields, entryTokens, readDocument?, readDirectives?,
    readRoot?, splitProperties, Properties.isDeclared, readBlockEntries?, readBlockEntry?,
    readOptional?, endsBlockNode, readNode?, readValue?, Yaml.Document.texts?, Anchors.add,
    numberEntries?, Node.number?, Anchors.text?]

/-- A written header is read as itself, whatever its slug and its timestamps look like. -/
theorem read?_render (header : Header) : read? header.render = some header := by
  simp [read?, readMapping?_render, ofFields?, fields, lines, fieldCount, List.lookup_cons,
    Timestamp.readRelaxed?_dataText]

end Header

end MemoryKeeper
