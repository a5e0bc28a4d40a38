import MemoryKeeper.Document.Basic
import MemoryKeeper.Proofs.Headers
import MemoryKeeper.Proofs.Vocabulary

/-!
# Documents read back

The reading of a written document never fails and never changes the header. The
content comes back less the carriage returns that stood before a line feed, the
one that the document ends its text with included. So a document survives exactly
when its content holds no such pair and does not end in a carriage return.
-/

namespace MemoryKeeper

namespace Text

theorem after?_append (start rest : List Char) : after? start (start ++ rest) = some rest := by
  induction start with
  | nil => rfl
  | cons character start ih => simpa [after?] using ih

theorem eq_append_of_after? {start text rest : List Char} (found : after? start text = some rest) :
    text = start ++ rest := by
  induction start generalizing text with
  | nil => exact Option.some.inj found
  | cons character start ih =>
      cases text with
      | nil => cases found
      | cons first text =>
          rw [after?] at found
          split at found
          · next same => rw [same, ih found, List.cons_append]
          · cases found

theorem withoutEnding_append (text ending : List Char) :
    withoutEnding ending (text ++ ending) = text := by
  simp [withoutEnding, after?_append]

theorem normalizeNewlines_cons {character : Char} {rest : List Char}
    (noPair : ¬(character = '\r' ∧ rest.head? = some '\n')) :
    normalizeNewlines (character :: rest) = character :: normalizeNewlines rest := by
  rw [normalizeNewlines]
  rintro tail rfl rfl
  exact noPair ⟨rfl, rfl⟩

theorem normalizeNewlines_append {left : List Char} (clear : '\r' ∉ left) (right : List Char) :
    normalizeNewlines (left ++ right) = left ++ normalizeNewlines right := by
  induction left with
  | nil => rfl
  | cons character left ih =>
      simp only [List.mem_cons, not_or] at clear
      rw [List.cons_append, normalizeNewlines_cons (fun pair => clear.1 pair.1.symm),
        ih clear.2, List.cons_append]

theorem normalizeNewlines_ne_nil {text : List Char} (nonempty : text ≠ []) :
    normalizeNewlines text ≠ [] := by
  unfold normalizeNewlines
  split <;> simp_all

theorem dropCarriageReturn_cons {character : Char} {line : List Char} (nonempty : line ≠ []) :
    dropCarriageReturn (character :: line) = character :: dropCarriageReturn line := by
  rcases List.exists_cons_of_ne_nil nonempty with ⟨next, tail, rfl⟩
  simp only [dropCarriageReturn, List.getLast?_cons_cons, List.dropLast_cons_cons]
  split <;> rfl

/-- A line feed behind a text takes a carriage return at its end along. -/
theorem normalizeNewlines_append_lineFeed (text : List Char) :
    normalizeNewlines (text ++ ['\n']) = dropCarriageReturn (normalizeNewlines text) ++ ['\n'] := by
  fun_induction normalizeNewlines text with
  | case1 => simp [normalizeNewlines, dropCarriageReturn]
  | case2 rest ih =>
      have paired : normalizeNewlines ('\r' :: '\n' :: rest ++ ['\n']) =
          '\n' :: normalizeNewlines (rest ++ ['\n']) := by
        simp [normalizeNewlines]
      rw [paired, ih]
      cases shape : normalizeNewlines rest with
      | nil => simp [dropCarriageReturn]
      | cons next tail => simp [dropCarriageReturn_cons]
  | case3 character rest noPair ih =>
      by_cases last : rest = []
      · subst last
        by_cases carriageReturn : character = '\r'
        · simp [carriageReturn, normalizeNewlines, dropCarriageReturn]
        · rw [List.cons_append, normalizeNewlines_cons (by simp [carriageReturn])]
          simp [normalizeNewlines, dropCarriageReturn, carriageReturn]
      · have apart : ¬(character = '\r' ∧ (rest ++ ['\n']).head? = some '\n') := by
          rintro ⟨isReturn, head⟩
          rcases List.exists_cons_of_ne_nil last with ⟨next, tail, rfl⟩
          have isFeed : next = '\n' := by simpa using head
          exact noPair tail isReturn (by rw [isFeed])
        rw [List.cons_append, normalizeNewlines_cons apart, ih,
          dropCarriageReturn_cons (normalizeNewlines_ne_nil last), List.cons_append]

theorem length_normalizeNewlines_le (text : List Char) :
    (normalizeNewlines text).length ≤ text.length := by
  fun_induction normalizeNewlines text with
  | case1 => simp
  | case2 rest ih =>
      simp only [List.length_cons]
      omega
  | case3 character rest noPair ih => simpa using ih

/-- Only a text without a pair of a carriage return and a line feed stays as it is. -/
theorem normalizeNewlines_eq_self_iff (text : List Char) :
    normalizeNewlines text = text ↔ ¬['\r', '\n'] <:+: text := by
  fun_induction normalizeNewlines text with
  | case1 => simp
  | case2 rest ih =>
      have shorter := length_normalizeNewlines_le rest
      have pair : ['\r', '\n'] <:+: '\r' :: '\n' :: rest := ⟨[], rest, rfl⟩
      constructor
      · intro same
        have sameLength := congrArg List.length same
        simp only [List.length_cons] at sameLength
        omega
      · intro absent
        exact absurd pair absent
  | case3 character rest noPair ih =>
      have notHere : ¬['\r', '\n'] <+: character :: rest := by
        rintro ⟨tail, shape⟩
        injection shape with isReturn behind
        exact noPair tail isReturn.symm behind.symm
      simp [List.infix_cons_iff, notHere, ih]

theorem dropCarriageReturn_prefix (line : List Char) : dropCarriageReturn line <+: line := by
  unfold dropCarriageReturn
  split
  · exact List.dropLast_prefix line
  · exact List.prefix_refl line

theorem dropCarriageReturn_eq_self_iff (line : List Char) :
    dropCarriageReturn line = line ↔ line.getLast? ≠ some '\r' := by
  unfold dropCarriageReturn
  split
  · next ends =>
      constructor
      · intro same
        have sameLength := congrArg List.length same
        have nonempty : line ≠ [] := by
          rintro rfl
          simp at ends
        have positive := List.length_pos_iff.mpr nonempty
        simp only [List.length_dropLast] at sameLength
        omega
      · intro other
        exact absurd ends other
  · next other => simp [other]

end Text

namespace Document

open MemoryKeeper.Text MemoryKeeper.Yaml

/-- The content that a document has when it is read again. -/
def storedContent (content : String) : String :=
  String.ofList (dropCarriageReturn (normalizeNewlines content.toList))

/-- Whether a content is read as it was written. -/
def Survives (content : String) : Prop :=
  ¬['\r', '\n'] <:+: content.toList ∧ content.toList.getLast? ≠ some '\r'

/-- What a document is read as when it was written. -/
def stored (document : Document) : Document :=
  { document with content := storedContent document.content }

theorem storedContent_eq_self_iff (content : String) :
    storedContent content = content ↔ Survives content := by
  have asChars : storedContent content = content ↔
      dropCarriageReturn (normalizeNewlines content.toList) = content.toList := by
    rw [storedContent, ← String.toList_inj, String.toList_ofList]
  rw [asChars, Survives, ← normalizeNewlines_eq_self_iff,
    ← dropCarriageReturn_eq_self_iff]
  constructor
  · intro same
    -- Neither step adds a character, so neither took one away.
    have shorter := dropCarriageReturn_prefix (normalizeNewlines content.toList)
    have kept := shorter.eq_of_length_le
      (by rw [same]; exact length_normalizeNewlines_le content.toList)
    have normalized : normalizeNewlines content.toList = content.toList := kept.symm.trans same
    rw [normalized] at same
    exact ⟨normalized, same⟩
  · rintro ⟨normalized, kept⟩
    rw [normalized, kept]

theorem splitAtFence?_line {line text : List Char} (unbroken : '\n' ∉ text)
    (other : line ++ text ≠ fence) (rest : List Char) :
    splitAtFence? line (text ++ '\n' :: rest) =
      (splitAtFence? [] rest).map fun (before, after) =>
        (line ++ text ++ '\n' :: before, after) := by
  induction text generalizing line with
  | nil =>
      have notFence : line ≠ fence := by simpa using other
      simp [splitAtFence?, notFence]
  | cons character text ih =>
      simp only [List.mem_cons, not_or] at unbroken
      have inside : character ≠ '\n' := by
        intro isFeed
        exact unbroken.1 isFeed.symm
      rw [List.cons_append, splitAtFence?, if_neg inside, ih unbroken.2 (by simpa using other)]
      simp

theorem splitAtFence?_fence (rest : List Char) :
    splitAtFence? [] (fence ++ '\n' :: rest) = some ([], rest) := by
  simp [fence, splitAtFence?]

theorem isSolid_of_isWritten {value written : List Char} (isWritten : IsWritten value written) :
    ∀ character ∈ written, isSolid character := by
  cases isWritten with
  | plain isValue => exact isValue.solid
  | quoted isValue =>
      intro character present
      simp only [List.cons_append, List.mem_cons, List.mem_append, List.not_mem_nil,
        or_false] at present
      rcases present with rfl | inside | rfl
      · decide
      · exact (isValue character inside).1
      · decide

/-- No line of a header is the fence, because each begins with the letter of a key. -/
theorem splitAtFence?_written {lines : List (String × String × List Char)}
    (keys : ∀ line ∈ lines, IsKey line.1.toList)
    (values : ∀ line ∈ lines, IsWritten line.2.1.toList line.2.2) (rest : List Char) :
    splitAtFence? [] (Header.written lines ++ fence ++ '\n' :: rest) =
      some (Header.written lines, rest) := by
  induction lines with
  | nil => simpa [Header.written] using splitAtFence?_fence rest
  | cons first lines ih =>
      rcases first with ⟨key, value, written⟩
      have isKey : IsKey key.toList := keys (key, value, written) (by simp)
      have isWritten : IsWritten value.toList written := values (key, value, written) (by simp)
      have unbroken : '\n' ∉ key.toList ++ ':' :: ' ' :: written := by
        intro present
        simp only [List.mem_append, List.mem_cons, Char.reduceEq, false_or] at present
        rcases present with inKey | inValue
        · exact absurd (isKey.letters '\n' inKey) (by decide)
        · exact absurd (isSolid_of_isWritten isWritten '\n' inValue) (by decide)
      have other : [] ++ (key.toList ++ ':' :: ' ' :: written) ≠ fence := by
        rcases List.exists_cons_of_ne_nil isKey.nonempty with ⟨letter, tail, shape⟩
        intro same
        simp only [shape, fence, List.nil_append, List.cons_append, List.cons.injEq] at same
        have isLetter := isKey.letters letter (by simp [shape])
        rw [same.1] at isLetter
        exact absurd isLetter (by decide)
      have later := ih (fun line present => keys line (by simp [present]))
        (fun line present => values line (by simp [present]))
      have text : Header.written ((key, value, written) :: lines) ++ fence ++ '\n' :: rest =
          (key.toList ++ ':' :: ' ' :: written) ++
            '\n' :: (Header.written lines ++ fence ++ '\n' :: rest) := by
        simp [Header.written, Header.line]
      rw [text, splitAtFence?_line unbroken other, later]
      simp [Header.written, Header.line]

theorem carriageReturn_notMem_render (header : Header) : '\r' ∉ header.render := by
  rw [Header.render_eq_flatMap, List.mem_flatMap]
  rintro ⟨⟨key, value, written⟩, isLine, present⟩
  simp only [Header.line, List.mem_append, List.mem_cons, Char.reduceEq, List.not_mem_nil,
    false_or, or_false] at present
  rcases present with inKey | inValue
  · exact absurd ((Header.isKey_lines header _ isLine).letters '\r' inKey) (by decide)
  · have solid := isSolid_of_isWritten (Header.isWritten_lines header _ isLine)
    exact absurd (solid '\r' inValue) (by decide)

theorem split_renderChars (document : Document) :
    split document.renderChars =
      .ok (document.header.render, '\n' :: (storedContent document.content).toList ++ ['\n']) := by
  have clear : '\r' ∉ fence ++ '\n' :: document.header.render ++ fence ++ ['\n', '\n'] := by
    simp [fence, carriageReturn_notMem_render]
  have text : document.renderChars =
      (fence ++ '\n' :: document.header.render ++ fence ++ ['\n', '\n']) ++
        (document.content.toList ++ ['\n']) := by
    simp [renderChars]
  have body : normalizeNewlines (document.content.toList ++ ['\n']) =
      (storedContent document.content).toList ++ ['\n'] := by
    rw [normalizeNewlines_append_lineFeed, storedContent, String.toList_ofList]
  have opened : fence ++ '\n' :: document.header.render ++ fence ++ ['\n', '\n'] ++
      ((storedContent document.content).toList ++ ['\n']) =
      (fence ++ ['\n']) ++ (document.header.render ++ fence ++ '\n' ::
        ('\n' :: (storedContent document.content).toList ++ ['\n'])) := by
    simp
  have header := splitAtFence?_written (Header.isKey_lines document.header)
    (Header.isWritten_lines document.header)
    ('\n' :: (storedContent document.content).toList ++ ['\n'])
  have lines : Header.written document.header.lines = document.header.render :=
    (Header.render_eq_flatMap document.header).symm
  rw [lines] at header
  simp only [split, text, normalizeNewlines_append clear, body, opened, after?_append, header]

/-- A written document is always read, with the header it was written with. -/
theorem read_render (document : Document) : read document.render = .ok document.stored := by
  have content : contentOf ('\n' :: (storedContent document.content).toList ++ ['\n']) =
      (storedContent document.content).toList := by
    simp [contentOf, withoutEnding_append]
  simp only [read, render, String.toList_ofList, split_renderChars, Except.bind, ofParts,
    Header.read?_render, content, String.ofList_toList]
  rfl

theorem stored_eq_self_iff (document : Document) :
    document.stored = document ↔ Survives document.content := by
  rw [← storedContent_eq_self_iff]
  refine ⟨congrArg Document.content, ?_⟩
  intro same
  rw [stored, same]

/-- The law of written documents: reading never fails and never changes the header, and it
changes the content exactly when that holds a carriage return before a line feed or ends in one. -/
theorem read_render_eq_self_iff (document : Document) :
    ∃ parsed, read document.render = .ok parsed ∧ parsed.symbol = document.symbol ∧
      parsed.slug = document.slug ∧ parsed.created = document.created ∧
      parsed.updated = document.updated ∧
      (parsed = document ↔
        ¬['\r', '\n'] <:+: document.content.toList ∧
          document.content.toList.getLast? ≠ some '\r') :=
  ⟨document.stored, read_render document, rfl, rfl, rfl, rfl, stored_eq_self_iff document⟩

/-- Whether a text is the written form of a document: between its fences a field stands on each line
of the header, below an empty line stands the content, and reading gives all of it back, the content
if it survives. -/
structure IsWrittenAs (document : Document) (text : String) : Prop where
  layout : ∃ slug created updated,
    (slug = document.slug.text ∨ slug = "'" ++ document.slug.text ++ "'") ∧
    Timestamp.readRelaxed? created = some document.created ∧
    Timestamp.readRelaxed? updated = some document.updated ∧
    text = "---\nsymbol: " ++ Vocabulary.glyph document.symbol ++ "\nslug: " ++ slug ++
      "\ncreated: " ++ created ++ "\nupdated: " ++ updated ++ "\n---\n\n" ++ document.content ++
      "\n"
  reading : ∃ parsed, read text = .ok parsed ∧ parsed.symbol = document.symbol ∧
    parsed.slug = document.slug ∧ parsed.created = document.created ∧
    parsed.updated = document.updated ∧
    (parsed.content = document.content ↔ Survives document.content)

theorem isWrittenAs_render (document : Document) : document.IsWrittenAs document.render := by
  constructor
  · refine ⟨String.ofList (Header.slugText document.slug), document.created.dataText,
      document.updated.dataText, ?_, Timestamp.readRelaxed?_dataText _,
      Timestamp.readRelaxed?_dataText _, ?_⟩
    · rw [Header.slugText]
      split
      · right
        simp [← String.toList_inj]
      · left
        simp
    · simp [← String.toList_inj, render, renderChars, header, Header.render, Header.line, fence,
        ← Vocabulary.glyph_eq]
  · exact ⟨document.stored, read_render document, rfl, rfl, rfl, rfl,
      storedContent_eq_self_iff document.content⟩

end Document

end MemoryKeeper
