import Waymark.Label.Json
import Waymark.Proofs.Numeral

/-!
# Written trees read back

A written value is cut into its tokens wherever punctuation follows it, and the reader makes
its tree of them, whatever is open around it. A string may be any text: the characters that
have to be escaped come back from their escapes.
-/

namespace Waymark.Json

/-! ## Characters and strings -/

/-- What a written character is read as: a control character without an escape of its own
is a code unit. -/
def pieceOf (c : Char) : Piece :=
  if c.toNat < 0x20 ∧ c ∉ ['\x08', '\x0c', '\n', '\r', '\t'] then .unit c.toNat else .char c

def piecesOf (s : String) : List Piece := s.toList.map pieceOf

theorem hexDigit?_digitChar {digit : Nat} (small : digit < 16) :
    Text.hexDigit? (Nat.digitChar digit) = some digit := by
  revert digit
  decide

/-- A digit of an escaped code unit that is not the last. -/
theorem scan_unit_succ (read : List Piece) (missing code : Nat) {digit : Nat}
    (small : digit < 16) (rest : List Char) :
    scan (.unit read (missing + 1) code) (Nat.digitChar digit :: rest) =
      scan (.unit read missing (code * 16 + digit)) rest := by
  simp only [scan, hexDigit?_digitChar small]

/-- The last digit of an escaped code unit. -/
theorem scan_unit_zero (read : List Piece) (code : Nat) {digit : Nat} (small : digit < 16)
    (rest : List Char) :
    scan (.unit read 0 code) (Nat.digitChar digit :: rest) =
      scan (.string (.unit (code * 16 + digit) :: read)) rest := by
  simp only [scan, hexDigit?_digitChar small]

/-- A code unit below 256, escaped by four digits. -/
theorem scan_unitEscape (read : List Piece) {code : Nat} (small : code < 256)
    (rest : List Char) :
    scan (.string read)
        ('\\' :: 'u' :: '0' :: '0' ::
          Nat.digitChar (code / 16) :: Nat.digitChar (code % 16) :: rest) =
      scan (.string (.unit code :: read)) rest := by
  have high : code / 16 < 16 := by omega
  have low : code % 16 < 16 := by omega
  have whole : ((0 * 16 + 0) * 16 + 0) * 16 + code / 16 = code / 16 := by omega
  calc scan (.string read)
        ('\\' :: 'u' :: '0' :: '0' ::
          Nat.digitChar (code / 16) :: Nat.digitChar (code % 16) :: rest)
      = scan (.unit read 3 0) (Nat.digitChar 0 :: Nat.digitChar 0 ::
          Nat.digitChar (code / 16) :: Nat.digitChar (code % 16) :: rest) := rfl
    _ = scan (.string (.unit (code / 16 * 16 + code % 16) :: read)) rest := by
      rw [scan_unit_succ read 2 0 (by decide), scan_unit_succ read 1 _ (by decide),
        scan_unit_succ read 0 _ high, whole, scan_unit_zero read _ low]
    _ = scan (.string (.unit code :: read)) rest := by
      rw [Nat.div_add_mod']

theorem scan_escaped (read : List Piece) (c : Char) (rest : List Char) :
    scan (.string read) (escaped c ++ rest) = scan (.string (pieceOf c :: read)) rest := by
  by_cases short : c ∈ ['"', '\\', '\x08', '\x0c', '\n', '\r', '\t']
  case pos =>
    simp only [List.mem_cons, List.not_mem_nil, or_false] at short
    rcases short with rfl | rfl | rfl | rfl | rfl | rfl | rfl
    all_goals rfl
  case neg =>
    simp only [List.mem_cons, List.not_mem_nil, or_false, not_or] at short
    obtain ⟨quote, backslash, backspace, formFeed, newline, carriage, tab⟩ := short
    rw [escaped, if_neg quote, if_neg backslash, if_neg backspace, if_neg formFeed,
      if_neg newline, if_neg carriage, if_neg tab]
    split
    · next control =>
      have piece : pieceOf c = .unit c.toNat := by
        simp [pieceOf, control, backspace, formFeed, newline, carriage, tab]
      rw [piece]
      exact scan_unitEscape read (by omega) rest
    · next control =>
      have piece : pieceOf c = .char c := if_neg fun both => control both.1
      rw [piece, List.singleton_append, scan, if_neg quote, if_neg backslash, if_neg control]

theorem scan_flatMap_escaped (read : List Piece) (text rest : List Char) :
    scan (.string read) (text.flatMap escaped ++ rest) =
      scan (.string ((text.map pieceOf).reverse ++ read)) rest := by
  induction text generalizing read with
  | nil => rfl
  | cons c text inductionHypothesis =>
    rw [List.flatMap_cons, List.append_assoc, scan_escaped, inductionHypothesis]
    simp

theorem scan_stringText (s : String) (rest : List Char) :
    scan .between (stringText s ++ rest) =
      (scan .between rest).map (.string (piecesOf s) :: ·) := by
  have opened : scan .between (stringText s ++ rest) =
      scan (.string []) (s.toList.flatMap escaped ++ '"' :: rest) := by
    simp [stringText, scan, isSpace, isPunctuation]
  rw [opened, scan_flatMap_escaped]
  simp [scan, piecesOf]

theorem characters?_unit_cons {code : Nat} (low : code < 0xD800) (rest : List Piece) :
    characters? (.unit code :: rest) = (characters? rest).map (Char.ofNat code :: ·) := by
  have notHigh : ¬ 0xD800 ≤ code := by omega
  have notLow : ¬ 0xDC00 ≤ code := by omega
  match rest with
  | [] => simp [characters?, notHigh]
  | .char c :: rest => simp [characters?, notHigh]
  | .unit next :: rest => simp [characters?, notHigh, notLow]

theorem characters?_map_pieceOf (text : List Char) :
    characters? (text.map pieceOf) = some text := by
  induction text with
  | nil => rfl
  | cons c text inductionHypothesis =>
    rw [List.map_cons, pieceOf]
    split
    · next control =>
      rw [characters?_unit_cons (by omega), inductionHypothesis, Char.ofNat_toNat]
      rfl
    · rw [characters?, inductionHypothesis]
      rfl

/-- Every text comes back from the string that it is written as. -/
@[simp] theorem text?_piecesOf (s : String) : text? (piecesOf s) = some s := by
  rw [text?, piecesOf, characters?_map_pieceOf, Option.map_some, String.ofList_toList]

/-! ## Words -/

/-- The characters that end a word. -/
def wordEnds : List Char := [' ', '\t', '\n', '\r', '\x7b', '\x7d', '[', ']', ',', ':', '"']

theorem not_mem_wordEnds_iff (c : Char) :
    c ∉ wordEnds ↔ ¬ isSpace c = true ∧ ¬ isPunctuation c = true ∧ c ≠ '"' := by
  have ends : c ∈ wordEnds ↔ isSpace c = true ∨ isPunctuation c = true ∨ c = '"' := by
    simp only [wordEnds, isSpace, isPunctuation, List.mem_cons, List.not_mem_nil, or_false,
      Bool.or_eq_true, decide_eq_true_eq, or_assoc]
  rw [ends, not_or, not_or]

theorem not_mem_wordEnds_of_isNumeric {c : Char} (numeric : Numeral.IsNumeric c) :
    c ∉ wordEnds := by
  intro mem
  have apart : ∀ c ∈ wordEnds, ¬ Numeral.IsNumeric c := by simp [wordEnds, Numeral.IsNumeric]
  exact apart c mem numeric

theorem isSpace_of_isPunctuation {c : Char} (punctuation : isPunctuation c = true) :
    isSpace c = false := by
  simp only [isPunctuation, Bool.or_eq_true, decide_eq_true_eq] at punctuation
  rcases punctuation with ((((rfl | rfl) | rfl) | rfl) | rfl) | rfl
  all_goals rfl

theorem scan_punctuation {mark : Char} (punctuation : isPunctuation mark = true)
    (rest : List Char) :
    scan .between (mark :: rest) = (scan .between rest).map (.punctuation mark :: ·) := by
  simp [scan, punctuation, isSpace_of_isPunctuation punctuation]

theorem scan_in_word {word : List Char} (inside : ∀ c ∈ word, c ∉ wordEnds) (read : List Char)
    {mark : Char} (punctuation : isPunctuation mark = true) (rest : List Char) :
    scan (.word read) (word ++ mark :: rest) =
      (scan .between (mark :: rest)).map (.word (read.reverse ++ word) :: ·) := by
  induction word generalizing read with
  | nil =>
    rw [scan_punctuation punctuation]
    simp [scan, punctuation, isSpace_of_isPunctuation punctuation, Function.comp_def]
  | cons c word inductionHypothesis =>
    obtain ⟨noEnd, others⟩ := List.forall_mem_cons.1 inside
    obtain ⟨noSpace, noPunctuation, noQuote⟩ := (not_mem_wordEnds_iff c).1 noEnd
    simp [scan, noSpace, noPunctuation, noQuote, inductionHypothesis others]

theorem scan_word {word : List Char} (inside : ∀ c ∈ word, c ∉ wordEnds) (nonempty : word ≠ [])
    {mark : Char} (punctuation : isPunctuation mark = true) (rest : List Char) :
    scan .between (word ++ mark :: rest) =
      (scan .between (mark :: rest)).map (.word word :: ·) := by
  obtain ⟨first, others, rfl⟩ := List.exists_cons_of_ne_nil nonempty
  obtain ⟨noEnd, othersInside⟩ := List.forall_mem_cons.1 inside
  obtain ⟨noSpace, noPunctuation, noQuote⟩ := (not_mem_wordEnds_iff first).1 noEnd
  simp [scan, noSpace, noPunctuation, noQuote, scan_in_word othersInside [first] punctuation]

/-! ## Written trees -/

/-- The reader makes a tree of tokens wherever a value may stand. -/
def Builds (tokens : List Token) (tree : Json) : Prop :=
  ∀ frames, tokens.foldlM Reader.step? ⟨.value, frames⟩ = some ⟨.complete tree, frames⟩

/-- A text in which a tree is written. A word ends only where something else begins, so the
text is cut into the tokens of the tree where punctuation follows. -/
def Writes (text : List Char) (tree : Json) : Prop :=
  ∃ tokens,
    (∀ mark rest, isPunctuation mark = true →
      scan .between (text ++ mark :: rest) =
        (scan .between (mark :: rest)).map (tokens ++ ·)) ∧
    Builds tokens tree

/-- A text in which a tree is written and which ends by itself. -/
def WritesClosed (text : List Char) (tree : Json) : Prop :=
  ∃ tokens,
    (∀ rest, scan .between (text ++ rest) = (scan .between rest).map (tokens ++ ·)) ∧
    Builds tokens tree

theorem WritesClosed.writes {text : List Char} {tree : Json} (closed : WritesClosed text tree) :
    Writes text tree := by
  obtain ⟨tokens, cut, builds⟩ := closed
  exact ⟨tokens, fun mark rest _ => cut (mark :: rest), builds⟩

theorem WritesClosed.ofText? {text : List Char} {tree : Json} (closed : WritesClosed text tree) :
    ofText? (String.ofList text) = some tree := by
  obtain ⟨tokens, cut, builds⟩ := closed
  have all : tokens? text = some tokens := by
    have cutAll := cut []
    rw [List.append_nil] at cutAll
    simpa [scan, tokens?] using cutAll
  rw [Json.ofText?, String.toList_ofList, all, Option.bind_some, ofTokens?, builds]

theorem writesClosed_string (s : String) : WritesClosed (stringText s) (.string (piecesOf s)) :=
  ⟨[.string (piecesOf s)], scan_stringText s, fun _ => rfl⟩

theorem writes_word {word : List Char} {tree : Json} (read : ofWord? word = some tree)
    (inside : ∀ c ∈ word, c ∉ wordEnds) (nonempty : word ≠ []) : Writes word tree := by
  refine ⟨[.word word], ?_, ?_⟩
  · intro mark rest punctuation
    exact scan_word inside nonempty punctuation rest
  · intro frames
    simp [Reader.step?, Reader.startValue?, read]

theorem writes_numeral {word : List Char} {numeral : Numeral}
    (read : Numeral.ofWord? word = some numeral) : Writes word (.number numeral) := by
  have notKeyword {keyword : List Char} (refused : Numeral.ofWord? keyword = none) :
      word ≠ keyword := by
    intro equality
    rw [equality, refused] at read
    cases read
  have tree : ofWord? word = some (.number numeral) := by
    rw [ofWord?, if_neg (notKeyword rfl), if_neg (notKeyword rfl), if_neg (notKeyword rfl), read]
    rfl
  apply writes_word tree
  · intro c mem
    exact not_mem_wordEnds_of_isNumeric (Numeral.isNumeric_of_ofWord? read c mem)
  · exact notKeyword rfl

/-! ## Objects -/

section Steps

variable (frames : List Frame) (read : Fields) (key : List Piece) (value : Json)

theorem step?_openObject :
    Reader.step? ⟨.value, frames⟩ (.punctuation '\x7b') = some ⟨.firstKey, frames⟩ :=
  rfl

theorem step?_firstKey :
    Reader.step? ⟨.firstKey, frames⟩ (.string key) = some ⟨.colon [] key, frames⟩ :=
  rfl

theorem step?_colon :
    Reader.step? ⟨.colon read key, frames⟩ (.punctuation ':') =
      some ⟨.value, .field read key :: frames⟩ :=
  rfl

theorem step?_comma :
    Reader.step? ⟨.complete value, .field read key :: frames⟩ (.punctuation ',') =
      some ⟨.nextKey ((key, value) :: read), frames⟩ :=
  rfl

theorem step?_nextKey :
    Reader.step? ⟨.nextKey read, frames⟩ (.string key) = some ⟨.colon read key, frames⟩ :=
  rfl

theorem step?_closeObject :
    Reader.step? ⟨.complete value, .field read key :: frames⟩ (.punctuation '\x7d') =
      some ⟨.complete (.object ((key, value) :: read).reverse), frames⟩ :=
  rfl

end Steps

def fieldText (key : String) (text : List Char) : List Char := stringText key ++ ':' :: text

theorem exists_tokens_of_field (key : String) {text : List Char} {tree : Json}
    (written : Writes text tree) :
    ∃ tokens,
      (∀ mark rest, isPunctuation mark = true →
        scan .between (fieldText key text ++ mark :: rest) =
          (scan .between (mark :: rest)).map (.string (piecesOf key) :: tokens ++ ·)) ∧
      ∀ read frames,
        tokens.foldlM Reader.step? ⟨.colon read (piecesOf key), frames⟩ =
          some ⟨.complete tree, .field read (piecesOf key) :: frames⟩ := by
  obtain ⟨tokens, cut, builds⟩ := written
  refine ⟨.punctuation ':' :: tokens, ?_, ?_⟩
  · intro mark rest punctuation
    rw [fieldText, List.append_assoc, List.cons_append, scan_stringText,
      scan_punctuation (by decide), cut mark rest punctuation, Option.map_map, Option.map_map]
    rfl
  · intro read frames
    rw [List.foldlM_cons, step?_colon]
    exact builds (.field read (piecesOf key) :: frames)

variable {α : Type} {text : α → List Char} {tree : α → Json}

def fieldsText (text : α → List Char) (entries : List (String × α)) : List Char :=
  commaSeparated (entries.map fun entry => fieldText entry.1 (text entry.2))

theorem fieldsText_cons_cons (first next : String × α) (entries : List (String × α)) :
    fieldsText text (first :: next :: entries) =
      fieldText first.1 (text first.2) ++ ',' :: fieldsText text (next :: entries) :=
  rfl

def fieldTrees (tree : α → Json) (entries : List (String × α)) : Fields :=
  entries.map fun entry => (piecesOf entry.1, tree entry.2)

/-- The fields of an object and its end. The reader is behind the key of the first field, so
that the statement is the same for the first field of the object and for the later ones. -/
theorem exists_tokens_of_fields {first : String × α} {entries : List (String × α)}
    (written : ∀ entry ∈ first :: entries, Writes (text entry.2) (tree entry.2)) :
    ∃ tokens,
      (∀ rest,
        scan .between (fieldsText text (first :: entries) ++ '\x7d' :: rest) =
          (scan .between rest).map (.string (piecesOf first.1) :: tokens ++ ·)) ∧
      ∀ read frames,
        tokens.foldlM Reader.step? ⟨.colon read (piecesOf first.1), frames⟩ =
          some ⟨.complete (.object (read.reverse ++ fieldTrees tree (first :: entries))),
            frames⟩ := by
  induction entries generalizing first with
  | nil =>
    obtain ⟨tokens, cut, reads⟩ :=
      exists_tokens_of_field first.1 (written first (List.mem_singleton_self first))
    refine ⟨tokens ++ [.punctuation '\x7d'], ?_, ?_⟩
    · intro rest
      rw [fieldsText, List.map_singleton, commaSeparated, cut '\x7d' rest (by decide),
        scan_punctuation (by decide)]
      simp [Function.comp_def]
    · intro read frames
      rw [List.foldlM_append, reads, Option.bind_eq_bind, Option.bind_some, List.foldlM_cons,
        step?_closeObject, List.reverse_cons]
      rfl
  | cons next entries inductionHypothesis =>
    obtain ⟨firstWritten, othersWritten⟩ := List.forall_mem_cons.1 written
    obtain ⟨tokens, cut, reads⟩ := exists_tokens_of_field first.1 firstWritten
    obtain ⟨nextTokens, nextCut, nextReads⟩ := inductionHypothesis othersWritten
    refine ⟨tokens ++ .punctuation ',' :: .string (piecesOf next.1) :: nextTokens, ?_, ?_⟩
    · intro rest
      rw [fieldsText_cons_cons, List.append_assoc, List.cons_append, cut ',' _ (by decide),
        scan_punctuation (by decide), nextCut rest]
      simp [Function.comp_def]
    · intro read frames
      have appended : ((piecesOf first.1, tree first.2) :: read).reverse ++
          fieldTrees tree (next :: entries) =
            read.reverse ++ fieldTrees tree (first :: next :: entries) := by
        rw [List.reverse_cons, List.append_assoc]
        rfl
      simp only [List.foldlM_append, List.foldlM_cons, reads, step?_comma, step?_nextKey,
        nextReads, Option.bind_eq_bind, Option.bind_some, appended]

theorem writesClosed_object {entries : List (String × α)}
    (written : ∀ entry ∈ entries, Writes (text entry.2) (tree entry.2)) :
    WritesClosed (objectText (entries.map fun entry => (entry.1, text entry.2)))
      (.object (fieldTrees tree entries)) := by
  have shape (rest : List Char) :
      objectText (entries.map fun entry => (entry.1, text entry.2)) ++ rest =
        '\x7b' :: (fieldsText text entries ++ '\x7d' :: rest) := by
    simp [objectText, fieldsText, fieldText, Function.comp_def]
  cases entries with
  | nil =>
    refine ⟨[.punctuation '\x7b', .punctuation '\x7d'], ?_, fun _ => rfl⟩
    intro rest
    have braces : fieldsText text [] ++ '\x7d' :: rest = '\x7d' :: rest := rfl
    rw [shape, braces, scan_punctuation (by decide), scan_punctuation (by decide),
      Option.map_map]
    rfl
  | cons entry entries =>
    obtain ⟨tokens, cut, reads⟩ := exists_tokens_of_fields written
    refine ⟨.punctuation '\x7b' :: .string (piecesOf entry.1) :: tokens, ?_, ?_⟩
    · intro rest
      rw [shape, scan_punctuation (by decide), cut rest, Option.map_map]
      rfl
    · intro frames
      rw [List.foldlM_cons, step?_openObject, Option.bind_eq_bind, Option.bind_some,
        List.foldlM_cons, step?_firstKey]
      exact reads [] frames

end Waymark.Json
