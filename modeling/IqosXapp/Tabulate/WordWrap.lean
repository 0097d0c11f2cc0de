import IqosXapp.Tabulate.Words

namespace IqosXapp.Tabulate

open KpmManager (Bytes literal)

/-!
# Word wrapping

`word_wrap` breaks a text into lines of a width.  A word that is longer than
the width is split up, with a dash at the end of each part but the last.

The loop that splits a word takes `width - 1` characters at a time, so it makes
no progress at width one, and at width zero the subtraction wraps around and
`substr` throws.  The loop therefore runs on a bound of its turns, and a run
that exceeds the bound is told apart from one that throws.
-/

/-- `'-'` -/
def dash : UInt8 := 45

/-- `'\t'` -/
def tabulator : UInt8 := 9

/-- How many values a `size_t` has. -/
def sizeModulus : Nat := 18446744073709551616

/-- Why no text is returned. -/
inductive TextFault where
  | outOfRange
  | stillRunning
  deriving Repr, DecidableEq

/-- `width - 1`, as a `size_t`. -/
def widthLessOne (width : Nat) : Nat :=
  (width + (sizeModulus - 1)) % sizeModulus

/-- `substr`, from a position on. -/
def substr (text : Bytes) (pos : Nat) : Except TextFault Bytes :=
  if pos ≤ text.length then
    .ok (text.drop pos)
  else
    .error .outOfRange

/-- The loop that splits up a word, for at most so many turns. -/
def splitWord (width : Nat) :
    Nat → Bytes → Bytes → Except TextFault (Bytes × Bytes)
  | 0, _, _ => .error .stillRunning
  | fuel + 1, result, word =>
      if getSequenceLength word > width then do
        let rest ← substr word (widthLessOne width)
        splitWord width fuel
          (result ++ (word.take (widthLessOne width) ++ [dash]) ++
            [newline])
          rest
      else
        .ok (result, word)

/-- What `word_wrap` keeps from word to word. -/
structure WrapState where
  currentLineLength : Nat
  result : Bytes
  deriving Repr, DecidableEq

/-- `current_line_length` and `result` on a new line, if there is text on it. -/
def WrapState.moveDown (state : WrapState) : WrapState :=
  if state.currentLineLength > 0 then {
    currentLineLength := 0
    result := state.result ++ [newline] }
  else
    state

/-- `result` with one more word on the current line. -/
def WrapState.put (state : WrapState) (word : Bytes) : WrapState where
  currentLineLength := state.currentLineLength + getSequenceLength word
  result := state.result ++ word

/-- The body of the loop of `word_wrap`. -/
def wrapWord
    (width fuel : Nat)
    (state : WrapState)
    (word : Bytes) :
    Except TextFault WrapState :=
  if state.currentLineLength + getSequenceLength word > width then do
    let state := state.moveDown
    let (result, word) ← splitWord width fuel state.result word
    pure ({ state with result := result }.put (trimLeft word))
  else
    pure (state.put word)

/-- The words of a text to wrap. -/
def wrapWords (str : Bytes) : List Bytes :=
  explodeString str [blank, dash, tabulator]

/-- `word_wrap`, with a bound on the turns of its inner loop. -/
def wordWrap (fuel : Nat) (str : Bytes) (width : Nat) :
    Except TextFault Bytes := do
  let state ← (wrapWords str).foldlM (wrapWord width fuel) ⟨0, []⟩
  pure state.result

/-! ## Splitting up a word -/

theorem widthLessOne_of_pos
    {width : Nat}
    (positive : 1 ≤ width)
    (sized : width < sizeModulus) :
    widthLessOne width = width - 1 := by
  unfold widthLessOne sizeModulus at *
  omega

theorem widthLessOne_zero : widthLessOne 0 = sizeModulus - 1 := by
  decide

/-- The lines that splitting up a word adds: each part, a dash, a new line. -/
def hyphenated (parts : List Bytes) : Bytes :=
  parts.flatMap fun part => part ++ [dash, newline]

section SplitWord

variable {width fuel : Nat}

/-- A word that fits is left alone. -/
theorem splitWord_of_fits
    {word : Bytes}
    (fits : word.length ≤ width)
    (result : Bytes) :
    splitWord width (fuel + 1) result word = .ok (result, word) := by
  rw [splitWord, getSequenceLength_eq, if_neg (Nat.not_lt.mpr fits)]

/-- The parts of a split word are as wide as a line, and in a row the word. -/
theorem splitWord_parts
    {result word longer rest : Bytes}
    (positive : 1 ≤ width)
    (sized : width < sizeModulus)
    (returns : splitWord width fuel result word = .ok (longer, rest)) :
    ∃ parts,
      longer = result ++ hyphenated parts ∧
        (∀ part ∈ parts, part.length + 1 = width) ∧
        (word.length ≤ width → parts = []) ∧
        rest.length ≤ width ∧
        parts.flatten ++ rest = word := by
  induction fuel generalizing result word with
  | zero =>
      cases returns
  | succ fuel inductionHypothesis =>
      rw [splitWord] at returns
      split at returns
      · rename_i long
        have one := widthLessOne_of_pos positive sized
        have inside : width - 1 ≤ word.length := by
          simp only [getSequenceLength] at long
          omega
        simp only [one, substr, if_pos inside] at returns
        obtain ⟨parts, rfl, sizes, _, short, whole⟩ :=
          inductionHypothesis returns
        refine ⟨word.take (width - 1) :: parts, ?_, ?_,
          fun fits => absurd fits (Nat.not_le.mpr long), short, ?_⟩
        · simp [hyphenated]
        · intro part member
          rcases List.mem_cons.mp member with rfl | later
          · rw [List.length_take, Nat.min_eq_left inside]
            omega
          · exact sizes part later
        · rw [List.flatten_cons, List.append_assoc, whole,
            List.take_append_drop]
      · rename_i fits
        cases returns
        exact ⟨[], by simp [hyphenated], by simp, fun _ => rfl,
          Nat.not_lt.mp fits, rfl⟩

/-- From width two on, every turn shortens the word. -/
theorem splitWord_ends
    {word : Bytes}
    (two : 2 ≤ width)
    (sized : width < sizeModulus)
    (enough : word.length < fuel)
    (result : Bytes) :
    ∃ longer rest,
      splitWord width fuel result word = .ok (longer, rest) := by
  induction fuel generalizing result word with
  | zero =>
      omega
  | succ fuel inductionHypothesis =>
      rw [splitWord]
      split
      · rename_i long
        have one := widthLessOne_of_pos (Nat.le_of_succ_le two) sized
        have inside : width - 1 ≤ word.length := by
          simp only [getSequenceLength] at long
          omega
        simp only [one, substr, if_pos inside]
        exact inductionHypothesis (by rw [List.length_drop]; omega) _
      · exact ⟨result, word, rfl⟩

/-- At width one, a word that does not fit is never split. -/
theorem splitWord_one
    {word : Bytes}
    (long : 1 < word.length)
    (result : Bytes) :
    splitWord 1 fuel result word = .error .stillRunning := by
  induction fuel generalizing result with
  | zero =>
      rfl
  | succ fuel inductionHypothesis =>
      have none : widthLessOne 1 = 0 := by decide
      rw [splitWord, getSequenceLength_eq, if_pos long]
      simp only [none, substr, if_pos (Nat.zero_le _), List.drop_zero]
      exact inductionHypothesis _

/-- At width zero, splitting a word that is not empty throws. -/
theorem splitWord_zero
    {word : Bytes}
    (some : 0 < word.length)
    (sized : word.length < sizeModulus - 1)
    (result : Bytes) :
    splitWord 0 (fuel + 1) result word = .error .outOfRange := by
  rw [splitWord, getSequenceLength_eq, if_pos some, widthLessOne_zero,
    substr,
    if_neg (Nat.not_le.mpr sized)]
  rfl

end SplitWord

/-! ## One word after the other -/

section Wrap

variable {width fuel : Nat}

theorem moveDown_currentLineLength (state : WrapState) :
    state.moveDown.currentLineLength = 0 := by
  unfold WrapState.moveDown
  split
  · rfl
  · rename_i none
    exact Nat.eq_zero_of_not_pos none

/-- What one turn of the loop does to the line. -/
inductive Wraps (width : Nat) (word : Bytes) :
    WrapState → WrapState → Prop where
  | fits
      (state : WrapState)
      (fits : state.currentLineLength + word.length ≤ width) :
      Wraps width word state (state.put word)
  | moves
      (state : WrapState)
      (parts : List Bytes)
      (rest : Bytes)
      (long : width < state.currentLineLength + word.length)
      (sizes : ∀ part ∈ parts, part.length + 1 = width)
      (unsplit : word.length ≤ width → parts = [])
      (short : rest.length ≤ width)
      (whole : parts.flatten ++ rest = word) :
      Wraps width word state
        ({ state.moveDown with
          result := state.moveDown.result ++ hyphenated parts }.put
          (trimLeft rest))

theorem wrapWord_wraps
    {state next : WrapState}
    {word : Bytes}
    (positive : 1 ≤ width)
    (sized : width < sizeModulus)
    (returns : wrapWord width fuel state word = .ok next) :
    Wraps width word state next := by
  unfold wrapWord at returns
  split at returns
  · rename_i long
    dsimp only at returns
    rcases split : splitWord width fuel state.moveDown.result word with
      fault | ⟨longer, rest⟩
    · rw [split] at returns
      cases returns
    · rw [split] at returns
      cases returns
      obtain ⟨parts, rfl, sizes, unsplit, short, whole⟩ :=
        splitWord_parts positive sized split
      exact .moves state parts rest long sizes unsplit short whole
  · rename_i fits
    cases returns
    exact .fits state (Nat.not_lt.mp fits)

/-- An invariant of the turns holds behind the words. -/
theorem foldlM_wraps
    {invariant : WrapState → List Bytes → Prop}
    (positive : 1 ≤ width)
    (sized : width < sizeModulus)
    (kept :
      ∀ state next word done,
        invariant state done →
        Wraps width word state next →
        invariant next (done ++ [word]))
    {words done : List Bytes}
    {state last : WrapState}
    (before : invariant state done)
    (returns :
      words.foldlM (wrapWord width fuel) state = .ok last) :
    invariant last (done ++ words) := by
  induction words generalizing state done with
  | nil =>
      cases returns
      simpa using before
  | cons word rest inductionHypothesis =>
      rw [List.foldlM_cons] at returns
      rcases turn : wrapWord width fuel state word with fault | next
      · rw [turn] at returns
        cases returns
      · rw [turn] at returns
        have wraps := wrapWord_wraps positive sized turn
        have behind :=
          inductionHypothesis (kept state next word done before wraps)
            returns
        simpa using behind

/-! ### Widths -/

/--
The lines that are done and the current one: none is wider than the width, and
the current one is as long as the state says.  A word may hold new lines of its
own, so that each of these can still be several lines of the result.
-/
structure Laid (width : Nat) (state : WrapState) : Prop where
  lines :
    ∃ (earlier : List Bytes) (last : Bytes),
      state.result = earlier.flatMap (· ++ [newline]) ++ last ∧
        (∀ line ∈ earlier, line.length ≤ width) ∧
        last.length = state.currentLineLength
  fits : state.currentLineLength ≤ width

theorem Laid.moveDown
    {state : WrapState}
    (laid : Laid width state) :
    ∃ earlier : List Bytes,
      state.moveDown.result = earlier.flatMap (· ++ [newline]) ∧
        ∀ line ∈ earlier, line.length ≤ width := by
  obtain ⟨earlier, last, text, sizes, length⟩ := laid.lines
  unfold WrapState.moveDown
  split
  · refine ⟨earlier ++ [last], by simp [text], ?_⟩
    intro line member
    rcases List.mem_append.mp member with before | current
    · exact sizes line before
    · obtain rfl := List.mem_singleton.mp current
      exact length ▸ laid.fits
  · rename_i none
    have empty : last = [] := by
      rw [← List.length_eq_zero_iff, length]
      exact Nat.eq_zero_of_not_pos none
    exact ⟨earlier, by simp [text, empty], sizes⟩

theorem hyphenated_eq (parts : List Bytes) :
    hyphenated parts =
      (parts.map (· ++ [dash])).flatMap (· ++ [newline]) := by
  simp [hyphenated, List.flatMap_map]

/-- A turn keeps the lines laid. -/
theorem Laid.wraps
    {state next : WrapState}
    {word : Bytes}
    (laid : Laid width state)
    (wraps : Wraps width word state next) :
    Laid width next := by
  cases wraps with
  | fits fits =>
      obtain ⟨earlier, last, text, sizes, length⟩ := laid.lines
      refine ⟨⟨earlier, last ++ word, ?_, sizes, ?_⟩, fits⟩
      · simp [WrapState.put, text]
      · simp [WrapState.put, length]
  | moves parts rest long sizes unsplit short whole =>
      obtain ⟨earlier, text, sizesBefore⟩ := laid.moveDown
      refine ⟨⟨earlier ++ parts.map (· ++ [dash]), trimLeft rest, ?_, ?_,
        ?_⟩, ?_⟩
      · simp [WrapState.put, text, hyphenated_eq]
      · intro line member
        rcases List.mem_append.mp member with before | split
        · exact sizesBefore line before
        · obtain ⟨part, listed, rfl⟩ := List.mem_map.mp split
          simpa using Nat.le_of_eq (sizes part listed)
      · simp [WrapState.put, moveDown_currentLineLength]
      · have short := (trimLeft_length rest).trans short
        simpa [WrapState.put, moveDown_currentLineLength] using short

/-! ### What is kept -/

/-- The characters that wrapping neither adds nor drops. -/
def ink (text : Bytes) : Bytes :=
  text.filter fun character => !isSpace character && character != dash

/-- The characters other than white space. -/
def visible (text : Bytes) : Bytes :=
  text.filter fun character => !isSpace character

section Filter

variable {keep : UInt8 → Bool}

/-- Trimming drops only what a filter drops anyway. -/
theorem filter_trimLeft
    (text : Bytes)
    (spaceless :
      ∀ character, isSpace character = true → keep character = false) :
    (trimLeft text).filter keep = text.filter keep := by
  have dropped : (text.takeWhile isSpace).filter keep = [] := by
    rw [List.filter_eq_nil_iff]
    intro character member
    rw [spaceless character (List.mem_takeWhile_imp member)]
    simp
  have whole : text = text.takeWhile isSpace ++ trimLeft text :=
    List.takeWhile_append_dropWhile.symm
  calc
    (trimLeft text).filter keep =
        (text.takeWhile isSpace).filter keep ++
          (trimLeft text).filter keep := by
      rw [dropped, List.nil_append]
    _ = text.filter keep := by
      rw [← List.filter_append, ← whole]

theorem filter_trim
    (text : Bytes)
    (spaceless :
      ∀ character, isSpace character = true → keep character = false) :
    (trim text).filter keep = text.filter keep := by
  have dropped : (text.rtakeWhile isSpace).filter keep = [] := by
    rw [List.filter_eq_nil_iff]
    intro character member
    rw [spaceless character (List.mem_rtakeWhile_imp member)]
    simp
  have whole : trimRight text ++ text.rtakeWhile isSpace = text :=
    List.rdropWhile_append_rtakeWhile
  calc
    (trim text).filter keep = (trimRight text).filter keep :=
      filter_trimLeft _ spaceless
    _ = (trimRight text).filter keep ++
          (text.rtakeWhile isSpace).filter keep := by
      rw [dropped, List.append_nil]
    _ = text.filter keep := by
      rw [← List.filter_append, whole]

theorem filter_moveDown
    (state : WrapState)
    (lineless : keep newline = false) :
    state.moveDown.result.filter keep = state.result.filter keep := by
  unfold WrapState.moveDown
  split
  · simp [lineless]
  · rfl

theorem filter_hyphenated
    (parts : List Bytes)
    (lineless : keep newline = false)
    (dashless : keep dash = false) :
    (hyphenated parts).filter keep = parts.flatten.filter keep := by
  induction parts with
  | nil =>
      rfl
  | cons part rest inductionHypothesis =>
      simp only [hyphenated, List.flatMap_cons, List.flatten_cons,
        List.filter_append, List.filter_cons, List.filter_nil] at *
      simp [lineless, dashless, inductionHypothesis]

/--
A turn keeps what a filter keeps, when the filter drops white space, and drops
dashes or meets a word that is not split up.
-/
theorem Wraps.filter
    {state next : WrapState}
    {word : Bytes}
    (wraps : Wraps width word state next)
    (spaceless :
      ∀ character, isSpace character = true → keep character = false)
    (dashes : keep dash = false ∨ word.length ≤ width) :
    next.result.filter keep =
      state.result.filter keep ++ word.filter keep := by
  have lineless : keep newline = false := spaceless newline (by decide)
  cases wraps with
  | fits fits =>
      simp [WrapState.put]
  | moves parts rest long sizes unsplit short whole =>
      simp only [WrapState.put, List.filter_append,
        filter_moveDown state lineless, filter_trimLeft rest spaceless]
      rw [List.append_assoc]
      congr 1
      rcases dashes with dashless | fits
      · rw [filter_hyphenated parts lineless dashless,
          ← List.filter_append, whole]
      · obtain rfl := unsplit fits
        obtain rfl : rest = word := by simpa using whole
        rfl

end Filter

end Wrap

/-! ## The whole text -/

section Text

variable
  {width fuel : Nat}
  {str text : Bytes}

/-- An invariant of the turns holds of a wrapped text. -/
theorem wordWrap_invariant
    {invariant : WrapState → List Bytes → Prop}
    (positive : 1 ≤ width)
    (sized : width < sizeModulus)
    (initially : invariant ⟨0, []⟩ [])
    (kept :
      ∀ state next word done,
        invariant state done →
        Wraps width word state next →
        invariant next (done ++ [word]))
    (returns : wordWrap fuel str width = .ok text) :
    ∃ last : WrapState,
      last.result = text ∧ invariant last (wrapWords str) := by
  unfold wordWrap at returns
  rcases turns :
      (wrapWords str).foldlM (wrapWord width fuel) ⟨0, []⟩ with
    fault | last
  · rw [turns] at returns
    cases returns
  · rw [turns] at returns
    cases returns
    exact ⟨last, rfl, by
      simpa using foldlM_wraps positive sized kept initially turns⟩

theorem flatten_wrapWords (str : Bytes) :
    (wrapWords str).flatten = str :=
  (explodeString_words str _).1

/-- No line of a wrapped text is wider than the width. -/
theorem wordWrap_lines_fit
    (positive : 1 ≤ width)
    (sized : width < sizeModulus)
    (returns : wordWrap fuel str width = .ok text) :
    ∀ line ∈ splitLines text newline, line.length ≤ width := by
  obtain ⟨last, rfl, laid⟩ :=
    wordWrap_invariant positive sized
      (by exact ⟨⟨[], [], by simp⟩, Nat.zero_le _⟩)
      (fun state next word done (laid : Laid width state) wraps =>
        laid.wraps wraps)
      returns
  obtain ⟨earlier, current, text, sizes, length⟩ := laid.lines
  rw [text]
  exact splitLines_ended_short sizes (length ▸ laid.fits)

/-- Each part of a split word grows by a dash and a new line. -/
theorem length_hyphenated_le
    {parts : List Bytes}
    (some : ∀ part ∈ parts, 1 ≤ part.length) :
    (hyphenated parts).length ≤ 3 * parts.flatten.length := by
  induction parts with
  | nil =>
      exact Nat.le_refl 0
  | cons part rest inductionHypothesis =>
      rw [List.forall_mem_cons] at some
      have later := inductionHypothesis some.2
      simp only [hyphenated, List.flatMap_cons, List.flatten_cons,
        List.length_append, List.length_cons, List.length_nil] at later ⊢
      omega

/-- Wrapping makes a text at most four times as long. -/
theorem length_wordWrap_le
    (two : 2 ≤ width)
    (sized : width < sizeModulus)
    (returns : wordWrap fuel str width = .ok text) :
    text.length ≤ 4 * str.length := by
  have positive : 1 ≤ width := Nat.le_of_succ_le two
  obtain ⟨last, rfl, _, bound⟩ :=
    wordWrap_invariant positive sized
      (by exact ⟨Nat.zero_le _, Nat.zero_le _⟩)
      (fun state next word done
          (before :
            state.currentLineLength ≤ width ∧
              state.result.length ≤ 4 * done.flatten.length) wraps => by
        obtain ⟨room, bound⟩ := before
        rw [List.flatten_append, List.flatten_singleton, List.length_append]
        cases wraps with
        | fits fits =>
            simp only [WrapState.put, getSequenceLength_eq,
              List.length_append]
            omega
        | moves parts rest long sizes unsplit short whole =>
            subst whole
            have down :
                state.moveDown.result.length ≤ state.result.length + 1 := by
              unfold WrapState.moveDown
              split <;> simp
            have split : (hyphenated parts).length ≤ 3 * parts.flatten.length :=
              length_hyphenated_le fun part member => by
                have size := sizes part member
                omega
            have trimmed := trimLeft_length rest
            simp only [WrapState.put, getSequenceLength_eq,
              moveDown_currentLineLength, List.length_append] at long ⊢
            omega)
      returns
  rwa [flatten_wrapWords] at bound

/-- What a filter keeps is kept by wrapping. -/
theorem wordWrap_filter
    {keep : UInt8 → Bool}
    (positive : 1 ≤ width)
    (sized : width < sizeModulus)
    (spaceless :
      ∀ character, isSpace character = true → keep character = false)
    (dashes :
      keep dash = false ∨ ∀ word ∈ wrapWords str, word.length ≤ width)
    (returns : wordWrap fuel str width = .ok text) :
    text.filter keep = str.filter keep := by
  obtain ⟨last, rfl, kept⟩ :=
    wordWrap_invariant positive sized (fun _ => rfl)
      (fun state next word done
          (kept :
            (keep dash = false ∨ ∀ word ∈ done, word.length ≤ width) →
            state.result.filter keep = done.flatten.filter keep)
          wraps
          (dashes :
            keep dash = false ∨
              ∀ earlier ∈ done ++ [word], earlier.length ≤ width) =>
        show next.result.filter keep =
            (done ++ [word]).flatten.filter keep by
          have before := kept (dashes.imp_right fun fit earlier member =>
            fit earlier (by simp [member]))
          rw [wraps.filter spaceless (dashes.imp_right fun fit =>
            fit word (by simp)), before]
          simp)
      returns
  rw [kept dashes, flatten_wrapWords]

/-! ### Ending -/

theorem wrapWord_of_fits
    {state : WrapState}
    {word : Bytes}
    (fits : state.currentLineLength + word.length ≤ width) :
    wrapWord width fuel state word = .ok (state.put word) := by
  rw [wrapWord, getSequenceLength_eq, if_neg (Nat.not_lt.mpr fits)]
  rfl

/-- A word that does not fit is split up on a new line. -/
theorem wrapWord_of_long
    {state : WrapState}
    {word : Bytes}
    (long : width < state.currentLineLength + word.length) :
    wrapWord width fuel state word =
      (do
        let split ← splitWord width fuel state.moveDown.result word
        pure ({ state.moveDown with result := split.1 }.put
          (trimLeft split.2))) := by
  rw [wrapWord, getSequenceLength_eq, if_pos long]

/-- When the inner loop ends, so does the turn. -/
theorem wrapWord_of_splitWord
    {state : WrapState}
    {word : Bytes}
    (ends :
      ∃ longer rest,
        splitWord width fuel state.moveDown.result word =
          .ok (longer, rest)) :
    ∃ next, wrapWord width fuel state word = .ok next := by
  obtain ⟨longer, rest, split⟩ := ends
  rcases Nat.lt_or_ge width (state.currentLineLength + word.length) with
    long | fits
  · exact ⟨_, by rw [wrapWord_of_long long, split]; rfl⟩
  · exact ⟨_, wrapWord_of_fits fits⟩

/-- A loop whose turns all return returns. -/
theorem foldlM_returns
    {words : List Bytes}
    (ends :
      ∀ word ∈ words, ∀ state,
        ∃ next, wrapWord width fuel state word = .ok next)
    (state : WrapState) :
    ∃ last, words.foldlM (wrapWord width fuel) state = .ok last := by
  induction words generalizing state with
  | nil =>
      exact ⟨state, rfl⟩
  | cons word rest inductionHypothesis =>
      obtain ⟨next, turn⟩ := ends word (by simp) state
      rw [List.foldlM_cons, turn]
      exact inductionHypothesis
        (fun later member => ends later (by simp [member])) next

theorem wordWrap_returns
    (ends :
      ∀ word ∈ wrapWords str, ∀ state,
        ∃ next, wrapWord width fuel state word = .ok next) :
    ∃ text, wordWrap fuel str width = .ok text := by
  obtain ⟨last, turns⟩ := foldlM_returns ends ⟨0, []⟩
  exact ⟨last.result, by rw [wordWrap, turns]; rfl⟩

theorem length_word_le
    {word : Bytes}
    (listed : word ∈ wrapWords str) :
    word.length ≤ str.length := by
  rw [← flatten_wrapWords str]
  exact (List.sublist_flatten_of_mem listed).length_le

/-- From width two on, every text can be wrapped. -/
theorem wordWrap_of_two_le
    (two : 2 ≤ width)
    (sized : width < sizeModulus)
    (enough : str.length < fuel) :
    ∃ text, wordWrap fuel str width = .ok text := by
  refine wordWrap_returns fun word listed state => ?_
  have short := length_word_le listed
  exact wrapWord_of_splitWord (splitWord_ends two sized (by omega) _)

/-- A text that fits on one line is returned as it is. -/
theorem wordWrap_of_fits
    (fuel : Nat)
    (fits : str.length ≤ width) :
    wordWrap fuel str width = .ok str := by
  have turns
      (words : List Bytes)
      (state : WrapState)
      (room :
        state.currentLineLength + words.flatten.length ≤ width) :
      ∃ length,
        words.foldlM (wrapWord width fuel) state =
          .ok ⟨length, state.result ++ words.flatten⟩ := by
    induction words generalizing state with
    | nil =>
        exact ⟨state.currentLineLength, by simp; rfl⟩
    | cons word rest inductionHypothesis =>
        rw [List.flatten_cons, List.length_append] at room
        obtain ⟨length, later⟩ :=
          inductionHypothesis (state.put word) (by
            simp only [WrapState.put, getSequenceLength_eq]
            omega)
        refine ⟨length, ?_⟩
        rw [List.foldlM_cons, wrapWord_of_fits (by omega)]
        exact later.trans (by simp [WrapState.put])
  obtain ⟨length, returns⟩ :=
    turns (wrapWords str) ⟨0, []⟩ (by simpa [flatten_wrapWords] using fits)
  rw [wordWrap, returns, flatten_wrapWords]
  rfl

/-- At width one, a turn returns or keeps running. -/
theorem wrapWord_one
    (state : WrapState)
    (word : Bytes) :
    (∃ next, wrapWord 1 fuel state word = .ok next ∧ word.length ≤ 1) ∨
      wrapWord 1 fuel state word = .error .stillRunning := by
  rcases Nat.lt_or_ge 1 (state.currentLineLength + word.length) with
    long | fits
  · rw [wrapWord_of_long long]
    rcases Nat.lt_or_ge 1 word.length with split | short
    · exact .inr (by rw [splitWord_one split]; rfl)
    · cases fuel with
      | zero => exact .inr rfl
      | succ fuel =>
          exact .inl ⟨_, by rw [splitWord_of_fits short]; rfl, short⟩
  · exact .inl ⟨_, wrapWord_of_fits fits, by omega⟩

/-- At width one, a long word keeps the loop running. -/
theorem foldlM_one
    {words : List Bytes}
    (long : ∃ word ∈ words, 1 < word.length)
    (state : WrapState) :
    words.foldlM (wrapWord 1 fuel) state = .error .stillRunning := by
  induction words generalizing state with
  | nil =>
      simp at long
  | cons word rest inductionHypothesis =>
      rw [List.foldlM_cons]
      rcases wrapWord_one state word with ⟨next, turn, short⟩ | runs
      · rw [turn]
        refine inductionHypothesis ?_ next
        obtain ⟨later, member, size⟩ := long
        rcases List.mem_cons.mp member with rfl | behind
        · omega
        · exact ⟨later, behind, size⟩
      · rw [runs]
        rfl

/-- At width zero, the first word that is not empty throws. -/
theorem foldlM_zero
    {words : List Bytes}
    (some : words.flatten ≠ [])
    (sized : ∀ word ∈ words, word.length < sizeModulus - 1)
    (result : Bytes) :
    words.foldlM (wrapWord 0 (fuel + 1)) ⟨0, result⟩ =
      .error .outOfRange := by
  induction words generalizing result with
  | nil =>
      exact (some rfl).elim
  | cons word rest inductionHypothesis =>
      rw [List.foldlM_cons]
      rcases Nat.eq_zero_or_pos word.length with none | positive
      · obtain rfl := List.eq_nil_of_length_eq_zero none
        rw [wrapWord_of_fits (Nat.le_refl 0)]
        exact inductionHypothesis (by simpa using some)
          (fun later member => sized later (by simp [member])) _
      · rw [wrapWord_of_long (by simpa using positive),
          splitWord_zero positive (sized word (by simp))]
        rfl

/--
When `word_wrap` ends: from width two on it always does; at width one it does
exactly when no word is longer than that, and runs forever otherwise; at width
zero it does exactly on the empty text, and throws otherwise.
-/
theorem wordWrap_ends
    (sized : width < sizeModulus)
    (strSized : str.length < sizeModulus - 1) :
    (2 ≤ width →
        ∀ fuel, str.length < fuel →
          ∃ text, wordWrap fuel str width = .ok text) ∧
      (width = 1 →
        ((∀ word ∈ wrapWords str, word.length ≤ 1) →
          ∀ fuel, 0 < fuel →
            ∃ text, wordWrap fuel str width = .ok text) ∧
          ((∃ word ∈ wrapWords str, 1 < word.length) →
            ∀ fuel, wordWrap fuel str width = .error .stillRunning)) ∧
      (width = 0 →
        (str = [] → ∀ fuel, wordWrap fuel str width = .ok []) ∧
          (str ≠ [] →
            ∀ fuel, 0 < fuel →
              wordWrap fuel str width = .error .outOfRange)) := by
  refine ⟨fun two fuel enough => wordWrap_of_two_le two sized enough,
    ?_, ?_⟩
  · rintro rfl
    constructor
    · intro short fuel positive
      obtain ⟨turns, rfl⟩ := Nat.exists_eq_add_one.mpr positive
      exact wordWrap_returns fun word listed state =>
        wrapWord_of_splitWord
          ⟨_, _, splitWord_of_fits (short word listed) _⟩
    · intro long fuel
      rw [wordWrap, foldlM_one long]
      rfl
  · rintro rfl
    constructor
    · rintro rfl fuel
      exact wordWrap_of_fits fuel (Nat.le_refl 0)
    · intro some fuel positive
      obtain ⟨turns, rfl⟩ := Nat.exists_eq_add_one.mpr positive
      rw [wordWrap, foldlM_zero (by rwa [flatten_wrapWords])
        fun word listed =>
          Nat.lt_of_le_of_lt (length_word_le listed) strSized]
      rfl

/--
What `word_wrap` returns: lines that are no wider than the width, with all
characters of the text but white space and dashes, and with its dashes as well
when no word had to be split up.  A text that fits on one line is unchanged.
-/
theorem wordWrap_wraps
    (positive : 1 ≤ width)
    (sized : width < sizeModulus)
    (returns : wordWrap fuel str width = .ok text) :
    (∀ line ∈ splitLines text newline, line.length ≤ width) ∧
      ink text = ink str ∧
      ((∀ word ∈ wrapWords str, word.length ≤ width) →
        visible text = visible str) ∧
      (str.length ≤ width → text = str) := by
  have space (character : UInt8) (space : isSpace character = true) :
      (!isSpace character) = false := by
    simp [space]
  refine ⟨wordWrap_lines_fit positive sized returns, ?_,
    fun fit => ?_, fun fits => ?_⟩
  · exact wordWrap_filter positive sized
      (fun character isWhite => by simp [space character isWhite])
      (.inl (by decide)) returns
  · exact wordWrap_filter positive sized space (.inr fit) returns
  · exact Except.ok.inj (returns.symm.trans (wordWrap_of_fits fuel fits))

/-- A word that is split up at width four. -/
theorem wordWrap_wraps_alpha :
    wordWrap 6 (literal "alpha") 4 = .ok (literal "alp-\nha") ∧
      ink (literal "alp-\nha") = ink (literal "alpha") := by
  have words : wrapWords (literal "alpha") = [literal "alpha"] :=
    explodeString_of_free (List.forall_iff_forall_mem.mp (by decide))
  have returns :
      wordWrap 6 (literal "alpha") 4 = .ok (literal "alp-\nha") := by
    rw [wordWrap, words]
    rfl
  exact ⟨returns, (wordWrap_wraps (by decide) (by decide) returns).2.1⟩

/-- Width four is enough for any text to be wrapped. -/
theorem wordWrap_ends_alpha :
    ∃ text, wordWrap 9 (literal "alpha be") 4 = .ok text := by
  have ends :=
    @wordWrap_ends 4 (literal "alpha be") (by decide) (by decide)
  exact ends.1 (by decide) 9 (by decide)

end Text

end IqosXapp.Tabulate
