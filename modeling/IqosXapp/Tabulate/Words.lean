import IqosXapp.Tabulate.Text

namespace IqosXapp.Tabulate

open KpmManager (Bytes)

/-!
# Exploding a text into words

`index_of_any` and `explode_string`.  A word ends behind a dash and before
white space, and a white space is a word of its own.  Nothing of the text is
lost: the words in a row are the text.
-/

/-- `find`, for one character from an index on. -/
def find (input : Bytes) (character : UInt8) (startIndex : Nat) :
    Option Nat :=
  ((input.drop startIndex).findIdx? (· == character)).map (· + startIndex)

/-- `index_of_any`; each of the split strings is one character. -/
def indexOfAny
    (input : Bytes)
    (startIndex : Nat)
    (splitCharacters : List UInt8) :
    Option Nat :=
  (splitCharacters.filterMap fun character =>
    find input character startIndex).min?

section Find

variable
  {input : Bytes}
  {startIndex index : Nat}
  {splitCharacters : List UInt8}

theorem find_eq_some_iff {character : UInt8} :
    find input character startIndex = some index ↔
      ∃ before rest,
        input.drop startIndex = before ++ character :: rest ∧
          character ∉ before ∧
          index = startIndex + before.length := by
  simp only [find, Option.map_eq_some_iff, List.findIdx?_eq_some_iff_getElem]
  constructor
  · rintro ⟨position, ⟨inside, here, earlier⟩, rfl⟩
    refine ⟨(input.drop startIndex).take position,
      (input.drop startIndex).drop (position + 1), ?_, ?_, ?_⟩
    · have same : (input.drop startIndex)[position] = character := by
        simpa using here
      rw [← same, List.getElem_cons_drop, List.take_append_drop]
    · intro member
      obtain ⟨place, before, same⟩ := List.getElem_of_mem member
      rw [List.length_take] at before
      exact earlier place (by omega) (by simpa using same)
    · rw [List.length_take, Nat.min_eq_left (Nat.le_of_lt inside),
        Nat.add_comm]
  · rintro ⟨before, rest, split, free, rfl⟩
    rw [split]
    refine ⟨before.length, ⟨by simp, by simp, fun place earlier => ?_⟩,
      Nat.add_comm _ _⟩
    rw [List.getElem_append_left earlier]
    simpa using ne_of_mem_of_not_mem (List.getElem_mem earlier) free

/-- No split character is left. -/
theorem indexOfAny_of_free
    (free :
      ∀ character ∈ input.drop startIndex,
        character ∉ splitCharacters) :
    indexOfAny input startIndex splitCharacters = none := by
  have nowhere :
      (splitCharacters.filterMap fun character =>
          find input character startIndex) =
        [] := by
    rw [List.filterMap_eq_nil_iff]
    intro character listed
    rw [Option.eq_none_iff_forall_ne_some]
    intro index found
    obtain ⟨before, rest, split, _, _⟩ := find_eq_some_iff.mp found
    exact free character (by simp [split]) listed
  rw [indexOfAny, nowhere, List.min?_nil]

/-- The first split character is behind characters that do not split. -/
theorem indexOfAny_of_append
    {word rest : Bytes}
    {character : UInt8}
    (split : input.drop startIndex = word ++ character :: rest)
    (free : ∀ earlier ∈ word, earlier ∉ splitCharacters)
    (listed : character ∈ splitCharacters) :
    indexOfAny input startIndex splitCharacters =
      some (startIndex + word.length) := by
  rw [indexOfAny, List.min?_eq_some_iff]
  constructor
  · rw [List.mem_filterMap]
    refine ⟨character, listed, find_eq_some_iff.mpr
      ⟨word, rest, split, fun member => free _ member listed, rfl⟩⟩
  · intro index found
    obtain ⟨other, alsoListed, place⟩ := List.mem_filterMap.mp found
    obtain ⟨before, behind, again, _, rfl⟩ := find_eq_some_iff.mp place
    -- an earlier one would stand inside the word
    by_contra earlier
    have inside : before.length < word.length := by omega
    have same : word[before.length] = other := by
      have both := congrArg (·[before.length]?) (split.symm.trans again)
      simpa [List.getElem?_append_left, inside] using both
    exact free other (same ▸ List.getElem_mem inside) alsoListed

/-- A split character is found inside the text. -/
theorem indexOfAny_bounds
    (found : indexOfAny input startIndex splitCharacters = some index) :
    startIndex ≤ index ∧ index < input.length := by
  obtain ⟨character, _, place⟩ :=
    List.mem_filterMap.mp (List.min?_mem found)
  obtain ⟨before, rest, split, _, rfl⟩ := find_eq_some_iff.mp place
  have size := congrArg List.length split
  rw [List.length_drop, List.length_append, List.length_cons] at size
  omega

end Find

/-- The loop of `explode_string`, from an index on. -/
def explodeFrom
    (input : Bytes)
    (splitCharacters : List UInt8)
    (startIndex : Nat) :
    List Bytes :=
  match found : indexOfAny input startIndex splitCharacters with
  | none => [input.drop startIndex]
  | some index =>
      have inside := (indexOfAny_bounds found).2
      let word := (input.drop startIndex).take (index - startIndex)
      let nextCharacter := input[index]
      if isSpace nextCharacter then
        word :: [nextCharacter] ::
          explodeFrom input splitCharacters (index + 1)
      else
        (word ++ [nextCharacter]) ::
          explodeFrom input splitCharacters (index + 1)
termination_by input.length - startIndex
decreasing_by
  all_goals
    have behind := (indexOfAny_bounds found).1
    omega

/-- `explode_string` -/
def explodeString
    (input : Bytes)
    (splitCharacters : List UInt8) :
    List Bytes :=
  explodeFrom input splitCharacters 0

/-! ## The words of a text -/

section Explode

variable {splitCharacters : List UInt8}

/-- What the loop cuts off at a split character. -/
def pieces (word : Bytes) (character : UInt8) : List Bytes :=
  if isSpace character then
    [word, [character]]
  else
    [word ++ [character]]

theorem flatten_pieces (word : Bytes) (character : UInt8) :
    (pieces word character).flatten = word ++ [character] := by
  unfold pieces
  split <;> simp

theorem explodeFrom_of_free
    {input : Bytes}
    {startIndex : Nat}
    (free :
      ∀ character ∈ input.drop startIndex,
        character ∉ splitCharacters) :
    explodeFrom input splitCharacters startIndex =
      [input.drop startIndex] := by
  have none := indexOfAny_of_free free
  rw [explodeFrom]
  split
  · rfl
  · rename_i index found
    rw [none] at found
    cases found

theorem explodeFrom_of_append
    {input word rest : Bytes}
    {startIndex : Nat}
    {character : UInt8}
    (split : input.drop startIndex = word ++ character :: rest)
    (free : ∀ earlier ∈ word, earlier ∉ splitCharacters)
    (listed : character ∈ splitCharacters) :
    explodeFrom input splitCharacters startIndex =
      pieces word character ++
        explodeFrom input splitCharacters
          (startIndex + word.length + 1) := by
  have first := indexOfAny_of_append split free listed
  rw [explodeFrom]
  split
  · rename_i found
    rw [first] at found
    cases found
  · rename_i index found
    rw [first] at found
    obtain rfl := Option.some.inj found
    have inside := (indexOfAny_bounds first).2
    have here : input[startIndex + word.length] = character := by
      have look := congrArg (·[word.length]?) split
      simp only [List.getElem?_drop, List.getElem?_append_right,
        Nat.le_refl, Nat.sub_self, List.getElem?_cons_zero] at look
      exact (List.getElem?_eq_some_iff.mp look).2
    have cut :
        (input.drop startIndex).take
            (startIndex + word.length - startIndex) =
          word := by
      rw [Nat.add_sub_cancel_left, split, List.take_left']
      rfl
    simp only [here, cut, pieces]
    split <;> rfl

/-- A text is a word, or a word, a split character and a shorter text. -/
theorem word_cases
    (splitCharacters : List UInt8)
    (text : Bytes) :
    (∀ character ∈ text, character ∉ splitCharacters) ∨
      ∃ word character rest,
        text = word ++ character :: rest ∧
          (∀ earlier ∈ word, earlier ∉ splitCharacters) ∧
          character ∈ splitCharacters := by
  induction text with
  | nil =>
      exact .inl (by simp)
  | cons first others inductionHypothesis =>
      by_cases listed : first ∈ splitCharacters
      · exact .inr ⟨[], first, others, rfl, by simp, listed⟩
      · rcases inductionHypothesis with
          free | ⟨word, character, rest, rfl, free, splits⟩
        · exact .inl (by simpa [listed] using free)
        · exact .inr ⟨first :: word, character, rest, rfl,
            by simpa [listed] using free, splits⟩

/-- The loop only looks at what is left of the text. -/
theorem explodeFrom_eq
    (input : Bytes)
    (startIndex : Nat) :
    explodeFrom input splitCharacters startIndex =
      explodeString (input.drop startIndex) splitCharacters := by
  induction size : input.length - startIndex
    using Nat.strongRecOn generalizing input startIndex with
  | _ size inductionHypothesis =>
      rcases word_cases splitCharacters (input.drop startIndex) with
        free | ⟨word, character, rest, split, free, listed⟩
      · rw [explodeFrom_of_free free, explodeString,
          explodeFrom_of_free (by simpa using free), List.drop_zero]
      · have length := congrArg List.length split
        rw [List.length_drop, List.length_append, List.length_cons]
          at length
        have whole :
            (input.drop startIndex).drop 0 =
              word ++ character :: rest := by
          rwa [List.drop_zero]
        rw [explodeFrom_of_append split free listed, explodeString,
          explodeFrom_of_append whole free listed,
          inductionHypothesis _ (by omega) _ _ rfl,
          inductionHypothesis _ (by rw [List.length_drop]; omega) _ _ rfl,
          List.drop_drop, Nat.zero_add, Nat.add_assoc]

/-- A text without split characters is one word. -/
theorem explodeString_of_free
    {text : Bytes}
    (free : ∀ character ∈ text, character ∉ splitCharacters) :
    explodeString text splitCharacters = [text] := by
  rw [explodeString, explodeFrom_of_free (by simpa using free),
    List.drop_zero]

/-- The pieces at the first split character, and the words behind it. -/
theorem explodeString_append
    {word : Bytes}
    {character : UInt8}
    (free : ∀ earlier ∈ word, earlier ∉ splitCharacters)
    (listed : character ∈ splitCharacters)
    (rest : Bytes) :
    explodeString (word ++ character :: rest) splitCharacters =
      pieces word character ++ explodeString rest splitCharacters := by
  have split :
      (word ++ character :: rest).drop 0 = word ++ character :: rest :=
    List.drop_zero
  rw [explodeString, explodeFrom_of_append split free listed,
    explodeFrom_eq]
  simp

/-- Induction along the words of a text. -/
theorem words_induction
    {motive : Bytes → Prop}
    (splitCharacters : List UInt8)
    (word :
      ∀ text,
        (∀ character ∈ text, character ∉ splitCharacters) → motive text)
    (append :
      ∀ word character rest,
        (∀ earlier ∈ word, earlier ∉ splitCharacters) →
        character ∈ splitCharacters →
        motive rest →
        motive (word ++ character :: rest))
    (text : Bytes) :
    motive text := by
  induction size : text.length using Nat.strongRecOn generalizing text with
  | _ size inductionHypothesis =>
      rcases word_cases splitCharacters text with
        free | ⟨first, character, rest, rfl, free, listed⟩
      · exact word text free
      · refine append first character rest free listed ?_
        exact inductionHypothesis rest.length (by simp [← size]; omega)
          rest rfl

/--
A word is a white space that splits, or it has split characters at most at its
end, and there only one that is no white space.
-/
inductive IsWord (splitCharacters : List UInt8) : Bytes → Prop where
  | plain
      (word : Bytes)
      (free : ∀ character ∈ word, character ∉ splitCharacters) :
      IsWord splitCharacters word
  | space
      (character : UInt8)
      (listed : character ∈ splitCharacters)
      (space : isSpace character = true) :
      IsWord splitCharacters [character]
  | dashed
      (word : Bytes)
      (character : UInt8)
      (free : ∀ earlier ∈ word, earlier ∉ splitCharacters)
      (listed : character ∈ splitCharacters)
      (visible : isSpace character = false) :
      IsWord splitCharacters (word ++ [character])

theorem isWord_of_pieces
    {word piece : Bytes}
    {character : UInt8}
    (free : ∀ earlier ∈ word, earlier ∉ splitCharacters)
    (listed : character ∈ splitCharacters)
    (cut : piece ∈ pieces word character) :
    IsWord splitCharacters piece := by
  unfold pieces at cut
  split at cut
  · rename_i space
    rcases List.mem_pair.mp cut with rfl | rfl
    · exact .plain piece free
    · exact .space character listed space
  · rename_i visible
    obtain rfl := List.mem_singleton.mp cut
    exact .dashed word character free listed (by simpa using visible)

/--
Exploding loses nothing and cuts where the split characters are: the pieces in
a row are the text, and each of them is a word.
-/
theorem explodeString_words
    (text : Bytes)
    (splitCharacters : List UInt8) :
    (explodeString text splitCharacters).flatten = text ∧
      ∀ word ∈ explodeString text splitCharacters,
        IsWord splitCharacters word := by
  induction text using words_induction splitCharacters with
  | word text free =>
      rw [explodeString_of_free free]
      exact ⟨by simp, by simpa using .plain text free⟩
  | append first character rest free listed inductionHypothesis =>
      obtain ⟨whole, words⟩ := inductionHypothesis
      rw [explodeString_append free listed]
      constructor
      · rw [List.flatten_append, flatten_pieces, whole, List.append_assoc]
        rfl
      · intro word member
        rcases List.mem_append.mp member with cut | later
        · exact isWord_of_pieces free listed cut
        · exact words word later

end Explode

end IqosXapp.Tabulate
