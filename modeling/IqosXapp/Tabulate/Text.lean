import IqosXapp.KpmManager.Types
import Mathlib.Data.List.DropRight

namespace IqosXapp.Tabulate

open KpmManager (Bytes literal)

/-!
# Texts of table cells

The helpers of `tabulate::Format` that know nothing about tables: trimming and
splitting into lines.  A text is a list of bytes.  Multi-byte characters are
off unless a program turns them on, and then the length of a text is the number
of its bytes.
-/

/-- `'\n'` -/
def newline : UInt8 := 10

/-- `' '` -/
def blank : UInt8 := 32

/-- `isspace`, in the locale of a program that does not set one. -/
def isSpace (character : UInt8) : Bool :=
  character = blank ∨ (9 ≤ character ∧ character ≤ 13)

/-- `get_sequence_length`, without multi-byte characters. -/
def getSequenceLength (text : Bytes) : Nat :=
  text.length

@[simp] theorem getSequenceLength_eq (text : Bytes) :
    getSequenceLength text = text.length :=
  rfl

/-! ## Trimming -/

/-- `trim_left` -/
def trimLeft (inputString : Bytes) : Bytes :=
  inputString.dropWhile isSpace

/-- `trim_right` -/
def trimRight (inputString : Bytes) : Bytes :=
  inputString.rdropWhile isSpace

/-- `trim` -/
def trim (inputString : Bytes) : Bytes :=
  trimLeft (trimRight inputString)

/-- The text has no white space at its ends. -/
def Trimmed (text : Bytes) : Prop :=
  trim text = text

theorem trimLeft_length (text : Bytes) :
    (trimLeft text).length ≤ text.length :=
  (text.dropWhile_suffix isSpace).length_le

theorem trimRight_length (text : Bytes) :
    (trimRight text).length ≤ text.length :=
  (text.rdropWhile_prefix isSpace).length_le

theorem trim_length (text : Bytes) :
    (trim text).length ≤ text.length :=
  (trimLeft_length _).trans (trimRight_length text)

/-- White space at the right end does not matter. -/
theorem trimRight_append_space
    (text : Bytes)
    {spaces : Bytes}
    (space : ∀ character ∈ spaces, isSpace character = true) :
    trimRight (text ++ spaces) = trimRight text := by
  induction spaces using List.reverseRecOn with
  | nil =>
      rw [List.append_nil]
  | append_singleton rest last inductionHypothesis =>
      rw [← List.append_assoc, trimRight,
        List.rdropWhile_concat_pos _ _ _ (space last (by simp))]
      exact inductionHypothesis fun character member =>
        space character (by simp [member])

/-- White space at the left end does not matter. -/
theorem trimLeft_space_append
    (text : Bytes)
    {spaces : Bytes}
    (space : ∀ character ∈ spaces, isSpace character = true) :
    trimLeft (spaces ++ text) = trimLeft text :=
  List.dropWhile_append_of_pos space

/-- White space around a text does not matter. -/
theorem trim_surround
    (text : Bytes)
    {before after : Bytes}
    (left : ∀ character ∈ before, isSpace character = true)
    (right : ∀ character ∈ after, isSpace character = true) :
    trim (before ++ text ++ after) = trim text := by
  rw [trim, trimRight_append_space _ right]
  induction text using List.reverseRecOn with
  | nil =>
      have empty : trimRight before = [] :=
        List.rdropWhile_eq_nil_iff.mpr left
      rw [List.append_nil, empty]
      rfl
  | append_singleton rest last inductionHypothesis =>
      rw [← List.append_assoc]
      by_cases space : isSpace last = true
      · rw [trimRight, List.rdropWhile_concat_pos _ _ _ space, trim,
          trimRight, List.rdropWhile_concat_pos _ _ _ space]
        exact inductionHypothesis
      · rw [trimRight, List.rdropWhile_concat_neg _ _ _ space, trim,
          trimRight, List.rdropWhile_concat_neg _ _ _ space,
          List.append_assoc]
        exact trimLeft_space_append _ left

theorem trim_trimRight (text : Bytes) : trim (trimRight text) = trim text := by
  have twice : trimRight (trimRight text) = trimRight text :=
    List.rdropWhile_idempotent isSpace text
  rw [trim, twice, trim]

theorem trim_trimLeft (text : Bytes) : trim (trimLeft text) = trim text := by
  have whole : text.takeWhile isSpace ++ trimLeft text ++ [] = text := by
    rw [List.append_nil]
    exact List.takeWhile_append_dropWhile
  have surround :
      trim (text.takeWhile isSpace ++ trimLeft text ++ []) =
        trim (trimLeft text) :=
    trim_surround _ (fun _ member => List.mem_takeWhile_imp member)
      (by simp)
  rw [← surround, whole]

/-- Trimming twice is trimming. -/
@[simp] theorem trim_trim (text : Bytes) : trim (trim text) = trim text := by
  rw [show trim text = trimLeft (trimRight text) from rfl, trim_trimLeft,
    trim_trimRight]
  rfl

/-- A text that begins and ends with other characters than white space. -/
theorem trimmed_of_ends
    {text : Bytes}
    (first : ∀ character ∈ text.head?, isSpace character = false)
    (last : ∀ character ∈ text.getLast?, isSpace character = false) :
    Trimmed text := by
  have right : trimRight text = text := by
    refine List.rdropWhile_eq_self_iff.mpr fun nonempty => ?_
    simpa using
      last _ (List.getLast?_eq_some_getLast nonempty)
  have left : trimLeft text = text := by
    cases text with
    | nil =>
        rfl
    | cons character rest =>
        exact List.dropWhile_cons_of_neg (by simpa using first character rfl)
  rw [Trimmed, trim, right, left]

/-! ## Lines -/

/-- `split_lines`, at a delimiter of one character. -/
def splitLines (text : Bytes) (delimiter : UInt8) : List Bytes :=
  match found : text.findIdx? (· == delimiter) with
  | some pos =>
      text.take pos :: splitLines (text.drop (pos + 1)) delimiter
  | none =>
      if getSequenceLength text = 0 then [] else [text]
termination_by text.length
decreasing_by
  obtain ⟨inside, _⟩ := List.findIdx?_eq_some_iff_findIdx_eq.mp found
  rw [List.length_drop]
  omega

section Lines

variable {delimiter : UInt8}

/-- A text without the delimiter is one line, or none when it is empty. -/
theorem splitLines_of_not_mem
    {text : Bytes}
    (free : delimiter ∉ text) :
    splitLines text delimiter = if text = [] then [] else [text] := by
  have none : text.findIdx? (· == delimiter) = none := by
    rw [List.findIdx?_eq_none_iff]
    intro character member
    exact beq_eq_false_iff_ne.mpr (ne_of_mem_of_not_mem member free)
  rw [splitLines]
  split
  · rename_i pos found
    rw [none] at found
    cases found
  · simp [getSequenceLength]

@[simp] theorem splitLines_nil : splitLines [] delimiter = [] := by
  rw [splitLines_of_not_mem (by simp), if_pos rfl]

/-- The first line ends at the first delimiter. -/
theorem splitLines_append_cons
    {line : Bytes}
    (free : delimiter ∉ line)
    (rest : Bytes) :
    splitLines (line ++ delimiter :: rest) delimiter =
      line :: splitLines rest delimiter := by
  have first :
      (line ++ delimiter :: rest).findIdx? (· == delimiter) =
        some line.length := by
    rw [List.findIdx?_eq_some_iff_getElem]
    refine ⟨by simp, by simp, fun index before => ?_⟩
    rw [List.getElem_append_left before]
    simpa using ne_of_mem_of_not_mem (List.getElem_mem before) free
  rw [splitLines]
  split
  · rename_i pos found
    rw [first] at found
    obtain rfl := Option.some.inj found
    simp
  · rename_i found
    rw [first] at found
    cases found

/-- A text is a line, or a line, a delimiter and a shorter text. -/
theorem lines_induction
    {motive : Bytes → Prop}
    (delimiter : UInt8)
    (line : ∀ text, delimiter ∉ text → motive text)
    (append :
      ∀ line rest,
        delimiter ∉ line →
        motive rest →
        motive (line ++ delimiter :: rest))
    (text : Bytes) :
    motive text := by
  induction size : text.length using Nat.strongRecOn generalizing text with
  | _ size inductionHypothesis =>
      by_cases member : delimiter ∈ text
      · obtain ⟨before, rest, rfl, free⟩ :=
          List.eq_append_cons_of_mem member
        refine append before rest free ?_
        exact inductionHypothesis rest.length (by simp [← size]; omega)
          rest rfl
      · exact line text member

/-- No line contains the delimiter. -/
theorem not_mem_splitLines
    {text line : Bytes}
    (listed : line ∈ splitLines text delimiter) :
    delimiter ∉ line := by
  induction text using lines_induction delimiter with
  | line text free =>
      rw [splitLines_of_not_mem free] at listed
      split at listed
      · cases listed
      · rwa [List.mem_singleton.mp listed]
  | append first rest free inductionHypothesis =>
      rw [splitLines_append_cons free, List.mem_cons] at listed
      rcases listed with rfl | later
      · exact free
      · exact inductionHypothesis later

/-- Ended lines and what stands behind them. -/
theorem splitLines_ended
    {lines : List Bytes}
    (free : ∀ line ∈ lines, delimiter ∉ line)
    (text : Bytes) :
    splitLines (lines.flatMap (· ++ [delimiter]) ++ text) delimiter =
      lines ++ splitLines text delimiter := by
  induction lines with
  | nil =>
      rfl
  | cons line rest inductionHypothesis =>
      rw [List.flatMap_cons, List.append_assoc, List.append_assoc,
        List.singleton_append,
        splitLines_append_cons (free line (by simp)),
        inductionHypothesis fun later member =>
          free later (by simp [member])]
      rfl

/-- The lines hold everything of the text but the delimiters. -/
theorem flatten_splitLines (text : Bytes) :
    (splitLines text delimiter).flatten =
      text.filter (· ≠ delimiter) := by
  have kept {line : Bytes} (free : delimiter ∉ line) :
      line.filter (· ≠ delimiter) = line :=
    List.filter_eq_self.mpr fun character member => by
      simpa using ne_of_mem_of_not_mem member free
  induction text using lines_induction delimiter with
  | line text free =>
      rw [splitLines_of_not_mem free, kept free]
      split <;> simp [*]
  | append first rest free inductionHypothesis =>
      rw [splitLines_append_cons free, List.flatten_cons,
        inductionHypothesis, List.filter_append, kept free]
      simp

/-- No line is longer than the text. -/
theorem length_le_of_mem_splitLines
    {text line : Bytes}
    (listed : line ∈ splitLines text delimiter) :
    line.length ≤ text.length := by
  calc
    line.length ≤ (splitLines text delimiter).flatten.length :=
      (List.sublist_flatten_of_mem listed).length_le
    _ ≤ text.length := by
      rw [flatten_splitLines]
      exact List.length_filter_le _ _

/-- A short piece and a delimiter add only short lines. -/
theorem splitLines_append_short
    {bound : Nat}
    {piece rest : Bytes}
    (short : piece.length ≤ bound)
    (later : ∀ line ∈ splitLines rest delimiter, line.length ≤ bound) :
    ∀ line ∈ splitLines (piece ++ delimiter :: rest) delimiter,
      line.length ≤ bound := by
  induction piece using lines_induction delimiter with
  | line piece free =>
      rw [splitLines_append_cons free]
      exact List.forall_mem_cons.mpr ⟨short, later⟩
  | append first piece free inductionHypothesis =>
      rw [List.length_append, List.length_cons] at short
      rw [List.append_assoc, List.cons_append, splitLines_append_cons free]
      exact List.forall_mem_cons.mpr
        ⟨by omega, inductionHypothesis (by omega)⟩

/-- Ended pieces have lines that are no longer than they are. -/
theorem splitLines_ended_short
    {bound : Nat}
    {pieces : List Bytes}
    {text : Bytes}
    (sizes : ∀ piece ∈ pieces, piece.length ≤ bound)
    (short : text.length ≤ bound) :
    ∀ line ∈ splitLines (pieces.flatMap (· ++ [delimiter]) ++ text)
        delimiter,
      line.length ≤ bound := by
  induction pieces with
  | nil =>
      exact fun line listed =>
        (length_le_of_mem_splitLines listed).trans short
  | cons piece rest inductionHypothesis =>
      rw [List.forall_mem_cons] at sizes
      rw [List.flatMap_cons, List.append_assoc, List.append_assoc]
      exact splitLines_append_short sizes.1 (inductionHypothesis sizes.2)

/-- How many lines a text has, by its delimiters and its last character. -/
theorem length_splitLines (text : Bytes) :
    (splitLines text delimiter).length =
      text.count delimiter +
        if text ≠ [] ∧ text.getLast? ≠ some delimiter then 1 else 0 := by
  induction text using lines_induction delimiter with
  | line text free =>
      rw [splitLines_of_not_mem free, List.count_eq_zero.mpr free]
      by_cases empty : text = []
      · simp [empty]
      · have last : text.getLast? ≠ some delimiter := fun same =>
          free (List.mem_of_getLast? same)
        simp [empty, last]
  | append first rest free inductionHypothesis =>
      rw [splitLines_append_cons free, List.length_cons,
        inductionHypothesis, List.count_append,
        List.count_eq_zero.mpr free, List.count_cons_self]
      cases rest with
      | nil =>
          simp
      | cons character others =>
          simp [List.getLast?_append]
          omega

/-- A text has at most one line more than characters. -/
theorem length_splitLines_le (text : Bytes) :
    (splitLines text delimiter).length ≤ text.length + 1 := by
  have delimiters := @List.count_le_length _ _ delimiter text
  rw [length_splitLines]
  split <;> omega

end Lines

end IqosXapp.Tabulate
