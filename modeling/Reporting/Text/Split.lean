import Reporting.Text.Blank

/-!
# Parts of a text

Joining pieces with a separator, cutting a text at the characters of a class, its words, and the
search for a text in another. The main facts are `words_append`, that a blank between two texts
keeps their words apart, and `cut_joined`, that pieces joined with a separator can be cut again.
-/

namespace Reporting.Text

/-- Pieces with a separator between them. -/
def joined (separator : List Char) : List (List Char) → List Char
  | [] => []
  | [piece] => piece
  | piece :: rest => piece ++ separator ++ joined separator rest

/-- The pieces between the characters of a class; there is one more of them than there are such
characters. -/
def cut (separates : Char → Bool) : List Char → List (List Char)
  | [] => [[]]
  | c :: rest =>
    if separates c then [] :: cut separates rest
    else
      match cut separates rest with
      | [] => [[c]]
      | piece :: pieces => (c :: piece) :: pieces

/-- The words of a text: its pieces between blanks that hold anything. -/
def words (cs : List Char) : List (List Char) := (cut isBlank cs).filter (!·.isEmpty)

/-- The items of a list written with commas, trimmed, without the empty ones. -/
def commaItems (s : String) : List String :=
  (((cut (· = ',') s.toList).map trimChars).filter (!·.isEmpty)).map String.ofList

/-- Whether a text occurs in another. -/
def occursIn (needle : List Char) : List Char → Bool
  | [] => needle.isEmpty
  | c :: rest => needle.isPrefixOf (c :: rest) || occursIn needle rest

theorem joined_cons (separator piece : List Char) (rest : List (List Char)) :
    joined separator (piece :: rest) = piece ++ rest.flatMap (separator ++ ·) := by
  induction rest generalizing piece with
  | nil => simp [joined]
  | cons next rest ih => simp [joined, ih]

/-! ## Cutting and appending -/

theorem cut_ne_nil (separates : Char → Bool) (cs : List Char) : cut separates cs ≠ [] := by
  cases cs with
  | nil => simp [cut]
  | cons c rest =>
    rw [cut]
    split
    · simp
    · split <;> simp

theorem cut_append_separator {separates : Char → Bool} {c : Char} (h : separates c = true)
    (xs ys : List Char) :
    cut separates (xs ++ c :: ys) = cut separates xs ++ cut separates ys := by
  induction xs with
  | nil => simp [cut, h]
  | cons x rest ih =>
    simp only [List.cons_append, cut]
    split
    · simp [ih]
    · rw [ih]
      match cut separates rest, cut_ne_nil separates rest with
      | [], absurdity => exact absurd rfl absurdity
      | piece :: pieces, _ => rfl

theorem words_append {c : Char} (h : isBlank c = true) (xs ys : List Char) :
    words (xs ++ c :: ys) = words xs ++ words ys := by
  simp [words, cut_append_separator h]

theorem cut_of_forall_not {separates : Char → Bool} {cs : List Char}
    (h : ∀ c ∈ cs, separates c = false) : cut separates cs = [cs] := by
  induction cs with
  | nil => rfl
  | cons c rest ih =>
    rw [cut, h c (by simp), ih fun d hd => h d (by simp [hd])]
    rfl

/-- Cutting undoes joining, for pieces without separators. -/
theorem cut_joined {separates : Char → Bool} {separator : Char}
    (hseparator : separates separator = true) {pieces : List (List Char)} (hne : pieces ≠ [])
    (hpieces : ∀ piece ∈ pieces, ∀ c ∈ piece, separates c = false) :
    cut separates (joined [separator] pieces) = pieces := by
  induction pieces with
  | nil => exact absurd rfl hne
  | cons piece rest ih =>
    have hpiece := cut_of_forall_not (hpieces piece (by simp))
    cases rest with
    | nil => exact hpiece
    | cons next others =>
      rw [joined, List.append_assoc, List.singleton_append, cut_append_separator hseparator,
        hpiece, ih (by simp) fun p hp => hpieces p (List.mem_cons_of_mem _ hp)]
      · rfl
      · simp

end Reporting.Text
