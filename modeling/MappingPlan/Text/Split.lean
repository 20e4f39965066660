/-!
# Splitting text at a separator

A text with `n` separators has `n + 1` pieces, empty ones included, and no
piece holds the separator.  Configuration paths and field paths are both read
this way, so the laws are stated once, over lists of characters.
-/

namespace MappingPlan.Text

def splitChars (separator : Char) : List Char → List (List Char)
  | [] => [[]]
  | c :: rest =>
      if c = separator then
        [] :: splitChars separator rest
      else
        match splitChars separator rest with
        | [] => [[c]]
        | piece :: pieces => (c :: piece) :: pieces

def split (separator : Char) (text : String) : List String :=
  (splitChars separator text.toList).map String.ofList

def splitOnceChars (separator : Char) : List Char → Option (List Char × List Char)
  | [] => none
  | c :: rest =>
      if c = separator then some ([], rest)
      else (splitOnceChars separator rest).map fun (before, after) => (c :: before, after)

def joinWith (separator : String) : List String → String
  | [] => ""
  | [text] => text
  | text :: rest => text ++ separator ++ joinWith separator rest

theorem splitChars_ne_nil (separator : Char) (text : List Char) :
    splitChars separator text ≠ [] := by
  cases text with
  | nil => simp [splitChars]
  | cons c rest =>
      simp only [splitChars]
      split
      · simp
      · split <;> simp

@[simp] theorem splitChars_nil (separator : Char) :
    splitChars separator [] = [[]] := rfl

@[simp] theorem splitChars_separator (separator : Char) (rest : List Char) :
    splitChars separator (separator :: rest) = [] :: splitChars separator rest := by
  simp [splitChars]

theorem splitChars_append_separator (separator : Char) (before after : List Char) :
    splitChars separator (before ++ separator :: after) =
      splitChars separator before ++ splitChars separator after := by
  induction before with
  | nil => simp
  | cons c rest ih =>
      simp only [List.cons_append, splitChars, ih]
      split
      · rfl
      · cases hpieces : splitChars separator rest with
        | nil => exact absurd hpieces (splitChars_ne_nil separator rest)
        | cons piece pieces => rfl

theorem splitChars_of_not_mem {separator : Char} {text : List Char}
    (habsent : separator ∉ text) :
    splitChars separator text = [text] := by
  induction text with
  | nil => rfl
  | cons c rest ih =>
      have hc : c ≠ separator := fun h => habsent (by simp [h])
      have hrest : separator ∉ rest := fun h => habsent (by simp [h])
      simp [splitChars, hc, ih hrest]

theorem split_of_not_mem {separator : Char} {text : String}
    (habsent : separator ∉ text.toList) : split separator text = [text] := by
  rw [split, splitChars_of_not_mem habsent, List.map_singleton, String.ofList_toList]

end MappingPlan.Text
