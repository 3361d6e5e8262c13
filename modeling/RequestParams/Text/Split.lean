set_option autoImplicit false
set_option relaxedAutoImplicit false

/-!
White space of every script, texts without it at their ends, and texts cut at their first
separator.
-/

namespace RequestParams.Text

def isBlank (c : Char) : Bool :=
  let code := c.toNat
  (9 ≤ code && code ≤ 13) || code = 0x20 || code = 0x85 || code = 0xa0 || code = 0x1680 ||
    (0x2000 ≤ code && code ≤ 0x200a) || code = 0x2028 || code = 0x2029 || code = 0x202f ||
    code = 0x205f || code = 0x3000

def trimStart (text : List Char) : List Char := text.dropWhile isBlank

def trimEnd (text : List Char) : List Char := (text.reverse.dropWhile isBlank).reverse

def trim (text : List Char) : List Char := trimEnd (trimStart text)

def isBlankText (text : String) : Bool := text.toList.all isBlank

example : trim [' ', '\u00a0', 'a', ' ', 'b', '\u3000', '\t'] = ['a', ' ', 'b'] := by decide

example : trim ['\u200b', 'a', '\ufeff'] = ['\u200b', 'a', '\ufeff'] := by decide

/-! ### Separators -/

def splitFirst (separator : Char) : List Char → Option (List Char × List Char)
  | [] => none
  | c :: rest =>
    if c = separator then some ([], rest)
    else (splitFirst separator rest).map fun (before, behind) => (c :: before, behind)

theorem eq_of_splitFirst {separator : Char} {text before behind : List Char}
    (cut : splitFirst separator text = some (before, behind)) :
    text = before ++ separator :: behind := by
  induction text generalizing before with
  | nil => simp [splitFirst] at cut
  | cons c rest ih =>
    unfold splitFirst at cut
    split at cut
    · rename_i here
      simp_all
    · obtain ⟨⟨head, tail⟩, found, rebuilt⟩ := Option.map_eq_some_iff.mp cut
      simp only [Prod.mk.injEq] at rebuilt
      obtain ⟨rfl, rfl⟩ := rebuilt
      simp [ih found]

theorem notMem_of_splitFirst {separator : Char} {text before behind : List Char}
    (cut : splitFirst separator text = some (before, behind)) : separator ∉ before := by
  induction text generalizing before with
  | nil => simp [splitFirst] at cut
  | cons c rest ih =>
    unfold splitFirst at cut
    split at cut
    · simp_all
    · rename_i other
      obtain ⟨⟨head, tail⟩, found, rebuilt⟩ := Option.map_eq_some_iff.mp cut
      simp only [Prod.mk.injEq] at rebuilt
      obtain ⟨rfl, rfl⟩ := rebuilt
      simpa [ih found] using Ne.symm other

theorem splitFirst_append {separator : Char} {before : List Char} (behind : List Char)
    (free : separator ∉ before) :
    splitFirst separator (before ++ separator :: behind) = some (before, behind) := by
  induction before with
  | nil => simp [splitFirst]
  | cons c rest ih =>
    simp only [List.mem_cons, not_or] at free
    simp [splitFirst, Ne.symm free.1, ih free.2]

end RequestParams.Text
