import Mathlib.Data.List.DropRight
import RequestParams.Text.Split

set_option autoImplicit false
set_option relaxedAutoImplicit false

/-!
The pieces of a text.  A run of characters of a kind is told from what is behind it; a trimmed text
has no blank at either end; the pieces between separators hold no separator.
-/

namespace RequestParams.Text

section

variable {p : Char → Bool} {run behind : List Char}

theorem takeWhile_run (row : ∀ c ∈ run, p c = true) (stop : ∀ c ∈ behind.head?, p c = false) :
    (run ++ behind).takeWhile p = run := by
  rw [List.takeWhile_append_of_pos row]
  cases behind with
  | nil => simp
  | cons c rest => simp [stop c rfl]

theorem dropWhile_run (row : ∀ c ∈ run, p c = true) (stop : ∀ c ∈ behind.head?, p c = false) :
    (run ++ behind).dropWhile p = behind := by
  rw [List.dropWhile_append_of_pos row]
  cases behind with
  | nil => simp
  | cons c rest => simp [stop c rfl]

end

def Trimmed (text : List Char) : Prop :=
  (∀ c ∈ text.head?, isBlank c = false) ∧ ∀ c ∈ text.getLast?, isBlank c = false

private theorem dropWhile_of_head? {text : List Char}
    (first : ∀ c ∈ text.head?, isBlank c = false) : text.dropWhile isBlank = text := by
  cases text with
  | nil => rfl
  | cons c rest => exact List.dropWhile_cons_of_neg (by simp [first c rfl])

private theorem of_mem_head?_dropWhile {text : List Char} {c : Char}
    (first : c ∈ (text.dropWhile isBlank).head?) : isBlank c = false := by
  have kept := List.head?_dropWhile_not isBlank text
  rw [Option.mem_def] at first
  simpa only [first] using kept

theorem trimmed_trim (text : List Char) : Trimmed (trim text) := by
  constructor
  · intro c first
    obtain ⟨behind, whole⟩ : trim text <+: trimStart text := List.rdropWhile_prefix isBlank _
    have kept : c ∈ (trimStart text).head? := by
      rw [← whole, List.head?_append, Option.mem_def.mp first]
      rfl
    exact of_mem_head?_dropWhile kept
  · intro c last
    rw [trim, trimEnd, List.getLast?_reverse] at last
    exact of_mem_head?_dropWhile last

theorem Trimmed.trim_eq {text : List Char} (trimmed : Trimmed text) : trim text = text := by
  have start : trimStart text = text := dropWhile_of_head? trimmed.1
  have back : text.reverse.dropWhile isBlank = text.reverse :=
    dropWhile_of_head? (by simpa using trimmed.2)
  rw [trim, start, trimEnd, back, List.reverse_reverse]

theorem mem_of_mem_trim {text : List Char} {c : Char} (mem : c ∈ trim text) : c ∈ text := by
  have kept := (List.rdropWhile_prefix isBlank (trimStart text)).subset mem
  exact List.dropWhile_subset isBlank kept

theorem notMem_of_mem_splitOn {separator : Char} {text piece : List Char}
    (mem : piece ∈ text.splitOn separator) : separator ∉ piece := by
  induction text generalizing piece with
  | nil => simp_all
  | cons c rest ih =>
    rw [List.splitOn_cons_eq_if_modifyHead] at mem
    split at mem
    · rcases List.mem_cons.mp mem with rfl | behind
      · exact List.not_mem_nil
      · exact ih behind
    · rename_i other
      cases pieces : rest.splitOn separator with
      | nil => simp [pieces] at mem
      | cons first others =>
        rw [pieces] at ih mem
        rcases List.mem_cons.mp mem with rfl | behind
        · have free := ih List.mem_cons_self
          simpa [free] using fun same : separator = c => other (by simp [same])
        · exact ih (List.mem_cons_of_mem _ behind)

end RequestParams.Text
