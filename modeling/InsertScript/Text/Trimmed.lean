/-!
# Trimmed text

Text without certain characters at its two ends; inside it they stay. `exists_append_trimBy` says
that nothing else is lost, and `trimBy_of_ends` that nothing is lost between ends that stay.
-/

namespace InsertScript

/-- Text without the characters at its two ends that are to be dropped. -/
def trimBy (drops : Char → Bool) (text : List Char) : List Char :=
  ((text.dropWhile drops).reverse.dropWhile drops).reverse

/-- A text is its trimmed form between characters that are dropped. -/
theorem exists_append_trimBy (drops : Char → Bool) (text : List Char) :
    ∃ before after, text = before ++ trimBy drops text ++ after ∧
      before.all drops = true ∧ after.all drops = true := by
  refine ⟨text.takeWhile drops, ((text.dropWhile drops).reverse.takeWhile drops).reverse,
    ?_, ?_, ?_⟩
  · rw [List.append_assoc, trimBy, ← List.reverse_append, List.takeWhile_append_dropWhile,
      List.reverse_reverse, List.takeWhile_append_dropWhile]
  · exact List.all_takeWhile
  · rw [List.all_reverse]
    exact List.all_takeWhile

/-- What is left was there. -/
theorem mem_of_mem_trimBy {drops : Char → Bool} {text : List Char} {c : Char}
    (h : c ∈ trimBy drops text) : c ∈ text := by
  obtain ⟨before, after, htext, -, -⟩ := exists_append_trimBy drops text
  rw [htext]
  exact List.mem_append_left after (List.mem_append_right before h)

/-- A trimmed text begins with a character that stays. -/
theorem head?_trimBy {drops : Char → Bool} {text : List Char} :
    ∀ c ∈ (trimBy drops text).head?, drops c = false := by
  intro c hc
  have hfirst := List.head?_dropWhile_not drops text
  have hfront : text.dropWhile drops
      = trimBy drops text ++ ((text.dropWhile drops).reverse.takeWhile drops).reverse := by
    rw [trimBy, ← List.reverse_append, List.takeWhile_append_dropWhile, List.reverse_reverse]
  rw [hfront, List.head?_append, Option.mem_def.1 hc] at hfirst
  exact hfirst

/-- So does it end. -/
theorem getLast?_trimBy {drops : Char → Bool} {text : List Char} :
    ∀ c ∈ (trimBy drops text).getLast?, drops c = false := by
  intro c hc
  have hlast := List.head?_dropWhile_not drops (text.dropWhile drops).reverse
  rw [trimBy, List.getLast?_reverse] at hc
  rw [Option.mem_def.1 hc] at hlast
  exact hlast

theorem dropWhile_of_head {drops : Char → Bool} {text : List Char}
    (h : ∀ c ∈ text.head?, drops c = false) : text.dropWhile drops = text := by
  cases text with
  | nil => rfl
  | cons c text => exact List.dropWhile_cons_of_neg (by simp [h c rfl])

/-- Between ends that stay nothing is trimmed. -/
theorem trimBy_of_ends {drops : Char → Bool} {text : List Char}
    (hhead : ∀ c ∈ text.head?, drops c = false) (hlast : ∀ c ∈ text.getLast?, drops c = false) :
    trimBy drops text = text := by
  have hback : text.reverse.dropWhile drops = text.reverse :=
    dropWhile_of_head fun c hc => hlast c (List.head?_reverse ▸ hc)
  rw [trimBy, dropWhile_of_head hhead, hback, List.reverse_reverse]

end InsertScript
