import InsertScript.Proofs.StoredTexts

/-!
# Physical lines

The lines of a text end with a line feed, a carriage return, or both (`linesOf`). A reader that
leaves line ends as they are stored hands out exactly the lines of its text, one after the other,
wherever the pieces meet that it takes (`TextReader.linesOf_of_readLine`).

That a line end is never torn is a matter of what follows the characters that are ready. A carriage
return at the end of a piece is kept back, and then it is the next character to come
(`TextReader.head_later`); so no line feed follows a carriage return that is ready
(`TextReader.Whole`).
-/

namespace InsertScript

/-! ### Lines of a text -/

/-- The rest of a line, whose characters so far are given last one first, and the lines behind
it. -/
def linesFrom (line : List Char) : List Char → List (List Char)
  | [] => if line = [] then [] else [line.reverse]
  | '\r' :: '\n' :: rest => ('\n' :: '\r' :: line).reverse :: linesFrom [] rest
  | c :: rest =>
      if c = '\n' ∨ c = '\r' then (c :: line).reverse :: linesFrom [] rest else linesFrom
        (c :: line) rest

/-- The lines of a text, each with its line end. The last one may have none. -/
def linesOf (text : List Char) : List (List Char) := linesFrom [] text

example :
    linesOf "a\r\n\nb\rc".toList = ["a\r\n".toList, "\n".toList, "b\r".toList, "c".toList] := by
  decide

namespace TextReader

variable {r s : TextReader}

/-! ### The text of a reader -/

/-- Everything that can be read. -/
def text (r : TextReader) : List Char := r.drain.1

/-- What can be read behind the characters that are ready. -/
def later (r : TextReader) : List Char :=
  match fill { r with ready := [] } 0 with
  | .ok (some next) => next.text
  | _ => []

theorem drainFrom_eq_match (done : List Char) (r : TextReader) :
    drainFrom done r = match fill { r with ready := [] } 0 with
      | .error fault => ((r.ready.reverseAux done).reverse, some fault)
      | .ok none => ((r.ready.reverseAux done).reverse, none)
      | .ok (some next) => drainFrom (r.ready.reverseAux done) next := by
  rw [drainFrom]
  split <;> rename_i h <;> rw [h]

/-- What has been read stays in front. -/
theorem fst_drainFrom (done : List Char) (r : TextReader) :
    (drainFrom done r).1 = done.reverse ++ r.text := by
  unfold text drain
  induction hdebt : r.debt using Nat.strong_induction_on generalizing r done with
  | _ debt ih =>
      subst hdebt
      rw [drainFrom_eq_match done r, drainFrom_eq_match [] r]
      cases hfill : fill { r with ready := [] } 0 with
      | error fault => simp
      | ok next? =>
          cases next? with
          | none => simp
          | some next =>
              have hless : next.debt < debt { r with ready := [] } := debt_fill hfill
              dsimp only
              rw [ih next.debt hless (r.ready.reverseAux done) next rfl,
                ih next.debt hless (r.ready.reverseAux []) next rfl]
              simp

/-- The text of a reader is what is ready and what comes behind it. -/
theorem text_eq (r : TextReader) : r.text = r.ready ++ r.later := by
  have hdrain := drainFrom_eq_match [] r
  unfold later
  rw [text, drain, hdrain]
  cases hfill : fill { r with ready := [] } 0 with
  | error fault => simp
  | ok next? =>
      cases next? with
      | none => simp
      | some next =>
          simp only [fst_drainFrom]
          simp

theorem later_of_fill {next : TextReader} (h : fill { r with ready := [] } 0 = .ok (some next)) :
    r.later = next.ready ++ next.later := by
  rw [later, h]
  exact text_eq next

theorem later_of_end (h : fill { r with ready := [] } 0 = .ok none) : r.later = [] := by
  rw [later, h]

/-! ### Line ends are not torn -/

/-- Does the reader leave line ends as they are stored, and does no line feed follow a carriage
return that is ready? -/
structure Whole (r : TextReader) : Prop where
  unify : r.unify = false
  untorn : Untorn r.ready r.later

theorem untorn_nil (b : List Char) : Untorn [] b := by
  intro hreturn
  cases hreturn

/-- A piece has at least one byte unless there is none. -/
theorem rest_eq_nil {wanted : Nat} (h : r.rest.take (r.nextSize wanted) = []) : r.rest = [] := by
  have hsize := pieceSize_le_nextSize r wanted
  have hpos : 0 < pieceSize := by decide
  rcases List.take_eq_nil_iff.1 h with hzero | hrest
  · omega
  · exact hrest

/-- A piece is received, or the carriage return that was kept back is all that is left. -/
theorem fill_cases {next : TextReader} {wanted : Nat} (h : r.fill wanted = .ok (some next)) :
    (r.heldReturn = true ∧ next.ready = r.ready ++ r.settle ['\r'] ∧ next.unify = r.unify ∧
      next.later = []) ∨ ∃ bytes text d, next = r.receive bytes text d := by
  unfold fill at h
  dsimp only at h
  cases hfeed : r.decoder.feed (r.rest.take (r.nextSize wanted))
    (r.rest.take (r.nextSize wanted)).isEmpty with
  | error fault =>
      rw [hfeed] at h
      cases h
  | ok fed =>
      obtain ⟨text, d⟩ := fed
      rw [hfeed] at h
      dsimp only at h
      by_cases hpiece : r.rest.take (r.nextSize wanted) = []
      · rw [hpiece] at h hfeed
        simp only [List.isEmpty_nil, if_true] at h
        unfold release at h
        by_cases hheld : r.heldReturn = true
        · rw [if_pos hheld] at h
          cases h
          refine .inl ⟨hheld, rfl, rfl, later_of_end ?_⟩
          have hrest := rest_eq_nil hpiece
          simp only [List.isEmpty_nil] at hfeed
          simp [fill, hrest, hfeed, release]
        · rw [if_neg hheld] at h
          cases h
      · have hsome : (r.rest.take (r.nextSize wanted)).isEmpty = false := by simpa using hpiece
        rw [hsome] at h
        cases h
        exact .inr ⟨_, text, d, rfl⟩

/-- What a piece makes ready where line ends stay as they are: no carriage return at its end, which
is kept back. -/
theorem receive_cases (hready : r.ready = []) (hunify : r.unify = false) (bytes : Nat)
    (text : List Char) (d : Decoder) :
    (r.receive bytes text d).ready = [] ∧ (r.receive bytes text d).heldReturn = r.heldReturn ∨
      text ≠ [] ∧ (r.receive bytes text d).heldReturn = true ∧
        (r.receive bytes text d).ready = (r.kept ++ text).dropLast ∨
      text ≠ [] ∧ (r.receive bytes text d).heldReturn = false ∧
        (r.receive bytes text d).ready = r.kept ++ text ∧
        (r.kept ++ text).getLast? ≠ some '\r' := by
  have hsettle (part : List Char) : r.settle part = part := by
    rw [settle, hunify, if_neg Bool.false_ne_true]
  have hsaved : (if (r.heldReturn && !text.isEmpty) = true then '\r' :: text else text)
      = if text = [] then [] else r.kept ++ text := by
    unfold kept
    cases text <;> cases r.heldReturn <;> rfl
  unfold receive
  rw [hsaved]
  simp only [hready, hsettle, List.nil_append]
  by_cases hempty : text = []
  · simp [hempty]
  · have hne : r.kept ++ text ≠ [] := List.append_ne_nil_of_right_ne_nil _ hempty
    have hfull : (r.kept ++ text).isEmpty = false := List.isEmpty_eq_false_iff.2 hne
    simp only [hempty, if_false, hfull, Bool.false_eq_true]
    by_cases hlast : (r.kept ++ text).getLast? = some '\r'
    · rw [hlast]
      exact .inr (.inl ⟨hempty, rfl, rfl⟩)
    · rw [beq_false_of_ne hlast]
      exact .inr (.inr ⟨hempty, rfl, rfl, hlast⟩)

/-- A carriage return that is kept back is the next character. -/
theorem head_later (hunify : r.unify = false) (hheld : r.heldReturn = true) :
    ∀ c ∈ r.later.head?, c = '\r' := by
  induction hdebt : r.debt using Nat.strong_induction_on generalizing r with
  | _ debt ih =>
      subst hdebt
      cases hfill : fill { r with ready := [] } 0 with
      | error fault => simp [later, hfill]
      | ok next? =>
          cases next? with
          | none => simp [later_of_end hfill]
          | some next =>
              have hless : next.debt < debt { r with ready := [] } := debt_fill hfill
              rw [later_of_fill hfill]
              rcases fill_cases hfill with ⟨-, hready, -, -⟩ | ⟨bytes, text, d, rfl⟩
              · simp [hready, settle, hunify]
              · rcases receive_cases (r := { r with ready := [] }) rfl hunify bytes text d with
                  ⟨hready, hkept⟩ | ⟨htext, -, hready⟩ | ⟨htext, -, hready, -⟩
                · -- the piece completes no character
                  rw [hready, List.nil_append]
                  exact ih _ hless hunify (hkept.trans hheld) rfl
                · rw [hready]
                  obtain ⟨c, more, rfl⟩ := List.exists_cons_of_ne_nil htext
                  simp [kept, hheld]
                · rw [hready]
                  simp [kept, hheld]

/-- Taking a piece tears no line end. -/
theorem whole_of_fill {next : TextReader} (hunify : r.unify = false)
    (h : fill { r with ready := [] } 0 = .ok (some next)) : next.Whole := by
  rcases fill_cases h with ⟨-, -, hsame, hlater⟩ | ⟨bytes, text, d, rfl⟩
  · refine ⟨hsame.trans hunify, ?_⟩
    rw [hlater]
    exact fun _ => nofun
  · refine ⟨hunify, ?_⟩
    rcases receive_cases (r := { r with ready := [] }) rfl hunify bytes text d with
      ⟨hready, -⟩ | ⟨-, hkept, -⟩ | ⟨-, -, hready, hlast⟩
    · rw [hready]
      exact untorn_nil _
    · intro _ hfeed
      have hreturn := head_later (r := TextReader.receive _ bytes text d) hunify hkept '\n' hfeed
      exact absurd hreturn (by decide)
    · rw [hready]
      exact fun hreturn => absurd hreturn hlast

/-! ### Reading lines -/

theorem linesFrom_other {c : Char} (hfeed : c ≠ '\n') (hreturn : c ≠ '\r') (line rest : List Char) :
    linesFrom line (c :: rest) = linesFrom (c :: line) rest := by
  rw [linesFrom]
  · simp [hfeed, hreturn]
  · exact fun _ h _ => hreturn h

theorem linesFrom_feed (line rest : List Char) :
    linesFrom line ('\n' :: rest) = ('\n' :: line).reverse :: linesFrom [] rest := by
  rw [linesFrom]
  · simp
  · exact fun _ h _ => absurd h (by decide)

theorem linesFrom_return {rest : List Char} (h : rest.head? ≠ some '\n') (line : List Char) :
    linesFrom line ('\r' :: rest) = ('\r' :: line).reverse :: linesFrom [] rest := by
  rw [linesFrom]
  · simp
  · intro more _ hrest
    rw [hrest] at h
    exact h rfl

/-- A line that ends in what is ready is the first one of the text, whatever follows. -/
theorem linesFrom_of_cutLine {line ready cut rest following : List Char}
    (h : cutLine line ready = (cut, some rest)) (huntorn : Untorn ready following) :
    cut ≠ [] ∧ linesFrom line (ready ++ following) = cut.reverse :: linesOf (rest ++ following) ∧
      Untorn rest following := by
  fun_induction cutLine line ready with
  | case1 line => cases h
  | case2 line after =>
      cases h
      exact ⟨List.cons_ne_nil _ _, rfl, huntorn.tail.tail⟩
  | case3 line c after hpair hend =>
      cases h
      refine ⟨List.cons_ne_nil _ _, ?_, huntorn.tail⟩
      rcases hend with rfl | rfl
      · exact linesFrom_feed line _
      · refine linesFrom_return ?_ line
        cases rest with
        | nil => exact huntorn rfl
        | cons x more =>
            intro hfeed
            cases hfeed
            exact hpair more rfl rfl
  | case4 line c after hpair hend ih =>
      rw [not_or] at hend
      obtain ⟨hne, hlines, hrest⟩ := ih h huntorn.tail
      exact ⟨hne, (linesFrom_other hend.1 hend.2 line _).trans hlines, hrest⟩

/-- A line that does not end in what is ready goes on behind it. -/
theorem linesFrom_of_cutLine_none {line ready cut : List Char}
    (h : cutLine line ready = (cut, none)) (following : List Char) :
    linesFrom line (ready ++ following) = linesFrom cut following := by
  fun_induction cutLine line ready with
  | case1 line =>
      cases h
      rfl
  | case2 line after => cases h
  | case3 line c after hpair hend => cases h
  | case4 line c after hpair hend ih =>
      rw [not_or] at hend
      exact (linesFrom_other hend.1 hend.2 line _).trans (ih h)

/-- What is handed out is the rest of the first line, or nothing at the end. -/
theorem linesFrom_of_readLineFrom {line found : List Char}
    (h : readLineFrom line r = .ok (found, s)) (hr : r.Whole) :
    s.Whole ∧ (found = [] → s.text = []) ∧
      linesFrom line r.text = if found = [] then [] else found :: linesOf s.text := by
  fun_induction readLineFrom line r with
  | case1 line r cut rest hcut =>
      cases h
      obtain ⟨hne, hlines, hrest⟩ := linesFrom_of_cutLine hcut hr.untorn
      have hfound : cut.reverse ≠ [] := by simpa using hne
      refine ⟨⟨hr.unify, hrest⟩, fun hnil => absurd hnil hfound, ?_⟩
      rw [if_neg hfound, text_eq r, hlines, text_eq]
      rfl
  | case2 => cases h
  | case3 line r cut hcut hfill =>
      cases h
      have hlines := linesFrom_of_cutLine_none hcut r.later
      have hend : text { r with ready := [] } = [] := (text_eq _).trans (later_of_end hfill)
      refine ⟨⟨hr.unify, untorn_nil _⟩, fun _ => hend, ?_⟩
      rw [text_eq r, hlines, later_of_end hfill, hend, linesFrom]
      simp [linesOf, linesFrom]
  | case4 line r cut hcut next hfill ih =>
      have hlines := linesFrom_of_cutLine_none hcut r.later
      rw [text_eq r, hlines, later_of_fill hfill, ← text_eq]
      exact ih h (whole_of_fill hr.unify hfill)

/-- A reader hands out the lines of its text. -/
theorem linesOf_of_readLine {line : List Char} (h : r.readLine = .ok (line, s)) (hr : r.Whole) :
    s.Whole ∧ (line = [] → s.text = []) ∧
      linesOf r.text = if line = [] then [] else line :: linesOf s.text :=
  linesFrom_of_readLineFrom h hr

theorem whole_ofBytes (encoding : Encoding) (data : Bytes) : (ofBytes encoding data false).Whole :=
  ⟨rfl, untorn_nil _⟩

end TextReader

end InsertScript
