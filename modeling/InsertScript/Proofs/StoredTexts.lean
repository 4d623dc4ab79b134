import InsertScript.Text.Reader
import Mathlib.Data.List.Basic
import Mathlib.Data.List.TakeWhile

/-!
# Stored texts

What a reader hands out of stored bytes. It takes them in pieces, and neither a character nor a line
end is torn where two pieces meet: bytes that are a text in their encoding come out as this text,
with its line ends made line feeds if the reader unifies them (`TextReader.drain_ofBytes`).

`Decoder.Completes` says which characters a decoder will still make of some bytes, and
`TextReader.Holds` which ones a reader will still hand out. Taking a piece moves characters from
those that are held to those that are ready (`TextReader.Filling`), and the rest follows from this
one step.
-/

namespace InsertScript

/-! ### Line ends -/

section LineEnds

variable {a b text rest : List Char} {c : Char}

/-- A text from its end on: a line end of two characters is one step, and so is one of a carriage
return alone. -/
@[elab_as_elim]
theorem lineEnds_induction {motive : List Char → Prop} (nil : motive [])
    (pair : ∀ rest, motive rest → motive ('\r' :: '\n' :: rest))
    (lone : ∀ rest, rest.head? ≠ some '\n' → motive rest → motive ('\r' :: rest))
    (other : ∀ c rest, c ≠ '\r' → motive rest → motive (c :: rest)) (text : List Char) :
    motive text := by
  refine unifyLineEndsAux.induct (motive := fun _ text => motive text) (fun _ => nil)
    (fun _ rest ih => pair rest ih)
    (fun _ rest hfeed ih => lone rest ?_ ih) (fun _ c rest _ hreturn ih => other c rest hreturn ih)
      [] text
  intro hhead
  obtain ⟨more, hrest⟩ := List.head?_eq_some_iff.1 hhead
  exact hfeed more hrest

theorem unifyLineEndsAux_pair (done rest : List Char) :
    unifyLineEndsAux done ('\r' :: '\n' :: rest) = unifyLineEndsAux ('\n' :: done) rest := by
  rw [unifyLineEndsAux]

theorem unifyLineEndsAux_lone (done : List Char) (h : rest.head? ≠ some '\n') :
    unifyLineEndsAux done ('\r' :: rest) = unifyLineEndsAux ('\n' :: done) rest := by
  refine unifyLineEndsAux.eq_3 _ _ fun more hrest => ?_
  rw [hrest] at h
  exact h rfl

theorem unifyLineEndsAux_other (done : List Char) (h : c ≠ '\r') (rest : List Char) :
    unifyLineEndsAux done (c :: rest) = unifyLineEndsAux (c :: done) rest :=
  unifyLineEndsAux.eq_4 _ _ _ (fun _ hreturn _ => h hreturn) h

/-- The characters so far stay in front. -/
theorem unifyLineEndsAux_eq (done text : List Char) :
    unifyLineEndsAux done text = done.reverse ++ unifyLineEnds text := by
  unfold unifyLineEnds
  induction text using lineEnds_induction generalizing done with
  | nil => simp [unifyLineEndsAux]
  | pair rest ih =>
      rw [unifyLineEndsAux_pair, unifyLineEndsAux_pair, ih ('\n' :: done), ih ['\n']]
      simp
  | lone rest hfeed ih =>
      rw [unifyLineEndsAux_lone _ hfeed, unifyLineEndsAux_lone _ hfeed,
        ih ('\n' :: done), ih ['\n']]
      simp
  | other c rest hreturn ih =>
      rw [unifyLineEndsAux_other _ hreturn, unifyLineEndsAux_other _ hreturn,
        ih (c :: done), ih [c]]
      simp

@[simp] theorem unifyLineEnds_nil : unifyLineEnds [] = [] := rfl

@[simp] theorem unifyLineEnds_pair (rest : List Char) :
    unifyLineEnds ('\r' :: '\n' :: rest) = '\n' :: unifyLineEnds rest := by
  rw [unifyLineEnds, unifyLineEndsAux_pair, unifyLineEndsAux_eq]
  rfl

theorem unifyLineEnds_lone (h : rest.head? ≠ some '\n') :
    unifyLineEnds ('\r' :: rest) = '\n' :: unifyLineEnds rest := by
  rw [unifyLineEnds, unifyLineEndsAux_lone [] h, unifyLineEndsAux_eq]
  rfl

theorem unifyLineEnds_other (h : c ≠ '\r') (rest : List Char) :
    unifyLineEnds (c :: rest) = c :: unifyLineEnds rest := by
  rw [unifyLineEnds, unifyLineEndsAux_other [] h, unifyLineEndsAux_eq]
  rfl

/-- No line end is torn between the two texts. -/
def Untorn (a b : List Char) : Prop := a.getLast? = some '\r' → b.head? ≠ some '\n'

theorem Untorn.tail (h : Untorn (c :: a) b) : Untorn a b := by
  intro hlast
  refine h ?_
  cases a with
  | nil => cases hlast
  | cons x a => rw [List.getLast?_cons_cons, hlast]

/-- Two texts are unified one by one if no line end is torn between them. -/
theorem unifyLineEnds_append (h : Untorn a b) :
    unifyLineEnds (a ++ b) = unifyLineEnds a ++ unifyLineEnds b := by
  induction a using lineEnds_induction with
  | nil => rfl
  | pair rest ih => simp [ih h.tail.tail]
  | lone rest hfeed ih =>
      have hnext : (rest ++ b).head? ≠ some '\n' := by
        cases rest with
        | nil => exact h rfl
        | cons x rest => exact hfeed
      rw [List.cons_append, unifyLineEnds_lone hnext, unifyLineEnds_lone hfeed, ih h.tail,
        List.cons_append]
  | other c rest hreturn ih =>
      rw [List.cons_append, unifyLineEnds_other hreturn, unifyLineEnds_other hreturn, ih h.tail,
        List.cons_append]

/-- No carriage return is left. -/
theorem return_not_mem_unifyLineEnds (text : List Char) : '\r' ∉ unifyLineEnds text := by
  induction text using lineEnds_induction with
  | nil => simp
  | pair rest ih => simp [ih]
  | lone rest hfeed ih => simp [unifyLineEnds_lone hfeed, ih]
  | other c rest hreturn ih => simp [unifyLineEnds_other hreturn, ih, hreturn.symm]

theorem unifyLineEnds_eq_self_iff : unifyLineEnds text = text ↔ '\r' ∉ text := by
  constructor
  · intro h
    rw [← h]
    exact return_not_mem_unifyLineEnds text
  · intro h
    induction text with
    | nil => rfl
    | cons c rest ih =>
        rw [List.mem_cons, not_or] at h
        rw [unifyLineEnds_other (Ne.symm h.1), ih h.2]

end LineEnds

/-! ### Bytes in pieces -/

namespace Utf8

/-- Where the bytes stand matters to faults only. -/
theorem scan_of_ok {pending data : Bytes} {position : Nat} {done : List Char}
    {result : List Char × Bytes} (h : scan pending position done data = .ok result) (other : Nat) :
    scan pending other done data = .ok result := by
  induction data generalizing pending position other done with
  | nil => exact h
  | cons b rest ih =>
      rw [scan] at h ⊢
      cases hstep : step pending b with
      | hold held =>
          simp only [hstep] at h ⊢
          exact ih h _
      | complete c =>
          simp only [hstep] at h ⊢
          exact ih h _
      | refuse width reason => simp [hstep] at h

/-- Only complete characters are no fault at the end. -/
theorem fault?_eq_none {pending : Bytes} {position : Nat} :
    fault? pending position = none ↔ pending = [] := by
  constructor
  · intro h
    unfold fault? at h
    split at h
    · rfl
    · split at h
      · cases h
      · cases h
    · cases h
  · rintro rfl
    rfl

/-- Bytes of a text that arrive in two pieces are two texts, if the bytes of a character between
them are held. -/
theorem scan_split {pending a b : Bytes} {position : Nat} {text : List Char}
    (h : scan pending position [] (a ++ b) = .ok (text, [])) :
      ∃ front back held, text = front ++ back ∧
      (∀ other, scan pending other [] a = .ok (front, held)) ∧
      ∀ other, scan held other [] b = .ok (back, []) := by
  rw [scan_append] at h
  cases hfront : scan pending position [] a with
  | error fault =>
      rw [hfront] at h
      cases h
  | ok read =>
      obtain ⟨front, held⟩ := read
      rw [hfront] at h
      change scan held (position + a.length) front.reverse b = .ok (text, []) at h
      rw [scan_eq] at h
      cases hback : scan held (position + a.length) [] b with
      | error fault =>
          rw [hback] at h
          cases h
      | ok read =>
          obtain ⟨back, left⟩ := read
          rw [hback] at h
          simp only [Except.map, List.reverse_reverse, Except.ok.injEq, Prod.mk.injEq] at h
          obtain ⟨rfl, rfl⟩ := h
          exact ⟨front, back, held, rfl, scan_of_ok hfront, scan_of_ok hback⟩

end Utf8

namespace Encoding

theorem decodeSingle_eq_ok {encoding : Encoding} {data : Bytes} {text : List Char} :
    encoding.decodeSingle data = .ok text ↔
      (∀ b ∈ data, b.toNat < encoding.singleByteLimit) ∧
      data.map (fun b => Char.ofNat b.toNat) = text := by
  unfold decodeSingle
  dsimp only
  split
  · rename_i hnone
    have hall := List.dropWhile_eq_nil_iff.1 hnone
    simp only [decide_eq_true_eq] at hall
    simp only [Except.ok.injEq, iff_and_self]
    exact fun _ => hall
  · rename_i b rest hrest
    refine ⟨nofun, fun h => ?_⟩
    rw [List.dropWhile_eq_nil_iff.2 fun b hb => decide_eq_true (h.1 b hb)] at hrest
    cases hrest

theorem decodeSingle_split {encoding : Encoding} {a b : Bytes} {text : List Char}
    (h : encoding.decodeSingle (a ++ b) = .ok text) :
    ∃ front back, text = front ++ back ∧
      encoding.decodeSingle a = .ok front ∧ encoding.decodeSingle b = .ok back := by
  obtain ⟨hfits, htext⟩ := decodeSingle_eq_ok.1 h
  rw [List.forall_mem_append] at hfits
  rw [List.map_append] at htext
  exact ⟨_, _, htext.symm, decodeSingle_eq_ok.2 ⟨hfits.1, rfl⟩, decodeSingle_eq_ok.2 ⟨hfits.2, rfl⟩⟩

end Encoding

namespace Decoder

variable {d : Decoder} {a b data : Bytes} {text : List Char}

/-- May these bytes be the beginning of a mark that is not complete? -/
def BeginsMark (data : Bytes) : Prop :=
  data.length < Encoding.mark.length ∧ data.isPrefixOf Encoding.mark = true

/-- Do these bytes complete a text, together with those that are held? -/
def Completes (d : Decoder) (data : Bytes) (text : List Char) : Prop :=
  match d.encoding with
  | .utf8 => ∀ position, Utf8.scan d.pending position [] data = .ok (text, [])
  | .utf8Marked =>
      if d.atStart then BeginsMark d.pending ∧
        ∀ position, Utf8.scan [] position [] (Encoding.dropMark (d.pending ++ data)) =
          .ok (text, [])
      else ∀ position, Utf8.scan d.pending position [] data = .ok (text, [])
  | .latin1 | .ascii => d.encoding.decodeSingle data = .ok text

/-- What is a text as a whole is completed by a decoder that has not begun. -/
theorem completes_of_decode {encoding : Encoding} (h : encoding.decode data = .ok text) :
    Completes { encoding } data text := by
  have hutf8 {data : Bytes} (h : (Utf8.decode data).mapError Encoding.ofUtf8Fault = .ok text)
      (position : Nat) : Utf8.scan [] position [] data = .ok (text, []) := by
    unfold Utf8.decode at h
    cases hscan : Utf8.scan [] 0 [] data with
    | error fault => simp [hscan, Except.mapError] at h
    | ok read =>
        obtain ⟨found, left⟩ := read
        simp only [hscan] at h
        cases hfault : Utf8.fault? left data.length with
        | some fault => simp [hfault, Except.mapError] at h
        | none =>
            simp only [hfault, Except.mapError, Except.ok.injEq] at h
            rw [Utf8.fault?_eq_none] at hfault
            rw [hfault] at hscan
            rw [← h]
            exact Utf8.scan_of_ok hscan position
  cases encoding with
  | utf8 => exact hutf8 h
  | utf8Marked => exact ⟨⟨by decide, rfl⟩, hutf8 h⟩
  | latin1 => exact h
  | ascii => exact h

theorem feedUtf8_of_scan {pending held : Bytes}
    (h : ∀ position, Utf8.scan pending position [] data = .ok (text, held)) :
    d.feedUtf8 pending data false = .ok (text, { d with pending := held, atStart := false }) := by
  rw [feedUtf8, h]
  rfl

/-- Once there are enough bytes to tell, a mark is left out whole. -/
theorem dropMark_append (h : ¬ BeginsMark a) (b : Bytes) :
    Encoding.dropMark (a ++ b) = Encoding.dropMark a ++ b := by
  simp only [BeginsMark, List.isPrefixOf_iff_prefix] at h
  unfold Encoding.dropMark
  simp only [List.isPrefixOf_iff_prefix]
  by_cases hmark : Encoding.mark <+: a
  · rw [if_pos hmark, if_pos (hmark.trans (List.prefix_append a b)),
      List.drop_append_of_le_length hmark.length_le]
  · have hnone : ¬ Encoding.mark <+: a ++ b := by
      intro hboth
      rcases Nat.lt_or_ge a.length Encoding.mark.length with hshort | hlong
      · exact h ⟨hshort, List.prefix_of_prefix_length_le (List.prefix_append a b) hboth
          (Nat.le_of_lt hshort)⟩
      · exact hmark (List.prefix_of_prefix_length_le hboth (List.prefix_append a b) hlong)
    rw [if_neg hmark, if_neg hnone]

/-- A piece of the bytes that complete a text completes the front of it. -/
theorem feed_piece (h : d.Completes (a ++ b) text) : ∃ front back d', text = front ++ back ∧
    d.feed a false = .ok (front, d') ∧ d'.Completes b back := by
  obtain ⟨encoding, pending, atStart⟩ := d
  cases encoding with
  | utf8 =>
      obtain ⟨front, back, held, htext, hfront, hback⟩ := Utf8.scan_split (h 0)
      exact ⟨front, back, _, htext, feedUtf8_of_scan hfront, hback⟩
  | utf8Marked =>
      cases atStart with
      | false =>
          obtain ⟨front, back, held, htext, hfront, hback⟩ := Utf8.scan_split (h 0)
          exact ⟨front, back, _, htext, feedUtf8_of_scan hfront, hback⟩
      | true =>
          obtain ⟨-, hscan⟩ : BeginsMark pending ∧
            ∀ position, Utf8.scan [] position [] (Encoding.dropMark (pending ++ (a ++ b))) =
              .ok (text, []) :=
              h
          rw [← List.append_assoc] at hscan
          simp only [feed, if_true]
          by_cases hmark : BeginsMark (pending ++ a)
          · -- nothing comes out before it is known whether this is a mark
            rw [if_pos (by simpa [BeginsMark] using hmark)]
            exact ⟨[], text, _, rfl, rfl, hmark, hscan⟩
          · rw [dropMark_append hmark] at hscan
            rw [if_neg (by simpa [BeginsMark] using hmark)]
            obtain ⟨front, back, held, htext, hfront, hback⟩ := Utf8.scan_split (hscan 0)
            exact ⟨front, back, _, htext, feedUtf8_of_scan hfront, hback⟩
  | latin1 =>
      obtain ⟨front, back, htext, hfront, hback⟩ := Encoding.decodeSingle_split h
      exact ⟨front, back, ⟨.latin1, pending, atStart⟩, htext, congrArg (Except.map _) hfront, hback⟩
  | ascii =>
      obtain ⟨front, back, htext, hfront, hback⟩ := Encoding.decodeSingle_split h
      exact ⟨front, back, ⟨.ascii, pending, atStart⟩, htext, congrArg (Except.map _) hfront, hback⟩

theorem completed_of_scan {pending : Bytes} {position : Nat}
    (h : Utf8.scan pending position [] [] = .ok (text, [])) : text = [] ∧ pending = [] := by
  simp only [Utf8.scan, List.reverse_nil, Except.ok.injEq, Prod.mk.injEq] at h
  exact ⟨h.1.symm, h.2⟩

/-- The beginning of a mark is no text. -/
theorem eq_nil_of_beginsMark (hmark : BeginsMark data)
    (h : ∀ position, Utf8.scan [] position [] (Encoding.dropMark data) = .ok (text, [])) :
    text = [] ∧ data = [] := by
  obtain ⟨hlength, hbegins⟩ := hmark
  match data, hlength, hbegins with
  | [], _, _ => exact completed_of_scan (h 0)
  | [first], _, hbegins =>
      obtain rfl : first = 0xEF := by simpa [Encoding.mark] using hbegins
      cases h 0
  | [first, second], _, hbegins =>
      obtain ⟨rfl, rfl⟩ : first = 0xEF ∧ second = 0xBB := by simpa [Encoding.mark] using hbegins
      cases h 0
  | _ :: _ :: _ :: more, hlength, _ =>
      have hlong : ¬ more.length + 1 + 1 + 1 < 3 := by omega
      exact absurd hlength hlong

/-- With all bytes taken there is nothing left to complete. -/
theorem feed_end (h : d.Completes [] text) : text = [] ∧ ∃ d', d.feed [] true = .ok ([], d') := by
  obtain ⟨encoding, pending, atStart⟩ := d
  cases encoding with
  | utf8 =>
      obtain ⟨rfl, rfl⟩ := completed_of_scan (h 0)
      exact ⟨rfl, _, rfl⟩
  | utf8Marked =>
      cases atStart with
      | false =>
          obtain ⟨rfl, rfl⟩ := completed_of_scan (h 0)
          exact ⟨rfl, _, rfl⟩
      | true =>
          obtain ⟨hmark, hscan⟩ : BeginsMark pending ∧
            ∀ position, Utf8.scan [] position [] (Encoding.dropMark (pending ++ [])) =
              .ok (text, []) :=
              h
          rw [List.append_nil] at hscan
          obtain ⟨rfl, rfl⟩ := eq_nil_of_beginsMark hmark hscan
          exact ⟨rfl, _, rfl⟩
  | latin1 =>
      obtain ⟨-, rfl⟩ := Encoding.decodeSingle_eq_ok.1 h
      exact ⟨rfl, _, rfl⟩
  | ascii =>
      obtain ⟨-, rfl⟩ := Encoding.decodeSingle_eq_ok.1 h
      exact ⟨rfl, _, rfl⟩

end Decoder

/-! ### Readers -/

namespace TextReader

variable {r s : TextReader} {text : List Char}

/-- The carriage return that is kept back, if there is one. -/
def kept (r : TextReader) : List Char := if r.heldReturn then ['\r'] else []

/-- Are these the characters that follow those that are ready, with their line ends as they are
stored? -/
def Holds (r : TextReader) (text : List Char) : Prop :=
  ∃ back, text = r.kept ++ back ∧ r.decoder.Completes r.rest back

theorem settle_append {front back : List Char} (h : Untorn front back) :
    r.settle (front ++ back) = r.settle front ++ r.settle back := by
  unfold settle
  split
  · exact unifyLineEnds_append h
  · rfl

/-- What taking a piece comes to for a reader that holds a text: it is at its end, or the front of
the text becomes ready. -/
inductive Filling (r : TextReader) (text : List Char) : Option TextReader → Prop where
  | finished (hend : text = []) : Filling r text none
  | moved (s : TextReader) (front back : List Char) (htext : text = front ++ back)
      (huntorn : Untorn front back)
      (hready : s.ready = r.ready ++ r.settle front) (hunify : s.unify = r.unify)
      (hholds : s.Holds back) : Filling r text (some s)

@[simp] theorem settle_nil (r : TextReader) : r.settle [] = [] := by
  unfold settle
  split <;> rfl

/-- At the end of the bytes only a carriage return may be left. -/
theorem release_filling (h : r.Holds text) (hrest : r.rest = []) : Filling r text r.release := by
  obtain ⟨back, htext, hcompletes⟩ := h
  have hend := hcompletes
  rw [hrest] at hend
  obtain ⟨rfl, -⟩ := Decoder.feed_end hend
  rw [List.append_nil] at htext
  unfold release
  cases hheld : r.heldReturn with
  | false => exact .finished (by rw [htext, kept, hheld]; rfl)
  | true =>
      exact .moved _ ['\r'] [] (by rw [htext, kept, hheld]; rfl) nofun rfl rfl ⟨[], rfl, hcompletes⟩

/-- A piece moves what it completes to the characters that are ready, but for a carriage return at
its end. -/
theorem receive_filling {front back : List Char} {bytes : Nat} {d : Decoder}
    (hback : d.Completes (r.rest.drop bytes) back) :
    Filling r (r.kept ++ (front ++ back)) (some (r.receive bytes front d)) := by
  have hsaved : (if (r.heldReturn && !front.isEmpty) = true then '\r' :: front else front)
      = if front = [] then [] else r.kept ++ front := by
    unfold kept
    cases front <;> cases r.heldReturn <;> rfl
  unfold receive
  rw [hsaved]
  by_cases hempty : front = []
  · subst hempty
    exact .moved _ [] (r.kept ++ back) rfl nofun (by simp) rfl ⟨back, rfl, hback⟩
  · rw [if_neg hempty, ← List.append_assoc]
    have hne : r.kept ++ front ≠ [] := List.append_ne_nil_of_right_ne_nil _ hempty
    have hfull : (r.kept ++ front).isEmpty = false := List.isEmpty_eq_false_iff.2 hne
    generalize r.kept ++ front = arrived at hne hfull
    simp only [hfull, Bool.false_eq_true, if_false]
    by_cases hlast : arrived.getLast? = some '\r'
    · rw [hlast]
      refine .moved _ arrived.dropLast ('\r' :: back) ?_ nofun rfl rfl ⟨back, rfl, hback⟩
      rw [← List.singleton_append, ← List.append_assoc, List.dropLast_append_getLast? '\r' hlast]
    · have hkept : (arrived.getLast? == some '\r') = false := beq_false_of_ne hlast
      rw [hkept]
      exact .moved _ arrived back rfl (fun h => absurd h hlast) rfl rfl ⟨back, rfl, hback⟩

/-- Taking the next piece from a reader that holds a text comes to this. -/
theorem fill_filling (h : r.Holds text) (wanted : Nat) :
    ∃ next?, r.fill wanted = .ok next? ∧ Filling r text next? := by
  obtain ⟨all, htext, hcompletes⟩ := h
  unfold fill
  dsimp only
  by_cases hpiece : r.rest.take (r.nextSize wanted) = []
  · -- a piece has at least one byte unless there is none
    have hrest : r.rest = [] := by
      have hsize := pieceSize_le_nextSize r wanted
      have hpos : 0 < pieceSize := by decide
      rcases List.take_eq_nil_iff.1 hpiece with hzero | hrest
      · omega
      · exact hrest
    have hend := hcompletes
    rw [hrest] at hend
    obtain ⟨-, d, hfeed⟩ := Decoder.feed_end hend
    rw [hpiece]
    simp only [List.isEmpty_nil, hfeed, if_true]
    exact ⟨_, rfl, release_filling ⟨all, htext, hcompletes⟩ hrest⟩
  · have hsplit := hcompletes
    rw [← List.take_append_drop (r.nextSize wanted) r.rest] at hsplit
    obtain ⟨front, back, d, rfl, hfeed, hback⟩ := Decoder.feed_piece hsplit
    have hfalse : (r.rest.take (r.nextSize wanted)).isEmpty = false := by simpa using hpiece
    simp only [hfalse, hfeed, Bool.false_eq_true, if_false]
    refine ⟨_, rfl, htext ▸ receive_filling ?_⟩
    rwa [List.length_take, ← List.drop_eq_drop_min]

/-- Taking all pieces gathers the rest of the text, with its line ends unified. -/
theorem drainFrom_of_holds (h : r.Holds text) (done : List Char) :
    drainFrom done r = (done.reverse ++ (r.ready ++ r.settle text), none) := by
  have hholds : Holds { r with ready := [] } text := h
  fun_induction drainFrom done r generalizing text with
  | case1 done r gathered fault =>
      rename_i hfill
      obtain ⟨next?, hnext, -⟩ := fill_filling hholds 0
      cases hfill.symm.trans hnext
  | case2 done r gathered =>
      rename_i hfill
      obtain ⟨next?, hnext, hfilling⟩ := fill_filling hholds 0
      cases hfill.symm.trans hnext
      cases hfilling with
      | finished hend => simp [gathered, hend]
  | case3 done r gathered next hfill =>
      rename_i ih
      obtain ⟨next?, hnext, hfilling⟩ := fill_filling hholds 0
      cases hfill.symm.trans hnext
      cases hfilling with
      | moved _ front back htext huntorn hready hunify hback =>
          have hsettle (part : List Char) : next.settle part = r.settle part := by
            rw [settle, hunify, settle]
          have hfront : next.ready = r.settle front := hready
          rw [ih hback hback, hfront, hsettle, htext, ← settle_append huntorn]
          simp [gathered]

/-- A reader of the bytes of a text hands out the text. -/
theorem drain_ofBytes {encoding : Encoding} {data : Bytes} (h : encoding.decode data = .ok text)
    (unify : Bool) :
    (ofBytes encoding data unify).drain = (if unify then unifyLineEnds text else text, none) := by
  have hholds : (ofBytes encoding data unify).Holds text :=
    ⟨text, rfl, Decoder.completes_of_decode h⟩
  rw [drain, drainFrom_of_holds hholds]
  rfl

end TextReader

end InsertScript
