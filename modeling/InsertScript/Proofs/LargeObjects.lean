import InsertScript.Proofs.Cells
import InsertScript.Source.Query

/-!
# Large objects beside plain values

Which texts of a row are delivered as large objects makes no difference to a script
(`sameScript_sifted`): a text is copied into its literal piece by piece or rendered as a whole, and
the two come to the same.

Two exports of the same rows, set apart by different thresholds, run side by side (`Step.Parallel`).
Their sinks are `Sink.Alike`: the same has been written, and the releases agree as far as objects
are concerned that the rows had before. The objects that a source makes are numbered as they are
made, on each side differently; the invariant is that the next one is new on both sides.
-/

namespace InsertScript

open Step (Parallel Respects)
open Monitor (Calm calm_worked)

/-! ### Values that are set apart -/

/-- The plain value that an object stands for. -/
def Content.plain? (content : Content) : Option Value :=
  match content.isText, content.payload with
  | true, .text s => some (.text s)
  | false, .bytes data => some (.bytes data)
  | _, _ => none

namespace Query

/-- The literal of a value that is set apart under some threshold. -/
def literal? (d : Dialect) : Value → Option String
  | .text s => some (d.literal s)
  | .bytes data | .view data => some (d.binaryLiteral data)
  | _ => none

variable {d : Dialect} {threshold : Int} {identity n : Nat} {value : Value}

/-- What becomes of a value: it is kept, or a new object stands for it. Bytes are never kept. -/
inductive Converted (identity : Nat) (value : Value) : Value → Prop where
  | kept (htext : ∀ d text, literal? d value = some text → ∃ s, value = .text s) :
      Converted identity value value
  | apart (plain : Value) (isText : Bool) (payload : Payload) (hvalue : ∀ c, value ≠ .content c)
      (hplain : ({ identity, isText, payload } : Content).plain? = some plain)
      (hliteral : ∀ d, literal? d plain = literal? d value) :
      Converted identity value (.content { identity, isText, payload })

/-- A value is converted in one of these ways, whatever the threshold is. -/
theorem converted (threshold : Int) (identity : Nat) (value : Value) :
    Converted identity value (convert threshold identity value) := by
  have hkept {value : Value} (h : ∀ d, literal? d value = none) : Converted identity value value :=
    .kept fun d text htext => by
      rw [h d] at htext
      cases htext
  cases value with
  | text s =>
      simp only [convert]
      split
      · exact .apart (.text s) _ _ (fun _ => Value.noConfusion) rfl fun _ => rfl
      · exact .kept fun _ _ _ => ⟨s, rfl⟩
  | bytes data => exact .apart (.bytes data) _ _ (fun _ => Value.noConfusion) rfl fun _ => rfl
  | view data => exact .apart (.bytes data) _ _ (fun _ => Value.noConfusion) rfl fun _ => rfl
  | _ => exact hkept fun _ => rfl

/-- A value without such a literal is delivered as it is. -/
theorem convert_of_literal?_eq_none (h : literal? d value = none) :
    convert threshold identity value = value := by
  cases value with
  | text s => cases h
  | bytes data => cases h
  | view data => cases h
  | _ => rfl

theorem le_nextIdentity (value : Value) : identity ≤ nextIdentity identity value := by
  unfold nextIdentity
  split
  · exact Nat.le_succ identity
  · exact Nat.le_refl identity

theorem le_convertCells (threshold : Int) (identity : Nat) (row : Row) :
    identity ≤ (convertCells threshold identity row).2 := by
  induction row generalizing identity with
  | nil => exact Nat.le_refl identity
  | cons value row ih => exact Nat.le_trans (le_nextIdentity _) (ih _)

/-- After a value the next new object is new still. -/
theorem lt_of_mem_release {releases : Releases}
    (hvalue : ∀ c, value = .content c → c.identity < identity)
    (hreleases : ∀ n ∈ releases, n < identity)
    (hn : n ∈ (convert threshold identity value).release releases) :
    n < nextIdentity identity (convert threshold identity value) := by
  have hconverted := converted threshold identity value
  generalize convert threshold identity value = delivered at hn hconverted ⊢
  cases hconverted with
  | kept _ =>
      cases value with
      | content c =>
          rcases List.mem_cons.1 hn with rfl | hn
          · exact Nat.lt_succ_of_lt (hvalue c rfl)
          · exact Nat.lt_succ_of_lt (hreleases n hn)
      | _ => exact hreleases n hn
  | apart plain isText payload _ _ _ =>
      rcases List.mem_cons.1 hn with rfl | hn
      · exact Nat.lt_succ_self _
      · exact Nat.lt_succ_of_lt (hreleases n hn)

/-- How often an object of the rows is released does not depend on which values are set apart. -/
theorem count_release (releases : Releases) (hn : n < identity) :
    ((convert threshold identity value).release releases).count n =
      (value.release releases).count n := by
  have hconverted := converted threshold identity value
  generalize convert threshold identity value = delivered at hconverted ⊢
  cases hconverted with
  | kept _ => rfl
  | apart plain isText payload hvalue _ _ =>
      rw [Value.release_of_ne_content hvalue]
      exact List.count_cons_of_ne (Nat.ne_of_gt hn)

end Query

open Query (convert convertCells nextIdentity deliver)

/-! ### Sinks side by side -/

namespace Sink

/-- Has the same been written, with the same calm monitor, and are the releases of the first `known`
objects the same? The next new objects are the ones with the numbers `i` and `j`. -/
structure Alike (known i j : Nat) (s t : Sink) : Prop where
  output : t.output = s.output
  monitor? : t.monitor? = s.monitor?
  calm : Calm s.monitor?
  count : ∀ n < known, t.releases.count n = s.releases.count n
  le_left : known ≤ i
  le_right : known ≤ j
  new_left : ∀ n ∈ s.releases, n < i
  new_right : ∀ n ∈ t.releases, n < j

namespace Alike

variable {known i j i' j' : Nat} {s t : Sink}

theorem mono (h : Alike known i j s t) (hi : i ≤ i') (hj : j ≤ j') : Alike known i' j' s t :=
  { h with
    le_left := Nat.le_trans h.le_left hi
    le_right := Nat.le_trans h.le_right hj
    new_left := fun n hn => Nat.lt_of_lt_of_le (h.new_left n hn) hi
    new_right := fun n hn => Nat.lt_of_lt_of_le (h.new_right n hn) hj }

/-- A sink is like itself as long as all that has been released was known before. -/
theorem refl {s : Sink} (hcalm : Calm s.monitor?) (hreleases : ∀ n ∈ s.releases, n < known) :
    Alike known known known s s where
  output := rfl
  monitor? := rfl
  calm := hcalm
  count _ _ := rfl
  le_left := Nat.le_refl known
  le_right := Nat.le_refl known
  new_left := hreleases
  new_right := hreleases

/-- An object of the rows holds the same on both sides. -/
theorem payload?_eq {content : Content} (h : Alike known i j s t)
    (hcontent : content.identity < known) :
    content.payload? s.releases = content.payload? t.releases := by
  have hcount : content.releaseCount t.releases = content.releaseCount s.releases := by
    rw [Content.releaseCount, Content.releaseCount, h.count _ hcontent]
  rw [Content.payload?, Content.payload?, Content.isReleased, Content.isReleased, hcount]

end Alike

variable {known i j : Nat}

theorem alike_indifferent (known i j : Nat) : Indifferent (Alike known i j) where
  write text := by
    refine Respects.change fun s t h => ?_
    exact { h with output := by rw [output_add, output_add, h.output] }
  enquire := by
    intro s t h
    have hs := enquire_of_calm (s := s) h.calm
    have ht := enquire_of_calm (s := t) (by rw [h.monitor?]; exact h.calm)
    rw [Step.run_of_ok hs, Step.run_of_ok ht]
    exact ⟨rfl, h⟩

theorem release_alike {content : Content} (hcontent : content.identity < known) :
    Respects (Alike known i j) (release content) := by
  refine Respects.change fun s t h => { h with count := ?_, new_left := ?_, new_right := ?_ }
  · intro n hn
    simp only [List.count_cons, h.count n hn]
  · intro n hn
    rcases List.mem_cons.1 hn with rfl | hn
    · exact Nat.lt_of_lt_of_le hcontent h.le_left
    · exact h.new_left n hn
  · intro n hn
    rcases List.mem_cons.1 hn with rfl | hn
    · exact Nat.lt_of_lt_of_le hcontent h.le_right
    · exact h.new_right n hn

/-- The rows done are counted alike. -/
theorem changeMonitor_alike {f : Monitor → Monitor}
    (hf : ∀ {m? : Option Monitor}, Calm m? → Calm (m?.map f)) :
    Respects (Alike known i j) (changeMonitor f) := by
  refine Respects.change fun s t h => { h with monitor? := ?_, calm := hf h.calm }
  rw [h.monitor?]

end Sink

/-! ### Cells side by side -/

namespace CellWriter

open Sink (Alike alike_indifferent release_alike)

variable {w : CellWriter} {d : Dialect} {column : ExportColumn} {value : Value} {s t : Logged Sink}
  {threshold threshold' : Int} {known identity i j : Nat}

/-- Is it a cell whose large object is one of the known ones, but not the file that the script goes
to, and whose text is not wanted for display? -/
structure Overlooks (w : CellWriter) (known : Nat) (column : ExportColumn) (value : Value) :
    Prop where
  handler? : column.handler? = none
  known : ∀ content, value = .content content → content.identity < known
  foreign : ∀ content, value = .content content → w.ownTarget? content.payload = none
  plain : w.displays column = true → ∀ text, value ≠ .text text

/-- A plain value is written as the styles of the dialect write it. -/
theorem writeValue_style (value : Value) {text : String} (hw : WritesLiterals w d)
    (hcolumn : column.handler? = none) (hdisplays : w.displays column = false)
    (hnull : value ≠ .null) (hcontent : ∀ c, value ≠ .content c) (hpath : ∀ p, value ≠ .path p)
    (hwrite : ∀ style : LiteralStyle, style.dialect = d → style.write .native value = .ok text) :
    ∃ t, w.writeValue column value s = .ok () t ∧ WrittenAs text value s.state t.state := by
  obtain ⟨style, hrenderer, hstyle⟩ := hw.renderer_eq
  have hliteral : (w.literal column value).2 = .ok text := by
    rw [← hwrite style hstyle]
    simp [CellWriter.literal, hcolumn, hrenderer, Renderer.toSql, hdisplays]
  have hwritten := w.writeValue_literal hnull hcontent hpath hliteral s
  rw [hdisplays] at hwritten
  refine ⟨_, hwritten, by simp, ?_, by simp⟩
  rw [Value.release_of_ne_content hcontent, Sink.releases_addAll]

/-- A text or bytes are written as their literal. -/
theorem writeValue_literal? {text : String} (hw : WritesLiterals w d)
    (hcolumn : column.handler? = none) (hdisplays : w.displays column = false)
    (htext : Query.literal? d value = some text) :
    ∃ t, w.writeValue column value s = .ok () t ∧ WrittenAs text value s.state t.state := by
  refine writeValue_style value hw hcolumn hdisplays ?_ ?_ ?_ fun style hstyle => ?_
  · rintro rfl
    cases htext
  · rintro c rfl
    cases htext
  · rintro p rfl
    cases htext
  · subst hstyle
    cases value with
    | text s => exact congrArg Except.ok (Option.some.inj htext)
    | bytes data => exact congrArg Except.ok (Option.some.inj htext)
    | view data => exact congrArg Except.ok (Option.some.inj htext)
    | _ => cases htext

/-- An object that is open is written as the literal of its plain value. -/
theorem writeValue_plain? {content : Content} {text : String} (hw : WritesLiterals w d)
    (hcolumn : column.handler? = none) (hcalm : Calm s.state.monitor?)
    (hplain : content.plain? = some value) (havailable : content.unavailable = none)
    (hopen : content.isReleased s.state.releases = false)
    (htext : Query.literal? d value = some text) :
    ∃ t, w.writeValue column (.content content) s = .ok () t ∧
      WrittenAs text (.content content) s.state t.state := by
  have hstream : column.handler?.bind (·.stream?) = none := by rw [hcolumn]; rfl
  unfold Content.plain? at hplain
  split at hplain
  · rename_i characters hkind hpayload
    cases hplain
    cases htext
    have hspells : content.payload.Spells content.encoding characters := by rw [hpayload]; rfl
    exact w.writeContentSafely_text hw.dialect?_eq hstream hcalm hkind hspells havailable hopen
  · rename_i data hkind hpayload
    cases hplain
    cases htext
    refine ⟨_, writeContentSafely_bytes hstream hkind hpayload havailable hopen, ?_, rfl, rfl⟩
    rw [hw.binaryDialect_eq]
    rfl
  · cases hplain

/-- Whether a value is set apart does not show in what is written. -/
theorem writeValue_convert {text : String} (threshold : Int) (hw : WritesLiterals w d)
    (hcolumn : column.handler? = none)
    (hdisplayed : w.displays column = true → ∀ text, value ≠ .text text)
    (hcalm : Calm s.state.monitor?) (hnew : ∀ n ∈ s.state.releases, n < identity)
    (htext : Query.literal? d value = some text) :
    ∃ t, w.writeValue column (convert threshold identity value) s = .ok () t ∧
      WrittenAs text (convert threshold identity value) s.state t.state := by
  have hconverted := Query.converted threshold identity value
  generalize convert threshold identity value = delivered at hconverted ⊢
  cases hconverted with
  | kept hkept =>
      obtain ⟨characters, rfl⟩ := hkept d text htext
      have hdisplays : w.displays column = false := by
        cases h : w.displays column with
        | false => rfl
        | true => exact absurd rfl (hdisplayed h characters)
      exact writeValue_literal? hw hcolumn hdisplays htext
  | apart plain isText payload _ hplain hliteral =>
      have hopen : ({ identity, isText, payload } : Content).isReleased s.state.releases =
          false := by
        have hunused : identity ∉ s.state.releases :=
          fun hmem => absurd (hnew _ hmem) (Nat.lt_irrefl identity)
        simp [Content.isReleased, Content.releaseCount, List.count_eq_zero_of_not_mem hunused]
      exact writeValue_plain? hw hcolumn hcalm hplain rfl hopen ((hliteral d).trans htext)

/-- Two sinks in which a value has been written as the same text are alike still. -/
theorem WrittenAs.alike {text : String} {s t s' t' : Sink} (hst : Alike known i j s t)
    (hvalue : ∀ content, value = .content content → content.identity < known)
    (hs : WrittenAs text (convert threshold i value) s s')
    (ht : WrittenAs text (convert threshold' j value) t t') :
    Alike known (nextIdentity i (convert threshold i value))
      (nextIdentity j (convert threshold' j value)) s' t' where
  output := by rw [ht.output, hs.output, hst.output]
  monitor? := by rw [ht.monitor?, hs.monitor?, hst.monitor?]
  calm := by
    rw [hs.monitor?]
    exact hst.calm
  count n hn := by
    rw [hs.releases, ht.releases, Query.count_release _ (Nat.lt_of_lt_of_le hn hst.le_left),
      Query.count_release _ (Nat.lt_of_lt_of_le hn hst.le_right)]
    cases value with
    | content c => simp only [Value.release, List.count_cons, hst.count n hn]
    | _ => exact hst.count n hn
  le_left := Nat.le_trans hst.le_left (Query.le_nextIdentity _)
  le_right := Nat.le_trans hst.le_right (Query.le_nextIdentity _)
  new_left n hn := by
    rw [hs.releases] at hn
    exact Query.lt_of_mem_release (fun c hc => Nat.lt_of_lt_of_le (hvalue c hc) hst.le_left)
      hst.new_left hn
  new_right n hn := by
    rw [ht.releases] at hn
    exact Query.lt_of_mem_release (fun c hc => Nat.lt_of_lt_of_le (hvalue c hc) hst.le_right)
      hst.new_right hn

/-- A value is written alike under two thresholds. -/
theorem writeValue_parallel (hw : WritesLiterals w d) (hcell : w.Overlooks known column value) :
    Parallel (Alike known i j)
      (Alike known (nextIdentity i (convert threshold i value))
        (nextIdentity j (convert threshold' j value)))
      (w.writeValue column (convert threshold i value))
        (w.writeValue column (convert threshold' j value)) := by
  cases htext : Query.literal? d value with
  | some text =>
      intro s t hst
      have hcalm : Calm t.state.monitor? := by rw [hst.monitor?]; exact hst.calm
      obtain ⟨s', hs, hwritten⟩ :=
        writeValue_convert (s := s) threshold hw hcell.handler? hcell.plain
        hst.calm hst.new_left htext
      obtain ⟨t', ht, hwritten'⟩ :=
        writeValue_convert (s := t) threshold' hw hcell.handler? hcell.plain
        hcalm hst.new_right htext
      rw [Step.run_of_ok hs, Step.run_of_ok ht]
      exact ⟨rfl, hwritten.alike hst hcell.known hwritten'⟩
  | none =>
      -- it is the same value on both sides
      rw [Query.convert_of_literal?_eq_none htext, Query.convert_of_literal?_eq_none htext]
      have hsame : Respects (Alike known i j) (w.writeValue column value) := by
        have hindifferent := alike_indifferent known i j
        refine hindifferent.writeValue fun content hcontent => ?_
        have hpayload := hindifferent.writePayload content (hcell.foreign content hcontent)
        have hwrites := hindifferent.writeContent column hpayload
          fun _ _ hst => hst.payload?_eq (hcell.known content hcontent)
        exact Sink.Indifferent.writeContentSafely hwrites
          (release_alike (hcell.known content hcontent))
      exact Parallel.weaken hsame fun _ _ h => h.mono (Query.le_nextIdentity value)
        (Query.le_nextIdentity value)

/-- A value that is left out is released alike under two thresholds. -/
theorem releaseSkipped_parallel
    (hvalue : ∀ content, value = .content content → content.identity < known) :
    Parallel (Alike known i j)
      (Alike known (nextIdentity i (convert threshold i value))
        (nextIdentity j (convert threshold' j value)))
      (releaseSkipped (convert threshold i value))
        (releaseSkipped (convert threshold' j value)) := by
  intro s t hst
  rw [Step.run_of_ok (releaseSkipped_apply _ s), Step.run_of_ok (releaseSkipped_apply _ t)]
  have hs : WrittenAs "" (convert threshold i value) s.state
      { s.state with releases := (convert threshold i value).release s.state.releases } :=
        ⟨by simp, rfl, rfl⟩
  have ht : WrittenAs "" (convert threshold' j value) t.state
      { t.state with releases := (convert threshold' j value).release t.state.releases } :=
        ⟨by simp, rfl, rfl⟩
  exact ⟨rfl, hs.alike hst hvalue ht⟩

/-- The cells of a row come to the same, whatever is set apart. -/
theorem writeCells_parallel (hw : WritesLiterals w d) (threshold threshold' : Int)
    {columns : List ExportColumn} {row : Row}
    (hcells : ∀ cell ∈ columns.zip row, w.Overlooks known cell.1 cell.2) (started : Bool)
    (i j : Nat) :
    Parallel (Alike known i j)
      (Alike known (convertCells threshold i row).2 (convertCells threshold' j row).2)
      (w.writeCells started (columns.zip (convertCells threshold i row).1))
      (w.writeCells started (columns.zip (convertCells threshold' j row).1)) := by
  induction row generalizing columns started i j with
  | nil =>
      simp only [convertCells, List.zip_nil_right]
      exact Respects.pure ()
  | cons value row ih =>
      cases columns with
      | nil =>
          -- values without a column are numbered all the same
          simp only [List.zip_nil_left]
          exact Parallel.weaken (Respects.pure ()) fun _ _ h =>
            h.mono (Query.le_convertCells threshold i _) (Query.le_convertCells threshold' j _)
      | cons column columns =>
          have hcell := hcells (column, value) List.mem_cons_self
          have hrest :=
            fun started => ih (fun cell hcell => hcells cell (List.mem_cons_of_mem _ hcell)) started
            (nextIdentity i (convert threshold i value))
              (nextIdentity j (convert threshold' j value))
          have hlater : ∀ s t : Sink, Alike known (nextIdentity i (convert threshold i value))
              (nextIdentity j (convert threshold' j value)) s t →
              Alike known (convertCells threshold i (value :: row)).2
                (convertCells threshold' j (value :: row)).2 s t :=
            fun _ _ h => h.mono (Query.le_convertCells threshold _ row)
              (Query.le_convertCells threshold' _ row)
          simp only [convertCells, List.zip_cons_cons, writeCells_cons]
          by_cases hskip : w.skips column = true
          · rw [if_pos hskip, if_pos hskip]
            exact (releaseSkipped_parallel hcell.known).bind (fun _ => hrest started) hlater
          · rw [if_neg hskip, if_neg hskip]
            refine Parallel.bind ((alike_indifferent known i j).comma started)
                (fun _ => ?_) fun _ _ h =>
              hlater _ _ (h.mono (Query.le_nextIdentity _) (Query.le_nextIdentity _))
            exact (writeValue_parallel hw hcell).bind (fun _ => hrest true) hlater

end CellWriter

/-! ### Rows side by side -/

/-- Are two exports of the same columns in the same session, and their sinks alike? -/
structure ExportState.Alike (columns : List ExportColumn) (renderer : Renderer) (known i j : Nat)
    (s t : ExportState) : Prop where
  sink : s.sink.Alike known i j t.sink
  same : t = { s with sink := t.sink }
  columns : s.session.columns = columns
  renderer : s.renderer = renderer

namespace Exporter

open Sink (alike_indifferent changeMonitor_alike)

variable {e : Exporter} {d : Dialect} {columns : List ExportColumn} {renderer : Renderer}
  {known i j i' j' : Nat} {threshold threshold' : Int}

theorem onSink_parallel {α : Type} {step step' : Step Sink α}
    (h : Parallel (Sink.Alike known i j) (Sink.Alike known i' j') step step') :
    Parallel (ExportState.Alike columns renderer known i j)
      (ExportState.Alike columns renderer known i' j') (onSink step) (onSink step') := by
  refine h.zoom (fun a b hab => hab.sink) fun a b x y hab hxy => ?_
  exact { hab with sink := hxy, same := by rw [hab.same] }

theorem writeAll_alike (texts : List String) :
    Respects (ExportState.Alike columns renderer known i j) (onSink (Sink.writeAll texts)) :=
  onSink_parallel ((alike_indifferent known i j).writeAll texts)

/-- A row is written alike under two thresholds, although its objects count differently. -/
theorem row_parallel {cells : Row} (hw : (e.cellWriter renderer).WritesLiterals d)
    (threshold threshold' : Int)
    (hcells : ∀ cell ∈ columns.zip cells, (e.cellWriter renderer).Overlooks known cell.1 cell.2)
    (i j : Nat) :
    Parallel (ExportState.Alike columns renderer known i j)
      (ExportState.Alike columns renderer known (convertCells threshold i cells).2
        (convertCells threshold' j cells).2)
      (e.row (convertCells threshold i cells).1) (e.row (convertCells threshold' j cells).1) := by
  have hlater : ∀ s t : ExportState, ExportState.Alike columns renderer known i j s t →
      ExportState.Alike columns renderer known (convertCells threshold i cells).2
        (convertCells threshold' j cells).2 s t :=
    fun _ _ h => { h with
      sink := h.sink.mono (Query.le_convertCells threshold i cells)
        (Query.le_convertCells threshold' j cells) }
  unfold row
  refine Parallel.current_bind fun a b hab => ?_
  have hsession : b.session = a.session := by rw [hab.same]
  have hrenderer : b.renderer = renderer := by rw [hab.same, hab.renderer]
  rw [hsession, hrenderer, hab.renderer, hab.columns]
  refine Parallel.bind (writeAll_alike _) (fun _ => ?_) hlater
  have hcount : Respects (ExportState.Alike columns renderer known i j)
      (Step.change fun state => { state with session := e.countRow state.session }) :=
    Respects.change fun a b hab => { hab with same := by rw [hab.same], columns := hab.columns }
  refine Parallel.bind hcount (fun _ => ?_) hlater
  have hwrite := CellWriter.writeCells_parallel hw threshold threshold' hcells false i j
  exact (onSink_parallel hwrite).bind (fun _ => writeAll_alike _) fun _ _ h => h

/-- A row that is written alike is taken alike: the monitors answer the same. -/
theorem takeRow_parallel {cells cells' : Row} (hi : i ≤ i') (hj : j ≤ j')
    (hrow : Parallel (ExportState.Alike columns renderer known i j)
      (ExportState.Alike columns renderer known i' j') (e.row cells) (e.row cells')) :
    Parallel (ExportState.Alike columns renderer known i j)
      (ExportState.Alike columns renderer known i' j') (e.takeRow cells) (e.takeRow cells') := by
  have hlater : ∀ s t : ExportState, ExportState.Alike columns renderer known i j s t →
      ExportState.Alike columns renderer known i' j' s t :=
        fun _ _ h => { h with sink := h.sink.mono hi hj }
  unfold takeRow
  refine Parallel.bind (onSink_parallel (alike_indifferent known i j).enquire)
    (fun stop => ?_) hlater
  cases stop with
  | true =>
      refine Parallel.current_bind fun a b hab => Parallel.weaken ?_ hlater
      exact fun s t hst => ⟨rfl, hst⟩
  | false =>
      have hworked : Respects (Sink.Alike known i' j') (Sink.changeMonitor (·.worked 1)) :=
        changeMonitor_alike fun hcalm => calm_worked hcalm 1
      refine hrow.bind (fun _ => ?_) fun _ _ h => h
      exact Respects.bind (onSink_parallel hworked) fun _ => Respects.pure true

/-- Rows come to the same, whatever is set apart. A failure ends them in the same place. -/
theorem rows_parallel (hw : (e.cellWriter renderer).WritesLiterals d) (threshold threshold' : Int)
    {rows : List (Except Failure Row)}
    (hrows : ∀ row, .ok row ∈ rows → ∀ cell ∈ columns.zip row,
      (e.cellWriter renderer).Overlooks known cell.1 cell.2) (i j : Nat) :
    Parallel (ExportState.Alike columns renderer known i j)
      (fun s t => ∃ k : Nat × Nat, ExportState.Alike columns renderer known k.1 k.2 s t)
      (e.rows (deliver threshold i rows)) (e.rows (deliver threshold' j rows)) := by
  induction rows generalizing i j with
  | nil => exact fun s t hst => ⟨rfl, (i, j), hst⟩
  | cons row rows ih =>
      cases row with
      | error failure => exact fun s t hst => ⟨rfl, (i, j), hst⟩
      | ok cells =>
          have hrow := row_parallel hw threshold threshold' (hrows cells List.mem_cons_self) i j
          have htake := takeRow_parallel (Query.le_convertCells threshold i cells)
            (Query.le_convertCells threshold' j cells) hrow
          simp only [deliver, Exporter.rows]
          refine htake.bind (fun more => ?_) fun _ _ h => ⟨(_, _), h⟩
          cases more with
          | true => exact ih (fun row hrow => hrows row (List.mem_cons_of_mem _ hrow)) _ _
          | false => exact fun s t hst => ⟨rfl, (_, _), hst⟩

end Exporter

/-! ### Scripts side by side -/

/-- A source whose rows are gathered first, and delivered with what a threshold sets apart. The
first new object gets the number `first`. -/
def RowSource.sifted {σ : Type} (source : RowSource σ) (gather : Step σ (List (Except Failure Row)))
    (first : List (Except Failure Row) → Nat) (threshold : Int) : RowSource σ :=
  { source with start := gather >>= fun rows => pure (deliver threshold (first rows) rows) }

/-- Is it an export that has released nothing yet, with the usual literals and no one to cancel
it? -/
structure ExportState.IsFresh (style : LiteralStyle) (state : ExportState) : Prop where
  renderer : state.renderer = .literals style
  releases : state.sink.releases = []
  calm : Calm state.sink.monitor?

namespace Exporter

open Sink (alike_indifferent)

variable {σ : Type} {e : Exporter} {d : Dialect} {style : LiteralStyle}
  {columns : List ExportColumn} {renderer : Renderer} {known i j : Nat} {source : RowSource σ}

/-- Have two exports the same outcome, and have they written the same text? -/
def SameScript (x y : Except Failure ExportResult × Logged (Sourced σ)) : Prop :=
  x.1 = y.1 ∧ x.2.state.1.sink.output = y.2.state.1.sink.output

/-- Are the exports related, and is their source in the same state? -/
def Together (r : ExportState → ExportState → Prop) (a b : Sourced σ) : Prop :=
  r a.1 b.1 ∧ b.2 = a.2

variable {r r' : ExportState → ExportState → Prop}

theorem onExport_parallel {α : Type} {step step' : Step ExportState α}
    (h : Parallel r r' step step') :
    Parallel (Together (σ := σ) r) (Together r') (onExport step) (onExport step') :=
  h.zoom (fun _ _ hab => hab.1) fun _ _ _ _ hab hxy => ⟨hxy, hab.2⟩

theorem onSource_respects {α : Type} {step : Step σ α} (h : Respects Eq step) :
    Respects (Together r) (onSource step) :=
  h.zoom (fun _ _ hab => hab.2.symm) fun _ _ _ _ hab hxy => ⟨hab.1, hxy.symm⟩

theorem footer_respects : Respects (ExportState.Alike columns renderer known i j) e.footer := by
  unfold footer
  refine Respects.current_bind (fun a b hab => by rw [hab.same]) fun state => ?_
  dsimp only
  split
  · exact Respects.pure ()
  · exact (writeAll_alike _).bind fun _ => Respects.note _

theorem finish_respects (tableName : String) :
    Respects (Together (σ := σ) (ExportState.Alike columns renderer known i j))
      (e.finish tableName) := by
  unfold finish
  refine Respects.bind (onExport_parallel footer_respects) fun _ => ?_
  have henquire : Respects (ExportState.Alike columns renderer known i j) (onSink Sink.enquire) :=
    onSink_parallel (alike_indifferent known i j).enquire
  refine Respects.bind (onExport_parallel henquire) fun isCancelled => ?_
  refine Respects.current_bind (fun a b hab => by rw [hab.1.same]) fun both => ?_
  exact (Respects.note _).bind fun _ => Respects.pure _

/-- What an export does with its deliveries, and afterwards. -/
def complete (e : Exporter) (source : RowSource σ) (deliveries : List Delivery)
    (tableName : String) : Step (Sourced σ) ExportResult :=
  Step.ensuring (onExport (e.rows deliveries)) (onSource source.stop) >>= fun _ =>
    e.finish tableName

theorem script_sifted (source : RowSource σ) (gather : Step σ (List (Except Failure Row)))
    (first : List (Except Failure Row) → Nat) (threshold : Int) :
    e.script (source.sifted gather first threshold) = e.prepare source >>= fun tableName =>
      onSource gather >>= fun rows => e.complete source
        (deliver threshold (first rows) rows) tableName := by
  have hrows : e.rowsOf (source.sifted gather first threshold) = onSource gather >>= fun rows =>
      Step.ensuring (onExport (e.rows (deliver threshold (first rows) rows)))
        (onSource source.stop) :=
    Step.zoom_pure_bind _ _ gather _ _
  rw [script_eq, hrows]
  simp only [bind_assoc]
  rfl

/-- A script is completed alike from the rows as two thresholds deliver them. -/
theorem complete_parallel (hw : (e.cellWriter renderer).WritesLiterals d)
    (threshold threshold' : Int) {rows : List (Except Failure Row)}
    (hrows : ∀ row, .ok row ∈ rows → ∀ cell ∈ columns.zip row,
      (e.cellWriter renderer).Overlooks known cell.1 cell.2)
    (hstop : Respects Eq source.stop) (tableName : String) (i j : Nat) :
    Parallel (Together (ExportState.Alike columns renderer known i j))
      (fun a b => ∃ k : Nat × Nat, Together (ExportState.Alike columns renderer known k.1 k.2) a b)
      (e.complete source (deliver threshold i rows) tableName)
      (e.complete source (deliver threshold' j rows) tableName) := by
  have hwritten : Parallel (Together (σ := σ) (ExportState.Alike columns renderer known i j))
      (fun a b => ∃ k : Nat × Nat, Together (ExportState.Alike columns renderer known k.1 k.2) a b)
      (onExport (e.rows (deliver threshold i rows)))
        (onExport (e.rows (deliver threshold' j rows))) := by
    refine (onExport_parallel (rows_parallel hw threshold threshold' hrows i j)).weaken ?_
    rintro a b ⟨⟨k, hk⟩, hsource⟩
    exact ⟨k, hk, hsource⟩
  have hstopped := Respects.exists_of_forall fun k : Nat × Nat =>
    onSource_respects (r := ExportState.Alike columns renderer known k.1 k.2) hstop
  exact (hwritten.ensuring hstopped).bind
    (fun _ => Respects.exists_of_forall fun _ => finish_respects tableName) fun _ _ h => h

/-- What an export has found out about its source before the rows. -/
theorem prepare_inv {s s' : Logged (Sourced σ)} {tableName : String}
    (h : e.prepare source s = .ok tableName s') :
    ∃ log columns found? u u', source.columns { log, state := s.state.2 } = .ok columns u ∧
      e.findTable source u = .ok found? u' ∧
      s'.state = ((e.begun columns found? { log := s.log, state := s.state.1 }).state,
        u'.state) := by
  obtain ⟨_, s₁, hremark, h⟩ := Step.ok_of_bind h
  rw [Step.noteAll_apply] at hremark
  cases hremark
  obtain ⟨columns, s₂, hasked, h⟩ := Step.ok_of_bind h
  obtain ⟨u, hcolumns, rfl⟩ := Step.ok_of_zoom hasked
  obtain ⟨found?, s₃, hasked', h⟩ := Step.ok_of_bind h
  obtain ⟨u', hfind, rfl⟩ := Step.ok_of_zoom hasked'
  cases h
  exact ⟨_, columns, found?, u, u', hcolumns, hfind, rfl⟩

/-- A threshold makes no difference if no cell of the gathered rows sees one. -/
theorem sameScript_sifted (source : RowSource σ) {gather : Step σ (List (Except Failure Row))}
    {first : List (Except Failure Row) → Nat} {s : Logged (Sourced σ)}
    (hdialect : e.dialect? = some d) (hstyle : style.dialect = d)
    (hfresh : s.state.1.IsFresh style) (hstop : Respects Eq source.stop)
    (hrows : ∀ log log' columns found? rows u u' v, source.columns { log, state := s.state.2 } =
      .ok columns u →
      e.findTable source u = .ok found? u' →
      gather { log := log', state := u'.state } = .ok rows v →
      ∀ renderer row, .ok row ∈ rows → ∀ cell ∈ columns.zip row,
        (e.cellWriter renderer).Overlooks (first rows) cell.1 cell.2) (threshold threshold' : Int) :
    SameScript ((e.script (source.sifted gather first threshold)).run s)
      ((e.script (source.sifted gather first threshold')).run s) := by
  rw [script_sifted, script_sifted]
  refine Step.run_bind_congr (fun _ => ⟨rfl, rfl⟩) fun tableName s₁ hprepare => ?_
  refine Step.run_bind_congr (fun _ => ⟨rfl, rfl⟩) fun rows s₂ hgathered => ?_
  obtain ⟨log, columns, found?, u, u', hcolumns, hfind, hbegun⟩ := prepare_inv hprepare
  obtain ⟨v, hgather, rfl⟩ := Step.ok_of_zoom hgathered
  rw [hbegun] at hgather ⊢
  have hwriter := CellWriter.WritesLiterals.of_exporter hdialect hfresh.renderer hstyle
  have hcells := hrows _ _ columns found? rows u u' v hcolumns hfind hgather
    (if e.settings.nativeFormat then s.state.1.renderer.useNative else s.state.1.renderer)
  -- nothing has been written since the session began
  have hsink : Sink.Alike (first rows) (first rows) (first rows) s.state.1.sink s.state.1.sink := by
    refine Sink.Alike.refl hfresh.calm fun n hn => ?_
    rw [hfresh.releases] at hn
    cases hn
  have hbegun : ExportState.Alike columns
      (if e.settings.nativeFormat then s.state.1.renderer.useNative else s.state.1.renderer)
        (first rows)
      (first rows) (first rows) (e.begun columns found? { log := s.log, state := s.state.1 }).state
      (e.begun columns found? { log := s.log, state := s.state.1 }).state := ⟨hsink, rfl, rfl, rfl⟩
  obtain ⟨houtcome, k, hends, -⟩ :=
    complete_parallel hwriter threshold threshold' hcells hstop tableName _ _
    { log := v.log, state := (_, v.state) } { log := v.log, state := (_, v.state) } ⟨hbegun, rfl⟩
  exact ⟨houtcome, hends.sink.output.symm⟩

end Exporter

end InsertScript
